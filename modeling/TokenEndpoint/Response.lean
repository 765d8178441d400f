import TokenEndpoint.Failure
import TokenEndpoint.Json.Reader
import TokenEndpoint.Text.Lowercase
/-!
Responses of a token endpoint, as they came over the transport.
-/

namespace TokenEndpoint

structure Response where
  status : Int
  headers : List (String × String) := []
  body : String := ""
  deriving DecidableEq, Repr

namespace Response

def success : Int := 200

def badRequest : Int := 400

/-- The value of the first header of a name, whatever the case of its letters. -/
def header? (r : Response) (name : String) : Option String :=
  (r.headers.find? fun h => Text.lower h.1 == Text.lower name).map (·.2)

/-- The body as a JSON object. -/
def object (room : Nat) (r : Response) : Except Failure JsonObject :=
  match Json.read room r.body with
  | .error halt => .error (halt.failure .bodyNotJson)
  | .ok (.object members) => .ok members
  | .ok other => .error (.transport (.bodyNotObject other.kind))

end Response

end TokenEndpoint
