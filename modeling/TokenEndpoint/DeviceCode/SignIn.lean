import TokenEndpoint.DeviceCode.Polling
/-!
Signing in with a device code: the variables of the environment name code and client, the loop polls
at the common authority of all organizations, and a few lines tell the user how it ended. What cannot
be told is a failure after the lines before it.
-/

namespace TokenEndpoint.DeviceCode

def organizationsUrl : String := "https://login.microsoftonline.com/organizations"

/-- The last value that the environment gives to a name. -/
def lookUp (environment : List (String × String)) (name : String) : Except Failure String :=
  match (Fields.ofPairs environment).get? name with
  | some value => .ok value
  | none => .error (.missingVariable name)

/-- A line in the log for every record. -/
def recordEntry (record : Record) : LogEntry :=
  ⟨.polling, .info,
    "token request " ++ record.path.getD "None" ++ " -> " ++
      ((record.status.map toString).getD "None") ++ " (" ++
      (match record.errorCode with
        | some code => if code.isEmpty then "ok" else code
        | none => "ok") ++ ")"⟩

def loggingSink (number : Nat) : Sink :=
  { number, react := fun record => { entries := [recordEntry record] } }

/-- The lines that the user reads, and the failure that ends them if there is one. -/
structure Message where
  lines : List Text := []
  failure : Option Failure := none

def userLine (result : Result) : Text :=
  Text.ofString "Signed in as " ++ match result.account with
    | some account => account.username.displayLetters
    | none => "unknown"

/-- The second line has to write the time of expiry. -/
def welcome (result : Result) : Message :=
  match Decimal.wholeText? result.expiresOn with
  | some seconds => { lines := [userLine result, "Access token expires at " ++ seconds] }
  | none => { lines := [userLine result], failure := some .unwritableInt }

def interactiveLine (claims : Option Text) : Text :=
  "Sign in interactively; claims challenge: " ++ claims.getD "None"

def refusedLine (refusal : Refusal) : Text :=
  "Token endpoint refused the request: " ++ refusal.code ++ " (" ++
    refusal.description.getD "None" ++ ")"

/-- What the user reads about an outcome. A pending sign-in and a fault that is no refusal are not
explained but passed on. -/
def explain : Except Failure Result → Message
  | .ok result => welcome result
  | .error (.refused refusal) =>
    match refusal.kind with
    | .interactionRequired claims => { lines := [interactiveLine claims] }
    | .service => { lines := [refusedLine refusal] }
    | .pending => { failure := some (.refused refusal) }
  | .error failure => { failure := some failure }

/-- How a sign-in went: the message for the user, none yet while the loop is polling. -/
structure SignIn where
  message : Option Message
  ids : IdSupply
  trace : Trace := []

def signIn (environment : List (String × String)) (ids : IdSupply) (first : Decimal.Number)
    (turns : List Turn) : SignIn :=
  let prepared : Except Failure (Exchanger × Settings × Authority × String × String) := do
    let settings ← Settings.ofSources { environment }
    let e ← Exchanger.create settings none
    let authority ← Authority.ofUrl organizationsUrl none
    let deviceCode ← lookUp environment "DEVICE_CODE"
    let clientId ← lookUp environment "CLIENT_ID"
    return (e.addSink (loggingSink 0), settings, authority, deviceCode, clientId)
  match prepared with
  | .error failure => { message := some { failure := some failure }, ids }
  | .ok (e, settings, authority, deviceCode, clientId) =>
    let course := poll e settings ids authority deviceCode clientId first turns
    { message := match course.progress with
        | .polling => none
        | .ended outcome => some (explain outcome)
      ids := course.ids
      trace := course.trace }

end TokenEndpoint.DeviceCode
