/-!
Integers as decimal text. An integer of more than `digitLimit` digits has no text: it is not read, and
it cannot be written (`wholeText?`).
-/

namespace TokenEndpoint.Decimal

def digitLimit : Nat := 4300

/-- The digits with the sign, if they are not too many. A sign is no digit. -/
def wholeText? (i : Int) : Option String :=
  if i.natAbs < Nat.pow 10 digitLimit then some (toString i) else none

end TokenEndpoint.Decimal
