import TokenEndpoint.Text.Blank
/-!
Scopes. The scopes of a caller come first, then the reserved ones; each is trimmed, blank ones are
dropped, and a scope that is already there is not repeated.
-/

namespace TokenEndpoint.Scope

/-- Requested with every user grant, so that the answer carries an ID token, client info and a
refresh token. -/
def common : List String := ["openid", "profile", "offline_access"]

/-- Adds a scope at the end unless it is blank or already there. -/
def add (merged : List String) (scope : String) : List String :=
  let scope := Text.trim scope
  if scope.isEmpty || merged.contains scope then merged else merged ++ [scope]

def mergeList (scopes reserved : List String) : List String :=
  (scopes ++ reserved).foldl add []

/-- The scope parameter. -/
def merge (scopes reserved : List String) : String :=
  String.intercalate " " (mergeList scopes reserved)

end TokenEndpoint.Scope
