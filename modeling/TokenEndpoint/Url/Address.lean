import TokenEndpoint.Text.Blank
/-!
IP addresses, as far as a bracketed host has to be one: which texts write an IPv4 address and which
an IPv6 address, with an optional scope after `%`.
-/

namespace TokenEndpoint.Url

/-! ## 1. Four octets -/

def isOctet (s : List Char) : Bool :=
  !s.isEmpty && s.all Char.isDigit && s.length ≤ 3 && (s == ['0'] || s.head? != some '0') &&
    s.foldl (fun n c => n * 10 + (c.toNat - 48)) 0 ≤ 255

def isIPv4 (s : List Char) : Bool :=
  let octets := Text.splitOn '.' s
  octets.length == 4 && octets.all isOctet

/-! ## 2. Eight groups -/

def isHexDigit (c : Char) : Bool :=
  c.isDigit || ('a' ≤ c && c ≤ 'f') || ('A' ≤ c && c ≤ 'F')

def isGroup (s : List Char) : Bool :=
  s.all isHexDigit && s.length ≤ 4

/-- An address at the end in the form of four octets counts as two groups. -/
def withoutOctets (groups : List (List Char)) : Option (List (List Char)) :=
  match groups.getLast? with
  | some last =>
    if last.contains '.' then
      if isIPv4 last then some (groups.dropLast ++ [['0'], ['0']]) else none
    else some groups
  | none => some groups

/-- The positions of the empty groups that have a group on either side. -/
def innerGaps (groups : List (List Char)) : List Nat :=
  (List.range groups.length).filter fun i =>
    0 < i && i + 1 < groups.length && (groups[i]?.getD []).isEmpty

/-- Without a gap there are eight groups; with one, at most seven, and an empty group at an end is
the other half of the gap there. -/
def groupsFit (groups : List (List Char)) : Bool :=
  let first := groups.head?.getD []
  let last := groups.getLast?.getD []
  match innerGaps groups with
  | [] => groups.length == 8 && !first.isEmpty && !last.isEmpty && groups.all isGroup
  | [gap] =>
    let left := groups.take gap
    let right := groups.drop (gap + 1)
    (!first.isEmpty || left.length == 1) && (!last.isEmpty || right.length == 1) &&
      (left ++ right).countP (fun g => !g.isEmpty) ≤ 7 && (left ++ right).all isGroup
  | _ => false

def isIPv6 (s : List Char) : Bool :=
  let (address, scope) := Text.cut '%' s
  let scopeFits := match scope with
    | none => true
    | some z => !z.isEmpty && !z.contains '%'
  let groups := Text.splitOn ':' address
  !s.contains '/' && scopeFits && 3 ≤ groups.length &&
    match withoutOctets groups with
    | some groups => groups.length ≤ 9 && groupsFit groups
    | none => false

end TokenEndpoint.Url
