/-!
Letters of a text that came through an escape. Such a text may hold half of a surrogate pair,
which no `Char` can be; `Text` keeps it, and `Text.toString` shows it as U+FFFD. A string is a text
of characters.
-/

namespace TokenEndpoint

/-- A Unicode scalar value, or the lone surrogate U+D800 + `n`. -/
inductive Letter where
  | plain (c : Char)
  | lone (n : Fin 2048)
  deriving DecidableEq, Repr

/-- A text whose letters may be lone surrogates. -/
abbrev Text := List Letter

namespace Letter

def toNat : Letter → Nat
  | plain c => c.toNat
  | lone n => 0xd800 + n.val

/-- The first half of a surrogate pair. -/
def isHigh : Letter → Bool
  | plain _ => false
  | lone n => n.val < 1024

/-- The second half of a surrogate pair. -/
def isLow : Letter → Bool
  | plain _ => false
  | lone n => 1024 ≤ n.val

/-- The letter that a 16-bit unit stands for by itself. -/
def ofUnit (u : UInt16) : Letter :=
  if h : 0xd800 ≤ u.toNat ∧ u.toNat < 0xe000 then lone ⟨u.toNat - 0xd800, by omega⟩
  else plain (Char.ofNat u.toNat)

def toChar : Letter → Char
  | plain c => c
  | lone _ => '\ufffd'

/-- A character of a kind; a lone surrogate is of none. -/
def isChar (fits : Char → Bool) : Letter → Bool
  | plain c => fits c
  | lone _ => false

end Letter

/-- A run of letters that an encoding has no octets for, from `first` to `last`. -/
structure EncodeFault where
  /-- The number of the first of them. -/
  code : Nat
  first : Nat
  last : Nat
  deriving DecidableEq, Repr

namespace Text

def ofString (s : String) : Text :=
  s.toList.map .plain

instance : Coe String Text := ⟨ofString⟩

def toString (t : Text) : String :=
  String.ofList (t.map Letter.toChar)

/-- The characters of a text without lone surrogates. -/
def chars? (t : Text) : Option (List Char) :=
  t.mapM fun
    | .plain c => some c
    | .lone _ => none

theorem chars?_map_plain (s : List Char) : chars? (s.map .plain) = some s := by
  induction s with
  | nil => rfl
  | cons c rest ih =>
    rw [chars?] at ih ⊢
    rw [List.map_cons, List.mapM_cons, ih]
    rfl

/-- The characters of a text all of whose letters are of a kind, else the first run of letters that
are not; `offset` letters stand before the text. -/
def charsOf (fits : Char → Bool) (offset : Nat) : Text → Except EncodeFault (List Char)
  | [] => .ok []
  | .plain c :: r =>
    if fits c then (charsOf fits (offset + 1) r).map (c :: ·) else .error (fault (.plain c) r)
  | .lone n :: r => .error (fault (.lone n) r)
where
  fault (l : Letter) (r : Text) : EncodeFault :=
    { code := l.toNat, first := offset
      last := offset + (r.takeWhile fun x => !x.isChar fits).length }

/-- The text as a string, else its first run of lone surrogates. -/
def plain (t : Text) : Except EncodeFault String :=
  (charsOf (fun _ => true) 0 t).map String.ofList

theorem toString_ofString (s : String) : toString (ofString s) = s := by
  simp [toString, ofString, Function.comp_def, Letter.toChar]

theorem ofString_inj {s s' : String} : ofString s = ofString s' ↔ s = s' := by
  refine ⟨fun h => ?_, congrArg ofString⟩
  have hsame := congrArg toString h
  rwa [toString_ofString, toString_ofString] at hsame

/-- The scalar value that two surrogate halves make. -/
def joinHalves (high low : Fin 2048) : Char :=
  Char.ofNat (0x10000 + high.val * 1024 + (low.val - 1024))

/-- Joins each first half that is directly followed by a second half. -/
def joinPairs : Text → Text
  | .lone a :: .lone b :: r =>
    if a.val < 1024 ∧ 1024 ≤ b.val then .plain (joinHalves a b) :: joinPairs r
    else .lone a :: joinPairs (.lone b :: r)
  | c :: r => c :: joinPairs r
  | [] => []

end Text

end TokenEndpoint
