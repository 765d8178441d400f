import TokenEndpoint.Text.CaseTable
import TokenEndpoint.Text.Letter
/-!
Lower-casing of a text by the full Unicode mapping: the dotted capital I becomes two
characters, and a capital sigma becomes a final sigma where it ends a word. A lone surrogate
has no case, and a word ends at it.
-/

namespace TokenEndpoint.Text

/-! ## 1. One character -/

def inRanges (ranges : Array (Nat × Nat)) (c : Char) : Bool :=
  ranges.any fun r => r.1 ≤ c.toNat && c.toNat ≤ r.2

/-- A cased letter; of ASCII exactly the letters. -/
def isCased (c : Char) : Bool :=
  if c.toNat < 0x80 then c.isAlpha else inRanges casedRanges c

def isCaseIgnorable (c : Char) : Bool :=
  inRanges caseIgnorableRanges c

/-- The lower-case image of a character out of context. -/
def lowerChar (c : Char) : List Char :=
  if c.toNat < 0x80 then [c.toLower]
  else if c.toNat = 0x130 then ['i', '\u0307']
  else match caseRuns.find? (·.covers c.toNat) with
    | some r => [Char.ofNat (c.toNat + r.shift).toNat]
    | none => [c]

/-! ## 2. A text -/

/-- Whether the next character that is not case-ignorable is a cased letter. -/
def casedAhead : List Char → Bool
  | [] => false
  | c :: r => if isCaseIgnorable c then casedAhead r else isCased c

/-- `behind` tells whether the last character before that is not case-ignorable is cased. A
capital sigma with a cased letter behind and none ahead is final. -/
def lowerFrom (behind : Bool) : List Char → List Char
  | [] => []
  | c :: r =>
    let image :=
      if c.toNat = 0x3a3 then [if behind && !casedAhead r then 'ς' else 'σ'] else lowerChar c
    image ++ lowerFrom (if isCaseIgnorable c then behind else isCased c) r

def lowerChars (s : List Char) : List Char :=
  lowerFrom false s

def lower (s : String) : String :=
  String.ofList (lowerChars s.toList)

/-- Lower-cases a text one run of characters after the other: `run` holds the characters since the
last lone surrogate. -/
def lowerRuns (run : List Char) : Text → Text
  | [] => (lowerChars run).map .plain
  | .plain c :: r => lowerRuns (run ++ [c]) r
  | .lone n :: r => (lowerChars run).map .plain ++ .lone n :: lowerRuns [] r

def lowerLetters (t : Text) : Text :=
  lowerRuns [] t

/-! ## 3. Text without a letter of another alphabet -/

theorem lowerChar_ascii {c : Char} (h : c.toNat < 0x80) : lowerChar c = [c.toLower] := by
  simp [lowerChar, h]

/-- A text of ASCII characters is lowered letter by letter. -/
theorem lowerFrom_ascii {s : List Char} (h : ∀ c ∈ s, c.toNat < 0x80) (behind : Bool) :
    lowerFrom behind s = s.map Char.toLower := by
  induction s generalizing behind with
  | nil => rfl
  | cons c r ih =>
    have hc : c.toNat < 0x80 := h c (by simp)
    have hs : ¬ c.toNat = 0x3a3 := by omega
    have hr : ∀ b, lowerFrom b r = r.map Char.toLower :=
      fun b => ih (fun x hx => h x (by simp [hx])) b
    simp [lowerFrom, hs, lowerChar_ascii hc, hr]

theorem lowerChars_ascii {s : List Char} (h : ∀ c ∈ s, c.toNat < 0x80) :
    lowerChars s = s.map Char.toLower :=
  lowerFrom_ascii h false

/-! ## 4. Text without a lone surrogate -/

theorem lowerRuns_map_plain (run s : List Char) :
    lowerRuns run (s.map .plain) = (lowerChars (run ++ s)).map .plain := by
  induction s generalizing run with
  | nil => rw [List.map_nil, lowerRuns, List.append_nil]
  | cons c s ih => rw [List.map_cons, lowerRuns, ih, List.append_assoc, List.singleton_append]

/-- The letters of a string are lowered as the string is. -/
theorem lowerLetters_ofString (s : String) : lowerLetters (ofString s) = ofString (lower s) := by
  rw [lowerLetters, ofString, lowerRuns_map_plain, List.nil_append, ofString, lower,
    String.toList_ofList]

end TokenEndpoint.Text
