import TokenEndpoint.Text.Letter
/-!
Blank characters, and the two operations that look at them: cutting blanks off both ends of a
text (`trim`) and reading the text between blanks (`words`). Each is there for strings and for texts
that may hold lone surrogates.

The set is Unicode white space together with the four separators U+001C to U+001F; the
zero-width characters U+200B, U+2060 and U+FEFF are not in it, and no lone surrogate is.
-/

namespace TokenEndpoint.Text

/-! ## 1. The set -/

/-- Closed ranges of code points. -/
def blankRanges : List (Nat × Nat) :=
  [(0x09, 0x0d), (0x1c, 0x20), (0x85, 0x85), (0xa0, 0xa0), (0x1680, 0x1680), (0x2000, 0x200a),
    (0x2028, 0x2029), (0x202f, 0x202f), (0x205f, 0x205f), (0x3000, 0x3000)]

def isBlank (c : Char) : Bool :=
  blankRanges.any fun r => r.1 ≤ c.toNat && c.toNat ≤ r.2

def isBlankLetter (l : Letter) : Bool :=
  l.isChar isBlank

/-! ## 2. Cutting blanks off the ends -/

section Ends

variable {α : Type} (blank : α → Bool)

/-- The items without the blank ones at their end. -/
def trimEndItems (s : List α) : List α :=
  (s.reverse.dropWhile blank).reverse

/-- The items without the blank ones at their two ends. -/
def trimItems (s : List α) : List α :=
  trimEndItems blank (s.dropWhile blank)

end Ends

/-- The text without the blanks at its end. -/
def trimEndChars (s : List Char) : List Char :=
  trimEndItems isBlank s

/-- The text without the blanks at its two ends. -/
def trimChars (s : List Char) : List Char :=
  trimItems isBlank s

def trimLetters (t : Text) : Text :=
  trimItems isBlankLetter t

def trim (s : String) : String :=
  String.ofList (trimChars s.toList)

/-- No character but blanks. -/
def isBlankText (s : String) : Bool :=
  s.toList.all isBlank

def isBlankLetters (t : Text) : Bool :=
  t.all isBlankLetter

/-! ## 3. Pieces between separators -/

section Pieces

variable {α : Type} (sep : α → Bool)

/-- The pieces between the items that satisfy `sep`, empty ones included: one piece more than there
are separators. -/
def pieces : List α → List (List α)
  | [] => [[]]
  | c :: r =>
    if sep c then [] :: pieces r
    else match pieces r with
      | [] => [[c]]
      | w :: ws => (c :: w) :: ws

/-- The pieces that are not empty. -/
def runs (s : List α) : List (List α) :=
  (pieces sep s).filter fun w => !w.isEmpty

end Pieces

/-- The pieces between the occurrences of one character. -/
def splitOn (sep : Char) (s : List Char) : List (List Char) :=
  pieces (· == sep) s

/-- The maximal runs of characters that are not blank. -/
def words (s : String) : List String :=
  (runs isBlank s.toList).map String.ofList

def wordLetters (t : Text) : List Text :=
  runs isBlankLetter t

/-- What stands before the first `sep`, and, if there is one, what stands after it. -/
def cut (sep : Char) : List Char → List Char × Option (List Char)
  | [] => ([], none)
  | c :: r =>
    if c == sep then ([], some r)
    else let (before, after) := cut sep r; (c :: before, after)

/-- The pieces between the first `limit` occurrences of one character, and all that is left as one more
piece. -/
def splitUpTo (sep : Char) : (limit : Nat) → List Char → List (List Char)
  | 0, s => [s]
  | limit + 1, s =>
    match cut sep s with
    | (before, some rest) => before :: splitUpTo sep limit rest
    | (before, none) => [before]

/-- What stands before the last `sep`, if there is one, and what stands after it. -/
def cutLast (sep : Char) (s : List Char) : Option (List Char) × List Char :=
  match cut sep s.reverse with
  | (after, before) => (before.map List.reverse, after.reverse)

/-- Before the first separator stands all that was written before it. -/
theorem cut_append {sep : Char} {before : List Char} (h : sep ∉ before) (after : List Char) :
    cut sep (before ++ sep :: after) = (before, some after) := by
  induction before with
  | nil => simp [cut]
  | cons c rest ih =>
    rw [List.mem_cons, not_or] at h
    have hc : (c == sep) = false := beq_false_of_ne fun e => h.1 e.symm
    rw [List.cons_append, cut, hc, ih h.2]
    rfl

theorem cut_of_not_mem {sep : Char} {s : List Char} (h : sep ∉ s) : cut sep s = (s, none) := by
  induction s with
  | nil => rfl
  | cons c rest ih =>
    rw [List.mem_cons, not_or] at h
    have hc : (c == sep) = false := beq_false_of_ne fun e => h.1 e.symm
    rw [cut, hc, ih h.2]
    rfl

/-- A text without the separator is not cut; another is cut at the first one in it. -/
theorem cut_cases (sep : Char) (s : List Char) :
    (sep ∉ s ∧ cut sep s = (s, none)) ∨
      ∃ before after, s = before ++ sep :: after ∧ sep ∉ before ∧
        cut sep s = (before, some after) := by
  by_cases h : sep ∈ s
  · obtain ⟨before, after, rfl, hbefore⟩ := List.eq_append_cons_of_mem h
    exact .inr ⟨before, after, rfl, hbefore, cut_append hbefore after⟩
  · exact .inl ⟨h, cut_of_not_mem h⟩

/-- After the last separator stands all that was written after it. -/
theorem cutLast_append {sep : Char} {after : List Char} (h : sep ∉ after) (before : List Char) :
    cutLast sep (before ++ sep :: after) = (some before, after) := by
  have hreverse : (before ++ sep :: after).reverse = after.reverse ++ sep :: before.reverse := by
    simp
  have hmem : sep ∉ after.reverse := by rwa [List.mem_reverse]
  rw [cutLast, hreverse, cut_append hmem]
  show (some before.reverse.reverse, after.reverse.reverse) = _
  rw [List.reverse_reverse, List.reverse_reverse]

theorem cutLast_of_not_mem {sep : Char} {s : List Char} (h : sep ∉ s) : cutLast sep s = (none, s) := by
  rw [cutLast, cut_of_not_mem (by rwa [List.mem_reverse])]
  show (none, s.reverse.reverse) = _
  rw [List.reverse_reverse]

/-- A text without the separator is not cut; another is cut at the last one in it. -/
theorem cutLast_cases (sep : Char) (s : List Char) :
    (sep ∉ s ∧ cutLast sep s = (none, s)) ∨
      ∃ before after, s = before ++ sep :: after ∧ sep ∉ after ∧
        cutLast sep s = (some before, after) := by
  by_cases h : sep ∈ s
  · obtain ⟨after, before, hsplit, hafter⟩ := List.eq_append_cons_of_mem (List.mem_reverse.mpr h)
    have hs : s = before.reverse ++ sep :: after.reverse := by
      rw [← List.reverse_reverse s, hsplit]
      simp
    have hnot : sep ∉ after.reverse := by rwa [List.mem_reverse]
    exact .inr ⟨_, _, hs, hnot, by rw [hs, cutLast_append hnot]⟩
  · exact .inl ⟨h, cutLast_of_not_mem h⟩

theorem pieces_ne_nil {α : Type} (sep : α → Bool) (s : List α) : pieces sep s ≠ [] := by
  cases s with
  | nil => simp [pieces]
  | cons c r =>
    unfold pieces
    split
    · simp
    · split <;> simp

/-- The characters of a text joined by one of its own. -/
def joinWith (sep : List Char) : List (List Char) → List Char
  | [] => []
  | [w] => w
  | w :: ws => w ++ sep ++ joinWith sep ws

/-- Joining the pieces by their separator gives the text back. -/
theorem joinWith_splitOn (sep : Char) (s : List Char) : joinWith [sep] (splitOn sep s) = s := by
  unfold splitOn
  induction s with
  | nil => rfl
  | cons c r ih =>
    have hne := pieces_ne_nil (· == sep) r
    unfold pieces
    split
    · next h =>
      have hc : c = sep := by simpa using h
      cases hp : pieces (· == sep) r with
      | nil => exact absurd hp hne
      | cons w ws => rw [hp] at ih; simp [joinWith, ih, hc]
    · cases hp : pieces (· == sep) r with
      | nil => exact absurd hp hne
      | cons w ws =>
        rw [hp] at ih
        cases ws with
        | nil => simpa [joinWith] using ih
        | cons v vs => simpa [joinWith] using ih

end TokenEndpoint.Text
