/-!
Patterns: rows of items, each of which takes some characters of one class. A pattern is matched against a
whole text, behind which one line feed may stand. Matching goes from left to right; an item takes as many
characters as it can and gives them back, the last one first, while the items after it find no match.
Which items take which characters does not show, only whether there is a way (`fits_iff`).
-/

namespace TokenEndpoint.Text

namespace Pattern

/-- How many characters an item takes. -/
inductive Amount where
  | one
  | atMostOne
  | atLeastOne
  | any
  deriving DecidableEq, Repr

structure Item where
  amount : Amount
  accepts : Char → Bool

end Pattern

abbrev Pattern := List Pattern.Item

namespace Pattern

/-! ## 1. Matching -/

/-- Takes one character of a class and leaves a text that `rest` accepts. -/
def skipOne (accepts : Char → Bool) (rest : List Char → Bool) : List Char → Bool
  | [] => false
  | c :: s => accepts c && rest s

/-- Takes any number of characters of a class, as many as leave a text that `rest` accepts. -/
def skipAny (accepts : Char → Bool) (rest : List Char → Bool) : List Char → Bool
  | [] => rest []
  | c :: s => (accepts c && skipAny accepts rest s) || rest (c :: s)

/-- Whether an item can take what stands in front and leave a text that `rest` accepts. -/
def Item.skip (item : Item) (rest : List Char → Bool) (s : List Char) : Bool :=
  match item.amount with
  | .one => skipOne item.accepts rest s
  | .atMostOne => skipOne item.accepts rest s || rest s
  | .atLeastOne => skipOne item.accepts (skipAny item.accepts rest) s
  | .any => skipAny item.accepts rest s

def fits : Pattern → List Char → Bool
  | [], s => s == [] || s == ['\n']
  | item :: items, s => item.skip (fits items) s

/-! ## 2. What a pattern stands for -/

def Amount.Allows : Amount → Nat → Prop
  | one, n => n = 1
  | atMostOne, n => n ≤ 1
  | atLeastOne, n => 1 ≤ n
  | any, _ => True

structure Item.Takes (item : Item) (w : List Char) : Prop where
  allowed : item.amount.Allows w.length
  accepted : w.all item.accepts = true

/-- The text is made of parts, one for each item. -/
def Stands : Pattern → List Char → Prop
  | [], s => s = []
  | item :: items, s => ∃ w r, s = w ++ r ∧ item.Takes w ∧ Stands items r

theorem skipOne_iff {accepts : Char → Bool} {rest : List Char → Bool} {s : List Char} :
    skipOne accepts rest s = true ↔ ∃ c r, s = c :: r ∧ accepts c = true ∧ rest r = true := by
  cases s with
  | nil =>
    constructor
    · intro h
      cases h
    · rintro ⟨c, r, hs, -⟩
      cases hs
  | cons c s =>
    rw [skipOne, Bool.and_eq_true]
    constructor
    · rintro ⟨hc, hrest⟩
      exact ⟨c, s, rfl, hc, hrest⟩
    · rintro ⟨d, r, hs, hd, hrest⟩
      obtain ⟨rfl, rfl⟩ := List.cons.inj hs
      exact ⟨hd, hrest⟩

theorem skipAny_iff {accepts : Char → Bool} {rest : List Char → Bool} {s : List Char} :
    skipAny accepts rest s = true ↔
      ∃ w r, s = w ++ r ∧ w.all accepts = true ∧ rest r = true := by
  induction s with
  | nil =>
    constructor
    · exact fun h => ⟨[], [], rfl, rfl, h⟩
    · rintro ⟨w, r, hs, -, hrest⟩
      rw [(List.nil_eq_append_iff.mp hs).2] at hrest
      exact hrest
  | cons c s ih =>
    rw [skipAny, Bool.or_eq_true, Bool.and_eq_true, ih]
    constructor
    · rintro (⟨hc, w, r, rfl, hw, hrest⟩ | hrest)
      · exact ⟨c :: w, r, rfl, by rw [List.all_cons, hc, hw]; rfl, hrest⟩
      · exact ⟨[], c :: s, rfl, rfl, hrest⟩
    · rintro ⟨w, r, hs, hw, hrest⟩
      cases w with
      | nil =>
        rw [List.nil_append] at hs
        exact .inr (hs ▸ hrest)
      | cons d w =>
        obtain ⟨rfl, rfl⟩ := List.cons.inj hs
        rw [List.all_cons, Bool.and_eq_true] at hw
        exact .inl ⟨hw.1, w, r, rfl, hw.2, hrest⟩

/-- An item takes what its amount allows of its class, and the rest is accepted. -/
theorem Item.skip_iff {item : Item} {rest : List Char → Bool} {s : List Char} :
    item.skip rest s = true ↔ ∃ w r, s = w ++ r ∧ item.Takes w ∧ rest r = true := by
  obtain ⟨amount, accepts⟩ := item
  cases amount with
  | one =>
    rw [skip, skipOne_iff]
    constructor
    · rintro ⟨c, r, rfl, hc, hrest⟩
      exact ⟨[c], r, rfl, ⟨rfl, by simpa using hc⟩, hrest⟩
    · rintro ⟨w, r, rfl, ⟨hlength, hw⟩, hrest⟩
      obtain ⟨c, rfl⟩ := List.length_eq_one_iff.mp hlength
      exact ⟨c, r, rfl, by simpa using hw, hrest⟩
  | atMostOne =>
    rw [skip, Bool.or_eq_true, skipOne_iff]
    constructor
    · rintro (⟨c, r, rfl, hc, hrest⟩ | hrest)
      · exact ⟨[c], r, rfl, ⟨Nat.le_refl 1, by simpa using hc⟩, hrest⟩
      · exact ⟨[], s, rfl, ⟨Nat.zero_le 1, rfl⟩, hrest⟩
    · rintro ⟨w, r, rfl, ⟨hlength, hw⟩, hrest⟩
      match w, hlength with
      | [], _ => exact .inr hrest
      | [c], _ => exact .inl ⟨c, r, rfl, by simpa using hw, hrest⟩
  | atLeastOne =>
    rw [skip, skipOne_iff]
    constructor
    · rintro ⟨c, s, rfl, hc, hany⟩
      obtain ⟨w, r, rfl, hw, hrest⟩ := skipAny_iff.mp hany
      exact ⟨c :: w, r, rfl, ⟨Nat.le_add_left 1 _, by rw [List.all_cons, hc, hw]; rfl⟩, hrest⟩
    · rintro ⟨w, r, rfl, ⟨hlength, hw⟩, hrest⟩
      obtain ⟨c, v, rfl⟩ := List.exists_cons_of_length_pos hlength
      rw [List.all_cons, Bool.and_eq_true] at hw
      exact ⟨c, v ++ r, rfl, hw.1, skipAny_iff.mpr ⟨v, r, rfl, hw.2, hrest⟩⟩
  | any =>
    rw [skip, skipAny_iff]
    constructor
    · rintro ⟨w, r, rfl, hw, hrest⟩
      exact ⟨w, r, rfl, ⟨trivial, hw⟩, hrest⟩
    · rintro ⟨w, r, rfl, ⟨-, hw⟩, hrest⟩
      exact ⟨w, r, rfl, hw, hrest⟩

/-- **A text fits a pattern exactly if it is made of what the items take**, with or without a line feed at
its end. -/
theorem fits_iff {items : Pattern} {s : List Char} :
    items.fits s = true ↔
      ∃ w tail, s = w ++ tail ∧ Stands items w ∧ (tail = [] ∨ tail = ['\n']) := by
  induction items generalizing s with
  | nil =>
    rw [fits, Bool.or_eq_true, beq_iff_eq, beq_iff_eq]
    constructor
    · exact fun h => ⟨[], s, rfl, rfl, h⟩
    · rintro ⟨w, tail, rfl, rfl, htail⟩
      exact htail
  | cons item items ih =>
    rw [fits, Item.skip_iff]
    constructor
    · rintro ⟨w, r, rfl, hw, hr⟩
      obtain ⟨v, tail, rfl, hv, htail⟩ := ih.mp hr
      exact ⟨w ++ v, tail, (List.append_assoc w v tail).symm, ⟨w, v, rfl, hw, hv⟩, htail⟩
    · rintro ⟨-, tail, rfl, ⟨w, v, rfl, hw, hv⟩, htail⟩
      exact ⟨w, v ++ tail, List.append_assoc w v tail, hw, ih.mpr ⟨v, tail, rfl, hv, htail⟩⟩

end Pattern

end TokenEndpoint.Text
