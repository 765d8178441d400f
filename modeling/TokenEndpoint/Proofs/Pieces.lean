import TokenEndpoint.Text.Blank
/-!
The pieces of a text between the occurrences of one character. Main statements:

* `splitOn_joinWith` -- pieces without the separator are what their joined text is split into;
* `exists_mem_splitOn_iff` -- the characters of the pieces are those of the text but for the separator.
-/

namespace TokenEndpoint.Text

/-! ## 1. Pieces and separators -/

/-- A text without separators is one piece. -/
theorem splitOn_of_not_mem {sep : Char} {w : List Char} (h : sep ∉ w) : splitOn sep w = [w] := by
  induction w with
  | nil => rfl
  | cons c rest ih =>
    rw [List.mem_cons, not_or] at h
    have hc : (c == sep) = false := beq_false_of_ne fun e => h.1 e.symm
    have hrest : pieces (· == sep) rest = [rest] := ih h.2
    rw [splitOn, pieces, hc, hrest]
    rfl

/-- A piece that is followed by a separator is cut off in front. -/
theorem splitOn_append {sep : Char} {w : List Char} (h : sep ∉ w) (rest : List Char) :
    splitOn sep (w ++ sep :: rest) = w :: splitOn sep rest := by
  induction w with
  | nil => simp [splitOn, pieces]
  | cons c w ih =>
    rw [List.mem_cons, not_or] at h
    have hc : (c == sep) = false := beq_false_of_ne fun e => h.1 e.symm
    have hw : pieces (· == sep) (w ++ sep :: rest) = w :: splitOn sep rest := ih h.2
    rw [splitOn, List.cons_append, pieces, hc, hw]
    rfl

theorem joinWith_cons_cons (sep w v : List Char) (vs : List (List Char)) :
    joinWith sep (w :: v :: vs) = w ++ sep ++ joinWith sep (v :: vs) := rfl

/-- Pieces without separators in them are what their joined text is split into. -/
theorem splitOn_joinWith {sep : Char} {ws : List (List Char)} (hne : ws ≠ [])
    (h : ∀ w ∈ ws, sep ∉ w) : splitOn sep (joinWith [sep] ws) = ws := by
  induction ws with
  | nil => exact absurd rfl hne
  | cons w rest ih =>
    have hw : sep ∉ w := h w List.mem_cons_self
    cases rest with
    | nil => exact splitOn_of_not_mem hw
    | cons v vs =>
      have hrest := ih (List.cons_ne_nil v vs) fun u hu => h u (List.mem_cons_of_mem w hu)
      rw [joinWith_cons_cons, List.append_assoc, List.singleton_append, splitOn_append hw, hrest]

/-- What holds of the separator and of the pieces holds of the joined text. -/
theorem all_joinWith {p : Char → Bool} {sep : List Char} {ws : List (List Char)}
    (hsep : sep.all p = true) (h : ∀ w ∈ ws, w.all p = true) : (joinWith sep ws).all p = true := by
  induction ws with
  | nil => rfl
  | cons w rest ih =>
    have hw := h w List.mem_cons_self
    cases rest with
    | nil => exact hw
    | cons v vs =>
      have hrest := ih fun u hu => h u (List.mem_cons_of_mem w hu)
      rw [joinWith_cons_cons, List.all_append, List.all_append, hw, hsep, hrest]
      rfl

/-! ## 2. What the pieces hold -/

/-- **The characters of the pieces are those of the text but for the separator.** -/
theorem exists_mem_splitOn_iff {sep c : Char} {s : List Char} :
    (∃ w ∈ splitOn sep s, c ∈ w) ↔ c ∈ s ∧ c ≠ sep := by
  unfold splitOn
  induction s with
  | nil => simp [pieces]
  | cons x s ih =>
    have hcons (w : List Char) (ws : List (List Char)) :
        (∃ v ∈ w :: ws, c ∈ v) ↔ c ∈ w ∨ ∃ v ∈ ws, c ∈ v := by
      simp only [List.mem_cons, or_and_right, exists_or, exists_eq_left]
    rw [pieces]
    split
    · next hx =>
      rw [hcons, ih, eq_of_beq hx]
      constructor
      · rintro (hnil | ⟨hmem, hne⟩)
        · cases hnil
        · exact ⟨List.mem_cons_of_mem sep hmem, hne⟩
      · rintro ⟨hmem, hne⟩
        exact .inr ⟨List.mem_of_ne_of_mem hne hmem, hne⟩
    · next hx =>
      have hne : x ≠ sep := fun heq => hx (beq_iff_eq.mpr heq)
      cases hp : pieces (· == sep) s with
      | nil => exact absurd hp (pieces_ne_nil _ s)
      | cons w ws =>
        rw [hp, hcons] at ih
        rw [hcons, List.mem_cons, or_assoc, ih, List.mem_cons, or_and_right]
        refine or_congr_left ⟨fun heq => ⟨heq, heq ▸ hne⟩, fun h => h.1⟩

/-- No piece of a text has a separator in it. -/
theorem not_mem_of_mem_splitOn {sep : Char} {s w : List Char} (h : w ∈ splitOn sep s) : sep ∉ w :=
  fun hmem => (exists_mem_splitOn_iff.mp ⟨w, h, hmem⟩).2 rfl

theorem splitOn_map {sep : Char} {f : Char → Char} (hf : ∀ c, f c = sep ↔ c = sep) (s : List Char) :
    splitOn sep (s.map f) = (splitOn sep s).map (List.map f) := by
  unfold splitOn
  induction s with
  | nil => rfl
  | cons c s ih =>
    have hsep : (f c == sep) = (c == sep) := by
      rw [Bool.eq_iff_iff, beq_iff_eq, beq_iff_eq, hf]
    rw [List.map_cons, pieces, pieces, hsep, ih]
    split
    · rfl
    · cases pieces (· == sep) s <;> rfl

/-! ## 3. Pieces cut off in front -/

theorem sep_not_mem_cut (sep : Char) (s : List Char) : sep ∉ (cut sep s).1 := by
  rcases cut_cases sep s with ⟨hnot, hcut⟩ | ⟨before, after, rfl, hnot, hcut⟩ <;> rwa [hcut]

theorem cut_prefix (sep : Char) (s : List Char) : (cut sep s).1 <+: s := by
  rcases cut_cases sep s with ⟨-, hcut⟩ | ⟨before, after, rfl, -, hcut⟩ <;> simp [hcut]

/-- The first piece is what is cut off at the first separator. -/
theorem head?_splitOn (sep : Char) (s : List Char) :
    (splitOn sep s).head? = some (cut sep s).1 := by
  rcases cut_cases sep s with ⟨hnot, hcut⟩ | ⟨before, after, rfl, hbefore, hcut⟩
  · rw [hcut, splitOn_of_not_mem hnot]
    rfl
  · rw [hcut, splitOn_append hbefore]
    rfl

/-- A limit that leaves room for all pieces changes nothing. -/
theorem splitUpTo_of_length_le {sep : Char} {limit : Nat} {s : List Char}
    (h : (splitOn sep s).length ≤ limit + 1) : splitUpTo sep limit s = splitOn sep s := by
  induction limit generalizing s with
  | zero =>
    rcases cut_cases sep s with ⟨hnot, -⟩ | ⟨before, after, rfl, hbefore, -⟩
    · exact (splitOn_of_not_mem hnot).symm
    · rw [splitOn_append hbefore, List.length_cons] at h
      have hpos : 0 < (splitOn sep after).length := List.length_pos_iff.mpr (pieces_ne_nil _ _)
      omega
  | succ limit ih =>
    rw [splitUpTo]
    rcases cut_cases sep s with ⟨hnot, hcut⟩ | ⟨before, after, rfl, hbefore, hcut⟩
    · rw [hcut, splitOn_of_not_mem hnot]
    · rw [splitOn_append hbefore, List.length_cons] at h
      rw [hcut, splitOn_append hbefore]
      dsimp only
      rw [ih (by omega)]

end TokenEndpoint.Text
