import TokenEndpoint.Text.Blank
/-!
Texts between blanks, of characters or of letters. Main statement:

* `trimItems_eq_iff` -- trimming leaves `t` of exactly the texts that have `t` between blanks.
-/

namespace TokenEndpoint.Text

/-! ## 1. Texts of any items -/

section Items

variable {α : Type} {blank : α → Bool}

/-- Blanks in front of a text and after it are cut off. -/
theorem trimItems_append {before after : List α} (hb : before.all blank = true)
    (ha : after.all blank = true) (s : List α) :
    trimItems blank (before ++ s ++ after) = trimItems blank s := by
  have hb' : ∀ c ∈ before, blank c = true := List.all_eq_true.mp hb
  have ha' : ∀ c ∈ after, blank c = true := List.all_eq_true.mp ha
  rw [trimItems, List.append_assoc, List.dropWhile_append_of_pos hb', trimItems, trimEndItems,
    trimEndItems]
  congr 1
  rw [List.dropWhile_append]
  by_cases hs : (s.dropWhile blank).isEmpty = true
  · -- nothing is left of either text
    have hafter : after.dropWhile blank = [] := by
      rw [← List.append_nil after, List.dropWhile_append_of_pos ha']
      rfl
    rw [if_pos hs, hafter, List.isEmpty_iff.mp hs]
  · rw [if_neg hs, List.reverse_append,
      List.dropWhile_append_of_pos fun c hc => ha' c (List.mem_reverse.mp hc)]

/-- A text is its trimmed part with blanks around it. -/
theorem exists_trimItems_eq (blank : α → Bool) (s : List α) :
    ∃ before after, before.all blank = true ∧ after.all blank = true ∧
      s = before ++ trimItems blank s ++ after := by
  refine ⟨s.takeWhile blank, ((s.dropWhile blank).reverse.takeWhile blank).reverse,
    List.all_takeWhile, by rw [List.all_reverse, List.all_takeWhile], ?_⟩
  rw [trimItems, trimEndItems, List.append_assoc, ← List.reverse_append,
    List.takeWhile_append_dropWhile, List.reverse_reverse, List.takeWhile_append_dropWhile]

/-- What is left after trimming needs no trimming. -/
theorem trimItems_trimItems (blank : α → Bool) (s : List α) :
    trimItems blank (trimItems blank s) = trimItems blank s := by
  obtain ⟨before, after, hb, ha, h⟩ := exists_trimItems_eq blank s
  have htrim : trimItems blank s = trimItems blank (before ++ trimItems blank s ++ after) :=
    congrArg (trimItems blank) h
  rw [trimItems_append hb ha] at htrim
  exact htrim.symm

/-- Nothing is left of exactly the texts that are blank. -/
theorem trimItems_eq_nil_iff {s : List α} : trimItems blank s = [] ↔ s.all blank = true := by
  constructor
  · intro hnil
    obtain ⟨before, after, hb, ha, h⟩ := exists_trimItems_eq blank s
    rw [h, hnil, List.append_nil, List.all_append, hb, ha]
    rfl
  · intro hall
    have hs : trimItems blank (s ++ [] ++ []) = trimItems blank [] := trimItems_append hall rfl []
    rw [List.append_nil, List.append_nil] at hs
    exact hs

/-- A text without a blank in it needs no trimming. -/
theorem trimItems_of_no_blank {s : List α} (h : ∀ c ∈ s, blank c = false) :
    trimItems blank s = s := by
  obtain ⟨before, after, hb, ha, hs⟩ := exists_trimItems_eq blank s
  have hnone {ends : List α} (hends : ends.all blank = true) (hmem : ∀ c ∈ ends, c ∈ s) :
      ends = [] := by
    refine List.eq_nil_iff_forall_not_mem.mpr fun c hc => ?_
    have hblank := List.all_eq_true.mp hends c hc
    rw [h c (hmem c hc)] at hblank
    cases hblank
  have hbefore : before = [] := hnone hb fun c hc => by
    rw [hs]
    exact List.mem_append_left _ (List.mem_append_left _ hc)
  have hafter : after = [] := hnone ha fun c hc => by
    rw [hs]
    exact List.mem_append_right _ hc
  rw [hbefore, hafter, List.nil_append, List.append_nil] at hs
  exact hs.symm

theorem trimEndItems_prefix (blank : α → Bool) (s : List α) : trimEndItems blank s <+: s := by
  have hsuffix := (List.dropWhile_suffix (l := s.reverse) blank).reverse
  rwa [List.reverse_reverse] at hsuffix

/-- Blanks at the end are cut off as far as the last item that is none. -/
theorem trimEndItems_append_cons {c : α} (hc : blank c = false) (before after : List α) :
    trimEndItems blank (before ++ c :: after) = before ++ c :: trimEndItems blank after := by
  have hdrop : (before ++ c :: after).reverse.dropWhile blank =
      after.reverse.dropWhile blank ++ c :: before.reverse := by
    rw [List.reverse_append, List.reverse_cons, List.append_assoc, List.dropWhile_append]
    split
    · next hnil => rw [List.isEmpty_iff.mp hnil]; simp [hc]
    · rfl
  rw [trimEndItems, hdrop, trimEndItems]
  simp

/-- **A text that needs no trimming is what is left of exactly the texts that have it between
blanks.** -/
theorem trimItems_eq_iff {s t : List α} (ht : trimItems blank t = t) :
    trimItems blank s = t ↔
      ∃ before after, before.all blank = true ∧ after.all blank = true ∧
        s = before ++ t ++ after := by
  constructor
  · rintro rfl
    exact exists_trimItems_eq blank s
  · rintro ⟨before, after, hb, ha, rfl⟩
    rw [trimItems_append hb ha, ht]

end Items

/-! ## 2. Characters and letters -/

theorem exists_trimChars_eq (s : List Char) :
    ∃ before after, before.all isBlank = true ∧ after.all isBlank = true ∧
      s = before ++ trimChars s ++ after :=
  exists_trimItems_eq isBlank s

theorem trimEndChars_prefix (s : List Char) : trimEndChars s <+: s :=
  trimEndItems_prefix isBlank s

theorem trimEndChars_append_cons {c : Char} (hc : isBlank c = false) (before after : List Char) :
    trimEndChars (before ++ c :: after) = before ++ c :: trimEndChars after :=
  trimEndItems_append_cons hc before after

theorem isBlankText_eq_false_iff {s : String} :
    isBlankText s = false ↔ ∃ c ∈ s.toList, isBlank c = false := by
  rw [isBlankText, List.all_eq_false]
  simp

theorem trimLetters_trimLetters (t : Text) : trimLetters (trimLetters t) = trimLetters t :=
  trimItems_trimItems isBlankLetter t

theorem trimLetters_eq_nil_iff {t : Text} : trimLetters t = [] ↔ isBlankLetters t = true :=
  trimItems_eq_nil_iff

theorem isBlankLetters_eq_false_iff {t : Text} :
    isBlankLetters t = false ↔ ∃ l ∈ t, isBlankLetter l = false := by
  rw [isBlankLetters, List.all_eq_false]
  simp

end TokenEndpoint.Text
