import TokenEndpoint.Failure
/-!
Which texts are characters throughout. A text is taken as characters of a kind if all of its letters are;
otherwise the fault names the first run of letters that are not. Main statements:

* `charsOf_eq_ok_iff` -- the texts that are taken;
* `firstForeign_of_charsOf` -- where the fault of another text stands;
* `plain_eq_ok_iff` -- of all characters, the texts that are taken are the strings.
-/

namespace TokenEndpoint.Text

variable {fits : Char → Bool} {offset : Nat} {t : Text}

theorem charsOf_eq_ok_iff {s : List Char} :
    charsOf fits offset t = .ok s ↔ t = s.map .plain ∧ ∀ c ∈ s, fits c = true := by
  induction t generalizing offset s with
  | nil =>
    rw [charsOf, Except.ok.injEq]
    cases s <;> simp
  | cons l rest ih =>
    cases l with
    | lone n => cases s <;> simp [charsOf]
    | plain c =>
      rw [charsOf]
      split
      · next hc =>
        rw [map_eq_ok]
        simp only [ih]
        cases s with
        | nil => simp
        | cons d ds =>
          rw [List.map_cons, List.forall_mem_cons]
          constructor
          · rintro ⟨_, ⟨rfl, hds⟩, heq⟩
            cases heq
            exact ⟨rfl, hc, hds⟩
          · rintro ⟨heq, -, hds⟩
            cases heq
            exact ⟨ds, ⟨rfl, hds⟩, rfl⟩
      · next hc =>
        constructor
        · intro h
          cases h
        · rintro ⟨heq, hall⟩
          cases s with
          | nil => cases heq
          | cons d ds =>
            cases heq
            exact absurd (hall c List.mem_cons_self) hc

/-- A fault names the first run of letters that are no characters of a kind, `offset` letters standing
before the text: the number of its first letter, and where it begins and ends. -/
def FirstForeign (fits : Char → Bool) (offset : Nat) (t : Text) (fault : EncodeFault) : Prop :=
  ∃ front l run rest, t = front ++ l :: (run ++ rest) ∧ (∀ x ∈ front, x.isChar fits = true) ∧
    (∀ x ∈ l :: run, x.isChar fits = false) ∧ (∀ x ∈ rest.head?, x.isChar fits = true) ∧
    fault.code = l.toNat ∧ fault.first = offset + front.length ∧ fault.last = fault.first + run.length

/-- The run that begins a text. -/
theorem firstForeign_cons {l : Letter} (hl : l.isChar fits = false) (offset : Nat) (rest : Text) :
    FirstForeign fits offset (l :: rest) (charsOf.fault fits offset l rest) := by
  refine ⟨[], l, rest.takeWhile fun x => !x.isChar fits, rest.dropWhile fun x => !x.isChar fits, ?_,
    List.forall_mem_nil _, List.forall_mem_cons.mpr ⟨hl, fun x hx => ?_⟩, fun x hx => ?_, rfl, rfl, rfl⟩
  · rw [List.takeWhile_append_dropWhile, List.nil_append]
  · have hnot := List.all_eq_true.mp List.all_takeWhile x hx
    simpa using hnot
  · have hnot := List.head?_dropWhile_not (fun x : Letter => !x.isChar fits) rest
    rw [Option.mem_def.mp hx] at hnot
    simpa using hnot

/-- **A text that is not taken is faulted for its first run of other letters.** -/
theorem firstForeign_of_charsOf {fault : EncodeFault} (h : charsOf fits offset t = .error fault) :
    FirstForeign fits offset t fault := by
  induction t generalizing offset with
  | nil => cases h
  | cons l rest ih =>
    cases l with
    | lone n =>
      cases h
      exact firstForeign_cons rfl offset rest
    | plain c =>
      rw [charsOf] at h
      split at h
      · next hc =>
        obtain ⟨front, l, run, after, rfl, hfront, hrun, hafter, hcode, hfirst, hlast⟩ :=
          ih (map_eq_error.mp h)
        refine ⟨.plain c :: front, l, run, after, rfl, List.forall_mem_cons.mpr ⟨hc, hfront⟩, hrun,
          hafter, hcode, ?_, hlast⟩
        rw [hfirst, List.length_cons]
        omega
      · next hc =>
        have hl : (Letter.plain c).isChar fits = false := Bool.eq_false_iff.mpr hc
        cases h
        exact firstForeign_cons hl offset rest

/-! ## Strings -/

/-- **A text without lone surrogates is a string, and is taken as it.** -/
theorem plain_eq_ok_iff {s : String} : t.plain = .ok s ↔ t = ofString s := by
  rw [plain, map_eq_ok]
  simp only [charsOf_eq_ok_iff, implies_true, and_true]
  constructor
  · rintro ⟨chars, rfl, rfl⟩
    rw [ofString, String.toList_ofList]
  · rintro rfl
    exact ⟨s.toList, rfl, String.ofList_toList⟩

/-- A text with a lone surrogate is faulted. -/
theorem exists_plain_iff : (∃ s, t.plain = .ok s) ↔ ∀ n, Letter.lone n ∉ t := by
  simp only [plain_eq_ok_iff]
  constructor
  · rintro ⟨s, rfl⟩ n hmem
    obtain ⟨c, -, hc⟩ := List.mem_map.mp hmem
    cases hc
  · intro h
    induction t with
    | nil => exact ⟨"", rfl⟩
    | cons l rest ih =>
      obtain ⟨s, rfl⟩ := ih fun n hn => h n (List.mem_cons_of_mem l hn)
      cases l with
      | lone n => exact absurd List.mem_cons_self (h n)
      | plain c =>
        refine ⟨String.ofList (c :: s.toList), ?_⟩
        rw [ofString, ofString, String.toList_ofList]
        rfl

end TokenEndpoint.Text
