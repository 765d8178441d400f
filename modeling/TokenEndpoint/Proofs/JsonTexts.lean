import TokenEndpoint.Failure
import TokenEndpoint.Json.Reader
import TokenEndpoint.Json.Writer
/-!
Texts in JSON. A text that was read has no first half of a surrogate pair directly in front of a second one
(`Joined`), for the reader joins such halves. Main statements:

* `joined_joinPairs` -- joining halves leaves none that could be joined;
* `readString_compact` -- a joined text is read from the string that is written for it.
-/

namespace TokenEndpoint

namespace Text

/-! ## 1. Joined texts -/

/-- The letter does not make one character with the first letter of the rest. -/
def Alone (a : Letter) (rest : Text) : Prop :=
  ∀ b, rest.head? = some b → ¬ (a.isHigh = true ∧ b.isLow = true)

/-- No letter of the text makes one character with the next one. -/
def Joined : Text → Prop
  | [] => True
  | a :: rest => Alone a rest ∧ Joined rest

theorem alone_plain (c : Char) (rest : Text) : Alone (.plain c) rest :=
  fun _ _ h => Bool.false_ne_true h.1

theorem not_alone_iff {a b : Fin 2048} {rest : Text} :
    ¬ Alone (.lone a) (.lone b :: rest) ↔ a.val < 1024 ∧ 1024 ≤ b.val := by
  simp [Alone, Letter.isHigh, Letter.isLow]

theorem joinPairs_plain (c : Char) (rest : Text) :
    joinPairs (.plain c :: rest) = .plain c :: joinPairs rest := by
  rw [joinPairs]
  intro a b r h
  cases h

theorem joinPairs_lone_plain (n : Fin 2048) (c : Char) (rest : Text) :
    joinPairs (.lone n :: .plain c :: rest) = .lone n :: joinPairs (.plain c :: rest) := by
  rw [joinPairs]
  intro a b r _ hnext
  cases hnext

theorem joinPairs_lone_lone (a b : Fin 2048) (rest : Text) :
    joinPairs (.lone a :: .lone b :: rest) =
      if a.val < 1024 ∧ 1024 ≤ b.val then .plain (joinHalves a b) :: joinPairs rest
      else .lone a :: joinPairs (.lone b :: rest) := by
  rw [joinPairs]

/-- A letter that does not belong to the next one is kept. -/
theorem joinPairs_cons {a : Letter} {rest : Text} (h : Alone a rest) :
    joinPairs (a :: rest) = a :: joinPairs rest := by
  cases a with
  | plain c => exact joinPairs_plain c rest
  | lone n =>
    cases rest with
    | nil => rfl
    | cons b rest =>
      cases b with
      | plain c => exact joinPairs_lone_plain n c rest
      | lone m => rw [joinPairs_lone_lone, if_neg fun hpair => not_alone_iff.mpr hpair h]

/-- Joining makes no second half: one that stands first afterwards stood first before. -/
theorem head?_of_joinPairs {t : Text} {b : Letter} (h : (joinPairs t).head? = some b)
    (hlow : b.isLow = true) : t.head? = some b := by
  cases t with
  | nil => cases h
  | cons a rest =>
    by_cases halone : Alone a rest
    · rw [joinPairs_cons halone] at h
      exact h
    · cases a with
      | plain c => exact absurd (alone_plain c rest) halone
      | lone n =>
        cases rest with
        | nil => exact absurd (fun b hb => by cases hb) halone
        | cons next rest =>
          cases next with
          | plain c => exact absurd (fun b hb hpair => by cases hb; cases hpair.2) halone
          | lone m =>
            rw [joinPairs_lone_lone, if_pos (not_alone_iff.mp halone)] at h
            cases h
            cases hlow

theorem Alone.joinPairs {a : Letter} {rest : Text} (h : Alone a rest) : Alone a (joinPairs rest) :=
  fun b hb hpair => h b (head?_of_joinPairs hb hpair.2) hpair

/-- **Joining leaves nothing to join.** -/
theorem joined_joinPairs (t : Text) : Joined (joinPairs t) := by
  fun_induction joinPairs t with
  | case1 a b rest hpair ih => exact ⟨alone_plain _ _, ih⟩
  | case2 a b rest hpair ih =>
    have halone : Alone (.lone a) (.lone b :: rest) :=
      Classical.byContradiction fun hnot => hpair (not_alone_iff.mp hnot)
    exact ⟨halone.joinPairs, ih⟩
  | case3 a rest hnot ih =>
    have halone : Alone a rest := by
      intro b hb hpair
      cases a with
      | plain c => cases hpair.1
      | lone n =>
        cases b with
        | plain c => cases hpair.2
        | lone m =>
          obtain ⟨r, hr⟩ := List.head?_eq_some_iff.mp hb
          exact hnot n m r rfl hr
    exact ⟨halone.joinPairs, ih⟩
  | case4 => trivial

/-! ## 2. Characters in halves -/

def highHalf (c : Char) : Fin 2048 :=
  .ofNat 2048 ((c.toNat - 0x10000) / 1024)

def lowHalf (c : Char) : Fin 2048 :=
  .ofNat 2048 (1024 + (c.toNat - 0x10000) % 1024)

/-- A letter as it is written, in 16-bit units: a character above U+FFFF in its two halves. -/
def halves : Letter → Text
  | .plain c => if c.toNat < 0x10000 then [.plain c] else [.lone (highHalf c), .lone (lowHalf c)]
  | .lone n => [.lone n]

section Halves

variable {c : Char}

theorem toNat_lt (c : Char) : c.toNat < 0x110000 := by
  rcases c.valid with h | h
  · exact Nat.lt_trans h (by decide)
  · exact h.2

theorem val_highHalf (c : Char) : (highHalf c).val = (c.toNat - 0x10000) / 1024 := by
  have hlt := toNat_lt c
  have hval : (highHalf c).val = (c.toNat - 0x10000) / 1024 % 2048 := rfl
  omega

theorem val_lowHalf (c : Char) : (lowHalf c).val = 1024 + (c.toNat - 0x10000) % 1024 := by
  have hval : (lowHalf c).val = (1024 + (c.toNat - 0x10000) % 1024) % 2048 := rfl
  omega

theorem joinHalves_halves (h : 0x10000 ≤ c.toNat) : joinHalves (highHalf c) (lowHalf c) = c := by
  have hsum : 0x10000 + (highHalf c).val * 1024 + ((lowHalf c).val - 1024) = c.toNat := by
    rw [val_highHalf, val_lowHalf]
    omega
  rw [joinHalves, hsum, Char.ofNat_toNat]

theorem highHalf_lt (c : Char) : (highHalf c).val < 1024 := by
  have hlt := toNat_lt c
  rw [val_highHalf]
  omega

theorem le_lowHalf (c : Char) : 1024 ≤ (lowHalf c).val := by
  rw [val_lowHalf]
  exact Nat.le_add_right 1024 _

end Halves

/-- Halves of a letter that stands apart from the next one stand apart from its halves. -/
theorem Alone.halves {n : Fin 2048} {rest : Text} (h : Alone (.lone n) rest) :
    Alone (.lone n) (rest.flatMap Text.halves) := by
  cases rest with
  | nil => exact fun b hb => by cases hb
  | cons a rest =>
    cases a with
    | lone m => exact fun b hb => h b hb
    | plain c =>
      intro b hb hpair
      rw [List.flatMap_cons, Text.halves] at hb
      split at hb
      · cases hb
        cases hpair.2
      · cases hb
        have hlow : 1024 ≤ (highHalf c).val := of_decide_eq_true hpair.2
        exact Nat.not_le.mpr (highHalf_lt c) hlow

/-- **A joined text comes of its halves.** -/
theorem joinPairs_halves {t : Text} (h : Joined t) : joinPairs (t.flatMap halves) = t := by
  induction t with
  | nil => rfl
  | cons a rest ih =>
    obtain ⟨halone, hrest⟩ := h
    cases a with
    | lone n =>
      show joinPairs (.lone n :: rest.flatMap halves) = _
      rw [joinPairs_cons halone.halves, ih hrest]
    | plain c =>
      rw [List.flatMap_cons, halves]
      split
      · rw [List.singleton_append, joinPairs_plain, ih hrest]
      · next hlarge =>
        have hjoined : joinHalves (highHalf c) (lowHalf c) = c := joinHalves_halves (Nat.not_lt.mp hlarge)
        show joinPairs (.lone (highHalf c) :: .lone (lowHalf c) :: rest.flatMap halves) = _
        rw [joinPairs_lone_lone, if_pos ⟨highHalf_lt c, le_lowHalf c⟩, hjoined, ih hrest]

end Text

namespace Json

/-! ## 3. Escapes -/

theorem hexValue?_hexDigit {n : Nat} (h : n < 16) : hexValue? (Text.hexDigit n) = some n := by
  have hall : ∀ n < 16, hexValue? (Text.hexDigit n) = some n := by decide
  exact hall n h

/-- Four hexadecimal digits are read as the unit that they were written for. -/
theorem exists_hexDigits {n : Nat} (h : n < 0x10000) :
    ∃ a b c d, Text.hexDigits 4 n = [a, b, c, d] ∧ hexUnit? a b c d = some (.ofNat n) := by
  refine ⟨_, _, _, _, rfl, ?_⟩
  have hvalue (k : Nat) : hexValue? (Text.hexDigit (k % 16)) = some (k % 16) :=
    hexValue?_hexDigit (Nat.mod_lt k (by decide))
  have hsum : n / 16 / 16 / 16 % 16 * 4096 + n / 16 / 16 % 16 * 256 + n / 16 % 16 * 16 + n % 16 = n := by
    omega
  rw [hexUnit?, hvalue, hvalue, hvalue, hvalue]
  exact congrArg (fun k => some (UInt16.ofNat k)) hsum

/-- The letters of a text in front of which others stand. -/
theorem readLetters_unitEscape {n : Nat} (h : n < 0x10000) {opening s : List Char} {t : Text}
    {rest : List Char} (hne : s ≠ []) (hs : readLetters opening s = .ok (t, rest)) :
    readLetters opening (unitEscape n ++ s) = .ok (.ofUnit (.ofNat n) :: t, rest) := by
  obtain ⟨a, b, c, d, hdigits, hunit⟩ := exists_hexDigits h
  obtain ⟨e, s, rfl⟩ := List.exists_cons_of_ne_nil hne
  have hread : readLetters opening ('\\' :: 'u' :: a :: b :: c :: d :: e :: s) =
      .ok (.ofUnit (.ofNat n) :: t, rest) := by
    rw [readLetters, hunit]
    dsimp only
    rw [hs]
    rfl
  rw [unitEscape, hdigits]
  exact hread

theorem ofUnit_half (n : Fin 2048) : Letter.ofUnit (.ofNat (0xd800 + n.val)) = .lone n := by
  have hunit (u : UInt16) (hu : u.toNat = 0xd800 + n.val) : Letter.ofUnit u = .lone n := by
    have hn := n.isLt
    rw [Letter.ofUnit, dif_pos ⟨by omega, by omega⟩]
    refine congrArg Letter.lone (Fin.ext ?_)
    show u.toNat - 0xd800 = n.val
    omega
  refine hunit _ ?_
  rw [UInt16.toNat_ofNat']
  omega

theorem ofUnit_char {c : Char} (h : c.toNat < 0x10000) : Letter.ofUnit (.ofNat c.toNat) = .plain c := by
  have hval : (UInt16.ofNat c.toNat).toNat = c.toNat := by
    rw [UInt16.toNat_ofNat']
    omega
  have hscalar : ¬ (0xd800 ≤ c.toNat ∧ c.toNat < 0xe000) := by
    intro hin
    rcases c.valid with hlow | hhigh
    · exact Nat.not_le.mpr hlow hin.1
    · exact Nat.not_le.mpr hin.2 hhigh.1
  rw [Letter.ofUnit, dif_neg (by rw [hval]; exact hscalar), hval, Char.ofNat_toNat]

theorem readLetters_simple {x c : Char} (hc : simpleEscape? x = some c) {opening s : List Char} {t : Text}
    {rest : List Char} (hs : readLetters opening s = .ok (t, rest)) :
    readLetters opening ('\\' :: x :: s) = .ok (.plain c :: t, rest) := by
  have hu : x ≠ 'u' := by
    rintro rfl
    cases hc
  rw [readLetters, hc]
  · dsimp only
    rw [hs]
    rfl
  · intro a b c d e r h
    exact absurd h hu
  · exact hu

theorem readLetters_plain {c : Char} (hquote : c ≠ '"') (hslash : c ≠ '\\') (hcontrol : 0x20 ≤ c.toNat)
    {opening s : List Char} {t : Text} {rest : List Char} (hs : readLetters opening s = .ok (t, rest)) :
    readLetters opening (c :: s) = .ok (.plain c :: t, rest) := by
  rw [readLetters, if_neg (Nat.not_lt.mpr hcontrol), hs]
  · rfl
  · exact hquote
  · intro h
    exact absurd h hslash
  · intro a b c d e r h
    exact absurd h hslash
  · intro r h
    exact absurd h hslash
  · intro c r h
    exact absurd h hslash

/-! ## 4. Written texts -/

/-- What is written for a character: a short escape, the character, or its units. -/
inductive CharText (c : Char) : List Char → Prop where
  | short {x : Char} (escape : simpleEscape? x = some c) (ascii : x.toNat < 0x80) (small : c.toNat < 0x80) :
      CharText c ['\\', x]
  | itself (quote : c ≠ '"') (slash : c ≠ '\\') (printable : 0x20 ≤ c.toNat ∧ c.toNat ≤ 0x7e) :
      CharText c [c]
  | units : CharText c (charEscape c)

theorem charText_compactChar (c : Char) : CharText c (compactChar c) := by
  unfold compactChar
  split
  · next h => subst h; exact .short rfl (by decide) (by decide)
  split
  · next h => subst h; exact .short rfl (by decide) (by decide)
  split
  · next h => subst h; exact .short rfl (by decide) (by decide)
  split
  · next h => subst h; exact .short rfl (by decide) (by decide)
  split
  · next h => subst h; exact .short rfl (by decide) (by decide)
  split
  · next h => subst h; exact .short rfl (by decide) (by decide)
  split
  · next h => subst h; exact .short rfl (by decide) (by decide)
  next hquote hslash _ _ _ _ _ =>
  split
  · next hprintable => exact .itself hquote hslash hprintable
  · exact .units

section Written

variable {opening s : List Char} {t : Text} {rest : List Char}

/-- A character is written by itself, by a short escape, or in units. -/
theorem readLetters_charEscape (c : Char) (hne : s ≠ []) (hs : readLetters opening s = .ok (t, rest)) :
    readLetters opening (charEscape c ++ s) = .ok (Text.halves (.plain c) ++ t, rest) := by
  rw [charEscape, Text.halves]
  split
  · next hsmall =>
    rw [readLetters_unitEscape hsmall hne hs, ofUnit_char hsmall]
    rfl
  · next hlarge =>
    have hbound := Text.toNat_lt c
    have hlow : 0xdc00 + (c.toNat - 0x10000) % 1024 = 0xd800 + (Text.lowHalf c).val := by
      rw [Text.val_lowHalf]
      omega
    have hhigh : 0xd800 + (c.toNat - 0x10000) / 1024 = 0xd800 + (Text.highHalf c).val := by
      rw [Text.val_highHalf]
    have hsecond : unitEscape (0xdc00 + (c.toNat - 0x10000) % 1024) ++ s ≠ [] := List.cons_ne_nil _ _
    rw [List.append_assoc, readLetters_unitEscape (by omega) hsecond
      (readLetters_unitEscape (by omega) hne hs), hlow, hhigh, ofUnit_half, ofUnit_half]
    rfl

theorem readLetters_compactChar (c : Char) (hne : s ≠ []) (hs : readLetters opening s = .ok (t, rest)) :
    readLetters opening (compactChar c ++ s) = .ok (Text.halves (.plain c) ++ t, rest) := by
  have hwritten := charText_compactChar c
  generalize compactChar c = chars at hwritten ⊢
  cases hwritten with
  | short hx _ hc =>
    have hsmall : c.toNat < 0x10000 := Nat.lt_trans hc (by decide)
    rw [List.cons_append, List.singleton_append, readLetters_simple hx hs, Text.halves, if_pos hsmall]
    rfl
  | itself hquote hslash hprintable =>
    have hsmall : c.toNat < 0x10000 := Nat.lt_of_le_of_lt hprintable.2 (by decide)
    rw [List.singleton_append, readLetters_plain hquote hslash hprintable.1 hs, Text.halves, if_pos hsmall]
    rfl
  | units => exact readLetters_charEscape c hne hs

/-- A written letter is read as its halves. -/
theorem readLetters_compactLetter (l : Letter) (hne : s ≠ []) (hs : readLetters opening s = .ok (t, rest)) :
    readLetters opening (compactLetter l ++ s) = .ok (Text.halves l ++ t, rest) := by
  cases l with
  | plain c => exact readLetters_compactChar c hne hs
  | lone n =>
    have hn := n.isLt
    rw [compactLetter, readLetters_unitEscape (by omega) hne hs, ofUnit_half]
    rfl

theorem readLetters_compactLetters (opening : List Char) (t : Text) (rest : List Char) :
    readLetters opening (t.flatMap compactLetter ++ '"' :: rest) = .ok (t.flatMap Text.halves, rest) := by
  induction t with
  | nil => rw [List.flatMap_nil, List.nil_append, readLetters]; rfl
  | cons l t ih =>
    have hne : t.flatMap compactLetter ++ '"' :: rest ≠ [] :=
      List.append_ne_nil_of_right_ne_nil _ (List.cons_ne_nil _ _)
    rw [List.flatMap_cons, List.append_assoc, readLetters_compactLetter l hne ih, List.flatMap_cons]

end Written

/-- **A joined text is read from the string that is written for it.** -/
theorem readString_compact {t : Text} (h : t.Joined) (rest : List Char) :
    readString (t.flatMap compactLetter ++ '"' :: rest) = .ok (t, rest) := by
  rw [readString, readLetters_compactLetters]
  show Except.ok (Text.joinPairs (t.flatMap Text.halves), rest) = _
  rw [Text.joinPairs_halves h]

/-- What is read is joined. -/
theorem joined_of_readString {s : List Char} {t : Text} {rest : List Char}
    (h : readString s = .ok (t, rest)) : t.Joined := by
  obtain ⟨⟨letters, r⟩, -, hletters⟩ := map_eq_ok.mp h
  cases hletters
  exact Text.joined_joinPairs letters

end Json

end TokenEndpoint
