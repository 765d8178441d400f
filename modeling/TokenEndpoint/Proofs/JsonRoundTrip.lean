import TokenEndpoint.Proofs.JsonValues
/-!
Compact JSON is read as the value that it was written for. The value must be settled, for of other values
there is something that no text says: an order of members with one name, two letters where one character is
read, digits beyond the limit. Floating-point numbers are left out; their text is a matter of its own. Main
statement:

* `read_compact` -- reading the compact text of such a value gives the value.
-/

namespace TokenEndpoint.Json

/-! ## 1. Values without floating-point numbers -/

/-- Objects, lists, texts, integers, truth values and nulls, at every depth. -/
inductive FloatFree : Json → Prop where
  | null : FloatFree null
  | bool (b : Bool) : FloatFree (bool b)
  | int (i : Int) : FloatFree (int i)
  | string (t : Text) : FloatFree (string t)
  | array {items : List Json} (free : ∀ v ∈ items, FloatFree v) : FloatFree (array items)
  | object {members : List (Text × Json)} (free : ∀ m ∈ members, FloatFree m.2) :
      FloatFree (object members)

/-! ## 2. What may follow a value -/

/-- The end of the text, or a character that goes on with a list or an object. -/
def Ends : List Char → Prop
  | [] => True
  | c :: _ => c = ',' ∨ c = ']' ∨ c = '\x7d'

variable {rest : List Char}

theorem ends_cons {c : Char} (h : c ∈ [',', ']', '\x7d']) (rest : List Char) : Ends (c :: rest) := by
  show c = ',' ∨ c = ']' ∨ c = '\x7d'
  simpa using h

theorem Ends.not_isDigit (h : Ends rest) : ∀ c ∈ rest.head?, c.isDigit = false := by
  intro c hc
  cases rest with
  | nil => cases hc
  | cons d s =>
    cases hc
    rcases h with rfl | rfl | rfl <;> rfl

theorem Ends.fractionPart (h : Ends rest) : fractionPart rest = ([], rest) := by
  cases rest with
  | nil => rfl
  | cons c s => rcases h with rfl | rfl | rfl <;> rfl

theorem Ends.exponentPart (h : Ends rest) : exponentPart rest = (none, rest) := by
  cases rest with
  | nil => rfl
  | cons c s => rcases h with rfl | rfl | rfl <;> rfl

/-! ## 3. Numbers -/

/-- Digits are taken up to the first other character. -/
theorem takeDigits_append {digits : List Char} (h : ∀ c ∈ digits, c.isDigit = true)
    (hrest : ∀ c ∈ rest.head?, c.isDigit = false) : takeDigits (digits ++ rest) = (digits, rest) := by
  rw [takeDigits_eq, List.takeWhile_append_of_pos h, List.dropWhile_append_of_pos h]
  cases rest with
  | nil => rw [List.takeWhile_nil, List.append_nil, List.dropWhile_nil]
  | cons c s =>
    have hc : ¬ c.isDigit = true := Bool.eq_false_iff.mp (hrest c rfl)
    rw [List.takeWhile_cons_of_neg hc, List.append_nil, List.dropWhile_cons_of_neg hc]

theorem digitsValue_toDigits (n : Nat) : digitsValue (Nat.toDigits 10 n) = n := by
  have hstep : (fun (k : Nat) (c : Char) => k * 10 + (c.toNat - 48)) =
      fun (k : Nat) (c : Char) => 10 * k + (c.toNat - '0'.toNat) := by
    funext k c
    rw [Nat.mul_comm]
    rfl
  rw [digitsValue, hstep]
  exact Nat.ofDigitChars_ten_toDigits

theorem isDigit_toDigits {n : Nat} : ∀ c ∈ Nat.toDigits 10 n, c.isDigit = true :=
  fun _ => Nat.isDigit_of_mem_toDigits (by decide) (by decide)

theorem exists_digit_toDigits (n : Nat) : ∃ d s, Nat.toDigits 10 n = d :: s ∧ d.isDigit = true := by
  obtain ⟨d, s, hdigits⟩ := List.exists_cons_of_ne_nil (Nat.toDigits_ne_nil (n := n) (b := 10))
  exact ⟨d, s, hdigits, isDigit_toDigits d (hdigits ▸ List.mem_cons_self)⟩

/-- A number other than zero is not written with a zero in front. -/
theorem exists_first_toDigits {n : Nat} (h : 0 < n) :
    ∃ d s, Nat.toDigits 10 n = d :: s ∧ d ≠ '0' := by
  induction n using Nat.strongRecOn with
  | _ n ih =>
    rw [Nat.toDigits_eq_if (by decide)]
    split
    · exact ⟨_, _, rfl, fun hzero => Nat.ne_of_gt h (Nat.digitChar_eq_zero.mp hzero)⟩
    · obtain ⟨d, s, hdigits, hd⟩ := ih (n / 10) (by omega) (by omega)
      exact ⟨d, _, by rw [hdigits]; rfl, hd⟩

theorem integerPart?_toDigits (n : Nat) (hrest : Ends rest) :
    integerPart? (Nat.toDigits 10 n ++ rest) = some (Nat.toDigits 10 n, rest) := by
  rcases Nat.eq_zero_or_pos n with rfl | hpos
  · rw [Nat.toDigits_zero]
    rfl
  · have htake := takeDigits_append (isDigit_toDigits (n := n)) hrest.not_isDigit
    obtain ⟨d, s, hdigits, hd⟩ := exists_first_toDigits hpos
    rw [hdigits] at htake ⊢
    rw [integerPart?, htake]
    intro r hzero
    exact hd (List.cons.inj hzero).1

/-- The digits of a number that is not too long are read as the number. -/
theorem readNumber?_toDigits (negative : Bool) {n : Nat}
    (hlimit : (Nat.toDigits 10 n).length ≤ Decimal.digitLimit) (hrest : Ends rest) :
    readNumber? negative (Nat.toDigits 10 n ++ rest) =
      some (.ok (.int (if negative then -(n : Int) else n), rest)) := by
  rw [readNumber?, integerPart?_toDigits n hrest, Option.map_some]
  dsimp only
  rw [hrest.fractionPart]
  dsimp only
  rw [hrest.exponentPart]
  dsimp only
  rw [if_neg (Nat.not_lt.mpr hlimit), digitsValue_toDigits]
  rfl

theorem toList_ofNat (n : Nat) : (toString (Int.ofNat n)).toList = Nat.toDigits 10 n :=
  Nat.toList_repr

theorem toList_negSucc (n : Nat) : (toString (Int.negSucc n)).toList = '-' :: Nat.toDigits 10 (n + 1) := by
  rw [Int.toString_eq_repr, Int.repr, String.toList_append, Nat.toList_repr]
  rfl

theorem ne_of_isDigit {c d : Char} (hc : c.isDigit = false) (hd : d.isDigit = true) : c ≠ d := by
  rintro rfl
  exact Bool.false_ne_true (hc.symm.trans hd)

theorem after?_of_ne {w c : Char} (h : w ≠ c) (ws r : List Char) : after? (w :: ws) (c :: r) = none :=
  if_neg h

/-- Digits do not begin a word, nor do they after a sign. -/
theorem readWord?_of_digit {d : Char} (hd : d.isDigit = true) (s : List Char) :
    readWord? (d :: s) = none ∧ readWord? ('-' :: d :: s) = none := by
  have hletter {w : Char} (hw : w.isDigit = false) (ws : List Char) : after? (w :: ws) (d :: s) = none :=
    after?_of_ne (ne_of_isDigit hw hd) ws s
  constructor
  · have hn : after? "null".toList (d :: s) = none := hletter rfl _
    have ht : after? "true".toList (d :: s) = none := hletter rfl _
    have hf : after? "false".toList (d :: s) = none := hletter rfl _
    have hN : after? "NaN".toList (d :: s) = none := hletter rfl _
    have hI : after? "Infinity".toList (d :: s) = none := hletter rfl _
    have hsign : after? "-Infinity".toList (d :: s) = none := hletter rfl _
    simp only [readWord?, List.findSome?_cons, List.findSome?_nil, hn, ht, hf, hN, hI, hsign, Option.map_none]
  · have hI : after? "-Infinity".toList ('-' :: d :: s) = none := hletter (w := 'I') rfl _
    simp only [readWord?, List.findSome?_cons, List.findSome?_nil, hI, Option.map_none]
    rfl

/-- An integer that is not too long is read from its text. -/
theorem readScalar_int {i : Int} (hlimit : (Nat.toDigits 10 i.natAbs).length ≤ Decimal.digitLimit)
    (hrest : Ends rest) : readScalar ((toString i).toList ++ rest) = .ok (.int i, rest) := by
  cases i with
  | ofNat n =>
    have hnumber := readNumber?_toDigits false (n := n) hlimit hrest
    obtain ⟨d, s, hdigits, hd⟩ := exists_digit_toDigits n
    rw [toList_ofNat]
    rw [hdigits] at hnumber ⊢
    rw [List.cons_append] at hnumber ⊢
    have hunsigned : ∀ r, d :: (s ++ rest) = '-' :: r → False :=
      fun r h => ne_of_isDigit rfl hd (List.cons.inj h).1.symm
    rw [readScalar, (readWord?_of_digit hd _).1]
    · dsimp only
      rw [hnumber]
      rfl
    · exact hunsigned
  | negSucc n =>
    have hnumber := readNumber?_toDigits true (n := n + 1) hlimit hrest
    obtain ⟨d, s, hdigits, hd⟩ := exists_digit_toDigits (n + 1)
    rw [toList_negSucc]
    rw [hdigits] at hnumber ⊢
    rw [List.cons_append, List.cons_append, readScalar, (readWord?_of_digit hd _).2]
    dsimp only
    rw [← List.cons_append, hnumber]
    rfl

/-! ## 4. First characters -/

/-- A text that a value may begin: no blank is in front, and no list or object ends. -/
def Opens : List Char → Prop
  | [] => False
  | c :: _ => isSpace c = false ∧ c ≠ ']' ∧ c ≠ '\x7d' ∧ c ≠ '\ufeff'

variable {s : List Char}

theorem Opens.append (h : Opens s) (rest : List Char) : Opens (s ++ rest) := by
  cases s with
  | nil => exact h.elim
  | cons c s => exact h

theorem Opens.skipSpace (h : Opens s) : skipSpace s = s := by
  cases s with
  | nil => exact h.elim
  | cons c s => exact List.dropWhile_cons_of_neg (Bool.eq_false_iff.mp h.1)

theorem opens_of_isDigit {d : Char} (hd : d.isDigit = true) (s : List Char) : Opens (d :: s) := by
  have hne {c : Char} (hc : c.isDigit = false) : d ≠ c := (ne_of_isDigit hc hd).symm
  refine ⟨?_, hne rfl, hne rfl, hne rfl⟩
  rw [isSpace, beq_false_of_ne (hne rfl), beq_false_of_ne (hne rfl), beq_false_of_ne (hne rfl),
    beq_false_of_ne (hne rfl)]
  rfl

theorem opens_mark {c : Char} (h : c ∈ ['"', '[', '\x7b', '-']) (s : List Char) : Opens (c :: s) := by
  simp only [List.mem_cons, List.not_mem_nil, or_false] at h
  rcases h with rfl | rfl | rfl | rfl <;> exact ⟨rfl, by decide, by decide, by decide⟩

theorem opens_compactChars {v : Json} (h : v.FloatFree) : Opens (compactChars v) := by
  cases h with
  | null => exact ⟨rfl, by decide, by decide, by decide⟩
  | bool b => cases b <;> exact ⟨rfl, by decide, by decide, by decide⟩
  | int i =>
    rw [compactChars]
    cases i with
    | ofNat n =>
      obtain ⟨d, s, hdigits, hd⟩ := exists_digit_toDigits n
      rw [toList_ofNat, hdigits]
      exact opens_of_isDigit hd s
    | negSucc n =>
      rw [toList_negSucc]
      exact opens_mark (by decide) _
  | string t =>
    rw [compactChars, compactText]
    exact opens_mark (by decide) _
  | array _ =>
    rw [compactChars]
    exact opens_mark (by decide) _
  | object _ =>
    rw [compactChars]
    exact opens_mark (by decide) _

/-! ## 5. Lists -/

theorem compactItems_cons_cons (v w : Json) (items : List Json) :
    compactItems (v :: w :: items) = compactChars v ++ ',' :: compactItems (w :: items) := by
  rw [compactItems]
  exact fun h => by cases h

theorem opens_compactItems {v : Json} (h : v.FloatFree) (items : List Json) :
    Opens (compactItems (v :: items)) := by
  cases items with
  | nil =>
    rw [compactItems]
    exact (opens_compactChars h).append _
  | cons w items =>
    rw [compactItems_cons_cons]
    exact (opens_compactChars h).append _

/-- The text of a list is longer than the list. -/
theorem length_compactItems (items : List Json) : items.length ≤ (compactItems items).length := by
  induction items with
  | nil => exact Nat.zero_le _
  | cons v items ih =>
    cases items with
    | nil =>
      rw [compactItems, List.length_append]
      exact Nat.le_add_left 1 _
    | cons w items =>
      rw [compactItems_cons_cons, List.length_append]
      exact Nat.le_add_left_of_le (Nat.succ_le_succ ih)

section Reading

variable {read : List Char → Except Stop (Json × List Char)}

/-- Items that are read one by one are read as a list. -/
theorem readItems_compact {items : List Json} (hne : items ≠ []) (hfree : ∀ v ∈ items, v.FloatFree)
    (hread : ∀ v ∈ items, ∀ {rest}, Ends rest → read (compactChars v ++ rest) = .ok (v, rest))
    {budget : Nat} (hbudget : items.length ≤ budget) (rest : List Char) :
    readItems read budget (compactItems items ++ rest) = .ok (items, rest) := by
  induction items generalizing budget with
  | nil => exact absurd rfl hne
  | cons v items ih =>
    obtain ⟨hv, hitems⟩ := List.forall_mem_cons.mp hread
    obtain ⟨budget, rfl⟩ := Nat.exists_eq_succ_of_ne_zero (Nat.ne_zero_of_lt hbudget)
    cases items with
    | nil =>
      rw [compactItems, List.append_assoc, List.singleton_append, readItems, hv (ends_cons (by decide) rest)]
      rfl
    | cons w items =>
      have hopens := (opens_compactItems (hfree w (by simp)) items).append rest
      have hmore := ih (List.cons_ne_nil w items) (fun u hu => hfree u (List.mem_cons_of_mem v hu)) hitems
        (Nat.le_of_succ_le_succ hbudget)
      rw [compactItems_cons_cons, List.append_assoc, List.cons_append, readItems,
        hv (ends_cons (by decide) _), ok_bind]
      show (readItems read budget (skipSpace (compactItems (w :: items) ++ rest)) >>= _) = _
      rw [hopens.skipSpace, hmore]
      rfl

end Reading

/-! ## 6. Objects -/

theorem compactText_append (t : Text) (rest : List Char) :
    compactText t ++ rest = '"' :: (t.flatMap compactLetter ++ '"' :: rest) := by
  rw [compactText, List.append_assoc]
  rfl

theorem compactMembers_singleton (k : Text) (v : Json) :
    compactMembers [(k, v)] = compactText k ++ ':' :: (compactChars v ++ ['\x7d']) := by
  rw [compactMembers, List.append_assoc]
  rfl

theorem compactMembers_cons_cons (k : Text) (v : Json) (m : Text × Json) (members : List (Text × Json)) :
    compactMembers ((k, v) :: m :: members) =
      compactText k ++ ':' :: (compactChars v ++ ',' :: compactMembers (m :: members)) := by
  rw [compactMembers, List.append_assoc]
  · rfl
  · exact fun h => by cases h

theorem opens_compactMembers (m : Text × Json) (members : List (Text × Json)) :
    Opens (compactMembers (m :: members)) := by
  have hquote (t : Text) : Opens (compactText t) := opens_mark (by decide) _
  cases members with
  | nil =>
    rw [compactMembers_singleton]
    exact (hquote m.1).append _
  | cons next members =>
    rw [compactMembers_cons_cons]
    exact (hquote m.1).append _

/-- The text of an object is longer than its list of members. -/
theorem length_compactMembers (members : List (Text × Json)) :
    members.length ≤ (compactMembers members).length := by
  induction members with
  | nil => exact Nat.zero_le _
  | cons m members ih =>
    obtain ⟨k, v⟩ := m
    cases members with
    | nil =>
      rw [compactMembers_singleton]
      simp only [List.length_append, List.length_cons, List.length_nil]
      omega
    | cons next members =>
      rw [compactMembers_cons_cons]
      simp only [List.length_append, List.length_cons] at ih ⊢
      omega

/-- Members whose values are read one by one are read as an object, if their names are joined. -/
theorem readMembers_compact {read : List Char → Except Stop (Json × List Char)}
    {members : List (Text × Json)} (hne : members ≠ []) (hjoined : ∀ m ∈ members, m.1.Joined)
    (hfree : ∀ m ∈ members, m.2.FloatFree)
    (hread : ∀ m ∈ members, ∀ {rest}, Ends rest → read (compactChars m.2 ++ rest) = .ok (m.2, rest))
    {budget : Nat} (hbudget : members.length ≤ budget) (rest : List Char) :
    readMembers read budget (compactMembers members ++ rest) = .ok (members, rest) := by
  induction members generalizing budget with
  | nil => exact absurd rfl hne
  | cons m members ih =>
    obtain ⟨k, v⟩ := m
    obtain ⟨hv, hmembers⟩ := List.forall_mem_cons.mp hread
    obtain ⟨hk, hnames⟩ := List.forall_mem_cons.mp hjoined
    obtain ⟨hfirst, hvalues⟩ := List.forall_mem_cons.mp hfree
    obtain ⟨budget, rfl⟩ := Nat.exists_eq_succ_of_ne_zero (Nat.ne_zero_of_lt hbudget)
    have hskip (rest : List Char) : skipSpace (compactChars v ++ rest) = compactChars v ++ rest :=
      ((opens_compactChars hfirst).append rest).skipSpace
    cases members with
    | nil =>
      rw [compactMembers_singleton, List.append_assoc, compactText_append, List.cons_append,
        List.append_assoc, readMembers, readString_compact hk, ok_bind]
      show (read (skipSpace (compactChars v ++ '\x7d' :: rest)) >>= _) = _
      rw [hskip, hv (ends_cons (by decide) rest)]
      rfl
    | cons next members =>
      have hmore := ih (List.cons_ne_nil next members) hnames hvalues hmembers
        (Nat.le_of_succ_le_succ hbudget)
      rw [compactMembers_cons_cons, List.append_assoc, compactText_append, List.cons_append,
        List.append_assoc, readMembers, readString_compact hk, ok_bind]
      show (read (skipSpace (compactChars v ++ ',' :: (compactMembers (next :: members) ++ rest))) >>= _) = _
      rw [hskip, hv (ends_cons (by decide) _), ok_bind]
      show (readMembers read budget (skipSpace (compactMembers (next :: members) ++ rest)) >>= _) = _
      rw [((opens_compactMembers next members).append rest).skipSpace, hmore]
      rfl

/-! ## 7. Values -/

/-- Whatever room is left, a value is read by what it begins with. -/
theorem exists_readOpening (room : Nat) : ∃ inside, ∀ s, readValue room s = readOpening inside s := by
  cases room with
  | zero => exact ⟨_, fun s => rfl⟩
  | succ room => exact ⟨_, fun s => rfl⟩

theorem readValue_int {i : Int} (hlimit : (Nat.toDigits 10 i.natAbs).length ≤ Decimal.digitLimit)
    (room : Nat) (hrest : Ends rest) :
    readValue room (compactChars (int i) ++ rest) = .ok (int i, rest) := by
  obtain ⟨inside, hinside⟩ := exists_readOpening room
  have hscalar {c : Char} {s : List Char} (hc : c ≠ '"' ∧ c ≠ '[' ∧ c ≠ '\x7b') :
      readValue room (c :: s) = readScalar (c :: s) := by
    rw [hinside, readOpening]
    · exact fun r h => hc.1 (List.cons.inj h).1
    · exact fun r h => hc.2.1 (List.cons.inj h).1
    · exact fun r h => hc.2.2 (List.cons.inj h).1
  have hread := readScalar_int hlimit hrest
  rw [compactChars]
  cases i with
  | ofNat n =>
    obtain ⟨d, s, hdigits, hd⟩ := exists_digit_toDigits n
    have hne {c : Char} (hc : c.isDigit = false) : d ≠ c := (ne_of_isDigit hc hd).symm
    rw [toList_ofNat, hdigits] at hread ⊢
    exact (hscalar ⟨hne rfl, hne rfl, hne rfl⟩).trans hread
  | negSucc n =>
    rw [toList_negSucc] at hread ⊢
    exact (hscalar (by decide)).trans hread

theorem readValue_bracket (h : Opens s) (room : Nat) : readValue (room + 1) ('[' :: s) =
    (readItems (readValue room) (s.length + 1) s).map fun (vs, rest) => (array vs, rest) := by
  rw [readValue, readOpening, readInside, h.skipSpace]
  split
  · exact absurd rfl h.2.1
  · rfl

theorem readValue_brace (h : Opens s) (room : Nat) : readValue (room + 1) ('\x7b' :: s) =
    (readMembers (readValue room) (s.length + 1) s).map
      fun (ms, rest) => (object (Fields.ofPairs ms), rest) := by
  rw [readValue, readOpening, readInside, h.skipSpace]
  split
  · exact absurd rfl h.2.2.1
  · rfl

section Containers

variable {room : Nat}

theorem readValue_array {items : List Json} (hfree : ∀ v ∈ items, v.FloatFree)
    (hread : ∀ v ∈ items, ∀ {rest}, Ends rest →
      readValue room (compactChars v ++ rest) = .ok (v, rest)) (rest : List Char) :
    readValue (room + 1) (compactChars (array items) ++ rest) = .ok (array items, rest) := by
  rw [compactChars]
  cases items with
  | nil => rw [compactItems]; rfl
  | cons v items =>
    have hopens := (opens_compactItems (hfree v List.mem_cons_self) items).append rest
    have hcount := length_compactItems (v :: items)
    rw [List.cons_append, readValue_bracket hopens,
      readItems_compact (List.cons_ne_nil v items) hfree hread (by rw [List.length_append]; omega)]
    rfl

theorem readValue_object {members : List (Text × Json)} (hdistinct : (Fields.names members).Nodup)
    (hjoined : ∀ m ∈ members, m.1.Joined) (hfree : ∀ m ∈ members, m.2.FloatFree)
    (hread : ∀ m ∈ members, ∀ {rest}, Ends rest →
      readValue room (compactChars m.2 ++ rest) = .ok (m.2, rest)) (rest : List Char) :
    readValue (room + 1) (compactChars (object members) ++ rest) = .ok (object members, rest) := by
  rw [compactChars]
  cases members with
  | nil => rw [compactMembers]; rfl
  | cons m members =>
    have hopens := (opens_compactMembers m members).append rest
    have hcount := length_compactMembers (m :: members)
    rw [List.cons_append, readValue_brace hopens, readMembers_compact (List.cons_ne_nil m members) hjoined
      hfree hread (by rw [List.length_append]; omega)]
    show Except.ok (object (Fields.ofPairs (m :: members)), rest) = _
    rw [Fields.ofPairs_of_nodup hdistinct]

end Containers

/-- A value is read from its text and what ends it, if there is room for its lists and objects. -/
theorem readValue_compact {room : Nat} {v : Json} (hfree : v.FloatFree) (hsettled : v.Settled)
    (hwithin : v.Within room) (hrest : Ends rest) :
    readValue room (compactChars v ++ rest) = .ok (v, rest) := by
  induction hwithin generalizing rest with
  | null room =>
    obtain ⟨inside, hinside⟩ := exists_readOpening room
    rw [hinside, compactChars]
    rfl
  | bool room b =>
    obtain ⟨inside, hinside⟩ := exists_readOpening room
    rw [hinside, compactChars]
    cases b <;> rfl
  | int room i =>
    cases hsettled with
    | int hdigits => exact readValue_int hdigits room hrest
  | float room x => cases hfree
  | string room t =>
    obtain ⟨inside, hinside⟩ := exists_readOpening room
    cases hsettled with
    | string hjoined =>
      rw [hinside, compactChars, compactText_append, readOpening, readString_compact hjoined]
      rfl
  | array _ ih =>
    cases hfree with
    | array hitems =>
      cases hsettled with
      | array hsettled =>
        exact readValue_array hitems (fun w hw r hr => ih w hw (hitems w hw) (hsettled w hw) hr) rest
  | object _ ih =>
    cases hfree with
    | object hmembers =>
      cases hsettled with
      | object hdistinct hjoined hsettled =>
        exact readValue_object hdistinct hjoined hmembers
          (fun m hm r hr => ih m hm (hmembers m hm) (hsettled m hm) hr) rest

/-- A text that is one value from the start to the end is read as the value. -/
theorem readAll_of_readValue {room : Nat} {v : Json} (h : Opens s)
    (hvalue : readValue room s = .ok (v, [])) : readAll room s = .ok v := by
  unfold readAll
  split
  · exact absurd rfl h.2.2.2
  · rw [h.skipSpace, hvalue]
    rfl

/-- **The compact text of a settled value without floating-point numbers is read as the value**, if there
is room for it. -/
theorem read_compact {room : Nat} {v : Json} (hfree : v.FloatFree) (hsettled : v.Settled)
    (hwithin : v.Within room) : read room v.compact = .ok v := by
  have hvalue : readValue room (compactChars v ++ []) = .ok (v, []) :=
    readValue_compact hfree hsettled hwithin trivial
  rw [List.append_nil] at hvalue
  refine mapError_eq_ok.mpr ?_
  rw [compact, String.toList_ofList]
  exact readAll_of_readValue (opens_compactChars hfree) hvalue

end TokenEndpoint.Json
