import Mathlib.Data.List.Induction
import Mathlib.Data.List.TakeDrop
import Mathlib.Data.List.TakeWhile
import TokenEndpoint.Proofs.JsonTexts
/-!
Values as they come out of a JSON text. Main statements:

* `settled_of_read` -- texts that were read are joined, integers have no more digits than are read, and the
  members of an object have distinct names;
* `within_of_read` -- lists and objects are nested no deeper than the reader had room.
-/

namespace TokenEndpoint.Json

/-! ## 1. Settled values -/

/-- A value that a text can have been read as. -/
inductive Settled : Json → Prop where
  | null : Settled null
  | bool (b : Bool) : Settled (bool b)
  | int {i : Int} (digits : (Nat.toDigits 10 i.natAbs).length ≤ Decimal.digitLimit) : Settled (int i)
  | float (x : Float) : Settled (float x)
  | string {t : Text} (joined : t.Joined) : Settled (string t)
  | array {items : List Json} (settled : ∀ v ∈ items, Settled v) : Settled (array items)
  | object {members : List (Text × Json)} (distinct : (Fields.names members).Nodup)
      (joined : ∀ m ∈ members, m.1.Joined) (settled : ∀ m ∈ members, Settled m.2) :
      Settled (object members)

/-- A value whose lists and objects are nested so deep at most. -/
inductive Within : Nat → Json → Prop where
  | null (room : Nat) : Within room null
  | bool (room : Nat) (b : Bool) : Within room (bool b)
  | int (room : Nat) (i : Int) : Within room (int i)
  | float (room : Nat) (x : Float) : Within room (float x)
  | string (room : Nat) (t : Text) : Within room (string t)
  | array {room : Nat} {items : List Json} (within : ∀ v ∈ items, Within room v) :
      Within (room + 1) (array items)
  | object {room : Nat} {members : List (Text × Json)} (within : ∀ m ∈ members, Within room m.2) :
      Within (room + 1) (object members)

theorem Within.mono {room more : Nat} {v : Json} (h : v.Within room) (hle : room ≤ more) :
    v.Within more := by
  induction h generalizing more with
  | null room => exact .null more
  | bool room b => exact .bool more b
  | int room i => exact .int more i
  | float room x => exact .float more x
  | string room t => exact .string more t
  | array _ ih =>
    obtain ⟨more, rfl⟩ := Nat.exists_eq_add_one_of_ne_zero (Nat.ne_zero_of_lt hle)
    exact .array fun v hv => ih v hv (Nat.le_of_succ_le_succ hle)
  | object _ ih =>
    obtain ⟨more, rfl⟩ := Nat.exists_eq_add_one_of_ne_zero (Nat.ne_zero_of_lt hle)
    exact .object fun m hm => ih m hm (Nat.le_of_succ_le_succ hle)

/-! ## 2. Numbers -/

theorem isDigit_bounds {c : Char} (h : c.isDigit = true) : 48 ≤ c.toNat ∧ c.toNat ≤ 57 := by
  rw [Char.isDigit, Bool.and_eq_true, decide_eq_true_eq, decide_eq_true_eq] at h
  exact h

theorem digitsValue_concat (digits : List Char) (c : Char) :
    digitsValue (digits ++ [c]) = digitsValue digits * 10 + (c.toNat - 48) := by
  rw [digitsValue, digitsValue, List.foldl_append]
  rfl

/-- So many digits write a number below that power of ten. -/
theorem digitsValue_lt {digits : List Char} (h : ∀ c ∈ digits, c.isDigit = true) :
    digitsValue digits < Nat.pow 10 digits.length := by
  induction digits using List.reverseRecOn with
  | nil => decide
  | append_singleton digits c ih =>
    have hdigits := ih fun d hd => h d (List.mem_append_left [c] hd)
    have hc := isDigit_bounds (h c (List.mem_append_right digits (List.mem_singleton_self c)))
    have hpow : Nat.pow 10 (digits ++ [c]).length = Nat.pow 10 digits.length * 10 := by
      rw [List.length_append]
      rfl
    rw [digitsValue_concat, hpow]
    omega

/-- A number has no more digits than it was read from. -/
theorem length_toDigits_le {digits : List Char} (h : ∀ c ∈ digits, c.isDigit = true) (hne : digits ≠ []) :
    (Nat.toDigits 10 (digitsValue digits)).length ≤ digits.length :=
  (Nat.length_toDigits_le_iff (by decide) (List.length_pos_iff.mpr hne)).mpr (digitsValue_lt h)

theorem takeDigits_eq (s : List Char) :
    takeDigits s = (s.takeWhile Char.isDigit, s.dropWhile Char.isDigit) :=
  List.span_eq_takeWhile_dropWhile _ s

theorem integerPart?_eq_some {s whole rest : List Char} (h : integerPart? s = some (whole, rest)) :
    whole ≠ [] ∧ ∀ c ∈ whole, c.isDigit = true := by
  unfold integerPart? at h
  split at h
  · cases h
    exact ⟨List.cons_ne_nil _ _, fun c hc => by rw [List.mem_singleton.mp hc]; rfl⟩
  · rw [takeDigits_eq] at h
    split at h
    · cases h
    · next hne =>
      rw [Option.some.injEq, Prod.mk.injEq] at h
      obtain ⟨rfl, rfl⟩ := h
      exact ⟨fun hnil => hne _ (congrArg (·, _) hnil), fun c hc => List.mem_takeWhile_imp hc⟩

/-- A value that has no inside. -/
def IsScalar (v : Json) : Prop :=
  ∀ room, v.Within room

/-- Numbers that are read have a settled value. -/
theorem settled_of_readNumber {negative : Bool} {s : List Char} {v : Json} {rest : List Char}
    (h : readNumber? negative s = some (.ok (v, rest))) : v.Settled ∧ v.IsScalar := by
  obtain ⟨⟨whole, r⟩, hwhole, hread⟩ := Option.map_eq_some_iff.mp h
  obtain ⟨hne, hdigits⟩ := integerPart?_eq_some hwhole
  dsimp only at hread
  split at hread
  · split at hread
    · cases hread
    · next hlength =>
      cases hread
      refine ⟨.int ?_, fun room => .int room _⟩
      have habs : (if negative = true then -(digitsValue whole : Int) else digitsValue whole).natAbs =
          digitsValue whole := by
        cases negative with
        | false => rfl
        | true => exact Int.natAbs_neg _
      rw [habs]
      exact Nat.le_trans (length_toDigits_le hdigits hne) (Nat.not_lt.mp hlength)
  · cases hread
    exact ⟨.float _, fun room => .float room _⟩

/-! ## 3. Values -/

theorem settled_of_readWord {s : List Char} {v : Json} {rest : List Char}
    (h : readWord? s = some (v, rest)) : v.Settled ∧ v.IsScalar := by
  obtain ⟨⟨word, w⟩, hmem, hfound⟩ := List.exists_of_findSome?_eq_some h
  obtain ⟨r, -, hr⟩ := Option.map_eq_some_iff.mp hfound
  cases hr
  simp only [List.mem_cons, List.not_mem_nil, or_false, Prod.mk.injEq] at hmem
  rcases hmem with ⟨-, rfl⟩ | ⟨-, rfl⟩ | ⟨-, rfl⟩ | ⟨-, rfl⟩ | ⟨-, rfl⟩ | ⟨-, rfl⟩
  · exact ⟨.null, fun room => .null room⟩
  · exact ⟨.bool true, fun room => .bool room true⟩
  · exact ⟨.bool false, fun room => .bool room false⟩
  · exact ⟨.float _, fun room => .float room _⟩
  · exact ⟨.float _, fun room => .float room _⟩
  · exact ⟨.float _, fun room => .float room _⟩

/-- A scalar is a word, or a number behind its sign, or there is no value. -/
theorem readScalar_cases (s : List Char) :
    (∃ found, readWord? s = some found ∧ readScalar s = .ok found) ∨
      (∃ negative r, r <:+ s ∧ readNumber? negative r = some (readScalar s)) ∨
        readScalar s = stop .value s := by
  have hgetD (number : Option (Except Stop (Json × List Char))) :
      number = some (number.getD (stop .value s)) ∨ number.getD (stop .value s) = stop .value s := by
    cases number with
    | none => exact .inr rfl
    | some outcome => exact .inl rfl
  unfold readScalar
  split
  · next found hword => exact .inl ⟨found, hword, rfl⟩
  · refine .inr ?_
    split
    · exact (hgetD _).imp_left fun h => ⟨true, _, List.suffix_cons _ _, h⟩
    · exact (hgetD _).imp_left fun h => ⟨false, _, List.suffix_rfl, h⟩

theorem settled_of_readScalar {s : List Char} {v : Json} {rest : List Char}
    (h : readScalar s = .ok (v, rest)) : v.Settled ∧ v.IsScalar := by
  rcases readScalar_cases s with ⟨found, hword, hfound⟩ | ⟨negative, r, -, hnumber⟩ | hstop
  · cases h.symm.trans hfound
    exact settled_of_readWord hword
  · exact settled_of_readNumber (hnumber.trans (congrArg some h))
  · cases h.symm.trans hstop

section Containers

variable {read : List Char → Except Stop (Json × List Char)} {budget : Nat} {s rest : List Char}

/-- Items are read one by one: the first is the last, or a comma and the others follow. -/
theorem readItems_eq_ok {items : List Json} (h : readItems read budget s = .ok (items, rest)) :
    ∃ v r, read s = .ok (v, r) ∧
      (skipSpace r = ']' :: rest ∧ items = [v] ∨
        ∃ less next more, budget = less + 1 ∧ skipSpace r = ',' :: next ∧
          readItems read less (skipSpace next) = .ok (more, rest) ∧ items = v :: more) := by
  cases budget with
  | zero => cases h
  | succ less =>
    rw [readItems] at h
    obtain ⟨⟨v, r⟩, hv, h⟩ := bind_eq_ok.mp h
    refine ⟨v, r, hv, ?_⟩
    dsimp only at h
    split at h
    · next hclose =>
      cases h
      exact .inl ⟨hclose, rfl⟩
    · next next hcomma =>
      obtain ⟨⟨more, r⟩, hmore, h⟩ := bind_eq_ok.mp h
      cases h
      exact .inr ⟨less, next, more, rfl, hcomma, hmore, rfl⟩
    · cases h

/-- The same of members, each with a name and a colon in front of its value. -/
theorem readMembers_eq_ok {members : List (Text × Json)}
    (h : readMembers read budget s = .ok (members, rest)) :
    ∃ start key r value v r', s = '"' :: start ∧ readString start = .ok (key, r) ∧
      skipSpace r = ':' :: value ∧ read (skipSpace value) = .ok (v, r') ∧
      (skipSpace r' = '\x7d' :: rest ∧ members = [(key, v)] ∨
        ∃ less next more, budget = less + 1 ∧ skipSpace r' = ',' :: next ∧
          readMembers read less (skipSpace next) = .ok (more, rest) ∧ members = (key, v) :: more) := by
  cases budget with
  | zero => cases h
  | succ less =>
    rw [readMembers.eq_def] at h
    dsimp only at h
    split at h
    · next start =>
      obtain ⟨⟨key, r⟩, hkey, h⟩ := bind_eq_ok.mp h
      dsimp only at h
      split at h
      · next value hvalue =>
        obtain ⟨⟨v, r'⟩, hv, h⟩ := bind_eq_ok.mp h
        refine ⟨start, key, r, value, v, r', rfl, hkey, hvalue, hv, ?_⟩
        dsimp only at h
        split at h
        · next hclose =>
          cases h
          exact .inl ⟨hclose, rfl⟩
        · next next hcomma =>
          obtain ⟨⟨more, r⟩, hmore, h⟩ := bind_eq_ok.mp h
          cases h
          exact .inr ⟨less, next, more, rfl, hcomma, hmore, rfl⟩
        · cases h
      · cases h
    · cases h

variable {kept : Json → Prop} (hread : ∀ {s v rest}, read s = .ok (v, rest) → kept v)
include hread

/-- What the reader of items keeps to holds of every item of a list. -/
theorem kept_of_readItems {items : List Json} (h : readItems read budget s = .ok (items, rest)) :
    ∀ v ∈ items, kept v := by
  induction budget generalizing s items with
  | zero => cases h
  | succ budget ih =>
    obtain ⟨v, r, hv, ⟨-, rfl⟩ | ⟨less, next, more, hless, -, hmore, rfl⟩⟩ := readItems_eq_ok h
    · exact List.forall_mem_singleton.mpr (hread hv)
    · cases hless
      exact List.forall_mem_cons.mpr ⟨hread hv, ih hmore⟩

/-- The same of the members of an object, whose names are joined. -/
theorem kept_of_readMembers {members : List (Text × Json)}
    (h : readMembers read budget s = .ok (members, rest)) : ∀ m ∈ members, m.1.Joined ∧ kept m.2 := by
  induction budget generalizing s members with
  | zero => cases h
  | succ budget ih =>
    obtain ⟨start, key, r, value, v, r', -, hkey, -, hv, hend⟩ := readMembers_eq_ok h
    have hfirst : key.Joined ∧ kept v := ⟨joined_of_readString hkey, hread hv⟩
    rcases hend with ⟨-, rfl⟩ | ⟨less, next, more, hless, -, hmore, rfl⟩
    · exact List.forall_mem_singleton.mpr hfirst
    · cases hless
      exact List.forall_mem_cons.mpr ⟨hfirst, ih hmore⟩

/-- What a list or an object is made of when it has been read. -/
theorem readInside_eq_ok {container : Container} {v : Json}
    (h : readInside read container s = .ok (v, rest)) :
    (∃ items, v = .array items ∧ ∀ w ∈ items, kept w) ∨
      ∃ pairs, v = .object (Fields.ofPairs pairs) ∧ ∀ m ∈ pairs, m.1.Joined ∧ kept m.2 := by
  cases container with
  | array =>
    rw [readInside] at h
    split at h
    · cases h
      exact .inl ⟨[], rfl, List.forall_mem_nil _⟩
    · obtain ⟨⟨items, r⟩, hitems, hv⟩ := map_eq_ok.mp h
      cases hv
      exact .inl ⟨items, rfl, kept_of_readItems hread hitems⟩
  | object =>
    rw [readInside] at h
    split at h
    · cases h
      exact .inr ⟨[], rfl, List.forall_mem_nil _⟩
    · obtain ⟨⟨pairs, r⟩, hpairs, hv⟩ := map_eq_ok.mp h
      cases hv
      exact .inr ⟨pairs, rfl, kept_of_readMembers hread hpairs⟩

end Containers

/-- What a value is read as: a text, a list or an object, or a scalar. -/
theorem readOpening_eq_ok {inside : Container → List Char → Except Stop (Json × List Char)}
    {s : List Char} {v : Json} {rest : List Char} (h : readOpening inside s = .ok (v, rest)) :
    (∃ t : Text, v = .string t ∧ t.Joined) ∨ (∃ container r, inside container r = .ok (v, rest)) ∨
      v.Settled ∧ v.IsScalar := by
  unfold readOpening at h
  split at h
  · obtain ⟨⟨t, r⟩, ht, hv⟩ := map_eq_ok.mp h
    cases hv
    exact .inl ⟨t, rfl, joined_of_readString ht⟩
  · exact .inr (.inl ⟨_, _, h⟩)
  · exact .inr (.inl ⟨_, _, h⟩)
  · exact .inr (.inr (settled_of_readScalar h))

theorem settled_ofPairs {pairs : List (Text × Json)} (h : ∀ m ∈ pairs, m.1.Joined ∧ m.2.Settled) :
    Settled (object (Fields.ofPairs pairs)) :=
  .object (Fields.nodup_names_ofPairs pairs) (fun m hm => (h m (Fields.mem_of_mem_ofPairs hm)).1)
    fun m hm => (h m (Fields.mem_of_mem_ofPairs hm)).2

theorem settled_of_readValue {room : Nat} {s : List Char} {v : Json} {rest : List Char}
    (h : readValue room s = .ok (v, rest)) : v.Settled := by
  induction room generalizing s v rest with
  | zero =>
    rw [readValue] at h
    rcases readOpening_eq_ok h with ⟨t, rfl, ht⟩ | ⟨container, r, hinside⟩ | ⟨hsettled, -⟩
    · exact .string ht
    · cases hinside
    · exact hsettled
  | succ room ih =>
    rw [readValue] at h
    rcases readOpening_eq_ok h with ⟨t, rfl, ht⟩ | ⟨container, r, hinside⟩ | ⟨hsettled, -⟩
    · exact .string ht
    · rcases readInside_eq_ok ih hinside with ⟨items, rfl, hitems⟩ | ⟨pairs, rfl, hpairs⟩
      · exact .array hitems
      · exact settled_ofPairs hpairs
    · exact hsettled

theorem within_of_readValue {room : Nat} {s : List Char} {v : Json} {rest : List Char}
    (h : readValue room s = .ok (v, rest)) : v.Within room := by
  induction room generalizing s v rest with
  | zero =>
    rw [readValue] at h
    rcases readOpening_eq_ok h with ⟨t, rfl, -⟩ | ⟨container, r, hinside⟩ | ⟨-, hscalar⟩
    · exact .string 0 t
    · cases hinside
    · exact hscalar 0
  | succ room ih =>
    rw [readValue] at h
    rcases readOpening_eq_ok h with ⟨t, rfl, -⟩ | ⟨container, r, hinside⟩ | ⟨-, hscalar⟩
    · exact .string _ t
    · rcases readInside_eq_ok ih hinside with ⟨items, rfl, hitems⟩ | ⟨pairs, rfl, hpairs⟩
      · exact .array hitems
      · exact .object fun m hm => (hpairs m (Fields.mem_of_mem_ofPairs hm)).2
    · exact hscalar _

/-! ## 4. Whole texts -/

/-- What is read of a whole text is read as a value of its characters behind the blanks in front. -/
theorem exists_readValue_of_read {room : Nat} {text : String} {v : Json} (h : read room text = .ok v) :
    ∃ rest, readValue room (skipSpace text.toList) = .ok (v, rest) := by
  have hall : readAll room text.toList = .ok v := mapError_eq_ok.mp h
  unfold readAll at hall
  split at hall
  · cases hall
  · obtain ⟨⟨w, r⟩, hw, hend⟩ := bind_eq_ok.mp hall
    dsimp only at hend
    split at hend
    · cases hend
      exact ⟨r, hw⟩
    · cases hend

/-- **Every value that is read is settled.** -/
theorem settled_of_read {room : Nat} {text : String} {v : Json} (h : read room text = .ok v) :
    v.Settled := by
  obtain ⟨rest, hvalue⟩ := exists_readValue_of_read h
  exact settled_of_readValue hvalue

/-- **Every value that is read is nested no deeper than there was room.** -/
theorem within_of_read {room : Nat} {text : String} {v : Json} (h : read room text = .ok v) :
    v.Within room := by
  obtain ⟨rest, hvalue⟩ := exists_readValue_of_read h
  exact within_of_readValue hvalue

end TokenEndpoint.Json
