import TokenEndpoint.Failure
import TokenEndpoint.Proofs.Base64RoundTrip
/-!
What the lenient reader takes for base64. It reads the characters of either alphabet in a part of the
text, which ends with the text or with a sign `=` that ends the data; it skips all others, and drops the
bits of the last character that complete no octet. So a text that is accepted need not be the one that
writes its octets. Main statements:

* `readAs_of_decode` -- what is read of an accepted text, and which octets it gives;
* `encodes_iff` -- an accepted text is the encoding of its octets exactly if it is of the alphabet for
  URLs and its last character has no bits left over.
-/

namespace TokenEndpoint.Base64

/-! ## 1. Values -/

/-- The values of the characters of either alphabet; other characters have none. -/
def valuesOf (s : List Char) : List Nat :=
  s.filterMap digitValue?

theorem digitValue?_lt {c : Char} {v : Nat} (h : digitValue? c = some v) : v < 64 := by
  unfold digitValue? at h
  split at h
  · next hc =>
    have hle : c.toNat ≤ 'Z'.toNat := hc.2
    cases h
    exact Nat.lt_of_le_of_lt (Nat.sub_le_sub_right hle 65) (by decide)
  split at h
  · next hc =>
    have hle : c.toNat ≤ 'z'.toNat := hc.2
    cases h
    exact Nat.lt_of_le_of_lt (Nat.sub_le_sub_right hle 71) (by decide)
  split at h
  · next hc =>
    have hle : c.toNat ≤ '9'.toNat := hc.2
    cases h
    exact Nat.lt_of_le_of_lt (Nat.add_le_add_right hle 4) (by decide)
  split at h
  · cases h
    decide
  split at h
  · cases h
    decide
  · cases h

theorem lt_of_mem_valuesOf {s : List Char} {v : Nat} (h : v ∈ valuesOf s) : v < 64 := by
  obtain ⟨c, -, hc⟩ := List.mem_filterMap.mp h
  exact digitValue?_lt hc

theorem valuesOf_cons_of_none {c : Char} (h : digitValue? c = none) (s : List Char) :
    valuesOf (c :: s) = valuesOf s :=
  List.filterMap_cons_none h

theorem valuesOf_cons_of_some {c : Char} {v : Nat} (h : digitValue? c = some v) (s : List Char) :
    valuesOf (c :: s) = v :: valuesOf s :=
  List.filterMap_cons_some h

theorem valuesOf_append (s t : List Char) : valuesOf (s ++ t) = valuesOf s ++ valuesOf t :=
  List.filterMap_append

theorem digitValue?_pad : digitValue? '=' = none := by decide

theorem valuesOf_pads (n : Nat) : valuesOf (List.replicate n '=') = [] := by
  induction n with
  | zero => rfl
  | succ n ih => rw [List.replicate_succ, valuesOf_cons_of_none digitValue?_pad, ih]

theorem valuesOf_map_urlDigit {vs : List Nat} (h : ∀ v ∈ vs, v < 64) :
    valuesOf (vs.map urlDigit) = vs := by
  induction vs with
  | nil => rfl
  | cons v rest ih =>
    obtain ⟨hv, hrest⟩ := List.forall_mem_cons.mp h
    rw [List.map_cons, valuesOf_cons_of_some (digitValue?_urlDigit hv), ih hrest]

/-- A character of the alphabet for URLs is the one of its value. -/
theorem exists_value_of_isUrlDigit {c : Char} (h : isUrlDigit c = true) :
    ∃ v, digitValue? c = some v ∧ urlDigit v = c := by
  have hall : ∀ n < 0x80, isUrlDigit (Char.ofNat n) = true →
      ∃ v ∈ digitValue? (Char.ofNat n), urlDigit v = Char.ofNat n := by decide
  have hc := hall c.toNat (toNat_lt_of_isUrlDigit h)
  rw [Char.ofNat_toNat] at hc
  obtain ⟨v, hv, heq⟩ := hc h
  exact ⟨v, hv, heq⟩

theorem map_urlDigit_valuesOf {s : List Char} (h : ∀ c ∈ s, isUrlDigit c = true) :
    (valuesOf s).map urlDigit = s := by
  induction s with
  | nil => rfl
  | cons c rest ih =>
    obtain ⟨hc, hrest⟩ := List.forall_mem_cons.mp h
    obtain ⟨v, hv, heq⟩ := exists_value_of_isUrlDigit hc
    rw [valuesOf_cons_of_some hv, List.map_cons, heq, ih hrest]

/-! ## 2. What is read -/

/-- The octets that values complete after `position` values of a group, which leave `carried` bits. -/
def octetsFrom (position carried : Nat) : List Nat → List UInt8
  | [] => []
  | v :: rest =>
    (completedOctet position carried v).toList ++
      octetsFrom ((position + 1) % 4) (carriedBits position v) rest

/-- Octets come from the values in a part of a text: all of it, or a part that a sign `=` ends. No value
is left alone in the last group. -/
def ReadFrom (position carried : Nat) (s : List Char) (octets : List UInt8) : Prop :=
  ∃ data rest, s = data ++ rest ∧ (rest = [] ∨ data.getLast? = some '=') ∧
    octets = octetsFrom position carried (valuesOf data) ∧
    (position + (valuesOf data).length) % 4 ≠ 1

namespace ReadFrom

variable {position carried v : Nat} {c : Char} {s : List Char} {octets : List UInt8}

theorem getLast?_cons_pad {data : List Char} (h : data.getLast? = some '=') (c : Char) :
    (c :: data).getLast? = some '=' := by
  rw [List.getLast?_cons, h]
  rfl

/-- A character without a value changes nothing. -/
theorem skip (hc : digitValue? c = none) (h : ReadFrom position carried s octets) :
    ReadFrom position carried (c :: s) octets := by
  obtain ⟨data, rest, rfl, hend, hoctets, hlength⟩ := h
  refine ⟨c :: data, rest, rfl, hend.imp_right (getLast?_cons_pad · c), ?_⟩
  rw [valuesOf_cons_of_none hc]
  exact ⟨hoctets, hlength⟩

theorem digit (hc : digitValue? c = some v)
    (h : ReadFrom ((position + 1) % 4) (carriedBits position v) s octets) :
    ReadFrom position carried (c :: s) ((completedOctet position carried v).toList ++ octets) := by
  obtain ⟨data, rest, rfl, hend, rfl, hlength⟩ := h
  refine ⟨c :: data, rest, rfl, hend.imp_right (getLast?_cons_pad · c), ?_⟩
  rw [valuesOf_cons_of_some hc]
  refine ⟨rfl, ?_⟩
  rw [List.length_cons]
  omega

/-- A sign that ends the data leaves what follows unread. -/
theorem ended (hposition : 2 ≤ position) (hgroup : position < 4) (s : List Char) :
    ReadFrom position carried ('=' :: s) [] := by
  refine ⟨['='], s, rfl, .inr rfl, rfl, ?_⟩
  rw [valuesOf_cons_of_none digitValue?_pad]
  show (position + 0) % 4 ≠ 1
  omega

end ReadFrom

/-- The reader goes character by character, and is in each state where the octets come from the rest. -/
theorem readFrom_of_decodeFrom {position carried pads count : Nat} {s : List Char}
    {octets : List UInt8} (hposition : position < 4)
    (h : decodeFrom position carried pads count s = .ok octets) :
    ReadFrom position carried s octets := by
  induction s generalizing position carried pads count octets with
  | nil =>
    unfold decodeFrom at h
    split at h
    · cases h
      exact ⟨[], [], rfl, .inl rfl, rfl, by decide⟩
    · cases h
    · cases h
  | cons c rest ih =>
    rw [decodeFrom] at h
    split at h
    · next hpad =>
      subst hpad
      split at h
      · next hinside =>
        split at h
        · cases h
          exact .ended hinside hposition rest
        · exact (ih hposition h).skip digitValue?_pad
      · exact (ih hposition h).skip digitValue?_pad
    · have hnext : (position + 1) % 4 < 4 := Nat.mod_lt _ (by decide)
      split at h
      · next hnone => exact (ih hposition h).skip hnone
      · next v hv =>
        dsimp only at h
        split at h
        · next hcompleted =>
          have hread : ReadFrom position carried (c :: rest)
              ((completedOctet position carried v).toList ++ octets) := (ih hnext h).digit hv
          rwa [hcompleted] at hread
        · next octet hcompleted =>
          obtain ⟨others, hothers, rfl⟩ := map_eq_ok.mp h
          have hread : ReadFrom position carried (c :: rest)
              ((completedOctet position carried v).toList ++ others) := (ih hnext hothers).digit hv
          rwa [hcompleted] at hread

/-! ## 3. The encoding of what is read -/

/-- Values without the bits of the last one that complete no octet. -/
def cleared : List Nat → List Nat
  | a :: b :: c :: d :: rest => a :: b :: c :: d :: cleared rest
  | [a, b, c] => [a, b, c / 4 * 4]
  | [a, b] => [a, b / 16 * 16]
  | [a] => [a]
  | [] => []

/-- Four values are three octets. -/
theorem octetsFrom_group (a b c d : Nat) (rest : List Nat) :
    octetsFrom 0 0 (a :: b :: c :: d :: rest) =
      .ofNat (a * 4 + b / 16) :: .ofNat (b % 16 * 16 + c / 4) :: .ofNat (c % 4 * 64 + d) ::
        octetsFrom 0 0 rest := rfl

theorem octetsFrom_three (a b c : Nat) :
    octetsFrom 0 0 [a, b, c] = [.ofNat (a * 4 + b / 16), .ofNat (b % 16 * 16 + c / 4)] := rfl

theorem octetsFrom_two (a b : Nat) : octetsFrom 0 0 [a, b] = [.ofNat (a * 4 + b / 16)] := rfl

theorem toNat_ofNat {n : Nat} (h : n < 256) : (UInt8.ofNat n).toNat = n :=
  UInt8.toNat_ofNat_of_lt' h

/-- **The encoding of what is read is what was read**, in the alphabet for URLs and without the bits
left over. -/
theorem encodeUrl_octetsFrom {values : List Nat} (h : ∀ v ∈ values, v < 64)
    (hlength : values.length % 4 ≠ 1) :
    encodeUrl (octetsFrom 0 0 values) =
      (cleared values).map urlDigit ++ padding values.length := by
  induction values using cleared.induct with
  | case1 a b c d rest ih =>
    simp only [List.forall_mem_cons] at h
    obtain ⟨ha, hb, hc, hd, hrest⟩ := h
    have hrestLength : rest.length % 4 ≠ 1 := by
      simp only [List.length_cons] at hlength
      omega
    have hpadding : padding (a :: b :: c :: d :: rest).length = padding rest.length :=
      padding_add_four rest.length
    rw [octetsFrom_group, encodeUrl_group, ih hrest hrestLength, hpadding,
      toNat_ofNat (n := a * 4 + b / 16) (by omega),
      toNat_ofNat (n := b % 16 * 16 + c / 4) (by omega), toNat_ofNat (n := c % 4 * 64 + d) (by omega)]
    have h0 : ((a * 4 + b / 16) * 65536 + (b % 16 * 16 + c / 4) * 256 + (c % 4 * 64 + d)) / 262144 =
      a := by omega
    have h1 : ((a * 4 + b / 16) * 65536 + (b % 16 * 16 + c / 4) * 256 + (c % 4 * 64 + d)) / 4096 % 64 =
      b := by omega
    have h2 : ((a * 4 + b / 16) * 65536 + (b % 16 * 16 + c / 4) * 256 + (c % 4 * 64 + d)) / 64 % 64 =
      c := by omega
    have h3 : ((a * 4 + b / 16) * 65536 + (b % 16 * 16 + c / 4) * 256 + (c % 4 * 64 + d)) % 64 =
      d := by omega
    rw [h0, h1, h2, h3]
    rfl
  | case2 a b c =>
    simp only [List.forall_mem_cons] at h
    obtain ⟨ha, hb, hc, -⟩ := h
    rw [octetsFrom_three, encodeUrl_two, toNat_ofNat (n := a * 4 + b / 16) (by omega),
      toNat_ofNat (n := b % 16 * 16 + c / 4) (by omega)]
    have h0 : ((a * 4 + b / 16) * 256 + (b % 16 * 16 + c / 4)) / 1024 = a := by omega
    have h1 : ((a * 4 + b / 16) * 256 + (b % 16 * 16 + c / 4)) / 16 % 64 = b := by omega
    have h2 : ((a * 4 + b / 16) * 256 + (b % 16 * 16 + c / 4)) % 16 * 4 = c / 4 * 4 := by omega
    rw [h0, h1, h2]
    rfl
  | case3 a b =>
    simp only [List.forall_mem_cons] at h
    obtain ⟨ha, hb, -⟩ := h
    rw [octetsFrom_two, encodeUrl_one, toNat_ofNat (n := a * 4 + b / 16) (by omega)]
    have h0 : (a * 4 + b / 16) / 4 = a := by omega
    have h1 : (a * 4 + b / 16) % 4 * 16 = b / 16 * 16 := by omega
    rw [h0, h1]
    rfl
  | case4 a => exact absurd rfl hlength
  | case5 => rfl

theorem lt_of_mem_cleared {values : List Nat} (h : ∀ v ∈ values, v < 64) :
    ∀ v ∈ cleared values, v < 64 := by
  induction values using cleared.induct with
  | case1 a b c d rest ih =>
    simp only [List.forall_mem_cons] at h
    obtain ⟨ha, hb, hc, hd, hrest⟩ := h
    simp only [cleared, List.forall_mem_cons]
    exact ⟨ha, hb, hc, hd, ih hrest⟩
  | case2 a b c =>
    simp only [List.forall_mem_cons] at h
    obtain ⟨ha, hb, hc, -⟩ := h
    simp only [cleared, List.forall_mem_cons]
    exact ⟨ha, hb, by omega, List.forall_mem_nil _⟩
  | case3 a b =>
    simp only [List.forall_mem_cons] at h
    obtain ⟨ha, hb, -⟩ := h
    simp only [cleared, List.forall_mem_cons]
    exact ⟨ha, by omega, List.forall_mem_nil _⟩
  | case4 a => exact h
  | case5 => exact h

/-! ## 4. Signs at the end -/

/-- The text without the signs `=` at its end. -/
def unpadded (s : List Char) : List Char :=
  (s.reverse.dropWhile (· == '=')).reverse

/-- A text is what is left of it and signs. -/
theorem exists_eq_unpadded_append (s : List Char) :
    ∃ n, s = unpadded s ++ List.replicate n '=' := by
  have hsigns : ∀ c ∈ s.reverse.takeWhile (· == '='), c = '=' := fun c hc =>
    eq_of_beq (List.all_eq_true.mp List.all_takeWhile c hc)
  refine ⟨(s.reverse.takeWhile (· == '=')).length, ?_⟩
  rw [unpadded, ← List.reverse_replicate, ← List.eq_replicate_of_mem hsigns, ← List.reverse_append,
    List.takeWhile_append_dropWhile, List.reverse_reverse]

theorem unpadded_append_pads {digits : List Char} (h : '=' ∉ digits) (n : Nat) :
    unpadded (digits ++ List.replicate n '=') = digits := by
  have hsigns : ∀ c ∈ List.replicate n '=', (c == '=') = true := fun c hc =>
    beq_iff_eq.mpr (List.eq_of_mem_replicate hc)
  have hdigits : digits.reverse.dropWhile (· == '=') = digits.reverse := by
    cases hreverse : digits.reverse with
    | nil => rfl
    | cons c rest =>
      have hc : c ≠ '=' := by
        rintro rfl
        exact h (List.mem_reverse.mp (hreverse ▸ List.mem_cons_self))
      exact List.dropWhile_cons_of_neg (by simpa using hc)
  rw [unpadded, List.reverse_append, List.reverse_replicate, List.dropWhile_append_of_pos hsigns,
    hdigits, List.reverse_reverse]

theorem pad_not_mem_of_digits {s : List Char} (h : ∀ c ∈ s, isUrlDigit c = true) : '=' ∉ s :=
  List.count_eq_zero.mp (count_pad_of_digits h)

theorem isUrlDigit_of_mem_unpadded_encodeUrl (octets : List UInt8) :
    ∀ c ∈ unpadded (encodeUrl octets), isUrlDigit c = true := by
  obtain ⟨digits, hoctets, hdigits⟩ := encodeUrl_eq_append_padding octets
  rw [hoctets, padding, unpadded_append_pads (pad_not_mem_of_digits hdigits)]
  exact hdigits

/-! ## 5. Accepted texts -/

/-- The octets of a text are those of a part of it, all of it or as far as a sign `=` that ends the data:
of the characters of either alphabet in that part, which all others do not disturb, without the bits
left over. -/
def ReadAs (s : List Char) (octets : List UInt8) : Prop :=
  ∃ data rest, s = data ++ rest ∧ (rest = [] ∨ data.getLast? = some '=') ∧
    unpadded (encodeUrl octets) = (cleared (valuesOf data)).map urlDigit

/-- **What is read of a text that is accepted.** -/
theorem readAs_of_decode {s : List Char} {octets : List UInt8} (h : decode s = .ok octets) :
    ReadAs s octets := by
  have hread : ReadFrom 0 0 s octets := readFrom_of_decodeFrom (by decide) h
  obtain ⟨data, rest, hsplit, hend, hoctets, hlength⟩ := hread
  rw [Nat.zero_add] at hlength
  have hvalues : ∀ v ∈ valuesOf data, v < 64 := fun v hv => lt_of_mem_valuesOf hv
  have hsigns : '=' ∉ (cleared (valuesOf data)).map urlDigit := by
    intro hmem
    obtain ⟨v, hv, heq⟩ := List.mem_map.mp hmem
    exact urlDigit_ne_pad v (lt_of_mem_cleared hvalues v hv) heq
  refine ⟨data, rest, hsplit, hend, ?_⟩
  rw [hoctets, encodeUrl_octetsFrom hvalues hlength, padding, unpadded_append_pads hsigns]

/-- Where signs stand at the end only, all characters in front of them are read. -/
theorem valuesOf_eq_of_append_pads {digits data rest : List Char} {n : Nat} (h : '=' ∉ digits)
    (hsplit : digits ++ List.replicate n '=' = data ++ rest)
    (hend : rest = [] ∨ data.getLast? = some '=') : valuesOf data = valuesOf digits := by
  rcases List.append_eq_append_iff.mp hsplit with ⟨signs, rfl, hsigns⟩ | ⟨others, rfl, rfl⟩
  · have hnone : valuesOf signs = [] := by
      have hpads := valuesOf_pads n
      rw [hsigns, valuesOf_append] at hpads
      exact (List.append_eq_nil_iff.mp hpads).1
    rw [valuesOf_append, hnone, List.append_nil]
  · rcases hend with hrest | hsign
    · rw [(List.append_eq_nil_iff.mp hrest).1, List.append_nil]
    · exact absurd (List.mem_append_left _ (List.mem_of_getLast? hsign)) h

/-- A text is the encoding of octets, with any number of signs after it. -/
def Encodes (s : List Char) (octets : List UInt8) : Prop :=
  unpadded s = unpadded (encodeUrl octets)

/-- The last character has no bits that complete no octet. -/
def NothingLeft (s : List Char) : Prop :=
  cleared (valuesOf s) = valuesOf s

/-- **An accepted text is the encoding of its octets exactly if it is of the alphabet for URLs and has
nothing left over.** -/
theorem encodes_iff {s : List Char} {octets : List UInt8}
    (h : decode (s ++ padding s.length) = .ok octets) :
    Encodes s octets ↔
      (∀ c ∈ unpadded s, isUrlDigit c = true) ∧ NothingLeft (unpadded s) := by
  obtain ⟨data, rest, hsplit, hend, hread⟩ := readAs_of_decode h
  obtain ⟨n, hs⟩ := exists_eq_unpadded_append s
  have hpadded : unpadded s ++ List.replicate (n + (4 - s.length % 4) % 4) '=' = data ++ rest := by
    rw [← hsplit, padding, ← List.replicate_append_replicate, ← List.append_assoc, ← hs]
  have hvalues (hdigits : ∀ c ∈ unpadded s, isUrlDigit c = true) :
      valuesOf data = valuesOf (unpadded s) :=
    valuesOf_eq_of_append_pads (pad_not_mem_of_digits hdigits) hpadded hend
  constructor
  · intro hencodes
    have hdigits : ∀ c ∈ unpadded s, isUrlDigit c = true := by
      rw [hencodes]
      exact isUrlDigit_of_mem_unpadded_encodeUrl octets
    refine ⟨hdigits, ?_⟩
    have hcleared : ∀ v ∈ cleared (valuesOf (unpadded s)), v < 64 :=
      lt_of_mem_cleared fun v hv => lt_of_mem_valuesOf hv
    rw [Encodes, hread, hvalues hdigits] at hencodes
    have hagain := congrArg valuesOf hencodes
    rw [valuesOf_map_urlDigit hcleared] at hagain
    exact hagain.symm
  · rintro ⟨hdigits, hnothing⟩
    rw [Encodes, hread, hvalues hdigits, hnothing, map_urlDigit_valuesOf hdigits]

end TokenEndpoint.Base64
