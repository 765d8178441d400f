import TokenEndpoint.Text.Base64
/-!
Reading base64 in the alphabet for URLs gives back what was written, whatever number of the `=` at its
end was left out before the text was padded again. Main statements:

* `decode_encodeUrl` -- a text is read back as it was written;
* `encodeUrl_eq_append_padding` -- of which characters a text is made;
* `Writes.append_padding` -- padding puts back what was left out.
-/

namespace TokenEndpoint.Base64

/-! ## 1. Characters -/

/-- A character of the alphabet for URLs by its value. -/
def urlDigit (n : Nat) : Char :=
  toUrlAlphabet (digit n)

/-- Both alphabets are read alike. -/
theorem digitValue?_toUrlAlphabet (c : Char) : digitValue? (toUrlAlphabet c) = digitValue? c := by
  unfold toUrlAlphabet
  split
  · next h =>
    rw [h]
    decide
  · split
    · next h =>
      rw [h]
      decide
    · rfl

theorem digitValue?_urlDigit {n : Nat} (h : n < 64) : digitValue? (urlDigit n) = some n :=
  (digitValue?_toUrlAlphabet _).trans (digitValue?_digit n h)

theorem urlDigit_ne_pad : ∀ n < 64, urlDigit n ≠ '=' := by decide

/-- A letter, a digit, a hyphen or an underscore. -/
def isUrlDigit (c : Char) : Bool :=
  ('A' ≤ c && c ≤ 'Z') || ('a' ≤ c && c ≤ 'z') || ('0' ≤ c && c ≤ '9') || c == '-' || c == '_'

theorem isUrlDigit_urlDigit : ∀ n < 64, isUrlDigit (urlDigit n) = true := by decide

theorem toNat_lt_of_isUrlDigit {c : Char} (h : isUrlDigit c = true) : c.toNat < 0x80 := by
  simp only [isUrlDigit, Bool.or_eq_true, Bool.and_eq_true, decide_eq_true_eq, beq_iff_eq] at h
  obtain (((⟨-, h⟩ | ⟨-, h⟩) | ⟨-, h⟩) | rfl) | rfl := h
  · exact Nat.lt_of_le_of_lt (show c.toNat ≤ 'Z'.toNat from h) (by decide)
  · exact Nat.lt_of_le_of_lt (show c.toNat ≤ 'z'.toNat from h) (by decide)
  · exact Nat.lt_of_le_of_lt (show c.toNat ≤ '9'.toNat from h) (by decide)
  · decide
  · decide

/-! ## 2. Groups -/

theorem encodeUrl_group (a b c : UInt8) (rest : List UInt8) :
    encodeUrl (a :: b :: c :: rest) =
      urlDigit ((a.toNat * 65536 + b.toNat * 256 + c.toNat) / 262144) ::
        urlDigit ((a.toNat * 65536 + b.toNat * 256 + c.toNat) / 4096 % 64) ::
        urlDigit ((a.toNat * 65536 + b.toNat * 256 + c.toNat) / 64 % 64) ::
        urlDigit ((a.toNat * 65536 + b.toNat * 256 + c.toNat) % 64) :: encodeUrl rest := rfl

theorem encodeUrl_two (a b : UInt8) :
    encodeUrl [a, b] =
      [urlDigit ((a.toNat * 256 + b.toNat) / 1024), urlDigit ((a.toNat * 256 + b.toNat) / 16 % 64),
        urlDigit ((a.toNat * 256 + b.toNat) % 16 * 4), '='] := rfl

theorem encodeUrl_one (a : UInt8) :
    encodeUrl [a] = [urlDigit (a.toNat / 4), urlDigit (a.toNat % 4 * 16), '=', '='] := rfl

section Reading

variable {v v0 v1 v2 v3 : Nat} (pads count : Nat)

/-- The first character of a group only leaves its bits. -/
theorem decodeFrom_first (h0 : v0 < 64) (rest : List Char) :
    decodeFrom 0 0 pads count (urlDigit v0 :: rest) = decodeFrom 1 v0 0 count rest := by
  have hnone : completedOctet 0 0 v0 = none := rfl
  simp only [decodeFrom, if_neg (urlDigit_ne_pad v0 h0), digitValue?_urlDigit h0, hnone]
  rfl

/-- A character that completes an octet gives it and leaves the bits behind it. -/
theorem decodeFrom_completed {position carried : Nat} {octet : UInt8} (hv : v < 64)
    (h : completedOctet position carried v = some octet) (rest : List Char) :
    decodeFrom position carried pads count (urlDigit v :: rest) =
      (decodeFrom ((position + 1) % 4) (carriedBits position v) 0 (count + 1) rest).map
        (octet :: ·) := by
  simp only [decodeFrom, if_neg (urlDigit_ne_pad v hv), digitValue?_urlDigit hv, h]

/-- Two characters give an octet and four bits. -/
theorem decodeFrom_two (h0 : v0 < 64) (h1 : v1 < 64) (rest : List Char) :
    decodeFrom 0 0 pads count (urlDigit v0 :: urlDigit v1 :: rest) =
      (decodeFrom 2 (v1 % 16) 0 (count + 1) rest).map (.ofNat (v0 * 4 + v1 / 16) :: ·) :=
  (decodeFrom_first pads count h0 _).trans (decodeFrom_completed 0 count h1 rfl rest)

/-- A third one gives an octet and two bits. -/
theorem decodeFrom_third (h2 : v2 < 64) (carried : Nat) (rest : List Char) :
    decodeFrom 2 carried pads count (urlDigit v2 :: rest) =
      (decodeFrom 3 (v2 % 4) 0 (count + 1) rest).map (.ofNat (carried * 16 + v2 / 4) :: ·) :=
  decodeFrom_completed pads count h2 rfl rest

/-- The fourth one ends the group. -/
theorem decodeFrom_fourth (h3 : v3 < 64) (carried : Nat) (rest : List Char) :
    decodeFrom 3 carried pads count (urlDigit v3 :: rest) =
      (decodeFrom 0 0 0 (count + 1) rest).map (.ofNat (carried * 64 + v3) :: ·) :=
  decodeFrom_completed pads count h3 rfl rest

/-- As many `=` as characters are missing in a group end the data. -/
theorem decodeFrom_pad_one (carried : Nat) : decodeFrom 3 carried 0 count ['='] = .ok [] := rfl

theorem decodeFrom_pad_two (carried : Nat) : decodeFrom 2 carried 0 count ['=', '='] = .ok [] := rfl

end Reading

/-! ## 3. Round trip -/

theorem ofNat_eq_of_toNat {n : Nat} {a : UInt8} (h : n = a.toNat) : UInt8.ofNat n = a := by
  rw [h, UInt8.ofNat_toNat]

/-- Reading goes group by group, as writing does, and after a group it is where it began. -/
theorem decodeFrom_encodeUrl (octets : List UInt8) (pads count : Nat) :
    decodeFrom 0 0 pads count (encodeUrl octets) = .ok octets := by
  induction octets using encode.induct generalizing pads count with
  | case1 a b c rest ih =>
    have ha := a.toNat_lt
    have hb := b.toNat_lt
    have hc := c.toNat_lt
    rw [encodeUrl_group, decodeFrom_two _ _ (by omega) (by omega), decodeFrom_third _ _ (by omega),
      decodeFrom_fourth _ _ (by omega), ih]
    simp only [Except.map]
    rw [ofNat_eq_of_toNat (a := a) (by omega), ofNat_eq_of_toNat (a := b) (by omega),
      ofNat_eq_of_toNat (a := c) (by omega)]
  | case2 a b =>
    have ha := a.toNat_lt
    have hb := b.toNat_lt
    rw [encodeUrl_two, decodeFrom_two _ _ (by omega) (by omega), decodeFrom_third _ _ (by omega),
      decodeFrom_pad_one]
    simp only [Except.map]
    rw [ofNat_eq_of_toNat (a := a) (by omega), ofNat_eq_of_toNat (a := b) (by omega)]
  | case3 a =>
    have ha := a.toNat_lt
    rw [encodeUrl_one, decodeFrom_two _ _ (by omega) (by omega), decodeFrom_pad_two]
    simp only [Except.map]
    rw [ofNat_eq_of_toNat (a := a) (by omega)]
  | case4 => rfl

/-- **A padded text is read back as it was written.** -/
theorem decode_encodeUrl (octets : List UInt8) : decode (encodeUrl octets) = .ok octets :=
  decodeFrom_encodeUrl octets 0 0

/-- A character pads in one alphabet exactly if it does in the other. -/
theorem toUrlAlphabet_eq_pad_iff (c : Char) : toUrlAlphabet c = '=' ↔ c = '=' := by
  unfold toUrlAlphabet
  split
  · next h =>
    rw [h]
    decide
  · split
    · next h =>
      rw [h]
      decide
    · exact Iff.rfl

/-- A text is read alike in both alphabets. -/
theorem decodeFrom_map_toUrlAlphabet (s : List Char) (position carried pads count : Nat) :
    decodeFrom position carried pads count (s.map toUrlAlphabet) =
      decodeFrom position carried pads count s := by
  induction s generalizing position carried pads count with
  | nil => rfl
  | cons c rest ih =>
    simp only [List.map_cons, decodeFrom, toUrlAlphabet_eq_pad_iff, digitValue?_toUrlAlphabet, ih]

/-- **A text in the standard alphabet is read back as it was written.** -/
theorem decode_encode (octets : List UInt8) : decode (encode octets) = .ok octets := by
  rw [← decode_encodeUrl octets, encodeUrl, decode, decode, decodeFrom_map_toUrlAlphabet]

/-! ## 4. Padding -/

/-- A whole group does not change what pads a text. -/
theorem padding_add_four (length : Nat) : padding (length + 4) = padding length := by
  rw [padding, padding, Nat.add_mod_right]

/-- **A text is characters of the alphabet and then what pads them.** -/
theorem encodeUrl_eq_append_padding (octets : List UInt8) :
    ∃ digits : List Char, encodeUrl octets = digits ++ padding digits.length ∧
      ∀ c ∈ digits, isUrlDigit c = true := by
  induction octets using encode.induct with
  | case1 a b c rest ih =>
    have ha := a.toNat_lt
    have hb := b.toNat_lt
    have hc := c.toNat_lt
    obtain ⟨digits, hrest, hdigits⟩ := ih
    have hpadding (w x y z : Char) : w :: x :: y :: z :: (digits ++ padding digits.length) =
        (w :: x :: y :: z :: digits) ++ padding (w :: x :: y :: z :: digits).length := by
      rw [← padding_add_four]
      rfl
    rw [encodeUrl_group, hrest]
    refine ⟨_, hpadding _ _ _ _, ?_⟩
    simp only [List.forall_mem_cons]
    exact ⟨isUrlDigit_urlDigit _ (by omega), isUrlDigit_urlDigit _ (by omega),
      isUrlDigit_urlDigit _ (by omega), isUrlDigit_urlDigit _ (by omega), hdigits⟩
  | case2 a b =>
    have ha := a.toNat_lt
    have hb := b.toNat_lt
    refine ⟨[_, _, _], encodeUrl_two a b, ?_⟩
    simp only [List.forall_mem_cons]
    exact ⟨isUrlDigit_urlDigit _ (by omega), isUrlDigit_urlDigit _ (by omega),
      isUrlDigit_urlDigit _ (by omega), List.forall_mem_nil _⟩
  | case3 a =>
    have ha := a.toNat_lt
    refine ⟨[_, _], encodeUrl_one a, ?_⟩
    simp only [List.forall_mem_cons]
    exact ⟨isUrlDigit_urlDigit _ (by omega), isUrlDigit_urlDigit _ (by omega),
      List.forall_mem_nil _⟩
  | case4 => exact ⟨[], rfl, List.forall_mem_nil _⟩

/-! ## 5. Padding that was left out -/

/-- A text that writes octets, with any number of the `=` at its end left out. -/
def Writes (s : List Char) (octets : List UInt8) : Prop :=
  ∃ n, s ++ List.replicate n '=' = encodeUrl octets

theorem count_pad_of_digits {digits : List Char} (h : ∀ c ∈ digits, isUrlDigit c = true) :
    digits.count '=' = 0 := by
  refine List.count_eq_zero.mpr fun hmem => ?_
  exact absurd (h _ hmem) (by decide)

namespace Writes

variable {s : List Char} {octets : List UInt8}

/-- Padding puts back what was left out: what is left out is less than a group, and the whole is
groups. -/
theorem append_padding (h : Writes s octets) : s ++ padding s.length = encodeUrl octets := by
  obtain ⟨n, hn⟩ := h
  obtain ⟨digits, hoctets, hdigits⟩ := encodeUrl_eq_append_padding octets
  have htext : s ++ List.replicate n '=' = digits ++ padding digits.length := hn.trans hoctets
  have hcount : n ≤ (4 - digits.length % 4) % 4 := by
    have := congrArg (List.count '=') htext
    rw [List.count_append, List.count_append, count_pad_of_digits hdigits, padding,
      List.count_replicate_self, List.count_replicate_self] at this
    omega
  have hlength : s.length + n = digits.length + (4 - digits.length % 4) % 4 := by
    have := congrArg List.length htext
    rwa [List.length_append, List.length_append, padding, List.length_replicate,
      List.length_replicate] at this
  have hn' : (4 - s.length % 4) % 4 = n := by omega
  rw [padding, hn', hn]

theorem decode_padded (h : Writes s octets) : decode (s ++ padding s.length) = .ok octets := by
  rw [h.append_padding, decode_encodeUrl]

/-- Such a text is characters of the alphabet and signs that pad them. -/
theorem isUrlDigit_or_eq_pad (h : Writes s octets) : ∀ c ∈ s, isUrlDigit c = true ∨ c = '=' := by
  intro c hc
  obtain ⟨n, hn⟩ := h
  obtain ⟨digits, hoctets, hdigits⟩ := encodeUrl_eq_append_padding octets
  have hmem : c ∈ digits ++ padding digits.length := by
    rw [← hoctets, ← hn]
    exact List.mem_append_left _ hc
  rcases List.mem_append.mp hmem with hdigit | hpad
  · exact .inl (hdigits c hdigit)
  · exact .inr (List.eq_of_mem_replicate hpad)

theorem ascii (h : Writes s octets) : ∀ c ∈ s, c.toNat < 0x80 := by
  intro c hc
  rcases h.isUrlDigit_or_eq_pad c hc with hdigit | rfl
  · exact toNat_lt_of_isUrlDigit hdigit
  · decide

end Writes

end TokenEndpoint.Base64
