import TokenEndpoint.Text.Utf8
/-!
Reading UTF-8 gives back what was written. The machine goes from the first octet of a character to its
last and ends between two characters again; the range that the first octet sets for the second one holds
every character, since a `Char` is neither a surrogate nor above U+10FFFF. Main statements:

* `eventsFrom_encodeChar` -- the octets of a character are read as that character;
* `decodeLossy_encode` -- a text is read back, and no U+FFFD comes into it;
* `decode_encode` -- the reader that refuses ill-formed sequences refuses no text that was written.
-/

namespace TokenEndpoint.Utf8

/-! ## 1. One octet -/

/-- What the first octet of a character of one octet gives. -/
theorem feedFirst_one : ∀ n < 0x80, feedFirst (.ofNat n) = ([.char (Char.ofNat n)], .ground) := by
  decide

theorem feedFirst_two : ∀ m < 32, 2 ≤ m →
    feedFirst (.ofNat (0xc0 + m)) = ([], .within 1 0 m 0x80 0xbf) := by
  decide

/-- The range of the second octet leaves out overlong forms (`m = 0`) and surrogates (`m = 13`). -/
theorem feedFirst_three : ∀ m < 16, feedFirst (.ofNat (0xe0 + m)) =
    ([], .within 1 1 m (if m = 0 then 0xa0 else 0x80) (if m = 13 then 0x9f else 0xbf)) := by
  decide

/-- The range of the second octet leaves out overlong forms (`m = 0`) and numbers above U+10FFFF
(`m = 4`). -/
theorem feedFirst_four : ∀ m < 5, feedFirst (.ofNat (0xf0 + m)) =
    ([], .within 1 2 m (if m = 0 then 0x90 else 0x80) (if m = 4 then 0x8f else 0xbf)) := by
  decide

/-- The octet that carries six bits of a character after its first octet. -/
theorem toNat_tail {k : Nat} (hk : k < 64) : (UInt8.ofNat (0x80 + k)).toNat = 0x80 + k := by
  have hsize : 0x80 + k < UInt8.size := by
    show 0x80 + k < 256
    omega
  exact UInt8.toNat_ofNat_of_lt' hsize

theorem tail_le {k : Nat} (hk : k < 64) : 0x80 + k ≤ (0xbf : UInt8).toNat := by
  show 0x80 + k ≤ 0xbf
  omega

/-- The ranges of a second octet are those of every later one, but after one first octet the lower end
is higher, and after one the upper end is lower. -/
theorem low_le {m edge j : Nat} {special : UInt8} (h : m = edge → special.toNat ≤ 0x80 + j) :
    (if m = edge then special else 0x80).toNat ≤ 0x80 + j := by
  split
  · next he => exact h he
  · exact Nat.le_add_right _ _

theorem le_high {m edge j : Nat} {special : UInt8} (hj : j < 64)
    (h : m = edge → 0x80 + j ≤ special.toNat) :
    0x80 + j ≤ (if m = edge then special else 0xbf).toNat := by
  split
  · next he => exact h he
  · exact tail_le hj

section Tail

variable {taken value k : Nat} {low high : UInt8} (hk : k < 64) (hlow : low.toNat ≤ 0x80 + k)
  (hhigh : 0x80 + k ≤ high.toNat)

include hk hlow hhigh

/-- An octet in the range that is set for it adds its six bits. -/
theorem feed_tail (missing : Nat) :
    feed (.within taken missing value low high) (.ofNat (0x80 + k)) =
      match missing with
      | 0 => ([.char (Char.ofNat (value * 64 + k))], .ground)
      | m + 1 => ([], .within (taken + 1) m (value * 64 + k) 0x80 0xbf) := by
  have hrange : low ≤ .ofNat (0x80 + k) ∧ .ofNat (0x80 + k) ≤ high := by
    rw [UInt8.le_iff_toNat_le, UInt8.le_iff_toNat_le, toNat_tail hk]
    exact ⟨hlow, hhigh⟩
  have hbits : (UInt8.ofNat (0x80 + k)).toNat - 0x80 = k := by
    rw [toNat_tail hk]
    omega
  rw [feed, if_pos hrange]
  cases missing <;> simp only [hbits]

/-- The last octet of a character completes it. -/
theorem eventsFrom_last (rest : List UInt8) :
    eventsFrom (.within taken 0 value low high) (.ofNat (0x80 + k) :: rest) =
      .char (Char.ofNat (value * 64 + k)) :: eventsFrom .ground rest := by
  rw [eventsFrom, feed_tail hk hlow hhigh]
  rfl

theorem eventsFrom_middle (missing : Nat) (rest : List UInt8) :
    eventsFrom (.within taken (missing + 1) value low high) (.ofNat (0x80 + k) :: rest) =
      eventsFrom (.within (taken + 1) missing (value * 64 + k) 0x80 0xbf) rest := by
  rw [eventsFrom, feed_tail hk hlow hhigh]
  rfl

end Tail

/-- A first octet that is no character by itself takes the machine into the character. -/
theorem eventsFrom_first {b : UInt8} {state : State} (h : feedFirst b = ([], state))
    (rest : List UInt8) : eventsFrom .ground (b :: rest) = eventsFrom state rest := by
  rw [eventsFrom, feed, h]
  rfl

/-! ## 2. One character -/

theorem eventsFrom_two {m k : Nat} (hm : m < 32) (hm2 : 2 ≤ m) (hk : k < 64) (rest : List UInt8) :
    eventsFrom .ground (.ofNat (0xc0 + m) :: .ofNat (0x80 + k) :: rest) =
      .char (Char.ofNat (m * 64 + k)) :: eventsFrom .ground rest := by
  rw [eventsFrom_first (feedFirst_two m hm hm2),
    eventsFrom_last hk (Nat.le_add_right _ _) (tail_le hk)]

theorem eventsFrom_three {m j k : Nat} (hm : m < 16) (hj : j < 64) (hk : k < 64)
    (hoverlong : m = 0 → 32 ≤ j) (hsurrogate : m = 13 → j < 32) (rest : List UInt8) :
    eventsFrom .ground (.ofNat (0xe0 + m) :: .ofNat (0x80 + j) :: .ofNat (0x80 + k) :: rest) =
      .char (Char.ofNat ((m * 64 + j) * 64 + k)) :: eventsFrom .ground rest := by
  have hlow : (if m = 0 then (0xa0 : UInt8) else 0x80).toNat ≤ 0x80 + j :=
    low_le fun h0 => Nat.add_le_add_left (hoverlong h0) 0x80
  have hhigh : 0x80 + j ≤ (if m = 13 then (0x9f : UInt8) else 0xbf).toNat :=
    le_high hj fun h13 => Nat.add_le_add_left (Nat.le_of_lt_succ (hsurrogate h13)) 0x80
  rw [eventsFrom_first (feedFirst_three m hm), eventsFrom_middle hj hlow hhigh,
    eventsFrom_last hk (Nat.le_add_right _ _) (tail_le hk)]

theorem eventsFrom_four {m i j k : Nat} (hm : m < 5) (hi : i < 64) (hj : j < 64) (hk : k < 64)
    (hoverlong : m = 0 → 16 ≤ i) (hlargest : m = 4 → i < 16) (rest : List UInt8) :
    eventsFrom .ground (.ofNat (0xf0 + m) :: .ofNat (0x80 + i) :: .ofNat (0x80 + j) ::
        .ofNat (0x80 + k) :: rest) =
      .char (Char.ofNat (((m * 64 + i) * 64 + j) * 64 + k)) :: eventsFrom .ground rest := by
  have hlow : (if m = 0 then (0x90 : UInt8) else 0x80).toNat ≤ 0x80 + i :=
    low_le fun h0 => Nat.add_le_add_left (hoverlong h0) 0x80
  have hhigh : 0x80 + i ≤ (if m = 4 then (0x8f : UInt8) else 0xbf).toNat :=
    le_high hi fun h4 => Nat.add_le_add_left (Nat.le_of_lt_succ (hlargest h4)) 0x80
  rw [eventsFrom_first (feedFirst_four m hm), eventsFrom_middle hi hlow hhigh,
    eventsFrom_middle hj (Nat.le_add_right _ _) (tail_le hj),
    eventsFrom_last hk (Nat.le_add_right _ _) (tail_le hk)]

/-- **The octets of a character are read as that character**, and the machine is between two characters
after them. -/
theorem eventsFrom_encodeChar (c : Char) (rest : List UInt8) :
    eventsFrom .ground (encodeChar c ++ rest) = .char c :: eventsFrom .ground rest := by
  have hchar : Char.ofNat c.toNat = c := Char.ofNat_toNat c
  -- a character is no surrogate, and not above U+10FFFF
  have hvalid : c.toNat < 0xd800 ∨ 0xdfff < c.toNat ∧ c.toNat < 0x110000 := c.valid
  unfold encodeChar
  dsimp only
  generalize c.toNat = n at hchar hvalid
  split
  · next h1 =>
    show eventsFrom .ground (.ofNat n :: rest) = _
    rw [eventsFrom, feed, feedFirst_one n h1, hchar]
    rfl
  · split
    · next h1 h2 =>
      have hn : n / 64 * 64 + n % 64 = n := by omega
      show eventsFrom .ground (.ofNat (0xc0 + n / 64) :: .ofNat (0x80 + n % 64) :: rest) = _
      rw [eventsFrom_two (by omega) (by omega) (by omega), hn, hchar]
    · split
      · next h1 h2 h3 =>
        have hn : (n / 4096 * 64 + n / 64 % 64) * 64 + n % 64 = n := by omega
        show eventsFrom .ground (.ofNat (0xe0 + n / 4096) :: .ofNat (0x80 + n / 64 % 64) ::
          .ofNat (0x80 + n % 64) :: rest) = _
        rw [eventsFrom_three (by omega) (by omega) (by omega) (by omega) (by omega), hn, hchar]
      · next h1 h2 h3 =>
        have hn : ((n / 262144 * 64 + n / 4096 % 64) * 64 + n / 64 % 64) * 64 + n % 64 = n := by
          omega
        show eventsFrom .ground (.ofNat (0xf0 + n / 262144) :: .ofNat (0x80 + n / 4096 % 64) ::
          .ofNat (0x80 + n / 64 % 64) :: .ofNat (0x80 + n % 64) :: rest) = _
        rw [eventsFrom_four (by omega) (by omega) (by omega) (by omega) (by omega) (by omega), hn,
          hchar]

/-! ## 3. A text -/

theorem events_encode (s : List Char) : events (encode s) = s.map .char := by
  induction s with
  | nil => rfl
  | cons c rest ih =>
    rw [events, encode_cons, eventsFrom_encodeChar]
    exact congrArg (Event.char c :: ·) ih

/-- **A text is read back as it was written.** -/
theorem decodeLossy_encode (s : List Char) : decodeLossy (encode s) = s := by
  rw [decodeLossy, events_encode, List.map_map]
  exact List.map_id s

theorem collect_map_char (s : List Char) (offset : Nat) : collect offset (s.map .char) = .ok s := by
  induction s generalizing offset with
  | nil => rfl
  | cons c rest ih =>
    rw [List.map_cons, collect, ih]
    rfl

/-- **No text that was written is refused.** -/
theorem decode_encode (s : List Char) : decode (encode s) = .ok s := by
  rw [decode, events_encode, collect_map_char]
  rfl

/-! ## 4. ASCII -/

/-- A text of ASCII characters has as many octets as characters. -/
theorem length_encode_of_ascii {s : List Char} (h : ∀ c ∈ s, c.toNat < 0x80) :
    (encode s).length = s.length := by
  induction s with
  | nil => rfl
  | cons c rest ih =>
    obtain ⟨hc, hrest⟩ := List.forall_mem_cons.mp h
    have hoctet : (encodeChar c).length = 1 := by rw [encodeChar, if_pos hc]; rfl
    rw [encode_cons, List.length_append, hoctet, ih hrest, List.length_cons, Nat.add_comm]

end TokenEndpoint.Utf8
