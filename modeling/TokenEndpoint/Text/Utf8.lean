/-!
UTF-8. `encode` writes characters as octets. Octets are read by a machine that takes one octet at a
time (`feed`) and reports characters and ill-formed sequences (`events`): `decode` refuses at the
first ill-formed sequence and says where it stands, `decodeLossy` puts U+FFFD in place of each.

An ill-formed sequence is the longest prefix of a well-formed one (a maximal subpart), or one octet
where no sequence can start.
-/

namespace TokenEndpoint.Utf8

/-! ## 1. Writing -/

def encodeChar (c : Char) : List UInt8 :=
  let n := c.toNat
  if n < 0x80 then [.ofNat n]
  else if n < 0x800 then [.ofNat (0xc0 + n / 64), .ofNat (0x80 + n % 64)]
  else if n < 0x10000 then
    [.ofNat (0xe0 + n / 4096), .ofNat (0x80 + n / 64 % 64), .ofNat (0x80 + n % 64)]
  else
    [.ofNat (0xf0 + n / 262144), .ofNat (0x80 + n / 4096 % 64), .ofNat (0x80 + n / 64 % 64),
      .ofNat (0x80 + n % 64)]

def encode (s : List Char) : List UInt8 :=
  s.flatMap encodeChar

theorem encode_cons (c : Char) (s : List Char) : encode (c :: s) = encodeChar c ++ encode s := rfl

/-! ## 2. The machine -/

inductive Problem where
  | start
  | continuation
  | ended
  deriving DecidableEq, Repr

def Problem.message : Problem → String
  | .start => "invalid start byte"
  | .continuation => "invalid continuation byte"
  | .ended => "unexpected end of data"

inductive Event where
  | char (c : Char)
  | bad (problem : Problem) (length : Nat)
  deriving DecidableEq, Repr

/-- Between two sequences, or inside one: `taken` octets stand for `value`, `missing + 1` are to come,
and the next one lies between `low` and `high`. -/
inductive State where
  | ground
  | within (taken missing value : Nat) (low high : UInt8)
  deriving DecidableEq, Repr

/-- The first octet of a sequence. Its range for the second octet leaves out overlong forms,
surrogates and numbers above U+10FFFF. -/
def feedFirst (b : UInt8) : List Event × State :=
  if b < 0x80 then ([.char (Char.ofNat b.toNat)], .ground)
  else if 0xc2 ≤ b ∧ b ≤ 0xdf then ([], .within 1 0 (b.toNat - 0xc0) 0x80 0xbf)
  else if b = 0xe0 then ([], .within 1 1 0 0xa0 0xbf)
  else if b = 0xed then ([], .within 1 1 0xd 0x80 0x9f)
  else if 0xe1 ≤ b ∧ b ≤ 0xef then ([], .within 1 1 (b.toNat - 0xe0) 0x80 0xbf)
  else if b = 0xf0 then ([], .within 1 2 0 0x90 0xbf)
  else if 0xf1 ≤ b ∧ b ≤ 0xf3 then ([], .within 1 2 (b.toNat - 0xf0) 0x80 0xbf)
  else if b = 0xf4 then ([], .within 1 2 4 0x80 0x8f)
  else ([.bad .start 1], .ground)

/-- An octet that does not continue a sequence ends it and is read as a first octet. -/
def feed : State → UInt8 → List Event × State
  | .ground, b => feedFirst b
  | .within taken missing value low high, b =>
    if low ≤ b ∧ b ≤ high then
      let value := value * 64 + (b.toNat - 0x80)
      match missing with
      | 0 => ([.char (Char.ofNat value)], .ground)
      | m + 1 => ([], .within (taken + 1) m value 0x80 0xbf)
    else
      let (events, next) := feedFirst b
      (.bad .continuation taken :: events, next)

def eventsFrom : State → List UInt8 → List Event
  | .ground, [] => []
  | .within taken _ _ _ _, [] => [.bad .ended taken]
  | st, b :: r => let (events, next) := feed st b; events ++ eventsFrom next r

def events (octets : List UInt8) : List Event :=
  eventsFrom .ground octets

/-! ## 3. Reading -/

/-- The first ill-formed sequence: its problem, its offset, its first octet and its length. -/
structure Fault where
  problem : Problem
  offset : Nat
  first : Nat
  length : Nat
  deriving DecidableEq, Repr

/-- The characters up to the first ill-formed sequence, which is given with its offset. -/
def collect (offset : Nat) : List Event → Except (Problem × Nat × Nat) (List Char)
  | [] => .ok []
  | .char c :: r => (collect (offset + (encodeChar c).length) r).map (c :: ·)
  | .bad problem length :: _ => .error (problem, offset, length)

def decode (octets : List UInt8) : Except Fault (List Char) :=
  (collect 0 (events octets)).mapError fun (problem, offset, length) =>
    { problem, offset, length, first := (octets[offset]?.getD 0).toNat }

def Event.toChar : Event → Char
  | .char c => c
  | .bad _ _ => '\ufffd'

def decodeLossy (octets : List UInt8) : List Char :=
  (events octets).map Event.toChar

end TokenEndpoint.Utf8
