/-!
Characters whose compatibility form (NFKC of Unicode 14) holds one of the URL delimiters
`/`, `?`, `#`, `@` and `:`. A host name with such a character would be split differently after
normalisation, so it is refused.
-/

namespace TokenEndpoint.Url

/-- Closed ranges of code points. -/
def hiddenDelimiterRanges : List (Nat × Nat) :=
  [(0x2047, 0x2049), (0x2100, 0x2101), (0x2105, 0x2106), (0x2a74, 0x2a74), (0xfe13, 0xfe13), (0xfe16, 0xfe16),
    (0xfe55, 0xfe56), (0xfe5f, 0xfe5f), (0xfe6b, 0xfe6b), (0xff03, 0xff03), (0xff0f, 0xff0f), (0xff1a, 0xff1a),
    (0xff1f, 0xff20)]

def hidesDelimiter (c : Char) : Bool :=
  hiddenDelimiterRanges.any fun r => r.1 ≤ c.toNat && c.toNat ≤ r.2

end TokenEndpoint.Url
