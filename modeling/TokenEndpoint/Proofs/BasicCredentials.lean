import TokenEndpoint.Proofs.Base64RoundTrip
import TokenEndpoint.Proofs.FormRoundTrip
import TokenEndpoint.Proofs.Parameters
/-!
Name and secret in one header. The two are form-encoded before they are joined, so the colon between them
is the first one, and a receiver who undoes the layers one after the other gets both back. Main
statements:

* `readBasic?_basicHeader` -- the header is read as the name and the secret it was made of;
* `secretBasic_recoverable` -- it is the one thing that the credential changes in a draft.
-/

namespace TokenEndpoint

/-! ## 1. The parts of a header -/

/-- No octet is written with a colon. -/
theorem Form.colon_not_mem_encodeText (s : List Char) : ':' ∉ encodeText s := by
  have hoctets : ∀ n < 256, ':' ∉ encodeOctet (.ofNat n) := by decide +kernel
  intro hmem
  obtain ⟨b, -, hb⟩ := List.mem_flatMap.mp hmem
  have hnot := hoctets b.toNat b.toNat_lt
  rw [UInt8.ofNat_toNat] at hnot
  exact hnot hb

namespace Credential

/-! ## 2. The receiver -/

/-- What a receiver reads from a header of this scheme: the base64 behind the name of the scheme, in the
one form that its octets are written in, cut at the first colon, and either side as a text of a form. -/
def readBasic? (header : String) : Option (String × String) := do
  let digits ← "Basic ".toList.isPrefixOf? header.toList
  let octets ← (Base64.decode digits).toOption
  let text ← (Utf8.decode octets).toOption
  let (name, secret) := Text.cut ':' text
  if digits = Base64.encode octets then
    return (Form.decodeText name, Form.decodeText (← secret))
  else Option.none

/-- **The header is read as the name and the secret it was made of.** -/
theorem readBasic?_basicHeader (clientId clientSecret : String) :
    readBasic? (basicHeader clientId clientSecret) = some (clientId, clientSecret) := by
  -- the name is written without a colon, so the first one is the one that joins
  have hcut : Text.cut ':' (Form.encodeText clientId.toList ++ ':' :: Form.encodeText clientSecret.toList) =
      (Form.encodeText clientId.toList, some (Form.encodeText clientSecret.toList)) :=
    Text.cut_append (Form.colon_not_mem_encodeText _) _
  have hscheme (digits : List Char) :
      "Basic ".toList.isPrefixOf? ("Basic ".toList ++ digits) = some digits := rfl
  unfold readBasic? basicHeader
  dsimp only
  rw [String.toList_append, hscheme]
  simp only [Option.bind_eq_bind, Option.bind_some, String.toList_ofList, Base64.decode_encode,
    Utf8.decode_encode, Except.toOption, hcut, ↓reduceIte, Option.pure_def,
    Form.decodeText_encodeText]

/-! ## 3. The draft -/

/-- **Name and secret can be recovered from what the credential does to a draft**: the header that it sets
is read as them, so no other name or secret gives this header. Nothing else is changed: neither the URL
nor a parameter nor another header. -/
theorem secretBasic_recoverable (d : Draft) (clientId clientSecret : String) :
    ((secretBasic clientId clientSecret).applyTo d).2 = Option.none ∧
      let changed := ((secretBasic clientId clientSecret).applyTo d).1
      (∃ header, changed.headers.get? HeaderName.authorization = some header ∧
        readBasic? header = some (clientId, clientSecret)) ∧
      (∀ (other : Draft) (otherId otherSecret : String),
        ((secretBasic otherId otherSecret).applyTo other).1.headers.get? HeaderName.authorization =
            changed.headers.get? HeaderName.authorization →
          otherId = clientId ∧ otherSecret = clientSecret) ∧
      changed.url = d.url ∧ changed.parameters = d.parameters ∧
      changed.headers.without HeaderName.authorization = d.headers.without HeaderName.authorization := by
  have happlied (d : Draft) (name secret : String) : (secretBasic name secret).applyTo d =
      (d.setHeader HeaderName.authorization (basicHeader name secret), Option.none) := rfl
  have hheader (d : Draft) (name secret : String) :
      (d.setHeader HeaderName.authorization (basicHeader name secret)).headers.get?
        HeaderName.authorization = some (basicHeader name secret) :=
    Fields.get?_set_self _ _ _
  simp only [happlied, hheader]
  refine ⟨trivial, ⟨_, rfl, readBasic?_basicHeader clientId clientSecret⟩, ?_, rfl, rfl,
    Fields.without_set_self _ _ _⟩
  intro other otherId otherSecret hsame
  have hread := congrArg readBasic? (Option.some.inj hsame)
  rw [readBasic?_basicHeader, readBasic?_basicHeader] at hread
  cases hread
  exact ⟨rfl, rfl⟩

/-- Two clients whose name and secret would be one text if a colon joined them as they are. -/
theorem secretBasic_recoverable_colons :
    let d : Draft := { url := "https://h/t", headers := [("Authorization", "none"), ("X", "y")] }
    ((secretBasic "a" "b:%3A c").applyTo d).1.headers.get? HeaderName.authorization ≠
      ((secretBasic "a:b" "%3A c").applyTo d).1.headers.get? HeaderName.authorization := by
  intro d hsame
  obtain ⟨-, -, hother, -⟩ := secretBasic_recoverable d "a:b" "%3A c"
  exact absurd (hother d "a" "b:%3A c" hsame).1 (by decide)

end Credential

end TokenEndpoint
