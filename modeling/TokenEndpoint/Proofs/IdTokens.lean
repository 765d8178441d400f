import TokenEndpoint.Identity.Claims
import TokenEndpoint.Proofs.Base64RoundTrip
import TokenEndpoint.Proofs.JsonDepth
import TokenEndpoint.Proofs.Utf8RoundTrip
/-!
Reading an ID token gives the claims of its payload. A segment that base64 writes has no dot in it, so
the first and the last dot of a token are those between its segments, whatever stands in them. Main
statements:

* `segments?_compact` -- a token is cut where its segments were put together;
* `decodeSegment_of_writes` -- a segment is read back, with its padding or without;
* `decode_of_serializes` -- the claims are those of the payload; header and signature do not count;
* `decode_cases` -- a token that is not decoded is refused, or its payload is nested too deep.
-/

namespace TokenEndpoint.IdToken

/-! ## 1. The compact form -/

/-- Header, payload and signature with dots between them. -/
def compact (header payload signature : List Char) : List Char :=
  header ++ '.' :: (payload ++ '.' :: signature)

/-- A token that is made of a header, a payload and a signature: each is a segment of its own, and of
the padding of a segment any part may be left out. -/
def Serializes (header payload : List Char) (signature : List UInt8) (token : Text) : Prop :=
  ∃ h p s, Base64.Writes h (Utf8.encode header) ∧ Base64.Writes p (Utf8.encode payload) ∧
    Base64.Writes s signature ∧ token = (compact h p s).map .plain

/-! ## 2. Segments -/

/-- The payload may hold dots; header and signature may not. -/
theorem segments?_compact {header signature : List Char} (hheader : '.' ∉ header)
    (hsignature : '.' ∉ signature) (payload : List Char) :
    segments? (compact header payload signature) = some (header, payload, signature) := by
  have hcompact : compact header payload signature = (header ++ '.' :: payload) ++ '.' :: signature := by
    rw [compact, List.append_assoc, List.cons_append]
  simp only [segments?, hcompact, Text.cutLast_append hsignature, Text.cut_append hheader]

section Written

variable {segment : List Char} {octets : List UInt8}

theorem dot_not_mem (h : Base64.Writes segment octets) : '.' ∉ segment := fun hdot =>
  absurd (h.isUrlDigit_or_eq_pad '.' hdot) (by decide)

theorem decodeSegment_of_writes (h : Base64.Writes segment octets) :
    decodeSegment segment = .ok octets := by
  rw [decodeSegment, Utf8.length_encode_of_ascii h.ascii, h.decode_padded]

end Written

/-! ## 3. Tokens -/

/-- A header that is an object is well formed. -/
theorem isObjectText_encode {room : Nat} {text : List Char} {members : JsonObject}
    (h : Json.readChars room text = .ok (.object members)) :
    isObjectText room (Utf8.encode text) = true := by
  rw [isObjectText, Utf8.decode_encode]
  simp only [h]

theorem readClaims_encode {room : Nat} {text : List Char} {members : JsonObject}
    (h : Json.readChars room text = .ok (.object members)) :
    readClaims room (Utf8.encode text) = .ok (Claims.ofMembers members) := by
  rw [readClaims, Utf8.decode_encode]
  simp only [h]

/-- **The claims of a token are those of its payload**, for every header that is an object and every
signature. -/
theorem decode_of_serializes {room : Json.Room} {header payload : List Char} {signature : List UInt8}
    {token : Text} {parameters members : JsonObject}
    (hheader : Json.readChars room.header header = .ok (.object parameters))
    (hpayload : Json.readChars room.payload payload = .ok (.object members))
    (htoken : Serializes header payload signature token) :
    decode room token = .ok (Claims.ofMembers members) := by
  obtain ⟨h, p, s, hh, hp, hs, rfl⟩ := htoken
  have hread : payload? room.header (compact h p s) = some (Utf8.encode payload) := by
    rw [payload?, segments?_compact (dot_not_mem hh) (dot_not_mem hs)]
    simp only [decodeSegment_of_writes hh, decodeSegment_of_writes hp, decodeSegment_of_writes hs,
      isObjectText_encode hheader, if_true]
  rw [decode, Text.chars?_map_plain, Option.bind_some, hread]
  exact readClaims_encode hpayload

/-- A header whose padding is left out, a payload that is padded, and a signature that keeps one of two
`=`. -/
theorem decode_of_serializes_partly_padded :
    Serializes "\x7b\x7d".toList "\x7b\"oid\":\"o\"\x7d".toList [1]
        (Text.ofString "e30.eyJvaWQiOiJvIn0=.AQ=") ∧
      decode {} (Text.ofString "e30.eyJvaWQiOiJvIn0=.AQ=") =
        .ok (Claims.ofMembers [(Text.ofString "oid", Json.ofString "o")]) := by
  have htoken : Serializes "\x7b\x7d".toList "\x7b\"oid\":\"o\"\x7d".toList [1]
      (Text.ofString "e30.eyJvaWQiOiJvIn0=.AQ=") :=
    ⟨"e30".toList, "eyJvaWQiOiJvIn0=".toList, "AQ=".toList, ⟨1, by decide +kernel⟩,
      ⟨0, by decide +kernel⟩, ⟨1, by decide +kernel⟩, rfl⟩
  have hheader : Json.readChars 970 "\x7b\x7d".toList = .ok (.object []) := rfl
  have hpayload : Json.readChars 970 "\x7b\"oid\":\"o\"\x7d".toList =
      .ok (.object [(Text.ofString "oid", Json.ofString "o")]) := rfl
  exact ⟨htoken, decode_of_serializes hheader hpayload htoken⟩

/-! ## 4. Tokens that are not decoded -/

section Undecoded

variable {room : Json.Room} {token : Text}

/-- The segments of a token are well formed, and this is the text of its payload. -/
def Gives (room : Nat) (token : Text) (text : List Char) : Prop :=
  ∃ octets, token.chars?.bind (payload? room) = some octets ∧ Utf8.decode octets = .ok text

/-- A token whose payload is nested deeper than there is room. -/
def TooDeep (room : Json.Room) (token : Text) : Prop :=
  ∃ text, Gives room.header token text ∧ Json.TooDeep room.payload text

theorem decode_of_gives {text : List Char} (h : Gives room.header token text) :
    decode room token =
      match Json.readChars room.payload text with
      | .error halt => .error (halt.failure fun found => .idToken (.json found))
      | .ok (.object members) => .ok (Claims.ofMembers members)
      | .ok _ => .error (.transport (.idToken .notObject)) := by
  obtain ⟨octets, hoctets, htext⟩ := h
  rw [decode, hoctets]
  dsimp only
  rewrite [readClaims, htext]
  rfl

theorem decode_of_tooDeep (h : TooDeep room token) :
    ∃ container, decode room token = .error (.tooDeep container) := by
  obtain ⟨text, hgives, container, hread⟩ := h
  refine ⟨container, ?_⟩
  rw [decode_of_gives hgives, hread]
  rfl

/-- **What becomes of a token.** One that is not decoded is refused, or given up because its payload is
nested too deep. -/
theorem decode_cases (room : Json.Room) (token : Text) :
    (∃ claims, decode room token = .ok claims) ∨
      (∃ fault, decode room token = .error (.transport (.idToken fault))) ∨
        ∃ container, decode room token = .error (.tooDeep container) ∧ TooDeep room token := by
  cases hsegments : token.chars?.bind (payload? room.header) with
  | none =>
    refine .inr (.inl ⟨.segments, ?_⟩)
    rw [decode, hsegments]
  | some octets =>
    cases htext : Utf8.decode octets with
    | error fault =>
      refine .inr (.inl ⟨.octets fault, ?_⟩)
      rw [decode, hsegments]
      dsimp only
      rw [readClaims, htext]
    | ok text =>
      have hgives : Gives room.header token text := ⟨octets, hsegments, htext⟩
      have hdecode := decode_of_gives hgives
      cases hread : Json.readChars room.payload text with
      | error halt =>
        rw [hread] at hdecode
        cases halt with
        | fault found => exact .inr (.inl ⟨.json found, hdecode⟩)
        | tooDeep container => exact .inr (.inr ⟨container, hdecode, text, hgives, container, hread⟩)
      | ok value =>
        rw [hread] at hdecode
        cases value with
        | object members => exact .inl ⟨_, hdecode⟩
        | _ => exact .inr (.inl ⟨.notObject, hdecode⟩)

end Undecoded

end TokenEndpoint.IdToken
