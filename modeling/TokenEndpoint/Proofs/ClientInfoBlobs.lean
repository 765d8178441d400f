import TokenEndpoint.Identity.Account
import TokenEndpoint.Proofs.Base64Lenience
import TokenEndpoint.Proofs.Blanks
import TokenEndpoint.Proofs.JsonDepth
import TokenEndpoint.Proofs.Letters
import TokenEndpoint.Proofs.Utf8RoundTrip
/-!
Client-info blobs. A blob goes through four readers, for blanks and ASCII, base64, UTF-8 and JSON; each
gives its result to the next or refuses the blob with a fault of its own. The last may also give up, for
want of room. Main statements:

* `decode_eq_ok_iff` -- a blob is decoded exactly if all four read it;
* `written_decoded_and_answers_iff` -- a blob that was written is read back; and a blob is decoded, or
  refused for what is wrong with it, exactly if its JSON is not nested too deep;
* `encodes_iff_of_decode` -- a blob that is decoded is the encoding of the octets that were decoded
  exactly if it is of the alphabet for URLs and has nothing left over.
-/

namespace TokenEndpoint

namespace ClientInfo

/-! ## 1. Blanks around a blob -/

/-- A blob is a text with blanks around it. -/
def Holds (blob : Text) (s : List Char) : Prop :=
  Text.trimChars s = s ∧ ∃ before after : List Char,
    before.all Text.isBlank = true ∧ after.all Text.isBlank = true ∧
      blob = (before ++ s ++ after).map .plain

theorem trimLetters_map_plain (s : List Char) :
    Text.trimLetters (s.map .plain) = (Text.trimChars s).map .plain := by
  have hblank : Text.isBlankLetter ∘ Letter.plain = Text.isBlank := rfl
  rw [Text.trimLetters, Text.trimChars, Text.trimItems, Text.trimItems, Text.trimEndItems,
    Text.trimEndItems, List.dropWhile_map, hblank, ← List.map_reverse, List.dropWhile_map, hblank,
    ← List.map_reverse]

/-- Blank letters are characters. -/
theorem exists_chars_of_blank {t : Text} (h : t.all Text.isBlankLetter = true) :
    ∃ blanks : List Char, t = blanks.map .plain ∧ blanks.all Text.isBlank = true := by
  induction t with
  | nil => exact ⟨[], rfl, rfl⟩
  | cons l rest ih =>
    rw [List.all_cons, Bool.and_eq_true] at h
    obtain ⟨hl, hrest⟩ := h
    obtain ⟨blanks, rfl, hblanks⟩ := ih hrest
    cases l with
    | lone n => cases hl
    | plain c =>
      refine ⟨c :: blanks, rfl, ?_⟩
      rw [List.all_cons, hblanks, Bool.and_true]
      exact hl

/-- **A blob holds what trimming leaves of it**, if that is characters. -/
theorem holds_iff {blob : Text} {s : List Char} :
    Holds blob s ↔ Text.trimLetters blob = s.map .plain := by
  constructor
  · rintro ⟨hs, before, after, hb, ha, rfl⟩
    have htrim : Text.trimChars (before ++ s ++ after) = Text.trimChars s := Text.trimItems_append hb ha s
    rw [trimLetters_map_plain, htrim, hs]
  · intro htrim
    obtain ⟨before, after, hb, ha, hblob⟩ := Text.exists_trimItems_eq Text.isBlankLetter blob
    obtain ⟨front, rfl, hfront⟩ := exists_chars_of_blank hb
    obtain ⟨back, rfl, hback⟩ := exists_chars_of_blank ha
    have hs : (Text.trimChars s).map Letter.plain = s.map .plain := by
      rw [← trimLetters_map_plain, ← htrim]
      exact Text.trimLetters_trimLetters blob
    refine ⟨(List.map_inj_right fun _ _ h => Letter.plain.inj h).mp hs, front, back, hfront, hback, ?_⟩
    rw [List.map_append, List.map_append, ← htrim]
    exact hblob

/-! ## 2. The four readers -/

/-- The text of a blob is ASCII, and its base64 is read as octets. -/
structure Unwraps (blob : Text) (s : List Char) (octets : List UInt8) : Prop where
  holds : Holds blob s
  ascii : ∀ c ∈ s, c.toNat < 0x80
  decoded : Base64.decode (s ++ Base64.padding s.length) = .ok octets

/-- Octets are the UTF-8 of a JSON object, and its members give the ids. -/
def Tells (room : Nat) (octets : List UInt8) (info : ClientInfo) : Prop :=
  ∃ text members, Utf8.decode octets = .ok text ∧ Json.readChars room text = .ok (.object members) ∧
    info = { uid := Json.member members "uid", utid := Json.member members "utid" }

/-- The first three readers read a blob, and give this text. -/
def Gives (blob : Text) (text : List Char) : Prop :=
  ∃ s octets, Unwraps blob s octets ∧ Utf8.decode octets = .ok text

/-- What is wrong with a blob that is refused: the first of the four readers that does not read it gives
the fault, or the JSON is no object. -/
inductive Refused (room : Nat) (blob : Text) : TransportFault → Prop where
  | ascii {fault : EncodeFault}
      (foreign : Text.FirstForeign (fun c => c.toNat < 0x80) 0 (Text.trimLetters blob) fault) :
      Refused room blob (.clientInfo (.ascii fault))
  | base64 {s : List Char} {fault : Base64.Fault} (holds : Holds blob s)
      (ascii : ∀ c ∈ s, c.toNat < 0x80)
      (unread : Base64.decode (s ++ Base64.padding s.length) = .error fault) :
      Refused room blob (.clientInfo (.base64 fault))
  | octets {s : List Char} {octets : List UInt8} {fault : Utf8.Fault} (unwraps : Unwraps blob s octets)
      (unread : Utf8.decode octets = .error fault) : Refused room blob (.clientInfo (.octets fault))
  | json {text : List Char} {fault : Json.Fault} (gives : Gives blob text)
      (unread : Json.readChars room text = .error (.fault fault)) :
      Refused room blob (.clientInfo (.json fault))
  | notObject {text : List Char} {value : Json} (gives : Gives blob text)
      (read : Json.readChars room text = .ok value) (other : ∀ members, value ≠ .object members) :
      Refused room blob .clientInfoNotObject

variable {room : Nat} {blob : Text} {info : ClientInfo}

theorem octets_eq_ok_iff {bytes : List UInt8} : octets blob = .ok bytes ↔ ∃ s, Unwraps blob s bytes := by
  rw [octets, bind_eq_ok]
  simp only [mapError_eq_ok, Text.charsOf_eq_ok_iff, decide_eq_true_eq]
  constructor
  · rintro ⟨s, ⟨hs, hascii⟩, hdecoded⟩
    exact ⟨s, holds_iff.mpr hs, hascii, hdecoded⟩
  · rintro ⟨s, hholds, hascii, hdecoded⟩
    exact ⟨s, ⟨holds_iff.mp hholds, hascii⟩, hdecoded⟩

theorem text_eq_ok_iff {chars : List Char} : text blob = .ok chars ↔ Gives blob chars := by
  rw [text, bind_eq_ok]
  simp only [octets_eq_ok_iff, mapError_eq_ok]
  constructor
  · rintro ⟨bytes, ⟨s, hs⟩, hchars⟩
    exact ⟨s, bytes, hs, hchars⟩
  · rintro ⟨s, bytes, hs, hchars⟩
    exact ⟨bytes, ⟨s, hs⟩, hchars⟩

theorem refused_of_octets {fault : ClientInfoFault} (h : octets blob = .error fault) :
    Refused room blob (.clientInfo fault) := by
  rw [octets] at h
  rcases bind_eq_error.mp h with hascii | ⟨s, hs, hdecoded⟩
  · obtain ⟨found, hfound, rfl⟩ := mapError_eq_error.mp hascii
    exact .ascii (Text.firstForeign_of_charsOf hfound)
  · obtain ⟨found, hfound, rfl⟩ := mapError_eq_error.mp hdecoded
    obtain ⟨htrim, hascii⟩ := Text.charsOf_eq_ok_iff.mp (mapError_eq_ok.mp hs)
    exact .base64 (holds_iff.mpr htrim) (fun c hc => of_decide_eq_true (hascii c hc)) hfound

theorem refused_of_text {fault : ClientInfoFault} (h : text blob = .error fault) :
    Refused room blob (.clientInfo fault) := by
  rw [text] at h
  rcases bind_eq_error.mp h with hoctets | ⟨bytes, hbytes, hutf⟩
  · exact refused_of_octets hoctets
  · obtain ⟨s, hs⟩ := octets_eq_ok_iff.mp hbytes
    obtain ⟨found, hfound, rfl⟩ := mapError_eq_error.mp hutf
    exact .octets hs hfound

theorem decode_of_gives {chars : List Char} (h : Gives blob chars) :
    decode room blob =
      (Json.readChars room chars).mapError
          (fun halt => halt.failure fun fault => .clientInfo (.json fault)) >>= fun
        | .object members => .ok { uid := Json.member members "uid", utid := Json.member members "utid" }
        | _ => .error (.transport .clientInfoNotObject) := by
  rw [decode, json, text_eq_ok_iff.mpr h]
  rfl

/-- **A blob is decoded exactly if all four readers read it**, and JSON is an object. -/
theorem decode_eq_ok_iff :
    decode room blob = .ok info ↔ ∃ s bytes, Unwraps blob s bytes ∧ Tells room bytes info := by
  constructor
  · intro h
    obtain ⟨value, hjson, hvalue⟩ := bind_eq_ok.mp h
    obtain ⟨chars, hchars, hread⟩ := bind_eq_ok.mp hjson
    obtain ⟨s, bytes, hs, hutf⟩ := text_eq_ok_iff.mp (mapError_eq_ok.mp hchars)
    split at hvalue
    · next members =>
      cases hvalue
      exact ⟨s, bytes, hs, chars, members, hutf, mapError_eq_ok.mp hread, rfl⟩
    · cases hvalue
  · rintro ⟨s, bytes, hs, chars, members, hutf, hread, rfl⟩
    rw [decode_of_gives ⟨s, bytes, hs, hutf⟩, hread]
    rfl

/-- A blob whose JSON is nested deeper than there is room. -/
def TooDeep (room : Nat) (blob : Text) : Prop :=
  ∃ text, Gives blob text ∧ Json.TooDeep room text

/-- **What becomes of a blob.** One that is not decoded is refused for what is wrong with it, or given up
because it is nested too deep. -/
theorem decode_cases (room : Nat) (blob : Text) :
    (∃ info, decode room blob = .ok info) ∨
      (∃ fault, decode room blob = .error (.transport fault) ∧ Refused room blob fault) ∨
        ∃ container, decode room blob = .error (.tooDeep container) ∧ TooDeep room blob := by
  cases htext : text blob with
  | error fault =>
    refine .inr (.inl ⟨.clientInfo fault, ?_, refused_of_text htext⟩)
    rw [decode, json, htext]
    rfl
  | ok chars =>
    have hgives := text_eq_ok_iff.mp htext
    have hdecode : decode room blob = _ := decode_of_gives hgives
    cases hread : Json.readChars room chars with
    | error halt =>
      rw [hread] at hdecode
      cases halt with
      | fault found => exact .inr (.inl ⟨_, hdecode, .json hgives hread⟩)
      | tooDeep container => exact .inr (.inr ⟨container, hdecode, chars, hgives, container, hread⟩)
    | ok value =>
      rw [hread] at hdecode
      cases value with
      | object members => exact .inl ⟨_, hdecode⟩
      | _ => exact .inr (.inl ⟨_, hdecode, .notObject hgives hread fun members h => nomatch h⟩)

/-! ## 3. Blobs that were written -/

/-- Neither a character of the alphabet for URLs nor a sign `=` is a blank. -/
theorem isBlank_of_isUrlDigit_or_eq_pad {c : Char} (h : Base64.isUrlDigit c = true ∨ c = '=') :
    Text.isBlank c = false := by
  rcases h with hdigit | rfl
  · have hall : ∀ n < 0x80, Base64.isUrlDigit (Char.ofNat n) = true →
        Text.isBlank (Char.ofNat n) = false := by decide
    have hc := hall c.toNat (Base64.toNat_lt_of_isUrlDigit hdigit)
    rw [Char.ofNat_toNat] at hc
    exact hc hdigit
  · decide

/-- The base64 of octets is read as them, whatever part of its padding is left out and whatever blanks
stand around it. -/
theorem unwraps_of_writes {before s after : List Char} {bytes : List UInt8}
    (hb : before.all Text.isBlank = true) (ha : after.all Text.isBlank = true)
    (hs : Base64.Writes s bytes) : Unwraps ((before ++ s ++ after).map .plain) s bytes where
  holds := ⟨Text.trimItems_of_no_blank fun c hc =>
    isBlank_of_isUrlDigit_or_eq_pad (hs.isUrlDigit_or_eq_pad c hc), before, after, hb, ha, rfl⟩
  ascii := hs.ascii
  decoded := hs.decode_padded

/-- So is the base64 of octets alone. -/
theorem unwraps_encodeUrl (bytes : List UInt8) :
    Unwraps ((Base64.encodeUrl bytes).map .plain) (Base64.encodeUrl bytes) bytes := by
  have hwrites : Base64.Writes (Base64.encodeUrl bytes) bytes := ⟨0, List.append_nil _⟩
  have hbare : Unwraps (([] ++ Base64.encodeUrl bytes ++ []).map .plain) _ bytes :=
    unwraps_of_writes rfl rfl hwrites
  rwa [List.nil_append, List.append_nil] at hbare

/-- A blob that is made of a text: the base64 of its UTF-8, any part of the padding left out, with any
blanks around it. -/
def Carries (blob : Text) (text : List Char) : Prop :=
  ∃ before s after : List Char, before.all Text.isBlank = true ∧ after.all Text.isBlank = true ∧
    Base64.Writes s (Utf8.encode text) ∧ blob = (before ++ s ++ after).map .plain

theorem Carries.gives {chars : List Char} (h : Carries blob chars) : Gives blob chars := by
  obtain ⟨before, s, after, hb, ha, hs, rfl⟩ := h
  exact ⟨s, _, unwraps_of_writes hb ha hs, Utf8.decode_encode chars⟩

/-- A blob of a text without blanks around it and without padding. -/
def written (text : List Char) : Text :=
  (Base64.encodeUrl (Utf8.encode text)).map .plain

theorem tooDeep_written {chars : List Char} (h : Json.TooDeep room chars) :
    TooDeep room (written chars) :=
  ⟨chars, ⟨_, _, unwraps_encodeUrl (Utf8.encode chars), Utf8.decode_encode chars⟩, h⟩

/-- A blob is answered for: it is decoded, or refused for what is wrong with it. -/
def Answers (room : Nat) (blob : Text) : Prop :=
  (∃ info, decode room blob = .ok info) ∨
    ∃ fault, decode room blob = .error (.transport fault) ∧ Refused room blob fault

/-- A blob that is nested too deep is given up, and not answered for. -/
theorem decode_of_tooDeep (h : TooDeep room blob) :
    ∃ container, decode room blob = .error (.tooDeep container) := by
  obtain ⟨chars, hgives, container, hread⟩ := h
  refine ⟨container, ?_⟩
  rw [decode_of_gives hgives, hread]
  rfl

/-- **A blob that was written is read back, and a blob is answered for exactly if it is not nested too
deep.** If the text that was written is a JSON object, the ids are its members of these names; a blob of any
letters is decoded, or refused for what is wrong with it, unless its JSON is nested too deep: then it is
given up with another failure. -/
theorem written_decoded_and_answers_iff (room : Nat) (blob : Text) :
    (∀ (text : List Char) (members : JsonObject), Json.readChars room text = .ok (.object members) →
      Carries blob text →
      decode room blob =
        .ok { uid := Json.member members "uid", utid := Json.member members "utid" }) ∧
    (Answers room blob ↔ ¬ TooDeep room blob) ∧
    (TooDeep room blob → ∃ container, decode room blob = .error (.tooDeep container)) := by
  refine ⟨fun text members hread hcarries => ?_, ⟨?_, fun hroom => ?_⟩, decode_of_tooDeep⟩
  · rw [decode_of_gives hcarries.gives, hread]
    rfl
  · rintro hanswers hdeep
    obtain ⟨container, hdecode⟩ := decode_of_tooDeep hdeep
    rcases hanswers with ⟨info, hinfo⟩ | ⟨fault, hfault, -⟩
    · cases hdecode.symm.trans hinfo
    · cases hdecode.symm.trans hfault
  · rcases decode_cases room blob with hinfo | hfault | ⟨container, -, hdeep⟩
    · exact .inl hinfo
    · exact .inr hfault
    · exact absurd hdeep hroom

/-- A blob with one of two signs left out, a blank in front and two behind, one of them beyond ASCII; and
the encoding of an object in which two thousand lists are nested. -/
theorem written_decoded_and_answers_iff_two_thousand :
    let deep := written (Json.nested 2000 ++ (List.replicate 2000 ']' ++ ['\x7d']))
    decode 970 (.ofString "\teyJ1aWQiOiJ1MSJ9IA= \u3000") = .ok ⟨.ofString "u1", .null⟩ ∧
      ¬ Answers 970 deep ∧ ∃ container, decode 970 deep = .error (.tooDeep container) := by
  intro deep
  have hread : Json.readChars 970 "\x7b\"uid\":\"u1\"\x7d ".toList =
      .ok (.object [(.ofString "uid", .ofString "u1")]) := rfl
  have hcarries : Carries (.ofString "\teyJ1aWQiOiJ1MSJ9IA= \u3000")
      "\x7b\"uid\":\"u1\"\x7d ".toList :=
    ⟨['\t'], "eyJ1aWQiOiJ1MSJ9IA=".toList, [' ', '\u3000'], by decide, by decide,
      ⟨1, by decide +kernel⟩, rfl⟩
  have hnested : TooDeep 970 deep := tooDeep_written (Json.tooDeep_nested (by decide) _)
  obtain ⟨-, hanswers, hgivenUp⟩ := written_decoded_and_answers_iff 970 deep
  exact ⟨(written_decoded_and_answers_iff 970 _).1 _ _ hread hcarries,
    fun h => hanswers.mp h hnested, hgivenUp hnested⟩

/-! ## 4. Blobs that were not -/

/-- **A blob that is decoded is the encoding of the octets that were decoded exactly if it is of the
alphabet for URLs and has nothing left over.** Blanks around it and signs at its end do not count. In any
case the octets are those of the characters of either alphabet in a part of it, and their encoding is
decoded to the same ids. -/
theorem encodes_iff_of_decode (h : decode room blob = .ok info) :
    ∃ s bytes, Unwraps blob s bytes ∧ Tells room bytes info ∧
      (Base64.Encodes s bytes ↔
        (∀ c ∈ Base64.unpadded s, Base64.isUrlDigit c = true) ∧
          Base64.NothingLeft (Base64.unpadded s)) ∧
      Base64.ReadAs (s ++ Base64.padding s.length) bytes ∧
      decode room ((Base64.encodeUrl bytes).map .plain) = .ok info := by
  obtain ⟨s, bytes, hs, htells⟩ := decode_eq_ok_iff.mp h
  exact ⟨s, bytes, hs, htells, Base64.encodes_iff hs.decoded, Base64.readAs_of_decode hs.decoded,
    decode_eq_ok_iff.mpr ⟨_, bytes, unwraps_encodeUrl bytes, htells⟩⟩

/-- Two characters of no alphabet inside a blob are skipped; they make room for the padding that an empty
object needs. -/
theorem encodes_iff_of_decode_foreign :
    decode 1 (.ofString "e3!!0") = .ok ⟨.null, .null⟩ ∧
      ∃ bytes, Unwraps (.ofString "e3!!0") "e3!!0".toList bytes ∧
        ¬ Base64.Encodes "e3!!0".toList bytes := by
  have hdecode : decode 1 (.ofString "e3!!0") = .ok ⟨.null, .null⟩ := rfl
  obtain ⟨s, bytes, hs, -, hiff, -⟩ := encodes_iff_of_decode hdecode
  have htext : "e3!!0".toList.map Letter.plain = s.map .plain := holds_iff.mp hs.holds
  obtain rfl := (List.map_inj_right fun _ _ h => Letter.plain.inj h).mp htext
  refine ⟨hdecode, bytes, hs, fun hencodes => ?_⟩
  exact absurd ((hiff.mp hencodes).1 '!' (by decide)) (by decide)

end ClientInfo

end TokenEndpoint
