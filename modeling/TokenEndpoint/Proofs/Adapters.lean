import TokenEndpoint.Proofs.Drafts
import TokenEndpoint.Proofs.FailureKinds
import TokenEndpoint.Proofs.Parameters
import TokenEndpoint.Proofs.Steps
/-!
The two adapters side by side. One hands the body of a request over as a text and leaves its encoding to the
HTTP client, the other hands over octets. A form is written in ASCII, so these are its octets in every
encoding that extends ASCII, and both clients are called with the same. Main statements:

* `carries_call` -- the calls of both adapters carry a request whose body is ASCII;
* `adapters_interchangeable` -- each adapter makes one call, and like answers come to like results;
* `exchange_over_either` -- an exchange comes to the same over either of the two.
-/

namespace TokenEndpoint

/-! ## 1. Octets of a body -/

/-- An encoding of texts, character by character, in which an ASCII character is the octet of its number. -/
def ExtendsAscii (encode : Char → List UInt8) : Prop :=
  ∀ c, Form.isAscii c = true → encode c = [.ofNat c.toNat]

theorem extendsAscii_encodeChar : ExtendsAscii Utf8.encodeChar := by
  intro c hc
  have hsmall : c.toNat < 0x80 := of_decide_eq_true hc
  rw [Utf8.encodeChar]
  exact if_pos hsmall

/-- A text in ASCII has one encoding. -/
theorem ExtendsAscii.flatMap_eq {encode encode' : Char → List UInt8} (h : ExtendsAscii encode)
    (h' : ExtendsAscii encode') {s : List Char} (hs : s.all Form.isAscii = true) :
    s.flatMap encode = s.flatMap encode' := by
  induction s with
  | nil => rfl
  | cons c rest ih =>
    rw [List.all_cons, Bool.and_eq_true] at hs
    rw [List.flatMap_cons, List.flatMap_cons, h c hs.1, h' c hs.1, ih hs.2]

/-- The octets of a body whose text, if it is one, the client writes in an encoding. -/
def Body.written (encode : Char → List UInt8) : Body → List UInt8
  | .text t => t.toList.flatMap encode
  | .octets bytes => bytes

/-- The octets of a body are those that it has in UTF-8. -/
theorem Body.written_encodeChar (body : Body) : body.written Utf8.encodeChar = body.toOctets := by
  cases body with
  | text t => rfl
  | octets bytes => rfl

/-! ## 2. Calls -/

/-- A call that says what a request says, in whatever encoding that extends ASCII the text of its body is
written. How long the client waits and whether it checks the certificate is its own affair. -/
structure ClientCall.Carries (call : ClientCall) (request : Request) : Prop where
  method : call.method = Request.method
  url : call.url = request.url
  headers : call.headers = Fields.ofPairs request.headers
  octets : ∀ encode, ExtendsAscii encode → call.body.written encode = Utf8.encode request.body.toList

/-- Two calls that say the same to an endpoint. -/
structure ClientCall.Matches (a b : ClientCall) : Prop where
  method : a.method = b.method
  url : a.url = b.url
  headers : a.headers = b.headers
  octets : ∀ encode encode', ExtendsAscii encode → ExtendsAscii encode' →
    a.body.written encode = b.body.written encode'

theorem ClientCall.Carries.matches {a b : ClientCall} {request : Request} (ha : a.Carries request)
    (hb : b.Carries request) : a.Matches b where
  method := ha.method.trans hb.method.symm
  url := ha.url.trans hb.url.symm
  headers := ha.headers.trans hb.headers.symm
  octets encode encode' h h' := (ha.octets encode h).trans (hb.octets encode' h').symm

/-- **The calls of both adapters carry a request whose body is ASCII.** -/
theorem Adapter.carries_call {request : Request} (h : request.body.toList.all Form.isAscii = true)
    (a : Adapter) (options : ClientOptions) : (a.call options request).Carries request := by
  cases a with
  | textual =>
    exact ⟨rfl, rfl, rfl, fun encode hencode => hencode.flatMap_eq extendsAscii_encodeChar h⟩
  | binary => exact ⟨rfl, rfl, rfl, fun encode hencode => rfl⟩

/-- Each header of a built request stands once, unless a credential that its user has defined puts one there
twice. -/
theorem nodup_headers_of_buildRequest {platform : String} {authority : Authority} {grant : Grant}
    {headers : Option RequestHeaders} {credential : Option Credential} {request : Request}
    (hc : Credential.NoneCustom credential)
    (hbuilt : buildRequest platform authority grant headers credential = .ok request) :
    request.headers.names.Nodup := by
  obtain ⟨d, hdraft, hfrozen⟩ := bind_eq_ok.mp hbuilt
  obtain ⟨url, -, hdraft⟩ := bind_eq_ok.mp hdraft
  obtain ⟨granted, hgrant, hdraft⟩ := bind_eq_ok.mp hdraft
  rw [Draft.addCredential_eq granted hc] at hdraft
  cases hdraft
  obtain ⟨-, hheaders, -⟩ := Draft.freeze_eq_ok hfrozen
  rw [hheaders, Draft.headers_addSerialized hgrant]
  exact Fields.nodup_names_setAll (Fields.nodup_names_set (Fields.nodup_names_ofPairs _) _ _) _

namespace Adapter

/-! ## 3. Answers and results -/

variable {options options' : ClientOptions} {client client' : ClientCall → Except Failure Response}
  {request : Request}

/-- An adapter calls its client once, whatever the client answers. -/
theorem calls_send (a : Adapter) (options : ClientOptions)
    (client : ClientCall → Except Failure Response) (request : Request) :
    (a.send options client request).calls = [a.call options request] := by
  unfold send
  dsimp only
  cases client (a.call options request) with
  | ok response => rfl
  | error failure => rfl

/-- An error of the family of its client becomes a transport fault with the error's text. -/
theorem send_of_family {a : Adapter} {label text : String}
    (h : client (a.call options request) = .error (.foreign (some a) label text)) :
    (a.send options client request).result = .error (.transport (.network label text)) := by
  unfold send
  dsimp only
  rw [h]
  show Except.error (a.passOn (.foreign (some a) label text)).1 = _
  rw [passOn, if_pos rfl]

/-- Like answers of the two clients: one response, or errors with one text, each of its client's own
family. -/
inductive AnswerAlike : Except Failure Response → Except Failure Response → Prop where
  | response (r : Response) : AnswerAlike (.ok r) (.ok r)
  | ownError (label label' text : String) :
      AnswerAlike (.error (.foreign (some .textual) label text))
        (.error (.foreign (some .binary) label' text))

/-- Like results: equal ones, or transport faults with one message. -/
def ResultAlike {α : Type} (x y : Except Failure α) : Prop :=
  x = y ∨ ∃ fault fault' : TransportFault, x = .error (.transport fault) ∧
    y = .error (.transport fault') ∧ fault.message = fault'.message

/-- **Like answers come to like results.** -/
theorem send_resultAlike
    (h : AnswerAlike (client (textual.call options request)) (client' (binary.call options' request))) :
    ResultAlike (textual.send options client request).result
      (binary.send options' client' request).result := by
  generalize hx : client (textual.call options request) = answer at h
  generalize hy : client' (binary.call options' request) = answer' at h
  cases h with
  | response r => exact .inl ((send_eq_ok_iff.mpr hx).trans (send_eq_ok_iff.mpr hy).symm)
  | ownError label label' text => exact .inr ⟨_, _, send_of_family hx, send_of_family hy, rfl⟩

/-- **The two adapters are interchangeable.** For a request that was built each of them calls its client
once, whatever the client answers. Both calls carry the request and so match: the text in one of them is
ASCII and has one encoding, and no header gets lost where none stands twice. A response is passed on as it
is, and errors of the clients' own families that have one text become transport faults with one message. -/
theorem adapters_interchangeable {platform : String} {authority : Authority} {grant : Grant}
    {headers : Option RequestHeaders} {credential : Option Credential}
    (hbuilt : buildRequest platform authority grant headers credential = .ok request)
    (options options' : ClientOptions) (client client' : ClientCall → Except Failure Response) :
    let sent := textual.send options client request
    let sent' := binary.send options' client' request
    ∃ call call', sent.calls = [call] ∧ sent'.calls = [call'] ∧
      call.Carries request ∧ call'.Carries request ∧ call.Matches call' ∧
      (∃ t, call.body = .text t ∧ t.toList.all Form.isAscii = true) ∧
      (Credential.NoneCustom credential → call.headers = request.headers) ∧
      (∀ response, client call = .ok response → client' call' = .ok response →
        sent.result = .ok response ∧ sent'.result = .ok response) ∧
      ∀ label label' text, client call = .error (.foreign (some .textual) label text) →
        client' call' = .error (.foreign (some .binary) label' text) →
        ∃ fault fault' : TransportFault, sent.result = .error (.transport fault) ∧
          sent'.result = .error (.transport fault') ∧ fault.message = fault'.message := by
  intro sent sent'
  have hascii : request.body.toList.all Form.isAscii = true := by
    obtain ⟨d, -, hfrozen⟩ := bind_eq_ok.mp hbuilt
    exact (Draft.freeze_eq_ok hfrozen).2.2
  have hcall := carries_call hascii .textual options
  have hcall' := carries_call hascii .binary options'
  refine ⟨_, _, calls_send .textual .., calls_send .binary .., hcall, hcall', hcall.matches hcall',
    ⟨_, rfl, hascii⟩, fun hc => ?_, fun response h h' => ?_, fun label label' text h h' => ?_⟩
  · exact Fields.ofPairs_of_nodup (nodup_headers_of_buildRequest hc hbuilt)
  · exact ⟨send_eq_ok_iff.mpr h, send_eq_ok_iff.mpr h'⟩
  · exact ⟨_, _, send_of_family h, send_of_family h', rfl⟩

/-- A refresh token beyond ASCII, once with an answer and once with a lost connection: the text has the octets
of the other call also in an encoding that is not UTF-8, though the token itself has not. -/
theorem adapters_interchangeable_beyond_ascii :
    let authority : Authority := { canonicalUrl := "https://h/t" }
    let latin : Char → List UInt8 := fun c => [.ofNat c.toNat]
    let answer : Response :=
      { status := 400, headers := [("x-id", "1"), ("x-id", "2")], body := "ü" }
    let lost (a : Adapter) (label : String) : ClientCall → Except Failure Response :=
      fun _ => .error (.foreign (some a) label "reset")
    "ü".toList.flatMap latin ≠ Utf8.encode "ü".toList ∧
      ∃ request,
        buildRequest "Linux" authority { flow := .refreshToken "ü" } none none = .ok request ∧
        (textual.call {} request).body.written latin = (binary.call {} request).body.toOctets ∧
        (textual.send {} (fun _ => .ok answer) request).result = .ok answer ∧
        (binary.send {} (fun _ => .ok answer) request).result = .ok answer ∧
        ∃ fault fault' : TransportFault,
          (textual.send {} (lost .textual "ConnectionError") request).result =
              .error (.transport fault) ∧
            (binary.send {} (lost .binary "ReadError") request).result = .error (.transport fault') ∧
            fault.message = fault'.message ∧
            fault.message = "Network error calling token endpoint: reset" := by
  intro authority latin answer lost
  have hlatin : ExtendsAscii latin := fun _ _ => rfl
  let built := buildRequest "Linux" authority { flow := .refreshToken "ü" } none none
  obtain ⟨request, hsome⟩ : ∃ request, built.toOption = some request :=
    Option.isSome_iff_exists.mp (by decide)
  have hbuilt : built = .ok request := toOption_eq_some.mp hsome
  obtain ⟨call, call', hcalls, hcalls', -, -, hmatches, -, -, hresponse, -⟩ :=
    adapters_interchangeable hbuilt {} {} (fun _ => .ok answer) fun _ => .ok answer
  obtain ⟨_, _, -, -, -, -, -, -, -, -, herror⟩ := adapters_interchangeable hbuilt {} {}
    (lost .textual "ConnectionError") (lost .binary "ReadError")
  have hcall : textual.call {} request = call :=
    List.singleton_inj.mp ((calls_send ..).symm.trans hcalls)
  have hcall' : binary.call {} request = call' :=
    List.singleton_inj.mp ((calls_send ..).symm.trans hcalls')
  obtain ⟨hok, hok'⟩ := hresponse answer rfl rfl
  obtain ⟨fault, fault', hfault, hfault', hmessage⟩ := herror "ConnectionError" "ReadError" "reset" rfl rfl
  refine ⟨by decide, request, hbuilt, ?_, hok, hok', fault, fault', hfault, hfault', hmessage, ?_⟩
  · rw [hcall, hcall', ← Body.written_encodeChar]
    exact hmatches.octets latin _ hlatin extendsAscii_encodeChar
  · have hnetwork := hfault.symm.trans (send_of_family rfl)
    cases hnetwork
    rfl

end Adapter

/-! ## 4. Exchanges -/

namespace Exchanger

variable {platform : String} {clock : Decimal.Number} {room : Json.Room}
  {options options' : ClientOptions}
  {client client' : ClientCall → Except Failure Response}

/-- What comes of a call that is sent over either adapter. -/
theorem received_over_either
    (h : ∀ request, Adapter.AnswerAlike (client (Adapter.textual.call options request))
      (client' (Adapter.binary.call options' request))) (c : Call) :
    Adapter.ResultAlike (received (overAdapter platform clock room .textual options client) c)
      (received (overAdapter platform clock room .binary options' client') c) := by
  unfold received overAdapter
  dsimp only
  cases buildRequest platform c with
  | error failure => exact .inl rfl
  | ok request => exact Adapter.send_resultAlike (h request)

/-- **An exchange comes to the same over either adapter** if the two clients answer alike: to equal
outcomes, or to transport faults with one message. It sends the same requests and reads the clock as
often. -/
theorem exchange_over_either (e : Exchanger) (ids : IdSupply) (c : Call)
    (h : ∀ request, Adapter.AnswerAlike (client (Adapter.textual.call options request))
      (client' (Adapter.binary.call options' request))) :
    let done := e.exchange (overAdapter platform clock room .textual options client) ids c
    let done' := e.exchange (overAdapter platform clock room .binary options' client') ids c
    Adapter.ResultAlike done.outcome done'.outcome ∧ done.trace.requests = done'.trace.requests ∧
      done.trace.samples = done'.trace.samples := by
  intro done done'
  let w := overAdapter platform clock room .textual options client
  let w' := overAdapter platform clock room .binary options' client'
  have hrequests : done.trace.requests = done'.trace.requests :=
    (e.exchange_requests w ids c).trans (e.exchange_requests w' ids c).symm
  have houtcome := e.exchange_outcome w ids c
  have houtcome' := e.exchange_outcome w' ids c
  have hsamples := e.exchange_samples w ids c
  have hsamples' := e.exchange_samples w' ids c
  rw [steps] at houtcome houtcome'
  rcases received_over_either h (e.headed ids c) with heq | ⟨fault, fault', hfault, hfault', hmessage⟩
  · rw [heq] at houtcome hsamples
    exact ⟨.inl (houtcome.trans houtcome'.symm), hrequests, hsamples.trans hsamples'.symm⟩
  · rw [hfault] at houtcome hsamples
    rw [hfault'] at houtcome' hsamples'
    exact ⟨.inr ⟨fault, fault', houtcome, houtcome', hmessage⟩, hrequests,
      hsamples.trans hsamples'.symm⟩

end Exchanger

end TokenEndpoint
