import TokenEndpoint.Proofs.RequestContents
import TokenEndpoint.Proofs.Steps
/-!
A request that is built beside the one that an exchange sends. Both come from one builder; but headers that
are not given are made afresh by an exchange, with the exchanger's settings, and left out where a request is
only built. Main statements:

* `handedOver?_exchange` -- an exchange hands over what the builder makes of the call with its headers;
* `builds_as_sent_iff` -- the two agree exactly if headers are given, or both fail alike.
-/

namespace TokenEndpoint

/-! ## 1. What an exchange hands over -/

namespace Exchanger

/-- What an exchange handed to its transport: its request, or the failure that kept it from sending one. -/
def Outcome.handedOver? (done : Outcome) : Option (Except Failure Request) :=
  match done.trace.requests, done.outcome with
  | [request], _ => some (.ok request)
  | [], .error failure => some (.error failure)
  | _, _ => none

/-- **An exchange hands over what the builder makes of the call with its headers**, the given ones or fresh
ones. -/
theorem handedOver?_exchange (e : Exchanger) (w : Surroundings) (ids : IdSupply) (c : Call) :
    (e.exchange w ids c).handedOver? = some (buildRequest w.platform (e.headed ids c)) := by
  have hrequests := e.exchange_requests w ids c
  have houtcome := e.exchange_outcome w ids c
  rw [Outcome.handedOver?, hrequests]
  cases hbuilt : buildRequest w.platform (e.headed ids c) with
  | ok request => rfl
  | error failure =>
    rw [steps, received, hbuilt, error_bind, error_bind] at houtcome
    rw [houtcome]
    rfl

end Exchanger

/-! ## 2. The first header of a request -/

/-- A credential that only sets headers, and takes none away. -/
def Credential.SetsHeaders (c : Credential) : Prop :=
  ∀ d : Draft, ∃ more, (c.applyTo d).1.headers = d.headers.setAll more

theorem Credential.setsHeaders_of_isBuiltIn {c : Credential} (h : c.isBuiltIn = true) : c.SetsHeaders :=
  fun d => ⟨c.headers, by rw [applyTo_eq h]⟩

theorem Draft.headers_step {s : Step} (h : ∀ c, s = .credential c → c.SetsHeaders) (d : Draft) :
    ∃ more, (d.step s).1.headers = d.headers.setAll more := by
  cases s with
  | parameter name values => exact ⟨[], rfl⟩
  | header name value => exact ⟨[(name, value)], rfl⟩
  | credential c => exact h c rfl d
  | grant g =>
    refine ⟨[], ?_⟩
    show (d.step (.grant g)).1.headers = d.headers
    rw [step]
    split
    · next changed hchanged => exact headers_addSerialized hchanged
    · rfl

/-- A credential by steps only sets headers, as far as it gets. -/
theorem Credential.setsHeaders_ofSteps {steps : List Draft.Step}
    (h : ∀ c, .credential c ∈ steps → c.SetsHeaders) : (ofSteps steps).SetsHeaders := by
  intro d
  show ∃ more, (d.run steps).1.headers = d.headers.setAll more
  induction steps generalizing d with
  | nil => exact ⟨[], rfl⟩
  | cons s rest ih =>
    obtain ⟨first, hfirst⟩ := d.headers_step fun c hs => h c (hs ▸ List.mem_cons_self)
    rw [Draft.run]
    split
    · next changed hstep =>
      obtain ⟨more, hmore⟩ := ih (fun c hc => h c (List.mem_cons_of_mem s hc)) changed
      rw [hstep] at hfirst
      exact ⟨first ++ more, by rw [hmore, hfirst, Fields.setAll_append]⟩
    · exact ⟨first, hfirst⟩

/-- The name that stands first among the headers of a request. -/
def HeaderName.first (headers : Option RequestHeaders) : String :=
  if headers.isSome then HeaderName.sku else HeaderName.contentType

theorem RequestHeaders.first_fields (h : RequestHeaders) (platform : String) :
    (h.fields platform).names.head? = some HeaderName.sku := by
  unfold fields
  dsimp only
  split
  · exact Fields.head?_names_setAll rfl h.extra
  · exact Fields.head?_names_setAll rfl h.extra

theorem Draft.first_ofHeaders (url platform : String) (headers : Option RequestHeaders) :
    (ofHeaders url platform headers).headers.names.head? = some (HeaderName.first headers) := by
  rw [ofHeaders_headers]
  cases headers with
  | none => rfl
  | some h => exact Fields.head?_names_set (h.first_fields platform) _ _

/-- The first header of a built request tells whether it was built with headers. -/
theorem first_of_buildRequest {platform : String} {authority : Authority} {grant : Grant}
    {headers : Option RequestHeaders} {credential : Option Credential} {request : Request}
    (hc : ∀ c, credential = some c → c.SetsHeaders)
    (h : buildRequest platform authority grant headers credential = .ok request) :
    request.headers.names.head? = some (HeaderName.first headers) := by
  obtain ⟨d, hd, hfrozen⟩ := bind_eq_ok.mp h
  obtain ⟨url, -, hd⟩ := bind_eq_ok.mp hd
  obtain ⟨granted, hgranted, hd⟩ := bind_eq_ok.mp hd
  have hfirst : granted.headers.names.head? = some (HeaderName.first headers) := by
    rw [Draft.headers_addSerialized hgranted]
    exact Draft.first_ofHeaders url platform headers
  rw [(Draft.freeze_eq_ok hfrozen).2.1]
  cases credential with
  | none =>
    cases hd
    exact hfirst
  | some c =>
    obtain ⟨more, hmore⟩ := hc c rfl granted
    rw [Draft.addCredential] at hd
    split at hd
    · next changed hchanged =>
      cases hd
      rw [hchanged] at hmore
      rw [hmore]
      exact Fields.head?_names_setAll hfirst more
    · cases hd

/-! ## 3. Both ways -/

/-- The request with another correlation id in its header. -/
def Request.withCorrelationId (r : Request) (id : String) : Request :=
  { r with headers := r.headers.map fun (name, value) =>
      if name = HeaderName.correlationId then (name, id) else (name, value) }

theorem Request.names_withCorrelationId (r : Request) (id : String) :
    (r.withCorrelationId id).headers.names = r.headers.names := by
  rw [withCorrelationId, Fields.names, List.map_map]
  refine List.map_congr_left fun field _ => ?_
  dsimp only [Function.comp_apply]
  split <;> rfl

/-- The same request but for the correlation id in its header, or the same failure. -/
def SameButId (x y : Except Failure Request) : Prop :=
  x.map (·.withCorrelationId "") = y.map (·.withCorrelationId "")

theorem SameButId.cases {x y : Except Failure Request} (h : SameButId x y) :
    (∃ failure, x = .error failure ∧ y = .error failure) ∨
      ∃ r r', x = .ok r ∧ y = .ok r' ∧ r.headers.names = r'.headers.names := by
  cases x with
  | error failure =>
    cases y with
    | error failure' =>
      cases h
      exact .inl ⟨failure, rfl, rfl⟩
    | ok r' => cases h
  | ok r =>
    cases y with
    | error failure => cases h
    | ok r' =>
      have hsame : r.withCorrelationId "" = r'.withCorrelationId "" := Except.ok.inj h
      refine .inr ⟨r, r', rfl, rfl, ?_⟩
      rw [← r.names_withCorrelationId "", hsame, r'.names_withCorrelationId]

namespace Exchanger

/-- **What is built agrees with what is sent exactly if headers are given, or both fail alike.** With given
headers the two are equal. Without them an exchange sends what is built with fresh headers that have the
exchanger's settings, and a request that is only built has none of these headers. -/
theorem builds_as_sent_iff (e : Exchanger) (w : Surroundings) (ids : IdSupply) (c : Call)
    (hc : ∀ credential, c.credential = some credential → credential.SetsHeaders) :
    ∃ handed, (e.exchange w ids c).handedOver? = some handed ∧
      handed = buildRequest w.platform { c with headers := some (e.callHeaders ids c) } ∧
      (c.headers.isSome = true → handed = buildRequest w.platform c) ∧
      (SameButId handed (buildRequest w.platform c) ↔ c.headers.isSome = true ∨
        ∃ failure, handed = .error failure ∧ buildRequest w.platform c = .error failure) := by
  have hgiven (h : c.headers.isSome = true) :
      buildRequest w.platform (e.headed ids c) = buildRequest w.platform c := by
    obtain ⟨headers, hheaders⟩ := Option.isSome_iff_exists.mp h
    rw [headed_of_given e ids hheaders]
  refine ⟨_, handedOver?_exchange e w ids c, rfl, hgiven, ?_⟩
  constructor
  · intro hsame
    cases hheaders : c.headers with
    | some headers => exact .inl rfl
    | none =>
      rcases hsame.cases with hfailure | ⟨sent, request, hsent, hbuilt, hnames⟩
      · exact .inr hfailure
      · -- the headers of the exchange begin with the name of the client, the others with the content type
        have hsku : sent.headers.names.head? = some HeaderName.sku := first_of_buildRequest hc hsent
        have htype := first_of_buildRequest hc hbuilt
        rw [hheaders, ← hnames, hsku] at htype
        exact absurd htype (by decide)
  · rintro (h | ⟨failure, hsent, hbuilt⟩)
    · rw [hgiven h]
      rfl
    · rw [hsent, hbuilt]
      rfl

/-- A call without headers, and a credential that sets one of its own. -/
theorem builds_as_sent_iff_without_headers :
    let w : Surroundings :=
      { platform := "Linux"
        transport := fun _ => { result := .ok { status := 503 } }
        clock := .whole 0 }
    let c : Call :=
      { authority := { canonicalUrl := "https://h/t" }, grant := { flow := .refreshToken "RT" }
        credential := some (.ofSteps [.header "X-App" "demo"]) }
    let e : Exchanger := {}
    let ids : IdSupply := { name := fun _ => "id" }
    (∀ credential, c.credential = some credential → credential.SetsHeaders) ∧
      ∃ handed, (e.exchange w ids c).handedOver? = some handed ∧
        ¬ SameButId handed (buildRequest w.platform c) ∧
        handed.toOption.map (·.headers) =
          some [(HeaderName.sku, e.settings.clientSku), (HeaderName.version, e.settings.clientVersion),
            (HeaderName.os, "Linux"), (HeaderName.correlationId, "id"),
            (HeaderName.returnCorrelationId, "true"), (HeaderName.contentType, Request.contentType),
            ("X-App", "demo")] ∧
        (buildRequest w.platform c).toOption.map (·.headers) =
          some [(HeaderName.contentType, Request.contentType), ("X-App", "demo")] := by
  intro w c e ids
  have hc : ∀ credential, c.credential = some credential → credential.SetsHeaders := by
    rintro credential heq
    cases heq
    exact Credential.setsHeaders_ofSteps fun c hmem => by simp at hmem
  obtain ⟨handed, hhanded, hsent, -, hiff⟩ := builds_as_sent_iff e w ids c hc
  have hbuilt : (buildRequest w.platform c).toOption.map (·.headers) =
      some [(HeaderName.contentType, Request.contentType), ("X-App", "demo")] := by
    decide
  refine ⟨hc, handed, hhanded, fun hsame => ?_, ?_, hbuilt⟩
  · rcases hiff.mp hsame with hgiven | ⟨failure, -, hfailure⟩
    · cases hgiven
    · rw [hfailure] at hbuilt
      cases hbuilt
  · rw [hsent]
    decide

end Exchanger

end TokenEndpoint
