import TokenEndpoint.Proofs.FormRoundTrip
import TokenEndpoint.Proofs.Letters
import TokenEndpoint.Request
/-!
Drafts and the requests that they are frozen to. A draft names every parameter once and its values are
Unicode texts, whatever steps are taken on it; so it can be frozen, and the body of the request that it is
frozen to gives its parameters back. Main statements:

* `isMapping_takeAll` -- no step makes a parameter name stand twice, or brings in a lone surrogate;
* `freeze_parameters` -- the draft can be frozen, and the body is ASCII and encodes its parameters;
* `freeze_of_foreign` -- a draft is not frozen for the first value that holds a lone surrogate.
-/

namespace TokenEndpoint

/-! ## 1. Values letter by letter -/

namespace Parameters

variable (params more : Parameters)

theorem names_letters : params.letters.names = params.names := by
  rw [letters, Fields.names, List.map_map]
  rfl

theorem letters_set (name : String) (values : List String) :
    letters (params.set name values) = params.letters.set name (values.map Text.ofString) := by
  induction params with
  | nil => rfl
  | cons field rest ih =>
    obtain ⟨k, v⟩ := field
    by_cases h : k = name
    · rw [Fields.set, if_pos h]
      exact (if_pos h).symm
    · rw [Fields.set, if_neg h]
      exact (congrArg _ ih).trans (if_neg h).symm

theorem get?_letters (name : String) :
    params.letters.get? name = (params.get? name).map (·.map Text.ofString) := by
  induction params with
  | nil => rfl
  | cons field rest ih =>
    obtain ⟨k, v⟩ := field
    by_cases h : k = name
    · rw [Fields.get?, if_pos h]
      exact if_pos h
    · rw [Fields.get?, if_neg h]
      exact (if_neg h).trans ih

theorem letters_setAll : letters (params.setAll more) = params.letters.setAll more.letters := by
  induction more generalizing params with
  | nil => rfl
  | cons field rest ih =>
    rw [Fields.setAll_cons, ih, letters_set]
    rfl

/-- Names without a value are left out before or after. -/
theorem letters_filter :
    letters (params.filter fun field => !field.2.isEmpty) =
      params.letters.filter fun field => !field.2.isEmpty := by
  rw [letters, letters, List.filter_map]
  congr 2
  funext field
  rw [Function.comp_apply, List.isEmpty_map]

/-- Every value with its name. -/
def pairs : List (String × String) :=
  params.flatMap fun (name, values) => values.map fun value => (name, value)

end Parameters

namespace Form

/-- Pairs letter by letter. -/
def letterPairs (pairs : List (String × String)) : List (String × Text) :=
  pairs.map fun (name, value) => (name, .ofString value)

theorem plainPairs_cons (name : String) (value : Text) (rest : List (String × Text)) :
    plainPairs ((name, value) :: rest) =
      value.plain >>= fun s => (plainPairs rest).map ((name, s) :: ·) := by
  rw [plainPairs, List.mapM_cons]
  show (value.plain.map _ >>= _) = _
  cases value.plain with
  | error fault => rfl
  | ok s =>
    show (plainPairs rest >>= _) = _
    cases plainPairs rest <;> rfl

theorem plainPairs_letterPairs_append (front : List (String × String)) (rest : List (String × Text)) :
    plainPairs (letterPairs front ++ rest) = (plainPairs rest).map (front ++ ·) := by
  induction front with
  | nil =>
    show plainPairs rest = _
    cases plainPairs rest <;> rfl
  | cons pair front ih =>
    show plainPairs ((pair.1, .ofString pair.2) :: (letterPairs front ++ rest)) = _
    rw [plainPairs_cons, Text.plain_eq_ok_iff.mpr rfl, ok_bind, ih]
    cases plainPairs rest <;> rfl

/-- Pairs of strings are taken as they are. -/
theorem plainPairs_letterPairs (pairs : List (String × String)) :
    plainPairs (letterPairs pairs) = .ok pairs := by
  have happend := plainPairs_letterPairs_append pairs []
  rw [List.append_nil] at happend
  rw [happend]
  exact congrArg Except.ok (List.append_nil pairs)

/-- The first value that is no string is the fault. -/
theorem plainPairs_of_foreign (front : List (String × String)) (name : String) {value : Text}
    {fault : EncodeFault} (h : value.plain = .error fault) (rest : List (String × Text)) :
    plainPairs (letterPairs front ++ (name, value) :: rest) = .error fault := by
  have hfirst : plainPairs ((name, value) :: rest) = .error fault := by
    rw [plainPairs_cons, h, error_bind]
  rw [plainPairs_letterPairs_append, hfirst]
  rfl

end Form

theorem Parameters.pairs_letters (params : Parameters) :
    params.letters.flatMap (fun (name, values) => values.map fun value => (name, value)) =
      Form.letterPairs params.pairs := by
  rw [letters, pairs, Form.letterPairs, List.flatMap_map, List.map_flatMap]
  congr 1
  funext field
  dsimp only
  rw [List.map_map, List.map_map]
  rfl

/-! ## 2. Names -/

namespace Draft

/-- The parameters map each name to Unicode texts. -/
def IsMapping (d : Draft) : Prop :=
  ∃ params : Parameters, d.parameters = params.letters ∧ params.names.Nodup

theorem setParameters_eq (d : Draft) (params : LetterParameters) :
    d.setParameters params = { d with parameters := d.parameters.setAll params } := by
  unfold setParameters
  induction params generalizing d with
  | nil => rfl
  | cons field rest ih => exact ih (d.setParameter field.1 field.2)

theorem setHeaders_eq (d : Draft) (headers : Fields String String) :
    headers.foldl (fun d (name, value) => d.setHeader name value) d =
      { d with headers := d.headers.setAll headers } := by
  induction headers generalizing d with
  | nil => rfl
  | cons field rest ih => exact ih (d.setHeader field.1 field.2)

/-- A grant sets no header. -/
theorem headers_addSerialized {d changed : Draft} {serialized : Except Failure LetterParameters}
    (h : d.addSerialized serialized = .ok changed) : changed.headers = d.headers := by
  obtain ⟨params, -, rfl⟩ := map_eq_ok.mp h
  rw [setParameters_eq]

theorem IsMapping.setParameter {d : Draft} (h : d.IsMapping) (name : String) (values : List String) :
    (d.setParameter name (values.map Text.ofString)).IsMapping := by
  obtain ⟨params, hparams, hdistinct⟩ := h
  refine ⟨Fields.set name values params, ?_, Fields.nodup_names_set hdistinct name values⟩
  rw [Parameters.letters_set, ← hparams]
  rfl

theorem IsMapping.setParameters {d : Draft} (h : d.IsMapping) (more : Parameters) :
    (d.setParameters more.letters).IsMapping := by
  obtain ⟨params, hparams, hdistinct⟩ := h
  refine ⟨Fields.setAll params more, ?_, Fields.nodup_names_setAll hdistinct more⟩
  rw [Parameters.letters_setAll, setParameters_eq, ← hparams]

theorem IsMapping.setHeaders {d : Draft} (h : d.IsMapping) (headers : Fields String String) :
    (headers.foldl (fun d (name, value) => d.setHeader name value) d).IsMapping := by
  rw [setHeaders_eq]
  exact h

/-! ## 3. Steps -/

/-- A change of a draft that leaves its parameters a mapping of names to Unicode texts. -/
def KeepsMapping (change : Draft → Draft × Option Failure) : Prop :=
  ∀ d : Draft, d.IsMapping → (change d).1.IsMapping

theorem keepsMapping_applyTo {c : Credential} (h : ∀ change, c = .custom change → KeepsMapping change) :
    KeepsMapping c.applyTo := by
  intro d hd
  cases c with
  | custom change => exact h change rfl d hd
  | none => exact hd
  | publicClient clientId => exact hd.setParameters _
  | secretPost clientId clientSecret => exact hd.setParameters _
  | secretBasic clientId clientSecret =>
    exact hd.setHeaders (Credential.secretBasic clientId clientSecret).headers
  | assertion clientId text assertionType => exact hd.setParameters _

/-- A grant that is serialized sets its parameters in turn; one that is not changes nothing. -/
theorem keepsMapping_grant (g : Grant) : KeepsMapping fun d => d.step (.grant g) := by
  intro d hd
  show (d.step (.grant g)).1.IsMapping
  rw [step, addGrant]
  cases g.toParameters with
  | error failure => exact hd
  | ok params => exact hd.setParameters params

/-- What is asked of a step: a way to prove who the client is that a user of the library defines must
leave the parameters a mapping of names to Unicode texts. Of every other step nothing is asked. -/
def Step.Orderly : Step → Prop
  | .credential (.custom change) => KeepsMapping change
  | _ => True

theorem keepsMapping_step {s : Step} (h : s.Orderly) : KeepsMapping fun d => d.step s := by
  cases s with
  | parameter name values => exact fun d hd => hd.setParameter name values
  | header name value => exact fun d hd => hd
  | grant g => exact keepsMapping_grant g
  | credential c =>
    refine keepsMapping_applyTo fun change hc => ?_
    subst hc
    exact h

/-- A credential that takes orderly steps is orderly itself, however far it gets with them. -/
theorem orderly_ofSteps {steps : List Step} (h : ∀ s ∈ steps, s.Orderly) :
    (Step.credential (.ofSteps steps)).Orderly := by
  show KeepsMapping fun d => d.run steps
  intro d hd
  induction steps generalizing d with
  | nil => exact hd
  | cons s rest ih =>
    have hs : (d.step s).1.IsMapping := keepsMapping_step (h s List.mem_cons_self) d hd
    have hrest := ih (fun t ht => h t (List.mem_cons_of_mem s ht)) (d.step s).1 hs
    show (d.run (s :: rest)).1.IsMapping
    rw [run]
    split
    · next changed hstep =>
      rw [hstep] at hrest
      exact hrest
    · exact hs

/-- Where any sequence of steps leaves a draft, whichever of them fail. -/
def takeAll (d : Draft) (steps : List Step) : Draft :=
  steps.foldl (fun d s => (d.step s).1) d

/-- **No sequence of steps makes a parameter name stand twice, or brings in a lone surrogate.** -/
theorem isMapping_takeAll {d : Draft} (hd : d.IsMapping) {steps : List Step}
    (h : ∀ s ∈ steps, s.Orderly) : (d.takeAll steps).IsMapping := by
  induction steps generalizing d with
  | nil => exact hd
  | cons s rest ih =>
    have hs : (d.step s).1.IsMapping := keepsMapping_step (h s List.mem_cons_self) d hd
    exact ih hs fun t ht => h t (List.mem_cons_of_mem s ht)

/-! ## 4. Freezing -/

theorem freeze_of_letters {d : Draft} {params : Parameters} (h : d.parameters = params.letters) :
    d.freeze =
      .ok { url := d.url, headers := d.headers, body := Form.encodePairs params.pairs } := by
  have hpairs : d.pairs = Form.letterPairs params.pairs := by
    rw [pairs, h]
    exact params.pairs_letters
  rw [freeze, hpairs, Form.plainPairs_letterPairs]
  rfl

/-- A frozen draft keeps URL and headers, and its body is ASCII. -/
theorem freeze_eq_ok {d : Draft} {request : Request} (h : d.freeze = .ok request) :
    request.url = d.url ∧ request.headers = d.headers ∧
      request.body.toList.all Form.isAscii = true := by
  obtain ⟨pairs, -, hrequest⟩ := bind_eq_ok.mp h
  cases hrequest
  exact ⟨rfl, rfl, Form.all_isAscii_encodePairs pairs⟩

/-- A draft is not frozen for the first value that holds a lone surrogate. -/
theorem freeze_of_foreign {d : Draft} {front : Parameters} {name : String} {value : Text}
    {rest : LetterParameters} {fault : EncodeFault}
    (h : d.parameters = front.letters ++ (name, [value]) :: rest) (hvalue : value.plain = .error fault) :
    d.freeze = .error (.unencodable fault) := by
  have hpairs : d.pairs = Form.letterPairs front.pairs ++ (name, value) ::
      rest.flatMap fun (name, values) => values.map fun value => (name, value) := by
    rw [pairs, h, List.flatMap_append, front.pairs_letters, List.flatMap_cons]
    rfl
  rw [freeze, hpairs, Form.plainPairs_of_foreign _ _ hvalue]
  rfl

/-- The request of parameters each of which is named once: its body gives them back. -/
theorem parameters_encode {params : Parameters} (h : params.names.Nodup) (url : String)
    (headers : Fields String String) :
    Request.parameters { url, headers, body := Form.encodePairs params.pairs } =
      params.filter fun field => !field.2.isEmpty := by
  rw [Request.parameters, Form.decode, Form.decodePairs_encodePairs]
  exact Form.group_pairs h

/-- **A draft can be frozen, and its request encodes its parameters.** Whatever steps have led to the
draft, the body is ASCII, and what is read from it are the draft's parameters: their names in order,
each with its values in order; only names without a value are left out. -/
theorem freeze_parameters (url : String) (steps : List Step) (h : ∀ s ∈ steps, s.Orderly) :
    let d := ({ url } : Draft).takeAll steps
    ∃ request, d.freeze = .ok request ∧ (∀ c ∈ request.body.toList, c.toNat < 0x80) ∧
      request.parameters.letters = d.parameters.filter fun field => !field.2.isEmpty := by
  intro d
  have hstart : ({ url } : Draft).IsMapping := ⟨[], rfl, List.nodup_nil⟩
  obtain ⟨params, hparams, hdistinct⟩ : d.IsMapping := isMapping_takeAll hstart h
  have hrequest := freeze_of_letters hparams
  obtain ⟨-, -, hascii⟩ := freeze_eq_ok hrequest
  refine ⟨_, hrequest, fun c hc => ?_, ?_⟩
  · exact of_decide_eq_true (List.all_eq_true.mp hascii c hc)
  · rw [parameters_encode hdistinct, Parameters.letters_filter, hparams]

/-- Empty names and values, both separators and letters beyond ASCII in them, a name without a value,
and a credential that sets a parameter and then fails. -/
theorem freeze_parameters_separators :
    let failing : Credential := .ofSteps [.parameter "k" ["%26"], .credential .undefined]
    let steps : List Step :=
      [.parameter "" ["", "a b"], .parameter "ß&=+%;" ["x&y=z", "é", ""], .parameter "none" [],
        .credential failing]
    (∀ s ∈ steps, s.Orderly) ∧
      ∃ request, (({ url := "https://h/t" } : Draft).takeAll steps).freeze = .ok request ∧
        request.parameters.letters =
          Parameters.letters
            [("", ["", "a b"]), ("ß&=+%;", ["x&y=z", "é", ""]), ("k", ["%26"])] := by
  intro failing steps
  have hfailing : (Step.credential failing).Orderly := by
    refine orderly_ofSteps fun s hs => ?_
    rcases List.mem_cons.mp hs with rfl | hs
    · trivial
    · cases List.mem_singleton.mp hs
      exact fun d hd => hd
  have horderly : ∀ s ∈ steps, s.Orderly := by
    intro s hs
    rcases List.mem_cons.mp hs with rfl | hs
    · trivial
    rcases List.mem_cons.mp hs with rfl | hs
    · trivial
    rcases List.mem_cons.mp hs with rfl | hs
    · trivial
    cases List.mem_singleton.mp hs
    exact hfailing
  obtain ⟨request, hrequest, -, hparameters⟩ := freeze_parameters "https://h/t" steps horderly
  exact ⟨horderly, request, hrequest, hparameters⟩

end Draft

end TokenEndpoint
