import Mathlib.Data.List.Induction
import TokenEndpoint.Proofs.Sessions
import TokenEndpoint.Proofs.Targets
/-!
A record that is told more than once. Path and status are written by every target that can be read and by
every response; the names of the query and the headers only by those that give some, so that what an
earlier one gave may be left over. Main statements:

* `Record.tellAll_eq` -- of each field the last telling that gives it counts;
* `Record.run_tellsLast_iff` -- a record tells of the last target and the last response alone exactly if
  nothing that they do not give was given before.
-/

namespace TokenEndpoint

/-! ## 1. The last value in a list -/

section Last

variable {α β : Type} (l : List α)

theorem getLast?_filterMap_concat (f : α → Option β) (x : α) :
    ((l ++ [x]).filterMap f).getLast? = (f x).or (l.filterMap f).getLast? := by
  rw [List.filterMap_append, List.getLast?_append]
  cases hx : f x <;> simp [hx]

theorem getLast?_filter_concat (p : α → Bool) (x : α) :
    ((l ++ [x]).filter p).getLast? = if p x then some x else (l.filter p).getLast? := by
  rw [List.filter_append, List.getLast?_append]
  cases hx : p x <;> simp [hx]

/-- The last item for which a function is defined has the last of its values. -/
theorem getLast?_filter_bind (f : α → Option β) :
    (l.filter (f · |>.isSome)).getLast?.bind f = (l.filterMap f).getLast? := by
  induction l using List.reverseRecOn with
  | nil => rfl
  | append_singleton l x ih =>
    rw [getLast?_filter_concat, getLast?_filterMap_concat]
    cases hx : f x with
    | none => exact ih
    | some y => exact hx

/-- The last value is the one of the last item, unless that has none and another has one. -/
theorem getLast?_filterMap_eq_bind_iff (f : α → Option β) :
    (l.filterMap f).getLast? = l.getLast?.bind f ↔
      ∀ last ∈ l.getLast?, f last = none → ∀ x ∈ l, f x = none := by
  obtain rfl | ⟨front, x, rfl⟩ := l.eq_nil_or_concat'
  · simp
  · rw [getLast?_filterMap_concat, List.getLast?_concat, Option.bind_some]
    cases hx : f x with
    | none => simp [hx, or_imp, forall_and]
    | some y => simp [hx]

end Last

namespace Record

/-! ## 2. Tellings -/

/-- What a record is told. -/
inductive Telling where
  | target (url : Option String)
  | response (response : Response)

namespace Telling

def command (i : Nat) : Telling → TelemetrySession.Command
  | target url => .setTarget i url
  | response r => .setResponse i r

/-- The URL of a target that can be read. -/
def target? : Telling → Option Url
  | target url => (readTarget url).toOption
  | response _ => none

def response? : Telling → Option Response
  | target _ => none
  | response r => some r

end Telling

/-- The record after a telling; a target that is refused leaves it as it was. -/
def tell (r : Record) : Telling → Record
  | .target url => (r.setTarget url).toOption.getD r
  | .response response => (r.setResponse response).1

def tellAll (r : Record) (tellings : List Telling) : Record :=
  tellings.foldl tell r

/-- The targets that could be read. -/
def targets (tellings : List Telling) : List Url :=
  tellings.filterMap Telling.target?

def responses (tellings : List Telling) : List Response :=
  tellings.filterMap Telling.response?

/-- The last target that could be read, as it was told. -/
def lastTarget (tellings : List Telling) : Option Telling :=
  (tellings.filter (·.target?.isSome)).getLast?

def lastResponse (tellings : List Telling) : Option Telling :=
  (tellings.filter (·.response?.isSome)).getLast?

/-! ## 3. The last one counts -/

/-- The account of a response. -/
def account? (response : Response) : Option ClientTelemetry :=
  (ClientTelemetry.read (response.header? HeaderName.clientTelemetry)).1

/-- What targets and responses leave in a record: of each field the last that is given. -/
def left (r : Record) (targets : List Url) (responses : List Response) : Record :=
  let header (name : String) : Option String := (responses.filterMap (givenHeader? · name)).getLast?
  { r with
    path := (targets.getLast?.map scrubbedPath).or r.path
    queryParameters := ((targets.filter (!·.query.isEmpty)).getLast?.map (queryNames ·.query)).getD
      r.queryParameters
    status := (responses.getLast?.map (·.status)).or r.status
    userAgent := (header HeaderName.userAgent).or r.userAgent
    requestId := (header HeaderName.requestId).or r.requestId
    clientTelemetry := (responses.filterMap account?).getLast?.or r.clientTelemetry }

section Tellings

variable (r : Record) (tellings : List Telling)

theorem tellAll_concat (t : Telling) : r.tellAll (tellings ++ [t]) = (r.tellAll tellings).tell t := by
  rw [tellAll, tellAll, List.foldl_append]
  rfl

/-- A target that is read writes the path, and the names unless its query is empty. -/
theorem left_concat_target (us : List Url) (rs : List Response) (u : Url) :
    r.left (us ++ [u]) rs =
      { r.left us rs with
        path := some (scrubbedPath u)
        queryParameters :=
          if u.query.isEmpty then (r.left us rs).queryParameters else queryNames u.query } := by
  unfold left
  dsimp only
  rw [List.getLast?_concat, getLast?_filter_concat]
  cases u.query.isEmpty <;> rfl

/-- A response writes the status, and of the headers those that it gives. -/
theorem left_concat_response (us : List Url) (rs : List Response) (response : Response) :
    r.left us (rs ++ [response]) = ((r.left us rs).setResponse response).1 := by
  unfold left
  dsimp only
  rw [List.getLast?_concat, getLast?_filterMap_concat, getLast?_filterMap_concat,
    getLast?_filterMap_concat, Option.or_assoc, Option.or_assoc, Option.or_assoc]
  unfold setResponse account?
  simp only [Option.orElse_eq_or]
  rfl

theorem targets_concat (t : Telling) :
    targets (tellings ++ [t]) = targets tellings ++ t.target?.toList := by
  rw [targets, targets, List.filterMap_append]
  cases ht : t.target? <;> simp [ht]

theorem responses_concat (t : Telling) :
    responses (tellings ++ [t]) = responses tellings ++ t.response?.toList := by
  rw [responses, responses, List.filterMap_append]
  cases ht : t.response? <;> simp [ht]

theorem targets_singleton (t : Telling) : targets [t] = t.target?.toList :=
  targets_concat [] t

theorem responses_singleton (t : Telling) : responses [t] = t.response?.toList :=
  responses_concat [] t

/-- **Of each field the last telling that gives it counts.** -/
theorem tellAll_eq : r.tellAll tellings = r.left (targets tellings) (responses tellings) := by
  induction tellings using List.reverseRecOn with
  | nil => rfl
  | append_singleton tellings t ih =>
    -- the telling that is added comes last, so that what it gives counts and nothing else changes
    rw [tellAll_concat, ih, targets_concat, responses_concat]
    cases t with
    | target url =>
      rw [Telling.response?, Option.toList_none, List.append_nil, Telling.target?, tell, setTarget]
      cases readTarget url with
      | ok parsed => exact (r.left_concat_target _ _ parsed).symm
      | error fault => exact congrArg (r.left · _) (List.append_nil _).symm
    | response response =>
      rw [Telling.target?, Option.toList_none, List.append_nil]
      exact (r.left_concat_response _ _ response).symm

end Tellings

/-! ## 4. The last ones alone -/

/-- The last target alone leaves what the last that was read does. -/
theorem tellAll_lastTarget (r : Record) (tellings : List Telling) :
    r.tellAll (lastTarget tellings).toList = r.left (targets tellings).getLast?.toList [] := by
  have hbind : (targets tellings).getLast? = (lastTarget tellings).bind Telling.target? :=
    (getLast?_filter_bind tellings Telling.target?).symm
  rw [tellAll_eq, hbind]
  cases hlast : lastTarget tellings with
  | none => rfl
  | some t =>
    have hread := (List.mem_filter.mp (List.mem_of_getLast? hlast)).2
    rw [Option.toList_some, targets_singleton, responses_singleton, Option.bind_some]
    cases t with
    | target url => rfl
    | response response => cases hread

theorem tellAll_lastResponse (r : Record) (tellings : List Telling) :
    r.tellAll (lastResponse tellings).toList = r.left [] (responses tellings).getLast?.toList := by
  have hbind : (responses tellings).getLast? = (lastResponse tellings).bind Telling.response? :=
    (getLast?_filter_bind tellings Telling.response?).symm
  rw [tellAll_eq, hbind]
  cases hlast : lastResponse tellings with
  | none => rfl
  | some t =>
    have hread := (List.mem_filter.mp (List.mem_of_getLast? hlast)).2
    rw [Option.toList_some, targets_singleton, responses_singleton, Option.bind_some]
    cases t with
    | target url => cases hread
    | response response => rfl

theorem tellAll_path (r : Record) (tellings : List Telling) :
    (r.tellAll tellings).path = (r.tellAll (lastTarget tellings).toList).path := by
  rw [tellAll_eq, tellAll_lastTarget, left, left]
  cases (targets tellings).getLast? <;> rfl

theorem tellAll_status (r : Record) (tellings : List Telling) :
    (r.tellAll tellings).status = (r.tellAll (lastResponse tellings).toList).status := by
  rw [tellAll_eq, tellAll_lastResponse, left, left]
  cases (responses tellings).getLast? <;> rfl

/-- Nothing has been told to a record. -/
structure Fresh (r : Record) : Prop where
  path : r.path = none
  queryParameters : r.queryParameters = none
  status : r.status = none
  userAgent : r.userAgent = none
  requestId : r.requestId = none
  clientTelemetry : r.clientTelemetry = none

/-- A record tells of the last target and of the last response what either alone would leave. -/
structure TellsLast (r : Record) (tellings : List Telling) : Prop where
  path : (r.tellAll tellings).path = (r.tellAll (lastTarget tellings).toList).path
  queryParameters :
    (r.tellAll tellings).queryParameters = (r.tellAll (lastTarget tellings).toList).queryParameters
  status : (r.tellAll tellings).status = (r.tellAll (lastResponse tellings).toList).status
  userAgent : (r.tellAll tellings).userAgent = (r.tellAll (lastResponse tellings).toList).userAgent
  requestId : (r.tellAll tellings).requestId = (r.tellAll (lastResponse tellings).toList).requestId
  clientTelemetry :
    (r.tellAll tellings).clientTelemetry = (r.tellAll (lastResponse tellings).toList).clientTelemetry

/-- What the last response does not give, none gave. -/
def GivenByLast {α : Type} (given : Response → Option α) (responses : List Response) : Prop :=
  ∀ last ∈ responses.getLast?, given last = none → ∀ response ∈ responses, given response = none

/-- Nothing of earlier tellings is left over: if the last target has no query, the last query before
named nothing, and of the headers the last response gives every one that was given before. -/
structure NothingLeftOver (targets : List Url) (responses : List Response) : Prop where
  query : ∀ last ∈ targets.getLast?, last.query = "" →
    ∀ u ∈ (targets.filter (!·.query.isEmpty)).getLast?, queryNames u.query = none
  userAgent : GivenByLast (givenHeader? · HeaderName.userAgent) responses
  requestId : GivenByLast (givenHeader? · HeaderName.requestId) responses
  clientTelemetry : GivenByLast account? responses

section Alone

variable {r : Record} (us : List Url) (rs : List Response)

theorem left_queryParameters_iff (h : r.queryParameters = none) :
    (r.left us rs).queryParameters = (r.left us.getLast?.toList []).queryParameters ↔
      ∀ last ∈ us.getLast?, last.query = "" →
        ∀ u ∈ (us.filter (!·.query.isEmpty)).getLast?, queryNames u.query = none := by
  unfold left
  dsimp only
  rw [h]
  obtain rfl | ⟨front, u, rfl⟩ := us.eq_nil_or_concat'
  · simp
  · rw [List.getLast?_concat, getLast?_filter_concat]
    by_cases hempty : u.query = ""
    · cases (front.filter (!·.query.isEmpty)).getLast? <;> simp [hempty]
    · simp [hempty]

/-- A header that the last response does not give is none exactly if no response gave it. -/
theorem left_header_iff {α : Type} (given : Response → Option α) :
    ((rs.filterMap given).getLast?).or none = ((rs.getLast?.toList.filterMap given).getLast?).or none ↔
      GivenByLast given rs := by
  have hlast : (rs.getLast?.toList.filterMap given).getLast? = rs.getLast?.bind given := by
    cases rs.getLast? with
    | none => rfl
    | some last => cases hgiven : given last <;> simp [hgiven]
  rw [Option.or_none, Option.or_none, hlast, getLast?_filterMap_eq_bind_iff, GivenByLast]

end Alone

theorem tellsLast_iff {r : Record} (h : r.Fresh) (tellings : List Telling) :
    TellsLast r tellings ↔ NothingLeftOver (targets tellings) (responses tellings) := by
  have hagent := left_header_iff (responses tellings) (givenHeader? · HeaderName.userAgent)
  have hid := left_header_iff (responses tellings) (givenHeader? · HeaderName.requestId)
  have haccount := left_header_iff (responses tellings) account?
  rw [← h.userAgent] at hagent
  rw [← h.requestId] at hid
  rw [← h.clientTelemetry] at haccount
  have hquery := left_queryParameters_iff (targets tellings) (responses tellings) h.queryParameters
  constructor
  · rintro ⟨-, hq, -, ha, hi, hc⟩
    rw [tellAll_eq, tellAll_lastTarget] at hq
    rw [tellAll_eq, tellAll_lastResponse] at ha hi hc
    exact ⟨hquery.mp hq, hagent.mp ha, hid.mp hi, haccount.mp hc⟩
  · rintro ⟨hq, ha, hi, hc⟩
    refine ⟨tellAll_path r tellings, ?_, tellAll_status r tellings, ?_, ?_, ?_⟩
    · rw [tellAll_eq, tellAll_lastTarget]
      exact hquery.mpr hq
    · rw [tellAll_eq, tellAll_lastResponse]
      exact hagent.mpr ha
    · rw [tellAll_eq, tellAll_lastResponse]
      exact hid.mpr hi
    · rw [tellAll_eq, tellAll_lastResponse]
      exact haccount.mpr hc

end Record

/-! ## 5. Records of a session -/

namespace TelemetrySession

variable {s : TelemetrySession} {i : Nat} {r : Record}

theorem setRecord_self (h : s.records[i]? = some r) : s.setRecord i r = s := by
  obtain ⟨hi, rfl⟩ := List.getElem?_eq_some_iff.mp h
  rw [setRecord, List.set_getElem_self]

theorem setRecord_setRecord (r r' : Record) : (s.setRecord i r).setRecord i r' = s.setRecord i r' := by
  rw [setRecord, setRecord, setRecord, List.set_set]

/-- A command tells the record what it says, and touches nothing else. -/
theorem step_command (h : s.records[i]? = some r) (t : Record.Telling) :
    (s.step (t.command i)).session = s.setRecord i (r.tell t) := by
  cases t with
  | target url =>
    rw [Record.Telling.command, Record.tell]
    cases hset : r.setTarget url with
    | ok changed => rw [step_setTarget_of_ok h hset]; rfl
    | error fault => rw [step_setTarget_of_error h hset]; exact (setRecord_self h).symm
  | response response =>
    rw [Record.Telling.command, step, setResponse, h]
    rfl

theorem run_commands (h : s.records[i]? = some r) (tellings : List Record.Telling) :
    (s.run (tellings.map (·.command i))).1 = s.setRecord i (r.tellAll tellings) := by
  induction tellings generalizing s r with
  | nil => exact (setRecord_self h).symm
  | cons t rest ih =>
    obtain ⟨hi, -⟩ := List.getElem?_eq_some_iff.mp h
    have htold : (s.setRecord i (r.tell t)).records[i]? = some (r.tell t) := List.getElem?_set_self hi
    rw [List.map_cons, run_cons, step_command h, ih htold, setRecord_setRecord]
    rfl

end TelemetrySession

namespace Record

/-- **A record tells of the last target and the last response alone exactly if nothing is left over.**
Whatever a fresh record is told, its path is that of the last target that can be read and its status that
of the last response. Its other fields are those of the last target and the last response, too, exactly if
nothing that these do not give was given before. -/
theorem run_tellsLast_iff {s : TelemetrySession} {i : Nat} {r : Record} (h : s.records[i]? = some r)
    (hfresh : r.Fresh) (tellings : List Telling) :
    (s.run (tellings.map (·.command i))).1 = s.setRecord i (r.tellAll tellings) ∧
      r.tellAll tellings = r.left (targets tellings) (responses tellings) ∧
      (r.tellAll tellings).path = (r.tellAll (lastTarget tellings).toList).path ∧
      (r.tellAll tellings).status = (r.tellAll (lastResponse tellings).toList).status ∧
      (TellsLast r tellings ↔ NothingLeftOver (targets tellings) (responses tellings)) := by
  exact ⟨TelemetrySession.run_commands h tellings, r.tellAll_eq tellings, tellAll_path r tellings,
    tellAll_status r tellings, tellsLast_iff hfresh tellings⟩

/-- A target without a query and a response without headers leave the names and the user agent of those
before; the target that is refused leaves everything. -/
theorem run_tellsLast_iff_left_over :
    let tellings : List Telling :=
      [.target (some "https://h/a?slice=1"), .response { status := 200, headers := [("user-agent", "A")] },
        .target (some "https://h/b"), .target none, .response { status := 500 }]
    let s : TelemetrySession := { records := [{}, { method := some "POST" }] }
    let told : Record :=
      { method := some "POST", path := some "https://h/b", queryParameters := some "slice"
        status := some 500, userAgent := some "A" }
    (s.run (tellings.map (·.command 1))).1.records = [{}, told] ∧
      ¬ TellsLast { method := some "POST" } tellings := by
  intro tellings s told
  have hfresh : Fresh { method := some "POST" } := ⟨rfl, rfl, rfl, rfl, rfl, rfl⟩
  obtain ⟨hrun, -, -, -, hlast⟩ := run_tellsLast_iff (s := s) (i := 1) rfl hfresh tellings
  have htold : ({ method := some "POST" } : Record).tellAll tellings = told := by decide
  refine ⟨by rw [hrun, htold]; rfl, fun htells => ?_⟩
  have hagent := (hlast.mp htells).userAgent _ rfl rfl _ List.mem_cons_self
  exact absurd hagent (by decide)

end Record

end TokenEndpoint
