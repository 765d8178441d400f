import TokenEndpoint.Proofs.Sessions
/-!
Delivery in telemetry sessions. Several spans, records and sinks go side by side; a span keeps the sinks
and the switch that it was opened with, and only its first end hands its record out. The statements are
about the history of a session, in which every block is taken apart. Main statements:

* `step_later` -- no command takes back what has ended (`Later`);
* `handedOut_first_end` -- what one span hands out, from its opening to the end of a session;
* `session_delivers_once` -- all spans of any session (`DeliversOnce`).
-/

namespace TokenEndpoint

namespace TelemetrySession

/-! ## 1. The end of a span -/

section Ends

variable {s : TelemetrySession} {j : Nat} {opened : OpenSpan} {record : Record}

theorem finalize_of_no_span (h : s.spans[j]? = none) : s.finalize j = { session := s } := by
  rw [finalize, h]

/-- A span that has ended does nothing when it is ended again. -/
theorem finalize_of_ended (h : s.spans[j]? = some opened) (hended : opened.span.finalized = true) :
    s.finalize j = { session := s } := by
  rw [finalize, h]
  dsimp only
  cases hrecord : s.records[opened.record]? with
  | none => rfl
  | some record =>
    dsimp only
    rw [Span.finalize, if_pos hended]
    dsimp only
    have hrecords : s.records.set opened.record record = s.records := by
      obtain ⟨hlt, rfl⟩ := List.getElem?_eq_some_iff.mp hrecord
      exact List.set_getElem_self hlt
    have hspans : s.spans.set j opened = s.spans := by
      obtain ⟨hlt, rfl⟩ := List.getElem?_eq_some_iff.mp h
      exact List.set_getElem_self hlt
    rw [hrecords, hspans]

/-- **The first end of a span finishes its record and hands it to the sinks of the span.** -/
theorem finalize_of_open (h : s.spans[j]? = some opened)
    (hrecord : s.records[opened.record]? = some record) (hopen : opened.span.finalized = false) :
    s.finalize j =
      { session := { s with
          records := s.records.set opened.record record.finish
          spans := s.spans.set j { opened with span := { opened.span with finalized := true } } }
        trace := .ended record.finish :: opened.span.deliver record.finish } := by
  rw [finalize, h]
  dsimp only
  rw [hrecord]
  dsimp only
  rw [Span.finalize, hopen]
  rfl

/-- To end a span either does nothing, or it is the first end of a span that has a record. -/
theorem finalize_cases (s : TelemetrySession) (j : Nat) :
    s.finalize j = { session := s } ∨
      ∃ opened record, s.spans[j]? = some opened ∧ s.records[opened.record]? = some record ∧
        opened.span.finalized = false := by
  cases h : s.spans[j]? with
  | none => exact Or.inl (finalize_of_no_span h)
  | some opened =>
    cases hended : opened.span.finalized with
    | true => exact Or.inl (finalize_of_ended h hended)
    | false =>
      cases hrecord : s.records[opened.record]? with
      | none =>
        refine Or.inl ?_
        rw [finalize, h]
        dsimp only
        rw [hrecord]
      | some record => exact Or.inr ⟨opened, record, rfl, hrecord, hended⟩

end Ends

end TelemetrySession

/-! ## 2. What one command leaves -/

/-- A span after some commands: record, sinks and switch are those of before, and it has ended if it
had. -/
structure OpenSpan.Later (before after : OpenSpan) : Prop where
  record : after.record = before.record
  enabled : after.span.enabled = before.span.enabled
  numbers : after.span.sinks.map (·.number) = before.span.sinks.map (·.number)
  finalized : before.span.finalized = true → after.span.finalized = true

theorem OpenSpan.Later.refl (opened : OpenSpan) : opened.Later opened := ⟨rfl, rfl, rfl, id⟩

namespace TelemetrySession

namespace Command

/-- The command ends the span at this place, or would if it were still open. -/
def ends (j : Nat) : Command → Bool
  | finalize k => k == j
  | _ => false

/-- What a command does to the telemetry. -/
def change (t : Telemetry) : Command → Telemetry
  | addSink sink => t.addSink sink
  | enable on => { t with enabled := on }
  | react reaction => t.withReactions reaction
  | _ => t

end Command

/-- A session after some commands: every record and every span is still in its place, and none that had
ended has not. -/
structure Later (before after : TelemetrySession) : Prop where
  records : ∀ (i : Nat) (r : Record), before.records[i]? = some r →
    ∃ r' : Record, after.records[i]? = some r' ∧ (r.finalized = true → r'.finalized = true)
  spans : ∀ (j : Nat) (opened : OpenSpan), before.spans[j]? = some opened →
    ∃ opened' : OpenSpan, after.spans[j]? = some opened' ∧ opened.Later opened'

theorem Later.refl (s : TelemetrySession) : s.Later s where
  records _ r h := ⟨r, h, id⟩
  spans _ opened h := ⟨opened, h, .refl opened⟩

theorem Later.trans {a b c : TelemetrySession} (hab : a.Later b) (hbc : b.Later c) : a.Later c where
  records i r h := by
    obtain ⟨r', h', hkeep⟩ := hab.records i r h
    obtain ⟨r'', h'', hkeep'⟩ := hbc.records i r' h'
    exact ⟨r'', h'', fun hr => hkeep' (hkeep hr)⟩
  spans j opened h := by
    obtain ⟨opened', h', hlater⟩ := hab.spans j opened h
    obtain ⟨opened'', h'', hlater'⟩ := hbc.spans j opened' h'
    exact ⟨opened'', h'', hlater'.record.trans hlater.record, hlater'.enabled.trans hlater.enabled,
      hlater'.numbers.trans hlater.numbers, fun hf => hlater'.finalized (hlater.finalized hf)⟩

/-- What stands at a place of a list in which one place is written. -/
theorem getElem?_set_of_some {α : Type} {xs : List α} {k : Nat} {x : α} (h : xs[k]? = some x)
    (i : Nat) (y : α) : (xs.set i y)[k]? = some (if i = k then y else x) := by
  rw [List.getElem?_set]
  split
  · next hik =>
    subst hik
    rw [if_pos (List.getElem?_eq_some_iff.mp h).1]
  · exact h

theorem getElem?_append_of_some {α : Type} {xs : List α} {k : Nat} {x : α} (h : xs[k]? = some x)
    (ys : List α) : (xs ++ ys)[k]? = some x := by
  rw [List.getElem?_append_left (List.getElem?_eq_some_iff.mp h).1, h]

section Steps

variable {s : TelemetrySession}

/-- A session in which one record is written: it is still finished if it was. -/
theorem later_setRecord {i : Nat} {record changed : Record} (h : s.records[i]? = some record)
    (hkeep : record.finalized = true → changed.finalized = true) : s.Later (s.setRecord i changed) where
  records k r hr := by
    refine ⟨_, getElem?_set_of_some hr i changed, ?_⟩
    split
    · next hik =>
      subst hik
      cases h.symm.trans hr
      exact hkeep
    · exact id
  spans _ opened hspan := ⟨opened, hspan, .refl opened⟩

theorem later_setTarget (i : Nat) (url : Option String) : s.Later (s.setTarget i url).session := by
  unfold setTarget
  cases hrecord : s.records[i]? with
  | none => exact .refl s
  | some record =>
    dsimp only
    unfold Record.setTarget
    cases Record.readTarget url with
    | error fault => exact .refl s
    | ok parsed => exact later_setRecord hrecord id

theorem later_setResponse (i : Nat) (response : Response) :
    s.Later (s.setResponse i response).session := by
  unfold setResponse
  cases hrecord : s.records[i]? with
  | none => exact .refl s
  | some record => exact later_setRecord hrecord id

theorem spans_setTarget (i : Nat) (url : Option String) :
    (s.setTarget i url).session.spans = s.spans := by
  rw [setTarget]
  cases s.records[i]? with
  | none => rfl
  | some record =>
    dsimp only
    cases record.setTarget url <;> rfl

theorem spans_setResponse (i : Nat) (response : Response) :
    (s.setResponse i response).session.spans = s.spans := by
  rw [setResponse]
  cases s.records[i]? <;> rfl

/-- A new span stands behind the others. -/
theorem openSpan_of_record {i : Nat} {record : Record} (h : s.records[i]? = some record)
    (correlationId clientId : Option String) :
    (s.openSpan i correlationId clientId).session =
      { s.setRecord i (record.identify correlationId clientId) with
        spans := s.spans ++
          [{ record := i, span := { sinks := s.telemetry.sinks, enabled := s.telemetry.enabled } }] } := by
  rw [openSpan, h]
  rfl

theorem later_openSpan (i : Nat) (correlationId clientId : Option String) :
    s.Later (s.openSpan i correlationId clientId).session := by
  cases hrecord : s.records[i]? with
  | none =>
    rw [openSpan, hrecord]
    exact .refl s
  | some record =>
    rw [openSpan_of_record hrecord]
    have hlater : s.Later (s.setRecord i (record.identify correlationId clientId)) :=
      later_setRecord hrecord id
    refine ⟨hlater.records, fun k opened hspan => ?_⟩
    exact ⟨opened, getElem?_append_of_some hspan _, .refl opened⟩

theorem later_withReactions (reaction : Nat → Record → Reaction) :
    s.Later (s.withReactions reaction) where
  records _ r h := ⟨r, h, id⟩
  spans j opened h := by
    refine ⟨{ opened with span := opened.span.withReactions reaction }, ?_, rfl, rfl,
      Sink.numbers_mapIdx opened.span.sinks reaction, id⟩
    rw [withReactions, List.getElem?_map, h]
    rfl

theorem later_finalize (j : Nat) : s.Later (s.finalize j).session := by
  rcases finalize_cases s j with h | ⟨opened, record, hspan, hrecord, hopen⟩
  · rw [h]
    exact .refl s
  · rw [finalize_of_open hspan hrecord hopen]
    have hlater : s.Later (s.setRecord opened.record record.finish) :=
      later_setRecord hrecord fun _ => rfl
    refine ⟨hlater.records, fun k other hother => ?_⟩
    refine ⟨_, getElem?_set_of_some hother j _, ?_⟩
    split
    · next hjk =>
      subst hjk
      cases hspan.symm.trans hother
      exact ⟨rfl, rfl, rfl, fun _ => rfl⟩
    · exact .refl other

/-- **No command takes back what has ended**, nor does it change the sinks or the switch of a span. -/
theorem step_later {c : Command} (hc : c.isPlain = true) : s.Later (s.step c).session := by
  cases c with
  | newRecord record =>
    rw [step]
    exact ⟨fun i r h => ⟨r, getElem?_append_of_some h _, id⟩, (Later.refl s).spans⟩
  | setTarget i url => rw [step]; exact later_setTarget i url
  | setResponse i response => rw [step]; exact later_setResponse i response
  | addSink sink => rw [step]; exact ⟨(Later.refl s).records, (Later.refl s).spans⟩
  | enable on => rw [step]; exact ⟨(Later.refl s).records, (Later.refl s).spans⟩
  | react reaction => rw [step]; exact later_withReactions reaction
  | openSpan i correlationId clientId => rw [step]; exact later_openSpan i correlationId clientId
  | finalize j => rw [step]; exact later_finalize j
  | within j body failure => cases hc

/-- A span that is open stays open until a command ends it. -/
theorem step_open {c : Command} (hc : c.isPlain = true) {j : Nat} (hends : c.ends j = false)
    {opened : OpenSpan} (h : s.spans[j]? = some opened) (hopen : opened.span.finalized = false) :
    ∃ opened', (s.step c).session.spans[j]? = some opened' ∧ opened'.span.finalized = false := by
  have hsame {later : TelemetrySession} (heq : later.spans = s.spans) :
      ∃ opened', later.spans[j]? = some opened' ∧ opened'.span.finalized = false :=
    ⟨opened, heq ▸ h, hopen⟩
  cases c with
  | newRecord record => rw [step]; exact hsame rfl
  | setTarget i url => rw [step]; exact hsame (spans_setTarget i url)
  | setResponse i response => rw [step]; exact hsame (spans_setResponse i response)
  | addSink sink => rw [step]; exact hsame rfl
  | enable on => rw [step]; exact hsame rfl
  | react reaction =>
    rw [step]
    refine ⟨{ opened with span := opened.span.withReactions reaction }, ?_, hopen⟩
    rw [withReactions, List.getElem?_map, h]
    rfl
  | openSpan i correlationId clientId =>
    rw [step]
    cases hrecord : s.records[i]? with
    | none =>
      rw [openSpan, hrecord]
      exact hsame rfl
    | some record =>
      rw [openSpan_of_record hrecord]
      exact ⟨opened, getElem?_append_of_some h _, hopen⟩
  | finalize k =>
    have hkj : k ≠ j := by simpa [Command.ends] using hends
    rw [step]
    rcases finalize_cases s k with hnone | ⟨other, record, hspan, hrecord, hother⟩
    · rw [hnone]
      exact hsame rfl
    · rw [finalize_of_open hspan hrecord hother]
      refine ⟨opened, ?_, hopen⟩
      rw [getElem?_set_of_some h k, if_neg hkj]
  | within j body failure => cases hc

/-- Only the commands to the telemetry change it. -/
theorem telemetry_step {c : Command} (hc : c.isPlain = true) :
    (s.step c).session.telemetry = c.change s.telemetry := by
  cases c with
  | setTarget i url =>
    rw [step, setTarget]
    cases s.records[i]? with
    | none => rfl
    | some record =>
      dsimp only
      cases record.setTarget url <;> rfl
  | setResponse i response =>
    rw [step, setResponse]
    cases s.records[i]? <;> rfl
  | openSpan i correlationId clientId =>
    rw [step, openSpan]
    cases s.records[i]? <;> rfl
  | finalize j =>
    rw [step]
    rcases finalize_cases s j with hnone | ⟨opened, record, hspan, hrecord, hopen⟩
    · rw [hnone]
      rfl
    · rw [finalize_of_open hspan hrecord hopen]
      rfl
  | within j body failure => cases hc
  | _ => rw [step]; rfl

/-- Nothing is handed out but at the end of a span. -/
theorem deliveries_step {c : Command} (hc : c.isPlain = true) (hends : ∀ j, c.ends j = false) :
    (s.step c).trace.deliveries = [] := by
  cases c with
  | setTarget i url =>
    rw [step, setTarget]
    cases s.records[i]? with
    | none => rfl
    | some record =>
      dsimp only
      cases record.setTarget url <;> rfl
  | setResponse i response =>
    rw [step, setResponse]
    cases s.records[i]? with
    | none => rfl
    | some record => exact Trace.deliveries_ofEntries _
  | openSpan i correlationId clientId =>
    rw [step, openSpan]
    cases s.records[i]? <;> rfl
  | finalize j => exact absurd (hends j) (by simp [Command.ends])
  | within j body failure => cases hc
  | _ => rw [step]; rfl

end Steps

/-! ## 3. Runs of plain commands -/

section Runs

variable {s : TelemetrySession}

theorem Later.length_spans {before after : TelemetrySession} (h : before.Later after) :
    before.spans.length ≤ after.spans.length := by
  by_cases hlt : before.spans.length ≤ after.spans.length
  · exact hlt
  · have hin : after.spans.length < before.spans.length := by omega
    obtain ⟨opened, hopened, -⟩ := h.spans _ _ (List.getElem?_eq_getElem hin)
    have hout := (List.getElem?_eq_some_iff.mp hopened).1
    omega

theorem run_later {commands : List Command} (hplain : ∀ c ∈ commands, c.isPlain = true) :
    s.Later (s.run commands).1 := by
  induction commands generalizing s with
  | nil => exact .refl s
  | cons c rest ih =>
    rw [run_cons]
    exact (step_later (hplain c List.mem_cons_self)).trans
      (ih fun d hd => hplain d (List.mem_cons_of_mem c hd))

theorem run_open {commands : List Command} (hplain : ∀ c ∈ commands, c.isPlain = true) {j : Nat}
    (hends : ∀ c ∈ commands, c.ends j = false) {opened : OpenSpan} (h : s.spans[j]? = some opened)
    (hopen : opened.span.finalized = false) :
    ∃ opened', (s.run commands).1.spans[j]? = some opened' ∧ opened'.span.finalized = false := by
  induction commands generalizing s opened with
  | nil => exact ⟨opened, h, hopen⟩
  | cons c rest ih =>
    obtain ⟨opened', h', hopen'⟩ := step_open (hplain c List.mem_cons_self)
      (hends c List.mem_cons_self) h hopen
    rw [run_cons]
    exact ih (fun d hd => hplain d (List.mem_cons_of_mem c hd))
      (fun d hd => hends d (List.mem_cons_of_mem c hd)) h' hopen'

theorem telemetry_run {commands : List Command} (hplain : ∀ c ∈ commands, c.isPlain = true) :
    (s.run commands).1.telemetry = commands.foldl Command.change s.telemetry := by
  induction commands generalizing s with
  | nil => rfl
  | cons c rest ih =>
    rw [run_cons, List.foldl_cons, ← telemetry_step (hplain c List.mem_cons_self)]
    exact ih fun d hd => hplain d (List.mem_cons_of_mem c hd)

end Runs

/-! ## 4. What one span hands out -/

/-- What is handed out by the commands that end the span at a place. -/
def handedOut (j : Nat) (s : TelemetrySession) : List Command → List (Nat × Record)
  | [] => []
  | c :: rest =>
    (if c.ends j then (s.step c).trace.deliveries else []) ++ handedOut j (s.step c).session rest

section HandedOut

variable {s : TelemetrySession} {j : Nat}

theorem handedOut_append (xs ys : List Command) :
    handedOut j s (xs ++ ys) = handedOut j s xs ++ handedOut j (s.run xs).1 ys := by
  induction xs generalizing s with
  | nil => rfl
  | cons c rest ih => rw [List.cons_append, handedOut, ih, handedOut, run_cons, List.append_assoc]

/-- Commands that do not end a span hand out nothing of it. -/
theorem handedOut_of_not_ends {commands : List Command} (h : ∀ c ∈ commands, c.ends j = false) :
    handedOut j s commands = [] := by
  induction commands generalizing s with
  | nil => rfl
  | cons c rest ih =>
    rw [handedOut, h c List.mem_cons_self, ih fun d hd => h d (List.mem_cons_of_mem c hd)]
    rfl

theorem eq_finalize_of_ends {c : Command} (h : c.ends j = true) : c = .finalize j := by
  cases c with
  | finalize k => rw [eq_of_beq h]
  | _ => cases h

/-- A span that is not there yet hands out nothing. -/
theorem handedOut_of_no_span {commands : List Command} (hplain : ∀ c ∈ commands, c.isPlain = true)
    (h : (s.run commands).1.spans.length ≤ j) : handedOut j s commands = [] := by
  induction commands generalizing s with
  | nil => rfl
  | cons c rest ih =>
    have hrest (d : Command) (hd : d ∈ rest) : d.isPlain = true :=
      hplain d (List.mem_cons_of_mem c hd)
    have hlater : s.Later (s.run (c :: rest)).1 := run_later hplain
    have hnone : s.spans[j]? = none := List.getElem?_eq_none (Nat.le_trans hlater.length_spans h)
    rw [run_cons] at h
    rw [handedOut, ih hrest h]
    split
    · next hends =>
      rw [eq_finalize_of_ends hends, step, finalize_of_no_span hnone]
      rfl
    · rfl

/-- A span that has ended hands out nothing more. -/
theorem handedOut_of_ended {commands : List Command} (hplain : ∀ c ∈ commands, c.isPlain = true)
    {opened : OpenSpan} (h : s.spans[j]? = some opened) (hended : opened.span.finalized = true) :
    handedOut j s commands = [] := by
  induction commands generalizing s opened with
  | nil => rfl
  | cons c rest ih =>
    obtain ⟨opened', h', hlater⟩ :=
      (step_later (hplain c List.mem_cons_self)).spans j opened h
    have hrest := ih (fun d hd => hplain d (List.mem_cons_of_mem c hd)) h'
      (hlater.finalized hended)
    rw [handedOut, hrest]
    split
    · next hends =>
      rw [eq_finalize_of_ends hends, step, finalize_of_ended h hended]
      rfl
    · rfl

/-- The first end of a span hands its record, finished, to the sinks that the span was opened with, or
to none if it was opened switched off. -/
theorem deliveries_finalize {opened : OpenSpan} {record : Record} (h : s.spans[j]? = some opened)
    (hrecord : s.records[opened.record]? = some record) (hopen : opened.span.finalized = false) :
    (s.step (.finalize j)).trace.deliveries =
      if opened.span.enabled then
        (opened.span.sinks.map (·.number)).map fun number => (number, record.finish)
      else [] := by
  rw [step, finalize_of_open h hrecord hopen]
  simp [Function.comp_def]

/-- What the end of a span leaves in the logs: for each sink in order what it logs itself, and one
warning if it fails. -/
theorem entries_finalize {opened : OpenSpan} {record : Record} (h : s.spans[j]? = some opened)
    (hrecord : s.records[opened.record]? = some record) :
    (s.step (.finalize j)).trace.entries =
      if opened.span.finalized = false ∧ opened.span.enabled = true then
        opened.span.sinks.flatMap fun sink =>
          (sink.react record.finish).entries ++
            ((sink.react record.finish).failure.map fun failure =>
              Sink.warning failure record.finish).toList
      else [] := by
  rw [step]
  cases hended : opened.span.finalized with
  | true =>
    rw [finalize_of_ended h hended]
    rfl
  | false =>
    rw [finalize_of_open h hrecord hended, Trace.entries_cons, Span.entries_deliver]
    simp

end HandedOut

/-! ## 5. One span from its opening on -/

section Opened

variable {s : TelemetrySession} {i : Nat} {record : Record} (hrecord : s.records[i]? = some record)
  (correlationId clientId : Option String)

include hrecord

/-- A span is opened with the sinks and the switch of that moment, at the place behind the others. -/
theorem getElem?_openSpan :
    (s.step (.openSpan i correlationId clientId)).session.spans[s.spans.length]? =
      some { record := i, span := { sinks := s.telemetry.sinks, enabled := s.telemetry.enabled } } := by
  rw [step, openSpan_of_record hrecord]
  exact List.getElem?_concat_length

/-- While no command ends it, a new span stays as it was opened, and its record in its place. -/
theorem opened_until {mid : List Command} (hplain : ∀ c ∈ mid, c.isPlain = true)
    (hends : ∀ c ∈ mid, c.ends s.spans.length = false) :
    ∃ (opened : OpenSpan) (record : Record),
      (s.run (.openSpan i correlationId clientId :: mid)).1.spans[s.spans.length]? = some opened ∧
      (s.run (.openSpan i correlationId clientId :: mid)).1.records[i]? = some record ∧
      opened.record = i ∧ opened.span.enabled = s.telemetry.enabled ∧
      opened.span.sinks.map (·.number) = s.telemetry.sinks.map (·.number) ∧
      opened.span.finalized = false := by
  have hspan := getElem?_openSpan hrecord correlationId clientId
  have hlater : (s.step (.openSpan i correlationId clientId)).session.Later
      (s.run (.openSpan i correlationId clientId :: mid)).1 := by
    rw [run_cons]
    exact run_later hplain
  have hall : ∀ c ∈ .openSpan i correlationId clientId :: mid, c.isPlain = true := by
    intro c hc
    rcases List.mem_cons.mp hc with rfl | hc
    · rfl
    · exact hplain c hc
  obtain ⟨opened, hopened, hsame⟩ := hlater.spans _ _ hspan
  obtain ⟨found, hfound, hopen⟩ := run_open hplain hends hspan rfl
  obtain ⟨record', hrecord', -⟩ := (run_later (s := s) hall).records i record hrecord
  rw [run_cons] at hopened
  cases hopened.symm.trans hfound
  refine ⟨opened, record', ?_, hrecord', hsame.record, hsame.enabled, hsame.numbers, hopen⟩
  rw [run_cons]
  exact hopened

/-- **The first end of a span hands its record to the sinks that were registered when the span was
opened**, each once and in their order, if the telemetry was on at that time; no later end hands out
anything. -/
theorem handedOut_first_end {mid rest : List Command} (hmid : ∀ c ∈ mid, c.isPlain = true)
    (hrest : ∀ c ∈ rest, c.isPlain = true) (hends : ∀ c ∈ mid, c.ends s.spans.length = false) :
    ∃ record opened, (s.run (.openSpan i correlationId clientId :: mid)).1.records[i]? = some record ∧
      (handedOut s.spans.length s
          (.openSpan i correlationId clientId :: (mid ++ .finalize s.spans.length :: rest)) =
        if s.telemetry.enabled then
          s.telemetry.sinks.map fun sink => (sink.number, record.finish)
        else []) ∧
      (s.run (.openSpan i correlationId clientId ::
        (mid ++ .finalize s.spans.length :: rest))).1.spans[s.spans.length]? = some opened ∧
      opened.span.finalized = true := by
  obtain ⟨opened, record', hspan, hrecord', hplace, henabled, hnumbers, hopen⟩ :=
    opened_until hrecord correlationId clientId hmid hends
  have hsplit : Command.openSpan i correlationId clientId :: (mid ++ .finalize s.spans.length :: rest) =
      (.openSpan i correlationId clientId :: mid) ++ .finalize s.spans.length :: rest := rfl
  have hquiet : ∀ c ∈ .openSpan i correlationId clientId :: mid, c.ends s.spans.length = false := by
    intro c hc
    rcases List.mem_cons.mp hc with rfl | hc
    · rfl
    · exact hends c hc
  have hself : Command.ends s.spans.length (.finalize s.spans.length) = true := beq_self_eq_true _
  generalize hat : (s.run (.openSpan i correlationId clientId :: mid)).1 = at' at hspan hrecord'
  subst hplace
  -- at its first end the span is marked as ended, and it stays so
  have hmarked : (at'.step (.finalize s.spans.length)).session.spans[s.spans.length]? =
      some { opened with span := { opened.span with finalized := true } } := by
    rw [step, finalize_of_open hspan hrecord' hopen, getElem?_set_of_some hspan, if_pos rfl]
  obtain ⟨last, hlast, hlater⟩ := (run_later hrest).spans _ _ hmarked
  refine ⟨record', last, hrecord', ?_, ?_, hlater.finalized rfl⟩
  · rw [hsplit, handedOut_append, handedOut_of_not_ends hquiet, hat, handedOut, hself, if_pos rfl,
      handedOut_of_ended hrest hmarked rfl, deliveries_finalize hspan hrecord' hopen, henabled,
      hnumbers, List.map_map, List.nil_append, List.append_nil]
    rfl
  · rw [hsplit, run_append, hat, run_cons]
    exact hlast

end Opened

/-! ## 6. Whole sessions -/

/-- How a session of plain commands delivers:

* `telemetry` -- sinks and switch of any moment are what the commands before it have made of them;
* `ended` -- a span that is ended, once or often, hands out the record it has at its first end, finished,
  to the sinks that were registered when it was opened, each once and in their order, or to none if the
  telemetry was switched off then; and it counts as ended at the end of the session;
* `notEnded` -- a span that is not ended hands out nothing, and does not count as ended;
* `nothingElse` -- no other command hands out anything;
* `warned` -- at its first end every sink that fails costs one warning;
* `neverBack` -- what has ended, span or record, stays so. -/
structure DeliversOnce (s : TelemetrySession) (h : List Command) : Prop where
  telemetry : ∀ before after, h = before ++ after →
    (s.run before).1.telemetry = before.foldl Command.change s.telemetry
  ended : ∀ before i correlationId clientId mid rest,
    let opening := (s.run before).1
    let j := opening.spans.length
    h = before ++ .openSpan i correlationId clientId :: (mid ++ .finalize j :: rest) →
    i < opening.records.length → (∀ c ∈ mid, c.ends j = false) →
    ∃ record opened, (s.run (before ++ .openSpan i correlationId clientId :: mid)).1.records[i]? =
        some record ∧
      (handedOut j s h = if opening.telemetry.enabled then
        opening.telemetry.sinks.map fun sink => (sink.number, record.finish) else []) ∧
      (s.run h).1.spans[j]? = some opened ∧ opened.span.finalized = true
  notEnded : ∀ before i correlationId clientId after,
    let opening := (s.run before).1
    let j := opening.spans.length
    h = before ++ .openSpan i correlationId clientId :: after →
    i < opening.records.length → (∀ c ∈ after, c.ends j = false) →
    handedOut j s h = [] ∧
      ∃ opened, (s.run h).1.spans[j]? = some opened ∧ opened.span.finalized = false
  nothingElse : ∀ before c after, h = before ++ c :: after → (∀ j, c.ends j = false) →
    ((s.run before).1.step c).trace.deliveries = []
  warned : ∀ before j after, h = before ++ .finalize j :: after → ∀ opened record,
    (s.run before).1.spans[j]? = some opened →
    (s.run before).1.records[opened.record]? = some record →
    ((s.run before).1.step (.finalize j)).trace.entries =
      if opened.span.finalized = false ∧ opened.span.enabled = true then
        opened.span.sinks.flatMap fun sink =>
          (sink.react record.finish).entries ++
            ((sink.react record.finish).failure.map fun failure =>
              Sink.warning failure record.finish).toList
      else []
  neverBack : ∀ before mid after, h = before ++ mid ++ after →
    (s.run before).1.Later (s.run (before ++ mid)).1

theorem deliversOnce_of_plain (s : TelemetrySession) {h : List Command}
    (hplain : ∀ c ∈ h, c.isPlain = true) : s.DeliversOnce h := by
  refine ⟨?_, ?_, ?_, ?_, ?_, ?_⟩
  · rintro before after rfl
    exact telemetry_run fun c hc => hplain c (List.mem_append_left after hc)
  · intro before i correlationId clientId mid rest opening j hh hi hends
    subst hh
    have hbefore : ∀ c ∈ before, c.isPlain = true := fun c hc =>
      hplain c (List.mem_append_left _ hc)
    have hmid : ∀ c ∈ mid, c.isPlain = true := fun c hc => hplain c (by simp [hc])
    have hrest : ∀ c ∈ rest, c.isPlain = true := fun c hc => hplain c (by simp [hc])
    obtain ⟨record, opened, hrecord, hout, hspan, hended⟩ :=
      handedOut_first_end (List.getElem?_eq_getElem hi) correlationId clientId hmid hrest hends
    refine ⟨record, opened, ?_, ?_, ?_, hended⟩
    · rw [run_append]
      exact hrecord
    · rw [handedOut_append, handedOut_of_no_span hbefore (Nat.le_refl _), List.nil_append]
      exact hout
    · rw [run_append]
      exact hspan
  · intro before i correlationId clientId after opening j hh hi hends
    subst hh
    have hbefore : ∀ c ∈ before, c.isPlain = true := fun c hc =>
      hplain c (List.mem_append_left _ hc)
    have hafter : ∀ c ∈ after, c.isPlain = true := fun c hc => hplain c (by simp [hc])
    have hquiet : ∀ c ∈ .openSpan i correlationId clientId :: after, c.ends j = false := by
      intro c hc
      rcases List.mem_cons.mp hc with rfl | hc
      · rfl
      · exact hends c hc
    obtain ⟨opened, record, hspan, -, -, -, -, hopen⟩ :=
      opened_until (List.getElem?_eq_getElem hi) correlationId clientId hafter hends
    refine ⟨?_, opened, ?_, hopen⟩
    · rw [handedOut_append, handedOut_of_no_span hbefore (Nat.le_refl _),
        handedOut_of_not_ends hquiet]
      rfl
    · rw [run_append]
      exact hspan
  · rintro before c after rfl hends
    exact deliveries_step (hplain c (by simp)) hends
  · rintro before j after rfl opened record hspan hrecord
    exact entries_finalize hspan hrecord
  · rintro before mid after rfl
    rw [run_append]
    exact run_later fun c hc => hplain c (by simp [hc])

/-- **Every session delivers the record of a span once to each sink that was registered when the span
was opened.** The session is taken as its history: the same commands, each block taken apart into its
commands and the end of its span. And a block fails as its body does, whatever the sinks do at its
end. -/
theorem session_delivers_once (s : TelemetrySession) (commands : List Command) :
    (s.run commands = s.run (s.history commands) ∧ ∀ c ∈ s.history commands, c.isPlain = true) ∧
    s.DeliversOnce (s.history commands) ∧
    (∀ (t : TelemetrySession) (j : Nat) (before : List Command) (c : Command) (after : List Command)
      (own : Option Failure) (failure : Failure), (t.runBlock before).failure = none →
      ((t.runBlock before).session.step c).failure = some failure →
      (t.step (.within j (before ++ c :: after) own)).failure = some failure) ∧
    ∀ (t : TelemetrySession) (j : Nat) (body : List Command) (own : Option Failure),
      (t.runBlock body).failure = none → (t.step (.within j body own)).failure = own := by
  have hplain := s.isPlain_of_mem_history commands
  refine ⟨⟨(s.run_history commands).symm, hplain⟩, s.deliversOnce_of_plain hplain, ?_, ?_⟩
  · intro t j before c after own failure hbefore hfailed
    exact t.failure_within_of_failed hbefore hfailed j after own
  · intro t j body own hbody
    exact t.failure_within_of_succeeded hbody j own

/-- A span under two sinks, the first of which always fails; then a third sink comes, and the telemetry
is switched off. The block around the span ends it early and fails of itself, and the span is ended once
more after the block: the record has gone to the first two sinks once, the failing one has cost one
warning, and the block has failed as it did of itself. -/
theorem session_delivers_once_ended_early :
    let full : Failure := .foreign none "OSError" "no space left"
    let torn : Failure := .foreign none "KeyError" "body"
    let failing : Sink := { number := 1, react := fun _ => { failure := some full } }
    let before := [Command.addSink failing, .addSink { number := 2 }, .newRecord {}]
    let opening := Command.openSpan 0 (some "id-1") none
    let late := [Command.addSink { number := 3 }, .enable false]
    let target := Command.setTarget 0 (some "https://h/t")
    let block := Command.within 0 [target, .finalize 0] (some torn)
    let commands := before ++ opening :: (late ++ [block, .finalize 0])
    let s : TelemetrySession := {}
    let atBlock := (s.run (before ++ opening :: late)).1
    let atEnd := (s.run (before ++ opening :: (late ++ [target]))).1
    s.history commands =
        before ++ opening :: ((late ++ [target]) ++ .finalize 0 :: [.finalize 0, .finalize 0]) ∧
      (∃ record : Record, record.path = some "https://h/t" ∧ record.correlationId = some "id-1" ∧
        handedOut 0 s (s.history commands) = [(1, record.finish), (2, record.finish)] ∧
        (atEnd.step (.finalize 0)).trace.entries = [Sink.warning full record.finish]) ∧
      (atBlock.step block).failure = some torn := by
  intro full torn failing before opening late target block commands s atBlock atEnd
  have hhistory : s.history commands =
      before ++ opening :: ((late ++ [target]) ++ .finalize 0 :: [.finalize 0, .finalize 0]) := rfl
  obtain ⟨-, hdelivers, -, hblock⟩ := session_delivers_once s commands
  obtain ⟨record, opened, hrecord, hout, -⟩ :=
    hdelivers.ended before 0 (some "id-1") none (late ++ [target]) _ hhistory (by decide) (by decide)
  have hkept : (atEnd.records[0]?.bind (·.path)) = some "https://h/t" ∧
      (atEnd.records[0]?.bind (·.correlationId)) = some "id-1" := by decide
  have hrecord' : atEnd.records[0]? = some record := hrecord
  rw [hrecord'] at hkept
  have hwarned : (atEnd.step (.finalize 0)).trace.entries = [Sink.warning full record.finish] :=
    (hdelivers.warned (before ++ opening :: (late ++ [target])) 0 [.finalize 0, .finalize 0] hhistory _
      record rfl hrecord).trans rfl
  exact ⟨hhistory, ⟨record, hkept.1, hkept.2, hout, hwarned⟩,
    hblock atBlock 0 [target, .finalize 0] (some torn) rfl⟩

end TelemetrySession

end TokenEndpoint
