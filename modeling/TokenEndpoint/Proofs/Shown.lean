import Mathlib.Data.List.Forall2
import TokenEndpoint.Proofs.Delivery
/-!
What an exchange shows: the entries that it logs and the records that it hands to the sinks. Both come
from three places: the record as the span is opened, the course inside the span, and the sinks at its
end. Main statements:

* `exchange_entries`, `exchange_deliveries` -- what an exchange shows, from its parts;
* `exchange_showsAs` -- two exchanges show the same if their requests are answered alike (`AnsweredAlike`)
  and their sinks differ in the texts of failures only.
-/

namespace TokenEndpoint

/-! ## 1. Failures of one class -/

/-- The HTTP client whose family of errors a failure belongs to, if there is one. -/
def Failure.family : Failure → Option Adapter
  | .foreign family _ _ => family
  | _ => none

/-- Failures of one family and one name. Their texts may differ. -/
structure Failure.SameClass (a b : Failure) : Prop where
  family : a.family = b.family
  label : a.label = b.label

/-- What an adapter logs about a failure depends on its class alone. -/
theorem Adapter.passOn_entries (a : Adapter) (failure : Failure) :
    (a.passOn failure).2 =
      if failure.family = some a then
        [⟨.transport, .warning, "Network error calling token endpoint: " ++ failure.label⟩]
      else [] := by
  cases failure with
  | foreign family label text =>
    cases family with
    | none => rfl
    | some found =>
      by_cases h : found = a
      · simp [passOn, Failure.family, Failure.label, h]
      · simp [passOn, Failure.family, h]
  | _ => rfl

/-! ## 2. Sinks -/

/-- Sinks of one number that log the same, and fail on the same records with failures of one class. -/
structure Sink.SameButTexts (s t : Sink) : Prop where
  number : s.number = t.number
  entries : ∀ record, (s.react record).entries = (t.react record).entries
  failure : ∀ record, Option.Rel Failure.SameClass (s.react record).failure (t.react record).failure

theorem Sink.SameButTexts.refl (s : Sink) : s.SameButTexts s where
  number := rfl
  entries _ := rfl
  failure record := by
    cases (s.react record).failure with
    | none => exact .none
    | some failure => exact .some ⟨rfl, rfl⟩

theorem Sink.SameButTexts.entries_receive {s t : Sink} (h : s.SameButTexts t) (record : Record) :
    (s.receive record).entries = (t.receive record).entries := by
  rw [Sink.entries_receive, Sink.entries_receive, h.entries record]
  have hfailure := h.failure record
  revert hfailure
  generalize (s.react record).failure = f
  generalize (t.react record).failure = g
  intro hfailure
  cases hfailure with
  | none => rfl
  | some hclass => rw [Option.map_some, Option.map_some, warning, warning, hclass.label]

/-- One switch, and sinks that differ in the texts of their failures only. -/
structure Telemetry.SameButTexts (s t : Telemetry) : Prop where
  enabled : s.enabled = t.enabled
  sinks : List.Forall₂ Sink.SameButTexts s.sinks t.sinks

theorem Telemetry.SameButTexts.refl (t : Telemetry) : t.SameButTexts t where
  enabled := rfl
  sinks := List.forall₂_same.mpr fun sink _ => Sink.SameButTexts.refl sink

/-- What does not look at the texts of failures is the same of every sink. -/
theorem Telemetry.SameButTexts.map_sinks {s t : Telemetry} (h : s.SameButTexts t) {β : Type}
    {f : Sink → β} (hf : ∀ x y, Sink.SameButTexts x y → f x = f y) :
    s.sinks.map f = t.sinks.map f := by
  rw [← List.forall₂_eq_eq_eq, List.forall₂_map_left_iff, List.forall₂_map_right_iff]
  exact h.sinks.imp hf

namespace Exchanger

variable {e : Exchanger} {s : Telemetry} (h : e.telemetry.SameButTexts s) (record : Record)

include h

theorem entries_deliver_sameButTexts :
    (e.span.deliver record).entries =
      (({ e with telemetry := s } : Exchanger).span.deliver record).entries := by
  have hsinks := h.map_sinks fun _ _ hsink => hsink.entries_receive record
  rw [Span.entries_deliver, Span.entries_deliver]
  show (if e.telemetry.enabled then e.telemetry.sinks.flatMap _ else []) =
    if s.enabled then s.sinks.flatMap _ else []
  rw [h.enabled, List.flatMap_def, List.flatMap_def, hsinks]

theorem deliveries_deliver_sameButTexts :
    (e.span.deliver record).deliveries =
      (({ e with telemetry := s } : Exchanger).span.deliver record).deliveries := by
  have hsinks := h.map_sinks fun x y hsink => congrArg (fun number => (number, record)) hsink.number
  rw [Span.deliveries_deliver, Span.deliveries_deliver]
  show (if e.telemetry.enabled then e.telemetry.sinks.map _ else []) =
    if s.enabled then s.sinks.map _ else []
  rw [h.enabled, hsinks]

end Exchanger

/-! ## 3. What an exchange shows -/

namespace Exchanger

theorem exchange_entries (e : Exchanger) (w : Surroundings) (ids : IdSupply) (c : Call) :
    (e.exchange w ids c).trace.entries =
      e.openingEntries ids c ++ (e.courseOf w ids c).trace.entries ++
        (e.span.deliver (e.endedRecord w ids c)).entries := by
  rw [exchange_trace]
  simp

theorem exchange_deliveries (e : Exchanger) (w : Surroundings) (ids : IdSupply) (c : Call) :
    (e.exchange w ids c).trace.deliveries = (e.span.deliver (e.endedRecord w ids c)).deliveries := by
  rw [Span.deliveries_deliver]
  exact (e.exchange_endsOnce w ids c).delivered

/-- Two exchanges that log the same and hand out the same records. -/
structure Outcome.ShowsAs (a b : Outcome) : Prop where
  entries : a.trace.entries = b.trace.entries
  deliveries : a.trace.deliveries = b.trace.deliveries

end Exchanger

/-! ## 4. Answers that look alike -/

/-- Replies that log the same and bring the same response, or a failure each. -/
structure Reply.Alike (a b : Reply) : Prop where
  entries : a.entries = b.entries
  response : a.result.toOption = b.result.toOption

namespace Exchanger

/-- Two requests, of which neither is built, or which two transports answer alike. -/
inductive AnsweredAlike (t t' : Request → Reply) :
    Except Failure Request → Except Failure Request → Prop where
  | unbuilt (failure failure' : Failure) : AnsweredAlike t t' (.error failure) (.error failure')
  | sent {request request' : Request} (h : (t request).Alike (t' request')) :
      AnsweredAlike t t' (.ok request) (.ok request')

/-- A course shows of its request no more than whether it is built and how it is answered. -/
theorem inside_alike (w : Surroundings) (t : Request → Reply) {c c' : Call}
    (hauthority : c.authority = c'.authority)
    (h : AnsweredAlike w.transport t (buildRequest w.platform c) (buildRequest w.platform c'))
    (id : String) (record : Record) :
    (inside w c id record).record = (inside { w with transport := t } c' id record).record ∧
      (inside w c id record).trace.entries =
        (inside { w with transport := t } c' id record).trace.entries := by
  generalize hb : buildRequest w.platform c = built at h
  generalize hb' : buildRequest w.platform c' = built' at h
  cases h with
  | unbuilt failure failure' =>
    rw [inside_of_unbuilt id record hb, inside_of_unbuilt (w := { w with transport := t }) id record hb']
    exact ⟨rfl, rfl⟩
  | @sent request request' hreply =>
    obtain ⟨hentries, hresponse⟩ := hreply
    cases hr : (w.transport request).result with
    | error failure =>
      cases hr' : (t request').result with
      | error failure' =>
        rw [inside_of_unanswered id record hb hr,
          inside_of_unanswered (w := { w with transport := t }) id record hb' hr']
        dsimp only
        rw [entries_sending, entries_sending, hentries]
        exact ⟨rfl, rfl⟩
      | ok response' => rw [hr, hr'] at hresponse; cases hresponse
    | ok response =>
      cases hr' : (t request').result with
      | error failure' => rw [hr, hr'] at hresponse; cases hresponse
      | ok response' =>
        rw [hr, hr'] at hresponse
        cases hresponse
        rw [inside_of_answered id record hb hr,
          inside_of_answered (w := { w with transport := t }) id record hb' hr', ← hauthority]
        dsimp only
        rw [Trace.entries_append, Trace.entries_append, entries_sending, entries_sending, hentries]
        exact ⟨rfl, rfl⟩

/-- **Two exchanges show the same** if their calls differ in grant and credential only, their requests
are answered alike, and their sinks differ in the texts of failures only. -/
theorem exchange_showsAs {e : Exchanger} {s : Telemetry} (hs : e.telemetry.SameButTexts s)
    (w : Surroundings) (t : Request → Reply) (ids : IdSupply) (c : Call) (grant : Grant)
    (credential : Option Credential)
    (h : AnsweredAlike w.transport t (buildRequest w.platform (e.headed ids c))
      (buildRequest w.platform (e.headed ids { c with grant, credential }))) :
    (e.exchange w ids c).ShowsAs
      (({ e with telemetry := s } : Exchanger).exchange { w with transport := t } ids
        { c with grant, credential }) := by
  have hauthority : (e.headed ids c).authority =
      (e.headed ids { c with grant, credential }).authority := rfl
  have hcourse := inside_alike w t hauthority h (e.callHeaders ids c).correlationId (e.openedRecord ids c)
  have hrecord : e.endedRecord w ids c =
      ({ e with telemetry := s } : Exchanger).endedRecord { w with transport := t } ids
        { c with grant, credential } := congrArg Record.finish hcourse.1
  constructor
  · rw [exchange_entries, exchange_entries, entries_deliver_sameButTexts hs, hrecord]
    congr 2
    exact hcourse.2
  · rw [exchange_deliveries, exchange_deliveries, deliveries_deliver_sameButTexts hs, hrecord]

end Exchanger

end TokenEndpoint
