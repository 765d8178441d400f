import TokenEndpoint.Request
import TokenEndpoint.Telemetry.Record
/-!
Traces: what an exchange, a telemetry session or a polling loop does to the world outside, in order.
-/

namespace TokenEndpoint

inductive Event where
  | logged (entry : LogEntry)
  /-- A request went to the transport. -/
  | sent (request : Request)
  /-- The clock was read. -/
  | sampled
  /-- A span was opened around a record. -/
  | opened (record : Record)
  /-- A span ended, and with it its record. -/
  | ended (record : Record)
  /-- The sink of a number got a record. -/
  | delivered (sink : Nat) (record : Record)
  /-- The caller waited so many seconds. -/
  | slept (seconds : Nat)
  deriving DecidableEq, Repr

namespace Event

/-! ## What an event shows -/

@[simp] def entry? : Event → Option LogEntry
  | logged entry => some entry
  | _ => none

@[simp] def request? : Event → Option Request
  | sent request => some request
  | _ => none

@[simp] def opened? : Event → Option Record
  | opened record => some record
  | _ => none

@[simp] def ended? : Event → Option Record
  | ended record => some record
  | _ => none

@[simp] def delivery? : Event → Option (Nat × Record)
  | delivered sink record => some (sink, record)
  | _ => none

@[simp] def sleep? : Event → Option Nat
  | slept seconds => some seconds
  | _ => none

@[simp] def isSample : Event → Bool
  | sampled => true
  | _ => false

end Event

abbrev Trace := List Event

namespace Trace

def ofEntries (entries : List LogEntry) : Trace :=
  entries.map .logged

/-! ## Views -/

def entries (t : Trace) : List LogEntry :=
  t.filterMap Event.entry?

def requests (t : Trace) : List Request :=
  t.filterMap Event.request?

def opened (t : Trace) : List Record :=
  t.filterMap Event.opened?

def ended (t : Trace) : List Record :=
  t.filterMap Event.ended?

def deliveries (t : Trace) : List (Nat × Record) :=
  t.filterMap Event.delivery?

def sleeps (t : Trace) : List Nat :=
  t.filterMap Event.sleep?

/-- How often the clock was read. -/
def samples (t : Trace) : Nat :=
  t.countP Event.isSample

/-! ### Of no event, and of one event more -/

@[simp] theorem entries_nil : entries [] = [] := rfl

@[simp] theorem requests_nil : requests [] = [] := rfl

@[simp] theorem opened_nil : opened [] = [] := rfl

@[simp] theorem ended_nil : ended [] = [] := rfl

@[simp] theorem deliveries_nil : deliveries [] = [] := rfl

@[simp] theorem sleeps_nil : sleeps [] = [] := rfl

@[simp] theorem samples_nil : samples [] = 0 := rfl

/-- One element more in front of a `filterMap`. -/
theorem filterMap_cons_toList {α : Type} (f : Event → Option α) (e : Event) (t : Trace) :
    (e :: t).filterMap f = (f e).toList ++ t.filterMap f := by
  cases h : f e <;> simp [h]

@[simp] theorem entries_cons (e : Event) (t : Trace) :
    entries (e :: t) = e.entry?.toList ++ entries t :=
  filterMap_cons_toList _ e t

@[simp] theorem requests_cons (e : Event) (t : Trace) :
    requests (e :: t) = e.request?.toList ++ requests t :=
  filterMap_cons_toList _ e t

@[simp] theorem opened_cons (e : Event) (t : Trace) :
    opened (e :: t) = e.opened?.toList ++ opened t :=
  filterMap_cons_toList _ e t

@[simp] theorem ended_cons (e : Event) (t : Trace) : ended (e :: t) = e.ended?.toList ++ ended t :=
  filterMap_cons_toList _ e t

@[simp] theorem deliveries_cons (e : Event) (t : Trace) :
    deliveries (e :: t) = e.delivery?.toList ++ deliveries t :=
  filterMap_cons_toList _ e t

@[simp] theorem sleeps_cons (e : Event) (t : Trace) : sleeps (e :: t) = e.sleep?.toList ++ sleeps t :=
  filterMap_cons_toList _ e t

@[simp] theorem samples_cons (e : Event) (t : Trace) :
    samples (e :: t) = samples t + if e.isSample then 1 else 0 :=
  List.countP_cons

/-! ### Of two traces, one after the other -/

@[simp] theorem entries_append (s t : Trace) : entries (s ++ t) = entries s ++ entries t :=
  List.filterMap_append

@[simp] theorem requests_append (s t : Trace) : requests (s ++ t) = requests s ++ requests t :=
  List.filterMap_append

@[simp] theorem opened_append (s t : Trace) : opened (s ++ t) = opened s ++ opened t :=
  List.filterMap_append

@[simp] theorem ended_append (s t : Trace) : ended (s ++ t) = ended s ++ ended t :=
  List.filterMap_append

@[simp] theorem deliveries_append (s t : Trace) :
    deliveries (s ++ t) = deliveries s ++ deliveries t :=
  List.filterMap_append

@[simp] theorem sleeps_append (s t : Trace) : sleeps (s ++ t) = sleeps s ++ sleeps t :=
  List.filterMap_append

@[simp] theorem samples_append (s t : Trace) : samples (s ++ t) = samples s + samples t :=
  List.countP_append

/-! ### Of traces joined -/

variable {α : Type} (xs : List α) (f : α → Trace)

@[simp] theorem entries_flatMap : entries (xs.flatMap f) = xs.flatMap fun x => entries (f x) :=
  List.filterMap_flatMap

@[simp] theorem requests_flatMap : requests (xs.flatMap f) = xs.flatMap fun x => requests (f x) :=
  List.filterMap_flatMap

@[simp] theorem opened_flatMap : opened (xs.flatMap f) = xs.flatMap fun x => opened (f x) :=
  List.filterMap_flatMap

@[simp] theorem ended_flatMap : ended (xs.flatMap f) = xs.flatMap fun x => ended (f x) :=
  List.filterMap_flatMap

@[simp] theorem deliveries_flatMap :
    deliveries (xs.flatMap f) = xs.flatMap fun x => deliveries (f x) :=
  List.filterMap_flatMap

@[simp] theorem sleeps_flatMap : sleeps (xs.flatMap f) = xs.flatMap fun x => sleeps (f x) :=
  List.filterMap_flatMap

theorem samples_flatMap (h : ∀ x ∈ xs, samples (f x) = 0) : samples (xs.flatMap f) = 0 := by
  induction xs with
  | nil => rfl
  | cons x rest ih =>
    rw [List.flatMap_cons, samples_append, h x List.mem_cons_self,
      ih fun y hy => h y (List.mem_cons_of_mem x hy)]

/-! ### Of log entries -/

@[simp] theorem entries_ofEntries (es : List LogEntry) : entries (ofEntries es) = es := by
  rw [entries, ofEntries, List.filterMap_map]
  exact List.filterMap_some

@[simp] theorem requests_ofEntries (es : List LogEntry) : requests (ofEntries es) = [] := by
  simp [requests, ofEntries]

@[simp] theorem opened_ofEntries (es : List LogEntry) : opened (ofEntries es) = [] := by
  simp [opened, ofEntries]

@[simp] theorem ended_ofEntries (es : List LogEntry) : ended (ofEntries es) = [] := by
  simp [ended, ofEntries]

@[simp] theorem deliveries_ofEntries (es : List LogEntry) : deliveries (ofEntries es) = [] := by
  simp [deliveries, ofEntries]

@[simp] theorem sleeps_ofEntries (es : List LogEntry) : sleeps (ofEntries es) = [] := by
  simp [sleeps, ofEntries]

@[simp] theorem samples_ofEntries (es : List LogEntry) : samples (ofEntries es) = 0 := by
  simp [samples, ofEntries]

end Trace

end TokenEndpoint
