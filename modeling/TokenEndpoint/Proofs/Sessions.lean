import TokenEndpoint.Telemetry.Session
/-!
Telemetry sessions, command by command. A block is nothing but its commands, up to the first that
fails, and then the end of its span; so every session is one of plain commands, its history. Main
statements:

* `run_append` -- a run over two lists of commands is one run after the other;
* `run_history` -- a session does what its history does, and the history has no block;
* `failure_within_of_failed` -- a block fails as its body does, whatever the sinks do at its end.
-/

namespace TokenEndpoint.TelemetrySession

variable (s : TelemetrySession)

/-! ## 1. Runs -/

/-- What a run has done before goes in front of what it does. -/
theorem foldl_step (trace : Trace) (commands : List Command) :
    commands.foldl (fun (s, trace) c => let o := step s c; (o.session, trace ++ o.trace)) (s, trace) =
      ((s.run commands).1, trace ++ (s.run commands).2) := by
  induction commands generalizing s trace with
  | nil => simp [run]
  | cons c rest ih =>
    rw [run, List.foldl_cons, List.foldl_cons]
    dsimp only
    rw [ih, ih, List.nil_append, List.append_assoc]

@[simp] theorem run_nil : s.run [] = (s, []) := rfl

theorem run_cons (c : Command) (rest : List Command) :
    s.run (c :: rest) =
      (((s.step c).session.run rest).1, (s.step c).trace ++ ((s.step c).session.run rest).2) := by
  rw [run, List.foldl_cons]
  dsimp only
  rw [foldl_step, List.nil_append]

/-- A run after some commands goes on from where they have left it. -/
theorem run_append (xs ys : List Command) :
    s.run (xs ++ ys) =
      (((s.run xs).1.run ys).1, (s.run xs).2 ++ ((s.run xs).1.run ys).2) := by
  induction xs generalizing s with
  | nil => rfl
  | cons c rest ih => rw [List.cons_append, run_cons, ih, run_cons, List.append_assoc]

theorem run_singleton (c : Command) : s.run [c] = ((s.step c).session, (s.step c).trace) := by
  rw [run_cons, run_nil, List.append_nil]

/-! ## 2. Histories -/

namespace Command

/-- A command that is no block. -/
def isPlain : Command → Bool
  | within _ _ _ => false
  | _ => true

end Command

mutual

/-- The plain commands that a command comes to. -/
def plain (s : TelemetrySession) : Command → List Command
  | .within j body _ => s.plainBlock body ++ [.finalize j]
  | c => [c]

/-- The plain commands that are taken of a block. -/
def plainBlock (s : TelemetrySession) : List Command → List Command
  | [] => []
  | c :: rest =>
    s.plain c ++ match (s.step c).failure with
      | some _ => []
      | none => (s.step c).session.plainBlock rest

end

/-- The plain commands that commands come to, whichever fail. -/
def history (s : TelemetrySession) : List Command → List Command
  | [] => []
  | c :: rest => s.plain c ++ (s.step c).session.history rest

theorem plain_of_isPlain {c : Command} (h : c.isPlain = true) : s.plain c = [c] := by
  cases c with
  | within j body failure => cases h
  | _ => rw [plain]; intro j body failure h; cases h

mutual

/-- A command does what its plain commands do. -/
theorem run_plain (s : TelemetrySession) (c : Command) :
    s.run (s.plain c) = ((s.step c).session, (s.step c).trace) := by
  cases c with
  | within j body failure =>
    have hbody := run_plainBlock s body
    rw [plain, run_append, hbody, run_singleton, step]
    rfl
  | _ => rw [plain_of_isPlain s rfl, run_singleton]

/-- A block does what its plain commands do. -/
theorem run_plainBlock (s : TelemetrySession) (commands : List Command) :
    s.run (s.plainBlock commands) = ((s.runBlock commands).session, (s.runBlock commands).trace) := by
  cases commands with
  | nil => rw [plainBlock, runBlock, run_nil]
  | cons c rest =>
    have hfirst := run_plain s c
    have hrest := run_plainBlock (s.step c).session rest
    rw [plainBlock, run_append, hfirst, runBlock]
    dsimp only
    cases (s.step c).failure with
    | some failure => simp
    | none =>
      dsimp only
      rw [hrest]

end

mutual

theorem isPlain_of_mem_plain (s : TelemetrySession) (c : Command) :
    ∀ p ∈ s.plain c, p.isPlain = true := by
  cases c with
  | within j body failure =>
    intro p hp
    rw [plain, List.mem_append] at hp
    rcases hp with hp | hp
    · exact isPlain_of_mem_plainBlock s body p hp
    · cases List.mem_singleton.mp hp
      rfl
  | _ =>
    intro p hp
    rw [plain_of_isPlain s rfl] at hp
    cases List.mem_singleton.mp hp
    rfl

theorem isPlain_of_mem_plainBlock (s : TelemetrySession) (commands : List Command) :
    ∀ p ∈ s.plainBlock commands, p.isPlain = true := by
  cases commands with
  | nil =>
    intro p hp
    rw [plainBlock] at hp
    cases hp
  | cons c rest =>
    intro p hp
    rw [plainBlock, List.mem_append] at hp
    rcases hp with hp | hp
    · exact isPlain_of_mem_plain s c p hp
    · have hrest := isPlain_of_mem_plainBlock (s.step c).session rest
      split at hp
      · cases hp
      · exact hrest p hp

end

/-- **A session does what its history does**: it comes to the same state, and leaves the same trace. -/
theorem run_history (commands : List Command) : s.run (s.history commands) = s.run commands := by
  induction commands generalizing s with
  | nil => rfl
  | cons c rest ih => rw [history, run_append, run_plain, ih, run_cons]

theorem isPlain_of_mem_history (commands : List Command) :
    ∀ p ∈ s.history commands, p.isPlain = true := by
  induction commands generalizing s with
  | nil =>
    intro p hp
    cases hp
  | cons c rest ih =>
    intro p hp
    rw [history, List.mem_append] at hp
    rcases hp with hp | hp
    · exact isPlain_of_mem_plain s c p hp
    · exact ih _ p hp

/-! ## 3. Failures of blocks -/

/-- A block that takes some commands without a failure goes on with the rest. -/
theorem runBlock_append {xs : List Command} (h : (s.runBlock xs).failure = none) (ys : List Command) :
    (s.runBlock (xs ++ ys)).failure = ((s.runBlock xs).session.runBlock ys).failure := by
  induction xs generalizing s with
  | nil => rfl
  | cons c rest ih =>
    rw [runBlock] at h
    rw [List.cons_append, runBlock, runBlock]
    dsimp only at h ⊢
    cases hfirst : (s.step c).failure with
    | some failure => rw [hfirst] at h; cases h
    | none =>
      rw [hfirst] at h
      exact ih (s.step c).session h

/-- **A block fails as its body does**, with the failure of the first command that fails, whatever the
sinks do at its end. -/
theorem failure_within_of_failed {before : List Command} {c : Command} {failure : Failure}
    (hbefore : (s.runBlock before).failure = none)
    (hfailed : ((s.runBlock before).session.step c).failure = some failure) (j : Nat)
    (after : List Command) (own : Option Failure) :
    (s.step (.within j (before ++ c :: after) own)).failure = some failure := by
  have hbody : (s.runBlock (before ++ c :: after)).failure = some failure := by
    rw [runBlock_append s hbefore, runBlock]
    dsimp only
    rw [hfailed]
  rw [step]
  dsimp only
  rw [hbody]
  rfl

/-- A block whose commands all succeed fails as it is told to, if it is. -/
theorem failure_within_of_succeeded {body : List Command} (h : (s.runBlock body).failure = none)
    (j : Nat) (own : Option Failure) : (s.step (.within j body own)).failure = own := by
  rw [step]
  dsimp only
  rw [h]
  rfl

end TokenEndpoint.TelemetrySession
