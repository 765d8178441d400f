import TokenEndpoint.Exchange.Run
/-!
Runs, command by command: a run over two lists of commands is one run after the other
(`takeAll_append`), the report of a command depends on where the run has come to before it
(`report_at`), and nothing but the commands to the telemetry changes the exchanger
(`exchanger_takeAll`).
-/

namespace TokenEndpoint.Run

namespace Command

def isExchange : Command → Bool
  | exchange _ _ => true
  | _ => false

/-- What a command does to the telemetry. -/
def change (t : Telemetry) : Command → Telemetry
  | exchange _ _ => t
  | addSink sink => t.addSink sink
  | enable on => { t with enabled := on }
  | react reaction => t.withReactions reaction

end Command

variable (w : RunSurroundings) (r : Run)

theorem takeAll_cons (c : Command) (rest : List Command) :
    r.takeAll w (c :: rest) =
      (((r.step w c).1.takeAll w rest).1, (r.step w c).2 :: ((r.step w c).1.takeAll w rest).2) := rfl

/-- A run after some commands goes on from where they have left it. -/
theorem takeAll_append (xs ys : List Command) :
    r.takeAll w (xs ++ ys) =
      (((r.takeAll w xs).1.takeAll w ys).1,
        (r.takeAll w xs).2 ++ ((r.takeAll w xs).1.takeAll w ys).2) := by
  induction xs generalizing r with
  | nil => rfl
  | cons c rest ih =>
    rw [List.cons_append, takeAll_cons, ih, takeAll_cons]
    rfl

theorem length_reports (commands : List Command) :
    (r.takeAll w commands).2.length = commands.length := by
  induction commands generalizing r with
  | nil => rfl
  | cons c rest ih => exact congrArg (· + 1) (ih (r.step w c).1)

/-- The report of a command is what the command does where the run has come to before it. -/
theorem report_at (before after : List Command) (c : Command) :
    (r.takeAll w (before ++ c :: after)).2[before.length]? =
      some ((r.takeAll w before).1.step w c).2 := by
  have hlength := Nat.le_of_eq (length_reports w r before)
  rw [takeAll_append, List.getElem?_append_right hlength, length_reports, Nat.sub_self]
  rfl

theorem exchanger_step (c : Command) :
    (r.step w c).1.exchanger =
      { r.exchanger with telemetry := c.change r.exchanger.telemetry } := by
  cases c <;> rfl

/-- Nothing but the commands to the telemetry changes the exchanger. -/
theorem exchanger_takeAll (commands : List Command) :
    (r.takeAll w commands).1.exchanger =
      { r.exchanger with telemetry := commands.foldl Command.change r.exchanger.telemetry } := by
  induction commands generalizing r with
  | nil => rfl
  | cons c rest ih => rw [takeAll_cons, ih, exchanger_step, List.foldl_cons]

end TokenEndpoint.Run
