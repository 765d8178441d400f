import TokenEndpoint.Proofs.Polling
import TokenEndpoint.Proofs.Rounding
/-!
The polling loop ends, whatever is answered. What ends it is the clock alone: every turn after which the
loop goes on costs at least the five seconds of its wait, so of the turns of a whole lifetime at most
180 are in time. Main statements:

* `start_add_le_time` -- the time that turns cost;
* `exists_first_stop` -- one of the first 181 turns does not go on;
* `poll_ends` -- the loop ends by its 181st reading, after at most 180 exchanges and as many waits.
-/

namespace TokenEndpoint.DeviceCode

/-- The first of endless turns. -/
def firstTurns (turns : Nat → Turn) (n : Nat) : List Turn :=
  (List.range n).map turns

theorem length_firstTurns (turns : Nat → Turn) (n : Nat) : (firstTurns turns n).length = n := by
  rw [firstTurns, List.length_map, List.length_range]

theorem mem_firstTurns {turns : Nat → Turn} {n : Nat} {t : Turn} :
    t ∈ firstTurns turns n ↔ ∃ i, i < n ∧ turns i = t := by
  simp [firstTurns]

/-- The first turns around one of them. -/
theorem exists_firstTurns_eq (turns : Nat → Turn) {i n : Nat} (h : i < n) :
    ∃ later, firstTurns turns n = firstTurns turns i ++ turns i :: later := by
  obtain ⟨d, rfl⟩ : ∃ d, n = i + (d + 1) := ⟨n - i - 1, by omega⟩
  refine ⟨(List.range d).map fun j => turns (i + (j + 1)), ?_⟩
  rw [firstTurns, firstTurns, List.range_add, List.map_append, List.range_succ_eq_map]
  simp [Function.comp_def]

namespace Loop

/-- The readings of a monotonic clock, in seconds: `start` is the first reading, `time i` that of the
turn `i`.

* `kind` -- the readings are floating-point numbers or have the values of such, for else the rounding of
  the deadline could put it off; from a whole number on the deadline is not rounded;
* `begins` -- the clock does not go back between the first reading and that of the first turn;
* `advances` -- a wait of five seconds lies between two turns, and the clock goes on by at least that. -/
structure Timed (l : Loop) (first : Decimal.Number) (turns : Nat → Turn) (start : ℚ) (time : Nat → ℚ) :
    Prop where
  kind : first.IsWhole ∨ ∀ i, Decimal.Representable |time i|
  first : first.value? = some start
  reading : ∀ i, (turns i).reading.value? = some (time i)
  begins : start ≤ time 0
  advances : ∀ i, (∀ j ≤ i, l.inTime (turns j) = true ∧ l.pending (turns j) = true) →
    time i + 5 ≤ time (i + 1)

section Timed

variable {l : Loop} {first : Decimal.Number} {turns : Nat → Turn} {start : ℚ} {time : Nat → ℚ}
  (h : l.Timed first turns start time) (hdeadline : l.deadline = first + .whole 900)

include h

/-- Every turn that goes on costs five seconds. -/
theorem start_add_le_time {i : Nat} (hgo : ∀ j < i, l.goesOn (turns j) = true) :
    start + 5 * i ≤ time i := by
  induction i with
  | zero => simpa using h.begins
  | succ i ih =>
    have hbefore := ih fun j hj => hgo j (Nat.lt_succ_of_lt hj)
    have hstep := h.advances i fun j hj => goesOn_iff.mp (hgo j (Nat.lt_succ_of_le hj))
    push_cast
    linarith

include hdeadline

/-- A turn in time is so by the exact time too. -/
theorem time_lt_of_inTime {i : Nat} (hin : l.inTime (turns i) = true) : time i < start + 900 := by
  by_contra hlate
  have hsum : start + ((900 : Int) : ℚ) ≤ time i := by
    push_cast
    exact not_lt.mp hlate
  have hexact : (Decimal.Binary.ofFraction 900 1).value? = some ((900 : Int) : ℚ) := by
    have hbits : Decimal.Binary.ofFraction 900 1 = .finite false 7916483719987200 (-43) := by decide
    rw [hbits, Decimal.Binary.value?_finite, Decimal.sign]
    norm_num
  have hkind : first.IsWhole ∨ Decimal.Representable |time i| := h.kind.imp_right fun hall => hall i
  have hnot := Decimal.Number.not_below_add hkind hexact h.first (h.reading i) hsum
  rw [← hdeadline] at hnot
  rw [inTime, hnot] at hin
  cases hin

/-- Only the first 180 turns can be in time. -/
theorem lt_of_inTime {i : Nat} (hgo : ∀ j < i, l.goesOn (turns j) = true)
    (hin : l.inTime (turns i) = true) : i < 180 := by
  have hcost := start_add_le_time h hgo
  have htime := time_lt_of_inTime h hdeadline hin
  have hlt : (5 * i : ℚ) < 5 * 180 := by linarith
  exact_mod_cast lt_of_mul_lt_mul_left hlt (by norm_num)

/-- **One of the first 181 turns does not go on**, and before it all do. -/
theorem exists_first_stop :
    ∃ i ≤ 180, l.goesOn (turns i) = false ∧ ∀ j < i, l.goesOn (turns j) = true := by
  have hstop : ∃ i, i ≤ 180 ∧ l.goesOn (turns i) = false := by
    by_contra hnone
    have hall (i : Nat) (hi : i ≤ 180) : l.goesOn (turns i) = true := by
      rw [← Bool.not_eq_false]
      exact fun hfalse => hnone ⟨i, hi, hfalse⟩
    have hin := (goesOn_iff.mp (hall 180 (le_refl _))).1
    have hlt := lt_of_inTime h hdeadline (fun j hj => hall j (le_of_lt hj)) hin
    exact absurd hlt (lt_irrefl _)
  refine ⟨Nat.find hstop, (Nat.find_spec hstop).1, (Nat.find_spec hstop).2, fun j hj => ?_⟩
  have hmin := Nat.find_min hstop hj
  have hle : j ≤ 180 := le_trans (le_of_lt hj) (Nat.find_spec hstop).1
  rw [← Bool.not_eq_false]
  exact fun hfalse => hmin ⟨hle, hfalse⟩

end Timed

end Loop

/-- **The polling loop ends, whatever is answered**, on a clock that goes on by five seconds with every
wait: after 181 readings it has ended, with at most 180 exchanges and as many waits, and no exchange has
begun at or after the deadline, be it the rounded one or 900 seconds exactly after the first reading. -/
theorem poll_ends (e : Exchanger) (settings : Settings) (ids : IdSupply) (authority : Authority)
    (deviceCode clientId : String) (first : Decimal.Number) (turns : Nat → Turn) (start : ℚ)
    (time : Nat → ℚ)
    (hclock : (Loop.polling e settings ids authority deviceCode clientId first).Timed first turns start
      time) :
    let l := Loop.polling e settings ids authority deviceCode clientId first
    ∃ (outcome : Except Failure Result) (made : List Turn), made.length ≤ 180 ∧
      (∀ t ∈ made, t.reading.below (first + .whole 900) = true ∧
        ∃ v, t.reading.value? = some v ∧ v < start + 900) ∧
      ∀ n, 180 < n →
        let done := poll e settings ids authority deviceCode clientId first (firstTurns turns n)
        done.progress = .ended outcome ∧ l.Made made done.trace ∧ done.trace.sleeps.length ≤ 180 := by
  intro l
  obtain ⟨i, hi, hstop, hgo⟩ := Loop.exists_first_stop hclock rfl
  have hbefore : ∀ s ∈ firstTurns turns i, l.goesOn s = true := by
    intro s hs
    obtain ⟨j, hj, rfl⟩ := mem_firstTurns.mp hs
    exact hgo j hj
  obtain ⟨outcome, made, hmade, hcourse⟩ := Loop.course_of_first_stop (l := l) rfl hbefore hstop
  have hlength : made.length ≤ 180 := by
    rcases hmade with rfl | ⟨hin, rfl⟩
    · rwa [length_firstTurns]
    · rw [List.length_append, length_firstTurns]
      exact Loop.lt_of_inTime hclock rfl hgo hin
  have hintime : ∀ t ∈ made, ∃ j, turns j = t ∧ l.inTime t = true := by
    intro t ht
    have hgone (hbefore' : t ∈ firstTurns turns i) : ∃ j, turns j = t ∧ l.inTime t = true := by
      obtain ⟨j, -, hj⟩ := mem_firstTurns.mp hbefore'
      exact ⟨j, hj, (Loop.goesOn_iff.mp (hbefore t hbefore')).1⟩
    rcases hmade with rfl | ⟨hin, rfl⟩
    · exact hgone ht
    · rcases List.mem_append.mp ht with ht | ht
      · exact hgone ht
      · cases List.mem_singleton.mp ht
        exact ⟨i, rfl, hin⟩
  refine ⟨outcome, made, hlength, fun t ht => ?_, fun n hn => ?_⟩
  · obtain ⟨j, rfl, hin⟩ := hintime t ht
    exact ⟨hin, time j, hclock.reading j, Loop.time_lt_of_inTime hclock rfl hin⟩
  · obtain ⟨later, hlater⟩ := exists_firstTurns_eq turns (lt_of_le_of_lt hi hn)
    rw [hlater]
    obtain ⟨hprogress, hdone⟩ := hcourse later
    refine ⟨hprogress, hdone, ?_⟩
    show (l.course (firstTurns turns i ++ turns i :: later)).trace.sleeps.length ≤ 180
    rw [hdone.waited, List.length_replicate]
    exact le_trans List.countP_le_length hlength

/-- A clock of floating-point numbers, from 100.25 on: the first turn at 100.5 is pending, and all others
are at 1000.25, which is the deadline. -/
theorem poll_ends_at_deadline :
    let unfinished : Response := { status := 400, body := "\x7b\"error\": \"authorization_pending\"\x7d" }
    let w : Surroundings :=
      { platform := "linux", transport := fun _ => { result := .ok unfinished }, clock := .whole 0 }
    let seconds (bits : UInt64) : Decimal.Number := .real (.ofBits bits)
    let first := seconds 0x4059100000000000
    let turns (i : Nat) : Turn :=
      { reading := seconds (if i = 0 then 0x4059200000000000 else 0x408f420000000000), surroundings := w }
    let time (i : Nat) : ℚ := if i = 0 then 100.5 else 1000.25
    let authority : Authority := { canonicalUrl := "https://h/t" }
    let ids : IdSupply := { name := fun _ => "id-1" }
    let l := Loop.polling {} {} ids authority "code" "client" first
    l.Timed first turns 100.25 time ∧
      ∃ (outcome : Except Failure Result) (made : List Turn), made.length ≤ 180 ∧
        ∀ n, 180 < n →
          (poll {} {} ids authority "code" "client" first (firstTurns turns n)).progress =
            .ended outcome := by
  intro unfinished w seconds first turns time authority ids l
  have hvalue {bits : UInt64} {m : Nat} {q : Int} {v : ℚ}
      (hbits : Decimal.Binary.ofBits bits = .finite false m q) (hv : (m : ℚ) * 2 ^ q = v) :
      (seconds bits).value? = some v := by
    show (Decimal.Binary.ofBits bits).value? = some v
    rw [hbits, Decimal.Binary.value?_finite, Decimal.sign, if_neg Bool.false_ne_true, one_mul, hv]
  have hfirst : first.value? = some 100.25 :=
    hvalue (m := 7054466603810816) (q := -46) (by decide) (by norm_num)
  have hreading (i : Nat) : (turns i).reading.value? = some (time i) := by
    cases i with
    | zero => exact hvalue (m := 7072058789855232) (q := -46) (by decide) (by norm_num [time])
    | succ i =>
      show (seconds 0x408f420000000000).value? = some 1000.25
      exact hvalue (m := 8798292045463552) (q := -43) (by decide) (by norm_num)
  have hclock : l.Timed first turns 100.25 time := by
    refine ⟨Or.inr fun i => Decimal.Binary.representable_ofBits (hreading i), hfirst, hreading, ?_, ?_⟩
    · show (100.25 : ℚ) ≤ 100.5
      norm_num
    · intro i hgo
      cases i with
      | zero =>
        show (100.5 : ℚ) + 5 ≤ 1000.25
        norm_num
      | succ i =>
        have hlate : l.inTime (turns 1) = false := by decide
        have hin := (hgo 1 (by omega)).1
        rw [hlate] at hin
        cases hin
  obtain ⟨outcome, made, hlength, -, hdone⟩ :=
    poll_ends {} {} ids authority "code" "client" first turns 100.25 time hclock
  exact ⟨hclock, outcome, made, hlength, fun n hn => (hdone n hn).1⟩

end TokenEndpoint.DeviceCode
