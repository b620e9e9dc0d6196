import StepperMotion.Proofs.Alike
import StepperMotion.Proofs.Ending

/-!
# One half-step after the other

A move that is left alone with its timer makes one half-step a match until it comes to its end. What
one match does to the axis (`Strides`) and what a row of half-steps does to the board
(`Board.Strode`) is the same for every kind of move. The rising edges of the step line move the
shaft; in a row of half-steps every second one is a rising edge, the first one or the second one,
depending on the level of the line at the start (`risen`).

A move may always fail because the timer refuses a frequency. `TakesAll` is the assumption that
it refuses none of those that are written to it in the course of some operations.
-/

namespace StepperMotion

open Axis (Operation)

/-! ## What is written to a timer -/

namespace Board

theorem since_of_suffix {b before : Board} {written : List FreqWrite}
    (h : written ++ before.timer.writes = b.timer.writes) : (b.since before).written = written := by
  simp [since, ← h]

/-- What was written up to some time was written up to any later time, and so was what was written
from then on. -/
theorem since_mono {b c d : Board} (hbc : b.timer.writes <:+ c.timer.writes)
    (hcd : c.timer.writes <:+ d.timer.writes) :
    (d.since b).written = (d.since c).written ++ (c.since b).written := by
  obtain ⟨early, hearly⟩ := hbc
  obtain ⟨late, hlate⟩ := hcd
  have hall : (late ++ early) ++ b.timer.writes = d.timer.writes := by
    rw [List.append_assoc, hearly, hlate]
  rw [since_of_suffix hall, since_of_suffix hlate, since_of_suffix hearly]

end Board

namespace Axis

theorem writes_same {a b : Axis} (h : b.board.timer.writes = a.board.timer.writes) :
    a.board.timer.writes <:+ b.board.timer.writes :=
  h ▸ List.suffix_refl _

theorem writes_launch (a : Axis) (freq : Nat) (line : String) :
    a.board.timer.writes <:+ (a.launch freq line).axis.board.timer.writes := by
  rcases launch_cases a freq line with ⟨_, _, h⟩ | ⟨_, _, _, h⟩ | ⟨_, _, _, h⟩ <;> rw [h]
  · exact List.suffix_refl _
  · exact List.suffix_cons ..
  · exact List.suffix_cons ..

theorem writes_carried {a b : Axis} {nowMs : Nat} {c : Command} {r : Except Failure Outcome}
    (h : a.Carried nowMs c b r) : a.board.timer.writes <:+ b.board.timer.writes := by
  cases h with
  | @launched p line _ _ => exact writes_launch (a.setUp p).nextEpoch p.ramp.current line
  | failed _ _ _ => exact List.suffix_refl _
  | @arrived setpoint _ _ =>
      rcases finishInPlace_cases ({ a with posCmd := setpoint } : Axis).sense with
        ⟨_, h⟩ | ⟨_, h⟩ <;> exact writes_same (congrArg (·.board.timer.writes) h)
  | stopped _ =>
      rcases stop_cases a with ⟨_, h, _⟩ | ⟨_, h, _⟩ <;>
        exact writes_same (congrArg (·.board.timer.writes) h)

theorem writes_ramped (a : Axis) (nowMs : Nat) :
    a.board.timer.writes <:+ (a.ramped nowMs).board.timer.writes := by
  show _ <:+ (writtenTimer a.board.timer _).writes
  rw [writtenTimer_writes]
  exact List.suffix_cons ..

theorem writes_served {a b : Axis} {nowMs : Nat} {r : Except Fault (Option Notification)}
    (h : a.Served nowMs b r) : a.board.timer.writes <:+ b.board.timer.writes := by
  have hlook := a.observe_board
  have hseen : a.observe.board.timer.writes = a.board.timer.writes :=
    congrArg (·.timer.writes) hlook
  have hramped := a.observe.writes_ramped nowMs
  rw [hlook] at hramped
  cases h with
  | idle _ => exact List.suffix_refl _
  | arrived _ _ => exact writes_same hseen
  | overshot _ _ _ => exact writes_same hseen
  | refused _ _ _ _ _ => exact hramped
  | stepped _ _ _ hb _ =>
      rcases hb with ⟨_, rfl⟩ | ⟨_, _, rfl⟩
      · exact writes_same hseen
      · exact hramped

theorem writes_effect {a b : Axis} {o : Operation} {f? : Option Fault} (h : a.Effect o b f?) :
    a.board.timer.writes <:+ b.board.timer.writes := by
  cases h with
  | carried hc => exact writes_carried hc
  | served hserved => exact writes_served hserved
  | halted _ hb => rcases hb with rfl | rfl <;> exact List.suffix_refl _
  | judged hb => rcases hb with rfl | rfl <;> exact List.suffix_refl _
  | _ => exact List.suffix_refl _

/-- **Nothing that was written is forgotten.** -/
theorem writes_after (a : Axis) (ops : List Operation) :
    a.board.timer.writes <:+ (a.after ops).board.timer.writes :=
  after_induction (P := fun b => a.board.timer.writes <:+ b.board.timer.writes)
    (fun b o h => h.trans (writes_effect (effect_perform b o))) (List.suffix_refl _) ops

/-- The timer takes every frequency that is written to it in the course of some operations. -/
def TakesAll (a : Axis) (ops : List Operation) : Prop :=
  ∀ w ∈ ((a.after ops).board.since a.board).written, w.accepted = true

instance (a : Axis) (ops : List Operation) : Decidable (a.TakesAll ops) :=
  inferInstanceAs (Decidable (∀ w ∈ ((a.after ops).board.since a.board).written, w.accepted = true))

theorem after_append (a : Axis) (ops rest : List Operation) :
    a.after (ops ++ rest) = (a.after ops).after rest := List.foldl_append

theorem takesAll_append {a : Axis} {ops rest : List Operation} :
    a.TakesAll (ops ++ rest) ↔ a.TakesAll ops ∧ (a.after ops).TakesAll rest := by
  unfold TakesAll
  rw [after_append, Board.since_mono (a.writes_after ops) ((a.after ops).writes_after rest)]
  simp only [List.mem_append, or_imp, forall_and]
  exact And.comm

theorem takesAll_cons {a : Axis} {o : Operation} {ops : List Operation} :
    a.TakesAll (o :: ops) ↔ a.TakesAll [o] ∧ (a.perform o).1.TakesAll ops :=
  @takesAll_append a [o] ops

/-- **A frequency within the limits starts the timer that takes it.** -/
theorem launch_taken {a : Axis} {freq : Nat} {line : String} (hin : a.InLimits freq)
    (htakes : ∀ w ∈ ((a.launch freq line).axis.board.since a.board).written, w.accepted = true) :
    (a.launch freq line).answer = .ok (.started freq)
      ∧ (a.launch freq line).axis
        = { a with board := { a.board with timer := armedTimer a.board.timer freq } } := by
  rcases launch_cases a freq line with ⟨hout, _⟩ | ⟨_, _, _, h⟩ | ⟨_, _, h⟩
  · exact absurd hin hout
  · rw [h] at htakes
    have hwritten : (({ a.board with timer := refusingTimer a.board.timer freq } : Board).since
        a.board).written = [⟨freq, false⟩] := Board.since_of_suffix rfl
    have hrefused := htakes ⟨freq, false⟩ (by rw [hwritten]; exact List.mem_singleton_self _)
    exact absurd hrefused Bool.false_ne_true
  · exact h

end Axis

/-! ## Rising edges -/

/-- How many of so many half-steps are rising edges, if the first one starts at a level. -/
def risen (level : Bool) (n : Nat) : Nat := (n + if level then 0 else 1) / 2

theorem risen_zero (level : Bool) : risen level 0 = 0 := by
  cases level <;> rfl

/-- Two half-steps are one rising edge, whatever the level is at the start. -/
theorem risen_double (level : Bool) (n : Nat) : risen level (2 * n) = n := by
  unfold risen
  cases level
  · rw [if_neg Bool.false_ne_true]
    omega
  · rw [if_pos rfl]
    omega

/-- The level of the line after so many half-steps. -/
def levelAfter (level : Bool) (n : Nat) : Bool := if n % 2 = 0 then level else !level

theorem levelAfter_succ (level : Bool) (n : Nat) :
    levelAfter level (n + 1) = !levelAfter level n := by
  unfold levelAfter
  by_cases h : n % 2 = 0
  · have hodd : (n + 1) % 2 ≠ 0 := by omega
    rw [if_pos h, if_neg hodd]
  · have heven : (n + 1) % 2 = 0 := by omega
    rw [if_neg h, if_pos heven, Bool.not_not]

/-- The half-step from the low level is a rising edge, the one from the high level is not. -/
theorem risen_succ (level : Bool) (n : Nat) :
    risen level (n + 1) = risen level n + if levelAfter level n then 0 else 1 := by
  unfold risen levelAfter
  cases level <;> by_cases h : n % 2 = 0 <;> simp [h] <;> omega

namespace Position

theorem wrap_of_mem {x : Int} (hlow : lowest ≤ x) (hhigh : x ≤ highest) : wrap x = x := by
  unfold wrap
  unfold lowest at hlow
  unfold highest at hhigh
  exact Int.bmod_eq_of_le (by omega) (by omega)

/-- A count that has wrapped around goes on as if it had not. -/
theorem wrap_add_wrap (x y : Int) : wrap (wrap x + y) = wrap (x + y) :=
  Int.bmod_add_bmod

end Position

/-- One count in a direction. -/
def Direction.unit : Direction → Int
  | .clockwise => -1
  | .counterClockwise => 1

namespace Board

/-- A board that was on another board's way for so many half-steps, apart from the timer. -/
structure Strode (before b : Board) (d : Direction) (n : Nat) : Prop where
  dirLevel : b.dirLevel = d.level
  frozen : b.frozen = before.frozen
  toggles : b.toggles = before.toggles + n
  stepLevel : b.stepLevel = levelAfter before.stepLevel n
  /-- A shaft that is free has been moved by the rising edges. -/
  position : before.frozen = false → Position.wrap before.position = before.position →
    b.position = Position.wrap (before.position + d.unit * risen before.stepLevel n)

theorem strode_zero {b : Board} {d : Direction} (hlevel : b.dirLevel = d.level) :
    b.Strode b d 0 where
  dirLevel := hlevel
  frozen := rfl
  toggles := rfl
  stepLevel := rfl
  position _ hwrap := by rw [risen_zero, Int.natCast_zero, Int.mul_zero, Int.add_zero, hwrap]

theorem advanced_eq {b : Board} {d : Direction} (hlevel : b.dirLevel = d.level) :
    b.advanced = Position.wrap (b.position + d.unit) := by
  unfold advanced
  rw [hlevel]
  cases d <;> rfl

/-- **One more half-step,** with whatever has become of the timer. -/
theorem Strode.toggle {before b : Board} {d : Direction} {n : Nat} (h : before.Strode b d n)
    (timer : Timer) : before.Strode { b.toggleStep with timer := timer } d (n + 1) where
  dirLevel := h.dirLevel
  frozen := h.frozen
  toggles := by
    show b.toggles + 1 = before.toggles + (n + 1)
    rw [h.toggles, Nat.add_assoc]
  stepLevel := by
    show (!b.stepLevel) = levelAfter before.stepLevel (n + 1)
    rw [h.stepLevel, levelAfter_succ]
  position hfree hwrap := by
    show (if (!b.stepLevel) && !b.stepLevel && !b.frozen then b.advanced else b.position) = _
    rw [h.frozen, hfree, h.stepLevel, risen_succ]
    cases hlevel : levelAfter before.stepLevel n with
    | true =>
        simp only [Bool.not_true, Bool.false_and, Bool.false_eq_true, if_false, if_true]
        exact h.position hfree hwrap
    | false =>
        simp only [Bool.not_false, Bool.and_self, if_true, Bool.false_eq_true, if_false]
        rw [advanced_eq h.dirLevel, h.position hfree hwrap, Position.wrap_add_wrap]
        rw [Int.natCast_add, Int.mul_add, Int.natCast_one, Int.mul_one, Int.add_assoc]

end Board

/-! ## A timer match on the way -/

namespace Axis

/-- Whether a move has come to its end is asked when the encoder has been read. -/
theorem observe_arrives (a : Axis) : a.observe.alreadyThere = a.sense.arrived := by
  show a.sense.noteDirection.arrived = a.sense.arrived
  rw [noteDirection_eq]
  rfl

theorem observe_overshot (a : Axis) : a.observe.overshot = a.sense.overshot := by
  obtain ⟨_, _, _, h⟩ := observe_eq a
  rw [h]
  rfl

theorem pulses_le (a : Axis) : a.pulses ≤ a.halfPulses := by
  unfold pulses
  split
  · exact Nat.le_refl _
  · exact Nat.zero_le _

theorem pulses_observe (a : Axis) : a.observe.halfPulses = a.pulses := by
  show a.sense.noteDirection.halfPulses = a.pulses
  rw [noteDirection_eq]
  rfl

/-- The axis that is about to make a half-step is the one that was looked at, with another ramp if it
was time for one. -/
theorem stepping_frame {a b : Axis} {nowMs : Nat}
    (hb : (a.ramp.due nowMs = false ∧ b = a.observe) ∨ (a.ramp.due nowMs = true
      ∧ a.board.timer.accepts (a.observe.nextRamp nowMs).current = true
      ∧ b = a.observe.ramped nowMs)) :
    ∃ ramp timer, timer.running = a.board.timer.running
      ∧ b = { a.observe with ramp := ramp, board := { a.board with timer := timer } } := by
  rcases hb with ⟨_, rfl⟩ | ⟨_, _, rfl⟩
  · refine ⟨a.observe.ramp, a.board.timer, rfl, ?_⟩
    show a.observe = { a.observe with board := a.board }
    rw [← observe_board]
  · refine ⟨a.observe.nextRamp nowMs, writtenTimer a.board.timer (a.observe.nextRamp nowMs).current,
      writtenTimer_running .., ?_⟩
    rw [ramped, observe_board]

/-- A timer match has made a half-step of a move that goes on. -/
structure Strides (a b : Axis) (r : Except Fault (Option Notification)) : Prop where
  /-- It has made nothing else of the board than the half-step, the timer apart. -/
  board : ∃ timer, b.board = { a.board.toggleStep with timer := timer }
  runs : b.isRunning = a.isRunning
  config : b.config = a.config
  mode : b.mode = a.mode
  dir : b.dir = a.dir
  posCmd : b.posCmd = a.posCmd
  requested : b.halfStepsRequested = a.halfStepsRequested
  completed : b.halfStepsCompleted = Count.add a.halfStepsCompleted 1
  pulses : b.halfPulses ≤ a.halfPulses + 1
  /-- Progress is reported at most. -/
  report : ∃ note?, r = .ok note? ∧ ∀ note, note? = some note → note.kind = .progress

theorem Strides.advances {a b : Axis} {r : Except Fault (Option Notification)} (h : a.Strides b r)
    (hrun : a.isRunning = true) : ∃ note?, r = .ok note? ∧ a.Advances b note? := by
  obtain ⟨timer, hboard⟩ := h.board
  obtain ⟨note?, hr, hprogress⟩ := h.report
  refine ⟨note?, hr, ?_, ?_, h.runs.trans hrun, hprogress⟩
  · rw [hboard]
    rfl
  · rw [hboard]
    rfl

/-- **A move that is not at its end makes a half-step,** if the timer takes the frequency and the
half-steps since the last report can be counted. -/
theorem strides_of_served {a b : Axis} {nowMs : Nat} {r : Except Fault (Option Notification)}
    (hserved : a.Served nowMs b r) (hm : a.mode ≠ .stopped) (hthere : a.sense.arrived = false)
    (hover : a.sense.overshot = false) (hroom : a.halfPulses + 1 ≤ Count.limit)
    (htakes : ∀ w ∈ (b.board.since a.board).written, w.accepted = true) : a.Strides b r := by
  have hpulses := a.pulses_observe
  have hfewer := a.pulses_le
  cases hserved with
  | idle hstill => exact absurd hstill hm
  | arrived _ hend =>
      exact absurd (hend.symm.trans ((observe_arrives a).trans hthere)) (by simp)
  | overshot _ _ hback =>
      exact absurd (hback.symm.trans ((observe_overshot a).trans hover)) (by simp)
  | refused _ _ _ _ hacc =>
      have hnews : ((a.observe.ramped nowMs).halt.board.since a.board).written
          = [⟨(a.observe.nextRamp nowMs).current, false⟩] := by
        refine Board.since_of_suffix ?_
        show _ = (writtenTimer a.observe.board.timer _).writes
        rw [writtenTimer_writes, observe_board, hacc]
        rfl
      have hfalse := htakes ⟨_, false⟩ (by rw [hnews]; exact List.mem_singleton_self _)
      exact absurd hfalse Bool.false_ne_true
  | @stepped b n _ _ _ _ hb hcounts =>
      obtain ⟨ramp, timer, hrunning, rfl⟩ := stepping_frame hb
      obtain ⟨_, _, _, hobs⟩ := observe_eq a
      have hreport : ∃ note?, r = .ok note?
          ∧ ∀ note, note? = some note → note.kind = .progress := by
        cases hcounts with
        | goesOn _ => exact ⟨none, rfl, by simp⟩
        | reports => exact ⟨_, rfl, fun note h => Option.some.inj h ▸ rfl⟩
        | fails hfail => exact absurd hfail (by dsimp only; omega)
      have hseen : a.observe.halfPulses + 1 ≤ a.halfPulses + 1 := by omega
      have hcount : n ≤ a.halfPulses + 1 := by
        cases hcounts with
        | goesOn _ => exact hseen
        | reports => exact Nat.zero_le _
        | fails _ => exact Nat.le_of_succ_le hseen
      refine ⟨⟨timer, rfl⟩, hrunning, ?_, ?_, ?_, ?_, ?_, ?_, hcount, hreport⟩ <;> rw [hobs] <;> rfl

/-! ## A row of timer matches -/

/-- So many timer matches in a row, at any times. -/
def ticks (times : Nat → Nat) (n : Nat) : List Operation :=
  (List.range n).map fun i => .tick (times i)

variable {a b : Axis} {times : Nat → Nat} {n k : Nat}

theorem after_ticks_succ (a : Axis) (times : Nat → Nat) (n : Nat) :
    a.after (ticks times (n + 1)) = ((a.after (ticks times n)).tick (times n)).1 := by
  rw [ticks, List.range_succ, List.map_append, after_append]
  rfl

theorem takesAll_fewer (h : a.TakesAll (ticks times n)) (hk : k ≤ n) :
    a.TakesAll (ticks times k) := by
  obtain ⟨m, rfl⟩ := Nat.exists_eq_add_of_le hk
  rw [ticks, List.range_add, List.map_append] at h
  exact (takesAll_append.mp h).1

/-- The timer takes whatever one of the matches writes to it. -/
theorem takesAll_match (h : a.TakesAll (ticks times n)) (hk : k < n) :
    ∀ w ∈ ((a.after (ticks times (k + 1))).board.since (a.after (ticks times k)).board).written,
      w.accepted = true := by
  have hupto := takesAll_fewer h hk
  rw [ticks, List.range_succ, List.map_append] at hupto
  rw [after_ticks_succ]
  exact (takesAll_append.mp hupto).2

/-- An axis that has made so many half-steps in a row. -/
structure Strode (before a : Axis) (n : Nat) : Prop where
  board : before.board.Strode a.board before.dir n
  runs : a.isRunning = true
  config : a.config = before.config
  mode : a.mode = before.mode
  dir : a.dir = before.dir
  posCmd : a.posCmd = before.posCmd
  requested : a.halfStepsRequested = before.halfStepsRequested
  /-- The half-steps are counted as far as the counter goes. -/
  completed : before.halfStepsCompleted = 0 → a.halfStepsCompleted = min n Count.limit
  pulses : a.halfPulses ≤ before.halfPulses + n

theorem strode_none (hrun : a.isRunning = true) (hlevel : a.board.dirLevel = a.dir.level) :
    a.Strode a 0 :=
  ⟨Board.strode_zero hlevel, hrun, rfl, rfl, rfl, rfl, rfl, fun h => h, Nat.le_refl _⟩

theorem Strode.stride {before : Axis} {r : Except Fault (Option Notification)}
    (h : before.Strode a n) (hnext : a.Strides b r) : before.Strode b (n + 1) where
  board := by
    obtain ⟨timer, hboard⟩ := hnext.board
    rw [hboard]
    exact h.board.toggle timer
  runs := hnext.runs.trans h.runs
  config := hnext.config.trans h.config
  mode := hnext.mode.trans h.mode
  dir := hnext.dir.trans h.dir
  posCmd := hnext.posCmd.trans h.posCmd
  requested := hnext.requested.trans h.requested
  completed hzero := by
    rw [hnext.completed, h.completed hzero, Count.add]
    omega
  pulses := by
    have hbefore := h.pulses
    have hone := hnext.pulses
    omega

/-- What was done in the course of so many matches, one half-step each. -/
structure Paces (a : Axis) (times : Nat → Nat) (n : Nat) : Prop where
  strode : ∀ k ≤ n, a.Strode (a.after (ticks times k)) k
  strides : ∀ k < n, (a.after (ticks times k)).Strides (a.after (ticks times (k + 1)))
    ((a.after (ticks times k)).tick (times k)).2

/-- **A move makes one half-step a match as long as it is not at its end,** if the timer takes the
frequencies. -/
theorem paces_of_way (hm : a.mode ≠ .stopped) (hrun : a.isRunning = true)
    (hlevel : a.board.dirLevel = a.dir.level) (htakes : a.TakesAll (ticks times n))
    (hway : ∀ k < n, a.Strode (a.after (ticks times k)) k →
      (a.after (ticks times k)).sense.arrived = false
      ∧ (a.after (ticks times k)).sense.overshot = false
      ∧ (a.after (ticks times k)).halfPulses + 1 ≤ Count.limit) : a.Paces times n := by
  have hstep : ∀ k < n, a.Strode (a.after (ticks times k)) k →
      (a.after (ticks times k)).Strides (a.after (ticks times (k + 1)))
        ((a.after (ticks times k)).tick (times k)).2 := by
    intro k hk hstrode
    obtain ⟨hthere, hover, hroom⟩ := hway k hk hstrode
    have hnews := takesAll_match htakes hk
    rw [after_ticks_succ] at hnews ⊢
    exact strides_of_served (tick_served _ _) (hstrode.mode ▸ hm) hthere hover hroom hnews
  have hall : ∀ k ≤ n, a.Strode (a.after (ticks times k)) k := by
    intro k
    induction k with
    | zero => exact fun _ => strode_none hrun hlevel
    | succ k ih =>
        intro hk
        have hbefore := ih (Nat.le_of_succ_le hk)
        exact hbefore.stride (hstep k hk hbefore)
  exact ⟨hall, fun k hk => hstep k hk (hall k (Nat.le_of_lt hk))⟩

/-- Every one of the matches makes one half-step and reports progress at most. -/
theorem Paces.advances (h : a.Paces times n) (hk : k < n) :
    ∃ note?, ((a.after (ticks times k)).tick (times k)).2 = .ok note?
      ∧ (a.after (ticks times k)).Advances (a.after (ticks times (k + 1))) note? :=
  (h.strides k hk).advances (h.strode k (Nat.le_of_lt hk)).runs

/-- A timer match has found the move at its end. -/
structure Completes (a b : Axis) (r : Except Fault (Option Notification)) : Prop where
  ends : ∃ note, r = .ok (some note) ∧ note.kind = .completed ∧ a.Ends b (some note)
  mode : b.mode = .stopped
  there : b.alreadyThere = true
  completed : b.halfStepsCompleted = a.halfStepsCompleted
  position : b.board.position = a.board.position

theorem completes_of_arrived (hm : a.mode ≠ .stopped) (hthere : a.sense.arrived = true)
    (nowMs : Nat) : a.Completes (a.tick nowMs).1 (a.tick nowMs).2 := by
  obtain ⟨_, _, _, hobs⟩ := observe_eq a
  have hmove : a.mode.isMoving = true := by simp [Mode.isMoving, hm]
  have hend : a.observe.alreadyThere = true := (observe_arrives a).trans hthere
  rw [tick, if_pos hmove]
  simp only [hend, if_true]
  have hends : a.Ends a.observe.halt (some (a.observe.report .completed)) := by
    refine ⟨?_, ?_, rfl, _, rfl, rfl⟩ <;> rw [hobs] <;> rfl
  refine ⟨⟨_, rfl, rfl, hends⟩, rfl, hend, ?_, ?_⟩ <;> rw [hobs] <;> rfl

end Axis

end StepperMotion
