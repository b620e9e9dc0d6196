import StepperMotion.Proofs.Limits
import StepperMotion.Proofs.Stride

/-!
# Closed-loop moves converge

A closed-loop move looks at the encoder at every timer match: it has arrived when the setpoint is
less than the threshold away, and it has to turn back when the setpoint lies behind it. With every
rising edge of the step line it comes one count nearer, so that it arrives exactly one count inside
of the threshold and never has to turn back (`closedLoop_converges`).

The setpoint may be as far away as two positions can be, which is more than a position. The error is
cut off then, but neither its sign nor the question whether it is below the threshold depends on
that (`ofError_sub`, `abs_sub_lt`).
-/

namespace StepperMotion

open Axis (Operation)

/-! ## Errors that are cut off -/

namespace Position

/-- Cutting off an error leaves its sign alone. -/
theorem ofError_sub (goal x : Int) :
    Direction.ofError (sub goal x) = if goal < x then .clockwise else .counterClockwise := by
  have hsign : sub goal x < 0 ↔ goal < x := by
    unfold sub clamp lowest highest
    omega
  unfold Direction.ofError
  simp only [hsign]

/-- Cutting off an error makes no difference for a threshold that is a position. -/
theorem abs_sub_lt {goal x threshold : Int} (hfits : threshold ≤ highest) :
    abs (sub goal x) < threshold ↔ ((goal - x).natAbs : Int) < threshold := by
  unfold abs sub clamp lowest
  unfold highest at hfits ⊢
  omega

/-- From one position to the next one the way leads towards a goal, and not beyond it. -/
def Nears (goal x y : Int) : Prop := (x ≤ y ∧ y ≤ goal) ∨ (goal ≤ y ∧ y ≤ x)

/-- A position on the way to a goal, so many counts from the start. -/
theorem onWay {goal x : Int} {n : Nat} (hx : lowest ≤ x ∧ x ≤ highest)
    (hgoal : lowest ≤ goal ∧ goal ≤ highest) (hn : n ≤ (goal - x).natAbs) :
    wrap (x + (Direction.ofError (sub goal x)).unit * n)
        = x + (Direction.ofError (sub goal x)).unit * n
      ∧ (goal - (x + (Direction.ofError (sub goal x)).unit * n)).natAbs = (goal - x).natAbs - n
      ∧ (n < (goal - x).natAbs →
        Direction.ofError (sub goal (x + (Direction.ofError (sub goal x)).unit * n))
          = Direction.ofError (sub goal x)) := by
  simp only [ofError_sub]
  by_cases hdown : goal < x
  · simp only [if_pos hdown, Direction.unit]
    refine ⟨wrap_of_mem (by omega) (by omega), by omega, fun hleft => if_pos (by omega)⟩
  · simp only [if_neg hdown, Direction.unit]
    refine ⟨wrap_of_mem (by omega) (by omega), by omega, fun hleft => if_neg (by omega)⟩

/-- One count further on the way, or none. -/
theorem nears_onWay {goal x : Int} {n m : Nat} (hnm : n ≤ m) (hm : m ≤ (goal - x).natAbs) :
    Nears goal (x + (Direction.ofError (sub goal x)).unit * n)
      (x + (Direction.ofError (sub goal x)).unit * m) := by
  rw [ofError_sub]
  unfold Nears
  by_cases hdown : goal < x
  · simp only [if_pos hdown, Direction.unit]
    omega
  · simp only [if_neg hdown, Direction.unit]
    omega

end Position

namespace Axis

/-! ## The start of a closed-loop move -/

/-- The operations by which an axis is sent to a setpoint: it is commanded to go there, or a move to
this setpoint goes on that was interrupted. -/
inductive Seeks (a : Axis) (setpoint : Int) : Operation → Prop where
  | apply {nowMs : Nat} : Seeks a setpoint (.apply (.closedLoop setpoint) nowMs)
  | resume {epoch : UInt32} {nowMs : Nat} (hawait : a.awaitsResume epoch = true)
      (hcmd : a.posCmd = setpoint) : Seeks a setpoint (.resume epoch nowMs)

/-- The frequency with which a move was started, if one was. -/
def Reply.started? : Reply → Option Nat
  | .outcome (.ok (.started freq)) => some freq
  | .resumed (some (.ok (.started freq))) => some freq
  | _ => none

theorem started_outcome {r : Except Failure Outcome} {freq : Nat} :
    (Reply.outcome r).started? = some freq ↔ r = .ok (.started freq) := by
  unfold Reply.started?
  split <;> simp_all

variable {a b : Axis} {setpoint : Int} {o : Operation}

/-- However an axis is sent to a setpoint, the command is carried out. -/
theorem seeks_carried (h : a.Seeks setpoint o) :
    ∃ nowMs r, a.Carried nowMs (.closedLoop setpoint) (a.perform o).1 r
      ∧ (a.perform o).2.started? = (Reply.outcome r).started? := by
  cases h with
  | @apply nowMs =>
      rcases apply_cases a (.closedLoop setpoint) nowMs with ⟨e, hrefused, _⟩ | ⟨_, hcarried⟩
      · exact absurd hrefused (by simp [validate, checkSpeed, checkSteps, Command.speedLevel?, bind,
          Except.bind])
      · exact ⟨nowMs, _, hcarried, rfl⟩
  | @resume epoch nowMs hawait hcmd =>
      subst hcmd
      rcases resume_cases a epoch nowMs with ⟨hnot, _⟩ | ⟨_, r, hanswer, hcarried⟩
      · exact absurd (hawait.symm.trans hnot) (by simp)
      · refine ⟨nowMs, r, hcarried, ?_⟩
        simp only [perform, hanswer]
        rcases r with _ | _ | _ <;> rfl

/-- What a closed-loop move that has been started begins with. -/
structure SeekBegun (a b : Axis) (setpoint : Int) : Prop where
  runs : b.isRunning = true
  mode : b.mode = .closedLoop
  posCmd : b.posCmd = setpoint
  config : b.config = a.config
  pulses : b.halfPulses = 0
  /-- It faces the setpoint. -/
  dir : b.dir = .ofError (Position.sub setpoint a.board.position)
  /-- The board is as it was, but for the direction line and the timer. -/
  board : ∃ timer, b.board = { a.board with
    dirLevel := b.dir.level
    timer := timer }

/-- **A closed-loop move is started unless the axis is at its setpoint,** if the controller does not
fail and the timer takes the first frequency. -/
theorem seek_begun (hconfig : a.config.validate = .ok ()) (hfar : a.isAt setpoint = false)
    (hfault : a.fault? (.closedLoop setpoint) = none) (ho : a.Seeks setpoint o)
    (htakes : a.TakesAll [o]) :
    (∃ freq, (a.perform o).2.started? = some freq) ∧ a.SeekBegun (a.perform o).1 setpoint := by
  have hsound := MotionConfig.sound_of_validate hconfig
  obtain ⟨nowMs, r, hcarried, hstarted⟩ := seeks_carried ho
  have hnews : ∀ w ∈ ((a.perform o).1.board.since a.board).written, w.accepted = true := htakes
  generalize (a.perform o).1 = b at hcarried hnews ⊢
  cases hcarried with
  | @launched _ line hp _ =>
      cases hp with
      | closedLoop _ =>
          have hramp := firstFreq_within a setpoint nowMs (Ramp.trapezoid_within hsound.closedLow
            hsound.closedHigh a.config.closedLoopDivisor a.config.slopeRatio
            a.config.closedLoopPeriodMs nowMs)
          have hin : (a.setUp (a.closedLoopPlan setpoint nowMs)).nextEpoch.InLimits
              (a.closedLoopPlan setpoint nowMs).ramp.current := hramp.current
          obtain ⟨hanswer, haxis⟩ := launch_taken hin hnews
          rw [haxis]
          exact ⟨⟨_, hstarted.trans (started_outcome.mpr hanswer)⟩,
            rfl, rfl, rfl, rfl, rfl, rfl, _, rfl⟩
  | failed _ _ hf => exact absurd (hfault.symm.trans hf) (by simp)
  | arrived hc hthere =>
      obtain rfl := Command.closedLoop.inj hc
      exact absurd (hthere.symm.trans hfar) (by simp)
  | stopped hc => exact absurd hc (by simp)

/-! ## The way to the setpoint -/

/-- How many half-steps an axis makes until the setpoint is one count less than the threshold away.
The last one is a rising edge. -/
def halfStepsTo (a : Axis) (setpoint : Int) : Nat :=
  2 * ((setpoint - a.board.position).natAbs + 1 - a.config.posThreshold.toNat)
    - if a.board.stepLevel then 0 else 1

/-- So many half-steps contain as many rising edges as the axis has to come nearer. -/
theorem risen_halfStepsTo (a : Axis) (setpoint : Int) :
    risen a.board.stepLevel (a.halfStepsTo setpoint)
      = (setpoint - a.board.position).natAbs + 1 - a.config.posThreshold.toNat := by
  unfold halfStepsTo risen
  split <;> omega

/-- Fewer half-steps contain fewer rising edges. -/
theorem risen_lt_halfStepsTo {k : Nat} (hk : k < a.halfStepsTo setpoint) :
    risen a.board.stepLevel k + 1
      ≤ (setpoint - a.board.position).natAbs + 1 - a.config.posThreshold.toNat := by
  unfold halfStepsTo at hk
  unfold risen
  split at hk
  · rename_i hlevel
    simp only [hlevel, if_true]
    omega
  · rename_i hlevel
    simp only [hlevel, Bool.false_eq_true, if_false]
    omega

theorem risen_mono (level : Bool) {n m : Nat} (h : n ≤ m) : risen level n ≤ risen level m :=
  Nat.div_le_div_right (Nat.add_le_add_right h _)

/-- What an axis and a setpoint have to be like for a move to converge: the figures are of the types
of their fields, the shaft is free, and the setpoint is not within the threshold. -/
structure Reachable (a : Axis) (setpoint : Int) : Prop where
  threshold : 1 ≤ a.config.posThreshold ∧ a.config.posThreshold ≤ Position.highest
  interval : a.config.reportInterval ≤ Count.limit
  start : Position.lowest ≤ a.board.position ∧ a.board.position ≤ Position.highest
  goal : Position.lowest ≤ setpoint ∧ setpoint ≤ Position.highest
  far : a.config.posThreshold ≤ (setpoint - a.board.position).natAbs
  free : a.board.frozen = false

theorem Reachable.isAt (h : a.Reachable setpoint) : a.isAt setpoint = false := by
  obtain ⟨_, hfits⟩ := h.threshold
  have hfar := h.far
  refine decide_eq_false fun hnear => ?_
  rw [Position.abs_sub_lt hfits] at hnear
  omega

/-- Where a move to a setpoint is after so many half-steps, and what the next timer match makes of
that. -/
structure Approaches (a c : Axis) (setpoint : Int) (n : Nat) : Prop where
  position : c.board.position = a.board.position
    + (Direction.ofError (Position.sub setpoint a.board.position)).unit * risen a.board.stepLevel n
  distance : (setpoint - c.board.position).natAbs
    = (setpoint - a.board.position).natAbs - risen a.board.stepLevel n
  arrived : c.sense.arrived
    = decide (((setpoint - c.board.position).natAbs : Int) < a.config.posThreshold)
  overshot : risen a.board.stepLevel n < (setpoint - a.board.position).natAbs →
    c.sense.overshot = false

theorem approaches_of_strode {c : Axis} {n : Nat} (h : a.Reachable setpoint)
    (hbegun : a.SeekBegun b setpoint) (hstrode : b.Strode c n)
    (hn : risen a.board.stepLevel n ≤ (setpoint - a.board.position).natAbs) :
    a.Approaches c setpoint n := by
  obtain ⟨_, hfits⟩ := h.threshold
  obtain ⟨hwrap, hdistance, hsign⟩ := Position.onWay h.start h.goal hn
  have hplace : c.board.position = a.board.position
      + (Direction.ofError (Position.sub setpoint a.board.position)).unit
        * risen a.board.stepLevel n := by
    obtain ⟨timer, hboard⟩ := hbegun.board
    have hshaft := hstrode.board.position
    rw [hboard, hbegun.dir] at hshaft
    exact (hshaft h.free (Position.wrap_of_mem h.start.1 h.start.2)).trans hwrap
  have hmode : c.mode = .closedLoop := hstrode.mode.trans hbegun.mode
  have hcmd : c.posCmd = setpoint := hstrode.posCmd.trans hbegun.posCmd
  have hconfig : c.config = a.config := hstrode.config.trans hbegun.config
  refine ⟨hplace, by rw [hplace, hdistance], ?_, fun hleft => ?_⟩
  · unfold Axis.arrived withinThreshold positionError
    simp only [sense, hmode, hcmd, hconfig, Position.abs_sub_lt hfits]
  · have hdir : c.dir = Direction.ofError (Position.sub setpoint c.board.position) := by
      rw [hstrode.dir, hbegun.dir, hplace, hsign hleft]
    unfold Axis.overshot positionError
    simp only [sense, hcmd, hdir, bne_self_eq_false, Bool.and_false]

/-- **A move that has been started goes all the way,** one half-step a match, and ends. -/
theorem seek_paced (h : a.Reachable setpoint) (hbegun : a.SeekBegun b setpoint)
    {times : Nat → Nat} (htakes : b.TakesAll (ticks times (a.halfStepsTo setpoint))) :
    b.Paces times (a.halfStepsTo setpoint)
      ∧ (b.after (ticks times (a.halfStepsTo setpoint))).Completes
        (b.after (ticks times (a.halfStepsTo setpoint + 1)))
        ((b.after (ticks times (a.halfStepsTo setpoint))).tick
          (times (a.halfStepsTo setpoint))).2 := by
  obtain ⟨hpositive, _⟩ := h.threshold
  have hfar := h.far
  have hmoving : b.mode ≠ .stopped := by simp [hbegun.mode]
  have hlevel : b.board.dirLevel = b.dir.level := by
    obtain ⟨timer, hboard⟩ := hbegun.board
    rw [hboard]
  have hend := a.risen_halfStepsTo setpoint
  have hpaces : b.Paces times (a.halfStepsTo setpoint) := by
    refine paces_of_way hmoving hbegun.runs hlevel htakes fun k hk hstrode => ?_
    have hrisen := risen_lt_halfStepsTo hk
    have hway := approaches_of_strode h hbegun hstrode (by omega)
    have hdistance := hway.distance
    refine ⟨?_, hway.overshot (by omega), ?_⟩
    · rw [hway.arrived]
      exact decide_eq_false (by omega)
    · -- a report is due long before the counter is at its limit
      have hpaced : (b.after (ticks times k)).Paced :=
        after_induction (P := Paced) (fun c o hc => hc.effect (effect_perform c o))
          (paced_of_none hbegun.pulses) _
      have hinterval := h.interval
      unfold Paced at hpaced
      rw [hstrode.config, hbegun.config] at hpaced
      unfold Count.limit at hinterval ⊢
      omega
  have hlast := hpaces.strode _ (Nat.le_refl _)
  have hway := approaches_of_strode h hbegun hlast (by omega)
  have hdistance := hway.distance
  refine ⟨hpaces, ?_⟩
  rw [after_ticks_succ]
  refine completes_of_arrived (hlast.mode ▸ hmoving) ?_ _
  rw [hway.arrived]
  exact decide_eq_true (by omega)

/-- **Closed-loop moves converge, and do not turn back.** The move is started. Each of the timer
matches makes one half-step and reports progress at most, and leads from one position towards the
setpoint to the next one; then comes one that makes none and ends the move, one count inside of the
threshold. -/
theorem closedLoop_converges (hconfig : a.config.validate = .ok ()) (h : a.Reachable setpoint)
    (hfault : a.fault? (.closedLoop setpoint) = none) (ho : a.Seeks setpoint o)
    (times : Nat → Nat) (htakes : a.TakesAll (o :: ticks times (a.halfStepsTo setpoint))) :
    ∃ b n freq, (a.perform o).1 = b ∧ a.halfStepsTo setpoint = n
      ∧ (a.perform o).2.started? = some freq
      ∧ (n : Int) ≤ 2 * ((setpoint - a.board.position).natAbs - a.config.posThreshold + 1)
      ∧ b.board.position = a.board.position
      ∧ (∀ k < n, (∃ note?, ((b.after (ticks times k)).tick (times k)).2 = .ok note?
          ∧ (b.after (ticks times k)).Advances (b.after (ticks times (k + 1))) note?)
        ∧ Position.Nears setpoint (b.after (ticks times k)).board.position
          (b.after (ticks times (k + 1))).board.position)
      ∧ (b.after (ticks times n)).Completes (b.after (ticks times (n + 1)))
        ((b.after (ticks times n)).tick (times n)).2
      ∧ ((setpoint - (b.after (ticks times (n + 1))).board.position).natAbs : Int)
        = a.config.posThreshold - 1 := by
  obtain ⟨hpositive, _⟩ := h.threshold
  have hfar := h.far
  obtain ⟨hfirst, hrest⟩ := takesAll_cons.mp htakes
  obtain ⟨⟨freq, hstarted⟩, hbegun⟩ := seek_begun hconfig h.isAt hfault ho hfirst
  obtain ⟨hpaces, hcompletes⟩ := seek_paced h hbegun hrest
  have hend := a.risen_halfStepsTo setpoint
  have hway : ∀ k ≤ a.halfStepsTo setpoint,
      a.Approaches ((a.perform o).1.after (ticks times k)) setpoint k := by
    intro k hk
    have hrisen := risen_mono a.board.stepLevel hk
    exact approaches_of_strode h hbegun (hpaces.strode k hk) (by omega)
  refine ⟨_, _, freq, rfl, rfl, hstarted, ?_, ?_, fun k hk => ⟨hpaces.advances hk, ?_⟩,
    hcompletes, ?_⟩
  · unfold halfStepsTo
    omega
  · obtain ⟨timer, hboard⟩ := hbegun.board
    rw [hboard]
  · have hrisen := risen_mono a.board.stepLevel (show k + 1 ≤ a.halfStepsTo setpoint from hk)
    rw [(hway k (Nat.le_of_lt hk)).position, (hway (k + 1) hk).position]
    exact Position.nears_onWay (risen_mono _ (Nat.le_succ k)) (by omega)
  · have hdistance := (hway _ (Nat.le_refl _)).distance
    rw [hcompletes.position]
    omega

/-- An axis at the lowest position, with an interrupted move to a setpoint that is farther away than
any position is from zero. -/
def interrupted : Axis :=
  { create 0 ⟨"x", 0, some {}⟩ { position := Position.lowest }
      { posThreshold := Position.highest } with
    mode := .closedLoop, posCmd := 2 }

theorem closedLoop_converges_of_interrupted :
    interrupted.config.validate = .ok () ∧ interrupted.Reachable 2
      ∧ interrupted.fault? (.closedLoop 2) = none ∧ interrupted.Seeks 2 (.resume 0 40)
      ∧ interrupted.TakesAll (.resume 0 40 :: ticks (30 * ·) (interrupted.halfStepsTo 2))
      ∧ ∃ n, interrupted.halfStepsTo 2 = n ∧ n = 7
        ∧ (((2 : Int) - ((interrupted.perform (.resume 0 40)).1.after
          (ticks (30 * ·) (n + 1))).board.position).natAbs : Int) = Position.highest - 1 := by
  have hconfig : interrupted.config.validate = .ok () := by decide
  have hreach : interrupted.Reachable 2 := by constructor <;> decide
  have hfault : interrupted.fault? (.closedLoop 2) = none := by decide +kernel
  have hseeks : interrupted.Seeks 2 (.resume 0 40) := .resume (by decide) rfl
  have htakes : interrupted.TakesAll
      (.resume 0 40 :: ticks (30 * ·) (interrupted.halfStepsTo 2)) := by
    decide +kernel
  obtain ⟨_, n, _, rfl, hn, _, _, _, _, _, hclose⟩ :=
    closedLoop_converges hconfig hreach hfault hseeks (30 * ·) htakes
  exact ⟨hconfig, hreach, hfault, hseeks, htakes, n, hn, hn.symm.trans (by decide), hclose⟩

end Axis

end StepperMotion
