import StepperMotion.Proofs.Operation
import StepperMotion.Proofs.RampBounds
import StepperMotion.Proofs.Tuning

/-!
# How a move is set up

The three kinds of moves write the same fields of an axis, each with its own values. `Plan` is the
list of these values and `setUp` writes them, so that every command that starts a move is
`setUp`, `nextEpoch` and `launch`, in this order. The epoch comes before the timer: whoever sees the
timer run sees the new epoch.

`launch_cases` says everything that can come of the last step. The statements about whole runs only
use these two facts and never look into the moves again.
-/

namespace StepperMotion

namespace Axis

/-- What a move fixes when it is set up. -/
structure Plan where
  mode : Mode
  dir : Direction
  posCmd : Int
  posMiddle : Int
  posStart : Int
  ramp : Ramp
  halfSteps : Nat
  toMiddle : Nat
  controller : Option Proportional

/-- The axis set up for a move, in the old epoch and with the timer as it was. -/
def setUp (a : Axis) (p : Plan) : Axis :=
  { a with
    board := a.board.setDir p.dir.level
    mode := p.mode
    dir := p.dir
    posCmd := p.posCmd
    posAct := a.board.position
    posMiddle := p.posMiddle
    posStart := p.posStart
    ramp := p.ramp
    halfStepsRequested := p.halfSteps
    halfStepsCompleted := 0
    halfStepsToMiddle := p.toMiddle
    halfPulses := 0
    lastPos := a.board.position
    controller := p.controller }

def freeRunPlan (a : Axis) (d : Direction) (freq nowMs : Nat) : Plan :=
  ⟨.freeRunning, d, a.posCmd, a.posMiddle, a.posStart, .flat freq nowMs, 0, 0, a.controller⟩

def stepsPlan (a : Axis) (d : Direction) (freq halfSteps periodMs divisor nowMs : Nat) : Plan :=
  ⟨.steps, d, a.posCmd, a.posMiddle, a.posStart,
    .trapezoid freq divisor a.config.slopeRatio periodMs a.config.minFreq nowMs,
    halfSteps, halfSteps / 2, a.controller⟩

/-- The ramp of a closed-loop move before a controller has a say in it. -/
def closedLoopRamp (c : MotionConfig) (nowMs : Nat) : Ramp :=
  .trapezoid c.closedLoopMaxFreq c.closedLoopDivisor c.slopeRatio c.closedLoopPeriodMs c.minFreq
    nowMs

/-- The controller after its first sample on the way to a setpoint, and the frequency that it asks
for. Without a controller none is asked for. -/
def chosen (a : Axis) (setpoint : Int) : Option Proportional × Except Fault (Option Nat) :=
  match a.controller with
  | none => (none, .ok none)
  | some k =>
    (some (k.sample setpoint a.board.position).1,
      (k.sample setpoint a.board.position).2.map fun output =>
        some (Count.mul output.natAbs a.config.closedLoopFreqMultiplier))

/-- The frequency that a closed-loop move starts with: the one of its ramp that is nearest to what
the controller asks for. -/
def firstFreq (a : Axis) (setpoint : Int) : Nat :=
  let r := closedLoopRamp a.config 0
  match (a.chosen setpoint).2 with
  | .ok (some freq) => max r.decrement (min freq r.requested)
  | _ => r.current

def closedLoopPlan (a : Axis) (setpoint : Int) (nowMs : Nat) : Plan :=
  ⟨.closedLoop, .ofError (Position.sub setpoint a.board.position), setpoint,
    (a.board.position + setpoint).tdiv 2, a.board.position,
    { closedLoopRamp a.config nowMs with current := a.firstFreq setpoint }, 0, 0,
    (a.chosen setpoint).1⟩

/-- The fault of the controller by which a command fails that starts a move. -/
def fault? (a : Axis) : Command → Option Fault
  | .closedLoop setpoint =>
    match (a.chosen setpoint).2 with
    | .ok _ => none
    | .error f => some f
  | _ => none

/-! ## The timer -/

/-- The timer after it has been stopped, set to a frequency that it takes, and started. -/
def armedTimer (t : Timer) (freq : Nat) : Timer :=
  { t with running := true, freq := freq, starts := t.starts + 1, stops := t.stops + 1,
           writes := ⟨freq, true⟩ :: t.writes }

/-- The timer after it has been stopped and has refused a frequency. -/
def refusingTimer (t : Timer) (freq : Nat) : Timer :=
  { t with running := false, stops := t.stops + 1, writes := ⟨freq, false⟩ :: t.writes }

/-- A frequency the axis may be armed with. -/
def InLimits (a : Axis) (freq : Nat) : Prop :=
  a.config.minFreq ≤ freq ∧ freq ≤ a.freqLimit

def limitRefusal (a : Axis) (freq : Nat) : MotionError :=
  .invariant a.name s!"frequency {freq} Hz outside [{a.config.minFreq}, {a.freqLimit}]"

def timerRefusal (a : Axis) (freq : Nat) : MotionError :=
  .invariant a.name (TimerError.frequencyOutOfRange freq).message

theorem stopTimer_setFrequency_accepted {a : Axis} {freq : Nat}
    (h : a.board.timer.accepts freq = true) :
    a.stopTimer.setFrequency freq = ({ a with board := { a.board with timer :=
      { a.board.timer.stop with freq := freq, writes := ⟨freq, true⟩ :: a.board.timer.writes } } },
      .ok ()) := by
  have ht : a.board.timer.stop.setFrequency freq
      = ({ a.board.timer.stop with freq := freq, writes := ⟨freq, true⟩ :: a.board.timer.writes },
        .ok ()) := if_pos h
  simp only [setFrequency, stopTimer, Board.setFrequency, Board.stopTimer, ht]

theorem stopTimer_setFrequency_refused {a : Axis} {freq : Nat}
    (h : a.board.timer.accepts freq = false) :
    a.stopTimer.setFrequency freq
      = ({ a with board := { a.board with timer := refusingTimer a.board.timer freq } },
        .error (.frequencyOutOfRange freq)) := by
  have ht : a.board.timer.stop.setFrequency freq
      = (refusingTimer a.board.timer freq, .error (.frequencyOutOfRange freq)) :=
    if_neg (ne_true_of_eq_false h)
  simp only [setFrequency, stopTimer, Board.setFrequency, Board.stopTimer, ht]

theorem inLimits_iff {a : Axis} {freq : Nat} : a.InLimits freq ↔
    ¬ (freq < a.stopTimer.config.minFreq ∨ a.stopTimer.freqLimit < freq) := by
  rw [not_or, Nat.not_lt, Nat.not_lt]
  exact Iff.rfl

theorem launch_outside {a : Axis} {freq : Nat} (h : ¬ a.InLimits freq) (line : String) :
    (a.launch freq line).answer = .error (.refused (a.limitRefusal freq))
      ∧ (a.launch freq line).axis = a.halt := by
  rw [launch, arm, if_pos (Decidable.not_not.mp (mt inLimits_iff.mpr h))]
  exact ⟨rfl, rfl⟩

theorem launch_refused {a : Axis} {freq : Nat} (h : a.InLimits freq)
    (hacc : a.board.timer.accepts freq = false) (line : String) :
    (a.launch freq line).answer = .error (.refused (a.timerRefusal freq))
      ∧ (a.launch freq line).axis = { a with
          mode := .stopped
          board := { a.board with timer := refusingTimer a.board.timer freq } } := by
  rw [launch, arm, if_neg (inLimits_iff.mp h), stopTimer_setFrequency_refused hacc]
  exact ⟨rfl, rfl⟩

theorem launch_armed {a : Axis} {freq : Nat} (h : a.InLimits freq)
    (hacc : a.board.timer.accepts freq = true) (line : String) :
    (a.launch freq line).answer = .ok (.started freq)
      ∧ (a.launch freq line).axis
        = { a with board := { a.board with timer := armedTimer a.board.timer freq } } := by
  rw [launch, arm, if_neg (inLimits_iff.mp h), stopTimer_setFrequency_accepted hacc]
  exact ⟨rfl, rfl⟩

/-- **Everything that arming the timer for a move can come to.** -/
theorem launch_cases (a : Axis) (freq : Nat) (line : String) :
    (¬ a.InLimits freq
        ∧ (a.launch freq line).answer = .error (.refused (a.limitRefusal freq))
        ∧ (a.launch freq line).axis = a.halt)
    ∨ (a.InLimits freq ∧ a.board.timer.accepts freq = false
        ∧ (a.launch freq line).answer = .error (.refused (a.timerRefusal freq))
        ∧ (a.launch freq line).axis = { a with
            mode := .stopped
            board := { a.board with timer := refusingTimer a.board.timer freq } })
    ∨ (a.InLimits freq ∧ a.board.timer.accepts freq = true
        ∧ (a.launch freq line).answer = .ok (.started freq)
        ∧ (a.launch freq line).axis = { a with
            board := { a.board with timer := armedTimer a.board.timer freq } }) := by
  -- the limits are tested first, and then the timer may refuse on its own account
  by_cases hin : a.InLimits freq
  · cases hacc : a.board.timer.accepts freq with
    | false => exact Or.inr (Or.inl ⟨hin, rfl, launch_refused hin hacc line⟩)
    | true => exact Or.inr (Or.inr ⟨hin, rfl, launch_armed hin hacc line⟩)
  · exact Or.inl ⟨hin, launch_outside hin line⟩

/-- Arming the timer changes the timer, and the mode if it fails. -/
theorem launch_frame (a : Axis) (freq : Nat) (line : String) :
    ∃ mode timer, (a.launch freq line).axis
      = { a with mode := mode, board := { a.board with timer := timer } } := by
  rcases launch_cases a freq line with ⟨_, _, h⟩ | ⟨_, _, _, h⟩ | ⟨_, _, _, h⟩
  · exact ⟨.stopped, a.board.timer.stop, h⟩
  · exact ⟨.stopped, refusingTimer a.board.timer freq, h⟩
  · exact ⟨a.mode, armedTimer a.board.timer freq, h⟩

/-! ## The three kinds of moves -/

theorem startFreeRun_eq (a : Axis) (d : Direction) (freq nowMs : Nat) :
    ∃ line, a.startFreeRun d freq nowMs
      = (a.setUp (a.freeRunPlan d freq nowMs)).nextEpoch.launch freq line := ⟨_, rfl⟩

theorem startSteps_eq (a : Axis) (d : Direction) (freq count periodMs divisor nowMs : Nat)
    {halfSteps : Nat} (h : Count.checkedMul count 2 = .ok halfSteps) :
    ∃ line, a.startSteps d freq count periodMs divisor nowMs
      = (a.setUp (a.stepsPlan d freq halfSteps periodMs divisor nowMs)).nextEpoch.launch
          (a.stepsPlan d freq halfSteps periodMs divisor nowMs).ramp.current line := by
  rw [startSteps, h]
  exact ⟨_, rfl⟩

/-- The axis set up for a closed-loop move, before the controller has a say in it. -/
def unseeded (a : Axis) (nowMs : Nat) : Axis :=
  a.setUp { a.closedLoopPlan a.posCmd nowMs with
    ramp := closedLoopRamp a.config nowMs, controller := a.controller }

/-- The answer of a computation that only fails or does not. -/
def unlessFault : Option Fault → Except Fault Unit
  | none => .ok ()
  | some f => .error f

/-- The controller chooses the first frequency, and nothing else changes when it does. -/
theorem seedRamp_eq (a : Axis) (nowMs : Nat) :
    (a.unseeded nowMs).seedRamp = (a.setUp (a.closedLoopPlan a.posCmd nowMs),
      unlessFault (a.fault? (.closedLoop a.posCmd))) := by
  have hcontroller : (a.unseeded nowMs).controller = a.controller := rfl
  -- the ramp of a move can be seeded with any frequency
  have hordered : (a.unseeded nowMs).ramp.decrement ≤ (a.unseeded nowMs).ramp.requested :=
    Nat.min_le_right ..
  unfold seedRamp
  rw [hcontroller]
  cases hk : a.controller with
  | none =>
      simp only [unseeded, closedLoopPlan, firstFreq, fault?, chosen, hk]
      rfl
  | some k =>
      have hsample : (k.restart (a.unseeded nowMs).posAct).run (a.unseeded nowMs).posCmd
          (a.unseeded nowMs).posAct = k.sample a.posCmd a.board.position := rfl
      simp only [hsample]
      rcases hs : k.sample a.posCmd a.board.position with ⟨k', f | output⟩
      · simp only [closedLoopPlan, firstFreq, fault?, chosen, hk, hs, Except.map]
        rfl
      · dsimp only
        rw [Ramp.seed_eq, if_pos hordered]
        simp only [closedLoopPlan, firstFreq, fault?, chosen, hk, hs, Except.map]
        rfl

/-- **A closed-loop move of an axis that has just been looked at is launched in a new epoch,** unless
the controller fails. -/
theorem startClosedLoop_sound {a : Axis} (h : a.fault? (.closedLoop a.posCmd) = none)
    (nowMs : Nat) : ∃ line, a.sense.startClosedLoop nowMs
      = (a.setUp (a.closedLoopPlan a.posCmd nowMs)).nextEpoch.launch (a.firstFreq a.posCmd) line := by
  have hseed := seedRamp_eq a nowMs
  rw [h] at hseed
  unfold startClosedLoop
  dsimp only
  generalize hb : seedRamp _ = b
  obtain rfl := hb.symm.trans hseed
  exact ⟨_, rfl⟩

/-- A controller fails when the move has been set up. -/
theorem startClosedLoop_fault {a : Axis} {f : Fault}
    (h : a.fault? (.closedLoop a.posCmd) = some f) (nowMs : Nat) : a.sense.startClosedLoop nowMs
      = ⟨a.setUp (a.closedLoopPlan a.posCmd nowMs), [], .error (.fault f)⟩ := by
  have hseed := seedRamp_eq a nowMs
  rw [h] at hseed
  unfold startClosedLoop
  dsimp only
  generalize hb : seedRamp _ = b
  obtain rfl := hb.symm.trans hseed
  rfl

/-- The first frequency of a closed-loop move is within the limits of its ramp. -/
theorem firstFreq_within (a : Axis) (setpoint : Int) (nowMs : Nat) {lo hi : Nat}
    (h : (closedLoopRamp a.config nowMs).Within lo hi) :
    (a.closedLoopPlan setpoint nowMs).ramp.Within lo hi := by
  obtain ⟨hfloor, habove, hbelow, hceil⟩ := h
  have hfirst : (closedLoopRamp a.config nowMs).decrement ≤ a.firstFreq setpoint
      ∧ a.firstFreq setpoint ≤ (closedLoopRamp a.config nowMs).requested := by
    unfold firstFreq
    dsimp only
    split
    · exact ⟨Nat.le_max_left .., Nat.max_le.mpr ⟨Nat.le_trans habove hbelow, Nat.min_le_right ..⟩⟩
    · exact ⟨habove, hbelow⟩
  exact ⟨hfloor, hfirst.1, hfirst.2, hceil⟩

/-! ## Commands -/

/-- The axis is less than the threshold away from a setpoint. -/
def isAt (a : Axis) (setpoint : Int) : Bool :=
  decide (Position.abs (Position.sub setpoint a.board.position) < a.config.posThreshold)

/-- The plan that a command is carried out by. -/
inductive Plans (a : Axis) (nowMs : Nat) : Command → Plan → Prop where
  | freeRun {d : Direction} {level freq : Nat} (h : a.config.freeRunFreq level = .ok (some freq)) :
      Plans a nowMs (.freeRun d level) (a.freeRunPlan d freq nowMs)
  | steps {d : Direction} {level freq count periodMs divisor : Nat}
      (h : a.config.freeRunFreq level = .ok (some freq)) :
      Plans a nowMs (.steps d level count periodMs divisor)
        (a.stepsPlan d freq (count * 2) periodMs divisor nowMs)
  | closedLoop {setpoint : Int} (hfar : a.isAt setpoint = false) :
      Plans a nowMs (.closedLoop setpoint) (a.closedLoopPlan setpoint nowMs)

/-- What a command comes to that has been checked, or is not in need of it. -/
inductive Carried (a : Axis) (nowMs : Nat) (c : Command) :
    Axis → Except Failure Outcome → Prop where
  /-- A move was launched in a new epoch. -/
  | launched {p : Plan} {line : String} (hp : a.Plans nowMs c p) (hf : a.fault? c = none) :
      Carried a nowMs c ((a.setUp p).nextEpoch.launch p.ramp.current line).axis
        ((a.setUp p).nextEpoch.launch p.ramp.current line).answer
  /-- The controller failed when the move had been set up. -/
  | failed {p : Plan} {f : Fault} (hp : a.Plans nowMs c p) (hm : p.mode = .closedLoop)
      (hf : a.fault? c = some f) : Carried a nowMs c (a.setUp p) (.error (.fault f))
  /-- The axis was at the setpoint. -/
  | arrived {setpoint : Int} (hc : c = .closedLoop setpoint) (hthere : a.isAt setpoint = true) :
      Carried a nowMs c (({ a with posCmd := setpoint } : Axis).sense.finishInPlace)
        (.ok .alreadyThere)
  | stopped (hc : c = .stop) : Carried a nowMs c a.stop.axis (.ok a.stop.answer)

/-- A speed level whose frequency is known is looked up without a refusal. -/
theorem speedFreq_ok {a : Axis} {level freq : Nat} :
    a.speedFreq level = .ok freq ↔ a.config.freeRunFreq level = .ok (some freq) := by
  unfold speedFreq
  split <;> simp_all

theorem checkSpeed_ok {a : Axis} {c : Command} : a.checkSpeed c = .ok () ↔
    ∀ level, c.speedLevel? = some level → ∃ freq, a.config.freeRunFreq level = .ok (some freq) := by
  unfold checkSpeed
  cases c.speedLevel? with
  | none => simp
  | some level =>
      dsimp only
      cases hf : a.speedFreq level with
      | error e =>
          refine ⟨fun h => absurd h (by simp [Except.map]), fun h => ?_⟩
          obtain ⟨freq, hfreq⟩ := h level rfl
          rw [speedFreq_ok.mpr hfreq] at hf
          exact absurd hf (by simp)
      | ok freq =>
          refine ⟨fun _ other hother => ?_, fun _ => rfl⟩
          obtain rfl := Option.some.inj hother
          exact ⟨freq, speedFreq_ok.mp hf⟩

/-- A command passes the check when its speed level has a frequency and its steps can be made. -/
theorem validate_ok {a : Axis} {c : Command} : a.validate c = .ok () ↔
    (∀ level, c.speedLevel? = some level → ∃ freq, a.config.freeRunFreq level = .ok (some freq))
      ∧ a.checkSteps c = .ok () := by
  have hbind : a.validate c = (a.checkSpeed c >>= fun _ => a.checkSteps c) := rfl
  rw [hbind, ← checkSpeed_ok]
  cases a.checkSpeed c with
  | error e => simp [bind, Except.bind]
  | ok u => exact ⟨fun h => ⟨rfl, h⟩, fun h => h.2⟩

/-- A command that does not pass the check is at fault itself, unless the frequency of its speed level
cannot be counted. -/
theorem validate_error {a : Axis} {c : Command} {e : Failure} (h : a.validate c = .error e) :
    (∃ r, e = .refused r ∧ r.isInvalidInput = true)
      ∨ ∃ f level, e = .fault f ∧ c.speedLevel? = some level
        ∧ a.config.freeRunFreq level = .error f := by
  have hbind : (a.checkSpeed c >>= fun _ => a.checkSteps c) = .error e := h
  cases hspeed : a.checkSpeed c with
  | error e' =>
      rw [hspeed] at hbind
      obtain rfl := Except.error.inj hbind
      unfold checkSpeed speedFreq at hspeed
      split at hspeed
      · exact absurd hspeed (by simp)
      · rename_i level hlevel
        split at hspeed
        · rename_i f hf
          exact Or.inr ⟨f, level, (Except.error.inj hspeed).symm, hlevel, hf⟩
        · exact Or.inl ⟨_, (Except.error.inj hspeed).symm, rfl⟩
        · exact absurd hspeed (by simp [Except.map])
  | ok u =>
      rw [hspeed] at hbind
      have hsteps : a.checkSteps c = .error e := hbind
      unfold checkSteps at hsteps
      split at hsteps
      · split at hsteps
        · exact Or.inl ⟨_, (Except.error.inj hsteps).symm, rfl⟩
        · split at hsteps
          · exact Or.inl ⟨_, (Except.error.inj hsteps).symm, rfl⟩
          · exact absurd hsteps (by simp)
      · exact absurd hsteps (by simp)

theorem checkSteps_ok {a : Axis} {d : Direction} {level count periodMs divisor : Nat} :
    a.checkSteps (.steps d level count periodMs divisor) = .ok ()
      ↔ divisor ≠ 0 ∧ count ≤ maxStepCount := by
  simp only [checkSteps]
  split
  · rename_i hdiv
    simp [hdiv]
  · rename_i hdiv
    split
    · rename_i hcount
      simp [Nat.not_le.mpr hcount]
    · rename_i hcount
      exact iff_of_true rfl ⟨hdiv, Nat.not_lt.mp hcount⟩

/-- The half-steps of a checked command can be counted: the largest count that is accepted is half of
the largest counter. -/
theorem halfSteps_countable {count : Nat} (h : count ≤ maxStepCount) :
    Count.checkedMul count 2 = .ok (count * 2) := by
  have hmax : 2 * maxStepCount ≤ Count.limit := by decide
  have hfits : count * 2 ≤ Count.limit := by omega
  exact if_pos hfits

theorem seek_carried (a : Axis) (setpoint : Int) (nowMs : Nat) :
    Carried a nowMs (.closedLoop setpoint) (a.seek setpoint nowMs).axis
      (a.seek setpoint nowMs).answer := by
  have hwithin : ({ a with posCmd := setpoint } : Axis).sense.withinThreshold = a.isAt setpoint :=
    rfl
  have hfault : ({ a with posCmd := setpoint } : Axis).fault? (.closedLoop setpoint)
      = a.fault? (.closedLoop setpoint) := rfl
  unfold seek
  dsimp only
  rw [hwithin]
  cases hat : a.isAt setpoint with
  | true => exact .arrived rfl hat
  | false =>
      simp only [Bool.false_eq_true, if_false, Transition.logged]
      cases hf : a.fault? (.closedLoop setpoint) with
      | none =>
          obtain ⟨line, hstart⟩ := startClosedLoop_sound (hfault.trans hf) nowMs
          rw [hstart]
          exact .launched (.closedLoop hat) hf
      | some f =>
          rw [startClosedLoop_fault (hfault.trans hf) nowMs]
          exact .failed (.closedLoop hat) rfl hf

/-- **A command is refused and changes nothing, or it is carried out.** -/
theorem apply_cases (a : Axis) (c : Command) (nowMs : Nat) :
    (∃ e, a.validate c = .error e ∧ a.apply c nowMs = ⟨a, [], .error e⟩)
    ∨ (a.validate c = .ok ()
      ∧ Carried a nowMs c (a.apply c nowMs).axis (a.apply c nowMs).answer) := by
  cases hv : a.validate c with
  | error e => exact Or.inl ⟨e, rfl, by rw [apply, hv]⟩
  | ok u =>
      refine Or.inr ⟨rfl, ?_⟩
      obtain ⟨hspeed, hsteps⟩ := validate_ok.mp hv
      have happly : a.apply c nowMs = a.execute c nowMs := by rw [apply, hv]
      rw [happly]
      cases c with
      | freeRun d level =>
          obtain ⟨freq, hf⟩ := hspeed level rfl
          rw [execute, speedFreq_ok.mpr hf]
          dsimp only
          obtain ⟨line, hstart⟩ := startFreeRun_eq a d freq nowMs
          rw [hstart]
          exact .launched (.freeRun hf) rfl
      | steps d level count periodMs divisor =>
          obtain ⟨freq, hf⟩ := hspeed level rfl
          rw [execute, speedFreq_ok.mpr hf]
          dsimp only
          obtain ⟨line, hstart⟩ := startSteps_eq a d freq count periodMs divisor nowMs
            (halfSteps_countable (checkSteps_ok.mp hsteps).2)
          rw [hstart]
          exact .launched (.steps hf) rfl
      | closedLoop setpoint => exact seek_carried a setpoint nowMs
      | stop => exact .stopped rfl

/-- **A move goes on as if its setpoint had been commanded anew, or nothing happens.** -/
theorem resume_cases (a : Axis) (epoch : UInt32) (nowMs : Nat) :
    (a.awaitsResume epoch = false ∧ a.resume epoch nowMs = ⟨a, [], none⟩)
    ∨ (a.awaitsResume epoch = true ∧ ∃ r, (a.resume epoch nowMs).answer = some r
        ∧ Carried a nowMs (.closedLoop a.posCmd) (a.resume epoch nowMs).axis r) := by
  cases hr : a.awaitsResume epoch with
  | false => exact Or.inl ⟨rfl, by rw [resume, if_neg (ne_true_of_eq_false hr)]⟩
  | true =>
      refine Or.inr ⟨rfl, ?_⟩
      -- the setpoint is the one the axis has already
      have hseek := seek_carried a a.posCmd nowMs
      have hsame : ({ a with posCmd := a.posCmd } : Axis).sense = a.sense := rfl
      rw [resume, if_pos hr]
      rw [seek, hsame] at hseek
      dsimp only at hseek ⊢
      split at hseek
      · rename_i hw
        rw [if_pos hw]
        exact ⟨_, rfl, hseek⟩
      · rename_i hw
        rw [if_neg hw]
        exact ⟨_, rfl, hseek⟩

/-! ## The end of a move -/

/-- An axis that is told to stop is halted in a new epoch, unless it was stopped before. -/
theorem stop_cases (a : Axis) :
    (a.mode = .stopped ∧ a.stop.axis = a ∧ a.stop.answer = .alreadyStopped)
    ∨ (a.mode ≠ .stopped ∧ a.stop.axis = a.halt.nextEpoch ∧ a.stop.answer = .stopped) := by
  unfold stop
  split
  · rename_i hm
    exact Or.inr ⟨by simpa [Mode.isMoving] using hm, rfl, rfl⟩
  · rename_i hm
    exact Or.inl ⟨by simpa [Mode.isMoving] using hm, rfl, rfl⟩

/-- A closed-loop move that is over is halted, and the axis starts a new epoch in any case. -/
theorem finishInPlace_cases (a : Axis) :
    (a.mode = .stopped ∧ a.finishInPlace = { a.nextEpoch with alreadyThere := true })
    ∨ (a.mode ≠ .stopped ∧ a.finishInPlace = { a.halt.nextEpoch with alreadyThere := true }) := by
  unfold finishInPlace
  dsimp only
  split
  · rename_i hm
    exact Or.inr ⟨by simpa [Mode.isMoving] using hm, rfl⟩
  · rename_i hm
    exact Or.inl ⟨by simpa [Mode.isMoving] using hm, rfl⟩

/-- The end of a move changes mode, epoch and timer. -/
theorem stop_frame (a : Axis) :
    ∃ mode epoch timer, a.stop.axis
      = { a with mode := mode, epoch := epoch, board := { a.board with timer := timer } } := by
  rcases stop_cases a with ⟨_, h, _⟩ | ⟨_, h, _⟩
  · exact ⟨a.mode, a.epoch, a.board.timer, h⟩
  · exact ⟨.stopped, a.epoch + 1, a.board.timer.stop, h⟩

theorem finishInPlace_frame (a : Axis) :
    ∃ mode timer, a.finishInPlace = { a with
      mode := mode
      epoch := a.epoch + 1
      alreadyThere := true
      board := { a.board with timer := timer } } := by
  rcases finishInPlace_cases a with ⟨_, h⟩ | ⟨_, h⟩
  · exact ⟨a.mode, a.board.timer, h⟩
  · exact ⟨.stopped, a.board.timer.stop, h⟩

theorem stop_mode (a : Axis) : a.stop.axis.mode = .stopped := by
  rcases stop_cases a with ⟨hm, h, _⟩ | ⟨_, h, _⟩ <;> rw [h]
  · exact hm
  · rfl

theorem finishInPlace_mode (a : Axis) : a.finishInPlace.mode = .stopped := by
  rcases finishInPlace_cases a with ⟨hm, h⟩ | ⟨_, h⟩ <;> rw [h]
  · exact hm
  · rfl

/-! ## A change of direction -/

/-- Asking for the direction of a command reads the encoder at most. -/
theorem directionFor_axis (a : Axis) (c : Command) :
    (a.directionFor c).1 = a ∨ (a.directionFor c).1 = a.sense := by
  cases c with
  | closedLoop setpoint =>
      refine Or.inr ?_
      rw [directionFor]
      split <;> rfl
  | freeRun d level => exact Or.inl rfl
  | steps d level count periodMs divisor => exact Or.inl rfl
  | stop => exact Or.inl rfl

/-- **A command may go ahead that finds the axis stopped or halted for it, or does not reverse it;
any other halts the axis and has to wait.** -/
theorem beginDirectionChange_cases (a : Axis) (c : Command) :
    ((a.beginDirectionChange c).answer = false
      ∧ ((a.beginDirectionChange c).axis = a ∨ (a.beginDirectionChange c).axis = a.sense)
      ∧ (a.mode = .stopped ∨ a.isQuiesced = true
        ∨ ∀ d, (a.directionFor c).2 = some d → d = a.dir))
    ∨ ((a.beginDirectionChange c).answer = true ∧ a.mode ≠ .stopped
      ∧ ((a.beginDirectionChange c).axis = a.quiesce
        ∨ (a.beginDirectionChange c).axis = a.sense.quiesce)) := by
  unfold beginDirectionChange
  split
  · -- reading the encoder changes neither the direction nor what is remembered of the epoch
    rename_i hmove
    have hm : a.mode ≠ .stopped := by simpa [Mode.isMoving] using hmove
    have hax := directionFor_axis a c
    have hdir : (a.directionFor c).1.dir = a.dir := by
      rcases hax with h | h
      · rw [h]
      · rw [h]
        rfl
    have hq : (a.directionFor c).1.isQuiesced = a.isQuiesced := by
      rcases hax with h | h
      · rw [h]
      · rw [h]
        rfl
    rcases hd : a.directionFor c with ⟨b, _ | d⟩ <;> rw [hd] at hax hdir hq
    · exact Or.inl ⟨rfl, hax, Or.inr (Or.inr fun d h => absurd h (by simp))⟩
    · dsimp only at hdir hq ⊢
      split
      · rename_i hsame
        refine Or.inl ⟨rfl, hax, Or.inr ?_⟩
        rcases hsame with h | h
        · exact Or.inr fun d' hd' => by rw [← Option.some.inj hd', h, hdir]
        · exact Or.inl (hq ▸ h)
      · exact Or.inr ⟨rfl, hm, hax.imp (congrArg quiesce) (congrArg quiesce)⟩
  · rename_i hstill
    exact Or.inl ⟨rfl, Or.inl rfl, Or.inl (by simpa [Mode.isMoving] using hstill)⟩

end Axis

end StepperMotion
