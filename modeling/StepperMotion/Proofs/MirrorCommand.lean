import StepperMotion.Proofs.Mirror

/-!
# Commands and their mirror images

The mirror image of a command names the opposite direction or the opposite setpoint. Given to the
mirror image of an axis, it comes to the same: it is refused for the same reason, or the plans of the
two moves are mirror images and are launched at the same frequency (`Mirrors.apply`,
`Mirrors.resume`). A command that would reverse an axis is told to wait just if its mirror image is
(`Mirrors.beginDirectionChange`).

`Turned` is about the directions alone. Whenever a move is set up the axes face opposite ways, and
otherwise nobody is turned.
-/

namespace StepperMotion

open Axis (Reply)

/-- The command in the other direction. -/
def Command.mirror : Command → Command
  | freeRun d level => .freeRun d.opposite level
  | closedLoop setpoint => .closedLoop (-setpoint)
  | steps d level count periodMs divisor => .steps d.opposite level count periodMs divisor
  | stop => .stop

namespace Axis

/-- A move has been set up, whether or not the timer has taken its frequency. -/
def setsOut : Except Failure Outcome → Bool
  | .ok (.started _) => true
  | .error (.refused e) => e.isInvariant
  | _ => false

/-- The reply is that a move has been set up. -/
def Reply.setsOut : Reply → Bool
  | .outcome r => Axis.setsOut r
  | .resumed (some r) => Axis.setsOut r
  | _ => false

variable {a b : Axis}

/-! ## Setting up a move -/

/-- Two plans of moves in opposite directions. -/
structure Plan.Mirrors (p q : Plan) : Prop where
  mode : q.mode = p.mode
  dir : q.dir = p.dir.opposite
  posCmd : q.posCmd = -p.posCmd
  posMiddle : q.posMiddle = -p.posMiddle
  posStart : q.posStart = -p.posStart
  ramp : q.ramp = p.ramp
  halfSteps : q.halfSteps = p.halfSteps
  toMiddle : q.toMiddle = p.toMiddle
  controller : p.controller = none
  controller' : q.controller = none

/-- The axes `x` and `y` that have become of two others face opposite ways, or they were not turned
and no move has been set up. -/
def Turned (a b x y : Axis) (r : Reply) : Prop :=
  x.Opposed y ∨ (x.dir = a.dir ∧ y.dir = b.dir ∧ r.setsOut = false)

/-- What a command comes to on an axis, and the mirrored one on its mirror image. -/
structure MirrorStart (a b : Axis) (t u : Transition (Except Failure Outcome)) : Prop where
  after : t.axis.Mirrors u.axis
  answer : u.answer = t.answer
  turned : Turned a b t.axis u.axis (.outcome t.answer)

/-- An axis without a controller has none that could fail. -/
theorem fault?_of_none (h : a.controller = none) (c : Command) : a.fault? c = none := by
  unfold fault? chosen
  rw [h]
  cases c <;> rfl

/-- An axis that is told to stop does not set out. -/
theorem setsOut_stop (a : Axis) : (Reply.outcome (.ok a.stop.answer)).setsOut = false := by
  rcases stop_cases a with ⟨_, _, hans⟩ | ⟨_, _, hans⟩
  · rw [hans]
    rfl
  · rw [hans]
    rfl

/-- A command that does not pass the check is refused for no frequency of a move. -/
theorem setsOut_refused {c : Command} {e : Failure} (h : a.validate c = .error e) :
    setsOut (.error e) = false := by
  rcases validate_error h with ⟨r, rfl, hinput⟩ | ⟨f, _, rfl, _⟩
  · cases r with
    | invariant _ _ => exact absurd hinput (by simp [MotionError.isInvalidInput])
    | _ => rfl
  · rfl

theorem turned_finishInPlace (a b : Axis) :
    Turned a b a.finishInPlace b.finishInPlace (.outcome (.ok .alreadyThere)) := by
  obtain ⟨_, _, hframe⟩ := finishInPlace_frame a
  obtain ⟨_, _, hframe'⟩ := finishInPlace_frame b
  refine Or.inr ⟨?_, ?_, rfl⟩
  · rw [hframe]
  · rw [hframe']

namespace Mirrors

theorem setUp (h : a.Mirrors b) {p q : Plan} (hplan : p.Mirrors q) : (a.setUp p).Mirrors (b.setUp q) :=
  { h with
    mode := hplan.mode
    controller := hplan.controller
    controller' := hplan.controller'
    board := { h.board with }
    opposed := fun _ => hplan.dir
    posCmd := hplan.posCmd
    posAct := h.board.position
    posMiddle := hplan.posMiddle
    posStart := hplan.posStart
    ramp := hplan.ramp
    requested := hplan.halfSteps
    completed := rfl
    toMiddle := hplan.toMiddle
    pulses := by
      unfold Axis.pulses Axis.setUp
      simp
    lastPos := h.board.position }

theorem nextEpoch (h : a.Mirrors b) : a.nextEpoch.Mirrors b.nextEpoch :=
  { h with epoch := congrArg (· + 1) h.epoch }

theorem inLimits (h : a.Mirrors b) (freq : Nat) : b.InLimits freq ↔ a.InLimits freq := by
  unfold InLimits freqLimit
  rw [h.config, h.mode]

theorem limitRefusal (h : a.Mirrors b) (freq : Nat) : b.limitRefusal freq = a.limitRefusal freq := by
  unfold Axis.limitRefusal freqLimit
  rw [h.config, h.mode, h.name]

/-- **Moves in opposite directions are launched in the same way.** -/
theorem launch (h : a.Mirrors b) (freq : Nat) (line line' : String) :
    (a.launch freq line).axis.Mirrors (b.launch freq line').axis
      ∧ (b.launch freq line').answer = (a.launch freq line).answer := by
  -- neither the limits nor the timer know of a direction
  by_cases hin : a.InLimits freq
  · have hin' : b.InLimits freq := (h.inLimits freq).mpr hin
    cases hacc : a.board.timer.accepts freq with
    | false =>
        have hacc' : b.board.timer.accepts freq = false := h.board.timer ▸ hacc
        obtain ⟨hans, hax⟩ := launch_refused hin hacc line
        obtain ⟨hans', hax'⟩ := launch_refused hin' hacc' line'
        rw [hans, hax, hans', hax']
        refine ⟨{ h with
          mode := rfl
          opposed := fun hm => absurd rfl hm
          board := { h.board with timer := congrArg (refusingTimer · freq) h.board.timer } }, ?_⟩
        unfold timerRefusal
        rw [h.name]
    | true =>
        have hacc' : b.board.timer.accepts freq = true := h.board.timer ▸ hacc
        obtain ⟨hans, hax⟩ := launch_armed hin hacc line
        obtain ⟨hans', hax'⟩ := launch_armed hin' hacc' line'
        rw [hans, hax, hans', hax']
        exact ⟨{ h with
          board := { h.board with timer := congrArg (armedTimer · freq) h.board.timer } }, rfl⟩
  · obtain ⟨hans, hax⟩ := launch_outside hin line
    obtain ⟨hans', hax'⟩ := launch_outside (mt (h.inLimits freq).mp hin) line'
    rw [hans, hax, hans', hax', h.limitRefusal]
    exact ⟨h.halt, rfl⟩

theorem start (h : a.Mirrors b) {p q : Plan} (hplan : p.Mirrors q) (line line' : String) :
    MirrorStart a b ((a.setUp p).nextEpoch.launch p.ramp.current line)
      ((b.setUp q).nextEpoch.launch q.ramp.current line') := by
  obtain ⟨hafter, hanswer⟩ := (h.setUp hplan).nextEpoch.launch p.ramp.current line line'
  obtain ⟨_, _, hframe⟩ := launch_frame (a.setUp p).nextEpoch p.ramp.current line
  obtain ⟨_, _, hframe'⟩ := launch_frame (b.setUp q).nextEpoch p.ramp.current line'
  rw [hplan.ramp]
  refine ⟨hafter, hanswer, Or.inl ?_⟩
  rw [hframe, hframe']
  exact hplan.dir

/-! ## Commands -/

theorem finishInPlace (h : a.Mirrors b) : a.finishInPlace.Mirrors b.finishInPlace := by
  have hsame : b.mode.isMoving = a.mode.isMoving := by rw [h.mode]
  unfold Axis.finishInPlace
  dsimp only
  rw [hsame]
  split
  · exact { h.halt.nextEpoch with alreadyThere := rfl }
  · exact { h.nextEpoch with alreadyThere := rfl }

theorem stop (h : a.Mirrors b) :
    a.stop.axis.Mirrors b.stop.axis ∧ b.stop.answer = a.stop.answer := by
  unfold Axis.stop
  rw [h.mode]
  split
  · exact ⟨h.halt.nextEpoch, rfl⟩
  · exact ⟨h, rfl⟩

/-- Without a controller, a closed-loop move starts at the frequency of its ramp. -/
theorem closedLoopPlan (h : a.Mirrors b) (hthreshold : 1 ≤ a.config.posThreshold)
    (hfar : a.sense.withinThreshold = false) (nowMs : Nat) :
    (a.closedLoopPlan a.posCmd nowMs).Mirrors (b.closedLoopPlan b.posCmd nowMs) := by
  have hfirst : b.firstFreq b.posCmd = a.firstFreq a.posCmd := by
    unfold firstFreq chosen
    rw [h.controller, h.controller', h.config]
  exact
    { mode := rfl
      dir := h.sense.ofError hthreshold hfar
      posCmd := h.posCmd
      posMiddle := by
        simp only [Axis.closedLoopPlan, h.board.position, h.posCmd]
        exact Position.middle_neg ..
      posStart := h.board.position
      ramp := by simp only [Axis.closedLoopPlan, hfirst, h.config]
      halfSteps := rfl
      toMiddle := rfl
      controller := by simp [Axis.closedLoopPlan, chosen, h.controller]
      controller' := by simp [Axis.closedLoopPlan, chosen, h.controller'] }

/-- **A setpoint and its opposite are sought in the same way,** by axes that have just been looked
at. -/
theorem seekOn (h : a.Mirrors b) (hthreshold : 1 ≤ a.config.posThreshold) (nowMs : Nat) :
    (a.sense.withinThreshold = true ∧ b.sense.withinThreshold = true)
      ∨ (a.sense.withinThreshold = false ∧ b.sense.withinThreshold = false
        ∧ MirrorStart a b (a.sense.startClosedLoop nowMs) (b.sense.startClosedLoop nowMs)) := by
  have hsame := h.sense.withinThreshold
  cases hfar : a.sense.withinThreshold with
  | true => exact Or.inl ⟨rfl, hsame.trans hfar⟩
  | false =>
      refine Or.inr ⟨rfl, hsame.trans hfar, ?_⟩
      obtain ⟨line, hstart⟩ := startClosedLoop_sound (fault?_of_none h.controller _) nowMs
      obtain ⟨line', hstart'⟩ := startClosedLoop_sound (fault?_of_none h.controller' _) nowMs
      rw [hstart, hstart']
      exact h.start (h.closedLoopPlan hthreshold hfar nowMs) line line'

theorem seek (h : a.Mirrors b) (hthreshold : 1 ≤ a.config.posThreshold) (setpoint : Int)
    (nowMs : Nat) : MirrorStart a b (a.seek setpoint nowMs) (b.seek (-setpoint) nowMs) := by
  have hgoal : Mirrors { a with posCmd := setpoint } { b with posCmd := -setpoint } :=
    { h with posCmd := rfl }
  unfold Axis.seek
  dsimp only
  rcases hgoal.seekOn hthreshold nowMs with ⟨hthere, hthere'⟩ | ⟨hfar, hfar', hstart⟩
  · rw [if_pos hthere, if_pos hthere']
    exact ⟨hgoal.sense.finishInPlace, rfl, turned_finishInPlace _ _⟩
  · rw [hfar, hfar']
    exact ⟨hstart.after, hstart.answer, hstart.turned⟩

theorem speedFreq (h : a.Mirrors b) (level : Nat) : b.speedFreq level = a.speedFreq level := by
  unfold Axis.speedFreq
  rw [h.config, h.name]

theorem validate (h : a.Mirrors b) (c : Command) : b.validate c.mirror = a.validate c := by
  have hspeed : b.checkSpeed c.mirror = a.checkSpeed c := by
    unfold checkSpeed
    cases c <;> simp only [Command.mirror, Command.speedLevel?, h.speedFreq]
  have hsteps : b.checkSteps c.mirror = a.checkSteps c := by
    cases c <;> simp only [Command.mirror, checkSteps, h.name]
  unfold Axis.validate
  rw [hspeed, hsteps]

/-- **A command is carried out in the same way as its mirror image.** -/
theorem execute (h : a.Mirrors b) (hthreshold : 1 ≤ a.config.posThreshold) {c : Command}
    (hvalid : a.validate c = .ok ()) (nowMs : Nat) :
    MirrorStart a b (a.execute c nowMs) (b.execute c.mirror nowMs) := by
  obtain ⟨hspeed, hsteps⟩ := validate_ok.mp hvalid
  cases c with
  | freeRun d level =>
      obtain ⟨freq, hfreq⟩ := hspeed level rfl
      have hfreq' : b.config.freeRunFreq level = .ok (some freq) := h.config ▸ hfreq
      obtain ⟨line, hstart⟩ := startFreeRun_eq a d freq nowMs
      obtain ⟨line', hstart'⟩ := startFreeRun_eq b d.opposite freq nowMs
      have hplan : (a.freeRunPlan d freq nowMs).Mirrors (b.freeRunPlan d.opposite freq nowMs) :=
        ⟨rfl, rfl, h.posCmd, h.posMiddle, h.posStart, rfl, rfl, rfl, h.controller, h.controller'⟩
      simp only [Axis.execute, Command.mirror, speedFreq_ok.mpr hfreq, speedFreq_ok.mpr hfreq']
      rw [hstart, hstart']
      exact h.start hplan line line'
  | steps d level count periodMs divisor =>
      obtain ⟨freq, hfreq⟩ := hspeed level rfl
      have hfreq' : b.config.freeRunFreq level = .ok (some freq) := h.config ▸ hfreq
      have hcount := halfSteps_countable (checkSteps_ok.mp hsteps).2
      obtain ⟨line, hstart⟩ := startSteps_eq a d freq count periodMs divisor nowMs hcount
      obtain ⟨line', hstart'⟩ := startSteps_eq b d.opposite freq count periodMs divisor nowMs hcount
      have hplan : (a.stepsPlan d freq (count * 2) periodMs divisor nowMs).Mirrors
          (b.stepsPlan d.opposite freq (count * 2) periodMs divisor nowMs) :=
        ⟨rfl, rfl, h.posCmd, h.posMiddle, h.posStart, by simp only [stepsPlan, h.config], rfl, rfl,
          h.controller, h.controller'⟩
      simp only [Axis.execute, Command.mirror, speedFreq_ok.mpr hfreq, speedFreq_ok.mpr hfreq']
      rw [hstart, hstart']
      exact h.start hplan line line'
  | closedLoop setpoint => exact h.seek hthreshold setpoint nowMs
  | stop =>
      obtain ⟨hafter, hanswer⟩ := h.stop
      obtain ⟨_, _, _, hframe⟩ := stop_frame a
      obtain ⟨_, _, _, hframe'⟩ := stop_frame b
      refine ⟨hafter, congrArg Except.ok hanswer, Or.inr ⟨?_, ?_, ?_⟩⟩
      · show a.stop.axis.dir = a.dir
        rw [hframe]
      · show b.stop.axis.dir = b.dir
        rw [hframe']
      · exact setsOut_stop a

theorem apply (h : a.Mirrors b) (hthreshold : 1 ≤ a.config.posThreshold) (c : Command)
    (nowMs : Nat) : MirrorStart a b (a.apply c nowMs) (b.apply c.mirror nowMs) := by
  unfold Axis.apply
  rw [h.validate]
  cases hvalid : a.validate c with
  | error e => exact ⟨h, rfl, Or.inr ⟨rfl, rfl, setsOut_refused hvalid⟩⟩
  | ok u => exact h.execute hthreshold hvalid nowMs

/-- What going on with a move comes to. -/
theorem resume (h : a.Mirrors b) (hthreshold : 1 ≤ a.config.posThreshold) (epoch : UInt32)
    (nowMs : Nat) :
    (a.resume epoch nowMs).axis.Mirrors (b.resume epoch nowMs).axis
      ∧ (b.resume epoch nowMs).answer = (a.resume epoch nowMs).answer
      ∧ Turned a b (a.resume epoch nowMs).axis (b.resume epoch nowMs).axis
        (.resumed (a.resume epoch nowMs).answer) := by
  have hawaits : b.awaitsResume epoch = a.awaitsResume epoch := by
    unfold awaitsResume isRunning
    rw [h.epoch, h.mode, h.board.timer]
  unfold Axis.resume
  rw [hawaits]
  split
  · dsimp only
    rcases h.seekOn hthreshold nowMs with ⟨hthere, hthere'⟩ | ⟨hfar, hfar', hstart⟩
    · rw [if_pos hthere, if_pos hthere']
      exact ⟨h.sense.finishInPlace, rfl, turned_finishInPlace _ _⟩
    · rw [hfar, hfar']
      exact ⟨hstart.after, congrArg some hstart.answer, hstart.turned⟩
  · exact ⟨h, rfl, Or.inr ⟨rfl, rfl, rfl⟩⟩

/-! ## Changes of direction -/

/-- A command and its mirror image ask for opposite directions. -/
theorem directionFor (h : a.Mirrors b) (hthreshold : 1 ≤ a.config.posThreshold) (c : Command) :
    (a.directionFor c).1.Mirrors (b.directionFor c.mirror).1
      ∧ (b.directionFor c.mirror).2 = (a.directionFor c).2.map Direction.opposite := by
  cases c with
  | closedLoop setpoint =>
      have herror : Position.abs (Position.sub (-setpoint) b.board.position)
          = Position.abs (Position.sub setpoint a.board.position) := by
        rw [h.board.position, Position.abs_sub_neg]
      simp only [Axis.directionFor, Command.mirror]
      by_cases hnear : Position.abs (Position.sub setpoint a.board.position) < a.config.posThreshold
      · have hnear' : Position.abs (Position.sub (-setpoint) b.board.position)
            < b.config.posThreshold := by rwa [herror, h.config]
        rw [Axis.sense, Axis.sense, if_pos hnear, if_pos hnear']
        exact ⟨h.sense, rfl⟩
      · have hnear' : ¬ Position.abs (Position.sub (-setpoint) b.board.position)
            < b.config.posThreshold := by rwa [herror, h.config]
        rw [Axis.sense, Axis.sense, if_neg hnear, if_neg hnear']
        refine ⟨h.sense, congrArg some ?_⟩
        rw [h.board.position]
        exact Position.ofError_sub_neg (Position.ne_of_far hthreshold hnear)
  | freeRun d level => exact ⟨h, rfl⟩
  | steps d level count periodMs divisor => exact ⟨h, rfl⟩
  | stop => exact ⟨h, rfl⟩

theorem quiesce (h : a.Mirrors b) : a.quiesce.Mirrors b.quiesce :=
  { h.stopTimer.nextEpoch with quiescedEpoch := congrArg some h.stopTimer.nextEpoch.epoch }

theorem isQuiesced (h : a.Mirrors b) : b.isQuiesced = a.isQuiesced := by
  unfold Axis.isQuiesced isRunning
  rw [h.quiescedEpoch, h.epoch, h.board.timer]

/-- **A command is told to wait just if its mirror image is.** -/
theorem beginDirectionChange (h : a.Mirrors b) (hthreshold : 1 ≤ a.config.posThreshold)
    (c : Command) :
    (a.beginDirectionChange c).axis.Mirrors (b.beginDirectionChange c.mirror).axis
      ∧ (b.beginDirectionChange c.mirror).answer = (a.beginDirectionChange c).answer := by
  obtain ⟨hafter, hdirection⟩ := h.directionFor hthreshold c
  have hmode : (a.directionFor c).1.mode = a.mode := by
    rcases directionFor_axis a c with heq | heq
    · rw [heq]
    · rw [heq]
      rfl
  unfold Axis.beginDirectionChange
  rw [h.mode]
  split
  · rename_i hmoving
    have hm : (a.directionFor c).1.mode ≠ .stopped := by
      rw [hmode]
      simpa [Mode.isMoving] using hmoving
    generalize a.directionFor c = s at hafter hdirection hm
    generalize b.directionFor c.mirror = t at hafter hdirection
    obtain ⟨x, d?⟩ := s
    obtain ⟨y, e?⟩ := t
    dsimp only at hafter hdirection hm
    subst hdirection
    cases d? with
    | none => exact ⟨hafter, rfl⟩
    | some d =>
        -- only an axis in a move is asked, and in a move the two face opposite ways
        have hdir : y.dir = x.dir.opposite := hafter.opposed hm
        have hsame : (d.opposite = y.dir ∨ y.isQuiesced = true) ↔ (d = x.dir ∨ x.isQuiesced = true) := by
          rw [hdir, Direction.opposite_inj, hafter.isQuiesced]
        simp only [Option.map_some]
        by_cases hahead : d = x.dir ∨ x.isQuiesced = true
        · rw [if_pos hahead, if_pos (hsame.mpr hahead)]
          exact ⟨hafter, rfl⟩
        · rw [if_neg hahead, if_neg (mt hsame.mp hahead)]
          exact ⟨hafter.quiesce, rfl⟩
  · exact ⟨h, rfl⟩

end Mirrors

end Axis

end StepperMotion
