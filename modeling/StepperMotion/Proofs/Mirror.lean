import StepperMotion.Proofs.Alike
import StepperMotion.Proofs.Convergence

/-!
# Mirror images

Take an axis and negate its positions. `Mirrors` says of two axes that one is the image of the
other: they are in the same mode, at the same frequency, with their step lines at the same level, and
in a move they turn in opposite directions. A timer match and the judgement of a report do the same
to both (`mirror_tick`, `mirror_inspect`), but for the signs.

Three things on the way are not quite symmetric. The lowest position has no opposite, so that an error
is cut off at different magnitudes on its two sides; only the sign of the error and its distance from
zero are looked at, and these agree. A zero error asks for the counterclockwise direction on both
sides; with a threshold of one or more, a move without an error is over before anybody asks. And
an encoder that wraps around does not do so at opposite positions; therefore the position after a
match must have an opposite.

An axis at rest may face any way. A new one faces clockwise wherever it is, so that the directions
are only compared in a move.
-/

namespace StepperMotion

/-! ## Positions and directions -/

namespace Direction

/-- The other way. -/
def opposite : Direction → Direction
  | clockwise => counterClockwise
  | counterClockwise => clockwise

theorem opposite_inj {d e : Direction} : d.opposite = e.opposite ↔ d = e := by
  cases d <;> cases e <;> decide

theorem level_opposite (d : Direction) : d.opposite.level = !d.level := by
  cases d <;> rfl

end Direction

namespace Position

/-- Any position but the lowest one. -/
def HasOpposite (x : Int) : Prop := -highest ≤ x ∧ x ≤ highest

instance (x : Int) : Decidable (HasOpposite x) := inferInstanceAs (Decidable (_ ∧ _))

/-- However an error is cut off, it is as far from zero as that of the opposite positions. -/
theorem abs_sub_neg (x y : Int) : abs (sub (-x) (-y)) = abs (sub x y) := by
  -- cut off at the lowest position on one side is cut off at the highest one on the other, and the
  -- lowest position counts as being as far from zero as the highest one
  unfold abs sub clamp lowest highest
  omega

/-- An error that is not below a threshold is no zero. -/
theorem ne_of_far {goal x threshold : Int} (hthreshold : 1 ≤ threshold)
    (hfar : ¬ abs (sub goal x) < threshold) : goal ≠ x := by
  rintro rfl
  have hzero : abs (sub goal goal) = 0 := by
    unfold abs sub clamp lowest highest
    omega
  omega

/-- The opposite error asks for the opposite direction. -/
theorem ofError_sub_neg {goal x : Int} (h : goal ≠ x) :
    Direction.ofError (sub (-goal) (-x)) = (Direction.ofError (sub goal x)).opposite := by
  rw [ofError_sub, ofError_sub]
  by_cases hdown : goal < x
  · have hup : ¬ -goal < -x := by omega
    rw [if_pos hdown, if_neg hup]
    rfl
  · have hup : -goal < -x := by omega
    rw [if_neg hdown, if_pos hup]
    rfl

theorem distance_neg (x y : Int) : distance (-x) (-y) = distance x y := by
  have hsame : (-x - -y).natAbs = (x - y).natAbs := by omega
  unfold distance
  rw [hsame]

/-- The fraction is dropped on both sides of zero. -/
theorem middle_neg (x y : Int) : (-x + -y).tdiv 2 = -(x + y).tdiv 2 := by
  have hsum : -x + -y = -(x + y) := by omega
  rw [hsum, Int.neg_tdiv]

/-- An encoder that does not show the lowest position is at the opposite one on the other side. -/
theorem wrap_neg {x : Int} (h : HasOpposite (wrap x)) : wrap (-x) = -wrap x := by
  -- the range of `wrap` is symmetric but for the lowest position, which `h` excludes
  unfold HasOpposite wrap highest at *
  simp only [Int.bmod_def] at *
  omega

end Position

namespace Board

/-- Two boards with opposite positions that have been through the same. -/
structure Mirrors (b c : Board) : Prop where
  position : c.position = -b.position
  stepLevel : c.stepLevel = b.stepLevel
  frozen : c.frozen = b.frozen
  toggles : c.toggles = b.toggles
  timer : c.timer = b.timer

/-- **Half-steps in opposite directions lead to opposite positions.** -/
theorem Mirrors.toggleStep {b c : Board} (h : b.Mirrors c) (hlevel : c.dirLevel = !b.dirLevel)
    (hreach : Position.HasOpposite b.toggleStep.position) : b.toggleStep.Mirrors c.toggleStep where
  position := by
    simp only [Board.toggleStep, setStep] at hreach ⊢
    rw [h.stepLevel, h.frozen]
    split
    · -- a rising edge, which the encoder sees
      rename_i hrise
      rw [if_pos hrise] at hreach
      simp only [advanced, hlevel, h.position] at hreach ⊢
      cases hdown : b.dirLevel with
      | true =>
          simp only [hdown, if_true] at hreach
          have hcount : -b.position + 1 = -(b.position - 1) := by omega
          simpa [hcount] using Position.wrap_neg hreach
      | false =>
          simp only [hdown, Bool.false_eq_true, if_false] at hreach
          have hcount : -b.position - 1 = -(b.position + 1) := by omega
          simpa [hcount] using Position.wrap_neg hreach
    · exact h.position
  stepLevel := congrArg (! ·) h.stepLevel
  frozen := h.frozen
  toggles := congrArg (· + 1) h.toggles
  timer := h.timer

end Board

/-- The report about the opposite position. -/
def Notification.mirror (n : Notification) : Notification := { n with posAct := -n.posAct }

/-- What the mirror image of an axis has to report. -/
def mirrorReport (r : Except Fault (Option Notification)) : Except Fault (Option Notification) :=
  r.map (Option.map Notification.mirror)

namespace Axis

/-! ## Axes -/

/-- Two axes that face opposite ways. -/
def Opposed (a b : Axis) : Prop := b.dir = a.dir.opposite

/-- Two axes without controllers of which one is the mirror image of the other, but for the
directions that they face at rest. -/
structure Mirrors (a b : Axis) : Prop where
  handle : b.handle = a.handle
  name : b.name = a.name
  config : b.config = a.config
  controller : a.controller = none
  controller' : b.controller = none
  mode : b.mode = a.mode
  board : a.board.Mirrors b.board
  /-- In a move the axes turn in opposite directions. -/
  opposed : a.mode ≠ .stopped → a.Opposed b
  posCmd : b.posCmd = -a.posCmd
  posAct : b.posAct = -a.posAct
  posMiddle : b.posMiddle = -a.posMiddle
  posStart : b.posStart = -a.posStart
  ramp : b.ramp = a.ramp
  requested : b.halfStepsRequested = a.halfStepsRequested
  completed : b.halfStepsCompleted = a.halfStepsCompleted
  toMiddle : b.halfStepsToMiddle = a.halfStepsToMiddle
  pulses : b.pulses = a.pulses
  stalled : b.stalled = a.stalled
  stalledCount : b.stalledCount = a.stalledCount
  lastPos : b.lastPos = -a.lastPos
  alreadyThere : b.alreadyThere = a.alreadyThere
  offset : b.offset = a.offset
  epoch : b.epoch = a.epoch
  quiescedEpoch : b.quiescedEpoch = a.quiescedEpoch
  parked : b.parked = a.parked.map Notification.mirror
  dropped : b.dropped = a.dropped

namespace Mirrors

variable {a b : Axis}

/-! ### What a timer match asks -/

theorem sense (h : a.Mirrors b) : a.sense.Mirrors b.sense := { h with posAct := h.board.position }

theorem withinThreshold (h : a.Mirrors b) : b.withinThreshold = a.withinThreshold := by
  unfold Axis.withinThreshold Axis.positionError
  rw [h.posCmd, h.posAct, h.config, Position.abs_sub_neg]

/-- Away from the setpoint, the errors ask for opposite directions. -/
theorem ofError (h : a.Mirrors b) (hthreshold : 1 ≤ a.config.posThreshold)
    (hfar : a.withinThreshold = false) :
    Direction.ofError b.positionError = (Direction.ofError a.positionError).opposite := by
  unfold Axis.positionError
  rw [h.posCmd, h.posAct]
  exact Position.ofError_sub_neg (Position.ne_of_far hthreshold (of_decide_eq_false hfar))

theorem arrived (h : a.Mirrors b) : b.arrived = a.arrived := by
  unfold Axis.arrived
  rw [h.mode, h.requested, h.completed, h.withinThreshold]

theorem overshot (h : a.Mirrors b) (hthreshold : 1 ≤ a.config.posThreshold)
    (hopen : a.arrived = false) : b.overshot = a.overshot := by
  unfold Axis.overshot
  rw [h.mode]
  cases hm : a.mode with
  | closedLoop =>
      have hfar : a.withinThreshold = false := by
        simp only [Axis.arrived, hm] at hopen
        exact hopen
      have hdir : b.dir = a.dir.opposite := h.opposed (by simp [hm])
      rw [h.ofError hthreshold hfar, hdir]
      have hsame := @Direction.opposite_inj (Direction.ofError a.positionError) a.dir
      simp only [bne, Bool.beq_eq_decide_eq, hsame]
  | _ => rfl

theorem progress (h : a.Mirrors b) (hm : a.mode ≠ .stopped) : b.progress = a.progress := by
  unfold Axis.progress
  rw [h.mode]
  cases hmode : a.mode with
  | closedLoop =>
      have hdir : b.dir = a.dir.opposite := h.opposed hm
      simp only [h.posCmd, h.posAct, h.posStart, h.posMiddle, Position.distance_neg, hdir]
      cases a.dir with
      | clockwise => simp [Direction.opposite]
      | counterClockwise => simp [Direction.opposite]
  | _ => simp only [h.requested, h.completed, h.toMiddle]

theorem approaching (h : a.Mirrors b) : b.approaching = a.approaching := by
  unfold Axis.approaching Axis.positionError
  rw [h.mode, h.config, h.posCmd, h.posAct, Position.abs_sub_neg]

theorem nextRamp (h : a.Mirrors b) (hm : a.mode ≠ .stopped) (nowMs : Nat) :
    b.nextRamp nowMs = a.nextRamp nowMs := by
  unfold Axis.nextRamp
  rw [h.approaching, h.progress hm, h.ramp, h.config]

theorem look (h : a.Mirrors b) : a.sense.noteDirection.Mirrors b.sense.noteDirection := by
  rw [noteDirection_eq, noteDirection_eq]
  exact { h.sense with pulses := (if_pos rfl).trans (h.pulses.trans (if_pos rfl).symm) }

theorem observe (h : a.Mirrors b) : a.observe.Mirrors b.observe :=
  { h.look with alreadyThere := h.look.arrived }

/-! ### What a timer match does -/

theorem report (h : a.Mirrors b) (kind : NotificationKind) :
    (.ok (some (b.report kind)) : Except Fault _) = mirrorReport (.ok (some (a.report kind))) := by
  unfold Axis.report
  rw [h.handle, h.epoch, h.posAct]
  rfl

theorem halt (h : a.Mirrors b) : a.halt.Mirrors b.halt :=
  { h with
    mode := rfl
    opposed := fun hm => absurd rfl hm
    board := { h.board with timer := congrArg Timer.stop h.board.timer } }

theorem stopTimer (h : a.Mirrors b) : a.stopTimer.Mirrors b.stopTimer :=
  { h with board := { h.board with timer := congrArg Timer.stop h.board.timer } }

theorem ramped (h : a.Mirrors b) (hm : a.mode ≠ .stopped) (nowMs : Nat) :
    (a.ramped nowMs).Mirrors (b.ramped nowMs) :=
  { h with
    ramp := h.nextRamp hm nowMs
    board := { h.board with
      timer := by
        show writtenTimer b.board.timer _ = writtenTimer a.board.timer _
        rw [h.board.timer, h.nextRamp hm] } }

theorem stepped (h : a.Mirrors b) (hm : a.mode ≠ .stopped) (ha : a.board.dirLevel = a.dir.level)
    (hb : b.board.dirLevel = b.dir.level) (hstraight : a.IsStraight) (hstraight' : b.IsStraight)
    (hreach : Position.HasOpposite a.board.toggleStep.position) (n : Nat) :
    (a.stepped n).Mirrors (b.stepped n) := by
  have hdir : b.dir = a.dir.opposite := h.opposed hm
  have hlevel : b.board.dirLevel = !a.board.dirLevel := by
    rw [ha, hb, hdir, Direction.level_opposite]
  exact { h with
    board := h.board.toggleStep hlevel hreach
    completed := congrArg (Count.add · 1) h.completed
    pulses := (if_pos hstraight').trans (if_pos hstraight).symm }

/-- Two half-steps leave the same count since the last report. -/
theorem halfStep (h : a.Mirrors b) (hm : a.mode ≠ .stopped) (ha : a.board.dirLevel = a.dir.level)
    (hb : b.board.dirLevel = b.dir.level) (hstraight : a.IsStraight) (hstraight' : b.IsStraight)
    (hreach : Position.HasOpposite a.halfStep.1.board.position) :
    a.halfStep.1.Mirrors b.halfStep.1 ∧ b.halfStep.2 = mirrorReport a.halfStep.2 := by
  have hboard : a.halfStep.1.board = a.board.toggleStep := by
    obtain ⟨n, heq, _⟩ := halfStep_cases a
    rw [heq]
    rfl
  rw [hboard] at hreach
  have hcount : b.halfPulses = a.halfPulses :=
    (if_pos hstraight').symm.trans (h.pulses.trans (if_pos hstraight))
  have hsame : Count.checkedAdd b.halfPulses 1 = Count.checkedAdd a.halfPulses 1 := by rw [hcount]
  have hinterval : b.config.reportInterval = a.config.reportInterval := by rw [h.config]
  have hnext := fun n => h.stepped hm ha hb hstraight hstraight' hreach n
  unfold Axis.halfStep
  dsimp only
  rw [hsame, hinterval]
  split
  · have hkept := hnext a.halfPulses
    rw [← hcount] at hkept
    refine ⟨?_, rfl⟩
    rw [← hcount]
    exact hkept
  · rename_i n _
    split
    · exact ⟨hnext 0, h.report .progress⟩
    · exact ⟨hnext n, rfl⟩

/-- A move that has not come to its end goes on in the same way. -/
theorem advance (h : a.Mirrors b) (hm : a.mode ≠ .stopped) (ha : a.board.dirLevel = a.dir.level)
    (hb : b.board.dirLevel = b.dir.level) (hstraight : a.IsStraight) (hstraight' : b.IsStraight)
    (nowMs : Nat) (hreach : Position.HasOpposite (a.advance nowMs).1.board.position) :
    (a.advance nowMs).1.Mirrors (b.advance nowMs).1
      ∧ (b.advance nowMs).2 = mirrorReport (a.advance nowMs).2 := by
  have hramped := h.ramped hm nowMs
  unfold Axis.advance at hreach ⊢
  rw [advanceRamp_eq] at hreach ⊢
  rw [advanceRamp_eq, h.ramp, h.nextRamp hm, h.board.timer]
  cases hdue : a.ramp.due nowMs with
  | false =>
      simp only [hdue, Bool.false_eq_true, if_false] at hreach ⊢
      exact h.halfStep hm ha hb hstraight hstraight' hreach
  | true =>
      simp only [hdue, if_true] at hreach ⊢
      cases hacc : a.board.timer.accepts (a.nextRamp nowMs).current with
      | true =>
          simp only [hacc] at hreach
          exact hramped.halfStep hm ha hb hstraight hstraight' hreach
      | false => exact ⟨hramped.halt, hramped.report .timerFault⟩

end Mirrors

variable {a b : Axis}

/-- **A timer match does the same to both mirror images,** if the position that it leaves has an
opposite. -/
theorem mirror_tick (h : a.Mirrors b) (hthreshold : 1 ≤ a.config.posThreshold)
    (ha : a.board.dirLevel = a.dir.level) (hb : b.board.dirLevel = b.dir.level) (nowMs : Nat)
    (hreach : Position.HasOpposite (a.tick nowMs).1.board.position) :
    (a.tick nowMs).1.Mirrors (b.tick nowMs).1 ∧ (b.tick nowMs).2 = mirrorReport (a.tick nowMs).2 := by
  by_cases hstill : a.mode = .stopped
  · rw [tick_stopped hstill, tick_stopped (h.mode.trans hstill)]
    exact ⟨h, rfl⟩
  · have hm : a.mode.isMoving = true := by simp [Mode.isMoving, hstill]
    have hm' : b.mode.isMoving = true := by rw [h.mode, hm]
    have hlook := h.observe
    have hthere : b.observe.alreadyThere = a.observe.alreadyThere := hlook.alreadyThere
    obtain ⟨_, _, _, hobs⟩ := observe_eq a
    obtain ⟨_, _, _, hobs'⟩ := observe_eq b
    have hmode : a.observe.mode ≠ .stopped := by
      rw [hobs]
      exact hstill
    have hfits : 1 ≤ a.observe.config.posThreshold := by
      rw [hobs]
      exact hthreshold
    have hlevel : a.observe.board.dirLevel = a.observe.dir.level := by
      rw [hobs]
      exact ha
    have hlevel' : b.observe.board.dirLevel = b.observe.dir.level := by
      rw [hobs']
      exact hb
    -- the questions of a match in turn: is it there, is it beyond the setpoint, where does it go on
    rw [tick, if_pos hm] at hreach ⊢
    rw [tick, if_pos hm']
    dsimp only at hreach ⊢
    rw [hthere]
    cases hopen : a.observe.alreadyThere with
    | true => exact ⟨hlook.halt, hlook.report .completed⟩
    | false =>
        have hnot : a.observe.arrived = false := hopen
        rw [hlook.overshot hfits hnot]
        simp only [hopen, Bool.false_eq_true, if_false] at hreach ⊢
        cases hover : a.observe.overshot with
        | true => exact ⟨hlook.stopTimer, hlook.report .overshoot⟩
        | false =>
            simp only [hover, Bool.false_eq_true, if_false] at hreach ⊢
            exact hlook.advance hmode hlevel hlevel' (straight_observe a) (straight_observe b) nowMs
              hreach

theorem Mirrors.watchProgress (h : a.Mirrors b) (pos : Int) :
    (a.watchProgress pos).1.Mirrors (b.watchProgress (-pos)).1
      ∧ (b.watchProgress (-pos)).2 = (a.watchProgress pos).2 := by
  have hmoved : b.movedTo (-pos) = a.movedTo pos := by
    unfold movedTo
    rw [h.lastPos, Position.abs_sub_neg]
  have hcount : (a.countProgress pos).Mirrors (b.countProgress (-pos)) :=
    { h with
      stalledCount := by
        simp only [Axis.countProgress, hmoved, h.config, h.stalledCount] }
  unfold Axis.watchProgress
  dsimp only
  rw [h.config, h.mode, hcount.stalledCount, hcount.config]
  split
  · split
    · exact ⟨{ hcount.halt with stalled := rfl }, rfl⟩
    · exact ⟨hcount, rfl⟩
  · exact ⟨h, rfl⟩

/-- **The reports of both mirror images are judged in the same way.** -/
theorem mirror_inspect (h : a.Mirrors b) (note : Notification) :
    (a.inspect note).1.Mirrors (b.inspect note.mirror).1
      ∧ (b.inspect note.mirror).2 = (a.inspect note).2 := by
  have hnote : ∀ {c d : Axis}, c.Mirrors d →
      Mirrors { c with lastPos := note.posAct } { d with lastPos := -note.posAct } :=
    fun h => { h with lastPos := rfl }
  have hcurrent : note.mirror.epoch = b.epoch ↔ note.epoch = a.epoch := by
    rw [h.epoch]
    exact Iff.rfl
  have hkind : note.mirror.kind = note.kind := rfl
  unfold inspect
  by_cases hepoch : note.epoch = a.epoch
  · rw [if_pos hepoch, if_pos (hcurrent.mpr hepoch), hkind]
    cases note.kind with
    | progress => exact (h.watchProgress note.posAct).imp hnote id
    | completed => exact ⟨hnote h, rfl⟩
    | overshoot => exact ⟨hnote h, rfl⟩
    | timerFault => exact ⟨hnote h, rfl⟩
  · rw [if_neg hepoch, if_neg (mt hcurrent.mp hepoch)]
    exact ⟨h, rfl⟩

end Axis

end StepperMotion
