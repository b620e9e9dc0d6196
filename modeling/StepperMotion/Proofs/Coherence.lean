import StepperMotion.Proofs.Effect

/-!
# What holds of an axis at all times

The mode, the timer, the direction line and the counters of an axis are written by different
operations, each of which writes only some of them. `Coherent` is what they keep up together. It
survives even a failed computation: the controller fails when a closed-loop move has been set up,
and by then mode, direction and counters belong to that move already.

`Armed` does not survive it. A move that is set up while the timer still runs has a new ramp, and
the timer gets to know only when the move is launched. So `Armed` is stated for operations that do
not fail.
-/

namespace StepperMotion

namespace Axis

/-- Mode, timer, direction line and counters of an axis agree. -/
structure Coherent (a : Axis) : Prop where
  /-- The timer runs in a move only. -/
  moving : a.isRunning = true → a.mode ≠ .stopped
  /-- The direction line shows the direction. -/
  level : a.board.dirLevel = a.dir.level
  /-- A move whose timer rests is a closed-loop move, or it was halted for a change of direction. -/
  resting : a.mode ≠ .stopped → a.isRunning = false →
    a.mode = .closedLoop ∨ a.quiescedEpoch = some a.epoch
  /-- A move by steps makes no more half-steps than it has to. -/
  counted : a.mode = .steps → a.halfStepsCompleted ≤ a.halfStepsRequested

/-- A running timer has the frequency of the ramp. -/
def Armed (a : Axis) : Prop := a.isRunning = true → a.board.timer.freq = a.ramp.current

theorem coherent_create (h : Nat) (own : AxisConfig) (board : Board) (config : MotionConfig) :
    (create h own board config).Coherent where
  moving hr := by simp [create, isRunning, Board.setDir, Board.setStep, Board.initTimer] at hr
  level := rfl
  resting hm := absurd rfl hm
  counted hs := by simp [create] at hs

theorem Coherent.sense {a : Axis} (h : a.Coherent) : a.sense.Coherent :=
  ⟨h.moving, h.level, h.resting, h.counted⟩

/-! ## The end of a move -/

theorem Coherent.halt {a : Axis} (h : a.Coherent) : a.halt.Coherent where
  moving hr := by simp [Axis.halt, stopTimer, isRunning, Board.stopTimer, Timer.stop] at hr
  level := h.level
  resting hm := absurd rfl hm
  counted hs := by simp [Axis.halt] at hs

theorem Coherent.tripStall {a : Axis} (h : a.Coherent) : a.tripStall.Coherent :=
  ⟨h.halt.moving, h.halt.level, h.halt.resting, h.halt.counted⟩

/-- A closed-loop move may wait with its timer at rest. -/
theorem Coherent.stopTimer {a : Axis} (h : a.Coherent) (hm : a.mode = .closedLoop) :
    a.stopTimer.Coherent where
  moving hr := by simp [Axis.stopTimer, isRunning, Board.stopTimer, Timer.stop] at hr
  level := h.level
  resting _ _ := Or.inl hm
  counted := h.counted

/-- A new epoch of an axis at rest. -/
theorem Coherent.nextEpoch {a : Axis} (h : a.Coherent) (hm : a.mode = .stopped) :
    a.nextEpoch.Coherent where
  moving := h.moving
  level := h.level
  resting hm' := absurd hm hm'
  counted := h.counted

theorem Coherent.quiesce {a : Axis} (h : a.Coherent) : a.quiesce.Coherent where
  moving hr := by
    simp [Axis.quiesce, Axis.nextEpoch, Axis.stopTimer, isRunning, Board.stopTimer,
      Timer.stop] at hr
  level := h.level
  resting _ _ := Or.inr rfl
  counted := h.counted

theorem Coherent.finishInPlace {a : Axis} (h : a.Coherent) : a.finishInPlace.Coherent := by
  rcases finishInPlace_cases a with ⟨hm, heq⟩ | ⟨_, heq⟩ <;> rw [heq]
  · have hnext := h.nextEpoch hm
    exact ⟨hnext.moving, hnext.level, hnext.resting, hnext.counted⟩
  · have hnext := h.halt.nextEpoch rfl
    exact ⟨hnext.moving, hnext.level, hnext.resting, hnext.counted⟩

theorem Coherent.stop {a : Axis} (h : a.Coherent) : a.stop.axis.Coherent := by
  rcases stop_cases a with ⟨_, heq, _⟩ | ⟨_, heq, _⟩ <;> rw [heq]
  · exact h
  · exact h.halt.nextEpoch rfl

/-! ## The beginning of a move -/

/-- A plan is set up coherently whatever the axis did before, the timer apart. -/
theorem coherent_launch (a : Axis) (p : Plan) (freq : Nat) (line : String)
    (hm : p.mode ≠ .stopped) : ((a.setUp p).nextEpoch.launch freq line).axis.Coherent := by
  rcases launch_cases (a.setUp p).nextEpoch freq line with
    ⟨_, _, h⟩ | ⟨_, _, _, h⟩ | ⟨_, _, _, h⟩
  · -- the frequency was outside the limits
    rw [h]
    refine ⟨?_, rfl, fun hs => absurd rfl hs, ?_⟩
    · intro hr
      simp [Axis.halt, Axis.stopTimer, isRunning, Board.stopTimer, Timer.stop] at hr
    · intro hs
      simp [Axis.halt] at hs
  · -- the timer refused it
    rw [h]
    refine ⟨?_, rfl, fun hs => absurd rfl hs, ?_⟩
    · intro hr
      simp [isRunning, refusingTimer] at hr
    · intro hs
      simp at hs
  · -- the timer runs
    rw [h]
    refine ⟨fun _ => hm, rfl, ?_, fun _ => Nat.zero_le _⟩
    intro _ hr
    simp [isRunning, armedTimer] at hr

/-- A closed-loop move that failed when it had been set up. -/
theorem coherent_setUp {a : Axis} {p : Plan} (hm : p.mode = .closedLoop) :
    (a.setUp p).Coherent where
  moving _ := by
    show p.mode ≠ .stopped
    rw [hm]
    simp
  level := rfl
  resting _ _ := Or.inl hm
  counted _ := Nat.zero_le _

theorem plans_moving {a : Axis} {nowMs : Nat} {c : Command} {p : Plan} (h : a.Plans nowMs c p) :
    p.mode ≠ .stopped := by
  cases h <;> simp [freeRunPlan, stepsPlan, closedLoopPlan]

theorem Coherent.carried {a b : Axis} {nowMs : Nat} {c : Command} {r : Except Failure Outcome}
    (h : a.Coherent) (hc : a.Carried nowMs c b r) : b.Coherent := by
  cases hc with
  | launched hp => exact coherent_launch a _ _ _ (plans_moving hp)
  | failed _ hm => exact coherent_setUp hm
  | @arrived setpoint _ =>
      have hseek : ({ a with posCmd := setpoint } : Axis).sense.Coherent :=
        ⟨h.moving, h.level, h.resting, h.counted⟩
      exact hseek.finishInPlace
  | stopped _ => exact h.stop

/-! ## A timer match -/

theorem Coherent.observe {a : Axis} (h : a.Coherent) : a.observe.Coherent := by
  obtain ⟨_, _, _, heq⟩ := observe_eq a
  rw [heq]
  exact ⟨h.moving, h.level, h.resting, h.counted⟩

theorem Coherent.ramped {a : Axis} (h : a.Coherent) (nowMs : Nat) :
    (a.ramped nowMs).Coherent where
  moving hr := h.moving ((writtenTimer_running ..).symm.trans hr)
  level := h.level
  resting hm hr := h.resting hm ((writtenTimer_running ..).symm.trans hr)
  counted := h.counted

/-- A half-step is made only when there is one left to make. -/
theorem Coherent.stepped {a : Axis} (h : a.Coherent)
    (hleft : a.mode = .steps → a.halfStepsCompleted < a.halfStepsRequested) (n : Nat) :
    (a.stepped n).Coherent where
  moving := h.moving
  level := h.level
  resting := h.resting
  counted hs := Nat.le_trans (Nat.min_le_left ..) (hleft hs)

/-- A move by steps that has not arrived has half-steps left. -/
theorem left_of_observe {a : Axis} (h : a.observe.alreadyThere = false)
    (hs : a.mode = .steps) : a.halfStepsCompleted < a.halfStepsRequested := by
  have hnote : a.sense.noteDirection.mode = a.mode
      ∧ a.sense.noteDirection.halfStepsRequested = a.halfStepsRequested
      ∧ a.sense.noteDirection.halfStepsCompleted = a.halfStepsCompleted := by
    unfold noteDirection
    split <;> exact ⟨rfl, rfl, rfl⟩
  have harr : a.sense.noteDirection.arrived = false := h
  rw [arrived, hnote.1, hs] at harr
  dsimp only at harr
  rw [hnote.2.1, hnote.2.2] at harr
  exact Nat.not_le.mp (of_decide_eq_false harr)

theorem Coherent.served {a b : Axis} {nowMs : Nat} {r : Except Fault (Option Notification)}
    (h : a.Coherent) (hserved : a.Served nowMs b r) : b.Coherent := by
  obtain ⟨_, _, _, heq⟩ := observe_eq a
  have hmode : a.observe.mode = a.mode := by rw [heq]
  have hcount : a.observe.halfStepsCompleted = a.halfStepsCompleted
      ∧ a.observe.halfStepsRequested = a.halfStepsRequested := by
    rw [heq]
    exact ⟨rfl, rfl⟩
  cases hserved with
  | idle _ => exact h
  | arrived _ _ => exact h.observe.halt
  | overshot hm _ _ => exact h.observe.stopTimer (hmode.trans hm)
  | refused _ _ _ _ _ => exact (h.observe.ramped nowMs).halt
  | stepped _ hthere _ hb _ =>
      have hleft : a.observe.mode = .steps →
          a.observe.halfStepsCompleted < a.observe.halfStepsRequested := by
        intro hs
        rw [hcount.1, hcount.2]
        exact left_of_observe hthere (hmode.symm.trans hs)
      rcases hb with ⟨_, rfl⟩ | ⟨_, _, rfl⟩
      · exact h.observe.stepped hleft _
      · exact (h.observe.ramped nowMs).stepped hleft _

/-! ## Every operation -/

theorem Coherent.effect {a b : Axis} {o : Operation} {f? : Option Fault} (h : a.Coherent)
    (he : a.Effect o b f?) : b.Coherent := by
  cases he with
  | nothing => exact h
  | carried hc => exact h.carried hc
  | served hserved => exact h.served hserved
  | looked => exact h.sense
  | halted _ hb =>
      rcases hb with rfl | rfl
      · exact h.quiesce
      · exact h.sense.quiesce
  | @judged _ b _ _ hb =>
      have hcoh : b.Coherent := by
        rcases hb with rfl | rfl
        · exact h
        · exact h.tripStall
      exact ⟨hcoh.moving, hcoh.level, hcoh.resting, hcoh.counted⟩
  | tripped => exact h.tripStall
  | recorded _ => exact ⟨h.moving, h.level, h.resting, h.counted⟩
  | arranged => exact ⟨h.moving, h.level, h.resting, h.counted⟩

theorem Coherent.perform {a : Axis} (h : a.Coherent) (o : Operation) :
    (a.perform o).1.Coherent := h.effect (effect_perform a o)

/-- Every axis that was ever created is coherent, whatever was done to it since. -/
theorem coherent_after (handle : Nat) (own : AxisConfig) (board : Board) (config : MotionConfig)
    (ops : List Operation) : ((create handle own board config).after ops).Coherent :=
  after_induction (P := Coherent) (fun _ o h => h.perform o)
    (coherent_create handle own board config) ops

/-! ## The frequency of a running timer -/

theorem armed_of_rest {a : Axis} (h : a.isRunning = false) : a.Armed := by
  intro hr
  rw [h] at hr
  exact absurd hr (by simp)

theorem armed_launch (a : Axis) {p : Plan} {line : String} :
    ((a.setUp p).nextEpoch.launch p.ramp.current line).axis.Armed := by
  rcases launch_cases (a.setUp p).nextEpoch p.ramp.current line with
    ⟨_, _, h⟩ | ⟨_, _, _, h⟩ | ⟨_, _, _, h⟩ <;> rw [h]
  · exact armed_of_rest rfl
  · exact armed_of_rest rfl
  · exact fun _ => rfl

/-- An axis that is not moving has its timer at rest, so that nothing is left to be armed. -/
theorem armed_stop {a : Axis} (h : a.Armed) : a.stop.axis.Armed := by
  rcases stop_cases a with ⟨_, heq, _⟩ | ⟨_, heq, _⟩ <;> rw [heq]
  · exact h
  · exact armed_of_rest rfl

theorem armed_finishInPlace {a : Axis} (h : a.Armed) : a.finishInPlace.Armed := by
  rcases finishInPlace_cases a with ⟨_, heq⟩ | ⟨_, heq⟩ <;> rw [heq]
  · exact h
  · exact armed_of_rest rfl

theorem Armed.carried {a b : Axis} {nowMs : Nat} {c : Command} {r : Except Failure Outcome}
    (h : a.Armed) (hc : a.Carried nowMs c b r) (hf : (Reply.outcome r).fault? = none) :
    b.Armed := by
  cases hc with
  | launched _ => exact armed_launch a
  | failed _ _ => exact absurd hf (by simp [Reply.fault?])
  | @arrived setpoint _ =>
      have hseek : ({ a with posCmd := setpoint } : Axis).sense.Armed := h
      exact armed_finishInPlace hseek
  | stopped _ => exact armed_stop h

theorem Armed.served {a b : Axis} {nowMs : Nat} {r : Except Fault (Option Notification)}
    (h : a.Armed) (hserved : a.Served nowMs b r) : b.Armed := by
  obtain ⟨_, _, _, hobs⟩ := observe_eq a
  have hlook : a.observe.Armed := by
    rw [hobs]
    exact h
  cases hserved with
  | idle _ => exact h
  | arrived _ _ => exact armed_of_rest rfl
  | overshot _ _ _ => exact armed_of_rest rfl
  | refused _ _ _ _ _ => exact armed_of_rest rfl
  | stepped _ _ _ hb _ =>
      rcases hb with ⟨_, rfl⟩ | ⟨_, hacc, rfl⟩
      · exact hlook
      · -- the timer took the frequency that the ramp has now
        have htimer : a.observe.board.timer = a.board.timer := by rw [hobs]
        intro _
        show (writtenTimer a.observe.board.timer _).freq = _
        rw [htimer, writtenTimer, if_pos hacc]
        rfl

theorem Armed.effect {a b : Axis} {o : Operation} {f? : Option Fault} (h : a.Armed)
    (he : a.Effect o b f?) (hf : f? = none) : b.Armed := by
  cases he with
  | nothing => exact h
  | carried hc => exact h.carried hc hf
  | served hserved => exact h.served hserved
  | looked => exact h
  | halted _ _ => exact armed_of_rest rfl
  | judged hb =>
      rcases hb with rfl | rfl
      · exact h
      · exact armed_of_rest rfl
  | tripped => exact armed_of_rest rfl
  | recorded _ => exact h
  | arranged => exact h

/-- **Whatever was done to an axis without a failure, its mode, timer, direction line and counters
agree.** The timer runs in a move only, and then at the frequency of the ramp; a move whose timer
rests is a closed-loop move or was halted for a change of direction. -/
theorem core_invariant (handle : Nat) (own : AxisConfig) (board : Board) (config : MotionConfig)
    (ops : List Operation)
    (hok : ∀ r ∈ (create handle own board config).replies ops, r.fault? = none) :
    let a := (create handle own board config).after ops
    (a.isRunning = true → a.mode ≠ .stopped ∧ a.board.timer.freq = a.ramp.current)
    ∧ a.board.dirLevel = a.dir.level
    ∧ (a.mode ≠ .stopped → a.isRunning = false →
        a.mode = .closedLoop ∨ a.quiescedEpoch = some a.epoch)
    ∧ (a.mode = .steps → a.halfStepsCompleted ≤ a.halfStepsRequested) := by
  intro a
  -- of the two invariants only `Armed` needs that nothing failed
  have hcoh : a.Coherent := coherent_after handle own board config ops
  have harmed : a.Armed :=
    after_induction_of_no_fault (P := Armed) (fun a o h hf => h.effect (effect_perform a o) hf)
      (armed_of_rest rfl) ops hok
  exact ⟨fun hr => ⟨hcoh.moving hr, harmed hr⟩, hcoh.level, hcoh.resting, hcoh.counted⟩

/-- A free run is served, halted for a change of direction, and reversed. -/
theorem core_invariant_of_reversal :
    let ops : List Operation := [.apply (.freeRun .clockwise 1) 0, .tick 1,
      .beginDirectionChange (.freeRun .counterClockwise 1),
      .apply (.freeRun .counterClockwise 1) 500]
    (∀ r ∈ (create 0 ⟨"x", 0, none⟩ {} {}).replies ops, r.fault? = none)
    ∧ ((create 0 ⟨"x", 0, none⟩ {} {}).after ops).isRunning = true
    ∧ ((create 0 ⟨"x", 0, none⟩ {} {}).after ops).mode ≠ .stopped := by
  intro ops
  have hok : ∀ r ∈ (create 0 ⟨"x", 0, none⟩ {} {}).replies ops, r.fault? = none := by decide
  have hrun : ((create 0 ⟨"x", 0, none⟩ {} {}).after ops).isRunning = true := by decide
  exact ⟨hok, hrun, ((core_invariant 0 ⟨"x", 0, none⟩ {} {} ops hok).1 hrun).1⟩

end Axis

end StepperMotion
