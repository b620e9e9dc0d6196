import StepperMotion.Proofs.Limits
import StepperMotion.Proofs.Stride

/-!
# Moves by steps are exact

A move by steps makes two half-steps a step, one a match, and the match after the last of them ends
it. Of two half-steps one is a rising edge, so that the shaft has been moved by one count a step,
whatever level the step line had when the move began (`steps_exact`).
-/

namespace StepperMotion

namespace Axis

variable {a : Axis} {d : Direction} {level count periodMs divisor nowMs : Nat}

/-- The ramp of a checked move by steps starts within the limits of the axis. -/
theorem steps_inLimits (hsound : a.config.Sound) {freq : Nat}
    (hf : a.config.freeRunFreq level = .ok (some freq)) (halfSteps : Nat) :
    (a.setUp (a.stepsPlan d freq halfSteps periodMs divisor nowMs)).nextEpoch.InLimits
      (a.stepsPlan d freq halfSteps periodMs divisor nowMs).ramp.current := by
  obtain ⟨hlow, hhigh⟩ := hsound.levels level freq hf
  exact (Ramp.trapezoid_within hlow hhigh divisor a.config.slopeRatio periodMs nowMs).current

/-- What a move by steps that has been started begins with. -/
structure StepsBegun (a b : Axis) (d : Direction) (count : Nat) : Prop where
  runs : b.isRunning = true
  mode : b.mode = .steps
  dir : b.dir = d
  level : b.board.dirLevel = d.level
  requested : b.halfStepsRequested = 2 * count
  completed : b.halfStepsCompleted = 0
  pulses : b.halfPulses = 0
  position : b.board.position = a.board.position
  frozen : b.board.frozen = a.board.frozen

/-- **A checked move by steps is started,** if the timer takes the first frequency. -/
theorem steps_begun (hconfig : a.config.validate = .ok ())
    (hvalid : a.validate (.steps d level count periodMs divisor) = .ok ())
    (htakes : a.TakesAll [.apply (.steps d level count periodMs divisor) nowMs]) :
    (∃ freq, (a.apply (.steps d level count periodMs divisor) nowMs).answer = .ok (.started freq))
      ∧ a.StepsBegun (a.apply (.steps d level count periodMs divisor) nowMs).axis d count := by
  have hsound := MotionConfig.sound_of_validate hconfig
  rcases apply_cases a (.steps d level count periodMs divisor) nowMs with
    ⟨e, hrefused, _⟩ | ⟨_, hcarried⟩
  · exact absurd (hrefused.symm.trans hvalid) (by simp)
  · have hnews : ∀ w ∈ ((a.apply (.steps d level count periodMs divisor) nowMs).axis.board.since
        a.board).written, w.accepted = true := htakes
    generalize (a.apply (.steps d level count periodMs divisor) nowMs).axis = b at hcarried hnews ⊢
    generalize (a.apply (.steps d level count periodMs divisor) nowMs).answer = r at hcarried ⊢
    cases hcarried with
    | @launched _ line hp _ =>
        cases hp with
        | steps hf =>
            obtain ⟨hanswer, haxis⟩ := launch_taken (steps_inLimits hsound hf (count * 2)) hnews
            rw [haxis]
            exact ⟨⟨_, hanswer⟩, rfl, rfl, rfl, rfl, Nat.mul_comm .., rfl, rfl, rfl, rfl⟩
    | failed _ _ hf => exact absurd hf (by simp [fault?])
    | arrived hc _ => exact absurd hc (by simp)
    | stopped hc => exact absurd hc (by simp)

/-- **A move by steps makes its half-steps and ends.** -/
theorem steps_paced {b : Axis} (hbegun : a.StepsBegun b d count) (hcount : count ≤ maxStepCount)
    {times : Nat → Nat} (htakes : b.TakesAll (ticks times (2 * count))) :
    b.Paces times (2 * count)
      ∧ (b.after (ticks times (2 * count))).Completes (b.after (ticks times (2 * count + 1)))
        ((b.after (ticks times (2 * count))).tick (times (2 * count))).2
      ∧ (b.after (ticks times (2 * count))).halfStepsCompleted = 2 * count := by
  have hmax : 2 * maxStepCount < Count.limit := by decide
  have hlevel : b.board.dirLevel = b.dir.level := by rw [hbegun.level, hbegun.dir]
  have hmoving : b.mode ≠ .stopped := by simp [hbegun.mode]
  -- whether the move has arrived is a matter of the count alone, which cannot run over
  have harrived : ∀ k ≤ 2 * count, ∀ c : Axis, b.Strode c k →
      c.sense.arrived = decide (2 * count ≤ k) ∧ c.halfStepsCompleted = k := by
    intro k hk c hc
    have hmade : c.halfStepsCompleted = k := by
      rw [hc.completed hbegun.completed]
      omega
    refine ⟨?_, hmade⟩
    unfold arrived
    simp only [sense, hc.mode, hbegun.mode, hc.requested, hbegun.requested, hmade]
  have hpaces : b.Paces times (2 * count) := by
    refine paces_of_way hmoving hbegun.runs hlevel htakes fun k hk hstrode => ⟨?_, ?_, ?_⟩
    · rw [(harrived k (Nat.le_of_lt hk) _ hstrode).1]
      exact decide_eq_false (Nat.not_le.mpr hk)
    · unfold overshot
      simp [sense, hstrode.mode, hbegun.mode]
    · have hpulses := hstrode.pulses
      have hnone := hbegun.pulses
      omega
  have hlast := hpaces.strode (2 * count) (Nat.le_refl _)
  obtain ⟨hthere, hmade⟩ := harrived _ (Nat.le_refl _) _ hlast
  refine ⟨hpaces, ?_, hmade⟩
  rw [after_ticks_succ]
  exact completes_of_arrived (hlast.mode ▸ hmoving) (by simp [hthere]) _

/-- **Moves by steps are exact.** The move is started. Each of the next `2 * count` timer matches
makes one half-step, and reports progress at most; the one after them makes none and ends the move.
A shaft that is free has then been moved by `count` positions. -/
theorem steps_exact (hconfig : a.config.validate = .ok ())
    (hvalid : a.validate (.steps d level count periodMs divisor) = .ok ()) (times : Nat → Nat)
    (htakes : a.TakesAll
      (.apply (.steps d level count periodMs divisor) nowMs :: ticks times (2 * count + 1))) :
    ∃ b freq, (a.apply (.steps d level count periodMs divisor) nowMs).axis = b
      ∧ (a.apply (.steps d level count periodMs divisor) nowMs).answer = .ok (.started freq)
      ∧ (∀ k < 2 * count, ∃ note?, ((b.after (ticks times k)).tick (times k)).2 = .ok note?
        ∧ (b.after (ticks times k)).Advances (b.after (ticks times (k + 1))) note?)
      ∧ (b.after (ticks times (2 * count))).Completes (b.after (ticks times (2 * count + 1)))
        ((b.after (ticks times (2 * count))).tick (times (2 * count))).2
      ∧ (b.after (ticks times (2 * count + 1))).halfStepsCompleted = 2 * count
      ∧ (a.board.frozen = false → Position.lowest ≤ a.board.position →
        a.board.position ≤ Position.highest →
        (b.after (ticks times (2 * count + 1))).board.position
          = Position.wrap (match d with
            | .clockwise => a.board.position - count
            | .counterClockwise => a.board.position + count)) := by
  obtain ⟨hfirst, hrest⟩ := takesAll_cons.mp htakes
  have hcount : count ≤ maxStepCount := (checkSteps_ok.mp (validate_ok.mp hvalid).2).2
  obtain ⟨⟨freq, hanswer⟩, hbegun⟩ := steps_begun hconfig hvalid hfirst
  obtain ⟨hpaces, hend, hmade⟩ := steps_paced hbegun hcount
    (takesAll_fewer hrest (Nat.le_succ _))
  refine ⟨_, freq, rfl, hanswer, fun k hk => hpaces.advances hk, hend, hend.completed.trans hmade,
    fun hfree hlow hhigh => ?_⟩
  have hstart : Position.wrap a.board.position = a.board.position :=
    Position.wrap_of_mem hlow hhigh
  have hshaft := (hpaces.strode _ (Nat.le_refl _)).board.position (hbegun.frozen.trans hfree)
    (by rw [hbegun.position, hstart])
  rw [hend.position, hshaft, hbegun.position, hbegun.dir, risen_double]
  cases d with
  | clockwise =>
      congr 1
      show a.board.position + -1 * (count : Int) = a.board.position - count
      omega
  | counterClockwise =>
      congr 1
      show a.board.position + 1 * (count : Int) = a.board.position + count
      omega

/-- An axis at the lowest position, with its step line high. -/
def atBottom : Axis :=
  let a := create 0 ⟨"x", 0, none⟩ {} {}
  { a with board := { a.board with stepLevel := true, position := Position.lowest } }

/-- Three steps down from the lowest position. -/
theorem steps_exact_of_atBottom :
    atBottom.config.validate = .ok () ∧ atBottom.validate (.steps .clockwise 1 3 10 4) = .ok ()
      ∧ atBottom.TakesAll (.apply (.steps .clockwise 1 3 10 4) 0 :: ticks (7 * ·) 7)
      ∧ ((atBottom.apply (.steps .clockwise 1 3 10 4) 0).axis.after
        (ticks (7 * ·) 7)).board.position = Position.highest - 2 := by
  have hconfig : atBottom.config.validate = .ok () := by decide
  have hvalid : atBottom.validate (.steps .clockwise 1 3 10 4) = .ok () := by decide
  have htakes : atBottom.TakesAll (.apply (.steps .clockwise 1 3 10 4) 0 :: ticks (7 * ·) 7) := by
    decide +kernel
  obtain ⟨_, _, rfl, _, _, _, _, hposition⟩ := steps_exact hconfig hvalid (7 * ·) htakes
  exact ⟨hconfig, hvalid, htakes, hposition rfl (by decide) (by decide)⟩

end Axis

end StepperMotion
