import StepperMotion.Proofs.Commandable

/-!
# An axis on which nothing fails

A computation may fail in three places: a frequency that cannot be counted, a controller that has no
output, and the count of the half-steps since the last report. An accepted configuration and usable
limits rule out the first two (`Steady`). The third is out of reach, because a report is due long before
the count comes near the limit of counters (`Paced`).
-/

namespace StepperMotion

open Axis (Operation)

namespace Axis

/-! ## Counting the half-steps since a report -/

/-- Fewer half-steps have been made since the last report than are between two reports. -/
def Paced (a : Axis) : Prop := a.halfPulses < max 1 a.config.reportInterval

theorem paced_of_none {a : Axis} (h : a.halfPulses = 0) : a.Paced := by
  unfold Paced
  omega

theorem Paced.same {a b : Axis} (h : a.Paced) (hpulses : b.halfPulses = a.halfPulses)
    (hconfig : b.config = a.config) : b.Paced := by
  unfold Paced
  rw [hpulses, hconfig]
  exact h

theorem Paced.observe {a : Axis} (h : a.Paced) : a.observe.Paced := by
  unfold Axis.observe noteDirection
  dsimp only
  split
  · exact h
  · exact paced_of_none rfl

theorem paced_carried {a b : Axis} {nowMs : Nat} {c : Command} {r : Except Failure Outcome}
    (h : a.Paced) (hc : a.Carried nowMs c b r) : b.Paced := by
  cases hc with
  | @launched p line _ _ =>
      obtain ⟨_, _, heq⟩ := launch_frame (a.setUp p).nextEpoch p.ramp.current line
      rw [heq]
      exact paced_of_none rfl
  | failed _ _ _ => exact paced_of_none rfl
  | @arrived setpoint _ _ =>
      obtain ⟨_, _, heq⟩ := finishInPlace_frame ({ a with posCmd := setpoint } : Axis).sense
      rw [heq]
      exact h.same rfl rfl
  | stopped _ =>
      obtain ⟨_, _, _, heq⟩ := stop_frame a
      rw [heq]
      exact h.same rfl rfl

theorem paced_served {a b : Axis} {nowMs : Nat} {r : Except Fault (Option Notification)}
    (h : a.Paced) (hserved : a.Served nowMs b r) : b.Paced := by
  have hlook := h.observe
  cases hserved with
  | idle _ => exact h
  | arrived _ _ => exact hlook.same rfl rfl
  | overshot _ _ _ => exact hlook.same rfl rfl
  | refused _ _ _ _ _ => exact hlook.same rfl rfl
  | @stepped b n _ _ _ _ hb hcounts =>
      have hbefore : b.Paced := by
        rcases hb with ⟨_, rfl⟩ | ⟨_, _, rfl⟩
        · exact hlook
        · exact hlook.same rfl rfl
      cases hcounts with
      | goesOn hmore =>
          show b.halfPulses + 1 < max 1 b.config.reportInterval
          omega
      | reports => exact paced_of_none rfl
      | fails _ => exact hbefore.same rfl rfl

theorem Paced.effect {a b : Axis} {o : Operation} {f? : Option Fault} (h : a.Paced)
    (he : a.Effect o b f?) : b.Paced := by
  cases he with
  | nothing => exact h
  | carried hc => exact paced_carried h hc
  | served hserved => exact paced_served h hserved
  | halted _ hb => rcases hb with rfl | rfl <;> exact h.same rfl rfl
  | judged hb => rcases hb with rfl | rfl <;> exact h.same rfl rfl
  | _ => exact h.same rfl rfl

/-- A count that is reported in time does not come near the limit of counters. -/
theorem Paced.counts {a : Axis} {n : Nat} {r : Except Fault (Option Notification)} (h : a.Paced)
    (hlimit : a.config.reportInterval ≤ Count.limit) (hc : a.Counts n r) : ∃ note?, r = .ok note? := by
  cases hc with
  | goesOn _ => exact ⟨_, rfl⟩
  | reports => exact ⟨_, rfl⟩
  | fails hover =>
      have hroom : 1 ≤ Count.limit := by decide
      unfold Paced at h
      omega

/-! ## When no computation fails -/

/-- Whatever is computed for the axis has a result: its frequencies can be counted, its controller
has an output, and its progress is reported in time. -/
structure Reliable (a : Axis) : Prop where
  steady : a.Steady
  paced : a.Paced
  limit : a.config.reportInterval ≤ Count.limit

theorem Reliable.perform {a : Axis} (h : a.Reliable) (o : Operation) : (a.perform o).1.Reliable where
  steady := h.steady.keeps (settings_perform a o)
  paced := h.paced.effect (effect_perform a o)
  limit := by
    rw [(settings_perform a o).config]
    exact h.limit

theorem OwnAnswer.sound {r : Except Failure Outcome} (h : OwnAnswer r) :
    (Reply.outcome r).fault? = none := by
  rcases h with ⟨_, rfl⟩ | ⟨_, rfl, _⟩ <;> rfl

theorem Reliable.served {a b : Axis} {nowMs : Nat} {r : Except Fault (Option Notification)}
    (h : a.Reliable) (hserved : a.Served nowMs b r) : (Reply.report r).fault? = none := by
  obtain ⟨_, _, _, hobs⟩ := observe_eq a
  have hpulses := h.paced.observe
  have hlimit : a.observe.config.reportInterval ≤ Count.limit := by
    rw [hobs]
    exact h.limit
  cases hserved with
  | stepped _ _ _ hb hcounts =>
      rcases hb with ⟨_, rfl⟩ | ⟨_, _, rfl⟩
      · obtain ⟨_, rfl⟩ := hpulses.counts hlimit hcounts
        rfl
      · have hramped := hpulses.same (b := a.observe.ramped nowMs) rfl rfl
        obtain ⟨_, rfl⟩ := hramped.counts hlimit hcounts
        rfl
  | _ => rfl

/-- **Nothing that is done to a reliable axis fails.** -/
theorem Reliable.sound {a : Axis} (h : a.Reliable) (o : Operation) :
    (a.perform o).2.fault? = none := by
  cases o with
  | apply c nowMs => exact (own_apply h.steady c nowMs).sound
  | resume epoch nowMs =>
      rcases resume_cases a epoch nowMs with ⟨_, heq⟩ | ⟨_, r, hans, hc⟩
      · simp only [Axis.perform, heq]
        rfl
      · simp only [Axis.perform, hans, fault_resumed]
        exact (own_carried h.steady hc).sound
  | tick nowMs => exact h.served (tick_served a nowMs)
  | _ => rfl

theorem Reliable.replies {a : Axis} (h : a.Reliable) (ops : List Operation) :
    ∀ r ∈ a.replies ops, r.fault? = none := by
  induction ops generalizing a with
  | nil => exact fun r hr => absurd hr (by simp [Axis.replies])
  | cons o ops ih =>
      intro r hr
      rcases List.mem_cons.mp hr with rfl | hrest
      · exact h.sound o
      · exact ih (h.perform o) r hrest

/-- A new axis is reliable if its configuration is accepted and its controller, if it has one, has
usable limits. -/
theorem reliable_create {config : MotionConfig} {own : AxisConfig}
    (hvalid : config.validate = .ok ()) (hwidth : config.reportInterval ≤ Count.limit)
    (husable : ∀ k, own.controller = some k → k.limits.Usable) (handle : Nat) (board : Board) :
    (create handle own board config).Reliable where
  steady := steady_create (MotionConfig.sound_of_validate hvalid) husable
  paced := paced_of_none rfl
  limit := hwidth

/-- **With an accepted configuration and usable limits, nothing that is ever done to an axis
fails:** no frequency is too large for a counter, no output of the controller is missing, and the
half-steps since a report can be counted, whatever the commands, the times and the encoder are. -/
theorem never_fails {config : MotionConfig} {own : AxisConfig}
    (hvalid : config.validate = .ok ()) (hwidth : config.reportInterval ≤ Count.limit)
    (husable : ∀ k, own.controller = some k → k.limits.Usable) (handle : Nat) (board : Board)
    (ops : List Operation) :
    ∀ r ∈ (create handle own board config).replies ops, r.fault? = none :=
  (reliable_create hvalid hwidth husable handle board).replies ops

/-- An axis with a controller seeks a setpoint, is turned beyond it, goes back, and is judged to be
stalled; then it is sent as many steps as can be counted. -/
def driven : List Operation :=
  [.apply (.closedLoop 500) 0, .tick 60, .place Position.highest, .tick 61, .resume 1 62, .tick 63,
    .inspect ⟨0, 2, Position.highest, .progress⟩, .beginDirectionChange (.closedLoop Position.lowest),
    .tripStall, .clearFaults, .apply (.steps .clockwise 8 maxStepCount 5 1) 64, .setOffset 7, .tick 65,
    .stop, .status]

theorem never_fails_of_driven :
    ({} : MotionConfig).validate = .ok ()
      ∧ (∀ k, some ({} : Proportional.Settings) = some k → k.limits.Usable)
      ∧ (create 0 ⟨"x", 0, some {}⟩ {} {}).replies (driven.take 5)
        = [.outcome (.ok (.started 12500)), .report (.ok none), .silent,
          .report (.ok (some ⟨0, 1, Position.highest, .overshoot⟩)),
          .resumed (some (.ok (.started 12500)))]
      ∧ ∀ r ∈ (create 0 ⟨"x", 0, some {}⟩ {} {}).replies driven, r.fault? = none := by
  have husable : ∀ k, some ({} : Proportional.Settings) = some k → k.limits.Usable :=
    fun k hk => Option.some.inj hk ▸ by decide
  exact ⟨rfl, husable, rfl, never_fails rfl (by decide) husable 0 {} driven⟩

end Axis

end StepperMotion
