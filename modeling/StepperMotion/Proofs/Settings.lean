import StepperMotion.Proofs.Effect

/-!
# What an axis is delivered with

The figures of the configuration and the settings of the controller are the same for the life of an
axis: a move may sample the controller, which leaves something in its memory, and nothing else is
ever done to either. So what was checked about them when the machine was built holds for good.
-/

namespace StepperMotion

namespace Axis

/-- The settings of the controller, if there is one. -/
def tuning? (a : Axis) : Option Proportional := a.controller.map Proportional.tuning

/-- What an axis was delivered with is left alone. -/
structure KeepsSettings (a b : Axis) : Prop where
  config : b.config = a.config
  tuning : b.tuning? = a.tuning?

theorem KeepsSettings.refl (a : Axis) : a.KeepsSettings a := ⟨rfl, rfl⟩

theorem KeepsSettings.trans {a b c : Axis} (h : a.KeepsSettings b) (h' : b.KeepsSettings c) :
    a.KeepsSettings c :=
  ⟨h'.config.trans h.config, h'.tuning.trans h.tuning⟩

/-- The controller that has been sampled for a move has its settings. -/
theorem tuning_chosen (a : Axis) (setpoint : Int) :
    (a.chosen setpoint).1.map Proportional.tuning = a.tuning? := by
  unfold chosen tuning?
  cases a.controller with
  | none => rfl
  | some k => exact congrArg some (k.tuning_sample setpoint a.board.position)

theorem settings_setUp {a : Axis} {nowMs : Nat} {c : Command} {p : Plan} (h : a.Plans nowMs c p) :
    a.KeepsSettings (a.setUp p) := by
  refine ⟨rfl, ?_⟩
  cases h with
  | freeRun _ => rfl
  | steps _ => rfl
  | closedLoop _ => exact tuning_chosen a _

theorem settings_carried {a b : Axis} {nowMs : Nat} {c : Command} {r : Except Failure Outcome}
    (h : a.Carried nowMs c b r) : a.KeepsSettings b := by
  cases h with
  | @launched p line hp _ =>
      obtain ⟨_, _, h⟩ := launch_frame (a.setUp p).nextEpoch p.ramp.current line
      rw [h]
      exact (settings_setUp hp).trans ⟨rfl, rfl⟩
  | failed hp _ _ => exact settings_setUp hp
  | @arrived setpoint _ _ =>
      obtain ⟨_, _, h⟩ := finishInPlace_frame ({ a with posCmd := setpoint } : Axis).sense
      rw [h]
      exact ⟨rfl, rfl⟩
  | stopped _ =>
      obtain ⟨_, _, _, h⟩ := stop_frame a
      rw [h]
      exact ⟨rfl, rfl⟩

theorem settings_served {a b : Axis} {nowMs : Nat} {r : Except Fault (Option Notification)}
    (h : a.Served nowMs b r) : a.KeepsSettings b := by
  obtain ⟨_, _, _, hobs⟩ := observe_eq a
  have hlook : a.KeepsSettings a.observe := by
    rw [hobs]
    exact ⟨rfl, rfl⟩
  cases h with
  | idle _ => exact KeepsSettings.refl a
  | arrived _ _ => exact hlook.trans ⟨rfl, rfl⟩
  | overshot _ _ _ => exact hlook.trans ⟨rfl, rfl⟩
  | refused _ _ _ _ _ => exact hlook.trans ⟨rfl, rfl⟩
  | stepped _ _ _ hb _ =>
      rcases hb with ⟨_, rfl⟩ | ⟨_, _, rfl⟩ <;> exact hlook.trans ⟨rfl, rfl⟩

theorem settings_effect {a b : Axis} {o : Operation} {f? : Option Fault} (h : a.Effect o b f?) :
    a.KeepsSettings b := by
  cases h with
  | nothing => exact KeepsSettings.refl a
  | carried hc => exact settings_carried hc
  | served hserved => exact settings_served hserved
  | halted _ hb => rcases hb with rfl | rfl <;> exact ⟨rfl, rfl⟩
  | judged hb => rcases hb with rfl | rfl <;> exact ⟨rfl, rfl⟩
  | _ => exact ⟨rfl, rfl⟩

/-- **Nothing that is done to an axis changes what it was delivered with.** -/
theorem settings_perform (a : Axis) (o : Operation) : a.KeepsSettings (a.perform o).1 :=
  settings_effect (effect_perform a o)

theorem settings_after (a : Axis) (ops : List Operation) : a.KeepsSettings (a.after ops) :=
  after_induction (P := a.KeepsSettings) (fun b o h => h.trans (settings_perform b o))
    (KeepsSettings.refl a) ops

end Axis

end StepperMotion
