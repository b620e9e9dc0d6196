import StepperMotion.Proportional

/-!
# What a controller keeps

A controller has settings, which say how it answers to an error, and a memory of its last sample.
Only the settings matter after a restart (`sample_congr`), and no sample changes them. A sample fails
only if the limits of the output are in the wrong order, or if a negative output is to be kept away
from zero by a floor that has no opposite (`sample_usable`).
-/

namespace StepperMotion.Proportional

/-- The controller without its memory. -/
def tuning (c : Proportional) : Proportional :=
  { c with lastInput := 0, lastError := 0, lastSetpoint := 0, lastOutput := 0, runs := 0 }

/-- The first sample after a restart. -/
def sample (c : Proportional) (setpoint input : Int) : Proportional × Except Fault Int :=
  (c.restart input).run setpoint input

/-- A sample leaves the settings alone. -/
theorem tuning_sample (c : Proportional) (setpoint input : Int) :
    (c.sample setpoint input).1.tuning = c.tuning := by
  unfold sample run
  dsimp only
  split <;> rfl

/-- **What the first sample after a restart comes to is determined by the settings.** -/
theorem sample_congr {c c' : Proportional} (h : c.tuning = c'.tuning) (setpoint input : Int) :
    (c.sample setpoint input).2 = (c'.sample setpoint input).2 := by
  obtain ⟨gain, signedGain, acting, periodMs, limits, _⟩ := c
  obtain ⟨gain', signedGain', acting', periodMs', limits', _⟩ := c'
  simp only [tuning, Proportional.mk.injEq, and_true] at h
  obtain ⟨rfl, rfl, rfl, rfl, rfl⟩ := h
  simp only [sample, restart, run, response]
  split <;> rfl

/-- Limits with which every sample has an output. -/
structure Limits.Usable (l : Limits) : Prop where
  ordered : l.lowest ≤ l.highest
  /-- If an output may be negative, the floor has an opposite. -/
  opposite : l.lowest < 0 → l.floor ≠ Position.lowest

instance (l : Limits) : Decidable l.Usable :=
  decidable_of_iff (l.lowest ≤ l.highest ∧ (l.lowest < 0 → l.floor ≠ Position.lowest))
    ⟨fun h => ⟨h.1, h.2⟩, fun h => ⟨h.1, h.2⟩⟩

/-- **A controller with usable limits has an output for every error.** -/
theorem sample_usable {c : Proportional} (h : c.limits.Usable) (setpoint input : Int) :
    ∃ output, (c.sample setpoint input).2 = .ok output := by
  simp only [sample, restart, run, Position.clampBetween, h.ordered, if_true, raise]
  split
  · rename_i hnegative
    -- an output below zero is the work of the lower limit
    have hlow : c.limits.lowest < 0 := by omega
    rw [Position.checkedNeg, if_neg (h.opposite hlow)]
    exact ⟨_, rfl⟩
  · exact ⟨_, rfl⟩

theorem limits_tuning (c : Proportional) : c.tuning.limits = c.limits := rfl

/-- A new controller has the limits of its settings. -/
theorem limits_ofSettings (s : Settings) : (ofSettings s).limits = s.limits := by
  unfold ofSettings setGain
  split <;> rfl

end StepperMotion.Proportional
