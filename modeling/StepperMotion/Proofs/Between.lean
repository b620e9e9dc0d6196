import StepperMotion.Proofs.SlewRate
import StepperMotion.Proofs.StallCount
import StepperMotion.Proofs.Standstill

/-!
# Between the matches of a move

From the moment a move is set up until the next one is, its axis is looked at, asked, judged,
halted, stopped, and sent to where it is already. Its shaft may be turned and its timer limited.
Commands are refused. Any of this may end the move, but nothing of it has a part in the move itself:
the ramp, the frequencies that were written, the half-steps and how they are counted are as they
were (`Spares`).

This is the frame for whatever is said of the timer matches of a move. `unbroken` are the runs that
belong to one move; what such a run does is done by its matches alone.
-/

namespace StepperMotion

open Axis (Operation)

namespace Axis

variable {a b : Axis} {nowMs freq : Nat} {o : Operation}

/-- None of the operations sets up a move when its turn comes. -/
def unbroken (a : Axis) : List Operation → Bool
  | [] => true
  | o :: ops => !a.begins o && (a.perform o).1.unbroken ops

theorem unbroken_cons {ops : List Operation} (h : a.unbroken (o :: ops) = true) :
    a.begins o = false ∧ (a.perform o).1.unbroken ops = true := by
  rw [unbroken, Bool.and_eq_true, Bool.not_eq_true'] at h
  exact h

/-- The move of an axis is as it was, or it has ended. -/
structure Spares (a b : Axis) : Prop extends a.HoldsSpeed b where
  writes : b.board.timer.writes = a.board.timer.writes
  toggles : b.board.toggles = a.board.toggles
  pulses : b.pulses = a.pulses
  completed : b.halfStepsCompleted = a.halfStepsCompleted
  requested : b.halfStepsRequested = a.halfStepsRequested
  /-- A setpoint that the axis has reached is taken over when the move is over. -/
  posCmd : b.mode ≠ .stopped → b.posCmd = a.posCmd

theorem Spares.refl (a : Axis) : a.Spares a :=
  ⟨⟨Or.inl rfl, rfl, rfl, rfl⟩, rfl, rfl, rfl, rfl, rfl, fun _ => rfl⟩

theorem spares_stop (a : Axis) : a.Spares a.stop.axis := by
  rcases stop_cases a with ⟨_, h, _⟩ | ⟨_, h, _⟩ <;> rw [h]
  · exact Spares.refl a
  · exact ⟨⟨Or.inr rfl, rfl, rfl, rfl⟩, rfl, rfl, rfl, rfl, rfl, fun _ => rfl⟩

/-- An axis that is sent to where it is already has its move ended, and nothing else. -/
theorem spares_arrived (a : Axis) (setpoint : Int) :
    a.Spares ({ a with posCmd := setpoint } : Axis).sense.finishInPlace := by
  have hends := ({ a with posCmd := setpoint } : Axis).sense.finishInPlace_mode
  rcases finishInPlace_cases ({ a with posCmd := setpoint } : Axis).sense with ⟨_, h⟩ | ⟨_, h⟩ <;>
    rw [h] at hends ⊢ <;>
    exact ⟨⟨Or.inr hends, rfl, rfl, rfl⟩, rfl, rfl, rfl, rfl, rfl, fun hm => absurd hends hm⟩

theorem spares_carried {c : Command} {r : Except Failure Outcome} (h : a.Carried nowMs c b r)
    (hnone : a.setsUp c = false) : a.Spares b := by
  cases h with
  | launched hp _ => exact absurd (hp.setsUp.symm.trans hnone) (by simp)
  | failed hp _ _ => exact absurd (hp.setsUp.symm.trans hnone) (by simp)
  | @arrived setpoint _ _ => exact spares_arrived a setpoint
  | stopped _ => exact spares_stop a

/-- **What is neither a timer match nor the setting up of a move spares the move.** -/
theorem spares_perform (hnone : a.begins o = false) (htick : ∀ nowMs, o ≠ .tick nowMs) :
    a.Spares (a.perform o).1 := by
  cases o with
  | apply c nowMs =>
      show a.Spares (a.apply c nowMs).axis
      rcases apply_cases a c nowMs with ⟨_, _, heq⟩ | ⟨hvalid, hcarried⟩
      · rw [heq]
        exact Spares.refl a
      · rw [begins, hvalid] at hnone
        exact spares_carried hcarried hnone
  | beginDirectionChange c =>
      show a.Spares (a.beginDirectionChange c).axis
      rcases beginDirectionChange_cases a c with ⟨_, h | h, _⟩ | ⟨_, _, h | h⟩ <;> rw [h] <;>
        exact ⟨⟨Or.inl rfl, rfl, rfl, rfl⟩, rfl, rfl, rfl, rfl, rfl, fun _ => rfl⟩
  | tick nowMs => exact absurd rfl (htick nowMs)
  | stop => exact spares_stop a
  | resume epoch nowMs =>
      show a.Spares (a.resume epoch nowMs).axis
      rcases resume_cases a epoch nowMs with ⟨_, heq⟩ | ⟨hawaits, _, _, hcarried⟩
      · rw [heq]
        exact Spares.refl a
      · rw [begins, hawaits] at hnone
        exact spares_carried hcarried hnone
  | tripStall => exact ⟨⟨Or.inr rfl, rfl, rfl, rfl⟩, rfl, rfl, rfl, rfl, rfl, fun _ => rfl⟩
  | inspect note =>
      obtain ⟨b, _, _, hb, h⟩ := inspect_cases a note
      simp only [perform, h]
      rcases hb with rfl | rfl
      · exact ⟨⟨Or.inl rfl, rfl, rfl, rfl⟩, rfl, rfl, rfl, rfl, rfl, fun _ => rfl⟩
      · exact ⟨⟨Or.inr rfl, rfl, rfl, rfl⟩, rfl, rfl, rfl, rfl, rfl, fun _ => rfl⟩
  | _ => exact ⟨⟨Or.inl rfl, rfl, rfl, rfl⟩, rfl, rfl, rfl, rfl, rfl, fun _ => rfl⟩

/-- What holds no timer match makes no half-step. -/
theorem stepLine_after {ops : List Operation} (h : ∀ o ∈ ops, ∀ nowMs, o ≠ .tick nowMs) :
    a.SameStepLine (a.after ops) := by
  induction ops generalizing a with
  | nil => exact SameStepLine.refl a
  | cons o ops ih =>
      obtain ⟨ho, hops⟩ := List.forall_mem_cons.mp h
      exact (stepLine_perform ho).trans (ih hops)

/-- A move that has been started was commanded, or it goes on; either way a command was carried
out. -/
theorem started_carried (h : (a.perform o).2.started? = some freq) :
    ∃ nowMs c, a.Carried nowMs c (a.perform o).1 (.ok (.started freq)) := by
  cases o with
  | apply c nowMs =>
      have hanswer := started_outcome.mp h
      rcases apply_cases a c nowMs with ⟨_, _, heq⟩ | ⟨_, hcarried⟩
      · rw [heq] at hanswer
        exact absurd hanswer (by simp)
      · exact ⟨nowMs, c, hanswer ▸ hcarried⟩
  | resume epoch nowMs =>
      have hanswer := started_resumed.mp h
      rcases resume_cases a epoch nowMs with ⟨_, heq⟩ | ⟨_, r, hr, hcarried⟩
      · rw [heq] at hanswer
        exact absurd hanswer (by simp)
      · obtain rfl : r = .ok (.started freq) := Option.some.inj (hr.symm.trans hanswer)
        exact ⟨nowMs, _, hcarried⟩
  | stop =>
      have hanswer : (.ok a.stop.answer : Except Failure Outcome) = .ok (.started freq) :=
        started_outcome.mp h
      rcases stop_cases a with ⟨_, _, heq⟩ | ⟨_, _, heq⟩ <;> rw [heq] at hanswer <;>
        exact absurd hanswer (by simp)
  | _ => exact absurd h (by simp [perform, Reply.started?])

end Axis

end StepperMotion
