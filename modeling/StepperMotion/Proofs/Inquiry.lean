import Mathlib.Data.List.ReduceOption
import StepperMotion.Proofs.Launch

/-!
# Asking for the status has no influence

Whoever asks an axis for its status has it read the encoder, and the position that was read last is
overwritten. That position decides whether a move has arrived or has to turn back, where the middle
of its way is, how its ramp goes on, and what is reported. So it has to be read anew whenever one of
these is asked, and not only on the way that is usually taken.

`SameAtSight` says of two axes that they differ in the position that was read last, if at all. Every
operation is shown to have the same reply on two such axes and to leave two such axes behind
(`sameAtSight_perform`). Then it does not matter how often the status is asked for in between.
-/

namespace StepperMotion

open Axis (Operation)

namespace Axis

variable {a b : Axis} {o : Operation}

/-- Two axes that are the same as soon as they are looked at. -/
def SameAtSight (a b : Axis) : Prop := a.sense = b.sense

theorem SameAtSight.trans {c : Axis} (h : a.SameAtSight b) (h' : b.SameAtSight c) :
    a.SameAtSight c := Eq.trans h h'

/-- To look at an axis makes no difference to the next look. -/
theorem sameAtSight_sense (a : Axis) : a.sense.SameAtSight a := rfl

/-! ## One operation on an axis that was looked at -/

/-- An operation on an axis that has just been looked at: the reply is the one it would have had,
and the axis is the same at sight. -/
structure Unswayed (a : Axis) (o : Operation) : Prop where
  reply : (a.sense.perform o).2 = (a.perform o).2
  axis : (a.sense.perform o).1.SameAtSight (a.perform o).1

theorem unswayed_apply (a : Axis) (c : Command) (nowMs : Nat) : a.Unswayed (.apply c nowMs) := by
  have hcheck : a.sense.validate c = a.validate c := rfl
  have hspeed : ∀ level, a.sense.speedFreq level = a.speedFreq level := fun _ => rfl
  suffices hmade : (a.sense.apply c nowMs).answer = (a.apply c nowMs).answer
      ∧ (a.sense.apply c nowMs).axis.SameAtSight (a.apply c nowMs).axis by
    exact ⟨congrArg Reply.outcome hmade.1, hmade.2⟩
  unfold apply
  rw [hcheck]
  cases a.validate c with
  | error e => exact ⟨rfl, rfl⟩
  | ok _ =>
      dsimp only
      -- a move counts from the position that it reads, and only a refusal leaves the old one
      cases c with
      | freeRun d level =>
          unfold execute
          dsimp only
          rw [hspeed]
          cases a.speedFreq level with
          | error e => exact ⟨rfl, rfl⟩
          | ok freq => exact ⟨rfl, rfl⟩
      | steps d level count periodMs divisor =>
          unfold execute
          dsimp only
          rw [hspeed]
          cases a.speedFreq level with
          | error e => exact ⟨rfl, rfl⟩
          | ok freq =>
              dsimp only
              unfold startSteps
              cases Count.checkedMul count 2 with
              | error f => exact ⟨rfl, rfl⟩
              | ok halfSteps => exact ⟨rfl, rfl⟩
      | closedLoop setpoint => exact ⟨rfl, rfl⟩
      | stop =>
          unfold execute stop
          dsimp only
          have hmode : a.sense.mode = a.mode := rfl
          rw [hmode]
          split <;> exact ⟨rfl, rfl⟩

/-- Before it says which way a command leads, an axis looks where it is. -/
theorem unswayed_beginDirectionChange (a : Axis) (c : Command) :
    a.Unswayed (.beginDirectionChange c) := by
  have hmode : a.sense.mode = a.mode := rfl
  have hturns : ∀ d, (d = a.sense.dir ∨ a.sense.isQuiesced = true)
      = (d = a.dir ∨ a.isQuiesced = true) := fun _ => rfl
  suffices hmade : (a.sense.beginDirectionChange c).answer = (a.beginDirectionChange c).answer
      ∧ (a.sense.beginDirectionChange c).axis.SameAtSight (a.beginDirectionChange c).axis by
    exact ⟨congrArg Reply.rest hmade.1, hmade.2⟩
  unfold beginDirectionChange
  rw [hmode]
  split
  · cases c with
    | closedLoop setpoint => exact ⟨rfl, rfl⟩
    | stop => exact ⟨rfl, rfl⟩
    | freeRun d level =>
        simp only [directionFor, Command.direction?, hturns]
        split <;> exact ⟨rfl, rfl⟩
    | steps d level count periodMs divisor =>
        simp only [directionFor, Command.direction?, hturns]
        split <;> exact ⟨rfl, rfl⟩
  · exact ⟨rfl, rfl⟩

/-- A timer match looks where the axis is, unless the axis is at rest. -/
theorem unswayed_tick (a : Axis) (nowMs : Nat) : a.Unswayed (.tick nowMs) := by
  have hmode : a.sense.mode = a.mode := rfl
  have hlook : a.sense.observe = a.observe := rfl
  suffices hmade : (a.sense.tick nowMs).2 = (a.tick nowMs).2
      ∧ (a.sense.tick nowMs).1.SameAtSight (a.tick nowMs).1 by
    exact ⟨congrArg Reply.report hmade.1, hmade.2⟩
  unfold tick
  rw [hmode, hlook]
  split <;> exact ⟨rfl, rfl⟩

theorem unswayed_resume (a : Axis) (epoch : UInt32) (nowMs : Nat) :
    a.Unswayed (.resume epoch nowMs) := by
  have hawaits : a.sense.awaitsResume epoch = a.awaitsResume epoch := rfl
  suffices hmade : (a.sense.resume epoch nowMs).answer = (a.resume epoch nowMs).answer
      ∧ (a.sense.resume epoch nowMs).axis.SameAtSight (a.resume epoch nowMs).axis by
    exact ⟨congrArg Reply.resumed hmade.1, hmade.2⟩
  unfold resume
  rw [hawaits]
  split <;> exact ⟨rfl, rfl⟩

/-- A report is judged by the position that it shows. -/
theorem unswayed_inspect (a : Axis) (note : Notification) : a.Unswayed (.inspect note) := by
  have hepoch : a.sense.epoch = a.epoch := rfl
  suffices hmade : (a.sense.inspect note).2 = (a.inspect note).2
      ∧ (a.sense.inspect note).1.SameAtSight (a.inspect note).1 by
    exact ⟨congrArg Reply.verdict hmade.1, hmade.2⟩
  have hwatch : (a.sense.config.stallDetection && a.sense.mode.isMoving)
      = (a.config.stallDetection && a.mode.isMoving) := rfl
  have hcount : ((a.sense.countProgress note.posAct).config.stallMaxCount
        ≤ (a.sense.countProgress note.posAct).stalledCount)
      = ((a.countProgress note.posAct).config.stallMaxCount
        ≤ (a.countProgress note.posAct).stalledCount) := rfl
  unfold inspect
  rw [hepoch]
  split
  · cases note.kind with
    | progress =>
        simp only [watchProgress, hwatch, hcount]
        split
        · split <;> exact ⟨rfl, rfl⟩
        · exact ⟨rfl, rfl⟩
    | _ => exact ⟨rfl, rfl⟩
  · exact ⟨rfl, rfl⟩

theorem unswayed_perform (a : Axis) (o : Operation) : a.Unswayed o := by
  cases o with
  | apply c nowMs => exact unswayed_apply a c nowMs
  | beginDirectionChange c => exact unswayed_beginDirectionChange a c
  | tick nowMs => exact unswayed_tick a nowMs
  | stop =>
      have hmode : a.sense.mode = a.mode := rfl
      suffices hmade : a.sense.stop.answer = a.stop.answer
          ∧ a.sense.stop.axis.SameAtSight a.stop.axis by
        exact ⟨congrArg (fun r => Reply.outcome (.ok r)) hmade.1, hmade.2⟩
      unfold stop
      rw [hmode]
      split <;> exact ⟨rfl, rfl⟩
  | resume epoch nowMs => exact unswayed_resume a epoch nowMs
  | inspect note => exact unswayed_inspect a note
  | _ => exact ⟨rfl, rfl⟩

/-- **An operation makes no difference between two axes that are the same at sight.** -/
theorem sameAtSight_perform (h : a.SameAtSight b) (o : Operation) :
    (a.perform o).2 = (b.perform o).2 ∧ (a.perform o).1.SameAtSight (b.perform o).1 := by
  obtain ⟨hleft, haxis⟩ := unswayed_perform a o
  obtain ⟨hright, haxis'⟩ := unswayed_perform b o
  have hseen : a.sense = b.sense := h
  rw [hseen] at hleft haxis
  exact ⟨hleft.symm.trans hright, (Eq.symm haxis).trans haxis'⟩

/-! ## A run with questions in between -/

/-- What can be told of an operation from outside. -/
structure Glimpse where
  /-- The answer to a command, the report of a match, the verdict on a report, a status. -/
  reply : Reply
  epoch : UInt32
  /-- All that was written to the board is in it. -/
  board : Board

def glimpse (a : Axis) (o : Operation) : Glimpse :=
  ⟨(a.perform o).2, (a.perform o).1.epoch, (a.perform o).1.board⟩

def glimpses (a : Axis) : List Operation → List Glimpse
  | [] => []
  | o :: ops => a.glimpse o :: (a.perform o).1.glimpses ops

/-- The same for a run in which the status is asked for wherever there is no operation. Nothing is
told of these questions. -/
def glimpsesAsked (a : Axis) : List (Option Operation) → List Glimpse
  | [] => []
  | none :: rest => a.status.1.glimpsesAsked rest
  | some o :: rest => a.glimpse o :: (a.perform o).1.glimpsesAsked rest

/-- The axis that such a run leaves. -/
def afterAsked (a : Axis) : List (Option Operation) → Axis
  | [] => a
  | none :: rest => a.status.1.afterAsked rest
  | some o :: rest => (a.perform o).1.afterAsked rest

theorem SameAtSight.glimpse (h : a.SameAtSight b) (o : Operation) : a.glimpse o = b.glimpse o := by
  obtain ⟨hreply, haxis⟩ := sameAtSight_perform h o
  have hsame : (a.perform o).1.sense = (b.perform o).1.sense := haxis
  have hepoch : (a.perform o).1.epoch = (b.perform o).1.epoch := congrArg (·.epoch) hsame
  have hboard : (a.perform o).1.board = (b.perform o).1.board := congrArg (·.board) hsame
  unfold Axis.glimpse
  rw [hreply, hepoch, hboard]

theorem SameAtSight.asked (h : a.SameAtSight b) (run : List (Option Operation)) :
    a.glimpsesAsked run = b.glimpses run.reduceOption
      ∧ (a.afterAsked run).SameAtSight (b.after run.reduceOption) := by
  induction run generalizing a b with
  | nil => exact ⟨rfl, h⟩
  | cons entry rest ih =>
      cases entry with
      | none =>
          -- the question is left out of the other run
          rw [List.reduceOption_cons_of_none]
          exact ih ((sameAtSight_sense a).trans h)
      | some o =>
          rw [List.reduceOption_cons_of_some]
          obtain ⟨hrest, hlast⟩ := ih (sameAtSight_perform h o).2
          refine ⟨?_, hlast⟩
          rw [glimpsesAsked, glimpses, h.glimpse o, hrest]

/-- **Asking for the status has no influence.** However often the status of an axis is asked for in
the course of a run, and wherever: every operation of the run has the reply that it would have had,
with the same epoch and the same board after it. In the end the axis has the same status and is the
same but for the position that was read last. -/
theorem status_without_influence (a : Axis) (run : List (Option Operation)) :
    a.glimpsesAsked run = a.glimpses run.reduceOption
      ∧ (a.afterAsked run).status = (a.after run.reduceOption).status
      ∧ { a.afterAsked run with posAct := (a.after run.reduceOption).posAct }
        = a.after run.reduceOption := by
  have hself : a.SameAtSight a := rfl
  obtain ⟨hglimpses, hlast⟩ := hself.asked run
  generalize a.afterAsked run = b at hlast ⊢
  generalize a.after run.reduceOption = c at hlast ⊢
  have hsame : b.sense = c.sense := hlast
  refine ⟨hglimpses, ?_, ?_⟩
  · have hstatus : ∀ x : Axis, x.status = x.sense.status := fun _ => rfl
    rw [hstatus b, hstatus c, hsame]
  · have hback := congrArg (fun x : Axis => { x with posAct := c.posAct }) hsame
    exact hback

/-- The question does leave something behind: the axis has seen that its shaft was turned. -/
example : ((create 0 ⟨"x", 0, none⟩ {} {}).afterAsked [some (.place 600), none]).posAct = 600
    ∧ ((create 0 ⟨"x", 0, none⟩ {} {}).after [.place 600]).posAct = 0 := by
  decide

end Axis

end StepperMotion
