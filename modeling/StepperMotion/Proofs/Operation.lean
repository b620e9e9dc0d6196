import StepperMotion.Axis.Tick
import StepperMotion.Axis.Verdict
import StepperMotion.Axis.Move

/-!
# Operations on one axis

Everything that is ever done to one axis is one of the operations below, whoever does it: a
command is applied, a timer match is served, a report is judged, somebody turns the shaft. An
operation leaves an axis and a reply, and a list of operations leaves an axis and the list of the
replies.

A reply may be a fault. The computation ended there, and the axis is left as it was at that moment.
Statements about runs in which nothing failed say so about the replies.
-/

namespace StepperMotion

namespace Axis

/-- One thing that is done to an axis, or to its board from outside. -/
inductive Operation where
  | apply (c : Command) (nowMs : Nat)
  /-- The axis is halted if a command would reverse it. -/
  | beginDirectionChange (c : Command)
  | tick (nowMs : Nat)
  | stop
  /-- A closed-loop move goes on that was interrupted in an epoch. -/
  | resume (epoch : UInt32) (nowMs : Nat)
  /-- The axis is stopped because the motor does not follow. -/
  | tripStall
  | clearFaults
  | setOffset (offset : Int)
  | status
  | inspect (note : Notification)
  | park (note : Notification)
  | takeParked
  | countDropped
  | place (position : Int)
  | freeze (frozen : Bool)
  | limitTimer (hz : Nat)
deriving DecidableEq, Repr

/-- What an operation is answered with. -/
inductive Reply where
  | outcome (r : Except Failure Outcome)
  /-- Whether a command has to wait. -/
  | rest (mustWait : Bool)
  | report (r : Except Fault (Option Notification))
  /-- What came of going on, if the move was still there. -/
  | resumed (r : Option (Except Failure Outcome))
  | verdict (v : Verdict)
  | status (s : Status)
  | parked (note : Option Notification)
  | silent

def Reply.fault? : Reply → Option Fault
  | .outcome (.error (.fault f)) => some f
  | .resumed (some (.error (.fault f))) => some f
  | .report (.error f) => some f
  | _ => none

def perform (a : Axis) : Operation → Axis × Reply
  | .apply c nowMs => ((a.apply c nowMs).axis, .outcome (a.apply c nowMs).answer)
  | .beginDirectionChange c =>
    ((a.beginDirectionChange c).axis, .rest (a.beginDirectionChange c).answer)
  | .tick nowMs => ((a.tick nowMs).1, .report (a.tick nowMs).2)
  | .stop => (a.stop.axis, .outcome (.ok a.stop.answer))
  | .resume epoch nowMs => ((a.resume epoch nowMs).axis, .resumed (a.resume epoch nowMs).answer)
  | .tripStall => (a.tripStall, .silent)
  | .clearFaults => (a.clearFaults, .silent)
  | .setOffset offset => (a.setOffset offset, .silent)
  | .status => (a.status.1, .status a.status.2)
  | .inspect note => ((a.inspect note).1, .verdict (a.inspect note).2)
  | .park note => (a.park note, .silent)
  | .takeParked => (a.takeParked.1, .parked a.takeParked.2)
  | .countDropped => (a.countDropped, .silent)
  | .place position => ({ a with board := a.board.place position }, .silent)
  | .freeze frozen => ({ a with board := a.board.freeze frozen }, .silent)
  | .limitTimer hz => ({ a with board := a.board.limitTimer hz }, .silent)

/-! ## Runs -/

def after (a : Axis) (ops : List Operation) : Axis := ops.foldl (fun a o => (a.perform o).1) a

def replies (a : Axis) : List Operation → List Reply
  | [] => []
  | o :: ops => (a.perform o).2 :: (a.perform o).1.replies ops

@[simp] theorem after_nil (a : Axis) : a.after [] = a := rfl

@[simp] theorem after_cons (a : Axis) (o : Operation) (ops : List Operation) :
    a.after (o :: ops) = (a.perform o).1.after ops := rfl

/-- **What every operation preserves, every run preserves.** -/
theorem after_induction {P : Axis → Prop}
    (step : ∀ (a : Axis) (o : Operation), P a → P (a.perform o).1)
    {a : Axis} (h : P a) (ops : List Operation) : P (a.after ops) := by
  induction ops generalizing a with
  | nil => exact h
  | cons o ops ih => exact ih (step a o h)

/-- The same for what only the operations preserve that do not fail. -/
theorem after_induction_of_no_fault {P : Axis → Prop}
    (step : ∀ (a : Axis) (o : Operation), P a → (a.perform o).2.fault? = none →
      P (a.perform o).1)
    {a : Axis} (h : P a) (ops : List Operation)
    (hf : ∀ r ∈ a.replies ops, r.fault? = none) : P (a.after ops) := by
  induction ops generalizing a with
  | nil => exact h
  | cons o ops ih =>
      have hhead : (a.perform o).2.fault? = none := hf _ (List.mem_cons_self ..)
      exact ih (step a o h hhead) fun r hr => hf r (List.mem_cons_of_mem _ hr)

end Axis

end StepperMotion
