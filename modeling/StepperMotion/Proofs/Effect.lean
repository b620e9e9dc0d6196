import StepperMotion.Proofs.TimerMatch

/-!
# What an operation comes to

There are many operations on an axis, and few things that become of it. A command may be carried out
because it was applied, because a closed-loop move goes on, or because the axis is told to stop, and it
may be refused, or find nothing to do. `Effect` lists these things, with the axis that each of them
leaves and the fault that it may end in. An invariant of the axis is shown for the effects, and so for
every operation (`effect_perform`).
-/

namespace StepperMotion

namespace Axis

/-- Operations that write the records of the supervisor. -/
def Operation.isClerical : Operation → Bool
  | .park _ | .takeParked | .countDropped | .clearFaults | .tripStall | .inspect _ => true
  | _ => false

/-- What has become of an axis, and of the computation that an operation asks for. -/
inductive Effect (a : Axis) : Operation → Axis → Option Fault → Prop where
  /-- There was nothing to do, or the operation was refused. -/
  | nothing {o : Operation} {f? : Option Fault} : Effect a o a f?
  /-- A command was carried out, whoever gave it. -/
  | carried {o : Operation} {nowMs : Nat} {c : Command} {b : Axis} {r : Except Failure Outcome}
      (h : a.Carried nowMs c b r) : Effect a o b (Reply.outcome r).fault?
  | served {nowMs : Nat} {b : Axis} {r : Except Fault (Option Notification)}
      (h : a.Served nowMs b r) : Effect a (.tick nowMs) b (Reply.report r).fault?
  /-- The encoder was read. -/
  | looked {o : Operation} : Effect a o a.sense none
  /-- The axis was halted for a change of direction. -/
  | halted {o : Operation} {b : Axis} (hm : a.mode ≠ .stopped) (hb : b = a ∨ b = a.sense) :
      Effect a o b.quiesce none
  /-- A report was judged, which may have tripped the axis. -/
  | judged {note : Notification} {b : Axis} {lastPos : Int} {stalledCount : Nat}
      (hb : b = a ∨ b = a.tripStall) :
      Effect a (.inspect note) { b with lastPos := lastPos, stalledCount := stalledCount } none
  | tripped : Effect a .tripStall a.tripStall none
  /-- Something was written down about the axis. -/
  | recorded {o : Operation} {stalled alreadyThere : Bool} {stalledCount dropped : Nat}
      {parked : Option Notification} (ho : o.isClerical = true) :
      Effect a o { a with
        stalled := stalled
        alreadyThere := alreadyThere
        stalledCount := stalledCount
        dropped := dropped
        parked := parked } none
  /-- Something has changed around the axis. -/
  | arranged {o : Operation} {offset position : Int} {frozen : Bool} {limit : Nat} :
      Effect a o { a with
        offset := offset
        board := { a.board with
          position := position
          frozen := frozen
          timer := { a.board.timer with limit := limit } } } none

theorem effect_apply (a : Axis) (c : Command) (nowMs : Nat) :
    a.Effect (.apply c nowMs) (a.apply c nowMs).axis (Reply.outcome (a.apply c nowMs).answer).fault? := by
  rcases apply_cases a c nowMs with ⟨e, _, heq⟩ | ⟨_, hc⟩
  · rw [heq]
    exact .nothing
  · exact .carried hc

/-- Going on fails just when carrying out the command does. -/
theorem fault_resumed (r : Except Failure Outcome) :
    (Reply.resumed (some r)).fault? = (Reply.outcome r).fault? := by
  rcases r with (_ | _) | _ <;> rfl

theorem effect_resume (a : Axis) (epoch : UInt32) (nowMs : Nat) :
    a.Effect (.resume epoch nowMs) (a.resume epoch nowMs).axis
      (Reply.resumed (a.resume epoch nowMs).answer).fault? := by
  rcases resume_cases a epoch nowMs with ⟨_, heq⟩ | ⟨_, r, hans, hc⟩
  · rw [heq]
    exact .nothing
  · rw [hans, fault_resumed]
    exact .carried hc

theorem effect_beginDirectionChange (a : Axis) (c : Command) :
    a.Effect (.beginDirectionChange c) (a.beginDirectionChange c).axis none := by
  rcases beginDirectionChange_cases a c with ⟨_, h | h, _⟩ | ⟨_, hm, h | h⟩ <;> rw [h]
  · exact .nothing
  · exact .looked
  · exact .halted hm (Or.inl rfl)
  · exact .halted hm (Or.inr rfl)

theorem effect_inspect (a : Axis) (note : Notification) :
    a.Effect (.inspect note) (a.inspect note).1 none := by
  obtain ⟨b, _, _, hb, h⟩ := inspect_cases a note
  rw [h]
  exact .judged hb

/-- **Everything that an operation can come to.** -/
theorem effect_perform (a : Axis) (o : Operation) :
    a.Effect o (a.perform o).1 (a.perform o).2.fault? := by
  cases o with
  | apply c nowMs => exact effect_apply a c nowMs
  | beginDirectionChange c => exact effect_beginDirectionChange a c
  | tick nowMs => exact .served (tick_served a nowMs)
  | stop =>
      have hstop : a.Carried 0 .stop a.stop.axis (.ok a.stop.answer) := .stopped rfl
      exact .carried hstop
  | resume epoch nowMs => exact effect_resume a epoch nowMs
  | tripStall => exact .tripped
  | inspect note => exact effect_inspect a note
  | status => exact .looked
  | clearFaults => exact .recorded rfl
  | park note => exact .recorded rfl
  | takeParked => exact .recorded rfl
  | countDropped => exact .recorded rfl
  | setOffset offset => exact .arranged
  | place position => exact .arranged
  | freeze frozen => exact .arranged
  | limitTimer hz => exact .arranged

end Axis

end StepperMotion
