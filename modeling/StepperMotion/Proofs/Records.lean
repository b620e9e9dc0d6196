import StepperMotion.Proofs.Stroke
import StepperMotion.Proofs.Effect

/-!
# What is kept on an axis for the supervisor

A move writes many fields of an axis, but not those that are there for the supervisor: the parked
report, the count of the reports that were lost, and the mark of a stall. Each of these is written
by one or two operations (`Operation.isClerical`), and it is known who makes the strokes in which
these occur. So an invariant of such a field has few cases.
-/

namespace StepperMotion

open Axis (Operation)

namespace Axis

/-- The records of the supervisor are left alone. -/
structure KeepsRecords (a b : Axis) : Prop where
  parked : b.parked = a.parked
  dropped : b.dropped = a.dropped
  stalled : b.stalled = a.stalled

theorem KeepsRecords.refl (a : Axis) : a.KeepsRecords a := ⟨rfl, rfl, rfl⟩

theorem KeepsRecords.trans {a b c : Axis} (h : a.KeepsRecords b) (h' : b.KeepsRecords c) :
    a.KeepsRecords c :=
  ⟨h'.parked.trans h.parked, h'.dropped.trans h.dropped, h'.stalled.trans h.stalled⟩

theorem records_carried {a b : Axis} {nowMs : Nat} {c : Command} {r : Except Failure Outcome}
    (h : a.Carried nowMs c b r) : a.KeepsRecords b := by
  cases h with
  | @launched p line _ =>
      obtain ⟨_, _, h⟩ := launch_frame (a.setUp p).nextEpoch p.ramp.current line
      rw [h]
      exact ⟨rfl, rfl, rfl⟩
  | failed _ _ => exact ⟨rfl, rfl, rfl⟩
  | @arrived setpoint _ =>
      obtain ⟨_, _, h⟩ := finishInPlace_frame ({ a with posCmd := setpoint } : Axis).sense
      rw [h]
      exact ⟨rfl, rfl, rfl⟩
  | stopped _ =>
      obtain ⟨_, _, _, h⟩ := stop_frame a
      rw [h]
      exact ⟨rfl, rfl, rfl⟩

theorem records_served {a b : Axis} {nowMs : Nat} {r : Except Fault (Option Notification)}
    (h : a.Served nowMs b r) : a.KeepsRecords b := by
  obtain ⟨_, _, _, hobs⟩ := observe_eq a
  have hlook : a.KeepsRecords a.observe := by
    rw [hobs]
    exact ⟨rfl, rfl, rfl⟩
  cases h with
  | idle _ => exact KeepsRecords.refl a
  | arrived _ _ => exact hlook.trans ⟨rfl, rfl, rfl⟩
  | overshot _ _ _ => exact hlook.trans ⟨rfl, rfl, rfl⟩
  | refused _ _ _ _ _ => exact hlook.trans ⟨rfl, rfl, rfl⟩
  | stepped _ _ _ hb _ => rcases hb with ⟨_, rfl⟩ | ⟨_, _, rfl⟩ <;> exact hlook.trans ⟨rfl, rfl, rfl⟩

theorem records_effect {a b : Axis} {o : Operation} {f? : Option Fault} (h : a.Effect o b f?)
    (ho : o.isClerical = false) : a.KeepsRecords b := by
  cases h with
  | nothing => exact KeepsRecords.refl a
  | carried hc => exact records_carried hc
  | served hserved => exact records_served hserved
  | looked => exact ⟨rfl, rfl, rfl⟩
  | halted _ hb => rcases hb with rfl | rfl <;> exact ⟨rfl, rfl, rfl⟩
  | judged _ => exact absurd ho (by simp [Operation.isClerical])
  | tripped => exact absurd ho (by simp [Operation.isClerical])
  | recorded hclerical => exact absurd (ho.symm.trans hclerical) (by simp)
  | arranged => exact ⟨rfl, rfl, rfl⟩

/-- **Whatever else is done to an axis, the records of the supervisor are left alone.** -/
theorem records_perform {a : Axis} {o : Operation} (ho : o.isClerical = false) :
    a.KeepsRecords (a.perform o).1 := records_effect (effect_perform a o) ho

/-! ## The parked report and the lost ones -/

theorem parked_same {a : Axis} {o : Operation} (htake : o ≠ .takeParked)
    (hpark : ∀ note, o ≠ .park note) : (a.perform o).1.parked = a.parked := by
  cases ho : o.isClerical with
  | false => exact (records_perform ho).parked
  | true =>
      cases o with
      | park note => exact absurd rfl (hpark note)
      | takeParked => exact absurd rfl htake
      | inspect note =>
          obtain ⟨b, _, _, hb, heq⟩ := inspect_cases a note
          simp only [perform, heq]
          rcases hb with rfl | rfl <;> rfl
      | countDropped => rfl
      | clearFaults => rfl
      | tripStall => rfl
      | _ => exact absurd ho (by simp [Operation.isClerical])

theorem dropped_same {a : Axis} {o : Operation} (hcount : o ≠ .countDropped) :
    (a.perform o).1.dropped = a.dropped := by
  cases ho : o.isClerical with
  | false => exact (records_perform ho).dropped
  | true =>
      cases o with
      | countDropped => exact absurd rfl hcount
      | inspect note =>
          obtain ⟨b, _, _, hb, heq⟩ := inspect_cases a note
          simp only [perform, heq]
          rcases hb with rfl | rfl <;> rfl
      | park note => rfl
      | takeParked => rfl
      | clearFaults => rfl
      | tripStall => rfl
      | _ => exact absurd ho (by simp [Operation.isClerical])

theorem parked_after_same {a : Axis} {ops : List Operation} (htake : .takeParked ∉ ops)
    (hpark : ∀ note, .park note ∉ ops) : (a.after ops).parked = a.parked := by
  induction ops generalizing a with
  | nil => rfl
  | cons o ops ih =>
      have hrest := ih (a := (a.perform o).1) (fun h => htake (List.mem_cons_of_mem _ h))
        fun note h => hpark note (List.mem_cons_of_mem _ h)
      refine hrest.trans (parked_same ?_ fun note heq => ?_)
      · rintro rfl
        exact htake (List.mem_cons_self ..)
      · subst heq
        exact hpark note (List.mem_cons_self ..)

theorem dropped_after_same {a : Axis} {ops : List Operation} (hcount : .countDropped ∉ ops) :
    (a.after ops).dropped = a.dropped := by
  induction ops generalizing a with
  | nil => rfl
  | cons o ops ih =>
      have hrest := ih (a := (a.perform o).1) fun h => hcount (List.mem_cons_of_mem _ h)
      refine hrest.trans (dropped_same ?_)
      rintro rfl
      exact hcount (List.mem_cons_self ..)

/-! ## Who makes these strokes -/

/-- What a dispatcher does to an axis. -/
theorem mem_phaseStrokes {a : Axis} {nowMs : Nat} {p : Dispatcher.Phase} {o : Operation}
    (h : o ∈ a.phaseStrokes nowMs p) :
    o = .stop ∨ o = .clearFaults ∨ (∃ c, o = .beginDirectionChange c)
      ∨ ∃ c, o = .apply c nowMs := by
  have hattempt : ∀ c, o ∈ a.attemptStrokes c nowMs →
      o = .stop ∨ o = .clearFaults ∨ (∃ c, o = .beginDirectionChange c)
        ∨ ∃ c, o = .apply c nowMs := by
    intro c hmem
    unfold attemptStrokes at hmem
    split at hmem
    · exact Or.inr (Or.inr (Or.inl ⟨c, List.mem_singleton.mp hmem⟩))
    · rcases List.mem_cons.mp hmem with rfl | hmem
      · exact Or.inr (Or.inr (Or.inl ⟨c, rfl⟩))
      · exact Or.inr (Or.inr (Or.inr ⟨c, List.mem_singleton.mp hmem⟩))
  cases p with
  | received e =>
      simp only [phaseStrokes] at h
      split at h
      · exact Or.inl (List.mem_singleton.mp h)
      · unfold prepareStrokes at h
        split at h
        · exact absurd h (by simp)
        · rcases List.mem_cons.mp h with rfl | h
          · exact Or.inr (Or.inl rfl)
          · exact Or.inr (Or.inr (Or.inl ⟨e.command, List.mem_singleton.mp h⟩))
  | ready e => exact hattempt e.command h
  | waiting e untilMs =>
      simp only [phaseStrokes] at h
      split at h
      · exact hattempt e.command h
      · exact absurd h (by simp)
  | starting => exact absurd h (by simp [phaseStrokes])
  | idle => exact absurd h (by simp [phaseStrokes])
  | ended => exact absurd h (by simp [phaseStrokes])
  | failed f => exact absurd h (by simp [phaseStrokes])

end Axis

/-- What a timer match does to an axis. The report that it could not pass on is parked if it is
terminal, and counted as lost if it is not. -/
theorem Machine.mem_matchStrokes {m : Machine} {nowMs : Nat} {a : Axis} {o : Operation}
    (h : o ∈ m.matchStrokes nowMs a) :
    o = .tick nowMs ∨ ∃ note e, (a.tick nowMs).2 = .ok (some note) ∧ m.notes.offer note = .error e
      ∧ ((note.kind.isTerminal = true ∧ o = .park note)
        ∨ (note.kind.isTerminal = false ∧ o = .countDropped)) := by
  unfold Machine.matchStrokes at h
  rcases List.mem_cons.mp h with rfl | h
  · exact Or.inl rfl
  · refine Or.inr ?_
    split at h
    · rename_i note hr
      split at h
      · exact absurd h (by simp)
      · rename_i e hoffer
        cases hk : note.kind.isTerminal with
        | true =>
            rw [hk, if_pos rfl] at h
            exact ⟨note, e, hr, hoffer, Or.inl ⟨hk, List.mem_singleton.mp h⟩⟩
        | false =>
            rw [hk, if_neg (by simp)] at h
            exact ⟨note, e, hr, hoffer, Or.inr ⟨hk, List.mem_singleton.mp h⟩⟩
    · exact absurd h (by simp)

namespace Station

/-- **The supervisor alone judges reports and takes those that are parked.** -/
theorem supervise_of_strokes {s : Station} {j : Nat} {a : Axis} {x : Action} {o : Operation}
    (ho : o = .takeParked ∨ ∃ note, o = .inspect note) (h : o ∈ s.strokes j a x) :
    ∃ signalFirst, x = .supervise signalFirst := by
  cases x with
  | supervise signalFirst => exact ⟨signalFirst, rfl⟩
  | dispatch i =>
      exfalso
      simp only [strokes] at h
      split at h
      · exact absurd h (by simp)
      · split at h
        · rcases Axis.mem_phaseStrokes h with rfl | rfl | ⟨_, rfl⟩ | ⟨_, rfl⟩ <;> simp at ho
        · exact absurd h (by simp)
  | timerMatch h' held =>
      exfalso
      simp only [strokes] at h
      split at h
      · rcases Machine.mem_matchStrokes h with rfl | ⟨_, _, _, _, ⟨_, rfl⟩ | ⟨_, rfl⟩⟩ <;> simp at ho
      · exact absurd h (by simp)
  | reverse id =>
      exfalso
      simp only [strokes] at h
      split at h
      · exact absurd h (by simp)
      · rcases ho with rfl | ⟨_, rfl⟩ <;> simp at h
  | _ => exfalso; rcases ho with rfl | ⟨_, rfl⟩ <;> simp [strokes] at h

/-- **A timer match alone counts a report as lost: one of progress for which there is no room.** -/
theorem countDropped_of_strokes {s : Station} {j : Nat} {a : Axis} {x : Action}
    (h : .countDropped ∈ s.strokes j a x) :
    x = .timerMatch j false ∧ a.isRunning = true ∧ ∃ note e, (a.tick s.nowMs).2 = .ok (some note)
      ∧ s.machine.notes.offer note = .error e ∧ note.kind.isTerminal = false := by
  have hstruck := s.strokes_struck j a x
  generalize s.strokes j a x = ops at h hstruck
  cases hstruck with
  | alone => exact absurd h (by simp)
  | minor hminor =>
      obtain rfl := List.mem_singleton.mp h
      exact absurd hminor (by simp [Axis.Operation.isMinor])
  | matched hrun =>
      rcases Machine.mem_matchStrokes h with h | ⟨note, e, hr, hoffer, ⟨_, h⟩ | ⟨hk, _⟩⟩
      · exact absurd h (by simp)
      · exact absurd h (by simp)
      · exact ⟨rfl, hrun, note, e, hr, hoffer, hk⟩
  | dispatched _ _ =>
      rcases Axis.mem_phaseStrokes h with h | h | ⟨_, h⟩ | ⟨_, h⟩ <;> exact absurd h (by simp)
  | resumed _ _ _ => exact absurd h (by simp)
  | stopped => exact absurd h (by simp)

end Station

end StepperMotion
