import StepperMotion.Proofs.Paperwork

/-!
# Turns

What the actions of a station do to the epoch and to the direction line of an axis. Most of them do
nothing to either. `act_turn` says that an axis is halted for a change of direction by its own
dispatcher only, and `act_level` that an axis which is not stopped is turned by two parties only: by
the dispatcher, when the axis was halted for it, and by a move that goes on in the epoch in which it
was put down.
-/

namespace StepperMotion

open Axis (Operation)

/-! ## The epoch of an axis and the strokes on it -/

namespace Axis

/-- Operations that go on in the epoch, whatever axis they are for. -/
def Operation.Calm (o : Operation) : Prop := ∀ a : Axis, a.Continues (a.perform o).1

theorem continues_after {ops : List Operation} (h : ∀ o ∈ ops, o.Calm) (a : Axis) :
    a.Continues (a.after ops) := by
  induction ops generalizing a with
  | nil => exact Continues.refl a
  | cons o ops ih =>
      have hhead := h o (List.mem_cons_self ..) a
      exact hhead.trans (ih (fun o' h' => h o' (List.mem_cons_of_mem _ h')) _)

theorem calm_tick (nowMs : Nat) : (Operation.tick nowMs).Calm :=
  fun a => continues_served (tick_served a nowMs)

theorem calm_of_minor {o : Operation} (h : o.isMinor = true) : o.Calm := by
  intro a
  cases o with
  | inspect note => exact continues_inspect a note
  | setOffset offset => exact ⟨rfl, rfl, rfl, rfl, id⟩
  | status => exact ⟨rfl, rfl, rfl, rfl, id⟩
  | takeParked => exact ⟨rfl, rfl, rfl, rfl, id⟩
  | place position => exact ⟨rfl, rfl, rfl, rfl, id⟩
  | freeze frozen => exact ⟨rfl, rfl, rfl, rfl, id⟩
  | limitTimer hz => exact ⟨rfl, rfl, rfl, rfl, id⟩
  | _ => exact absurd h (by simp [Operation.isMinor])

theorem calm_matchStrokes {m : Machine} {nowMs : Nat} {a : Axis} {o : Operation}
    (h : o ∈ m.matchStrokes nowMs a) : o.Calm := by
  rcases Machine.mem_matchStrokes h with rfl | ⟨_, _, _, _, ⟨_, rfl⟩ | ⟨_, rfl⟩⟩
  · exact calm_tick nowMs
  · exact fun a => ⟨rfl, rfl, rfl, rfl, id⟩
  · exact fun a => ⟨rfl, rfl, rfl, rfl, id⟩

/-- An axis that has just made a terminal report is at rest. -/
theorem rests_of_terminal {m : Machine} {nowMs : Nat} {a : Axis} {note : Notification}
    (hreport : (a.tick nowMs).2 = .ok (some note)) (hk : note.kind.isTerminal = true) :
    (a.after (m.matchStrokes nowMs a)).isRunning = false := by
  have hserved := tick_served a nowMs
  rw [hreport] at hserved
  have hrest : (a.tick nowMs).1.isRunning = false := (served_report hserved).2.2 hk
  -- whatever becomes of the report, the axis is left alone by it
  have hcalm : ∀ o ∈ (m.matchStrokes nowMs a).tail, o.Calm := by
    intro o ho
    exact calm_matchStrokes (m := m) (List.mem_cons_of_mem _ ho)
  exact (continues_after hcalm _).rests hrest

/-- **A dispatcher makes an axis rest, and the axis was halted for it; or it does not, and then the
axis was not halted for a change of direction.** -/
theorem turn_phase (a : Axis) (nowMs : Nat) (p : Dispatcher.Phase) :
    (a.hasToRest nowMs p = false ∧ (a.Continues (a.after (a.phaseStrokes nowMs p))
      ∨ a.Renews (a.after (a.phaseStrokes nowMs p))))
    ∨ (a.hasToRest nowMs p = true ∧ a.Quiesces (a.after (a.phaseStrokes nowMs p))) := by
  have hattempt : ∀ c,
      ((a.attempt c nowMs).answer.isNone = false
        ∧ (a.Continues (a.after (a.attemptStrokes c nowMs))
          ∨ a.Renews (a.after (a.attemptStrokes c nowMs))))
      ∨ ((a.attempt c nowMs).answer.isNone = true
        ∧ a.Quiesces (a.after (a.attemptStrokes c nowMs))) := by
    -- the attempt asks again whether the axis has to rest, as it may have been set going meanwhile
    intro c
    rcases turn_beginDirectionChange a c with ⟨hans, hcont⟩ | ⟨hans, hq⟩
    · refine Or.inl ⟨by simp [attempt, hans], ?_⟩
      simp only [attemptStrokes, hans, Bool.false_eq_true, if_false, after_cons, after_nil, perform]
      rcases turn_apply (a.beginDirectionChange c).axis c nowMs with h | h
      · exact Or.inl (hcont.trans h)
      · exact Or.inr (hcont.renews h)
    · refine Or.inr ?_
      simp only [attemptStrokes, attempt, hans, if_true, after_cons, after_nil, perform]
      exact ⟨rfl, hq⟩
  have hsame : a.Continues (a.after []) := Continues.refl a
  cases p with
  | starting => exact Or.inl ⟨rfl, Or.inl hsame⟩
  | idle => exact Or.inl ⟨rfl, Or.inl hsame⟩
  | ended => exact Or.inl ⟨rfl, Or.inl hsame⟩
  | failed f => exact Or.inl ⟨rfl, Or.inl hsame⟩
  | ready e => exact hattempt e.command
  | waiting e untilMs =>
      simp only [phaseStrokes, hasToRest]
      split
      · exact hattempt e.command
      · exact Or.inl ⟨rfl, Or.inl hsame⟩
  | received e =>
      simp only [phaseStrokes, hasToRest]
      split
      · exact Or.inl ⟨rfl, turn_stop a⟩
      · unfold prepareStrokes prepare
        cases a.validate e.command with
        | error failure => exact Or.inl ⟨rfl, Or.inl hsame⟩
        | ok u =>
            have hclear : a.Continues a.clearFaults := ⟨rfl, rfl, rfl, rfl, id⟩
            rcases turn_beginDirectionChange a.clearFaults e.command with
              ⟨hans, hcont⟩ | ⟨hans, hq⟩
            · exact Or.inl ⟨hans, Or.inl (hclear.trans hcont)⟩
            · exact Or.inr ⟨hans, hclear.quiesces hq⟩

theorem quiesces_of_hasToRest {a : Axis} {nowMs : Nat} {p : Dispatcher.Phase}
    (h : a.hasToRest nowMs p = true) : a.Quiesces (a.after (a.phaseStrokes nowMs p)) := by
  rcases turn_phase a nowMs p with ⟨hnot, _⟩ | ⟨_, hq⟩
  · exact absurd (hnot.symm.trans h) (by simp)
  · exact hq

/-! ## The direction line and the strokes on it -/

/-- Operations that leave the direction line alone, whatever axis they are for. -/
def Operation.Straight (o : Operation) : Prop :=
  ∀ a : Axis, (a.perform o).1.board.dirLevel = a.board.dirLevel

theorem level_after {ops : List Operation} (h : ∀ o ∈ ops, o.Straight) (a : Axis) :
    (a.after ops).board.dirLevel = a.board.dirLevel := by
  induction ops generalizing a with
  | nil => rfl
  | cons o ops ih =>
      have hrest := ih (fun o' h' => h o' (List.mem_cons_of_mem _ h')) (a.perform o).1
      exact hrest.trans (h o (List.mem_cons_self ..) a)

theorem straight_tick (nowMs : Nat) : (Operation.tick nowMs).Straight :=
  fun a => level_served (tick_served a nowMs)

theorem straight_stop : Operation.stop.Straight := by
  intro a
  obtain ⟨_, _, _, h⟩ := stop_frame a
  simp only [perform, h]

theorem straight_of_minor {o : Operation} (h : o.isMinor = true) : o.Straight := by
  intro a
  cases o with
  | inspect note =>
      obtain ⟨b, _, _, hb, heq⟩ := inspect_cases a note
      simp only [perform, heq]
      rcases hb with rfl | rfl <;> rfl
  | setOffset offset => rfl
  | status => rfl
  | takeParked => rfl
  | place position => rfl
  | freeze frozen => rfl
  | limitTimer hz => rfl
  | _ => exact absurd h (by simp [Operation.isMinor])

theorem straight_beginDirectionChange (c : Command) :
    (Operation.beginDirectionChange c).Straight := by
  intro a
  rcases beginDirectionChange_cases a c with ⟨_, h | h, _⟩ | ⟨_, _, h | h⟩ <;>
    simp only [perform, h] <;> rfl

theorem straight_matchStrokes {m : Machine} {nowMs : Nat} {a : Axis} {o : Operation}
    (h : o ∈ m.matchStrokes nowMs a) : o.Straight := by
  rcases Machine.mem_matchStrokes h with rfl | ⟨_, _, _, _, ⟨_, rfl⟩ | ⟨_, rfl⟩⟩
  · exact straight_tick nowMs
  · exact fun a => rfl
  · exact fun a => rfl

/-- **A dispatcher turns an axis only if it is stopped, or halted for it, and only when its time has
come.** -/
theorem level_phase {a : Axis} {nowMs : Nat} {p : Dispatcher.Phase} (hcoh : a.Coherent)
    (hturn : (a.after (a.phaseStrokes nowMs p)).board.dirLevel ≠ a.board.dirLevel) :
    (a.mode = .stopped ∨ a.isQuiesced = true) ∧ ∃ t, p.earliest? nowMs = some t ∧ t ≤ nowMs := by
  have hattempt : ∀ c, (a.after (a.attemptStrokes c nowMs)).board.dirLevel ≠ a.board.dirLevel →
      a.mode = .stopped ∨ a.isQuiesced = true := by
    intro c hturn
    cases hans : (a.beginDirectionChange c).answer with
    | false =>
        simp only [attemptStrokes, hans, Bool.false_eq_true, if_false] at hturn
        exact level_apply hcoh hans hturn
    | true =>
        simp only [attemptStrokes, hans, if_true] at hturn
        exact absurd (straight_beginDirectionChange c a) hturn
  cases p with
  | starting => exact absurd rfl hturn
  | idle => exact absurd rfl hturn
  | ended => exact absurd rfl hturn
  | failed f => exact absurd rfl hturn
  | ready e => exact ⟨hattempt e.command hturn, nowMs, rfl, Nat.le_refl _⟩
  | waiting e untilMs =>
      simp only [phaseStrokes] at hturn
      split at hturn
      · rename_i hdue
        exact ⟨hattempt e.command hturn, untilMs, rfl, hdue⟩
      · exact absurd rfl hturn
  | received e =>
      -- a command that has only been received is not carried out yet
      exfalso
      simp only [phaseStrokes] at hturn
      split at hturn
      · exact hturn (straight_stop a)
      · unfold prepareStrokes at hturn
        split at hturn
        · exact hturn rfl
        · exact hturn (straight_beginDirectionChange e.command a.clearFaults)

end Axis

namespace Station

/-- **An action goes on in the epoch of an axis or begins a new one, and if it begins a new one for
a change of direction, then it is the stroke of the dispatcher that waits for it.** -/
theorem act_turn (s : Station) (j : Nat) (a : Axis) (x : Action) :
    (a.Continues (a.after (s.strokes j a x)) ∨ a.Renews (a.after (s.strokes j a x)))
    ∨ (a.Quiesces (a.after (s.strokes j a x)) ∧ ∃ i d, x = .dispatch i
      ∧ s.dispatchers[i]? = some d ∧ d.handle = j ∧ a.hasToRest s.nowMs d.phase = true) := by
  have h := s.strokes_struck j a x
  generalize s.strokes j a x = ops at h ⊢
  cases h with
  | alone => exact Or.inl (Or.inl (Axis.Continues.refl a))
  | minor hminor => exact Or.inl (Or.inl (Axis.calm_of_minor hminor a))
  | matched _ =>
      exact Or.inl (Or.inl (Axis.continues_after (fun _ ho => Axis.calm_matchStrokes ho) a))
  | @dispatched i d hd hj =>
      rcases Axis.turn_phase a s.nowMs d.phase with ⟨_, hturn⟩ | ⟨hrest, hq⟩
      · exact Or.inl hturn
      · exact Or.inr ⟨hq, i, d, rfl, hd, hj, hrest⟩
  | @resumed _ r _ _ _ => exact Or.inl (Axis.turn_resume a r.note.epoch s.nowMs)
  | stopped => exact Or.inl (Axis.turn_stop a)

/-- An action goes on in the epoch of an axis or begins the next one. -/
theorem act_epoch (s : Station) (j : Nat) (a : Axis) (x : Action) :
    a.Continues (a.after (s.strokes j a x)) ∨ (a.after (s.strokes j a x)).epoch = a.epoch + 1 := by
  rcases act_turn s j a x with (hc | hr) | ⟨hq, _⟩
  · exact Or.inl hc
  · exact Or.inr hr.epoch
  · exact Or.inr hq.epoch

/-- **Whoever turns an axis that is not stopped has halted it, or finds it in the epoch in which it
was put down to go on.** -/
theorem act_level {s : Station} {j : Nat} {a : Axis} (hcoh : a.Coherent) {x : Action}
    (hturn : (a.after (s.strokes j a x)).board.dirLevel ≠ a.board.dirLevel) :
    (∃ i d, x = .dispatch i ∧ s.dispatchers[i]? = some d ∧ d.handle = j
      ∧ (a.mode = .stopped ∨ a.isQuiesced = true)
      ∧ ∃ t, d.phase.earliest? s.nowMs = some t ∧ t ≤ s.nowMs)
    ∨ ∃ r ∈ s.reversals, r.dueMs ≤ s.nowMs ∧ r.note.handle = j
      ∧ a.awaitsResume r.note.epoch = true := by
  have h := s.strokes_struck j a x
  generalize s.strokes j a x = ops at h hturn
  cases h with
  | alone => exact absurd rfl hturn
  | minor hminor => exact absurd (Axis.straight_of_minor hminor a) hturn
  | matched _ =>
      exact absurd (Axis.level_after (fun _ ho => Axis.straight_matchStrokes ho) a) hturn
  | @dispatched i d hd hj =>
      obtain ⟨hwhy, hready⟩ := Axis.level_phase hcoh hturn
      exact Or.inl ⟨i, d, rfl, hd, hj, hwhy, hready⟩
  | @resumed _ r hr hdue hj => exact Or.inr ⟨r, hr, hdue, hj, Axis.level_resume hturn⟩
  | stopped => exact absurd (Axis.straight_stop a) hturn

end Station

end StepperMotion
