import StepperMotion.Proofs.Action
import StepperMotion.Proofs.Epoch
import StepperMotion.Proofs.Records

/-!
# The paperwork

What the actions of a station preserve of its paperwork. A dispatcher is never in a position to
carry out a command any sooner than it was (`act_dispatchers`). A report comes into being when a
timer match is served, and after that it is in the queue, parked, or in the hands of the supervisor,
until it has been judged (`act_inFlight`). Judging it may put a move down to go on later
(`act_reversals`).
-/

namespace StepperMotion

open Axis (Operation)

/-! ## Parked reports -/

namespace Axis

/-- **A report is on an axis because it was parked there.** -/
theorem parked_perform {a : Axis} {o : Operation} {note : Notification}
    (h : (a.perform o).1.parked = some note) : a.parked = some note ∨ o = .park note := by
  by_cases htake : o = .takeParked
  · subst htake
    exact absurd h (by simp [perform, takeParked])
  · by_cases hpark : ∃ n, o = .park n
    · obtain ⟨n, rfl⟩ := hpark
      obtain rfl := Option.some.inj h
      exact Or.inr rfl
    · have hsame : (a.perform o).1.parked = a.parked :=
        parked_same htake fun n heq => hpark ⟨n, heq⟩
      exact Or.inl (hsame.symm.trans h)

theorem parked_after {a : Axis} {ops : List Operation} {note : Notification}
    (h : (a.after ops).parked = some note) : a.parked = some note ∨ .park note ∈ ops := by
  induction ops generalizing a with
  | nil => exact Or.inl h
  | cons o ops ih =>
      rcases ih h with hkept | hlater
      · rcases parked_perform hkept with hold | rfl
        · exact Or.inl hold
        · exact Or.inr (List.mem_cons_self ..)
      · exact Or.inr (List.mem_cons_of_mem _ hlater)

end Axis

/-! ## The clock and the dispatchers -/

namespace Station

theorem act_config (s : Station) (x : Action) : (s.act x).machine.config = s.machine.config := by
  have h := s.act_acted x
  generalize s.act x = s' at h ⊢
  cases h with
  | quiet h => exact h.config
  | accepted _ _ => rfl
  | matched hconfig _ => exact hconfig
  | dispatched _ h => rw [h.machine]; rfl
  | supervised h =>
      cases h with
      | idle _ _ => rfl
      | judged _ h => exact h.config
      | visited _ _ => rfl
      | heeded _ => rfl
      | collected _ _ => rfl
  | reversed h => rw [h.machine]; rfl
  | calledOff _ => rfl
  | closed => rfl

theorem supervised_frame {s s' : Station} (h : s.Supervised s') :
    s'.nowMs = s.nowMs ∧ s'.dispatchers = s.dispatchers := by
  cases h with
  | idle _ _ => exact ⟨rfl, rfl⟩
  | judged _ h => exact ⟨h.nowMs, h.dispatchers⟩
  | visited _ _ => exact ⟨rfl, rfl⟩
  | heeded _ => exact ⟨rfl, rfl⟩
  | collected _ _ => exact ⟨rfl, rfl⟩

theorem act_nowMs (s : Station) (x : Action) : s.nowMs ≤ (s.act x).nowMs := by
  have h := s.act_acted x
  generalize s.act x = s' at h ⊢
  cases h with
  | quiet h => exact h.nowMs
  | accepted _ _ => exact Nat.le_refl _
  | matched _ _ => exact Nat.le_refl _
  | dispatched _ h => exact Nat.le_of_eq h.nowMs.symm
  | supervised h => exact Nat.le_of_eq (supervised_frame h).1.symm
  | reversed h => exact Nat.le_of_eq h.nowMs.symm
  | calledOff _ => exact Nat.le_refl _
  | closed => exact Nat.le_refl _

/-- A dispatcher does not get ready any sooner when time passes. -/
theorem earliest_mono {p : Dispatcher.Phase} {nowMs nowMs' : Nat} (h : nowMs ≤ nowMs') {t' : Nat}
    (ht : p.earliest? nowMs' = some t') : ∃ t, p.earliest? nowMs = some t ∧ t ≤ t' := by
  cases p with
  | waiting e untilMs => exact ⟨t', ht, Nat.le_refl _⟩
  | ended => exact absurd ht (by simp [Dispatcher.Phase.earliest?])
  | failed f => exact absurd ht (by simp [Dispatcher.Phase.earliest?])
  | starting => exact ⟨nowMs, rfl, Option.some.inj ht ▸ h⟩
  | idle => exact ⟨nowMs, rfl, Option.some.inj ht ▸ h⟩
  | received e => exact ⟨nowMs, rfl, Option.some.inj ht ▸ h⟩
  | ready e => exact ⟨nowMs, rfl, Option.some.inj ht ▸ h⟩

theorem get_set_dispatcher {ds : List Dispatcher} {i j : Nat} {d₁ d' : Dispatcher}
    (h : (ds.set i d₁)[j]? = some d') :
    (i = j ∧ d' = d₁) ∨ (i ≠ j ∧ ds[j]? = some d') := by
  rw [List.getElem?_set] at h
  split at h
  · rename_i hij
    split at h
    · exact Or.inl ⟨hij, (Option.some.inj h).symm⟩
    · exact absurd h (by simp)
  · rename_i hij
    exact Or.inr ⟨hij, h⟩

/-- **Whatever happens, a dispatcher serves the same axis and may not carry out a command any sooner
than before.** -/
theorem act_dispatchers {s : Station} {x : Action} {j : Nat} {d' : Dispatcher}
    (hd' : (s.act x).dispatchers[j]? = some d') :
    ∃ d, s.dispatchers[j]? = some d ∧ d'.handle = d.handle
      ∧ ∀ t', d'.phase.earliest? (s.act x).nowMs = some t' →
        ∃ t, d.phase.earliest? s.nowMs = some t ∧ t ≤ t' := by
  have hnow := act_nowMs s x
  have h := s.act_acted x
  generalize s.act x = s' at h hnow hd' ⊢
  -- a dispatcher that is where it was can only have got older
  have hkept : ∀ d, s.dispatchers[j]? = some d → d'.handle = d.handle → d'.phase = d.phase →
      ∃ d, s.dispatchers[j]? = some d ∧ d'.handle = d.handle
        ∧ ∀ t', d'.phase.earliest? s'.nowMs = some t' →
          ∃ t, d.phase.earliest? s.nowMs = some t ∧ t ≤ t' := by
    intro d hd hhandle hphase
    refine ⟨d, hd, hhandle, fun t' ht => ?_⟩
    rw [hphase] at ht
    exact earliest_mono hnow ht
  cases h with
  | quiet h =>
      obtain ⟨d, hd, hhandle, hphase, _⟩ := h.dispatchers j d' hd'
      exact hkept d hd hhandle hphase
  | accepted _ hd =>
      rcases get_set_dispatcher hd' with ⟨rfl, rfl⟩ | ⟨_, hj⟩
      · exact hkept _ hd rfl rfl
      · exact hkept d' hj rfl rfl
  | matched _ _ => exact hkept d' hd' rfl rfl
  | @dispatched i d _ hd h =>
      obtain ⟨d₁, hset, hfollows⟩ := h.dispatchers
      rw [hset] at hd'
      rcases get_set_dispatcher hd' with ⟨rfl, rfl⟩ | ⟨_, hj⟩
      · refine ⟨d, hd, hfollows.handle, fun t' ht => ?_⟩
        rw [h.nowMs] at ht
        exact hfollows.later t' ht
      · exact hkept d' hj rfl rfl
  | supervised h => exact hkept d' ((supervised_frame h).2 ▸ hd') rfl rfl
  | reversed h => exact hkept d' (h.dispatchers ▸ hd') rfl rfl
  | calledOff hd =>
      rcases get_set_dispatcher hd' with ⟨rfl, rfl⟩ | ⟨_, hj⟩
      · exact ⟨_, hd, rfl, fun t' ht => absurd ht (by simp [Dispatcher.Phase.earliest?])⟩
      · exact hkept d' hj rfl rfl
  | closed => exact hkept d' hd' rfl rfl

/-! ## Reports -/

/-- A move is put down to go on when a report is judged that it passed its setpoint, and goes on
after a rest. -/
theorem act_reversals {s : Station} {x : Action} {r : Reversal} (hr : r ∈ (s.act x).reversals) :
    r ∈ s.reversals ∨ ∃ toVisit, s.supervisor = .working (some r.note) toVisit
      ∧ r.note.kind = .overshoot ∧ r.dueMs = s.nowMs + s.machine.config.restMs := by
  have h := s.act_acted x
  generalize s.act x = s' at h hr
  cases h with
  | quiet h => exact Or.inl (h.reversals ▸ hr)
  | accepted _ _ => exact Or.inl hr
  | matched _ _ => exact Or.inl hr
  | dispatched _ h => exact Or.inl (h.reversals ▸ hr)
  | supervised h =>
      cases h with
      | @judged note toVisit _ hs h =>
          rcases h.reversals with hsame | ⟨hk, hnew⟩
          · exact Or.inl (hsame ▸ hr)
          · rw [hnew] at hr
            rcases List.mem_append.mp hr with hold | hlast
            · exact Or.inl hold
            · obtain rfl := List.mem_singleton.mp hlast
              exact Or.inr ⟨toVisit, hs, hk, rfl⟩
      | idle _ _ => exact Or.inl hr
      | visited _ _ => exact Or.inl hr
      | heeded _ => exact Or.inl hr
      | collected _ _ => exact Or.inl hr
  | reversed h =>
      rw [h.reversals] at hr
      exact Or.inl (List.mem_filter.mp hr).1
  | calledOff _ => exact Or.inl hr
  | closed => exact Or.inl hr

/-- A report that nobody has judged. -/
inductive InFlight (s : Station) (note : Notification) : Prop where
  | queued (h : note ∈ s.machine.notes.items)
  | inHand {toVisit : List Nat} (h : s.supervisor = .working (some note) toVisit)
  | parked {j : Nat} {a : Axis} (ha : s.machine.axes[j]? = some a) (h : a.parked = some note)

/-- A timer match is served that reports the note. -/
def Reports (s : Station) (x : Action) (note : Notification) : Prop :=
  ∃ h a, x = .timerMatch h false ∧ s.machine.axes[h]? = some a ∧ a.isRunning = true
    ∧ (a.tick s.nowMs).2 = .ok (some note)

/-- **A report is only ever parked by the timer match that has it to report.** -/
theorem park_of_strokes {s : Station} {j : Nat} {a : Axis} {x : Action} {note : Notification}
    (ha : s.machine.axes[j]? = some a) (hmem : .park note ∈ s.strokes j a x) :
    s.Reports x note := by
  have h := s.strokes_struck j a x
  generalize s.strokes j a x = ops at h hmem
  cases h with
  | alone => exact absurd hmem (by simp)
  | minor hminor =>
      obtain rfl := List.mem_singleton.mp hmem
      exact absurd hminor (by simp [Axis.Operation.isMinor])
  | matched hrun =>
      -- the match parks the report that it has to make
      rcases Machine.mem_matchStrokes hmem with h | ⟨n, _, hr, _, ⟨_, h⟩ | ⟨_, h⟩⟩
      · exact absurd h (by simp)
      · obtain rfl : note = n := by simpa using h
        exact ⟨j, a, rfl, ha, hrun, hr⟩
      · exact absurd h (by simp)
  | dispatched _ _ =>
      rcases Axis.mem_phaseStrokes hmem with h | h | ⟨_, h⟩ | ⟨_, h⟩ <;> exact absurd h (by simp)
  | resumed _ _ _ => exact absurd hmem (by simp)
  | stopped => exact absurd hmem (by simp)

/-- A note that finds room in a queue is the last one in it. -/
theorem items_of_offer {b b' : Mailbox Notification} {note : Notification}
    (h : b.offer note = .ok b') : b'.items = b.items ++ [note] := by
  unfold Mailbox.offer at h
  split at h
  · split at h
    · rw [← Except.ok.inj h]
    · exact absurd h (by simp)
  · exact absurd h (by simp)

/-- A note that is in a queue after one was put in. -/
theorem mem_of_offer {b b' : Mailbox Notification} {note n : Notification}
    (hoffer : b.offer note = .ok b') (h : n ∈ b'.items) : n ∈ b.items ∨ n = note := by
  rw [items_of_offer hoffer] at h
  exact (List.mem_append.mp h).imp id fun h => List.mem_singleton.mp h

/-- The note that is taken out of a queue is the first one in it. -/
theorem items_of_next {b b' : Mailbox Notification} {note : Notification}
    (h : b.next? = some (note, b')) : b.items = note :: b'.items := by
  unfold Mailbox.next? at h
  split at h
  · exact absurd h (by simp)
  · rename_i hitems
    obtain ⟨rfl, rfl⟩ := Prod.mk.inj (Option.some.inj h)
    exact hitems

/-- The note that is taken out of a queue was in it, and so were those that stay. -/
theorem mem_of_next {b b' : Mailbox Notification} {note : Notification}
    (hnext : b.next? = some (note, b')) :
    note ∈ b.items ∧ ∀ n ∈ b'.items, n ∈ b.items := by
  rw [items_of_next hnext]
  exact ⟨List.mem_cons_self .., fun n h => List.mem_cons_of_mem _ h⟩

theorem act_notes {s : Station} {x : Action} {note : Notification}
    (hmem : note ∈ (s.act x).machine.notes.items) :
    note ∈ s.machine.notes.items ∨ s.Reports x note := by
  have h := s.act_acted x
  generalize s.act x = s' at h hmem
  cases h with
  | quiet h => exact Or.inl (h.notes ▸ hmem)
  | accepted _ _ => exact Or.inl hmem
  | @matched i _ _ _ hnotes =>
      rcases hnotes with hsame | ⟨a, n, rfl, ha, hrun, hr, hoffer⟩
      · exact Or.inl (hsame ▸ hmem)
      · rcases mem_of_offer hoffer hmem with hold | rfl
        · exact Or.inl hold
        · exact Or.inr ⟨i, a, rfl, ha, hrun, hr⟩
  | dispatched _ h =>
      rw [h.machine] at hmem
      exact Or.inl hmem
  | supervised h =>
      cases h with
      | idle _ _ => exact Or.inl hmem
      | judged _ h => exact Or.inl (h.notes ▸ hmem)
      | visited _ _ => exact Or.inl hmem
      | heeded _ => exact Or.inl hmem
      | collected _ hnext => exact Or.inl ((mem_of_next hnext).2 note hmem)
  | reversed h =>
      rw [h.machine] at hmem
      exact Or.inl hmem
  | calledOff _ => exact Or.inl hmem
  | closed => exact absurd hmem (by simp [Mailbox.close])

theorem act_inHand {s : Station} {x : Action} {note : Notification} {toVisit : List Nat}
    (hhand : (s.act x).supervisor = .working (some note) toVisit) : s.InFlight note := by
  have h := s.act_acted x
  generalize s.act x = s' at h hhand
  cases h with
  | quiet h => exact .inHand (h.supervisor ▸ hhand)
  | accepted _ _ => exact .inHand hhand
  | matched _ _ => exact .inHand hhand
  | dispatched _ h => exact .inHand (h.supervisor ▸ hhand)
  | supervised h =>
      cases h with
      | idle _ hnext =>
          rcases hnext with rfl | rfl
          · exact .inHand hhand
          · exact absurd hhand (by simp)
      | judged _ h =>
          rw [h.supervisor] at hhand
          exact absurd hhand (by simp)
      | visited _ hnote =>
          obtain ⟨hin, _⟩ := Supervisor.working.inj hhand
          obtain ⟨a, ha, hp⟩ := hnote note hin
          exact .parked ha hp
      | heeded _ => exact absurd hhand (by simp)
      | collected _ hnext =>
          obtain ⟨hin, _⟩ := Supervisor.working.inj hhand
          obtain rfl := Option.some.inj hin
          exact .queued (mem_of_next hnext).1
  | reversed h => exact .inHand (h.supervisor ▸ hhand)
  | calledOff _ => exact .inHand hhand
  | closed => exact absurd hhand (by simp)

/-- **A report that is in flight was so before, or it was reported just now.** -/
theorem act_inFlight {s : Station} {x : Action} {note : Notification}
    (h : (s.act x).InFlight note) : s.InFlight note ∨ s.Reports x note := by
  cases h with
  | queued h => exact (act_notes h).imp .queued id
  | inHand h => exact Or.inl (act_inHand h)
  | @parked j b hb h =>
      rw [act_axes, Option.map_eq_some_iff] at hb
      obtain ⟨a, ha, rfl⟩ := hb
      rcases Axis.parked_after h with h | h
      · exact Or.inl (.parked ha h)
      · exact Or.inr (park_of_strokes ha h)

end Station

end StepperMotion
