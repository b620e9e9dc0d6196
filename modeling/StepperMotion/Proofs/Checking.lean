import StepperMotion.Proofs.Turn

/-!
# Commands that have been checked

A dispatcher checks a command at one stroke and carries it out at a later one. In between it is ready
to do so, or it waits because it has halted its axis. `Dispatcher.Proceeds` says how it gets there,
and `act_phase` that nobody else brings it there.
-/

namespace StepperMotion

/-- A dispatcher has checked a command and will carry it out at its next stroke. -/
def Dispatcher.Phase.hasChecked : Dispatcher.Phase → Bool
  | .ready _ => true
  | _ => false

/-- What a dispatcher does next after a stroke. -/
inductive Dispatcher.Proceeds (s : Station) (d : Dispatcher) : Dispatcher.Phase → Prop where
  /-- It has no command that it has checked. -/
  | free {p : Dispatcher.Phase} (hready : ∀ e, p ≠ .ready e)
      (hwaiting : ∀ e untilMs, p ≠ .waiting e untilMs) : Proceeds s d p
  /-- It has checked a command, and the axis may go on at once. -/
  | checked {e : Envelope} {a : Axis} (hp : d.phase = .received e) (hmove : e.command ≠ .stop)
      (ha : s.machine.axes[d.handle]? = some a)
      (hans : (a.prepare e.command).answer = .ok false) : Proceeds s d (.ready e)
  /-- It has halted the axis. -/
  | halted {e : Envelope} {untilMs : Nat} {a : Axis} (ha : s.machine.axes[d.handle]? = some a)
      (hrest : a.hasToRest s.nowMs d.phase = true) : Proceeds s d (.waiting e untilMs)
  /-- Its time has not come yet. -/
  | waits {e : Envelope} {untilMs : Nat} (hp : d.phase = .waiting e untilMs)
      (hlater : ¬ untilMs ≤ s.nowMs) : Proceeds s d (.waiting e untilMs)

namespace Station

variable {s : Station} {i j : Nat} {d : Dispatcher} {e : Envelope}

theorem finish_proceeds (s₁ : Station) (d₁ : Dispatcher) (r : Except Failure Outcome) :
    ∃ d', (s₁.finish i d₁ e r).dispatchers = s₁.dispatchers.set i d' ∧ d.Proceeds s d'.phase := by
  obtain ⟨d', replies, heq, _, hd'⟩ := finish_eq s₁ i d₁ e r
  rw [heq]
  refine ⟨d', rfl, ?_⟩
  rcases hd' with rfl | ⟨f, _, rfl⟩ <;> exact .free (by simp) (by simp)

theorem begin_proceeds (hp : d.phase = .received e) :
    ∃ d', (s.begin i d e).dispatchers = s.dispatchers.set i d' ∧ d.Proceeds s d'.phase := by
  unfold begin
  split
  · cases ha : s.machine.axes[d.handle]? with
    | none =>
        simp only [operate_none ha]
        exact finish_proceeds _ d _
    | some a =>
        simp only [operate_some ha]
        exact finish_proceeds _ d _
  · rename_i hmove
    cases ha : s.machine.axes[d.handle]? with
    | none =>
        simp only [operate_none ha]
        exact finish_proceeds _ d _
    | some a =>
        simp only [operate_some ha]
        cases hans : (a.prepare e.command).answer with
        | error failure => cases failure <;> exact finish_proceeds _ d _
        | ok mustRest =>
            cases mustRest with
            | true =>
                have hrest : a.hasToRest s.nowMs d.phase = true := by
                  simp only [hp, Axis.hasToRest, if_neg hmove, hans]
                exact ⟨_, rfl, .halted ha hrest⟩
            | false => exact ⟨_, rfl, .checked hp hmove ha hans⟩

theorem attempt_proceeds (hrest : ∀ a : Axis, (a.attempt e.command s.nowMs).answer = none →
      a.hasToRest s.nowMs d.phase = true) :
    ∃ d', (s.attempt i d e).dispatchers = s.dispatchers.set i d' ∧ d.Proceeds s d'.phase := by
  unfold attempt
  cases ha : s.machine.axes[d.handle]? with
  | none =>
      simp only [operate_none ha]
      exact finish_proceeds _ d _
  | some a =>
      simp only [operate_some ha]
      cases hans : (a.attempt e.command s.nowMs).answer with
      | none => exact ⟨_, rfl, .halted ha (hrest a hans)⟩
      | some result => exact finish_proceeds _ d _

/-- **A dispatcher has checked a command only if it has just done so, and waits only if it has
halted its axis.** -/
theorem dispatch_proceeds (hd : s.dispatchers[i]? = some d) :
    ∃ d', (s.dispatch i).dispatchers = s.dispatchers.set i d' ∧ d.Proceeds s d'.phase := by
  simp only [dispatch, hd]
  cases hp : d.phase with
  | starting => exact ⟨_, rfl, .free (by simp) (by simp)⟩
  | idle =>
      dsimp only
      unfold receive
      split
      · exact ⟨_, rfl, .free (by simp) (by simp)⟩
      · split
        · exact ⟨_, rfl, .free (by simp) (by simp)⟩
        · exact ⟨d, set_same hd, .free (by simp [hp]) (by simp [hp])⟩
  | received e => exact begin_proceeds hp
  | ready e =>
      refine attempt_proceeds fun a hnone => ?_
      simp only [hp, Axis.hasToRest, hnone, Option.isNone_none]
  | waiting e untilMs =>
      dsimp only
      split
      · rename_i hdue
        refine attempt_proceeds fun a hnone => ?_
        simp only [hp, Axis.hasToRest, if_pos hdue, hnone, Option.isNone_none]
      · rename_i hlater
        exact ⟨d, set_same hd, hp ▸ .waits hp hlater⟩
  | ended => exact ⟨d, set_same hd, .free (by simp [hp]) (by simp [hp])⟩
  | failed f => exact ⟨d, set_same hd, .free (by simp [hp]) (by simp [hp])⟩

/-- A stroke that comes before the end of a rest is a pause. -/
theorem pauses_of_early {untilMs : Nat} (hd : s.dispatchers[i]? = some d)
    (hp : d.phase = .waiting e untilMs) (hlater : ¬ untilMs ≤ s.nowMs) :
    s.act (.dispatch i) = s ∧ ∀ j a, s.strokes j a (.dispatch i) = [] := by
  refine ⟨?_, fun j a => ?_⟩
  · simp only [Station.act, dispatch, hd, hp, if_neg hlater]
  · simp only [strokes, hd, hp, Axis.phaseStrokes, if_neg hlater, ite_self]

theorem proceeds_of_dispatch {d' : Dispatcher}
    (hd' : (s.act (.dispatch j)).dispatchers[j]? = some d') :
    ∃ d, s.dispatchers[j]? = some d ∧ d.Proceeds s d'.phase := by
  obtain ⟨d, hd, _⟩ := act_dispatchers hd'
  obtain ⟨d₁, hset, hnext⟩ := dispatch_proceeds hd
  rw [act, hset] at hd'
  rcases get_set_dispatcher hd' with ⟨_, rfl⟩ | ⟨hne, _⟩
  · exact ⟨d, hd, hnext⟩
  · exact absurd rfl hne

/-- Nobody else makes a dispatcher do anything, but it may be called off. -/
theorem act_phase {x : Action} {d' : Dispatcher} (hd' : (s.act x).dispatchers[j]? = some d')
    (hx : x ≠ .dispatch j) :
    ∃ d, s.dispatchers[j]? = some d ∧ (d'.phase = d.phase ∨ d'.phase = .ended) := by
  have h := s.act_acted x
  generalize s.act x = s' at h hd' ⊢
  cases h with
  | quiet h =>
      obtain ⟨d, hd, _, hphase, _⟩ := h.dispatchers j d' hd'
      exact ⟨d, hd, Or.inl hphase⟩
  | accepted _ hd =>
      rcases get_set_dispatcher hd' with ⟨rfl, rfl⟩ | ⟨_, hj⟩
      · exact ⟨_, hd, Or.inl rfl⟩
      · exact ⟨d', hj, Or.inl rfl⟩
  | matched _ _ => exact ⟨d', hd', Or.inl rfl⟩
  | @dispatched i d _ hd h =>
      obtain ⟨d₁, hset, _⟩ := h.dispatchers
      rw [hset] at hd'
      rcases get_set_dispatcher hd' with ⟨rfl, _⟩ | ⟨_, hj⟩
      · exact absurd rfl hx
      · exact ⟨d', hj, Or.inl rfl⟩
  | supervised h => exact ⟨d', (supervised_frame h).2 ▸ hd', Or.inl rfl⟩
  | reversed h => exact ⟨d', h.dispatchers ▸ hd', Or.inl rfl⟩
  | calledOff hd =>
      rcases get_set_dispatcher hd' with ⟨rfl, rfl⟩ | ⟨_, hj⟩
      · exact ⟨_, hd, Or.inr rfl⟩
      · exact ⟨d', hj, Or.inl rfl⟩
  | closed => exact ⟨d', hd', Or.inl rfl⟩

end Station

end StepperMotion
