import StepperMotion.Proofs.Coherence

/-!
# Epochs

An operation on an axis does one of three things to its epoch. It goes on in the old one, and then
it does not start the timer (`Continues`). It begins a new one (`Renews`). Or it begins a new one in
order to let the axis rest before a change of direction (`Quiesces`), and only
`Axis.beginDirectionChange` does that. So whoever finds an axis in the epoch that he remembers knows
that its timer was not started since.

The direction line is another thing that only two operations change. Both are for the one direction
that `Axis.directionFor` names, so that a command cannot reverse an axis by surprise that has been
asked before.
-/

namespace StepperMotion

namespace Axis

/-- The epoch goes on, and the timer was not started. -/
structure Continues (a b : Axis) : Prop where
  handle : b.handle = a.handle
  epoch : b.epoch = a.epoch
  /-- The axis was not halted for a change of direction. -/
  quiesced : b.quiescedEpoch = a.quiescedEpoch
  /-- The timer was not started. -/
  starts : b.board.timer.starts = a.board.timer.starts
  /-- A timer at rest stays there. -/
  rests : a.isRunning = false → b.isRunning = false

/-- A new epoch begins. -/
structure Renews (a b : Axis) : Prop where
  handle : b.handle = a.handle
  epoch : b.epoch = a.epoch + 1
  /-- The axis was not halted for a change of direction. -/
  quiesced : b.quiescedEpoch = a.quiescedEpoch

/-- A new epoch begins, in which the axis rests before a change of direction. -/
structure Quiesces (a b : Axis) : Prop where
  handle : b.handle = a.handle
  epoch : b.epoch = a.epoch + 1
  /-- The axis was halted in this epoch. -/
  quiesced : b.quiescedEpoch = some b.epoch
  rests : b.isRunning = false

theorem Continues.refl (a : Axis) : a.Continues a := ⟨rfl, rfl, rfl, rfl, id⟩

theorem Continues.trans {a b c : Axis} (h : a.Continues b) (h' : b.Continues c) :
    a.Continues c :=
  ⟨h'.handle.trans h.handle, h'.epoch.trans h.epoch, h'.quiesced.trans h.quiesced,
    h'.starts.trans h.starts, fun hr => h'.rests (h.rests hr)⟩

theorem Continues.renews {a b c : Axis} (h : a.Continues b) (h' : b.Renews c) : a.Renews c :=
  ⟨h'.handle.trans h.handle, h'.epoch.trans (congrArg (· + 1) h.epoch),
    h'.quiesced.trans h.quiesced⟩

theorem Continues.quiesces {a b c : Axis} (h : a.Continues b) (h' : b.Quiesces c) :
    a.Quiesces c :=
  ⟨h'.handle.trans h.handle, h'.epoch.trans (congrArg (· + 1) h.epoch), h'.quiesced, h'.rests⟩

theorem epoch_ne_of_next {a b : Axis} (h : b.epoch = a.epoch + 1) : b.epoch ≠ a.epoch := by
  rw [h]
  simp

/-- **An epoch does not come back before the count has gone around.** -/
theorem epoch_add_ne {epoch : UInt32} {k : Nat} (hpos : 0 < k) (hlt : k < UInt32.size) :
    epoch + UInt32.ofNat k ≠ epoch := by
  intro hback
  have hzero : UInt32.ofNat k = 0 := by simpa using hback
  have hnat := congrArg UInt32.toNat hzero
  rw [UInt32.toNat_ofNat_of_lt' hlt] at hnat
  exact absurd hnat (Nat.ne_of_gt hpos)

/-! ## Operations and epochs -/

theorem continues_sense (a : Axis) : a.Continues a.sense := ⟨rfl, rfl, rfl, rfl, id⟩

theorem continues_halt (a : Axis) : a.Continues a.halt := ⟨rfl, rfl, rfl, rfl, fun _ => rfl⟩

theorem quiesces_quiesce (a : Axis) : a.Quiesces a.quiesce := ⟨rfl, rfl, rfl, rfl⟩

theorem turn_stop (a : Axis) : a.Continues a.stop.axis ∨ a.Renews a.stop.axis := by
  rcases stop_cases a with ⟨_, h, _⟩ | ⟨_, h, _⟩ <;> rw [h]
  · exact Or.inl (Continues.refl a)
  · exact Or.inr ⟨rfl, rfl, rfl⟩

theorem renews_launch (a : Axis) (p : Plan) (freq : Nat) (line : String) :
    a.Renews ((a.setUp p).nextEpoch.launch freq line).axis := by
  obtain ⟨_, _, h⟩ := launch_frame (a.setUp p).nextEpoch freq line
  rw [h]
  exact ⟨rfl, rfl, rfl⟩

/-- **A command that is carried out begins a new epoch, or leaves the timer at rest if it was.** -/
theorem turn_carried {a b : Axis} {nowMs : Nat} {c : Command} {r : Except Failure Outcome}
    (h : a.Carried nowMs c b r) : a.Continues b ∨ a.Renews b := by
  cases h with
  | launched _ => exact Or.inr (renews_launch a _ _ _)
  | failed _ _ => exact Or.inl ⟨rfl, rfl, rfl, rfl, id⟩
  | @arrived setpoint _ =>
      obtain ⟨_, _, h⟩ := finishInPlace_frame ({ a with posCmd := setpoint } : Axis).sense
      rw [h]
      exact Or.inr ⟨rfl, rfl, rfl⟩
  | stopped _ => exact turn_stop a

theorem turn_apply (a : Axis) (c : Command) (nowMs : Nat) :
    a.Continues (a.apply c nowMs).axis ∨ a.Renews (a.apply c nowMs).axis := by
  rcases apply_cases a c nowMs with ⟨e, _, heq⟩ | ⟨_, hc⟩
  · rw [heq]
    exact Or.inl (Continues.refl a)
  · exact turn_carried hc

theorem turn_resume (a : Axis) (epoch : UInt32) (nowMs : Nat) :
    a.Continues (a.resume epoch nowMs).axis ∨ a.Renews (a.resume epoch nowMs).axis := by
  rcases resume_cases a epoch nowMs with ⟨_, heq⟩ | ⟨_, r, _, hc⟩
  · rw [heq]
    exact Or.inl (Continues.refl a)
  · exact turn_carried hc

theorem turn_beginDirectionChange (a : Axis) (c : Command) :
    ((a.beginDirectionChange c).answer = false ∧ a.Continues (a.beginDirectionChange c).axis)
    ∨ ((a.beginDirectionChange c).answer = true ∧ a.Quiesces (a.beginDirectionChange c).axis) := by
  rcases beginDirectionChange_cases a c with
    ⟨hans, heq | heq, _⟩ | ⟨hans, _, heq | heq⟩ <;> rw [heq]
  · exact Or.inl ⟨hans, Continues.refl a⟩
  · exact Or.inl ⟨hans, continues_sense a⟩
  · exact Or.inr ⟨hans, quiesces_quiesce a⟩
  · exact Or.inr ⟨hans, (continues_sense a).quiesces (quiesces_quiesce a.sense)⟩

theorem continues_observe (a : Axis) : a.Continues a.observe := by
  obtain ⟨_, _, _, h⟩ := observe_eq a
  rw [h]
  exact ⟨rfl, rfl, rfl, rfl, id⟩

theorem continues_ramped (a : Axis) (nowMs : Nat) : a.Continues (a.ramped nowMs) := by
  refine ⟨rfl, rfl, rfl, ?_, fun hr => (writtenTimer_running ..).trans hr⟩
  show (writtenTimer a.board.timer _).starts = _
  unfold writtenTimer
  split <;> rfl

/-- **A timer match goes on in the epoch.** -/
theorem continues_served {a b : Axis} {nowMs : Nat} {r : Except Fault (Option Notification)}
    (h : a.Served nowMs b r) : a.Continues b := by
  have hobs := continues_observe a
  cases h with
  | idle _ => exact Continues.refl a
  | arrived _ _ => exact hobs.trans (continues_halt _)
  | overshot _ _ _ => exact hobs.trans ⟨rfl, rfl, rfl, rfl, fun _ => rfl⟩
  | refused _ _ _ _ _ => exact (hobs.trans (continues_ramped _ nowMs)).trans (continues_halt _)
  | stepped _ _ _ hb _ =>
      rcases hb with ⟨_, rfl⟩ | ⟨_, _, rfl⟩
      · exact hobs.trans ⟨rfl, rfl, rfl, rfl, id⟩
      · exact (hobs.trans (continues_ramped _ nowMs)).trans ⟨rfl, rfl, rfl, rfl, id⟩

theorem continues_inspect (a : Axis) (note : Notification) : a.Continues (a.inspect note).1 := by
  obtain ⟨b, _, _, hb, heq⟩ := inspect_cases a note
  rw [heq]
  rcases hb with rfl | rfl
  · exact ⟨rfl, rfl, rfl, rfl, id⟩
  · exact ⟨rfl, rfl, rfl, rfl, fun _ => rfl⟩

/-! ## Commands and the direction line -/

/-- **A move is planned in the direction that was named for its command.** -/
theorem Plans.dir {a : Axis} {nowMs : Nat} {c : Command} {p : Plan} (h : a.Plans nowMs c p) :
    (a.directionFor c).2 = some p.dir := by
  cases h with
  | freeRun _ => rfl
  | steps _ => rfl
  | @closedLoop setpoint hfar =>
      have hnot : ¬ Position.abs (Position.sub setpoint a.sense.posAct)
          < a.sense.config.posThreshold := of_decide_eq_false hfar
      rw [directionFor]
      rw [if_neg hnot]
      rfl

theorem level_launch (a : Axis) (p : Plan) (freq : Nat) (line : String) :
    ((a.setUp p).nextEpoch.launch freq line).axis.board.dirLevel = p.dir.level := by
  obtain ⟨_, _, h⟩ := launch_frame (a.setUp p).nextEpoch freq line
  rw [h]
  rfl

/-- A command leaves the direction line alone, or sets it to the direction that was named for it. -/
theorem level_carried {a b : Axis} {nowMs : Nat} {c : Command} {r : Except Failure Outcome}
    (h : a.Carried nowMs c b r) :
    b.board.dirLevel = a.board.dirLevel
      ∨ ∃ d, (a.directionFor c).2 = some d ∧ b.board.dirLevel = d.level := by
  cases h with
  | launched hp => exact Or.inr ⟨_, hp.dir, level_launch a _ _ _⟩
  | failed hp _ => exact Or.inr ⟨_, hp.dir, rfl⟩
  | @arrived setpoint _ =>
      obtain ⟨_, _, h⟩ := finishInPlace_frame ({ a with posCmd := setpoint } : Axis).sense
      rw [h]
      exact Or.inl rfl
  | stopped _ =>
      obtain ⟨_, _, _, h⟩ := stop_frame a
      rw [h]
      exact Or.inl rfl

/-- **A command that was let through turns the direction line only if the axis was stopped, or
halted for it.** -/
theorem level_apply {a : Axis} {c : Command} {nowMs : Nat} (hcoh : a.Coherent)
    (hlet : (a.beginDirectionChange c).answer = false)
    (hturn : ((a.beginDirectionChange c).axis.apply c nowMs).axis.board.dirLevel
      ≠ a.board.dirLevel) : a.mode = .stopped ∨ a.isQuiesced = true := by
  rcases beginDirectionChange_cases a c with ⟨_, hax, hwhy⟩ | ⟨hans, _, _⟩
  · -- the direction that was looked at is the one that the command is carried out in
    have hsame : ∀ d, ((a.beginDirectionChange c).axis.directionFor c).2 = some d →
        (a.directionFor c).2 = some d := by
      rcases hax with heq | heq <;> rw [heq]
      · exact fun _ h => h
      · intro d h
        cases c <;> exact h
    have hlevel : (a.beginDirectionChange c).axis.board.dirLevel = a.board.dirLevel := by
      rcases hax with heq | heq
      · rw [heq]
      · rw [heq]
        rfl
    rcases hwhy with hm | hq | hdir
    · exact Or.inl hm
    · exact Or.inr hq
    · -- the command does not reverse the axis, so the line keeps its level
      exfalso
      rcases apply_cases (a.beginDirectionChange c).axis c nowMs with ⟨e, _, heq⟩ | ⟨_, hc⟩
      · rw [heq] at hturn
        exact hturn hlevel
      · rcases level_carried hc with hkept | ⟨d, hd, hset⟩
        · exact hturn (hkept.trans hlevel)
        · rw [hset, hdir d (hsame d hd), ← hcoh.level] at hturn
          exact hturn rfl
  · rw [hlet] at hans
    exact absurd hans (by simp)

theorem level_resume {a : Axis} {epoch : UInt32} {nowMs : Nat}
    (hturn : (a.resume epoch nowMs).axis.board.dirLevel ≠ a.board.dirLevel) :
    a.awaitsResume epoch = true := by
  rcases resume_cases a epoch nowMs with ⟨_, heq⟩ | ⟨h, _⟩
  · rw [heq] at hturn
    exact absurd rfl hturn
  · exact h

theorem level_served {a b : Axis} {nowMs : Nat} {r : Except Fault (Option Notification)}
    (h : a.Served nowMs b r) : b.board.dirLevel = a.board.dirLevel := by
  obtain ⟨_, _, _, hobs⟩ := observe_eq a
  have hlook : a.observe.board.dirLevel = a.board.dirLevel := by rw [hobs]
  cases h with
  | idle _ => rfl
  | arrived _ _ => exact hlook
  | overshot _ _ _ => exact hlook
  | refused _ _ _ _ _ => exact hlook
  | stepped _ _ _ hb _ => rcases hb with ⟨_, rfl⟩ | ⟨_, _, rfl⟩ <;> exact hlook

end Axis

end StepperMotion
