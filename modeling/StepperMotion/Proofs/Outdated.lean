import StepperMotion.Proofs.Turn

/-!
# Outdated reports

A report is stamped with the epoch of the match that made it, and so is a move that rests after it
has passed its setpoint. Whatever ends a move or begins another one counts the epoch up by one,
and nothing ever counts it down. So an old stamp can be the current epoch again only after the
count has gone once around its type.

The stopping of a timer match or of a stall does not begin a new epoch. That is why `supersedes`
names the operations that do, and why `outdated_of_superseded` asks for one of them among all that
were carried out since the report was made.

That operation must not fail. A closed-loop move is set up before its controller is asked for the
first frequency, and its epoch begins after that. If the controller has no output, the axis is left
with the new move in the epoch of the old one, whose reports are then still current
(`current_after_failure`).
-/

namespace StepperMotion

namespace Axis

/-! ## Counting epochs -/

/-- How often the epoch changes while operations are carried out. -/
def bumps (a : Axis) : List Operation → Nat
  | [] => 0
  | o :: ops => (if (a.perform o).1.epoch = a.epoch then 0 else 1) + (a.perform o).1.bumps ops

theorem epoch_effect {a b : Axis} {o : Operation} {f? : Option Fault} (h : a.Effect o b f?) :
    b.epoch = a.epoch ∨ b.epoch = a.epoch + 1 := by
  cases h with
  | carried hc => exact (turn_carried hc).imp Continues.epoch Renews.epoch
  | served hserved => exact Or.inl (continues_served hserved).epoch
  | halted _ hb => rcases hb with rfl | rfl <;> exact Or.inr rfl
  | judged hb => rcases hb with rfl | rfl <;> exact Or.inl rfl
  | _ => exact Or.inl rfl

/-- **An operation goes on in the epoch or begins the next one.** -/
theorem epoch_perform (a : Axis) (o : Operation) :
    (a.perform o).1.epoch = a.epoch ∨ (a.perform o).1.epoch = a.epoch + 1 :=
  epoch_effect (effect_perform a o)

/-- **The epoch counts how often it has changed.** -/
theorem epoch_after (a : Axis) (ops : List Operation) :
    (a.after ops).epoch = a.epoch + UInt32.ofNat (a.bumps ops) := by
  induction ops generalizing a with
  | nil => simp [bumps]
  | cons o ops ih =>
      rw [after_cons, ih]
      rcases epoch_perform a o with h | h
      · rw [bumps, if_pos h, h, Nat.zero_add]
      · rw [bumps, if_neg (epoch_ne_of_next h), h, UInt32.ofNat_add, UInt32.add_assoc]
        rfl

theorem epoch_after_ne {a : Axis} {ops : List Operation} (hpos : 0 < a.bumps ops)
    (hlt : a.bumps ops < UInt32.size) : (a.after ops).epoch ≠ a.epoch := by
  rw [epoch_after]
  exact epoch_add_ne hpos hlt

/-! ## What makes a report outdated -/

/-- The operation ends what the axis was doing or sets up something new. A command for a move counts
as soon as it has passed the check, whatever comes of it. -/
def supersedes (a : Axis) (o : Operation) : Bool :=
  match o with
  | .apply c _ => if c = .stop then a.mode.isMoving else (a.validate c).isOk
  | .stop => a.mode.isMoving
  | .beginDirectionChange c => (a.beginDirectionChange c).answer
  | .resume epoch nowMs => (a.resume epoch nowMs).answer.isSome
  | _ => false

/-- A move that was set up, or refused by the timer, or over before it began, has its own epoch. -/
theorem renews_carried {a b : Axis} {nowMs : Nat} {c : Command} {r : Except Failure Outcome}
    (h : a.Carried nowMs c b r) (hc : c ≠ .stop) (hr : (Reply.outcome r).fault? = none) :
    a.Renews b := by
  cases h with
  | launched _ => exact renews_launch a _ _ _
  | failed _ _ => exact absurd hr (by simp [Reply.fault?])
  | @arrived setpoint _ =>
      obtain ⟨_, _, h⟩ := finishInPlace_frame ({ a with posCmd := setpoint } : Axis).sense
      rw [h]
      exact ⟨rfl, rfl, rfl⟩
  | stopped hstop => exact absurd hstop hc

theorem stop_renews {a : Axis} (hm : a.mode ≠ .stopped) : a.Renews a.stop.axis := by
  rcases stop_cases a with ⟨hstill, _, _⟩ | ⟨_, h, _⟩
  · exact absurd hstill hm
  · rw [h]
    exact ⟨rfl, rfl, rfl⟩

/-- A command that was refused by the check is not carried out. -/
theorem carried_of_isOk {a : Axis} {c : Command} {nowMs : Nat} (h : (a.validate c).isOk = true) :
    a.Carried nowMs c (a.apply c nowMs).axis (a.apply c nowMs).answer := by
  rcases apply_cases a c nowMs with ⟨e, he, _⟩ | ⟨_, hc⟩
  · rw [he] at h
    exact absurd h (by simp [Except.isOk, Except.toBool])
  · exact hc

/-- **Whatever supersedes a move begins a new epoch,** if no computation fails. -/
theorem supersedes_epoch {a : Axis} {o : Operation} (h : a.supersedes o = true)
    (hsound : (a.perform o).2.fault? = none) : (a.perform o).1.epoch = a.epoch + 1 := by
  cases o with
  | apply c nowMs =>
      simp only [supersedes] at h
      split at h
      · -- a command to stop is carried out like a stop
        rename_i hstop
        subst hstop
        exact (stop_renews (by simpa [Mode.isMoving] using h)).epoch
      · rename_i hmove
        exact (renews_carried (carried_of_isOk h) hmove hsound).epoch
  | stop => exact (stop_renews (by simpa [Mode.isMoving, supersedes] using h)).epoch
  | beginDirectionChange c =>
      rcases turn_beginDirectionChange a c with ⟨hlet, _⟩ | ⟨_, hq⟩
      · exact absurd (hlet.symm.trans h) (by simp)
      · exact hq.epoch
  | resume epoch nowMs =>
      rcases resume_cases a epoch nowMs with ⟨_, heq⟩ | ⟨_, r, hr, hc⟩
      · exact absurd h (by simp [supersedes, heq])
      · simp only [perform, hr, fault_resumed] at hsound
        exact (renews_carried hc (by simp) hsound).epoch
  | _ => exact absurd h (by simp [supersedes])

/-- An operation that changes the epoch is counted. -/
theorem bumps_pos {a : Axis} {before later : List Operation} {o : Operation}
    (h : ((a.after before).perform o).1.epoch ≠ (a.after before).epoch) :
    0 < a.bumps (before ++ o :: later) := by
  induction before generalizing a with
  | nil =>
      rw [after_nil] at h
      rw [List.nil_append, bumps, if_neg h]
      omega
  | cons p before ih =>
      have hrest := ih (a := (a.perform p).1) h
      rw [List.cons_append, bumps]
      omega

/-! ## What becomes of an outdated report -/

theorem inspect_outdated {a : Axis} {note : Notification} (h : a.epoch ≠ note.epoch) :
    a.inspect note = (a, .stale) := if_neg fun heq => h heq.symm

theorem resume_outdated {a : Axis} {epoch : UInt32} (h : a.epoch ≠ epoch) (nowMs : Nat) :
    a.resume epoch nowMs = ⟨a, [], none⟩ := by
  rcases resume_cases a epoch nowMs with ⟨_, heq⟩ | ⟨hawait, _⟩
  · exact heq
  · -- only the current epoch is waited in
    simp only [awaitsResume, Bool.and_eq_true, beq_iff_eq] at hawait
    exact absurd hawait.1.1.symm h

/-- **Judging an outdated report touches neither an axis nor its board, nor the main power.** -/
theorem judge_outdated {s : Station} {note : Notification} {a : Axis}
    (ha : s.machine.axes[note.handle]? = some a) (h : a.epoch ≠ note.epoch) :
    (s.judge note).machine = s.machine := by
  have hsame : s.machine.setAxis note.handle a = s.machine := by
    have hset := Machine.setAxis_eq ha fun a => a
    rw [Machine.modifyAxis_same] at hset
    exact hset
  simp only [Station.judge, ha, inspect_outdated h]
  exact hsame

/-! ## Going on once -/

/-- The operation makes a move go on that was interrupted in an epoch, and returns what came of it.
Nothing is returned by a computation that fails. -/
def goesOn (a : Axis) (epoch : UInt32) (o : Operation) : Bool :=
  match o with
  | .resume e _ => e == epoch && a.supersedes o && (a.perform o).2.fault?.isNone
  | _ => false

/-- How many of the operations make a move go on that was interrupted in an epoch. -/
def resumptions (a : Axis) (epoch : UInt32) : List Operation → Nat
  | [] => 0
  | o :: ops => (a.goesOn epoch o).toNat + (a.perform o).1.resumptions epoch ops

/-- A move goes on in the epoch in which it was interrupted, and begins the next one. -/
theorem goesOn_epoch {a : Axis} {epoch : UInt32} {o : Operation} (h : a.goesOn epoch o = true) :
    a.epoch = epoch ∧ (a.perform o).1.epoch = a.epoch + 1 := by
  cases o with
  | resume e nowMs =>
      obtain ⟨hgoes, hsound⟩ := Bool.and_eq_true_iff.mp h
      obtain ⟨he, hsuper⟩ := Bool.and_eq_true_iff.mp hgoes
      obtain rfl : e = epoch := by simpa using he
      refine ⟨?_, supersedes_epoch hsuper (Option.isNone_iff_eq_none.mp hsound)⟩
      by_cases hepoch : a.epoch = e
      · exact hepoch
      · have hnone := resume_outdated hepoch nowMs
        simp [supersedes, hnone] at hsuper
  | _ => exact absurd h (by simp [goesOn])

/-- Nothing goes on any more in an epoch that is over, and does not come back. -/
theorem resumptions_of_over {a : Axis} {epoch : UInt32} {k : Nat} {ops : List Operation}
    (hepoch : a.epoch = epoch + UInt32.ofNat k) (hpos : 0 < k)
    (hlt : k + a.bumps ops < UInt32.size) : a.resumptions epoch ops = 0 := by
  induction ops generalizing a k with
  | nil => rfl
  | cons o ops ih =>
      rw [bumps] at hlt
      have hother : a.epoch ≠ epoch := by
        rw [hepoch]
        exact epoch_add_ne hpos (by omega)
      have hnow : a.goesOn epoch o = false := by
        cases hgo : a.goesOn epoch o with
        | false => rfl
        | true => exact absurd (goesOn_epoch hgo).1 hother
      rw [resumptions, hnow, Bool.toNat_false, Nat.zero_add]
      rcases epoch_perform a o with h | h
      · rw [if_pos h] at hlt
        exact ih (h.trans hepoch) hpos (by omega)
      · rw [if_neg (epoch_ne_of_next h)] at hlt
        refine ih (k := k + 1) ?_ (Nat.succ_pos k) (by omega)
        rw [h, hepoch, UInt32.ofNat_add, UInt32.add_assoc]
        rfl

/-- **A move goes on once at most, however often somebody remembers its epoch.** -/
theorem resumptions_le_one {a : Axis} {epoch : UInt32} {ops : List Operation}
    (hlt : a.bumps ops < UInt32.size) : a.resumptions epoch ops ≤ 1 := by
  induction ops generalizing a with
  | nil => exact Nat.zero_le 1
  | cons o ops ih =>
      rw [bumps] at hlt
      cases hgo : a.goesOn epoch o with
      | false =>
          have hrest := ih (a := (a.perform o).1) (by omega)
          rw [resumptions, hgo, Bool.toNat_false]
          omega
      | true =>
          obtain ⟨hepoch, hnext⟩ := goesOn_epoch hgo
          rw [if_neg (epoch_ne_of_next hnext)] at hlt
          have hover : (a.perform o).1.resumptions epoch ops = 0 :=
            resumptions_of_over (k := 1) (by rw [hnext, hepoch]; rfl) Nat.one_pos hlt
          rw [resumptions, hgo, Bool.toNat_true]
          omega

/-- **Reports and moves do not cross.** If anything has superseded a move since a timer match made
its report, and did not fail, then judging the report finds it stale and leaves everything as it was,
and the move does not go on. And in whatever way an axis is operated, a move goes on once at most. -/
theorem outdated_of_superseded {a : Axis} {nowMs : Nat} {note : Notification}
    (hnote : (a.tick nowMs).2 = .ok (some note)) {before later : List Operation} {o : Operation}
    (hsuper : ((a.tick nowMs).1.after before).supersedes o = true)
    (hsound : (((a.tick nowMs).1.after before).perform o).2.fault? = none)
    (hbumps : (a.tick nowMs).1.bumps (before ++ o :: later) < UInt32.size) :
    let b := (a.tick nowMs).1.after (before ++ o :: later)
    b.inspect note = (b, .stale)
    ∧ (∀ t, b.resume note.epoch t = ⟨b, [], none⟩)
    ∧ (∀ s : Station, s.machine.axes[note.handle]? = some b →
        (s.judge note).machine = s.machine)
    ∧ ∀ (c : Axis) (epoch : UInt32) (ops : List Operation), c.bumps ops < UInt32.size →
        c.resumptions epoch ops ≤ 1 := by
  intro b
  have hserved := tick_served a nowMs
  rw [hnote] at hserved
  -- the match goes on in the epoch that it stamps on its report
  have hstamp : (a.tick nowMs).1.epoch = note.epoch := by
    rw [(served_report hserved).2.1]
    exact (calm_tick nowMs a).epoch
  have hpos : 0 < (a.tick nowMs).1.bumps (before ++ o :: later) :=
    bumps_pos (epoch_ne_of_next (supersedes_epoch hsuper hsound))
  have hother : b.epoch ≠ note.epoch := by
    rw [← hstamp]
    exact epoch_after_ne hpos hbumps
  exact ⟨inspect_outdated hother, fun t => resume_outdated hother t,
    fun s hb => judge_outdated hb hother, fun c epoch ops hlt => resumptions_le_one hlt⟩

/-- A closed-loop move passes its setpoint, and is replaced by one that is over before it begins. -/
theorem outdated_of_superseded_of_arrival :
    let a := (create 0 ⟨"x", 0, none⟩ {} {}).after [.apply (.closedLoop 500) 0, .place 900]
    let next : Operation := .apply (.closedLoop 900) 7
    (a.tick 5).2 = .ok (some ⟨0, 1, 900, .overshoot⟩)
    ∧ ((a.tick 5).1.after [.clearFaults]).supersedes next = true
    ∧ (((a.tick 5).1.after [.clearFaults]).perform next).2.fault? = none
    ∧ (a.tick 5).1.bumps [.clearFaults, next] < UInt32.size
    ∧ ((a.tick 5).1.after [.clearFaults, next]).inspect ⟨0, 1, 900, .overshoot⟩
      = ((a.tick 5).1.after [.clearFaults, next], .stale) := by
  intro a next
  have hnote : (a.tick 5).2 = .ok (some ⟨0, 1, 900, .overshoot⟩) := rfl
  have hsuper : ((a.tick 5).1.after [.clearFaults]).supersedes next = true := by decide
  have hsound : (((a.tick 5).1.after [.clearFaults]).perform next).2.fault? = none := rfl
  have hbumps : (a.tick 5).1.bumps ([.clearFaults] ++ next :: []) < UInt32.size := by decide
  exact ⟨hnote, hsuper, hsound, hbumps, (outdated_of_superseded hnote hsuper hsound hbumps).1⟩

/-- **A move that fails when it has been set up leaves the reports of the one before it current.** The
controller of the closed-loop move has no negative output. The report of the free run is not stale
then: it shows a stall, and the axis is stopped for it. -/
theorem current_after_failure :
    let a := (create 0 ⟨"x", 0, some { limits := ⟨-100, 100, Position.lowest⟩ }⟩
      { frozen := true } { reportInterval := 1, stallMaxCount := 1 }).after
      [.apply (.freeRun .clockwise 1) 0]
    let b := (a.tick 5).1.after [.apply (.closedLoop (-500)) 7]
    (a.tick 5).2 = .ok (some ⟨0, 1, 0, .progress⟩)
    ∧ (a.tick 5).1.supersedes (.apply (.closedLoop (-500)) 7) = true
    ∧ ((a.tick 5).1.perform (.apply (.closedLoop (-500)) 7)).2.fault? = some .negOverflow
    ∧ (a.tick 5).1.bumps [.apply (.closedLoop (-500)) 7] < UInt32.size
    ∧ (b.inspect ⟨0, 1, 0, .progress⟩).2 = .stalled
    ∧ b.isRunning = true ∧ (b.inspect ⟨0, 1, 0, .progress⟩).1.isRunning = false :=
  ⟨rfl, by decide, rfl, by decide, rfl, rfl, rfl⟩

end Axis

end StepperMotion
