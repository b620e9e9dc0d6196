import StepperMotion.Proofs.SpeedProfile

/-!
# The speed of a move changes slowly

The ramp of a move is advanced at a timer match, and only if more than a period has passed since it
was set up or advanced last. Each time the frequency goes up by no more than the increment of the
ramp and down by no more than its decrement. Near the setpoint of a closed-loop move it may be cut
off at the ceiling of the approach as well, and only then does it fall faster (`slew_limited`).

An update of the ramp is what can be seen from outside: a match at which the timer is written to.
Period, increment and decrement are fixed when the move is set up, and the ramp remembers when it
was changed. So one update is compared with the ramp before it, and that the times of all of them
are far enough apart follows from those of two in a row.
-/

namespace StepperMotion

open Axis (Operation)

/-! ## One period of a ramp -/

namespace Ramp

variable {r s : Ramp} {lo hi : Nat}

/-- A ramp with the same period and the same slopes. -/
structure SameSlopes (r s : Ramp) : Prop where
  period : s.periodMs = r.periodMs
  increment : s.increment = r.increment
  decrement : s.decrement = r.decrement

theorem SameSlopes.trans {t : Ramp} (h : r.SameSlopes s) (h' : s.SameSlopes t) : r.SameSlopes t :=
  ⟨h'.period.trans h.period, h'.increment.trans h.increment, h'.decrement.trans h.decrement⟩

theorem climb_slopes (r : Ramp) (p : Progress) : r.SameSlopes (r.climb p) := by
  unfold climb
  dsimp only
  split
  · exact ⟨rfl, rfl, rfl⟩
  · split <;> exact ⟨rfl, rfl, rfl⟩

theorem climb_changedMs (r : Ramp) (p : Progress) : (r.climb p).changedMs = r.changedMs := by
  unfold climb
  dsimp only
  split
  · rfl
  · split <;> rfl

/-- A period of climbing leads up by the increment at most. -/
theorem climb_slew (h : r.Within lo hi) (hhi : hi ≤ Count.limit) (p : Progress) :
    r.current ≤ (r.climb p).current ∧ (r.climb p).current ≤ r.current + r.increment := by
  have hbelow := h.below
  have hceiling := h.ceiling
  have hsum : Count.add r.current r.increment ≤ r.current + r.increment := Nat.min_le_left ..
  have hup : r.current ≤ Count.add r.current r.increment := by
    unfold Count.add
    omega
  unfold climb
  dsimp only
  split
  · exact ⟨Nat.le_refl _, Nat.le_add_right ..⟩
  · split
    · rename_i htop
      exact ⟨hbelow, Nat.le_trans htop hsum⟩
    · exact ⟨hup, hsum⟩

theorem update_slopes (r : Ramp) (p : Progress) (nowMs : Nat) :
    r.SameSlopes (r.update p nowMs) ∧ (r.update p nowMs).changedMs = nowMs := by
  have hslopes := ({ r with changedMs := nowMs } : Ramp).climb_slopes p
  have htime := ({ r with changedMs := nowMs } : Ramp).climb_changedMs p
  unfold update
  dsimp only
  split
  · exact ⟨⟨hslopes.period, hslopes.increment, hslopes.decrement⟩, htime⟩
  · exact ⟨⟨hslopes.period, hslopes.increment, hslopes.decrement⟩, htime⟩

/-- **One period leads up by the increment at most, and down by the decrement at most.** -/
theorem update_slew (h : r.Within lo hi) (hhi : hi ≤ Count.limit) (p : Progress) (nowMs : Nat) :
    (r.update p nowMs).current ≤ r.current + r.increment
      ∧ r.current ≤ (r.update p nowMs).current + r.decrement := by
  have htime : ({ r with changedMs := nowMs } : Ramp).Within lo hi :=
    ⟨h.floor, h.above, h.below, h.ceiling⟩
  obtain ⟨hup, hslow⟩ := climb_slew htime hhi p
  have hdecrement := (({ r with changedMs := nowMs } : Ramp).climb_slopes p).decrement
  have habove := (climb_within htime hhi p).above
  unfold update
  dsimp only at hup hslow hdecrement ⊢
  generalize ({ r with changedMs := nowMs } : Ramp).climb p = c at hup hslow hdecrement habove ⊢
  split
  · -- a ramp may climb to the middle and brake there in the same period
    show max (c.current - c.decrement) c.decrement ≤ r.current + r.increment
      ∧ r.current ≤ max (c.current - c.decrement) c.decrement + r.decrement
    omega
  · exact ⟨hslow, Nat.le_trans hup (Nat.le_add_right ..)⟩

theorem cap_slopes (r : Ramp) (freq travelled : Nat) :
    r.SameSlopes (r.cap freq travelled) ∧ (r.cap freq travelled).changedMs = r.changedMs := by
  unfold cap
  split
  · exact ⟨⟨rfl, rfl, rfl⟩, rfl⟩
  · exact ⟨⟨rfl, rfl, rfl⟩, rfl⟩

/-- A new ceiling lowers the frequency to the ceiling at most. -/
theorem cap_slew (r : Ramp) (freq travelled : Nat) :
    min r.current (max freq r.decrement) ≤ (r.cap freq travelled).current
      ∧ (r.cap freq travelled).current ≤ r.current := by
  unfold cap
  split
  · exact ⟨Nat.min_le_left .., Nat.le_refl _⟩
  · exact ⟨Nat.le_refl _, Nat.min_le_left ..⟩

end Ramp

namespace Axis

variable {a b : Axis} {lo hi : Nat}

/-- The next ramp of an axis has the slopes of the one before it, and is changed now. -/
theorem nextRamp_slopes (a : Axis) (nowMs : Nat) :
    a.ramp.SameSlopes (a.nextRamp nowMs) ∧ (a.nextRamp nowMs).changedMs = nowMs := by
  unfold nextRamp
  dsimp only
  split
  · obtain ⟨hcap, _⟩ := a.ramp.cap_slopes a.config.approachFreq a.progress.travelled
    obtain ⟨hnext, hnow⟩ := (a.ramp.cap a.config.approachFreq a.progress.travelled).update_slopes
      a.progress nowMs
    exact ⟨hcap.trans hnext, hnow⟩
  · exact a.ramp.update_slopes a.progress nowMs

/-- **From one ramp to the next the frequency rises by the increment at most.** It falls by the
decrement at most, unless the approach cuts it off first. -/
theorem nextRamp_slew (h : a.ramp.Within lo hi) (hhi : hi ≤ Count.limit) (nowMs : Nat) :
    (a.nextRamp nowMs).current ≤ a.ramp.current + a.ramp.increment
      ∧ (a.ramp.current ≤ (a.nextRamp nowMs).current + a.ramp.decrement
        ∨ (a.approaching = true ∧ min a.ramp.current (max a.config.approachFreq a.ramp.decrement)
            ≤ (a.nextRamp nowMs).current + a.ramp.decrement)) := by
  unfold nextRamp
  dsimp only
  split
  · rename_i happroach
    obtain ⟨hlow, hcut⟩ := a.ramp.cap_slew a.config.approachFreq a.progress.travelled
    obtain ⟨hcap, _⟩ := a.ramp.cap_slopes a.config.approachFreq a.progress.travelled
    have hwithin := Ramp.cap_within h a.config.approachFreq a.progress.travelled
    obtain ⟨hrise, hfall⟩ := Ramp.update_slew hwithin hhi a.progress nowMs
    rw [hcap.increment] at hrise
    rw [hcap.decrement] at hfall
    exact ⟨by omega, Or.inr ⟨happroach, Nat.le_trans hlow hfall⟩⟩
  · obtain ⟨hrise, hfall⟩ := Ramp.update_slew h hhi a.progress nowMs
    exact ⟨hrise, Or.inl hfall⟩

/-! ## Updates of the ramp -/

/-- What a timer match has done to the frequency at which the timer writes it to. -/
structure RampUpdate where
  atMs : Nat
  /-- The frequency of the timer before the match. -/
  before : Nat
  /-- The frequency of the timer after the match. -/
  after : Nat
  /-- How far the setpoint was from the position. -/
  distance : Nat
deriving DecidableEq, Repr

/-- The update of the ramp that an operation makes, if it is a timer match that writes to the
timer. -/
def rampUpdate? (a : Axis) : Operation → Option RampUpdate
  | .tick nowMs =>
    if (a.tick nowMs).1.board.timer.writes = a.board.timer.writes then none
    else some
      { atMs := nowMs
        before := a.board.timer.freq
        after := (a.tick nowMs).1.board.timer.freq
        distance := (a.posCmd - a.board.position).natAbs }
  | _ => none

/-- The updates of the ramp in the course of some operations, in order. -/
def rampUpdates (a : Axis) : List Operation → List RampUpdate
  | [] => []
  | o :: ops => (a.rampUpdate? o).toList ++ (a.perform o).1.rampUpdates ops

/-- The timer of an axis keeps its frequency, and so does the ramp; the move may end. -/
structure HoldsSpeed (a b : Axis) : Prop where
  mode : b.mode = a.mode ∨ b.mode = .stopped
  config : b.config = a.config
  ramp : b.ramp = a.ramp
  freq : b.board.timer.freq = a.board.timer.freq

/-- An operation that neither sets up a move nor serves a match leaves the timer its frequency. -/
theorem freq_perform (a : Axis) {o : Operation} (ho : o.launches = false)
    (htick : ∀ nowMs, o ≠ .tick nowMs) :
    (a.perform o).1.board.timer.freq = a.board.timer.freq := by
  have hstop : a.stop.axis.board.timer.freq = a.board.timer.freq := by
    rcases stop_cases a with ⟨_, heq, _⟩ | ⟨_, heq, _⟩ <;>
      exact congrArg (·.board.timer.freq) heq
  cases o with
  | apply c nowMs =>
      obtain rfl : c = .stop := by simpa [Operation.launches] using ho
      exact hstop
  | stop => exact hstop
  | beginDirectionChange c =>
      rcases beginDirectionChange_cases a c with ⟨_, h | h, _⟩ | ⟨_, _, h | h⟩ <;>
        exact congrArg (·.board.timer.freq) h
  | tick nowMs => exact absurd rfl (htick nowMs)
  | resume epoch nowMs => exact absurd ho (by simp [Operation.launches])
  | inspect note =>
      obtain ⟨b, _, _, hb, h⟩ := inspect_cases a note
      simp only [perform, h]
      rcases hb with rfl | rfl <;> rfl
  | _ => rfl

theorem holdsSpeed_perform (a : Axis) {o : Operation} (ho : o.launches = false)
    (htick : ∀ nowMs, o ≠ .tick nowMs) : a.HoldsSpeed (a.perform o).1 := by
  have hkeeps := a.keepsSpeed_perform ho htick
  exact ⟨hkeeps.mode, (settings_perform a o).config, hkeeps.ramp, a.freq_perform ho htick⟩

/-- What a timer match does to the speed: nothing, or it advances the ramp because it was due, and
writes the new frequency to the timer. If the timer refuses it, the axis is halted. -/
inductive Regulates (a : Axis) (nowMs : Nat) (b : Axis) : Prop where
  | holds (hheld : a.HoldsSpeed b) (hwrites : b.board.timer.writes = a.board.timer.writes)
  | advances (hm : a.mode ≠ .stopped) (hdue : a.ramp.due nowMs = true) (hconfig : b.config = a.config)
      (hramp : b.ramp = a.observe.nextRamp nowMs)
      (hwrites : b.board.timer.writes ≠ a.board.timer.writes)
      (hfreq : (b.mode = a.mode ∧ b.board.timer.freq = b.ramp.current)
        ∨ (b.mode = .stopped ∧ b.board.timer.freq = a.board.timer.freq)) : Regulates a nowMs b

/-- **A timer match advances the ramp or leaves the speed alone.** -/
theorem tick_regulates (a : Axis) (nowMs : Nat) : a.Regulates nowMs (a.tick nowMs).1 := by
  obtain ⟨_, _, _, hobs⟩ := observe_eq a
  have hlook : a.HoldsSpeed a.observe := by
    rw [hobs]
    exact ⟨Or.inl rfl, rfl, rfl, rfl⟩
  have hseen : a.observe.mode = a.mode ∧ a.observe.board.timer = a.board.timer := by
    rw [hobs]
    exact ⟨rfl, rfl⟩
  obtain ⟨hmode, htimer⟩ := hseen
  have hwritten : (writtenTimer a.observe.board.timer (a.observe.nextRamp nowMs).current).writes
      ≠ a.board.timer.writes := by
    rw [writtenTimer_writes, htimer]
    exact fun h => List.cons_ne_self _ _ h
  have hsame : a.observe.board.timer.writes = a.board.timer.writes := by rw [htimer]
  have hserved := tick_served a nowMs
  generalize (a.tick nowMs).1 = b at hserved ⊢
  generalize (a.tick nowMs).2 = r at hserved
  cases hserved with
  | idle _ => exact .holds ⟨Or.inl rfl, rfl, rfl, rfl⟩ rfl
  | arrived _ _ =>
      exact .holds ⟨Or.inr rfl, hlook.config, hlook.ramp, hlook.freq⟩ hsame
  | overshot _ _ _ =>
      exact .holds ⟨Or.inl hmode, hlook.config, hlook.ramp, hlook.freq⟩ hsame
  | refused hm _ _ hdue hacc =>
      refine .advances hm hdue hlook.config rfl hwritten (Or.inr ⟨rfl, ?_⟩)
      show (writtenTimer a.observe.board.timer _).freq = a.board.timer.freq
      rw [htimer, writtenTimer, if_neg (ne_true_of_eq_false hacc)]
  | stepped hm _ _ hb _ =>
      rcases hb with ⟨_, rfl⟩ | ⟨hdue, hacc, rfl⟩
      · exact .holds ⟨Or.inl hmode, hlook.config, hlook.ramp, hlook.freq⟩ hsame
      · refine .advances hm hdue hlook.config rfl hwritten (Or.inl ⟨hmode, ?_⟩)
        show (writtenTimer a.observe.board.timer _).freq = (a.observe.nextRamp nowMs).current
        rw [htimer, writtenTimer, if_pos hacc]

/-- **Between two updates the timer keeps its frequency.** -/
theorem freq_of_no_update {o : Operation} (ho : o.launches = false)
    (hnone : a.rampUpdate? o = none) :
    (a.perform o).1.board.timer.freq = a.board.timer.freq := by
  by_cases htick : ∃ nowMs, o = .tick nowMs
  · obtain ⟨nowMs, rfl⟩ := htick
    have hsame : (a.tick nowMs).1.board.timer.writes = a.board.timer.writes := by
      simpa [rampUpdate?] using hnone
    cases tick_regulates a nowMs with
    | holds hheld _ => exact hheld.freq
    | advances _ _ _ _ hwrites _ => exact absurd hsame hwrites
  · exact a.freq_perform ho fun nowMs heq => htick ⟨nowMs, heq⟩

/-! ## A move with a ramp -/

/-- The operations that send an axis on a move with a ramp, with the time at which it is set up and
the period of the ramp. -/
inductive Departs (a : Axis) : Operation → Nat → Nat → Prop where
  | steps {d : Direction} {level count periodMs divisor nowMs : Nat} :
      Departs a (.apply (.steps d level count periodMs divisor) nowMs) nowMs periodMs
  | seeks {setpoint : Int} {nowMs : Nat} :
      Departs a (.apply (.closedLoop setpoint) nowMs) nowMs a.config.closedLoopPeriodMs
  | resumes {epoch : UInt32} {nowMs : Nat} :
      Departs a (.resume epoch nowMs) nowMs a.config.closedLoopPeriodMs

/-- An axis in the course of a move that began as axis `b`; its ramp was last changed at `sinceMs`. -/
structure OnRamp (b a : Axis) (sinceMs hi : Nat) : Prop where
  mode : a.mode = b.mode ∨ a.mode = .stopped
  config : a.config = b.config
  slopes : b.ramp.SameSlopes a.ramp
  changed : a.ramp.changedMs = sinceMs
  within : ∃ lo, a.ramp.Within lo hi
  /-- The timer runs at the frequency of the ramp. -/
  armed : a.mode ≠ .stopped → a.board.timer.freq = a.ramp.current

/-- An update of the ramp that is no steeper than the ramp of axis `b`, on which the move began. -/
structure Gentle (b : Axis) (u : RampUpdate) : Prop where
  rise : u.after ≤ u.before + b.ramp.increment
  fall : u.before ≤ u.after + b.ramp.decrement
    ∨ (b.mode = .closedLoop ∧ (u.distance : Int) < b.config.approachThreshold
      ∧ min u.before (max b.config.approachFreq b.ramp.decrement) ≤ u.after + b.ramp.decrement)

/-- A move that goes on, or ends, is still the one that began as axis `b`. -/
theorem OnRamp.mode_next {c : Axis} {sinceMs : Nat} (h : b.OnRamp a sinceMs hi)
    (hnext : c.mode = a.mode ∨ c.mode = .stopped) : c.mode = b.mode ∨ c.mode = .stopped := by
  rcases hnext with hsame | hends
  · rw [hsame]
    exact h.mode
  · exact Or.inr hends

theorem OnRamp.holds {c : Axis} {sinceMs : Nat} (h : b.OnRamp a sinceMs hi)
    (hheld : a.HoldsSpeed c) : b.OnRamp c sinceMs hi where
  mode := h.mode_next hheld.mode
  config := hheld.config.trans h.config
  slopes := hheld.ramp ▸ h.slopes
  changed := hheld.ramp ▸ h.changed
  within := hheld.ramp ▸ h.within
  armed hm := by
    have hmode : c.mode = a.mode := hheld.mode.resolve_right hm
    rw [hheld.freq, hheld.ramp]
    exact h.armed (hmode ▸ hm)

/-- To look at the position changes neither the ramp nor the configuration. -/
theorem observe_ramp (a : Axis) : a.observe.ramp = a.ramp ∧ a.observe.config = a.config := by
  obtain ⟨_, _, _, hobs⟩ := observe_eq a
  rw [hobs]
  exact ⟨rfl, rfl⟩

/-- An approach is a closed-loop move near its setpoint. -/
theorem near_of_approaching (hfits : a.config.approachThreshold ≤ Position.highest)
    (h : a.observe.approaching = true) : a.mode = .closedLoop
      ∧ ((a.posCmd - a.board.position).natAbs : Int) < a.config.approachThreshold := by
  obtain ⟨_, _, _, hobs⟩ := observe_eq a
  rw [hobs] at h
  simp only [approaching, positionError, Bool.and_eq_true, beq_iff_eq] at h
  exact ⟨h.1, (Position.abs_sub_lt hfits).mp (of_decide_eq_true h.2)⟩

/-- The next ramp makes a gentle update, because the timer runs at the frequency of the ramp that
it follows. -/
theorem OnRamp.gentle {sinceMs : Nat} (h : b.OnRamp a sinceMs hi) (hhi : hi ≤ Count.limit)
    (hfits : b.config.approachThreshold ≤ Position.highest) (hm : a.mode ≠ .stopped) (nowMs : Nat) :
    b.Gentle {
      atMs := nowMs
      before := a.board.timer.freq
      after := (a.observe.nextRamp nowMs).current
      distance := (a.posCmd - a.board.position).natAbs } := by
  obtain ⟨lo, hwithin⟩ := h.within
  obtain ⟨hramp, hconfig⟩ := a.observe_ramp
  obtain ⟨hrise, hfall⟩ := nextRamp_slew (hramp ▸ hwithin) hhi nowMs
  rw [hramp, h.slopes.increment, ← h.armed hm] at hrise
  rw [hramp, hconfig, h.slopes.decrement, h.config, ← h.armed hm] at hfall
  refine ⟨hrise, ?_⟩
  rcases hfall with hfall | ⟨happroach, hcut⟩
  · exact Or.inl hfall
  · obtain ⟨hclosed, hnear⟩ := near_of_approaching (h.config ▸ hfits) happroach
    have hmode : a.mode = b.mode := h.mode.resolve_right hm
    rw [h.config] at hnear
    exact Or.inr ⟨hmode ▸ hclosed, hnear, hcut⟩

/-- An update that the timer has refused is gentle. -/
theorem gentle_of_refused {u : RampUpdate} (h : u.after = u.before) : b.Gentle u where
  rise := by omega
  fall := Or.inl (by omega)

/-- With the next ramp of its move an axis is on a ramp that has just been changed. -/
theorem OnRamp.advances {c : Axis} {sinceMs nowMs : Nat} (h : b.OnRamp a sinceMs hi)
    (hhi : hi ≤ Count.limit) (hmode : c.mode = a.mode ∨ c.mode = .stopped)
    (hconfig : c.config = a.config) (hramp : c.ramp = a.observe.nextRamp nowMs)
    (harmed : c.mode ≠ .stopped → c.board.timer.freq = c.ramp.current) : b.OnRamp c nowMs hi := by
  obtain ⟨lo, hwithin⟩ := h.within
  obtain ⟨hsame, _⟩ := a.observe_ramp
  obtain ⟨hslopes, hnow⟩ := a.observe.nextRamp_slopes nowMs
  rw [hsame, ← hramp] at hslopes
  rw [← hramp] at hnow
  have hbounds : c.ramp.Within lo hi := hramp ▸ nextRamp_within (hsame ▸ hwithin) hhi nowMs
  exact ⟨h.mode_next hmode, hconfig.trans h.config, h.slopes.trans hslopes, hnow, ⟨lo, hbounds⟩,
    harmed⟩

/-- **A timer match makes a gentle update, more than a period after the last one, or none.** -/
theorem OnRamp.tick {sinceMs : Nat} (h : b.OnRamp a sinceMs hi) (hhi : hi ≤ Count.limit)
    (hfits : b.config.approachThreshold ≤ Position.highest) (nowMs : Nat) :
    (a.rampUpdate? (.tick nowMs) = none ∧ b.OnRamp (a.tick nowMs).1 sinceMs hi)
      ∨ ∃ u, a.rampUpdate? (.tick nowMs) = some u ∧ sinceMs + b.ramp.periodMs < u.atMs
        ∧ b.Gentle u ∧ b.OnRamp (a.tick nowMs).1 u.atMs hi := by
  cases tick_regulates a nowMs with
  | holds hheld hwrites =>
      exact Or.inl ⟨by simp [rampUpdate?, hwrites], h.holds hheld⟩
  | advances hm hdue hconfig hramp hwrites hfreq =>
      have hlate : sinceMs + b.ramp.periodMs < nowMs := by
        simp only [Ramp.due, Bool.and_eq_true, decide_eq_true_eq] at hdue
        have hlonger := hdue.2
        rw [h.slopes.period, h.changed] at hlonger
        omega
      refine Or.inr ⟨_, if_neg hwrites, hlate, ?_, ?_⟩
      · rcases hfreq with ⟨_, hnew⟩ | ⟨_, hkept⟩
        · rw [hnew, hramp]
          exact h.gentle hhi hfits hm nowMs
        · exact gentle_of_refused hkept
      · rcases hfreq with ⟨hmode, hnew⟩ | ⟨hstopped, _⟩
        · exact h.advances hhi (Or.inl hmode) hconfig hramp fun _ => hnew
        · exact h.advances hhi (Or.inr hstopped) hconfig hramp fun hm => absurd hstopped hm

theorem OnRamp.perform {sinceMs : Nat} {o : Operation} (h : b.OnRamp a sinceMs hi)
    (hhi : hi ≤ Count.limit) (hfits : b.config.approachThreshold ≤ Position.highest)
    (ho : o.launches = false) :
    (a.rampUpdate? o = none ∧ b.OnRamp (a.perform o).1 sinceMs hi)
      ∨ ∃ u, a.rampUpdate? o = some u ∧ sinceMs + b.ramp.periodMs < u.atMs
        ∧ b.Gentle u ∧ b.OnRamp (a.perform o).1 u.atMs hi := by
  by_cases htick : ∃ nowMs, o = .tick nowMs
  · obtain ⟨nowMs, rfl⟩ := htick
    exact h.tick hhi hfits nowMs
  · refine Or.inl ⟨?_, h.holds (a.holdsSpeed_perform ho fun nowMs heq => htick ⟨nowMs, heq⟩)⟩
    unfold rampUpdate?
    split
    · exact absurd ⟨_, rfl⟩ htick
    · rfl

/-- **All updates in the course of a move are gentle, and more than a period apart.** -/
theorem OnRamp.run {sinceMs : Nat} {ops : List Operation} (h : b.OnRamp a sinceMs hi)
    (hhi : hi ≤ Count.limit) (hfits : b.config.approachThreshold ≤ Position.highest)
    (hops : ∀ o ∈ ops, o.launches = false) :
    (sinceMs :: (a.rampUpdates ops).map (·.atMs)).Pairwise (fun s t => s + b.ramp.periodMs < t)
      ∧ ∀ u ∈ a.rampUpdates ops, b.Gentle u := by
  induction ops generalizing a sinceMs with
  | nil => exact ⟨List.pairwise_singleton .., fun u hu => absurd hu (by simp [rampUpdates])⟩
  | cons o ops ih =>
      obtain ⟨ho, hops⟩ := List.forall_mem_cons.mp hops
      rcases h.perform hhi hfits ho with ⟨hnone, hnext⟩ | ⟨u, hsome, hlate, hgentle, hnext⟩
      · rw [rampUpdates, hnone]
        exact ih hnext hops
      · obtain ⟨hapart, hrest⟩ := ih hnext hops
        rw [rampUpdates, hsome]
        refine ⟨List.pairwise_cons.mpr ⟨?_, hapart⟩, List.forall_mem_cons.mpr ⟨hgentle, hrest⟩⟩
        -- what comes more than a period after this update comes after the last one, too
        refine List.forall_mem_cons.mpr ⟨hlate, fun t ht => ?_⟩
        have hlater := (List.pairwise_cons.mp hapart).1 t ht
        omega

/-- What a ramp is set up with for a move. -/
structure Begins (c : MotionConfig) (startMs periodMs : Nat) (r : Ramp) : Prop where
  period : r.periodMs = periodMs
  changed : r.changedMs = startMs
  increment : r.increment = Count.mul r.delta c.slopeRatio
  decrement : r.decrement = r.delta
  within : ∃ hi ≤ Count.limit, r.Within r.decrement hi

/-- A move that has been started runs at the frequency of its ramp, and that is the planned one. -/
theorem started_plan {c : Command} {nowMs freq : Nat} {r : Except Failure Outcome}
    (hc : a.Carried nowMs c b r) (hr : r = .ok (.started freq)) :
    (∃ p, a.Plans nowMs c p ∧ b.ramp = p.ramp) ∧ b.mode = c.mode
      ∧ b.board.timer.freq = b.ramp.current := by
  cases hc with
  | @launched p line hp _ =>
      rcases launch_cases (a.setUp p).nextEpoch p.ramp.current line with
        ⟨_, hans, _⟩ | ⟨_, _, hans, _⟩ | ⟨_, _, _, hb⟩
      · exact absurd (hans.symm.trans hr) (by simp)
      · exact absurd (hans.symm.trans hr) (by simp)
      · rw [hb]
        exact ⟨⟨p, hp, rfl⟩, hp.mode, rfl⟩
  | failed _ _ _ => exact absurd hr (by simp)
  | arrived _ _ => exact absurd hr (by simp)
  | stopped _ =>
      rcases stop_cases a with ⟨_, _, h⟩ | ⟨_, _, h⟩ <;> rw [h] at hr <;> exact absurd hr (by simp)

theorem started_resumed {r? : Option (Except Failure Outcome)} {freq : Nat} :
    (Reply.resumed r?).started? = some freq ↔ r? = some (.ok (.started freq)) := by
  unfold Reply.started?
  split <;> simp_all

theorem begins_steps {d : Direction} {level count periodMs divisor nowMs : Nat} {p : Plan}
    (hcount : count ≤ maxStepCount) (hp : a.Plans nowMs (.steps d level count periodMs divisor) p) :
    Begins a.config nowMs periodMs p.ramp := by
  cases hp with
  | @steps _ _ top _ _ _ hlevel =>
      exact ⟨rfl, rfl, rfl, rfl, top, MotionConfig.freeRunFreq_le hlevel,
        (a.stepsPlan_climbs d top periodMs divisor nowMs hcount).within⟩

theorem begins_closedLoop {setpoint : Int} {nowMs : Nat} {p : Plan}
    (hwidth : a.config.closedLoopMaxFreq ≤ Count.limit)
    (hp : a.Plans nowMs (.closedLoop setpoint) p) :
    Begins a.config nowMs a.config.closedLoopPeriodMs p.ramp := by
  cases hp with
  | closedLoop _ =>
      exact ⟨rfl, rfl, rfl, rfl, _, hwidth, (a.closedLoopPlan_climbs setpoint nowMs).within⟩

/-- **A move with a ramp begins at the frequency of its ramp,** which has the period and the slopes
that its command or the configuration asks for. -/
theorem departs_begun {o : Operation} {startMs periodMs freq : Nat}
    (hwidth : a.config.closedLoopMaxFreq ≤ Count.limit) (ho : a.Departs o startMs periodMs)
    (hstarted : (a.perform o).2.started? = some freq) :
    Begins a.config startMs periodMs (a.perform o).1.ramp ∧ (a.perform o).1.mode = o.mode a
      ∧ (a.perform o).1.board.timer.freq = (a.perform o).1.ramp.current := by
  cases ho with
  | @steps d level count periodMs divisor _ =>
      have hanswer := started_outcome.mp hstarted
      rcases apply_cases a (.steps d level count periodMs divisor) startMs with
        ⟨e, _, heq⟩ | ⟨hvalid, hcarried⟩
      · rw [heq] at hanswer
        exact absurd hanswer (by simp)
      · have hcount := (checkSteps_ok.mp (validate_ok.mp hvalid).2).2
        obtain ⟨⟨p, hp, hramp⟩, hbegun⟩ := started_plan hcarried hanswer
        exact ⟨hramp ▸ begins_steps hcount hp, hbegun⟩
  | @seeks setpoint _ =>
      have hanswer := started_outcome.mp hstarted
      rcases apply_cases a (.closedLoop setpoint) startMs with ⟨e, _, heq⟩ | ⟨_, hcarried⟩
      · rw [heq] at hanswer
        exact absurd hanswer (by simp)
      · obtain ⟨⟨p, hp, hramp⟩, hbegun⟩ := started_plan hcarried hanswer
        exact ⟨hramp ▸ begins_closedLoop hwidth hp, hbegun⟩
  | @resumes epoch _ =>
      have hanswer := started_resumed.mp hstarted
      rcases resume_cases a epoch startMs with ⟨_, heq⟩ | ⟨_, r, hans, hcarried⟩
      · rw [heq] at hanswer
        exact absurd hanswer (by simp)
      · have hr : r = .ok (.started freq) := Option.some.inj (hans.symm.trans hanswer)
        obtain ⟨⟨p, hp, hramp⟩, hbegun⟩ := started_plan hcarried hr
        exact ⟨hramp ▸ begins_closedLoop hwidth hp, hbegun⟩

/-- What is said of the speed in the course of a move that began on axis `b`. -/
structure SlewLimited (b : Axis) (startMs periodMs : Nat) (ops : List Operation) : Prop where
  /-- Climbing is steeper than braking by the ratio of the slopes. -/
  increment : b.ramp.increment = Count.mul b.ramp.delta b.config.slopeRatio
  decrement : b.ramp.decrement = b.ramp.delta
  /-- More than a period passes before an update, and between any two of them. -/
  apart : (startMs :: (b.rampUpdates ops).map (·.atMs)).Pairwise fun s t => s + periodMs < t
  /-- No update is too steep. -/
  gentle : ∀ u ∈ b.rampUpdates ops, b.Gentle u
  /-- Nothing but an update changes the frequency of the timer. -/
  held : ∀ early o late, ops = early ++ o :: late → (b.after early).rampUpdate? o = none →
    ((b.after early).perform o).1.board.timer.freq = (b.after early).board.timer.freq

/-- **The speed of a move changes slowly.** From the start of a move by steps, or of a closed-loop
move or the continuation of one, until the next move, the frequency of the timer is changed only at
times that are more than a period apart, by the increment of the ramp at most upwards and by its
decrement at most downwards. Only a closed-loop move that is near its setpoint may be cut off at the
ceiling of the approach besides. -/
theorem slew_limited {o : Operation} {ops : List Operation} {startMs periodMs freq : Nat}
    (hwidth : a.config.closedLoopMaxFreq ≤ Count.limit)
    (hfits : a.config.approachThreshold ≤ Position.highest) (ho : a.Departs o startMs periodMs)
    (hstarted : (a.perform o).2.started? = some freq) (hops : ∀ o' ∈ ops, o'.launches = false) :
    (a.perform o).1.mode = o.mode a ∧ (a.perform o).1.SlewLimited startMs periodMs ops := by
  obtain ⟨hbegins, hmode, harmed⟩ := departs_begun hwidth ho hstarted
  have hconfig : (a.perform o).1.config = a.config := (settings_perform a o).config
  generalize (a.perform o).1 = b at hbegins hmode harmed hconfig ⊢
  obtain ⟨hi, hhi, hwithin⟩ := hbegins.within
  have hramp : b.OnRamp b startMs hi :=
    ⟨Or.inl rfl, rfl, ⟨rfl, rfl, rfl⟩, hbegins.changed, ⟨_, hwithin⟩, fun _ => harmed⟩
  -- the start counts as a change of the ramp, so that the first update is late enough as well
  obtain ⟨hapart, hgentle⟩ := hramp.run hhi (hconfig ▸ hfits) hops
  refine ⟨hmode, hconfig ▸ hbegins.increment, hbegins.decrement, hbegins.period ▸ hapart, hgentle,
    ?_⟩
  intro early o' late heq hnone
  have hmem : o' ∈ ops := heq ▸ List.mem_append_right _ (List.mem_cons_self ..)
  exact freq_of_no_update (hops o' hmem) hnone

/-- Of the timer matches of a closed-loop move, every other one is late enough for an update. The
frequency climbs four times, and then it falls: by the decrement of 2500 Hz, by the approach to
30000 Hz and the decrement together, and by the decrement again. -/
theorem slew_limited_of_tracking :
    tracking.Departs (.apply (.closedLoop (-9)) 0) 0 50
      ∧ (tracking.perform (.apply (.closedLoop (-9)) 0)).2.started? = some 12500
      ∧ (∀ o ∈ ticks (30 * ·) 17, o.launches = false)
      ∧ ((tracking.perform (.apply (.closedLoop (-9)) 0)).1.rampUpdates (ticks (30 * ·) 17)).map
          (fun u => (u.atMs, u.after))
        = [(60, 20000), (120, 27500), (180, 35000), (240, 42500), (300, 40000), (360, 27500),
          (420, 25000)]
      ∧ (tracking.perform (.apply (.closedLoop (-9)) 0)).1.mode = .closedLoop
      ∧ (tracking.perform (.apply (.closedLoop (-9)) 0)).1.SlewLimited 0 50 (ticks (30 * ·) 17) := by
  have hstarted : (tracking.perform (.apply (.closedLoop (-9)) 0)).2.started? = some 12500 := by
    decide +kernel
  have hops : ∀ o ∈ ticks (30 * ·) 17, o.launches = false := by decide
  exact ⟨.seeks, hstarted, hops, by decide +kernel,
    slew_limited (by decide) (by decide) .seeks hstarted hops⟩

end Axis

end StepperMotion
