import StepperMotion.Proofs.Between

/-!
# An approach is slow until the move ends

A closed-loop move that comes near its setpoint is to be slow from then on, also when the encoder
shows it far away again: the shaft may be turned back, and the move is still in its approach. This
is because the ceiling of a ramp is only ever lowered, and because a ramp that has been capped
cruises for good. A ramp that is as low as the approach already is not capped and may climb on; it
has the ceiling without it.

`OnLeg` says what holds of a closed-loop move at all times: until its ramp cruises it has the
ceiling it was set up with. One update of the ramp near the setpoint makes it `Nearing`, and nothing
that belongs to the move takes that back.
-/

namespace StepperMotion

open Axis (Operation)

/-! ## The ceiling of a ramp -/

namespace Ramp

variable {r : Ramp} {lo hi : Nat}

theorem climb_requested (r : Ramp) (p : Progress) : (r.climb p).requested = r.requested := by
  unfold climb
  dsimp only
  split
  · rfl
  · split <;> rfl

/-- A period leaves the ceiling where it is. -/
theorem update_requested (r : Ramp) (p : Progress) (nowMs : Nat) :
    (r.update p nowMs).requested = r.requested := by
  have hclimb := ({ r with changedMs := nowMs } : Ramp).climb_requested p
  unfold update
  dsimp only
  split <;> exact hclimb

/-- A new ceiling is not above the old one, nor above both the frequency it is for and the
decrement. -/
theorem cap_requested (h : r.Within lo hi) (freq travelled : Nat) :
    (r.cap freq travelled).requested ≤ r.requested
      ∧ (r.cap freq travelled).requested ≤ max freq r.decrement := by
  have hfloor : r.decrement ≤ r.requested := Nat.le_trans h.above h.below
  unfold cap
  split
  · rename_i hlow
    exact ⟨Nat.le_refl _, Nat.le_trans hlow (Nat.le_max_left ..)⟩
  · rename_i hhigh
    exact ⟨Nat.max_le.mpr ⟨Nat.le_of_lt (Nat.not_le.mp hhigh), hfloor⟩, Nat.le_refl _⟩

/-- A ceiling that is really lowered ends the climb, and raises nothing. -/
theorem cap_lowers {freq : Nat} (h : freq < r.requested) (travelled : Nat) :
    (r.cap freq travelled).cruising = true ∧ (r.cap freq travelled).current ≤ r.current := by
  rw [cap, if_neg (Nat.not_le.mpr h)]
  exact ⟨rfl, Nat.min_le_left ..⟩

end Ramp

namespace Axis

variable {a b c : Axis} {lo hi nowMs : Nat} {o : Operation}

/-- The ceiling is not raised by the next update, and if the ramp does not cruise then, the ceiling
is where it was. -/
theorem nextRamp_ceiling (h : a.ramp.Within lo hi) (nowMs : Nat) :
    (a.nextRamp nowMs).requested ≤ a.ramp.requested
      ∧ ((a.nextRamp nowMs).cruising = true
        ∨ (a.nextRamp nowMs).requested = a.ramp.requested) := by
  unfold nextRamp
  dsimp only
  rw [Ramp.update_requested]
  split
  · refine ⟨(Ramp.cap_requested h ..).1, ?_⟩
    rcases a.ramp.cap_cases a.config.approachFreq a.progress.travelled with hsame | ⟨hcruises, _⟩
    · rw [hsame]
      exact Or.inr rfl
    · have hwithin := Ramp.cap_within h a.config.approachFreq a.progress.travelled
      obtain ⟨_, hkept⟩ := @Ramp.update_falls _ _ _ hwithin a.progress (Or.inl hcruises) nowMs
      exact Or.inl (hkept.trans hcruises)
  · exact ⟨Nat.le_refl _, Or.inr rfl⟩

/-- **An update near the setpoint gives the ramp the ceiling of the approach.** If that is below the
ceiling it had, the ramp cruises from then on. -/
theorem nextRamp_approach (h : a.ramp.Within lo hi) (happroach : a.approaching = true)
    (nowMs : Nat) : (a.nextRamp nowMs).requested ≤ max a.config.approachFreq a.ramp.decrement
      ∧ (a.config.approachFreq < a.ramp.requested → (a.nextRamp nowMs).cruising = true
        ∧ (a.nextRamp nowMs).current ≤ a.ramp.current) := by
  have hwithin := Ramp.cap_within h a.config.approachFreq a.progress.travelled
  unfold nextRamp
  simp only [if_pos happroach]
  rw [Ramp.update_requested]
  refine ⟨(Ramp.cap_requested h ..).2, fun hhigh => ?_⟩
  obtain ⟨hcruises, hlow⟩ := Ramp.cap_lowers hhigh a.progress.travelled
  obtain ⟨hfall, hkept⟩ := @Ramp.update_falls _ _ _ hwithin a.progress (Or.inl hcruises) nowMs
  exact ⟨hkept.trans hcruises, Nat.le_trans hfall hlow⟩

/-! ## What is written to the timer -/

/-- The frequencies that are written to the timer in the course of some operations, in order,
whether it takes them or not. -/
def written (a : Axis) (ops : List Operation) : List Nat :=
  (((a.after ops).board.since a.board).written.map (·.hz)).reverse

theorem written_cons (a : Axis) (o : Operation) (ops : List Operation) :
    a.written (o :: ops) = a.written [o] ++ (a.perform o).1.written ops := by
  have hwritten : ((a.after (o :: ops)).board.since a.board).written
      = (((a.perform o).1.after ops).board.since (a.perform o).1.board).written
        ++ ((a.perform o).1.board.since a.board).written :=
    Board.since_mono (a.writes_after [o]) ((a.perform o).1.writes_after ops)
  unfold written
  rw [hwritten, List.map_append, List.reverse_append]
  rfl

theorem written_of_writes {new : List FreqWrite}
    (h : (a.perform o).1.board.timer.writes = new ++ a.board.timer.writes) :
    a.written [o] = (new.map (·.hz)).reverse := by
  have hwritten : ((a.after [o]).board.since a.board).written = new :=
    Board.since_of_suffix h.symm
  rw [written, hwritten]

/-- A timer match that writes to the timer writes the frequency that the ramp has then. -/
theorem written_of_update (h : a.rampUpdate? (.tick nowMs) ≠ none) :
    a.written [.tick nowMs] = [(a.tick nowMs).1.ramp.current] := by
  have hwrites : (a.tick nowMs).1.board.timer.writes ≠ a.board.timer.writes := by
    intro hsame
    exact h (if_pos hsame)
  obtain ⟨accepted, hnew⟩ : ∃ accepted, (a.tick nowMs).1.board.timer.writes
      = ⟨(a.tick nowMs).1.ramp.current, accepted⟩ :: a.board.timer.writes := by
    have hseen : a.observe.board.timer.writes = a.board.timer.writes :=
      congrArg (·.timer.writes) a.observe_board
    have hramped : (a.observe.ramped nowMs).board.timer.writes
        = ⟨(a.observe.nextRamp nowMs).current, _⟩ :: a.board.timer.writes :=
      (writtenTimer_writes ..).trans (congrArg _ hseen)
    have hserved := tick_served a nowMs
    generalize (a.tick nowMs).1 = b at hserved hwrites ⊢
    generalize (a.tick nowMs).2 = r at hserved
    cases hserved with
    | idle _ => exact absurd rfl hwrites
    | arrived _ _ => exact absurd hseen hwrites
    | overshot _ _ _ => exact absurd hseen hwrites
    | refused _ _ _ _ _ => exact ⟨_, hramped⟩
    | stepped _ _ _ hb _ =>
        rcases hb with ⟨_, rfl⟩ | ⟨_, _, rfl⟩
        · exact absurd hseen hwrites
        · exact ⟨_, hramped⟩
  exact @written_of_writes a (.tick nowMs) [_] hnew

/-- A timer match leaves the setpoint alone. -/
theorem tick_posCmd (a : Axis) (nowMs : Nat) : (a.tick nowMs).1.posCmd = a.posCmd := by
  obtain ⟨_, _, _, hobs⟩ := observe_eq a
  have hlook : a.observe.posCmd = a.posCmd := by rw [hobs]
  have hserved := tick_served a nowMs
  generalize (a.tick nowMs).1 = b at hserved ⊢
  generalize (a.tick nowMs).2 = r at hserved
  cases hserved with
  | idle _ => rfl
  | arrived _ _ => exact hlook
  | overshot _ _ _ => exact hlook
  | refused _ _ _ _ _ => exact hlook
  | stepped _ _ _ hb _ => rcases hb with ⟨_, rfl⟩ | ⟨_, _, rfl⟩ <;> exact hlook

/-! ## A closed-loop move -/

/-- An axis in the course of a closed-loop move that began as axis `b`. -/
structure OnLeg (b a : Axis) (hi : Nat) : Prop extends b.OnRamp a a.ramp.changedMs hi where
  posCmd : a.mode ≠ .stopped → a.posCmd = b.posCmd
  /-- A ramp that does not cruise has the ceiling it was set up with. -/
  top : a.ramp.cruising = true ∨ a.ramp.requested = b.config.closedLoopMaxFreq

/-- The ramp that a timer match finds. -/
theorem OnLeg.observed (h : b.OnLeg a hi) : ∃ lo, a.observe.ramp.Within lo hi := by
  obtain ⟨hramp, _⟩ := a.observe_ramp
  rw [hramp]
  exact h.within

/-- A ramp that cruises goes on cruising, and does not rise. -/
theorem OnLeg.falls (h : b.OnLeg a hi) (hcruises : a.ramp.cruising = true) (nowMs : Nat) :
    (a.observe.nextRamp nowMs).cruising = true
      ∧ (a.observe.nextRamp nowMs).current ≤ a.ramp.current := by
  obtain ⟨_, hwithin⟩ := h.observed
  obtain ⟨hramp, _⟩ := a.observe_ramp
  rw [← hramp] at hcruises ⊢
  obtain ⟨hfall, hkept⟩ := nextRamp_falls hwithin (Or.inl hcruises) nowMs
  exact ⟨hkept hcruises, hfall⟩

theorem OnLeg.spares (h : b.OnLeg a hi) (hs : a.Spares c) : b.OnLeg c hi where
  toOnRamp := by
    have hramp := h.toOnRamp.holds hs.toHoldsSpeed
    rwa [← hs.ramp] at hramp
  posCmd hm := by
    have hmode : c.mode = a.mode := hs.mode.resolve_right hm
    rw [hs.posCmd hm]
    exact h.posCmd (hmode ▸ hm)
  top := hs.ramp ▸ h.top

theorem OnLeg.tick (h : b.OnLeg a hi) (hhi : hi ≤ Count.limit)
    (hfits : b.config.approachThreshold ≤ Position.highest) (nowMs : Nat) :
    b.OnLeg (a.tick nowMs).1 hi := by
  have hramp : b.OnRamp (a.tick nowMs).1 (a.tick nowMs).1.ramp.changedMs hi := by
    rcases h.toOnRamp.tick hhi hfits nowMs with ⟨_, hnext⟩ | ⟨u, _, _, _, hnext⟩
    · exact hnext.changed.symm ▸ hnext
    · exact hnext.changed.symm ▸ hnext
  have hgoal : (a.tick nowMs).1.mode ≠ .stopped → (a.tick nowMs).1.posCmd = b.posCmd := by
    intro hm
    have hmoving : a.mode ≠ .stopped := by
      intro hstopped
      rw [tick_stopped hstopped] at hm
      exact hm hstopped
    exact (a.tick_posCmd nowMs).trans (h.posCmd hmoving)
  refine ⟨hramp, hgoal, ?_⟩
  cases tick_regulates a nowMs with
  | holds hheld _ => exact hheld.ramp ▸ h.top
  | advances _ _ _ hnew _ _ =>
      obtain ⟨_, hwithin⟩ := h.observed
      obtain ⟨hramp, _⟩ := a.observe_ramp
      rw [hnew]
      rcases h.top with hcruises | htop
      · exact Or.inl (h.falls hcruises nowMs).1
      · rcases (nextRamp_ceiling hwithin nowMs).2 with hcruises | hkept
        · exact Or.inl hcruises
        · rw [← hramp] at htop
          exact Or.inr (hkept.trans htop)

theorem OnLeg.perform (h : b.OnLeg a hi) (hhi : hi ≤ Count.limit)
    (hfits : b.config.approachThreshold ≤ Position.highest) (ho : a.begins o = false) :
    b.OnLeg (a.perform o).1 hi := by
  by_cases htick : ∃ nowMs, o = .tick nowMs
  · obtain ⟨nowMs, rfl⟩ := htick
    exact h.tick hhi hfits nowMs
  · exact h.spares (spares_perform ho fun nowMs heq => htick ⟨nowMs, heq⟩)

theorem OnLeg.run {ops : List Operation} (h : b.OnLeg a hi) (hhi : hi ≤ Count.limit)
    (hfits : b.config.approachThreshold ≤ Position.highest) (hops : a.unbroken ops = true) :
    b.OnLeg (a.after ops) hi := by
  induction ops generalizing a with
  | nil => exact h
  | cons o ops ih =>
      obtain ⟨ho, hrest⟩ := unbroken_cons hops
      exact ih (h.perform hhi hfits ho) hrest

/-- **A closed-loop move begins with the highest frequency as its ceiling.** -/
theorem leg_begun {setpoint : Int} {freq : Nat} (ho : a.Seeks setpoint o)
    (hstarted : (a.perform o).2.started? = some freq) :
    (a.perform o).1.OnLeg (a.perform o).1 a.config.closedLoopMaxFreq
      ∧ (a.perform o).1.mode = .closedLoop ∧ (a.perform o).1.posCmd = setpoint := by
  obtain ⟨nowMs, r, hcarried, hsame⟩ := seeks_carried ho
  have hanswer : r = .ok (.started freq) := started_outcome.mp (hsame.symm.trans hstarted)
  generalize (a.perform o).1 = b at hcarried ⊢
  cases hcarried with
  | @launched p line hp _ =>
      rcases launch_cases (a.setUp p).nextEpoch p.ramp.current line with
        ⟨_, hans, _⟩ | ⟨_, _, hans, _⟩ | ⟨_, _, _, hb⟩
      · exact absurd (hans.symm.trans hanswer) (by simp)
      · exact absurd (hans.symm.trans hanswer) (by simp)
      · cases hp with
        | closedLoop _ =>
            have hclimbs := a.closedLoopPlan_climbs setpoint nowMs
            rw [hb]
            exact ⟨⟨⟨Or.inl rfl, rfl, ⟨rfl, rfl, rfl⟩, rfl, ⟨_, hclimbs.within⟩, fun _ => rfl⟩,
              fun _ => rfl, Or.inr hclimbs.requested⟩, rfl, rfl⟩
  | failed _ _ _ => exact absurd hanswer (by simp)
  | arrived _ _ => exact absurd hanswer (by simp)
  | stopped hc => exact absurd hc (by simp)

/-! ## From the first update near the setpoint -/

/-- A closed-loop move that has been slowed down for its approach. -/
structure Nearing (b a : Axis) (hi : Nat) : Prop extends b.OnLeg a hi where
  ceiling : a.ramp.requested ≤ max b.config.approachFreq b.ramp.decrement
  cruises : b.config.approachFreq < b.config.closedLoopMaxFreq → a.ramp.cruising = true

/-- What an operation has written to the timer of a move that is slow for its approach. -/
inductive Wrote (b a c : Axis) : List Nat → Prop where
  | nothing (hramp : c.ramp = a.ramp) : Wrote b a c []
  | slower (hfalls : b.config.approachFreq < b.config.closedLoopMaxFreq →
      c.ramp.current ≤ a.ramp.current) : Wrote b a c [c.ramp.current]

/-- Near its setpoint a closed-loop move is in its approach. -/
theorem approaching_of_near (hmode : a.mode = .closedLoop)
    (hfits : a.config.approachThreshold ≤ Position.highest)
    (hnear : ((a.posCmd - a.board.position).natAbs : Int) < a.config.approachThreshold) :
    a.observe.approaching = true := by
  obtain ⟨_, _, _, hobs⟩ := observe_eq a
  rw [hobs]
  simp only [approaching, positionError, Bool.and_eq_true, beq_iff_eq]
  exact ⟨hmode, decide_eq_true ((Position.abs_sub_lt hfits).mpr hnear)⟩

/-- **The first update near the setpoint slows the move down.** -/
theorem OnLeg.slows (h : b.OnLeg a hi) (hhi : hi ≤ Count.limit)
    (hfits : b.config.approachThreshold ≤ Position.highest) (hmode : b.mode = .closedLoop)
    (hupdate : a.rampUpdate? (.tick nowMs) ≠ none)
    (hnear : ((b.posCmd - a.board.position).natAbs : Int) < b.config.approachThreshold) :
    b.Nearing (a.tick nowMs).1 hi ∧ b.Wrote a (a.tick nowMs).1 (a.written [.tick nowMs])
      ∧ a.board.timer.freq = a.ramp.current := by
  rw [written_of_update hupdate]
  cases tick_regulates a nowMs with
  | holds _ hsame => exact absurd (if_pos hsame) hupdate
  | advances hm _ _ hnew _ _ =>
      obtain ⟨_, hwithin⟩ := h.observed
      obtain ⟨hramp, hconfig⟩ := a.observe_ramp
      have hclosed : a.mode = .closedLoop := (h.mode.resolve_right hm).trans hmode
      have happroach : a.observe.approaching = true := by
        refine approaching_of_near hclosed (h.config ▸ hfits) ?_
        rw [h.posCmd hm, h.config]
        exact hnear
      obtain ⟨hceiling, hslow⟩ := nextRamp_approach hwithin happroach nowMs
      rw [hconfig, hramp, h.config, h.slopes.decrement] at hceiling
      rw [hconfig, hramp, h.config] at hslow
      -- a ramp that has not been capped by now cruises since it came to its first ceiling
      have hfalls : b.config.approachFreq < b.config.closedLoopMaxFreq →
          (a.observe.nextRamp nowMs).cruising = true
            ∧ (a.observe.nextRamp nowMs).current ≤ a.ramp.current := by
        intro hlower
        rcases h.top with hcruises | htop
        · exact h.falls hcruises nowMs
        · exact hslow (htop ▸ hlower)
      have hnext := h.tick hhi hfits nowMs
      generalize (a.tick nowMs).1 = c at hnew hnext ⊢
      rw [← hnew] at hceiling hfalls
      exact ⟨⟨hnext, hceiling, fun hlower => (hfalls hlower).1⟩,
        .slower fun hlower => (hfalls hlower).2, h.armed hm⟩

/-- **A move that has been slowed down for its approach stays slow,** whatever the encoder shows. -/
theorem Nearing.perform (h : b.Nearing a hi) (hhi : hi ≤ Count.limit)
    (hfits : b.config.approachThreshold ≤ Position.highest) (ho : a.begins o = false) :
    b.Nearing (a.perform o).1 hi ∧ b.Wrote a (a.perform o).1 (a.written [o]) := by
  have hnext := h.toOnLeg.perform hhi hfits ho
  have hkept : (a.perform o).1.ramp = a.ramp →
      (a.perform o).1.board.timer.writes = a.board.timer.writes →
      b.Nearing (a.perform o).1 hi ∧ b.Wrote a (a.perform o).1 (a.written [o]) := by
    intro hramp hwrites
    have hnone : a.written [o] = [] := @written_of_writes a o [] hwrites
    rw [hnone]
    exact ⟨⟨hnext, hramp ▸ h.ceiling, hramp ▸ h.cruises⟩, .nothing hramp⟩
  by_cases htick : ∃ nowMs, o = .tick nowMs
  · obtain ⟨nowMs, rfl⟩ := htick
    cases tick_regulates a nowMs with
    | holds hheld hwrites => exact hkept hheld.ramp hwrites
    | advances _ _ _ hnew hwrites _ =>
        have hupdate : a.rampUpdate? (.tick nowMs) ≠ none := by
          simp [rampUpdate?, hwrites]
        rw [written_of_update hupdate]
        obtain ⟨_, hwithin⟩ := h.observed
        obtain ⟨hramp, _⟩ := a.observe_ramp
        obtain ⟨hceiling, _⟩ := nextRamp_ceiling hwithin nowMs
        have hfalls := fun hlower => h.falls (h.cruises hlower) nowMs
        rw [hramp] at hceiling
        rw [← hnew] at hceiling hfalls
        exact ⟨⟨hnext, Nat.le_trans hceiling h.ceiling, fun hlower => (hfalls hlower).1⟩,
          .slower fun hlower => (hfalls hlower).2⟩
  · have hs := spares_perform ho fun nowMs heq => htick ⟨nowMs, heq⟩
    exact hkept hs.ramp hs.writes

/-- What is said of the frequencies that are written to the timer from some time on, if it was at a
frequency by then. -/
structure Slowed (b : Axis) (before : Nat) (freqs : List Nat) : Prop where
  below : ∀ hz ∈ freqs, hz ≤ max b.config.approachFreq b.ramp.decrement
  falls : b.config.approachFreq < b.config.closedLoopMaxFreq →
    (before :: freqs).Pairwise (· ≥ ·)

/-- One more frequency, or none, in front of those that are written later. -/
theorem Wrote.slowed {freqs later : List Nat} (h : b.Wrote a c freqs)
    (hc : c.ramp.current ≤ max b.config.approachFreq b.ramp.decrement)
    (hlater : b.Slowed c.ramp.current later) : b.Slowed a.ramp.current (freqs ++ later) := by
  cases h with
  | nothing hramp => exact hramp ▸ hlater
  | slower hfalls =>
      refine ⟨List.forall_mem_cons.mpr ⟨hc, hlater.below⟩, fun hlower => ?_⟩
      have hchain := hlater.falls hlower
      have hfirst := hfalls hlower
      refine List.pairwise_cons.mpr ⟨List.forall_mem_cons.mpr ⟨hfirst, fun hz hmem => ?_⟩, hchain⟩
      exact Nat.le_trans ((List.pairwise_cons.mp hchain).1 hz hmem) hfirst

theorem Nearing.run {ops : List Operation} (h : b.Nearing a hi) (hhi : hi ≤ Count.limit)
    (hfits : b.config.approachThreshold ≤ Position.highest) (hops : a.unbroken ops = true) :
    b.Slowed a.ramp.current (a.written ops) := by
  induction ops generalizing a with
  | nil =>
      have hnone : a.written [] = [] := by simp [written, Board.since_self]
      rw [hnone]
      exact ⟨fun hz hmem => absurd hmem (by simp), fun _ => List.pairwise_singleton ..⟩
  | cons o ops ih =>
      obtain ⟨ho, hrest⟩ := unbroken_cons hops
      obtain ⟨hnext, hwrote⟩ := h.perform hhi hfits ho
      obtain ⟨_, hwithin⟩ := hnext.within
      rw [written_cons]
      exact hwrote.slowed (Nat.le_trans hwithin.below hnext.ceiling) (ih hnext hrest)

/-- **An approach is slow until the move ends.** From the first time that the ramp of a closed-loop
move is updated near its setpoint, no frequency that is written to the timer is above both the one
of the approach and the decrement of the ramp. If the frequency of the approach is below the highest
one, what is written from then on never goes up, beginning with the frequency that the timer had.
Where the encoder has been before, and where it goes from there, does not matter. -/
theorem approach_permanent {early late : List Operation} {setpoint : Int} {freq : Nat}
    (hwidth : a.config.closedLoopMaxFreq ≤ Count.limit)
    (hfits : a.config.approachThreshold ≤ Position.highest) (ho : a.Seeks setpoint o)
    (hstarted : (a.perform o).2.started? = some freq)
    (hearly : (a.perform o).1.unbroken early = true)
    (hupdate : ((a.perform o).1.after early).rampUpdate? (.tick nowMs) ≠ none)
    (hnear : ((setpoint - ((a.perform o).1.after early).board.position).natAbs : Int)
      < a.config.approachThreshold)
    (hlate : (((a.perform o).1.after early).tick nowMs).1.unbroken late = true) :
    let begun := (a.perform o).1
    let now := begun.after early
    (∀ hz ∈ now.written (.tick nowMs :: late), hz ≤ max a.config.approachFreq begun.ramp.decrement)
      ∧ (a.config.approachFreq < a.config.closedLoopMaxFreq →
        (now.board.timer.freq :: now.written (.tick nowMs :: late)).Pairwise (· ≥ ·)) := by
  intro begun now
  have hconfig : begun.config = a.config := (settings_perform a o).config
  obtain ⟨hbegun, hmode, hgoal⟩ := leg_begun ho hstarted
  rw [← hconfig] at hfits hnear hwidth hbegun ⊢
  have hnow : begun.OnLeg now _ := hbegun.run hwidth hfits hearly
  obtain ⟨hnearing, hwrote, harmed⟩ :=
    hnow.slows hwidth hfits hmode hupdate (hgoal.symm ▸ hnear)
  obtain ⟨_, hwithin⟩ := hnearing.within
  have hslowed : begun.Slowed now.ramp.current (now.written [.tick nowMs] ++ _) :=
    hwrote.slowed (Nat.le_trans hwithin.below hnearing.ceiling) (hnearing.run hwidth hfits hlate)
  rw [harmed, written_cons]
  exact ⟨hslowed.below, hslowed.falls⟩

/-- What befalls a move that has just been slowed down: its shaft is turned back by a hundred
counts, a command for another move is refused, and the shaft is turned on again. -/
def turnedBack : List Operation :=
  [.status, .place 100, .tick 720, .tick 780, .apply (.steps .clockwise 99 1 1 1) 800, .place (-7),
    .tick 840, .tick 900]

/-- The move is slowed down from 67500 Hz three counts before its setpoint, goes on at the frequency
that it has then also while it is far away, and brakes when it is near again. -/
theorem approach_permanent_of_turnedBack :
    ∃ begun now, begun = (tracking.perform (.apply (.closedLoop (-9)) 0)).1
      ∧ now = begun.after (ticks (60 * ·) 11)
      ∧ now.board.timer.freq = 67500
      ∧ now.rampUpdate? (.tick 660) ≠ none
      ∧ now.written (.tick 660 :: turnedBack) = [27500, 27500, 27500, 25000]
      ∧ (∀ hz ∈ now.written (.tick 660 :: turnedBack),
        hz ≤ max tracking.config.approachFreq begun.ramp.decrement)
      ∧ (now.board.timer.freq :: now.written (.tick 660 :: turnedBack)).Pairwise (· ≥ ·) := by
  have hstarted : (tracking.perform (.apply (.closedLoop (-9)) 0)).2.started? = some 12500 := by
    decide +kernel
  have hupdate : ((tracking.perform (.apply (.closedLoop (-9)) 0)).1.after
      (ticks (60 * ·) 11)).rampUpdate? (.tick 660) ≠ none := by
    decide +kernel
  obtain ⟨hbelow, hfalls⟩ := @approach_permanent tracking 660 _ (ticks (60 * ·) 11) turnedBack (-9)
    12500 (by decide) (by decide) .apply hstarted (by decide +kernel) hupdate (by decide +kernel)
    (by decide +kernel)
  exact ⟨_, _, rfl, rfl, by decide +kernel, hupdate, by decide +kernel, hbelow, hfalls (by decide)⟩

end Axis

end StepperMotion
