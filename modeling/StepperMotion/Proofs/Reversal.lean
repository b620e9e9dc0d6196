import StepperMotion.Proofs.Stamps

/-!
# No motor is reversed while it turns

A dispatcher that has halted an axis remembers nothing about it but the time at which it may go on.
The axis remembers the epoch in which it was halted. A move that is put down to go on has the epoch
of the report that it passed its setpoint. `Handshake` says what these memories are worth: whoever
finds his epoch to be the current one may be sure that the timer has been at rest since he began to
wait. Everybody else finds another epoch, for all epochs are different as long as there are fewer of
them than fit into their type.

`reversed_after_rest` follows: the direction line of an axis that is not stopped changes its level
only after a whole rest.
-/

namespace StepperMotion

namespace Station

/-! ## Rests -/

/-- The timer of axis `j` is not running, and it was started so many times. -/
def AtRest (s : Station) (j starts : Nat) : Prop :=
  ∃ a, s.machine.axes[j]? = some a ∧ a.isRunning = false ∧ a.board.timer.starts = starts

/-- The timer of axis `j` has been at rest without interruption from the time `t` to the end of the
run. -/
def Rests (s : Station) (as : List Action) (j t : Nat) : Prop :=
  ∃ us vs, as = us ++ vs ∧ (s.run us).nowMs ≤ t
    ∧ ∃ starts, ∀ ws, ws <+: vs → (s.run (us ++ ws)).AtRest j starts

theorem Rests.mono {s : Station} {as : List Action} {j t t' : Nat} (h : s.Rests as j t)
    (ht : t ≤ t') : s.Rests as j t' := by
  obtain ⟨us, vs, has, hle, hrest⟩ := h
  exact ⟨us, vs, has, Nat.le_trans hle ht, hrest⟩

/-- A timer that is not running begins to rest. -/
theorem rests_now {s : Station} {as : List Action} {j : Nat} {a : Axis}
    (ha : (s.run as).machine.axes[j]? = some a) (hr : a.isRunning = false) :
    s.Rests as j (s.run as).nowMs := by
  refine ⟨as, [], (List.append_nil as).symm, Nat.le_refl _, a.board.timer.starts, ?_⟩
  intro ws hws
  obtain rfl := List.prefix_nil.mp hws
  rw [List.append_nil]
  exact ⟨a, ha, hr, rfl⟩

/-- A rest goes on as long as the timer is not started. -/
theorem Rests.snoc {s : Station} {as : List Action} {j t : Nat} {x : Action} {a b : Axis}
    (h : s.Rests as j t) (ha : (s.run as).machine.axes[j]? = some a)
    (hb : (s.run (as ++ [x])).machine.axes[j]? = some b) (hc : a.Continues b) :
    s.Rests (as ++ [x]) j t := by
  obtain ⟨us, vs, rfl, hle, starts, hrest⟩ := h
  refine ⟨us, vs ++ [x], List.append_assoc .., hle, starts, ?_⟩
  intro ws hws
  rcases List.prefix_concat_iff.mp hws with rfl | hws
  · -- at the end of the longer run
    obtain ⟨a', ha', hr, hstarts⟩ := hrest vs (List.prefix_refl vs)
    obtain rfl := Option.some.inj (ha.symm.trans ha')
    rw [← List.append_assoc]
    exact ⟨b, hb, hc.rests hr, hc.starts.trans hstarts⟩
  · exact hrest ws hws

/-! ## The handshake -/

/-- The dispatcher of axis `j` may not carry out a command before the axis has rested since `t`. -/
def Ripens (s : Station) (j t : Nat) : Prop :=
  ∀ d t', s.dispatchers[j]? = some d → d.phase.earliest? s.nowMs = some t' →
    t + s.machine.config.restMs ≤ t'

theorem Ripens.act {s : Station} {j t : Nat} (h : s.Ripens j t) (x : Action) :
    (s.act x).Ripens j t := by
  intro d' t' hd' ht'
  obtain ⟨d, hd, _, hlater⟩ := act_dispatchers hd'
  obtain ⟨t₁, ht₁, hle⟩ := hlater t' ht'
  have hold := h d t₁ hd ht₁
  rw [act_config]
  omega

/-- What the epochs that are remembered about axis `j` are worth after a run. -/
structure Handshake (s₀ : Station) (as : List Action) (j : Nat) : Prop where
  epoch : ∀ a, (s₀.run as).machine.axes[j]? = some a → a.epoch = UInt32.ofNat (s₀.bumps j as)
  /-- An axis in the epoch in which it was halted has been at rest since then, and its dispatcher
  waits long enough. -/
  quiesced : ∀ a epoch, (s₀.run as).machine.axes[j]? = some a → a.quiescedEpoch = some epoch →
    Dated (s₀.bumps j as) epoch (∃ t, s₀.Rests as j t ∧ (s₀.run as).Ripens j t)
  /-- An axis in the epoch in which it passed its setpoint is at rest. -/
  report : ∀ note, (s₀.run as).InFlight note → note.handle = j → note.kind = .overshoot →
    Dated (s₀.bumps j as) note.epoch (s₀.Rests as j (s₀.run as).nowMs)
  /-- An axis in the epoch in which a move was put down has been at rest since then. -/
  reversal : ∀ r ∈ (s₀.run as).reversals, r.note.handle = j →
    Dated (s₀.bumps j as) r.note.epoch
      (∃ t, s₀.Rests as j t ∧ t + (s₀.run as).machine.config.restMs ≤ r.dueMs)

/-- **A step in which the epoch of the axis goes on.** -/
theorem Handshake.goOn {s₀ : Station} {as : List Action} {j : Nat} (h : s₀.Handshake as j)
    (hp : (s₀.run as).Placed) {x : Action} {a b : Axis}
    (ha : (s₀.run as).machine.axes[j]? = some a)
    (hb : (s₀.run (as ++ [x])).machine.axes[j]? = some b) (hc : a.Continues b) :
    s₀.Handshake (as ++ [x]) j := by
  have hbumps : s₀.bumps j (as ++ [x]) = s₀.bumps j as := bumps_continued ha hb hc.epoch
  have hrests : ∀ t, s₀.Rests as j t → s₀.Rests (as ++ [x]) j t := by
    intro t ht
    exact ht.snoc ha hb hc
  have hconfig : (s₀.run (as ++ [x])).machine.config = (s₀.run as).machine.config := by
    rw [run_snoc, act_config]
  have hnow : (s₀.run as).nowMs ≤ (s₀.run (as ++ [x])).nowMs := by
    rw [run_snoc]
    exact act_nowMs _ x
  refine ⟨?_, ?_, ?_, ?_⟩
  · intro b₁ hb₁
    obtain rfl := Option.some.inj (hb.symm.trans hb₁)
    rw [hbumps, hc.epoch]
    exact h.epoch a ha
  · intro b₁ epoch hb₁ hq
    obtain rfl := Option.some.inj (hb.symm.trans hb₁)
    rw [hbumps]
    refine (h.quiesced a epoch ha (hc.quiesced.symm.trans hq)).imp ?_
    rintro ⟨t, ht, hripe⟩
    rw [run_snoc]
    exact ⟨t, hrests t ht, hripe.act x⟩
  · intro note hf hj hk
    rw [hbumps]
    have hf' := hf
    rw [run_snoc] at hf'
    rcases act_inFlight hf' with hold | hreport
    · exact (h.report note hold hj hk).imp fun ht => (hrests _ ht).mono hnow
    · -- the report is new, and then its axis has just been stopped
      have hstamp := (hreport.about hp.axes hj ha).2.2.2
      have hrest := hreport.rests hp.axes hj ha (by rw [hk]; rfl)
      refine .now (hstamp.trans (h.epoch a ha)) (rests_now hb ?_)
      have hb' := hb
      rw [run_snoc, act_axes, ha] at hb'
      obtain rfl := Option.some.inj hb'
      exact hrest
  · intro r hr hj
    rw [hbumps, hconfig]
    rw [run_snoc] at hr
    rcases act_reversals hr with hr | ⟨toVisit, hs, hk, hdue⟩
    · refine (h.reversal r hr hj).imp ?_
      rintro ⟨t, ht, hle⟩
      exact ⟨t, hrests t ht, hle⟩
    · -- the supervisor had the report in hand, and its axis has been at rest
      refine (h.report r.note (.inHand hs) hj hk).imp fun ht => ?_
      exact ⟨_, hrests _ ht, Nat.le_of_eq hdue.symm⟩

/-- **A step in which a new epoch of the axis begins.** Nothing is claimed any more about the epochs
that were remembered before. If the axis was halted, it begins to rest. -/
theorem Handshake.renew {s₀ : Station} {as : List Action} {j : Nat} (h : s₀.Handshake as j)
    (hp : (s₀.run as).Placed) {x : Action} {a b : Axis}
    (ha : (s₀.run as).machine.axes[j]? = some a)
    (hb : (s₀.run (as ++ [x])).machine.axes[j]? = some b) (hepoch : b.epoch = a.epoch + 1)
    (hquiesced : b.quiescedEpoch = a.quiescedEpoch
      ∨ (b.quiescedEpoch = some b.epoch ∧ b.isRunning = false
        ∧ (s₀.run (as ++ [x])).Ripens j (s₀.run (as ++ [x])).nowMs)) :
    s₀.Handshake (as ++ [x]) j := by
  have hbumps : s₀.bumps j (as ++ [x]) = s₀.bumps j as + 1 := bumps_renewed ha hb hepoch
  have hnew : b.epoch = UInt32.ofNat (s₀.bumps j (as ++ [x])) := by
    rw [hbumps, hepoch, h.epoch a ha]
    exact (UInt32.ofNat_add ..).symm
  refine ⟨?_, ?_, ?_, ?_⟩
  · intro b₁ hb₁
    obtain rfl := Option.some.inj (hb.symm.trans hb₁)
    exact hnew
  · intro b₁ epoch hb₁ hq
    obtain rfl := Option.some.inj (hb.symm.trans hb₁)
    rcases hquiesced with hold | ⟨hq', hr, hripe⟩
    · rw [hbumps]
      exact (h.quiesced a epoch ha (hold.symm.trans hq)).older
    · obtain rfl := Option.some.inj (hq'.symm.trans hq)
      exact .now hnew ⟨_, rests_now hb hr, hripe⟩
  · intro note hf hj hk
    rw [hbumps]
    rw [run_snoc] at hf
    rcases act_inFlight hf with hold | hreport
    · exact (h.report note hold hj hk).older
    · -- the report has the epoch that has just ended
      have hstamp := (hreport.about hp.axes hj ha).2.2.2
      exact (Dated.now (hstamp.trans (h.epoch a ha)) trivial).older
  · intro r hr hj
    rw [hbumps]
    rw [run_snoc] at hr
    rcases act_reversals hr with hr | ⟨toVisit, hs, hk, _⟩
    · exact (h.reversal r hr hj).older
    · exact (h.report r.note (.inHand hs) hj hk).older

/-- The stroke by which a dispatcher halts its axis makes the dispatcher wait. -/
theorem ripens_of_rest {s : Station} {j i : Nat} {a : Axis} {d : Dispatcher} (hp : s.Placed)
    (ha : s.machine.axes[j]? = some a) (hd : s.dispatchers[i]? = some d) (hj : d.handle = j)
    (hrest : a.hasToRest s.nowMs d.phase = true) :
    (s.act (.dispatch i)).Ripens j (s.act (.dispatch i)).nowMs := by
  have hi : d.handle = i := hp.dispatchers i d hd
  have hdisp := dispatch_dispatched hd
  obtain ⟨d', hset, hfollows⟩ := hdisp.dispatchers
  obtain ⟨e, hwait⟩ := hfollows.rests a (hj ▸ ha) hrest
  intro d₁ t' hd₁ ht'
  rw [act, hset] at hd₁
  rw [act_config]
  rw [act, hdisp.nowMs] at ht' ⊢
  rcases get_set_dispatcher hd₁ with ⟨_, rfl⟩ | ⟨hne, _⟩
  · rw [hwait] at ht'
    exact Nat.le_of_eq (Option.some.inj ht')
  · exact absurd (hi.symm.trans hj) hne

/-- **The handshake survives every action.** -/
theorem Handshake.step {s₀ : Station} {as : List Action} {j : Nat} (h : s₀.Handshake as j)
    (hp : (s₀.run as).Placed) {a : Axis} (ha : (s₀.run as).machine.axes[j]? = some a) (x : Action) :
    s₀.Handshake (as ++ [x]) j := by
  have hb : (s₀.run (as ++ [x])).machine.axes[j]?
      = some (a.after ((s₀.run as).strokes j a x)) := by
    rw [run_snoc, act_axes, ha]
    rfl
  rcases act_turn (s₀.run as) j a x with (hc | hr) | ⟨hq, i, d, rfl, hd, hj, hrest⟩
  · exact h.goOn hp ha hb hc
  · exact h.renew hp ha hb hr.epoch (Or.inl hr.quiesced)
  · refine h.renew hp ha hb hq.epoch (Or.inr ⟨hq.quiesced, hq.rests, ?_⟩)
    rw [run_snoc]
    exact ripens_of_rest hp ha hd hj hrest

/-! ## Runs of a station that was started -/

theorem handshake_start {config : MotionConfig} {axes : List (AxisConfig × Board)} {powered : Bool}
    {s : Station} (h : start config axes powered = .ok s) (j : Nat) : s.Handshake [] j := by
  obtain ⟨_, _, _, hnotes, _, hsup, hrev, _⟩ := start_ok h
  refine ⟨?_, ?_, ?_, ?_⟩
  · intro a ha
    obtain ⟨own, board, rfl⟩ := start_axis h ha
    rfl
  · intro a epoch ha hq
    obtain ⟨own, board, rfl⟩ := start_axis h ha
    exact absurd hq (by simp [Axis.create])
  · -- nothing has been reported
    intro note hf _ _
    exfalso
    cases hf with
    | queued hmem =>
        rw [run_nil, hnotes] at hmem
        exact absurd hmem (by simp)
    | inHand hs =>
        rw [run_nil, hsup] at hs
        exact absurd hs (by simp)
    | parked ha hp =>
        obtain ⟨own, board, rfl⟩ := start_axis h ha
        exact absurd hp (by simp [Axis.create])
  · intro r hr _
    rw [run_nil, hrev] at hr
    exact absurd hr (by simp)

/-- **The handshake holds after every run.** -/
theorem Handshake.run {s₀ : Station} {as : List Action} {j : Nat} (h : s₀.Handshake as j)
    (hp : (s₀.run as).Placed) (bs : List Action) {b : Axis}
    (hb : (s₀.run (as ++ bs)).machine.axes[j]? = some b) : s₀.Handshake (as ++ bs) j := by
  induction bs generalizing as with
  | nil => rwa [List.append_nil]
  | cons x bs ih =>
      have hsplit : as ++ x :: bs = (as ++ [x]) ++ bs := by simp
      rw [hsplit] at hb ⊢
      have hb' := hb
      rw [List.append_assoc, run_append] at hb'
      obtain ⟨a, ha⟩ := axis_of_run hb'
      refine ih (h.step hp ha x) ?_ hb
      rw [run_snoc]
      exact hp.act x

/-- **Nobody changes the direction of an axis that is not stopped before its timer has been at rest
without interruption for the delay of the configuration,** or for the longest wait if that is
shorter, in whatever order the parties take turns. -/
theorem reversed_after_rest {config : MotionConfig} {axes : List (AxisConfig × Board)}
    {powered : Bool} {s₀ : Station} (hstart : start config axes powered = .ok s₀)
    (as : List Action) (x : Action) {j : Nat} {a b : Axis}
    (ha : (s₀.run as).machine.axes[j]? = some a)
    (hb : ((s₀.run as).act x).machine.axes[j]? = some b)
    (hbumps : s₀.bumps j as < UInt32.size) (hmove : a.mode ≠ .stopped)
    (hturn : b.board.dirLevel ≠ a.board.dirLevel) :
    ∃ t, s₀.Rests as j t
      ∧ t + min config.directionChangeDelayMs longestWaitMs ≤ (s₀.run as).nowMs := by
  have hcoh := coherent_run hstart as ha
  have hshake : s₀.Handshake as j := (handshake_start hstart j).run (placed_start hstart) as ha
  have hplaced : (s₀.run as).Placed :=
    run_induction (P := Placed) (fun _ x h => h.act x) (placed_start hstart) as
  have hrest : (s₀.run as).machine.config.restMs
      = min config.directionChangeDelayMs longestWaitMs := by
    rw [run_config, (start_ok hstart).2.1]
    rfl
  rw [act_axes, ha] at hb
  obtain rfl := Option.some.inj hb
  have hepoch := hshake.epoch a ha
  rw [← hrest]
  rcases act_level hcoh hturn with
    ⟨i, d, rfl, hd, hj, hwhy, t', ht', hdue⟩ | ⟨r, hr, hdue, hj, hawait⟩
  · -- the dispatcher has waited since it halted the axis
    have hquiesced : a.isQuiesced = true := hwhy.resolve_left hmove
    simp only [Axis.isQuiesced, Bool.and_eq_true, beq_iff_eq] at hquiesced
    obtain ⟨t, ht, hripe⟩ :=
      (hshake.quiesced a a.epoch ha hquiesced.1).current hbumps hepoch
    have hi : i = j := (hplaced.dispatchers i d hd).symm.trans hj
    have hwait : t + (s₀.run as).machine.config.restMs ≤ t' := hripe d t' (hi ▸ hd) ht'
    exact ⟨t, ht, by omega⟩
  · -- the move was put down after the axis had stopped
    simp only [Axis.awaitsResume, Bool.and_eq_true, beq_iff_eq] at hawait
    obtain ⟨t, ht, hle⟩ :=
      (hshake.reversal r hr hj).current hbumps (hawait.1.1.trans hepoch)
    exact ⟨t, ht, by omega⟩

/-- A closed-loop move is given a setpoint on the other side, and its dispatcher waits. -/
def turningBack (restMs : Nat) : List Action :=
  [.dispatch 0, .submit "x" (.closedLoop 500), .dispatch 0, .dispatch 0, .dispatch 0,
    .submit "x" (.closedLoop (-500)), .dispatch 0, .dispatch 0, .pass restMs]

theorem reversed_after_rest_of_turningBack :
    ∃ s₀ a b, start {} [(⟨"x", 0, none⟩, {})] true = .ok s₀
      ∧ (s₀.run (turningBack 500)).machine.axes[0]? = some a
      ∧ ((s₀.run (turningBack 500)).act (.dispatch 0)).machine.axes[0]? = some b
      ∧ s₀.bumps 0 (turningBack 500) < UInt32.size
      ∧ a.mode ≠ .stopped ∧ b.board.dirLevel ≠ a.board.dirLevel
      ∧ ∃ t, s₀.Rests (turningBack 500) 0 t
        ∧ t + min 500 longestWaitMs ≤ (s₀.run (turningBack 500)).nowMs := by
  obtain ⟨s₀, a, b, hstart, ha, hb, hbumps, hmove, hturn⟩ :
      ∃ s₀ a b, start {} [(⟨"x", 0, none⟩, {})] true = .ok s₀
        ∧ (s₀.run (turningBack 500)).machine.axes[0]? = some a
        ∧ ((s₀.run (turningBack 500)).act (.dispatch 0)).machine.axes[0]? = some b
        ∧ s₀.bumps 0 (turningBack 500) < UInt32.size
        ∧ a.mode ≠ .stopped ∧ b.board.dirLevel ≠ a.board.dirLevel :=
    ⟨_, _, _, rfl, rfl, rfl, by decide, by decide, by decide⟩
  exact ⟨s₀, a, b, hstart, ha, hb, hbumps, hmove, hturn,
    reversed_after_rest hstart (turningBack 500) (.dispatch 0) ha hb hbumps hmove hturn⟩

/-- A delay of more than thirty years is cut short: a motor is reversed before it is over. -/
theorem reversed_before_delay :
    ∃ config s₀ a b, start config [(⟨"x", 0, none⟩, {})] true = .ok s₀
      ∧ (s₀.run (turningBack longestWaitMs)).machine.axes[0]? = some a
      ∧ ((s₀.run (turningBack longestWaitMs)).act (.dispatch 0)).machine.axes[0]? = some b
      ∧ s₀.bumps 0 (turningBack longestWaitMs) < UInt32.size
      ∧ a.mode ≠ .stopped ∧ b.board.dirLevel ≠ a.board.dirLevel
      ∧ ¬ ∃ t, s₀.Rests (turningBack longestWaitMs) 0 t
        ∧ t + config.directionChangeDelayMs ≤ (s₀.run (turningBack longestWaitMs)).nowMs := by
  obtain ⟨s₀, a, b, hstart, ha, hb, hbumps, hmove, hturn, hnow⟩ :
      ∃ s₀ a b, start { directionChangeDelayMs := 9223372036854775808 }
          [(⟨"x", 0, none⟩, {})] true = .ok s₀
        ∧ (s₀.run (turningBack longestWaitMs)).machine.axes[0]? = some a
        ∧ ((s₀.run (turningBack longestWaitMs)).act (.dispatch 0)).machine.axes[0]? = some b
        ∧ s₀.bumps 0 (turningBack longestWaitMs) < UInt32.size
        ∧ a.mode ≠ .stopped ∧ b.board.dirLevel ≠ a.board.dirLevel
        ∧ (s₀.run (turningBack longestWaitMs)).nowMs = longestWaitMs :=
    ⟨_, _, _, rfl, rfl, rfl, by decide, by decide, by decide, rfl⟩
  refine ⟨_, s₀, a, b, hstart, ha, hb, hbumps, hmove, hturn, ?_⟩
  rintro ⟨t, _, hle⟩
  have hshort : longestWaitMs < 9223372036854775808 := by decide
  have hdelay : t + 9223372036854775808 ≤ (s₀.run (turningBack longestWaitMs)).nowMs := hle
  omega

end Station

end StepperMotion
