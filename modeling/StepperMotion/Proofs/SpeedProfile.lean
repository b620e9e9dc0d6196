import StepperMotion.Proofs.Convergence
import StepperMotion.Proofs.Frequency

/-!
# The speed of a move rises, and then it falls

A ramp climbs for as long as it neither cruises nor is past the middle of its way. The climb does
not begin again: cruising is never taken back, and a way that is past its middle stays past it, if
half-steps are counted, or if the encoder never moves away from the setpoint. So whatever is armed
in the course of a move is a rise followed by a fall (`speed_unimodal`), at whatever times the
matches come.

The two ends of the climb are different in kind. Cruising is a flag of the ramp. Whether the middle
is past is asked anew at every match, and what has to be carried along is that the answer will be
the same wherever the encoder reads next (`Beyond`).
-/

namespace StepperMotion

open Axis (Operation)

/-- Up to some place, and down from there on. -/
def Unimodal (freqs : List Nat) : Prop :=
  ∃ rise fall, freqs = rise ++ fall ∧ rise.Pairwise (· ≤ ·) ∧ fall.Pairwise (· ≥ ·)

theorem Unimodal.sublist {freqs some : List Nat} (h : Unimodal freqs) (hsub : some.Sublist freqs) :
    Unimodal some := by
  obtain ⟨rise, fall, rfl, hrise, hfall⟩ := h
  obtain ⟨rise', fall', rfl, hsubRise, hsubFall⟩ := List.sublist_append_iff.mp hsub
  exact ⟨rise', fall', rfl, hrise.sublist hsubRise, hfall.sublist hsubFall⟩

/-- Readings of an encoder that never move away from a setpoint. -/
def NeverRecedes (goal : Int) (readings : List Int) : Prop :=
  readings.Pairwise fun earlier later => (goal - later).natAbs ≤ (goal - earlier).natAbs

instance (goal : Int) (readings : List Int) : Decidable (NeverRecedes goal readings) :=
  inferInstanceAs (Decidable (List.Pairwise _ readings))

/-- The first reading is the farthest one. -/
theorem NeverRecedes.bounded {goal : Int} {readings : List Int} (h : NeverRecedes goal readings) :
    ∃ reach, ∀ pos ∈ readings, (goal - pos).natAbs ≤ reach := by
  cases readings with
  | nil => exact ⟨0, by simp⟩
  | cons first rest =>
      exact ⟨(goal - first).natAbs,
        List.forall_mem_cons.mpr ⟨Nat.le_refl _, (List.pairwise_cons.mp h).1⟩⟩

/-- A speed level that has a frequency has one that can be counted. -/
theorem MotionConfig.freeRunFreq_le {c : MotionConfig} {level freq : Nat}
    (h : c.freeRunFreq level = .ok (some freq)) : freq ≤ Count.limit := by
  rcases c.freeRunFreq_cases level with hnone | ⟨khz, _, hsome⟩
  · exact absurd (h.symm.trans hnone) (by simp)
  · rw [hsome, Count.checkedMul] at h
    split at h
    · rename_i hcount
      rw [← Option.some.inj (Except.ok.inj h)]
      exact hcount
    · exact absurd h (by simp [Except.map])

/-! ## One period of a ramp -/

namespace Ramp

variable {r : Ramp} {lo hi : Nat}

/-- A climb starts between what a period of braking takes away and what it is to lead to. -/
theorem trapezoid_within_self (requested divisor slopeRatio periodMs minFreq nowMs : Nat) :
    (trapezoid requested divisor slopeRatio periodMs minFreq nowMs).Within
      (trapezoid requested divisor slopeRatio periodMs minFreq nowMs).decrement requested :=
  ⟨Nat.le_refl _, Nat.le_refl _, Nat.min_le_right .., Nat.le_refl _⟩

/-- A new ceiling ends the climb and raises nothing. -/
theorem cap_cases (r : Ramp) (freq travelled : Nat) : r.cap freq travelled = r
    ∨ ((r.cap freq travelled).cruising = true ∧ (r.cap freq travelled).current ≤ r.current) := by
  unfold cap
  split
  · exact Or.inl rfl
  · exact Or.inr ⟨rfl, Nat.min_le_left ..⟩

/-- There is no climb any more. -/
theorem update_falls (h : r.Within lo hi) {p : Progress}
    (hover : r.cruising = true ∨ p.pastMiddle = true) (nowMs : Nat) :
    (r.update p nowMs).current ≤ r.current ∧ (r.update p nowMs).cruising = r.cruising := by
  have habove := h.above
  have hno : (r.cruising || p.pastMiddle) = true := Bool.or_eq_true .. |>.mpr hover
  unfold update climb
  simp only [hno, if_true]
  split
  · refine ⟨?_, rfl⟩
    show max (r.current - r.decrement) r.decrement ≤ r.current
    omega
  · exact ⟨Nat.le_refl _, rfl⟩

/-- A period of climbing ends the climb, with or without braking, or leads up. -/
theorem update_climbs (h : r.Within lo hi) (hhi : hi ≤ Count.limit) {p : Progress}
    (hclimb : r.cruising = false) (hmiddle : p.pastMiddle = false) (nowMs : Nat) :
    (r.update p nowMs).cruising = true
      ∨ ((r.update p nowMs).cruising = false ∧ r.current ≤ (r.update p nowMs).current) := by
  obtain ⟨_, hlimit⟩ := h.current
  unfold update climb
  simp only [hclimb, hmiddle, Bool.or_self, Bool.false_eq_true, if_false]
  by_cases htop : r.requested ≤ Count.add r.current r.increment
  · rw [if_pos htop]
    left
    split <;> rfl
  · rw [if_neg htop]
    right
    split
    · -- a ramp that still climbs brakes past the middle only
      rename_i hbrakes
      exact absurd hbrakes (by simp [brakes, hmiddle])
    · refine ⟨rfl, ?_⟩
      show r.current ≤ Count.add r.current r.increment
      unfold Count.add
      omega

end Ramp

namespace Axis

variable {a b : Axis} {lo hi reach : Nat}

theorem nextRamp_falls (h : a.ramp.Within lo hi)
    (hover : a.ramp.cruising = true ∨ a.progress.pastMiddle = true) (nowMs : Nat) :
    (a.nextRamp nowMs).current ≤ a.ramp.current
      ∧ (a.ramp.cruising = true → (a.nextRamp nowMs).cruising = true) := by
  unfold nextRamp
  dsimp only
  split
  · have hwithin := Ramp.cap_within h a.config.approachFreq a.progress.travelled
    rcases a.ramp.cap_cases a.config.approachFreq a.progress.travelled with hcap | ⟨hcruise, hcap⟩
    · rw [hcap]
      obtain ⟨hfall, hsame⟩ := Ramp.update_falls h hover nowMs
      exact ⟨hfall, hsame.trans⟩
    · obtain ⟨hfall, hsame⟩ := Ramp.update_falls hwithin (Or.inl hcruise) nowMs
      exact ⟨Nat.le_trans hfall hcap, fun _ => hsame.trans hcruise⟩
  · obtain ⟨hfall, hsame⟩ := Ramp.update_falls h hover nowMs
    exact ⟨hfall, hsame.trans⟩

theorem nextRamp_climbs (h : a.ramp.Within lo hi) (hhi : hi ≤ Count.limit)
    (hclimb : a.ramp.cruising = false) (hmiddle : a.progress.pastMiddle = false) (nowMs : Nat) :
    (a.nextRamp nowMs).cruising = true
      ∨ ((a.nextRamp nowMs).cruising = false ∧ a.ramp.current ≤ (a.nextRamp nowMs).current) := by
  unfold nextRamp
  dsimp only
  split
  · have hwithin := Ramp.cap_within h a.config.approachFreq a.progress.travelled
    rcases a.ramp.cap_cases a.config.approachFreq a.progress.travelled with hcap | ⟨hcruise, _⟩
    · rw [hcap]
      exact Ramp.update_climbs h hhi hclimb hmiddle nowMs
    · obtain ⟨_, hsame⟩ := Ramp.update_falls hwithin (Or.inl hcruise) nowMs
      exact Or.inl (hsame.trans hcruise)
  · exact Ramp.update_climbs h hhi hclimb hmiddle nowMs

/-! ## What is left alone during a move -/

/-- The operation sets up a move, or goes on with one. -/
def Operation.launches : Operation → Bool
  | apply c _ => c != .stop
  | resume _ _ => true
  | _ => false

/-- The course of a move stays as it is, but it may end. -/
structure KeepsCourse (a b : Axis) : Prop where
  mode : b.mode = a.mode ∨ b.mode = .stopped
  dir : b.dir = a.dir
  posCmd : b.posCmd = a.posCmd
  posMiddle : b.posMiddle = a.posMiddle
  toMiddle : b.halfStepsToMiddle = a.halfStepsToMiddle
  /-- The middle is not ahead again. -/
  past : a.halfStepsToMiddle < a.halfStepsCompleted → a.halfStepsToMiddle < b.halfStepsCompleted

/-- What is armed stays as well. -/
structure KeepsSpeed (a b : Axis) : Prop extends KeepsCourse a b where
  ramp : b.ramp = a.ramp
  writes : b.board.timer.writes = a.board.timer.writes

theorem KeepsCourse.trans {c : Axis} (h : a.KeepsCourse b) (h' : b.KeepsCourse c) :
    a.KeepsCourse c where
  mode := by
    rcases h'.mode with hsame | hends
    · rw [hsame]
      exact h.mode
    · exact Or.inr hends
  dir := h'.dir.trans h.dir
  posCmd := h'.posCmd.trans h.posCmd
  posMiddle := h'.posMiddle.trans h.posMiddle
  toMiddle := h'.toMiddle.trans h.toMiddle
  past hpast := h.toMiddle ▸ h'.past (h.toMiddle ▸ h.past hpast)

theorem keepsSpeed_observe (a : Axis) : a.KeepsSpeed a.observe := by
  obtain ⟨_, _, _, hobs⟩ := observe_eq a
  rw [hobs]
  exact ⟨⟨Or.inl rfl, rfl, rfl, rfl, rfl, id⟩, rfl, rfl⟩

theorem keepsSpeed_halt (a : Axis) : a.KeepsSpeed a.halt :=
  ⟨⟨Or.inr rfl, rfl, rfl, rfl, rfl, id⟩, rfl, rfl⟩

/-- The half-steps are counted far enough to tell that the middle is past. -/
theorem keepsSpeed_stepped (hfew : a.halfStepsToMiddle < Count.limit) (n : Nat) :
    a.KeepsSpeed (a.stepped n) := by
  refine ⟨⟨Or.inl rfl, rfl, rfl, rfl, rfl, fun hpast => ?_⟩, rfl, rfl⟩
  show a.halfStepsToMiddle < min (a.halfStepsCompleted + 1) Count.limit
  omega

theorem keepsSpeed_stop (a : Axis) : a.KeepsSpeed a.stop.axis := by
  rcases stop_cases a with ⟨_, heq, _⟩ | ⟨_, heq, _⟩ <;> rw [heq]
  · exact ⟨⟨Or.inl rfl, rfl, rfl, rfl, rfl, id⟩, rfl, rfl⟩
  · exact ⟨⟨Or.inr rfl, rfl, rfl, rfl, rfl, id⟩, rfl, rfl⟩

/-- **Only a launch and a timer match have a say in the speed.** -/
theorem keepsSpeed_perform (a : Axis) {o : Operation} (ho : o.launches = false)
    (htick : ∀ nowMs, o ≠ .tick nowMs) : a.KeepsSpeed (a.perform o).1 := by
  cases o with
  | apply c nowMs =>
      obtain rfl : c = .stop := by simpa [Operation.launches] using ho
      exact keepsSpeed_stop a
  | beginDirectionChange c =>
      rcases beginDirectionChange_cases a c with ⟨_, h | h, _⟩ | ⟨_, _, h | h⟩ <;>
        simp only [perform, h] <;> exact ⟨⟨Or.inl rfl, rfl, rfl, rfl, rfl, id⟩, rfl, rfl⟩
  | tick nowMs => exact absurd rfl (htick nowMs)
  | stop => exact keepsSpeed_stop a
  | resume epoch nowMs => exact absurd ho (by simp [Operation.launches])
  | tripStall => exact ⟨⟨Or.inr rfl, rfl, rfl, rfl, rfl, id⟩, rfl, rfl⟩
  | inspect note =>
      obtain ⟨b, _, _, hb, h⟩ := inspect_cases a note
      simp only [perform, h]
      rcases hb with rfl | rfl
      · exact ⟨⟨Or.inl rfl, rfl, rfl, rfl, rfl, id⟩, rfl, rfl⟩
      · exact ⟨⟨Or.inr rfl, rfl, rfl, rfl, rfl, id⟩, rfl, rfl⟩
  | _ => exact ⟨⟨Or.inl rfl, rfl, rfl, rfl, rfl, id⟩, rfl, rfl⟩

/-! ## Past the middle -/

/-- The middle of the way is past wherever the encoder reads next on this side of the setpoint,
unless that is farther away from the setpoint than it can reach. -/
def Beyond (a : Axis) (reach : Nat) : Prop :=
  a.mode ≠ .stopped → ∀ pos, (a.mode = .closedLoop → (a.posCmd - pos).natAbs ≤ reach) →
    ({ a with posAct := pos } : Axis).overshot = false →
    ({ a with posAct := pos } : Axis).progress.pastMiddle = true

/-- **A way that is past its middle stays past it.** -/
theorem beyond_of_past (hpast : a.progress.pastMiddle = true) (hover : a.overshot = false) :
    a.Beyond (a.posCmd - a.posAct).natAbs := by
  intro _ pos hreach hover'
  unfold progress at hpast ⊢
  unfold overshot positionError at hover hover'
  cases hm : a.mode with
  | closedLoop =>
      have hnear := hreach hm
      simp only [hm, beq_self_eq_true, Bool.true_and, bne_eq_false_iff_eq, Position.ofError_sub]
        at hpast hover hover' ⊢
      -- the axis faces the setpoint from both positions, so that they are on the same side of it
      cases hd : a.dir with
      | clockwise =>
          rw [hd] at hpast hover hover'
          have hbefore : a.posCmd < a.posAct := Decidable.by_contra fun h => by simp [h] at hover
          have hafter : a.posCmd < pos := Decidable.by_contra fun h => by simp [h] at hover'
          have hmiddle := of_decide_eq_true hpast
          exact decide_eq_true (by omega)
      | counterClockwise =>
          rw [hd] at hpast hover hover'
          have hbefore : ¬ a.posCmd < a.posAct := fun h => by simp [h] at hover
          have hafter : ¬ a.posCmd < pos := fun h => by simp [h] at hover'
          have hmiddle := of_decide_eq_true hpast
          exact decide_eq_true (by omega)
  | _ =>
      simp only [hm] at hpast ⊢
      exact hpast

theorem Beyond.keeps (h : a.Beyond reach) (hk : a.KeepsCourse b) : b.Beyond reach := by
  intro hm pos hreach hover
  have hmode : b.mode = a.mode := hk.mode.resolve_right hm
  have hover' : ({ a with posAct := pos } : Axis).overshot = false := by
    rw [← hover]
    unfold overshot positionError
    simp only [hmode, hk.dir, hk.posCmd]
  have hpast := h (hmode ▸ hm) pos (fun hc => hk.posCmd ▸ hreach (hmode.trans hc)) hover'
  unfold progress at hpast ⊢
  cases hc : a.mode with
  | closedLoop =>
      simp only [hmode, hc, hk.dir, hk.posMiddle] at hpast ⊢
      exact hpast
  | _ =>
      simp only [hmode, hc, hk.toMiddle] at hpast ⊢
      exact decide_eq_true (hk.past (of_decide_eq_true hpast))

theorem Beyond.nearer {reach' : Nat} (h : a.Beyond reach)
    (hnear : a.mode = .closedLoop → reach' ≤ reach) : a.Beyond reach' :=
  fun hm pos hreach => h hm pos fun hc => Nat.le_trans (hreach hc) (hnear hc)

/-! ## The profile of a move -/

/-- What was armed so far, newest first: a rise that may go on, or a rise and a fall that may. -/
inductive Shaped (a : Axis) (reach : Nat) : List Nat → Prop where
  | rising {rise : List Nat} (hclimb : a.ramp.cruising = false) (hrise : rise.Pairwise (· ≥ ·))
      (htop : ∀ freq ∈ rise, freq ≤ a.ramp.current) : Shaped a reach rise
  | falling {rise fall : List Nat} (hover : a.ramp.cruising = true ∨ a.Beyond reach)
      (hrise : rise.Pairwise (· ≥ ·)) (hfall : fall.Pairwise (· ≤ ·))
      (hbottom : ∀ freq ∈ fall, a.ramp.current ≤ freq) : Shaped a reach (fall ++ rise)

/-- What the shape depends on is the ramp, and that the middle stays past. -/
theorem Shaped.imp {freqs : List Nat} {reach' : Nat} (h : a.Shaped reach freqs)
    (hramp : b.ramp = a.ramp) (hbeyond : a.Beyond reach → b.Beyond reach') :
    b.Shaped reach' freqs := by
  cases h with
  | rising hclimb hrise htop => exact .rising (hramp ▸ hclimb) hrise (hramp ▸ htop)
  | falling hover hrise hfall hbottom =>
      exact .falling (hover.imp (fun hc => hramp ▸ hc) hbeyond) hrise hfall (hramp ▸ hbottom)

theorem Shaped.unimodal {freqs : List Nat} (h : a.Shaped reach freqs) : Unimodal freqs.reverse := by
  cases h with
  | rising _ hrise _ =>
      exact ⟨freqs.reverse, [], (List.append_nil _).symm, List.pairwise_reverse.mpr hrise, .nil⟩
  | @falling rise fall _ hrise hfall _ =>
      exact ⟨rise.reverse, fall.reverse, List.reverse_append, List.pairwise_reverse.mpr hrise,
        List.pairwise_reverse.mpr hfall⟩

/-- A move on which all of this was written to the timer, on top of what had been written before. -/
structure Profile (old new : List FreqWrite) (a : Axis) (lo hi reach : Nat) : Prop where
  writes : a.board.timer.writes = new ++ old
  within : a.ramp.Within lo hi
  values : ∀ w ∈ new, lo ≤ w.hz ∧ w.hz ≤ hi
  shaped : a.Shaped reach (new.map (·.hz))
  /-- The half-steps can be counted beyond the middle. -/
  middle : a.halfStepsToMiddle < Count.limit

variable {old new : List FreqWrite} {nowMs : Nat}

theorem Profile.keeps (h : Profile old new a lo hi reach) (hk : a.KeepsSpeed b) :
    Profile old new b lo hi reach where
  writes := hk.writes.trans h.writes
  within := hk.ramp ▸ h.within
  values := h.values
  shaped := h.shaped.imp hk.ramp fun hb => hb.keeps hk.toKeepsCourse
  middle := hk.toMiddle ▸ h.middle

theorem Profile.nearer {reach' : Nat} (h : Profile old new a lo hi reach)
    (hnear : a.mode = .closedLoop → reach' ≤ reach) : Profile old new a lo hi reach' where
  writes := h.writes
  within := h.within
  values := h.values
  shaped := h.shaped.imp rfl fun hb => hb.nearer hnear
  middle := h.middle

/-- **The next frequency continues the rise or the fall.** -/
theorem Shaped.ramped {freqs : List Nat} (h : a.Shaped (a.posCmd - a.posAct).natAbs freqs)
    (hwithin : a.ramp.Within lo hi) (hhi : hi ≤ Count.limit) (hm : a.mode ≠ .stopped)
    (hover : a.overshot = false) (nowMs : Nat) : (a.ramped nowMs).Shaped
      (a.posCmd - a.posAct).natAbs ((a.nextRamp nowMs).current :: freqs) := by
  have hbeyond : a.progress.pastMiddle = true →
      (a.ramped nowMs).Beyond (a.posCmd - a.posAct).natAbs :=
    fun hpast => beyond_of_past hpast hover
  cases h with
  | rising hclimb hrise htop =>
      -- whatever ends the climb, the fall begins with this frequency
      have hends : (a.nextRamp nowMs).cruising = true
            ∨ (a.ramped nowMs).Beyond (a.posCmd - a.posAct).natAbs →
          (a.ramped nowMs).Shaped (a.posCmd - a.posAct).natAbs
            ([(a.nextRamp nowMs).current] ++ freqs) :=
        fun hend => .falling hend hrise (List.pairwise_singleton ..) fun freq hfreq =>
          Nat.le_of_eq (List.mem_singleton.mp hfreq).symm
      cases hpast : a.progress.pastMiddle with
      | true => exact hends (Or.inr (hbeyond hpast))
      | false =>
          rcases nextRamp_climbs hwithin hhi hclimb hpast nowMs with hcruise | ⟨hclimb', hup⟩
          · exact hends (Or.inl hcruise)
          · have htop' : ∀ freq ∈ freqs, freq ≤ (a.nextRamp nowMs).current :=
              fun freq hfreq => Nat.le_trans (htop freq hfreq) hup
            exact .rising hclimb' (List.pairwise_cons.mpr ⟨htop', hrise⟩)
              (List.forall_mem_cons.mpr ⟨Nat.le_refl _, htop'⟩)
  | @falling rise fall hend hrise hfall hbottom =>
      have hpast : a.ramp.cruising = true ∨ a.progress.pastMiddle = true :=
        hend.imp_right fun hb => hb hm a.posAct (fun _ => Nat.le_refl _) hover
      obtain ⟨hdown, hstays⟩ := nextRamp_falls hwithin hpast nowMs
      have hbottom' : ∀ freq ∈ fall, (a.nextRamp nowMs).current ≤ freq :=
        fun freq hfreq => Nat.le_trans hdown (hbottom freq hfreq)
      exact @Shaped.falling _ _ rise (_ :: fall) (hend.imp hstays id) hrise
        (List.pairwise_cons.mpr ⟨hbottom', hfall⟩)
        (List.forall_mem_cons.mpr ⟨Nat.le_refl _, hbottom'⟩)

theorem Profile.ramped (h : Profile old new a lo hi (a.posCmd - a.posAct).natAbs)
    (hhi : hi ≤ Count.limit) (hm : a.mode ≠ .stopped) (hover : a.overshot = false) (nowMs : Nat) :
    ∃ w, Profile old (w :: new) (a.ramped nowMs) lo hi (a.posCmd - a.posAct).natAbs := by
  have hnext := nextRamp_within h.within hhi nowMs
  refine ⟨⟨(a.nextRamp nowMs).current, a.board.timer.accepts (a.nextRamp nowMs).current⟩, ?_, hnext,
    List.forall_mem_cons.mpr ⟨hnext.current, h.values⟩,
    h.shaped.ramped h.within hhi hm hover nowMs, h.middle⟩
  show (writtenTimer a.board.timer _).writes = _
  rw [writtenTimer_writes, h.writes]
  rfl

/-- **A timer match continues the profile of its move,** and the encoder is expected to stay as near
to the setpoint as it has come. -/
theorem Profile.tick {r : Except Fault (Option Notification)} (h : Profile old new a lo hi reach)
    (hhi : hi ≤ Count.limit) (hm : a.mode ≠ .stopped)
    (hnear : a.mode = .closedLoop → (a.posCmd - a.board.position).natAbs ≤ reach)
    (hserved : a.Served nowMs b r) : a.KeepsCourse b
      ∧ ∃ new', Profile old new' b lo hi (a.posCmd - a.board.position).natAbs := by
  have hlook := a.keepsSpeed_observe
  have hsight : a.observe.posCmd - a.observe.posAct = a.posCmd - a.board.position
      ∧ a.observe.mode = a.mode := by
    obtain ⟨_, _, _, hobs⟩ := observe_eq a
    rw [hobs]
    exact ⟨rfl, rfl⟩
  obtain ⟨hdistance, hmode⟩ := hsight
  have hseen := (h.nearer hnear).keeps hlook
  rw [← hdistance] at hseen ⊢
  have hramped := fun hover => hseen.ramped hhi (hmode ▸ hm) hover nowMs
  have hcourse : a.KeepsCourse (a.observe.ramped nowMs) :=
    hlook.toKeepsCourse.trans ⟨Or.inl rfl, rfl, rfl, rfl, rfl, id⟩
  cases hserved with
  | idle hstill => exact absurd hstill hm
  | arrived _ _ =>
      have hhalt := a.observe.keepsSpeed_halt
      exact ⟨hlook.toKeepsCourse.trans hhalt.toKeepsCourse, new, hseen.keeps hhalt⟩
  | overshot _ _ _ =>
      have hstop : a.observe.KeepsSpeed a.observe.stopTimer :=
        ⟨⟨Or.inl rfl, rfl, rfl, rfl, rfl, id⟩, rfl, rfl⟩
      exact ⟨hlook.toKeepsCourse.trans hstop.toKeepsCourse, new, hseen.keeps hstop⟩
  | refused _ _ hover _ _ =>
      obtain ⟨w, hnext⟩ := hramped hover
      have hhalt := (a.observe.ramped nowMs).keepsSpeed_halt
      exact ⟨hcourse.trans hhalt.toKeepsCourse, w :: new, hnext.keeps hhalt⟩
  | @stepped _ n _ _ _ hover hb _ =>
      rcases hb with ⟨_, rfl⟩ | ⟨_, _, rfl⟩
      · have hstep := keepsSpeed_stepped hseen.middle n
        exact ⟨hlook.toKeepsCourse.trans hstep.toKeepsCourse, new, hseen.keeps hstep⟩
      · obtain ⟨w, hnext⟩ := hramped hover
        have hstep := keepsSpeed_stepped hnext.middle n
        exact ⟨hcourse.trans hstep.toKeepsCourse, w :: new, hnext.keeps hstep⟩

/-! ## A whole move -/

/-- What the encoder reads at a timer match, unless the axis is at rest. -/
def reading? (a : Axis) : Operation → Option Int
  | .tick _ => if a.mode.isMoving then some a.board.position else none
  | _ => none

/-- What the encoder reads at the timer matches of a move. -/
def readings (a : Axis) : List Operation → List Int
  | [] => []
  | o :: ops => (a.reading? o).toList ++ (a.perform o).1.readings ops

theorem Profile.perform {o : Operation} (h : Profile old new a lo hi reach) (hhi : hi ≤ Count.limit)
    (ho : o.launches = false)
    (hnear : a.mode = .closedLoop → ∀ pos ∈ a.reading? o, (a.posCmd - pos).natAbs ≤ reach) :
    a.KeepsCourse (a.perform o).1 ∧ ∃ new', Profile old new' (a.perform o).1 lo hi
      ((a.reading? o).elim reach fun pos => (a.posCmd - pos).natAbs) := by
  by_cases htick : ∃ nowMs, o = .tick nowMs
  · obtain ⟨nowMs, rfl⟩ := htick
    by_cases hm : a.mode = .stopped
    · have hnone : a.reading? (.tick nowMs) = none := by simp [reading?, Mode.isMoving, hm]
      simp only [Axis.perform, tick_stopped hm, hnone, Option.elim]
      exact ⟨⟨Or.inl rfl, rfl, rfl, rfl, rfl, id⟩, new, h⟩
    · have hread : a.reading? (.tick nowMs) = some a.board.position := by
        simp [reading?, Mode.isMoving, hm]
      rw [hread] at hnear ⊢
      exact h.tick hhi hm (fun hc => hnear hc _ rfl) (tick_served a nowMs)
  · have hkeeps := a.keepsSpeed_perform ho fun nowMs heq => htick ⟨nowMs, heq⟩
    have hnone : a.reading? o = none := by
      unfold reading?
      split
      · exact absurd ⟨_, rfl⟩ htick
      · rfl
    rw [hnone]
    exact ⟨hkeeps.toKeepsCourse, new, h.keeps hkeeps⟩

/-- **A move keeps its profile until it ends,** if the encoder never moves away from its
setpoint. -/
theorem Profile.run {ops : List Operation} (h : Profile old new a lo hi reach)
    (hhi : hi ≤ Count.limit) (hops : ∀ o ∈ ops, o.launches = false)
    (hread : a.mode = .closedLoop → NeverRecedes a.posCmd (a.readings ops)
      ∧ ∀ pos ∈ a.readings ops, (a.posCmd - pos).natAbs ≤ reach) :
    ∃ new' reach', Profile old new' (a.after ops) lo hi reach' := by
  induction ops generalizing a new reach with
  | nil => exact ⟨new, reach, h⟩
  | cons o ops ih =>
      obtain ⟨ho, hops⟩ := List.forall_mem_cons.mp hops
      have hnear : a.mode = .closedLoop →
          ∀ pos ∈ a.reading? o, (a.posCmd - pos).natAbs ≤ reach := fun hc pos hpos =>
        (hread hc).2 pos (List.mem_append_left _ (Option.mem_toList.mpr hpos))
      obtain ⟨hcourse, new', hnext⟩ := h.perform hhi ho hnear
      refine ih hnext hops fun hc => ?_
      have hsame := hcourse.mode.resolve_right (by simp [hc])
      obtain ⟨hrecedes, hreach⟩ := hread (hsame.symm.trans hc)
      rw [hcourse.posCmd]
      -- the next readings are to be measured by this one, if there is one
      rw [readings] at hrecedes hreach
      cases hpos : a.reading? o with
      | none =>
          rw [hpos] at hrecedes hreach
          exact ⟨hrecedes, hreach⟩
      | some pos =>
          rw [hpos] at hrecedes
          obtain ⟨hlater, hrest⟩ := List.pairwise_cons.mp hrecedes
          exact ⟨hrest, hlater⟩

/-- The operations by which an axis is sent on a move with a ramp, and the frequency that is
requested for it. -/
inductive Ramps (a : Axis) : Operation → Nat → Prop where
  | steps {d : Direction} {level count periodMs divisor nowMs top : Nat}
      (hlevel : a.config.freeRunFreq level = .ok (some top)) :
      Ramps a (.apply (.steps d level count periodMs divisor) nowMs) top
  | seeks {setpoint : Int} {o : Operation} (ho : a.Seeks setpoint o)
      (hcount : a.config.closedLoopMaxFreq ≤ Count.limit) : Ramps a o a.config.closedLoopMaxFreq

/-- A plan with a ramp that climbs to a frequency. -/
structure Plan.Climbs (p : Plan) (top : Nat) : Prop where
  requested : p.ramp.requested = top
  climbs : p.ramp.cruising = false
  within : p.ramp.Within p.ramp.decrement top
  middle : p.toMiddle < Count.limit

theorem stepsPlan_climbs (a : Axis) (d : Direction) (top periodMs divisor nowMs : Nat) {count : Nat}
    (hcount : count ≤ maxStepCount) :
    (a.stepsPlan d top (count * 2) periodMs divisor nowMs).Climbs top := by
  refine ⟨rfl, rfl, Ramp.trapezoid_within_self .., ?_⟩
  show count * 2 / 2 < Count.limit
  unfold maxStepCount at hcount
  unfold Count.limit
  omega

theorem closedLoopPlan_climbs (a : Axis) (setpoint : Int) (nowMs : Nat) :
    (a.closedLoopPlan setpoint nowMs).Climbs a.config.closedLoopMaxFreq :=
  ⟨rfl, rfl, firstFreq_within a setpoint nowMs (Ramp.trapezoid_within_self ..), Nat.succ_pos _⟩

/-- A move with a ramp begins with one frequency. -/
theorem profile_of_carried {c : Command} {r : Except Failure Outcome} {top freq : Nat}
    (hc : a.Carried nowMs c b r) (hr : r = .ok (.started freq))
    (hplans : ∀ p, a.Plans nowMs c p → p.Climbs top) : b.ramp.requested = top
      ∧ ∀ reach, Profile a.board.timer.writes [⟨freq, true⟩] b b.ramp.decrement top reach := by
  cases hc with
  | @launched p line hp _ =>
      have hclimbs := hplans p hp
      rcases launch_cases (a.setUp p).nextEpoch p.ramp.current line with
        ⟨_, hans, _⟩ | ⟨_, _, hans, _⟩ | ⟨_, _, hans, hb⟩
      · exact absurd (hans.symm.trans hr) (by simp)
      · exact absurd (hans.symm.trans hr) (by simp)
      · have hanswer := Except.ok.inj (hans.symm.trans hr)
        obtain rfl : p.ramp.current = freq := Outcome.started.inj hanswer
        rw [hb]
        refine ⟨hclimbs.requested, fun reach => ⟨rfl, hclimbs.within, fun w hw => ?_, ?_,
          hclimbs.middle⟩⟩
        · rw [List.mem_singleton.mp hw]
          exact hclimbs.within.current
        · exact .rising hclimbs.climbs (List.pairwise_singleton ..) fun freq hfreq =>
            Nat.le_of_eq (List.mem_singleton.mp hfreq)
  | failed _ _ _ => exact absurd hr (by simp)
  | arrived _ _ => exact absurd hr (by simp)
  | stopped _ =>
      rcases stop_cases a with ⟨_, _, h⟩ | ⟨_, _, h⟩ <;> rw [h] at hr <;> exact absurd hr (by simp)

/-- **A move with a ramp begins to climb to the requested frequency.** -/
theorem profile_of_started {o : Operation} {top freq : Nat} (ho : a.Ramps o top)
    (hstarted : (a.perform o).2.started? = some freq) :
    top ≤ Count.limit ∧ (a.perform o).1.ramp.requested = top
      ∧ ∀ reach, Profile a.board.timer.writes [⟨freq, true⟩] (a.perform o).1
        (a.perform o).1.ramp.decrement top reach := by
  cases ho with
  | @steps d level count periodMs divisor nowMs _ hlevel =>
      have hanswer := started_outcome.mp hstarted
      rcases apply_cases a (.steps d level count periodMs divisor) nowMs with
        ⟨e, _, heq⟩ | ⟨hvalid, hcarried⟩
      · rw [heq] at hanswer
        exact absurd hanswer (by simp)
      · have hcount := (checkSteps_ok.mp (validate_ok.mp hvalid).2).2
        refine ⟨MotionConfig.freeRunFreq_le hlevel,
          profile_of_carried hcarried hanswer fun p hp => ?_⟩
        cases hp with
        | steps hlevel' =>
            obtain rfl := Option.some.inj (Except.ok.inj (hlevel.symm.trans hlevel'))
            exact a.stepsPlan_climbs d top periodMs divisor nowMs hcount
  | @seeks setpoint _ hseeks hcount =>
      obtain ⟨nowMs, r, hcarried, hsame⟩ := seeks_carried hseeks
      have hanswer := started_outcome.mp (hsame.symm.trans hstarted)
      refine ⟨hcount, profile_of_carried hcarried hanswer fun p hp => ?_⟩
      cases hp with
      | closedLoop _ => exact a.closedLoopPlan_climbs setpoint nowMs

/-- The frequencies that the timer is armed with in the course of some operations, in order. -/
def armed (a : Axis) (ops : List Operation) : List Nat :=
  ((((a.after ops).board.since a.board).written.filter (·.accepted)).map (·.hz)).reverse

theorem armed_cons (a : Axis) (o : Operation) (ops : List Operation) :
    a.armed (o :: ops) = a.armed [o] ++ (a.perform o).1.armed ops := by
  have hwritten : ((a.after (o :: ops)).board.since a.board).written
      = (((a.perform o).1.after ops).board.since (a.perform o).1.board).written
        ++ ((a.perform o).1.board.since a.board).written :=
    Board.since_mono (a.writes_after [o]) ((a.perform o).1.writes_after ops)
  unfold armed
  rw [hwritten, List.filter_append, List.map_append, List.reverse_append]
  rfl

/-- **The speed of a move rises, and then it falls.** All that is armed from the start of a move by
steps, or of a closed-loop move that never moves away from its setpoint, until the next move is a
rise followed by a fall, beginning with the frequency that the start is answered with. It is never
less than what a period of braking takes away, and never more than what is requested. -/
theorem speed_unimodal {o : Operation} {ops : List Operation} {top freq : Nat} (ho : a.Ramps o top)
    (hstarted : (a.perform o).2.started? = some freq) (hops : ∀ o' ∈ ops, o'.launches = false)
    (hread : (a.perform o).1.mode = .closedLoop →
      NeverRecedes (a.perform o).1.posCmd ((a.perform o).1.readings ops)) :
    (a.perform o).1.ramp.requested = top
      ∧ (∃ rest, a.armed (o :: ops) = freq :: rest)
      ∧ Unimodal (a.armed (o :: ops))
      ∧ ∀ hz ∈ a.armed (o :: ops), (a.perform o).1.ramp.decrement ≤ hz ∧ hz ≤ top := by
  obtain ⟨hlimit, hrequested, hbegin⟩ := profile_of_started ho hstarted
  have hfirst : a.armed [o] = [freq] := by
    have hwritten : ((a.after [o]).board.since a.board).written = [⟨freq, true⟩] :=
      Board.since_of_suffix (hbegin 0).writes.symm
    unfold armed
    rw [hwritten]
    rfl
  obtain ⟨reach, hreach⟩ : ∃ reach, (a.perform o).1.mode = .closedLoop →
      NeverRecedes (a.perform o).1.posCmd ((a.perform o).1.readings ops)
      ∧ ∀ pos ∈ (a.perform o).1.readings ops, ((a.perform o).1.posCmd - pos).natAbs ≤ reach := by
    by_cases hc : (a.perform o).1.mode = .closedLoop
    · obtain ⟨reach, hreach⟩ := (hread hc).bounded
      exact ⟨reach, fun _ => ⟨hread hc, hreach⟩⟩
    · exact ⟨0, fun hc' => absurd hc' hc⟩
  obtain ⟨new, _, hprofile⟩ := (hbegin reach).run hlimit hops hreach
  have hnew : ((a.after (o :: ops)).board.since a.board).written = new :=
    Board.since_of_suffix hprofile.writes.symm
  refine ⟨hrequested, ⟨_, by rw [armed_cons, hfirst]; rfl⟩, ?_, fun hz hmem => ?_⟩
  · -- what was refused is left out, which leaves the shape as it is
    unfold armed
    rw [hnew]
    exact hprofile.shaped.unimodal.sublist ((List.filter_sublist.map _).reverse)
  · unfold armed at hmem
    rw [hnew, List.mem_reverse, List.mem_map] at hmem
    obtain ⟨w, hw, rfl⟩ := hmem
    exact hprofile.values w (List.mem_filter.mp hw).1

/-- An axis with a controller and a short approach. -/
def tracking : Axis :=
  create 0 ⟨"x", 0, some {}⟩ {} { approachThreshold := 4, posThreshold := 2, approachFreq := 30000 }

/-- A climb that is cut short at the middle, and a fall that the approach makes steeper. -/
theorem speed_unimodal_of_tracking :
    tracking.Ramps (.apply (.closedLoop (-9)) 0) 125000
      ∧ (tracking.perform (.apply (.closedLoop (-9)) 0)).2.started? = some 12500
      ∧ (∀ o ∈ ticks (60 * ·) 17, o.launches = false)
      ∧ NeverRecedes (tracking.perform (.apply (.closedLoop (-9)) 0)).1.posCmd
        ((tracking.perform (.apply (.closedLoop (-9)) 0)).1.readings (ticks (60 * ·) 17))
      ∧ tracking.armed (.apply (.closedLoop (-9)) 0 :: ticks (60 * ·) 17)
        = [12500, 20000, 27500, 35000, 42500, 50000, 57500, 65000, 72500, 70000, 67500, 27500,
          25000, 22500, 20000]
      ∧ Unimodal (tracking.armed (.apply (.closedLoop (-9)) 0 :: ticks (60 * ·) 17)) := by
  have ho : tracking.Ramps (.apply (.closedLoop (-9)) 0) 125000 := .seeks .apply (by decide)
  have hstarted : (tracking.perform (.apply (.closedLoop (-9)) 0)).2.started? = some 12500 := by
    decide +kernel
  have hops : ∀ o ∈ ticks (60 * ·) 17, o.launches = false := by decide
  have hread : NeverRecedes (tracking.perform (.apply (.closedLoop (-9)) 0)).1.posCmd
      ((tracking.perform (.apply (.closedLoop (-9)) 0)).1.readings (ticks (60 * ·) 17)) := by
    decide +kernel
  exact ⟨ho, hstarted, hops, hread, by decide +kernel,
    (speed_unimodal ho hstarted hops fun _ => hread).2.2.1⟩

end Axis

end StepperMotion
