import StepperMotion.Proofs.Reliable
import StepperMotion.Proofs.Stall

/-!
# Every move has one ending

A timer match makes one half-step and leaves the timer running, or it makes none, stops the timer and
reports why. The timer is started in new epochs only, so there is one such report in an epoch at most.
And the supervisor does not find a stall in a move that has arrived, for by then the axis is stopped,
nor does a move arrive after a stall.

The last holds as long as no computation fails (`one_ending`). A controller that fails does so when a
closed-loop move has been set up, in the epoch of the move before. If that one had arrived and the
supervisor has not yet been told, it finds a stall in the reports of a move that is over
(`stalled_and_reached`).
-/

namespace StepperMotion

open Axis (Operation)

/-- A move is over for good, and not only interrupted. -/
def NotificationKind.isArrival : NotificationKind → Bool
  | completed | timerFault => true
  | progress | overshoot => false

/-- A move has been found to be over for good. -/
def Verdict.isArrival : Verdict → Bool
  | reached | timerFault => true
  | _ => false

namespace Axis

/-! ## One half-step, or none -/

/-- A timer match has made a half-step, and the next one will follow. -/
structure Advances (a b : Axis) (note? : Option Notification) : Prop where
  toggles : b.board.toggles = a.board.toggles + 1
  level : b.board.stepLevel = !a.board.stepLevel
  runs : b.isRunning = true
  /-- Progress is reported at most. -/
  report : ∀ note, note? = some note → note.kind = .progress

/-- A timer match has made no half-step, and there is no next one. -/
structure Ends (a b : Axis) (note? : Option Notification) : Prop where
  toggles : b.board.toggles = a.board.toggles
  level : b.board.stepLevel = a.board.stepLevel
  rests : b.isRunning = false
  /-- The end of the move is reported. -/
  report : ∃ note, note? = some note ∧ note.kind.isTerminal = true

/-- Only the board matters. -/
theorem Advances.sameBoard {a b b' : Axis} {note? : Option Notification} (h : a.Advances b note?)
    (hboard : b'.board = b.board) : a.Advances b' note? := by
  refine ⟨?_, ?_, ?_, h.report⟩
  · rw [hboard, h.toggles]
  · rw [hboard, h.level]
  · rw [isRunning, hboard]
    exact h.runs

theorem Ends.sameBoard {a b b' : Axis} {note? : Option Notification} (h : a.Ends b note?)
    (hboard : b'.board = b.board) : a.Ends b' note? := by
  refine ⟨?_, ?_, ?_, h.report⟩
  · rw [hboard, h.toggles]
  · rw [hboard, h.level]
  · rw [isRunning, hboard]
    exact h.rests

/-- **A timer match of a running axis makes one half-step, or it makes none and ends the move.** -/
theorem advances_or_ends {a b : Axis} {nowMs : Nat} {r : Except Fault (Option Notification)}
    (hserved : a.Served nowMs b r) (hcoh : a.Coherent) (hpaced : a.Paced)
    (hlimit : a.config.reportInterval ≤ Count.limit) (hrun : a.isRunning = true) :
    ∃ note?, r = .ok note? ∧ (a.Advances b note? ∨ a.Ends b note?) := by
  obtain ⟨_, _, _, hobs⟩ := observe_eq a
  have hlook : a.observe.board = a.board ∧ a.observe.config = a.config := by
    rw [hobs]
    exact ⟨rfl, rfl⟩
  have htoggles : a.observe.board.toggles = a.board.toggles := congrArg Board.toggles hlook.1
  have hlevel : a.observe.board.stepLevel = a.board.stepLevel := congrArg Board.stepLevel hlook.1
  have hpulses := hpaced.observe
  cases hserved with
  | idle hm => exact absurd hm (hcoh.moving hrun)
  | arrived _ _ => exact ⟨_, rfl, Or.inr ⟨htoggles, hlevel, rfl, _, rfl, rfl⟩⟩
  | overshot _ _ _ => exact ⟨_, rfl, Or.inr ⟨htoggles, hlevel, rfl, _, rfl, rfl⟩⟩
  | refused _ _ _ _ _ => exact ⟨_, rfl, Or.inr ⟨htoggles, hlevel, rfl, _, rfl, rfl⟩⟩
  | @stepped b n _ _ _ _ hb hcounts =>
      have hbefore : b.Paced ∧ b.config = a.config ∧ b.board.toggles = a.board.toggles
          ∧ b.board.stepLevel = a.board.stepLevel ∧ b.isRunning = true := by
        rcases hb with ⟨_, rfl⟩ | ⟨_, _, rfl⟩
        · exact ⟨hpulses, hlook.2, htoggles, hlevel, (congrArg isRunning hobs).trans hrun⟩
        · have hruns : a.observe.isRunning = true := (congrArg isRunning hobs).trans hrun
          exact ⟨hpulses.same rfl rfl, hlook.2, htoggles, hlevel,
            (writtenTimer_running ..).trans hruns⟩
      obtain ⟨hp, hconfig, ht, hl, hr⟩ := hbefore
      have hstep : ∀ note?, (∀ note, note? = some note → note.kind = .progress) →
          a.Advances (b.stepped n) note? :=
        fun note? hnote => ⟨congrArg (· + 1) ht, congrArg (!·) hl, hr, hnote⟩
      obtain ⟨_, rfl⟩ := hp.counts (hconfig ▸ hlimit) hcounts
      cases hcounts with
      | goesOn _ => exact ⟨none, rfl, Or.inl (hstep none (by simp))⟩
      | reports => exact ⟨_, rfl, Or.inl (hstep _ fun note hn => Option.some.inj hn ▸ rfl)⟩

/-! ## A stopped axis -/

theorem stopped_effect {a b : Axis} {o : Operation} {f? : Option Fault} (hm : a.mode = .stopped)
    (h : a.Effect o b f?) (hf : f? = none) : b.mode = .stopped ∨ b.epoch ≠ a.epoch := by
  cases h with
  | @carried _ nowMs c b r hc =>
      by_cases hstop : c = .stop
      · subst hstop
        cases hc with
        | launched hp _ => exact absurd hp (by rintro ⟨⟩)
        | failed hp _ _ => exact absurd hp (by rintro ⟨⟩)
        | arrived hc _ => exact absurd hc (by simp)
        | stopped _ => exact Or.inl (stop_mode a)
      · exact Or.inr (epoch_ne_of_next (renews_carried hc hstop hf).epoch)
  | served hserved =>
      cases hserved with
      | idle _ => exact Or.inl hm
      | arrived hmove _ => exact absurd hm hmove
      | overshot hcl _ _ => exact absurd (hm.symm.trans hcl) (by simp)
      | refused hmove _ _ _ _ => exact absurd hm hmove
      | stepped hmove _ _ _ _ => exact absurd hm hmove
  | halted hmove _ => exact absurd hm hmove
  | judged hb =>
      rcases hb with rfl | rfl
      · exact Or.inl hm
      · exact Or.inl rfl
  | tripped => exact Or.inl rfl
  | _ => exact Or.inl hm

/-- **Whatever is done to a stopped axis leaves it stopped or begins a new epoch,** if no computation
fails. -/
theorem stopped_perform {a : Axis} (hm : a.mode = .stopped) {o : Operation}
    (hf : (a.perform o).2.fault? = none) :
    (a.perform o).1.mode = .stopped ∨ (a.perform o).1.epoch ≠ a.epoch :=
  stopped_effect hm (effect_perform a o) hf

theorem stopped_after {a : Axis} (hm : a.mode = .stopped) {ops : List Operation}
    (hf : ∀ r ∈ a.replies ops, r.fault? = none) :
    (a.after ops).mode = .stopped ∨ 0 < a.bumps ops := by
  induction ops generalizing a with
  | nil => exact Or.inl hm
  | cons o ops ih =>
      have hhead : (a.perform o).2.fault? = none := hf _ (List.mem_cons_self ..)
      rw [bumps]
      rcases stopped_perform hm hhead with hstill | hnext
      · rcases ih hstill fun r hr => hf r (List.mem_cons_of_mem _ hr) with hend | hpos
        · exact Or.inl hend
        · exact Or.inr (by omega)
      · rw [if_neg hnext]
        exact Or.inr (by omega)

theorem bumps_le_length (a : Axis) (ops : List Operation) : a.bumps ops ≤ ops.length := by
  induction ops generalizing a with
  | nil => exact Nat.le_refl _
  | cons o ops ih =>
      have hrest := ih (a.perform o).1
      rw [bumps, List.length_cons]
      split <;> omega

/-! ## Moves that are over -/

/-- An axis that reports that its move is over was moving, and it has been stopped. -/
theorem stopped_of_arrival {a b : Axis} {nowMs : Nat} {note : Notification}
    (h : a.Served nowMs b (.ok (some note))) (hk : note.kind.isArrival = true) :
    a.mode ≠ .stopped ∧ b.mode = .stopped := by
  generalize hr : Except.ok (some note) = r at h
  cases h with
  | idle _ => exact absurd hr (by simp)
  | arrived hm _ => exact ⟨hm, rfl⟩
  | overshot _ _ _ =>
      obtain rfl := Option.some.inj (Except.ok.inj hr)
      exact absurd hk Bool.false_ne_true
  | refused hm _ _ _ _ => exact ⟨hm, rfl⟩
  | stepped _ _ _ _ hcounts =>
      rcases hcounts.reply with rfl | rfl | ⟨f, rfl⟩
      · exact absurd hr (by simp)
      · obtain rfl := Option.some.inj (Except.ok.inj hr)
        exact absurd hk Bool.false_ne_true
      · exact absurd hr (by simp)

/-- A move has been found to be over because it was reported to be. -/
theorem arrival_of_verdict {a : Axis} {note : Notification}
    (h : (a.inspect note).2.isArrival = true) : note.kind.isArrival = true := by
  cases hv : (a.inspect note).2 with
  | reached =>
      have hk := inspect_kind (k := .completed) (by rw [hv]; rfl)
      rw [hk]
      rfl
  | timerFault =>
      have hk := inspect_kind (k := .timerFault) (by rw [hv]; rfl)
      rw [hk]
      rfl
  | _ => exact absurd h (by simp [hv, Verdict.isArrival])

end Axis

/-- The report of a match may be parked, or counted as lost, besides. -/
theorem Machine.after_matchStrokes (m : Machine) (nowMs : Nat) (a : Axis) :
    ∃ parked dropped, a.after (m.matchStrokes nowMs a)
      = { (a.tick nowMs).1 with parked := parked, dropped := dropped } := by
  unfold matchStrokes
  split
  · split
    · exact ⟨_, _, rfl⟩
    · split <;> exact ⟨_, _, rfl⟩
  · exact ⟨_, _, rfl⟩

namespace Station

variable {s s₀ : Station} {j : Nat} {epoch : UInt32} {as : List Action} {a : Axis}

/-- An axis before and after an action at the end of a run. -/
theorem axis_next (ha : (s.run as).machine.axes[j]? = some a) (x : Action) :
    (s.run (as ++ [x])).machine.axes[j]? = some (a.after ((s.run as).strokes j a x)) := by
  rw [run_snoc]
  exact axis_act ha x

/-! ## What happens once in an epoch -/

/-- What happens in a run happens at one action of it. -/
theorem times_ne_zero {p : Station → Action → Bool} :
    s.times p as ≠ 0 ↔ ∃ us x vs, as = us ++ x :: vs ∧ p (s.run us) x = true := by
  induction as generalizing s with
  | nil => simp [times]
  | cons y as ih =>
      constructor
      · intro h
        cases hy : p s y with
        | true => exact ⟨[], y, as, rfl, hy⟩
        | false =>
            simp only [times, hy, Bool.false_eq_true, if_false, Nat.zero_add] at h
            obtain ⟨us, x, vs, rfl, hp⟩ := ih.mp h
            exact ⟨y :: us, x, vs, rfl, hp⟩
      · rintro ⟨us, x, vs, has, hp⟩
        rw [times]
        cases us with
        | nil =>
            obtain ⟨rfl, rfl⟩ := List.cons.inj has
            have hhead : p s y = true := hp
            simp [hhead]
        | cons z us =>
            obtain ⟨rfl, rfl⟩ := List.cons.inj has
            have htail := ih.mpr ⟨us, x, vs, rfl, hp⟩
            omega

/-- Two things that never happen at one action are counted one by one. -/
theorem times_or {p q : Station → Action → Bool}
    (hapart : ∀ s x, p s x = true → q s x = false) :
    s.times (fun s x => p s x || q s x) as = s.times p as + s.times q as := by
  induction as generalizing s with
  | nil => rfl
  | cons x as ih =>
      rw [times, times, times, ih]
      by_cases hp : p s x = true
      · simp only [hp, hapart s x hp, Bool.or_false, if_true, Bool.false_eq_true, if_false]
        omega
      · simp only [Bool.not_eq_true] at hp
        simp only [hp, Bool.false_or, Bool.false_eq_true, if_false]
        omega

/-- **What only happens to an axis that is not yet `Q`, and makes it so, happens once in an epoch,** if
an axis that is `Q` stays so for the rest of the epoch. -/
theorem once_in_epoch (hfresh : s₀.Fresh) {p : Station → Action → Bool} {Q : Axis → Prop}
    (hbumps : s₀.bumps j as < UInt32.size) (epoch : UInt32)
    (hnow : ∀ us x, us ++ [x] <+: as → p (s₀.run us) x = true →
      ∃ a b, (s₀.run us).machine.axes[j]? = some a
        ∧ (s₀.run (us ++ [x])).machine.axes[j]? = some b
        ∧ a.epoch = epoch ∧ ¬ Q a ∧ b.epoch = a.epoch ∧ Q b)
    (hkept : ∀ us x a b, us ++ [x] <+: as → (s₀.run us).machine.axes[j]? = some a →
      (s₀.run (us ++ [x])).machine.axes[j]? = some b → b.epoch = a.epoch → Q a → Q b) :
    s₀.times p as ≤ 1 ∧ (s₀.times p as ≠ 0 → Dated (s₀.bumps j as) epoch
      (∀ a, (s₀.run as).machine.axes[j]? = some a → Q a)) := by
  induction as using List.reverseRecOn with
  | nil => simp [times]
  | append_singleton as x ih =>
      have hbefore : s₀.bumps j as < UInt32.size :=
        Nat.lt_of_le_of_lt (s₀.bumps_le_snoc j as x) hbumps
      have hgrow : ∀ us, us <+: as → us <+: as ++ [x] := fun us h =>
        h.trans (List.prefix_append as [x])
      obtain ⟨hone, hdated⟩ := ih hbefore (fun us y h => hnow us y (hgrow _ h))
        fun us y a b h => hkept us y a b (hgrow _ h)
      rw [times_snoc]
      cases hp : p (s₀.run as) x with
      | true =>
          obtain ⟨a, b, ha, hb, hepoch, hnot, hsame, hQ⟩ := hnow as x (List.prefix_refl _) hp
          have hcount : a.epoch = UInt32.ofNat (s₀.bumps j as) := (hfresh.stamped as ha).epoch a ha
          have hzero : s₀.times p as = 0 := by
            by_contra hsome
            exact hnot ((hdated hsome).current hbefore (hepoch ▸ hcount) a ha)
          refine ⟨by simp [hzero], fun _ => ?_⟩
          rw [bumps_continued ha hb hsame]
          refine .now (hepoch ▸ hcount) fun b₁ hb₁ => ?_
          obtain rfl := Option.some.inj (hb.symm.trans hb₁)
          exact hQ
      | false =>
          refine ⟨by simpa using hone, fun hsome => ?_⟩
          have hold := hdated (by simpa using hsome)
          cases hb : (s₀.run (as ++ [x])).machine.axes[j]? with
          | none =>
              obtain ⟨k, hk, hepoch, _⟩ := hold
              exact ⟨k, Nat.le_trans hk (s₀.bumps_le_snoc j as x), hepoch, fun _ b hb => by simp at hb⟩
          | some b =>
              obtain ⟨a, ha, heq⟩ := axis_snoc hb
              have hturn := act_epoch (s₀.run as) j a x
              rw [← heq] at hturn
              rcases hturn with hc | hnext
              · rw [bumps_continued ha hb hc.epoch]
                refine hold.imp fun hQ b₁ hb₁ => ?_
                obtain rfl := Option.some.inj hb₁
                exact hkept as x a b (List.prefix_refl _) ha hb hc.epoch (hQ a ha)
              · rw [bumps_renewed ha hb hnext]
                exact hold.older

/-! ## Reports of the end of a move -/

/-- Axis `j` reports in an epoch that a move has come to an end of a kind. -/
def reportsEnd (kinds : NotificationKind → Bool) (j : Nat) (epoch : UInt32) (s : Station)
    (x : Action) : Bool :=
  match s.report? x with
  | some note => decide (note.handle = j ∧ note.epoch = epoch) && kinds note.kind
  | none => false

/-- An axis that reports something is there. -/
theorem axis_of_report {x : Action} {note : Notification} (h : s.report? x = some note)
    (hseated : s.Seated) : ∃ a, s.machine.axes[note.handle]? = some a := by
  obtain ⟨i, a, rfl, ha, hrun, hreport⟩ := reports_iff.mp h
  have hserved := Axis.tick_served a s.nowMs
  rw [hreport] at hserved
  rw [(Axis.served_report hserved).1, hseated i a ha]
  exact ⟨a, ha⟩

theorem report_of_end {kinds : NotificationKind → Bool} {x : Action}
    (h : s.reportsEnd kinds j epoch x = true) :
    ∃ note, s.report? x = some note ∧ note.handle = j ∧ note.epoch = epoch
      ∧ kinds note.kind = true := by
  unfold reportsEnd at h
  split at h
  · rename_i note hreport
    simp only [Bool.and_eq_true, decide_eq_true_eq] at h
    exact ⟨note, hreport, h.1.1, h.1.2, h.2⟩
  · exact absurd h (by simp)

/-- **An axis reports the end of a move once in an epoch.** -/
theorem ends_once (hfresh : s₀.Fresh) (hbumps : s₀.bumps j as < UInt32.size) (epoch : UInt32) :
    s₀.times (reportsEnd NotificationKind.isTerminal j epoch) as ≤ 1 := by
  refine (once_in_epoch (Q := fun a => a.isRunning = false) hfresh hbumps epoch
    (fun us x _ h => ?_) fun us x a b _ ha hb hepoch hrest => ?_).1
  · obtain ⟨note, hreport, rfl, rfl, hk⟩ := report_of_end h
    have hseated := hfresh.seated.run us
    obtain ⟨a, ha⟩ := axis_of_report hreport hseated
    have hmade := reports_iff.mp hreport
    obtain ⟨rfl, hrun, _, hepoch⟩ := hmade.about hseated rfl ha
    refine ⟨a, _, ha, axis_next ha _, hepoch.symm, by simp [hrun], ?_, hmade.rests hseated rfl ha hk⟩
    simp only [strokes, hrun, and_self, if_true]
    exact (Axis.continues_after (fun _ ho => Axis.calm_matchStrokes ho) a).epoch
  · obtain ⟨a', ha', heq⟩ := axis_snoc hb
    obtain rfl := Option.some.inj (ha.symm.trans ha')
    rcases act_epoch (s₀.run us) j a x with hc | hnext
    · rw [heq]
      exact hc.rests hrest
    · rw [← heq] at hnext
      exact absurd hepoch.symm (Axis.epoch_ne_of_next hnext).symm

/-! ## Verdicts -/

/-- The verdict of the supervisor on the report that it judges. -/
def verdict? (s : Station) (x : Action) : Option (Notification × Verdict) :=
  (s.judged? x).bind fun note =>
    (s.machine.axes[note.handle]?).map fun a => (note, (a.inspect note).2)

/-- The supervisor comes to one of some verdicts about axis `j` in an epoch. -/
def concludes (verdicts : Verdict → Bool) (j : Nat) (epoch : UInt32) (s : Station) (x : Action) :
    Bool :=
  match s.verdict? x with
  | some (note, v) => decide (note.handle = j ∧ note.epoch = epoch) && verdicts v
  | none => false

theorem judged_of_conclude {verdicts : Verdict → Bool} {x : Action}
    (h : s.concludes verdicts j epoch x = true) :
    ∃ note a, s.judged? x = some note ∧ note.handle = j ∧ note.epoch = epoch
      ∧ s.machine.axes[j]? = some a ∧ verdicts (a.inspect note).2 = true := by
  unfold concludes at h
  split at h
  · rename_i note v hv
    simp only [Bool.and_eq_true, decide_eq_true_eq] at h
    obtain ⟨note', hjudged, ha⟩ := Option.bind_eq_some_iff.mp hv
    obtain ⟨a, haxis, heq⟩ := Option.map_eq_some_iff.mp ha
    obtain ⟨rfl, rfl⟩ := Prod.mk.inj heq
    obtain ⟨⟨rfl, rfl⟩, hverdict⟩ := h
    exact ⟨note', a, hjudged, rfl, rfl, haxis, hverdict⟩
  · exact absurd h (by simp)

theorem strokes_of_judged {x : Action} {note : Notification} (h : s.judged? x = some note) :
    s.strokes note.handle a x = [.inspect note] := by
  cases x with
  | supervise signalFirst =>
      simp only [judged?] at h
      cases hs : s.supervisor with
      | working inHand toVisit =>
          cases inHand with
          | none => exact absurd h (by simp [hs, Supervisor.inHand?])
          | some n =>
              obtain rfl : n = note := by simpa [hs, Supervisor.inHand?] using h
              simp [strokes, hs]
      | _ => exact absurd h (by simp [hs, Supervisor.inHand?])
  | _ => exact absurd h (by simp [judged?])

/-- **What is judged was reported before.** -/
theorem reported_of_inFlight (hfresh : s₀.Fresh) {note : Notification}
    (h : (s₀.run as).InFlight note) :
    ∃ us x vs, as = us ++ x :: vs ∧ (s₀.run us).report? x = some note := by
  induction as using List.reverseRecOn with
  | nil => exact absurd h (hfresh.not_inFlight note)
  | append_singleton as x ih =>
      rw [run_snoc] at h
      rcases act_inFlight h with hold | hnew
      · obtain ⟨us, y, vs, rfl, hreport⟩ := ih hold
        exact ⟨us, y, vs ++ [x], by simp, hreport⟩
      · exact ⟨as, x, [], rfl, reports_iff.mpr hnew⟩

/-! ## Stalls and arrivals -/

/-- A computation fails in which axis `j` is involved. -/
def fails (j : Nat) (s : Station) (x : Action) : Bool :=
  match s.machine.axes[j]? with
  | some a => (a.replies (s.strokes j a x)).any fun r => r.fault?.isSome
  | none => false

theorem strokes_length_le (s : Station) (j : Nat) (a : Axis) (x : Action) :
    (s.strokes j a x).length ≤ 2 := by
  have hattempt : ∀ c nowMs, (a.attemptStrokes c nowMs).length ≤ 2 := by
    intro c nowMs
    unfold Axis.attemptStrokes
    split <;> simp
  have h := s.strokes_struck j a x
  generalize s.strokes j a x = ops at h
  cases h with
  | matched _ =>
      unfold Machine.matchStrokes
      split
      · split
        · simp
        · split <;> simp
      · simp
  | @dispatched i d _ _ =>
      cases d.phase with
      | received e =>
          simp only [Axis.phaseStrokes]
          split
          · simp
          · unfold Axis.prepareStrokes
            split <;> simp
      | ready e => exact hattempt e.command s.nowMs
      | waiting e untilMs =>
          simp only [Axis.phaseStrokes]
          split
          · exact hattempt e.command s.nowMs
          · simp
      | _ => exact Nat.zero_le _
  | _ => simp

/-- **A stopped axis stays stopped for the rest of the epoch,** if no computation fails. -/
theorem stopped_act {x : Action} (ha : s.machine.axes[j]? = some a) (hm : a.mode = .stopped)
    (hf : s.fails j x = false) (hepoch : (a.after (s.strokes j a x)).epoch = a.epoch) :
    (a.after (s.strokes j a x)).mode = .stopped := by
  have hnone : ∀ r ∈ a.replies (s.strokes j a x), r.fault? = none := by
    intro r hr
    simp only [fails, ha] at hf
    simpa using List.any_eq_false.mp hf r hr
  rcases Axis.stopped_after hm hnone with hend | hpos
  · exact hend
  · have hfew : a.bumps (s.strokes j a x) < UInt32.size := by
      have hle := Axis.bumps_le_length a (s.strokes j a x)
      have hlength := s.strokes_length_le j a x
      have hlarge : 2 < UInt32.size := by decide
      omega
    exact absurd hepoch (Axis.epoch_after_ne hpos hfew)

/-- The supervisor finds a stall of axis `j` in an epoch. -/
def findsStall : Nat → UInt32 → Station → Action → Bool := concludes (· == .stalled)

/-- The supervisor finds that a move of axis `j` is over in an epoch: it has arrived, or the timer has
refused a frequency. -/
def findsEnd : Nat → UInt32 → Station → Action → Bool := concludes Verdict.isArrival

/-- **A move is found to have stalled, or is reported to be over, once in an epoch,** if no computation
fails. -/
theorem settled_once (hfresh : s₀.Fresh) (hbumps : s₀.bumps j as < UInt32.size)
    (hsound : s₀.times (fails j) as = 0) (epoch : UInt32) :
    s₀.times (fun s x => s.reportsEnd NotificationKind.isArrival j epoch x || findsStall j epoch s x)
      as ≤ 1 := by
  refine (once_in_epoch (Q := fun a => a.mode = .stopped) hfresh hbumps epoch
    (fun us x _ h => ?_) fun us x a b hus ha hb hepoch hm => ?_).1
  · rcases Bool.or_eq_true_iff.mp h with h | h
    · obtain ⟨note, hreport, rfl, rfl, hk⟩ := report_of_end h
      have hseated := hfresh.seated.run us
      obtain ⟨a, ha⟩ := axis_of_report hreport hseated
      obtain ⟨rfl, hrun, hmade, hepoch⟩ := (reports_iff.mp hreport).about hseated rfl ha
      have hops : (s₀.run us).strokes note.handle a (.timerMatch note.handle false)
          = (s₀.run us).machine.matchStrokes (s₀.run us).nowMs a := by
        simp only [strokes, hrun, and_self, if_true]
      have hserved := Axis.tick_served a (s₀.run us).nowMs
      rw [hmade] at hserved
      obtain ⟨hbefore, hafter⟩ := Axis.stopped_of_arrival hserved hk
      refine ⟨a, _, ha, axis_next ha _, hepoch.symm, hbefore, ?_, ?_⟩ <;> rw [hops]
      · exact (Axis.continues_after (fun _ ho => Axis.calm_matchStrokes ho) a).epoch
      · obtain ⟨_, _, heq⟩ := (s₀.run us).machine.after_matchStrokes (s₀.run us).nowMs a
        rw [heq]
        exact hafter
    · obtain ⟨note, a, hjudged, rfl, rfl, ha, hv⟩ := judged_of_conclude h
      rcases Axis.inspect_stall a note with ⟨_, hepoch, hbefore, hafter, _⟩ | ⟨hnot, _⟩
      · refine ⟨a, _, ha, axis_next ha _, hepoch.symm, hbefore, ?_, ?_⟩ <;>
          rw [strokes_of_judged hjudged]
        · exact (Axis.continues_inspect a note).epoch
        · exact hafter
      · exact absurd (by simpa using hv) hnot
  · obtain rfl := Option.some.inj ((axis_next ha x).symm.trans hb)
    refine stopped_act ha hm ?_ hepoch
    obtain ⟨vs, rfl⟩ := hus
    cases hf : fails j (s₀.run us) x with
    | false => rfl
    | true => exact absurd hsound (times_ne_zero.mpr ⟨us, x, vs, by simp, hf⟩)

/-- No action is both a timer match and a stroke of the supervisor. -/
theorem unjudged_of_report {x : Action} {note : Notification} (h : s.report? x = some note) :
    s.judged? x = none := by
  obtain ⟨i, a, rfl, _⟩ := reports_iff.mp h
  rfl

/-- **A move that has stalled does not come to another end in its epoch.** -/
theorem stall_or_end (hfresh : s₀.Fresh) (hbumps : s₀.bumps j as < UInt32.size)
    (hsound : s₀.times (fails j) as = 0) (epoch : UInt32) :
    s₀.times (findsStall j epoch) as ≤ 1
      ∧ (s₀.times (findsStall j epoch) as ≠ 0 → s₀.times (findsEnd j epoch) as = 0) := by
  have hsum := settled_once hfresh hbumps hsound epoch
  rw [times_or fun s x h => ?_] at hsum
  · refine ⟨by omega, fun hstall => ?_⟩
    by_contra hend
    -- what is found to be over was reported to be over in this epoch
    obtain ⟨us, x, vs, rfl, hconcludes⟩ := times_ne_zero.mp hend
    obtain ⟨note, a, hjudged, rfl, rfl, ha, hv⟩ := judged_of_conclude hconcludes
    obtain ⟨us', y, vs', rfl, hreport⟩ := reported_of_inFlight hfresh (inFlight_of_judged hjudged)
    have hreported : s₀.times (reportsEnd NotificationKind.isArrival note.handle note.epoch)
        (us' ++ y :: vs' ++ x :: vs) ≠ 0 := by
      refine times_ne_zero.mpr ⟨us', y, vs' ++ x :: vs, by simp, ?_⟩
      simp [reportsEnd, hreport, Axis.arrival_of_verdict hv]
    omega
  · obtain ⟨note, hreport, _⟩ := report_of_end h
    simp [findsStall, concludes, verdict?, unjudged_of_report hreport]

/-! ## Timer matches -/

/-- **A timer match of a running axis is served, and it makes one half-step, or it makes none and ends
the move.** -/
theorem match_served (ha : s.machine.axes[j]? = some a) (hcoh : a.Coherent) (hpaced : a.Paced)
    (hlimit : a.config.reportInterval ≤ Count.limit) (hrun : a.isRunning = true) :
    (s.serveMatch j false).2 = .ok true
      ∧ ∃ b, (s.act (.timerMatch j false)).machine.axes[j]? = some b
        ∧ (a.Advances b (s.report? (.timerMatch j false))
          ∨ a.Ends b (s.report? (.timerMatch j false))) := by
  obtain ⟨note?, hr, hend⟩ :=
    Axis.advances_or_ends (Axis.tick_served a s.nowMs) hcoh hpaced hlimit hrun
  have hreport : s.report? (.timerMatch j false) = note? := by
    simp only [report?, ha, hrun, if_true, hr]
    rfl
  have hboard : (a.after (s.strokes j a (.timerMatch j false))).board = (a.tick s.nowMs).1.board := by
    obtain ⟨_, _, h⟩ := s.machine.after_matchStrokes s.nowMs a
    simp only [strokes, hrun, and_self, if_true, h]
  refine ⟨?_, _, axis_act ha _, ?_⟩
  · have hpair : a.tick s.nowMs = ((a.tick s.nowMs).1, .ok note?) := Prod.ext rfl hr
    unfold serveMatch Machine.serveMatch
    simp only [ha, hrun]
    rw [hpair]
    cases note? <;> rfl
  · rw [hreport]
    exact hend.imp (fun h => h.sameBoard hboard) fun h => h.sameBoard hboard

/-! ## What the owner can rely on -/

theorem Fresh.coherent (h : s₀.Fresh) (ha : (s₀.run as).machine.axes[j]? = some a) :
    a.Coherent ∧ a.Paced := by
  refine run_axes (P := fun a => a.Coherent ∧ a.Paced)
    (fun a o hc => ⟨hc.1.perform o, hc.2.effect (Axis.effect_perform a o)⟩) (fun b hb => ?_) as a ha
  obtain ⟨own, board, config, rfl⟩ := h.axes j b hb
  exact ⟨Axis.coherent_create j own board config, Axis.paced_of_none rfl⟩

/-- **Every move has one ending.** In an epoch of an axis there is one report at most that its move
has come to an end. A timer match of a running axis makes one half-step and leaves the timer running,
or it makes none, stops the timer and makes such a report. And as long as no computation fails for the
axis, the supervisor finds one stall at most in an epoch, and if it finds one, then not that the move
is over. -/
theorem one_ending (hfresh : s₀.Fresh) (as : List Action) (j : Nat)
    (hbumps : s₀.bumps j as < UInt32.size) :
    (∀ epoch, s₀.times (reportsEnd NotificationKind.isTerminal j epoch) as ≤ 1)
      ∧ (∀ a, (s₀.run as).machine.axes[j]? = some a → a.isRunning = true →
        a.config.reportInterval ≤ Count.limit →
        ((s₀.run as).serveMatch j false).2 = .ok true
          ∧ ∃ b, (s₀.run (as ++ [.timerMatch j false])).machine.axes[j]? = some b
            ∧ (a.Advances b ((s₀.run as).report? (.timerMatch j false))
              ∨ a.Ends b ((s₀.run as).report? (.timerMatch j false))))
      ∧ (s₀.times (fails j) as = 0 → ∀ epoch, s₀.times (findsStall j epoch) as ≤ 1
        ∧ (s₀.times (findsStall j epoch) as ≠ 0 → s₀.times (findsEnd j epoch) as = 0)) := by
  refine ⟨ends_once hfresh hbumps, fun a ha hrun hlimit => ?_, stall_or_end hfresh hbumps⟩
  obtain ⟨hcoh, hpaced⟩ := hfresh.coherent ha
  rw [run_snoc]
  exact match_served ha hcoh hpaced hlimit hrun

/-- A short move by steps on a blocked axis, with a report after every half-step; two of them are a
stall. The supervisor finds it when the move has just been made. -/
def stalledLate : List Action :=
  [.freeze 0 true, .supervise true, .dispatch 0, .submit "x" (.steps .clockwise 1 2 5 1),
    .dispatch 0, .dispatch 0, .dispatch 0, .timerMatch 0 false, .timerMatch 0 false,
    .supervise true, .supervise true, .supervise true, .supervise true]

theorem one_ending_of_stalledLate :
    ∃ s₀, start { reportInterval := 1, stallMaxCount := 2 } [(⟨"x", 0, none⟩, {})] true = .ok s₀
      ∧ s₀.times (findsStall 0 1) stalledLate = 1
      ∧ s₀.times (fails 0) stalledLate = 0
      ∧ s₀.times (findsEnd 0 1) stalledLate = 0 := by
  obtain ⟨s₀, hstart, hstall, hsound, hbumps⟩ :
      ∃ s₀, start { reportInterval := 1, stallMaxCount := 2 } [(⟨"x", 0, none⟩, {})] true = .ok s₀
        ∧ s₀.times (findsStall 0 1) stalledLate = 1
        ∧ s₀.times (fails 0) stalledLate = 0
        ∧ s₀.bumps 0 stalledLate < UInt32.size :=
    ⟨_, rfl, by decide, by decide, by decide⟩
  have hending := one_ending (fresh_start hstart) stalledLate 0 hbumps
  exact ⟨s₀, hstart, hstall, hsound, (hending.2.2 hsound 1).2 (by rw [hstall]; decide)⟩

/-- A move by steps comes to its end on a blocked axis, and nobody has told the supervisor yet. Then a
command is carried out whose controller has no output. -/
def ruined : List Action :=
  [.freeze 0 true, .supervise true, .dispatch 0, .submit "x" (.steps .clockwise 1 1 5 1),
    .dispatch 0, .dispatch 0, .dispatch 0,
    .timerMatch 0 false, .timerMatch 0 false, .timerMatch 0 false,
    .submit "x" (.closedLoop (-500)), .dispatch 0, .dispatch 0, .dispatch 0,
    .supervise true, .supervise true, .supervise true, .supervise true, .supervise true,
    .supervise true]

/-- **A computation that fails lets the supervisor find a stall in a move that has arrived.** The
controller fails in the epoch of the old move, and by then it is a closed-loop move. -/
theorem stalled_and_reached :
    ∃ s₀, start { reportInterval := 1, stallMaxCount := 1 }
        [(⟨"x", 0, some { limits := ⟨-100, 100, Position.lowest⟩ }⟩, {})] true = .ok s₀
      ∧ s₀.bumps 0 ruined < UInt32.size
      ∧ s₀.times (findsStall 0 1) ruined = 1 ∧ s₀.times (findsEnd 0 1) ruined = 1 :=
  ⟨_, rfl, by decide, by decide, by decide⟩

end Station

end StepperMotion
