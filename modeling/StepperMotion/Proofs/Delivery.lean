import StepperMotion.Proofs.Desk
import StepperMotion.Proofs.Stamps

/-!
# No terminal report is lost

There is one place on each axis where a terminal report can be parked, and whoever parks one there
overwrites the one before. That one was about an older epoch: a terminal report leaves its axis at
rest, and an axis at rest makes no report until it is started, which begins a new epoch. So there is
one terminal report of an epoch at most, and until somebody has judged it, it is in one place
(`Delivery`).

Reports of progress are lost when there is no room for them, and each one is counted. The count of
an axis stops at the limit of counters.
-/

namespace StepperMotion

open Axis (Operation)

namespace Station

/-! ## Reports that nobody has judged -/

def judges (note : Notification) (s : Station) (x : Action) : Bool :=
  decide (s.judged? x = some note)

/-- The report was made in the run, and nobody has judged it since. -/
def Awaits (s : Station) (as : List Action) (note : Notification) : Prop :=
  ∃ us x vs, as = us ++ x :: vs ∧ (s.run us).report? x = some note
    ∧ ((s.run us).act x).times (judges note) vs = 0

/-- A report that is to be judged was to be judged before, or it has just been made. -/
theorem Awaits.of_snoc {s : Station} {as : List Action} {x : Action} {note : Notification}
    (h : s.Awaits (as ++ [x]) note) :
    (s.Awaits as note ∧ (s.run as).judged? x ≠ some note)
      ∨ (s.run as).report? x = some note := by
  obtain ⟨us, y, vs, has, hmade, hleft⟩ := h
  rcases List.eq_nil_or_concat vs with rfl | ⟨ws, z, rfl⟩
  · obtain ⟨rfl, hxy⟩ := List.append_inj' has rfl
    obtain rfl := List.singleton_inj.mp hxy
    exact Or.inr hmade
  · have hsplit : as ++ [x] = (us ++ y :: ws) ++ [z] := by simpa using has
    obtain ⟨rfl, hxz⟩ := List.append_inj' hsplit rfl
    obtain rfl := List.singleton_inj.mp hxz
    rw [List.concat_eq_append] at hleft
    obtain ⟨hws, hlast⟩ := never_snoc.mp hleft
    refine Or.inl ⟨⟨us, y, ws, rfl, hmade, hws⟩, ?_⟩
    rw [run_append]
    exact of_decide_eq_false hlast

/-! ## Terminal reports -/

/-- What becomes of the terminal reports about axis `j` in a run. -/
structure Delivery (s₀ : Station) (as : List Action) (j : Nat) : Prop where
  filed : (s₀.run as).desk.Filed
  called : ∀ i note, (s₀.run as).desk.parked i = some note → (s₀.run as).desk.Called i
  /-- A report of this epoch is in one place until it is judged, and its axis is at rest. -/
  awaited : ∀ note, s₀.Awaits as note → note.handle = j → note.kind.isTerminal = true →
    Dated (s₀.bumps j as) note.epoch
      ((s₀.run as).Resting j ∧ (s₀.run as).desk.copies note = 1)

theorem delivery_fresh {s : Station} (h : s.Fresh) (j : Nat) : s.Delivery [] j := by
  have hnone : ∀ i note, s.desk.parked i ≠ some note := by
    intro i note hp
    obtain ⟨a, ha, hp⟩ := Option.bind_eq_some_iff.mp hp
    exact h.not_inFlight note (.parked ha hp)
  refine ⟨fun i note hp => absurd hp (hnone i note), fun i note hp => absurd hp (hnone i note), ?_⟩
  rintro note ⟨us, x, vs, hnil, _⟩
  exact absurd hnil (by simp)

/-- **A terminal report that is made is nowhere yet,** for the axis that makes it is not at rest. -/
theorem copies_of_report {s₀ : Station} {as : List Action} {j : Nat} (h : s₀.Stamped as j)
    (hbumps : s₀.bumps j as < UInt32.size) {x : Action} {note : Notification} {a : Axis}
    (ha : (s₀.run as).machine.axes[j]? = some a) (hseated : (s₀.run as).Seated)
    (hmade : (s₀.run as).Reports x note) (hj : note.handle = j)
    (hk : note.kind.isTerminal = true) : (s₀.run as).desk.copies note = 0 := by
  by_contra hsome
  obtain ⟨_, hrun, _, hepoch⟩ := hmade.about hseated hj ha
  have hnow : note.epoch = UInt32.ofNat (s₀.bumps j as) := hepoch.trans (h.epoch a ha)
  have hrest := (h.flight note (inFlight_of_copies hsome) hj).current hbumps hnow hk a ha
  exact absurd (hrun.symm.trans hrest) (by simp)

/-- **Every action sees to it that terminal reports are delivered.** -/
theorem Delivery.step {s₀ : Station} {as : List Action} {j : Nat} (h : s₀.Delivery as j)
    (hstamped : s₀.Stamped as j) (hseated : (s₀.run as).Seated)
    (hbumps : s₀.bumps j as < UInt32.size) {x : Action} (hoff : x ≠ .cancelSupervisor) {b : Axis}
    (hb : (s₀.run (as ++ [x])).machine.axes[j]? = some b) : s₀.Delivery (as ++ [x]) j := by
  have hmoves := act_moves hseated hoff
  rw [← run_snoc] at hmoves
  refine ⟨hmoves.filed h.filed, hmoves.called h.called, ?_⟩
  intro note hawaits hj hk
  obtain ⟨a, ha, heq⟩ := axis_snoc hb
  have hturn := act_epoch (s₀.run as) j a x
  rw [← heq] at hturn
  rcases hturn with hc | hnext
  · rw [bumps_continued ha hb hc.epoch]
    rcases hawaits.of_snoc with ⟨hold, hjudged⟩ | hnew
    · refine (h.awaited note hold hj hk).imp fun ⟨hrest, hone⟩ => ⟨fun b₁ hb₁ => ?_, ?_⟩
      · obtain rfl := Option.some.inj (hb.symm.trans hb₁)
        exact hc.rests (hrest a ha)
      · -- an axis at rest makes no report that could take the place of this one
        refine (hmoves.copies_kept h.filed (fun n hn hsame => ?_) hjudged).trans hone
        have hrun := ((reports_iff.mp hn).about hseated (hsame.trans hj) ha).2.1
        exact absurd (hrun.symm.trans (hrest a ha)) (by simp)
    · have hmade := reports_iff.mp hnew
      have hstamp := (hmade.about hseated hj ha).2.2.2
      have hnone := copies_of_report hstamped hbumps ha hseated hmade hj hk
      rw [hnew] at hmoves
      refine .now (hstamp.trans (hstamped.epoch a ha)) ⟨fun b₁ hb₁ => ?_, ?_⟩
      · obtain rfl := Option.some.inj (hb.symm.trans hb₁)
        rw [heq]
        exact hmade.rests hseated hj ha hk
      · exact hmoves.copies_made hk hnone
  · rw [bumps_renewed ha hb hnext]
    rcases hawaits.of_snoc with ⟨hold, _⟩ | hnew
    · exact (h.awaited note hold hj hk).older
    · have hstamp := ((reports_iff.mp hnew).about hseated hj ha).2.2.2
      exact (Dated.now (hstamp.trans (hstamped.epoch a ha)) trivial).older

theorem Fresh.delivery {s₀ : Station} (h : s₀.Fresh) {as : List Action} (hon : .cancelSupervisor ∉ as)
    {j : Nat} {b : Axis} (hb : (s₀.run as).machine.axes[j]? = some b)
    (hbumps : s₀.bumps j as < UInt32.size) : s₀.Delivery as j := by
  induction as using List.reverseRecOn generalizing b with
  | nil => exact delivery_fresh h j
  | append_singleton as x ih =>
      obtain ⟨a, ha, _⟩ := axis_snoc hb
      have hbefore : s₀.bumps j as < UInt32.size :=
        Nat.lt_of_le_of_lt (s₀.bumps_le_snoc j as x) hbumps
      have hoff : x ≠ .cancelSupervisor := by
        rintro rfl
        exact hon (by simp)
      have hold := ih (fun hmem => hon (List.mem_append_left _ hmem)) ha hbefore
      exact hold.step (h.stamped as ha) (h.seated.run as) hbefore hoff hb

/-! ## Reports of progress -/

/-- The action makes a report of progress about axis `j`, and the report does not get into the
queue. -/
def loses (j : Nat) (s : Station) (x : Action) : Bool :=
  match s.report? x with
  | none => false
  | some note => decide (note.handle = j) && !note.kind.isTerminal
    && decide ((s.act x).machine.notes.items ≠ s.machine.notes.items ++ [note])

/-- **A report of progress that is lost is counted, and no other one is.** -/
theorem countDropped_mem_iff {s : Station} {j : Nat} {a : Axis} {x : Action}
    (hseated : s.Seated) (ha : s.machine.axes[j]? = some a) :
    .countDropped ∈ s.strokes j a x ↔ loses j s x = true := by
  constructor
  · intro hmem
    obtain ⟨rfl, hrun, note, e, hr, hoffer, hk⟩ := countDropped_of_strokes hmem
    have hserved := Axis.tick_served a s.nowMs
    rw [hr] at hserved
    have hj : note.handle = j := (Axis.served_report hserved).1.trans (hseated j a ha)
    have hmade : s.report? (.timerMatch j false) = some note :=
      reports_iff.mpr ⟨j, a, rfl, ha, hrun, hr⟩
    have hsame : (s.act (.timerMatch j false)).machine.notes = s.machine.notes := by
      rw [machine_of_report ha hrun hr]
      rcases (s.machine.modifyAxis j fun b => (b.tick s.nowMs).1).post_cases j note with
        ⟨notes, hok, _⟩ | ⟨_, _, hterminal, _⟩ | ⟨_, _, _, heq⟩
      · exact absurd (hoffer.symm.trans hok) (by simp)
      · exact absurd (hk.symm.trans hterminal) (by simp)
      · rw [heq]
        rfl
    simp [loses, hmade, hj, hk, hsame]
  · intro hloses
    unfold loses at hloses
    split at hloses
    · exact absurd hloses (by simp)
    · rename_i note hmade
      simp only [Bool.and_eq_true, decide_eq_true_eq, Bool.not_eq_true'] at hloses
      obtain ⟨⟨hj, hk⟩, hqueue⟩ := hloses
      obtain ⟨rfl, hrun, hr, _⟩ := (reports_iff.mp hmade).about hseated hj ha
      rw [machine_of_report ha hrun hr] at hqueue
      rcases (s.machine.modifyAxis j fun b => (b.tick s.nowMs).1).post_cases j note with
        ⟨notes, hok, heq⟩ | ⟨_, _, hterminal, _⟩ | ⟨e, hfull, _, _⟩
      · rw [heq] at hqueue
        exact absurd (items_of_offer hok) hqueue
      · exact absurd (hk.symm.trans hterminal) (by simp)
      · have hoffer : s.machine.notes.offer note = .error e := hfull
        simp [strokes, Machine.matchStrokes, hrun, hr, hoffer, hk]

theorem dropped_act {s : Station} {j : Nat} {a : Axis} {x : Action} (hseated : s.Seated)
    (ha : s.machine.axes[j]? = some a) :
    (a.after (s.strokes j a x)).dropped
      = if loses j s x then Count.add a.dropped 1 else a.dropped := by
  by_cases hmem : .countDropped ∈ s.strokes j a x
  · rw [if_pos ((countDropped_mem_iff hseated ha).mp hmem)]
    obtain ⟨rfl, hrun, note, e, hr, hoffer, hk⟩ := countDropped_of_strokes hmem
    have hops : s.strokes j a (.timerMatch j false) = [.tick s.nowMs, .countDropped] := by
      simp [strokes, Machine.matchStrokes, hrun, hr, hoffer, hk]
    have htick := (Axis.records_served (Axis.tick_served a s.nowMs)).dropped
    rw [hops]
    exact congrArg (Count.add · 1) htick
  · rw [if_neg fun h => hmem ((countDropped_mem_iff hseated ha).mpr h)]
    exact Axis.dropped_after_same hmem

/-- **The count of lost reports says how many there were, up to the limit of counters.** -/
theorem dropped_run {s : Station} (hseated : s.Seated) {j : Nat} {a b : Axis} (as : List Action)
    (ha : s.machine.axes[j]? = some a) (hb : (s.run as).machine.axes[j]? = some b)
    (hle : a.dropped ≤ Count.limit) : b.dropped = min (a.dropped + s.times (loses j) as) Count.limit := by
  induction as generalizing s a with
  | nil =>
      obtain rfl := Option.some.inj (ha.symm.trans hb)
      rw [times, Nat.add_zero, Nat.min_eq_left hle]
  | cons x as ih =>
      have hnext : (s.act x).machine.axes[j]? = some (a.after (s.strokes j a x)) := axis_act ha x
      have hcount := dropped_act (x := x) hseated ha
      have hsmall : (a.after (s.strokes j a x)).dropped ≤ Count.limit := by
        rw [hcount]
        split
        · exact Nat.min_le_right ..
        · exact hle
      rw [ih (hseated.act x) hnext hb hsmall, hcount, times]
      split
      · unfold Count.add
        omega
      · omega

/-- **No terminal report is lost.** Whatever room there is in the queue and in whatever order the
parties take turns, a terminal report of the current epoch that nobody has judged is in one place:
in the queue, parked on its axis, or in the hands of the supervisor, as long as the supervisor is
not called off. Where one is parked, the supervisor has been called. And the reports of progress
that are lost are counted, up to the limit of counters. -/
theorem no_terminal_report_lost {s₀ : Station} (hfresh : s₀.Fresh) (as : List Action)
    (hon : .cancelSupervisor ∉ as) {j : Nat} {a : Axis}
    (ha : (s₀.run as).machine.axes[j]? = some a) (hbumps : s₀.bumps j as < UInt32.size) :
    (∀ note, s₀.Awaits as note → note.handle = j → note.kind.isTerminal = true →
      note.epoch = a.epoch → (s₀.run as).desk.copies note = 1)
    ∧ (a.parked ≠ none → (s₀.run as).desk.Called j)
    ∧ a.dropped = min (s₀.times (loses j) as) Count.limit := by
  have hstamped := hfresh.stamped as ha
  have hdelivery := hfresh.delivery hon ha hbumps
  refine ⟨fun note hawaits hj hk hepoch => ?_, fun hparked => ?_, ?_⟩
  · have hnow : note.epoch = UInt32.ofNat (s₀.bumps j as) := hepoch.trans (hstamped.epoch a ha)
    exact ((hdelivery.awaited note hawaits hj hk).current hbumps hnow).2
  · obtain ⟨note, hnote⟩ := Option.ne_none_iff_exists'.mp hparked
    refine hdelivery.called j note ?_
    exact Option.bind_eq_some_iff.mpr ⟨a, ha, hnote⟩
  · obtain ⟨a₀, ha₀⟩ := axis_of_run ha
    have hzero : a₀.dropped = 0 := by
      obtain ⟨own, board, config, rfl⟩ := hfresh.axes j a₀ ha₀
      rfl
    rw [dropped_run hfresh.seated as ha₀ ha (by omega), hzero, Nat.zero_add]

/-- There is room for one report only. Two moves come to their ends, and nobody looks at the reports:
that of the second move is parked in the place of that of the first one. -/
def crowded : List Action :=
  [.dispatch 0, .submit "x" (.steps .clockwise 1 1 50 1), .dispatch 0, .dispatch 0, .dispatch 0,
    .timerMatch 0 false, .timerMatch 0 false, .timerMatch 0 false,
    .submit "x" (.steps .clockwise 1 1 50 1), .dispatch 0, .dispatch 0, .dispatch 0,
    .timerMatch 0 false, .timerMatch 0 false, .timerMatch 0 false]

theorem no_terminal_report_lost_of_crowded :
    ∃ s₀ a note, start { notificationCapacity := 1, reportInterval := 1 } [(⟨"x", 0, none⟩, {})]
        true = .ok s₀
      ∧ (s₀.run crowded).machine.axes[0]? = some a
      ∧ .cancelSupervisor ∉ crowded ∧ s₀.bumps 0 crowded < UInt32.size
      ∧ s₀.Awaits crowded note ∧ note.handle = 0 ∧ note.kind.isTerminal = true
      ∧ note.epoch = a.epoch ∧ a.parked = some note
      ∧ (s₀.run crowded).desk.copies note = 1 ∧ (s₀.run crowded).desk.Called 0
      ∧ a.dropped = min (s₀.times (loses 0) crowded) Count.limit := by
  obtain ⟨s₀, a, hstart, ha, hon, hbumps, hmade, hepoch, hparked⟩ :
      ∃ s₀ a, start { notificationCapacity := 1, reportInterval := 1 } [(⟨"x", 0, none⟩, {})]
          true = .ok s₀
        ∧ (s₀.run crowded).machine.axes[0]? = some a
        ∧ .cancelSupervisor ∉ crowded ∧ s₀.bumps 0 crowded < UInt32.size
        ∧ (s₀.run crowded.dropLast).report? (.timerMatch 0 false) = some ⟨0, 2, -2, .completed⟩
        ∧ a.epoch = 2 ∧ a.parked = some ⟨0, 2, -2, .completed⟩ :=
    ⟨_, _, rfl, rfl, by decide, by decide, by decide, by decide, by decide⟩
  have hawaits : s₀.Awaits crowded ⟨0, 2, -2, .completed⟩ :=
    ⟨crowded.dropLast, .timerMatch 0 false, [], rfl, hmade, rfl⟩
  obtain ⟨hone, hcalled, hdropped⟩ :=
    no_terminal_report_lost (fresh_start hstart) crowded hon ha hbumps
  exact ⟨s₀, a, _, hstart, ha, hon, hbumps, hawaits, rfl, rfl, hepoch.symm, hparked,
    hone _ hawaits rfl rfl hepoch.symm, hcalled (by simp [hparked]), hdropped⟩

end Station

end StepperMotion
