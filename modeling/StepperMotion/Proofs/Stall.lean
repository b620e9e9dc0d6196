import StepperMotion.Proofs.Checking
import StepperMotion.Proofs.Desk
import StepperMotion.Proofs.Outdated
import StepperMotion.Proofs.Shutdown

/-!
# An axis that has stalled is at rest

When the supervisor finds that a motor does not follow, it stops the axis and marks it. A dispatcher
takes the mark off when it has checked a command, and carries the command out at a later stroke.
`stalled_at_rest` says that an axis with the mark is at rest, provided that the supervisor does not
come between these two strokes.

If the dispatcher lets the axis rest in between, the supervisor cannot come, for a new epoch has
begun and nothing is reported about it. If not, the reports of the move before are still good, and
then the supervisor may stop the axis just before it is started anew, with the mark on it
(`running_while_stalled`).
-/

namespace StepperMotion

open Axis (Operation)

/-! ## The mark of a stall -/

namespace Axis

/-- Judging a report finds a stall and stops a moving axis, or it leaves the mark alone. -/
theorem inspect_stall (a : Axis) (note : Notification) :
    ((a.inspect note).2 = .stalled ∧ note.epoch = a.epoch ∧ a.mode ≠ .stopped
      ∧ (a.inspect note).1.mode = .stopped ∧ (a.inspect note).1.isRunning = false)
    ∨ ((a.inspect note).2 ≠ .stalled ∧ (a.inspect note).1.stalled = a.stalled) := by
  by_cases hepoch : note.epoch = a.epoch
  · simp only [inspect, if_pos hepoch]
    cases note.kind with
    | progress =>
        dsimp only [watchProgress]
        split
        · rename_i hwatch
          have hmove : a.mode ≠ .stopped := by
            intro hm
            simp [Mode.isMoving, hm] at hwatch
          split
          · exact Or.inl ⟨rfl, hepoch, hmove, rfl, rfl⟩
          · exact Or.inr ⟨by simp, rfl⟩
        · exact Or.inr ⟨by simp, rfl⟩
    | completed => exact Or.inr ⟨by simp, rfl⟩
    | overshoot => exact Or.inr ⟨by simp, rfl⟩
    | timerFault => exact Or.inr ⟨by simp, rfl⟩
  · simp only [inspect, if_neg hepoch]
    exact Or.inr ⟨by simp, trivial⟩

/-- **An axis has the mark because it had it, or because a stall has been found.** -/
theorem stalled_perform {a : Axis} {o : Operation} (h : (a.perform o).1.stalled = true) :
    a.stalled = true ∨ o = .tripStall
      ∨ ∃ note, o = .inspect note ∧ (a.inspect note).2 = .stalled := by
  cases ho : o.isClerical with
  | false => exact Or.inl ((records_perform ho).stalled.symm.trans h)
  | true =>
      cases o with
      | inspect note =>
          rcases inspect_stall a note with ⟨hv, _⟩ | ⟨_, hsame⟩
          · exact Or.inr (Or.inr ⟨note, rfl, hv⟩)
          · exact Or.inl (hsame.symm.trans h)
      | tripStall => exact Or.inr (Or.inl rfl)
      | clearFaults => exact absurd h (by simp [perform, clearFaults])
      | park note => exact Or.inl h
      | takeParked => exact Or.inl h
      | countDropped => exact Or.inl h
      | _ => exact absurd ho (by simp [Operation.isClerical])

theorem stalled_after {a : Axis} {ops : List Operation} (htrip : .tripStall ∉ ops)
    (hinspect : ∀ note, .inspect note ∉ ops) (h : (a.after ops).stalled = true) :
    a.stalled = true := by
  induction ops generalizing a with
  | nil => exact h
  | cons o ops ih =>
      have hnext := ih (fun hmem => htrip (List.mem_cons_of_mem _ hmem))
        (fun note hmem => hinspect note (List.mem_cons_of_mem _ hmem)) h
      rcases stalled_perform hnext with hold | rfl | ⟨note, rfl, _⟩
      · exact hold
      · exact absurd (List.mem_cons_self ..) htrip
      · exact absurd (List.mem_cons_self ..) (hinspect note)

end Axis

namespace Station

variable {s : Station} {j : Nat}

/-! ## Finding a stall -/

/-- Judging a report is all that the supervisor does to an axis at that stroke. -/
theorem judged_of_inspect {a : Axis} {x : Action} {note : Notification}
    (h : .inspect note ∈ s.strokes j a x) :
    s.judged? x = some note ∧ note.handle = j ∧ s.strokes j a x = [.inspect note] := by
  obtain ⟨signalFirst, rfl⟩ := supervise_of_strokes (Or.inr ⟨note, rfl⟩) h
  simp only [strokes] at h ⊢
  split at h
  · rename_i n toVisit hs
    split at h
    · rename_i hj
      obtain rfl : note = n := by simpa using h
      refine ⟨?_, hj, ?_⟩
      · simp [judged?, hs, Supervisor.inHand?]
      · simp [hj]
    · exact absurd h (by simp)
  · split at h <;> exact absurd h (by simp)
  · exact absurd h (by simp)

/-- Nobody trips an axis but the supervisor, when it judges a report. -/
theorem tripStall_not_mem_strokes (s : Station) (j : Nat) (a : Axis) (x : Action) :
    .tripStall ∉ s.strokes j a x := by
  intro h
  have hstruck := s.strokes_struck j a x
  generalize s.strokes j a x = ops at h hstruck
  cases hstruck with
  | alone => exact absurd h (by simp)
  | minor hminor =>
      obtain rfl := List.mem_singleton.mp h
      exact absurd hminor (by simp [Axis.Operation.isMinor])
  | matched _ =>
      rcases Machine.mem_matchStrokes h with h | ⟨_, _, _, _, ⟨_, h⟩ | ⟨_, h⟩⟩ <;>
        exact absurd h (by simp)
  | dispatched _ _ =>
      rcases Axis.mem_phaseStrokes h with h | h | ⟨_, h⟩ | ⟨_, h⟩ <;> exact absurd h (by simp)
  | resumed _ _ _ => exact absurd h (by simp)
  | stopped => exact absurd h (by simp)

/-- **An axis gets the mark when a report about it is judged, and at no other time.** -/
theorem stall_of_strokes {a : Axis} {x : Action}
    (h : (a.after (s.strokes j a x)).stalled = true) :
    a.stalled = true ∨ ∃ note, s.judged? x = some note ∧ note.handle = j
      ∧ (a.inspect note).2 = .stalled ∧ s.strokes j a x = [.inspect note] := by
  by_cases hmem : ∃ note, .inspect note ∈ s.strokes j a x
  · obtain ⟨note, hmem⟩ := hmem
    obtain ⟨hjudged, hj, hops⟩ := judged_of_inspect hmem
    rw [hops] at h
    rcases Axis.stalled_perform h with hold | hno | ⟨n, heq, hv⟩
    · exact Or.inl hold
    · exact absurd hno (by simp)
    · obtain rfl : note = n := by simpa using heq
      exact Or.inr ⟨note, hjudged, hj, hv, hops⟩
  · exact Or.inl (Axis.stalled_after (tripStall_not_mem_strokes s j a x)
      (fun note hin => hmem ⟨note, hin⟩) h)

/-! ## An axis that rests for its dispatcher -/

/-- There is no report in flight about the epoch of axis `j`, and no move was put down in it. -/
def Unheard (s : Station) (j : Nat) (epoch : UInt32) : Prop :=
  (∀ note, s.InFlight note → note.handle = j → note.epoch ≠ epoch)
    ∧ ∀ r ∈ s.reversals, r.note.handle = j → r.note.epoch ≠ epoch

/-- Nobody hears of an epoch by an action that makes no report about it. -/
theorem Unheard.step {epoch : UInt32} {x : Action} (h : s.Unheard j epoch)
    (hnew : ∀ note, s.Reports x note → note.handle = j → note.epoch ≠ epoch) :
    (s.act x).Unheard j epoch := by
  refine ⟨fun note hf hj => ?_, fun r hr hj => ?_⟩
  · rcases act_inFlight hf with hold | hmade
    · exact h.1 note hold hj
    · exact hnew note hmade hj
  · rcases act_reversals hr with hold | ⟨toVisit, hs, _, _⟩
    · exact h.2 r hold hj
    · exact h.1 r.note (.inHand hs) hj

theorem Unheard.act {a : Axis} (h : s.Unheard j a.epoch) (hseated : s.Seated)
    (ha : s.machine.axes[j]? = some a) (hrest : a.isRunning = false) (x : Action) :
    (s.act x).Unheard j a.epoch := by
  refine h.step fun note hmade hj => ?_
  -- an axis at rest makes no report
  have hrun := (hmade.about hseated hj ha).2.1
  exact absurd (hrun.symm.trans hrest) (by simp)

theorem Unheard.dispatch {epoch : UInt32} {i : Nat} (h : s.Unheard j epoch) :
    (s.act (.dispatch i)).Unheard j epoch := by
  refine h.step fun note hmade _ => ?_
  obtain ⟨_, _, hmatch, _⟩ := hmade
  exact absurd hmatch (by simp)

/-- The axis is at rest without the mark, and nobody but its dispatcher can start or trip it. -/
structure Waits (s : Station) (j : Nat) (a : Axis) : Prop where
  stalled : a.stalled = false
  rests : a.isRunning = false
  /-- The move is over, or nobody has heard of its epoch. -/
  unheard : a.mode = .stopped ∨ s.Unheard j a.epoch

theorem Waits.act {a : Axis} (h : s.Waits j a) (hp : s.Placed)
    (ha : s.machine.axes[j]? = some a) {x : Action} (hx : x ≠ .dispatch j) :
    (s.act x).Waits j (a.after (s.strokes j a x)) := by
  have hstalled : (a.after (s.strokes j a x)).stalled = false := by
    cases hb : (a.after (s.strokes j a x)).stalled with
    | false => rfl
    | true =>
        exfalso
        rcases stall_of_strokes hb with hold | ⟨note, hjudged, hj, hv, _⟩
        · exact absurd (hold.symm.trans h.stalled) (by simp)
        · -- a stall is found on a moving axis by a report of its epoch
          rcases Axis.inspect_stall a note with ⟨_, hepoch, hmove, _⟩ | ⟨hnot, _⟩
          · rcases h.unheard with hm | hu
            · exact hmove hm
            · exact hu.1 note (inFlight_of_judged hjudged) hj hepoch
          · exact hnot hv
  have hcommand : ∀ c nowMs, .apply c nowMs ∉ s.strokes j a x := by
    intro c nowMs hmem
    obtain ⟨i, d, rfl, hd, hj, _⟩ := dispatch_of_apply hmem
    exact hx (by rw [← hj, hp.dispatchers i d hd])
  rcases h.unheard with hm | hu
  · have hstill : (a.after (s.strokes j a x)).Still a.board.timer.starts :=
      Axis.Still.after ⟨hm, h.rests, rfl⟩ hcommand
    exact ⟨hstalled, hstill.rests, Or.inl hstill.mode⟩
  · have hu' := hu.act hp.axes ha h.rests x
    have hstruck := s.strokes_struck j a x
    generalize s.strokes j a x = ops at hstalled hstruck ⊢
    cases hstruck with
    | alone => exact ⟨h.stalled, h.rests, Or.inr hu'⟩
    | minor hminor =>
        have hc := Axis.calm_of_minor hminor a
        exact ⟨hstalled, hc.rests h.rests, Or.inr (hc.epoch.symm ▸ hu')⟩
    | matched hrun => exact absurd (hrun.symm.trans h.rests) (by simp)
    | @dispatched i d hd hj =>
        exfalso
        exact hx (by rw [← hj, hp.dispatchers i d hd])
    | @resumed id r hr _ hj =>
        -- the move was put down in another epoch
        have hold : a.epoch ≠ r.note.epoch := fun heq => hu.2 r hr hj heq.symm
        have hsame : a.after [.resume r.note.epoch s.nowMs] = a := by
          simp only [Axis.after_cons, Axis.after_nil, Axis.perform,
            Axis.resume_outdated hold s.nowMs]
        rw [hsame]
        exact ⟨h.stalled, h.rests, Or.inr hu'⟩
    | stopped =>
        refine ⟨hstalled, ?_, Or.inl (Axis.stop_mode a)⟩
        rcases Axis.stop_cases a with ⟨_, heq, _⟩ | ⟨_, heq, _⟩ <;>
          simp only [Axis.after_cons, Axis.after_nil, Axis.perform, heq]
        · exact h.rests
        · rfl

/-! ## The invariant -/

/-- The supervisor finds axis `j` stalled when its dispatcher has checked a command and has yet to
carry it out. -/
def intrudes (j : Nat) (s : Station) (x : Action) : Bool :=
  match s.judged? x, s.machine.axes[j]?, s.dispatchers[j]? with
  | some note, some a, some d =>
    decide (note.handle = j) && decide ((a.inspect note).2 = .stalled) && d.phase.hasChecked
  | _, _, _ => false

/-- What the mark of a stall on axis `j` is worth, and what a dispatcher knows about it. -/
structure Guarded (s : Station) (j : Nat) : Prop where
  /-- An axis with the mark is at rest. -/
  stalled : ∀ a, s.machine.axes[j]? = some a → a.stalled = true →
    a.mode = .stopped ∧ a.isRunning = false
  /-- There is no mark when the dispatcher has checked a command. -/
  checked : ∀ a d e, s.machine.axes[j]? = some a → s.dispatchers[j]? = some d →
    d.phase = .ready e → a.stalled = false
  /-- There is none while the axis rests for its dispatcher either. -/
  waiting : ∀ a d e untilMs, s.machine.axes[j]? = some a → s.dispatchers[j]? = some d →
    d.phase = .waiting e untilMs → s.Waits j a

/-- A command is carried out on an axis without the mark. -/
theorem Guarded.unmarked {a : Axis} {x : Action} {c : Command} {nowMs : Nat} (h : s.Guarded j)
    (hp : s.Placed) (ha : s.machine.axes[j]? = some a)
    (hmem : .apply c nowMs ∈ s.strokes j a x) : a.stalled = false := by
  obtain ⟨i, d, _, hd, hj, hphase⟩ := dispatch_of_apply hmem
  obtain rfl : i = j := (hp.dispatchers i d hd).symm.trans hj
  rcases hphase with ⟨e, hphase⟩ | ⟨e, untilMs, hphase, _⟩
  · exact h.checked a d e ha hd hphase
  · exact (h.waiting a d e untilMs ha hd hphase).stalled

/-- **An axis with the mark is at rest, after every action.** -/
theorem Guarded.stalled_act {a : Axis} {x : Action} (h : s.Guarded j) (hp : s.Placed)
    (ha : s.machine.axes[j]? = some a) (hb : (a.after (s.strokes j a x)).stalled = true) :
    (a.after (s.strokes j a x)).mode = .stopped
      ∧ (a.after (s.strokes j a x)).isRunning = false := by
  rcases stall_of_strokes hb with hold | ⟨note, _, _, hv, hops⟩
  · obtain ⟨hm, hr⟩ := h.stalled a ha hold
    have hstill : (a.after (s.strokes j a x)).Still a.board.timer.starts := by
      refine Axis.Still.after ⟨hm, hr, rfl⟩ fun c nowMs hmem => ?_
      exact absurd (hold.symm.trans (h.unmarked hp ha hmem)) (by simp)
    exact ⟨hstill.mode, hstill.rests⟩
  · rw [hops]
    rcases Axis.inspect_stall a note with ⟨_, _, _, hm, hr⟩ | ⟨hnot, _⟩
    · exact ⟨hm, hr⟩
    · exact absurd hv hnot

/-- A dispatcher that has checked a command has taken the mark off. -/
theorem unmarked_of_prepare {a : Axis} {c : Command} {mustRest : Bool}
    (h : (a.prepare c).answer = .ok mustRest) : (a.after (a.prepareStrokes c)).stalled = false := by
  unfold Axis.prepare at h
  unfold Axis.prepareStrokes
  cases hv : a.validate c with
  | error failure => simp [hv] at h
  | ok u =>
      cases hb : (a.clearFaults.after [.beginDirectionChange c]).stalled with
      | false => exact hb
      | true =>
          have hold : a.clearFaults.stalled = true := Axis.stalled_after (by simp) (by simp) hb
          exact absurd hold (by simp [Axis.clearFaults])

/-- **A dispatcher that has halted its axis leaves it without the mark, and nobody has heard of its
new epoch.** -/
theorem Guarded.halted {a : Axis} {d : Dispatcher} (h : s.Guarded j) (hp : s.Placed)
    (ha : s.machine.axes[j]? = some a) (hd : s.dispatchers[j]? = some d)
    (hrest : a.hasToRest s.nowMs d.phase = true)
    (hheard : (a.after (s.strokes j a (.dispatch j))).epoch = a.epoch + 1 →
      s.Unheard j (a.epoch + 1)) :
    (s.act (.dispatch j)).Waits j (a.after (s.strokes j a (.dispatch j))) := by
  have hops : s.strokes j a (.dispatch j) = a.phaseStrokes s.nowMs d.phase :=
    strokes_of_dispatcher hd (hp.dispatchers j d hd) a
  have hq : a.Quiesces (a.after (a.phaseStrokes s.nowMs d.phase)) :=
    Axis.quiesces_of_hasToRest hrest
  -- without the mark it stays so, for the supervisor does not come at this stroke
  have hkept : a.stalled = false → (a.after (s.strokes j a (.dispatch j))).stalled = false := by
    intro hclear
    cases hb : (a.after (s.strokes j a (.dispatch j))).stalled with
    | false => rfl
    | true =>
        rcases stall_of_strokes hb with hold | ⟨_, hjudged, _⟩
        · exact absurd (hold.symm.trans hclear) (by simp)
        · exact absurd hjudged (by simp [judged?])
  have hstalled : (a.after (s.strokes j a (.dispatch j))).stalled = false := by
    cases hphase : d.phase with
    | ready e => exact hkept (h.checked a d e ha hd hphase)
    | waiting e untilMs => exact hkept (h.waiting a d e untilMs ha hd hphase).stalled
    | received e =>
        simp only [hphase, Axis.hasToRest] at hrest
        split at hrest
        · exact absurd hrest (by simp)
        · rename_i hmove
          split at hrest
          · exact absurd hrest (by simp)
          · rename_i hans
            rw [hops, hphase, Axis.phaseStrokes, if_neg hmove]
            exact unmarked_of_prepare hans
    | _ => exact absurd hrest (by simp [hphase, Axis.hasToRest])
  rw [hops] at hstalled hheard ⊢
  refine ⟨hstalled, hq.rests, Or.inr ?_⟩
  rw [hq.epoch]
  exact (hheard hq.epoch).dispatch

/-- **The guard holds after every action by which the supervisor does not intrude.** -/
theorem Guarded.act {a : Axis} {x : Action} (h : s.Guarded j) (hp : s.Placed)
    (ha : s.machine.axes[j]? = some a) (hx : intrudes j s x = false)
    (hheard : (a.after (s.strokes j a x)).epoch = a.epoch + 1 → s.Unheard j (a.epoch + 1)) :
    (s.act x).Guarded j := by
  have hb : (s.act x).machine.axes[j]? = some (a.after (s.strokes j a x)) := axis_act ha x
  refine ⟨fun b hb' hst => ?_, fun b d' e hb' hd' hphase => ?_, fun b d' e t hb' hd' hphase => ?_⟩ <;>
    obtain rfl := Option.some.inj (hb.symm.trans hb')
  · exact h.stalled_act hp ha hst
  · by_cases hdispatch : x = .dispatch j
    · subst hdispatch
      obtain ⟨d, hd, hnext⟩ := proceeds_of_dispatch hd'
      have hj : d.handle = j := hp.dispatchers j d hd
      generalize d'.phase = p at hnext hphase
      cases hnext with
      | free hready _ => exact absurd hphase (hready e)
      | @checked _ a₁ hreceived hmove ha₁ hans =>
          obtain rfl := Option.some.inj ((hj ▸ ha₁).symm.trans ha)
          rw [strokes_of_dispatcher hd hj, hreceived, Axis.phaseStrokes, if_neg hmove]
          exact unmarked_of_prepare hans
      | halted _ _ => exact absurd hphase (by simp)
      | waits _ _ => exact absurd hphase (by simp)
    · obtain ⟨d, hd, hsame | hended⟩ := act_phase hd' hdispatch
      · rw [hsame] at hphase
        cases hst : (a.after (s.strokes j a x)).stalled with
        | false => rfl
        | true =>
            exfalso
            rcases stall_of_strokes hst with hold | ⟨note, hjudged, hj, hv, _⟩
            · exact absurd (hold.symm.trans (h.checked a d e ha hd hphase)) (by simp)
            · simp [intrudes, hjudged, ha, hd, hj, hv, hphase, Dispatcher.Phase.hasChecked] at hx
      · exact absurd (hended.symm.trans hphase) (by simp)
  · by_cases hdispatch : x = .dispatch j
    · subst hdispatch
      obtain ⟨d, hd, hnext⟩ := proceeds_of_dispatch hd'
      have hj : d.handle = j := hp.dispatchers j d hd
      generalize d'.phase = p at hnext hphase
      cases hnext with
      | free _ hwaiting => exact absurd hphase (hwaiting e t)
      | checked _ _ _ _ => exact absurd hphase (by simp)
      | @halted _ _ a₁ ha₁ hrest =>
          obtain rfl := Option.some.inj ((hj ▸ ha₁).symm.trans ha)
          exact h.halted hp ha hd hrest hheard
      | @waits e₁ t₁ hwait hlater =>
          obtain ⟨hsame, hops⟩ := pauses_of_early hd hwait hlater
          rw [hsame, hops]
          exact h.waiting a d e₁ t₁ ha hd hwait
    · obtain ⟨d, hd, hsame | hended⟩ := act_phase hd' hdispatch
      · exact (h.waiting a d e t ha hd (hsame.symm.trans hphase)).act hp ha hdispatch
      · exact absurd (hended.symm.trans hphase) (by simp)

/-! ## Runs of a station that was started -/

variable {config : MotionConfig} {axes : List (AxisConfig × Board)} {powered : Bool} {s₀ : Station}

theorem guarded_start (h : start config axes powered = .ok s₀) (j : Nat) : s₀.Guarded j := by
  have hstarting : ∀ d, s₀.dispatchers[j]? = some d → d.phase = .starting := by
    intro d hd
    obtain ⟨_, _, _, _, hdispatchers, _⟩ := start_ok h
    rw [hdispatchers, List.getElem?_mapIdx, Option.map_eq_some_iff] at hd
    obtain ⟨a, _, rfl⟩ := hd
    rfl
  refine ⟨fun a ha hst => ?_, fun a d e _ hd hphase => ?_, fun a d e t _ hd hphase => ?_⟩
  · obtain ⟨own, board, rfl⟩ := start_axis h ha
    exact absurd hst (by simp [Axis.create])
  · exact absurd ((hstarting d hd).symm.trans hphase) (by simp)
  · exact absurd ((hstarting d hd).symm.trans hphase) (by simp)

theorem unheard_next (h : start config axes powered = .ok s₀) (as : List Action) {a : Axis}
    (ha : (s₀.run as).machine.axes[j]? = some a) (hbumps : s₀.bumps j as + 1 < UInt32.size) :
    (s₀.run as).Unheard j (a.epoch + 1) := by
  have hstamped := (fresh_start h).stamped as ha
  have hshake : s₀.Handshake as j := (handshake_start h j).run (placed_start h) as ha
  have hnext : a.epoch + 1 = UInt32.ofNat (s₀.bumps j as + 1) := by
    rw [hstamped.epoch a ha]
    exact (UInt32.ofNat_add ..).symm
  refine ⟨fun note hf hj heq => ?_, fun r hr hj heq => ?_⟩
  · exact ((hstamped.flight note hf hj).older (q := False)).current hbumps (heq.trans hnext)
  · exact ((hshake.reversal r hr hj).older (q := False)).current hbumps (heq.trans hnext)

theorem guarded_run (h : start config axes powered = .ok s₀) {as : List Action} {a : Axis}
    (ha : (s₀.run as).machine.axes[j]? = some a) (hbumps : s₀.bumps j as < UInt32.size)
    (hnever : s₀.times (intrudes j) as = 0) : (s₀.run as).Guarded j := by
  induction as using List.reverseRecOn generalizing a with
  | nil => exact guarded_start h j
  | append_singleton as x ih =>
      obtain ⟨b, hb, heq⟩ := axis_snoc ha
      have hbefore : s₀.bumps j as < UInt32.size :=
        Nat.lt_of_le_of_lt (s₀.bumps_le_snoc j as x) hbumps
      obtain ⟨hold, hlast⟩ := never_snoc.mp hnever
      have hplaced : (s₀.run as).Placed :=
        run_induction (P := Placed) (fun _ x h => h.act x) (placed_start h) as
      rw [run_snoc]
      refine (ih hb hbefore hold).act hplaced hb hlast fun hnext => ?_
      rw [bumps_renewed hb ha (heq ▸ hnext)] at hbumps
      exact unheard_next h as hb hbumps

/-- **An axis that has stalled is at rest,** in whatever order the parties take turns, as long as the
supervisor finds no stall between the two strokes in which a command is checked and carried out. So
a move begins without the mark of a stall. -/
theorem stalled_at_rest (hstart : start config axes powered = .ok s₀) (as : List Action) {a : Axis}
    (ha : (s₀.run as).machine.axes[j]? = some a) (hbumps : s₀.bumps j as < UInt32.size)
    (hnever : s₀.times (intrudes j) as = 0) (hstalled : a.stalled = true) :
    a.mode = .stopped ∧ a.isRunning = false :=
  (guarded_run hstart ha hbumps hnever).stalled a ha hstalled

/-- A motor that is blocked is found to stall at its first report. -/
def blocked : List Action :=
  [.freeze 0 true, .dispatch 0, .supervise false, .submit "x" (.freeRun .clockwise 1), .dispatch 0,
    .dispatch 0, .dispatch 0, .timerMatch 0 false, .supervise false, .supervise false]

theorem stalled_at_rest_of_blocked :
    ∃ s₀ a, start { reportInterval := 1, stallMaxCount := 1 } [(⟨"x", 0, none⟩, {})] true = .ok s₀
      ∧ (s₀.run blocked).machine.axes[0]? = some a ∧ s₀.bumps 0 blocked < UInt32.size
      ∧ s₀.times (intrudes 0) blocked = 0 ∧ a.stalled = true ∧ a.board.toggles = 1
      ∧ a.mode = .stopped ∧ a.isRunning = false := by
  obtain ⟨s₀, a, hstart, ha, hbumps, hnever, hstalled, htoggles⟩ :
      ∃ s₀ a, start { reportInterval := 1, stallMaxCount := 1 } [(⟨"x", 0, none⟩, {})] true = .ok s₀
        ∧ (s₀.run blocked).machine.axes[0]? = some a ∧ s₀.bumps 0 blocked < UInt32.size
        ∧ s₀.times (intrudes 0) blocked = 0 ∧ a.stalled = true ∧ a.board.toggles = 1 :=
    ⟨_, _, rfl, rfl, by decide, by decide, by decide, by decide⟩
  exact ⟨s₀, a, hstart, ha, hbumps, hnever, hstalled, htoggles,
    stalled_at_rest hstart blocked ha hbumps hnever hstalled⟩

/-- The supervisor finds the stall when the next command has been checked, which does not reverse
the axis. The axis is started with the mark on it. -/
theorem running_while_stalled :
    ∃ s₀, start { reportInterval := 1, stallMaxCount := 1 } [(⟨"x", 0, none⟩, {})] true = .ok s₀
      ∧ ∃ b, (s₀.run [.freeze 0 true, .dispatch 0, .supervise false,
          .submit "x" (.freeRun .clockwise 1), .dispatch 0, .dispatch 0, .dispatch 0,
          .timerMatch 0 false, .submit "x" (.freeRun .clockwise 2), .dispatch 0, .dispatch 0,
          .supervise false, .supervise false, .dispatch 0]).machine.axes[0]? = some b
        ∧ b.stalled = true ∧ b.mode = .freeRunning ∧ b.isRunning = true :=
  ⟨_, rfl, _, rfl, by decide, by decide, by decide⟩

end Station

end StepperMotion
