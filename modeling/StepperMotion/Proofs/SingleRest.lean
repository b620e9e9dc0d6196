import StepperMotion.Proofs.Service
import StepperMotion.Proofs.Stall
import StepperMotion.Proofs.Standstill

/-!
# A command makes its axis rest once at most

A dispatcher that has halted an axis lets it rest, and then asks again whether the command would
reverse the axis. The encoder is read anew for that, so the answer may be another one, and if it is
yes the axis has to rest again. Nothing in the dispatcher keeps this from going on for ever.

What prevents it is the epoch. When the dispatcher halts the axis it begins an epoch of which nobody
else has heard, so all the reports and all the moves that were put down before are outdated, and a
timer at rest raises no match (`Dozes`). An axis that was halted in its current epoch can be
reversed at once, on whichever side the setpoint is by then.

Before the command anybody may have done anything to the axis, so its past is made of deeds.
-/

namespace StepperMotion

open Axis (Operation)

/-! ## Deeds and places -/

namespace Axis

theorem handle_effect {a b : Axis} {o : Operation} {f? : Option Fault} (h : a.Effect o b f?) :
    b.handle = a.handle := by
  cases h with
  | carried hc => exact (turn_carried hc).elim Continues.handle Renews.handle
  | served hserved => exact (continues_served hserved).handle
  | halted _ hb => rcases hb with rfl | rfl <;> rfl
  | judged hb => rcases hb with rfl | rfl <;> rfl
  | _ => rfl

end Axis

namespace Station

variable {s : Station} {j n : Nat}

theorem Placed.does (h : s.Placed) (d : Deed) : (s.does d).Placed := by
  cases d with
  | action x => exact h.act x
  | hold i o =>
      refine ⟨fun k b hb => ?_, h.dispatchers⟩
      rw [does_axes, Option.map_eq_some_iff] at hb
      obtain ⟨a, ha, rfl⟩ := hb
      refine Axis.after_induction (P := fun b => b.handle = k) (fun b o hk => ?_) (h.axes k a ha) _
      exact (Axis.handle_effect (Axis.effect_perform b o)).trans hk

/-- An axis that is there in the end was there before. -/
theorem axis_of_through {ds : List Deed} {b : Axis}
    (h : (s.through ds).machine.axes[j]? = some b) : ∃ a, s.machine.axes[j]? = some a := by
  induction ds generalizing s with
  | nil => exact ⟨b, h⟩
  | cons d ds ih =>
      obtain ⟨c, hc⟩ := ih h
      rw [does_axes, Option.map_eq_some_iff] at hc
      obtain ⟨a, ha, _⟩ := hc
      exact ⟨a, ha⟩

/-- **Axes and dispatchers keep their places, whoever does what.** -/
theorem Placed.through (h : s.Placed) (ds : List Deed) : (s.through ds).Placed := by
  induction ds generalizing s with
  | nil => exact h
  | cons d ds ih => exact ih (h.does d)

/-! ## What is remembered of an axis -/

/-- How often the epoch of axis `j` changes by some deeds. -/
def renewals (s : Station) (j : Nat) : List Deed → Nat
  | [] => 0
  | d :: ds => (if (s.does d).epoch? j = s.epoch? j then 0 else 1) + (s.does d).renewals j ds

/-- An epoch is the present one or one of the last `n` before it. -/
def Recent (n : Nat) (present epoch : UInt32) : Prop :=
  ∃ k ≤ n, present = epoch + UInt32.ofNat k

theorem Recent.now (n : Nat) (epoch : UInt32) : Recent n epoch epoch := ⟨0, Nat.zero_le n, by simp⟩

theorem Recent.next {present epoch : UInt32} (h : Recent n present epoch) :
    Recent (n + 1) (present + 1) epoch := by
  obtain ⟨k, hk, rfl⟩ := h
  refine ⟨k + 1, Nat.succ_le_succ hk, ?_⟩
  rw [UInt32.ofNat_add, UInt32.add_assoc]
  rfl

/-- The epoch that begins next is not one of the last ones, if these are few enough. -/
theorem not_recent_next {present : UInt32} (hn : n + 1 < UInt32.size) :
    ¬ Recent n present (present + 1) := by
  rintro ⟨k, hk, hpresent⟩
  -- the count would have gone once around
  have hback : present + UInt32.ofNat (k + 1) = present := by
    rw [UInt32.ofNat_add, UInt32.add_comm (UInt32.ofNat k), ← UInt32.add_assoc]
    exact hpresent.symm
  exact Axis.epoch_add_ne (Nat.succ_pos k) (by omega) hback

/-- Where nothing is reported and nothing put down, nobody has heard of any epoch. -/
theorem unheard_of_none (hqueue : s.machine.notes.items = []) (hhand : s.supervisor.inHand? = none)
    (hparked : ∀ a ∈ s.machine.axes, a.parked = none) (hreversals : s.reversals = [])
    (epoch : UInt32) : s.Unheard j epoch := by
  refine ⟨fun note hf => absurd hf fun hf => ?_, fun r hr => absurd hr (by simp [hreversals])⟩
  cases hf with
  | queued hmem => exact absurd hmem (by simp [hqueue])
  | inHand hs => exact absurd hhand (by simp [hs, Supervisor.inHand?])
  | parked ha hp => exact absurd hp (by simp [hparked _ (List.mem_of_getElem? ha)])

/-- Nobody has heard of any epoch of axis `j` but the present one and the last `n` before it. -/
def Remembers (s : Station) (j n : Nat) : Prop :=
  ∀ a, s.machine.axes[j]? = some a → ∀ epoch, ¬ Recent n a.epoch epoch → s.Unheard j epoch

theorem Remembers.unheard (h : s.Remembers j n) {a : Axis} (ha : s.machine.axes[j]? = some a)
    (hn : n + 1 < UInt32.size) : s.Unheard j (a.epoch + 1) :=
  h a ha _ (not_recent_next hn)

/-- What is new is from the epoch in which it comes up. -/
theorem Remembers.step {s' : Station} {a b : Axis} (h : s.Remembers j n)
    (ha : s.machine.axes[j]? = some a) (hb : s'.machine.axes[j]? = some b)
    (hnext : b.epoch = a.epoch ∨ b.epoch = a.epoch + 1)
    (hother : ∀ epoch, epoch ≠ a.epoch → s.Unheard j epoch → s'.Unheard j epoch) :
    s'.Remembers j (n + if s'.epoch? j = s.epoch? j then 0 else 1) := by
  -- nobody hears of an epoch that is over, and the present one is recent
  have hold : ∀ epoch, ¬ Recent n a.epoch epoch → s'.Unheard j epoch := by
    intro epoch hpast
    refine hother epoch (fun heq => hpast ?_) (h a ha epoch hpast)
    exact heq ▸ Recent.now n epoch
  intro c hc epoch hpast
  obtain rfl := Option.some.inj (hb.symm.trans hc)
  rcases hnext with hsame | hnext
  · rw [if_pos ((epoch_same_iff ha hb).mpr hsame), hsame] at hpast
    exact hold epoch hpast
  · rw [if_neg (epoch_renewed ha hb hnext), hnext] at hpast
    exact hold epoch fun hrecent => hpast hrecent.next

theorem Remembers.act {a : Axis} (h : s.Remembers j n) (hseated : s.Seated)
    (ha : s.machine.axes[j]? = some a) (x : Action) :
    (s.act x).Remembers j (n + if (s.act x).epoch? j = s.epoch? j then 0 else 1) := by
  refine h.step ha (axis_act ha x) ?_ fun epoch hne hunheard => ?_
  · exact (act_epoch s j a x).imp Axis.Continues.epoch id
  · refine hunheard.step fun note hmade hj heq => ?_
    exact hne (heq.symm.trans (hmade.about hseated hj ha).2.2.2)

/-- Whoever holds an axis lets nobody hear of an epoch, unless he parks a report. -/
theorem Unheard.hold {epoch : UInt32} {i : Nat} {o : Operation} (h : s.Unheard j epoch)
    (hpark : ∀ note, o ≠ .park note) : (s.does (.hold i o)).Unheard j epoch := by
  refine ⟨fun note hf hj => h.1 note ?_ hj, h.2⟩
  cases hf with
  | queued hmem => exact .queued hmem
  | inHand hs => exact .inHand hs
  | parked hb hp =>
      rw [does_axes, Option.map_eq_some_iff] at hb
      obtain ⟨a, ha, rfl⟩ := hb
      refine .parked ha ((Axis.parked_after hp).resolve_right fun hmem => ?_)
      simp only [deedStrokes] at hmem
      split at hmem
      · exact hpark note (List.mem_singleton.mp hmem).symm
      · exact absurd hmem (by simp)

theorem Remembers.does {a : Axis} {d : Deed} (h : s.Remembers j n) (hseated : s.Seated)
    (ha : s.machine.axes[j]? = some a) (hpark : ∀ i note, d ≠ .hold i (.park note)) :
    (s.does d).Remembers j (n + if (s.does d).epoch? j = s.epoch? j then 0 else 1) := by
  cases d with
  | action x => exact h.act hseated ha x
  | hold i o =>
      refine h.step ha (axis_does ha (.hold i o)) ?_ fun epoch _ hunheard => ?_
      · simp only [deedStrokes]
        split
        · exact Axis.epoch_perform a o
        · exact Or.inl rfl
      · exact hunheard.hold fun note heq => hpark i note (heq ▸ rfl)

/-- **Nobody remembers more of an axis than the epochs that it has begun since nobody did.** -/
theorem Remembers.through {ds : List Deed} {b : Axis} (h : s.Remembers j n) (hplaced : s.Placed)
    (hb : (s.through ds).machine.axes[j]? = some b)
    (hpark : ∀ i note, .hold i (.park note) ∉ ds) :
    (s.through ds).Remembers j (n + s.renewals j ds) := by
  induction ds generalizing s n with
  | nil => exact h
  | cons d ds ih =>
      obtain ⟨a, ha⟩ := axis_of_through hb
      have hhead : ∀ i note, d ≠ .hold i (.park note) :=
        fun i note heq => hpark i note (heq ▸ List.mem_cons_self ..)
      have htail : ∀ i note, .hold i (.park note) ∉ ds :=
        fun i note hmem => hpark i note (List.mem_cons_of_mem _ hmem)
      rw [renewals, ← Nat.add_assoc]
      exact ih (h.does hplaced.axes ha hhead) (hplaced.does d) hb htail

/-! ## A dispatcher and what it has in hand -/

def phase? (s : Station) (j : Nat) : Option Dispatcher.Phase :=
  s.dispatchers[j]?.map Dispatcher.phase

/-- Dispatcher `j` has a command in hand. -/
def engaged (s : Station) (j : Nat) : Bool := (s.phase? j).any (·.envelope?.isSome)

/-- When dispatcher `j` goes on, if it lets its axis rest. -/
def wakeMs? (s : Station) (j : Nat) : Option Nat :=
  (s.phase? j).bind fun
    | .waiting _ untilMs => some untilMs
    | _ => none

/-- Dispatcher `j` lets its axis rest. -/
def asleep (s : Station) (j : Nat) : Bool := (s.wakeMs? j).isSome

/-- It has done so for long enough. -/
def due (s : Station) (j : Nat) : Bool := (s.wakeMs? j).any (· ≤ s.nowMs)

/-- Dispatcher `j` makes a stroke that is more than a pause. -/
def works (j : Nat) (s : Station) (x : Action) : Bool :=
  decide (x = .dispatch j) && (!s.asleep j || s.due j)

/-- Dispatcher `j` makes such a stroke and lets its axis rest after it. -/
def fallsAsleep (j : Nat) (s : Station) (x : Action) : Bool :=
  s.works j x && (s.act x).asleep j

/-! ## An axis that rests for its dispatcher -/

end Station

namespace Axis

/-- The epoch goes on and the timer was not started, and nothing has become of the move and of its
lines either. -/
structure Stands (a b : Axis) : Prop extends a.Continues b, a.SameStepLine b where
  mode : b.mode = a.mode
  dirLevel : b.board.dirLevel = a.board.dirLevel

theorem Stands.refl (a : Axis) : a.Stands a := ⟨Continues.refl a, SameStepLine.refl a, rfl, rfl⟩

theorem Stands.trans {a b c : Axis} (h : a.Stands b) (h' : b.Stands c) : a.Stands c where
  toContinues := h.toContinues.trans h'.toContinues
  toSameStepLine := h.toSameStepLine.trans h'.toSameStepLine
  mode := h'.mode.trans h.mode
  dirLevel := h'.dirLevel.trans h.dirLevel

theorem Stands.halted {a b : Axis} (h : a.Stands b) (hrest : a.isRunning = false) :
    b.isHalted = a.isHalted := by
  simp only [isHalted, isQuiesced, h.mode, h.quiesced, h.epoch, h.rests hrest, hrest]

theorem stands_of_minor {a : Axis} {o : Operation} (h : o.isMinor = true)
    (hjudge : ∀ note, o = .inspect note → a.epoch ≠ note.epoch) : a.Stands (a.perform o).1 where
  toContinues := calm_of_minor h a
  toSameStepLine := stepLine_perform fun nowMs heq => by simp [heq, Operation.isMinor] at h
  dirLevel := straight_of_minor h a
  mode := by
    cases o with
    | inspect note => rw [perform, inspect_outdated (hjudge note rfl)]
    | setOffset offset => rfl
    | status => rfl
    | takeParked => rfl
    | place position => rfl
    | freeze frozen => rfl
    | limitTimer hz => rfl
    | _ => exact absurd h (by simp [Operation.isMinor])

end Axis

namespace Station

variable {s : Station} {j n : Nat} {a : Axis} {x : Action}

/-- The axis is halted and its timer at rest, and nobody else has heard of its epoch. -/
structure Dozes (s : Station) (j : Nat) (a : Axis) : Prop where
  rests : a.isRunning = false
  halted : a.isHalted = true
  unheard : s.Unheard j a.epoch

/-- **Nobody but its dispatcher does anything to an axis that rests for it,** if nobody stops it. -/
theorem Dozes.stands (h : s.Dozes j a) (hplaced : s.Placed) (hdispatch : x ≠ .dispatch j)
    (hstop : x ≠ .stopAxis j) : a.Stands (a.after (s.strokes j a x)) := by
  have hmem : ∀ note, .inspect note ∈ s.strokes j a x → a.epoch ≠ note.epoch := by
    intro note hmem heq
    obtain ⟨hjudged, hj, _⟩ := judged_of_inspect hmem
    exact h.unheard.1 note (inFlight_of_judged hjudged) hj heq.symm
  have hstruck := s.strokes_struck j a x
  generalize s.strokes j a x = ops at hmem hstruck ⊢
  cases hstruck with
  | alone => exact Axis.Stands.refl a
  | @minor _ o hminor =>
      exact Axis.stands_of_minor hminor fun note heq => hmem note (heq ▸ List.mem_cons_self ..)
  | matched hrun => exact absurd (hrun.symm.trans h.rests) (by simp)
  | @dispatched i d hd hj =>
      exact absurd (by rw [← hj, hplaced.dispatchers i d hd]) hdispatch
  | @resumed id r hr _ hj =>
      -- the move was put down in another epoch
      have hold : a.epoch ≠ r.note.epoch := fun heq => h.unheard.2 r hr hj heq.symm
      simp only [Axis.after_cons, Axis.after_nil, Axis.perform, Axis.resume_outdated hold s.nowMs]
      exact Axis.Stands.refl a
  | stopped => exact absurd rfl hstop

theorem Dozes.act (h : s.Dozes j a) (hplaced : s.Placed) (ha : s.machine.axes[j]? = some a)
    (hdispatch : x ≠ .dispatch j) (hstop : x ≠ .stopAxis j) :
    (s.act x).Dozes j (a.after (s.strokes j a x)) := by
  have hs : a.Stands (a.after (s.strokes j a x)) := h.stands hplaced hdispatch hstop
  refine ⟨hs.rests h.rests, (hs.halted h.rests).trans h.halted, ?_⟩
  rw [hs.epoch]
  exact h.unheard.act hplaced.axes ha h.rests x

/-! ## The strokes of a dispatcher with a command in hand -/

/-- The phases of a dispatcher with a command in hand before and after a stroke. -/
inductive Advances (nowMs : Nat) : Dispatcher.Phase → Dispatcher.Phase → Prop where
  | pauses {e : Envelope} {untilMs : Nat} (hlater : ¬ untilMs ≤ nowMs) :
      Advances nowMs (.waiting e untilMs) (.waiting e untilMs)
  | readies {e : Envelope} : Advances nowMs (.received e) (.ready e)
  /-- Only a dispatcher that does not wait yet lets its axis rest. -/
  | rests {p : Dispatcher.Phase} {e e' : Envelope} {untilMs : Nat}
      (hp : p = .received e ∨ p = .ready e) : Advances nowMs p (.waiting e' untilMs)
  | ends {p q : Dispatcher.Phase} (hq : q.envelope? = none) : Advances nowMs p q

theorem phase_some {p : Dispatcher.Phase} :
    s.phase? j = some p ↔ ∃ d, s.dispatchers[j]? = some d ∧ d.phase = p := Option.map_eq_some_iff

theorem wakeMs_some {untilMs : Nat} :
    s.wakeMs? j = some untilMs ↔ ∃ e, s.phase? j = some (.waiting e untilMs) := by
  constructor
  · intro h
    obtain ⟨p, hp, ht⟩ := Option.bind_eq_some_iff.mp h
    cases p with
    | waiting e t =>
        obtain rfl := Option.some.inj ht
        exact ⟨e, hp⟩
    | _ => exact absurd ht (by simp)
  · rintro ⟨e, hp⟩
    simp [wakeMs?, hp]

theorem asleep_iff : s.asleep j = true ↔ ∃ e untilMs, s.phase? j = some (.waiting e untilMs) := by
  rw [asleep, Option.isSome_iff_exists, exists_comm]
  simp only [wakeMs_some]

theorem engaged_iff :
    s.engaged j = true ↔ ∃ p, s.phase? j = some p ∧ p.envelope?.isSome = true := by
  simp only [engaged, Option.any_eq_true]

theorem engaged_of_asleep (h : s.asleep j = true) : s.engaged j = true := by
  obtain ⟨e, untilMs, hp⟩ := asleep_iff.mp h
  exact engaged_iff.mpr ⟨_, hp, rfl⟩

/-- **A dispatcher does not let an axis rest that rests for it already.** -/
theorem advances_dispatch {d : Dispatcher} (hplaced : s.Placed) (hd : s.dispatchers[j]? = some d)
    (ha : s.machine.axes[j]? = some a) (he : d.phase.envelope?.isSome = true)
    (hdoze : s.asleep j = true → s.Dozes j a) :
    ∃ d', (s.act (.dispatch j)).dispatchers[j]? = some d' ∧ Advances s.nowMs d.phase d'.phase := by
  have hj : d.handle = j := hplaced.dispatchers j d hd
  obtain ⟨d', replies, hserves, hoffice⟩ := dispatch_serves hd (hj.symm ▸ ha)
  refine ⟨d', ?_, ?_⟩
  · rw [act, (Office.mk.inj hoffice).1]
    exact set_get hd
  · cases hserves with
    | begins hp => exact absurd he (by simp [hp, Dispatcher.Phase.envelope?])
    | takes hp _ => exact absurd he (by simp [hp, Dispatcher.Phase.envelope?])
    | idles hp _ _ => exact absurd he (by simp [hp, Dispatcher.Phase.envelope?])
    | ends hp _ => exact absurd he (by simp [hp, Dispatcher.Phase.envelope?])
    | readies hp _ =>
        rw [hp]
        exact .readies
    | rests _ hrest =>
        cases hp : d.phase with
        | received e => exact .rests (Or.inl rfl)
        | ready e => exact .rests (Or.inr rfl)
        | waiting e untilMs =>
            -- wherever the setpoint is by now, an axis that is halted can be reversed at once
            have hhalted : a.isHalted = true :=
              (hdoze (asleep_iff.mpr ⟨e, untilMs, phase_some.mpr ⟨d, hd, hp⟩⟩)).halted
            simp [hp, Axis.hasToRest, Axis.attempt_of_halted hhalted] at hrest
        | _ => exact absurd hrest (by simp [hp, Axis.hasToRest])
    | waits hp hlater =>
        rw [hp]
        exact .pauses hlater
    | finishes _ _ _ => exact .ends rfl
    | fails _ _ => exact .ends rfl
    | gone hp =>
        obtain ⟨e, he⟩ := Option.isSome_iff_exists.mp he
        exact absurd hp (by simp [Dispatcher.Phase.live_of_envelope he])

/-- Nobody else makes a dispatcher do anything, but it may be called off. -/
theorem phase_act (hx : x ≠ .dispatch j) :
    (s.act x).phase? j = s.phase? j ∨ ∀ p, (s.act x).phase? j = some p → p = .ended := by
  cases hd' : (s.act x).dispatchers[j]? with
  | none => exact Or.inr fun p hp => absurd hp (by simp [phase?, hd'])
  | some d' =>
      obtain ⟨d, hd, hsame | hended⟩ := act_phase hd' hx
      · exact Or.inl (by simp [phase?, hd, hd', hsame])
      · refine Or.inr fun p hp => ?_
        simpa [phase?, hd', hended] using hp.symm

/-! ## The process of a command -/

/-- The process of a command by dispatcher `j`, with what is still to come while it goes on. -/
structure Process (s : Station) (j : Nat) (as : List Action) : Prop where
  placed : s.Placed
  axis : ∃ a, s.machine.axes[j]? = some a
  /-- No epoch comes back of which somebody has heard. -/
  remembers : ∃ n, s.Remembers j n ∧ n + s.bumps j as < UInt32.size
  /-- The dispatcher has the command in hand whenever something is to come. -/
  engaged : s.times (fun s _ => !s.engaged j) as = 0
  /-- Nobody stops the axis from outside. -/
  unstopped : .stopAxis j ∉ as
  /-- The axis is left alone while it rests. -/
  dozes : ∀ a, s.machine.axes[j]? = some a → s.asleep j = true → s.Dozes j a

variable {as bs : List Action}

theorem Process.isEngaged (h : s.Process j (x :: as)) : s.engaged j = true := by
  have hnow := (Nat.add_eq_zero_iff.mp h.engaged).1
  cases he : s.engaged j with
  | true => rfl
  | false => simp [he] at hnow

theorem Process.stroke (h : s.Process j as) {p : Dispatcher.Phase} (hp : s.phase? j = some p)
    (he : p.envelope?.isSome = true) :
    ∃ q, (s.act (.dispatch j)).phase? j = some q ∧ Advances s.nowMs p q := by
  obtain ⟨d, hd, rfl⟩ := phase_some.mp hp
  obtain ⟨a, ha⟩ := h.axis
  obtain ⟨d', hd', hadv⟩ := advances_dispatch h.placed hd ha he (h.dozes a ha)
  exact ⟨d'.phase, phase_some.mpr ⟨d', hd', rfl⟩, hadv⟩

/-- **An axis that falls asleep was halted just now, in an epoch of which nobody has heard.** -/
theorem Process.falls (h : s.Process j (.dispatch j :: as)) (ha : s.machine.axes[j]? = some a)
    (hasleep : (s.act (.dispatch j)).asleep j = true) :
    (s.act (.dispatch j)).Dozes j (a.after (s.strokes j a (.dispatch j))) := by
  obtain ⟨e, untilMs, hp⟩ := asleep_iff.mp hasleep
  obtain ⟨d', hd', hphase⟩ := phase_some.mp hp
  obtain ⟨d, hd, hnext⟩ := proceeds_of_dispatch hd'
  have hj : d.handle = j := h.placed.dispatchers j d hd
  have hops : s.strokes j a (.dispatch j) = a.phaseStrokes s.nowMs d.phase :=
    strokes_of_dispatcher hd hj a
  rw [hphase] at hnext
  cases hnext with
  | free _ hwaiting => exact absurd rfl (hwaiting e untilMs)
  | halted ha₁ hrest =>
      obtain rfl := Option.some.inj (ha.symm.trans (hj ▸ ha₁))
      obtain ⟨n, hremembers, hn⟩ := h.remembers
      have hq : a.Quiesces (a.after (s.strokes j a (.dispatch j))) :=
        hops ▸ Axis.quiesces_of_hasToRest hrest
      rw [bumps, if_neg (epoch_renewed ha (axis_act ha _) hq.epoch)] at hn
      refine ⟨hq.rests, hq.halted, ?_⟩
      rw [hq.epoch]
      exact (hremembers.unheard ha (by omega)).dispatch
  | waits hwait hlater =>
      obtain ⟨hsame, hnone⟩ := pauses_of_early hd hwait hlater
      rw [hsame] at hasleep ⊢
      rw [hnone]
      exact h.dozes a ha hasleep

/-- **A process goes on by whatever happens.** -/
theorem Process.act (h : s.Process j (x :: as)) : (s.act x).Process j as := by
  obtain ⟨a, ha⟩ := h.axis
  have hb : (s.act x).machine.axes[j]? = some (a.after (s.strokes j a x)) := axis_act ha x
  obtain ⟨n, hremembers, hn⟩ := h.remembers
  refine ⟨h.placed.act x, ⟨_, hb⟩, ⟨_, hremembers.act h.placed.axes ha x, ?_⟩,
    (Nat.add_eq_zero_iff.mp h.engaged).2, fun hmem => h.unstopped (List.mem_cons_of_mem _ hmem),
    fun b hb' hasleep => ?_⟩
  · rw [bumps] at hn
    omega
  · obtain rfl := Option.some.inj (hb.symm.trans hb')
    by_cases hdispatch : x = .dispatch j
    · subst hdispatch
      exact h.falls ha hasleep
    · obtain ⟨e, untilMs, hp⟩ := asleep_iff.mp hasleep
      rcases phase_act hdispatch with hsame | hended
      · have hbefore : s.asleep j = true := asleep_iff.mpr ⟨e, untilMs, hsame.symm.trans hp⟩
        refine (h.dozes a ha hbefore).act h.placed ha hdispatch fun heq => ?_
        exact h.unstopped (heq ▸ List.mem_cons_self ..)
      · exact absurd (hended _ hp) (by simp)

theorem Process.run (h : s.Process j (as ++ bs)) : (s.run as).Process j bs := by
  induction as generalizing s with
  | nil => exact h
  | cons x as ih => exact ih h.act

/-- So many of something are left to do for a dispatcher with a command in hand. -/
def left (s : Station) (j : Nat) (f : Dispatcher.Phase → Nat) : Nat := (s.phase? j).elim 0 f

/-- **Whatever is done is not left to do.** Only a stroke of the dispatcher counts, so it is enough
to look at the phases before and after one. -/
theorem Process.times_le {p : Station → Action → Bool} {f : Dispatcher.Phase → Nat}
    (hended : f .ended = 0) (hother : ∀ s x, x ≠ .dispatch j → p s x = false)
    (hstroke : ∀ (s : Station) (q q' : Dispatcher.Phase), s.phase? j = some q →
      (s.act (.dispatch j)).phase? j = some q' → q.envelope?.isSome = true →
      Advances s.nowMs q q' → (if p s (.dispatch j) then 1 else 0) + f q' ≤ f q)
    (h : s.Process j as) : s.times p as ≤ s.left j f := by
  induction as generalizing s with
  | nil => exact Nat.zero_le _
  | cons x as ih =>
      have hrest := ih h.act
      have hnow : (if p s x then 1 else 0) + (s.act x).left j f ≤ s.left j f := by
        by_cases hx : x = .dispatch j
        · subst hx
          obtain ⟨q, hq, he⟩ := engaged_iff.mp h.isEngaged
          obtain ⟨q', hq', hadv⟩ := h.stroke hq he
          have hless := hstroke s q q' hq hq' he hadv
          simpa [left, hq, hq'] using hless
        · rw [hother s x hx]
          unfold left
          rcases phase_act (s := s) hx with hsame | hended'
          · simp [hsame]
          · cases hq' : (s.act x).phase? j with
            | none => simp
            | some q' => simp [hended' q' hq', hended]
      rw [times]
      omega

/-- How many strokes a dispatcher needs at most to finish the command that it has in hand. -/
def strokesLeft : Dispatcher.Phase → Nat
  | .received _ => 3
  | .ready _ => 2
  | .waiting .. => 1
  | _ => 0

/-- How often it lets its axis rest before that. -/
def restsLeft : Dispatcher.Phase → Nat
  | .received _ | .ready _ => 1
  | _ => 0

theorem strokesLeft_eq_zero {p : Dispatcher.Phase} : strokesLeft p = 0 ↔ p.envelope? = none := by
  cases p <;> simp [strokesLeft, Dispatcher.Phase.envelope?]

theorem restsLeft_le (p : Dispatcher.Phase) : restsLeft p ≤ strokesLeft p := by
  cases p <;> simp [strokesLeft, restsLeft]

theorem Process.strokes_le (h : s.Process j as) : s.times (works j) as ≤ s.left j strokesLeft := by
  refine h.times_le rfl (fun s x hx => ?_) fun s q q' hq _ he hadv => ?_
  · simp [works, hx]
  · cases hadv with
    | pauses hlater => simp [works, asleep, due, wakeMs?, hq, hlater, strokesLeft]
    | readies => split <;> simp [strokesLeft]
    | rests hp => rcases hp with rfl | rfl <;> split <;> simp [strokesLeft]
    | ends hends =>
        have hnone : strokesLeft q' = 0 := strokesLeft_eq_zero.mpr hends
        have hsome : strokesLeft q ≠ 0 := by
          rw [Ne, strokesLeft_eq_zero]
          exact Option.isSome_iff_ne_none.mp he
        split <;> omega

theorem Process.rests_le (h : s.Process j as) :
    s.times (fallsAsleep j) as ≤ s.left j restsLeft := by
  refine h.times_le rfl (fun s x hx => ?_) fun s q q' hq hq' he hadv => ?_
  · simp [fallsAsleep, works, hx]
  · cases hadv with
    | pauses hlater => simp [fallsAsleep, works, asleep, due, wakeMs?, hq, hlater, restsLeft]
    | readies => simp [fallsAsleep, asleep, wakeMs?, hq', restsLeft]
    | rests hp => rcases hp with rfl | rfl <;> split <;> simp [restsLeft]
    | ends hends =>
        have hawake : (s.act (.dispatch j)).asleep j = false := by
          cases hasleep : (s.act (.dispatch j)).asleep j with
          | false => rfl
          | true =>
              obtain ⟨e, untilMs, hp⟩ := asleep_iff.mp hasleep
              obtain rfl := Option.some.inj (hq'.symm.trans hp)
              exact absurd hends (by simp [Dispatcher.Phase.envelope?])
        have hnone : restsLeft q' = 0 :=
          Nat.le_zero.mp (strokesLeft_eq_zero.mpr hends ▸ restsLeft_le q')
        simp [fallsAsleep, hawake, hnone]

/-- **When the axis has rested for long enough, the command is finished.** -/
theorem Process.wakes (h : s.Process j as) (hdue : s.due j = true) :
    (s.act (.dispatch j)).engaged j = false := by
  obtain ⟨untilMs, ht, hle⟩ := (Option.any_eq_true ..).mp hdue
  obtain ⟨e, hp⟩ := wakeMs_some.mp ht
  obtain ⟨q, hq, hadv⟩ := h.stroke hp rfl
  cases hadv with
  | pauses hlater => exact absurd (of_decide_eq_true hle) hlater
  | rests hp => exact absurd hp (by simp)
  | ends hends => simp [Station.engaged, hq, hends]

/-- A dispatcher that sleeps in the end has its command in hand before. -/
theorem Process.engaged_of_sleep (h : s.Process j as) (hlast : (s.run as).asleep j = true) :
    s.engaged j = true := by
  cases as with
  | nil => exact engaged_of_asleep hlast
  | cons x as => exact h.isEngaged

/-- By an action between two times at which the dispatcher sleeps it does not wake up. -/
theorem Process.sleeps (h : s.Process j (x :: as)) (hbefore : s.asleep j = true)
    (hlast : (s.run (x :: as)).asleep j = true) (ha : s.machine.axes[j]? = some a) :
    (s.act x).asleep j = true ∧ a.Stands (a.after (s.strokes j a x)) := by
  have hengaged : (s.act x).engaged j = true := h.act.engaged_of_sleep hlast
  obtain ⟨e, untilMs, hp⟩ := asleep_iff.mp hbefore
  obtain ⟨q, hq, he⟩ := engaged_iff.mp hengaged
  by_cases hdispatch : x = .dispatch j
  · -- a stroke that is no pause would finish the command
    subst hdispatch
    obtain ⟨q', hq', hadv⟩ := h.stroke hp rfl
    obtain rfl := Option.some.inj (hq.symm.trans hq')
    cases hadv with
    | pauses hlater =>
        obtain ⟨d, hd, hphase⟩ := phase_some.mp hp
        obtain ⟨_, hnone⟩ := pauses_of_early hd hphase hlater
        refine ⟨asleep_iff.mpr ⟨e, untilMs, hq⟩, ?_⟩
        rw [hnone]
        exact Axis.Stands.refl a
    | rests hp => exact absurd hp (by simp)
    | ends hends => exact absurd he (by simp [hends])
  · rcases phase_act hdispatch with hsame | hended
    · refine ⟨asleep_iff.mpr ⟨e, untilMs, hsame.trans hp⟩, ?_⟩
      refine (h.dozes a ha hbefore).stands h.placed hdispatch fun heq => ?_
      exact h.unstopped (heq ▸ List.mem_cons_self ..)
    · rw [hended q hq] at he
      exact absurd he (by simp [Dispatcher.Phase.envelope?])

/-- **While a dispatcher sleeps, its axis stands still.** -/
theorem Process.still (h : s.Process j as) (ha : s.machine.axes[j]? = some a)
    (hbefore : s.asleep j = true) (hlast : (s.run as).asleep j = true) {b : Axis}
    (hb : (s.run as).machine.axes[j]? = some b) : a.Stands b := by
  induction as generalizing s a with
  | nil =>
      obtain rfl := Option.some.inj (ha.symm.trans hb)
      exact Axis.Stands.refl a
  | cons x as ih =>
      obtain ⟨hasleep, hstands⟩ := h.sleeps hbefore hlast ha
      have hnext : (s.act x).machine.axes[j]? = some (a.after (s.strokes j a x)) := axis_act ha x
      exact hstands.trans (ih h.act hnext hasleep hlast hb)

/-! ## The command of a station that was started -/

/-- What becomes of the command that dispatcher `j` has received while other things happen. -/
structure RestsOnce (s : Station) (j : Nat) (during : List Action) : Prop where
  /-- The dispatcher is at it for three strokes at most. -/
  strokes : s.times (works j) during ≤ 3
  /-- It does not let the axis rest a second time. -/
  once : s.times (fallsAsleep j) during ≤ 1
  /-- When the axis has rested for long enough, the next stroke finishes the command. -/
  wakes : (s.run during).due j = true → ((s.run during).act (.dispatch j)).engaged j = false
  /-- Between any two times at which the axis rests it stands still. -/
  still : ∀ us vs a b, during = us ++ vs →
    (s.run us).asleep j = true → (s.run during).asleep j = true →
    (s.run us).machine.axes[j]? = some a → (s.run during).machine.axes[j]? = some b →
    a.Stands b ∧ b.isRunning = false

theorem Process.restsOnce {e : Envelope} (h : s.Process j as)
    (hreceived : s.phase? j = some (.received e)) : s.RestsOnce j as where
  strokes := by simpa [left, hreceived, strokesLeft] using h.strokes_le
  once := by simpa [left, hreceived, restsLeft] using h.rests_le
  wakes hdue := by
    rw [← List.append_nil as] at h
    exact h.run.wakes hdue
  still us vs a b hsplit hbefore hlast ha hb := by
    subst hsplit
    rw [run_append] at hlast hb
    have hstands : a.Stands b := h.run.still ha hbefore hlast hb
    exact ⟨hstands, hstands.rests (h.run.dozes a ha hbefore).rests⟩

variable {config : MotionConfig} {axes : List (AxisConfig × Board)} {powered : Bool} {s₀ : Station}

/-- **A command makes its axis rest once at most.** Whatever was done to the axis before and
whoever did it, and whatever the matches of its timer, the supervisor, moves that go on and the
encoder do to it while the dispatcher has the command in hand, the dispatcher does not let the axis
rest a second time, and while it rests it stands still.

Nobody stops the axis from outside meanwhile. Its epoch does not come back as long as anything is
remembered of it: there are few enough epochs since nothing was, and since then only the station
parks reports. -/
theorem rests_once (hstart : start config axes powered = .ok s₀) (earlier since : List Deed)
    (during : List Action) {a : Axis} {e : Envelope}
    (hclear : ∀ epoch, (s₀.through earlier).Unheard j epoch)
    (hpark : ∀ i note, .hold i (.park note) ∉ since)
    (ha : (s₀.through (earlier ++ since)).machine.axes[j]? = some a)
    (hreceived : (s₀.through (earlier ++ since)).phase? j = some (.received e))
    (hengaged : (s₀.through (earlier ++ since)).times (fun s _ => !s.engaged j) during = 0)
    (hstop : .stopAxis j ∉ during)
    (hbumps : (s₀.through earlier).renewals j since
      + (s₀.through (earlier ++ since)).bumps j during < UInt32.size) :
    (s₀.through (earlier ++ since)).RestsOnce j during := by
  have hplaced : (s₀.through earlier).Placed := (placed_start hstart).through earlier
  have hremembers : (s₀.through earlier).Remembers j 0 := fun _ _ epoch _ => hclear epoch
  rw [through_append] at ha hreceived hengaged hbumps ⊢
  have hthen := hplaced.through since
  have hknown := hremembers.through hplaced ha hpark
  rw [Nat.zero_add] at hknown
  generalize (s₀.through earlier).through since = s at *
  have hawake : s.asleep j ≠ true := by
    intro hasleep
    obtain ⟨e', untilMs, hp⟩ := asleep_iff.mp hasleep
    exact absurd (hreceived.symm.trans hp) (by simp)
  exact Process.restsOnce ⟨hthen, ⟨a, ha⟩, ⟨_, hknown, hbumps⟩, hengaged, hstop,
    fun _ _ hasleep => absurd hasleep hawake⟩ hreceived

/-- A closed-loop move is on its way. -/
def underWay : List Deed :=
  ([.dispatch 0, .supervise false, .submit "x" (.closedLoop 500), .dispatch 0, .dispatch 0,
    .dispatch 0, .timerMatch 0 false] : List Action).map .action

/-- It has passed its setpoint and was put down to go back, and somebody has asked about it, and
then there comes a command for a setpoint on the other side. -/
def passed : List Deed :=
  .hold 0 .status :: ([.place 0 900, .timerMatch 0 false, .supervise false, .supervise false,
    .submit "x" (.closedLoop 0), .dispatch 0] : List Action).map .action

/-- While the axis rests the shaft is turned beyond that setpoint, and the old move is due. -/
def turnedBy : List Action :=
  [.dispatch 0, .dispatch 0, .timerMatch 0 false, .place 0 (-900), .supervise false, .pass 500,
    .reverse 0]

theorem rests_once_of_passed :
    ∃ s₀ a e, start {} [(⟨"x", 0, none⟩, {})] true = .ok s₀
      ∧ (s₀.through (underWay ++ passed)).reversals ≠ []
      ∧ (s₀.through (underWay ++ passed)).machine.axes[0]? = some a ∧ a.mode = .closedLoop
      ∧ (s₀.through (underWay ++ passed)).phase? 0 = some (.received e)
      ∧ (s₀.through (underWay ++ passed)).times (fallsAsleep 0) turnedBy = 1
      ∧ ((s₀.through (underWay ++ passed)).run turnedBy).due 0 = true
      ∧ (s₀.through (underWay ++ passed)).RestsOnce 0 turnedBy := by
  obtain ⟨s₀, a, e, hstart, hqueue, hhand, hparked, hnone, hrev, ha, hm, hreceived, hengaged, honce,
      hdue, hbumps⟩ :
      ∃ s₀ a e, start {} [(⟨"x", 0, none⟩, {})] true = .ok s₀
        ∧ (s₀.through underWay).machine.notes.items = []
        ∧ (s₀.through underWay).supervisor.inHand? = none
        ∧ (∀ a ∈ (s₀.through underWay).machine.axes, a.parked = none)
        ∧ (s₀.through underWay).reversals = []
        ∧ (s₀.through (underWay ++ passed)).reversals ≠ []
        ∧ (s₀.through (underWay ++ passed)).machine.axes[0]? = some a ∧ a.mode = .closedLoop
        ∧ (s₀.through (underWay ++ passed)).phase? 0 = some (.received e)
        ∧ (s₀.through (underWay ++ passed)).times (fun s _ => !s.engaged 0) turnedBy = 0
        ∧ (s₀.through (underWay ++ passed)).times (fallsAsleep 0) turnedBy = 1
        ∧ ((s₀.through (underWay ++ passed)).run turnedBy).due 0 = true
        ∧ (s₀.through underWay).renewals 0 passed
          + (s₀.through (underWay ++ passed)).bumps 0 turnedBy < UInt32.size :=
    ⟨_, _, _, rfl, rfl, rfl, by decide, rfl, by decide, rfl, by decide, rfl, by decide, by decide,
      by decide, by decide⟩
  exact ⟨s₀, a, e, hstart, hrev, ha, hm, hreceived, honce, hdue,
    rests_once hstart underWay passed turnedBy (unheard_of_none hqueue hhand hparked hnone)
      (by simp [passed]) ha hreceived hengaged (by simp [turnedBy]) hbumps⟩

end Station

end StepperMotion
