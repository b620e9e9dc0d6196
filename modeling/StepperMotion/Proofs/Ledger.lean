import StepperMotion.Proofs.Service
import Mathlib.Data.List.Induction
import Mathlib.Data.List.Pairwise

/-!
# The books about the commands

Three books are kept about the commands for an axis: of those that were accepted, of those that the
dispatcher took, and of those that it finished, with their results. Each is the beginning of the one
before, and what is missing is in the inbox or in the hands of the dispatcher (`Ledger`). A command
whose answer somebody waits for has a ticket that no other command has (`Ticketed`), and so the answer
with this ticket is the result of this command (`takeReply_iff`).
-/

namespace StepperMotion

open Dispatcher.Phase (busy_of_envelope)

namespace Station

/-! ## The three books -/

/-- What has been written down after a run by somebody who writes down one thing for an action at
most. -/
def history {α : Type} (s : Station) (note? : Station → Action → Option α) : List Action → List α
  | [] => []
  | x :: as => (note? s x).toList ++ (s.act x).history note? as

theorem history_append {α : Type} (s : Station) (note? : Station → Action → Option α)
    (as bs : List Action) :
    s.history note? (as ++ bs) = s.history note? as ++ (s.run as).history note? bs := by
  induction as generalizing s with
  | nil => rfl
  | cons x as ih => rw [List.cons_append, history, history, ih, run_cons, List.append_assoc]

theorem history_snoc {α : Type} (s : Station) (note? : Station → Action → Option α)
    (as : List Action) (x : Action) :
    s.history note? (as ++ [x]) = s.history note? as ++ (note? (s.run as) x).toList := by
  rw [history_append, history, history, List.append_nil]

/-- The command that is put into the inbox of dispatcher `i`. -/
def accepted? (i : Nat) (s : Station) (x : Action) : Option Envelope :=
  match s.offer? x with
  | none => none
  | some (axis, e) =>
    if s.machine.handle? axis = some i ∧ (s.enqueue axis e).2.isOk = true then some e else none

/-- The command that dispatcher `i` takes out of its inbox. -/
def taken? (i : Nat) (s : Station) (x : Action) : Option Envelope :=
  match s.dispatchers[i]? with
  | none => none
  | some d => if x = .dispatch i ∧ d.phase = .idle then d.inbox.items.head? else none

/-- The command that dispatcher `i` finishes, and its result on the axis. -/
def finished? (i : Nat) (s : Station) (x : Action) :
    Option (Envelope × Except MotionError Outcome) :=
  match s.dispatchers[i]?, s.machine.axes[i]? with
  | some d, some a =>
    if x = .dispatch i then
      match d.phase.envelope?, (a.result? s.nowMs d.phase).bind answer? with
      | some e, some result => some (e, result)
      | _, _ => none
    else none
  | _, _ => none

end Station

/-- What becomes of the commands of a dispatcher by an action that puts one into its inbox, or takes
one out, or finishes one. -/
inductive Dispatcher.Handles (d : Dispatcher) :
    Dispatcher → Option Envelope → Option Envelope →
      Option (Envelope × Except MotionError Outcome) → Prop where
  | keeps {d' : Dispatcher} (hitems : d'.inbox.items = d.inbox.items)
      (hhand : d'.phase.envelope? = d.phase.envelope?) : Handles d d' none none none
  | accepts {d' : Dispatcher} {e : Envelope} (hitems : d'.inbox.items = d.inbox.items ++ [e])
      (hhand : d'.phase.envelope? = d.phase.envelope?) : Handles d d' (some e) none none
  | takes {d' : Dispatcher} {e : Envelope} (hitems : d.inbox.items = e :: d'.inbox.items)
      (hbefore : d.phase.envelope? = none) (hafter : d'.phase.envelope? = some e) :
      Handles d d' none (some e) none
  | finishes {d' : Dispatcher} {e : Envelope} {result : Except MotionError Outcome}
      (hitems : d'.inbox.items = d.inbox.items) (hbefore : d.phase.envelope? = some e)
      (hafter : d'.phase.envelope? = none) : Handles d d' none none (some (e, result))

namespace Station

variable {s : Station} {i : Nat} {d d' : Dispatcher} {a : Axis} {e : Envelope}

theorem accepted_refused {x : Action}
    (h : ∀ axis e, s.offer? x = some (axis, e) → (s.enqueue axis e).2 ≠ .ok ()) :
    s.accepted? i x = none := by
  unfold accepted?
  split
  · rfl
  · rename_i axis e hoffer
    refine if_neg fun haccepted => h axis e hoffer ?_
    cases hans : (s.enqueue axis e).2 with
    | ok u => rfl
    | error r => exact absurd haccepted.2 (by simp [hans, Except.isOk, Except.toBool])

/-- A command that is accepted is written down in the book of its axis, and in no other. -/
theorem accepted_offered {x : Action} {axis : String} {k : Nat}
    (hoffer : s.offer? x = some (axis, e)) (hk : s.machine.handle? axis = some k)
    (hok : (s.enqueue axis e).2 = .ok ()) :
    s.accepted? i x = if k = i then some e else none := by
  simp [accepted?, hoffer, hk, hok, Except.isOk, Except.toBool]

/-- Nothing is taken or finished but by the dispatcher. -/
theorem untouched {x : Action} (hx : x ≠ .dispatch i) :
    s.taken? i x = none ∧ s.finished? i x = none := by
  constructor
  · unfold taken?
    split
    · rfl
    · exact if_neg fun h => hx h.1
  · unfold finished?
    split
    · exact if_neg hx
    · rfl

theorem finished_eq (hd : s.dispatchers[i]? = some d) (ha : s.machine.axes[i]? = some a) :
    s.finished? i (.dispatch i)
      = match d.phase.envelope?, (a.result? s.nowMs d.phase).bind answer? with
        | some e, some result => some (e, result)
        | _, _ => none := by
  simp only [finished?, hd, ha, if_true]

theorem finished_none (hd : s.dispatchers[i]? = some d) (ha : s.machine.axes[i]? = some a)
    (h : d.phase.envelope? = none ∨ a.result? s.nowMs d.phase = none) :
    s.finished? i (.dispatch i) = none := by
  rw [finished_eq hd ha]
  rcases h with h | h
  · rw [h]
  · rw [h]
    cases d.phase.envelope? <;> rfl

theorem taken_none (hd : s.dispatchers[i]? = some d)
    (h : d.phase ≠ .idle ∨ d.inbox.items = []) : s.taken? i (.dispatch i) = none := by
  simp only [taken?, hd, true_and]
  split
  · rename_i hp
    rw [h.resolve_left fun hnot => hnot hp]
    rfl
  · rfl

/-- **What a stroke of a dispatcher does is what is written down about it.** -/
theorem handles_of_serves {replies : List Reply} (hd : s.dispatchers[i]? = some d)
    (ha : s.machine.axes[i]? = some a) (hduty : s.OnDuty d) (hserves : d.Serves s a d' replies)
    (hlive : d'.phase.isLive = true) :
    d.Handles d' none (s.taken? i (.dispatch i)) (s.finished? i (.dispatch i))
      ∧ replies = (s.finished? i (.dispatch i)).toList.filterMap fun p => p.1.reply? p.2 := by
  cases hserves with
  | begins hp =>
      rw [taken_none hd (Or.inl (by simp [hp])), finished_none hd ha (Or.inl (by rw [hp]; rfl))]
      exact ⟨.keeps rfl (by rw [hp]; rfl), rfl⟩
  | @takes e rest hp hitems =>
      have htaken : s.taken? i (.dispatch i) = some e := by
        simp only [taken?, hd, hp, and_self, if_true, hitems, List.head?_cons]
      rw [htaken, finished_none hd ha (Or.inl (by rw [hp]; rfl))]
      exact ⟨.takes hitems (by rw [hp]; rfl) rfl, rfl⟩
  | idles hp hitems _ =>
      rw [taken_none hd (Or.inr hitems), finished_none hd ha (Or.inl (by rw [hp]; rfl))]
      exact ⟨.keeps rfl rfl, rfl⟩
  | ends _ hhung => exact absurd (hhung.symm.trans hduty.hungUp) (by simp)
  | readies hp hr =>
      rw [taken_none hd (Or.inl (by simp [hp])), finished_none hd ha (Or.inr hr)]
      exact ⟨.keeps rfl (by rw [hp]; rfl), rfl⟩
  | rests he hrest =>
      rw [taken_none hd (Or.inl (busy_of_envelope he)),
        finished_none hd ha (Or.inr (Axis.result_of_hasToRest hrest))]
      exact ⟨.keeps rfl he.symm, rfl⟩
  | waits hp hlater =>
      have hr : a.result? s.nowMs d.phase = none := by rw [hp, Axis.result?, if_neg hlater]
      rw [taken_none hd (Or.inl (by simp [hp])), finished_none hd ha (Or.inr hr)]
      exact ⟨.keeps rfl rfl, rfl⟩
  | @finishes e r result he hr hresult =>
      have hfinished : s.finished? i (.dispatch i) = some (e, result) := by
        simp only [finished_eq hd ha, he, hr, Option.bind_some, hresult]
      rw [taken_none hd (Or.inl (busy_of_envelope he)), hfinished]
      refine ⟨.finishes rfl he rfl, ?_⟩
      cases hreply : e.reply? result <;> simp [hreply]
  | fails _ _ => exact absurd hlive (by simp [Dispatcher.Phase.isLive])
  | gone hp => exact absurd (hp.symm.trans hlive) (by simp)

/-- **What is written down about an action is what becomes of the commands of a dispatcher.** -/
theorem act_handles (h : s.Manned) {x : Action} (hx : x.dismisses = false)
    (hd' : (s.act x).dispatchers[i]? = some d') (hlive : d'.phase.isLive = true) :
    ∃ d, s.dispatchers[i]? = some d ∧ d.phase.isLive = true
      ∧ d.Handles d' (s.accepted? i x) (s.taken? i x) (s.finished? i x) := by
  obtain ⟨d, hd, hlived⟩ := live_of_act hd' hlive
  refine ⟨d, hd, hlived, ?_⟩
  have hattended := act_attended h.staffed hx
  generalize s.act x = s' at hattended hd'
  cases hattended with
  | elsewhere hdispatch hrefused hoffice =>
      rw [(Office.mk.inj hoffice).1, hd] at hd'
      obtain rfl := Option.some.inj hd'
      obtain ⟨htaken, hfinished⟩ := untouched (s := s) (hdispatch i)
      rw [accepted_refused hrefused, htaken, hfinished]
      exact .keeps rfl rfl
  | @absent k hnone =>
      rw [hd] at hd'
      obtain rfl := Option.some.inj hd'
      have hne : Action.dispatch k ≠ .dispatch i := by
        rintro ⟨⟩
        exact absurd (hnone.symm.trans hd) (by simp)
      obtain ⟨htaken, hfinished⟩ := untouched (s := s) hne
      rw [accepted_refused (by simp [offer?]), htaken, hfinished]
      exact .keeps rfl rfl
  | @accepts _ axis e k d₁ _ hoffer hi hd₁ hok _ hoffice =>
      have hne : x ≠ .dispatch i := by
        rintro rfl
        exact absurd hoffer (by simp [offer?])
      obtain ⟨htaken, hfinished⟩ := untouched (s := s) hne
      rw [accepted_offered hoffer hi hok, htaken, hfinished]
      rw [(Office.mk.inj hoffice).1] at hd'
      rcases get_set_dispatcher hd' with ⟨rfl, rfl⟩ | ⟨hki, hold⟩
      · obtain rfl := Option.some.inj (hd.symm.trans hd₁)
        rw [if_pos rfl]
        exact .accepts rfl rfl
      · obtain rfl := Option.some.inj (hd.symm.trans hold)
        rw [if_neg hki]
        exact .keeps rfl rfl
  | @serves k d₁ d₂ a _ _ hd₁ ha hserves hoffice =>
      rw [accepted_refused (by simp [offer?])]
      rw [(Office.mk.inj hoffice).1] at hd'
      rcases get_set_dispatcher hd' with ⟨rfl, rfl⟩ | ⟨hki, hold⟩
      · obtain rfl := Option.some.inj (hd.symm.trans hd₁)
        rw [h.placed.dispatchers k d hd] at ha
        exact (handles_of_serves hd ha (h.duty k d hd) hserves hlive).1
      · obtain rfl := Option.some.inj (hd.symm.trans hold)
        obtain ⟨htaken, hfinished⟩ := untouched (s := s) fun heq => hki (Action.dispatch.inj heq)
        rw [htaken, hfinished]
        exact .keeps rfl rfl

/-! ## What the books say -/

/-- **What one more action preserves on a station that is manned, holds after a run** in which nobody
is sent away. -/
theorem Manned.induction {s₀ : Station} {P : List Action → Prop} (h : s₀.Manned) (start : P [])
    (step : ∀ (as : List Action) (x : Action), x.dismisses = false → (s₀.run as).Manned → P as →
      P (as ++ [x]))
    {as : List Action} (hkept : ∀ x ∈ as, x.dismisses = false) : P as := by
  induction as using List.reverseRecOn with
  | nil => exact start
  | append_singleton as x ih =>
      have hbefore : ∀ y ∈ as, y.dismisses = false := fun y hy =>
        hkept y (List.mem_append_left _ hy)
      exact step as x (hkept x (by simp)) (h.run hbefore) (ih hbefore)

/-- The books about the commands for dispatcher `i` after a run. -/
structure Ledger (s₀ : Station) (as : List Action) (i : Nat) (d : Dispatcher) : Prop where
  /-- They are taken in the order in which they were accepted, and the others are in the inbox. -/
  accepted : s₀.history (accepted? i) as = s₀.history (taken? i) as ++ d.inbox.items
  /-- Each is finished before the next one is taken, but for the one that is in hand. -/
  taken : s₀.history (taken? i) as
    = (s₀.history (finished? i) as).map Prod.fst ++ d.phase.envelope?.toList

theorem Ledger.step {s₀ : Station} {as : List Action} {x : Action} (h : s₀.Ledger as i d)
    (hhandles : d.Handles d' ((s₀.run as).accepted? i x) ((s₀.run as).taken? i x)
      ((s₀.run as).finished? i x)) : s₀.Ledger (as ++ [x]) i d' := by
  have haccepted := h.accepted
  have htaken := h.taken
  generalize hacc : (s₀.run as).accepted? i x = acc at hhandles
  generalize htak : (s₀.run as).taken? i x = tak at hhandles
  generalize hfin : (s₀.run as).finished? i x = fin at hhandles
  refine ⟨?_, ?_⟩ <;> simp only [history_snoc, hacc, htak, hfin] <;> cases hhandles with
  | keeps hitems hhand => simp [haccepted, htaken, hitems, hhand]
  | accepts hitems hhand => simp [haccepted, htaken, hitems, hhand]
  | takes hitems hbefore hafter => simp [haccepted, htaken, hitems, hbefore, hafter]
  | finishes hitems hbefore hafter => simp [haccepted, htaken, hitems, hbefore, hafter]

theorem Manned.ledger {s₀ : Station} (h : s₀.Manned)
    (hnew : ∀ d, s₀.dispatchers[i]? = some d → d.phase.envelope? = none ∧ d.inbox.items = [])
    {as : List Action} (hkept : ∀ x ∈ as, x.dismisses = false)
    (hd : (s₀.run as).dispatchers[i]? = some d) (hlive : d.phase.isLive = true) :
    s₀.Ledger as i d := by
  refine h.induction (P := fun as => ∀ d, (s₀.run as).dispatchers[i]? = some d →
    d.phase.isLive = true → s₀.Ledger as i d) ?_ ?_ hkept d hd hlive
  · intro d hd _
    obtain ⟨henvelope, hitems⟩ := hnew d hd
    exact ⟨by simp [history, hitems], by simp [history, henvelope]⟩
  · intro as x hx hmanned ih d hd hlive
    rw [run_snoc] at hd
    obtain ⟨d₁, hd₁, hlive₁, hhandles⟩ := act_handles hmanned hx hd hlive
    exact (ih d₁ hd₁ hlive₁).step hhandles

/-! ## Tickets and answers -/

/-- A command that is offered has the next ticket or none. -/
theorem ticket_of_offer {x : Action} {axis : String} (h : s.offer? x = some (axis, e)) {t : Nat}
    (ht : e.ticket = some t) : t = s.nextTicket := by
  cases x with
  | submit _ c =>
      obtain ⟨_, rfl⟩ := Prod.mk.inj (Option.some.inj h)
      exact absurd ht (by simp)
  | request _ c =>
      obtain ⟨_, rfl⟩ := Prod.mk.inj (Option.some.inj h)
      exact (Option.some.inj ht).symm
  | _ => exact absurd h (by simp [offer?])

theorem offer_of_accepted {x : Action} (h : s.accepted? i x = some e) :
    ∃ axis, s.offer? x = some (axis, e) ∧ s.machine.handle? axis = some i
      ∧ (s.enqueue axis e).2 = .ok () := by
  unfold accepted? at h
  split at h
  · exact absurd h (by simp)
  · rename_i axis e₁ hoffer
    split at h
    · rename_i hok
      obtain rfl := Option.some.inj h
      refine ⟨axis, hoffer, hok.1, ?_⟩
      cases hans : (s.enqueue axis e₁).2 with
      | ok u => rfl
      | error r => exact absurd hok.2 (by simp [hans, Except.isOk, Except.toBool])
    · exact absurd h (by simp)

/-- Tickets are given out one after the other. -/
theorem act_nextTicket (h : s.Staffed) {x : Action} (hx : x.dismisses = false) :
    s.nextTicket ≤ (s.act x).nextTicket
      ∧ ∀ (i : Nat) (e : Envelope) (t : Nat), s.accepted? i x = some e → e.ticket = some t →
        t = s.nextTicket ∧ t < (s.act x).nextTicket := by
  have hattended := act_attended h hx
  generalize s.act x = s' at hattended
  cases hattended with
  | elsewhere _ hrefused hoffice =>
      refine ⟨Nat.le_of_eq (Office.mk.inj hoffice).2.1.symm, fun i e t he _ => ?_⟩
      exact absurd ((accepted_refused hrefused).symm.trans he) (by simp)
  | absent _ =>
      refine ⟨Nat.le_refl _, fun i e t he _ => ?_⟩
      exact absurd he (by simp [accepted?, offer?])
  | serves _ _ _ hoffice =>
      refine ⟨Nat.le_of_eq (Office.mk.inj hoffice).2.1.symm, fun i e t he _ => ?_⟩
      exact absurd he (by simp [accepted?, offer?])
  | accepts hoffer _ _ _ _ hoffice =>
      rw [(Office.mk.inj hoffice).2.1]
      refine ⟨Nat.le_add_right .., fun i e t he ht => ?_⟩
      obtain ⟨_, hoffer', _⟩ := offer_of_accepted he
      obtain ⟨rfl, rfl⟩ := Prod.mk.inj (Option.some.inj (hoffer.symm.trans hoffer'))
      have hnext := ticket_of_offer hoffer ht
      rw [ht]
      exact ⟨hnext, by simp [hnext]⟩

/-- The commands do not have the same ticket. -/
def Apart (e e' : Envelope) : Prop := ∀ t, e.ticket = some t → e'.ticket ≠ some t

instance : Std.Symm Apart := ⟨fun _ _ h t ht' ht => h t ht ht'⟩

/-- The tickets of the commands that were accepted in a run. -/
structure Ticketed (s₀ : Station) (as : List Action) : Prop where
  issued : ∀ (i : Nat) (e : Envelope) (t : Nat), e ∈ s₀.history (accepted? i) as →
    e.ticket = some t → t < (s₀.run as).nextTicket
  /-- No two axes have commands with the same ticket. -/
  axes : ∀ (i k : Nat) (e e' : Envelope), e ∈ s₀.history (accepted? i) as →
    e' ∈ s₀.history (accepted? k) as → i ≠ k → Apart e e'
  /-- No two commands for an axis have the same ticket. -/
  axis : ∀ i : Nat, (s₀.history (accepted? i) as).Pairwise Apart

theorem ticketed_nil (s₀ : Station) : s₀.Ticketed [] where
  issued i e t he := absurd he (by simp [history])
  axes i k e e' he := absurd he (by simp [history])
  axis i := by simp [history]

theorem Ticketed.step {s₀ : Station} {as : List Action} (h : s₀.Ticketed as)
    (hstaffed : (s₀.run as).Staffed) {x : Action} (hx : x.dismisses = false) :
    s₀.Ticketed (as ++ [x]) := by
  obtain ⟨hmono, hnew⟩ := act_nextTicket hstaffed hx
  -- a command of the last action has a ticket that no command had before
  have hfresh : ∀ (i k : Nat) (e e' : Envelope), e ∈ s₀.history (accepted? i) as →
      (s₀.run as).accepted? k x = some e' → Apart e e' := by
    intro i k e e' he he' t ht ht'
    have hold := h.issued i e t he ht
    have hlast := (hnew k e' t he' ht').1
    omega
  have hmem : ∀ (i : Nat) (e : Envelope), e ∈ s₀.history (accepted? i) (as ++ [x]) →
      e ∈ s₀.history (accepted? i) as ∨ (s₀.run as).accepted? i x = some e := by
    intro i e he
    rw [history_snoc] at he
    exact (List.mem_append.mp he).imp id Option.mem_toList.mp
  refine ⟨fun i e t he ht => ?_, fun i k e e' he he' hik => ?_, fun i => ?_⟩
  · rw [run_snoc]
    rcases hmem i e he with hold | hlast
    · exact Nat.lt_of_lt_of_le (h.issued i e t hold ht) hmono
    · exact (hnew i e t hlast ht).2
  · rcases hmem i e he with hold | hlast <;> rcases hmem k e' he' with hold' | hlast'
    · exact h.axes i k e e' hold hold' hik
    · exact hfresh i k e e' hold hlast'
    · exact symm (hfresh k i e' e hold' hlast)
    · -- one action offers one command to one axis
      obtain ⟨_, hoffer, hi, _⟩ := offer_of_accepted hlast
      obtain ⟨_, hoffer', hk, _⟩ := offer_of_accepted hlast'
      obtain ⟨rfl, _⟩ := Prod.mk.inj (Option.some.inj (hoffer.symm.trans hoffer'))
      exact absurd (Option.some.inj (hi.symm.trans hk)) hik
  · rw [history_snoc]
    refine List.pairwise_append.mpr ⟨h.axis i, ?_, fun e he e' he' => ?_⟩
    · cases (s₀.run as).accepted? i x <;> simp
    · exact hfresh i i e e' he (Option.mem_toList.mp he')

theorem Manned.ticketed {s₀ : Station} (h : s₀.Manned) {as : List Action}
    (hkept : ∀ x ∈ as, x.dismisses = false) : s₀.Ticketed as :=
  h.induction (ticketed_nil s₀) (fun _ _ hx hmanned ih => ih.step hmanned.staffed hx) hkept

/-! ## Answers -/

theorem finished_absent (hd : s.dispatchers[i]? = none) (x : Action) : s.finished? i x = none := by
  simp only [finished?, hd]

theorem length_act (h : s.Staffed) {x : Action} (hx : x.dismisses = false) :
    (s.act x).dispatchers.length = s.dispatchers.length := by
  have hattended := act_attended h hx
  generalize s.act x = s' at hattended
  cases hattended with
  | elsewhere _ _ hoffice => rw [(Office.mk.inj hoffice).1]
  | absent _ => rfl
  | accepts _ _ _ _ _ hoffice => rw [(Office.mk.inj hoffice).1, List.length_set]
  | serves _ _ _ hoffice => rw [(Office.mk.inj hoffice).1, List.length_set]

/-- No dispatcher has failed or ended its work. -/
def AllLive (s : Station) : Prop :=
  ∀ (i : Nat) (d : Dispatcher), s.dispatchers[i]? = some d → d.phase.isLive = true

theorem AllLive.before (h : s.Staffed) {x : Action} (hx : x.dismisses = false)
    (hlive : (s.act x).AllLive) : s.AllLive := by
  intro i d hd
  obtain ⟨hlt, _⟩ := List.getElem?_eq_some_iff.mp hd
  rw [← length_act h hx] at hlt
  have hd' := List.getElem?_eq_getElem hlt
  obtain ⟨d₁, hd₁, hlive₁⟩ := live_of_act hd' (hlive i _ hd')
  obtain rfl := Option.some.inj (hd.symm.trans hd₁)
  exact hlive₁

/-- **An answer is the result of a command that has just been finished.** -/
theorem act_replies (h : s.Manned) {x : Action} (hx : x.dismisses = false)
    (hlive : (s.act x).AllLive) (reply : Reply) :
    reply ∈ (s.act x).replies ↔ reply ∈ s.replies
      ∨ ∃ i e r, s.finished? i x = some (e, r) ∧ e.reply? r = some reply := by
  have hattended := act_attended h.staffed hx
  generalize s.act x = s' at hattended hlive
  have hidle : s'.replies = s.replies → (∀ i, s.finished? i x = none) →
      (reply ∈ s'.replies ↔ reply ∈ s.replies
        ∨ ∃ i e r, s.finished? i x = some (e, r) ∧ e.reply? r = some reply) := by
    intro hsame hnone
    simp [hsame, hnone]
  cases hattended with
  | elsewhere hdispatch _ hoffice =>
      exact hidle (Office.mk.inj hoffice).2.2 fun i => (untouched (hdispatch i)).2
  | @absent k hnone =>
      refine hidle rfl fun i => ?_
      by_cases hki : k = i
      · exact finished_absent (hki ▸ hnone) _
      · exact (untouched fun heq => hki (Action.dispatch.inj heq)).2
  | accepts hoffer _ _ _ _ hoffice =>
      refine hidle (Office.mk.inj hoffice).2.2 fun i => (untouched ?_).2
      rintro rfl
      exact absurd hoffer (by simp [offer?])
  | @serves k d d' a replies _ hd ha hserves hoffice =>
      rw [h.placed.dispatchers k d hd] at ha
      have hd' : s'.dispatchers[k]? = some d' := by
        rw [(Office.mk.inj hoffice).1]
        exact set_get hd
      have hreplies := (handles_of_serves hd ha (h.duty k d hd) hserves (hlive k d' hd')).2
      rw [(Office.mk.inj hoffice).2.2, List.mem_append, hreplies]
      refine or_congr_right ⟨fun hmem => ?_, ?_⟩
      · obtain ⟨⟨e, r⟩, hfinished, hreply⟩ := List.mem_filterMap.mp hmem
        exact ⟨k, e, r, Option.mem_toList.mp hfinished, hreply⟩
      · rintro ⟨i, e, r, hfinished, hreply⟩
        by_cases hki : k = i
        · subst hki
          exact List.mem_filterMap.mpr ⟨(e, r), Option.mem_toList.mpr hfinished, hreply⟩
        · have hnone := (untouched (s := s) fun heq => hki (Action.dispatch.inj heq)).2
          exact absurd (hnone.symm.trans hfinished) (by simp)

/-- **The answers that were given in a run are the results of the commands that were finished.** -/
theorem Manned.replies {s₀ : Station} (h : s₀.Manned) (hnew : s₀.replies = []) {as : List Action}
    (hkept : ∀ x ∈ as, x.dismisses = false) (hlive : (s₀.run as).AllLive) (reply : Reply) :
    reply ∈ (s₀.run as).replies
      ↔ ∃ i e r, (e, r) ∈ s₀.history (finished? i) as ∧ e.reply? r = some reply := by
  refine h.induction (P := fun as => (s₀.run as).AllLive → (reply ∈ (s₀.run as).replies
    ↔ ∃ i e r, (e, r) ∈ s₀.history (finished? i) as ∧ e.reply? r = some reply)) ?_ ?_ hkept hlive
  · intro _
    simp [hnew, history]
  · intro as x hx hmanned ih hlive
    rw [run_snoc] at hlive ⊢
    rw [act_replies hmanned hx hlive, ih (hlive.before hmanned.staffed hx)]
    simp only [history_snoc, List.mem_append, Option.mem_toList]
    constructor
    · rintro (⟨i, e, r, hold, hreply⟩ | ⟨i, e, r, hlast, hreply⟩)
      · exact ⟨i, e, r, Or.inl hold, hreply⟩
      · exact ⟨i, e, r, Or.inr hlast, hreply⟩
    · rintro ⟨i, e, r, hold | hlast, hreply⟩
      · exact Or.inl ⟨i, e, r, hold, hreply⟩
      · exact Or.inr ⟨i, e, r, hlast, hreply⟩

/-- Nothing is written down about a dispatcher that is not there. -/
theorem finished_nil {s₀ : Station} (h : s₀.Manned) {as : List Action}
    (hkept : ∀ x ∈ as, x.dismisses = false) (hnone : (s₀.run as).dispatchers[i]? = none) :
    s₀.history (finished? i) as = [] := by
  refine h.induction (P := fun as => (s₀.run as).dispatchers[i]? = none →
    s₀.history (finished? i) as = []) (fun _ => rfl) (fun as x hx hmanned ih hnone => ?_) hkept hnone
  have hlength := length_act hmanned.staffed hx
  rw [run_snoc, List.getElem?_eq_none_iff, hlength, ← List.getElem?_eq_none_iff] at hnone
  rw [history_snoc, ih hnone, finished_absent hnone]
  rfl

/-- The dispatcher of axis `j` has no command for it, in hand or in the inbox. -/
def Spent (s : Station) (j : Nat) : Prop :=
  ∀ d, s.dispatchers[j]? = some d → d.phase.envelope? = none ∧ d.inbox.items = []

/-- A dispatcher finishes commands that were accepted. -/
theorem accepted_of_finished {s₀ : Station} (h : s₀.Manned) (hnew : ∀ i, s₀.Spent i)
    {as : List Action} (hkept : ∀ x ∈ as, x.dismisses = false) (hlive : (s₀.run as).AllLive)
    {r : Except MotionError Outcome} (hfinished : (e, r) ∈ s₀.history (finished? i) as) :
    e ∈ s₀.history (accepted? i) as := by
  cases hd : (s₀.run as).dispatchers[i]? with
  | none => exact absurd hfinished (by simp [finished_nil h hkept hd])
  | some d =>
      have hledger := h.ledger (hnew i) hkept hd (hlive i d hd)
      rw [hledger.accepted, hledger.taken]
      exact List.mem_append_left _ (List.mem_append_left _ (List.mem_map_of_mem hfinished))

/-- A command with a ticket is finished only once. -/
theorem finished_once {s₀ : Station} (h : s₀.Manned) (hnew : ∀ i, s₀.Spent i) {as : List Action}
    (hkept : ∀ x ∈ as, x.dismisses = false) (hlive : (s₀.run as).AllLive) {t : Nat}
    (ht : e.ticket = some t) {r r' : Except MotionError Outcome}
    (hr : (e, r) ∈ s₀.history (finished? i) as) (hr' : (e, r') ∈ s₀.history (finished? i) as) :
    r = r' := by
  cases hd : (s₀.run as).dispatchers[i]? with
  | none => exact absurd hr (by simp [finished_nil h hkept hd])
  | some d =>
      have hledger := h.ledger (hnew i) hkept hd (hlive i d hd)
      have hall := (h.ticketed hkept).axis i
      rw [hledger.accepted, hledger.taken] at hall
      have hfinished := (List.pairwise_append.mp (List.pairwise_append.mp hall).1).1
      have hpairs : (s₀.history (finished? i) as).Pairwise fun p q => Apart p.1 q.1 :=
        List.pairwise_map.mp hfinished
      have hsymm : Std.Symm fun p q : Envelope × Except MotionError Outcome => Apart p.1 q.1 :=
        ⟨fun _ _ hp => symm hp⟩
      by_cases heq : (e, r) = (e, r')
      · exact (Prod.mk.inj heq).2
      · exact absurd ht (hpairs.forall hr hr' heq t ht)

/-- **Whoever waits for the answer to a command gets the result of this command.** -/
theorem takeReply_iff {s₀ : Station} (h : s₀.Manned) (hnew : ∀ i, s₀.Spent i)
    (hreplies : s₀.replies = []) {as : List Action} (hkept : ∀ x ∈ as, x.dismisses = false)
    (hlive : (s₀.run as).AllLive) {t : Nat} (he : e ∈ s₀.history (accepted? i) as)
    (ht : e.ticket = some t) (r : Except MotionError Outcome) :
    ((s₀.run as).takeReply t).2 = some r ↔ (e, r) ∈ s₀.history (finished? i) as := by
  have htickets := h.ticketed hkept
  -- an answer with the ticket of the command is an answer to this command
  have hown : ∀ reply ∈ (s₀.run as).replies, reply.ticket = t →
      (e, reply.result) ∈ s₀.history (finished? i) as := by
    intro reply hmem hticket
    obtain ⟨k, e', r', hfinished, hreply⟩ := (h.replies hreplies hkept hlive reply).mp hmem
    obtain ⟨t', ht', rfl⟩ := Option.map_eq_some_iff.mp hreply
    obtain rfl : t' = t := hticket
    have he' := accepted_of_finished h hnew hkept hlive hfinished
    by_cases hik : i = k
    · subst hik
      by_cases hee : e = e'
      · exact hee ▸ hfinished
      · exact absurd ht' ((htickets.axis i).forall he he' hee t' ht)
    · exact absurd ht' (htickets.axes i k e e' he he' hik t' ht)
  have hgiven : (e, r) ∈ s₀.history (finished? i) as → ⟨t, r⟩ ∈ (s₀.run as).replies := fun hmem =>
    (h.replies hreplies hkept hlive _).mpr ⟨i, e, r, hmem, by simp [Envelope.reply?, ht]⟩
  unfold takeReply
  cases hfind : (s₀.run as).replies.find? (·.ticket == t) with
  | none =>
      refine ⟨fun hno => absurd hno (by simp), fun hmem => ?_⟩
      have hnot := List.find?_eq_none.mp hfind _ (hgiven hmem)
      exact absurd hnot (by simp)
  | some reply =>
      have hmem := List.mem_of_find?_eq_some hfind
      have hticket : reply.ticket = t := by simpa using List.find?_some hfind
      have hfinished := hown reply hmem hticket
      simp only [Option.map_some, Option.some.injEq]
      refine ⟨fun heq => heq ▸ hfinished, fun hgot => ?_⟩
      exact finished_once h hnew hkept hlive ht hfinished hgot

end Station

end StepperMotion
