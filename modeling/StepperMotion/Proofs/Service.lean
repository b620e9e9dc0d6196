import StepperMotion.Proofs.Run

/-!
# Commands and who has them

A command that was accepted is in the inbox of a dispatcher until the dispatcher takes it, and then
in the hands of the dispatcher until it is finished. `Dispatcher.Serves` says what a stroke of a
dispatcher comes to for its commands, and `act_attended` that nobody else touches them, apart from
whoever gives a new one. So a dispatcher that is not sent away goes on with its work until it fails
(`OnDuty`), and if it is left alone with its axis, it finishes whatever it was given (`turns_finish`).
-/

namespace StepperMotion

/-- A dispatcher is made to end its work. -/
def Action.dismisses : Action → Bool
  | .hangUp | .cancelDispatcher _ => true
  | _ => false

namespace Dispatcher.Phase

theorem live_of_envelope {p : Dispatcher.Phase} {e : Envelope} (h : p.envelope? = some e) :
    p.isLive = true := by
  cases p <;> first | rfl | exact absurd h (by simp [envelope?])

theorem busy_of_envelope {p : Dispatcher.Phase} {e : Envelope} (h : p.envelope? = some e) :
    p ≠ .idle := by
  rintro rfl
  exact absurd h (by simp [envelope?])

theorem earliest_of_live {p : Dispatcher.Phase} (nowMs : Nat) (h : p.isLive = true) :
    ∃ t, p.earliest? nowMs = some t := by
  cases p <;> first | exact ⟨_, rfl⟩ | exact absurd h (by simp [isLive])

theorem live_of_earliest {p : Dispatcher.Phase} {nowMs t : Nat} (h : p.earliest? nowMs = some t) :
    p.isLive = true := by
  cases p <;> first | rfl | exact absurd h (by simp [earliest?])

end Dispatcher.Phase

open Dispatcher.Phase (live_of_envelope earliest_of_live live_of_earliest)

namespace Axis

/-- The result that the next stroke of a dispatcher has for its command, if it has one. -/
def result? (a : Axis) (nowMs : Nat) : Dispatcher.Phase → Option (Except Failure Outcome)
  | .received e =>
    if e.command = .stop then some (.ok a.stop.answer)
    else match (a.prepare e.command).answer with
      | .error failure => some (.error failure)
      | .ok _ => none
  | .ready e => (a.attempt e.command nowMs).answer
  | .waiting e untilMs => if untilMs ≤ nowMs then (a.attempt e.command nowMs).answer else none
  | _ => none

/-- A command that makes the axis rest has no result yet. -/
theorem result_of_hasToRest {a : Axis} {nowMs : Nat} {p : Dispatcher.Phase}
    (h : a.hasToRest nowMs p = true) : a.result? nowMs p = none := by
  cases p with
  | received e =>
      simp only [hasToRest, result?] at h ⊢
      split at h
      · exact absurd h (by simp)
      · rename_i hmove
        rw [if_neg hmove]
        cases hans : (a.prepare e.command).answer with
        | error failure =>
            rw [hans] at h
            exact absurd h (by simp)
        | ok mustRest => rfl
  | ready e => exact Option.isNone_iff_eq_none.mp h
  | waiting e untilMs =>
      simp only [hasToRest, result?] at h ⊢
      split at h
      · rename_i hdue
        rw [if_pos hdue]
        exact Option.isNone_iff_eq_none.mp h
      · exact absurd h (by simp)
  | _ => rfl

/-- No command can reverse the axis at once: it is stopped, or halted for a change of direction. -/
def isHalted (a : Axis) : Bool := a.mode == .stopped || a.isQuiesced

theorem answer_of_halted {a : Axis} (h : a.isHalted = true) (c : Command) :
    (a.beginDirectionChange c).answer = false := by
  simp only [isHalted, Bool.or_eq_true, beq_iff_eq] at h
  unfold beginDirectionChange
  split
  · rename_i hmove
    have hq : a.isQuiesced = true := h.resolve_left (by simpa [Mode.isMoving] using hmove)
    split
    · rfl
    · -- looking at the encoder makes no difference
      rename_i b d hb
      have hsame : b.isQuiesced = a.isQuiesced := by
        rcases directionFor_axis a c with heq | heq <;> rw [hb] at heq <;> simp only at heq <;>
          rw [heq]
        rfl
      rw [if_pos (Or.inr (hsame.trans hq))]
  · rfl

/-- **An axis that is halted does not have to rest once more.** -/
theorem attempt_of_halted {a : Axis} (h : a.isHalted = true) (c : Command) (nowMs : Nat) :
    (a.attempt c nowMs).answer.isNone = false := by
  simp [attempt, answer_of_halted h c]

theorem Quiesces.halted {a b : Axis} (h : a.Quiesces b) : b.isHalted = true := by
  simp [isHalted, isQuiesced, h.quiesced, h.rests]

end Axis

/-! ## The stroke of a dispatcher -/

/-- What the stroke of a dispatcher comes to that serves axis `a`: the dispatcher after it, and the
answers that were given. -/
inductive Dispatcher.Serves (s : Station) (d : Dispatcher) (a : Axis) :
    Dispatcher → List Reply → Prop where
  | begins (hp : d.phase = .starting) : Serves s d a { d with phase := .idle } []
  | takes {e : Envelope} {rest : List Envelope} (hp : d.phase = .idle)
      (hitems : d.inbox.items = e :: rest) :
      Serves s d a { d with inbox := { d.inbox with items := rest }, phase := .received e } []
  | idles (hp : d.phase = .idle) (hitems : d.inbox.items = []) (hhung : d.hungUp = false) :
      Serves s d a d []
  | ends (hp : d.phase = .idle) (hhung : d.hungUp = true) :
      Serves s d a { d with inbox := d.inbox.close, phase := .ended } []
  /-- The axis may go on at once. -/
  | readies {e : Envelope} (hp : d.phase = .received e)
      (hr : a.result? s.nowMs d.phase = none) : Serves s d a { d with phase := .ready e } []
  /-- The axis has been halted. -/
  | rests {e : Envelope} (he : d.phase.envelope? = some e)
      (hrest : a.hasToRest s.nowMs d.phase = true) :
      Serves s d a { d with phase := .waiting e (s.nowMs + s.machine.config.restMs) } []
  /-- Its time has not come yet. -/
  | waits {e : Envelope} {untilMs : Nat} (hp : d.phase = .waiting e untilMs)
      (hlater : ¬ untilMs ≤ s.nowMs) : Serves s d a d []
  | finishes {e : Envelope} {r : Except Failure Outcome} {result : Except MotionError Outcome}
      (he : d.phase.envelope? = some e) (hr : a.result? s.nowMs d.phase = some r)
      (hresult : answer? r = some result) :
      Serves s d a { d with phase := .idle } (e.reply? result).toList
  /-- Nobody will carry out the commands that are left. -/
  | fails {e : Envelope} {f : Fault} (he : d.phase.envelope? = some e)
      (hr : a.result? s.nowMs d.phase = some (.error (.fault f))) :
      Serves s d a { d with inbox := d.inbox.close, phase := .failed f }
        ((e :: d.inbox.items).filterMap (·.reply? (.error (.dispatcherClosed d.name))))
  | gone (hp : d.phase.isLive = false) : Serves s d a d []

/-- What concerns the commands for a station: who has them, and how they were answered. -/
structure Office where
  dispatchers : List Dispatcher
  nextTicket : Nat
  replies : List Reply

namespace Station

def office (s : Station) : Office := ⟨s.dispatchers, s.nextTicket, s.replies⟩

variable {s : Station} {i : Nat} {d : Dispatcher} {a : Axis} {e : Envelope}

theorem finish_serves {s₁ : Station} {r : Except Failure Outcome} (hoffice : s₁.office = s.office)
    (he : d.phase.envelope? = some e) (hr : a.result? s.nowMs d.phase = some r) :
    ∃ d' replies, d.Serves s a d' replies
      ∧ (s₁.finish i d e r).office
        = ⟨s.dispatchers.set i d', s.nextTicket, s.replies ++ replies⟩ := by
  obtain ⟨hdispatchers, hticket, hreplies⟩ := Office.mk.inj hoffice
  rw [← hdispatchers, ← hticket, ← hreplies]
  cases h : answer? r with
  | some result =>
      refine ⟨_, _, .finishes he hr h, ?_⟩
      rw [finish_answered h]
      rfl
  | none =>
      obtain ⟨f, rfl⟩ := fault_of_unanswered h
      refine ⟨_, _, .fails he hr, ?_⟩
      have hretire := congrArg office (retire_eq s₁ i d (.failed f))
      rwa [he] at hretire

theorem receive_serves (hd : s.dispatchers[i]? = some d) (hp : d.phase = .idle) :
    ∃ d' replies, d.Serves s a d' replies
      ∧ (s.receive i d).office
        = ⟨s.dispatchers.set i d', s.nextTicket, s.replies ++ replies⟩ := by
  unfold receive Mailbox.next?
  cases hitems : d.inbox.items with
  | cons e rest => exact ⟨_, [], .takes hp hitems, by rw [List.append_nil]; rfl⟩
  | nil =>
      dsimp only
      split
      · rename_i hhung
        exact ⟨_, [], .ends hp hhung, by rw [List.append_nil]; rfl⟩
      · rename_i hhung
        refine ⟨d, [], .idles hp hitems (by simpa using hhung), ?_⟩
        rw [List.append_nil, ← set_same hd]
        rfl

theorem begin_serves (ha : s.machine.axes[d.handle]? = some a) (hp : d.phase = .received e) :
    ∃ d' replies, d.Serves s a d' replies
      ∧ (s.begin i d e).office
        = ⟨s.dispatchers.set i d', s.nextTicket, s.replies ++ replies⟩ := by
  have he : d.phase.envelope? = some e := by rw [hp]; rfl
  unfold begin
  split
  · rename_i hstop
    have hr : a.result? s.nowMs d.phase = some (.ok a.stop.answer) := by
      rw [hp, Axis.result?, if_pos hstop]
    simp only [operate_some ha]
    exact finish_serves rfl he hr
  · rename_i hmove
    simp only [operate_some ha]
    cases hans : (a.prepare e.command).answer with
    | error failure =>
        have hr : a.result? s.nowMs d.phase = some (.error failure) := by
          simp only [hp, Axis.result?, if_neg hmove, hans]
        cases failure <;> exact finish_serves rfl he hr
    | ok mustRest =>
        cases mustRest with
        | true =>
            have hrest : a.hasToRest s.nowMs d.phase = true := by
              simp only [hp, Axis.hasToRest, if_neg hmove, hans]
            exact ⟨_, [], .rests he hrest, by rw [List.append_nil]; rfl⟩
        | false =>
            have hr : a.result? s.nowMs d.phase = none := by
              simp only [hp, Axis.result?, if_neg hmove, hans]
            exact ⟨_, [], .readies hp hr, by rw [List.append_nil]; rfl⟩

theorem attempt_serves (ha : s.machine.axes[d.handle]? = some a)
    (he : d.phase.envelope? = some e)
    (hr : a.result? s.nowMs d.phase = (a.attempt e.command s.nowMs).answer)
    (hrest : a.hasToRest s.nowMs d.phase = (a.attempt e.command s.nowMs).answer.isNone) :
    ∃ d' replies, d.Serves s a d' replies
      ∧ (s.attempt i d e).office
        = ⟨s.dispatchers.set i d', s.nextTicket, s.replies ++ replies⟩ := by
  unfold Station.attempt
  simp only [operate_some ha]
  cases hans : (a.attempt e.command s.nowMs).answer with
  | none =>
      rw [hans] at hrest
      exact ⟨_, [], .rests he hrest, by rw [List.append_nil]; rfl⟩
  | some result => exact finish_serves rfl he (hr.trans hans)

/-- **What a stroke of a dispatcher comes to for its commands.** -/
theorem dispatch_serves (hd : s.dispatchers[i]? = some d)
    (ha : s.machine.axes[d.handle]? = some a) :
    ∃ d' replies, d.Serves s a d' replies
      ∧ (s.dispatch i).office = ⟨s.dispatchers.set i d', s.nextTicket, s.replies ++ replies⟩ := by
  -- a stroke without effect leaves the dispatcher where it is
  have hsame : d.Serves s a d [] → ∃ d' replies, d.Serves s a d' replies
      ∧ s.office = ⟨s.dispatchers.set i d', s.nextTicket, s.replies ++ replies⟩ := by
    intro h
    refine ⟨d, [], h, ?_⟩
    rw [List.append_nil, ← set_same hd]
    rfl
  simp only [dispatch, hd]
  cases hp : d.phase with
  | starting => exact ⟨_, [], .begins hp, by rw [List.append_nil]; rfl⟩
  | idle => exact receive_serves hd hp
  | received e => exact begin_serves ha hp
  | ready e => exact attempt_serves ha (by rw [hp]; rfl) (by rw [hp]; rfl) (by rw [hp]; rfl)
  | waiting e untilMs =>
      dsimp only
      split
      · rename_i hdue
        refine attempt_serves ha (by rw [hp]; rfl) ?_ ?_
        · rw [hp, Axis.result?, if_pos hdue]
        · rw [hp, Axis.hasToRest, if_pos hdue]
      · rename_i hlater
        exact hsame (.waits hp hlater)
  | ended => exact hsame (.gone (by rw [hp]; rfl))
  | failed f => exact hsame (.gone (by rw [hp]; rfl))

/-! ## Giving commands -/

/-- The command that an action offers, and the name of the axis that it is for. -/
def offer? (s : Station) : Action → Option (String × Envelope)
  | .submit axis c => some (axis, ⟨c, none⟩)
  | .request axis c => some (axis, ⟨c, some s.nextTicket⟩)
  | _ => none

/-- **A command that is refused a place in an inbox leaves no trace.** -/
theorem enqueue_refused {axis : String} {r : MotionError} (h : (s.enqueue axis e).2 = .error r) :
    (s.enqueue axis e).1 = s := by
  unfold enqueue deliver at h ⊢
  split
  · rfl
  · rename_i i hi
    simp only [hi] at h ⊢
    split
    · rfl
    · rename_i d hd
      simp only [hd] at h ⊢
      split
      · rename_i inbox hoffer
        simp only [hoffer] at h
        exact absurd h (by simp)
      · rfl
      · rfl

theorem request_of_refused {axis : String} {c : Command} {r : MotionError}
    (h : (s.enqueue axis ⟨c, some s.nextTicket⟩).2 = .error r) :
    s.request axis c = (s, .error r) := by
  have hpair : s.enqueue axis ⟨c, some s.nextTicket⟩ = (s, .error r) :=
    Prod.ext (enqueue_refused h) h
  simp only [request, hpair]

theorem request_refused {axis : String} {c : Command} {r : MotionError}
    (h : (s.request axis c).2 = .error r) : (s.request axis c).1 = s := by
  cases hans : (s.enqueue axis ⟨c, some s.nextTicket⟩).2 with
  | error r' => rw [request_of_refused hans]
  | ok u =>
      have hpair : s.enqueue axis ⟨c, some s.nextTicket⟩ = (_, .ok ()) := Prod.ext rfl hans
      rw [request, hpair] at h
      exact absurd h (by simp)

/-- A command that is accepted is the last one in the inbox of its axis. -/
theorem enqueue_accepted {axis : String} (h : (s.enqueue axis e).2 = .ok ()) :
    ∃ i d, s.machine.handle? axis = some i ∧ s.dispatchers[i]? = some d
      ∧ d.inbox.items.length < d.inbox.capacity
      ∧ (s.enqueue axis e).1
        = s.setDispatcher i { d with inbox := { d.inbox with items := d.inbox.items ++ [e] } } := by
  unfold enqueue deliver Mailbox.offer at h ⊢
  cases hi : s.machine.handle? axis with
  | none => exact absurd h (by simp [hi])
  | some i =>
      cases hd : s.dispatchers[i]? with
      | none => exact absurd h (by simp [hi, hd])
      | some d =>
          by_cases hopen : d.inbox.isOpen = true
          · by_cases hroom : d.inbox.items.length < d.inbox.capacity
            · exact ⟨i, d, rfl, hd, hroom, by simp only [hd, if_pos hopen, if_pos hroom]⟩
            · exact absurd h (by simp [hi, hd, hopen, hroom])
          · exact absurd h (by simp [hi, hd, hopen])

/-- An inbox that has a reader refuses a command just when it is full. -/
theorem enqueue_full {axis : String} (hi : s.machine.handle? axis = some i)
    (hd : s.dispatchers[i]? = some d) (hopen : d.inbox.isOpen = true) :
    (s.enqueue axis e).2
      = if d.inbox.items.length < d.inbox.capacity then .ok () else .error (.queueFull axis) := by
  unfold enqueue deliver Mailbox.offer
  simp only [hi, hd, if_pos hopen]
  by_cases hroom : d.inbox.items.length < d.inbox.capacity
  · simp only [if_pos hroom]
  · simp only [if_neg hroom]

/-! ## Who touches a command -/

/-- Every dispatcher has an axis to serve. -/
def Staffed (s : Station) : Prop :=
  ∀ (i : Nat) (d : Dispatcher), s.dispatchers[i]? = some d → ∃ a, s.machine.axes[d.handle]? = some a

/-- **What an action comes to for the commands,** unless it makes a dispatcher end its work. -/
inductive Attended (s : Station) : Action → Station → Prop where
  | elsewhere {x : Action} {s' : Station} (hx : ∀ i, x ≠ .dispatch i)
      (hrefused : ∀ axis e, s.offer? x = some (axis, e) → (s.enqueue axis e).2 ≠ .ok ())
      (h : s'.office = s.office) : Attended s x s'
  | absent {i : Nat} (hd : s.dispatchers[i]? = none) : Attended s (.dispatch i) s
  | accepts {x : Action} {axis : String} {e : Envelope} {i : Nat} {d : Dispatcher} {s' : Station}
      (hx : s.offer? x = some (axis, e)) (hi : s.machine.handle? axis = some i)
      (hd : s.dispatchers[i]? = some d) (hok : (s.enqueue axis e).2 = .ok ())
      (hroom : d.inbox.items.length < d.inbox.capacity)
      (h : s'.office = ⟨s.dispatchers.set i
          { d with inbox := { d.inbox with items := d.inbox.items ++ [e] } },
        s.nextTicket + e.ticket.toList.length, s.replies⟩) : Attended s x s'
  | serves {i : Nat} {d d' : Dispatcher} {a : Axis} {replies : List Reply} {s' : Station}
      (hd : s.dispatchers[i]? = some d) (ha : s.machine.axes[d.handle]? = some a)
      (hserves : d.Serves s a d' replies)
      (h : s'.office = ⟨s.dispatchers.set i d', s.nextTicket, s.replies ++ replies⟩) :
      Attended s (.dispatch i) s'

theorem conclude_office (s : Station) (axis : String) (note : Notification) (v : Verdict) :
    (s.conclude axis note v).office = s.office := by
  cases v <;> rfl

theorem judge_office (s : Station) (note : Notification) : (s.judge note).office = s.office := by
  unfold judge
  split
  · rfl
  · exact conclude_office ..

theorem supervise_office (s : Station) (signalFirst : Bool) :
    (s.supervise signalFirst).office = s.office := by
  unfold supervise
  split
  · rfl
  · rfl
  · exact judge_office ..
  · rename_i h rest _
    dsimp only
    rw [(s.takeParked_eq h).1]
    rfl
  · split
    · unfold heed
      split <;> rfl
    · unfold collect takeNote
      cases s.machine.notes.next? <;> rfl

theorem operate_office {α : Type} (s : Station) (h : Nat) (f : Axis → Transition α) :
    (s.operate h f).1.office = s.office := by
  obtain ⟨log, heq⟩ := operate_fst s h f
  rw [heq]
  rfl

theorem reverse_office (s : Station) (id : Nat) : (s.reverse id).office = s.office := by
  unfold reverse
  split
  · rfl
  · rename_i r _
    have hoperate := operate_office { s with reversals := s.reversals.filter (·.id != id) }
      r.note.handle fun a => a.resume r.note.epoch s.nowMs
    dsimp only
    split
    · rename_i s₁ _ h
      rwa [h] at hoperate
    · rename_i s₁ result h
      rw [h] at hoperate
      split
      · exact hoperate
      · rename_i a _
        obtain ⟨events, log, heq⟩ := concludeReversal_eq s₁ a.name r.note result
        rw [heq]
        exact hoperate

/-- An action that offers a command. -/
theorem offer_attended {x : Action} {axis : String} (hx : s.offer? x = some (axis, e)) :
    s.Attended x (s.act x) := by
  have hdispatch : ∀ i, x ≠ .dispatch i := by
    rintro i rfl
    exact absurd hx (by simp [offer?])
  -- without a place in the inbox nothing has happened, and with one there may be a ticket besides
  have hact : ((s.enqueue axis e).2 ≠ .ok () ∧ s.act x = s)
      ∨ ((s.enqueue axis e).2 = .ok () ∧ (s.act x).office
        = ⟨(s.enqueue axis e).1.dispatchers, s.nextTicket + e.ticket.toList.length,
          (s.enqueue axis e).1.replies⟩) := by
    cases hans : (s.enqueue axis e).2 with
    | error r =>
        refine Or.inl ⟨by simp, ?_⟩
        have hsame := enqueue_refused hans
        cases x with
        | submit axis c =>
            obtain ⟨rfl, rfl⟩ := Prod.mk.inj (Option.some.inj hx)
            exact hsame
        | request axis c =>
            obtain ⟨rfl, rfl⟩ := Prod.mk.inj (Option.some.inj hx)
            rw [act, request_of_refused hans]
        | _ => exact absurd hx (by simp [offer?])
    | ok u =>
        obtain ⟨i, d, _, _, _, heq⟩ := enqueue_accepted hans
        refine Or.inr ⟨rfl, ?_⟩
        cases x with
        | submit axis c =>
            obtain ⟨rfl, rfl⟩ := Prod.mk.inj (Option.some.inj hx)
            simp only [act, submit, heq]
            rfl
        | request axis c =>
            obtain ⟨rfl, rfl⟩ := Prod.mk.inj (Option.some.inj hx)
            have hpair : s.enqueue axis ⟨c, some s.nextTicket⟩ = (_, .ok ()) := Prod.ext heq hans
            simp only [act, request, hpair]
            rfl
        | _ => exact absurd hx (by simp [offer?])
  rcases hact with ⟨hnot, hsame⟩ | ⟨hok, hoffice⟩
  · refine .elsewhere hdispatch (fun axis' e' h => ?_) (congrArg office hsame)
    obtain ⟨rfl, rfl⟩ := Prod.mk.inj (Option.some.inj (hx.symm.trans h))
    exact hnot
  · obtain ⟨i, d, hi, hd, hroom, heq⟩ := enqueue_accepted hok
    rw [heq] at hoffice
    exact .accepts hx hi hd hok hroom hoffice

theorem act_attended (hstaffed : s.Staffed) {x : Action} (hx : x.dismisses = false) :
    s.Attended x (s.act x) := by
  have helse : (∀ i, x ≠ .dispatch i) → s.offer? x = none → (s.act x).office = s.office →
      s.Attended x (s.act x) := by
    intro hdispatch hoffer hsame
    refine .elsewhere hdispatch (fun axis e h => ?_) hsame
    exact absurd (hoffer.symm.trans h) (by simp)
  cases x with
  | submit axis c => exact offer_attended rfl
  | request axis c => exact offer_attended rfl
  | dispatch i =>
      cases hd : s.dispatchers[i]? with
      | none =>
          have heq : s.act (.dispatch i) = s := by simp only [act, dispatch, hd]
          rw [heq]
          exact .absent hd
      | some d =>
          obtain ⟨a, ha⟩ := hstaffed i d hd
          obtain ⟨d', replies, hserves, hoffice⟩ := dispatch_serves hd ha
          exact .serves hd ha hserves hoffice
  | hangUp => exact absurd hx (by simp [Action.dismisses])
  | cancelDispatcher i => exact absurd hx (by simp [Action.dismisses])
  | timerMatch h held => exact helse (by simp) rfl rfl
  | supervise signalFirst => exact helse (by simp) rfl (s.supervise_office signalFirst)
  | reverse id => exact helse (by simp) rfl (s.reverse_office id)
  | stopAxis h => exact helse (by simp) rfl (s.operate_office h Axis.stop)
  | status axis =>
      refine helse (by simp) rfl ?_
      rcases status_frame s axis with ⟨_, heq⟩ | ⟨_, _, heq⟩
      · rw [act, heq]
      · rw [act, heq]
        rfl
  | setOffset axis offset =>
      refine helse (by simp) rfl ?_
      rcases setOffset_frame s axis offset with ⟨_, heq⟩ | ⟨_, _, _, heq⟩
      · rw [act, heq]
      · rw [act, heq]
        rfl
  | cancelSupervisor =>
      refine helse (by simp) rfl ?_
      rcases cancelSupervisor_frame s with heq | heq
      · rw [act, heq]
      · rw [act, heq]
        rfl
  | pass ms => exact helse (by simp) rfl rfl
  | place h position => exact helse (by simp) rfl rfl
  | freeze h frozen => exact helse (by simp) rfl rfl
  | limitTimer h hz => exact helse (by simp) rfl rfl
  | statuses => exact helse (by simp) rfl rfl
  | setMainPower on => exact helse (by simp) rfl rfl

/-- A dispatcher is as it was, or has one more command in its inbox, or has made a stroke. -/
theorem Attended.dispatcher {x : Action} {s' : Station} {d' : Dispatcher} (h : s.Attended x s')
    (hd' : s'.dispatchers[i]? = some d') :
    ∃ d, s.dispatchers[i]? = some d
      ∧ (d' = d
        ∨ (∃ e, d.inbox.items.length < d.inbox.capacity
          ∧ d' = { d with inbox := { d.inbox with items := d.inbox.items ++ [e] } })
        ∨ ∃ a replies, s.machine.axes[d.handle]? = some a ∧ d.Serves s a d' replies) := by
  cases h with
  | elsewhere _ _ hoffice =>
      rw [(Office.mk.inj hoffice).1] at hd'
      exact ⟨d', hd', Or.inl rfl⟩
  | absent _ => exact ⟨d', hd', Or.inl rfl⟩
  | @accepts _ _ e k d _ _ _ hd _ hroom hoffice =>
      rw [(Office.mk.inj hoffice).1] at hd'
      rcases get_set_dispatcher hd' with ⟨rfl, rfl⟩ | ⟨_, hold⟩
      · exact ⟨d, hd, Or.inr (Or.inl ⟨e, hroom, rfl⟩)⟩
      · exact ⟨d', hold, Or.inl rfl⟩
  | @serves k d _ a replies _ hd ha hserves hoffice =>
      rw [(Office.mk.inj hoffice).1] at hd'
      rcases get_set_dispatcher hd' with ⟨rfl, rfl⟩ | ⟨_, hold⟩
      · exact ⟨d, hd, Or.inr (Or.inr ⟨a, replies, ha, hserves⟩)⟩
      · exact ⟨d', hold, Or.inl rfl⟩

/-! ## A dispatcher at work -/

theorem Staffed.act (h : s.Staffed) (x : Action) : (s.act x).Staffed := by
  intro i d' hd'
  obtain ⟨d, hd, hhandle, _⟩ := act_dispatchers hd'
  obtain ⟨a, ha⟩ := h i d hd
  refine ⟨a.after (s.strokes d.handle a x), ?_⟩
  rw [hhandle, act_axes, ha]
  rfl

/-- Nobody has sent the dispatcher away, and it works unless a computation has failed. -/
structure OnDuty (s : Station) (d : Dispatcher) : Prop where
  works : d.phase.isLive = true ∨ ∃ f, d.phase = .failed f
  hungUp : d.hungUp = false
  /-- It takes commands as long as it works. -/
  isOpen : d.phase.isLive = true → d.inbox.isOpen = true
  capacity : d.inbox.capacity = s.machine.config.commandCapacity
  room : d.inbox.items.length ≤ d.inbox.capacity
  /-- It never waits for longer than a rest. -/
  due : ∀ e untilMs, d.phase = .waiting e untilMs → untilMs ≤ s.nowMs + s.machine.config.restMs

theorem OnDuty.later {s' : Station} (h : s.OnDuty d) (hconfig : s'.machine.config = s.machine.config)
    (hnow : s.nowMs ≤ s'.nowMs) : s'.OnDuty d where
  works := h.works
  hungUp := h.hungUp
  isOpen := h.isOpen
  capacity := by rw [hconfig]; exact h.capacity
  room := h.room
  due e untilMs hp := by
    have hdue := h.due e untilMs hp
    rw [hconfig]
    omega

theorem OnDuty.serves {d' : Dispatcher} {replies : List Reply} (h : s.OnDuty d)
    (hserves : d.Serves s a d' replies) : s.OnDuty d' := by
  cases hserves with
  | begins hp =>
      have hopen := h.isOpen (by rw [hp]; rfl)
      exact ⟨Or.inl rfl, h.hungUp, fun _ => hopen, h.capacity, h.room, by simp⟩
  | @takes e rest hp hitems =>
      have hopen := h.isOpen (by rw [hp]; rfl)
      have hroom : (e :: rest).length ≤ d.inbox.capacity := hitems ▸ h.room
      exact ⟨Or.inl rfl, h.hungUp, fun _ => hopen, h.capacity, Nat.le_of_succ_le hroom, by simp⟩
  | idles _ _ _ => exact h
  | ends _ hhung => exact absurd (hhung.symm.trans h.hungUp) (by simp)
  | readies hp _ =>
      have hopen := h.isOpen (by rw [hp]; rfl)
      exact ⟨Or.inl rfl, h.hungUp, fun _ => hopen, h.capacity, h.room, by simp⟩
  | rests he _ =>
      have hopen := h.isOpen (live_of_envelope he)
      refine ⟨Or.inl rfl, h.hungUp, fun _ => hopen, h.capacity, h.room, fun e' untilMs hp => ?_⟩
      obtain ⟨_, rfl⟩ := Dispatcher.Phase.waiting.inj hp
      exact Nat.le_refl _
  | waits _ _ => exact h
  | finishes he _ _ =>
      have hopen := h.isOpen (live_of_envelope he)
      exact ⟨Or.inl rfl, h.hungUp, fun _ => hopen, h.capacity, h.room, by simp⟩
  | fails _ _ =>
      exact ⟨Or.inr ⟨_, rfl⟩, h.hungUp, fun hlive => absurd hlive (by simp [Dispatcher.Phase.isLive]),
        h.capacity, Nat.zero_le _, by simp⟩
  | gone _ => exact h

/-- **A dispatcher stays at its work until somebody sends it away.** -/
theorem onDuty_act (hstaffed : s.Staffed) {x : Action} (hx : x.dismisses = false)
    (h : ∀ (i : Nat) (d : Dispatcher), s.dispatchers[i]? = some d → s.OnDuty d) :
    ∀ (i : Nat) (d : Dispatcher), (s.act x).dispatchers[i]? = some d → (s.act x).OnDuty d := by
  intro i d' hd'
  have hlater : ∀ d, s.OnDuty d → (s.act x).OnDuty d := fun d hd =>
    hd.later (act_config s x) (act_nowMs s x)
  obtain ⟨d, hd, rfl | ⟨e, hroom, rfl⟩ | ⟨a, _, _, hserves⟩⟩ :=
    (act_attended hstaffed hx).dispatcher hd'
  · exact hlater _ (h i _ hd)
  · have hduty := h i d hd
    refine hlater _ ⟨hduty.works, hduty.hungUp, hduty.isOpen, hduty.capacity, ?_, hduty.due⟩
    rw [List.length_append]
    exact hroom
  · exact hlater d' ((h i d hd).serves hserves)

/-- Every dispatcher is in its place, and nobody has sent it away. -/
structure Manned (s : Station) : Prop where
  placed : s.Placed
  staffed : s.Staffed
  duty : ∀ (i : Nat) (d : Dispatcher), s.dispatchers[i]? = some d → s.OnDuty d

theorem Manned.act (h : s.Manned) {x : Action} (hx : x.dismisses = false) : (s.act x).Manned where
  placed := h.placed.act x
  staffed := h.staffed.act x
  duty := onDuty_act h.staffed hx h.duty

theorem Manned.run (h : s.Manned) {as : List Action} (hkept : ∀ x ∈ as, x.dismisses = false) :
    (s.run as).Manned :=
  run_of_mem (fun _ x hx hm => hm.act (hkept x hx)) h

/-- The axis that a dispatcher serves. -/
theorem Manned.axis (h : s.Manned) (hd : s.dispatchers[i]? = some d) :
    ∃ a, s.machine.axes[i]? = some a := by
  obtain ⟨a, ha⟩ := h.staffed i d hd
  rw [h.placed.dispatchers i d hd] at ha
  exact ⟨a, ha⟩

theorem start_dispatcher {config : MotionConfig} {axes : List (AxisConfig × Board)}
    {powered : Bool} (h : start config axes powered = .ok s) (hd : s.dispatchers[i]? = some d) :
    ∃ a, s.machine.axes[i]? = some a ∧ d = newDispatcher config i a := by
  obtain ⟨_, _, _, _, hdispatchers, _⟩ := start_ok h
  rw [hdispatchers, List.getElem?_mapIdx, Option.map_eq_some_iff] at hd
  obtain ⟨a, ha, rfl⟩ := hd
  exact ⟨a, ha, rfl⟩

theorem manned_start {config : MotionConfig} {axes : List (AxisConfig × Board)} {powered : Bool}
    (h : start config axes powered = .ok s) : s.Manned where
  placed := placed_start h
  staffed i d hd := by
    obtain ⟨a, ha, rfl⟩ := start_dispatcher h hd
    exact ⟨a, ha⟩
  duty i d hd := by
    obtain ⟨a, _, rfl⟩ := start_dispatcher h hd
    have hcapacity : config.commandCapacity = s.machine.config.commandCapacity := by
      rw [(start_ok h).2.1]
    exact ⟨Or.inl rfl, rfl, fun _ => rfl, hcapacity, Nat.zero_le _, by simp [newDispatcher]⟩

/-- A dispatcher that works has worked all the time. -/
theorem live_of_act {x : Action} {d' : Dispatcher} (hd' : (s.act x).dispatchers[i]? = some d')
    (hlive : d'.phase.isLive = true) :
    ∃ d, s.dispatchers[i]? = some d ∧ d.phase.isLive = true := by
  obtain ⟨d, hd, _, hlater⟩ := act_dispatchers hd'
  obtain ⟨t', ht'⟩ := earliest_of_live (s.act x).nowMs hlive
  obtain ⟨t, ht, _⟩ := hlater t' ht'
  exact ⟨d, hd, live_of_earliest ht⟩

theorem live_of_run {as : List Action} {d' : Dispatcher}
    (hd' : (s.run as).dispatchers[i]? = some d') (hlive : d'.phase.isLive = true) :
    ∃ d, s.dispatchers[i]? = some d ∧ d.phase.isLive = true := by
  induction as generalizing s with
  | nil => exact ⟨d', hd', hlive⟩
  | cons x as ih =>
      obtain ⟨d, hd, hlive⟩ := ih hd'
      exact live_of_act hd hlive

/-! ## A dispatcher that is left alone with its axis -/

/-- So many times a rest and then a stroke of dispatcher `i`. -/
def turns (restMs i : Nat) : Nat → List Action
  | 0 => []
  | n + 1 => .pass restMs :: .dispatch i :: turns restMs i n

/-- How many such strokes a dispatcher needs at most to finish what it was given. -/
def toGo (a : Axis) (d : Dispatcher) : Nat :=
  4 * d.inbox.items.length + match d.phase with
    | .starting => 1
    | .received _ => 3
    | .ready _ => 2
    | .waiting .. => if a.isHalted then 1 else 2
    | _ => 0

theorem set_get {d' : Dispatcher} (hd : s.dispatchers[i]? = some d) :
    (s.dispatchers.set i d')[i]? = some d' := by
  obtain ⟨hlt, _⟩ := List.getElem?_eq_some_iff.mp hd
  exact List.getElem?_set_self hlt

/-- A dispatcher that has a command in hand has some strokes to make. -/
theorem toGo_of_envelope (he : d.phase.envelope? = some e) :
    4 * d.inbox.items.length + 1 ≤ toGo a d := by
  unfold toGo
  cases hp : d.phase with
  | waiting e untilMs =>
      dsimp only
      split <;> omega
  | received e => exact Nat.add_le_add_left (Nat.le_add_left ..) _
  | ready e => exact Nat.add_le_add_left (Nat.le_add_left ..) _
  | _ => exact absurd he (by simp [hp, Dispatcher.Phase.envelope?])

/-- A stroke after a whole rest leaves a dispatcher less to do. -/
theorem toGo_serves {a' : Axis} {d' : Dispatcher} {replies : List Reply} (hduty : s.OnDuty d)
    (hdue : ∀ e untilMs, d.phase = .waiting e untilMs → untilMs ≤ s.nowMs)
    (hhalt : a.hasToRest s.nowMs d.phase = true → a'.isHalted = true)
    (hserves : d.Serves s a d' replies) (hlive : d'.phase.isLive = true) :
    toGo a' d' ≤ toGo a d - 1 := by
  cases hserves with
  | begins hp => simp only [toGo, hp]; omega
  | takes hp hitems => simp only [toGo, hp, hitems, List.length_cons]; omega
  | idles hp hitems _ => simp [toGo, hp, hitems]
  | ends _ hhung => exact absurd (hhung.symm.trans hduty.hungUp) (by simp)
  | readies hp _ => simp only [toGo, hp]; omega
  | waits hp hlater => exact absurd (hdue _ _ hp) hlater
  | finishes he _ _ =>
      have hbefore : 4 * d.inbox.items.length + 1 ≤ toGo a d := toGo_of_envelope he
      simp only [toGo] at hbefore ⊢
      omega
  | fails _ _ => exact absurd hlive (by simp [Dispatcher.Phase.isLive])
  | gone hp => exact absurd (hp.symm.trans hlive) (by simp)
  | rests he hrest =>
      -- an axis that has just been halted need not be halted again
      have hafter := hhalt hrest
      cases hp : d.phase with
      | waiting e untilMs =>
          cases hbefore : a.isHalted with
          | true =>
              rw [hp, Axis.hasToRest, if_pos (hdue _ _ hp), Axis.attempt_of_halted hbefore] at hrest
              exact absurd hrest (by simp)
          | false => simp only [toGo, hp, hafter, hbefore, if_true, Bool.false_eq_true, if_false]; omega
      | received e => simp only [toGo, hp, hafter, if_true]; omega
      | ready e => simp only [toGo, hp, hafter, if_true]; omega
      | _ => exact absurd he (by simp [hp, Dispatcher.Phase.envelope?])

/-- A dispatcher and its axis after a whole rest and a stroke. -/
theorem toGo_turn (hplaced : s.Placed) (hd : s.dispatchers[i]? = some d)
    (ha : s.machine.axes[i]? = some a) (hduty : s.OnDuty d) :
    ∃ d' a', ((s.pass s.machine.config.restMs).act (.dispatch i)).dispatchers[i]? = some d'
      ∧ ((s.pass s.machine.config.restMs).act (.dispatch i)).machine.axes[i]? = some a'
      ∧ ((s.pass s.machine.config.restMs).act (.dispatch i)).OnDuty d'
      ∧ (d'.phase.isLive = true → toGo a' d' ≤ toGo a d - 1) := by
  have hi : d.handle = i := hplaced.dispatchers i d hd
  have hlater : (s.pass s.machine.config.restMs).OnDuty d := hduty.later rfl (Nat.le_add_right ..)
  generalize hs₁ : s.pass s.machine.config.restMs = s₁ at hlater ⊢
  have hd₁ : s₁.dispatchers[i]? = some d := hs₁ ▸ hd
  have ha₁ : s₁.machine.axes[i]? = some a := hs₁ ▸ ha
  obtain ⟨d', replies, hserves, hoffice⟩ := dispatch_serves hd₁ (hi.symm ▸ ha₁)
  have hd' : (s₁.act (.dispatch i)).dispatchers[i]? = some d' := by
    rw [act, (Office.mk.inj hoffice).1]
    exact set_get hd₁
  have ha' : (s₁.act (.dispatch i)).machine.axes[i]?
      = some (a.after (a.phaseStrokes s₁.nowMs d.phase)) := by
    rw [axis_act ha₁, strokes_of_dispatcher hd₁ hi]
  refine ⟨d', _, hd', ha', ?_, ?_⟩
  · exact (hlater.serves hserves).later (act_config ..) (act_nowMs ..)
  · refine toGo_serves hlater (fun e untilMs hp => ?_) (fun hrest => ?_) hserves
    · rw [← hs₁]
      exact hduty.due e untilMs hp
    · exact (Axis.quiesces_of_hasToRest hrest).halted

/-- **A dispatcher that is left alone with its axis finishes whatever it was given,** if no
computation fails. -/
theorem turns_finish {restMs n : Nat} (hrest : s.machine.config.restMs = restMs)
    (hplaced : s.Placed) (hd : s.dispatchers[i]? = some d) (ha : s.machine.axes[i]? = some a)
    (hduty : s.OnDuty d) (hn : toGo a d ≤ n) {d' : Dispatcher}
    (hd' : (s.run (turns restMs i n)).dispatchers[i]? = some d') (hlive : d'.phase.isLive = true) :
    d'.phase = .idle ∧ d'.inbox.items = [] := by
  induction n generalizing s d a with
  | zero =>
      obtain rfl := Option.some.inj (hd.symm.trans hd')
      have hnone : toGo a d = 0 := Nat.le_zero.mp hn
      have hitems : d.inbox.items = [] := List.eq_nil_of_length_eq_zero (by
        unfold toGo at hnone
        omega)
      refine ⟨?_, hitems⟩
      cases hp : d.phase with
      | idle => rfl
      | waiting e untilMs =>
          have hsome : _ ≤ toGo a d := toGo_of_envelope (d := d) (by rw [hp]; rfl)
          omega
      | _ => simp [toGo, hp, Dispatcher.Phase.isLive] at hnone hlive
  | succ n ih =>
      obtain ⟨d₁, a₁, hd₁, ha₁, hduty₁, hless⟩ := toGo_turn hplaced hd ha hduty
      rw [hrest] at hd₁ ha₁ hduty₁
      have hplaced₁ : ((s.pass restMs).act (.dispatch i)).Placed :=
        (hplaced.act (.pass restMs)).act (.dispatch i)
      have hconfig : ((s.pass restMs).act (.dispatch i)).machine.config = s.machine.config :=
        act_config ..
      rw [turns, run_cons, run_cons] at hd'
      obtain ⟨d₂, hd₂, hlive₁⟩ := live_of_run hd' hlive
      obtain rfl := Option.some.inj (hd₁.symm.trans hd₂)
      have hless₁ := hless hlive₁
      exact ih (hconfig ▸ hrest) hplaced₁ hd₁ ha₁ hduty₁ (by omega) hd'

end Station

end StepperMotion
