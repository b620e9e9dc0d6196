import StepperMotion.Proofs.Operation
import StepperMotion.Station.Action

/-!
# Strokes

Whoever works on a station holds one axis at a time, and what he does to it at one stroke is a short
list of operations. `Station.strokes` says which, for every action and every axis. So what holds of
an axis after any operations holds of the axes of a station after any run, and nothing has to be
proved about dispatchers and supervisors for it.

What remains is the paperwork: where the reports are, what the dispatchers have in hand, and which
moves are put down to go on. There is one lemma for each function that changes it.
-/

namespace StepperMotion

open Axis (Operation)

/-! ## Changing one axis of a machine -/

namespace Machine

/-- An axis after one axis was changed. -/
theorem modifyAxis_get (m : Machine) (h j : Nat) (f : Axis → Axis) :
    (m.modifyAxis h f).axes[j]? = m.axes[j]?.map fun a => if h = j then f a else a := by
  rw [modifyAxis, List.getElem?_modify]
  split <;> simp [*]

/-- Putting the changed axis in its place is changing it there. -/
theorem setAxis_eq {m : Machine} {h : Nat} {a : Axis} (ha : m.axes[h]? = some a) (f : Axis → Axis) :
    m.setAxis h (f a) = m.modifyAxis h f := by
  have haxes : m.axes.set h (f a) = m.axes.modify h f := by
    refine List.ext_getElem? fun j => ?_
    rw [List.getElem?_set, List.getElem?_modify]
    split
    · rename_i hj
      subst hj
      obtain ⟨hlt, hget⟩ := List.getElem?_eq_some_iff.mp ha
      simp [hlt, hget]
    · simp
  rw [setAxis, modifyAxis, haxes]

theorem modifyAxis_same (m : Machine) (h : Nat) : (m.modifyAxis h fun a => a) = m := by
  have haxes : (m.axes.modify h fun a => a) = m.axes := by
    refine List.ext_getElem? fun j => ?_
    rw [List.getElem?_modify]
    split <;> simp
  rw [modifyAxis, haxes]

theorem modifyAxis_modifyAxis (m : Machine) (h : Nat) (f g : Axis → Axis) :
    (m.modifyAxis h f).modifyAxis h g = m.modifyAxis h fun a => g (f a) := by
  simp only [modifyAxis, List.modify_modify_eq]
  rfl

theorem modifyAxis_none {m : Machine} {h : Nat} (ha : m.axes[h]? = none) (f : Axis → Axis) :
    m.modifyAxis h f = m := by
  rw [modifyAxis, List.modify_eq_self (List.getElem?_eq_none_iff.mp ha)]

end Machine

/-! ## The operations of a stroke -/

/-- The operations by which a timer match is served and its report passed on. -/
def Machine.matchStrokes (m : Machine) (nowMs : Nat) (a : Axis) : List Operation :=
  .tick nowMs :: match (a.tick nowMs).2 with
    | .ok (some note) =>
      match m.notes.offer note with
      | .ok _ => []
      | .error _ => if note.kind.isTerminal then [.park note] else [.countDropped]
    | _ => []

namespace Axis

/-- The operations by which a command is prepared. -/
def prepareStrokes (a : Axis) (c : Command) : List Operation :=
  match a.validate c with
  | .error _ => []
  | .ok () => [.clearFaults, .beginDirectionChange c]

/-- The operations by which a command is attempted. -/
def attemptStrokes (a : Axis) (c : Command) (nowMs : Nat) : List Operation :=
  if (a.beginDirectionChange c).answer then [.beginDirectionChange c]
  else [.beginDirectionChange c, .apply c nowMs]

/-- The operations of a dispatcher that is in the given phase. -/
def phaseStrokes (a : Axis) (nowMs : Nat) : Dispatcher.Phase → List Operation
  | .received e => if e.command = .stop then [.stop] else a.prepareStrokes e.command
  | .ready e => a.attemptStrokes e.command nowMs
  | .waiting e untilMs => if untilMs ≤ nowMs then a.attemptStrokes e.command nowMs else []
  | _ => []

/-- Whether the stroke of a dispatcher in the given phase ends with a rest of the axis. -/
def hasToRest (a : Axis) (nowMs : Nat) : Dispatcher.Phase → Bool
  | .received e =>
    if e.command = .stop then false
    else match (a.prepare e.command).answer with
      | .error _ => false
      | .ok mustRest => mustRest
  | .ready e => (a.attempt e.command nowMs).answer.isNone
  | .waiting e untilMs =>
    if untilMs ≤ nowMs then (a.attempt e.command nowMs).answer.isNone else false
  | _ => false

theorem prepare_axis (a : Axis) (c : Command) :
    (a.prepare c).axis = a.after (a.prepareStrokes c) := by
  unfold prepare prepareStrokes
  cases a.validate c <;> rfl

theorem attempt_axis (a : Axis) (c : Command) (nowMs : Nat) :
    (a.attempt c nowMs).axis = a.after (a.attemptStrokes c nowMs) := by
  unfold attempt attemptStrokes
  cases h : (a.beginDirectionChange c).answer <;> simp [perform, h]

end Axis

namespace Station

/-- The operations that an action comes to for axis `j`, which is `a`. -/
def strokes (s : Station) (j : Nat) (a : Axis) : Action → List Operation
  | .timerMatch h held =>
    if h = j ∧ held = false ∧ a.isRunning = true then s.machine.matchStrokes s.nowMs a else []
  | .place h position => if h = j then [.place position] else []
  | .freeze h frozen => if h = j then [.freeze frozen] else []
  | .limitTimer h hz => if h = j then [.limitTimer hz] else []
  | .status axis => if s.machine.handle? axis = some j then [.status] else []
  | .statuses => [.status]
  | .setOffset axis offset => if s.machine.handle? axis = some j then [.setOffset offset] else []
  | .dispatch i =>
    match s.dispatchers[i]? with
    | none => []
    | some d => if d.handle = j then a.phaseStrokes s.nowMs d.phase else []
  | .supervise _ =>
    match s.supervisor with
    | .working (some note) _ => if note.handle = j then [.inspect note] else []
    | .working none (h :: _) => if h = j then [.takeParked] else []
    | _ => []
  | .reverse id =>
    match s.reversals.find? fun r => r.id == id && decide (r.dueMs ≤ s.nowMs) with
    | none => []
    | some r => if r.note.handle = j then [.resume r.note.epoch s.nowMs] else []
  | .stopAxis h => if h = j then [.stop] else []
  | .pass _ | .submit .. | .request .. | .setMainPower _ | .hangUp | .cancelDispatcher _
  | .cancelSupervisor => []

end Station

/-- A dispatcher holds the axis that it serves. -/
theorem Station.strokes_of_dispatcher {s : Station} {i j : Nat} {d : Dispatcher}
    (hd : s.dispatchers[i]? = some d) (hj : d.handle = j) (a : Axis) :
    s.strokes j a (.dispatch i) = a.phaseStrokes s.nowMs d.phase := by
  simp only [strokes, hd, hj, if_true]

/-- Operations that disturb an axis, ask about it, or judge it. They get no motor going. -/
def Axis.Operation.isMinor : Operation → Bool
  | .place _ | .freeze _ | .limitTimer _ | .status | .setOffset _ | .inspect _ | .takeParked => true
  | _ => false

namespace Station

/-- Who makes a stroke on axis `j`, which is `a`, and by which operations. -/
inductive Struck (s : Station) (j : Nat) (a : Axis) : Action → List Operation → Prop where
  | alone {x : Action} : Struck s j a x []
  | minor {x : Action} {o : Operation} (h : o.isMinor = true) : Struck s j a x [o]
  | matched (hrun : a.isRunning = true) :
      Struck s j a (.timerMatch j false) (s.machine.matchStrokes s.nowMs a)
  | dispatched {i : Nat} {d : Dispatcher} (hd : s.dispatchers[i]? = some d) (hj : d.handle = j) :
      Struck s j a (.dispatch i) (a.phaseStrokes s.nowMs d.phase)
  | resumed {id : Nat} {r : Reversal} (hr : r ∈ s.reversals) (hdue : r.dueMs ≤ s.nowMs)
      (hj : r.note.handle = j) : Struck s j a (.reverse id) [.resume r.note.epoch s.nowMs]
  | stopped : Struck s j a (.stopAxis j) [.stop]

theorem struck_minor {s : Station} {j : Nat} {a : Axis} {x : Action} {o : Operation}
    (h : o.isMinor = true) (p : Prop) [Decidable p] :
    s.Struck j a x (if p then [o] else []) := by
  by_cases hp : p
  · rw [if_pos hp]
    exact .minor h
  · rw [if_neg hp]
    exact .alone

/-- **Only four parties do more to an axis than disturbing it or asking about it.** -/
theorem strokes_struck (s : Station) (j : Nat) (a : Axis) (x : Action) :
    s.Struck j a x (s.strokes j a x) := by
  cases x with
  | timerMatch h held =>
      simp only [strokes]
      split
      · rename_i hserve
        obtain ⟨rfl, rfl, hrun⟩ := hserve
        exact .matched hrun
      · exact .alone
  | dispatch i =>
      simp only [strokes]
      cases hd : s.dispatchers[i]? with
      | none => exact .alone
      | some d =>
          by_cases hj : d.handle = j
          · simp only [if_pos hj]
            exact .dispatched hd hj
          · simp only [if_neg hj]
            exact .alone
  | supervise signalFirst =>
      simp only [strokes]
      split
      · exact struck_minor rfl _
      · exact struck_minor rfl _
      · exact .alone
  | reverse id =>
      simp only [strokes]
      split
      · exact .alone
      · rename_i r hr
        by_cases hj : r.note.handle = j
        · have hfound := List.find?_some hr
          simp only [Bool.and_eq_true, decide_eq_true_eq] at hfound
          rw [if_pos hj]
          exact .resumed (List.mem_of_find?_eq_some hr) hfound.2 hj
        · rw [if_neg hj]
          exact .alone
  | stopAxis h =>
      by_cases hj : h = j
      · subst hj
        simp only [strokes, if_true]
        exact .stopped
      · simp only [strokes, if_neg hj]
        exact .alone
  | place h position => exact struck_minor rfl _
  | freeze h frozen => exact struck_minor rfl _
  | limitTimer h hz => exact struck_minor rfl _
  | status axis => exact struck_minor rfl _
  | statuses => exact .minor rfl
  | setOffset axis offset => exact struck_minor rfl _
  | pass ms => exact .alone
  | submit axis c => exact .alone
  | request axis c => exact .alone
  | setMainPower on => exact .alone
  | hangUp => exact .alone
  | cancelDispatcher i => exact .alone
  | cancelSupervisor => exact .alone

end Station

/-! ## What each function leaves behind -/

/-- The answer to a command, if somebody waits for it. -/
def Envelope.reply? (e : Envelope) (result : Except MotionError Outcome) : Option Reply :=
  e.ticket.map fun ticket => ⟨ticket, result⟩

/-- The answer that a result comes to. A computation that failed comes to none. -/
def answer? : Except Failure Outcome → Option (Except MotionError Outcome)
  | .ok o => some (.ok o)
  | .error (.refused r) => some (.error r)
  | .error (.fault _) => none

theorem fault_of_unanswered {r : Except Failure Outcome} (h : answer? r = none) :
    ∃ f, r = .error (.fault f) := by
  cases r with
  | ok o => exact absurd h (by simp [answer?])
  | error e =>
      cases e with
      | refused r => exact absurd h (by simp [answer?])
      | fault f => exact ⟨f, rfl⟩

namespace Station

theorem operate_none {α : Type} {s : Station} {h : Nat} (ha : s.machine.axes[h]? = none)
    (f : Axis → Transition α) : s.operate h f = (s, .error (Machine.unknownHandle h)) := by
  simp only [operate, ha]

theorem operate_some {α : Type} {s : Station} {h : Nat} {a : Axis}
    (ha : s.machine.axes[h]? = some a) (f : Axis → Transition α) :
    s.operate h f = ({ s with
      machine := s.machine.modifyAxis h fun a => (f a).axis
      log := s.log ++ (f a).log }, .ok (f a).answer) := by
  simp only [operate, ha]
  rw [Machine.setAxis_eq ha fun a => (f a).axis]

/-- Holding an axis changes this axis and the log. -/
theorem operate_fst {α : Type} (s : Station) (h : Nat) (f : Axis → Transition α) :
    ∃ log, (s.operate h f).1 = { s with
      machine := s.machine.modifyAxis h fun a => (f a).axis, log := log } := by
  cases ha : s.machine.axes[h]? with
  | none => exact ⟨s.log, by rw [operate_none ha, Machine.modifyAxis_none ha]⟩
  | some a => exact ⟨_, by rw [operate_some ha]⟩

theorem answer_eq (s : Station) (e : Envelope) (r : Except MotionError Outcome) :
    s.answer e r = { s with replies := s.replies ++ (e.reply? r).toList } := by
  unfold answer Envelope.reply?
  cases e.ticket with
  | none => simp
  | some ticket => rfl

theorem foldl_answer_eq (s : Station) (es : List Envelope) (r : Except MotionError Outcome) :
    es.foldl (fun s e => s.answer e r) s
      = { s with replies := s.replies ++ es.filterMap (·.reply? r) } := by
  induction es generalizing s with
  | nil => simp
  | cons e es ih =>
      rw [List.foldl_cons, ih, answer_eq]
      cases h : e.reply? r <;> simp [h]

/-- A dispatcher that retires closes its inbox and tells those who wait for its commands. -/
theorem retire_eq (s : Station) (i : Nat) (d : Dispatcher) (phase : Dispatcher.Phase) :
    s.retire i d phase = { s with
      dispatchers := s.dispatchers.set i { d with inbox := d.inbox.close, phase := phase }
      replies := s.replies ++ (d.phase.envelope?.toList ++ d.inbox.items).filterMap
        (·.reply? (.error (.dispatcherClosed d.name))) } :=
  foldl_answer_eq ..

/-- A dispatcher is idle when it has answered a command. -/
theorem finish_answered {r : Except Failure Outcome} {result : Except MotionError Outcome}
    (h : answer? r = some result) (s : Station) (i : Nat) (d : Dispatcher) (e : Envelope) :
    s.finish i d e r = { s with
      dispatchers := s.dispatchers.set i { d with phase := .idle }
      replies := s.replies ++ (e.reply? result).toList } := by
  unfold finish
  split
  · obtain rfl := Option.some.inj h
    exact answer_eq ..
  · obtain rfl := Option.some.inj h
    exact answer_eq ..
  · exact absurd h (by simp [answer?])

/-- A dispatcher that has finished a command is idle, or has failed. -/
theorem finish_eq (s : Station) (i : Nat) (d : Dispatcher) (e : Envelope)
    (r : Except Failure Outcome) :
    ∃ d' replies, s.finish i d e r = { s with
        dispatchers := s.dispatchers.set i d', replies := replies }
      ∧ d'.handle = d.handle
      ∧ (d' = { d with phase := .idle }
        ∨ ∃ f, r = .error (.fault f)
          ∧ d' = { d with inbox := d.inbox.close, phase := .failed f }) := by
  cases h : answer? r with
  | some result => exact ⟨_, _, finish_answered h s i d e, rfl, Or.inl rfl⟩
  | none =>
      obtain ⟨f, rfl⟩ := fault_of_unanswered h
      exact ⟨_, _, retire_eq s i d (.failed f), rfl, Or.inr ⟨f, rfl, rfl⟩⟩

end Station

/-! ## The stroke of a dispatcher -/

/-- The earliest time at which a dispatcher may carry out a command. -/
def Dispatcher.Phase.earliest? (nowMs : Nat) : Dispatcher.Phase → Option Nat
  | .waiting _ untilMs => some untilMs
  | .ended | .failed _ => none
  | _ => some nowMs

/-- A dispatcher before and after a stroke. -/
structure Dispatcher.Follows (s : Station) (d d' : Dispatcher) : Prop where
  handle : d'.handle = d.handle
  /-- It may not carry out a command any sooner than before. -/
  later : ∀ t', d'.phase.earliest? s.nowMs = some t' →
    ∃ t, d.phase.earliest? s.nowMs = some t ∧ t ≤ t'
  /-- It lets an axis rest that has to. -/
  rests : ∀ a, s.machine.axes[d.handle]? = some a → a.hasToRest s.nowMs d.phase = true →
    ∃ e, d'.phase = .waiting e (s.nowMs + s.machine.config.restMs)

namespace Station

/-- What a stroke of dispatcher `i` comes to. -/
structure Dispatched (s : Station) (i : Nat) (d : Dispatcher) (s' : Station) : Prop where
  machine : s'.machine
    = s.machine.modifyAxis d.handle fun a => a.after (a.phaseStrokes s.nowMs d.phase)
  nowMs : s'.nowMs = s.nowMs
  supervisor : s'.supervisor = s.supervisor
  reversals : s'.reversals = s.reversals
  /-- It changes what the dispatcher does next. -/
  dispatchers : ∃ d', s'.dispatchers = s.dispatchers.set i d' ∧ d.Follows s d'

/-- A stroke in which the axis is not operated. -/
theorem dispatched_paperwork {s s' : Station} {i : Nat} {d : Dispatcher} (d' : Dispatcher)
    (hstrokes : ∀ a : Axis, a.phaseStrokes s.nowMs d.phase = [])
    (hrest : ∀ a : Axis, a.hasToRest s.nowMs d.phase = false)
    (hhandle : d'.handle = d.handle)
    (hlater : ∀ t', d'.phase.earliest? s.nowMs = some t' →
      ∃ t, d.phase.earliest? s.nowMs = some t ∧ t ≤ t')
    (hmachine : s'.machine = s.machine) (hnow : s'.nowMs = s.nowMs)
    (hsupervisor : s'.supervisor = s.supervisor) (hreversals : s'.reversals = s.reversals)
    (hdispatchers : s'.dispatchers = s.dispatchers.set i d') : s.Dispatched i d s' where
  machine := by
    simp only [hstrokes, Axis.after_nil, Machine.modifyAxis_same]
    exact hmachine
  nowMs := hnow
  supervisor := hsupervisor
  reversals := hreversals
  dispatchers := ⟨d', hdispatchers, hhandle, hlater, fun a _ h => by
    rw [hrest a] at h
    exact absurd h (by simp)⟩

theorem set_same {s : Station} {i : Nat} {d : Dispatcher} (hd : s.dispatchers[i]? = some d) :
    s.dispatchers = s.dispatchers.set i d := by
  obtain ⟨hlt, hget⟩ := List.getElem?_eq_some_iff.mp hd
  rw [← hget, List.set_getElem_self]

theorem dispatched_same {s : Station} {i : Nat} {d : Dispatcher} (hd : s.dispatchers[i]? = some d)
    (hstrokes : ∀ a : Axis, a.phaseStrokes s.nowMs d.phase = [])
    (hrest : ∀ a : Axis, a.hasToRest s.nowMs d.phase = false) : s.Dispatched i d s :=
  dispatched_paperwork d hstrokes hrest rfl (fun t' h => ⟨t', h, Nat.le_refl _⟩) rfl rfl rfl rfl
    (set_same hd)

theorem receive_dispatched {s : Station} {i : Nat} {d : Dispatcher}
    (hd : s.dispatchers[i]? = some d) (hp : d.phase = .idle) :
    s.Dispatched i d (s.receive i d) := by
  have hstrokes : ∀ a : Axis, a.phaseStrokes s.nowMs d.phase = [] := fun a => by rw [hp]; rfl
  have hrest : ∀ a : Axis, a.hasToRest s.nowMs d.phase = false := fun a => by rw [hp]; rfl
  have hnow : d.phase.earliest? s.nowMs = some s.nowMs := by rw [hp]; rfl
  unfold receive
  split
  · rename_i e inbox _
    exact dispatched_paperwork { d with inbox := inbox, phase := .received e } hstrokes hrest
      rfl (fun t' h => ⟨_, hnow, Nat.le_of_eq (Option.some.inj h)⟩) rfl rfl rfl rfl rfl
  · split
    · exact dispatched_paperwork { d with inbox := d.inbox.close, phase := .ended } hstrokes
        hrest rfl (fun t' h => absurd h (by simp [Dispatcher.Phase.earliest?])) rfl rfl rfl rfl rfl
    · exact dispatched_same hd hstrokes hrest

/-- A stroke that finishes a command, with a result or a failure. -/
theorem dispatched_finish {s s₁ : Station} {i : Nat} {d : Dispatcher} {e : Envelope}
    {r : Except Failure Outcome}
    (hmachine : s₁.machine
      = s.machine.modifyAxis d.handle fun a => a.after (a.phaseStrokes s.nowMs d.phase))
    (hnow : s₁.nowMs = s.nowMs) (hsupervisor : s₁.supervisor = s.supervisor)
    (hreversals : s₁.reversals = s.reversals) (hdispatchers : s₁.dispatchers = s.dispatchers)
    (hready : ∃ t, d.phase.earliest? s.nowMs = some t ∧ t ≤ s.nowMs)
    (hrest : ∀ a, s.machine.axes[d.handle]? = some a → a.hasToRest s.nowMs d.phase = false) :
    s.Dispatched i d (s₁.finish i d e r) := by
  obtain ⟨d', replies, heq, hhandle, hd'⟩ := finish_eq s₁ i d e r
  rw [heq]
  refine ⟨hmachine, hnow, hsupervisor, hreversals, d', by rw [← hdispatchers], hhandle, ?_, ?_⟩
  · intro t' h
    rcases hd' with rfl | ⟨f, _, rfl⟩
    · -- it is idle, and may take the next command at once
      obtain ⟨t, ht, hle⟩ := hready
      obtain rfl := Option.some.inj h
      exact ⟨t, ht, hle⟩
    · exact absurd h (by simp [Dispatcher.Phase.earliest?])
  · intro a ha h
    rw [hrest a ha] at h
    exact absurd h (by simp)

/-- A stroke after which the axis rests. -/
theorem dispatched_rest {s s₁ : Station} {i : Nat} {d : Dispatcher} {e : Envelope}
    (hmachine : s₁.machine
      = s.machine.modifyAxis d.handle fun a => a.after (a.phaseStrokes s.nowMs d.phase))
    (hnow : s₁.nowMs = s.nowMs) (hsupervisor : s₁.supervisor = s.supervisor)
    (hreversals : s₁.reversals = s.reversals)
    (hdispatchers : s₁.dispatchers = s.dispatchers.set i
      { d with phase := .waiting e (s.nowMs + s.machine.config.restMs) })
    (hready : ∃ t, d.phase.earliest? s.nowMs = some t ∧ t ≤ s.nowMs) : s.Dispatched i d s₁ := by
  refine ⟨hmachine, hnow, hsupervisor, hreversals, _, hdispatchers, rfl, ?_, fun _ _ _ => ⟨e, rfl⟩⟩
  intro t' h
  obtain ⟨t, ht, hle⟩ := hready
  have hlater : s.nowMs + s.machine.config.restMs = t' := Option.some.inj h
  exact ⟨t, ht, by omega⟩

theorem begin_dispatched {s : Station} {i : Nat} {d : Dispatcher} {e : Envelope}
    (hp : d.phase = .received e) : s.Dispatched i d (s.begin i d e) := by
  have hready : ∃ t, d.phase.earliest? s.nowMs = some t ∧ t ≤ s.nowMs :=
    ⟨s.nowMs, by rw [hp]; rfl, Nat.le_refl _⟩
  unfold begin
  split
  · rename_i hstop
    have hstrokes : (fun a : Axis => a.stop.axis)
        = fun a => a.after (a.phaseStrokes s.nowMs d.phase) := by
      funext a
      simp only [hp, Axis.phaseStrokes, if_pos hstop]
      rfl
    have hrest : ∀ a : Axis, a.hasToRest s.nowMs d.phase = false := fun a => by
      simp only [hp, Axis.hasToRest, if_pos hstop]
    cases ha : s.machine.axes[d.handle]? with
    | none =>
        simp only [operate_none ha]
        exact dispatched_finish (Machine.modifyAxis_none ha _).symm rfl rfl rfl rfl hready
          fun a _ => hrest a
    | some a =>
        simp only [operate_some ha]
        exact dispatched_finish (congrArg (s.machine.modifyAxis d.handle) hstrokes) rfl rfl rfl rfl
          hready fun a _ => hrest a
  · rename_i hmove
    have hstrokes : (fun a : Axis => (a.prepare e.command).axis)
        = fun a => a.after (a.phaseStrokes s.nowMs d.phase) := by
      funext a
      simp only [hp, Axis.phaseStrokes, if_neg hmove]
      exact a.prepare_axis e.command
    have hmachine := congrArg (s.machine.modifyAxis d.handle) hstrokes
    cases ha : s.machine.axes[d.handle]? with
    | none =>
        simp only [operate_none ha]
        exact dispatched_finish (Machine.modifyAxis_none ha _).symm rfl rfl rfl rfl hready
          fun a h => absurd (ha.symm.trans h) (by simp)
    | some a =>
        -- the axis has to rest just when preparing the command says so
        have hrest : (a.prepare e.command).answer ≠ .ok true →
            ∀ b, s.machine.axes[d.handle]? = some b → b.hasToRest s.nowMs d.phase = false := by
          intro hans b hb
          obtain rfl := Option.some.inj (ha.symm.trans hb)
          simp only [hp, Axis.hasToRest, if_neg hmove]
          split
          · rfl
          · rename_i mustRest h
            cases mustRest with
            | false => rfl
            | true => exact absurd h hans
        simp only [operate_some ha]
        cases hans : (a.prepare e.command).answer with
        | error failure =>
            rw [hans] at hrest
            cases failure with
            | refused r => exact dispatched_finish hmachine rfl rfl rfl rfl hready (hrest (by simp))
            | fault f => exact dispatched_finish hmachine rfl rfl rfl rfl hready (hrest (by simp))
        | ok mustRest =>
            rw [hans] at hrest
            cases mustRest with
            | true => exact dispatched_rest hmachine rfl rfl rfl rfl hready
            | false =>
                -- the axis may go on at once, and the next stroke attempts the command
                refine ⟨hmachine, rfl, rfl, rfl, _, rfl, rfl, fun t' h => ?_, ?_⟩
                · obtain ⟨t, ht, hle⟩ := hready
                  exact ⟨t, ht, Option.some.inj h ▸ hle⟩
                · intro b hb h
                  rw [hrest (by simp) b hb] at h
                  exact absurd h (by simp)

theorem attempt_dispatched {s : Station} {i : Nat} {d : Dispatcher} {e : Envelope}
    (hstrokes : ∀ a : Axis, a.phaseStrokes s.nowMs d.phase = a.attemptStrokes e.command s.nowMs)
    (hrest : ∀ a : Axis, a.hasToRest s.nowMs d.phase = (a.attempt e.command s.nowMs).answer.isNone)
    (hready : ∃ t, d.phase.earliest? s.nowMs = some t ∧ t ≤ s.nowMs) :
    s.Dispatched i d (s.attempt i d e) := by
  have hfun : (fun a : Axis => (a.attempt e.command s.nowMs).axis)
      = fun a => a.after (a.phaseStrokes s.nowMs d.phase) := by
    funext a
    rw [hstrokes]
    exact a.attempt_axis e.command s.nowMs
  have hmachine := congrArg (s.machine.modifyAxis d.handle) hfun
  unfold Station.attempt
  cases ha : s.machine.axes[d.handle]? with
  | none =>
      simp only [operate_none ha]
      exact dispatched_finish (Machine.modifyAxis_none ha _).symm rfl rfl rfl rfl hready
        fun a h => absurd (ha.symm.trans h) (by simp)
  | some a =>
      simp only [operate_some ha]
      cases hans : (a.attempt e.command s.nowMs).answer with
      | none => exact dispatched_rest hmachine rfl rfl rfl rfl hready
      | some result =>
          refine dispatched_finish hmachine rfl rfl rfl rfl hready fun b hb => ?_
          obtain rfl := Option.some.inj (ha.symm.trans hb)
          rw [hrest, hans]
          rfl

/-- **What every stroke of a dispatcher comes to.** -/
theorem dispatch_dispatched {s : Station} {i : Nat} {d : Dispatcher}
    (hd : s.dispatchers[i]? = some d) : s.Dispatched i d (s.dispatch i) := by
  simp only [dispatch, hd]
  cases hp : d.phase with
  | starting =>
      exact dispatched_paperwork { d with phase := .idle } (fun a => by rw [hp]; rfl)
        (fun a => by rw [hp]; rfl) rfl
        (fun t' h => ⟨t', by rw [hp]; exact h, Nat.le_refl _⟩) rfl rfl rfl rfl rfl
  | idle => exact receive_dispatched hd hp
  | received e => exact begin_dispatched hp
  | ready e =>
      exact attempt_dispatched (fun a => by rw [hp]; rfl) (fun a => by rw [hp]; rfl)
        ⟨s.nowMs, by rw [hp]; rfl, Nat.le_refl _⟩
  | waiting e untilMs =>
      dsimp only
      split
      · rename_i hdue
        exact attempt_dispatched (fun a => by rw [hp]; exact if_pos hdue)
          (fun a => by rw [hp]; exact if_pos hdue) ⟨untilMs, by rw [hp]; rfl, hdue⟩
      · rename_i hdue
        exact dispatched_same hd (fun a => by rw [hp]; exact if_neg hdue)
          fun a => by rw [hp]; exact if_neg hdue
  | ended => exact dispatched_same hd (fun a => by rw [hp]; rfl) fun a => by rw [hp]; rfl
  | failed f => exact dispatched_same hd (fun a => by rw [hp]; rfl) fun a => by rw [hp]; rfl

end Station

end StepperMotion
