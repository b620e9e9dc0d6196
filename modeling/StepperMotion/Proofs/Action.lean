import StepperMotion.Proofs.Stroke

/-!
# Actions

An action changes the axes of a station by its strokes, and there is nothing else that changes them
(`act_axes`). Besides there is the paperwork: the reports, the dispatchers, the supervisor, and the
moves that were put down to go on. `Acted` says what becomes of it. Most actions leave it alone, and
for the others there is one case each, so that whoever has an invariant of the paperwork to prove
looks at the cases of `Acted` and never at the functions behind them.
-/

namespace StepperMotion

open Axis (Operation)

/-- A command is given to a station. -/
def Action.isCommand : Action → Bool
  | .submit .. | .request .. => true
  | _ => false

/-- The kind of report that gets a verdict, if there is only one. -/
def Verdict.kind? : Verdict → Option NotificationKind
  | reached => some .completed
  | overshoot => some .overshoot
  | timerFault => some .timerFault
  | stale | quiet | stalled => none

/-- A verdict that says what a terminal report says is about such a report. -/
theorem Axis.inspect_kind {a : Axis} {note : Notification} {k : NotificationKind}
    (h : (a.inspect note).2.kind? = some k) : note.kind = k := by
  unfold inspect watchProgress at h
  cases hk : note.kind with
  | progress =>
      rw [hk] at h
      dsimp only at h
      split at h
      · split at h
        · split at h <;> exact absurd h (by simp [Verdict.kind?])
        · exact absurd h (by simp [Verdict.kind?])
      · exact absurd h (by simp [Verdict.kind?])
  | _ =>
      rw [hk] at h
      split at h
      · exact Option.some.inj h
      · exact absurd h (by simp [Verdict.kind?])

/-! ## A timer match -/

namespace Machine

/-- **A report finds room in the queue, or is parked if it matters, or is counted as lost.** -/
theorem post_cases (m : Machine) (h : Nat) (note : Notification) :
    (∃ notes, m.notes.offer note = .ok notes ∧ m.post h note = { m with notes := notes })
    ∨ (∃ e, m.notes.offer note = .error e ∧ note.kind.isTerminal = true
      ∧ m.post h note = { m.modifyAxis h (·.park note) with parkedSignal := true })
    ∨ (∃ e, m.notes.offer note = .error e ∧ note.kind.isTerminal = false
      ∧ m.post h note = m.modifyAxis h Axis.countDropped) := by
  unfold post
  split
  · rename_i notes h
    exact Or.inl ⟨notes, h, rfl⟩
  · rename_i e h
    cases hk : note.kind.isTerminal with
    | true => exact Or.inr (Or.inl ⟨e, h, rfl, rfl⟩)
    | false => exact Or.inr (Or.inr ⟨e, h, rfl, rfl⟩)

/-- A timer match that is not passed over is served, and its report is posted, if there is one. -/
theorem serveMatch_eq {m : Machine} {h : Nat} {a : Axis} (ha : m.axes[h]? = some a)
    (hrun : a.isRunning = true) (nowMs : Nat) :
    (∃ note, (a.tick nowMs).2 = .ok (some note)
      ∧ (m.serveMatch h nowMs false).1 = (m.modifyAxis h fun b => (b.tick nowMs).1).post h note)
    ∨ ((∀ note, (a.tick nowMs).2 ≠ .ok (some note))
      ∧ (m.serveMatch h nowMs false).1 = m.modifyAxis h fun b => (b.tick nowMs).1) := by
  have hset := setAxis_eq ha fun b => (b.tick nowMs).1
  simp only [serveMatch, ha, hrun]
  rcases ht : a.tick nowMs with ⟨b, r⟩
  simp only [ht] at hset
  rw [← hset]
  rcases r with f | _ | note
  · exact Or.inr ⟨by simp, rfl⟩
  · exact Or.inr ⟨by simp, rfl⟩
  · exact Or.inl ⟨note, rfl, rfl⟩

/-- **Serving a timer match is a stroke on its axis;** the queue has one more report in it, or the
ones it had. -/
theorem serveMatch_served {m : Machine} {h : Nat} {a : Axis} (ha : m.axes[h]? = some a)
    (hrun : a.isRunning = true) (nowMs : Nat) :
    ∃ notes signal, (m.serveMatch h nowMs false).1 = {
        m.modifyAxis h fun b => b.after (m.matchStrokes nowMs a) with
        notes := notes, parkedSignal := signal }
      ∧ (notes = m.notes
        ∨ ∃ note, (a.tick nowMs).2 = .ok (some note) ∧ m.notes.offer note = .ok notes) := by
  rcases serveMatch_eq ha hrun nowMs with ⟨note, hr, hserve⟩ | ⟨hnone, hserve⟩
  · rw [hserve]
    -- the queue is still the one that the strokes of the match ask
    rcases post_cases (m.modifyAxis h fun b => (b.tick nowMs).1) h note with
      ⟨notes, hoffer, heq⟩ | ⟨e, hoffer, hk, heq⟩ | ⟨e, hoffer, hk, heq⟩
    · have hqueue : m.notes.offer note = .ok notes := hoffer
      have hops : m.matchStrokes nowMs a = [.tick nowMs] := by
        simp only [matchStrokes, hr, hqueue]
      rw [heq, hops]
      exact ⟨notes, m.parkedSignal, rfl, Or.inr ⟨note, hr, hqueue⟩⟩
    · have hqueue : m.notes.offer note = .error e := hoffer
      have hops : m.matchStrokes nowMs a = [.tick nowMs, .park note] := by
        simp only [matchStrokes, hr, hqueue, hk, if_true]
      rw [heq, hops, modifyAxis_modifyAxis]
      exact ⟨m.notes, true, rfl, Or.inl rfl⟩
    · have hqueue : m.notes.offer note = .error e := hoffer
      have hops : m.matchStrokes nowMs a = [.tick nowMs, .countDropped] := by
        simp only [matchStrokes, hr, hqueue, hk, Bool.false_eq_true, if_false]
      rw [heq, hops, modifyAxis_modifyAxis]
      exact ⟨m.notes, m.parkedSignal, rfl, Or.inl rfl⟩
  · have hops : m.matchStrokes nowMs a = [.tick nowMs] := by
      unfold matchStrokes
      split
      · rename_i note hr
        exact absurd hr (hnone note)
      · rfl
    rw [hserve, hops]
    exact ⟨m.notes, m.parkedSignal, rfl, Or.inl rfl⟩

/-- Nobody's timer match is served while he is held, or at rest. -/
theorem serveMatch_passed {m : Machine} {h nowMs : Nat} {held : Bool}
    (hnot : ∀ a, m.axes[h]? = some a → ¬ (held = false ∧ a.isRunning = true)) :
    (m.serveMatch h nowMs held).1 = m := by
  unfold serveMatch
  cases ha : m.axes[h]? with
  | none => rfl
  | some a =>
      have hpass : (held || !a.isRunning) = true := by
        have h := hnot a ha
        cases held <;> simp_all
      dsimp only
      rw [if_pos hpass]

end Machine


/-! ## The axes -/

namespace Station

/-- One axis was changed, and the rest was left alone. -/
theorem strokes_modify {m m' : Machine} {h j : Nat} {f : Axis → Axis} {ops : Axis → List Operation}
    (hm : m'.axes = (m.modifyAxis h f).axes)
    (hops : ∀ a, m.axes[j]? = some a → (if h = j then f a else a) = a.after (ops a)) :
    m'.axes[j]? = m.axes[j]?.map fun a => a.after (ops a) := by
  rw [hm, Machine.modifyAxis_get]
  cases hj : m.axes[j]? with
  | none => rfl
  | some a => exact congrArg some (hops a hj)

/-- All axes were left alone. -/
theorem strokes_none {m m' : Machine} {j : Nat} {ops : Axis → List Operation}
    (hm : m'.axes = m.axes) (hops : ∀ a, m.axes[j]? = some a → ops a = []) :
    m'.axes[j]? = m.axes[j]?.map fun a => a.after (ops a) := by
  rw [hm]
  cases hj : m.axes[j]? with
  | none => rfl
  | some a =>
      show some a = some (a.after (ops a))
      rw [hops a hj]
      rfl

theorem after_single (a : Axis) (o : Operation) (p : Prop) [Decidable p] :
    (if p then (a.perform o).1 else a) = a.after (if p then [o] else []) := by
  split <;> rfl

theorem serveMatch_axes (s : Station) (h : Nat) (held : Bool) (j : Nat) :
    (s.act (.timerMatch h held)).machine.axes[j]?
      = s.machine.axes[j]?.map fun a => a.after (s.strokes j a (.timerMatch h held)) := by
  show (s.machine.serveMatch h s.nowMs held).1.axes[j]? = _
  by_cases hserve : ∃ a, s.machine.axes[h]? = some a ∧ held = false ∧ a.isRunning = true
  · -- what becomes of the report depends on the queue, which the strokes of the match know
    obtain ⟨a, ha, rfl, hrun⟩ := hserve
    obtain ⟨notes, signal, heq, _⟩ := Machine.serveMatch_served ha hrun s.nowMs
    have haxes : (s.machine.serveMatch h s.nowMs false).1.axes
        = (s.machine.modifyAxis h fun b => b.after (s.machine.matchStrokes s.nowMs a)).axes := by
      rw [heq]
    refine strokes_modify haxes fun b hb => ?_
    by_cases hj : h = j
    · subst hj
      obtain rfl := Option.some.inj (ha.symm.trans hb)
      simp only [strokes, hrun, and_self, if_true]
    · simp only [strokes, hj, false_and, if_false, Axis.after_nil]
  · have hpass : (s.machine.serveMatch h s.nowMs held).1 = s.machine :=
      Machine.serveMatch_passed fun a ha hrun => hserve ⟨a, ha, hrun⟩
    refine strokes_none (congrArg Machine.axes hpass) fun a ha => if_neg ?_
    rintro ⟨rfl, hrun⟩
    exact hserve ⟨a, ha, hrun⟩

theorem operate_axes {α : Type} (s : Station) (h : Nat) (f : Axis → Transition α) :
    (s.operate h f).1.machine = s.machine.modifyAxis h fun a => (f a).axis := by
  obtain ⟨log, heq⟩ := operate_fst s h f
  rw [heq]

/-! ## The supervisor -/

/-- What is left after a report was judged. -/
structure Judged (s : Station) (note : Notification) (s' : Station) : Prop where
  axes : s'.machine.axes = (s.machine.modifyAxis note.handle fun a => (a.inspect note).1).axes
  notes : s'.machine.notes = s.machine.notes
  config : s'.machine.config = s.machine.config
  nowMs : s'.nowMs = s.nowMs
  dispatchers : s'.dispatchers = s.dispatchers
  supervisor : s'.supervisor = s.supervisor
  /-- A move is put down to go on if its axis has passed the setpoint. -/
  reversals : s'.reversals = s.reversals
    ∨ (note.kind = .overshoot ∧ s'.reversals
      = s.reversals ++ [⟨s.nextReversal, note, s.nowMs + s.machine.config.restMs⟩])

theorem judge_judged (s : Station) (note : Notification) : s.Judged note (s.judge note) := by
  unfold judge
  cases ha : s.machine.axes[note.handle]? with
  | none =>
      have hsame := Machine.modifyAxis_none ha fun a => (a.inspect note).1
      exact ⟨congrArg Machine.axes hsame.symm, rfl, rfl, rfl, rfl, rfl, Or.inl rfl⟩
  | some a =>
      have hset := Machine.setAxis_eq ha fun a => (a.inspect note).1
      dsimp only
      rw [hset]
      cases hv : (a.inspect note).2 with
      | overshoot =>
          have hkind := Axis.inspect_kind (k := .overshoot) (by rw [hv]; rfl)
          exact ⟨rfl, rfl, rfl, rfl, rfl, rfl, Or.inr ⟨hkind, rfl⟩⟩
      | stale => exact ⟨rfl, rfl, rfl, rfl, rfl, rfl, Or.inl rfl⟩
      | quiet => exact ⟨rfl, rfl, rfl, rfl, rfl, rfl, Or.inl rfl⟩
      | stalled => exact ⟨rfl, rfl, rfl, rfl, rfl, rfl, Or.inl rfl⟩
      | reached => exact ⟨rfl, rfl, rfl, rfl, rfl, rfl, Or.inl rfl⟩
      | timerFault => exact ⟨rfl, rfl, rfl, rfl, rfl, rfl, Or.inl rfl⟩

theorem takeParked_eq (s : Station) (h : Nat) :
    (s.takeParked h).1 = { s with machine := s.machine.modifyAxis h fun a => a.takeParked.1 }
    ∧ ∀ note, (s.takeParked h).2 = some note →
      ∃ a, s.machine.axes[h]? = some a ∧ a.parked = some note := by
  unfold takeParked
  cases ha : s.machine.axes[h]? with
  | none =>
      refine ⟨?_, fun note h => absurd h (by simp)⟩
      rw [Machine.modifyAxis_none ha]
  | some a =>
      refine ⟨?_, fun note h => ⟨a, rfl, h⟩⟩
      dsimp only
      rw [Machine.setAxis_eq ha fun a => a.takeParked.1]

/-- What a stroke of the supervisor comes to. -/
inductive Supervised (s : Station) : Station → Prop where
  /-- There is nothing for it to do, or it has only just come. -/
  | idle {supervisor : Supervisor} {log : List LogLine}
      (hs : s.supervisor = .off ∨ s.supervisor.isAtRest = true)
      (hnext : supervisor = s.supervisor ∨ supervisor = .working none []) :
      Supervised s { s with supervisor := supervisor, log := log }
  | judged {note : Notification} {toVisit : List Nat} {s' : Station}
      (hs : s.supervisor = .working (some note) toVisit)
      (h : { s with supervisor := .working none toVisit }.Judged note s') : Supervised s s'
  /-- It visits an axis and takes the report that is parked there. -/
  | visited {h : Nat} {toVisit : List Nat} {inHand : Option Notification}
      (hs : s.supervisor = .working none (h :: toVisit))
      (hnote : ∀ note, inHand = some note →
        ∃ a, s.machine.axes[h]? = some a ∧ a.parked = some note) :
      Supervised s { s with
        machine := s.machine.modifyAxis h fun a => a.takeParked.1
        supervisor := .working inHand toVisit }
  | heeded (hs : s.supervisor = .working none []) :
      Supervised s { s with
        machine := { s.machine with parkedSignal := false }
        supervisor := .working none s.handles }
  | collected {note : Notification} {notes : Mailbox Notification}
      (hs : s.supervisor = .working none []) (hnext : s.machine.notes.next? = some (note, notes)) :
      Supervised s { s with
        machine := { s.machine with notes := notes }, supervisor := .working (some note) [] }

theorem supervise_supervised (s : Station) (signalFirst : Bool) :
    s.Supervised (s.supervise signalFirst) := by
  unfold supervise
  cases hs : s.supervisor with
  | off => exact .idle (Or.inl hs) (Or.inl rfl)
  | starting => exact .idle (Or.inr (by rw [hs]; rfl)) (Or.inr rfl)
  | working inHand toVisit =>
      have hidle : s.supervisor = .working none [] → s.Supervised s := fun h =>
        .idle (Or.inr (by rw [h]; rfl)) (Or.inl rfl)
      cases inHand with
      | some note => exact .judged hs (judge_judged _ note)
      | none =>
          cases toVisit with
          | cons h rest =>
              obtain ⟨heq, hparked⟩ := s.takeParked_eq h
              dsimp only
              rw [heq]
              exact .visited hs hparked
          | nil =>
              dsimp only
              split
              · unfold heed
                split
                · exact .heeded hs
                · exact hidle hs
              · unfold collect takeNote
                cases hn : s.machine.notes.next? with
                | none => exact hidle hs
                | some p => exact .collected hs hn

theorem supervise_axes (s : Station) (signalFirst : Bool) (j : Nat) :
    (s.act (.supervise signalFirst)).machine.axes[j]?
      = s.machine.axes[j]?.map fun a => a.after (s.strokes j a (.supervise signalFirst)) := by
  have h := s.supervise_supervised signalFirst
  show (s.supervise signalFirst).machine.axes[j]? = _
  generalize s.supervise signalFirst = s' at h ⊢
  simp only [strokes]
  cases h with
  | idle hs _ =>
      refine strokes_none rfl fun a _ => ?_
      split
      · rename_i h
        simp [h, Supervisor.isAtRest] at hs
      · rename_i h
        simp [h, Supervisor.isAtRest] at hs
      · rfl
  | @judged note _ _ hs h =>
      rw [hs]
      exact strokes_modify h.axes fun a _ => after_single a (.inspect note) _
  | visited hs _ =>
      rw [hs]
      exact strokes_modify rfl fun a _ => after_single a .takeParked _
  | heeded hs =>
      rw [hs]
      exact strokes_none rfl fun _ _ => rfl
  | collected hs _ =>
      rw [hs]
      exact strokes_none rfl fun _ _ => rfl

/-! ## Moves that go on -/

/-- What is left after a move went on. -/
structure Reversed (s : Station) (id : Nat) (r : Reversal) (s' : Station) : Prop where
  machine : s'.machine
    = s.machine.modifyAxis r.note.handle fun a => (a.resume r.note.epoch s.nowMs).axis
  nowMs : s'.nowMs = s.nowMs
  dispatchers : s'.dispatchers = s.dispatchers
  supervisor : s'.supervisor = s.supervisor
  reversals : s'.reversals = s.reversals.filter (·.id != id)

theorem reverse_none {s : Station} {id : Nat}
    (hr : (s.reversals.find? fun r => r.id == id && decide (r.dueMs ≤ s.nowMs)) = none) :
    s.reverse id = s := by
  simp only [reverse, hr]

theorem concludeReversal_eq (s : Station) (axis : String) (note : Notification)
    (r : Option (Except Failure Outcome)) :
    ∃ events log, s.concludeReversal axis note r = { s with events := events, log := log } := by
  unfold concludeReversal
  split <;> exact ⟨_, _, rfl⟩

theorem reverse_reversed {s : Station} {id : Nat} {r : Reversal}
    (hr : (s.reversals.find? fun r => r.id == id && decide (r.dueMs ≤ s.nowMs)) = some r) :
    s.Reversed id r (s.reverse id) := by
  simp only [reverse, hr]
  cases ha : s.machine.axes[r.note.handle]? with
  | none =>
      rw [operate_none (by exact ha)]
      exact ⟨(Machine.modifyAxis_none ha _).symm, rfl, rfl, rfl, rfl⟩
  | some a =>
      rw [operate_some (by exact ha)]
      dsimp only
      split
      · exact ⟨rfl, rfl, rfl, rfl, rfl⟩
      · rename_i a' _
        obtain ⟨events, log, heq⟩ := concludeReversal_eq { s with
          machine := s.machine.modifyAxis r.note.handle fun a =>
            (a.resume r.note.epoch s.nowMs).axis
          reversals := s.reversals.filter (·.id != id)
          log := s.log ++ (a.resume r.note.epoch s.nowMs).log }
          a'.name r.note (a.resume r.note.epoch s.nowMs).answer
        rw [heq]
        exact ⟨rfl, rfl, rfl, rfl, rfl⟩

/-! ## Commands, questions and cancellations -/

/-- Accepting a command changes the inbox of one dispatcher. -/
theorem enqueue_frame (s : Station) (axis : String) (e : Envelope) :
    (s.enqueue axis e).1 = s ∨ ∃ i d inbox, s.dispatchers[i]? = some d
      ∧ (s.enqueue axis e).1 = s.setDispatcher i { d with inbox := inbox } := by
  unfold enqueue deliver
  split
  · exact Or.inl rfl
  · rename_i i _
    split
    · exact Or.inl rfl
    · rename_i d hd
      split
      · rename_i inbox _
        exact Or.inr ⟨i, d, inbox, hd, rfl⟩
      · exact Or.inl rfl
      · exact Or.inl rfl

/-- Waiting for the answer takes a ticket besides. -/
theorem request_frame (s : Station) (axis : String) (c : Command) :
    ∃ ticket, (s.request axis c).1
      = { (s.enqueue axis ⟨c, some s.nextTicket⟩).1 with nextTicket := ticket } := by
  unfold request
  split <;> rename_i h <;> rw [h]
  · exact ⟨_, rfl⟩
  · exact ⟨_, rfl⟩

theorem status_frame (s : Station) (axis : String) :
    (s.machine.handle? axis = none ∧ (s.status axis).1 = s)
    ∨ ∃ h, s.machine.handle? axis = some h
      ∧ (s.status axis).1 = { s with machine := s.machine.modifyAxis h Axis.sense } := by
  unfold status find
  cases hh : s.machine.handle? axis with
  | none => exact Or.inl ⟨rfl, rfl⟩
  | some h => exact Or.inr ⟨h, rfl, rfl⟩

theorem setOffset_frame (s : Station) (axis : String) (offset : Int) :
    (s.machine.handle? axis = none ∧ (s.setOffset axis offset).1 = s)
    ∨ ∃ h log, s.machine.handle? axis = some h
      ∧ (s.setOffset axis offset).1 = { s with
        machine := s.machine.modifyAxis h (·.setOffset offset), log := log } := by
  unfold setOffset find
  cases hh : s.machine.handle? axis with
  | none => exact Or.inl ⟨rfl, rfl⟩
  | some h =>
      obtain ⟨log, heq⟩ := operate_fst s h fun a => ⟨a.setOffset offset, [], ()⟩
      exact Or.inr ⟨h, log, rfl, heq⟩

/-- A dispatcher that is called off retires, unless it has a command in hand. -/
theorem cancelDispatcher_frame (s : Station) (i : Nat) :
    s.cancelDispatcher i = s ∨ ∃ d replies, s.dispatchers[i]? = some d
      ∧ s.cancelDispatcher i = { s with
        dispatchers := s.dispatchers.set i { d with inbox := d.inbox.close, phase := .ended }
        replies := replies } := by
  unfold cancelDispatcher
  split
  · exact Or.inl rfl
  · rename_i d hd
    split
    · exact Or.inr ⟨d, _, hd, retire_eq s i d .ended⟩
    · exact Or.inl rfl

/-- The supervisor that is called off closes the queue, unless it has a report to see to. -/
theorem cancelSupervisor_frame (s : Station) :
    s.cancelSupervisor = s ∨ s.cancelSupervisor = { s with
      supervisor := .off, machine := { s.machine with notes := s.machine.notes.close } } := by
  unfold cancelSupervisor
  split
  · exact Or.inr rfl
  · exact Or.inl rfl

/-! ## The axes after an action -/

/-- **An action changes an axis by its strokes, and in no other way.** -/
theorem act_axes (s : Station) (x : Action) (j : Nat) :
    (s.act x).machine.axes[j]? = s.machine.axes[j]?.map fun a => a.after (s.strokes j a x) := by
  have hkept : ∀ s' : Station, s'.machine.axes = s.machine.axes →
      (∀ a, s.machine.axes[j]? = some a → s.strokes j a x = []) → s.act x = s' →
      (s.act x).machine.axes[j]? = s.machine.axes[j]?.map fun a => a.after (s.strokes j a x) :=
    fun s' haxes hops hact => strokes_none (by rw [hact, haxes]) hops
  -- one case for each action: which axis it is for, and by which operation
  cases x with
  | pass ms => exact strokes_none rfl fun _ _ => rfl
  | timerMatch h held => exact serveMatch_axes s h held j
  | place h position => exact strokes_modify rfl fun a _ => after_single a (.place position) _
  | freeze h frozen => exact strokes_modify rfl fun a _ => after_single a (.freeze frozen) _
  | limitTimer h hz => exact strokes_modify rfl fun a _ => after_single a (.limitTimer hz) _
  | submit axis c =>
      rcases enqueue_frame s axis ⟨c, none⟩ with h | ⟨_, _, _, _, h⟩
      · exact hkept s rfl (fun _ _ => rfl) h
      · exact hkept _ (by exact rfl) (fun _ _ => rfl) h
  | request axis c =>
      obtain ⟨ticket, heq⟩ := request_frame s axis c
      refine hkept _ ?_ (fun _ _ => rfl) heq
      rcases enqueue_frame s axis ⟨c, some s.nextTicket⟩ with h | ⟨_, _, _, _, h⟩
      · rw [h]
      · rw [h]
        rfl
  | status axis =>
      rcases status_frame s axis with ⟨hh, heq⟩ | ⟨h, hh, heq⟩
      · refine hkept s rfl (fun _ _ => ?_) heq
        simp [strokes, hh]
      · refine strokes_modify (congrArg (fun s : Station => s.machine.axes) heq) fun a _ => ?_
        simp only [strokes, hh, Option.some.injEq]
        exact after_single a .status _
  | statuses =>
      show (s.machine.axes.map Axis.sense)[j]? = _
      rw [List.getElem?_map]
      rfl
  | setOffset axis offset =>
      rcases setOffset_frame s axis offset with ⟨hh, heq⟩ | ⟨h, log, hh, heq⟩
      · refine hkept s rfl (fun _ _ => ?_) heq
        simp [strokes, hh]
      · refine strokes_modify (congrArg (fun s : Station => s.machine.axes) heq) fun a _ => ?_
        simp only [strokes, hh, Option.some.injEq]
        exact after_single a (.setOffset offset) _
  | setMainPower on => exact strokes_none rfl fun _ _ => rfl
  | dispatch i =>
      cases hd : s.dispatchers[i]? with
      | none =>
          refine hkept s rfl (fun _ _ => ?_) ?_
          · simp only [strokes, hd]
          · simp only [act, dispatch, hd]
      | some d =>
          have hmachine := (dispatch_dispatched hd).machine
          refine strokes_modify (congrArg Machine.axes hmachine) fun a _ => ?_
          simp only [strokes, hd]
          split <;> rfl
  | supervise signalFirst => exact supervise_axes s signalFirst j
  | reverse id =>
      cases hr : s.reversals.find? fun r => r.id == id && decide (r.dueMs ≤ s.nowMs) with
      | none =>
          refine hkept s rfl (fun _ _ => ?_) (reverse_none hr)
          simp only [strokes, hr]
      | some r =>
          refine strokes_modify (congrArg Machine.axes (reverse_reversed hr).machine) fun a _ => ?_
          simp only [strokes, hr]
          exact after_single a (.resume r.note.epoch s.nowMs) _
  | stopAxis h =>
      exact strokes_modify (congrArg Machine.axes (operate_axes s h Axis.stop))
        fun a _ => after_single a .stop _
  | hangUp => exact strokes_none rfl fun _ _ => rfl
  | cancelDispatcher i =>
      rcases cancelDispatcher_frame s i with h | ⟨_, _, _, h⟩
      · exact hkept s rfl (fun _ _ => rfl) h
      · exact hkept _ (by exact rfl) (fun _ _ => rfl) h
  | cancelSupervisor =>
      rcases cancelSupervisor_frame s with h | h
      · exact hkept s rfl (fun _ _ => rfl) h
      · exact hkept _ (by exact rfl) (fun _ _ => rfl) h

/-- An axis after an action. -/
theorem axis_act {s : Station} {j : Nat} {a : Axis} (ha : s.machine.axes[j]? = some a) (x : Action) :
    (s.act x).machine.axes[j]? = some (a.after (s.strokes j a x)) := by
  rw [act_axes, ha]
  rfl

/-! ## The paperwork of an action -/

/-- Nobody who works on the station made a stroke. -/
structure Quiet (s s' : Station) : Prop where
  config : s'.machine.config = s.machine.config
  notes : s'.machine.notes = s.machine.notes
  nowMs : s.nowMs ≤ s'.nowMs
  supervisor : s'.supervisor = s.supervisor
  reversals : s'.reversals = s.reversals
  /-- The dispatchers are where they were, and have the same commands before them. -/
  dispatchers : ∀ (i : Nat) (d' : Dispatcher), s'.dispatchers[i]? = some d' →
    ∃ d : Dispatcher, s.dispatchers[i]? = some d ∧ d'.handle = d.handle ∧ d'.phase = d.phase
      ∧ d'.inbox = d.inbox

theorem quiet_of_same {s s' : Station} (hconfig : s'.machine.config = s.machine.config)
    (hnotes : s'.machine.notes = s.machine.notes) (hnow : s.nowMs ≤ s'.nowMs)
    (hsupervisor : s'.supervisor = s.supervisor) (hreversals : s'.reversals = s.reversals)
    (hdispatchers : s'.dispatchers = s.dispatchers) : s.Quiet s' where
  config := hconfig
  notes := hnotes
  nowMs := hnow
  supervisor := hsupervisor
  reversals := hreversals
  dispatchers _ d' h := ⟨d', hdispatchers ▸ h, rfl, rfl, rfl⟩

/-- **What an action comes to, as far as the paperwork goes.** -/
inductive Acted (s : Station) : Action → Station → Prop where
  /-- Nobody who works on the station made a stroke. -/
  | quiet {x : Action} {s' : Station} (h : s.Quiet s') : Acted s x s'
  | accepted {x : Action} {i ticket : Nat} {d : Dispatcher} {inbox : Mailbox Envelope}
      (hx : x.isCommand = true) (hd : s.dispatchers[i]? = some d) :
      Acted s x { s with
        dispatchers := s.dispatchers.set i { d with inbox := inbox }, nextTicket := ticket }
  /-- A timer match was served or passed over. There may be a report, and room for it. -/
  | matched {h : Nat} {held : Bool} {machine : Machine}
      (hconfig : machine.config = s.machine.config)
      (hnotes : machine.notes = s.machine.notes
        ∨ ∃ a note, held = false ∧ s.machine.axes[h]? = some a ∧ a.isRunning = true
          ∧ (a.tick s.nowMs).2 = .ok (some note)
          ∧ s.machine.notes.offer note = .ok machine.notes) :
      Acted s (.timerMatch h held) { s with machine := machine }
  | dispatched {i : Nat} {d : Dispatcher} {s' : Station} (hd : s.dispatchers[i]? = some d)
      (h : s.Dispatched i d s') : Acted s (.dispatch i) s'
  | supervised {signalFirst : Bool} {s' : Station} (h : s.Supervised s') :
      Acted s (.supervise signalFirst) s'
  | reversed {id : Nat} {r : Reversal} {s' : Station} (h : s.Reversed id r s') :
      Acted s (.reverse id) s'
  | calledOff {i : Nat} {d : Dispatcher} {replies : List Reply}
      (hd : s.dispatchers[i]? = some d) :
      Acted s (.cancelDispatcher i) { s with
        dispatchers := s.dispatchers.set i { d with inbox := d.inbox.close, phase := .ended }
        replies := replies }
  | closed : Acted s .cancelSupervisor { s with
      supervisor := .off, machine := { s.machine with notes := s.machine.notes.close } }

theorem quiet_refl (s : Station) : s.Quiet s := quiet_of_same rfl rfl (Nat.le_refl _) rfl rfl rfl

/-- The paperwork of a timer match. -/
theorem timerMatch_acted (s : Station) (h : Nat) (held : Bool) :
    s.Acted (.timerMatch h held) (s.act (.timerMatch h held)) := by
  by_cases hserve : ∃ a, s.machine.axes[h]? = some a ∧ held = false ∧ a.isRunning = true
  · obtain ⟨a, ha, rfl, hrun⟩ := hserve
    obtain ⟨notes, signal, heq, hnotes⟩ := Machine.serveMatch_served ha hrun s.nowMs
    have hconfig : (s.machine.serveMatch h s.nowMs false).1.config = s.machine.config := by
      rw [heq]
      rfl
    have hqueue : (s.machine.serveMatch h s.nowMs false).1.notes = notes := by rw [heq]
    refine .matched hconfig ?_
    rcases hnotes with hsame | ⟨note, hr, hoffer⟩
    · exact Or.inl (hqueue.trans hsame)
    · exact Or.inr ⟨a, note, rfl, ha, hrun, hr, hqueue ▸ hoffer⟩
  · have hpass : (s.machine.serveMatch h s.nowMs held).1 = s.machine :=
      Machine.serveMatch_passed fun a ha hrun => hserve ⟨a, ha, hrun⟩
    exact .matched (congrArg Machine.config hpass) (Or.inl (congrArg Machine.notes hpass))

theorem act_acted (s : Station) (x : Action) : s.Acted x (s.act x) := by
  -- an action that is not possible changes nothing
  have hsame : s.Acted x s := .quiet s.quiet_refl
  cases x with
  | timerMatch h held => exact s.timerMatch_acted h held
  | dispatch i =>
      cases hd : s.dispatchers[i]? with
      | none =>
          have heq : s.dispatch i = s := by simp only [dispatch, hd]
          rwa [act, heq]
      | some d => exact .dispatched hd (dispatch_dispatched hd)
  | supervise signalFirst => exact .supervised (s.supervise_supervised signalFirst)
  | reverse id =>
      cases hr : s.reversals.find? fun r => r.id == id && decide (r.dueMs ≤ s.nowMs) with
      | none => rwa [act, reverse_none hr]
      | some r => exact .reversed (reverse_reversed hr)
  | cancelDispatcher i =>
      rw [act]
      rcases cancelDispatcher_frame s i with heq | ⟨d, replies, hd, heq⟩
      · rwa [heq]
      · rw [heq]
        exact .calledOff hd
  | cancelSupervisor =>
      rw [act]
      rcases cancelSupervisor_frame s with heq | heq
      · rwa [heq]
      · rw [heq]
        exact .closed
  | pass ms => exact .quiet (quiet_of_same rfl rfl (Nat.le_add_right ..) rfl rfl rfl)
  | submit axis c =>
      rcases enqueue_frame s axis ⟨c, none⟩ with heq | ⟨i, d, inbox, hd, heq⟩
      · rwa [act, submit, heq]
      · rw [act, submit, heq]
        exact .accepted rfl hd
  | request axis c =>
      obtain ⟨ticket, hreq⟩ := request_frame s axis c
      rw [act, hreq]
      rcases enqueue_frame s axis ⟨c, some s.nextTicket⟩ with heq | ⟨i, d, inbox, hd, heq⟩
      · rw [heq]
        exact .quiet (quiet_of_same rfl rfl (Nat.le_refl _) rfl rfl rfl)
      · rw [heq]
        exact .accepted rfl hd
  | status axis =>
      rw [act]
      rcases status_frame s axis with ⟨_, heq⟩ | ⟨h, _, heq⟩
      · rwa [heq]
      · rw [heq]
        exact .quiet (quiet_of_same rfl rfl (Nat.le_refl _) rfl rfl rfl)
  | setOffset axis offset =>
      rw [act]
      rcases setOffset_frame s axis offset with ⟨_, heq⟩ | ⟨h, log, _, heq⟩
      · rwa [heq]
      · rw [heq]
        exact .quiet (quiet_of_same rfl rfl (Nat.le_refl _) rfl rfl rfl)
  | stopAxis h =>
      obtain ⟨log, heq⟩ := operate_fst s h Axis.stop
      rw [act, stopAxis, heq]
      exact .quiet (quiet_of_same rfl rfl (Nat.le_refl _) rfl rfl rfl)
  | hangUp =>
      refine .quiet ⟨rfl, rfl, Nat.le_refl _, rfl, rfl, fun i d' hd' => ?_⟩
      have hmap : (s.dispatchers.map fun d => { d with hungUp := true })[i]? = some d' := hd'
      rw [List.getElem?_map, Option.map_eq_some_iff] at hmap
      obtain ⟨d, hd, rfl⟩ := hmap
      exact ⟨d, hd, rfl, rfl, rfl⟩
  | place h position => exact .quiet (quiet_of_same rfl rfl (Nat.le_refl _) rfl rfl rfl)
  | freeze h frozen => exact .quiet (quiet_of_same rfl rfl (Nat.le_refl _) rfl rfl rfl)
  | limitTimer h hz => exact .quiet (quiet_of_same rfl rfl (Nat.le_refl _) rfl rfl rfl)
  | statuses => exact .quiet (quiet_of_same rfl rfl (Nat.le_refl _) rfl rfl rfl)
  | setMainPower on => exact .quiet (quiet_of_same rfl rfl (Nat.le_refl _) rfl rfl rfl)

end Station

end StepperMotion
