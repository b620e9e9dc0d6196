import StepperMotion.Proofs.Run

/-!
# The desk of the supervisor

A report that nobody has judged is in the queue, parked on its axis, or in the hands of the
supervisor. `Station.desk` is all there is of a station for the reports, and `Desk.Moves` lists what
one action can do to it. A report is made, and then it finds room, or is parked, or is lost; or it is
taken from one place to the next; or it is judged. Once this is known (`act_moves`), nobody who
follows a report on its way has to look at actions any more.

Two facts about desks are among those that every move preserves. A parked report is about the axis
on which it is parked (`Desk.Filed`), and wherever there is one, the supervisor has been called
(`Desk.Called`).
-/

namespace StepperMotion

open Axis (Operation)

/-- The report in the hands of the supervisor. -/
def Supervisor.inHand? : Supervisor → Option Notification
  | .working note _ => note
  | _ => none

/-- The axes to which the supervisor is on its way. -/
def Supervisor.toVisit : Supervisor → List Nat
  | .working _ toVisit => toVisit
  | _ => []

def Machine.parked? (m : Machine) (j : Nat) : Option Notification := m.axes[j]?.bind Axis.parked

/-- Where the reports are that nobody has judged. -/
structure Desk where
  queue : List Notification
  parked : Nat → Option Notification
  signal : Bool
  inHand : Option Notification
  /-- The axes that will be visited for the reports that are parked there. -/
  toVisit : List Nat

namespace Desk

/-- In how many places a report is. -/
def copies (d : Desk) (note : Notification) : Nat :=
  (d.queue ++ (d.parked note.handle).toList ++ d.inHand.toList).count note

/-- Every parked report is about the axis on which it is parked. -/
def Filed (d : Desk) : Prop := ∀ j note, d.parked j = some note → note.handle = j

/-- The supervisor will visit axis `j`, or it will see the signal. -/
def Called (d : Desk) (j : Nat) : Prop := d.signal = true ∨ j ∈ d.toVisit

/-- What can be done to a desk, with the report that was made and the one that was judged. -/
inductive Moves (d : Desk) : Option Notification → Option Notification → Desk → Prop where
  | none : Moves d none none d
  | queued {note : Notification} :
      Moves d (some note) none { d with queue := d.queue ++ [note] }
  /-- What was parked there before is overwritten. -/
  | parked {note : Notification} (hk : note.kind.isTerminal = true) :
      Moves d (some note) none { d with
        parked := fun j => if note.handle = j then some note else d.parked j
        signal := true }
  | lost {note : Notification} (hk : note.kind.isTerminal = false) : Moves d (some note) none d
  | judged {note : Notification} (hhand : d.inHand = some note) :
      Moves d none (some note) { d with inHand := none }
  | visited {h : Nat} {rest : List Nat} (hhand : d.inHand = none) (hvisit : d.toVisit = h :: rest) :
      Moves d none none { d with
        parked := fun j => if h = j then none else d.parked j
        inHand := d.parked h
        toVisit := rest }
  /-- The signal is taken back, and every axis is visited that has a parked report. -/
  | heeded {all : List Nat} (hhand : d.inHand = none) (hvisit : d.toVisit = [])
      (hall : ∀ j note, d.parked j = some note → j ∈ all) :
      Moves d none none { d with signal := false, toVisit := all }
  | collected {note : Notification} {rest : List Notification} (hhand : d.inHand = none)
      (hvisit : d.toVisit = []) (hqueue : d.queue = note :: rest) :
      Moves d none none { d with queue := rest, inHand := some note }

variable {d d' : Desk} {made judged : Option Notification}

theorem Moves.filed (h : d.Moves made judged d') (hd : d.Filed) : d'.Filed := by
  cases h with
  | none => exact hd
  | queued => exact hd
  | parked hk =>
      intro j n hj
      dsimp only at hj
      split at hj
      · rename_i hhandle
        obtain rfl := Option.some.inj hj
        exact hhandle
      · exact hd j n hj
  | lost hk => exact hd
  | judged hhand => exact hd
  | visited hhand hvisit =>
      intro j n hj
      dsimp only at hj
      split at hj
      · exact absurd hj (by simp)
      · exact hd j n hj
  | heeded hhand hvisit hall => exact hd
  | collected hhand hvisit hqueue => exact hd

/-- **Where a report is parked, the supervisor has been called.** One signal serves all axes, for
whoever heeds it visits all of them before he looks at it again. -/
theorem Moves.called (h : d.Moves made judged d')
    (hd : ∀ j note, d.parked j = some note → d.Called j) :
    ∀ j note, d'.parked j = some note → d'.Called j := by
  intro j n hj
  cases h with
  | none => exact hd j n hj
  | queued => exact hd j n hj
  | parked hk => exact Or.inl rfl
  | lost hk => exact hd j n hj
  | judged hhand => exact hd j n hj
  | visited hhand hvisit =>
      dsimp only at hj
      split at hj
      · exact absurd hj (by simp)
      · rename_i hne
        -- the axis that was visited is another one
        refine (hd j n hj).imp id fun hmem => ?_
        rw [hvisit] at hmem
        rcases List.mem_cons.mp hmem with rfl | hmem
        · exact absurd rfl hne
        · exact hmem
  | heeded hhand hvisit hall => exact Or.inr (hall j n hj)
  | collected hhand hvisit hqueue => exact hd j n hj

/-- **A terminal report is in one place when it has been made,** if it was nowhere before. -/
theorem Moves.copies_made {note : Notification} (h : d.Moves (some note) judged d')
    (hk : note.kind.isTerminal = true) (hnew : d.copies note = 0) : d'.copies note = 1 := by
  simp only [copies, List.count_append] at hnew ⊢
  cases h with
  | queued =>
      simp only [List.count_append, List.count_singleton_self]
      omega
  | parked hk =>
      simp only [if_true, Option.toList_some, List.count_singleton_self]
      omega
  | lost hlost => exact absurd (hk.symm.trans hlost) (by simp)

/-- **A report stays in as many places as it was until it is judged,** as long as there is no other
one about its axis. -/
theorem Moves.copies_kept {note : Notification} (h : d.Moves made judged d') (hd : d.Filed)
    (hmade : ∀ n, made = some n → n.handle ≠ note.handle) (hjudged : judged ≠ some note) :
    d'.copies note = d.copies note := by
  have hother : ∀ n : Notification, n ≠ note → [n].count note = 0 := fun n hne =>
    List.count_eq_zero.mpr fun hmem => hne (List.mem_singleton.mp hmem).symm
  simp only [copies, List.count_append]
  cases h with
  | none => rfl
  | @queued n =>
      have hne : n ≠ note := fun heq => hmade n rfl (congrArg Notification.handle heq)
      simp only [List.count_append, hother n hne]
      omega
  | @parked n hk => simp only [if_neg (hmade n rfl)]
  | lost hk => rfl
  | @judged n hhand =>
      have hne : n ≠ note := fun heq => hjudged (congrArg some heq)
      simp only [hhand, Option.toList_some, Option.toList_none, List.count_nil, hother n hne]
  | @visited i rest hhand hvisit =>
      rw [hhand]
      by_cases hi : i = note.handle
      · -- the report goes from the axis into the hands of the supervisor
        subst hi
        simp only [if_true, Option.toList_none, List.count_nil]
        omega
      · have hnot : ((d.parked i).toList).count note = 0 := by
          refine List.count_eq_zero.mpr fun hmem => hi ?_
          exact (hd i note (Option.mem_toList.mp hmem)).symm
        simp only [if_neg hi, hnot, Option.toList_none, List.count_nil]
  | heeded hhand hvisit hall => rfl
  | @collected n rest hhand hvisit hqueue =>
      simp only [hhand, hqueue, List.count_cons, Option.toList_some, Option.toList_none,
        List.count_nil]
      omega

end Desk

/-! ## The desk of a station -/

namespace Station

def desk (s : Station) : Desk where
  queue := s.machine.notes.items
  parked := s.machine.parked?
  signal := s.machine.parkedSignal
  inHand := s.supervisor.inHand?
  toVisit := s.supervisor.toVisit

/-- The report that an action makes. -/
def report? (s : Station) : Action → Option Notification
  | .timerMatch h false =>
    match s.machine.axes[h]? with
    | none => none
    | some a => if a.isRunning then (a.tick s.nowMs).2.toOption.join else none
  | _ => none

/-- The report that an action judges. -/
def judged? (s : Station) : Action → Option Notification
  | .supervise _ => s.supervisor.inHand?
  | _ => none

theorem reports_iff {s : Station} {x : Action} {note : Notification} :
    s.report? x = some note ↔ s.Reports x note := by
  constructor
  · intro h
    unfold report? at h
    split at h
    · rename_i i
      split at h
      · exact absurd h (by simp)
      · rename_i a ha
        split at h
        · rename_i hrun
          refine ⟨i, a, rfl, ha, hrun, ?_⟩
          cases hr : (a.tick s.nowMs).2 with
          | error f => simp [hr, Except.toOption] at h
          | ok r =>
              rw [hr] at h
              exact congrArg Except.ok h
        · exact absurd h (by simp)
    · exact absurd h (by simp)
  · rintro ⟨i, a, rfl, ha, hrun, hr⟩
    simp only [report?, ha, hrun, if_true, hr]
    rfl

theorem inFlight_of_inHand {s : Station} {note : Notification}
    (h : s.supervisor.inHand? = some note) : s.InFlight note := by
  cases hs : s.supervisor with
  | working inHand toVisit =>
      rw [hs] at h
      exact .inHand (hs.trans (congrArg (Supervisor.working · toVisit) h))
  | starting => exact absurd (hs ▸ h) (by simp [Supervisor.inHand?])
  | off => exact absurd (hs ▸ h) (by simp [Supervisor.inHand?])

/-- A report that is judged is in flight until then. -/
theorem inFlight_of_judged {s : Station} {x : Action} {note : Notification}
    (h : s.judged? x = some note) : s.InFlight note := by
  cases x with
  | supervise signalFirst => exact inFlight_of_inHand h
  | _ => exact absurd h (by simp [judged?])

/-- A report that is somewhere is in flight. -/
theorem inFlight_of_copies {s : Station} {note : Notification} (h : s.desk.copies note ≠ 0) :
    s.InFlight note := by
  have hmem : note ∈ s.desk.queue ++ (s.desk.parked note.handle).toList ++ s.desk.inHand.toList :=
    List.count_pos_iff.mp (Nat.pos_of_ne_zero h)
  rcases List.mem_append.mp hmem with hmem | hhand
  · rcases List.mem_append.mp hmem with hqueue | hparked
    · exact .queued hqueue
    · obtain ⟨a, ha, hp⟩ := Option.bind_eq_some_iff.mp (Option.mem_toList.mp hparked)
      exact .parked ha hp
  · exact inFlight_of_inHand (Option.mem_toList.mp hhand)

/-! ## What an action does to the desk -/

theorem parked?_modifyAxis (m : Machine) (h : Nat) (f : Axis → Axis) (j : Nat) :
    (m.modifyAxis h f).parked? j
      = if h = j then m.axes[h]?.bind fun a => (f a).parked else m.parked? j := by
  unfold Machine.parked?
  rw [Machine.modifyAxis_get]
  by_cases hj : h = j
  · subst hj
    simp only [if_true, Option.bind_map, Function.comp_def]
  · simp only [if_neg hj, Option.map_id']

theorem parked?_modifyAxis_same {m : Machine} {h : Nat} {f : Axis → Axis}
    (hf : ∀ a, (f a).parked = a.parked) (j : Nat) :
    (m.modifyAxis h f).parked? j = m.parked? j := by
  rw [parked?_modifyAxis]
  split
  · rename_i hj
    simp only [hf, hj, Machine.parked?]
  · rfl

/-- A parked report is left where it is by strokes that neither take nor park one. -/
theorem parked?_act {s : Station} {x : Action} {j : Nat}
    (htake : ∀ a, s.machine.axes[j]? = some a → .takeParked ∉ s.strokes j a x)
    (hpark : ∀ a note, s.machine.axes[j]? = some a → .park note ∉ s.strokes j a x) :
    (s.act x).machine.parked? j = s.machine.parked? j := by
  unfold Machine.parked?
  rw [act_axes]
  cases ha : s.machine.axes[j]? with
  | none => rfl
  | some a => exact Axis.parked_after_same (htake a ha) fun note => hpark a note ha

/-- Only timer matches and the supervisor see to reports. -/
theorem act_untouched {s : Station} {x : Action} (hmatch : ∀ h held, x ≠ .timerMatch h held)
    (hsupervise : ∀ signalFirst, x ≠ .supervise signalFirst) (hoff : x ≠ .cancelSupervisor) :
    (s.act x).machine.notes = s.machine.notes
      ∧ (s.act x).machine.parkedSignal = s.machine.parkedSignal
      ∧ (s.act x).supervisor = s.supervisor := by
  have hsame : ∀ s' : Station, s.act x = s' → s'.machine.notes = s.machine.notes →
      s'.machine.parkedSignal = s.machine.parkedSignal → s'.supervisor = s.supervisor →
      (s.act x).machine.notes = s.machine.notes
        ∧ (s.act x).machine.parkedSignal = s.machine.parkedSignal
        ∧ (s.act x).supervisor = s.supervisor := by
    rintro s' rfl hnotes hsignal hsupervisor
    exact ⟨hnotes, hsignal, hsupervisor⟩
  cases x with
  | timerMatch h held => exact absurd rfl (hmatch h held)
  | supervise signalFirst => exact absurd rfl (hsupervise signalFirst)
  | cancelSupervisor => exact absurd rfl hoff
  | dispatch i =>
      cases hd : s.dispatchers[i]? with
      | none => exact hsame s (by simp only [act, dispatch, hd]) rfl rfl rfl
      | some d =>
          have h := dispatch_dispatched hd
          have hnotes := congrArg Machine.notes h.machine
          have hsignal := congrArg Machine.parkedSignal h.machine
          exact ⟨hnotes, hsignal, h.supervisor⟩
  | reverse id =>
      cases hr : s.reversals.find? fun r => r.id == id && decide (r.dueMs ≤ s.nowMs) with
      | none => exact hsame s (reverse_none hr) rfl rfl rfl
      | some r =>
          have h := reverse_reversed hr
          have hnotes := congrArg Machine.notes h.machine
          have hsignal := congrArg Machine.parkedSignal h.machine
          exact ⟨hnotes, hsignal, h.supervisor⟩
  | submit axis c =>
      rcases enqueue_frame s axis ⟨c, none⟩ with heq | ⟨_, _, _, _, heq⟩
      · exact hsame s heq rfl rfl rfl
      · exact hsame _ heq rfl rfl rfl
  | request axis c =>
      obtain ⟨ticket, hreq⟩ := request_frame s axis c
      rcases enqueue_frame s axis ⟨c, some s.nextTicket⟩ with heq | ⟨_, _, _, _, heq⟩ <;>
        rw [heq] at hreq <;> exact hsame _ hreq rfl rfl rfl
  | status axis =>
      rcases status_frame s axis with ⟨_, heq⟩ | ⟨h, _, heq⟩
      · exact hsame s heq rfl rfl rfl
      · exact hsame _ heq rfl rfl rfl
  | setOffset axis offset =>
      rcases setOffset_frame s axis offset with ⟨_, heq⟩ | ⟨h, log, _, heq⟩
      · exact hsame s heq rfl rfl rfl
      · exact hsame _ heq rfl rfl rfl
  | stopAxis h =>
      obtain ⟨log, heq⟩ := operate_fst s h Axis.stop
      exact hsame _ heq rfl rfl rfl
  | cancelDispatcher i =>
      rcases cancelDispatcher_frame s i with heq | ⟨d, replies, _, heq⟩
      · exact hsame s heq rfl rfl rfl
      · exact hsame _ heq rfl rfl rfl
  | pass ms => exact ⟨rfl, rfl, rfl⟩
  | place h position => exact ⟨rfl, rfl, rfl⟩
  | freeze h frozen => exact ⟨rfl, rfl, rfl⟩
  | limitTimer h hz => exact ⟨rfl, rfl, rfl⟩
  | statuses => exact ⟨rfl, rfl, rfl⟩
  | setMainPower on => exact ⟨rfl, rfl, rfl⟩
  | hangUp => exact ⟨rfl, rfl, rfl⟩

theorem desk_eq {s : Station} {d : Desk} (hqueue : s.machine.notes.items = d.queue)
    (hparked : ∀ j, s.machine.parked? j = d.parked j) (hsignal : s.machine.parkedSignal = d.signal)
    (hhand : s.supervisor.inHand? = d.inHand) (hvisit : s.supervisor.toVisit = d.toVisit) :
    s.desk = d := by
  cases d
  simp only [desk, Desk.mk.injEq]
  exact ⟨hqueue, funext hparked, hsignal, hhand, hvisit⟩

/-- The machine after a timer match that has a report to make. -/
theorem machine_of_report {s : Station} {h : Nat} {a : Axis} {note : Notification}
    (ha : s.machine.axes[h]? = some a) (hrun : a.isRunning = true)
    (hr : (a.tick s.nowMs).2 = .ok (some note)) :
    (s.act (.timerMatch h false)).machine
      = (s.machine.modifyAxis h fun b => (b.tick s.nowMs).1).post h note := by
  rcases Machine.serveMatch_eq ha hrun s.nowMs with ⟨n, hn, heq⟩ | ⟨hnone, _⟩
  · obtain rfl : note = n := by simpa using hr.symm.trans hn
    exact heq
  · exact absurd hr (hnone note)

/-- A report that is made about an axis is put on the desk, or it is lost. -/
theorem moves_of_report {s : Station} {h : Nat} {a : Axis} {note : Notification}
    (ha : s.machine.axes[h]? = some a) (hplace : a.handle = h) (hrun : a.isRunning = true)
    (hr : (a.tick s.nowMs).2 = .ok (some note)) :
    s.desk.Moves (some note) none (s.act (.timerMatch h false)).desk := by
  have hserved := Axis.tick_served a s.nowMs
  rw [hr] at hserved
  have hhandle : note.handle = h := (Axis.served_report hserved).1.trans hplace
  have hserve := machine_of_report ha hrun hr
  -- serving the match as such leaves the parked reports alone
  have htick : ∀ j, (s.machine.modifyAxis h fun b => (b.tick s.nowMs).1).parked? j
      = s.machine.parked? j :=
    parked?_modifyAxis_same fun b => (Axis.records_served (Axis.tick_served b s.nowMs)).parked
  rcases (s.machine.modifyAxis h fun b => (b.tick s.nowMs).1).post_cases h note with
    ⟨notes, hoffer, heq⟩ | ⟨_, _, hk, heq⟩ | ⟨_, _, hk, heq⟩ <;> rw [heq] at hserve
  · have hdesk : (s.act (.timerMatch h false)).desk
        = { s.desk with queue := s.desk.queue ++ [note] } := by
      refine desk_eq ?_ ?_ ?_ rfl rfl <;> rw [hserve]
      · exact items_of_offer hoffer
      · exact htick
      · rfl
    rw [hdesk]
    exact .queued
  · have hdesk : (s.act (.timerMatch h false)).desk = { s.desk with
        parked := fun j => if note.handle = j then some note else s.desk.parked j
        signal := true } := by
      refine desk_eq ?_ (fun j => ?_) ?_ rfl rfl <;> rw [hserve]
      · rfl
      · refine (parked?_modifyAxis _ h (·.park note) j).trans ?_
        rw [hhandle, htick, Machine.modifyAxis_get, ha]
        rfl
    rw [hdesk]
    exact .parked hk
  · have hdesk : (s.act (.timerMatch h false)).desk = s.desk := by
      refine desk_eq ?_ (fun j => ?_) ?_ rfl rfl <;> rw [hserve]
      · rfl
      · have hcount : ∀ b : Axis, b.countDropped.parked = b.parked := fun _ => rfl
        exact (parked?_modifyAxis_same hcount j).trans (htick j)
      · rfl
    rw [hdesk]
    exact .lost hk

/-- A timer match that has nothing to report leaves queue and signal alone. -/
theorem unreported_match {s : Station} {h : Nat} {held : Bool}
    (hnone : s.report? (.timerMatch h held) = none) :
    (s.act (.timerMatch h held)).machine.notes = s.machine.notes
      ∧ (s.act (.timerMatch h held)).machine.parkedSignal = s.machine.parkedSignal
      ∧ (s.act (.timerMatch h held)).supervisor = s.supervisor := by
  by_cases hserve : ∃ a, s.machine.axes[h]? = some a ∧ held = false ∧ a.isRunning = true
  · obtain ⟨a, ha, rfl, hrun⟩ := hserve
    rcases Machine.serveMatch_eq ha hrun s.nowMs with ⟨note, hr, _⟩ | ⟨_, heq⟩
    · have hmade := reports_iff.mpr ⟨h, a, rfl, ha, hrun, hr⟩
      exact absurd (hnone.symm.trans hmade) (by simp)
    · have hnotes := congrArg Machine.notes heq
      have hsignal := congrArg Machine.parkedSignal heq
      exact ⟨hnotes, hsignal, rfl⟩
  · have hpass : (s.machine.serveMatch h s.nowMs held).1 = s.machine :=
      Machine.serveMatch_passed fun a ha hrun => hserve ⟨a, ha, hrun⟩
    have hnotes := congrArg Machine.notes hpass
    have hsignal := congrArg Machine.parkedSignal hpass
    exact ⟨hnotes, hsignal, rfl⟩

theorem judge_desk (s : Station) (note : Notification) : (s.judge note).desk = s.desk := by
  have hjudged := s.judge_judged note
  have hsignal : (s.judge note).machine.parkedSignal = s.machine.parkedSignal := by
    unfold judge
    split
    · rfl
    · unfold conclude
      dsimp only
      split <;> rfl
  have hparked : ∀ j, (s.judge note).machine.parked? j = s.machine.parked? j := by
    intro j
    have hsame : ∀ a : Axis, (a.inspect note).1.parked = a.parked := fun a =>
      Axis.parked_same (o := .inspect note) (by simp) (by simp)
    unfold Machine.parked?
    rw [hjudged.axes]
    exact parked?_modifyAxis_same hsame j
  exact desk_eq (congrArg Mailbox.items hjudged.notes) hparked hsignal
    (congrArg Supervisor.inHand? hjudged.supervisor)
    (congrArg Supervisor.toVisit hjudged.supervisor)

/-- A visit to an axis takes the report that is parked there. -/
theorem visit_desk (s : Station) (h : Nat) (rest : List Nat) :
    { (s.takeParked h).1 with supervisor := .working (s.takeParked h).2 rest }.desk = { s.desk with
      parked := fun j => if h = j then none else s.desk.parked j
      inHand := s.desk.parked h
      toVisit := rest } := by
  have htaken : (s.takeParked h).2 = s.machine.parked? h := by
    unfold takeParked Machine.parked?
    cases s.machine.axes[h]? <;> rfl
  rw [htaken, (s.takeParked_eq h).1]
  refine desk_eq rfl (fun j => ?_) rfl rfl rfl
  show (s.machine.modifyAxis h fun a => a.takeParked.1).parked? j
    = if h = j then none else s.machine.parked? j
  rw [parked?_modifyAxis]
  cases s.machine.axes[h]? <;> rfl

theorem moves_supervise (s : Station) (signalFirst : Bool) :
    s.desk.Moves none s.supervisor.inHand? (s.supervise signalFirst).desk := by
  unfold supervise
  cases hs : s.supervisor with
  | off => exact .none
  | starting =>
      have hdesk : s.desk = { s with supervisor := .working none [] }.desk := by
        exact desk_eq rfl (fun _ => rfl) rfl (by rw [hs]; rfl) (by rw [hs]; rfl)
      rw [hdesk]
      exact .none
  | working inHand toVisit =>
      have hhand : s.desk.inHand = inHand := congrArg Supervisor.inHand? hs
      have hvisit : s.desk.toVisit = toVisit := congrArg Supervisor.toVisit hs
      cases inHand with
      | some note =>
          dsimp only
          rw [judge_desk]
          have hdesk : { s with supervisor := .working none toVisit }.desk
              = { s.desk with inHand := none } := desk_eq rfl (fun _ => rfl) rfl rfl hvisit.symm
          rw [hdesk]
          exact .judged hhand
      | none =>
          cases toVisit with
          | cons h rest =>
              dsimp only
              rw [visit_desk]
              exact .visited hhand hvisit
          | nil =>
              dsimp only
              split
              · rename_i hsignal
                have hraised : s.machine.parkedSignal = true := (Bool.and_eq_true_iff.mp hsignal).1
                have hdesk : s.heed.desk
                    = { s.desk with signal := false, toVisit := s.handles } := by
                  simp only [heed, hraised, if_true]
                  exact desk_eq rfl (fun _ => rfl) rfl hhand.symm rfl
                rw [hdesk]
                refine .heeded hhand hvisit fun j note hj => ?_
                -- an axis that has a parked report is there
                obtain ⟨a, ha, _⟩ := Option.bind_eq_some_iff.mp hj
                exact List.mem_range.mpr (List.getElem?_eq_some_iff.mp ha).1
              · unfold collect takeNote
                cases hn : s.machine.notes.next? with
                | none => exact .none
                | some p =>
                    obtain ⟨note, notes⟩ := p
                    have hqueue := items_of_next hn
                    have hdesk : { s with
                        machine := { s.machine with notes := notes }
                        supervisor := .working (some note) [] }.desk
                          = { s.desk with queue := notes.items, inHand := some note } :=
                      desk_eq rfl (fun _ => rfl) rfl rfl hvisit.symm
                    dsimp only
                    rw [hdesk]
                    exact .collected hhand hvisit hqueue

/-- **Everything that an action can do to the desk,** as long as the supervisor is not called off. -/
theorem act_moves {s : Station} (hseated : s.Seated) {x : Action} (hoff : x ≠ .cancelSupervisor) :
    s.desk.Moves (s.report? x) (s.judged? x) (s.act x).desk := by
  by_cases hsupervise : ∃ signalFirst, x = .supervise signalFirst
  · obtain ⟨signalFirst, rfl⟩ := hsupervise
    exact s.moves_supervise signalFirst
  · have hjudged : s.judged? x = none := by
      cases x with
      | supervise signalFirst => exact absurd ⟨_, rfl⟩ hsupervise
      | _ => rfl
    rw [hjudged]
    cases hreport : s.report? x with
    | some note =>
        obtain ⟨h, a, rfl, ha, hrun, hr⟩ := reports_iff.mp hreport
        exact moves_of_report ha (hseated h a ha) hrun hr
    | none =>
        -- nobody parks a report, and nobody takes one
        have hparked : ∀ j, (s.act x).machine.parked? j = s.machine.parked? j := by
          intro j
          refine parked?_act (fun a _ hmem => ?_) fun a note ha hmem => ?_
          · exact hsupervise (supervise_of_strokes (Or.inl rfl) hmem)
          · have hmade := reports_iff.mpr (park_of_strokes ha hmem)
            exact absurd (hreport.symm.trans hmade) (by simp)
        have hrest : (s.act x).machine.notes = s.machine.notes
            ∧ (s.act x).machine.parkedSignal = s.machine.parkedSignal
            ∧ (s.act x).supervisor = s.supervisor := by
          by_cases hmatch : ∃ h held, x = .timerMatch h held
          · obtain ⟨h, held, rfl⟩ := hmatch
            exact unreported_match hreport
          · exact act_untouched (fun h held heq => hmatch ⟨h, held, heq⟩)
              (fun b heq => hsupervise ⟨b, heq⟩) hoff
        have hdesk : (s.act x).desk = s.desk :=
          desk_eq (congrArg Mailbox.items hrest.1) hparked hrest.2.1
            (congrArg Supervisor.inHand? hrest.2.2) (congrArg Supervisor.toVisit hrest.2.2)
        rw [hdesk]
        exact .none

end Station

end StepperMotion
