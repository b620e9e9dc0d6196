import StepperMotion.Proofs.TimerMatch

/-!
# Moves that look alike

An axis remembers more than its move has a use for: what became of earlier moves, what was reported of
them, what its board has been through. `Alike` says of two axes that they agree in the rest. A timer
match and the judgement of a report make no difference between such axes (`alike_tick`,
`alike_inspect`), and so neither the motors nor the supervisor ever see one (`Watch.sights_alike`).

Only a closed-loop move looks at its setpoint, its start and its middle. The half-steps since the last
report count as long as the direction is that of the last timer match; otherwise they are about to be
forgotten. Nothing of an axis matters that is stopped.
-/

namespace StepperMotion

/-! ## Boards -/

namespace Board

/-- Two boards that answer in the same way, while their direction lines have the same level. -/
structure Agree (b c : Board) : Prop where
  position : c.position = b.position
  stepLevel : c.stepLevel = b.stepLevel
  frozen : c.frozen = b.frozen
  limit : c.timer.limit = b.timer.limit

theorem Agree.accepts {b c : Board} (h : b.Agree c) (hz : Nat) :
    c.timer.accepts hz = b.timer.accepts hz := by
  unfold Timer.accepts
  rw [h.limit]

theorem Agree.toggleStep {b c : Board} (h : b.Agree c) (hlevel : c.dirLevel = b.dirLevel) :
    b.toggleStep.Agree c.toggleStep where
  position := by
    simp only [Board.toggleStep, setStep, advanced, h.position, h.stepLevel, h.frozen, hlevel]
  stepLevel := congrArg (! ·) h.stepLevel
  frozen := h.frozen
  limit := h.limit

/-- What a board has been through. -/
structure News where
  /-- The frequencies written to the timer, newest first. -/
  written : List FreqWrite
  /-- How often the step line was toggled. -/
  toggles : Nat
deriving DecidableEq, Repr

/-- What a board has been through since an earlier time. -/
def since (b before : Board) : News where
  written := b.timer.writes.take (b.timer.writes.length - before.timer.writes.length)
  toggles := b.toggles - before.toggles

theorem since_eq {b before : Board} {written : List FreqWrite} {n : Nat}
    (hwrites : b.timer.writes = written ++ before.timer.writes)
    (htoggles : b.toggles = before.toggles + n) : b.since before = ⟨written, n⟩ := by
  simp [since, hwrites, htoggles]

theorem since_self (b : Board) : b.since b = ⟨[], 0⟩ := since_eq rfl rfl

theorem since_write {b : Board} {t : Timer} {w : FreqWrite} (h : t.writes = w :: b.timer.writes) :
    ({ b with timer := t } : Board).since b = ⟨[w], 0⟩ := since_eq h rfl

end Board

/-- What a report says, apart from the axis and the epoch that it is about. -/
def Notification.content (n : Notification) : NotificationKind × Int := (n.kind, n.posAct)

namespace Axis

/-! ## Axes -/

/-- The half-steps since the last report, if they are still to count. -/
def pulses (a : Axis) : Nat := if a.dir = a.lastDir then a.halfPulses else 0

/-- Two axes that agree in whatever their moves have a use for. -/
structure Alike (a b : Axis) : Prop where
  config : b.config = a.config
  mode : b.mode = a.mode
  dir : b.dir = a.dir
  board : a.board.Agree b.board
  level : b.board.dirLevel = a.board.dirLevel
  /-- The setpoint and the course, of a closed-loop move only. -/
  goal : a.mode = .closedLoop →
    b.posCmd = a.posCmd ∧ b.posMiddle = a.posMiddle ∧ b.posStart = a.posStart
  posAct : b.posAct = a.posAct
  ramp : b.ramp = a.ramp
  requested : b.halfStepsRequested = a.halfStepsRequested
  completed : b.halfStepsCompleted = a.halfStepsCompleted
  toMiddle : b.halfStepsToMiddle = a.halfStepsToMiddle
  pulses : b.pulses = a.pulses
  stalledCount : b.stalledCount = a.stalledCount
  lastPos : b.lastPos = a.lastPos

namespace Alike

variable {a b : Axis}

/-! ### What a timer match asks -/

theorem positionError (h : a.Alike b) (hm : a.mode = .closedLoop) :
    b.positionError = a.positionError := by
  rw [Axis.positionError, (h.goal hm).1, h.posAct]
  rfl

theorem arrived (h : a.Alike b) : b.arrived = a.arrived := by
  unfold Axis.arrived
  rw [h.mode]
  cases hm : a.mode with
  | steps => simp only [h.requested, h.completed]
  | closedLoop => simp only [withinThreshold, h.positionError hm, h.config]
  | freeRunning => rfl
  | stopped => rfl

theorem overshot (h : a.Alike b) : b.overshot = a.overshot := by
  unfold Axis.overshot
  rw [h.mode, h.dir]
  cases hm : a.mode with
  | closedLoop => rw [h.positionError hm]
  | _ => rfl

theorem progress (h : a.Alike b) : b.progress = a.progress := by
  unfold Axis.progress
  rw [h.mode]
  cases hm : a.mode with
  | closedLoop =>
      obtain ⟨hcmd, hmiddle, hstart⟩ := h.goal hm
      simp only [hcmd, hmiddle, hstart, h.posAct, h.dir]
  | _ => simp only [h.requested, h.completed, h.toMiddle]

theorem approaching (h : a.Alike b) : b.approaching = a.approaching := by
  unfold Axis.approaching
  rw [h.mode, h.config]
  cases hm : a.mode with
  | closedLoop => rw [h.positionError hm]
  | _ => rfl

theorem nextRamp (h : a.Alike b) (nowMs : Nat) : b.nextRamp nowMs = a.nextRamp nowMs := by
  unfold Axis.nextRamp
  rw [h.approaching, h.progress, h.ramp, h.config]

end Alike

/-- Whether or not the direction has changed, the half-steps go on that are still to count. -/
theorem noteDirection_eq (a : Axis) :
    a.noteDirection = { a with lastDir := a.dir, halfPulses := a.pulses } := by
  unfold noteDirection pulses
  split
  · rename_i hd
    cases a
    cases hd
    rfl
  · rfl

theorem Alike.look {a b : Axis} (h : a.Alike b) :
    a.sense.noteDirection.Alike b.sense.noteDirection := by
  rw [noteDirection_eq, noteDirection_eq]
  exact { h with
    posAct := h.board.position
    pulses := (if_pos rfl).trans (h.pulses.trans (if_pos rfl).symm) }

theorem Alike.observe {a b : Axis} (h : a.Alike b) : a.observe.Alike b.observe :=
  { h.look with }

theorem Alike.arrives {a b : Axis} (h : a.Alike b) :
    b.observe.alreadyThere = a.observe.alreadyThere := h.look.arrived

/-- The direction of the last timer match is that of the axis, so that all half-steps count. -/
def IsStraight (a : Axis) : Prop := a.dir = a.lastDir

theorem straight_observe (a : Axis) : a.observe.IsStraight := by
  show a.sense.noteDirection.dir = a.sense.noteDirection.lastDir
  rw [noteDirection_eq]

theorem observe_board (a : Axis) : a.observe.board = a.board := by
  obtain ⟨_, _, _, h⟩ := observe_eq a
  rw [h]

/-! ### What a timer match does -/

/-- Two axes that are stopped, or on moves that look alike. -/
def Resembles (a b : Axis) : Prop := (a.mode = .stopped ∧ b.mode = .stopped) ∨ a.Alike b

/-- The content of a reply, without the axis and the epoch it is from. -/
def content (r : Except Fault (Option Notification)) :
    Except Fault (Option (NotificationKind × Int)) :=
  r.map (Option.map Notification.content)

/-- Two steps that look the same, on boards that may differ: what they leave looks alike, the boards
have been through the same, and the answers agree in what is `said` by them. -/
structure SameStep {α β : Type} (said : α → β) (b c : Board) (s t : Axis × α) : Prop where
  after : s.1.Resembles t.1
  news : t.1.board.since c = s.1.board.since b
  answer : said t.2 = said s.2

theorem since_halt (a : Axis) : a.halt.board.since a.board = ⟨[], 0⟩ := Board.since_eq rfl rfl

theorem since_halfStep (a : Axis) : a.halfStep.1.board.since a.board = ⟨[], 1⟩ := by
  obtain ⟨n, h, _⟩ := halfStep_cases a
  rw [h]
  exact Board.since_eq rfl rfl

/-- The frequency that is written when the ramp has been advanced. -/
def nextWrite (a : Axis) (nowMs : Nat) : FreqWrite :=
  ⟨(a.nextRamp nowMs).current, a.board.timer.accepts (a.nextRamp nowMs).current⟩

theorem since_ramped_halt (a : Axis) (nowMs : Nat) :
    (a.ramped nowMs).halt.board.since a.board = ⟨[a.nextWrite nowMs], 0⟩ :=
  Board.since_eq (writtenTimer_writes _ _) rfl

theorem since_ramped_halfStep (a : Axis) (nowMs : Nat) :
    (a.ramped nowMs).halfStep.1.board.since a.board = ⟨[a.nextWrite nowMs], 1⟩ := by
  obtain ⟨n, h, _⟩ := halfStep_cases (a.ramped nowMs)
  rw [h]
  exact Board.since_eq (writtenTimer_writes _ _) rfl

namespace Alike

variable {a b : Axis}

theorem ramped (h : a.Alike b) (nowMs : Nat) : (a.ramped nowMs).Alike (b.ramped nowMs) :=
  { h with
    ramp := h.nextRamp nowMs
    board := { h.board with
      limit := (writtenTimer_limit _ _).trans (h.board.limit.trans (writtenTimer_limit _ _).symm) } }

theorem stopTimer (h : a.Alike b) : a.stopTimer.Alike b.stopTimer :=
  { h with board := { h.board with } }

theorem stepped (h : a.Alike b) (ha : a.IsStraight) (hb : b.IsStraight) {n m : Nat} (hn : m = n) :
    (a.stepped n).Alike (b.stepped m) :=
  { h with
    board := h.board.toggleStep h.level
    completed := congrArg (Count.add · 1) h.completed
    pulses := (if_pos hb).trans (hn.trans (if_pos ha).symm) }

/-- Two half-steps leave the same count since the last report. -/
theorem halfStep (h : a.Alike b) (ha : a.IsStraight) (hb : b.IsStraight) :
    a.halfStep.1.Alike b.halfStep.1 ∧ content b.halfStep.2 = content a.halfStep.2 := by
  have hcount : b.halfPulses = a.halfPulses :=
    (if_pos hb).symm.trans (h.pulses.trans (if_pos ha))
  have hnext : Count.checkedAdd b.halfPulses 1 = Count.checkedAdd a.halfPulses 1 := by rw [hcount]
  have hinterval : b.config.reportInterval = a.config.reportInterval := by rw [h.config]
  unfold Axis.halfStep
  dsimp only
  rw [hnext, hinterval]
  split
  · exact ⟨h.stepped ha hb hcount, rfl⟩
  · split
    · refine ⟨h.stepped ha hb rfl, ?_⟩
      simp only [content, Notification.content, report, Except.map, Option.map, h.posAct]
    · exact ⟨h.stepped ha hb rfl, rfl⟩

theorem nextWrite (h : a.Alike b) (nowMs : Nat) : b.nextWrite nowMs = a.nextWrite nowMs := by
  unfold Axis.nextWrite
  rw [h.nextRamp, h.board.accepts]

/-- A move that has not come to its end goes on in the same way. -/
theorem advance (h : a.Alike b) (ha : a.IsStraight) (hb : b.IsStraight) (nowMs : Nat) :
    SameStep content a.board b.board (a.advance nowMs) (b.advance nowMs) := by
  have hramped := h.ramped nowMs
  unfold Axis.advance
  rw [advanceRamp_eq, advanceRamp_eq, h.ramp, h.nextRamp, h.board.accepts]
  cases a.ramp.due nowMs with
  | false =>
      obtain ⟨hafter, hreport⟩ := h.halfStep ha hb
      exact ⟨Or.inr hafter, (since_halfStep b).trans (since_halfStep a).symm, hreport⟩
  | true =>
      simp only [if_true]
      cases a.board.timer.accepts (a.nextRamp nowMs).current with
      | true =>
          obtain ⟨hafter, hreport⟩ := hramped.halfStep ha hb
          exact ⟨Or.inr hafter, by
            rw [since_ramped_halfStep, since_ramped_halfStep, h.nextWrite], hreport⟩
      | false =>
          refine ⟨Or.inl ⟨rfl, rfl⟩, ?_, ?_⟩
          · rw [since_ramped_halt, since_ramped_halt, h.nextWrite]
          · simp only [content, Notification.content, report, Except.map, Option.map, hramped.posAct]

end Alike

/-- **A timer match makes no difference between axes that resemble each other.** -/
theorem alike_tick {a b : Axis} (h : a.Resembles b) (nowMs : Nat) :
    SameStep content a.board b.board (a.tick nowMs) (b.tick nowMs) := by
  by_cases hstill : a.mode = .stopped ∧ b.mode = .stopped
  · rw [tick_stopped hstill.1, tick_stopped hstill.2]
    exact ⟨Or.inl hstill, (Board.since_self _).trans (Board.since_self _).symm, rfl⟩
  · have halike : a.Alike b := h.resolve_left hstill
    have hm : a.mode.isMoving = true := by
      simp only [Mode.isMoving, bne_iff_ne]
      exact fun hm => hstill ⟨hm, halike.mode.trans hm⟩
    have hm' : b.mode.isMoving = true := by rw [halike.mode, hm]
    have hlook := halike.observe
    rw [tick, if_pos hm, tick, if_pos hm', ← observe_board a, ← observe_board b]
    dsimp only
    rw [halike.arrives, hlook.overshot]
    split
    · refine ⟨Or.inl ⟨rfl, rfl⟩, (since_halt _).trans (since_halt _).symm, ?_⟩
      simp only [content, Notification.content, report, Except.map, Option.map, hlook.posAct]
    · split
      · refine ⟨Or.inr hlook.stopTimer, (since_halt _).trans (since_halt _).symm, ?_⟩
        simp only [content, Notification.content, report, Except.map, Option.map, hlook.posAct]
      · exact hlook.advance (straight_observe a) (straight_observe b) nowMs

theorem Alike.countProgress {a b : Axis} (h : a.Alike b) (pos : Int) :
    (a.countProgress pos).Alike (b.countProgress pos) := by
  have hmoved : b.movedTo pos = a.movedTo pos := by
    unfold movedTo
    rw [h.lastPos]
  refine { h with stalledCount := ?_ }
  simp only [Axis.countProgress, hmoved, h.config, h.stalledCount]

theorem alike_watchProgress {a b : Axis} (h : a.Resembles b) (pos : Int) :
    (a.watchProgress pos).1.Resembles (b.watchProgress pos).1
      ∧ (b.watchProgress pos).2 = (a.watchProgress pos).2 := by
  have hquiet : ∀ {c : Axis}, c.mode = .stopped → c.watchProgress pos = (c, .quiet) := fun hc => by
    simp [watchProgress, Mode.isMoving, hc]
  rcases h with ⟨ha, hb⟩ | h
  · rw [hquiet ha, hquiet hb]
    exact ⟨Or.inl ⟨ha, hb⟩, rfl⟩
  · have hcount := h.countProgress pos
    unfold watchProgress
    dsimp only
    rw [h.config, h.mode, hcount.stalledCount, hcount.config]
    split
    · split
      · exact ⟨Or.inl ⟨rfl, rfl⟩, rfl⟩
      · exact ⟨Or.inr hcount, rfl⟩
    · exact ⟨Or.inr h, rfl⟩

/-- The judgement of a report writes no frequency and makes no half-step. -/
theorem since_inspect (a : Axis) (note : Notification) :
    (a.inspect note).1.board.since a.board = ⟨[], 0⟩ := by
  obtain ⟨b, _, _, hb, h⟩ := inspect_cases a note
  rw [h]
  rcases hb with rfl | rfl <;> exact Board.since_eq rfl rfl

/-- **Nor does the judgement of a report** that is of the epoch of its axis. -/
theorem alike_inspect {a b : Axis} (h : a.Resembles b) {n m : Notification}
    (hn : n.epoch = a.epoch) (hm : m.epoch = b.epoch) (hcontent : m.content = n.content) :
    SameStep id a.board b.board (a.inspect n) (b.inspect m) := by
  obtain ⟨hkind, hpos⟩ := Prod.mk.inj hcontent
  have hnote : ∀ {c d : Axis}, c.Resembles d →
      Resembles { c with lastPos := n.posAct } { d with lastPos := n.posAct } := fun h =>
    h.imp id fun h => { h with lastPos := rfl }
  have hlook : (a.inspect n).1.Resembles (b.inspect m).1 ∧ (b.inspect m).2 = (a.inspect n).2 := by
    unfold inspect
    rw [if_pos hn, if_pos hm, hkind, hpos]
    cases n.kind with
    | progress => exact (alike_watchProgress h n.posAct).imp hnote id
    | completed => exact ⟨hnote h, rfl⟩
    | overshoot => exact ⟨hnote h, rfl⟩
    | timerFault => exact ⟨hnote h, rfl⟩
  exact ⟨hlook.1, (since_inspect b m).trans (since_inspect a n).symm, hlook.2⟩

theorem Resembles.place {a b : Axis} (h : a.Resembles b) (position : Int) :
    Resembles { a with board := a.board.place position }
      { b with board := b.board.place position } :=
  h.imp id fun h => { h with board := { h.board with position := rfl } }

end Axis

end StepperMotion
