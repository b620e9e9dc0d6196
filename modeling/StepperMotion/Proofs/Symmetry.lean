import StepperMotion.Proofs.Coherence
import StepperMotion.Proofs.MirrorCommand
import StepperMotion.Proofs.SpeedProfile

/-!
# Both directions are alike

Whatever is done to an axis, the mirrored thing may be done to its mirror image: setpoints are
negated, directions reversed, and the shaft is turned to the opposite position. Then both answer in
the same way, write the same frequencies to their timers and toggle their step lines as often, and
they are mirror images again (`mirror_perform`, `mirror_symmetric`).

What cannot be mirrored is the lowest position, so that setpoints and the positions that a shaft is
turned to must have an opposite. A closed-loop move then keeps to positions that have one, because
every half-step of it leads towards its setpoint. A move that does not look at the encoder has to be
told not to run over the edge (`StaysInReach`).

From the time when a move is set up, the axes face opposite ways. Before that they may face the same
way, as new axes do, and they keep doing so as long as they find no move to make
(`same_way_at_rest`).
-/

namespace StepperMotion

open Axis (Operation Reply)

namespace Axis

/-- What is done to the mirror image of an axis. -/
def Operation.mirror : Operation → Operation
  | apply c nowMs => .apply c.mirror nowMs
  | beginDirectionChange c => .beginDirectionChange c.mirror
  | inspect note => .inspect note.mirror
  | park note => .park note.mirror
  | place position => .place (-position)
  | o => o

/-- Two statuses of which one is the mirror image of the other, but for the direction at rest. -/
structure StatusMirrors (s t : Status) : Prop where
  name : t.name = s.name
  mode : t.mode = s.mode
  direction : s.mode ≠ .stopped → t.direction = s.direction.opposite
  posCmd : t.posCmd = -s.posCmd
  posAct : t.posAct = -s.posAct
  stalled : t.stalled = s.stalled
  alreadyThere : t.alreadyThere = s.alreadyThere
  offset : t.offset = s.offset
  currentFreq : t.currentFreq = s.currentFreq
  completed : t.halfStepsCompleted = s.halfStepsCompleted
  requested : t.halfStepsRequested = s.halfStepsRequested
  dropped : t.droppedNotifications = s.droppedNotifications

/-- Two replies that say the same about an axis and its mirror image. -/
inductive Reply.Mirrors : Reply → Reply → Prop where
  | outcome {r : Except Failure Outcome} : Mirrors (.outcome r) (.outcome r)
  | rest {mustWait : Bool} : Mirrors (.rest mustWait) (.rest mustWait)
  | report {r : Except Fault (Option Notification)} : Mirrors (.report r) (.report (mirrorReport r))
  | resumed {r : Option (Except Failure Outcome)} : Mirrors (.resumed r) (.resumed r)
  | verdict {v : Verdict} : Mirrors (.verdict v) (.verdict v)
  | status {s t : Status} (h : StatusMirrors s t) : Mirrors (.status s) (.status t)
  | parked {note? : Option Notification} :
      Mirrors (.parked note?) (.parked (note?.map Notification.mirror))
  | silent : Mirrors .silent .silent

variable {a b : Axis}

/-! ## Operations -/

/-- A timer match turns nobody. -/
theorem dir_tick (a : Axis) (nowMs : Nat) : (a.tick nowMs).1.dir = a.dir := by
  have hlook : a.observe.dir = a.dir := by
    obtain ⟨_, _, _, hobs⟩ := observe_eq a
    rw [hobs]
  have hserved := tick_served a nowMs
  generalize (a.tick nowMs).1 = x at hserved ⊢
  generalize (a.tick nowMs).2 = r at hserved
  cases hserved with
  | idle _ => rfl
  | arrived _ _ => exact hlook
  | overshot _ _ _ => exact hlook
  | refused _ _ _ _ _ => exact hlook
  | stepped _ _ _ hx _ => rcases hx with ⟨_, rfl⟩ | ⟨_, _, rfl⟩ <;> exact hlook

/-- Only a launch turns an axis. -/
theorem dir_perform (a : Axis) {o : Operation} (ho : o.launches = false) :
    (a.perform o).1.dir = a.dir := by
  by_cases htick : ∃ nowMs, o = .tick nowMs
  · obtain ⟨nowMs, rfl⟩ := htick
    exact a.dir_tick nowMs
  · exact (a.keepsSpeed_perform ho fun nowMs heq => htick ⟨nowMs, heq⟩).dir

/-- What an operation comes to on an axis, and the mirrored one on its mirror image. -/
structure MirrorStep (a b : Axis) (o : Operation) : Prop where
  after : (a.perform o).1.Mirrors (b.perform o.mirror).1
  reply : (a.perform o).2.Mirrors (b.perform o.mirror).2
  turned : Turned a b (a.perform o).1 (b.perform o.mirror).1 (a.perform o).2

theorem mirror_status (h : a.Mirrors b) : StatusMirrors a.status.2 b.status.2 where
  name := h.name
  mode := h.mode
  direction := h.opposed
  posCmd := h.posCmd
  posAct := h.board.position
  stalled := h.stalled
  alreadyThere := h.alreadyThere
  offset := h.offset
  currentFreq := congrArg Ramp.current h.ramp
  completed := h.completed
  requested := h.requested
  dropped := h.dropped

/-- **An operation and its mirror image do the same to an axis and its mirror image.** -/
theorem mirror_perform (h : a.Mirrors b) (ha : a.Coherent) (hb : b.Coherent)
    (hthreshold : 1 ≤ a.config.posThreshold) (o : Operation)
    (hreach : Position.HasOpposite (a.perform o).1.board.position) : MirrorStep a b o := by
  -- an operation that sets up no move turns neither axis
  have hkept : ∀ {o' : Operation}, o'.launches = false → o'.mirror.launches = false →
      (a.perform o').2.setsOut = false →
      Turned a b (a.perform o').1 (b.perform o'.mirror).1 (a.perform o').2 :=
    fun ho ho' hr => Or.inr ⟨a.dir_perform ho, b.dir_perform ho', hr⟩
  cases o with
  | apply c nowMs =>
      have hstart := h.apply hthreshold c nowMs
      refine ⟨hstart.after, ?_, hstart.turned⟩
      show (Reply.outcome (a.apply c nowMs).answer).Mirrors (.outcome (b.apply c.mirror nowMs).answer)
      rw [hstart.answer]
      exact .outcome
  | beginDirectionChange c =>
      obtain ⟨hafter, hanswer⟩ := h.beginDirectionChange hthreshold c
      refine ⟨hafter, ?_, hkept rfl rfl rfl⟩
      show (Reply.rest (a.beginDirectionChange c).answer).Mirrors
        (.rest (b.beginDirectionChange c.mirror).answer)
      rw [hanswer]
      exact .rest
  | tick nowMs =>
      obtain ⟨hafter, hreport⟩ := mirror_tick h hthreshold ha.level hb.level nowMs hreach
      refine ⟨hafter, ?_, hkept rfl rfl rfl⟩
      show (Reply.report (a.tick nowMs).2).Mirrors (.report (b.tick nowMs).2)
      rw [hreport]
      exact .report
  | stop =>
      obtain ⟨hafter, hanswer⟩ := h.stop
      refine ⟨hafter, ?_, hkept rfl rfl ?_⟩
      · show (Reply.outcome (.ok a.stop.answer)).Mirrors (.outcome (.ok b.stop.answer))
        rw [hanswer]
        exact .outcome
      · exact setsOut_stop a
  | resume epoch nowMs =>
      obtain ⟨hafter, hanswer, hturned⟩ := h.resume hthreshold epoch nowMs
      refine ⟨hafter, ?_, hturned⟩
      show (Reply.resumed (a.resume epoch nowMs).answer).Mirrors
        (.resumed (b.resume epoch nowMs).answer)
      rw [hanswer]
      exact .resumed
  | inspect note =>
      obtain ⟨hafter, hverdict⟩ := mirror_inspect h note
      refine ⟨hafter, ?_, hkept rfl rfl rfl⟩
      show (Reply.verdict (a.inspect note).2).Mirrors (.verdict (b.inspect note.mirror).2)
      rw [hverdict]
      exact .verdict
  | takeParked =>
      refine ⟨{ h with parked := rfl }, ?_, hkept rfl rfl rfl⟩
      show (Reply.parked a.parked).Mirrors (.parked b.parked)
      rw [h.parked]
      exact .parked
  | tripStall => exact ⟨{ h.halt with stalled := rfl }, .silent, hkept rfl rfl rfl⟩
  | clearFaults =>
      exact ⟨{ h with stalled := rfl, stalledCount := rfl, alreadyThere := rfl }, .silent,
        hkept rfl rfl rfl⟩
  | setOffset offset => exact ⟨{ h with offset := rfl }, .silent, hkept rfl rfl rfl⟩
  | status => exact ⟨h.sense, .status (mirror_status h), hkept rfl rfl rfl⟩
  | park note => exact ⟨{ h with parked := rfl }, .silent, hkept rfl rfl rfl⟩
  | countDropped =>
      exact ⟨{ h with dropped := congrArg (Count.add · 1) h.dropped }, .silent, hkept rfl rfl rfl⟩
  | place position =>
      exact ⟨{ h with board := { h.board with position := rfl } }, .silent, hkept rfl rfl rfl⟩
  | freeze frozen =>
      exact ⟨{ h with board := { h.board with frozen := rfl } }, .silent, hkept rfl rfl rfl⟩
  | limitTimer hz =>
      exact ⟨{ h with
        board := { h.board with
          timer := congrArg (fun t : Timer => { t with limit := hz }) h.board.timer } },
        .silent, hkept rfl rfl rfl⟩

/-! ## Keeping to positions that have an opposite -/

/-- The axis is at a position that has an opposite, and so is its setpoint. -/
structure InReach (a : Axis) : Prop where
  position : Position.HasOpposite a.board.position
  goal : Position.HasOpposite a.posCmd

/-- What is asked of an operation so that it can be mirrored: no setpoint is the lowest position, and
the shaft is neither turned to it nor gets there in a move that does not look at the encoder. -/
def Operation.StaysInReach (a : Axis) : Operation → Prop
  | apply (.closedLoop setpoint) _ => Position.HasOpposite setpoint
  | place position => Position.HasOpposite position
  | tick nowMs => a.mode = .closedLoop ∨ Position.HasOpposite (a.tick nowMs).1.board.position
  | _ => True

/-- All operations of a run can be mirrored. -/
def StaysInReach (a : Axis) : List Operation → Prop
  | [] => True
  | o :: ops => o.StaysInReach a ∧ (a.perform o).1.StaysInReach ops

theorem InReach.carried {nowMs : Nat} {c : Command} {r : Except Failure Outcome} (h : a.InReach)
    (hgoal : ∀ setpoint, c = .closedLoop setpoint → Position.HasOpposite setpoint)
    (hc : a.Carried nowMs c b r) : b.InReach := by
  have hplan : ∀ {p : Plan}, a.Plans nowMs c p → Position.HasOpposite p.posCmd := by
    intro p hp
    cases hp with
    | freeRun _ => exact h.goal
    | steps _ => exact h.goal
    | closedLoop _ => exact hgoal _ rfl
  cases hc with
  | @launched p line hp _ =>
      obtain ⟨_, _, hframe⟩ := launch_frame (a.setUp p).nextEpoch p.ramp.current line
      rw [hframe]
      exact ⟨h.position, hplan hp⟩
  | failed hp _ _ => exact ⟨h.position, hplan hp⟩
  | @arrived setpoint hc _ =>
      obtain ⟨_, _, hframe⟩ := finishInPlace_frame ({ a with posCmd := setpoint } : Axis).sense
      rw [hframe]
      exact ⟨h.position, hgoal setpoint hc⟩
  | stopped _ =>
      obtain ⟨_, _, _, hframe⟩ := stop_frame a
      rw [hframe]
      exact ⟨h.position, h.goal⟩

/-- **A half-step of a closed-loop move does not lead beyond the setpoint.** -/
theorem InReach.halfStep (h : a.InReach) (hlevel : a.board.dirLevel = a.dir.level)
    (hthreshold : 1 ≤ a.config.posThreshold) (hm : a.mode = .closedLoop)
    (hopen : a.observe.alreadyThere = false) (hover : a.observe.overshot = false) :
    Position.HasOpposite a.board.toggleStep.position := by
  rw [observe_arrives] at hopen
  rw [observe_overshot] at hover
  have hfar : ¬ Position.abs (Position.sub a.posCmd a.board.position) < a.config.posThreshold := by
    simp only [arrived, hm, Axis.sense] at hopen
    exact of_decide_eq_false hopen
  have hne : a.posCmd ≠ a.board.position := Position.ne_of_far hthreshold hfar
  have hdir : Direction.ofError (Position.sub a.posCmd a.board.position) = a.dir := by
    simpa [overshot, positionError, hm, Axis.sense] using hover
  obtain ⟨⟨hlow, hhigh⟩, hgoalLow, hgoalHigh⟩ := h
  simp only [Board.toggleStep, Board.setStep]
  split
  · -- the next count lies between the position and the setpoint
    rw [Position.ofError_sub] at hdir
    simp only [Board.advanced, hlevel, ← hdir]
    by_cases hdown : a.posCmd < a.board.position
    · have hwrap : Position.wrap (a.board.position - 1) = a.board.position - 1 :=
        Position.wrap_of_mem (by unfold Position.lowest; unfold Position.highest at hgoalLow; omega)
          (by omega)
      simp only [if_pos hdown, Direction.level, if_true, hwrap]
      exact ⟨by omega, by omega⟩
    · have hwrap : Position.wrap (a.board.position + 1) = a.board.position + 1 :=
        Position.wrap_of_mem (by unfold Position.lowest; unfold Position.highest at hlow; omega)
          (by omega)
      simp only [if_neg hdown, Direction.level, Bool.false_eq_true, if_false, hwrap]
      exact ⟨by omega, by omega⟩
  · exact ⟨hlow, hhigh⟩

/-- What a timer match leaves is in reach, if its half-step is. -/
theorem InReach.tick (h : a.InReach) (hlevel : a.board.dirLevel = a.dir.level)
    (hthreshold : 1 ≤ a.config.posThreshold) (nowMs : Nat)
    (hstays : a.mode = .closedLoop ∨ Position.HasOpposite (a.tick nowMs).1.board.position) :
    (a.tick nowMs).1.InReach := by
  have hlook : a.observe.InReach := by
    obtain ⟨_, _, _, hobs⟩ := observe_eq a
    rw [hobs]
    exact ⟨h.position, h.goal⟩
  have hserved := tick_served a nowMs
  generalize (a.tick nowMs).1 = x at hserved hstays ⊢
  generalize (a.tick nowMs).2 = r at hserved
  cases hserved with
  | idle _ => exact h
  | arrived _ _ => exact ⟨hlook.position, hlook.goal⟩
  | overshot _ _ _ => exact ⟨hlook.position, hlook.goal⟩
  | refused _ _ _ _ _ => exact ⟨hlook.position, hlook.goal⟩
  | @stepped y n _ _ hopen hover hy _ =>
      have hboard : (y.stepped n).board.position = a.board.toggleStep.position
          ∧ (y.stepped n).posCmd = a.posCmd := by
        obtain ⟨_, _, _, hobs⟩ := observe_eq a
        rcases hy with ⟨_, rfl⟩ | ⟨_, _, rfl⟩
        · rw [hobs]
          exact ⟨rfl, rfl⟩
        · rw [hobs]
          exact ⟨rfl, rfl⟩
      refine ⟨?_, hboard.2 ▸ h.goal⟩
      rcases hstays with hm | hstays
      · rw [hboard.1]
        exact h.halfStep hlevel hthreshold hm hopen hover
      · exact hstays

theorem InReach.perform (h : a.InReach) (hcoherent : a.Coherent)
    (hthreshold : 1 ≤ a.config.posThreshold) {o : Operation} (ho : o.StaysInReach a) :
    (a.perform o).1.InReach := by
  cases o with
  | apply c nowMs =>
      have hgoal : ∀ setpoint, c = .closedLoop setpoint → Position.HasOpposite setpoint := by
        rintro setpoint rfl
        exact ho
      rcases apply_cases a c nowMs with ⟨e, _, heq⟩ | ⟨_, hcarried⟩
      · simp only [Axis.perform, heq]
        exact h
      · exact h.carried hgoal hcarried
  | resume epoch nowMs =>
      rcases resume_cases a epoch nowMs with ⟨_, heq⟩ | ⟨_, r, _, hcarried⟩
      · simp only [Axis.perform, heq]
        exact h
      · refine h.carried (fun setpoint hc => ?_) hcarried
        obtain rfl := Command.closedLoop.inj hc
        exact h.goal
  | tick nowMs => exact h.tick hcoherent.level hthreshold nowMs ho
  | stop =>
      obtain ⟨_, _, _, hframe⟩ := stop_frame a
      simp only [Axis.perform, hframe]
      exact ⟨h.position, h.goal⟩
  | beginDirectionChange c =>
      rcases beginDirectionChange_cases a c with ⟨_, heq | heq, _⟩ | ⟨_, _, heq | heq⟩ <;>
        simp only [Axis.perform, heq] <;> exact ⟨h.position, h.goal⟩
  | inspect note =>
      obtain ⟨x, _, _, hx, heq⟩ := inspect_cases a note
      simp only [Axis.perform, heq]
      rcases hx with rfl | rfl <;> exact ⟨h.position, h.goal⟩
  | place position => exact ⟨ho, h.goal⟩
  | _ => exact ⟨h.position, h.goal⟩

/-! ## Runs -/

/-- What is done to an axis and its mirror image in the course of a run comes to the same. -/
structure MirrorRun (a b : Axis) (ops : List Operation) : Prop where
  /-- The axes are mirror images again: they have the same frequencies written to their timers and
  as many half-steps made. -/
  after : (a.after ops).Mirrors (b.after (ops.map Operation.mirror))
  replies : List.Forall₂ Reply.Mirrors (a.replies ops) (b.replies (ops.map Operation.mirror))
  /-- The axes face opposite ways once a move has been set up, or if they did so before. -/
  opposed : (a.Opposed b ∨ ∃ r ∈ a.replies ops, r.setsOut = true) →
    (a.after ops).Opposed (b.after (ops.map Operation.mirror))

/-- **Both directions are alike.** Axes that are mirror images, without controllers and with a threshold
of one or more, answer in the same way to operations that are mirror images, and stay mirror images,
as long as all positions have an opposite. They face opposite ways in every move, and from the first
time when a move is set up. -/
theorem mirror_symmetric {ops : List Operation} (h : a.Mirrors b) (ha : a.Coherent) (hb : b.Coherent)
    (hreach : a.InReach) (hthreshold : 1 ≤ a.config.posThreshold) (hops : a.StaysInReach ops) :
    MirrorRun a b ops := by
  induction ops generalizing a b with
  | nil =>
      refine ⟨h, .nil, fun hopposed => hopposed.resolve_right ?_⟩
      rintro ⟨r, hr, _⟩
      exact absurd hr (by simp [Axis.replies])
  | cons o ops ih =>
      obtain ⟨ho, hrest⟩ := hops
      have hnext := hreach.perform ha hthreshold ho
      have hstep := mirror_perform h ha hb hthreshold o hnext.position
      have hconfig : (a.perform o).1.config = a.config := (settings_perform a o).config
      have hrun := ih hstep.after (ha.perform o) (hb.perform o.mirror) hnext (hconfig ▸ hthreshold)
        hrest
      refine ⟨hrun.after, .cons hstep.reply hrun.replies, fun hopposed => hrun.opposed ?_⟩
      -- the first operation has turned the axes, or it has left them as they were
      rcases hstep.turned with hturned | ⟨hdir, hdir', hr⟩
      · exact Or.inl hturned
      · rcases hopposed with hbefore | ⟨r, hmem, hsets⟩
        · left
          unfold Opposed at hbefore ⊢
          rw [hdir, hdir', hbefore]
        · rcases List.mem_cons.mp hmem with rfl | hmem
          · exact absurd (hr.symm.trans hsets) (by simp)
          · exact Or.inr ⟨r, hmem, hsets⟩

/-- New axes on boards that are mirror images are mirror images, though they face the same way. -/
theorem mirrors_create {board board' : Board} {own : AxisConfig} (h : board.Mirrors board')
    (hcontroller : own.controller = none) (handle : Nat) (config : MotionConfig) :
    (create handle own board config).Mirrors (create handle own board' config) where
  handle := rfl
  name := rfl
  config := rfl
  controller := by simp [create, hcontroller]
  controller' := by simp [create, hcontroller]
  mode := rfl
  board :=
    { position := h.position
      stepLevel := rfl
      frozen := h.frozen
      toggles := h.toggles
      timer := congrArg (fun t : Timer => { t with running := false }) h.timer }
  opposed hm := absurd rfl hm
  posCmd := h.position
  posAct := h.position
  posMiddle := h.position
  posStart := h.position
  ramp := rfl
  requested := rfl
  completed := rfl
  toMiddle := rfl
  pulses := rfl
  stalled := rfl
  stalledCount := rfl
  lastPos := h.position
  alreadyThere := rfl
  offset := rfl
  epoch := rfl
  quiescedEpoch := rfl
  parked := rfl
  dropped := rfl

/-- A new axis on a board at a position. -/
def placedAt (position : Int) : Axis :=
  create 0 ⟨"x", 0, none⟩ { position := position } { posThreshold := 2, reportInterval := 3 }

theorem mirrors_placedAt (position : Int) : (placedAt position).Mirrors (placedAt (-position)) :=
  have hboard : Board.Mirrors { position := position } { position := -position } :=
    ⟨rfl, rfl, rfl, rfl, rfl⟩
  mirrors_create hboard (rfl : (⟨"x", 0, none⟩ : AxisConfig).controller = none) 0 _

/-- An axis is sent downwards, turned beyond its setpoint, goes back, and is to be reversed. -/
def thereAndBack : List Operation :=
  [.apply (.closedLoop (-2000)) 0, .tick 60, .tick 120, .tick 180, .inspect ⟨0, 1, 999, .progress⟩,
    .place (-2060), .tick 240, .resume 1 241, .tick 300, .beginDirectionChange (.closedLoop (-5000)),
    .status]

theorem mirror_symmetric_of_thereAndBack :
    (placedAt 1000).Mirrors (placedAt (-1000)) ∧ (placedAt 1000).InReach
      ∧ (placedAt 1000).StaysInReach thereAndBack
      ∧ ((placedAt 1000).after (thereAndBack.take 4)).board.timer.history
        = [25000, 17500, 10000, 2500]
      ∧ ((placedAt 1000).replies thereAndBack)[6]?
        = some (.report (.ok (some ⟨0, 1, -2060, .overshoot⟩)))
      ∧ ((placedAt (-1000)).replies (thereAndBack.map Operation.mirror))[6]?
        = some (.report (.ok (some ⟨0, 1, 2060, .overshoot⟩)))
      ∧ MirrorRun (placedAt 1000) (placedAt (-1000)) thereAndBack := by
  have hmirrors : (placedAt 1000).Mirrors (placedAt (-1000)) := mirrors_placedAt 1000
  have hreach : (placedAt 1000).InReach := ⟨by decide, by decide⟩
  have hgoal : Position.HasOpposite (-2000) ∧ Position.HasOpposite (-2060) := by decide
  have hops : (placedAt 1000).StaysInReach thereAndBack :=
    ⟨hgoal.1, Or.inl rfl, Or.inl rfl, Or.inl rfl, trivial, hgoal.2, Or.inl rfl, trivial,
      Or.inl rfl, trivial, trivial, trivial⟩
  exact ⟨hmirrors, hreach, hops, rfl, rfl, rfl,
    mirror_symmetric hmirrors (coherent_create ..) (coherent_create ..) hreach (by decide) hops⟩

/-- **Axes that are mirror images may face the same way.** Each of these is at its setpoint when it is
sent there, so that there is no move to make, and both face clockwise as new axes do. -/
theorem same_way_at_rest :
    (placedAt 7).Mirrors (placedAt (-7))
      ∧ (placedAt 7).replies [.apply (.closedLoop 7) 0] = [.outcome (.ok .alreadyThere)]
      ∧ (placedAt (-7)).replies [.apply (.closedLoop (-7)) 0] = [.outcome (.ok .alreadyThere)]
      ∧ ((placedAt 7).after [.apply (.closedLoop 7) 0]).dir = .clockwise
      ∧ ((placedAt (-7)).after [.apply (.closedLoop (-7)) 0]).dir = .clockwise :=
  ⟨mirrors_placedAt 7, rfl, rfl, rfl, rfl⟩

end Axis

end StepperMotion
