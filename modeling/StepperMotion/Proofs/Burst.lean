import StepperMotion.Proofs.Between
import StepperMotion.Proofs.StallDetection
import StepperMotion.Simulation.Drive

/-!
# A burst of timer matches

The matches of a millisecond are raised in one burst, and the burst ends with the first match that
is not served. How many matches are served is a matter of the move. A free run serves all of them:
it has no end, and the ramp of a free run is flat, so that the timer is never asked to take another
frequency (`freeRun_burst`). A move by steps serves one match for each half-step that it has yet to
make, and one more, which ends it (`steps_burst`). After that the timer is stopped, and the rest of
the burst is lost.

What has to be known of the axis is an invariant of all that is done to it: what it is told of its
move when it is set up holds until the next one is (`Planned`).
-/

namespace StepperMotion

open Axis (Operation)

namespace Axis

variable {a b : Axis} {nowMs : Nat} {o : Operation}

/-! ## What a move is set up with -/

/-- What is known of a move from its plan, for as long as it lasts. -/
structure Planned (a : Axis) : Prop where
  flat : a.mode = .freeRunning → a.ramp.isFlat = true
  /-- The half-steps of a move by steps can be counted. -/
  countable : a.mode = .steps → a.halfStepsRequested ≤ Count.limit

theorem planned_of_mode (hfree : a.mode ≠ .freeRunning) (hsteps : a.mode ≠ .steps) : a.Planned :=
  ⟨fun h => absurd h hfree, fun h => absurd h hsteps⟩

theorem planned_of_stopped (h : a.mode = .stopped) : a.Planned :=
  planned_of_mode (by simp [h]) (by simp [h])

theorem planned_setUp {c : Command} {p : Plan} (hp : a.Plans nowMs c p)
    (hcount : ∀ d level count periodMs divisor, c = .steps d level count periodMs divisor →
      count ≤ maxStepCount) : (a.setUp p).Planned := by
  cases hp with
  | freeRun _ => exact ⟨fun _ => rfl, fun h => absurd h (by simp [Axis.setUp, freeRunPlan])⟩
  | @steps d level _ count periodMs divisor _ =>
      refine ⟨fun h => absurd h (by simp [Axis.setUp, stepsPlan]), fun _ => ?_⟩
      have hfew := hcount d level count periodMs divisor rfl
      have hmax : 2 * maxStepCount ≤ Count.limit := by decide
      show count * 2 ≤ Count.limit
      omega
  | closedLoop _ =>
      exact planned_of_mode (by simp [Axis.setUp, closedLoopPlan])
        (by simp [Axis.setUp, closedLoopPlan])

theorem planned_carried {c : Command} {r : Except Failure Outcome} (h : a.Carried nowMs c b r)
    (hcount : ∀ d level count periodMs divisor, c = .steps d level count periodMs divisor →
      count ≤ maxStepCount) : b.Planned := by
  cases h with
  | @launched p line hp _ =>
      have hplanned := planned_setUp hp hcount
      rcases launch_cases (a.setUp p).nextEpoch p.ramp.current line with
        ⟨_, _, h⟩ | ⟨_, _, _, h⟩ | ⟨_, _, _, h⟩ <;> rw [h]
      · exact planned_of_stopped rfl
      · exact planned_of_stopped rfl
      · exact ⟨hplanned.flat, hplanned.countable⟩
  | failed hp _ _ => exact planned_setUp hp hcount
  | arrived _ _ => exact planned_of_stopped (finishInPlace_mode _)
  | stopped _ => exact planned_of_stopped (stop_mode a)

theorem Planned.spares (h : a.Planned) (hs : a.Spares b) : b.Planned := by
  rcases hs.mode with hsame | hends
  · exact ⟨fun hm => hs.ramp ▸ h.flat (hsame ▸ hm),
      fun hm => hs.requested ▸ h.countable (hsame ▸ hm)⟩
  · exact planned_of_stopped hends

/-- A match changes the ramp only if it is due, and one that is flat never is. -/
theorem Planned.served {r : Except Fault (Option Notification)} (h : a.Planned)
    (hserved : a.Served nowMs b r) : b.Planned := by
  obtain ⟨_, _, _, hobs⟩ := observe_eq a
  have hlook : a.observe.Planned := by
    rw [hobs]
    exact ⟨h.flat, h.countable⟩
  have hmode : a.observe.mode = a.mode := by rw [hobs]
  cases hserved with
  | idle _ => exact h
  | arrived _ _ => exact planned_of_stopped rfl
  | overshot hm _ _ =>
      have hclosed : a.observe.stopTimer.mode = .closedLoop := hmode.trans hm
      exact planned_of_mode (by simp [hclosed]) (by simp [hclosed])
  | refused _ _ _ _ _ => exact planned_of_stopped rfl
  | stepped _ _ _ hb _ =>
      rcases hb with ⟨_, rfl⟩ | ⟨hdue, _, rfl⟩
      · exact ⟨hlook.flat, hlook.countable⟩
      · refine ⟨fun hm => ?_, hlook.countable⟩
        have hflat := h.flat (hmode.symm.trans hm)
        exact absurd hdue (by simp [Ramp.due, hflat])

theorem Planned.perform (h : a.Planned) (o : Operation) : (a.perform o).1.Planned := by
  cases o with
  | apply c nowMs =>
      rcases apply_cases a c nowMs with ⟨_, _, heq⟩ | ⟨hvalid, hcarried⟩
      · have hsame : (a.perform (.apply c nowMs)).1 = a := congrArg Transition.axis heq
        rw [hsame]
        exact h
      · refine planned_carried hcarried ?_
        rintro d level count periodMs divisor rfl
        exact (checkSteps_ok.mp (validate_ok.mp hvalid).2).2
  | resume epoch nowMs =>
      rcases resume_cases a epoch nowMs with ⟨_, heq⟩ | ⟨_, _, _, hcarried⟩
      · have hsame : (a.perform (.resume epoch nowMs)).1 = a := congrArg Transition.axis heq
        rw [hsame]
        exact h
      · exact planned_carried hcarried fun _ _ _ _ _ hc => absurd hc (by simp)
  | tick nowMs => exact h.served (tick_served a nowMs)
  | _ => exact h.spares (spares_perform rfl (by simp))

/-- An axis of which it can be told what its timer matches will come to. -/
structure Predictable (a : Axis) : Prop where
  coherent : a.Coherent
  paced : a.Paced
  planned : a.Planned
  limit : a.config.reportInterval ≤ Count.limit

theorem predictable_create {config : MotionConfig} (hwidth : config.reportInterval ≤ Count.limit)
    (handle : Nat) (own : AxisConfig) (board : Board) :
    (create handle own board config).Predictable :=
  ⟨coherent_create handle own board config, paced_of_none rfl, planned_of_stopped rfl, hwidth⟩

theorem Predictable.perform (h : a.Predictable) (o : Operation) : (a.perform o).1.Predictable := by
  refine ⟨h.coherent.perform o, h.paced.effect (effect_perform a o), h.planned.perform o, ?_⟩
  rw [(settings_perform a o).config]
  exact h.limit

theorem Predictable.after (h : a.Predictable) (ops : List Operation) : (a.after ops).Predictable :=
  after_induction (fun _ o h => h.perform o) h ops

/-! ## One match -/

theorem reported_eq_some {r : Except Fault (Option Notification)} {note : Notification} :
    reported r = some note ↔ r = .ok (some note) := by
  cases r <;> simp [reported]

/-- What an axis reports that has come to the end of its move, or whose timer has refused a
frequency. -/
theorem reason_of_end {note : Notification} (hnote : (a.tick nowMs).2 = .ok (some note)) :
    (note.kind = .completed → a.sense.arrived = true)
      ∧ (note.kind = .timerFault → a.ramp.due nowMs = true
        ∧ ∃ hz, (a.tick nowMs).1.board.timer.writes = ⟨hz, false⟩ :: a.board.timer.writes) := by
  have hserved := tick_served a nowMs
  rw [hnote] at hserved
  generalize (a.tick nowMs).1 = b at hserved ⊢
  generalize hr : (.ok (some note) : Except Fault (Option Notification)) = r at hserved
  cases hserved with
  | idle _ => exact absurd hr (by simp)
  | arrived _ hthere =>
      obtain rfl := Option.some.inj (Except.ok.inj hr)
      exact ⟨fun _ => (observe_arrives a).symm.trans hthere, fun hk => absurd hk (by simp [report])⟩
  | overshot _ _ _ =>
      obtain rfl := Option.some.inj (Except.ok.inj hr)
      exact ⟨fun hk => absurd hk (by simp [report]), fun hk => absurd hk (by simp [report])⟩
  | refused _ _ _ hdue hacc =>
      obtain rfl := Option.some.inj (Except.ok.inj hr)
      refine ⟨fun hk => absurd hk (by simp [report]), fun _ =>
        ⟨hdue, (a.observe.nextRamp nowMs).current, ?_⟩⟩
      show (writtenTimer a.observe.board.timer _).writes = _
      rw [writtenTimer_writes, observe_board, hacc]
  | stepped _ _ _ _ hcounts =>
      have hprogress : note.kind = .progress := by
        rcases hcounts.reply with rfl | rfl | ⟨_, rfl⟩
        · exact absurd hr (by simp)
        · exact Option.some.inj (Except.ok.inj hr) ▸ rfl
        · exact absurd hr (by simp)
      exact ⟨fun hk => absurd (hprogress.symm.trans hk) (by simp),
        fun hk => absurd (hprogress.symm.trans hk) (by simp)⟩

/-- The half-steps that a move by steps has yet to make. -/
def stepsLeft (a : Axis) : Nat := a.halfStepsRequested - a.halfStepsCompleted

theorem Predictable.room (h : a.Predictable) : a.pulses + 1 ≤ Count.limit := by
  have hfewer := a.pulses_le
  have hpaced := h.paced
  have hlimit := h.limit
  have hone : 1 ≤ Count.limit := by decide
  unfold Paced at hpaced
  omega

/-- **A match of a free run is a half-step.** -/
theorem Predictable.freeRun_strides (h : a.Predictable) (hmode : a.mode = .freeRunning)
    (nowMs : Nat) : a.Strides (a.tick nowMs).1 (a.tick nowMs).2 := by
  have hmoving : a.mode ≠ .stopped := by simp [hmode]
  have hahead : a.sense.overshot = false := by simp [overshot, sense, hmode]
  rcases tick_ceases_or_beats nowMs h.room with hceases | hbeats
  · obtain ⟨note, hreported, hkind⟩ := hceases.ended hmoving hahead
    obtain ⟨harrived, hrefused⟩ := reason_of_end (reported_eq_some.mp hreported)
    have hflat := h.planned.flat hmode
    rcases hkind with hkind | hkind
    · exact absurd (harrived hkind) (by simp [arrived, sense, hmode])
    · exact absurd (hrefused hkind).1 (by simp [Ramp.due, hflat])
  · exact hbeats.toStrides

/-- What a match of a move by steps comes to. -/
inductive StepsMatch (a b : Axis) (r : Except Fault (Option Notification)) : Prop where
  | strides (hstrides : a.Strides b r) (hleft : b.stepsLeft + 1 = a.stepsLeft)
  | completes (hcompletes : a.Completes b r) (hleft : a.stepsLeft = 0)
  | refused {note : Notification} (hreply : r = .ok (some note)) (hkind : note.kind = .timerFault)
      (hmode : b.mode = .stopped) (hrest : b.isRunning = false)
      (htoggles : b.board.toggles = a.board.toggles) (hleft : 0 < a.stepsLeft)
      (hwrites : ∃ hz, b.board.timer.writes = ⟨hz, false⟩ :: a.board.timer.writes)

/-- **A match of a move by steps is a half-step if there is one to make, and ends the move if there
is none.** Only a timer that refuses a frequency ends it earlier. -/
theorem Predictable.steps_match (h : a.Predictable) (hmode : a.mode = .steps) (nowMs : Nat) :
    a.StepsMatch (a.tick nowMs).1 (a.tick nowMs).2 := by
  have hmoving : a.mode ≠ .stopped := by simp [hmode]
  have hahead : a.sense.overshot = false := by simp [overshot, sense, hmode]
  have hfits := h.planned.countable hmode
  have harrives : a.sense.arrived = decide (a.halfStepsRequested ≤ a.halfStepsCompleted) := by
    simp [arrived, sense, hmode]
  by_cases hend : a.halfStepsRequested ≤ a.halfStepsCompleted
  · refine .completes (completes_of_arrived hmoving ?_ nowMs) ?_
    · rw [harrives]
      exact decide_eq_true hend
    · unfold stepsLeft
      omega
  · rcases tick_ceases_or_beats nowMs h.room with hceases | hbeats
    · obtain ⟨note, hreported, hkind⟩ := hceases.ended hmoving hahead
      have hreply := reported_eq_some.mp hreported
      obtain ⟨harrived, hrefused⟩ := reason_of_end hreply
      have hserved := tick_served a nowMs
      rw [hreply] at hserved
      rcases hkind with hkind | hkind
      · have hthere := harrived hkind
        rw [harrives] at hthere
        exact absurd (of_decide_eq_true hthere) hend
      · have harrival : note.kind.isArrival = true := by
          rw [hkind]
          rfl
        have hterminal : note.kind.isTerminal = true := by
          rw [hkind]
          rfl
        refine .refused hreply hkind (stopped_of_arrival hserved harrival).2
          ((served_report hserved).2.2 hterminal) hceases.toggles ?_ (hrefused hkind).2
        unfold stepsLeft
        omega
    · refine .strides hbeats.toStrides ?_
      unfold stepsLeft
      rw [hbeats.requested, hbeats.completed]
      unfold Count.add
      omega

end Axis

/-! ## A match on its station -/

namespace Station

variable {s : Station} {h : Nat} {a : Axis}

/-- So many matches of one axis, one after the other. -/
def volley (h n : Nat) : List Action := List.replicate n (.timerMatch h false)

/-- A match of a running axis that does not fail is served, and what it reports is the report of the
action. -/
theorem serveMatch_of_running {note? : Option Notification} (ha : s.machine.axes[h]? = some a)
    (hrun : a.isRunning = true) (hreply : (a.tick s.nowMs).2 = .ok note?) :
    s.serveMatch h false = (s.act (.timerMatch h false), .ok true)
      ∧ s.report? (.timerMatch h false) = note? := by
  have hreport : s.report? (.timerMatch h false) = note? := by
    simp only [report?, ha, hrun, if_true, hreply]
    rfl
  have hpair : a.tick s.nowMs = ((a.tick s.nowMs).1, .ok note?) := Prod.ext rfl hreply
  have hanswer : (s.serveMatch h false).2 = .ok true := by
    unfold serveMatch Machine.serveMatch
    simp only [ha, hrun]
    rw [hpair]
    cases note? <;> rfl
  exact ⟨Prod.ext rfl hanswer, hreport⟩

/-- A match of an axis at rest is not served, and changes nothing. -/
theorem serveMatch_of_rest (ha : s.machine.axes[h]? = some a) (hrest : a.isRunning = false) :
    s.serveMatch h false = (s, .ok false) := by
  unfold serveMatch Machine.serveMatch
  simp only [ha, hrest]
  rfl

/-- The axis after a match, apart from what is filed about its report. -/
theorem axis_match (ha : s.machine.axes[h]? = some a) (hrun : a.isRunning = true) :
    ∃ parked dropped b, (s.act (.timerMatch h false)).machine.axes[h]? = some b
      ∧ b = { (a.tick s.nowMs).1 with parked := parked, dropped := dropped }
      ∧ (a.Predictable → b.Predictable) := by
  have hops : s.strokes h a (.timerMatch h false) = s.machine.matchStrokes s.nowMs a := by
    simp only [strokes, hrun, and_self, if_true]
  have hnext := axis_act ha (.timerMatch h false)
  rw [hops] at hnext
  obtain ⟨parked, dropped, heq⟩ := s.machine.after_matchStrokes s.nowMs a
  exact ⟨parked, dropped, _, hnext, heq, fun hp => hp.after _⟩

theorem burst_rests (ha : s.machine.axes[h]? = some a) (hrest : a.isRunning = false)
    (served n : Nat) : s.burst h served n = (s, served) := by
  cases n with
  | zero => rfl
  | succ n =>
      rw [burst, serveMatch_of_rest ha hrest]

theorem burst_served {note? : Option Notification} (ha : s.machine.axes[h]? = some a)
    (hrun : a.isRunning = true) (hreply : (a.tick s.nowMs).2 = .ok note?) (served n : Nat) :
    s.burst h served (n + 1) = (s.act (.timerMatch h false)).burst h (served + 1) n := by
  rw [burst, (serveMatch_of_running ha hrun hreply).1]

/-! ## Between two bursts -/

/-- Nothing but a timer match of an axis makes a tick of its strokes. -/
theorem no_tick_of_strokes {x : Action} (hx : ∀ held, x ≠ .timerMatch h held) :
    ∀ o ∈ s.strokes h a x, ∀ nowMs, o ≠ .tick nowMs := by
  have hstruck := s.strokes_struck h a x
  generalize s.strokes h a x = ops at hstruck
  rintro o ho nowMs rfl
  cases hstruck with
  | alone => exact absurd ho (by simp)
  | minor hminor =>
      rw [← List.mem_singleton.mp ho] at hminor
      exact absurd hminor (by simp [Axis.Operation.isMinor])
  | matched _ => exact absurd rfl (hx false)
  | dispatched _ _ =>
      rcases Axis.mem_phaseStrokes ho with h | h | ⟨_, h⟩ | ⟨_, h⟩ <;> exact absurd h (by simp)
  | resumed _ _ _ => exact absurd ho (by simp)
  | stopped => exact absurd ho (by simp)

/-- An axis whose timer raises no matches makes no half-steps. -/
theorem toggles_run {others : List Action} (hothers : ∀ x ∈ others, ∀ held, x ≠ .timerMatch h held)
    (ha : s.machine.axes[h]? = some a) (hp : a.Predictable) :
    ∃ b, (s.run others).machine.axes[h]? = some b ∧ b.Predictable
      ∧ b.board.toggles = a.board.toggles := by
  induction others generalizing s a with
  | nil => exact ⟨a, ha, hp, rfl⟩
  | cons x others ih =>
      obtain ⟨hx, hrest⟩ := List.forall_mem_cons.mp hothers
      have hstill := Axis.stepLine_after (a := a) (s.no_tick_of_strokes (a := a) hx)
      obtain ⟨b, hb, hpredictable, htoggles⟩ := ih hrest (axis_act ha x) (hp.after _)
      exact ⟨b, hb, hpredictable, htoggles.trans hstill.toggles⟩

/-! ## Whole bursts -/

/-- A burst is a run. -/
theorem burst_run (s : Station) (h served n : Nat) :
    ∃ k, (s.burst h served n).1 = s.run (volley h k) := by
  induction n generalizing s served with
  | zero => exact ⟨0, rfl⟩
  | succ n ih =>
      have hact : (s.serveMatch h false).1 = s.act (.timerMatch h false) := rfl
      rw [burst]
      rcases hmatch : s.serveMatch h false with ⟨s', _ | ⟨_ | _⟩⟩
      all_goals
        rw [hmatch] at hact
        dsimp only at hact ⊢
        subst hact
      · exact ⟨1, rfl⟩
      · exact ⟨1, rfl⟩
      · obtain ⟨k, hk⟩ := ih (s.act (.timerMatch h false)) (served + 1)
        exact ⟨k + 1, hk⟩

/-- **A free run serves every match of a burst, and makes a half-step at each.** -/
theorem freeRun_burst (ha : s.machine.axes[h]? = some a) (hp : a.Predictable)
    (hmode : a.mode = .freeRunning) (hrun : a.isRunning = true) (served n : Nat) :
    (s.burst h served n).2 = served + n
      ∧ ∃ b, (s.burst h served n).1.machine.axes[h]? = some b ∧ b.Predictable
        ∧ b.board.toggles = a.board.toggles + n := by
  induction n generalizing s a served with
  | zero => exact ⟨rfl, a, ha, hp, rfl⟩
  | succ n ih =>
      have hstrides := hp.freeRun_strides hmode s.nowMs
      obtain ⟨_, _, b, hb, hbeq, hkeeps⟩ := axis_match ha hrun
      obtain ⟨note?, hreply, hadvances⟩ := hstrides.advances hrun
      have hnext : b.mode = .freeRunning ∧ b.isRunning = true
          ∧ b.board.toggles = a.board.toggles + 1 := by
        rw [hbeq]
        exact ⟨hstrides.mode.trans hmode, hadvances.runs, hadvances.toggles⟩
      obtain ⟨hfree, hruns, htoggles⟩ := hnext
      rw [burst_served ha hrun hreply]
      obtain ⟨hcount, c, hc, hpredictable, hmade⟩ := ih hb (hkeeps hp) hfree hruns (served + 1)
      exact ⟨by omega, c, hc, hpredictable, by omega⟩

/-- What a burst of `n` matches makes of a move by steps: how many of them are served, and what
becomes of axis `a`. -/
inductive CutOff (s : Station) (h : Nat) (a b : Axis) (n : Nat) : Nat → Prop where
  /-- All of them are half-steps. -/
  | whole (hleft : b.stepsLeft + n = a.stepsLeft) (hgoes : b.mode = .steps ∧ b.isRunning = true)
      (htoggles : b.board.toggles = a.board.toggles + n) : CutOff s h a b n n
  /-- All half-steps that are left are made, and the next match completes the move. -/
  | completed {note : Notification} (hfew : a.stepsLeft < n)
      (hreport : (s.run (volley h a.stepsLeft)).report? (.timerMatch h false) = some note)
      (hkind : note.kind = .completed) (hends : b.mode = .stopped ∧ b.isRunning = false)
      (htoggles : b.board.toggles = a.board.toggles + a.stepsLeft) :
      CutOff s h a b n (a.stepsLeft + 1)
  /-- The timer refuses a frequency after so many half-steps. -/
  | refused {k : Nat} {note : Notification} (hfew : k < n ∧ k < a.stepsLeft)
      (hreport : (s.run (volley h k)).report? (.timerMatch h false) = some note)
      (hkind : note.kind = .timerFault) (hends : b.mode = .stopped ∧ b.isRunning = false)
      (hrefused : ∃ hz rest, b.board.timer.writes = ⟨hz, false⟩ :: rest)
      (htoggles : b.board.toggles = a.board.toggles + k) : CutOff s h a b n (k + 1)

/-- A burst of which a match was refused has ended the move. -/
theorem CutOff.ends {b : Axis} {n k : Nat} (hcut : s.CutOff h a b n k) (hfewer : k < n) :
    b.mode = .stopped ∧ b.isRunning = false := by
  cases hcut with
  | whole => exact absurd hfewer (Nat.lt_irrefl _)
  | completed _ _ _ hends _ => exact hends
  | refused _ _ _ hends _ _ => exact hends

/-- A half-step in front of a burst. -/
theorem CutOff.later {a' b : Axis} {n k : Nat}
    (hcut : (s.act (.timerMatch h false)).CutOff h a' b n k)
    (hleft : a'.stepsLeft + 1 = a.stepsLeft)
    (hmade : a'.board.toggles = a.board.toggles + 1) : s.CutOff h a b (n + 1) (k + 1) := by
  cases hcut with
  | whole hrest hgoes htoggles => exact .whole (by omega) hgoes (by omega)
  | completed hfew hreport hkind hends htoggles =>
      rw [hleft]
      exact .completed (by omega) (hleft ▸ hreport) hkind hends (by omega)
  | @refused k _ hfew hreport hkind hends hrefused htoggles =>
      exact @CutOff.refused s h a b (n + 1) (k + 1) _ (by omega) hreport hkind hends hrefused
        (by omega)

/-- **A move by steps cuts a burst off exactly where it is completed,** if the timer does not refuse
a frequency before. -/
theorem steps_burst (ha : s.machine.axes[h]? = some a) (hp : a.Predictable)
    (hmode : a.mode = .steps) (hrun : a.isRunning = true) (served n : Nat) :
    ∃ b k, (s.burst h served n).1.machine.axes[h]? = some b
      ∧ (s.burst h served n).2 = served + k ∧ s.CutOff h a b n k := by
  induction n generalizing s a served with
  | zero => exact ⟨a, 0, ha, rfl, .whole rfl ⟨hmode, hrun⟩ rfl⟩
  | succ n ih =>
      have hmatch := hp.steps_match hmode s.nowMs
      obtain ⟨_, _, b, hb, hbeq, hkeeps⟩ := axis_match ha hrun
      -- what is filed about a report has no part in the move
      have hsame : b.mode = (a.tick s.nowMs).1.mode ∧ b.board = (a.tick s.nowMs).1.board
          ∧ b.stepsLeft = (a.tick s.nowMs).1.stepsLeft := by
        rw [hbeq]
        exact ⟨rfl, rfl, rfl⟩
      obtain ⟨hbmode, hboard, hbleft⟩ := hsame
      have hbrun : b.isRunning = (a.tick s.nowMs).1.isRunning := congrArg (·.timer.running) hboard
      have hbtoggles : b.board.toggles = (a.tick s.nowMs).1.board.toggles :=
        congrArg (·.toggles) hboard
      cases hmatch with
      | strides hstrides hleft =>
          obtain ⟨note?, hreply, hadvances⟩ := hstrides.advances hrun
          rw [burst_served ha hrun hreply]
          obtain ⟨c, k, hc, hcount, hcut⟩ := ih hb (hkeeps hp)
            (hbmode.trans (hstrides.mode.trans hmode)) (hbrun.trans hadvances.runs) (served + 1)
          refine ⟨c, k + 1, hc, by omega, hcut.later (by omega) ?_⟩
          rw [hbtoggles, hadvances.toggles]
      | completes hcompletes hleft =>
          obtain ⟨note, hreply, hkind, hends⟩ := hcompletes.ends
          have hrest : b.isRunning = false := hbrun.trans hends.rests
          have hreport := (serveMatch_of_running ha hrun hreply).2
          rw [burst_served ha hrun hreply, burst_rests hb hrest]
          refine ⟨b, 1, hb, rfl, ?_⟩
          have hcut := @CutOff.completed s h a b (n + 1) note (by omega)
            (by rw [hleft]; exact hreport) hkind ⟨hbmode.trans hcompletes.mode, hrest⟩
            (by rw [hbtoggles, hends.toggles, hleft]; rfl)
          rw [hleft] at hcut
          exact hcut
      | refused hreply hkind hstopped hstill htoggles hleft hwrites =>
          obtain ⟨hz, hwritten⟩ := hwrites
          have hrest : b.isRunning = false := hbrun.trans hstill
          have hreport := (serveMatch_of_running ha hrun hreply).2
          rw [burst_served ha hrun hreply, burst_rests hb hrest]
          refine ⟨b, 1, hb, rfl, ?_⟩
          exact @CutOff.refused s h a b (n + 1) 0 _ (by omega) hreport hkind
            ⟨hbmode.trans hstopped, hrest⟩ ⟨hz, _, (congrArg (·.timer.writes) hboard).trans hwritten⟩
            (hbtoggles.trans htoggles)

end Station

end StepperMotion
