import StepperMotion.Proofs.Launch

/-!
# What a timer match comes to

A match finds the axis at the end of its move, past its setpoint, or on its way. On its way the
frequency may have to be changed first, and the timer may refuse it. `Served` lists the five things
that can happen, with the axis that each of them leaves; all of them start from what `Axis.observe`
has seen. What the supervisor makes of the report of a match comes last.
-/

namespace StepperMotion

namespace Axis

/-- Looking at the encoder changes nothing but what is remembered of it. -/
theorem observe_eq (a : Axis) :
    ∃ lastDir halfPulses alreadyThere, a.observe = { a with
      posAct := a.board.position
      lastDir := lastDir
      halfPulses := halfPulses
      alreadyThere := alreadyThere } := by
  unfold observe noteDirection
  dsimp only
  split
  · exact ⟨_, _, _, rfl⟩
  · exact ⟨_, _, _, rfl⟩

def writtenTimer (t : Timer) (freq : Nat) : Timer :=
  if t.accepts freq then { t with freq := freq, writes := ⟨freq, true⟩ :: t.writes }
  else { t with writes := ⟨freq, false⟩ :: t.writes }

theorem writtenTimer_limit (t : Timer) (freq : Nat) : (writtenTimer t freq).limit = t.limit := by
  unfold writtenTimer
  split <;> rfl

theorem writtenTimer_running (t : Timer) (freq : Nat) :
    (writtenTimer t freq).running = t.running := by
  unfold writtenTimer
  split <;> rfl

theorem writtenTimer_writes (t : Timer) (freq : Nat) :
    (writtenTimer t freq).writes = ⟨freq, t.accepts freq⟩ :: t.writes := by
  unfold writtenTimer
  split
  · rename_i hacc
    rw [hacc]
  · rename_i hacc
    rw [eq_false_of_ne_true hacc]

/-- The axis with its ramp advanced and the new frequency written to the timer. -/
def ramped (a : Axis) (nowMs : Nat) : Axis :=
  { a with
    ramp := a.nextRamp nowMs
    board := { a.board with timer := writtenTimer a.board.timer (a.nextRamp nowMs).current } }

theorem advanceRamp_eq (a : Axis) (nowMs : Nat) :
    a.advanceRamp nowMs = if a.ramp.due nowMs then
        (a.ramped nowMs, a.board.timer.accepts (a.nextRamp nowMs).current)
      else (a, true) := by
  unfold advanceRamp
  split
  · dsimp only
    cases hacc : a.board.timer.accepts (a.nextRamp nowMs).current <;>
      simp [ramped, writtenTimer, Board.setFrequency, Timer.setFrequency, hacc]
  · rfl

/-- The axis after a half-step, with `n` of them counted since the last report. -/
def stepped (a : Axis) (n : Nat) : Axis :=
  { a with
    board := a.board.toggleStep
    halfStepsCompleted := Count.add a.halfStepsCompleted 1
    halfPulses := n }

/-- What becomes of the count since the last report at a half-step, and what is reported. -/
inductive Counts (a : Axis) : Nat → Except Fault (Option Notification) → Prop where
  | goesOn (h : a.halfPulses + 1 < a.config.reportInterval) :
      Counts a (a.halfPulses + 1) (.ok none)
  | reports : Counts a 0 (.ok (some (a.report .progress)))
  /-- The count is at the limit of counters. -/
  | fails {f : Fault} (h : Count.limit < a.halfPulses + 1) : Counts a a.halfPulses (.error f)

/-- A half-step reports progress at most. -/
theorem Counts.reply {a : Axis} {n : Nat} {r : Except Fault (Option Notification)}
    (h : a.Counts n r) :
    r = .ok none ∨ r = .ok (some (a.report .progress)) ∨ ∃ f, r = .error f := by
  cases h with
  | goesOn _ => exact Or.inl rfl
  | reports => exact Or.inr (Or.inl rfl)
  | fails _ => exact Or.inr (Or.inr ⟨_, rfl⟩)

/-- A half-step is made in any case; the count since the last report may fail. -/
theorem halfStep_cases (a : Axis) : ∃ n, a.halfStep.1 = a.stepped n ∧ a.Counts n a.halfStep.2 := by
  unfold halfStep Count.checkedAdd
  dsimp only
  by_cases hlimit : a.halfPulses + 1 ≤ Count.limit
  · rw [if_pos hlimit]
    dsimp only
    split
    · exact ⟨0, rfl, .reports⟩
    · rename_i hmore
      exact ⟨a.halfPulses + 1, rfl, .goesOn (Nat.not_le.mp hmore)⟩
  · rw [if_neg hlimit]
    exact ⟨a.halfPulses, rfl, .fails (Nat.not_le.mp hlimit)⟩

/-- What serving a timer match leaves behind, and what it reports. -/
inductive Served (a : Axis) (nowMs : Nat) : Axis → Except Fault (Option Notification) → Prop where
  | idle (hm : a.mode = .stopped) : Served a nowMs a (.ok none)
  | arrived (hm : a.mode ≠ .stopped) (hthere : a.observe.alreadyThere = true) :
      Served a nowMs a.observe.halt (.ok (some (a.observe.report .completed)))
  /-- The setpoint lies behind the axis. -/
  | overshot (hm : a.mode = .closedLoop) (hthere : a.observe.alreadyThere = false)
      (hover : a.observe.overshot = true) :
      Served a nowMs a.observe.stopTimer (.ok (some (a.observe.report .overshoot)))
  /-- The timer refused the next frequency. -/
  | refused (hm : a.mode ≠ .stopped) (hthere : a.observe.alreadyThere = false)
      (hover : a.observe.overshot = false) (hdue : a.ramp.due nowMs = true)
      (hacc : a.board.timer.accepts (a.observe.nextRamp nowMs).current = false) :
      Served a nowMs (a.observe.ramped nowMs).halt
        (.ok (some (a.observe.report .timerFault)))
  | stepped {b : Axis} {n : Nat} {r : Except Fault (Option Notification)} (hm : a.mode ≠ .stopped)
      (hthere : a.observe.alreadyThere = false) (hover : a.observe.overshot = false)
      (hb : (a.ramp.due nowMs = false ∧ b = a.observe) ∨ (a.ramp.due nowMs = true
        ∧ a.board.timer.accepts (a.observe.nextRamp nowMs).current = true
        ∧ b = a.observe.ramped nowMs))
      (hr : b.Counts n r) : Served a nowMs (b.stepped n) r

theorem halfStep_served {a b : Axis} {nowMs : Nat} (hm : a.mode ≠ .stopped)
    (hthere : a.observe.alreadyThere = false) (hover : a.observe.overshot = false)
    (hb : (a.ramp.due nowMs = false ∧ b = a.observe) ∨ (a.ramp.due nowMs = true
      ∧ a.board.timer.accepts (a.observe.nextRamp nowMs).current = true
      ∧ b = a.observe.ramped nowMs)) :
    Served a nowMs b.halfStep.1 b.halfStep.2 := by
  obtain ⟨n, h, hcounts⟩ := halfStep_cases b
  rw [h]
  exact .stepped hm hthere hover hb hcounts

theorem tick_stopped {a : Axis} (h : a.mode = .stopped) (nowMs : Nat) :
    a.tick nowMs = (a, .ok none) := by
  simp [tick, Mode.isMoving, h]

/-- **Everything that a timer match can come to.** -/
theorem tick_served (a : Axis) (nowMs : Nat) :
    Served a nowMs (a.tick nowMs).1 (a.tick nowMs).2 := by
  have hobs : a.observe.mode = a.mode ∧ a.observe.ramp = a.ramp
      ∧ a.observe.board.timer = a.board.timer := by
    obtain ⟨_, _, _, h⟩ := observe_eq a
    rw [h]
    exact ⟨rfl, rfl, rfl⟩
  -- the same questions in the same order as the match asks them
  by_cases hm : a.mode = .stopped
  · rw [tick_stopped hm]
    exact .idle hm
  · have hmove : a.mode.isMoving = true := by simp [Mode.isMoving, hm]
    rw [tick, if_pos hmove]
    dsimp only
    cases hthere : a.observe.alreadyThere with
    | true => exact .arrived hm hthere
    | false =>
        cases hover : a.observe.overshot with
        | true =>
            have hcl : a.observe.mode = .closedLoop := by
              simp only [overshot, Bool.and_eq_true, beq_iff_eq] at hover
              exact hover.1
            exact .overshot (hobs.1 ▸ hcl) hthere hover
        | false =>
            simp only [Bool.false_eq_true, if_false]
            rw [advance, advanceRamp_eq, hobs.2.1, hobs.2.2]
            cases hdue : a.ramp.due nowMs with
            | false => exact halfStep_served hm hthere hover (Or.inl ⟨hdue, rfl⟩)
            | true =>
                cases hacc : a.board.timer.accepts (a.observe.nextRamp nowMs).current with
                | false => exact .refused hm hthere hover hdue hacc
                | true => exact halfStep_served hm hthere hover (Or.inr ⟨hdue, hacc, rfl⟩)

/-! ## The report of a match -/

/-- **A report names the axis and its epoch, and a terminal one finds the timer stopped.** -/
theorem served_report {a b : Axis} {nowMs : Nat} {note : Notification}
    (h : Served a nowMs b (.ok (some note))) :
    note.handle = a.handle ∧ note.epoch = a.epoch
      ∧ (note.kind.isTerminal = true → b.isRunning = false) := by
  obtain ⟨_, _, _, hobs⟩ := observe_eq a
  have hlook : a.observe.handle = a.handle ∧ a.observe.epoch = a.epoch := by
    rw [hobs]
    exact ⟨rfl, rfl⟩
  generalize hr : Except.ok (some note) = r at h
  cases h with
  | idle _ => exact absurd hr (by simp)
  | arrived _ _ =>
      obtain rfl := Option.some.inj (Except.ok.inj hr)
      exact ⟨hlook.1, hlook.2, fun _ => rfl⟩
  | overshot _ _ _ =>
      obtain rfl := Option.some.inj (Except.ok.inj hr)
      exact ⟨hlook.1, hlook.2, fun _ => rfl⟩
  | refused _ _ _ _ _ =>
      obtain rfl := Option.some.inj (Except.ok.inj hr)
      exact ⟨hlook.1, hlook.2, fun _ => rfl⟩
  | @stepped b n _ _ _ _ hb hreply =>
      rcases hreply.reply with rfl | rfl | ⟨f, rfl⟩
      · exact absurd hr (by simp)
      · -- progress was made, and the timer runs on
        obtain rfl := Option.some.inj (Except.ok.inj hr)
        rcases hb with ⟨_, rfl⟩ | ⟨_, _, rfl⟩ <;>
          exact ⟨hlook.1, hlook.2, fun hk => absurd hk (by simp [report, NotificationKind.isTerminal])⟩
      · exact absurd hr (by simp)

/-- **A report leaves an axis as it was, or trips it, apart from what it remembers for the next
report.** -/
theorem inspect_cases (a : Axis) (note : Notification) :
    ∃ b lastPos stalledCount,
      (b = a ∨ b = a.tripStall) ∧
      (a.inspect note).1 = { b with lastPos := lastPos, stalledCount := stalledCount } := by
  unfold inspect
  split
  · cases note.kind with
    | progress =>
        simp only [watchProgress]
        split
        · split
          · exact ⟨_, _, _, Or.inr rfl, rfl⟩
          · exact ⟨_, _, _, Or.inl rfl, rfl⟩
        · exact ⟨_, _, _, Or.inl rfl, rfl⟩
    | completed => exact ⟨_, _, _, Or.inl rfl, rfl⟩
    | overshoot => exact ⟨_, _, _, Or.inl rfl, rfl⟩
    | timerFault => exact ⟨_, _, _, Or.inl rfl, rfl⟩
  · exact ⟨_, _, _, Or.inl rfl, rfl⟩

end Axis

end StepperMotion
