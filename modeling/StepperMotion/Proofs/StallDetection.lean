import StepperMotion.Proofs.Limits
import StepperMotion.Proofs.Records
import StepperMotion.Proofs.StallCount

/-!
# A blocked motor is found, and no other

A move is watched if every report of its progress is judged before the next timer match. It reports
after every `reportInterval` half-steps, and each report shows where the shaft was before the last of
them. So the first report is about one half-step less than the later ones, and by then the shaft has
gone at least `(reportInterval - 1) / 2` positions if it turns at all. If it does not, every report is
a sign of a stall, and the last one that is needed comes with half-step number `stallMaxCount *
reportInterval`.

The invariant of the move is `OnWay`, which is `Strode` with a pulse: how many half-steps there were
since the last report, where the shaft was then, and how many signs have been counted. `OnWay.round`
says what one more match makes of it.
-/

namespace StepperMotion

/-! ## Distances on an encoder that wraps around -/

/-- Half of the half-steps between two of them are rising edges, up to one. -/
theorem risen_between (level : Bool) {n m : Nat} (h : m ≤ n) :
    risen level m + (n - m) / 2 ≤ risen level n
      ∧ risen level n ≤ risen level m + (n - m + 1) / 2 := by
  unfold risen
  split <;> omega

namespace Position

theorem wrap_eq (x : Int) :
    ∃ q, wrap x = x + 4294967296 * q ∧ lowest ≤ wrap x ∧ wrap x ≤ highest := by
  unfold wrap lowest highest
  rw [Int.bmod_def]
  split
  · exact ⟨-(x / 4294967296), by omega, by omega, by omega⟩
  · exact ⟨-(x / 4294967296) - 1, by omega, by omega, by omega⟩

/-- **Counts that are no more than half of what the encoder can show are a distance on it,** also
when it has wrapped around in between. -/
theorem le_distance {start threshold : Int} {d : Direction} {n m : Nat} (hfits : threshold ≤ highest)
    (hfar : m + threshold ≤ n) (hmax : n ≤ m + 2147483648) :
    threshold ≤ abs (sub (wrap (start + d.unit * n)) (wrap (start + d.unit * m))) := by
  obtain ⟨q, hq, hlow, hhigh⟩ := wrap_eq (start + d.unit * n)
  obtain ⟨p, hp, hlow', hhigh'⟩ := wrap_eq (start + d.unit * m)
  generalize wrap (start + d.unit * n) = x at *
  generalize wrap (start + d.unit * m) = y at *
  unfold abs sub clamp
  unfold lowest highest at *
  cases d with
  | clockwise =>
      simp only [Direction.unit] at hq hp
      omega
  | counterClockwise =>
      simp only [Direction.unit] at hq hp
      omega

end Position

/-- A shaft that is blocked stays where it is. -/
theorem Board.toggleStep_frozen {b : Board} (h : b.frozen = true) :
    b.toggleStep.position = b.position := by
  simp [toggleStep, setStep, h]

/-- One more pulse of so many that make up a period. -/
theorem next_pulse {period : Nat} (hpos : 0 < period) (k : Nat) :
    (period ≤ k % period + 1 ∧ (k + 1) % period = 0 ∧ (k + 1) / period = k / period + 1
        ∧ k + 1 = (k / period + 1) * period)
      ∨ (k % period + 1 < period ∧ (k + 1) % period = k % period + 1
        ∧ (k + 1) / period = k / period) := by
  have hsplit := Nat.div_add_mod k period
  have hbelow := Nat.mod_lt k hpos
  rcases Nat.lt_or_ge (k % period + 1) period with hmore | hdue
  · have hnext : k % period + 1 + period * (k / period) = k + 1 := by omega
    obtain ⟨hdiv, hmod⟩ := (Nat.div_mod_unique hpos).mpr ⟨hnext, hmore⟩
    exact Or.inr ⟨hmore, hmod, hdiv⟩
  · have hfull : k + 1 = (k / period + 1) * period := by
      rw [Nat.add_mul, Nat.one_mul, Nat.mul_comm]
      omega
    refine Or.inl ⟨hdue, ?_, ?_, hfull⟩
    · rw [hfull, Nat.mul_mod_left]
    · rw [hfull, Nat.mul_div_cancel _ hpos]

/-- The figures of a configuration that looks for stalls. They are of the types of their fields, it
takes one sign of a stall at least, and a shaft that does not turn at all gives one. -/
structure MotionConfig.Watches (config : MotionConfig) : Prop where
  on : config.stallDetection = true
  count : 1 ≤ config.stallMaxCount ∧ config.stallMaxCount ≤ Count.limit
  threshold : 1 ≤ config.stallThreshold ∧ config.stallThreshold ≤ Position.highest
  interval : config.reportInterval ≤ Count.limit

namespace Axis

/-! ## One timer match, and its report -/

/-- The report of a timer match, if there is one. -/
def reported : Except Fault (Option Notification) → Option Notification
  | .ok note? => note?
  | .error _ => none

/-- A timer match and the judgement of its report, which may wait if it is not about progress and
nobody has `heeded` it. -/
def attend (a : Axis) (nowMs : Nat) (heeded : Bool) : Axis × Option Verdict :=
  match reported (a.tick nowMs).2 with
  | some note =>
    if note.kind = .progress ∨ heeded = true then
      (((a.tick nowMs).1.inspect note).1, some ((a.tick nowMs).1.inspect note).2)
    else ((a.tick nowMs).1, none)
  | none => ((a.tick nowMs).1, none)

/-- The move of an axis is over, or it waits to be turned back. -/
def Over (a : Axis) : Prop := a.mode = .stopped ∨ a.sense.overshot = true

/-- A timer match has made no half-step. -/
structure Ceases (a b : Axis) (r : Except Fault (Option Notification)) : Prop where
  isOver : b.Over
  toggles : b.board.toggles = a.board.toggles
  terminal : ∀ note, reported r = some note → note.kind ≠ .progress
  /-- A move that has not passed its setpoint is at its end, or the timer has refused a frequency. -/
  ended : a.mode ≠ .stopped → a.sense.overshot = false →
    ∃ note, reported r = some note ∧ (note.kind = .completed ∨ note.kind = .timerFault)

/-- A timer match has made a half-step, and has reported it if it was time for that. -/
structure Beats (a b : Axis) (r : Except Fault (Option Notification)) : Prop
    extends a.Strides b r where
  epoch : b.epoch = a.epoch
  lastPos : b.lastPos = a.lastPos
  stalledCount : b.stalledCount = a.stalledCount
  beat : b.pulses = if a.config.reportInterval ≤ a.pulses + 1 then 0 else a.pulses + 1
  /-- The report shows where the shaft was before the half-step. -/
  told : reported r = if a.config.reportInterval ≤ a.pulses + 1
    then some (a.sense.report .progress) else none

variable {a b c : Axis} {nowMs k : Nat} {heeded : Bool}

theorem observe_exact (a : Axis) : a.observe = { a with
    posAct := a.board.position
    lastDir := a.dir
    halfPulses := a.pulses
    alreadyThere := a.sense.arrived } := by
  show ({ a.sense.noteDirection with alreadyThere := a.sense.noteDirection.arrived } : Axis) = _
  rw [noteDirection_eq]
  rfl

/-- A match on the way is the half-step of the axis that was looked at, with another ramp if it was
time for one. -/
theorem tick_halfStep (hm : a.mode ≠ .stopped) (hthere : a.observe.alreadyThere = false)
    (hover : a.observe.overshot = false)
    (hb : (a.ramp.due nowMs = false ∧ b = a.observe) ∨ (a.ramp.due nowMs = true
      ∧ a.board.timer.accepts (a.observe.nextRamp nowMs).current = true
      ∧ b = a.observe.ramped nowMs)) : a.tick nowMs = b.halfStep := by
  have hmove : a.mode.isMoving = true := by simp [Mode.isMoving, hm]
  have hramp : a.observe.ramp = a.ramp := by rw [observe_exact]
  rw [tick, if_pos hmove]
  simp only [hthere, hover, Bool.false_eq_true, if_false]
  rw [advance, advanceRamp_eq, hramp, observe_board]
  rcases hb with ⟨hdue, rfl⟩ | ⟨hdue, hacc, rfl⟩
  · rw [hdue]
    rfl
  · rw [hdue, hacc]
    rfl

theorem halfStep_eq (hroom : a.halfPulses + 1 ≤ Count.limit) :
    a.halfStep = if a.config.reportInterval ≤ a.halfPulses + 1
      then (a.stepped 0, .ok (some (a.report .progress)))
      else (a.stepped (a.halfPulses + 1), .ok none) := by
  unfold halfStep Count.checkedAdd
  dsimp only
  rw [if_pos hroom]
  rfl

/-- The half-step of an axis that was looked at keeps the beat of the reports. -/
theorem beats_stepped {ramp : Ramp} {timer : Timer} {n : Nat} {note? : Option Notification}
    (hrunning : timer.running = a.isRunning)
    (hn : n = if a.config.reportInterval ≤ a.pulses + 1 then 0 else a.pulses + 1)
    (hnote : note? = if a.config.reportInterval ≤ a.pulses + 1
      then some (a.sense.report .progress) else none) :
    a.Beats (({ a.observe with
      ramp := ramp, board := { a.board with timer := timer } } : Axis).stepped n) (.ok note?) := by
  have hfewer := a.pulses_le
  have hcount : n ≤ a.halfPulses + 1 := by
    split at hn <;> omega
  have hprogress : ∀ note, note? = some note → note.kind = .progress := by
    intro note h
    split at hnote
    · rw [hnote] at h
      exact Option.some.inj h ▸ rfl
    · exact absurd (hnote.symm.trans h) (by simp)
  rw [observe_exact]
  exact {
    board := ⟨timer, rfl⟩
    runs := hrunning
    config := rfl
    mode := rfl
    dir := rfl
    posCmd := rfl
    requested := rfl
    completed := rfl
    pulses := hcount
    report := ⟨note?, rfl, hprogress⟩
    epoch := rfl
    lastPos := rfl
    stalledCount := rfl
    beat := (if_pos rfl).trans hn
    told := hnote }

/-- **A timer match makes no half-step, or it makes one and the move was not over.** -/
theorem tick_ceases_or_steps (a : Axis) (nowMs : Nat) :
    a.Ceases (a.tick nowMs).1 (a.tick nowMs).2
      ∨ (¬ a.Over ∧ ∃ ramp timer, timer.running = a.isRunning ∧ a.tick nowMs
        = ({ a.observe with ramp := ramp, board := { a.board with timer := timer } } :
          Axis).halfStep) := by
  have hserved := tick_served a nowMs
  generalize hb : (a.tick nowMs).1 = b at hserved ⊢
  generalize hr : (a.tick nowMs).2 = r at hserved ⊢
  cases hserved with
  | idle hm =>
      exact Or.inl ⟨Or.inl hm, rfl, by simp [reported], fun hmove => absurd hm hmove⟩
  | arrived _ _ =>
      refine Or.inl ⟨Or.inl rfl, by rw [observe_exact]; rfl, ?_, fun _ _ => ⟨_, rfl, Or.inl rfl⟩⟩
      rintro note ⟨⟩
      simp [report]
  | overshot _ _ hover =>
      rw [observe_overshot] at hover
      refine Or.inl ⟨Or.inr ?_, by rw [observe_exact]; rfl, ?_, fun _ hahead => ?_⟩
      · rw [observe_exact]
        exact hover
      · rintro note ⟨⟩
        simp [report]
      · exact absurd (hover.symm.trans hahead) (by simp)
  | refused _ _ _ _ _ =>
      refine Or.inl ⟨Or.inl rfl, by rw [observe_exact]; rfl, ?_, fun _ _ => ⟨_, rfl, Or.inr rfl⟩⟩
      rintro note ⟨⟩
      simp [report]
  | stepped hm hthere hover hstep _ =>
      have heq := tick_halfStep hm hthere hover hstep
      obtain ⟨ramp, timer, hrunning, rfl⟩ := stepping_frame hstep
      refine Or.inr ⟨?_, ramp, timer, hrunning, heq⟩
      rintro (hstopped | hback)
      · exact hm hstopped
      · exact absurd (hback.symm.trans ((observe_overshot a).symm.trans hover)) (by simp)

/-- **A match that makes a half-step keeps the beat of the reports.** -/
theorem tick_ceases_or_beats (nowMs : Nat) (hroom : a.pulses + 1 ≤ Count.limit) :
    a.Ceases (a.tick nowMs).1 (a.tick nowMs).2 ∨ a.Beats (a.tick nowMs).1 (a.tick nowMs).2 := by
  rcases tick_ceases_or_steps a nowMs with hceases | ⟨_, ramp, timer, hrunning, heq⟩
  · exact Or.inl hceases
  · right
    rw [heq]
    generalize hb : ({ a.observe with ramp := ramp, board := { a.board with timer := timer } } : Axis)
      = b
    have hlook : b.halfPulses = a.pulses ∧ b.config = a.config
        ∧ b.report .progress = a.sense.report .progress := by
      rw [← hb, observe_exact]
      exact ⟨rfl, rfl, rfl⟩
    obtain ⟨hpulses, hconfig, hreport⟩ := hlook
    rw [halfStep_eq (hpulses.symm ▸ hroom), hpulses, hconfig, hreport, ← hb]
    split
    · rename_i hdue
      exact beats_stepped hrunning (if_pos hdue).symm (if_pos hdue).symm
    · rename_i hmore
      exact beats_stepped hrunning (if_neg hmore).symm (if_neg hmore).symm

/-! ## Judging the report of a match -/

/-- An axis that has come to rest stays there, whatever is made of its report. -/
theorem Ceases.attend (h : a.Ceases (a.tick nowMs).1 (a.tick nowMs).2) (heeded : Bool) :
    (a.attend nowMs heeded).1.Over ∧ (a.attend nowMs heeded).1.board.toggles = a.board.toggles
      ∧ (a.attend nowMs heeded).2 ≠ some .stalled := by
  have hleft : (a.tick nowMs).1.Over ∧ (a.tick nowMs).1.board.toggles = a.board.toggles
      ∧ none ≠ some Verdict.stalled := ⟨h.isOver, h.toggles, by simp⟩
  unfold Axis.attend
  split
  · rename_i note hnote
    split
    · -- a report that is not about progress does not count
      obtain ⟨hverdict, heq⟩ := inspect_uncounted
        (fun hcounted : note.Counted (a.tick nowMs).1 => h.terminal note hnote hcounted.1)
      rw [heq]
      exact ⟨h.isOver, h.toggles, by simpa using hverdict⟩
    · exact hleft
  · exact hleft

theorem Over.attend (h : a.Over) (nowMs : Nat) (heeded : Bool) :
    (a.attend nowMs heeded).1.Over ∧ (a.attend nowMs heeded).1.board.toggles = a.board.toggles
      ∧ (a.attend nowMs heeded).2 ≠ some .stalled := by
  rcases tick_ceases_or_steps a nowMs with hceases | ⟨hnot, _⟩
  · exact hceases.attend heeded
  · exact absurd h hnot

/-- Judging reports is all that gives an axis the mark of a stall. -/
theorem marked_of_attend (h : (a.attend nowMs heeded).1.stalled = true) :
    a.stalled = true ∨ (a.attend nowMs heeded).2 = some .stalled := by
  have htick : (a.tick nowMs).1.stalled = a.stalled := (records_served (tick_served a nowMs)).stalled
  unfold attend at h ⊢
  split at h
  · rename_i note hnote
    split at h
    · rename_i hjudged
      rcases inspect_stall (a.tick nowMs).1 note with ⟨hverdict, _⟩ | ⟨_, hsame⟩
      · right
        simp only [if_pos hjudged, hverdict]
      · exact Or.inl (htick.symm.trans (hsame.symm.trans h))
    · exact Or.inl (htick.symm.trans h)
  · exact Or.inl (htick.symm.trans h)

/-! ## The start of a move -/

/-- What a move begins with that was started on an axis without signs of a stall. -/
structure MoveBegun (a b : Axis) : Prop where
  moving : b.mode ≠ .stopped
  runs : b.isRunning = true
  level : b.board.dirLevel = b.dir.level
  config : b.config = a.config
  pulses : b.pulses = 0
  lastPos : b.lastPos = b.board.position
  stalledCount : b.stalledCount = 0
  stalled : b.stalled = false
  /-- The move does not begin behind its setpoint. -/
  ahead : b.sense.overshot = false
  position : b.board.position = a.board.position
  frozen : b.board.frozen = a.board.frozen

/-- A closed-loop move is planned to face its setpoint. -/
theorem Plans.ahead {c : Command} {p : Plan} (h : a.Plans nowMs c p) :
    (a.setUp p).sense.overshot = false := by
  cases h with
  | freeRun _ => rfl
  | steps _ => rfl
  | closedLoop _ =>
      rename_i setpoint _
      show (true && Direction.ofError (Position.sub setpoint a.board.position)
        != Direction.ofError (Position.sub setpoint a.board.position)) = false
      rw [bne_self_eq_false, Bool.and_false]

/-- **A move that has been started has no past:** nothing counts that was seen before. -/
theorem move_begun {c : Command} {freq : Nat}
    (hstarted : (a.clearFaults.apply c nowMs).answer = .ok (.started freq)) :
    a.MoveBegun (a.clearFaults.apply c nowMs).axis := by
  rcases apply_cases a.clearFaults c nowMs with ⟨e, _, heq⟩ | ⟨_, hcarried⟩
  · rw [heq] at hstarted
    exact absurd hstarted (by simp)
  · generalize (a.clearFaults.apply c nowMs).axis = b at hcarried ⊢
    generalize (a.clearFaults.apply c nowMs).answer = r at hcarried hstarted
    cases hcarried with
    | @launched p line hp _ =>
        rcases launch_cases (a.clearFaults.setUp p).nextEpoch p.ramp.current line with
          ⟨_, h, _⟩ | ⟨_, _, h, _⟩ | ⟨_, _, _, hax⟩
        · exact absurd (hstarted.symm.trans h) (by simp)
        · exact absurd (hstarted.symm.trans h) (by simp)
        · have hnone := ((a.clearFaults.setUp p).nextEpoch).pulses_le
          rw [hax]
          exact {
            moving := plans_moving hp
            runs := rfl
            level := rfl
            config := rfl
            pulses := Nat.le_zero.mp hnone
            lastPos := rfl
            stalledCount := rfl
            stalled := rfl
            ahead := hp.ahead
            position := rfl
            frozen := rfl }
    | failed _ _ _ => exact absurd hstarted (by simp)
    | arrived _ _ => exact absurd hstarted (by simp)
    | stopped _ =>
        rcases stop_cases a.clearFaults with ⟨_, _, h⟩ | ⟨_, _, h⟩ <;>
          exact absurd hstarted (by simp [h])

/-! ## The move under watch -/

/-- Where the shaft is after so many half-steps of a move. -/
def shaftAt (b : Axis) (n : Nat) : Int :=
  if b.board.frozen then b.board.position
  else Position.wrap (b.board.position + b.dir.unit * risen b.board.stepLevel n)

/-- The shaft turns if it is free, and far enough to be told from one that is blocked. -/
def Lively (b : Axis) : Prop :=
  b.board.frozen = false → b.config.stallThreshold ≤ ((b.config.reportInterval - 1) / 2 : Nat)

/-- A move under watch that has made so many half-steps and goes on. -/
structure OnWay (b c : Axis) (k : Nat) : Prop extends b.Strode c k where
  still : b.board.frozen = true → c.board.position = b.board.position
  /-- So many half-steps since the last report. -/
  beat : c.pulses = k % b.config.reportInterval
  /-- The last report was made before the last of its half-steps. -/
  lastPos : c.lastPos = b.shaftAt (k / b.config.reportInterval * b.config.reportInterval - 1)
  /-- If the shaft is blocked, every report was a sign of that. -/
  count : c.stalledCount = if b.board.frozen then k / b.config.reportInterval else 0
  /-- It has not been tripped. -/
  early : b.board.frozen = true → k < b.config.stallMaxCount * b.config.reportInterval

/-- What a move has to be like for a blocked motor to be told from one that turns. -/
structure Watchable (b : Axis) : Prop where
  moving : b.mode ≠ .stopped
  watches : b.config.Watches
  interval : 0 < b.config.reportInterval
  range : Position.lowest ≤ b.board.position ∧ b.board.position ≤ Position.highest
  lively : b.Lively

theorem onWay_start {before : Axis} (h : before.MoveBegun b) (hb : b.Watchable) : b.OnWay b 0 where
  toStrode := strode_none h.runs h.level
  still _ := rfl
  beat := by rw [h.pulses, Nat.zero_mod]
  lastPos := by
    rw [h.lastPos, shaftAt, Nat.zero_div, Nat.zero_mul, risen_zero]
    split
    · rfl
    · rw [Int.natCast_zero, Int.mul_zero, Int.add_zero,
        Position.wrap_of_mem hb.range.1 hb.range.2]
  count := by rw [h.stalledCount, Nat.zero_div, ite_self]
  early _ := Nat.mul_pos hb.watches.count.1 hb.interval

theorem OnWay.position (h : b.OnWay c k) (hb : b.Watchable) :
    c.board.position = b.shaftAt k := by
  unfold shaftAt
  cases hfrozen : b.board.frozen with
  | true => exact h.still hfrozen
  | false => exact h.board.position hfrozen (Position.wrap_of_mem hb.range.1 hb.range.2)

/-- A blocked motor does not pass its setpoint. -/
theorem OnWay.ahead (h : b.OnWay c k) (hfrozen : b.board.frozen = true)
    (hahead : b.sense.overshot = false) : c.sense.overshot = false := by
  have hsame : c.sense.overshot = b.sense.overshot := by
    unfold Axis.overshot positionError sense
    simp only [h.mode, h.dir, h.posCmd, h.still hfrozen]
  exact hsame.trans hahead

/-- A report that is due is a sign of a stall if and only if the shaft is blocked. -/
theorem low_of_due (hb : b.Watchable)
    (hdue : k + 1 = (k / b.config.reportInterval + 1) * b.config.reportInterval) :
    Position.abs (Position.sub (b.shaftAt k)
        (b.shaftAt (k / b.config.reportInterval * b.config.reportInterval - 1)))
      < b.config.stallThreshold ↔ b.board.frozen = true := by
  obtain ⟨hpositive, hfits⟩ := hb.watches.threshold
  have hinterval := hb.watches.interval
  rw [Nat.add_mul, Nat.one_mul] at hdue
  generalize k / b.config.reportInterval * b.config.reportInterval = reports at hdue ⊢
  unfold shaftAt
  cases hfrozen : b.board.frozen with
  | true =>
      simp only [if_true, iff_true]
      have hsame : Position.abs (Position.sub b.board.position b.board.position) = 0 := by
        unfold Position.abs Position.sub Position.clamp Position.lowest Position.highest
        omega
      omega
  | false =>
      simp only [Bool.false_eq_true, if_false, iff_false, Int.not_lt]
      have hmoves := hb.lively hfrozen
      obtain ⟨hlow, hhigh⟩ := risen_between b.board.stepLevel (show reports - 1 ≤ k by omega)
      unfold Count.limit at hinterval
      have hfar : (risen b.board.stepLevel (reports - 1) : Int) + b.config.stallThreshold
          ≤ risen b.board.stepLevel k := by omega
      have hnear : risen b.board.stepLevel k
          ≤ risen b.board.stepLevel (reports - 1) + 2147483648 := by omega
      exact Position.le_distance hfits hfar (by omega)

/-- What one more match and the judgement of its report make of a move that is on its way. -/
inductive Round (b c : Axis) (k nowMs : Nat) (d : Axis) (v : Option Verdict) : Prop where
  /-- The match has made no half-step. -/
  | ends (hover : d.Over) (htoggles : d.board.toggles = c.board.toggles)
      (hverdict : v ≠ some .stalled)
      (hended : c.sense.overshot = false → ∃ note, reported (c.tick nowMs).2 = some note
        ∧ (note.kind = .completed ∨ note.kind = .timerFault))
  | goesOn (honway : b.OnWay d (k + 1)) (hverdict : v ≠ some .stalled)
  /-- The report of the match was the last sign that was needed. -/
  | trips (hfrozen : b.board.frozen = true)
      (hlast : k + 1 = b.config.stallMaxCount * b.config.reportInterval)
      (htoggles : d.board.toggles = c.board.toggles + 1) (hverdict : v = some .stalled)
      (hmode : d.mode = .stopped) (hrest : d.isRunning = false) (hmark : d.stalled = true)

theorem OnWay.still_beats {d : Axis} {r : Except Fault (Option Notification)} (h : b.OnWay c k)
    (hbeats : c.Beats d r) (hfrozen : b.board.frozen = true) :
    d.board.position = b.board.position := by
  obtain ⟨timer, hboard⟩ := hbeats.board
  have hblocked : c.board.frozen = true := h.board.frozen.trans hfrozen
  rw [hboard]
  exact (Board.toggleStep_frozen hblocked).trans (h.still hfrozen)

/-- A half-step after which no report is due. -/
theorem OnWay.beats_on {d : Axis} {r : Except Fault (Option Notification)} (h : b.OnWay c k)
    (hbeats : c.Beats d r) (hmore : k % b.config.reportInterval + 1 < b.config.reportInterval)
    (hmod : (k + 1) % b.config.reportInterval = k % b.config.reportInterval + 1)
    (hdiv : (k + 1) / b.config.reportInterval = k / b.config.reportInterval) :
    b.OnWay d (k + 1) where
  toStrode := h.toStrode.stride hbeats.toStrides
  still := h.still_beats hbeats
  beat := by rw [hbeats.beat, h.config, h.beat, if_neg (Nat.not_le.mpr hmore), hmod]
  lastPos := by rw [hbeats.lastPos, h.lastPos, hdiv]
  count := by rw [hbeats.stalledCount, h.count, hdiv]
  early hfrozen := by
    have hbefore := h.early hfrozen
    refine Nat.lt_of_le_of_ne hbefore fun hlast => ?_
    rw [hlast, Nat.mul_mod_left] at hmod
    omega

/-- A report that is due counts as a sign if the shaft is blocked. -/
theorem OnWay.countAfter_due {d : Axis} {r : Except Fault (Option Notification)} (h : b.OnWay c k)
    (hb : b.Watchable) (hbeats : c.Beats d r)
    (hdue : k + 1 = (k / b.config.reportInterval + 1) * b.config.reportInterval) :
    d.countAfter (c.sense.report .progress)
      = if b.board.frozen then k / b.config.reportInterval + 1 else 0 := by
  have hlow : Notification.Low (c.sense.report .progress) d d.lastPos ↔ b.board.frozen = true := by
    show Position.abs (Position.sub c.board.position d.lastPos) < d.config.stallThreshold ↔ _
    rw [hbeats.config, h.config, hbeats.lastPos, h.lastPos, h.position hb]
    exact low_of_due hb hdue
  rw [countAfter, hbeats.stalledCount, h.count]
  cases hfrozen : b.board.frozen with
  | true =>
      rw [if_pos (hlow.mpr hfrozen), if_pos rfl, if_pos rfl, Count.add]
      -- the count is far from its limit, for the axis has not been tripped yet
      have hfew : k / b.config.reportInterval < b.config.stallMaxCount :=
        (Nat.div_lt_iff_lt_mul hb.interval).mpr (h.early hfrozen)
      have hfits := hb.watches.count.2
      omega
  | false =>
      have hnot := mt hlow.mp (by rw [hfrozen]; exact Bool.false_ne_true)
      rw [if_neg hnot, if_neg Bool.false_ne_true]

/-- A report of progress is judged at once. -/
theorem attend_progress {note : Notification} (htold : reported (a.tick nowMs).2 = some note)
    (hk : note.kind = .progress) : a.attend nowMs heeded
      = (((a.tick nowMs).1.inspect note).1, some ((a.tick nowMs).1.inspect note).2) := by
  rw [attend, htold]
  exact if_pos (Or.inl hk)

/-- There are never more signs of a stall than are needed, and only a blocked shaft gives them. -/
theorem OnWay.last_sign (h : b.OnWay c k) (hb : b.Watchable)
    (hdue : k + 1 = (k / b.config.reportInterval + 1) * b.config.reportInterval)
    (hmax : b.config.stallMaxCount
      ≤ if b.board.frozen then k / b.config.reportInterval + 1 else 0) :
    b.board.frozen = true ∧ b.config.stallMaxCount = k / b.config.reportInterval + 1 := by
  have hfrozen : b.board.frozen = true := by
    by_contra hfree
    rw [if_neg hfree] at hmax
    have hone := hb.watches.count.1
    omega
  rw [if_pos hfrozen] at hmax
  have hearly : (k / b.config.reportInterval + 1) * b.config.reportInterval
      ≤ b.config.stallMaxCount * b.config.reportInterval := hdue ▸ h.early hfrozen
  exact ⟨hfrozen, Nat.le_antisymm hmax (Nat.le_of_mul_le_mul_right hearly hb.interval)⟩

/-- A half-step after which a report is due, and its judgement. -/
theorem OnWay.round_due (h : b.OnWay c k) (hb : b.Watchable)
    (hbeats : c.Beats (c.tick nowMs).1 (c.tick nowMs).2)
    (hbeat : b.config.reportInterval ≤ k % b.config.reportInterval + 1)
    (hmod : (k + 1) % b.config.reportInterval = 0)
    (hdiv : (k + 1) / b.config.reportInterval = k / b.config.reportInterval + 1)
    (hdue : k + 1 = (k / b.config.reportInterval + 1) * b.config.reportInterval) :
    b.Round c k nowMs (c.attend nowMs heeded).1 (c.attend nowMs heeded).2 := by
  have hconfig : (c.tick nowMs).1.config = b.config := hbeats.config.trans h.config
  have htold : reported (c.tick nowMs).2 = some (c.sense.report .progress) := by
    rw [hbeats.told, h.config, h.beat, if_pos hbeat]
  have hcounted : Notification.Counted (c.sense.report .progress)
      (c.tick nowMs).1 :=
    ⟨rfl, hbeats.epoch.symm, (hbeats.mode.trans h.mode).symm ▸ hb.moving⟩
  have hstrode := h.toStrode.stride hbeats.toStrides
  have hstill := h.still_beats hbeats
  have hcount := h.countAfter_due hb hbeats hdue
  have henough : (c.tick nowMs).1.config.stallMaxCount = b.config.stallMaxCount := by rw [hconfig]
  rw [attend_progress htold rfl, inspect_counted (hconfig.symm ▸ hb.watches.on) hcounted, hcount, henough]
  by_cases hmax : b.config.stallMaxCount
      ≤ if b.board.frozen then k / b.config.reportInterval + 1 else 0
  · rw [if_pos hmax]
    obtain ⟨hfrozen, hlast⟩ := h.last_sign hb hdue hmax
    refine .trips hfrozen (by rw [hlast]; exact hdue) ?_ rfl rfl rfl rfl
    exact hstrode.board.toggles.trans (by rw [h.board.toggles, Nat.add_assoc])
  · rw [if_neg hmax]
    refine .goesOn ?_ (by simp)
    exact { hstrode with
      still := hstill
      beat := by
        show (c.tick nowMs).1.pulses = _
        rw [hbeats.beat, h.config, h.beat, if_pos hbeat, hmod]
      lastPos := by
        show c.board.position = _
        rw [h.position hb, hdiv, ← hdue, Nat.add_sub_cancel]
      count := by
        rw [hdiv]
      early := by
        intro hfrozen
        rw [if_pos hfrozen, Nat.not_le] at hmax
        rw [hdue]
        exact Nat.mul_lt_mul_of_pos_right hmax hb.interval }

/-- **One more match of a move that is on its way** leaves it there, or ends it, or trips the axis at
the half-step that was asked for. -/
theorem OnWay.round (h : b.OnWay c k) (hb : b.Watchable) (nowMs : Nat) (heeded : Bool) :
    b.Round c k nowMs (c.attend nowMs heeded).1 (c.attend nowMs heeded).2 := by
  have hroom : c.pulses + 1 ≤ Count.limit := by
    have hbelow := Nat.mod_lt k hb.interval
    have hfits := hb.watches.interval
    rw [h.beat]
    omega
  rcases tick_ceases_or_beats nowMs hroom with hceases | hbeats
  · obtain ⟨hover, htoggles, hverdict⟩ := hceases.attend heeded
    exact .ends hover htoggles hverdict (hceases.ended (h.mode.symm ▸ hb.moving))
  · rcases next_pulse hb.interval k with ⟨hbeat, hmod, hdiv, hdue⟩ | ⟨hmore, hmod, hdiv⟩
    · exact h.round_due hb hbeats hbeat hmod hdiv hdue
    · have htold : reported (c.tick nowMs).2 = none := by
        rw [hbeats.told, h.config, h.beat, if_neg (Nat.not_le.mpr hmore)]
      have hattend : c.attend nowMs heeded = ((c.tick nowMs).1, none) := by
        rw [attend, htold]
      rw [hattend]
      exact .goesOn (h.beats_on hbeats hmore hmod hdiv) (by simp)

/-! ## A whole move -/

/-- An axis after so many rounds. -/
def attended (b : Axis) (times : Nat → Nat) (heeds : Nat → Bool) : Nat → Axis
  | 0 => b
  | k + 1 => ((b.attended times heeds k).attend (times k) (heeds k)).1

/-- What is made of the report of a round, if there is one and it is judged. -/
def verdictAt (b : Axis) (times : Nat → Nat) (heeds : Nat → Bool) (k : Nat) : Option Verdict :=
  ((b.attended times heeds k).attend (times k) (heeds k)).2

/-- A round makes a half-step, and that is half-step number `n` of the move. -/
def HalfStepAt (b : Axis) (times : Nat → Nat) (heeds : Nat → Bool) (k n : Nat) : Prop :=
  (b.attended times heeds (k + 1)).board.toggles = (b.attended times heeds k).board.toggles + 1
    ∧ (b.attended times heeds (k + 1)).board.toggles = b.board.toggles + n

/-- A round finds the move at its end, or the timer refuses a frequency. -/
def EndsAt (b : Axis) (times : Nat → Nat) (heeds : Nat → Bool) (k : Nat) : Prop :=
  ∃ note, reported ((b.attended times heeds k).tick (times k)).2 = some note
    ∧ (note.kind = .completed ∨ note.kind = .timerFault)

/-- A move under watch is on its way, or over. -/
theorem onWay_or_over (hstart : b.OnWay b 0) (hb : b.Watchable) (times : Nat → Nat)
    (heeds : Nat → Bool) (k : Nat) :
    b.OnWay (b.attended times heeds k) k ∨ (b.attended times heeds k).Over := by
  induction k with
  | zero => exact Or.inl hstart
  | succ k ih =>
      rcases ih with honway | hover
      · have hround := honway.round hb (times k) (heeds k)
        rw [attended]
        cases hround with
        | ends hover _ _ _ => exact Or.inr hover
        | goesOn honway _ => exact Or.inl honway
        | trips _ _ _ _ hmode _ _ => exact Or.inr (Or.inl hmode)
      · exact Or.inr (hover.attend (times k) (heeds k)).1

variable {times : Nat → Nat} {heeds : Nat → Bool}

/-- **An axis is tripped by the half-step that was asked for, and it is blocked.** -/
theorem stalled_round (hstart : b.OnWay b 0) (hb : b.Watchable) {k : Nat}
    (hstalled : b.verdictAt times heeds k = some .stalled) :
    b.board.frozen = true
      ∧ b.HalfStepAt times heeds k (b.config.stallMaxCount * b.config.reportInterval)
      ∧ (b.attended times heeds (k + 1)).mode = .stopped
      ∧ (b.attended times heeds (k + 1)).isRunning = false
      ∧ (b.attended times heeds (k + 1)).stalled = true := by
  rcases onWay_or_over hstart hb times heeds k with honway | hover
  · have hround := honway.round hb (times k) (heeds k)
    cases hround with
    | ends _ _ hverdict _ => exact absurd hstalled hverdict
    | goesOn _ hverdict => exact absurd hstalled hverdict
    | trips hfrozen hlast htoggles _ hmode hrest hmark =>
        refine ⟨hfrozen, ⟨htoggles, htoggles.trans ?_⟩, hmode, hrest, hmark⟩
        rw [honway.board.toggles, ← hlast, Nat.add_assoc]
  · exact absurd hstalled (hover.attend (times k) (heeds k)).2.2

/-- **The half-step that was asked for trips an axis that is blocked.** -/
theorem stalled_of_halfStep (hstart : b.OnWay b 0) (hb : b.Watchable)
    (hfrozen : b.board.frozen = true) {k : Nat}
    (hstep : b.HalfStepAt times heeds k (b.config.stallMaxCount * b.config.reportInterval)) :
    b.verdictAt times heeds k = some .stalled := by
  obtain ⟨hone, hnumber⟩ := hstep
  rw [attended] at hone hnumber
  rcases onWay_or_over hstart hb times heeds k with honway | hover
  · have hround := honway.round hb (times k) (heeds k)
    cases hround with
    | ends _ htoggles _ _ => omega
    | goesOn hnext _ =>
        have hearly := hnext.early hfrozen
        have htoggles := hnext.board.toggles
        omega
    | trips _ _ _ hverdict _ _ _ => exact hverdict
  · have htoggles := (hover.attend (times k) (heeds k)).2.1
    omega

/-- A move of a blocked motor that does not end is on its way until it is tripped. -/
theorem onWay_of_frozen (hstart : b.OnWay b 0) (hb : b.Watchable) (hfrozen : b.board.frozen = true)
    (hahead : b.sense.overshot = false) {k : Nat}
    (hk : k < b.config.stallMaxCount * b.config.reportInterval)
    (hends : ∀ j < k, ¬ b.EndsAt times heeds j) : b.OnWay (b.attended times heeds k) k := by
  induction k with
  | zero => exact hstart
  | succ k ih =>
      have honway := ih (Nat.lt_of_succ_lt hk) fun j hj => hends j (Nat.lt_succ_of_lt hj)
      have hround := honway.round hb (times k) (heeds k)
      rw [attended]
      cases hround with
      | ends _ _ _ hended =>
          exact absurd (hended (honway.ahead hfrozen hahead)) (hends k (Nat.lt_succ_self k))
      | goesOn hnext _ => exact hnext
      | trips _ hlast _ _ _ _ _ => exact absurd hk (by omega)

theorem marked_round (hunmarked : b.stalled = false) {k : Nat}
    (hmark : (b.attended times heeds k).stalled = true) :
    ∃ j < k, b.verdictAt times heeds j = some .stalled := by
  induction k with
  | zero => exact absurd (hunmarked.symm.trans hmark) (by simp)
  | succ k ih =>
      rcases marked_of_attend hmark with hbefore | hstalled
      · obtain ⟨j, hj, hverdict⟩ := ih hbefore
        exact ⟨j, Nat.lt_succ_of_lt hj, hverdict⟩
      · exact ⟨k, Nat.lt_succ_self k, hstalled⟩

/-- What becomes of a blocked motor, if the configuration asks for `n` half-steps. -/
structure Detected (b : Axis) (times : Nat → Nat) (heeds : Nat → Bool) (n : Nat) : Prop where
  /-- A stall is found in the round that makes half-step number `n`, and in no other. -/
  exactly : ∀ k, b.verdictAt times heeds k = some .stalled ↔ b.HalfStepAt times heeds k n
  /-- Until then every round makes a half-step, as long as the move has not ended. -/
  steps : ∀ k < n, (∀ j ≤ k, ¬ b.EndsAt times heeds j) → b.HalfStepAt times heeds k (k + 1)
  /-- In this round the axis is stopped and marked. -/
  trips : ∀ k, b.verdictAt times heeds k = some .stalled →
    (b.attended times heeds (k + 1)).mode = .stopped
      ∧ (b.attended times heeds (k + 1)).isRunning = false
      ∧ (b.attended times heeds (k + 1)).stalled = true
  /-- It is not marked before. -/
  marks : ∀ k, (b.attended times heeds k).stalled = true →
    ∃ j < k, b.verdictAt times heeds j = some .stalled

theorem detected_of_frozen {before : Axis} (h : before.MoveBegun b) (hb : b.Watchable)
    (hfrozen : b.board.frozen = true) (times : Nat → Nat) (heeds : Nat → Bool) :
    b.Detected times heeds (b.config.stallMaxCount * b.config.reportInterval) := by
  have hstart := onWay_start h hb
  refine ⟨fun k => ⟨fun hstalled => (stalled_round hstart hb hstalled).2.1,
    stalled_of_halfStep hstart hb hfrozen⟩, fun k hk hends => ?_,
    fun k hstalled => (stalled_round hstart hb hstalled).2.2, fun k => marked_round h.stalled⟩
  have honway := onWay_of_frozen hstart hb hfrozen h.ahead hk fun j hj => hends j (Nat.le_of_lt hj)
  have hbefore := honway.board.toggles
  have hround := honway.round hb (times k) (heeds k)
  unfold HalfStepAt
  rw [attended]
  cases hround with
  | ends _ _ _ hended =>
      exact absurd (hended (honway.ahead hfrozen h.ahead)) (hends k (Nat.le_refl k))
  | goesOn hnext _ =>
      have hafter := hnext.board.toggles
      omega
  | trips _ _ htoggles _ _ _ _ => omega

/-- **A blocked motor is found, and no other.** A move is started on an axis without signs of a stall,
and every report of progress is judged before the next timer match, whenever the matches come. If the
shaft is blocked, the axis is tripped by half-step number `stallMaxCount * reportInterval`, unless the
move ends before. If the shaft is free and half of the half-steps between two reports are enough to
reach the threshold, no report is ever found to be a stall. -/
theorem stall_detected {a : Axis} {c : Command} {nowMs freq : Nat}
    (hconfig : a.config.validate = .ok ()) (hwatches : a.config.Watches)
    (hrange : Position.lowest ≤ a.board.position ∧ a.board.position ≤ Position.highest)
    (hstarted : (a.clearFaults.apply c nowMs).answer = .ok (.started freq))
    (times : Nat → Nat) (heeds : Nat → Bool) :
    let b := (a.clearFaults.apply c nowMs).axis
    (a.board.frozen = true →
        b.Detected times heeds (a.config.stallMaxCount * a.config.reportInterval))
      ∧ (a.board.frozen = false →
        a.config.stallThreshold ≤ ((a.config.reportInterval - 1) / 2 : Nat) →
        ∀ k, b.verdictAt times heeds k ≠ some .stalled) := by
  intro b
  have hbegun : a.MoveBegun b := move_begun hstarted
  have hwatchable : b.Lively → b.Watchable := by
    intro hlively
    refine ⟨hbegun.moving, ?_, ?_, ?_, hlively⟩
    · rw [hbegun.config]
      exact hwatches
    · rw [hbegun.config]
      exact MotionConfig.interval_of_validate hconfig
    · rw [hbegun.position]
      exact hrange
  rw [← hbegun.frozen, ← hbegun.config]
  refine ⟨fun hfrozen => ?_, fun hfree hmoves k hstalled => ?_⟩
  · have hlively : b.Lively := fun hfree => absurd (hfrozen.symm.trans hfree) (by simp)
    exact detected_of_frozen hbegun (hwatchable hlively) hfrozen times heeds
  · have hb := hwatchable fun _ => hmoves
    obtain ⟨hfrozen, _⟩ := stalled_round (onWay_start hbegun hb) hb hstalled
    exact absurd (hfrozen.symm.trans hfree) (by simp)

/-- An axis at the lowest position, from where it is started downwards. -/
def downwards (frozen : Bool) : Axis :=
  create 0 ⟨"x", 0, none⟩ { position := Position.lowest, frozen := frozen }
    { reportInterval := 3, stallMaxCount := 2, stallThreshold := 1 }

/-- If its shaft is blocked, it is tripped by its sixth half-step, and if not, it goes on from the
highest position. -/
theorem stall_detected_of_downwards :
    (∀ frozen, (downwards frozen).config.validate = .ok () ∧ (downwards frozen).config.Watches
      ∧ ((downwards frozen).clearFaults.apply (.freeRun .clockwise 1) 0).answer
        = .ok (.started 5000))
    ∧ ((downwards true).clearFaults.apply (.freeRun .clockwise 1) 0).axis.verdictAt
        (30 * ·) (fun _ => false) 5 = some .stalled
    ∧ ∀ k, ((downwards false).clearFaults.apply (.freeRun .clockwise 1) 0).axis.verdictAt
        (30 * ·) (fun _ => false) k ≠ some .stalled := by
  have hconfig : ∀ frozen, (downwards frozen).config.validate = .ok () := by decide
  have hwatches : ∀ frozen, (downwards frozen).config.Watches := fun frozen =>
    ⟨rfl, by decide +revert, by decide +revert, by decide +revert⟩
  have hstarted : ∀ frozen, ((downwards frozen).clearFaults.apply (.freeRun .clockwise 1) 0).answer
      = .ok (.started 5000) := by decide
  refine ⟨fun frozen => ⟨hconfig frozen, hwatches frozen, hstarted frozen⟩, ?_, ?_⟩
  · have hblocked := (stall_detected (hconfig true) (hwatches true) (by decide) (hstarted true)
      (30 * ·) (fun _ => false)).1 rfl
    exact (hblocked.exactly 5).mpr ⟨by decide, by decide⟩
  · exact (stall_detected (hconfig false) (hwatches false) (by decide) (hstarted false)
      (30 * ·) (fun _ => false)).2 rfl (by decide)

end Axis

end StepperMotion
