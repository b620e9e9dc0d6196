import StepperMotion.Proofs.Limits
import StepperMotion.Proofs.TimerMatch

/-!
# Every frequency is within its limits

A motor that gets pulses at too high a rate does not follow, and a timer that is armed with zero
does not raise a match at all. `Governed` carries the limits of the configuration through a run: the
ramp of a move is between the limits of its kind of move at all times, and whatever is written to
the timer is a frequency of the ramp.

The test that every launch makes is for the limits of the motor, which are wider in a closed-loop
move. So no launch fails it. The limit of the motor is a counter like every other figure of a
configuration, and that is all that is asked of it: a sum that is cut off at the largest counter is
not cut off below the ceiling of a ramp.
-/

namespace StepperMotion

/-- The kind of move a command sets up. -/
def Command.mode : Command → Mode
  | freeRun .. => .freeRunning
  | closedLoop _ => .closedLoop
  | steps .. => .steps
  | stop => .stopped

namespace Axis

/-- The kind of move an operation works on: the one it sets up or goes on with, or else the one that
it finds. -/
def Operation.mode (a : Axis) : Operation → Mode
  | apply c _ => c.mode
  | resume _ _ => .closedLoop
  | _ => a.mode

/-- The reply is that a frequency was rejected. -/
def Reply.rejectsFrequency : Reply → Bool
  | .outcome (.error (.refused e)) => e.isInvariant
  | .resumed (some (.error (.refused e))) => e.isInvariant
  | .report (.ok (some note)) => note.kind == .timerFault
  | _ => false

/-- The ramp of a move is within the limits of its kind of move. -/
def Governed (a : Axis) : Prop :=
  a.mode ≠ .stopped → a.ramp.Within a.config.minFreq (a.config.ceiling a.mode)

/-- All that was written to the timer on the way from one axis to the other is within limits. -/
def Writes (lo hi : Nat) (a b : Axis) : Prop :=
  ∃ new, b.board.timer.writes = new ++ a.board.timer.writes
    ∧ ∀ w ∈ new, lo ≤ w.hz ∧ w.hz ≤ hi

/-- The timer takes every frequency that the motor stands. -/
def Capable (a : Axis) : Prop :=
  ∀ hz, a.config.minFreq ≤ hz → hz ≤ a.config.compumotorMaxFreq → a.board.timer.accepts hz = true

/-- What an operation on a kind of move comes to, as far as frequencies are concerned. -/
structure Safe (a : Axis) (m : Mode) (b : Axis) (r : Reply) : Prop where
  config : b.config = a.config
  /-- The ramp is within its limits afterwards. -/
  governed : b.Governed
  /-- What was written to the timer is within the limits of the move. -/
  writes : Writes a.config.minFreq (a.config.ceiling m) a b
  /-- A timer that takes what the motor stands rejected none of it. -/
  taken : a.Capable → r.rejectsFrequency = false

theorem writes_none {lo hi : Nat} {a b : Axis} (h : b.board.timer.writes = a.board.timer.writes) :
    Writes lo hi a b :=
  ⟨[], h, fun _ hw => absurd hw (by simp)⟩

theorem writes_one {lo hi freq : Nat} {accepted : Bool} {a b : Axis}
    (h : b.board.timer.writes = ⟨freq, accepted⟩ :: a.board.timer.writes)
    (hfreq : lo ≤ freq ∧ freq ≤ hi) : Writes lo hi a b :=
  ⟨[⟨freq, accepted⟩], h, fun w hw => by
    rw [List.mem_singleton.mp hw]
    exact hfreq⟩

theorem governed_of_stopped {a : Axis} (h : a.mode = .stopped) : a.Governed := by
  intro hm
  exact absurd h hm

/-- An operation that writes nothing to the timer, and ends the move or leaves it alone. -/
theorem Governed.safe {a b : Axis} {m : Mode} {r : Reply} (h : a.Governed)
    (hconfig : b.config = a.config)
    (hmove : b.mode = .stopped ∨ (b.mode = a.mode ∧ b.ramp = a.ramp))
    (hwrites : b.board.timer.writes = a.board.timer.writes)
    (hr : r.rejectsFrequency = false) : Safe a m b r where
  config := hconfig
  governed := by
    rcases hmove with hm | ⟨hm, hramp⟩
    · exact governed_of_stopped hm
    · unfold Governed
      rw [hm, hramp, hconfig]
      exact h
  writes := writes_none hwrites
  taken _ := hr

/-! ## A new move -/

/-- **A plan has a ramp within the limits of its kind of move.** -/
theorem Plans.within {a : Axis} {nowMs : Nat} {c : Command} {p : Plan} (h : a.Plans nowMs c p)
    (hs : a.config.Sound) : p.ramp.Within a.config.minFreq (a.config.ceiling p.mode) := by
  cases h with
  | freeRun hlevel =>
      obtain ⟨hlo, hhi⟩ := hs.levels _ _ hlevel
      exact Ramp.flat_within hlo hhi nowMs
  | steps hlevel =>
      obtain ⟨hlo, hhi⟩ := hs.levels _ _ hlevel
      exact Ramp.trapezoid_within hlo hhi ..
  | closedLoop _ =>
      exact firstFreq_within a _ nowMs (Ramp.trapezoid_within hs.closedLow (Nat.le_refl _) ..)

theorem Plans.mode {a : Axis} {nowMs : Nat} {c : Command} {p : Plan} (h : a.Plans nowMs c p) :
    p.mode = c.mode := by
  cases h <;> rfl

/-- The motor stands every frequency of a sound configuration. -/
theorem ceiling_le_freqLimit {a : Axis} (hs : a.config.Sound) :
    a.config.ceiling a.mode ≤ a.freqLimit := by
  unfold MotionConfig.ceiling freqLimit
  cases a.mode with
  | closedLoop => exact hs.closedHigh
  | _ => exact Nat.le_refl _

theorem ceiling_le_motor {c : MotionConfig} (hs : c.Sound) (m : Mode) :
    c.ceiling m ≤ c.compumotorMaxFreq := by
  cases m with
  | closedLoop => exact hs.closedHigh
  | _ => exact hs.within

/-- **A launch with a plan within the limits is safe.** -/
theorem safe_launch {a : Axis} {p : Plan} {line : String} (hs : a.config.Sound)
    (hp : p.ramp.Within a.config.minFreq (a.config.ceiling p.mode)) :
    Safe a p.mode ((a.setUp p).nextEpoch.launch p.ramp.current line).axis
      (.outcome ((a.setUp p).nextEpoch.launch p.ramp.current line).answer) := by
  have hceil : a.config.ceiling p.mode ≤ (a.setUp p).freqLimit :=
    ceiling_le_freqLimit (a := a.setUp p) hs
  have hmotor : a.config.ceiling p.mode ≤ a.config.compumotorMaxFreq := ceiling_le_motor hs p.mode
  obtain ⟨hlo, hhi⟩ := hp.current
  have hin : (a.setUp p).nextEpoch.InLimits p.ramp.current := ⟨hlo, Nat.le_trans hhi hceil⟩
  rcases launch_cases (a.setUp p).nextEpoch p.ramp.current line with
    ⟨hout, _, _⟩ | ⟨_, hacc, hans, hax⟩ | ⟨_, _, hans, hax⟩
  · exact absurd hin hout
  · rw [hans, hax]
    refine ⟨rfl, governed_of_stopped rfl, writes_one rfl ⟨hlo, hhi⟩, ?_⟩
    -- a timer that takes what the motor stands has no reason to refuse
    intro hcap
    have htaken := hcap p.ramp.current hlo (by omega)
    exact absurd (hacc.symm.trans htaken) (by simp)
  · rw [hans, hax]
    exact ⟨rfl, fun _ => hp, writes_one rfl ⟨hlo, hhi⟩, fun _ => rfl⟩

theorem safe_carried {a b : Axis} {nowMs : Nat} {c : Command} {r : Except Failure Outcome}
    (h : a.Governed) (hs : a.config.Sound) (hc : a.Carried nowMs c b r) :
    Safe a c.mode b (.outcome r) := by
  cases hc with
  | launched hp =>
      rw [← hp.mode]
      exact safe_launch hs (hp.within hs)
  | failed hp _ => exact ⟨rfl, fun _ => hp.within hs, writes_none rfl, fun _ => rfl⟩
  | @arrived setpoint _ =>
      have hmode : ({ a with posCmd := setpoint } : Axis).sense.finishInPlace.mode = .stopped :=
        finishInPlace_mode _
      rcases finishInPlace_cases ({ a with posCmd := setpoint } : Axis).sense with
          ⟨_, heq⟩ | ⟨_, heq⟩ <;> rw [heq] at hmode ⊢
      · exact h.safe rfl (Or.inl hmode) rfl rfl
      · exact h.safe rfl (Or.inl hmode) rfl rfl
  | stopped _ =>
      have hmode := stop_mode a
      rcases stop_cases a with ⟨_, heq, _⟩ | ⟨_, heq, _⟩ <;> rw [heq] at hmode ⊢
      · exact h.safe rfl (Or.inl hmode) rfl rfl
      · exact h.safe rfl (Or.inl hmode) rfl rfl

/-- Checking a command rejects no frequency: what it refuses are levels, divisors and counts. -/
theorem validate_rejects {a : Axis} {c : Command} {e : Failure} (h : a.validate c = .error e) :
    (Reply.outcome (.error e)).rejectsFrequency = false := by
  rcases validate_error h with ⟨r, rfl, hr⟩ | ⟨f, _, rfl, _⟩
  · cases r <;> first | rfl | exact absurd hr (by simp [MotionError.isInvalidInput])
  · rfl

/-! ## A timer match -/

theorem nextRamp_within {a : Axis} {lo hi : Nat} (h : a.ramp.Within lo hi)
    (hhi : hi ≤ Count.limit) (nowMs : Nat) : (a.nextRamp nowMs).Within lo hi := by
  unfold nextRamp
  dsimp only
  split
  · exact Ramp.update_within (Ramp.cap_within h _ _) hhi _ _
  · exact Ramp.update_within h hhi _ _

/-- **A timer match writes a frequency of its ramp at most.** -/
theorem safe_served {a b : Axis} {nowMs : Nat} {r : Except Fault (Option Notification)}
    (h : a.Governed) (hs : a.config.Sound) (hlimit : a.config.compumotorMaxFreq ≤ Count.limit)
    (hserved : a.Served nowMs b r) : Safe a a.mode b (.report r) := by
  obtain ⟨_, _, _, hobs⟩ := observe_eq a
  have hlook : a.observe.mode = a.mode ∧ a.observe.ramp = a.ramp ∧ a.observe.config = a.config
      ∧ a.observe.board = a.board := by
    rw [hobs]
    exact ⟨rfl, rfl, rfl, rfl⟩
  obtain ⟨hmode, hramp, hconfig, hboard⟩ := hlook
  have hmotor : a.config.ceiling a.mode ≤ a.config.compumotorMaxFreq :=
    ceiling_le_motor hs a.mode
  have hceil : a.config.ceiling a.mode ≤ Count.limit := by omega
  have hnext : a.mode ≠ .stopped →
      (a.observe.nextRamp nowMs).Within a.config.minFreq (a.config.ceiling a.mode) := by
    intro hm
    have hold := h hm
    rw [← hramp] at hold
    exact nextRamp_within hold hceil nowMs
  have hwritten : (a.observe.ramped nowMs).board.timer.writes
      = ⟨(a.observe.nextRamp nowMs).current,
          a.board.timer.accepts (a.observe.nextRamp nowMs).current⟩
        :: a.board.timer.writes := by
    rw [← hboard]
    exact writtenTimer_writes ..
  have hwrites : a.observe.board.timer.writes = a.board.timer.writes := by rw [hboard]
  cases hserved with
  | idle _ => exact h.safe rfl (Or.inr ⟨rfl, rfl⟩) rfl rfl
  | arrived _ _ =>
      exact h.safe hconfig (Or.inl rfl) hwrites rfl
  | overshot _ _ _ => exact h.safe hconfig (Or.inr ⟨hmode, hramp⟩) hwrites rfl
  | refused hm _ _ _ hacc =>
      obtain ⟨hlo, hhi⟩ := (hnext hm).current
      refine ⟨hconfig, governed_of_stopped rfl, writes_one hwritten ⟨hlo, hhi⟩, ?_⟩
      intro hcap
      have htaken := hcap (a.observe.nextRamp nowMs).current hlo (by omega)
      exact absurd (hacc.symm.trans htaken) (by simp)
  | stepped hm _ _ hb hr =>
      have hreply : (Reply.report r).rejectsFrequency = false := by
        rcases hr.reply with rfl | rfl | ⟨f, rfl⟩ <;> rfl
      rcases hb with ⟨_, rfl⟩ | ⟨_, _, rfl⟩
      · exact h.safe hconfig (Or.inr ⟨hmode, hramp⟩) hwrites hreply
      · refine ⟨hconfig, ?_, writes_one hwritten (hnext hm).current, fun _ => hreply⟩
        intro _
        show (a.observe.nextRamp nowMs).Within a.observe.config.minFreq
          (a.observe.config.ceiling a.observe.mode)
        rw [hconfig, hmode]
        exact hnext hm

/-! ## Every operation -/

theorem safe_perform {a : Axis} (h : a.Governed) (hs : a.config.Sound)
    (hlimit : a.config.compumotorMaxFreq ≤ Count.limit) (o : Operation) :
    Safe a (o.mode a) (a.perform o).1 (a.perform o).2 := by
  have hsame : ∀ {b : Axis} {r : Reply}, b.config = a.config → b.mode = a.mode → b.ramp = a.ramp →
      b.board.timer.writes = a.board.timer.writes → r.rejectsFrequency = false →
      Safe a a.mode b r :=
    fun hconfig hmode hramp hwrites hr => h.safe hconfig (Or.inr ⟨hmode, hramp⟩) hwrites hr
  cases o with
  | apply c nowMs =>
      rcases apply_cases a c nowMs with ⟨e, hv, heq⟩ | ⟨_, hc⟩
      · simp only [perform, heq]
        exact h.safe rfl (Or.inr ⟨rfl, rfl⟩) rfl (validate_rejects hv)
      · exact safe_carried h hs hc
  | beginDirectionChange c =>
      rcases beginDirectionChange_cases a c with ⟨_, heq | heq, _⟩ | ⟨_, _, heq | heq⟩ <;>
        simp only [perform, heq] <;> exact hsame rfl rfl rfl rfl rfl
  | tick nowMs => exact safe_served h hs hlimit (tick_served a nowMs)
  | stop =>
      have hmode := stop_mode a
      rcases stop_cases a with ⟨_, heq, _⟩ | ⟨_, heq, _⟩
      · simp only [perform, heq] at hmode ⊢
        exact h.safe rfl (Or.inl hmode) rfl rfl
      · simp only [perform, heq] at hmode ⊢
        exact h.safe rfl (Or.inl hmode) rfl rfl
  | resume epoch nowMs =>
      rcases resume_cases a epoch nowMs with ⟨_, heq⟩ | ⟨_, r, hans, hc⟩
      · simp only [perform, heq]
        exact h.safe rfl (Or.inr ⟨rfl, rfl⟩) rfl rfl
      · have hsafe := safe_carried h hs hc
        simp only [perform, hans]
        refine ⟨hsafe.config, hsafe.governed, hsafe.writes, fun hcap => ?_⟩
        have htaken := hsafe.taken hcap
        cases r with
        | ok _ => rfl
        | error e =>
            cases e with
            | refused _ => exact htaken
            | fault _ => rfl
  | tripStall => exact h.safe rfl (Or.inl rfl) rfl rfl
  | inspect note =>
      obtain ⟨b, _, _, hb, heq⟩ := inspect_cases a note
      simp only [perform, heq]
      rcases hb with rfl | rfl
      · exact hsame rfl rfl rfl rfl rfl
      · exact h.safe rfl (Or.inl rfl) rfl rfl
  | clearFaults => exact hsame rfl rfl rfl rfl rfl
  | setOffset offset => exact hsame rfl rfl rfl rfl rfl
  | status => exact hsame rfl rfl rfl rfl rfl
  | park note => exact hsame rfl rfl rfl rfl rfl
  | takeParked => exact hsame rfl rfl rfl rfl rfl
  | countDropped => exact hsame rfl rfl rfl rfl rfl
  | place position => exact hsame rfl rfl rfl rfl rfl
  | freeze frozen => exact hsame rfl rfl rfl rfl rfl
  | limitTimer hz => exact hsame rfl rfl rfl rfl rfl

/-- The configuration stays and the ramp keeps its limits, whatever was done to the axis. -/
theorem governed_after (handle : Nat) (own : AxisConfig) (board : Board) {config : MotionConfig}
    (hs : config.Sound) (hlimit : config.compumotorMaxFreq ≤ Count.limit) (ops : List Operation) :
    ((create handle own board config).after ops).config = config
      ∧ ((create handle own board config).after ops).Governed := by
  refine after_induction (P := fun a => a.config = config ∧ a.Governed) (fun a o h => ?_)
    ⟨rfl, governed_of_stopped rfl⟩ ops
  obtain ⟨rfl, hg⟩ := h
  have hsafe := safe_perform hg hs hlimit o
  exact ⟨hsafe.config, hsafe.governed⟩

/-- **With an accepted configuration, every frequency that an axis ever writes to its timer is
within the limits of the move it is for,** so that it is not zero. And a timer that takes every
frequency the motor stands never rejects one, so that no move is refused for it. -/
theorem frequency_safety (handle : Nat) (own : AxisConfig) (board : Board) {config : MotionConfig}
    (hv : config.validate = .ok ()) (hlimit : config.compumotorMaxFreq ≤ Count.limit)
    (ops : List Operation) (o : Operation) :
    let a := (create handle own board config).after ops
    (∃ new, (a.perform o).1.board.timer.writes = new ++ a.board.timer.writes
      ∧ ∀ w ∈ new, w.hz ≠ 0 ∧ config.minFreq ≤ w.hz ∧ w.hz ≤ config.ceiling (o.mode a))
    ∧ ((∀ hz, config.minFreq ≤ hz → hz ≤ config.compumotorMaxFreq →
        a.board.timer.accepts hz = true) → (a.perform o).2.rejectsFrequency = false) := by
  intro a
  have hs := MotionConfig.sound_of_validate hv
  obtain ⟨hconfig, hg⟩ := governed_after handle own board hs hlimit ops
  have hsafe := safe_perform (a := a) hg (hconfig.symm ▸ hs) (hconfig.symm ▸ hlimit) o
  obtain ⟨new, hwrites, hnew⟩ := hsafe.writes
  rw [hconfig] at hnew
  refine ⟨⟨new, hwrites, fun w hw => ?_⟩, fun hcap => hsafe.taken ?_⟩
  · have hpos := hs.positive
    have hin := hnew w hw
    exact ⟨by omega, hin⟩
  · rw [Capable, hconfig]
    exact hcap

/-- A move by steps starts at a tenth of its frequency, and the first climb is within the limits. -/
theorem frequency_safety_of_steps :
    ∃ a, a = (create 0 ⟨"x", 0, none⟩ {} {}).after [.apply (.steps .clockwise 8 1000 5 10) 0]
      ∧ a.board.timer.writes = [⟨12500, true⟩]
      ∧ ∃ new, (a.perform (.tick 6)).1.board.timer.writes = new ++ a.board.timer.writes
        ∧ ∀ w ∈ new, w.hz ≠ 0 ∧ 100 ≤ w.hz ∧ w.hz ≤ 125000 := by
  have hv : MotionConfig.validate {} = .ok () := rfl
  have hsafe := frequency_safety 0 ⟨"x", 0, none⟩ {} hv (by decide)
    [.apply (.steps .clockwise 8 1000 5 10) 0] (.tick 6)
  refine ⟨_, rfl, by decide, ?_⟩
  obtain ⟨new, hwrites, hnew⟩ := hsafe.1
  exact ⟨new, hwrites, hnew⟩

end Axis

end StepperMotion
