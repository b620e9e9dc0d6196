import StepperMotion.Proofs.Convergence
import StepperMotion.Proofs.Coherence
import StepperMotion.Proofs.Frequency
import StepperMotion.Proofs.Settings
import StepperMotion.Proofs.Stroke
import StepperMotion.Station.Dispatch

/-!
# A command is carried out as a whole, or not at all

When a move is set up, mode, direction, counters, ramp and epoch are written before the timer is
asked for its frequency, which it may refuse. `Settles` says what every result of a command tells
about the axis that is left: the one that was found, an axis at rest, or one with its timer running
as the command says. None of the results leaves anything in between.

`Settles` does not hold of an axis in any state. A command that is not carried out because the axis
is at its setpoint leaves a stopped axis alone, and then its timer has to be at rest already. That
is so because mode and timer agree at all times (`Coherent`).
-/

namespace StepperMotion

open Axis (Operation)

namespace Axis

/-- The direction of a command on an axis that is where it was last seen. -/
def heading? (a : Axis) : Command → Option Direction
  | .closedLoop setpoint => some (.ofError (setpoint - a.board.position))
  | c => c.direction?

/-- The timer runs for a move of a command. -/
structure UnderWay (a : Axis) (c : Command) (freq : Nat) (b : Axis) : Prop where
  runs : b.isRunning = true
  armed : b.board.timer.freq = freq
  ramp : b.ramp.current = freq
  mode : b.mode = c.mode
  line : ∃ d, a.heading? c = some d ∧ b.board.dirLevel = d.level

/-- What the result of a command says about the axis that it leaves. -/
structure Settles (a : Axis) (c : Command) (b : Axis) (r : Except Failure Outcome) : Prop where
  /-- There is a result. -/
  sound : ∀ f, r ≠ .error (.fault f)
  /-- The command is found to be at fault just when the check finds it so. -/
  invalid : ∀ e, (r = .error (.refused e) ∧ e.isInvalidInput = true)
    ↔ a.validate c = .error (.refused e)
  /-- Then nothing has been done. -/
  untouched : ∀ e, a.validate c = .error (.refused e) → b = a
  /-- Any other refusal is that of a frequency, and leaves the axis at rest. -/
  rejected : ∀ e, r = .error (.refused e) → e.isInvalidInput = false →
    e.isInvariant = true ∧ b.mode = .stopped ∧ b.isRunning = false
  started : ∀ freq, r = .ok (.started freq) → a.UnderWay c freq b
  /-- There is nothing to do just when the setpoint is less than the threshold away. -/
  near : r = .ok .alreadyThere ↔ ∃ setpoint, c = .closedLoop setpoint
    ∧ ((setpoint - a.board.position).natAbs : Int) < a.config.posThreshold
  /-- Then the axis is at rest, and its timer was not started. -/
  arrived : r = .ok .alreadyThere → b.mode = .stopped ∧ b.isRunning = false
    ∧ b.board.timer.starts = a.board.timer.starts

variable {a b : Axis} {c : Command} {nowMs : Nat} {r : Except Failure Outcome}

/-! ## A command that is refused by the check -/

/-- With an accepted configuration, the check finds fault with the command itself. -/
theorem validate_invalid (hsound : a.config.Sound) {e : Failure} (h : a.validate c = .error e) :
    ∃ refusal, e = .refused refusal ∧ refusal.isInvalidInput = true := by
  rcases validate_error h with hinvalid | ⟨f, level, _, _, hf⟩
  · exact hinvalid
  · obtain ⟨freq?, hcounted⟩ := hsound.counted level
    exact absurd (hf.symm.trans hcounted) (by simp)

/-- The check never finds fault with a closed-loop command. -/
theorem validate_closedLoop (a : Axis) (setpoint : Int) :
    a.validate (.closedLoop setpoint) = .ok () := rfl

theorem settles_refused (hsound : a.config.Sound) {e : Failure} (h : a.validate c = .error e) :
    a.Settles c a (.error e) := by
  obtain ⟨refusal, rfl, hinvalid⟩ := validate_invalid hsound h
  refine ⟨by simp, fun e => ?_, fun _ _ => rfl, fun e heq hvalid => ?_, by simp,
    ⟨by simp, ?_⟩, by simp⟩
  · rw [h]
    constructor
    · rintro ⟨hsame, _⟩
      exact congrArg Except.error (Except.error.inj hsame)
    · intro hsame
      obtain rfl := Failure.refused.inj (Except.error.inj hsame)
      exact ⟨rfl, hinvalid⟩
  · obtain rfl := Failure.refused.inj (Except.error.inj heq)
    exact absurd (hinvalid.symm.trans hvalid) (by simp)
  · rintro ⟨setpoint, rfl, _⟩
    exact absurd ((validate_closedLoop a setpoint).symm.trans h) (by simp)

/-! ## A command that is carried out -/

theorem isAt_iff {setpoint : Int} (hfits : a.config.posThreshold ≤ Position.highest) :
    a.isAt setpoint = true
      ↔ ((setpoint - a.board.position).natAbs : Int) < a.config.posThreshold := by
  rw [← Position.abs_sub_lt hfits]
  exact decide_eq_true_iff

/-- A plan faces where its command is heading. -/
theorem Plans.heading {p : Plan} (h : a.Plans nowMs c p) : a.heading? c = some p.dir := by
  cases h with
  | freeRun _ => rfl
  | steps _ => rfl
  | @closedLoop setpoint _ =>
      have hsign : setpoint - a.board.position < 0 ↔ setpoint < a.board.position := by omega
      show some (Direction.ofError (setpoint - a.board.position))
        = some (Direction.ofError (Position.sub setpoint a.board.position))
      rw [Position.ofError_sub, Direction.ofError]
      simp only [hsign]

/-- A plan is made for an axis that is not at its setpoint. -/
theorem Plans.away {p : Plan} (h : a.Plans nowMs c p)
    (hfits : a.config.posThreshold ≤ Position.highest) :
    ¬ ∃ setpoint, c = .closedLoop setpoint
      ∧ ((setpoint - a.board.position).natAbs : Int) < a.config.posThreshold := by
  rintro ⟨setpoint, rfl, hnear⟩
  cases h with
  | closedLoop hfar => exact absurd (hfar.symm.trans ((isAt_iff hfits).mpr hnear)) (by simp)

/-- A refusal to launch a move leaves the axis at rest. -/
theorem settles_rejected {p : Plan} {e : MotionError} (hp : a.Plans nowMs c p)
    (hfits : a.config.posThreshold ≤ Position.highest) (hvalid : a.validate c = .ok ())
    (he : e.isInvariant = true) (hm : b.mode = .stopped) (hrest : b.isRunning = false) :
    a.Settles c b (.error (.refused e)) := by
  have hinput : e.isInvalidInput = false := by
    cases e <;> first | rfl | exact absurd he (by simp [MotionError.isInvariant])
  refine ⟨by simp, fun e' => ?_, ?_, fun e' heq _ => ?_, by simp, ⟨by simp, ?_⟩, by simp⟩
  · rw [hvalid]
    refine ⟨fun h => ?_, by simp⟩
    obtain rfl := Failure.refused.inj (Except.error.inj h.1)
    exact absurd (hinput.symm.trans h.2) (by simp)
  · rw [hvalid]
    simp
  · obtain rfl := Failure.refused.inj (Except.error.inj heq)
    exact ⟨he, hm, hrest⟩
  · exact fun hnear => absurd hnear (hp.away hfits)

/-- **A launch settles its command,** whether the timer takes the frequency or not. -/
theorem settles_launched {p : Plan} {line : String} (hp : a.Plans nowMs c p)
    (hfits : a.config.posThreshold ≤ Position.highest) (hvalid : a.validate c = .ok ()) :
    a.Settles c ((a.setUp p).nextEpoch.launch p.ramp.current line).axis
      ((a.setUp p).nextEpoch.launch p.ramp.current line).answer := by
  rcases launch_cases (a.setUp p).nextEpoch p.ramp.current line with
    ⟨_, hans, hax⟩ | ⟨_, _, hans, hax⟩ | ⟨_, _, hans, hax⟩ <;> rw [hans, hax]
  · exact settles_rejected hp hfits hvalid rfl rfl rfl
  · exact settles_rejected hp hfits hvalid rfl rfl rfl
  · refine ⟨by simp, by simp [hvalid], by simp [hvalid], by simp, fun freq heq => ?_,
      ⟨by simp, fun hnear => absurd hnear (hp.away hfits)⟩, by simp⟩
    obtain rfl := Outcome.started.inj (Except.ok.inj heq)
    exact ⟨rfl, rfl, rfl, hp.mode, p.dir, hp.heading, rfl⟩

/-- An axis that is at its setpoint is brought to rest without its timer being started. -/
theorem settles_arrived {setpoint : Int} (hcoh : a.Coherent)
    (hfits : a.config.posThreshold ≤ Position.highest) (hthere : a.isAt setpoint = true) :
    a.Settles (.closedLoop setpoint) (({ a with posCmd := setpoint } : Axis).sense.finishInPlace)
      (.ok .alreadyThere) := by
  have hvalid := validate_closedLoop a setpoint
  refine ⟨by simp, by simp [hvalid], by simp [hvalid], by simp, by simp, ?_, fun _ => ?_⟩
  · exact iff_of_true rfl ⟨setpoint, rfl, (isAt_iff hfits).mp hthere⟩
  · refine ⟨finishInPlace_mode _, ?_⟩
    rcases finishInPlace_cases ({ a with posCmd := setpoint } : Axis).sense with
      ⟨hm, heq⟩ | ⟨_, heq⟩ <;> rw [heq]
    · -- the timer of a stopped axis is at rest
      refine ⟨?_, rfl⟩
      cases hrun : a.isRunning with
      | false => exact hrun
      | true => exact absurd hm (hcoh.moving hrun)
    · exact ⟨rfl, rfl⟩

/-- **Whatever becomes of a command that is carried out, its result says how it left the axis,** if
the controller does not fail. -/
theorem settles_carried (hcoh : a.Coherent) (hfits : a.config.posThreshold ≤ Position.highest)
    (hkp : a.fault? c = none) (hvalid : a.validate c = .ok ()) (hc : a.Carried nowMs c b r) :
    a.Settles c b r := by
  cases hc with
  | launched hp _ => exact settles_launched hp hfits hvalid
  | failed _ _ hf => exact absurd (hkp.symm.trans hf) (by simp)
  | arrived heq hthere =>
      subst heq
      exact settles_arrived hcoh hfits hthere
  | stopped heq =>
      subst heq
      have hanswer : a.stop.answer = .alreadyStopped ∨ a.stop.answer = .stopped := by
        rcases stop_cases a with ⟨_, _, h⟩ | ⟨_, _, h⟩
        · exact Or.inl h
        · exact Or.inr h
      rcases hanswer with h | h <;> rw [h] <;>
        exact ⟨by simp, by simp [hvalid], by simp [hvalid], by simp, by simp, by simp, by simp⟩

theorem settles_apply (hcoh : a.Coherent) (hsound : a.config.Sound)
    (hfits : a.config.posThreshold ≤ Position.highest) (hkp : a.fault? c = none) (nowMs : Nat) :
    a.Settles c (a.apply c nowMs).axis (a.apply c nowMs).answer := by
  rcases apply_cases a c nowMs with ⟨e, hrefused, heq⟩ | ⟨hvalid, hc⟩
  · rw [heq]
    exact settles_refused hsound hrefused
  · exact settles_carried hcoh hfits hkp hvalid hc

end Axis

/-! ## A dispatcher and a command that is refused -/

namespace Station

variable {s : Station} {i : Nat} {d : Dispatcher} {e : Envelope} {a : Axis} {refusal : MotionError}

/-- A dispatcher that has a command refused by the check gives the refusal for an answer and takes
the next command. The machine is as it was, with the marks on its axes. -/
structure Declines (s : Station) (i : Nat) (d : Dispatcher) (e : Envelope) (refusal : MotionError)
    (s' : Station) : Prop where
  machine : s'.machine = s.machine
  dispatchers : s'.dispatchers = s.dispatchers.set i { d with phase := .idle }
  replies : s'.replies = s.replies ++ (e.reply? (.error refusal)).toList

theorem dispatch_declines (hd : s.dispatchers[i]? = some d) (hp : d.phase = .received e)
    (ha : s.machine.axes[d.handle]? = some a)
    (hrefused : a.validate e.command = .error (.refused refusal)) :
    s.Declines i d e refusal (s.dispatch i) := by
  have hmove : e.command ≠ .stop := by
    intro hstop
    rw [hstop] at hrefused
    exact absurd hrefused (by simp [Axis.validate, Axis.checkSpeed, Axis.checkSteps,
      Command.speedLevel?, bind, Except.bind])
  have hprepare : a.prepare e.command = ⟨a, [], .error (.refused refusal)⟩ := by
    rw [Axis.prepare, hrefused]
  have hsame : (s.machine.modifyAxis d.handle fun a => (a.prepare e.command).axis) = s.machine := by
    have hset := Machine.setAxis_eq ha fun a => (a.prepare e.command).axis
    have hkept := Machine.setAxis_eq ha fun a => a
    rw [hprepare] at hset
    rw [← hset, hkept, Machine.modifyAxis_same]
  simp only [dispatch, hd, hp, begin, if_neg hmove, operate_some ha, hprepare, refuse]
  rw [finish_answered rfl]
  exact ⟨hsame, rfl, rfl⟩

end Station

namespace Axis

/-- **Commands are all or nothing.** With an accepted configuration and a controller that does not
fail, the result of a command says in which state it has left the axis, whatever was done to the
axis before. And if the command is refused by the check, then a dispatcher that has received it
leaves the whole machine as it was. -/
theorem command_settled (handle : Nat) (own : AxisConfig) (board : Board) {config : MotionConfig}
    (hconfig : config.validate = .ok ()) (hfits : config.posThreshold ≤ Position.highest)
    (ops : List Operation) (c : Command) (nowMs : Nat)
    (hkp : ((create handle own board config).after ops).fault? c = none) :
    let a := (create handle own board config).after ops
    a.Settles c (a.apply c nowMs).axis (a.apply c nowMs).answer
    ∧ ∀ refusal, a.validate c = .error (.refused refusal) →
      ∀ (s : Station) (i : Nat) (d : Dispatcher) (ticket : Option Nat),
        s.dispatchers[i]? = some d → d.phase = .received ⟨c, ticket⟩ →
        s.machine.axes[d.handle]? = some a →
        s.Declines i d ⟨c, ticket⟩ refusal (s.dispatch i) := by
  intro a
  have hsame : a.config = config := (settings_after (create handle own board config) ops).config
  have hcoh : a.Coherent := coherent_after handle own board config ops
  have hsound : a.config.Sound := hsame.symm ▸ MotionConfig.sound_of_validate hconfig
  refine ⟨settles_apply hcoh hsound (hsame.symm ▸ hfits) hkp nowMs, ?_⟩
  intro refusal hrefused s i d ticket hd hp ha
  exact Station.dispatch_declines hd hp ha hrefused

/-- A free run is halted for a change of direction, and then sent to a setpoint on the other side;
its controller has a say in the frequency. -/
theorem command_settled_of_halted :
    let ops : List Operation := [.apply (.freeRun .clockwise 3) 0, .tick 1, .place 900,
      .beginDirectionChange (.closedLoop 1000)]
    let a := (create 0 ⟨"x", 0, some {}⟩ {} {}).after ops
    MotionConfig.validate {} = .ok () ∧ MotionConfig.posThreshold {} ≤ Position.highest
      ∧ a.fault? (.closedLoop 1000) = none ∧ a.mode = .freeRunning
      ∧ (a.apply (.closedLoop 1000) 501).answer = .ok (.started 12500)
      ∧ a.UnderWay (.closedLoop 1000) 12500 (a.apply (.closedLoop 1000) 501).axis := by
  intro ops a
  have hconfig : MotionConfig.validate {} = .ok () := rfl
  have hfits : MotionConfig.posThreshold {} ≤ Position.highest := by decide
  have hkp : a.fault? (.closedLoop 1000) = none := by decide +kernel
  have hanswer : (a.apply (.closedLoop 1000) 501).answer = .ok (.started 12500) := by
    decide +kernel
  have hsettles := (command_settled 0 ⟨"x", 0, some {}⟩ {} hconfig hfits ops (.closedLoop 1000) 501
    hkp).1
  exact ⟨hconfig, hfits, hkp, by decide, hanswer, hsettles.started 12500 hanswer⟩

end Axis

end StepperMotion
