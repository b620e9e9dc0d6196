import StepperMotion.Proportional
import StepperMotion.Proofs.Rounding

/-!
# The settings of a controller are all that a restart leaves of it

The settings of a controller are those that it was built with, each replaced by the last value that
was set and not ignored (`Settings.updated`). Nothing that was set before has a say
(`settings_after`).

The signed gain is kept up to date by two setters that know nothing of each other: a new gain sets
it for the way the process acts, and a new way of acting turns its sign. So it has to be shown that
it never drifts from the gain. It does not, whatever was set, ignored and sampled in between
(`tuned_after`), except that a zero may carry either sign: a controller that was built with no gain
has the positive zero, also for a process that acts in reverse.

The sign of a zero is lost in the product with an error. So two controllers whose signed gains are
`SameFactor` and whose limits and counts are the same return the same, sample after sample
(`outputs_congr`), and a restarted controller returns what a new one with its settings does.
-/

namespace StepperMotion

/-! ## Factors that differ in the sign of a zero -/

namespace Single

/-- The numbers are the same, or both are zero. -/
def SameFactor (x y : Single) : Prop := x = y ∨ (x.magnitude = 0 ∧ y.magnitude = 0)

variable {x y : Single}

theorem neg_neg (x : Single) : x.neg.neg = x := by
  simp [neg]

theorem SameFactor.neg (h : x.SameFactor y) : x.neg.SameFactor y.neg := by
  rcases h with rfl | ⟨hx, hy⟩
  · exact Or.inl rfl
  · exact Or.inr ⟨hx, hy⟩

/-- A product with zero is zero, and either zero is the position zero. -/
theorem toPosition_mul_of_zero (h : x.magnitude = 0) (z : Single) : (x.mul z).toPosition = 0 := by
  have hzero : (x.mul z).truncate = 0 := by simp [mul, truncate, h]
  rw [toPosition, hzero]
  rfl

theorem magnitude_ofInt_zero : (ofInt 0).magnitude = 0 := roundToBits_zero precision

theorem SameFactor.toPosition_mul (h : x.SameFactor y) (z : Single) :
    (x.mul z).toPosition = (y.mul z).toPosition := by
  rcases h with rfl | ⟨hx, hy⟩
  · rfl
  · rw [toPosition_mul_of_zero hx, toPosition_mul_of_zero hy]

end Single

/-- A gain with the sign that the process asks for. -/
def Acting.signed : Acting → Single → Single
  | direct, gain => gain
  | reverse, gain => gain.neg

namespace Proportional

variable {c d : Proportional}

/-! ## What is done to a controller -/

/-- Something that is done to a controller. -/
inductive Use where
  | setGain (gain : Int)
  | setActing (acting : Acting)
  | setLimits (limits : Limits)
  | setSamplePeriod (ms : Nat)
  | run (setpoint input : Int)
  | restart (input : Int)

/-- The controller after one use. -/
def used (c : Proportional) : Use → Proportional
  | .setGain gain => c.setGain gain
  | .setActing acting => c.setActing acting
  | .setLimits limits => c.setLimits limits
  | .setSamplePeriod ms => c.setSamplePeriod ms
  | .run setpoint input => (c.run setpoint input).1
  | .restart input => c.restart input

/-- The controller after any number of uses. -/
def after (c : Proportional) (uses : List Use) : Proportional := uses.foldl used c

/-- What a controller returns for samples, one after the other. -/
def outputs (c : Proportional) : List (Int × Int) → List (Except Fault Int)
  | [] => []
  | (setpoint, input) :: rest =>
    (c.run setpoint input).2 :: (c.run setpoint input).1.outputs rest

theorem setGain_of_nonneg {gain : Int} (h : 0 ≤ gain) (c : Proportional) :
    c.setGain gain = { c with gain := gain, signedGain := c.acting.signed (.ofInt gain) } := by
  rw [setGain, if_neg (Int.not_lt.mpr h)]
  cases c.acting <;> rfl

theorem setGain_of_neg {gain : Int} (h : gain < 0) (c : Proportional) : c.setGain gain = c :=
  if_pos h

/-! ## The settings in force -/

namespace Use

/-- The gain that is set; a negative one is ignored. -/
def gain? : Use → Option Int
  | setGain gain => if gain < 0 then none else some gain
  | _ => none

def acting? : Use → Option Acting
  | setActing acting => some acting
  | _ => none

def limits? : Use → Option Limits
  | setLimits limits => some limits
  | _ => none

/-- The sample period that is set; zero is ignored. -/
def samplePeriodMs? : Use → Option Nat
  | setSamplePeriod ms => if ms = 0 then none else some ms
  | _ => none

/-- The last value of a setting that is set, or the first one if none is. -/
def latest {α : Type} (set? : Use → Option α) (first : α) (uses : List Use) : α :=
  (uses.filterMap set?).getLast?.getD first

theorem latest_nil {α : Type} (set? : Use → Option α) (first : α) : latest set? first [] = first :=
  rfl

theorem latest_cons {α : Type} (set? : Use → Option α) (first : α) (u : Use) (uses : List Use) :
    latest set? first (u :: uses) = latest set? ((set? u).getD first) uses := by
  cases hset : set? u with
  | none => rw [latest, List.filterMap_cons_none hset, latest, Option.getD_none]
  | some x =>
      rw [latest, List.filterMap_cons_some hset, latest, List.getLast?_cons, Option.getD_some]
      rfl

end Use

/-- The settings with the last value of each that is set in place of it. -/
def Settings.updated (s : Settings) (uses : List Use) : Settings where
  gain := Use.latest Use.gain? s.gain uses
  acting := Use.latest Use.acting? s.acting uses
  samplePeriodMs := Use.latest Use.samplePeriodMs? s.samplePeriodMs uses
  limits := Use.latest Use.limits? s.limits uses

theorem Settings.updated_cons (s : Settings) (u : Use) (uses : List Use) :
    s.updated (u :: uses) = (s.updated [u]).updated uses := by
  simp only [updated, Use.latest_cons, Use.latest_nil]

/-- What a controller like this one is built from. -/
def settings (c : Proportional) : Settings :=
  ⟨c.gain, c.acting, c.samplePeriodMs, c.limits⟩

/-- A sample leaves the settings alone, also one that has no output. -/
theorem run_settings (c : Proportional) (setpoint input : Int) :
    (c.run setpoint input).1.settings = c.settings
      ∧ (c.run setpoint input).1.signedGain = c.signedGain := by
  unfold run
  dsimp only
  split <;> exact ⟨rfl, rfl⟩

/-- A use sets what it is for, unless it is ignored, and leaves the other settings alone. -/
theorem settings_used (c : Proportional) (u : Use) : (c.used u).settings = c.settings.updated [u] := by
  simp only [Settings.updated, Use.latest_cons, Use.latest_nil]
  cases u with
  | setGain gain =>
      by_cases h : gain < 0 <;>
        simp [used, settings, setGain, Use.gain?, Use.acting?, Use.samplePeriodMs?, Use.limits?, h]
  | setSamplePeriod ms =>
      by_cases h : ms = 0 <;>
        simp [used, settings, setSamplePeriod, Use.gain?, Use.acting?, Use.samplePeriodMs?,
          Use.limits?, h]
  | run setpoint input => exact (run_settings c setpoint input).1
  | setActing acting => rfl
  | setLimits limits => rfl
  | restart input => rfl

/-- **The settings in force are the last ones that were set.** -/
theorem settings_after (c : Proportional) (uses : List Use) :
    (c.after uses).settings = c.settings.updated uses := by
  induction uses generalizing c with
  | nil => rfl
  | cons u rest ih =>
      rw [Settings.updated_cons, ← settings_used]
      exact ih (c.used u)

/-- A negative gain counts as none. -/
theorem settings_ofSettings (s : Settings) :
    (ofSettings s).settings = { s with gain := max s.gain 0 } := by
  unfold ofSettings
  by_cases h : s.gain < 0
  · rw [setGain_of_neg h, Int.max_eq_right (Int.le_of_lt h)]
    rfl
  · rw [setGain_of_nonneg (Int.not_lt.mp h), Int.max_eq_left (Int.not_lt.mp h)]
    rfl

/-! ## The signed gain follows the gain -/

/-- The gain is no negative one, and the signed gain is the gain with the sign of the process. -/
structure Tuned (c : Proportional) : Prop where
  gain_nonneg : 0 ≤ c.gain
  signedGain : c.signedGain.SameFactor (c.acting.signed (.ofInt c.gain))

/-- What a change of acting does to the signed gain it does to the sign. -/
theorem signed_setActing (acting acting' : Acting) (gain : Single) :
    (if acting' = acting then acting.signed gain else (acting.signed gain).neg)
      = acting'.signed gain := by
  cases acting <;> cases acting' <;> simp [Acting.signed, Single.neg_neg]

theorem Tuned.setGain (h : c.Tuned) (gain : Int) : (c.setGain gain).Tuned := by
  by_cases hneg : gain < 0
  · rwa [setGain_of_neg hneg]
  · rw [setGain_of_nonneg (Int.not_lt.mp hneg)]
    exact ⟨Int.not_lt.mp hneg, Or.inl rfl⟩

theorem Tuned.setActing (h : c.Tuned) (acting : Acting) : (c.setActing acting).Tuned := by
  refine ⟨h.gain_nonneg, ?_⟩
  have hsigned := signed_setActing c.acting acting (.ofInt c.gain)
  show (if acting = c.acting then c.signedGain else c.signedGain.neg).SameFactor
    (acting.signed (.ofInt c.gain))
  rw [← hsigned]
  split
  · exact h.signedGain
  · exact h.signedGain.neg

theorem Tuned.run (h : c.Tuned) (setpoint input : Int) : (c.run setpoint input).1.Tuned := by
  obtain ⟨hsame, hsigned⟩ := run_settings c setpoint input
  have hgain : (c.run setpoint input).1.gain = c.gain := congrArg Settings.gain hsame
  have hacting : (c.run setpoint input).1.acting = c.acting := congrArg Settings.acting hsame
  exact ⟨hgain ▸ h.gain_nonneg, by rw [hsigned, hacting, hgain]; exact h.signedGain⟩

theorem Tuned.used (h : c.Tuned) (u : Use) : (c.used u).Tuned := by
  cases u with
  | setGain gain => exact h.setGain gain
  | setActing acting => exact h.setActing acting
  | setLimits limits => exact ⟨h.gain_nonneg, h.signedGain⟩
  | setSamplePeriod ms =>
      simp only [Proportional.used, setSamplePeriod]
      split
      · exact h
      · exact ⟨h.gain_nonneg, h.signedGain⟩
  | run setpoint input => exact h.run setpoint input
  | restart input => exact ⟨h.gain_nonneg, h.signedGain⟩

/-- A new controller is tuned: with a negative gain it has the gain zero, and a zero. -/
theorem tuned_ofSettings (s : Settings) : (ofSettings s).Tuned := by
  have hrest : ∀ period limits, Tuned
      { gain := 0, signedGain := .zero, acting := s.acting, samplePeriodMs := period,
        limits := limits } := by
    intro period limits
    refine ⟨Int.le_refl 0, Or.inr ⟨rfl, ?_⟩⟩
    cases s.acting <;> exact Single.magnitude_ofInt_zero
  exact (hrest s.samplePeriodMs s.limits).setGain s.gain

/-- **Whatever is done to a controller, its signed gain is its gain with the sign of the process.** -/
theorem tuned_after (s : Settings) (uses : List Use) : ((ofSettings s).after uses).Tuned := by
  suffices h : ∀ c : Proportional, c.Tuned → (c.after uses).Tuned from h _ (tuned_ofSettings s)
  induction uses with
  | nil => exact fun c hc => hc
  | cons u rest ih => exact fun c hc => ih (c.used u) (hc.used u)

/-! ## Controllers that return the same -/

/-- Two controllers that differ in the sign of a zero gain and in what they remember of the last
sample, if at all. -/
structure Interchangeable (c d : Proportional) : Prop where
  signedGain : c.signedGain.SameFactor d.signedGain
  limits : c.limits = d.limits
  runs : c.runs = d.runs

/-- **Two such controllers return the same for a sample, and remain such controllers.** -/
theorem Interchangeable.run (h : c.Interchangeable d) (setpoint input : Int) :
    (c.run setpoint input).2 = (d.run setpoint input).2
      ∧ (c.run setpoint input).1.Interchangeable (d.run setpoint input).1 := by
  have hresponse : ∀ error, c.response error = d.response error := fun error =>
    h.signedGain.toPosition_mul (.ofInt error)
  unfold Proportional.run
  simp only [hresponse, h.limits, h.runs]
  split
  · exact ⟨rfl, h⟩
  · exact ⟨rfl, h.signedGain, rfl, rfl⟩

theorem outputs_congr (h : c.Interchangeable d) (samples : List (Int × Int)) :
    c.outputs samples = d.outputs samples := by
  induction samples generalizing c d with
  | nil => rfl
  | cons sample rest ih =>
      obtain ⟨houtput, hnext⟩ := h.run sample.1 sample.2
      rw [outputs, outputs, houtput, ih hnext]

/-- A controller that was restarted can be replaced by a new one with its settings. -/
theorem Tuned.interchangeable (h : c.Tuned) (input : Int) (periodMs : Nat) :
    (c.restart input).Interchangeable (ofSettings ⟨c.gain, c.acting, periodMs, c.limits⟩) := by
  rw [ofSettings, setGain_of_nonneg h.gain_nonneg]
  exact ⟨h.signedGain, rfl, rfl⟩

/-! ## No history -/

/-- **The settings of a controller have no history.** Whatever was set, ignored and sampled since
the controller was built: each of its settings is the last value that was set and not ignored; its
signed gain is its gain in single precision with the sign of the process, up to the sign of a zero;
once restarted it returns for any samples what a new controller with its gain, its acting and its
limits returns; and it does not matter in which order the gain and the acting are set. -/
theorem settings_without_history (s : Settings) (uses : List Use) :
    ((ofSettings s).after uses).settings = { s with gain := max s.gain 0 }.updated uses
      ∧ ((ofSettings s).after uses).signedGain.SameFactor
        (((ofSettings s).after uses).acting.signed (.ofInt ((ofSettings s).after uses).gain))
      ∧ (∀ input periodMs samples,
        (((ofSettings s).after uses).restart input).outputs samples =
          (ofSettings ⟨((ofSettings s).after uses).gain, ((ofSettings s).after uses).acting,
            periodMs, ((ofSettings s).after uses).limits⟩).outputs samples)
      ∧ ∀ gain acting,
        ((ofSettings s).after uses).after [.setGain gain, .setActing acting] =
          ((ofSettings s).after uses).after [.setActing acting, .setGain gain] := by
  have htuned := tuned_after s uses
  have hsettings : ((ofSettings s).after uses).settings =
      { s with gain := max s.gain 0 }.updated uses := by
    rw [settings_after, settings_ofSettings]
  generalize (ofSettings s).after uses = c at htuned hsettings
  refine ⟨hsettings, htuned.signedGain, fun input periodMs samples =>
    outputs_congr (htuned.interchangeable input periodMs) samples, fun gain acting => ?_⟩
  show (c.setGain gain).setActing acting = (c.setActing acting).setGain gain
  by_cases hneg : gain < 0
  · rw [setGain_of_neg hneg, setGain_of_neg hneg]
  · have hgain := Int.not_lt.mp hneg
    rw [setGain_of_nonneg hgain, setGain_of_nonneg hgain]
    simp only [setActing, signed_setActing]

/-- A controller in reverse that was built with a negative gain has the positive zero; a new one
with its gain, which is zero, has the negative one. -/
example : (ofSettings { gain := -5, acting := .reverse }).signedGain = ⟨false, 0, 0⟩
    ∧ (ofSettings { gain := 0, acting := .reverse }).signedGain = ⟨true, 0, 0⟩ := by decide

end Proportional

end StepperMotion
