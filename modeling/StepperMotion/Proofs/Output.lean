import StepperMotion.Proportional
import StepperMotion.Proofs.Rounding

/-!
# How large the output of a controller is

A sample computes an output between the limits, lets through the part of it that the samples since
the restart allow, and keeps the result away from zero by the floor. With limits of at most
`2 ^ 24` the output is exact in single precision, and all that the rounding can do is done by the
product with the attenuation. That product is bounded and grows with the number of the sample
because rounding respects the order: `share_le` and `share_mono`.

So the sign of what a sample returns is that of the output, a zero being positive, and its
magnitude is the share or the floor, whichever is greater (`run_moderate`).
-/

namespace StepperMotion.Proportional

/-! ## The share of a sample -/

/-- The magnitude that the `n`-th sample after a restart makes of the magnitude `m`. -/
def share (n m : Nat) : Nat :=
  roundToBits Single.precision (m * (attenuation n).magnitude) / 2 ^ (attenuation n).scale

theorem attenuation_startup {n : Nat} (h : n < startupRuns) :
    attenuation n = ⟨false, roundToBits Single.precision
      (roundToBits Single.precision n * Single.tenth.magnitude), 27⟩ := by
  have hsign : decide ((n : Int) < 0) = false := by simp
  simp [attenuation, h, Single.mul, Single.ofInt, Single.tenth, hsign]

theorem attenuation_steady {n : Nat} (h : startupRuns ≤ n) : attenuation n = .one :=
  if_neg (Nat.not_lt.mpr h)

theorem attenuation_negative (n : Nat) : (attenuation n).negative = false := by
  rcases Nat.lt_or_ge n startupRuns with h | h
  · rw [attenuation_startup h]
  · rw [attenuation_steady h]
    rfl

/-- While the output is scaled down, a later sample scales it down less. -/
theorem attenuation_mono {n k : Nat} (h : n ≤ k) (hk : k < startupRuns) :
    (attenuation n).magnitude ≤ (attenuation k).magnitude := by
  rw [attenuation_startup (Nat.lt_of_le_of_lt h hk), attenuation_startup hk]
  exact roundToBits_mono (by decide) (Nat.mul_le_mul_right _ (roundToBits_mono (by decide) h))

/-- No sample lets through more than the whole. -/
theorem attenuation_le {n : Nat} (h : n < startupRuns) : (attenuation n).magnitude ≤ 2 ^ 27 :=
  Nat.le_trans (attenuation_mono (Nat.le_of_lt_succ h) (by decide)) (by decide)

theorem share_startup {n : Nat} (h : n < startupRuns) (m : Nat) :
    share n m = roundToBits Single.precision (m * (attenuation n).magnitude) / 2 ^ 27 := by
  rw [share, attenuation_startup h]

theorem share_steady {n m : Nat} (h : startupRuns ≤ n) (hm : m ≤ 2 ^ Single.precision) :
    share n m = m := by
  have hexact : roundToBits Single.precision m = m := by
    simpa using roundToBits_of_fits (by decide) hm 0
  simp [share, attenuation_steady h, Single.one, hexact]

theorem share_le (n : Nat) {m : Nat} (hm : m ≤ 2 ^ Single.precision) : share n m ≤ m := by
  rcases Nat.lt_or_ge n startupRuns with h | h
  · -- the whole of `m` needs no more bits than `m` itself, so it bounds the rounded product too
    have hwhole : roundToBits Single.precision (m * (attenuation n).magnitude) ≤ m * 2 ^ 27 := by
      rw [← roundToBits_of_fits (by decide) hm 27]
      exact roundToBits_mono (by decide) (Nat.mul_le_mul_left m (attenuation_le h))
    rw [share_startup h]
    exact Nat.div_le_of_le_mul (by rwa [Nat.mul_comm (2 ^ 27) m])
  · exact Nat.le_of_eq (share_steady h hm)

/-- **A later sample lets through no less.** -/
theorem share_mono {n k m : Nat} (h : n ≤ k) (hm : m ≤ 2 ^ Single.precision) :
    share n m ≤ share k m := by
  rcases Nat.lt_or_ge k startupRuns with hk | hk
  · rw [share_startup (Nat.lt_of_le_of_lt h hk), share_startup hk]
    exact Nat.div_le_div_right
      (roundToBits_mono (by decide) (Nat.mul_le_mul_left m (attenuation_mono h hk)))
  · rw [share_steady hk hm]
    exact share_le n hm

/-- The scaled output is the share of its magnitude, with its sign. -/
theorem toPosition_mul_attenuation {output : Int} (n : Nat)
    (h : output.natAbs ≤ 2 ^ Single.precision) :
    ((Single.ofInt output).mul (attenuation n)).toPosition =
      if output < 0 then -(share n output.natAbs : Int) else share n output.natAbs := by
  have hexact : roundToBits Single.precision output.natAbs = output.natAbs := by
    simpa using roundToBits_of_fits (by decide) h 0
  have hmul : (Single.ofInt output).mul (attenuation n) =
      ⟨decide (output < 0), roundToBits Single.precision
        (output.natAbs * (attenuation n).magnitude), (attenuation n).scale⟩ := by
    simp [Single.mul, Single.ofInt, hexact, attenuation_negative n]
  have hwhole : ((Single.ofInt output).mul (attenuation n)).truncate =
      if output < 0 then -(share n output.natAbs : Int) else share n output.natAbs := by
    rw [hmul]
    simp [Single.truncate, share]
  -- no share is large enough to be cut off
  have hsmall : share n output.natAbs ≤ 2 ^ 24 := Nat.le_trans (share_le n h) h
  rw [Single.toPosition, hwhole]
  simp only [Position.clamp, Position.lowest, Position.highest]
  split <;> omega

/-! ## One sample -/

/-- Limits around zero that are exact in single precision, and a floor that is a magnitude. -/
structure Limits.Moderate (l : Limits) : Prop where
  lowest_nonpos : l.lowest ≤ 0
  highest_nonneg : 0 ≤ l.highest
  lowest_exact : -2 ^ Single.precision ≤ l.lowest
  highest_exact : l.highest ≤ 2 ^ Single.precision
  floor_nonneg : 0 ≤ l.floor

/-- The output for a sample, before scaling. -/
def output (c : Proportional) (setpoint input : Int) : Int :=
  max c.limits.lowest (min (c.response (Position.sub setpoint input)) c.limits.highest)

/-- What the `n`-th sample after a restart returns for an output. -/
def answer (floor output : Int) (n : Nat) : Int :=
  if output < 0 then -max (share n output.natAbs : Int) floor
  else max (share n output.natAbs : Int) floor

variable {c : Proportional}

theorem Limits.Moderate.ordered {l : Limits} (h : l.Moderate) : l.lowest ≤ l.highest :=
  Int.le_trans h.lowest_nonpos h.highest_nonneg

theorem lowest_le_output (c : Proportional) (setpoint input : Int) :
    c.limits.lowest ≤ c.output setpoint input := by
  unfold output
  omega

theorem Limits.Moderate.output_le_highest (h : c.limits.Moderate) (setpoint input : Int) :
    c.output setpoint input ≤ c.limits.highest := by
  have := h.ordered
  unfold output
  omega

theorem Limits.Moderate.natAbs_output_le (h : c.limits.Moderate) (setpoint input : Int) :
    (c.output setpoint input).natAbs ≤ 2 ^ Single.precision := by
  have hlow := lowest_le_output c setpoint input
  have hhigh := h.output_le_highest setpoint input
  have := h.lowest_exact
  have := h.highest_exact
  simp only [Single.precision] at *
  omega

theorem raise_eq {floor output : Int} {n : Nat} (hfloor : 0 ≤ floor) :
    raise floor output (if output < 0 then -(share n output.natAbs : Int)
      else share n output.natAbs) = .ok (answer floor output n) := by
  unfold raise answer Position.checkedNeg
  by_cases hsign : output < 0
  · have hne : floor ≠ Position.lowest := by
      simp only [Position.lowest]
      omega
    simp only [hsign, if_true, if_neg hne, Except.map, Except.ok.injEq]
    omega
  · simp only [hsign, if_false]

/-- **What a sample does to a controller with moderate limits, and what it returns.** -/
theorem run_moderate (h : c.limits.Moderate) (setpoint input : Int) :
    c.run setpoint input =
      ({ c with
          lastInput := input
          lastOutput := c.output setpoint input
          lastError := Position.sub setpoint input
          lastSetpoint := setpoint
          runs := Count.add c.runs 1 },
        .ok (answer c.limits.floor (c.output setpoint input) (Count.add c.runs 1))) := by
  have hclamp : Position.clampBetween c.limits.lowest c.limits.highest
      (c.response (Position.sub setpoint input)) = .ok (c.output setpoint input) :=
    if_pos h.ordered
  simp only [run, hclamp, toPosition_mul_attenuation _ (h.natAbs_output_le setpoint input),
    raise_eq h.floor_nonneg]

theorem natAbs_answer {floor : Int} (hfloor : 0 ≤ floor) (output : Int) (n : Nat) :
    ((answer floor output n).natAbs : Int) = max (share n output.natAbs : Int) floor := by
  unfold answer
  split <;> omega

/-! ## Sample after sample -/

/-- The controller after `n` samples of one setpoint and one input. -/
def repeated (c : Proportional) (setpoint input : Int) : Nat → Proportional
  | 0 => c
  | n + 1 => ((c.repeated setpoint input n).run setpoint input).1

/-- Samples leave the settings alone, and are counted. -/
theorem repeated_settings (h : c.limits.Moderate) (hrest : c.runs = 0) (setpoint input : Int)
    (n : Nat) :
    (c.repeated setpoint input n).limits = c.limits
      ∧ (c.repeated setpoint input n).signedGain = c.signedGain
      ∧ (c.repeated setpoint input n).runs = min n Count.limit := by
  induction n with
  | zero => exact ⟨rfl, rfl, by rw [repeated, hrest]; rfl⟩
  | succ n ih =>
      obtain ⟨hlimits, hgain, hruns⟩ := ih
      have hmoderate : (c.repeated setpoint input n).limits.Moderate := hlimits ▸ h
      rw [repeated, run_moderate hmoderate]
      refine ⟨hlimits, hgain, ?_⟩
      simp only [hruns, Count.add]
      omega

/-- Of the samples of one setpoint and one input each has the same output. -/
theorem run_repeated (h : c.limits.Moderate) (hrest : c.runs = 0) (setpoint input : Int) (n : Nat) :
    ((c.repeated setpoint input n).run setpoint input).1.lastOutput = c.output setpoint input
      ∧ ((c.repeated setpoint input n).run setpoint input).2 =
        .ok (answer c.limits.floor (c.output setpoint input) (min (n + 1) Count.limit)) := by
  obtain ⟨hlimits, hgain, hruns⟩ := repeated_settings h hrest setpoint input n
  have houtput : (c.repeated setpoint input n).output setpoint input = c.output setpoint input := by
    simp only [output, response, hlimits, hgain]
  have hcount : Count.add (min n Count.limit) 1 = min (n + 1) Count.limit := by
    simp only [Count.add]
    omega
  rw [run_moderate (hlimits ▸ h), houtput, hruns, hlimits, hcount]
  exact ⟨rfl, rfl⟩

/-! ## The bounds -/

/-- What a sample returns lies within the limits of the controller. -/
structure Limits.Bound (l : Limits) (output r : Int) : Prop where
  lowest_le : l.lowest ≤ output
  le_highest : output ≤ l.highest
  negative : output < 0 → -max (output.natAbs : Int) l.floor ≤ r ∧ r ≤ -l.floor
  nonnegative : 0 ≤ output → l.floor ≤ r ∧ r ≤ max output l.floor

/-- The sign of what a sample returns is that of the output, and its magnitude lies between the
floor and the greater of the floor and that of the output. -/
theorem Limits.Moderate.bound_answer (h : c.limits.Moderate) (setpoint input : Int) (n : Nat) :
    c.limits.Bound (c.output setpoint input) (answer c.limits.floor (c.output setpoint input) n) where
  lowest_le := lowest_le_output c setpoint input
  le_highest := h.output_le_highest setpoint input
  negative := by
    intro hsign
    have hshare := share_le n (h.natAbs_output_le setpoint input)
    rw [answer, if_pos hsign]
    omega
  nonnegative := by
    intro hsign
    have hshare := share_le n (h.natAbs_output_le setpoint input)
    rw [answer, if_neg (Int.not_lt.mpr hsign)]
    omega

/-- **The output of a controller is bounded, and grows to its full size.** A sample returns a value
of the sign of the output, at least the floor in magnitude and at most the output or the floor,
whichever is greater. Of the samples of one setpoint and one input after a restart none returns a
smaller magnitude than one before it, and from the tenth on the bound is reached. -/
theorem output_bounded (h : c.limits.Moderate) (setpoint input : Int) :
    (∃ r, (c.run setpoint input).2 = .ok r
        ∧ c.limits.Bound (c.run setpoint input).1.lastOutput r)
      ∧ ∀ start, ∃ r : Nat → Int,
        (∀ n, (((c.restart start).repeated setpoint input n).run setpoint input).2 = .ok (r n))
          ∧ (∀ m n, m ≤ n → (r m).natAbs ≤ (r n).natAbs)
          ∧ ∀ n, 9 ≤ n → ((r n).natAbs : Int) = max
              (((c.restart start).repeated setpoint input (n + 1)).lastOutput.natAbs : Int)
              c.limits.floor := by
  constructor
  · rw [run_moderate h]
    exact ⟨_, rfl, h.bound_answer setpoint input _⟩
  · intro start
    -- the `n`-th of the repeated samples, counted from zero, is sample `n + 1` after the restart
    have hrun := run_repeated (c := c.restart start) h rfl setpoint input
    have hwhole := h.natAbs_output_le setpoint input
    have hsize := natAbs_answer h.floor_nonneg (c.output setpoint input)
    refine ⟨fun n => answer c.limits.floor (c.output setpoint input) (min (n + 1) Count.limit),
      fun n => (hrun n).2, ?_, ?_⟩
    · intro m n hmn
      have hm := hsize (min (m + 1) Count.limit)
      have hn := hsize (min (n + 1) Count.limit)
      have hshare : share (min (m + 1) Count.limit) (c.output setpoint input).natAbs ≤
          share (min (n + 1) Count.limit) (c.output setpoint input).natAbs :=
        share_mono (by omega) hwhole
      dsimp only
      omega
    · intro n hn
      have hsteady : startupRuns ≤ min (n + 1) Count.limit := by
        simp only [startupRuns, Count.limit]
        omega
      rw [repeated, (hrun n).1, hsize, share_steady hsteady hwhole]
      rfl

/-- A controller that acts in reverse, with limits as wide as they may be. -/
def reversed : Proportional :=
  ofSettings { gain := 3000, acting := .reverse, limits := ⟨-16777216, 16777216, 2000000⟩ }

/-- An error that asks for more than the lower limit. The first sample returns the floor, the ninth
one nine tenths of the limit, a fraction more than that before the fraction is dropped, and the
tenth one the limit. -/
theorem output_bounded_of_reversed :
    reversed.limits.Moderate
      ∧ (reversed.run 5592 (-1)).1.lastOutput = -16777216
      ∧ (reversed.run 5592 (-1)).2 = .ok (-2000000)
      ∧ reversed.limits.Bound (-16777216) (-2000000)
      ∧ ∃ r : Nat → Int,
        (∀ n, (((reversed.restart 0).repeated 5592 (-1) n).run 5592 (-1)).2 = .ok (r n))
          ∧ r 0 = -2000000 ∧ r 8 = -15099495
          ∧ ∀ n, 9 ≤ n → (r n).natAbs = 16777216 := by
  have hmoderate : reversed.limits.Moderate :=
    ⟨by decide, by decide, by decide, by decide, by decide⟩
  obtain ⟨⟨r, hr, hbound⟩, hrepeated⟩ := output_bounded hmoderate 5592 (-1)
  obtain ⟨r', hrun, _, hfull⟩ := hrepeated 0
  have hfirst : r = -2000000 := (Except.ok.inj hr).symm
  refine ⟨hmoderate, rfl, rfl, hfirst ▸ hbound, r', hrun, (Except.ok.inj (hrun 0)).symm,
    (Except.ok.inj (hrun 8)).symm, fun n hn => ?_⟩
  have hlast : ((reversed.restart 0).repeated 5592 (-1) (n + 1)).lastOutput = -16777216 :=
    (run_repeated (c := reversed.restart 0) hmoderate rfl 5592 (-1) n).1
  have hfloor : reversed.limits.floor = 2000000 := rfl
  have hsize := hfull n hn
  rw [hlast, hfloor] at hsize
  omega

end StepperMotion.Proportional
