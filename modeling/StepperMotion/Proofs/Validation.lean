import StepperMotion.Proofs.Limits

/-!
# What the check of a configuration decides

`Fits` says in plain arithmetic when the figures of a machine fit together. `MotionConfig.validate`
computes with counters, and in two places a figure can be too large for one: an entry of the speed
table in hertz, and the number of entries that the table needs, which is only computed for the
text of the refusal. `Overflows` says when that happens.

The three checks of `validate` are taken one by one, each against its own part of `Fits`. The
table is compared with `misfit?`, the first entry out of range in exact arithmetic: the search
finds it and then counts it in hertz, and that is where it fails. An entry within the limits is
always counted, because the limits are counters themselves.
-/

namespace StepperMotion

namespace MotionConfig

/-! ## Figures that fit together -/

/-- The frequency limits are in order, and the motor stands the highest ones. -/
structure LimitsInOrder (c : MotionConfig) : Prop where
  positive : 1 ≤ c.minFreq
  ordered : c.minFreq ≤ c.maxFreq
  within : c.maxFreq ≤ c.compumotorMaxFreq
  closedLow : c.minFreq ≤ c.closedLoopMaxFreq
  closedHigh : c.closedLoopMaxFreq ≤ c.compumotorMaxFreq

/-- An entry of the speed table, in hertz, is within the limits of a free run. -/
def InRange (c : MotionConfig) (khz : Nat) : Prop :=
  c.minFreq ≤ khz * 1000 ∧ khz * 1000 ≤ c.maxFreq

instance (c : MotionConfig) (khz : Nat) : Decidable (c.InRange khz) :=
  inferInstanceAs (Decidable (_ ∧ _))

/-- There is one entry per speed level, and all but that of level zero are in range. -/
structure TableInRange (c : MotionConfig) : Prop where
  entries : c.speedTableKhz.length = c.maxSpeedLevel + 1
  levels : ∀ khz ∈ c.speedTableKhz.tail, c.InRange khz

/-- The approach is possible, and nothing is zero that must not be. -/
structure RestInOrder (c : MotionConfig) : Prop where
  approachLow : c.minFreq ≤ c.approachFreq
  approachHigh : c.approachFreq ≤ c.closedLoopMaxFreq
  slope : c.slopeRatio ≠ 0
  interval : c.reportInterval ≠ 0
  divisor : c.closedLoopDivisor ≠ 0
  commands : c.commandCapacity ≠ 0
  notifications : c.notificationCapacity ≠ 0
  events : c.eventCapacity ≠ 0

/-- The figures of a machine fit together. -/
structure Fits (c : MotionConfig) : Prop where
  limits : c.LimitsInOrder
  table : c.TableInRange
  rest : c.RestInOrder

/-- The first entry of the table that is out of range, that of level zero apart. -/
def misfit? (c : MotionConfig) : Option Nat :=
  c.speedTableKhz.tail.find? fun khz => ¬ c.InRange khz

/-- Where the check has no result. -/
inductive Overflows (c : MotionConfig) : Fault → Prop where
  /-- The table is of the wrong length, and the right length is no counter. -/
  | needed (hlimits : c.LimitsInOrder) (hlen : c.speedTableKhz.length ≠ c.maxSpeedLevel + 1)
      (hover : Count.limit < c.maxSpeedLevel + 1) : Overflows c .addOverflow
  /-- The first entry out of range is, in hertz, no counter. -/
  | entry {khz : Nat} (hlimits : c.LimitsInOrder)
      (hlen : c.speedTableKhz.length = c.maxSpeedLevel + 1) (hfirst : c.misfit? = some khz)
      (hover : Count.limit < khz * 1000) : Overflows c .mulOverflow

variable {c : MotionConfig}

theorem not_inRange_of_misfit {khz : Nat} (h : c.misfit? = some khz) :
    khz ∈ c.speedTableKhz.tail ∧ ¬ c.InRange khz :=
  ⟨List.mem_of_find?_eq_some h, by simpa using List.find?_some h⟩

theorem inRange_of_no_misfit (h : c.misfit? = none) :
    ∀ khz ∈ c.speedTableKhz.tail, c.InRange khz := by
  simpa [misfit?] using h

theorem Overflows.limits {f : Fault} (h : c.Overflows f) : c.LimitsInOrder := by
  cases h with
  | needed hlimits _ _ => exact hlimits
  | entry hlimits _ _ _ => exact hlimits

/-- In a table of the right length it is the first entry out of range that cannot be counted. -/
theorem Overflows.of_entries {f : Fault} (h : c.Overflows f)
    (hlen : c.speedTableKhz.length = c.maxSpeedLevel + 1) :
    f = .mulOverflow ∧ ∃ khz, c.misfit? = some khz ∧ Count.limit < khz * 1000 := by
  cases h with
  | needed _ hother _ => exact absurd hlen hother
  | entry _ _ hfirst hover => exact ⟨rfl, _, hfirst, hover⟩

/-- With a table of the wrong length it is the right length. -/
theorem Overflows.of_length {f : Fault} (h : c.Overflows f)
    (hlen : c.speedTableKhz.length ≠ c.maxSpeedLevel + 1) :
    f = .addOverflow ∧ Count.limit < c.maxSpeedLevel + 1 := by
  cases h with
  | needed _ _ hover => exact ⟨rfl, hover⟩
  | entry _ hother _ _ => exact absurd hother hlen

/-- Figures with which the check fails do not fit together. -/
theorem Overflows.not_fits {f : Fault} (h : c.Overflows f) : ¬ c.Fits := by
  intro hfits
  obtain ⟨_, khz, hfirst, _⟩ := h.of_entries hfits.table.entries
  obtain ⟨hmem, hout⟩ := not_inRange_of_misfit hfirst
  exact hout (hfits.table.levels khz hmem)

/-- The check fails in one way only. -/
theorem Overflows.unique {f g : Fault} (hf : c.Overflows f) (hg : c.Overflows g) : f = g := by
  by_cases hlen : c.speedTableKhz.length = c.maxSpeedLevel + 1
  · exact (hf.of_entries hlen).1.trans (hg.of_entries hlen).1.symm
  · exact (hf.of_length hlen).1.trans (hg.of_length hlen).1.symm

/-! ## The three checks -/

theorem checkLimits_of_inOrder (h : c.LimitsInOrder) : c.checkLimits = .ok () := by
  have h1 : ¬ (c.minFreq = 0 ∨ c.maxFreq < c.minFreq) := by
    have := h.positive
    have := h.ordered
    omega
  have h2 : ¬ c.compumotorMaxFreq < c.maxFreq := Nat.not_lt.mpr h.within
  have h3 : ¬ (c.closedLoopMaxFreq < c.minFreq ∨ c.compumotorMaxFreq < c.closedLoopMaxFreq) := by
    have := h.closedLow
    have := h.closedHigh
    omega
  simp [checkLimits, h1, h2, h3, pure, Except.pure]

/-- Limits that are not in order are refused. -/
theorem checkLimits_refused (h : ¬ c.LimitsInOrder) : ∃ detail, c.checkLimits = reject detail := by
  unfold checkLimits
  by_cases h1 : c.minFreq = 0 ∨ c.maxFreq < c.minFreq
  · exact ⟨_, by simp only [h1, if_true]; rfl⟩
  · by_cases h2 : c.compumotorMaxFreq < c.maxFreq
    · exact ⟨_, by simp only [h1, h2, if_true, if_false]; rfl⟩
    · by_cases h3 : c.closedLoopMaxFreq < c.minFreq ∨ c.compumotorMaxFreq < c.closedLoopMaxFreq
      · exact ⟨_, by simp only [h1, h2, h3, if_true, if_false]; rfl⟩
      · exact absurd ⟨by omega, by omega, by omega, by omega, by omega⟩ h

/-- An entry is found out of range if it is, unless it cannot be counted in hertz. -/
theorem outOfRange_eq (hmax : c.maxFreq ≤ Count.limit) (khz : Nat) :
    c.outOfRange khz = if c.InRange khz then .ok false
      else (Count.checkedMul khz 1000).map fun _ => true := by
  -- what is in range is below the highest frequency, which is a counter
  unfold outOfRange Count.checkedMul InRange
  by_cases hin : c.minFreq ≤ khz * 1000 ∧ khz * 1000 ≤ c.maxFreq
  · have hcounted : khz * 1000 ≤ Count.limit := by omega
    have hnot : ¬ (khz * 1000 < c.minFreq ∨ c.maxFreq < khz * 1000) := by omega
    simp [hin, hcounted, hnot, bind, Except.bind, pure, Except.pure]
  · by_cases hcounted : khz * 1000 ≤ Count.limit
    · have hout : khz * 1000 < c.minFreq ∨ c.maxFreq < khz * 1000 := by omega
      simp [hin, hcounted, hout, bind, Except.bind, pure, Except.pure, Except.map]
    · simp [hin, hcounted, bind, Except.bind, Except.map]

/-- The search comes upon the first entry out of range, and counts it in hertz. -/
theorem firstOutOfRange_eq (hmax : c.maxFreq ≤ Count.limit) (entries : List Nat) :
    c.firstOutOfRange entries =
      match entries.find? fun khz => ¬ c.InRange khz with
      | none => .ok none
      | some khz => (Count.checkedMul khz 1000).map fun _ => some khz := by
  induction entries with
  | nil => rfl
  | cons khz rest ih =>
      rw [firstOutOfRange, outOfRange_eq hmax]
      by_cases hin : c.InRange khz
      · simpa [hin, List.find?_cons, bind, Except.bind] using ih
      · cases hcount : Count.checkedMul khz 1000 <;>
          simp [hin, hcount, bind, Except.bind, pure, Except.pure, Except.map]

/-- A table of the wrong length is refused, unless the text of the refusal cannot be written. -/
theorem checkTable_of_length (hlen : c.speedTableKhz.length ≠ c.maxSpeedLevel + 1) :
    (Count.limit < c.maxSpeedLevel + 1 ∧ c.checkTable = .error (.fault .addOverflow))
      ∨ (c.maxSpeedLevel + 1 ≤ Count.limit ∧ ∃ detail, c.checkTable = reject detail) := by
  unfold checkTable
  by_cases hcounted : c.maxSpeedLevel + 1 ≤ Count.limit
  · have hneeded : Count.checkedAdd c.maxSpeedLevel 1 = .ok (c.maxSpeedLevel + 1) := if_pos hcounted
    refine Or.inr ⟨hcounted,
      s!"free_run_freqs_khz needs {c.maxSpeedLevel + 1} entries, got {c.speedTableKhz.length}", ?_⟩
    simp only [hlen, hneeded, ne_eq, not_false_eq_true, if_true]
    rfl
  · have hneeded : Count.checkedAdd c.maxSpeedLevel 1 = .error .addOverflow := if_neg hcounted
    refine Or.inl ⟨by omega, ?_⟩
    simp only [hlen, hneeded, ne_eq, not_false_eq_true, if_true]
    rfl

/-- A table of the right length is refused for its first entry out of range, unless that entry
cannot be counted. -/
theorem checkTable_of_entries (hmax : c.maxFreq ≤ Count.limit)
    (hlen : c.speedTableKhz.length = c.maxSpeedLevel + 1) :
    (c.misfit? = none ∧ c.checkTable = .ok ())
      ∨ ∃ khz, c.misfit? = some khz
        ∧ ((Count.limit < khz * 1000 ∧ c.checkTable = .error (.fault .mulOverflow))
          ∨ (khz * 1000 ≤ Count.limit ∧ ∃ detail, c.checkTable = reject detail)) := by
  -- the entry of level zero is no frequency and is not looked at
  have hscan : c.firstOutOfRange c.speedTableKhz.tail =
      match c.misfit? with
      | none => .ok none
      | some khz => (Count.checkedMul khz 1000).map fun _ => some khz :=
    firstOutOfRange_eq hmax _
  unfold checkTable
  cases hfirst : c.misfit? with
  | none =>
      rw [hfirst] at hscan
      simp [hlen, hscan, orFault, bind, Except.bind, pure, Except.pure]
  | some khz =>
      rw [hfirst] at hscan
      refine Or.inr ⟨khz, rfl, ?_⟩
      by_cases hcounted : khz * 1000 ≤ Count.limit
      · have hhz : Count.checkedMul khz 1000 = .ok (khz * 1000) := if_pos hcounted
        refine Or.inr ⟨hcounted, s!"free run frequency {khz} kHz out of range", ?_⟩
        simp [hlen, hscan, hhz, orFault, bind, Except.bind, Except.map, reject]
      · have hhz : Count.checkedMul khz 1000 = .error .mulOverflow := if_neg hcounted
        refine Or.inl ⟨by omega, ?_⟩
        simp [hlen, hscan, hhz, orFault, bind, Except.bind, Except.map]

theorem checkRest_of_inOrder (h : c.RestInOrder) : c.checkRest = .ok () := by
  have happroach : ¬ (c.approachFreq < c.minFreq ∨ c.closedLoopMaxFreq < c.approachFreq) := by
    have := h.approachLow
    have := h.approachHigh
    omega
  simp [checkRest, happroach, h.slope, h.interval, h.divisor, h.commands, h.notifications,
    h.events, pure, Except.pure]

/-- Whatever else is not in order is refused. -/
theorem checkRest_refused (h : ¬ c.RestInOrder) : ∃ detail, c.checkRest = reject detail := by
  unfold checkRest
  by_cases h1 : c.approachFreq < c.minFreq ∨ c.closedLoopMaxFreq < c.approachFreq
  · exact ⟨_, by simp only [h1, if_true]; rfl⟩
  · by_cases h2 : c.slopeRatio = 0 ∨ c.reportInterval = 0
    · exact ⟨_, by simp only [h1, h2, if_true, if_false]; rfl⟩
    · by_cases h3 : c.closedLoopDivisor = 0
      · exact ⟨_, by simp only [h1, h2, h3, if_true, if_false]; rfl⟩
      · by_cases h4 : c.commandCapacity = 0 ∨ c.notificationCapacity = 0 ∨ c.eventCapacity = 0
        · exact ⟨_, by simp only [h1, h2, h3, h4, if_true, if_false]; rfl⟩
        · exact absurd ⟨by omega, by omega, by omega, by omega, h3, by omega, by omega, by omega⟩ h

/-! ## The check as a whole -/

/-- What comes of a check: the figures fit together, or it is refused because they do not, or it
fails. -/
inductive Judged (c : MotionConfig) : Except Failure Unit → Prop where
  | fits (h : c.Fits) : Judged c (.ok ())
  | refused {detail : String} (hmisfit : ¬ c.Fits) (hcounted : ∀ f, ¬ c.Overflows f) :
      Judged c (reject detail)
  | failed {f : Fault} (h : c.Overflows f) : Judged c (.error (.fault f))

/-- The checks are made in order, and the first one that does not pass decides. -/
theorem judged_validate (hwidth : c.compumotorMaxFreq ≤ Count.limit) : c.Judged c.validate := by
  unfold validate
  -- the cases in the order in which the checks are made, so that each one can rely on those before
  by_cases hlimits : c.LimitsInOrder
  · have hmax : c.maxFreq ≤ Count.limit := Nat.le_trans hlimits.within hwidth
    rw [checkLimits_of_inOrder hlimits]
    by_cases hlen : c.speedTableKhz.length = c.maxSpeedLevel + 1
    · rcases checkTable_of_entries hmax hlen with
        ⟨hnone, htable⟩ | ⟨khz, hfirst, ⟨hover, htable⟩ | ⟨hcounted, detail, htable⟩⟩
      · rw [htable]
        have hlevels : c.TableInRange := ⟨hlen, inRange_of_no_misfit hnone⟩
        by_cases hrest : c.RestInOrder
        · rw [checkRest_of_inOrder hrest]
          exact .fits ⟨hlimits, hlevels, hrest⟩
        · obtain ⟨detail, heq⟩ := checkRest_refused hrest
          rw [heq]
          refine .refused (fun h => hrest h.rest) fun f hf => ?_
          obtain ⟨_, khz, hfirst, _⟩ := hf.of_entries hlen
          exact absurd (hnone.symm.trans hfirst) (by simp)
      · rw [htable]
        exact .failed (.entry hlimits hlen hfirst hover)
      · rw [htable]
        obtain ⟨hmem, hout⟩ := not_inRange_of_misfit hfirst
        refine .refused (fun h => hout (h.table.levels khz hmem)) fun f hf => ?_
        obtain ⟨_, other, hother, hover⟩ := hf.of_entries hlen
        obtain rfl : khz = other := Option.some.inj (hfirst.symm.trans hother)
        exact absurd hcounted (Nat.not_le.mpr hover)
    · rcases checkTable_of_length hlen with ⟨hover, htable⟩ | ⟨hcounted, detail, htable⟩
      · rw [htable]
        exact .failed (.needed hlimits hlen hover)
      · rw [htable]
        exact .refused (fun h => hlen h.table.entries) fun f hf =>
          absurd hcounted (Nat.not_le.mpr (hf.of_length hlen).2)
  · obtain ⟨detail, heq⟩ := checkLimits_refused hlimits
    rw [heq]
    exact .refused (fun h => hlimits h.limits) fun f hf => hlimits hf.limits

/-- **A configuration is accepted if and only if its figures fit together**, and refused if they
do not, unless a figure is too large to be counted. The check fails exactly if the first entry of
the table that is out of range cannot be counted in hertz, or the length the table should have
cannot be written down. -/
theorem validate_outcomes (hwidth : c.compumotorMaxFreq ≤ Count.limit) :
    (c.validate = .ok () ↔ c.Fits)
      ∧ (∀ f, c.validate = .error (.fault f) ↔ c.Overflows f)
      ∧ (¬ c.Fits → (∀ f, ¬ c.Overflows f) →
          ∃ detail, c.validate = .error (.refused (.config detail))) := by
  have hjudged := judged_validate hwidth
  generalize c.validate = r at hjudged
  cases hjudged with
  | fits hfits =>
      refine ⟨by simp [hfits], fun f => ?_, fun hmisfit _ => absurd hfits hmisfit⟩
      have hnone : ¬ c.Overflows f := fun hf => hf.not_fits hfits
      simp [hnone]
  | refused hmisfit hcounted =>
      refine ⟨by simp [hmisfit, reject], fun f => ?_, fun _ _ => ⟨_, rfl⟩⟩
      simp [hcounted f, reject]
  | failed hf =>
      refine ⟨by simp [hf.not_fits], fun g => ?_, fun _ hcounted => absurd hf (hcounted _)⟩
      refine ⟨fun h => ?_, fun hg => by rw [hf.unique hg]⟩
      obtain rfl : _ = g := by simpa using h
      exact hf

/-- The figures of the boards as they are delivered fit together. With an entry of 4294968 kHz for
the highest level the check fails, because in hertz that is more than a counter holds. -/
theorem validate_outcomes_of_delivered :
    ({} : MotionConfig).compumotorMaxFreq ≤ Count.limit ∧ ({} : MotionConfig).Fits
      ∧ ({ speedTableKhz := [0, 5, 15, 25, 50, 75, 75, 100, 4294968] } : MotionConfig).Overflows
          .mulOverflow :=
  ⟨by decide, (validate_outcomes (by decide)).1.mp rfl,
    ((validate_outcomes (by decide)).2.1 _).mp rfl⟩

/-- Not every configuration is accepted or refused: an entry of the table may be too large in
hertz, and the highest level too large for the refusal of a table that is too short. -/
theorem validate_may_fail :
    ({ speedTableKhz := [0, 5, 15, 25, 50, 75, 75, 100, 4294968] } : MotionConfig).validate
        = .error (.fault .mulOverflow)
      ∧ ({ maxSpeedLevel := 4294967295 } : MotionConfig).validate
        = .error (.fault .addOverflow) :=
  ⟨rfl, rfl⟩

end MotionConfig

end StepperMotion
