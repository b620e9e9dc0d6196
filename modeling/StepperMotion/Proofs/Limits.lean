import StepperMotion.Config
import StepperMotion.Direction

/-!
# The limits of a configuration

The figures of a machine can be chosen so that no move is possible, or that a speed level asks for
more than the motor stands. `MotionConfig.validate` refuses these. `Sound` is what an accepted
configuration says about frequencies, in the form in which the moves use it.
-/

namespace StepperMotion

namespace MotionConfig

/-- The highest frequency of a kind of move. -/
def ceiling (c : MotionConfig) : Mode → Nat
  | .closedLoop => c.closedLoopMaxFreq
  | _ => c.maxFreq

/-- The frequency limits of an accepted configuration. -/
structure Sound (c : MotionConfig) : Prop where
  /-- Zero is out of range. -/
  positive : 0 < c.minFreq
  ordered : c.minFreq ≤ c.maxFreq
  /-- The motor stands what a free run may ask for. -/
  within : c.maxFreq ≤ c.compumotorMaxFreq
  closedLow : c.minFreq ≤ c.closedLoopMaxFreq
  /-- The motor stands what a closed-loop move may ask for. -/
  closedHigh : c.closedLoopMaxFreq ≤ c.compumotorMaxFreq
  /-- Every speed level has a frequency within the limits. -/
  levels : ∀ level freq, c.freeRunFreq level = .ok (some freq) →
    c.minFreq ≤ freq ∧ freq ≤ c.maxFreq
  /-- The frequency of every speed level can be counted. -/
  counted : ∀ level, ∃ freq?, c.freeRunFreq level = .ok freq?

theorem checkLimits_ok {c : MotionConfig} (h : c.checkLimits = .ok ()) :
    0 < c.minFreq ∧ c.minFreq ≤ c.maxFreq ∧ c.maxFreq ≤ c.compumotorMaxFreq
      ∧ c.minFreq ≤ c.closedLoopMaxFreq ∧ c.closedLoopMaxFreq ≤ c.compumotorMaxFreq := by
  unfold checkLimits at h
  by_cases h1 : c.minFreq = 0 ∨ c.maxFreq < c.minFreq
  · simp [h1, reject, bind, Except.bind] at h
  · by_cases h2 : c.compumotorMaxFreq < c.maxFreq
    · simp [h1, h2, reject, bind, Except.bind] at h
    · by_cases h3 : c.closedLoopMaxFreq < c.minFreq ∨ c.compumotorMaxFreq < c.closedLoopMaxFreq
      · simp [h1, h2, h3, reject] at h
      · omega

/-- If no entry is out of range, the entries can be counted and are within the limits. -/
theorem firstOutOfRange_none {c : MotionConfig} {entries : List Nat}
    (h : c.firstOutOfRange entries = .ok none) {khz : Nat} (hmem : khz ∈ entries) :
    ∃ hz, Count.checkedMul khz 1000 = .ok hz ∧ c.minFreq ≤ hz ∧ hz ≤ c.maxFreq := by
  induction entries with
  | nil => exact absurd hmem (by simp)
  | cons first rest ih =>
      rw [firstOutOfRange, outOfRange] at h
      cases hfirst : Count.checkedMul first 1000 with
      | error f => simp [hfirst, bind, Except.bind] at h
      | ok f =>
          by_cases hout : f < c.minFreq ∨ c.maxFreq < f
          · simp [hfirst, hout, bind, Except.bind, pure, Except.pure] at h
          · have hrest : c.firstOutOfRange rest = .ok none := by
              simpa [hfirst, hout, bind, Except.bind, pure, Except.pure] using h
            rcases List.mem_cons.mp hmem with rfl | hmem
            · exact ⟨f, hfirst, by omega⟩
            · exact ih hrest hmem

theorem checkTable_ok {c : MotionConfig} (h : c.checkTable = .ok ()) :
    c.firstOutOfRange c.speedTableKhz.tail = .ok none := by
  unfold checkTable at h
  by_cases hlen : c.speedTableKhz.length = c.maxSpeedLevel + 1
  · cases hfirst : c.firstOutOfRange c.speedTableKhz.tail with
    | error f => simp [hlen, hfirst, orFault, bind, Except.bind] at h
    | ok entry =>
        cases entry with
        | none => rfl
        | some khz => simp [hlen, hfirst, orFault, reject, bind, Except.bind] at h
  · cases hneeded : Count.checkedAdd c.maxSpeedLevel 1 <;>
      simp [hlen, hneeded, orFault, reject, bind, Except.bind] at h

/-- Level zero has no frequency, so that a frequency stems from the rest of the table. -/
theorem freeRunFreq_cases (c : MotionConfig) (level : Nat) :
    c.freeRunFreq level = .ok none
      ∨ ∃ khz ∈ c.speedTableKhz.tail,
        c.freeRunFreq level = (Count.checkedMul khz 1000).map some := by
  unfold freeRunFreq
  split
  · exact Or.inl rfl
  · rename_i hlevel
    split
    · exact Or.inl rfl
    · rename_i khz hentry
      refine Or.inr ⟨khz, ?_, rfl⟩
      obtain ⟨n, rfl⟩ : ∃ n, level = n + 1 := ⟨level - 1, by omega⟩
      rw [← List.getElem?_tail] at hentry
      exact List.mem_of_getElem? hentry

/-- **The limits of an accepted configuration are in order.** -/
theorem sound_of_validate {c : MotionConfig} (h : c.validate = .ok ()) : c.Sound := by
  unfold validate at h
  cases hlimits : c.checkLimits with
  | error e => simp [hlimits, bind, Except.bind] at h
  | ok u =>
      cases htable : c.checkTable with
      | error e => simp [hlimits, htable, bind, Except.bind] at h
      | ok v =>
          obtain ⟨hpos, hord, hmax, hlow, hhigh⟩ := checkLimits_ok hlimits
          have hentries : ∀ khz ∈ c.speedTableKhz.tail, _ := fun khz hmem =>
            firstOutOfRange_none (checkTable_ok htable) hmem
          refine ⟨hpos, hord, hmax, hlow, hhigh, fun level freq hf => ?_, fun level => ?_⟩
          · rcases freeRunFreq_cases c level with hnone | ⟨khz, hmem, heq⟩
            · exact absurd (hnone.symm.trans hf) (by simp)
            · obtain ⟨hz, hhz, hin⟩ := hentries khz hmem
              rw [heq, hhz] at hf
              obtain rfl : hz = freq := by simpa [Except.map] using hf
              exact hin
          · rcases freeRunFreq_cases c level with hnone | ⟨khz, hmem, heq⟩
            · exact ⟨none, hnone⟩
            · obtain ⟨hz, hhz, _⟩ := hentries khz hmem
              exact ⟨some hz, by rw [heq, hhz]; rfl⟩

theorem checkRest_ok {c : MotionConfig} (h : c.checkRest = .ok ()) :
    0 < c.reportInterval ∧ 0 < c.commandCapacity := by
  unfold checkRest at h
  by_cases h1 : c.approachFreq < c.minFreq ∨ c.closedLoopMaxFreq < c.approachFreq
  · simp [h1, reject, bind, Except.bind] at h
  · by_cases h2 : c.slopeRatio = 0 ∨ c.reportInterval = 0
    · simp [h1, h2, reject, bind, Except.bind] at h
    · by_cases h3 : c.closedLoopDivisor = 0
      · simp [h1, h2, h3, reject, bind, Except.bind] at h
      · by_cases h4 : c.commandCapacity = 0 ∨ c.notificationCapacity = 0 ∨ c.eventCapacity = 0
        · simp [h1, h2, h3, h4, reject] at h
        · omega

theorem rest_of_validate {c : MotionConfig} (h : c.validate = .ok ()) : c.checkRest = .ok () := by
  unfold validate at h
  cases hlimits : c.checkLimits with
  | error e => simp [hlimits, bind, Except.bind] at h
  | ok u =>
      cases htable : c.checkTable with
      | error e => simp [hlimits, htable, bind, Except.bind] at h
      | ok v => simpa [hlimits, htable, bind, Except.bind] using h

/-- With an accepted configuration, progress is reported now and then. -/
theorem interval_of_validate {c : MotionConfig} (h : c.validate = .ok ()) : 0 < c.reportInterval :=
  (checkRest_ok (rest_of_validate h)).1

/-- The inboxes of an accepted configuration have room. -/
theorem room_of_validate {c : MotionConfig} (h : c.validate = .ok ()) : 0 < c.commandCapacity :=
  (checkRest_ok (rest_of_validate h)).2

end MotionConfig

end StepperMotion
