import StepperMotion.Ramp

/-!
# Ramps keep to their band

A ramp brakes down to its decrement and climbs up to its ceiling. `Ramp.Within lo hi` says that both
lie between `lo` and `hi`, in the right order, with the frequency between them. A new ramp is within
the limits it was built for, and whatever is done to it afterwards leaves it there, because the
ceiling is only ever lowered and never below the decrement.

The sum in a climb is cut off at the largest counter. That is harmless as long as the ceiling is a
counter, which is the one assumption of `climb_within`.
-/

namespace StepperMotion.Ramp

/-- The frequency is between the decrement and the ceiling, and these are between the limits. -/
structure Within (lo hi : Nat) (r : Ramp) : Prop where
  /-- Braking does not lead below the lower limit. -/
  floor : lo ≤ r.decrement
  above : r.decrement ≤ r.current
  below : r.current ≤ r.requested
  /-- The ceiling is not above the upper limit. -/
  ceiling : r.requested ≤ hi

/-- The frequency of a ramp is within the limits. -/
theorem Within.current {lo hi : Nat} {r : Ramp} (h : r.Within lo hi) :
    lo ≤ r.current ∧ r.current ≤ hi := by
  obtain ⟨hfloor, habove, hbelow, hceil⟩ := h
  omega

theorem flat_within {lo hi freq : Nat} (hlo : lo ≤ freq) (hhi : freq ≤ hi) (nowMs : Nat) :
    (flat freq nowMs).Within lo hi :=
  ⟨hlo, Nat.le_refl _, Nat.le_refl _, hhi⟩

/-- A climb starts within the limits if it is to lead there. -/
theorem trapezoid_within {requested minFreq hi : Nat} (hlo : minFreq ≤ requested)
    (hhi : requested ≤ hi) (divisor slopeRatio periodMs nowMs : Nat) :
    (trapezoid requested divisor slopeRatio periodMs minFreq nowMs).Within minFreq hi := by
  refine ⟨?_, ?_, ?_, ?_⟩ <;> simp only [trapezoid] <;> omega

/-- Seeding succeeds just when the decrement is not above the ceiling. -/
theorem seed_eq (r : Ramp) (freq : Nat) :
    r.seed freq = if r.decrement ≤ r.requested then
        .ok { r with current := max r.decrement (min freq r.requested) }
      else .error (.crossedBounds r.decrement r.requested) := by
  rw [seed, Count.clampBetween]
  split <;> rfl

/-! ## What is done to a ramp during a move -/

/-- A ceiling is only lowered, and not below the decrement. -/
theorem cap_within {lo hi : Nat} {r : Ramp} (h : r.Within lo hi) (freq travelled : Nat) :
    (r.cap freq travelled).Within lo hi := by
  obtain ⟨hfloor, habove, hbelow, hceil⟩ := h
  unfold cap
  by_cases hcap : r.requested ≤ freq
  · rw [if_pos hcap]
    exact ⟨hfloor, habove, hbelow, hceil⟩
  · rw [if_neg hcap]
    refine ⟨hfloor, ?_, ?_, ?_⟩
    · show r.decrement ≤ min r.current (max freq r.decrement)
      omega
    · show min r.current (max freq r.decrement) ≤ max freq r.decrement
      omega
    · show max freq r.decrement ≤ hi
      omega

theorem climb_within {lo hi : Nat} {r : Ramp} (h : r.Within lo hi) (hhi : hi ≤ Count.limit)
    (p : Progress) : (r.climb p).Within lo hi := by
  have hin := h.current
  obtain ⟨hfloor, habove, hbelow, hceil⟩ := h
  unfold climb
  split
  · exact ⟨hfloor, habove, hbelow, hceil⟩
  · dsimp only
    split
    · -- the climb ends at the ceiling
      have hdr : r.decrement ≤ r.requested := by omega
      exact ⟨hfloor, hdr, Nat.le_refl _, hceil⟩
    · rename_i hbelow'
      -- the sum is not cut off below the frequency it started from
      have hup : r.current ≤ Count.add r.current r.increment := by
        unfold Count.add
        omega
      refine ⟨hfloor, ?_, ?_, hceil⟩
      · show r.decrement ≤ Count.add r.current r.increment
        omega
      · show Count.add r.current r.increment ≤ r.requested
        omega

theorem brake_within {lo hi : Nat} {r : Ramp} (h : r.Within lo hi) : r.brake.Within lo hi := by
  obtain ⟨hfloor, habove, hbelow, hceil⟩ := h
  refine ⟨hfloor, ?_, ?_, hceil⟩
  · show r.decrement ≤ max (r.current - r.decrement) r.decrement
    omega
  · show max (r.current - r.decrement) r.decrement ≤ r.requested
    omega

theorem update_within {lo hi : Nat} {r : Ramp} (h : r.Within lo hi) (hhi : hi ≤ Count.limit)
    (p : Progress) (nowMs : Nat) : (r.update p nowMs).Within lo hi := by
  have htime : ({ r with changedMs := nowMs } : Ramp).Within lo hi :=
    ⟨h.floor, h.above, h.below, h.ceiling⟩
  have hclimb := climb_within htime hhi p
  unfold update
  dsimp only
  split
  · exact brake_within hclimb
  · exact hclimb

end StepperMotion.Ramp
