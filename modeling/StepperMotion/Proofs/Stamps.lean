import StepperMotion.Proofs.Run
import Mathlib.Data.List.Induction

/-!
# What the epoch of a report is worth

The epoch of an axis counts how often it changed in a run, and wraps around. A report has the epoch
of its time. Whoever finds it to be the current one knows that it has been the same epoch all the
time, as long as there are fewer epochs than fit into their type (`Dated.current`). So if the report
was terminal, the axis has been at rest since (`Stamped`).
-/

namespace StepperMotion

namespace Station

/-! ## Counting epochs -/

def epoch? (s : Station) (j : Nat) : Option UInt32 := s.machine.axes[j]?.map Axis.epoch

theorem epoch_same_iff {s s' : Station} {j : Nat} {a b : Axis} (ha : s.machine.axes[j]? = some a)
    (hb : s'.machine.axes[j]? = some b) : s'.epoch? j = s.epoch? j ↔ b.epoch = a.epoch := by
  simp [epoch?, ha, hb]

theorem epoch_renewed {s s' : Station} {j : Nat} {a b : Axis} (ha : s.machine.axes[j]? = some a)
    (hb : s'.machine.axes[j]? = some b) (hepoch : b.epoch = a.epoch + 1) :
    s'.epoch? j ≠ s.epoch? j := by
  rw [Ne, epoch_same_iff ha hb]
  exact Axis.epoch_ne_of_next hepoch

/-- How often the epoch of axis `j` changes in a run. -/
def bumps (s : Station) (j : Nat) : List Action → Nat
  | [] => 0
  | x :: as => (if (s.act x).epoch? j = s.epoch? j then 0 else 1) + (s.act x).bumps j as

theorem bumps_snoc (s : Station) (j : Nat) (as : List Action) (x : Action) :
    s.bumps j (as ++ [x]) = s.bumps j as
      + if ((s.run as).act x).epoch? j = (s.run as).epoch? j then 0 else 1 := by
  induction as generalizing s with
  | nil => exact Nat.add_comm ..
  | cons y as ih =>
      rw [List.cons_append, bumps, bumps, ih, run_cons, Nat.add_assoc]

/-- Nothing is counted while the epoch goes on. -/
theorem bumps_continued {s : Station} {j : Nat} {as : List Action} {x : Action} {a b : Axis}
    (ha : (s.run as).machine.axes[j]? = some a)
    (hb : (s.run (as ++ [x])).machine.axes[j]? = some b) (hepoch : b.epoch = a.epoch) :
    s.bumps j (as ++ [x]) = s.bumps j as := by
  rw [bumps_snoc, if_pos]
  · rfl
  · rw [← run_snoc]
    exact (epoch_same_iff ha hb).mpr hepoch

/-- A new epoch is counted. -/
theorem bumps_renewed {s : Station} {j : Nat} {as : List Action} {x : Action} {a b : Axis}
    (ha : (s.run as).machine.axes[j]? = some a)
    (hb : (s.run (as ++ [x])).machine.axes[j]? = some b) (hepoch : b.epoch = a.epoch + 1) :
    s.bumps j (as ++ [x]) = s.bumps j as + 1 := by
  rw [bumps_snoc, if_neg]
  rw [← run_snoc]
  exact epoch_renewed ha hb hepoch

/-- An epoch of an axis that has begun `n` new ones; if it is the current one, then `p`. -/
def Dated (n : Nat) (epoch : UInt32) (p : Prop) : Prop :=
  ∃ k ≤ n, epoch = UInt32.ofNat k ∧ (k = n → p)

theorem Dated.now {n : Nat} {epoch : UInt32} {p : Prop} (he : epoch = UInt32.ofNat n) (hp : p) :
    Dated n epoch p := ⟨n, Nat.le_refl n, he, fun _ => hp⟩

theorem Dated.imp {n : Nat} {epoch : UInt32} {p q : Prop} (h : Dated n epoch p) (hpq : p → q) :
    Dated n epoch q := by
  obtain ⟨k, hk, hepoch, hp⟩ := h
  exact ⟨k, hk, hepoch, fun hkn => hpq (hp hkn)⟩

/-- When a new epoch begins, nothing is claimed about the older ones any more. -/
theorem Dated.older {n : Nat} {epoch : UInt32} {p q : Prop} (h : Dated n epoch p) :
    Dated (n + 1) epoch q := by
  obtain ⟨k, hk, hepoch, _⟩ := h
  refine ⟨k, by omega, hepoch, ?_⟩
  intro hkn
  omega

/-- **Epochs do not come back as long as there are few enough of them.** -/
theorem Dated.current {n : Nat} {epoch : UInt32} {p : Prop} (h : Dated n epoch p) (hn : n < UInt32.size)
    (he : epoch = UInt32.ofNat n) : p := by
  obtain ⟨k, hk, hepoch, hp⟩ := h
  -- two counts below the size of the type are equal if the epochs are
  have hsame := congrArg UInt32.toNat (hepoch.symm.trans he)
  have hk' : k < UInt32.size := by omega
  rw [UInt32.toNat_ofNat_of_lt' hk', UInt32.toNat_ofNat_of_lt' hn] at hsame
  exact hp hsame

theorem bumps_le_snoc (s : Station) (j : Nat) (as : List Action) (x : Action) :
    s.bumps j as ≤ s.bumps j (as ++ [x]) := by
  rw [bumps_snoc]
  exact Nat.le_add_right ..

/-! ## Reports and epochs -/

def Resting (s : Station) (j : Nat) : Prop :=
  ∀ a, s.machine.axes[j]? = some a → a.isRunning = false

/-- An axis before and after the last action of a run. -/
theorem axis_snoc {s : Station} {as : List Action} {x : Action} {j : Nat} {b : Axis}
    (hb : (s.run (as ++ [x])).machine.axes[j]? = some b) :
    ∃ a, (s.run as).machine.axes[j]? = some a ∧ b = a.after ((s.run as).strokes j a x) := by
  rw [run_snoc, act_axes, Option.map_eq_some_iff] at hb
  obtain ⟨a, ha, rfl⟩ := hb
  exact ⟨a, ha, rfl⟩

/-- What the reports about axis `j` that are in flight are worth after a run. -/
structure Stamped (s₀ : Station) (as : List Action) (j : Nat) : Prop where
  epoch : ∀ a, (s₀.run as).machine.axes[j]? = some a → a.epoch = UInt32.ofNat (s₀.bumps j as)
  /-- A report has the epoch of its time, and an axis in the epoch of a terminal one is at rest. -/
  flight : ∀ note, (s₀.run as).InFlight note → note.handle = j →
    Dated (s₀.bumps j as) note.epoch (note.kind.isTerminal = true → (s₀.run as).Resting j)

theorem Fresh.seated {s : Station} (h : s.Fresh) : s.Seated := by
  intro i a ha
  obtain ⟨own, board, config, rfl⟩ := h.axes i a ha
  rfl

theorem Seated.run {s : Station} (h : s.Seated) (as : List Action) : (s.run as).Seated :=
  run_induction (P := Seated) (fun _ x h => h.act x) h as

/-- Nothing has been reported on a station that is fresh. -/
theorem Fresh.not_inFlight {s : Station} (h : s.Fresh) (note : Notification) :
    ¬ s.InFlight note := by
  intro hflight
  cases hflight with
  | queued hmem =>
      rw [h.notes] at hmem
      exact absurd hmem (by simp)
  | inHand hs => exact h.hand note _ hs
  | parked ha hp =>
      obtain ⟨own, board, config, rfl⟩ := h.axes _ _ ha
      exact absurd hp (by simp [Axis.create])

theorem stamped_fresh {s : Station} (h : s.Fresh) (j : Nat) : s.Stamped [] j where
  epoch a ha := by
    obtain ⟨own, board, config, rfl⟩ := h.axes j a ha
    rfl
  flight note hf _ := absurd hf (h.not_inFlight note)

theorem Stamped.step {s₀ : Station} {as : List Action} {j : Nat} (h : s₀.Stamped as j)
    (hseated : (s₀.run as).Seated) {x : Action} {b : Axis}
    (hb : (s₀.run (as ++ [x])).machine.axes[j]? = some b) : s₀.Stamped (as ++ [x]) j := by
  obtain ⟨a, ha, heq⟩ := axis_snoc hb
  have hturn := act_epoch (s₀.run as) j a x
  rw [← heq] at hturn
  rcases hturn with hc | hnext
  · have hbumps : s₀.bumps j (as ++ [x]) = s₀.bumps j as := bumps_continued ha hb hc.epoch
    refine ⟨?_, ?_⟩ <;> rw [hbumps]
    · intro b₁ hb₁
      obtain rfl := Option.some.inj (hb.symm.trans hb₁)
      rw [hc.epoch]
      exact h.epoch a ha
    · intro note hf hj
      rw [run_snoc] at hf
      rcases act_inFlight hf with hold | hnew
      · refine (h.flight note hold hj).imp fun hrest hk b₁ hb₁ => ?_
        obtain rfl := Option.some.inj (hb.symm.trans hb₁)
        exact hc.rests (hrest hk a ha)
      · have hstamp := (hnew.about hseated hj ha).2.2.2
        refine .now (hstamp.trans (h.epoch a ha)) fun hk b₁ hb₁ => ?_
        obtain rfl := Option.some.inj (hb.symm.trans hb₁)
        rw [heq]
        exact hnew.rests hseated hj ha hk
  · have hbumps : s₀.bumps j (as ++ [x]) = s₀.bumps j as + 1 := bumps_renewed ha hb hnext
    refine ⟨?_, ?_⟩ <;> rw [hbumps]
    · intro b₁ hb₁
      obtain rfl := Option.some.inj (hb.symm.trans hb₁)
      rw [hnext, h.epoch a ha]
      exact (UInt32.ofNat_add ..).symm
    · intro note hf hj
      rw [run_snoc] at hf
      rcases act_inFlight hf with hold | hnew
      · exact (h.flight note hold hj).older
      · -- the report has the epoch that has just ended
        have hstamp := (hnew.about hseated hj ha).2.2.2
        exact (Dated.now (hstamp.trans (h.epoch a ha)) trivial).older

/-- **The stamps are worth what they say after every run.** -/
theorem Fresh.stamped {s₀ : Station} (h : s₀.Fresh) (as : List Action) {j : Nat} {b : Axis}
    (hb : (s₀.run as).machine.axes[j]? = some b) : s₀.Stamped as j := by
  induction as using List.reverseRecOn generalizing b with
  | nil => exact stamped_fresh h j
  | append_singleton as x ih =>
      obtain ⟨a, ha, _⟩ := axis_snoc hb
      exact (ih ha).step (h.seated.run as) hb

end Station

end StepperMotion
