import StepperMotion.Proofs.Turn

/-!
# Runs of a station

What every action preserves, every run preserves, and what every operation preserves of an axis holds
of the axes of a station after every run. So an invariant of a single axis is one of the axes of a
station that was started (`coherent_run`). The axes and the dispatchers of such a station are in
their places for good (`Placed`).
-/

namespace StepperMotion

open Axis (Operation)

namespace Station

/-! ## Runs -/

@[simp] theorem run_nil (s : Station) : s.run [] = s := rfl

@[simp] theorem run_cons (s : Station) (x : Action) (as : List Action) :
    s.run (x :: as) = (s.act x).run as := rfl

theorem run_append (s : Station) (as bs : List Action) : s.run (as ++ bs) = (s.run as).run bs :=
  List.foldl_append

theorem run_snoc (s : Station) (as : List Action) (x : Action) :
    s.run (as ++ [x]) = (s.run as).act x := run_append s as [x]

/-- **What every action of a run preserves, the run preserves.** -/
theorem run_of_mem {P : Station → Prop} {as : List Action}
    (step : ∀ (s : Station) (x : Action), x ∈ as → P s → P (s.act x)) {s : Station} (h : P s) :
    P (s.run as) := by
  induction as generalizing s with
  | nil => exact h
  | cons x as ih =>
      have hhead := step s x (List.mem_cons_self ..) h
      exact ih (fun s y hy => step s y (List.mem_cons_of_mem _ hy)) hhead

theorem run_induction {P : Station → Prop} (step : ∀ (s : Station) (x : Action), P s → P (s.act x))
    {s : Station} (h : P s) (as : List Action) : P (s.run as) :=
  run_of_mem (fun s x _ => step s x) h

theorem run_config (s : Station) (as : List Action) :
    (s.run as).machine.config = s.machine.config :=
  run_induction (P := fun s' => s'.machine.config = s.machine.config)
    (fun s' x h => (act_config s' x).trans h) rfl as

/-- What every operation on an axis preserves holds of all axes of a station after a run if it held
before. -/
theorem run_axes {P : Axis → Prop} (step : ∀ (a : Axis) (o : Operation), P a → P (a.perform o).1)
    {s : Station} {j : Nat} (h : ∀ a, s.machine.axes[j]? = some a → P a) (as : List Action) :
    ∀ a, (s.run as).machine.axes[j]? = some a → P a := by
  refine run_induction (P := fun s => ∀ a, s.machine.axes[j]? = some a → P a) (fun s x h b hb => ?_)
    h as
  rw [act_axes, Option.map_eq_some_iff] at hb
  obtain ⟨a, ha, rfl⟩ := hb
  exact Axis.after_induction step (h a ha) _

/-- An axis that is there after a run was there before. -/
theorem axis_of_run {s : Station} {as : List Action} {j : Nat} {b : Axis}
    (h : (s.run as).machine.axes[j]? = some b) : ∃ a, s.machine.axes[j]? = some a := by
  induction as generalizing s with
  | nil => exact ⟨b, h⟩
  | cons x as ih =>
      obtain ⟨c, hc⟩ := ih h
      rw [act_axes, Option.map_eq_some_iff] at hc
      obtain ⟨a, ha, _⟩ := hc
      exact ⟨a, ha⟩

/-- How often something happens in a run. -/
def times (s : Station) (p : Station → Action → Bool) : List Action → Nat
  | [] => 0
  | x :: as => (if p s x then 1 else 0) + (s.act x).times p as

theorem times_snoc (s : Station) (p : Station → Action → Bool) (as : List Action) (x : Action) :
    s.times p (as ++ [x]) = s.times p as + if p (s.run as) x then 1 else 0 := by
  induction as generalizing s with
  | nil => exact Nat.add_comm ..
  | cons y as ih => rw [List.cons_append, times, times, ih, run_cons, Nat.add_assoc]

/-- What never happens in a run does not happen last. -/
theorem never_snoc {s : Station} {p : Station → Action → Bool} {as : List Action} {x : Action} :
    s.times p (as ++ [x]) = 0 ↔ s.times p as = 0 ∧ p (s.run as) x = false := by
  rw [times_snoc, Nat.add_eq_zero_iff]
  cases p (s.run as) x <;> simp

/-! ## Who belongs where -/

/-- An axis has its place for a handle. -/
def Seated (s : Station) : Prop := ∀ (i : Nat) (a : Axis), s.machine.axes[i]? = some a → a.handle = i

theorem handle_strokes (s : Station) (j : Nat) (a : Axis) (x : Action) :
    (a.after (s.strokes j a x)).handle = a.handle := by
  rcases act_turn s j a x with (hc | hr) | ⟨hq, _⟩
  · exact hc.handle
  · exact hr.handle
  · exact hq.handle

theorem Seated.act {s : Station} (h : s.Seated) (x : Action) : (s.act x).Seated := by
  intro i b hb
  rw [act_axes, Option.map_eq_some_iff] at hb
  obtain ⟨a, ha, rfl⟩ := hb
  exact (handle_strokes s i a x).trans (h i a ha)

/-- Every axis knows its place, and every dispatcher serves the axis in its own place. -/
structure Placed (s : Station) : Prop where
  axes : ∀ (i : Nat) (a : Axis), s.machine.axes[i]? = some a → a.handle = i
  /-- There is one dispatcher for each axis at most. -/
  dispatchers : ∀ (i : Nat) (d : Dispatcher), s.dispatchers[i]? = some d → d.handle = i

theorem Placed.act {s : Station} (h : s.Placed) (x : Action) : (s.act x).Placed where
  axes := Seated.act h.axes x
  dispatchers i d hd := by
    obtain ⟨d, hd, hhandle, _⟩ := act_dispatchers hd
    exact hhandle.trans (h.dispatchers i d hd)

/-! ## Reports about an axis -/

/-- **A report about an axis is made by the timer match of this axis, in its epoch.** -/
theorem Reports.about {s : Station} {x : Action} {note : Notification} {j : Nat} {a : Axis}
    (h : s.Reports x note) (hseated : s.Seated) (hj : note.handle = j)
    (ha : s.machine.axes[j]? = some a) :
    x = .timerMatch j false ∧ a.isRunning = true ∧ (a.tick s.nowMs).2 = .ok (some note)
      ∧ note.epoch = a.epoch := by
  obtain ⟨i, a₁, rfl, ha₁, hrun, hreport⟩ := h
  have hserved := Axis.tick_served a₁ s.nowMs
  rw [hreport] at hserved
  obtain ⟨hhandle, hepoch, _⟩ := Axis.served_report hserved
  obtain rfl : i = j := by rw [← hseated i a₁ ha₁, ← hhandle, hj]
  obtain rfl := Option.some.inj (ha.symm.trans ha₁)
  exact ⟨rfl, hrun, hreport, hepoch⟩

/-- An axis about which a terminal report is made is at rest then. -/
theorem Reports.rests {s : Station} {x : Action} {note : Notification} {j : Nat} {a : Axis}
    (h : s.Reports x note) (hseated : s.Seated) (hj : note.handle = j)
    (ha : s.machine.axes[j]? = some a) (hk : note.kind.isTerminal = true) :
    (a.after (s.strokes j a x)).isRunning = false := by
  obtain ⟨rfl, hrun, hreport, _⟩ := h.about hseated hj ha
  simp only [strokes, hrun, and_self, if_true]
  exact Axis.rests_of_terminal hreport hk

/-! ## Runs of a station that was started -/

variable {config : MotionConfig} {axes : List (AxisConfig × Board)} {powered : Bool} {s : Station}

/-- What a station is when it has been started. -/
theorem start_ok (h : start config axes powered = .ok s) :
    config.validate = .ok () ∧ s.machine.config = config
      ∧ s.machine.axes = axes.mapIdx (fun j a => Axis.create j a.1 a.2 config)
      ∧ s.machine.notes.items = []
      ∧ s.dispatchers = s.machine.axes.mapIdx (newDispatcher config)
      ∧ s.supervisor = .starting ∧ s.reversals = [] ∧ s.nowMs = 0 := by
  unfold start at h
  cases hv : config.validate with
  | error e => simp [hv, bind, Except.bind] at h
  | ok u =>
      unfold bare Machine.build at h
      cases hname : Machine.firstRepeated [] (axes.map fun a => a.1.name) with
      | some name => simp [hv, hname, bind, Except.bind, Except.map] at h
      | none =>
          simp only [hv, hname, bind, Except.bind, Except.map, pure, Except.pure] at h
          obtain rfl := Except.ok.inj h
          exact ⟨rfl, rfl, rfl, rfl, rfl, rfl, rfl, rfl⟩

/-- Every axis of a station that was started is a new one. -/
theorem start_axis (h : start config axes powered = .ok s) {j : Nat} {a : Axis}
    (ha : s.machine.axes[j]? = some a) : ∃ own board, a = Axis.create j own board config := by
  obtain ⟨_, _, haxes, _⟩ := start_ok h
  rw [haxes, List.getElem?_mapIdx, Option.map_eq_some_iff] at ha
  obtain ⟨p, _, rfl⟩ := ha
  exact ⟨p.1, p.2, rfl⟩

theorem placed_start (h : start config axes powered = .ok s) : s.Placed where
  axes j a ha := by
    obtain ⟨own, board, rfl⟩ := start_axis h ha
    rfl
  dispatchers i d hd := by
    obtain ⟨_, _, _, _, hdispatchers, _⟩ := start_ok h
    rw [hdispatchers, List.getElem?_mapIdx, Option.map_eq_some_iff] at hd
    obtain ⟨a, _, rfl⟩ := hd
    rfl

/-- A station on which nothing has happened yet. It does not matter who works on it, and which
commands he has before him. -/
structure Fresh (s : Station) : Prop where
  axes : ∀ (j : Nat) (a : Axis), s.machine.axes[j]? = some a →
    ∃ own board config, a = Axis.create j own board config
  notes : s.machine.notes.items = []
  hand : ∀ note toVisit, s.supervisor ≠ .working (some note) toVisit

theorem fresh_start (h : start config axes powered = .ok s) : s.Fresh where
  axes j a ha := by
    obtain ⟨own, board, heq⟩ := start_axis h ha
    exact ⟨own, board, config, heq⟩
  notes := (start_ok h).2.2.2.1
  hand note toVisit := by
    rw [(start_ok h).2.2.2.2.2.1]
    simp

/-- Every axis of a station that was started is coherent, whatever has happened. -/
theorem coherent_run (h : start config axes powered = .ok s) (as : List Action) {j : Nat}
    {a : Axis} (ha : (s.run as).machine.axes[j]? = some a) : a.Coherent := by
  have hnew : ∀ b, s.machine.axes[j]? = some b → b.Coherent := by
    intro b hb
    obtain ⟨own, board, rfl⟩ := start_axis h hb
    exact Axis.coherent_create j own board config
  exact run_axes (P := Axis.Coherent) (fun _ o hc => hc.perform o) hnew as a ha

end Station

end StepperMotion
