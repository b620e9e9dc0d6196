import StepperMotion.Proofs.Shutdown

/-!
# An axis that is stopped stays stopped

After a move is over there is still a lot to come for its axis: reports that nobody has judged,
moves that were put down to go on, timer matches that were raised too late, commands that only ask
or stop. None of them gets the motor going, in whatever order they come and however often. Only a
command for a move does, and only if it passes the check (`startsMove`).

Not everybody who holds an axis is one of the parties of a station. So this is stated for runs of
deeds: an action of the station, or any operation on an axis by anybody.
-/

namespace StepperMotion

open Axis (Operation)

/-! ## Deeds -/

/-- Something that happens to a station, whoever does it. -/
inductive Deed where
  | action (x : Action)
  /-- Somebody holds an axis for the time of one operation. -/
  | hold (h : Nat) (o : Axis.Operation)
deriving DecidableEq, Repr

namespace Station

def does (s : Station) : Deed → Station
  | .action x => s.act x
  | .hold h o => { s with machine := s.machine.modifyAxis h fun a => (a.perform o).1 }

def through (s : Station) (ds : List Deed) : Station := ds.foldl does s

/-- The operations that a deed comes to for axis `j`, which is `a`. -/
def deedStrokes (s : Station) (j : Nat) (a : Axis) : Deed → List Operation
  | .action x => s.strokes j a x
  | .hold h o => if h = j then [o] else []

/-- **A deed changes an axis by its strokes, and in no other way.** -/
theorem does_axes (s : Station) (d : Deed) (j : Nat) :
    (s.does d).machine.axes[j]? = s.machine.axes[j]?.map fun a => a.after (s.deedStrokes j a d) := by
  cases d with
  | action x => exact act_axes s x j
  | hold h o => exact strokes_modify rfl fun a _ => after_single a o _

/-- An axis after a deed. -/
theorem axis_does {s : Station} {j : Nat} {a : Axis} (ha : s.machine.axes[j]? = some a) (d : Deed) :
    (s.does d).machine.axes[j]? = some (a.after (s.deedStrokes j a d)) := by
  rw [does_axes, ha]
  rfl

theorem through_append (s : Station) (ds es : List Deed) :
    s.through (ds ++ es) = (s.through ds).through es := List.foldl_append

/-- What every operation on an axis preserves holds of the axes of a station after any deeds. -/
theorem through_axes {P : Axis → Prop}
    (step : ∀ (a : Axis) (o : Operation), P a → P (a.perform o).1) {s : Station} {j : Nat}
    (h : ∀ a, s.machine.axes[j]? = some a → P a) (ds : List Deed) :
    ∀ a, (s.through ds).machine.axes[j]? = some a → P a := by
  induction ds generalizing s with
  | nil => exact h
  | cons d ds ih =>
      refine ih (s := s.does d) fun b hb => ?_
      rw [does_axes, Option.map_eq_some_iff] at hb
      obtain ⟨a, ha, rfl⟩ := hb
      exact Axis.after_induction step (h a ha) _

theorem coherent_through {s : Station} (h : s.Fresh) (ds : List Deed) {j : Nat} {a : Axis}
    (ha : (s.through ds).machine.axes[j]? = some a) : a.Coherent := by
  have hnew : ∀ b, s.machine.axes[j]? = some b → b.Coherent := by
    intro b hb
    obtain ⟨own, board, config, rfl⟩ := h.axes j b hb
    exact Axis.coherent_create j own board config
  exact through_axes (P := Axis.Coherent) (fun _ o hc => hc.perform o) hnew ds a ha

end Station

/-! ## The step line -/

namespace Axis

/-- The step line of the second axis is as that of the first one, and was not toggled since. -/
structure SameStepLine (a b : Axis) : Prop where
  toggles : b.board.toggles = a.board.toggles
  level : b.board.stepLevel = a.board.stepLevel

theorem SameStepLine.refl (a : Axis) : a.SameStepLine a := ⟨rfl, rfl⟩

theorem SameStepLine.trans {a b c : Axis} (h : a.SameStepLine b) (h' : b.SameStepLine c) :
    a.SameStepLine c :=
  ⟨h'.toggles.trans h.toggles, h'.level.trans h.level⟩

theorem stepLine_carried {a b : Axis} {nowMs : Nat} {c : Command} {r : Except Failure Outcome}
    (h : a.Carried nowMs c b r) : a.SameStepLine b := by
  cases h with
  | @launched p line _ =>
      obtain ⟨_, _, h⟩ := launch_frame (a.setUp p).nextEpoch p.ramp.current line
      rw [h]
      exact ⟨rfl, rfl⟩
  | failed _ _ => exact ⟨rfl, rfl⟩
  | @arrived setpoint _ =>
      obtain ⟨_, _, h⟩ := finishInPlace_frame ({ a with posCmd := setpoint } : Axis).sense
      rw [h]
      exact ⟨rfl, rfl⟩
  | stopped _ =>
      obtain ⟨_, _, _, h⟩ := stop_frame a
      rw [h]
      exact ⟨rfl, rfl⟩

theorem stepLine_effect {a b : Axis} {o : Operation} {f? : Option Fault} (h : a.Effect o b f?)
    (ho : ∀ nowMs, o ≠ .tick nowMs) : a.SameStepLine b := by
  cases h with
  | nothing => exact SameStepLine.refl a
  | carried hc => exact stepLine_carried hc
  | @served nowMs _ _ _ => exact absurd rfl (ho nowMs)
  | halted _ hb => rcases hb with rfl | rfl <;> exact ⟨rfl, rfl⟩
  | judged hb => rcases hb with rfl | rfl <;> exact ⟨rfl, rfl⟩
  | _ => exact ⟨rfl, rfl⟩

/-- **Only a timer match toggles the step line.** -/
theorem stepLine_perform {a : Axis} {o : Operation} (ho : ∀ nowMs, o ≠ .tick nowMs) :
    a.SameStepLine (a.perform o).1 := stepLine_effect (effect_perform a o) ho

/-! ## Operations that start no move -/

/-- The operation is a command for a move that passes the check. -/
def startsMove (a : Axis) : Operation → Bool
  | .apply c _ => decide (c ≠ .stop) && (a.validate c).isOk
  | _ => false

/-- None of the operations is a command for a move that passes the check when its turn comes. -/
def spared (a : Axis) : List Operation → Bool
  | [] => true
  | o :: ops => !a.startsMove o && (a.perform o).1.spared ops

/-- **Nothing but a command for a move gets an axis going that is stopped.** -/
theorem Still.spare {a : Axis} {n : Nat} (h : a.Still n) {o : Operation}
    (ho : a.startsMove o = false) : (a.perform o).1.Still n := by
  by_cases happly : ∃ c nowMs, o = .apply c nowMs
  · obtain ⟨c, nowMs, rfl⟩ := happly
    by_cases hc : c = .stop
    · -- a command to stop is carried out like a stop
      subst hc
      exact h.perform (o := .stop) (by simp)
    · rcases apply_cases a c nowMs with ⟨_, _, heq⟩ | ⟨hok, _⟩
      · simp only [Axis.perform, heq]
        exact h
      · simp [startsMove, hc, hok, Except.isOk, Except.toBool] at ho
  · exact h.perform fun c nowMs heq => happly ⟨c, nowMs, heq⟩

theorem Still.stepLine {a : Axis} {n : Nat} (h : a.Still n) (o : Operation) :
    a.SameStepLine (a.perform o).1 := by
  by_cases htick : ∃ nowMs, o = .tick nowMs
  · -- a match that comes too late is not served
    obtain ⟨nowMs, rfl⟩ := htick
    simp only [Axis.perform, tick_stopped h.mode]
    exact SameStepLine.refl a
  · exact stepLine_perform fun nowMs heq => htick ⟨nowMs, heq⟩

theorem Still.spares {a : Axis} {n : Nat} (h : a.Still n) {ops : List Operation}
    (hops : a.spared ops = true) : (a.after ops).Still n ∧ a.SameStepLine (a.after ops) := by
  induction ops generalizing a with
  | nil => exact ⟨h, SameStepLine.refl a⟩
  | cons o ops ih =>
      obtain ⟨hhead, htail⟩ := Bool.and_eq_true_iff.mp hops
      obtain ⟨hstill, hline⟩ := ih (h.spare (by simpa using hhead)) htail
      exact ⟨hstill, (h.stepLine o).trans hline⟩

end Axis

namespace Station

/-- No deed comes to a command for a move of axis `j` that passes the check. -/
def spares (s : Station) (j : Nat) : List Deed → Bool
  | [] => true
  | d :: ds =>
    (s.machine.axes[j]?.all fun a => a.spared (s.deedStrokes j a d)) && (s.does d).spares j ds

theorem still_through {s : Station} {j n : Nat} {a : Axis} (ha : s.machine.axes[j]? = some a)
    (hstill : a.Still n) {ds : List Deed} (hspare : s.spares j ds = true) :
    ∃ b, (s.through ds).machine.axes[j]? = some b ∧ b.Still n ∧ a.SameStepLine b := by
  induction ds generalizing s a with
  | nil => exact ⟨a, ha, hstill, Axis.SameStepLine.refl a⟩
  | cons d ds ih =>
      obtain ⟨hhead, htail⟩ := Bool.and_eq_true_iff.mp hspare
      rw [ha, Option.all_some] at hhead
      have hnext : (s.does d).machine.axes[j]? = some (a.after (s.deedStrokes j a d)) :=
        axis_does ha d
      obtain ⟨hstill', hline⟩ := hstill.spares hhead
      obtain ⟨b, hb, hlast, hline'⟩ := ih hnext hstill' htail
      exact ⟨b, hb, hlast, hline.trans hline'⟩

/-- **An axis that is stopped stays stopped, its timer is never started and its step line never
toggled,** however it came to be stopped and whoever does what to it, until it is given a command
for a move that passes the check. -/
theorem stopped_stays_stopped {s₀ : Station} (hfresh : s₀.Fresh) (past later : List Deed) {j : Nat}
    {a : Axis} (ha : (s₀.through past).machine.axes[j]? = some a) (hm : a.mode = .stopped)
    (hspare : (s₀.through past).spares j later = true) :
    ∃ b, (s₀.through (past ++ later)).machine.axes[j]? = some b
      ∧ b.mode = .stopped ∧ b.isRunning = false
      ∧ b.board.timer.starts = a.board.timer.starts
      ∧ b.board.toggles = a.board.toggles ∧ b.board.stepLevel = a.board.stepLevel := by
  have hcoh : a.Coherent := coherent_through hfresh past ha
  have hrest : a.isRunning = false := by
    cases hr : a.isRunning with
    | false => rfl
    | true => exact absurd hm (hcoh.moving hr)
  obtain ⟨b, hb, hstill, hline⟩ := still_through ha ⟨hm, hrest, rfl⟩ hspare
  rw [through_append]
  exact ⟨b, hb, hstill.mode, hstill.rests, hstill.starts, hline.toggles, hline.level⟩

/-- A closed-loop move passes its setpoint, and is stopped while it rests to go back. -/
def overshooting : List Deed :=
  ([.dispatch 0, .submit "x" (.closedLoop 500), .dispatch 0, .dispatch 0, .dispatch 0,
    .timerMatch 0 false, .place 0 900, .timerMatch 0 false, .supervise false, .supervise false,
    .supervise false, .stopAxis 0] : List Action).map .action

/-- What there is to come after that, and some more. -/
def aftermath : List Deed :=
  [.action (.pass 500), .action (.reverse 0), .hold 0 (.resume 2 500), .hold 0 (.tick 501),
    .action (.timerMatch 0 false), .hold 0 (.inspect ⟨0, 2, 900, .overshoot⟩),
    .hold 0 (.beginDirectionChange (.closedLoop 0)), .hold 0 .clearFaults,
    .action (.setOffset "x" 3), .action (.status "x"), .action (.submit "x" .stop),
    .action (.dispatch 0), .action (.dispatch 0), .hold 0 (.apply (.freeRun .clockwise 0) 502)]

theorem stopped_stays_stopped_of_overshooting :
    ∃ s₀ a, start {} [(⟨"x", 0, none⟩, {})] true = .ok s₀
      ∧ (s₀.through overshooting).reversals ≠ []
      ∧ (s₀.through overshooting).machine.axes[0]? = some a
      ∧ a.mode = .stopped ∧ a.board.toggles = 1
      ∧ (s₀.through overshooting).spares 0 aftermath = true
      ∧ ∃ b, (s₀.through (overshooting ++ aftermath)).machine.axes[0]? = some b
        ∧ b.mode = .stopped ∧ b.isRunning = false
        ∧ b.board.timer.starts = a.board.timer.starts
        ∧ b.board.toggles = a.board.toggles ∧ b.board.stepLevel = a.board.stepLevel := by
  obtain ⟨s₀, a, hstart, hrev, ha, hm, htoggles, hspare⟩ :
      ∃ s₀ a, start {} [(⟨"x", 0, none⟩, {})] true = .ok s₀
        ∧ (s₀.through overshooting).reversals ≠ []
        ∧ (s₀.through overshooting).machine.axes[0]? = some a
        ∧ a.mode = .stopped ∧ a.board.toggles = 1
        ∧ (s₀.through overshooting).spares 0 aftermath = true :=
    ⟨_, _, rfl, by decide, rfl, by decide, by decide, by decide⟩
  exact ⟨s₀, a, hstart, hrev, ha, hm, htoggles, hspare,
    stopped_stays_stopped (fresh_start hstart) overshooting aftermath ha hm hspare⟩

end Station

end StepperMotion
