import StepperMotion.Proofs.Reversal
import StepperMotion.Proofs.Service

/-!
# A station that is shut down

Shutting a station down stops every axis, hangs up, and calls the dispatchers and the supervisor off
one after the other. In between, those who have not been called off yet go on with their strokes.

An axis that was stopped is stopped for good if its dispatcher goes on with no command before it is
called off (`stopped_for_good`). Commands that are left behind, a rest that is not over and moves that
were put down to go on do no harm then. But a command that was accepted before the axis was stopped
does not know that it was: if its dispatcher gets a turn before it is called off, it carries the
command out, and then there is nobody left to stop the axis (`moving_after_shutdown`).
-/

namespace StepperMotion

open Axis (Operation)

/-! ## An axis that is left alone -/

namespace Axis

/-- The axis is stopped, and its timer is at rest and was started so many times. -/
structure Still (starts : Nat) (a : Axis) : Prop where
  mode : a.mode = .stopped
  rests : a.isRunning = false
  starts : a.board.timer.starts = starts

/-- **Only a command gets an axis going that is stopped.** -/
theorem Still.perform {a : Axis} {n : Nat} (h : a.Still n) {o : Operation}
    (ho : ∀ c nowMs, o ≠ .apply c nowMs) : (a.perform o).1.Still n := by
  cases o with
  | apply c nowMs => exact absurd rfl (ho c nowMs)
  | beginDirectionChange c =>
      rcases beginDirectionChange_cases a c with ⟨_, heq | heq, _⟩ | ⟨_, hm, _⟩
      · simp only [Axis.perform, heq]
        exact h
      · simp only [Axis.perform, heq]
        exact ⟨h.mode, h.rests, h.starts⟩
      · exact absurd h.mode hm
  | tick nowMs =>
      simp only [Axis.perform, tick_stopped h.mode]
      exact h
  | stop =>
      rcases stop_cases a with ⟨_, heq, _⟩ | ⟨hm, _, _⟩
      · simp only [Axis.perform, heq]
        exact h
      · exact absurd h.mode hm
  | resume epoch nowMs =>
      have hnot : a.awaitsResume epoch = false := by simp [awaitsResume, h.mode]
      rcases resume_cases a epoch nowMs with ⟨_, heq⟩ | ⟨hawait, _⟩
      · simp only [Axis.perform, heq]
        exact h
      · exact absurd (hnot.symm.trans hawait) (by simp)
  | inspect note =>
      obtain ⟨b, _, _, hb, heq⟩ := inspect_cases a note
      simp only [Axis.perform, heq]
      rcases hb with rfl | rfl
      · exact ⟨h.mode, h.rests, h.starts⟩
      · exact ⟨rfl, rfl, h.starts⟩
  | tripStall => exact ⟨rfl, rfl, h.starts⟩
  | clearFaults => exact ⟨h.mode, h.rests, h.starts⟩
  | setOffset offset => exact ⟨h.mode, h.rests, h.starts⟩
  | status => exact ⟨h.mode, h.rests, h.starts⟩
  | park note => exact ⟨h.mode, h.rests, h.starts⟩
  | takeParked => exact ⟨h.mode, h.rests, h.starts⟩
  | countDropped => exact ⟨h.mode, h.rests, h.starts⟩
  | place position => exact ⟨h.mode, h.rests, h.starts⟩
  | freeze frozen => exact ⟨h.mode, h.rests, h.starts⟩
  | limitTimer hz => exact ⟨h.mode, h.rests, h.starts⟩

theorem Still.after {a : Axis} {n : Nat} (h : a.Still n) {ops : List Operation}
    (hops : ∀ c nowMs, .apply c nowMs ∉ ops) : (a.after ops).Still n := by
  induction ops generalizing a with
  | nil => exact h
  | cons o ops ih =>
      have hhead : ∀ c nowMs, o ≠ .apply c nowMs := by
        intro c nowMs heq
        exact hops c nowMs (heq ▸ List.mem_cons_self ..)
      refine ih (h.perform hhead) ?_
      intro c nowMs hmem
      exact hops c nowMs (List.mem_cons_of_mem _ hmem)

/-- An axis that was told to stop is still, if it is coherent. -/
theorem Coherent.still {a : Axis} (h : a.Coherent) : a.stop.axis.Still a.board.timer.starts := by
  refine ⟨stop_mode a, ?_, ?_⟩
  · cases hr : a.stop.axis.isRunning with
    | false => rfl
    | true => exact absurd (stop_mode a) (h.stop.moving hr)
  · rcases stop_cases a with ⟨_, heq, _⟩ | ⟨_, heq, _⟩ <;> rw [heq]
    rfl

end Axis

/-! ## Who gives commands -/

namespace Station

/-- A timer match is no command. -/
theorem apply_not_mem_matchStrokes (m : Machine) (a : Axis) (nowMs : Nat) (c : Command) (t : Nat) :
    .apply c t ∉ m.matchStrokes nowMs a := by
  intro hmem
  rcases Machine.mem_matchStrokes hmem with h | ⟨_, _, _, _, ⟨_, h⟩ | ⟨_, h⟩⟩ <;>
    exact absurd h (by simp)

/-- **A command is carried out by a dispatcher that has checked it.** -/
theorem dispatch_of_apply {s : Station} {j : Nat} {a : Axis} {x : Action} {c : Command} {nowMs : Nat}
    (h : .apply c nowMs ∈ s.strokes j a x) :
    ∃ i d, x = .dispatch i ∧ s.dispatchers[i]? = some d ∧ d.handle = j
      ∧ ((∃ e, d.phase = .ready e)
        ∨ ∃ e untilMs, d.phase = .waiting e untilMs ∧ untilMs ≤ s.nowMs) := by
  have hstruck := s.strokes_struck j a x
  generalize s.strokes j a x = ops at h hstruck
  cases hstruck with
  | alone => exact absurd h (by simp)
  | minor hminor =>
      obtain rfl := List.mem_singleton.mp h
      exact absurd hminor (by simp [Axis.Operation.isMinor])
  | matched _ => exact absurd h (apply_not_mem_matchStrokes _ _ _ _ _)
  | @dispatched i d hd hj =>
      refine ⟨i, d, rfl, hd, hj, ?_⟩
      cases hphase : d.phase with
      | ready e => exact Or.inl ⟨e, rfl⟩
      | waiting e untilMs =>
          refine Or.inr ⟨e, untilMs, rfl, ?_⟩
          by_contra hearly
          simp [hphase, Axis.phaseStrokes, hearly] at h
      | received e =>
          -- a command that has only been received is checked first
          simp only [hphase, Axis.phaseStrokes, Axis.prepareStrokes] at h
          split at h
          · exact absurd h (by simp)
          · split at h <;> exact absurd h (by simp)
      | _ => simp [hphase, Axis.phaseStrokes] at h
  | resumed _ _ _ => exact absurd h (by simp)
  | stopped => exact absurd h (by simp)

/-! ## A dispatcher that goes on with no command -/

/-- At its next stroke dispatcher `j` goes on with a command. -/
def pending (s : Station) (j : Nat) : Bool :=
  s.dispatchers[j]?.any fun d =>
    match d.phase with
    | .idle => !d.inbox.items.isEmpty
    | .received _ | .ready _ => true
    | .waiting _ untilMs => decide (untilMs ≤ s.nowMs)
    | .starting | .ended | .failed _ => false

/-- Whenever dispatcher `j` makes a stroke, there is no command before it, or it lets the axis rest
before it carries one out. -/
def idles (s : Station) (j : Nat) : List Action → Bool
  | [] => true
  | x :: xs => !(decide (x = .dispatch j) && s.pending j) && (s.act x).idles j xs

theorem idles_cons {s : Station} {j : Nat} {x : Action} {xs : List Action} :
    s.idles j (x :: xs) = true
      ↔ (x = .dispatch j → s.pending j = false) ∧ (s.act x).idles j xs = true := by
  by_cases hx : x = .dispatch j <;> simp [idles, hx]

theorem idles_append {s : Station} {j : Nat} {xs ys : List Action} (hxs : s.idles j xs = true)
    (hys : (s.run xs).idles j ys = true) : s.idles j (xs ++ ys) = true := by
  induction xs generalizing s with
  | nil => exact hys
  | cons x xs ih =>
      obtain ⟨hhead, htail⟩ := idles_cons.mp hxs
      exact idles_cons.mpr ⟨hhead, ih htail hys⟩

/-- Nobody works as dispatcher `j` any more. -/
def Vacant (s : Station) (j : Nat) : Prop :=
  ∀ d, s.dispatchers[j]? = some d → d.phase.isLive = false

theorem Vacant.act {s : Station} {j : Nat} (h : s.Vacant j) (x : Action) : (s.act x).Vacant j := by
  intro d' hd'
  by_contra hlive
  obtain ⟨d, hd, hworks⟩ := live_of_act hd' (by simpa using hlive)
  exact absurd (hworks.symm.trans (h d hd)) (by simp)

theorem Vacant.pending {s : Station} {j : Nat} (h : s.Vacant j) : s.pending j = false := by
  unfold Station.pending
  cases hd : s.dispatchers[j]? with
  | none => rfl
  | some d =>
      have hgone := h d hd
      cases hp : d.phase with
      | starting | ended | failed f => simp [hp]
      | _ => simp [hp, Dispatcher.Phase.isLive] at hgone

/-- **A dispatcher that was called off goes on with nothing,** whoever gives commands. -/
theorem Vacant.idles {s : Station} {j : Nat} (h : s.Vacant j) (xs : List Action) :
    s.idles j xs = true := by
  induction xs generalizing s with
  | nil => rfl
  | cons x xs ih => exact idles_cons.mpr ⟨fun _ => h.pending, ih (h.act x)⟩

/-- Nobody commands an axis whose dispatcher goes on with no command. -/
theorem apply_not_mem_strokes {s : Station} {j : Nat} (hp : s.Placed) {x : Action}
    (hidle : x = .dispatch j → s.pending j = false) (a : Axis) (c : Command) (nowMs : Nat) :
    .apply c nowMs ∉ s.strokes j a x := by
  intro hmem
  obtain ⟨i, d, rfl, hd, hj, hphase⟩ := dispatch_of_apply hmem
  obtain rfl : i = j := (hp.dispatchers i d hd).symm.trans hj
  have hnone := hidle rfl
  rcases hphase with ⟨e, hphase⟩ | ⟨e, untilMs, hphase, hdue⟩
  · simp [pending, hd, hphase] at hnone
  · simp [pending, hd, hphase, hdue] at hnone

/-! ## Stopping for good -/

/-- **An axis that is still stays still as long as its dispatcher goes on with no command.** -/
theorem still_run {s : Station} {j n : Nat} {a : Axis} (hp : s.Placed)
    (ha : s.machine.axes[j]? = some a) (hstill : a.Still n) {xs : List Action}
    (hidle : s.idles j xs = true) :
    ∃ b, (s.run xs).machine.axes[j]? = some b ∧ b.Still n := by
  induction xs generalizing s a with
  | nil => exact ⟨a, ha, hstill⟩
  | cons x xs ih =>
      obtain ⟨hhead, htail⟩ := idles_cons.mp hidle
      have hb : (s.act x).machine.axes[j]? = some (a.after (s.strokes j a x)) := axis_act ha x
      have hafter : (a.after (s.strokes j a x)).Still n :=
        hstill.after (apply_not_mem_strokes hp hhead a)
      exact ih (hp.act x) hb hafter htail

/-- **An axis that was stopped is stopped for good once its dispatcher is called off, if the
dispatcher goes on with no command in between,** whoever made his strokes before and after, and
whatever commands were left behind and whatever moves put down to go on. -/
theorem stopped_for_good {config : MotionConfig} {axes : List (AxisConfig × Board)} {powered : Bool}
    {s₀ : Station} (hstart : start config axes powered = .ok s₀) (past : List Action) {j : Nat}
    {a : Axis} (ha : (s₀.run past).machine.axes[j]? = some a) {closing : List Action}
    (hidle : (s₀.run (past ++ [.stopAxis j])).idles j closing = true)
    (hoff : (s₀.run (past ++ [.stopAxis j] ++ closing)).Vacant j) (later : List Action) :
    ∃ b, (s₀.run (past ++ [.stopAxis j] ++ closing ++ later)).machine.axes[j]? = some b
      ∧ b.mode = .stopped ∧ b.isRunning = false
      ∧ b.board.timer.starts = a.board.timer.starts := by
  have hplaced : (s₀.run (past ++ [.stopAxis j])).Placed :=
    run_induction (P := Placed) (fun _ x h => h.act x) (placed_start hstart) _
  have hnow : (s₀.run (past ++ [.stopAxis j])).machine.axes[j]? = some a.stop.axis := by
    rw [run_append, run_cons]
    show ((s₀.run past).act (.stopAxis j)).machine.axes[j]? = _
    rw [act_axes, ha]
    simp only [strokes, if_true]
    rfl
  have hstill := (coherent_run hstart past ha).still
  rw [run_append] at hoff
  have hall := idles_append hidle (hoff.idles later)
  obtain ⟨b, hb, hend⟩ := still_run hplaced hnow hstill hall
  refine ⟨b, ?_, hend.mode, hend.rests, hend.starts⟩
  rw [List.append_assoc, run_append]
  exact hb

/-- A closed-loop move has passed its setpoint and rests to go back. Then a command comes that turns
the axis, for which it rests, and one more waits in the inbox. -/
def unfinished : List Action :=
  [.dispatch 0, .submit "x" (.closedLoop 500), .dispatch 0, .dispatch 0, .dispatch 0,
    .timerMatch 0 false, .place 0 900, .timerMatch 0 false, .supervise false, .supervise false,
    .supervise false, .submit "x" (.freeRun .clockwise 1), .dispatch 0, .dispatch 0,
    .submit "x" (.freeRun .counterClockwise 2)]

/-- The station is shut down. Everybody gets one more turn, and then he is called off. -/
def closingTime : List Action :=
  [.hangUp, .reverse 0, .dispatch 0, .cancelDispatcher 0, .supervise false, .cancelSupervisor]

/-- The rests come to their end, and somebody gives one more command. -/
def nextDay : List Action :=
  [.pass 500, .dispatch 0, .reverse 0, .submit "x" (.freeRun .clockwise 1), .dispatch 0,
    .timerMatch 0 false]

theorem stopped_for_good_of_unfinished :
    ∃ s₀ a, start {} [(⟨"x", 0, none⟩, {})] true = .ok s₀
      ∧ (s₀.run unfinished).reversals ≠ []
      ∧ (s₀.run unfinished).machine.axes[0]? = some a
      ∧ (s₀.run (unfinished ++ [.stopAxis 0])).idles 0 closingTime = true
      ∧ (s₀.run (unfinished ++ [.stopAxis 0] ++ closingTime)).Vacant 0
      ∧ ∃ b, (s₀.run (unfinished ++ [.stopAxis 0] ++ closingTime ++ nextDay)).machine.axes[0]?
          = some b
        ∧ b.mode = .stopped ∧ b.isRunning = false
        ∧ b.board.timer.starts = a.board.timer.starts := by
  obtain ⟨s₀, a, hstart, hrev, ha, hidle, hgone⟩ :
      ∃ s₀ a, start {} [(⟨"x", 0, none⟩, {})] true = .ok s₀
        ∧ (s₀.run unfinished).reversals ≠ []
        ∧ (s₀.run unfinished).machine.axes[0]? = some a
        ∧ (s₀.run (unfinished ++ [.stopAxis 0])).idles 0 closingTime = true
        ∧ ∀ d ∈ (s₀.run (unfinished ++ [.stopAxis 0] ++ closingTime)).dispatchers,
            d.phase.isLive = false :=
    ⟨_, _, rfl, by decide, rfl, by decide, by decide⟩
  have hoff : (s₀.run (unfinished ++ [.stopAxis 0] ++ closingTime)).Vacant 0 :=
    fun d hd => hgone d (List.mem_of_getElem? hd)
  exact ⟨s₀, a, hstart, hrev, ha, hidle, hoff,
    stopped_for_good hstart unfinished ha hidle hoff nextDay⟩

/-- A command is accepted for the second of two axes, the station is shut down, and the dispatcher
of this axis carries the command out before it is called off. -/
theorem moving_after_shutdown :
    ∃ s₀, start {} [(⟨"x", 0, none⟩, {}), (⟨"y", 0, none⟩, {})] true = .ok s₀
      ∧ ∃ b, (s₀.run [.dispatch 1, .submit "y" (.freeRun .clockwise 1), .stopAxis 0, .stopAxis 1,
          .hangUp, .cancelDispatcher 0, .dispatch 1, .dispatch 1, .dispatch 1, .dispatch 1,
          .cancelDispatcher 1, .cancelSupervisor]).machine.axes[1]? = some b
        ∧ b.mode = .freeRunning ∧ b.isRunning = true :=
  ⟨_, rfl, _, rfl, by decide, by decide⟩

end Station

end StepperMotion
