import StepperMotion.Proofs.Stride

/-!
# What is counted as a stall

The supervisor keeps two things on an axis between one report and the next: where the axis was, and
how many reports in a row have shown that it hardly moves. Both are also written by others. A move
that is set up notes where it starts, a report of any kind notes where it was made, and a command
takes the signs of a stall back.

`stalled_iff_streak` says what the count amounts to. It speaks about the `chronicle` of an axis, all
that was ever done to it: which reports counted (`Notification.Counted`), which of them were signs of
a stall (`Notification.Low`), and how many of these signs came without a break (`streak`). Nothing of
this refers to the count that the axis keeps.
-/

namespace StepperMotion

open Axis (Operation)

/-! ## The past of an axis -/

namespace Axis

/-- Everything that was done to an axis, newest first, each with the axis as it was found. -/
def chronicle (a : Axis) : List Operation → List (Axis × Operation)
  | [] => []
  | o :: ops => (a.perform o).1.chronicle ops ++ [(a, o)]

theorem chronicle_snoc (a : Axis) (ops : List Operation) (o : Operation) :
    a.chronicle (ops ++ [o]) = (a.after ops, o) :: a.chronicle ops := by
  induction ops generalizing a with
  | nil => rfl
  | cons first ops ih =>
      show (a.perform first).1.chronicle (ops ++ [o]) ++ [(a, first)] = _
      rw [ih]
      rfl

/-- Carrying out a command sets up a move. -/
def setsUp (a : Axis) : Command → Bool
  | .stop => false
  | .closedLoop setpoint => !a.isAt setpoint
  | .freeRun .. | .steps .. => true

/-- A move is set up, or set up again. -/
def begins (a : Axis) : Operation → Bool
  | .apply c _ => (a.validate c).toBool && a.setsUp c
  | .resume epoch _ => a.awaitsResume epoch && a.setsUp (.closedLoop a.posCmd)
  | _ => false

/-- The position that an operation leaves for the next report to be compared with. -/
def sighting? : Axis × Operation → Option Int
  | (a, .inspect note) => if note.epoch = a.epoch then some note.posAct else none
  | (a, o) => if a.begins o then some a.board.position else none

/-- The position at the latest report of a current epoch, or at the latest start of a move if that was
later. Before there was any of them it is the position at the start. -/
def lastSeen (start : Int) (past : List (Axis × Operation)) : Int :=
  (past.findSome? sighting?).getD start

end Axis

/-! ## Signs of a stall -/

namespace Notification

/-- A report of the progress that an axis makes on its present move. -/
def Counted (note : Notification) (a : Axis) : Prop :=
  note.kind = .progress ∧ note.epoch = a.epoch ∧ a.mode ≠ .stopped

instance (note : Notification) (a : Axis) : Decidable (note.Counted a) :=
  inferInstanceAs (Decidable (_ ∧ _ ∧ _))

/-- A report that shows less than the threshold between the axis and where it was seen last. -/
def Low (note : Notification) (a : Axis) (lastPos : Int) : Prop :=
  Position.abs (Position.sub note.posAct lastPos) < a.config.stallThreshold

instance (note : Notification) (a : Axis) (lastPos : Int) : Decidable (note.Low a lastPos) :=
  inferInstanceAs (Decidable (_ < _))

end Notification

namespace Axis

/-- What tells for or against a stall. -/
inductive Sign where
  /-- The axis hardly moves. -/
  | low
  | moves
  /-- The earlier signs were taken back. -/
  | cleared
deriving DecidableEq

/-- The sign that an operation gives after everything in the past. -/
def sign? (start : Int) (past : List (Axis × Operation)) : Axis × Operation → Option Sign
  | (a, .inspect note) =>
    if note.Counted a then some (if note.Low a (lastSeen start past) then .low else .moves) else none
  | (_, .clearFaults) => some .cleared
  | _ => none

/-- All signs, newest first. -/
def signs (start : Int) : List (Axis × Operation) → List Sign
  | [] => []
  | entry :: past => (sign? start past entry).toList ++ signs start past

/-- How many signs of a stall there were without a break up to now. -/
def streak (start : Int) (past : List (Axis × Operation)) : Nat :=
  ((signs start past).takeWhile (· = .low)).length

theorem streak_cons (start : Int) (entry : Axis × Operation) (past : List (Axis × Operation)) :
    streak start (entry :: past) = match sign? start past entry with
      | some .low => streak start past + 1
      | some _ => 0
      | none => streak start past := by
  unfold streak
  rw [signs]
  split <;> rename_i hsign <;> rw [hsign]
  · rfl
  · rename_i sign hother
    cases sign with
    | low => exact absurd rfl hother
    | moves => rfl
    | cleared => rfl
  · rfl

/-! ## Judging a report -/

/-- The count after a report that counts. -/
def countAfter (a : Axis) (note : Notification) : Nat :=
  if note.Low a a.lastPos then Count.add a.stalledCount 1 else 0

/-- **A report that counts is counted, and trips the axis if it is the last one to do so.** -/
theorem inspect_counted {a : Axis} {note : Notification} (hon : a.config.stallDetection = true)
    (h : note.Counted a) :
    a.inspect note = if a.config.stallMaxCount ≤ a.countAfter note
      then ({ a.tripStall with lastPos := note.posAct, stalledCount := a.countAfter note }, .stalled)
      else ({ a with lastPos := note.posAct, stalledCount := a.countAfter note }, .quiet) := by
  obtain ⟨hkind, hepoch, hmoving⟩ := h
  have hmove : (a.config.stallDetection && a.mode.isMoving) = true := by
    simp [hon, Mode.isMoving, hmoving]
  have hwatch : a.watchProgress note.posAct = if a.config.stallMaxCount ≤ a.countAfter note
      then (tripStall { a with stalledCount := a.countAfter note }, .stalled)
      else ({ a with stalledCount := a.countAfter note }, .quiet) := if_pos hmove
  by_cases hmax : a.config.stallMaxCount ≤ a.countAfter note
  · rw [if_pos hmax] at hwatch ⊢
    simp only [inspect, if_pos hepoch, hkind, hwatch]
    rfl
  · rw [if_neg hmax] at hwatch ⊢
    simp only [inspect, if_pos hepoch, hkind, hwatch]

/-- **A report that does not count leaves a note of its position, if it is current.** -/
theorem inspect_uncounted {a : Axis} {note : Notification} (h : ¬ note.Counted a) :
    (a.inspect note).2 ≠ .stalled ∧ (a.inspect note).1
      = { a with lastPos := if note.epoch = a.epoch then note.posAct else a.lastPos } := by
  by_cases hepoch : note.epoch = a.epoch
  · rw [if_pos hepoch]
    simp only [inspect, if_pos hepoch]
    cases hkind : note.kind with
    | progress =>
        have hstopped : a.mode = .stopped :=
          Decidable.not_not.mp fun hmoving => h ⟨hkind, hepoch, hmoving⟩
        simp [watchProgress, Mode.isMoving, hstopped]
    | completed => exact ⟨by simp, rfl⟩
    | overshoot => exact ⟨by simp, rfl⟩
    | timerFault => exact ⟨by simp, rfl⟩
  · rw [if_neg hepoch]
    simp only [inspect, if_neg hepoch]
    exact ⟨by simp, trivial⟩

/-! ## What is remembered between reports -/

/-- What an axis remembers of the reports. -/
structure Recalls (b : Axis) (lastPos : Int) (stalledCount : Nat) : Prop where
  lastPos : b.lastPos = lastPos
  count : b.stalledCount = stalledCount

/-- A plan is made for a command that sets up a move. -/
theorem Plans.setsUp {a : Axis} {nowMs : Nat} {c : Command} {p : Plan} (h : a.Plans nowMs c p) :
    a.setsUp c = true := by
  cases h with
  | freeRun _ => rfl
  | steps _ => rfl
  | closedLoop hfar =>
      show (!a.isAt _) = true
      rw [hfar]
      rfl

theorem recalls_carried {a b : Axis} {nowMs : Nat} {c : Command} {r : Except Failure Outcome}
    (h : a.Carried nowMs c b r) :
    b.Recalls (if a.setsUp c then a.board.position else a.lastPos) a.stalledCount := by
  cases h with
  | @launched p line hp _ =>
      obtain ⟨_, _, h⟩ := launch_frame (a.setUp p).nextEpoch p.ramp.current line
      rw [h, if_pos hp.setsUp]
      exact ⟨rfl, rfl⟩
  | failed hp _ _ =>
      rw [if_pos hp.setsUp]
      exact ⟨rfl, rfl⟩
  | @arrived setpoint hc hthere =>
      have hnone : ¬ a.setsUp c = true := by
        subst hc
        simp [Axis.setsUp, hthere]
      obtain ⟨_, _, h⟩ := finishInPlace_frame ({ a with posCmd := setpoint } : Axis).sense
      rw [h, if_neg hnone]
      exact ⟨rfl, rfl⟩
  | stopped hc =>
      have hnone : ¬ a.setsUp c = true := by
        subst hc
        exact Bool.false_ne_true
      obtain ⟨_, _, _, h⟩ := stop_frame a
      rw [h, if_neg hnone]
      exact ⟨rfl, rfl⟩

theorem recalls_served {a b : Axis} {nowMs : Nat} {r : Except Fault (Option Notification)}
    (h : a.Served nowMs b r) : b.Recalls a.lastPos a.stalledCount := by
  obtain ⟨_, _, _, hobs⟩ := observe_eq a
  have hlook : a.observe.Recalls a.lastPos a.stalledCount := by
    rw [hobs]
    exact ⟨rfl, rfl⟩
  cases h with
  | idle _ => exact ⟨rfl, rfl⟩
  | arrived _ _ => exact ⟨hlook.lastPos, hlook.count⟩
  | overshot _ _ _ => exact ⟨hlook.lastPos, hlook.count⟩
  | refused _ _ _ _ _ => exact ⟨hlook.lastPos, hlook.count⟩
  | stepped _ _ _ hb _ =>
      rcases hb with ⟨_, rfl⟩ | ⟨_, _, rfl⟩ <;> exact ⟨hlook.lastPos, hlook.count⟩

theorem recalls_apply (a : Axis) (c : Command) (nowMs : Nat) :
    (a.apply c nowMs).axis.Recalls ((sighting? (a, .apply c nowMs)).getD a.lastPos)
      a.stalledCount := by
  have hsight : (sighting? (a, .apply c nowMs)).getD a.lastPos
      = if (a.validate c).toBool && a.setsUp c then a.board.position else a.lastPos := by
    show (if (a.validate c).toBool && a.setsUp c then _ else none : Option Int).getD _ = _
    split <;> rfl
  rw [hsight]
  rcases apply_cases a c nowMs with ⟨e, hrefused, heq⟩ | ⟨hvalid, hc⟩
  · rw [heq, hrefused]
    exact ⟨rfl, rfl⟩
  · rw [hvalid]
    exact recalls_carried hc

theorem recalls_resume (a : Axis) (epoch : UInt32) (nowMs : Nat) :
    (a.resume epoch nowMs).axis.Recalls ((sighting? (a, .resume epoch nowMs)).getD a.lastPos)
      a.stalledCount := by
  have hsight : (sighting? (a, .resume epoch nowMs)).getD a.lastPos
      = if a.awaitsResume epoch && a.setsUp (.closedLoop a.posCmd) then a.board.position
        else a.lastPos := by
    show (if a.awaitsResume epoch && a.setsUp (.closedLoop a.posCmd) then _
      else none : Option Int).getD _ = _
    split <;> rfl
  rw [hsight]
  rcases resume_cases a epoch nowMs with ⟨hnot, heq⟩ | ⟨hawaits, r, _, hc⟩
  · rw [heq, hnot]
    exact ⟨rfl, rfl⟩
  · rw [hawaits]
    exact recalls_carried hc

/-- **What is remembered of the reports changes when a report is judged, when the signs are taken back
and when a move is set up.** -/
theorem recalls_perform (a : Axis) {o : Operation} (hinspect : ∀ note, o ≠ .inspect note)
    (hclear : o ≠ .clearFaults) :
    (a.perform o).1.Recalls ((sighting? (a, o)).getD a.lastPos) a.stalledCount := by
  cases o with
  | apply c nowMs => exact recalls_apply a c nowMs
  | resume epoch nowMs => exact recalls_resume a epoch nowMs
  | tick nowMs => exact recalls_served (tick_served a nowMs)
  | beginDirectionChange c =>
      show (a.beginDirectionChange c).axis.Recalls a.lastPos a.stalledCount
      rcases beginDirectionChange_cases a c with ⟨_, h | h, _⟩ | ⟨_, _, h | h⟩ <;> rw [h] <;>
        exact ⟨rfl, rfl⟩
  | stop =>
      show a.stop.axis.Recalls a.lastPos a.stalledCount
      obtain ⟨_, _, _, h⟩ := stop_frame a
      rw [h]
      exact ⟨rfl, rfl⟩
  | inspect note => exact absurd rfl (hinspect note)
  | clearFaults => exact absurd rfl hclear
  | _ => exact ⟨rfl, rfl⟩

/-- What an axis remembers of the reports is what the past says: where it was seen last, and the
streak of signs as far as it can be counted. -/
def Recollects (start : Int) (past : List (Axis × Operation)) (a : Axis) : Prop :=
  a.Recalls (lastSeen start past) (min (streak start past) Count.limit)

variable {a : Axis} {start : Int} {past : List (Axis × Operation)}

theorem lastSeen_cons (start : Int) (entry : Axis × Operation) (past : List (Axis × Operation)) :
    lastSeen start (entry :: past) = (sighting? entry).getD (lastSeen start past) := by
  unfold lastSeen
  rw [List.findSome?_cons]
  cases sighting? entry <;> rfl

/-- The count after a report that counts is the streak with it. -/
theorem Recollects.countAfter (h : Recollects start past a) {note : Notification}
    (hcounted : note.Counted a) :
    a.countAfter note = min (streak start ((a, .inspect note) :: past)) Count.limit := by
  have hsign : sign? start past (a, .inspect note)
      = some (if note.Low a (lastSeen start past) then .low else .moves) := if_pos hcounted
  rw [Axis.countAfter, h.lastPos, h.count, streak_cons, hsign]
  by_cases hlow : note.Low a (lastSeen start past)
  · rw [if_pos hlow, if_pos hlow]
    show min (min (streak start past) Count.limit + 1) Count.limit
      = min (streak start past + 1) Count.limit
    omega
  · rw [if_neg hlow, if_neg hlow]
    rfl

/-- **An axis recollects its past after one more report.** -/
theorem Recollects.inspect (h : Recollects start past a) (hon : a.config.stallDetection = true)
    (note : Notification) :
    Recollects start ((a, .inspect note) :: past) (a.inspect note).1 := by
  unfold Recollects
  by_cases hcounted : note.Counted a
  · rw [lastSeen_cons]
    have hsight : sighting? (a, .inspect note) = some note.posAct := if_pos hcounted.2.1
    rw [hsight, ← h.countAfter hcounted, inspect_counted hon hcounted]
    split <;> exact ⟨rfl, rfl⟩
  · have hsign : sign? start past (a, .inspect note) = none := if_neg hcounted
    rw [lastSeen_cons, streak_cons, hsign, (inspect_uncounted hcounted).2]
    refine ⟨?_, h.count⟩
    show (if note.epoch = a.epoch then note.posAct else a.lastPos)
      = (if note.epoch = a.epoch then some note.posAct else none : Option Int).getD _
    rw [h.lastPos]
    split <;> rfl

/-- **An axis recollects its past after one more operation.** -/
theorem Recollects.perform (h : Recollects start past a) (hon : a.config.stallDetection = true)
    (o : Operation) : Recollects start ((a, o) :: past) (a.perform o).1 := by
  by_cases hinspect : ∃ note, o = .inspect note
  · obtain ⟨note, rfl⟩ := hinspect
    exact h.inspect hon note
  · by_cases hclear : o = .clearFaults
    · subst hclear
      unfold Recollects
      rw [lastSeen_cons, streak_cons]
      exact ⟨h.lastPos, rfl⟩
    · have hsign : sign? start past (a, o) = none := by
        cases o with
        | inspect note => exact absurd ⟨note, rfl⟩ hinspect
        | clearFaults => exact absurd rfl hclear
        | _ => rfl
      have hrecalls := recalls_perform a (fun note heq => hinspect ⟨note, heq⟩) hclear
      rw [h.lastPos, h.count] at hrecalls
      unfold Recollects
      rw [lastSeen_cons, streak_cons, hsign]
      exact hrecalls

/-- **Whatever was done to an axis, it recollects its past.** -/
theorem recollects_after (handle : Nat) (own : AxisConfig) (board : Board) {config : MotionConfig}
    (hon : config.stallDetection = true) (ops : List Operation) :
    Recollects board.position ((create handle own board config).chronicle ops)
      ((create handle own board config).after ops) := by
  induction ops using List.reverseRecOn with
  | nil => exact ⟨rfl, rfl⟩
  | append_singleton ops o ih =>
      have hsame : ((create handle own board config).after ops).config = config :=
        (settings_after (create handle own board config) ops).config
      rw [chronicle_snoc, after_append]
      exact ih.perform (by rw [hsame, hon]) o

end Axis

/-! ## The main power -/

namespace Station

/-- The main power is cut after the verdict `stalled`, and left alone after every other one. -/
theorem conclude_powered (s : Station) (axis : String) (note : Notification) (v : Verdict) :
    (s.conclude axis note v).machine.powered = if v = .stalled then false else s.machine.powered := by
  cases v <;> rfl

theorem judge_powered {s : Station} {note : Notification} {a : Axis}
    (ha : s.machine.axes[note.handle]? = some a) : (s.judge note).machine.powered
      = if (a.inspect note).2 = .stalled then false else s.machine.powered := by
  simp only [judge, ha]
  exact conclude_powered ..

end Station

/-! ## When an axis is tripped -/

namespace Axis

/-- What judging a report does to an axis and to the machine around it. -/
structure Trips (a b : Axis) (note : Notification) (v : Verdict) : Prop where
  /-- A stall leaves the axis at rest and marked. -/
  tripped : v = .stalled → b.mode = .stopped ∧ b.isRunning = false ∧ b.stalled = true
  /-- Any other verdict leaves mode, board and mark alone. -/
  kept : v ≠ .stalled → b.mode = a.mode ∧ b.board = a.board ∧ b.stalled = a.stalled
  /-- The main power is cut if there is a stall, and else left alone. -/
  power : ∀ s : Station, s.machine.axes[note.handle]? = some a →
    (s.judge note).machine.powered = if v = .stalled then false else s.machine.powered

theorem trips_inspect {a : Axis} (hon : a.config.stallDetection = true) (note : Notification) :
    a.Trips (a.inspect note).1 note (a.inspect note).2 := by
  by_cases hcounted : note.Counted a
  · refine ⟨?_, ?_, fun s ha => Station.judge_powered ha⟩ <;> rw [inspect_counted hon hcounted]
    · split
      · exact fun _ => ⟨rfl, rfl, rfl⟩
      · exact fun h => absurd h (by simp)
    · split
      · exact fun h => absurd rfl h
      · exact fun _ => ⟨rfl, rfl, rfl⟩
  · obtain ⟨hverdict, heq⟩ := inspect_uncounted hcounted
    refine ⟨fun h => absurd h hverdict, fun _ => ?_, fun s ha => Station.judge_powered ha⟩
    rw [heq]
    exact ⟨rfl, rfl, rfl⟩

/-- **A stall is found just when enough reports in a row have shown that the axis hardly moves.**
Whatever was done to the axis before, a report gives the verdict `stalled` if and only if it counts
and is low, and with it the streak of low reports is as long as the configuration asks for. Then the
axis is stopped and marked and the main power is cut; else none of this is touched. -/
theorem stalled_iff_streak (handle : Nat) (own : AxisConfig) (board : Board) {config : MotionConfig}
    (hon : config.stallDetection = true) (hpos : 1 ≤ config.stallMaxCount)
    (hfits : config.stallMaxCount ≤ Count.limit) (ops : List Operation) (note : Notification) :
    let a := (create handle own board config).after ops
    let past := (create handle own board config).chronicle ops
    ((a.inspect note).2 = .stalled ↔ note.Counted a ∧ note.Low a (lastSeen board.position past)
        ∧ config.stallMaxCount ≤ streak board.position ((a, .inspect note) :: past))
      ∧ a.Trips (a.inspect note).1 note (a.inspect note).2 := by
  intro a past
  have hsame : a.config = config := (settings_after (create handle own board config) ops).config
  have hona : a.config.stallDetection = true := hsame.symm ▸ hon
  have hpast : Recollects board.position past a := recollects_after handle own board hon ops
  refine ⟨?_, trips_inspect hona note⟩
  by_cases hcounted : note.Counted a
  · have hcount := hpast.countAfter hcounted
    have hverdict : (a.inspect note).2 = .stalled ↔ config.stallMaxCount ≤ a.countAfter note := by
      rw [inspect_counted hona hcounted, hsame]
      split
      · rename_i h
        exact iff_of_true rfl h
      · rename_i h
        exact iff_of_false (by simp) h
    rw [hverdict]
    constructor
    · intro h
      refine ⟨hcounted, ?_, by omega⟩
      -- a report that is not low ends the streak
      by_contra hmoves
      rw [Axis.countAfter, hpast.lastPos, if_neg hmoves] at h
      omega
    · rintro ⟨_, _, h⟩
      omega
  · exact iff_of_false (inspect_uncounted hcounted).1 fun h => hcounted h.1

/-- A motor is blocked after its first report. -/
def blockedLater : List Operation :=
  [.apply (.freeRun .clockwise 1) 0, .place 50, .tick 1, .inspect ⟨0, 1, 50, .progress⟩,
    .freeze true, .tick 2, .inspect ⟨0, 0, 7, .progress⟩, .inspect ⟨0, 1, 50, .progress⟩, .tick 3]

/-- Its second low report trips the axis; the one of an earlier epoch does not count. -/
theorem stalled_iff_streak_of_blockedLater :
    ∃ a past, a = (create 0 ⟨"x", 0, none⟩ {} { reportInterval := 1, stallMaxCount := 2 }).after
        blockedLater
      ∧ past = (create 0 ⟨"x", 0, none⟩ {}
        { reportInterval := 1, stallMaxCount := 2 }).chronicle blockedLater
      ∧ a.mode = .freeRunning ∧ (a.inspect ⟨0, 1, 50, .progress⟩).2 = .stalled
      ∧ 2 ≤ streak 0 ((a, .inspect ⟨0, 1, 50, .progress⟩) :: past)
      ∧ (a.inspect ⟨0, 1, 50, .progress⟩).1.mode = .stopped := by
  obtain ⟨hiff, htrips⟩ := stalled_iff_streak 0 ⟨"x", 0, none⟩ {}
    (show MotionConfig.stallDetection { reportInterval := 1, stallMaxCount := 2 } = true by rfl)
    (by decide) (by decide) blockedLater ⟨0, 1, 50, .progress⟩
  refine ⟨_, _, rfl, rfl, by decide, ?_⟩
  have hstalled : (((create 0 ⟨"x", 0, none⟩ {} { reportInterval := 1, stallMaxCount := 2 }).after
      blockedLater).inspect ⟨0, 1, 50, .progress⟩).2 = .stalled := by decide
  exact ⟨hstalled, (hiff.mp hstalled).2.2, (htrips.tripped hstalled).1⟩

end Axis

end StepperMotion
