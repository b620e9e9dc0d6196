import StepperMotion.Proofs.Between
import StepperMotion.Proofs.StallDetection

/-!
# Progress is reported in a fixed cadence

The axis counts the half-steps since its last report, and three things set that count back: a
report, the start of a move, and a timer match that finds the direction changed. The last one is a
trap. The direction is compared with the one at the last match, which may belong to a move of long
ago, so that the first match of a move may set a count back that the start of the move has set back
already. It must not do so at any later match.

`Axis.pulses` is the count as the next match will find it, and that is what has a law: it is the
number of half-steps of the move modulo the interval between two reports. The number itself is not
kept anywhere. The counter of half-steps comes to its limit in a long move, and the cadence goes on.
-/

namespace StepperMotion

open Axis (Operation)

namespace Axis

variable {a b : Axis} {n nowMs freq : Nat} {o : Operation}

/-- The reply is a report of progress. -/
def Reply.isProgress : Reply → Bool
  | .report (.ok (some note)) => note.kind == .progress
  | _ => false

/-- A match that does not report progress is not counted as one that does. -/
theorem isProgress_of_quiet {r : Except Fault (Option Notification)}
    (h : ∀ note, r = .ok (some note) → note.kind ≠ .progress) :
    (Reply.report r).isProgress = false := by
  unfold Reply.isProgress
  split
  · rename_i note heq
    have hr : r = .ok (some note) := Reply.report.inj heq
    exact beq_eq_false_iff_ne.mpr (h note hr)
  · rfl

/-- Only a timer match reports progress. -/
theorem isProgress_of_not_tick (htick : ∀ nowMs, o ≠ .tick nowMs) :
    (a.perform o).2.isProgress = false := by
  cases o with
  | tick nowMs => exact absurd rfl (htick nowMs)
  | _ => rfl

/-! ## One match -/

/-- A match has noted the direction, so that the count is no longer in question. -/
theorem pulses_seen (a : Axis) : a.observe.pulses = a.pulses := by
  rw [observe_exact]
  exact if_pos rfl

/-- **A match that makes no half-step leaves the counts alone.** -/
theorem Ceases.counts (h : a.Ceases (a.tick nowMs).1 (a.tick nowMs).2) :
    (a.tick nowMs).1.pulses = a.pulses
      ∧ (a.tick nowMs).1.halfStepsCompleted = a.halfStepsCompleted := by
  have hpulses := a.pulses_seen
  have hcompleted : a.observe.halfStepsCompleted = a.halfStepsCompleted := by rw [observe_exact]
  have htoggles := h.toggles
  have hserved := tick_served a nowMs
  generalize (a.tick nowMs).1 = b at hserved htoggles ⊢
  generalize (a.tick nowMs).2 = r at hserved
  cases hserved with
  | idle _ => exact ⟨rfl, rfl⟩
  | arrived _ _ => exact ⟨hpulses, hcompleted⟩
  | overshot _ _ _ => exact ⟨hpulses, hcompleted⟩
  | refused _ _ _ _ _ => exact ⟨hpulses, hcompleted⟩
  | @stepped b n _ _ _ _ hb _ =>
      have hlook : a.observe.board.toggles = a.board.toggles := congrArg Board.toggles a.observe_board
      have hsame : b.board.toggles = a.board.toggles := by
        rcases hb with ⟨_, rfl⟩ | ⟨_, _, rfl⟩ <;> exact hlook
      have hone : b.board.toggles + 1 = a.board.toggles := htoggles
      omega

/-- An axis that has made so many half-steps of the move that began as axis `b`. -/
structure InStep (b a : Axis) (n : Nat) : Prop where
  config : a.config = b.config
  toggles : a.board.toggles = b.board.toggles + n
  completed : a.halfStepsCompleted = min n Count.limit
  /-- So many half-steps since the last report. -/
  beat : a.pulses = n % b.config.reportInterval

/-- What a match comes to after so many half-steps of its move. -/
inductive Beat (b a : Axis) (n nowMs : Nat) : Prop where
  /-- It makes no half-step, and reports no progress. -/
  | rests (hsame : b.InStep (a.tick nowMs).1 n)
      (hquiet : ∀ note, (a.tick nowMs).2 = .ok (some note) → note.kind ≠ .progress)
  /-- It makes a half-step between two reports. -/
  | counts (hnext : b.InStep (a.tick nowMs).1 (n + 1)) (hearly : ¬ b.config.reportInterval ∣ n + 1)
      (hreply : (a.tick nowMs).2 = .ok none)
  | reports (hnext : b.InStep (a.tick nowMs).1 (n + 1)) (hdue : b.config.reportInterval ∣ n + 1)
      (hreply : (a.tick nowMs).2 = .ok (some (a.sense.report .progress)))

/-- A half-step in the beat of its move is the next one. -/
theorem InStep.next {r : Except Fault (Option Notification)} {c : Axis} (h : b.InStep a n)
    (hbeats : a.Beats c r) (hbeat : c.pulses = (n + 1) % b.config.reportInterval) :
    b.InStep c (n + 1) := by
  refine ⟨hbeats.config.trans h.config, ?_, ?_, hbeat⟩
  · obtain ⟨timer, hboard⟩ := hbeats.board
    rw [hboard]
    show a.board.toggles + 1 = b.board.toggles + (n + 1)
    rw [h.toggles]
    omega
  · rw [hbeats.completed, h.completed]
    unfold Count.add
    omega

/-- **A match is in the beat of its move.** -/
theorem InStep.tick (h : b.InStep a n) (hpos : 0 < b.config.reportInterval)
    (hwidth : b.config.reportInterval ≤ Count.limit) (nowMs : Nat) : b.Beat a n nowMs := by
  have hbeat := h.beat
  have hbelow := Nat.mod_lt n hpos
  have hroom : a.pulses + 1 ≤ Count.limit := by
    rw [hbeat]
    omega
  rcases tick_ceases_or_beats nowMs hroom with hceases | hbeats
  · obtain ⟨hpulses, hcompleted⟩ := hceases.counts
    have hconfig : (a.tick nowMs).1.config = a.config := (settings_perform a (.tick nowMs)).config
    refine .rests ⟨?_, ?_, ?_, ?_⟩ ?_
    · rw [hconfig, h.config]
    · rw [hceases.toggles, h.toggles]
    · rw [hcompleted, h.completed]
    · rw [hpulses, h.beat]
    · intro note hreply
      exact hceases.terminal note (by rw [hreply]; rfl)
  · obtain ⟨note?, hreply, _⟩ := hbeats.report
    have hpulses := hbeats.beat
    have htold := hbeats.told
    rw [hreply] at htold
    rw [h.config, hbeat] at hpulses htold
    -- whether a report is due is asked of the count, and the count is that of the move
    rcases next_pulse hpos n with ⟨hfull, hnone, _, _⟩ | ⟨hmore, hnext, _⟩
    · rw [if_pos hfull] at hpulses htold
      have hnote : note? = some (a.sense.report .progress) := htold
      rw [hnote] at hreply
      exact .reports (h.next hbeats (hpulses.trans hnone.symm)) (Nat.dvd_of_mod_eq_zero hnone) hreply
    · have hnot : ¬ b.config.reportInterval ≤ n % b.config.reportInterval + 1 := by omega
      rw [if_neg hnot] at hpulses htold
      have hnote : note? = none := htold
      rw [hnote] at hreply
      refine .counts (h.next hbeats (hpulses.trans hnext.symm)) ?_ hreply
      intro hdvd
      have hzero := Nat.mod_eq_zero_of_dvd hdvd
      omega

/-! ## A run of a move -/

/-- What spares a move leaves it where it was. -/
theorem InStep.spares {c : Axis} (h : b.InStep a n) (hs : a.Spares c) : b.InStep c n where
  config := hs.config.trans h.config
  toggles := hs.toggles.trans h.toggles
  completed := hs.completed.trans h.completed
  beat := hs.pulses.trans h.beat

theorem InStep.perform (h : b.InStep a n) (hpos : 0 < b.config.reportInterval)
    (hwidth : b.config.reportInterval ≤ Count.limit) (ho : a.begins o = false) :
    ∃ m, b.InStep (a.perform o).1 m ∧ m / b.config.reportInterval
      = n / b.config.reportInterval + if (a.perform o).2.isProgress then 1 else 0 := by
  by_cases htick : ∃ nowMs, o = .tick nowMs
  · obtain ⟨nowMs, rfl⟩ := htick
    cases h.tick hpos hwidth nowMs with
    | rests hsame hquiet =>
        have hnone : (a.perform (.tick nowMs)).2.isProgress = false := isProgress_of_quiet hquiet
        exact ⟨n, hsame, by simp [hnone]⟩
    | counts hnext hearly hreply =>
        have hnone : (a.perform (.tick nowMs)).2.isProgress = false := by
          show (Reply.report (a.tick nowMs).2).isProgress = false
          rw [hreply]
          rfl
        refine ⟨n + 1, hnext, ?_⟩
        rw [Nat.succ_div_of_not_dvd hearly, hnone]
        rfl
    | reports hnext hdue hreply =>
        have hone : (a.perform (.tick nowMs)).2.isProgress = true := by
          show (Reply.report (a.tick nowMs).2).isProgress = true
          rw [hreply]
          rfl
        refine ⟨n + 1, hnext, ?_⟩
        rw [Nat.succ_div_of_dvd hdue, hone]
        rfl
  · have hother : ∀ nowMs, o ≠ .tick nowMs := fun nowMs heq => htick ⟨nowMs, heq⟩
    have hnone := isProgress_of_not_tick (a := a) hother
    exact ⟨n, h.spares (spares_perform ho hother), by simp [hnone]⟩

/-- **In the course of a move there is one report of progress for every full interval.** -/
theorem InStep.run {ops : List Operation} (h : b.InStep a n) (hpos : 0 < b.config.reportInterval)
    (hwidth : b.config.reportInterval ≤ Count.limit) (hops : a.unbroken ops = true) :
    ∃ m, b.InStep (a.after ops) m ∧ m / b.config.reportInterval
      = n / b.config.reportInterval + (a.replies ops).countP Reply.isProgress := by
  induction ops generalizing a n with
  | nil => exact ⟨n, h, rfl⟩
  | cons o ops ih =>
      obtain ⟨ho, hrest⟩ := unbroken_cons hops
      obtain ⟨k, hnext, hfirst⟩ := h.perform hpos hwidth ho
      obtain ⟨m, hlast, hlater⟩ := ih hnext hrest
      refine ⟨m, hlast, ?_⟩
      rw [replies, List.countP_cons, hlater, hfirst]
      omega

/-- A move begins without half-steps, whatever was counted before. -/
theorem inStep_begun (hstarted : (a.perform o).2.started? = some freq) :
    (a.perform o).1.InStep (a.perform o).1 0 := by
  obtain ⟨nowMs, c, hcarried⟩ := started_carried hstarted
  have hnone : (a.perform o).1.halfPulses = 0 ∧ (a.perform o).1.halfStepsCompleted = 0 := by
    generalize hr : (.ok (.started freq) : Except Failure Outcome) = r at hcarried
    generalize (a.perform o).1 = b at hcarried ⊢
    cases hcarried with
    | @launched p line _ _ =>
        obtain ⟨_, _, h⟩ := launch_frame (a.setUp p).nextEpoch p.ramp.current line
        rw [h]
        exact ⟨rfl, rfl⟩
    | failed _ _ _ => exact absurd hr (by simp)
    | arrived _ _ => exact absurd hr (by simp)
    | stopped _ => rcases stop_cases a with ⟨_, _, h⟩ | ⟨_, _, h⟩ <;> simp [h] at hr
  obtain ⟨hpulses, hcompleted⟩ := hnone
  have hfewer := (a.perform o).1.pulses_le
  refine ⟨rfl, rfl, ?_, ?_⟩
  · rw [hcompleted, Nat.zero_min]
  · rw [Nat.zero_mod]
    omega

/-! ## The cadence of a move -/

/-- What is said of a run of the move that began as axis `b`, if so many half-steps were made in it.
-/
structure Cadence (b : Axis) (ops : List Operation) (n : Nat) : Prop where
  halfSteps : (b.after ops).board.toggles = b.board.toggles + n
  /-- The counter of the axis stays at its limit. -/
  completed : (b.after ops).halfStepsCompleted = min n Count.limit
  reports : (b.replies ops).countP Reply.isProgress = n / b.config.reportInterval
  /-- The next match reports progress if it makes half-step number `n + 1` and that is a multiple of
  the interval, and not otherwise. -/
  next : ∀ nowMs, (∃ note, ((b.after ops).tick nowMs).2 = .ok (some note) ∧ note.kind = .progress)
    ↔ ((b.after ops).tick nowMs).1.board.toggles = b.board.toggles + (n + 1)
      ∧ b.config.reportInterval ∣ n + 1
  /-- The report is of the current epoch, and of the position before the half-step. -/
  note : ∀ nowMs note, ((b.after ops).tick nowMs).2 = .ok (some note) → note.kind = .progress →
    note = ⟨(b.after ops).handle, (b.after ops).epoch, (b.after ops).board.position, .progress⟩

theorem InStep.cadence {ops : List Operation} (h : b.InStep (b.after ops) n)
    (hpos : 0 < b.config.reportInterval) (hwidth : b.config.reportInterval ≤ Count.limit)
    (hreports : (b.replies ops).countP Reply.isProgress = n / b.config.reportInterval) :
    b.Cadence ops n := by
  refine ⟨h.toggles, h.completed, hreports, fun nowMs => ?_, fun nowMs note hnote hkind => ?_⟩
  · cases h.tick hpos hwidth nowMs with
    | rests hsame hquiet =>
        refine iff_of_false ?_ ?_
        · rintro ⟨note, hnote, hkind⟩
          exact hquiet note hnote hkind
        · rintro ⟨htoggles, _⟩
          have hnone := hsame.toggles
          omega
    | counts _ hearly hreply =>
        refine iff_of_false ?_ fun hboth => hearly hboth.2
        rintro ⟨note, hnote, _⟩
        exact absurd (hreply.symm.trans hnote) (by simp)
    | reports hnext hdue hreply =>
        exact iff_of_true ⟨_, hreply, rfl⟩ ⟨hnext.toggles, hdue⟩
  · cases h.tick hpos hwidth nowMs with
    | rests _ hquiet => exact absurd hkind (hquiet note hnote)
    | counts _ _ hreply => exact absurd (hreply.symm.trans hnote) (by simp)
    | reports _ _ hreply =>
        have hsame := Except.ok.inj (hreply.symm.trans hnote)
        exact (Option.some.inj hsame).symm

/-- **Progress is reported in a fixed cadence.** However a move was started, and whatever has
happened to the axis before, a timer match of the move reports progress just when it makes a
half-step whose number is a multiple of the interval. So after `n` half-steps there have been
`n / reportInterval` reports, also when `n` is more than can be counted. Each of them is of the
current epoch, and shows where the axis was before the half-step. -/
theorem progress_in_cadence {ops : List Operation} (hpos : 1 ≤ a.config.reportInterval)
    (hwidth : a.config.reportInterval ≤ Count.limit)
    (hstarted : (a.perform o).2.started? = some freq)
    (hops : (a.perform o).1.unbroken ops = true) : ∃ n, (a.perform o).1.Cadence ops n := by
  have hconfig : (a.perform o).1.config = a.config := (settings_perform a o).config
  rw [← hconfig] at hpos hwidth
  obtain ⟨n, hlast, hreports⟩ := (inStep_begun hstarted).run hpos hwidth hops
  rw [Nat.zero_div, Nat.zero_add] at hreports
  exact ⟨n, hlast.cadence hpos hwidth hreports.symm⟩

/-- An axis that reports after every third half-step, and has been turned beyond its setpoint when
it had made two. -/
def passed : Axis :=
  (create 0 ⟨"x", 0, none⟩ {} { reportInterval := 3 }).after
    [.apply (.closedLoop 500) 0, .tick 1, .tick 2, .place 600, .tick 3]

/-- The move goes on in the other direction, for ten half-steps so far; among them a command is
refused, and the shaft is turned. -/
def goingBack : List Operation :=
  ticks (5 + ·) 4 ++ [.status, .apply (.steps .clockwise 99 1 1 1) 9, .place 590] ++ ticks (10 + ·) 6

theorem progress_in_cadence_of_goingBack :
    (passed.perform (.resume 1 4)).2.started? = some 2500
      ∧ (passed.perform (.resume 1 4)).1.unbroken goingBack = true
      ∧ (∃ n, (passed.perform (.resume 1 4)).1.Cadence goingBack n)
      ∧ ((passed.perform (.resume 1 4)).1.after goingBack).board.toggles = 12
      ∧ (((passed.perform (.resume 1 4)).1.replies goingBack).countP Reply.isProgress) = 3
      ∧ ((passed.perform (.resume 1 4)).1.after (goingBack.take 2)).tick 7
        = (((passed.perform (.resume 1 4)).1.after (goingBack.take 3)),
          .ok (some ⟨0, 2, 599, .progress⟩)) := by
  have hstarted : (passed.perform (.resume 1 4)).2.started? = some 2500 := by decide +kernel
  have hops : (passed.perform (.resume 1 4)).1.unbroken goingBack = true := by decide +kernel
  exact ⟨hstarted, hops, progress_in_cadence (by decide) (by decide) hstarted hops,
    by decide +kernel, by decide +kernel, by decide +kernel⟩

end Axis

end StepperMotion
