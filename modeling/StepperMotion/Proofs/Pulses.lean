import Mathlib.Algebra.Ring.Nat
import Mathlib.Data.List.TakeWhile
import StepperMotion.Proofs.Burst

/-!
# A drive loses no pulses

A drive looks at its timer once a millisecond and raises as many matches as are due. What is due is
seldom a whole number. The part of a match that is left over is carried to the next look, with
whatever frequency the timer has by then, and forgotten when the timer is found idle.

So the frequencies that were seen since the timer was idle have a sum, and that sum says all: the
matches that were due are its whole part, and the carry is the rest (`Shift.Balanced`). A timer that
ran at every look had all of them served, if none was refused. What that makes of the axis is known
for the moves that do not depend on the encoder.
-/

namespace StepperMotion

/-! ## What a drive sees -/

/-- A look of a drive at its timer, and what comes of it. -/
structure Look where
  mode : Mode
  running : Bool
  freq : Nat
  /-- The matches of the millisecond. -/
  due : Nat
  /-- Those that were served before one was refused. -/
  served : Nat
deriving DecidableEq, Repr

namespace Drive

variable {d : Drive} {timer : Timer}

theorem advance_of_running (h : timer.running = true) :
    d.advance timer = ({ d with carry := (d.carry + 2 * timer.freq) % 1000 },
      (d.carry + 2 * timer.freq) / 1000) := if_pos h

theorem advance_of_idle (h : ¬timer.running = true) : d.advance timer = ({ d with carry := 0 }, 0) :=
  if_neg h

@[simp] theorem advance_handle (d : Drive) (timer : Timer) :
    (d.advance timer).1.handle = d.handle := by
  unfold advance
  split <;> rfl

end Drive

namespace Station

/-- What a drive sees that looks at the timer of its axis now. -/
def seen (s : Station) (d : Drive) (a : Axis) : Look :=
  let due := (d.advance a.board.timer).2
  { mode := a.mode
    running := a.isRunning
    freq := a.board.timer.freq
    due := due
    served := (s.burst d.handle 0 due).2 }

/-- A drive of an axis that does not exist sees nothing. -/
def look? (s : Station) (d : Drive) : Option Look := s.machine.axes[d.handle]?.map (s.seen d)

/-- A drive that works on an axis: the burst that is due, and the carry. -/
theorem drive_eq {s : Station} {d : Drive} {a : Axis} (ha : s.machine.axes[d.handle]? = some a) :
    s.drive d = ((s.burst d.handle 0 (s.seen d a).due).1, (d.advance a.board.timer).1) := by
  unfold drive
  simp only [ha, Drive.advance_handle]
  rfl

end Station

/-- A drive at work on a station, and what it has seen, newest first. -/
structure Shift where
  station : Station
  drive : Drive
  looks : List Look

namespace Shift

variable {w : Shift} {freq : Nat} {a : Axis}

/-- Other things happen on the station, and then the drive works for a millisecond. -/
def work (w : Shift) (others : List Action) : Shift :=
  let s := w.station.run others
  { station := (s.drive w.drive).1
    drive := (s.drive w.drive).2
    looks := (s.look? w.drive).toList ++ w.looks }

/-- So many milliseconds of work. -/
def works (w : Shift) (gaps : List (List Action)) : Shift := gaps.foldl work w

theorem works_cons (w : Shift) (others : List Action) (gaps : List (List Action)) :
    w.works (others :: gaps) = (w.work others).works gaps := rfl

/-- A look is taken, and what was due is raised. -/
theorem work_eq {others : List Action}
    (ha : (w.station.run others).machine.axes[w.drive.handle]? = some a) :
    w.work others =
      ⟨((w.station.run others).burst w.drive.handle 0 ((w.station.run others).seen w.drive a).due).1,
        (w.drive.advance a.board.timer).1, (w.station.run others).seen w.drive a :: w.looks⟩ := by
  simp only [work, Station.drive_eq ha, Station.look?, ha]
  rfl

/-- The drive brings the station nowhere that a run would not bring it. -/
theorem work_run (w : Shift) (others : List Action) :
    ∃ as, (w.work others).station = w.station.run as := by
  cases ha : (w.station.run others).machine.axes[w.drive.handle]? with
  | none => exact ⟨others, by simp [work, Station.drive, ha]⟩
  | some a =>
      obtain ⟨k, hk⟩ := (w.station.run others).burst_run w.drive.handle 0
        ((w.station.run others).seen w.drive a).due
      exact ⟨others ++ Station.volley w.drive.handle k, by rw [work_eq ha, Station.run_append, hk]⟩

/-- A drive stays with its axis. -/
theorem work_handle (w : Shift) (others : List Action) :
    (w.work others).drive.handle = w.drive.handle := by
  show ((w.station.run others).drive w.drive).2.handle = w.drive.handle
  cases ha : (w.station.run others).machine.axes[w.drive.handle]? with
  | none => simp only [Station.drive, ha]
  | some a => rw [Station.drive_eq ha, Drive.advance_handle]

theorem works_handle (w : Shift) (gaps : List (List Action)) :
    (w.works gaps).drive.handle = w.drive.handle := by
  induction gaps generalizing w with
  | nil => rfl
  | cons others gaps ih => exact (ih (w.work others)).trans (w.work_handle others)

theorem works_run (w : Shift) (gaps : List (List Action)) :
    ∃ as, (w.works gaps).station = w.station.run as := by
  induction gaps generalizing w with
  | nil => exact ⟨[], rfl⟩
  | cons others gaps ih =>
      obtain ⟨as, hfirst⟩ := w.work_run others
      obtain ⟨bs, hrest⟩ := ih (w.work others)
      exact ⟨as ++ bs, by rw [works_cons, hrest, hfirst, Station.run_append]⟩

/-- What was seen since the timer was idle last. -/
def recent (w : Shift) : List Look := w.looks.takeWhile (·.running)

theorem recent_work {others : List Action}
    (ha : (w.station.run others).machine.axes[w.drive.handle]? = some a) :
    (w.work others).recent =
      if a.isRunning then (w.station.run others).seen w.drive a :: w.recent else [] := by
  rw [work_eq ha]
  exact List.takeWhile_cons

theorem looks_suffix (w : Shift) (gaps : List (List Action)) : w.looks <:+ (w.works gaps).looks := by
  induction gaps generalizing w with
  | nil => exact List.suffix_refl _
  | cons others gaps ih => exact (List.suffix_append ..).trans (ih (w.work others))

/-! ## The balance of the carry -/

/-- In thousandths of a match, what was due since the timer was idle and what is carried over add up
to twice the sum of the frequencies. -/
structure Balanced (w : Shift) : Prop where
  sum : 1000 * (w.recent.map (·.due)).sum + w.drive.carry = 2 * (w.recent.map (·.freq)).sum
  carry : w.drive.carry < 1000

/-- **The balance is kept by one more look.** -/
theorem Balanced.work (h : w.Balanced) (others : List Action) : (w.work others).Balanced := by
  cases ha : (w.station.run others).machine.axes[w.drive.handle]? with
  | none =>
      -- a drive without an axis sees nothing and keeps its carry
      have hsame : (w.work others).recent = w.recent ∧ (w.work others).drive = w.drive := by
        simp [Shift.work, Station.look?, Station.drive, recent, ha]
      obtain ⟨hrecent, hdrive⟩ := hsame
      exact ⟨by rw [hrecent, hdrive]; exact h.sum, by rw [hdrive]; exact h.carry⟩
  | some a =>
      have hsum := h.sum
      have hrecent := recent_work ha
      by_cases hrun : a.isRunning = true
      · -- a millisecond of a running timer is worth twice its frequency
        have hdue : ((w.station.run others).seen w.drive a).due
            = (w.drive.carry + 2 * a.board.timer.freq) / 1000 := by
          simp only [Station.seen, Drive.advance_of_running hrun]
        have hfreq : ((w.station.run others).seen w.drive a).freq = a.board.timer.freq := rfl
        have hdrive : (w.work others).drive.carry
            = (w.drive.carry + 2 * a.board.timer.freq) % 1000 := by
          rw [work_eq ha, Drive.advance_of_running hrun]
        rw [if_pos hrun] at hrecent
        have hmod := Nat.div_add_mod (w.drive.carry + 2 * a.board.timer.freq) 1000
        refine ⟨?_, ?_⟩
        · rw [hrecent, hdrive, List.map_cons, List.map_cons, List.sum_cons, List.sum_cons, hdue,
            hfreq]
          omega
        · rw [hdrive]
          exact Nat.mod_lt _ (by decide)
      · -- an idle timer settles the account
        have hdrive : (w.work others).drive.carry = 0 := by
          rw [work_eq ha, Drive.advance_of_idle hrun]
        rw [if_neg hrun] at hrecent
        exact ⟨by rw [hrecent, hdrive]; rfl, by rw [hdrive]; decide⟩

theorem Balanced.works (h : w.Balanced) (gaps : List (List Action)) : (w.works gaps).Balanced := by
  induction gaps generalizing w with
  | nil => exact h
  | cons others gaps ih => exact ih (h.work others)

/-- If no match was refused, what was due was served. -/
theorem Balanced.served (h : w.Balanced) (hall : ∀ l ∈ w.recent, l.served = l.due) :
    (w.recent.map (·.served)).sum = 2 * (w.recent.map (·.freq)).sum / 1000 := by
  have hsame : w.recent.map (·.served) = w.recent.map (·.due) := List.map_congr_left hall
  have hsum := h.sum
  have hcarry := h.carry
  rw [hsame]
  omega

/-! ## A free run under a drive -/

/-- A free run at a frequency is seen at every look. -/
def SeesFreeRun (w : Shift) (freq : Nat) : Prop :=
  ∀ l ∈ w.looks, l.mode = .freeRunning ∧ l.running = true ∧ l.freq = freq

/-- Nobody but the drive raises matches of its timer. -/
def Alone (h : Nat) (gaps : List (List Action)) : Prop :=
  ∀ others ∈ gaps, ∀ x ∈ others, ∀ held, x ≠ .timerMatch h held

/-- **A millisecond of a free run has as many half-steps as matches are due,** and no match is
refused. -/
theorem freeRun_work {others : List Action}
    (hothers : ∀ x ∈ others, ∀ held, x ≠ .timerMatch w.drive.handle held)
    (ha : w.station.machine.axes[w.drive.handle]? = some a) (hp : a.Predictable)
    (hsees : (w.work others).SeesFreeRun freq) :
    ∃ l b, (w.work others).looks = l :: w.looks ∧ l.served = l.due
      ∧ (w.work others).station.machine.axes[w.drive.handle]? = some b ∧ b.Predictable
      ∧ b.board.toggles = a.board.toggles + l.served := by
  obtain ⟨c, hc, hpc, hstill⟩ := Station.toggles_run hothers ha hp
  let l := (w.station.run others).seen w.drive c
  have hwork := work_eq hc
  have hlooks : (w.work others).looks = l :: w.looks := by rw [hwork]
  obtain ⟨hfree, hrun, _⟩ := hsees l (by rw [hlooks]; exact List.mem_cons_self ..)
  obtain ⟨hcount, b, hb, hpb, hmade⟩ := Station.freeRun_burst hc hpc hfree hrun 0 l.due
  have hserved : l.served = l.due := hcount.trans (Nat.zero_add _)
  refine ⟨l, b, hlooks, hserved, ?_, hpb, by omega⟩
  rw [hwork]
  exact hb

theorem SeesFreeRun.earlier {gaps : List (List Action)} (h : (w.works gaps).SeesFreeRun freq) :
    w.SeesFreeRun freq := fun l hl => h l ((w.looks_suffix gaps).subset hl)

/-- **A free run has made as many half-steps as matches were served, and none was refused.** -/
theorem freeRun_works {gaps : List (List Action)} (halone : Alone w.drive.handle gaps)
    (ha : w.station.machine.axes[w.drive.handle]? = some a) (hp : a.Predictable)
    (hsees : (w.works gaps).SeesFreeRun freq) :
    ∃ new b, (w.works gaps).looks = new ++ w.looks ∧ new.length = gaps.length
      ∧ (∀ l ∈ new, l.served = l.due)
      ∧ (w.works gaps).station.machine.axes[w.drive.handle]? = some b
      ∧ b.board.toggles = a.board.toggles + (new.map (·.served)).sum := by
  induction gaps generalizing w a with
  | nil => exact ⟨[], a, rfl, rfl, fun l hl => absurd hl (by simp), ha, rfl⟩
  | cons others gaps ih =>
      obtain ⟨hothers, hrest⟩ := List.forall_mem_cons.mp halone
      -- looks are only added, so that the run was seen at this one too
      have hnow := @SeesFreeRun.earlier (w.work others) freq gaps hsees
      obtain ⟨l, b, hlooks, hall, hb, hpb, hmade⟩ := freeRun_work hothers ha hp hnow
      have hhandle := w.work_handle others
      rw [← hhandle] at hrest hb
      obtain ⟨new, c, hnew, hlength, hserved, hc, hlast⟩ := ih hrest hb hpb hsees
      rw [hhandle] at hc
      refine ⟨new ++ [l], c, ?_, ?_, ?_, hc, ?_⟩
      · rw [works_cons, hnew, hlooks, List.append_assoc]
        rfl
      · rw [List.length_append, hlength]
        rfl
      · intro l' hl'
        rcases List.mem_append.mp hl' with hlater | hfirst
        · exact hserved l' hlater
        · rw [List.mem_singleton.mp hfirst]
          exact hall
      · rw [hlast, hmade, List.map_append, List.sum_append, List.map_singleton, List.sum_singleton]
        omega

/-- A free run that was seen at every look is all that was seen since the timer was idle, and its
frequencies add up. -/
theorem SeesFreeRun.recent (h : w.SeesFreeRun freq) :
    w.recent = w.looks ∧ (w.recent.map (·.freq)).sum = w.looks.length * freq := by
  have hall : w.recent = w.looks := List.takeWhile_eq_self_iff.mpr fun l hl => (h l hl).2.1
  refine ⟨hall, ?_⟩
  have hsame : ∀ hz ∈ w.looks.map (·.freq), hz = freq := by
    intro hz hmem
    obtain ⟨l, hl, rfl⟩ := List.mem_map.mp hmem
    exact (h l hl).2.2
  rw [hall, List.eq_replicate_of_mem hsame, List.length_map, List.sum_replicate_nat]

/-- **A move by steps cuts off the burst of a millisecond exactly where it is completed.** -/
theorem steps_work {others : List Action}
    (ha : (w.station.run others).machine.axes[w.drive.handle]? = some a) (hp : a.Predictable)
    (hmode : a.mode = .steps) (hrun : a.isRunning = true) :
    ∃ l b, (w.work others).looks = l :: w.looks
      ∧ (w.work others).station.machine.axes[w.drive.handle]? = some b
      ∧ (w.station.run others).CutOff w.drive.handle a b l.due l.served := by
  have hwork := work_eq ha
  obtain ⟨b, k, hb, hserved, hcut⟩ := Station.steps_burst ha hp hmode hrun 0
    ((w.station.run others).seen w.drive a).due
  rw [Nat.zero_add] at hserved
  subst hserved
  refine ⟨(w.station.run others).seen w.drive a, b, by rw [hwork], ?_, ?_⟩
  · rw [hwork]
    exact hb
  · exact hcut

end Shift

/-! ## Drives that begin to work -/

namespace Station

/-- A drive begins its work. -/
def shift (s : Station) (d : Drive) : Shift := ⟨s, d, []⟩

/-- What comes of the work of a drive, whatever else happens on the station. -/
structure Lossless (s : Station) (d : Drive) : Prop where
  /-- The carry is less than a match. It is what is left of all that was due since the timer was
  idle. -/
  carry : ∀ gaps, let w := (s.shift d).works gaps
    w.drive.carry < 1000 ∧ w.drive.carry = 2 * (w.recent.map (·.freq)).sum % 1000
  /-- If no match was refused since then, so many were served. -/
  served : ∀ gaps, let w := (s.shift d).works gaps
    (∀ l ∈ w.recent, l.served = l.due) →
      (w.recent.map (·.served)).sum = 2 * (w.recent.map (·.freq)).sum / 1000
  /-- A free run that is seen for so many milliseconds makes so many half-steps. -/
  freeRun : ∀ gaps freq a, s.machine.axes[d.handle]? = some a → Shift.Alone d.handle gaps →
    ((s.shift d).works gaps).SeesFreeRun freq →
    ∃ b, ((s.shift d).works gaps).station.machine.axes[d.handle]? = some b
      ∧ b.board.toggles = a.board.toggles + 2 * freq * gaps.length / 1000
  /-- A move by steps cuts off the burst of any millisecond. -/
  steps : ∀ gaps others a, let w := (s.shift d).works gaps
    (w.station.run others).machine.axes[d.handle]? = some a → a.mode = .steps → a.isRunning = true →
    ∃ l b, (w.work others).looks = l :: w.looks
      ∧ (w.work others).station.machine.axes[d.handle]? = some b
      ∧ (w.station.run others).CutOff d.handle a b l.due l.served

variable {s : Station} {h : Nat} {a : Axis} {config : MotionConfig} {axes : List (AxisConfig × Board)}
  {powered : Bool}

/-- The axes of a station that was started are predictable. -/
theorem predictable_run (hstart : start config axes powered = .ok s)
    (hwidth : config.reportInterval ≤ Count.limit) (past : List Action)
    (ha : (s.run past).machine.axes[h]? = some a) : a.Predictable := by
  refine run_axes (fun _ o hp => hp.perform o) (fun b hb => ?_) past a ha
  obtain ⟨own, board, rfl⟩ := start_axis hstart hb
  exact Axis.predictable_create hwidth h own board

theorem balanced_shift (s : Station) {d : Drive} (hcarry : d.carry = 0) : (s.shift d).Balanced where
  sum := by
    show 1000 * 0 + d.carry = 2 * 0
    omega
  carry := by
    show d.carry < 1000
    omega

/-- **A drive loses no pulses.** It begins to work on a station with nothing carried over, as it
does after it has found the timer idle. From then on the carry is less than a match, and as long as
no match is refused, the matches served since the timer was idle are the whole part of twice the sum
of the frequencies that were seen, in hertz and milliseconds. So a free run that is seen for `n`
milliseconds has made `2 * freq * n / 1000` half-steps, and a move by steps cuts off the burst in
which it is completed. -/
theorem drive_lossless (hstart : start config axes powered = .ok s)
    (hwidth : config.reportInterval ≤ Count.limit) (past : List Action) {d : Drive}
    (hcarry : d.carry = 0) : (s.run past).Lossless d where
  carry gaps := by
    have hbalanced := ((s.run past).balanced_shift hcarry).works gaps
    have hsum := hbalanced.sum
    have hrest := hbalanced.carry
    exact ⟨hrest, by omega⟩
  served gaps := (((s.run past).balanced_shift hcarry).works gaps).served
  freeRun gaps freq a ha halone hsees := by
    have hp := predictable_run hstart hwidth past ha
    have hbalanced := ((s.run past).balanced_shift hcarry).works gaps
    obtain ⟨new, b, hlooks, hlength, hserved, hb, hmade⟩ :=
      @Shift.freeRun_works ((s.run past).shift d) freq a gaps halone ha hp hsees
    obtain ⟨hall, hsum⟩ := hsees.recent
    replace hlooks := hlooks.trans (List.append_nil new)
    have hnew := hall.trans hlooks
    have htotal := hbalanced.served (by rw [hnew]; exact hserved)
    rw [hsum, hlooks, hlength, hnew] at htotal
    refine ⟨b, hb, ?_⟩
    rw [hmade, htotal]
    congr 2
    ac_rfl
  steps gaps others a ha hmode hrun := by
    obtain ⟨as, hreached⟩ := ((s.run past).shift d).works_run gaps
    have hhandle := ((s.run past).shift d).works_handle gaps
    -- the bursts before were runs, and so this is an axis of a station that was started
    have hp : a.Predictable := by
      rw [hreached, ← run_append] at ha
      refine @predictable_run s d.handle a _ _ _ hstart hwidth (past ++ (as ++ others)) ?_
      rw [run_append]
      exact ha
    have hcut := @Shift.steps_work (((s.run past).shift d).works gaps) a others
    rw [hhandle] at hcut
    exact hcut ha hp hmode hrun

/-- A command is given to an axis of a new station, and carried out. -/
def settingOut (c : Command) : List Action :=
  [.dispatch 0, .submit "x" c, .dispatch 0, .dispatch 0, .dispatch 0]

/-- And then a drive begins to work. -/
def setOut (s : Station) (c : Command) : Shift := (s.run (settingOut c)).shift { handle := 0 }

/-- A free run at 5000 Hz makes twenty half-steps in two milliseconds. Of a move of two steps at
1666 Hz the first millisecond makes three half-steps, and 332 thousandths of a match are carried
over. The next one makes the last half-step, its second match ends the move, and the third one is
refused. -/
theorem drive_lossless_of_setOut :
    ∃ s₀, start {} [(⟨"x", 0, none⟩, {})] true = .ok s₀
      ∧ (∃ b, ((s₀.setOut (.freeRun .clockwise 1)).works
            [[.pass 1], [.pass 1]]).station.machine.axes[0]? = some b ∧ b.board.toggles = 20)
      ∧ ∃ w, w = (s₀.setOut (.steps .clockwise 1 2 50 3)).works [[.pass 1]]
        ∧ w.drive.carry = 332 ∧ (w.recent.map (·.served)).sum = 3
        ∧ ∃ a b, (w.station.run [.pass 1]).CutOff 0 a b 3 2 ∧ b.mode = .stopped := by
  obtain ⟨s₀, hstart, ⟨a, ha, hnone⟩, hsees, hfreqs, hserved, ⟨c, hc, hmode, hrun⟩, hlast⟩ :
      ∃ s₀, start {} [(⟨"x", 0, none⟩, {})] true = .ok s₀
        ∧ (∃ a, (s₀.setOut (.freeRun .clockwise 1)).station.machine.axes[0]? = some a
          ∧ a.board.toggles = 0)
        ∧ (∀ l ∈ ((s₀.setOut (.freeRun .clockwise 1)).works [[.pass 1], [.pass 1]]).looks,
          l.mode = .freeRunning ∧ l.running = true ∧ l.freq = 5000)
        ∧ ((s₀.setOut (.steps .clockwise 1 2 50 3)).works [[.pass 1]]).recent.map (·.freq) = [1666]
        ∧ (∀ l ∈ ((s₀.setOut (.steps .clockwise 1 2 50 3)).works [[.pass 1]]).recent,
          l.served = l.due)
        ∧ (∃ c, (((s₀.setOut (.steps .clockwise 1 2 50 3)).works
              [[.pass 1]]).station.run [.pass 1]).machine.axes[0]? = some c
          ∧ c.mode = .steps ∧ c.isRunning = true)
        ∧ ((s₀.setOut (.steps .clockwise 1 2 50 3)).works [[.pass 1], [.pass 1]]).looks.head?.map
            (fun l => (l.due, l.served)) = some (3, 2) :=
    ⟨_, rfl, ⟨_, rfl, by decide⟩, by decide, by decide, by decide, ⟨_, rfl, by decide, by decide⟩,
      by decide⟩
  have halone : Shift.Alone 0 [[.pass 1], [.pass 1]] := by
    unfold Shift.Alone
    simp
  have hlossless := fun c => @drive_lossless s₀ {} _ true hstart (by decide) (settingOut c)
    { handle := 0 } rfl
  obtain ⟨b, hb, hmade⟩ := (hlossless _).freeRun _ 5000 a ha halone hsees
  refine ⟨s₀, hstart, ⟨b, hb, ?_⟩, _, rfl, ?_, ?_, ?_⟩
  · rw [hmade, hnone]
    rfl
  · have hcarry := ((hlossless (.steps .clockwise 1 2 50 3)).carry [[.pass 1]]).2
    exact hcarry.trans (congrArg (2 * List.sum · % 1000) hfreqs)
  · have hsum := (hlossless (.steps .clockwise 1 2 50 3)).served [[.pass 1]] hserved
    exact hsum.trans (congrArg (2 * List.sum · / 1000) hfreqs)
  · obtain ⟨l, e, hlooks, _, hcut⟩ := (hlossless _).steps [[.pass 1]] [.pass 1] c hc hmode hrun
    have hhead : some (l.due, l.served) = some (3, 2) :=
      (congrArg (fun looks => looks.head?.map fun l => (l.due, l.served)) hlooks).symm.trans hlast
    obtain ⟨hdue, hstopped⟩ := Prod.mk.inj (Option.some.inj hhead)
    rw [hdue, hstopped] at hcut
    exact ⟨c, e, hcut, (hcut.ends (by decide)).1⟩

end Station

end StepperMotion
