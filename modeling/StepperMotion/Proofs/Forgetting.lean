import StepperMotion.Proofs.Alike
import StepperMotion.Proofs.Epoch
import StepperMotion.Proofs.Settings
import Mathlib.Data.List.InsertIdx

/-!
# A move does not depend on the past

Take two axes of one make whose boards agree, whatever was done to either of them before. Clear their
faults and give both the same command: they answer in the same way, write the same frequencies to
their timers, and are on moves that look alike from then on (`past_forgotten`).

There is one thing that such a command may leave as it was. A closed-loop command that finds the axis
at its setpoint makes no move, so it does not set the direction line either
(`direction_remembered`).
-/

namespace StepperMotion

open Axis (Operation)

/-! ## Answers without names -/

/-- The refusal of an axis without a name. -/
def MotionError.unnamed : MotionError → MotionError
  | speedOutOfRange _ level => .speedOutOfRange "" level
  | zeroAmplitudeDivisor _ => .zeroAmplitudeDivisor ""
  | stepCountOutOfRange _ count => .stepCountOutOfRange "" count
  | invariant _ detail => .invariant "" detail
  | unknownAxis _ => .unknownAxis ""
  | queueFull _ => .queueFull ""
  | dispatcherClosed _ => .dispatcherClosed ""
  | config detail => .config detail

def Failure.unnamed : Failure → Failure
  | refused e => .refused e.unnamed
  | fault f => .fault f

/-- An answer without the name of the axis. -/
def unnamed (r : Except Failure Outcome) : Except Failure Outcome := r.mapError Failure.unnamed

namespace Axis

/-! ## Moves that are set up alike -/

/-- Two axes of one make in the same place, with as many signs of a stall. -/
structure Peers (a b : Axis) : Prop where
  config : b.config = a.config
  tuning : b.tuning? = a.tuning?
  board : a.board.Agree b.board
  signs : b.stalledCount = a.stalledCount

/-- Two plans of the same move. -/
structure Plan.Alike (p q : Plan) : Prop where
  mode : q.mode = p.mode
  dir : q.dir = p.dir
  goal : p.mode = .closedLoop →
    q.posCmd = p.posCmd ∧ q.posMiddle = p.posMiddle ∧ q.posStart = p.posStart
  ramp : q.ramp = p.ramp
  halfSteps : q.halfSteps = p.halfSteps
  toMiddle : q.toMiddle = p.toMiddle

variable {a b : Axis}

theorem pulses_of_none (h : a.halfPulses = 0) : a.pulses = 0 := by
  unfold pulses
  split
  · exact h
  · rfl

theorem Peers.setUp (h : a.Peers b) {p q : Plan} (hplan : p.Alike q) :
    (a.setUp p).Alike (b.setUp q) where
  config := h.config
  mode := hplan.mode
  dir := hplan.dir
  board := { h.board with }
  level := congrArg Direction.level hplan.dir
  goal := hplan.goal
  posAct := h.board.position
  ramp := hplan.ramp
  requested := hplan.halfSteps
  completed := rfl
  toMiddle := hplan.toMiddle
  pulses := (pulses_of_none rfl).trans (pulses_of_none rfl).symm
  stalledCount := h.signs
  lastPos := h.board.position

theorem Alike.nextEpoch (h : a.Alike b) : a.nextEpoch.Alike b.nextEpoch := { h with }

theorem since_setUp (a : Axis) (p : Plan) : (a.setUp p).board.since a.board = ⟨[], 0⟩ :=
  Board.since_eq rfl rfl

theorem Peers.isAt (h : a.Peers b) (setpoint : Int) : b.isAt setpoint = a.isAt setpoint := by
  unfold Axis.isAt
  rw [h.board.position, h.config]

/-- Two controllers with the same settings ask for the same frequency. -/
theorem Peers.chosen (h : a.Peers b) (setpoint : Int) :
    (b.chosen setpoint).2 = (a.chosen setpoint).2 := by
  have htuning := h.tuning
  unfold tuning? at htuning
  unfold Axis.chosen
  rw [h.config, h.board.position]
  cases hk : a.controller with
  | none =>
      rw [hk] at htuning
      rw [Option.map_eq_none_iff.mp htuning]
  | some k =>
      rw [hk] at htuning
      obtain ⟨k', hk', heq⟩ := Option.map_eq_some_iff.mp htuning
      rw [hk']
      dsimp only
      rw [Proportional.sample_congr heq]

theorem Peers.fault? (h : a.Peers b) (c : Command) : b.fault? c = a.fault? c := by
  cases c with
  | closedLoop setpoint => simp only [Axis.fault?, h.chosen]
  | _ => rfl

theorem Peers.plan (h : a.Peers b) {nowMs : Nat} {c : Command} {p q : Plan}
    (hp : a.Plans nowMs c p) (hq : b.Plans nowMs c q) : p.Alike q := by
  cases hp with
  | freeRun hfreq =>
      cases hq with
      | freeRun hfreq' =>
          rw [h.config, hfreq] at hfreq'
          cases hfreq'
          exact ⟨rfl, rfl, (fun hm => nomatch hm), rfl, rfl, rfl⟩
  | steps hfreq =>
      cases hq with
      | steps hfreq' =>
          rw [h.config, hfreq] at hfreq'
          cases hfreq'
          refine ⟨rfl, rfl, (fun hm => nomatch hm), ?_, rfl, rfl⟩
          simp only [stepsPlan, h.config]
  | @closedLoop setpoint hfar =>
      cases hq with
      | closedLoop _ =>
          have hfirst : b.firstFreq setpoint = a.firstFreq setpoint := by
            unfold firstFreq
            rw [h.chosen, h.config]
          refine ⟨rfl, ?_, fun _ => ⟨rfl, ?_, ?_⟩, ?_, rfl, rfl⟩ <;>
            simp only [closedLoopPlan, h.board.position, h.config, hfirst]

/-! ## Moves that are launched alike -/

theorem Alike.inLimits (h : a.Alike b) (freq : Nat) : b.InLimits freq ↔ a.InLimits freq := by
  unfold InLimits freqLimit
  rw [h.config, h.mode]

theorem Alike.limitRefusal (h : a.Alike b) (freq : Nat) :
    (b.limitRefusal freq).unnamed = (a.limitRefusal freq).unnamed := by
  unfold Axis.limitRefusal freqLimit
  rw [h.config, h.mode]
  rfl

/-- **Moves that look alike are launched in the same way.** -/
theorem Alike.launch (h : a.Alike b) (freq : Nat) (line line' : String) :
    SameStep unnamed a.board b.board ((a.launch freq line).axis, (a.launch freq line).answer)
      ((b.launch freq line').axis, (b.launch freq line').answer) := by
  by_cases hin : a.InLimits freq
  · have hin' : b.InLimits freq := (h.inLimits freq).mpr hin
    cases hacc : a.board.timer.accepts freq with
    | false =>
        obtain ⟨hans, hax⟩ := launch_refused hin hacc line
        obtain ⟨hans', hax'⟩ := launch_refused hin' ((h.board.accepts freq).trans hacc) line'
        rw [hans, hax, hans', hax']
        exact ⟨Or.inl ⟨rfl, rfl⟩, (Board.since_write rfl).trans (Board.since_write rfl).symm, rfl⟩
    | true =>
        obtain ⟨hans, hax⟩ := launch_armed hin hacc line
        obtain ⟨hans', hax'⟩ := launch_armed hin' ((h.board.accepts freq).trans hacc) line'
        rw [hans, hax, hans', hax']
        exact ⟨Or.inr { h with board := { h.board with } },
          (Board.since_write rfl).trans (Board.since_write rfl).symm, rfl⟩
  · obtain ⟨hans, hax⟩ := launch_outside hin line
    obtain ⟨hans', hax'⟩ := launch_outside (mt (h.inLimits freq).mp hin) line'
    rw [hans, hax, hans', hax']
    refine ⟨Or.inl ⟨rfl, rfl⟩, (since_halt b).trans (since_halt a).symm, ?_⟩
    exact congrArg (fun e => Except.error (Failure.refused e)) (h.limitRefusal freq)

theorem launch_ne_alreadyThere (a : Axis) (freq : Nat) (line : String) :
    (a.launch freq line).answer ≠ .ok .alreadyThere := by
  rcases launch_cases a freq line with ⟨_, hans, _⟩ | ⟨_, _, hans, _⟩ | ⟨_, _, hans, _⟩ <;>
    simp [hans]

/-- What became of the direction lines of two axes that were given the same command: they have the
same level, or there was no move to make. -/
inductive SameDirection (a b x y : Axis) (r : Except Failure Outcome) : Prop where
  | moved (hr : r ≠ .ok .alreadyThere) (hlevel : y.board.dirLevel = x.board.dirLevel)
  | kept (hr : r = .ok .alreadyThere) (hx : x.board.dirLevel = a.board.dirLevel)
      (hy : y.board.dirLevel = b.board.dirLevel)

/-- Ending a move where it is writes no frequency and leaves the direction line alone. -/
theorem board_finishInPlace (a : Axis) : a.finishInPlace.board.since a.board = ⟨[], 0⟩
    ∧ a.finishInPlace.board.dirLevel = a.board.dirLevel := by
  rcases finishInPlace_cases a with ⟨_, h⟩ | ⟨_, h⟩ <;> rw [h] <;>
    exact ⟨Board.since_eq rfl rfl, rfl⟩

theorem Plans.far {a : Axis} {nowMs : Nat} {setpoint : Int} {p : Plan}
    (h : a.Plans nowMs (.closedLoop setpoint) p) : a.isAt setpoint = false := by
  cases h with
  | closedLoop hfar => exact hfar

/-- **A command is carried out in the same way by peers.** -/
theorem Peers.carried (h : a.Peers b) {nowMs : Nat} {c : Command} (hmove : c ≠ .stop) {x y : Axis}
    {r s : Except Failure Outcome} (hx : a.Carried nowMs c x r) (hy : b.Carried nowMs c y s) :
    SameStep unnamed a.board b.board (x, r) (y, s) ∧ SameDirection a b x y r := by
  have hfault := h.fault? c
  cases hx with
  | @launched p line hp hf =>
      cases hy with
      | @launched q line' hq _ =>
          have hplan := h.plan hp hq
          have hstep := ((h.setUp hplan).nextEpoch).launch p.ramp.current line line'
          rw [hplan.ramp]
          exact ⟨⟨hstep.after, hstep.news, hstep.answer⟩,
            .moved (launch_ne_alreadyThere _ _ _) (by rw [level_launch, level_launch, hplan.dir])⟩
      | failed _ _ hf' => exact absurd (hf'.symm.trans (hfault.trans hf)) (by simp)
      | arrived hc hthere =>
          subst hc
          rw [h.isAt, hp.far] at hthere
          exact absurd hthere (by simp)
      | stopped hc => exact absurd hc hmove
  | @failed p f hp hm hf =>
      cases hy with
      | launched _ hf' => exact absurd (hf'.symm.trans (hfault.trans hf)) (by simp)
      | @failed q f' hq _ hf' =>
          have hplan := h.plan hp hq
          obtain rfl : f' = f := Option.some.inj (hf'.symm.trans (hfault.trans hf))
          exact ⟨⟨Or.inr (h.setUp hplan), (since_setUp b q).trans (since_setUp a p).symm, rfl⟩,
            .moved (by simp) (congrArg Direction.level hplan.dir)⟩
      | arrived hc hthere =>
          subst hc
          rw [h.isAt, hp.far] at hthere
          exact absurd hthere (by simp)
      | stopped hc => exact absurd hc hmove
  | @arrived setpoint hc hthere =>
      subst hc
      cases hy with
      | launched hq _ =>
          rw [← h.isAt, hq.far] at hthere
          exact absurd hthere (by simp)
      | failed hq _ _ =>
          rw [← h.isAt, hq.far] at hthere
          exact absurd hthere (by simp)
      | @arrived other hc _ =>
          obtain ⟨hnews, hlevel⟩ := board_finishInPlace ({ a with posCmd := setpoint } : Axis).sense
          obtain ⟨hnews', hlevel'⟩ := board_finishInPlace ({ b with posCmd := other } : Axis).sense
          exact ⟨⟨Or.inl ⟨finishInPlace_mode _, finishInPlace_mode _⟩, hnews'.trans hnews.symm, rfl⟩,
            .kept rfl hlevel hlevel'⟩
      | stopped hc => exact absurd hc hmove
  | stopped hc => exact absurd hc hmove

/-- A command passes the check of both of two axes of one make. -/
theorem Peers.validate (h : a.Peers b) {c : Command} (hv : a.validate c = .ok ()) :
    b.validate c = .ok () := by
  obtain ⟨hspeed, hsteps⟩ := validate_ok.mp hv
  refine validate_ok.mpr ⟨h.config ▸ hspeed, ?_⟩
  cases c with
  | steps d level count periodMs divisor => exact checkSteps_ok.mpr (checkSteps_ok.mp hsteps)
  | _ => rfl

/-- **Peers carry out a command in the same way.** -/
theorem Peers.apply (h : a.Peers b) {c : Command} (hmove : c ≠ .stop)
    (hv : a.validate c = .ok ()) (nowMs : Nat) :
    SameStep unnamed a.board b.board ((a.apply c nowMs).axis, (a.apply c nowMs).answer)
      ((b.apply c nowMs).axis, (b.apply c nowMs).answer)
    ∧ SameDirection a b (a.apply c nowMs).axis (b.apply c nowMs).axis (a.apply c nowMs).answer := by
  rcases apply_cases a c nowMs with ⟨e, he, _⟩ | ⟨_, hx⟩
  · rw [hv] at he
    exact absurd he (by simp)
  · rcases apply_cases b c nowMs with ⟨e, he, _⟩ | ⟨_, hy⟩
    · rw [h.validate hv] at he
      exact absurd he (by simp)
    · exact h.carried hmove hx hy

end Axis

/-! ## Watching a move -/

/-- What happens to a move that has been set up. -/
inductive Happening where
  | tick (nowMs : Nat)
  /-- Somebody turns the shaft. -/
  | place (position : Int)
  /-- The supervisor judges the `i`-th of the reports that wait for it. -/
  | judge (i : Nat)
deriving DecidableEq, Repr

/-- An axis and the reports of its move that have not been judged. -/
structure Watch where
  axis : Axis
  waiting : List Notification
deriving DecidableEq, Repr

/-- What can be seen of one thing that happens. -/
structure Sight where
  report : Except Fault (Option (NotificationKind × Int))
  verdict? : Option Verdict
  news : Board.News

/-- The report that a timer match leaves, if it does. -/
def reported : Except Fault (Option Notification) → List Notification
  | .ok (some note) => [note]
  | _ => []

theorem mem_reported {r : Except Fault (Option Notification)} {note : Notification} :
    note ∈ reported r ↔ r = .ok (some note) := by
  rcases r with f | (_ | other) <;> simp [reported, eq_comm]

theorem reported_content {r s : Except Fault (Option Notification)}
    (h : Axis.content s = Axis.content r) :
    (reported s).map Notification.content = (reported r).map Notification.content := by
  rcases r with f | (_ | note) <;> rcases s with f' | (_ | note') <;>
    simp_all [Axis.content, reported, Except.map]

namespace Watch

def next (w : Watch) : Happening → Watch
  | .tick nowMs => ⟨(w.axis.tick nowMs).1, w.waiting ++ reported (w.axis.tick nowMs).2⟩
  | .place position => { w with axis := { w.axis with board := w.axis.board.place position } }
  | .judge i =>
    match w.waiting[i]? with
    | none => w
    | some note => ⟨(w.axis.inspect note).1, w.waiting.eraseIdx i⟩

def report (w : Watch) : Happening → Except Fault (Option (NotificationKind × Int))
  | .tick nowMs => Axis.content (w.axis.tick nowMs).2
  | _ => .ok none

def verdict? (w : Watch) : Happening → Option Verdict
  | .judge i => w.waiting[i]?.map fun note => (w.axis.inspect note).2
  | _ => none

def sight (w : Watch) (h : Happening) : Sight :=
  ⟨w.report h, w.verdict? h, (w.next h).axis.board.since w.axis.board⟩

def after (w : Watch) (hs : List Happening) : Watch := hs.foldl next w

def sights (w : Watch) : List Happening → List Sight
  | [] => []
  | h :: hs => w.sight h :: (w.next h).sights hs

/-- The reports are about the move that is watched. -/
def Current (w : Watch) : Prop := ∀ note ∈ w.waiting, note.epoch = w.axis.epoch

/-- Two watches of moves that look alike, with reports of the same content. -/
structure Alike (w v : Watch) : Prop where
  axis : w.axis.Resembles v.axis
  waiting : v.waiting.map Notification.content = w.waiting.map Notification.content
  current : w.Current
  current' : v.Current

theorem current_next {w : Watch} (hw : w.Current) (h : Happening) : (w.next h).Current := by
  cases h with
  | tick nowMs =>
      have hserved := Axis.tick_served w.axis nowMs
      have hepoch : (w.axis.tick nowMs).1.epoch = w.axis.epoch :=
        (Axis.continues_served hserved).epoch
      intro note hnote
      rcases List.mem_append.mp hnote with hold | hnew
      · exact (hw note hold).trans hepoch.symm
      · rw [mem_reported.mp hnew] at hserved
        exact (Axis.served_report hserved).2.1.trans hepoch.symm
  | place position => exact hw
  | judge i =>
      unfold next
      dsimp only
      split
      · exact hw
      · intro note hnote
        exact (hw note (List.mem_of_mem_eraseIdx hnote)).trans
          (Axis.continues_inspect w.axis _).epoch.symm

theorem sight_congr {w v : Watch} {h : Happening} (hreport : v.report h = w.report h)
    (hverdict : v.verdict? h = w.verdict? h)
    (hnews : (v.next h).axis.board.since v.axis.board = (w.next h).axis.board.since w.axis.board) :
    v.sight h = w.sight h := by
  rw [sight, hreport, hverdict, hnews]
  rfl

/-- **Whatever happens to them, moves that look alike look the same and go on to look alike.** -/
theorem Alike.next {w v : Watch} (hwv : w.Alike v) (h : Happening) :
    (w.next h).Alike (v.next h) ∧ v.sight h = w.sight h := by
  have hcurrent := current_next hwv.current h
  have hcurrent' := current_next hwv.current' h
  cases h with
  | tick nowMs =>
      have hsame := Axis.alike_tick hwv.axis nowMs
      refine ⟨⟨hsame.after, ?_, hcurrent, hcurrent'⟩, sight_congr hsame.answer rfl hsame.news⟩
      simp only [Watch.next, List.map_append, hwv.waiting, reported_content hsame.answer]
  | place position =>
      exact ⟨⟨hwv.axis.place position, hwv.waiting, hcurrent, hcurrent'⟩,
        sight_congr rfl rfl ((Board.since_eq rfl rfl).trans (Board.since_self w.axis.board).symm)⟩
  | judge i =>
      have hcontent : v.waiting[i]?.map Notification.content
          = w.waiting[i]?.map Notification.content := by
        rw [← List.getElem?_map, ← List.getElem?_map, hwv.waiting]
      cases hn : w.waiting[i]? with
      | none =>
          -- nobody waits at this place, and nothing happens
          have hm : v.waiting[i]? = none := by simpa [hn] using hcontent
          have hw : w.next (.judge i) = w := by simp only [Watch.next, hn]
          have hv : v.next (.judge i) = v := by simp only [Watch.next, hm]
          refine ⟨by rwa [hw, hv], sight_congr rfl (by simp only [verdict?, hn, hm]; rfl) ?_⟩
          rw [hw, hv]
          exact (Board.since_self _).trans (Board.since_self _).symm
      | some n =>
          rw [hn] at hcontent
          obtain ⟨m, hm, hmn⟩ := Option.map_eq_some_iff.mp hcontent
          have hsame := Axis.alike_inspect hwv.axis (hwv.current n (List.mem_of_getElem? hn))
            (hwv.current' m (List.mem_of_getElem? hm)) hmn
          have hw : w.next (.judge i) = ⟨(w.axis.inspect n).1, w.waiting.eraseIdx i⟩ := by
            simp only [Watch.next, hn]
          have hv : v.next (.judge i) = ⟨(v.axis.inspect m).1, v.waiting.eraseIdx i⟩ := by
            simp only [Watch.next, hm]
          refine ⟨⟨by rw [hw, hv]; exact hsame.after, ?_, hcurrent, hcurrent'⟩, sight_congr rfl ?_ ?_⟩
          · rw [hw, hv]
            simp only [← List.eraseIdx_map, hwv.waiting]
          · simp only [verdict?, hn, hm, Option.map_some]
            exact congrArg some hsame.answer
          · rw [hw, hv]
            exact hsame.news

/-- **Moves that look alike look the same, whatever happens to them.** -/
theorem Alike.sights {w v : Watch} (h : w.Alike v) (hs : List Happening) :
    v.sights hs = w.sights hs := by
  induction hs generalizing w v with
  | nil => rfl
  | cons x hs ih =>
      obtain ⟨hnext, hsight⟩ := h.next x
      rw [Watch.sights, Watch.sights, hsight, ih hnext]

/-- Nothing that happens to a move turns its direction line. -/
theorem level_next (w : Watch) (h : Happening) :
    (w.next h).axis.board.dirLevel = w.axis.board.dirLevel := by
  cases h with
  | tick nowMs => exact Axis.level_served (Axis.tick_served w.axis nowMs)
  | place position => rfl
  | judge i =>
      unfold next
      dsimp only
      split
      · rfl
      · rename_i note _
        obtain ⟨b, _, _, hb, h⟩ := Axis.inspect_cases w.axis note
        rw [h]
        rcases hb with rfl | rfl <;> rfl

theorem level_after (w : Watch) (hs : List Happening) :
    (w.after hs).axis.board.dirLevel = w.axis.board.dirLevel := by
  induction hs generalizing w with
  | nil => rfl
  | cons x hs ih => exact (ih (w.next x)).trans (level_next w x)

end Watch

namespace Axis

/-- An axis with these figures and these settings of its controller, after whatever has been done to
it. -/
inductive Reached (config : MotionConfig) (settings : Option Proportional.Settings) : Axis → Prop where
  | intro (handle : Nat) (name : String) (offset : Int) (board : Board) (past : List Operation) :
      Reached config settings ((create handle ⟨name, offset, settings⟩ board config).after past)

theorem Reached.kept {config : MotionConfig} {settings : Option Proportional.Settings} {a : Axis}
    (h : Reached config settings a) :
    a.config = config
      ∧ a.tuning? = (settings.map Proportional.ofSettings).map Proportional.tuning := by
  cases h with
  | intro handle name offset board past =>
      have hkept := settings_after (create handle ⟨name, offset, settings⟩ board config) past
      exact ⟨hkept.config, hkept.tuning⟩

variable {config : MotionConfig} {settings : Option Proportional.Settings} {a b : Axis}

/-- Two axes of one make whose boards agree are peers once their faults are cleared. -/
theorem peers_clearFaults (ha : Reached config settings a) (hb : Reached config settings b)
    (hboard : a.board.Agree b.board) : a.clearFaults.Peers b.clearFaults where
  config := hb.kept.1.trans ha.kept.1.symm
  tuning := hb.kept.2.trans ha.kept.2.symm
  board := hboard
  signs := rfl

/-- **A move does not depend on the past of its axis.** Let two axes of one make have been through
anything, and let their boards agree. After their faults are cleared, they carry out a command that
passes the check in the same way: they give the same answer up to their names and write the same
frequencies, and whatever happens to the two moves, everything that can be seen of them is the same.
The direction lines have the same level throughout, unless the axes are at the setpoint already; then
they are left as they were. -/
theorem past_forgotten (ha : Reached config settings a) (hb : Reached config settings b)
    (hboard : a.board.Agree b.board) {c : Command} (hmove : c ≠ .stop)
    (hvalid : a.validate c = .ok ()) (nowMs : Nat) (hs : List Happening) :
    let s := a.clearFaults.apply c nowMs
    let t := b.clearFaults.apply c nowMs
    unnamed t.answer = unnamed s.answer
    ∧ t.axis.board.since b.board = s.axis.board.since a.board
    ∧ (Watch.mk t.axis []).sights hs = (Watch.mk s.axis []).sights hs
    ∧ (s.answer ≠ .ok .alreadyThere →
        ((Watch.mk t.axis []).after hs).axis.board.dirLevel
          = ((Watch.mk s.axis []).after hs).axis.board.dirLevel)
    ∧ (s.answer = .ok .alreadyThere →
        ((Watch.mk s.axis []).after hs).axis.board.dirLevel = a.board.dirLevel
        ∧ ((Watch.mk t.axis []).after hs).axis.board.dirLevel = b.board.dirLevel) := by
  intro s t
  obtain ⟨hsame, hdir⟩ := (peers_clearFaults ha hb hboard).apply hmove hvalid nowMs
  have hwatch : (Watch.mk s.axis []).Alike (Watch.mk t.axis []) :=
    ⟨hsame.after, rfl, fun _ h => absurd h (by simp), fun _ h => absurd h (by simp)⟩
  refine ⟨hsame.answer, hsame.news, hwatch.sights hs, ?_, ?_⟩
  · intro hr
    rw [Watch.level_after, Watch.level_after]
    cases hdir with
    | moved _ hlevel => exact hlevel
    | kept hthere _ _ => exact absurd hthere hr
  · intro hr
    rw [Watch.level_after, Watch.level_after]
    cases hdir with
    | moved hne _ => exact absurd hr hne
    | kept _ hx hy => exact ⟨hx, hy⟩

/-- Two half-steps without a movement are a stall. -/
def wary : MotionConfig := { reportInterval := 1, stallMaxCount := 2 }

/-- An axis whose free run ended in a stall; its shaft has been turned back since. -/
def worn : Axis :=
  (create 0 ⟨"x", 0, none⟩ {} wary).after
    [.apply (.freeRun .counterClockwise 1) 0, .tick 1, .tick 2, .inspect ⟨0, 1, 0, .progress⟩,
      .inspect ⟨0, 1, 0, .progress⟩, .place 0]

/-- An axis of the same make to which nothing has been done. -/
def untouched : Axis := create 1 ⟨"y", 0, none⟩ {} wary

/-- A few half-steps with their reports, judged out of order; somebody turns the shaft in between. -/
def disturbed : List Happening :=
  [.tick 10, .judge 0, .place 9, .tick 20, .tick 30, .judge 1, .judge 0]

/-- The axis that has been through a stall moves like the one that has just been delivered. -/
theorem past_forgotten_of_worn :
    let s := worn.clearFaults.apply (.steps .clockwise 1 2 5 1) 9
    let t := untouched.clearFaults.apply (.steps .clockwise 1 2 5 1) 9
    worn.stalled = true ∧ s.answer = .ok (.started 5000)
    ∧ (Watch.mk t.axis []).sights disturbed = (Watch.mk s.axis []).sights disturbed
    ∧ ((Watch.mk t.axis []).after disturbed).axis.board.dirLevel
      = ((Watch.mk s.axis []).after disturbed).axis.board.dirLevel := by
  have ha : Reached wary none worn := .intro 0 "x" 0 {} _
  have hb : Reached wary none untouched := .intro 1 "y" 0 {} []
  have hboard : worn.board.Agree untouched.board := ⟨by decide, by decide, by decide, by decide⟩
  have hvalid : worn.validate (.steps .clockwise 1 2 5 1) = .ok () := by decide
  have hans : (worn.clearFaults.apply (.steps .clockwise 1 2 5 1) 9).answer = .ok (.started 5000) := by
    decide
  obtain ⟨_, _, hsights, hlevel, _⟩ :=
    past_forgotten ha hb hboard (by decide) hvalid 9 disturbed
  exact ⟨by decide, hans, hsights, hlevel (by rw [hans]; simp)⟩

/-- **An axis that has no move to make remembers the direction of its last one.** Two axes that differ
in nothing else are told to stay where they are. -/
theorem direction_remembered :
    ∃ a b : Axis, Reached {} none a ∧ Reached {} none b ∧ a.board.Agree b.board
      ∧ a.validate (.closedLoop 0) = .ok () ∧ b.validate (.closedLoop 0) = .ok ()
      ∧ (b.clearFaults.apply (.closedLoop 0) 0).axis.board.dirLevel
        ≠ (a.clearFaults.apply (.closedLoop 0) 0).axis.board.dirLevel := by
  refine ⟨_, _, .intro 0 "x" 0 {} [.apply (.freeRun .clockwise 1) 0, .stop],
    .intro 1 "y" 0 {} [.apply (.freeRun .counterClockwise 1) 0, .stop],
    ⟨rfl, rfl, rfl, rfl⟩, rfl, rfl, by decide⟩

end Axis

end StepperMotion
