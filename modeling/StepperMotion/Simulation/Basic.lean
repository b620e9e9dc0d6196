import StepperMotion.Simulation.Drive

/-!
# Running a station on a virtual clock

A simulation decides in which order the parties of a station make their strokes, so that one run is
singled out. The parties that can go on stand in a line. The first of them works until it has to
wait, and whoever it wakes joins the end of the line. When nobody is left in the line, the clock
jumps to the earliest alarm, and those who wait for it join the line in the order in which they set
their alarms.

A drive may wake the supervisor, and the supervisor the moves that it puts down to go on; neither
these moves nor the dispatchers wake anybody. So three rounds, each of which serves those who stood
in the line at its beginning, leave nobody in the line.
-/

namespace StepperMotion

/-- A party that takes turns with the others. -/
inductive Party where
  | dispatcher (i : Nat)
  | supervisor
  | reversal (id : Nat)
  | drive (i : Nat)
deriving DecidableEq, Repr

/-- The time until which a party waits. -/
structure Alarm where
  dueMs : Nat
  party : Party
deriving DecidableEq, Repr

/-- A station on a virtual clock. -/
structure Simulation where
  station : Station
  drives : List Drive := []
  /-- Who can go on, in the order of their turns. -/
  line : List Party := []
  /-- Who waits for what time, in the order in which the alarms were set. -/
  alarms : List Alarm := []

namespace Simulation

/-! ## Waking and waiting -/

/-- A party joins the line, unless it stands there already. -/
def wake (s : Simulation) (p : Party) : Simulation :=
  if p ∈ s.line then s else { s with line := s.line ++ [p] }

def wakeAll (s : Simulation) (ps : List Party) : Simulation := ps.foldl wake s

/-- A dispatcher that waits for commands is woken. -/
def wakeDispatcher (s : Simulation) (i : Nat) : Simulation :=
  match s.station.dispatchers[i]? with
  | some d => if d.phase = .idle then s.wake (.dispatcher i) else s
  | none => s

/-- There is something to do for the supervisor. -/
def calls (s : Simulation) : Bool :=
  s.station.supervisor != .off &&
    (s.station.machine.parkedSignal || !s.station.machine.notes.items.isEmpty)

/-- The supervisor is woken if there is something to do. -/
def wakeSupervisor (s : Simulation) : Simulation := if s.calls then s.wake .supervisor else s

/-- A party waits until a time. -/
def setAlarm (s : Simulation) (dueMs : Nat) (p : Party) : Simulation :=
  { s with alarms := s.alarms ++ [⟨dueMs, p⟩] }

/-- The moves that were put down to go on since the number of the next one was `first` join the
line. -/
def wakeReversals (s : Simulation) (first : Nat) : Simulation :=
  let spawned := s.station.reversals.filter fun r => decide (first ≤ r.id)
  s.wakeAll (spawned.map fun r : Reversal => .reversal r.id)

/-- Something is done to the station, and whoever has something to do for it joins the line. -/
def perform {α : Type} (s : Simulation) (f : Station → Station × α) : Simulation × α :=
  let (station, r) := f s.station
  (({ s with station := station }.wakeReversals s.station.nextReversal).wakeSupervisor, r)

def change (s : Simulation) (f : Station → Station) : Simulation :=
  (s.perform fun station => (f station, ())).1

/-! ## Turns -/

/-- As many strokes as a dispatcher may make in one turn: two to begin and to end, and four per
command. -/
def dispatcherStrokes (d : Dispatcher) : Nat := 4 * (d.inbox.items.length + 1) + 2

def turnDispatcher (s : Simulation) (i : Nat) : Simulation :=
  match s.station.dispatchers[i]? with
  | none => s
  | some d =>
    let s := { s with station := Nat.repeat (·.dispatch i) (dispatcherStrokes d) s.station }
    match s.station.dispatchers[i]?.map Dispatcher.phase with
    | some (.waiting _ untilMs) => s.setAlarm untilMs (.dispatcher i)
    | _ => s

/-- As many strokes as the supervisor may make in one turn: one to begin, one to heed the signal,
and two per report and per axis. -/
def supervisorStrokes (s : Station) : Nat :=
  2 * (s.machine.notes.items.length + s.machine.axes.length) + 2

def turnSupervisor (s : Simulation) : Simulation :=
  s.change (Nat.repeat (·.supervise false) (supervisorStrokes s.station))

def turnReversal (s : Simulation) (id : Nat) : Simulation :=
  match s.station.reversals.find? (·.id == id) with
  | none => s
  | some r =>
    if r.dueMs ≤ s.station.nowMs then { s with station := s.station.reverse id }
    else s.setAlarm r.dueMs (.reversal id)

def turnDrive (s : Simulation) (i : Nat) : Simulation :=
  match s.drives[i]? with
  | none => s
  | some d =>
    let (s, d) := s.perform (·.drive d)
    { s with drives := s.drives.set i d }.setAlarm (s.station.nowMs + 1) (.drive i)

def turn (s : Simulation) : Party → Simulation
  | .dispatcher i => s.turnDispatcher i
  | .supervisor => s.turnSupervisor
  | .reversal id => s.turnReversal id
  | .drive i => s.turnDrive i

/-- The turn of the first in the line. -/
def next (s : Simulation) : Simulation :=
  match s.line with
  | [] => s
  | p :: rest => { s with line := rest }.turn p

/-- The turns of those who stand in the line. -/
def round (s : Simulation) : Simulation := Nat.repeat next s.line.length s

/-- Lets everybody work until all wait. -/
def settle (s : Simulation) : Simulation := s.round.round.round

/-! ## The clock -/

def nextAlarm? (s : Simulation) : Option Nat := (s.alarms.map Alarm.dueMs).min?

/-- The clock jumps forward to a time, and whoever waited for it joins the line. -/
def jump (s : Simulation) (ms : Nat) : Simulation :=
  let (due, later) := s.alarms.partition fun a => decide (a.dueMs ≤ ms)
  { s with station := s.station.pass (ms - s.station.nowMs), alarms := later }.wakeAll
    (due.map Alarm.party)

/-- Serves the alarms before a time, of which there are at most `fuel` different ones. -/
def serveAlarms (s : Simulation) (beforeMs : Nat) : Nat → Simulation
  | 0 => s
  | fuel + 1 =>
    match s.nextAlarm? with
    | none => s
    | some ms => if ms < beforeMs then (s.jump ms).settle.serveAlarms beforeMs fuel else s

/-- Waits, up to the longest wait. Whoever waits goes on before those whose alarm is at the same
time. -/
def sleep (s : Simulation) (ms : Nat) : Simulation :=
  if ms = 0 then s
  else
    let waitMs := min ms longestWaitMs
    let wakeMs := s.station.nowMs + waitMs
    (s.settle.serveAlarms wakeMs waitMs).jump wakeMs

end Simulation

end StepperMotion
