import StepperMotion.Simulation.Basic

/-!
# Operating a simulated station

The owner of a simulated station starts it, gives commands and waits for their answers, and shuts it
down. While the owner does something the parties stand still; they work while the owner waits.
-/

namespace StepperMotion

namespace Simulation

/-! ## Starting -/

/-- A simulation of a station on which nobody works. -/
def ofStation (station : Station) : Simulation := { station := station }

/-- Starts a station, with a drive for every axis if it is `driven`, and lets everybody begin. -/
def start (config : MotionConfig) (axes : List (AxisConfig × Board)) (powered driven : Bool) :
    Except Failure Simulation :=
  (Station.start config axes powered).map fun station =>
    let n := axes.length
    let drives := if driven then (List.range n).map fun h => { handle := h } else []
    let parties := (List.range n).map .dispatcher ++ [.supervisor] ++
      (List.range drives.length).map .drive
    { station := station, drives := drives, line := parties : Simulation }.settle

/-! ## Commands -/

/-- Gives a command to an axis without waiting for the answer. -/
def submit (s : Simulation) (axis : String) (c : Command) : Simulation × Except MotionError Unit :=
  let (station, r) := s.station.submit axis c
  let s := { s with station := station }
  ((station.machine.handle? axis).elim s s.wakeDispatcher, r)

/-- The answer with a ticket has been given. -/
def isAnswered (s : Simulation) (ticket : Nat) : Bool :=
  s.station.replies.any fun r => r.ticket == ticket

/-- Lets everybody work until the answer with a ticket is given, at most until a time and for at
most `fuel` alarms. -/
def serveUntilAnswered (s : Simulation) (ticket horizonMs : Nat) : Nat → Simulation
  | 0 => s
  | fuel + 1 =>
    if s.isAnswered ticket then s
    else
      match s.nextAlarm? with
      | none => s
      | some ms =>
        if ms ≤ horizonMs then (s.jump ms).settle.serveUntilAnswered ticket horizonMs fuel else s

/-- How long a command may take that is given now: it waits for those before it, and each of them
may let the axis rest once, and once more because of what others do. -/
def patience (s : Station) : Nat :=
  let queued := s.dispatchers.foldl (fun n d => n + d.inbox.items.length) 0
  2 * (queued + 2) * (s.machine.config.restMs + 1)

/-- Waits for the answer with a ticket. Whoever is not answered in time finds the dispatcher of the
axis closed. -/
def waitFor (s : Simulation) (axis : String) (ticket : Nat) :
    Simulation × Except MotionError Outcome :=
  let time := patience s.station
  let s := s.settle.serveUntilAnswered ticket (s.station.nowMs + time) (time + 1)
  let (station, r) := s.station.takeReply ticket
  ({ s with station := station }, r.getD (.error (.dispatcherClosed axis)))

/-- Gives a command to an axis and waits for the answer. -/
def execute (s : Simulation) (axis : String) (c : Command) :
    Simulation × Except MotionError Outcome :=
  match s.station.request axis c with
  | (station, .error e) => ({ s with station := station }, .error e)
  | (station, .ok ticket) =>
    let s := { s with station := station }
    ((station.machine.handle? axis).elim s s.wakeDispatcher).waitFor axis ticket

/-- Another command is carried out at once, after so many milliseconds. -/
def intrude (s : Simulation) (h ms : Nat) (c : Command) :
    Simulation × Except MotionError (Except Failure Outcome) :=
  let s := s.sleep ms
  let (station, r) := s.station.override h c
  ({ s with station := station }, r)

/-- Waits for the answer of the hired dispatcher, and lets it go. -/
def waitForHired (s : Simulation) (ticket : Nat) : Simulation × Except Failure Outcome :=
  let (s, r) := s.waitFor "" ticket
  ({ s with station := s.station.dismiss },
    match s.station.fault?, r with
    | some f, _ => .error (.fault f)
    | none, .ok o => .ok o
    | none, .error e => .error (.refused e))

/-- Has a command carried out by a dispatcher that is hired for it, and waits for the answer. If
there is an `intrusion`, another command is carried out at once after so many milliseconds. -/
def process (s : Simulation) (h : Nat) (c : Command) (intrusion : Option (Nat × Command)) :
    Simulation × Except Failure Outcome :=
  match s.station.hire h c with
  | (_, .error e) => (s, .error (.refused e))
  | (station, .ok ticket) =>
    let s := { s with station := station }.wakeDispatcher 0
    match intrusion with
    | none => s.waitForHired ticket
    | some (ms, other) =>
      match s.intrude h ms other with
      | (s, .ok (.error (.fault f))) => (s, .error (.fault f))
      | (s, _) => s.waitForHired ticket

/-! ## The end -/

/-- No more commands will come, and the dispatchers that wait for some learn it. -/
def hangUp (s : Simulation) : Simulation :=
  (List.range s.station.dispatchers.length).foldl wakeDispatcher
    { s with station := s.station.hangUp }

/-- Calls off a dispatcher that has something to do yet, and waits for its end. -/
def cancelDispatcher (s : Simulation) (i : Nat) : Simulation :=
  match s.station.dispatchers[i]? with
  | none => s
  | some d =>
    if d.phase.isLive then { s with station := s.station.cancelDispatcher i }.settle else s

/-- Calls off the supervisor, and waits for its end. -/
def cancelSupervisor (s : Simulation) : Simulation :=
  { s with station := s.station.cancelSupervisor }.settle

/-- Stops all axes and ends the work of all dispatchers and of the supervisor. -/
def shutdown (s : Simulation) : Simulation :=
  let s := { s with station := s.station.handles.foldl Station.stopAxis s.station }.hangUp
  let s := (List.range s.station.dispatchers.length).foldl cancelDispatcher s
  let s := s.cancelSupervisor
  { s with station := s.station.say .info "Motion controller stopped" }

end Simulation

end StepperMotion
