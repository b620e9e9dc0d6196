import StepperMotion.Station.Basic

/-!
# Looking after the reports

The supervisor judges one report at a time, and the log and the events say what came of it. If an
axis has passed its setpoint, the move is put down to go on after a rest; by then it may have been
replaced or stopped, and nothing happens.

Reports come from the queue, or from the axes on which they were parked. The supervisor goes to
the axes when the signal is raised, which takes the signal back, and visits all of them. When there
are reports in the queue and the signal is raised as well, it may turn to either first.
-/

namespace StepperMotion

namespace Station

/-! ## Judging a report -/

/-- Puts a move down to go on after a rest. -/
def spawnReversal (s : Station) (note : Notification) : Station :=
  { s with
    reversals := s.reversals ++
      [⟨s.nextReversal, note, s.nowMs + s.machine.config.restMs⟩]
    nextReversal := s.nextReversal + 1 }

/-- What follows from the verdict on a report about the axis with the given name. -/
def conclude (s : Station) (axis : String) (note : Notification) : Verdict → Station
  | .stale => s.say .debug s!"{axis}: stale {note.kind.name} ignored"
  | .quiet => s
  | .stalled =>
    let s := s.switchPower false
    (s.say .warn s!"{axis}: stalled at {note.posAct}, main power off").publish
      axis .stalled note.posAct
  | .reached =>
    (s.say .info s!"{axis}: position reached {note.posAct}").publish
      axis .positionReached note.posAct
  | .timerFault =>
    (s.say .error s!"{axis}: timer refused ramp frequency, axis stopped").publish
      axis .timerFault note.posAct
  | .overshoot =>
    (s.say .debug s!"{axis}: overshoot at {note.posAct}, reversing").spawnReversal note

def judge (s : Station) (note : Notification) : Station :=
  match s.machine.axes[note.handle]? with
  | none =>
    let refusal := Machine.unknownHandle note.handle
    s.say .warn s!"Notification dropped: {refusal.message}"
  | some a =>
    let (b, verdict) := a.inspect note
    { s with machine := s.machine.setAxis note.handle b }.conclude a.name note verdict

/-! ## Collecting reports -/

/-- Takes the oldest report out of the queue. -/
def takeNote (s : Station) : Station × Option Notification :=
  match s.machine.notes.next? with
  | none => (s, none)
  | some (note, notes) => ({ s with machine := { s.machine with notes := notes } }, some note)

def offerNote (s : Station) (note : Notification) : Station × Except Mailbox.Refusal Unit :=
  match s.machine.notes.offer note with
  | .error e => (s, .error e)
  | .ok notes => ({ s with machine := { s.machine with notes := notes } }, .ok ())

/-- Takes the report that is parked on an axis. -/
def takeParked (s : Station) (h : Nat) : Station × Option Notification :=
  match s.machine.axes[h]? with
  | none => (s, none)
  | some a =>
    let (a, note) := a.takeParked
    ({ s with machine := s.machine.setAxis h a }, note)

/-- Takes the signal back, and says whether it was raised. -/
def takeSignal (s : Station) : Station × Bool :=
  ({ s with machine := { s.machine with parkedSignal := false } }, s.machine.parkedSignal)

def handles (s : Station) : List Nat := List.range s.machine.axes.length

/-- Judges the parked reports of the given axes. -/
def drain (s : Station) : List Nat → Station
  | [] => s
  | h :: rest =>
    match s.takeParked h with
    | (s, none) => s.drain rest
    | (s, some note) => (s.judge note).drain rest

/-! ## The strokes of the supervisor -/

def collect (s : Station) : Station :=
  match s.takeNote with
  | (s, none) => s
  | (s, some note) => { s with supervisor := .working (some note) [] }

def heed (s : Station) : Station :=
  if s.machine.parkedSignal then { s.takeSignal.1 with supervisor := .working none s.handles }
  else s

/-- The next stroke of the supervisor; if it has the choice between the queue and the signal,
`signalFirst` decides. -/
def supervise (s : Station) (signalFirst : Bool) : Station :=
  match s.supervisor with
  | .off => s
  | .starting => { s with supervisor := .working none [] }.say .info "Supervisor started"
  | .working (some note) toVisit => { s with supervisor := .working none toVisit }.judge note
  | .working none (h :: rest) =>
    let (s, note) := s.takeParked h
    { s with supervisor := .working note rest }
  | .working none [] =>
    if s.machine.parkedSignal && (signalFirst || s.machine.notes.items.isEmpty) then s.heed
    else s.collect

/-- Calls the supervisor off, if it is at rest. The reports in the queue are lost. -/
def cancelSupervisor (s : Station) : Station :=
  if s.supervisor.isAtRest then
    { s with
      supervisor := .off
      machine := { s.machine with notes := s.machine.notes.close } }
  else s

/-! ## Going on after a rest -/

/-- What follows from the attempt to go on with a move of the axis with the given name. -/
def concludeReversal (s : Station) (axis : String) (note : Notification) :
    Option (Except Failure Outcome) → Station
  | none => s.say .debug s!"{axis}: move replaced before reversal"
  | some (.error (.refused e)) => s.say .error s!"{axis}: reversal failed: {e.message}"
  | some (.error (.fault _)) => s
  | some (.ok .alreadyThere) => s.publish axis .positionReached note.posAct
  | some (.ok outcome) =>
    (s.say .info s!"{axis}: reversed, {outcome.describe}").publish axis .reversed note.posAct

/-- A move goes on, if its time has come. -/
def reverse (s : Station) (id : Nat) : Station :=
  match s.reversals.find? fun r => r.id == id && decide (r.dueMs ≤ s.nowMs) with
  | none => s
  | some r =>
    let s := { s with reversals := s.reversals.filter (·.id != id) }
    match s.operate r.note.handle fun a => a.resume r.note.epoch s.nowMs with
    | (s, .error _) => s
    | (s, .ok result) =>
      match s.machine.axes[r.note.handle]? with
      | none => s
      | some a => s.concludeReversal a.name r.note result

end Station

end StepperMotion
