import StepperMotion.Station.Basic

/-!
# Carrying out commands

A command that is accepted waits in the inbox of its axis. The dispatcher of the axis takes it out,
checks it, clears the faults of the axis, and halts the axis if the command would reverse it. It
then carries the command out, after a rest if the axis was halted. Before it does so it looks again
whether the command would reverse the axis, which somebody may have started anew during the rest;
if so, there is another rest. A command to stop is carried out at once.

A command that comes with a ticket is answered, whatever becomes of it.
-/

namespace StepperMotion

namespace Axis

/-- Checks a command and prepares the axis for it; says whether the axis has to rest. -/
def prepare (a : Axis) (c : Command) : Transition (Except Failure Bool) :=
  match a.validate c with
  | .error e => ⟨a, [], .error e⟩
  | .ok () =>
    let t := a.clearFaults.beginDirectionChange c
    ⟨t.axis, t.log, .ok t.answer⟩

/-- Carries out a command unless it would reverse the axis; there is no result if it would. -/
def attempt (a : Axis) (c : Command) (nowMs : Nat) :
    Transition (Option (Except Failure Outcome)) :=
  let t := a.beginDirectionChange c
  if t.answer then ⟨t.axis, t.log, none⟩
  else
    let u := t.axis.apply c nowMs
    ⟨u.axis, t.log ++ u.log, some u.answer⟩

end Axis

namespace Station

/-! ## Accepting a command -/

/-- Puts a command into the inbox of dispatcher `i`, which serves an axis with the given name. -/
def deliver (s : Station) (i : Nat) (axis : String) (e : Envelope) :
    Station × Except MotionError Unit :=
  match s.dispatchers[i]? with
  | none => (s, .error (.unknownAxis axis))
  | some d =>
    match d.inbox.offer e with
    | .ok inbox => (s.setDispatcher i { d with inbox := inbox }, .ok ())
    | .error .full => (s, .error (.queueFull axis))
    | .error .closed => (s, .error (.dispatcherClosed axis))

/-- Puts a command into the inbox of an axis. -/
def enqueue (s : Station) (axis : String) (e : Envelope) : Station × Except MotionError Unit :=
  match s.machine.handle? axis with
  | none => (s, .error (.unknownAxis axis))
  | some i => s.deliver i axis e

/-- Gives a command to an axis without waiting for the answer. -/
def submit (s : Station) (axis : String) (c : Command) : Station × Except MotionError Unit :=
  s.enqueue axis ⟨c, none⟩

/-- Gives a command to an axis, and returns the ticket of the answer. -/
def request (s : Station) (axis : String) (c : Command) : Station × Except MotionError Nat :=
  match s.enqueue axis ⟨c, some s.nextTicket⟩ with
  | (s, .ok ()) => ({ s with nextTicket := s.nextTicket + 1 }, .ok s.nextTicket)
  | (s, .error e) => (s, .error e)

/-- Takes the answer with a ticket out of those that were given. -/
def takeReply (s : Station) (ticket : Nat) : Station × Option (Except MotionError Outcome) :=
  ({ s with replies := s.replies.filter (·.ticket != ticket) },
   (s.replies.find? (·.ticket == ticket)).map Reply.result)

/-! ## The strokes of a dispatcher -/

/-- Answers a command, if somebody waits for it. -/
def answer (s : Station) (e : Envelope) (result : Except MotionError Outcome) : Station :=
  match e.ticket with
  | none => s
  | some ticket => { s with replies := s.replies ++ [⟨ticket, result⟩] }

/-- Ends the work of a dispatcher. Nobody will carry out the commands that it has not finished. -/
def retire (s : Station) (i : Nat) (d : Dispatcher) (phase : Dispatcher.Phase) : Station :=
  let unfinished := d.phase.envelope?.toList ++ d.inbox.items
  let s := s.setDispatcher i { d with inbox := d.inbox.close, phase := phase }
  unfinished.foldl (fun s e => s.answer e (.error (.dispatcherClosed d.name))) s

/-- The dispatcher has finished a command. -/
def finish (s : Station) (i : Nat) (d : Dispatcher) (e : Envelope) :
    Except Failure Outcome → Station
  | .ok o => (s.setDispatcher i { d with phase := .idle }).answer e (.ok o)
  | .error (.refused r) => (s.setDispatcher i { d with phase := .idle }).answer e (.error r)
  | .error (.fault f) => s.retire i d (.failed f)

/-- The dispatcher takes the next command, or ends if none will come. -/
def receive (s : Station) (i : Nat) (d : Dispatcher) : Station :=
  match d.inbox.next? with
  | some (e, inbox) =>
    (s.setDispatcher i { d with inbox := inbox, phase := .received e }).say .debug
      s!"{d.name}: processing {e.command.describe}"
  | none =>
    if d.hungUp then
      (s.setDispatcher i { d with inbox := d.inbox.close, phase := .ended }).say .info
        s!"{d.name}: dispatcher stopped"
    else s

def refuse (s : Station) (i : Nat) (d : Dispatcher) (e : Envelope) (r : MotionError) : Station :=
  (s.say .warn s!"{d.name}: command rejected: {r.message}").finish i d e (.error (.refused r))

/-- The dispatcher checks a command and prepares the axis. -/
def begin (s : Station) (i : Nat) (d : Dispatcher) (e : Envelope) : Station :=
  if e.command = .stop then
    match s.operate d.handle Axis.stop with
    | (s, .error r) => s.finish i d e (.error (.refused r))
    | (s, .ok o) => s.finish i d e (.ok o)
  else
    match s.operate d.handle fun a => a.prepare e.command with
    | (s, .error r) => s.refuse i d e r
    | (s, .ok (.error (.refused r))) => s.refuse i d e r
    | (s, .ok (.error (.fault f))) => s.finish i d e (.error (.fault f))
    | (s, .ok (.ok true)) =>
      s.setDispatcher i
        { d with phase := .waiting e (s.nowMs + s.machine.config.restMs) }
    | (s, .ok (.ok false)) => s.setDispatcher i { d with phase := .ready e }

/-- The dispatcher carries a command out, or lets the axis rest once more. -/
def attempt (s : Station) (i : Nat) (d : Dispatcher) (e : Envelope) : Station :=
  match s.operate d.handle fun a => a.attempt e.command s.nowMs with
  | (s, .error r) => s.finish i d e (.error (.refused r))
  | (s, .ok (some result)) => s.finish i d e result
  | (s, .ok none) =>
    (s.setDispatcher i
      { d with phase := .waiting e (s.nowMs + s.machine.config.restMs) }).say
        .debug s!"{d.name}: reconfigured during direction change"

/-- The next stroke of a dispatcher. -/
def dispatch (s : Station) (i : Nat) : Station :=
  match s.dispatchers[i]? with
  | none => s
  | some d =>
    match d.phase with
    | .starting =>
      (s.setDispatcher i { d with phase := .idle }).say .info s!"{d.name}: dispatcher started"
    | .idle => s.receive i d
    | .received e => s.begin i d e
    | .ready e => s.attempt i d e
    | .waiting e untilMs => if untilMs ≤ s.nowMs then s.attempt i d e else s
    | .ended | .failed _ => s

/-! ## The end of the work -/

def hangUp (s : Station) : Station :=
  { s with dispatchers := s.dispatchers.map fun d => { d with hungUp := true } }

/-- Calls a dispatcher off, if it is at rest. -/
def cancelDispatcher (s : Station) (i : Nat) : Station :=
  match s.dispatchers[i]? with
  | none => s
  | some d => if d.phase.isAtRest then s.retire i d .ended else s

end Station

end StepperMotion
