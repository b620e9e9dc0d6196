import StepperMotion.Json.Basic
import StepperMotion.Telemetry.Timestamp

/-!
# Events

What the supervisor tells the rest of the world. Whoever listens reads the events that were
published since the last time, but only so many are kept: the capacity of the stream, rounded up
to a power of two. A listener that falls further behind learns how many events it has missed.
-/

namespace StepperMotion

inductive EventKind where
  | positionReached
  /-- The motor did not follow, and the axis was stopped. -/
  | stalled
  /-- A move that had passed its setpoint goes back. -/
  | reversed
  /-- The timer refused a frequency, and the axis was stopped. -/
  | timerFault
deriving DecidableEq, Repr

def EventKind.name : EventKind → String
  | positionReached => "position_reached"
  | stalled => "stalled"
  | reversed => "reversed"
  | timerFault => "timer_fault"

/-- Something that has happened to an axis. -/
structure Event where
  axis : String
  kind : EventKind
  posAct : Int
deriving DecidableEq, Repr

namespace Event

/-- What the document of an event says but for the time. -/
def fields (e : Event) : List (String × Json) :=
  [("axis", .text e.axis), ("kind", .text e.kind.name), ("pos_act", .int e.posAct)]

/-- The document of an event that happened at a point in time. -/
def document (e : Event) (time : Timestamp) : Json :=
  .record (e.fields ++ [("at", .text time.render)])

end Event

/-- The events that a listener has not read. -/
structure EventStream where
  capacity : Nat
  /-- The events that are kept, oldest first. -/
  unread : List Event := []
  /-- How many events were given up since the last reading. -/
  missed : Nat := 0
deriving DecidableEq, Repr

namespace EventStream

/-- A stream without events that keeps at least `capacity` of them. -/
def ofCapacity (capacity : Nat) : EventStream := { capacity := capacity.nextPowerOfTwo }

/-- Publishes an event; if there is no room for it, the oldest one is given up. -/
def publish (s : EventStream) (e : Event) : EventStream :=
  let unread := s.unread ++ [e]
  if unread.length ≤ s.capacity then { s with unread := unread }
  else { s with unread := unread.tail, missed := s.missed + 1 }

/-- Reads all events: the stream afterwards, how many were missed, and those that were kept. -/
def read (s : EventStream) : EventStream × Nat × List Event :=
  ({ s with unread := [], missed := 0 }, s.missed, s.unread)

end EventStream

end StepperMotion
