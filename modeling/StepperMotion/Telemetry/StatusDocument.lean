import StepperMotion.Axis.Basic
import StepperMotion.Json.Basic

/-!
# Documents about the state of axes

The document of one status, and the document of a whole machine, which has one entry per axis name
in the order of the names. If a name comes more than once, its last status counts.
-/

namespace StepperMotion

namespace Status

def document (s : Status) : Json :=
  .record
    [("name", .text s.name),
     ("mode", .text s.mode.name),
     ("direction", .text s.direction.name),
     ("posCmd", .int s.posCmd),
     ("posAct", .int s.posAct),
     ("stalled", .bool s.stalled),
     ("alreadyThere", .bool s.alreadyThere),
     ("offset", .int s.offset),
     ("currentFreq", .int s.currentFreq),
     ("halfStepsCompleted", .int s.halfStepsCompleted),
     ("halfStepsRequested", .int s.halfStepsRequested),
     ("droppedNotifications", .int s.droppedNotifications)]

/-- The entry of an axis in the telemetry. -/
def telemetry (s : Status) : Json :=
  .record
    [("posCmd", .int s.posCmd),
     ("posAct", .int s.posAct),
     ("stalled", .bool s.stalled),
     ("offset", .int s.offset),
     ("mode", .text s.mode.name),
     ("alreadyThere", .bool s.alreadyThere)]

end Status

/-- Puts an entry into a list of entries that is sorted by name. -/
def insertEntry (name : String) (v : Json) : List (String × Json) → List (String × Json)
  | [] => [(name, v)]
  | (n, w) :: rest =>
    if name = n then (name, v) :: rest
    else if name < n then (name, v) :: (n, w) :: rest
    else (n, w) :: insertEntry name v rest

def telemetryDocument (statuses : List Status) : Json :=
  .record (statuses.foldl (fun entries s => insertEntry s.name s.telemetry entries) [])

end StepperMotion
