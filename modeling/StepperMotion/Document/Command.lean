import StepperMotion.Command
import StepperMotion.Document.Config

/-!
# Command documents

A command is written as an object whose member `type` names the command and whose other members
are its fields, or as an array of the name and the fields in their order. Members that are no
field are passed over, but the whole document has to be plain: its strings have to be texts, its
numbers finite, and it may not nest 128 deep. All fields have to be given, and none twice.
-/

namespace StepperMotion

namespace Command

/-- The depth that a document must not have. -/
abbrev depthLimit : Nat := 128

/-- A direction in a command: a choice whose value may be an empty object as well. -/
def readDirection? : Json → Option Direction
  | .object [(some s, .object [])] => Direction.named.lookup s
  | v => v.choice? Direction.named

/-- Reads the fields of the command named `type` from a record. -/
def ofFields? (type : String) (v : Json) : Option Command :=
  match type with
  | "free_run" => do
    let fs ← v.fields? ["direction", "speed_level"]
    return .freeRun (← Json.required? fs "direction" readDirection?)
      (← Json.required? fs "speed_level" Json.count?)
  | "closed_loop" => do
    let fs ← v.fields? ["setpoint"]
    return .closedLoop (← Json.required? fs "setpoint" Json.position?)
  | "steps" => do
    let fs ← v.fields?
      ["direction", "speed_level", "step_count", "tick_period_ms", "amplitude_divisor"]
    return .steps (← Json.required? fs "direction" readDirection?)
      (← Json.required? fs "speed_level" Json.count?)
      (← Json.required? fs "step_count" Json.count?)
      (← Json.required? fs "tick_period_ms" Json.count?)
      (← Json.required? fs "amplitude_divisor" Json.count?)
  | "stop" => do
    let _ ← v.fields? []
    return .stop
  | _ => none

def ofJson? (v : Json) : Option Command :=
  if v.isPlain depthLimit then
    match v with
    | .array (.string (some type) :: vs) => ofFields? type (.array vs)
    | .object ms =>
      match ms.partition fun m => m.1 == some "type" with
      | ([(_, .string (some type))], ms) => ofFields? type (.object ms)
      | _ => none
    | _ => none
  else none

def toJson : Command → Json
  | freeRun d level =>
    .record [("type", .text "free_run"), ("direction", .text d.name), ("speed_level", .int level)]
  | closedLoop setpoint => .record [("type", .text "closed_loop"), ("setpoint", .int setpoint)]
  | steps d level count period divisor =>
    .record
      [("type", .text "steps"), ("direction", .text d.name), ("speed_level", .int level),
       ("step_count", .int count), ("tick_period_ms", .int period),
       ("amplitude_divisor", .int divisor)]
  | stop => .record [("type", .text "stop")]

end Command

def Outcome.toJson : Outcome → Json
  | started f => .record [("outcome", .text "started"), ("frequency", .int f)]
  | alreadyThere => .record [("outcome", .text "already_there")]
  | stopped => .record [("outcome", .text "stopped")]
  | alreadyStopped => .record [("outcome", .text "already_stopped")]

end StepperMotion
