import StepperMotion.Config
import StepperMotion.Json.Reader
import StepperMotion.Json.Record

/-!
# Configuration documents

The document of a machine's configuration gives any of the figures, and those that are missing
have their usual values. The document of an axis has to give the name; that of a proportional
controller has to give everything. Figures are integers in the range of their kind.

Loading a configuration reads a text, takes the figures from it, and validates them.
-/

namespace StepperMotion

namespace Json

/-- A counter or a frequency. -/
def count? : Json → Option Nat := nat? Count.limit

def position? : Json → Option Int := int? Position.lowest Position.highest

/-- A natural number of 64 bits. -/
def wide? : Json → Option Nat := nat? 18446744073709551615

end Json

/-! ## Proportional controllers and axes -/

namespace Proportional.Settings

def fieldNames : List String :=
  ["kp", "direction", "sample_period_ms", "out_min", "out_max", "out_abs_min"]

def ofJson? (v : Json) : Option Settings := do
  let fs ← v.fields? fieldNames
  return {
    gain := ← Json.required? fs "kp" Json.position?
    acting := ← Json.required? fs "direction" (Json.choice? Acting.named)
    samplePeriodMs := ← Json.required? fs "sample_period_ms" Json.count?
    limits := {
      lowest := ← Json.required? fs "out_min" Json.position?
      highest := ← Json.required? fs "out_max" Json.position?
      floor := ← Json.required? fs "out_abs_min" Json.position? } }

def toJson (s : Settings) : Json :=
  .record
    [("kp", .int s.gain),
     ("direction", .text s.acting.name),
     ("sample_period_ms", .int s.samplePeriodMs),
     ("out_min", .int s.limits.lowest),
     ("out_max", .int s.limits.highest),
     ("out_abs_min", .int s.limits.floor)]

end Proportional.Settings

namespace AxisConfig

def fieldNames : List String := ["name", "offset", "kp"]

def ofJson? (v : Json) : Option AxisConfig := do
  let fs ← v.fields? fieldNames
  return {
    name := ← Json.required? fs "name" Json.text?
    offset := ← Json.field? fs "offset" Json.position? 0
    controller := ← Json.field? fs "kp" (Json.optional? Proportional.Settings.ofJson?) none }

def toJson (c : AxisConfig) : Json :=
  .record
    [("name", .text c.name),
     ("offset", .int c.offset),
     ("kp", (c.controller.map Proportional.Settings.toJson).getD .null)]

end AxisConfig

/-! ## Machines -/

/-- Why a configuration could not be loaded. -/
inductive LoadError where
  /-- The file is missing or is no text. -/
  | unreadable (path : String)
  /-- The text is no configuration document. -/
  | malformed
  /-- The figures do not fit together, or could not be checked. -/
  | rejected (e : Failure)
deriving DecidableEq, Repr

namespace MotionConfig

def fieldNames : List String :=
  ["max_freq", "min_freq", "compumotor_max_freq", "max_speed_free_run", "free_run_freqs_khz",
   "direction_change_delay_ms", "supervisor_rate", "pos_threshold", "approach_threshold",
   "approach_freq", "stall_threshold", "stall_max_count", "stall_detection", "slope_ratio",
   "closed_loop_max_freq", "closed_loop_freq_multiplier", "closed_loop_amplitude_divisor",
   "closed_loop_tick_period_ms", "command_queue_capacity", "notification_queue_capacity",
   "event_capacity"]

/-- Takes the figures that are given from `fs`, and the others from `c`. -/
def overlay? (c : MotionConfig) (fs : List (String × Json)) : Option MotionConfig := do
  return {
    maxFreq := ← Json.field? fs "max_freq" Json.count? c.maxFreq
    minFreq := ← Json.field? fs "min_freq" Json.count? c.minFreq
    compumotorMaxFreq := ← Json.field? fs "compumotor_max_freq" Json.count? c.compumotorMaxFreq
    maxSpeedLevel := ← Json.field? fs "max_speed_free_run" Json.count? c.maxSpeedLevel
    speedTableKhz := ← Json.field? fs "free_run_freqs_khz" (Json.list? Json.count?) c.speedTableKhz
    directionChangeDelayMs :=
      ← Json.field? fs "direction_change_delay_ms" Json.wide? c.directionChangeDelayMs
    reportInterval := ← Json.field? fs "supervisor_rate" Json.count? c.reportInterval
    posThreshold := ← Json.field? fs "pos_threshold" Json.position? c.posThreshold
    approachThreshold := ← Json.field? fs "approach_threshold" Json.position? c.approachThreshold
    approachFreq := ← Json.field? fs "approach_freq" Json.count? c.approachFreq
    stallThreshold := ← Json.field? fs "stall_threshold" Json.position? c.stallThreshold
    stallMaxCount := ← Json.field? fs "stall_max_count" Json.count? c.stallMaxCount
    stallDetection := ← Json.field? fs "stall_detection" Json.bool? c.stallDetection
    slopeRatio := ← Json.field? fs "slope_ratio" Json.count? c.slopeRatio
    closedLoopMaxFreq := ← Json.field? fs "closed_loop_max_freq" Json.count? c.closedLoopMaxFreq
    closedLoopFreqMultiplier :=
      ← Json.field? fs "closed_loop_freq_multiplier" Json.count? c.closedLoopFreqMultiplier
    closedLoopDivisor :=
      ← Json.field? fs "closed_loop_amplitude_divisor" Json.count? c.closedLoopDivisor
    closedLoopPeriodMs :=
      ← Json.field? fs "closed_loop_tick_period_ms" Json.count? c.closedLoopPeriodMs
    commandCapacity := ← Json.field? fs "command_queue_capacity" Json.wide? c.commandCapacity
    notificationCapacity :=
      ← Json.field? fs "notification_queue_capacity" Json.wide? c.notificationCapacity
    eventCapacity := ← Json.field? fs "event_capacity" Json.wide? c.eventCapacity }

def ofJson? (v : Json) : Option MotionConfig := do
  overlay? {} (← v.fields? fieldNames)

/-- The document of a configuration, with every figure. -/
def toJson (c : MotionConfig) : Json :=
  .record
    [("max_freq", .int c.maxFreq),
     ("min_freq", .int c.minFreq),
     ("compumotor_max_freq", .int c.compumotorMaxFreq),
     ("max_speed_free_run", .int c.maxSpeedLevel),
     ("free_run_freqs_khz", .array (c.speedTableKhz.map fun (khz : Nat) => .int khz)),
     ("direction_change_delay_ms", .int c.directionChangeDelayMs),
     ("supervisor_rate", .int c.reportInterval),
     ("pos_threshold", .int c.posThreshold),
     ("approach_threshold", .int c.approachThreshold),
     ("approach_freq", .int c.approachFreq),
     ("stall_threshold", .int c.stallThreshold),
     ("stall_max_count", .int c.stallMaxCount),
     ("stall_detection", .bool c.stallDetection),
     ("slope_ratio", .int c.slopeRatio),
     ("closed_loop_max_freq", .int c.closedLoopMaxFreq),
     ("closed_loop_freq_multiplier", .int c.closedLoopFreqMultiplier),
     ("closed_loop_amplitude_divisor", .int c.closedLoopDivisor),
     ("closed_loop_tick_period_ms", .int c.closedLoopPeriodMs),
     ("command_queue_capacity", .int c.commandCapacity),
     ("notification_queue_capacity", .int c.notificationCapacity),
     ("event_capacity", .int c.eventCapacity)]

/-- Loads a configuration from a text. -/
def load (text : String) : Except LoadError MotionConfig :=
  match (Json.parse? text).bind ofJson? with
  | none => .error .malformed
  | some c =>
    match c.validate with
    | .ok () => .ok c
    | .error e => .error (.rejected e)

/-- Loads a configuration from the bytes of a file, `none` if there is no such file. -/
def loadFile (path : String) (bytes : Option ByteArray) : Except LoadError MotionConfig :=
  match bytes.bind String.fromUTF8? with
  | some text => load text
  | none => .error (.unreadable path)

end MotionConfig

/-- The report of a configuration that could not be loaded. -/
def LoadError.message : LoadError → String
  | unreadable path => s!"Failed to read motion config {path}"
  | malformed => "Failed to parse motion config"
  | rejected (.refused e) => e.message
  | rejected (.fault f) => f.message

end StepperMotion
