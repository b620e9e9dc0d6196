import StepperMotion.Word

/-!
# The board of one axis

A timer, a direction line, a step line and an encoder, coupled so that step pulses move the shaft:
every rising edge of the step line moves the encoder by one count, down while the direction line
is high and up while it is low. A frozen shaft ignores the pulses, as a stalled motor does.

The timer refuses the frequency zero and those above its limit. It keeps every frequency that was
ever written to it, so that statements about what an axis does to its timer can look at the whole
past, and it counts starts and stops.
-/

namespace StepperMotion

inductive TimerError where
  /-- The frequency is zero or above the limit. -/
  | frequencyOutOfRange (hz : Nat)
deriving DecidableEq, Repr

def TimerError.message : TimerError → String
  | frequencyOutOfRange hz => s!"timer frequency out of range: {hz} Hz"

structure FreqWrite where
  hz : Nat
  accepted : Bool
deriving DecidableEq, Repr

/-- A timer that raises two matches per period of its frequency, one per half-step. -/
structure Timer where
  running : Bool := false
  freq : Nat := 0
  /-- The highest frequency it takes. -/
  limit : Nat := Count.limit
  starts : Nat := 0
  stops : Nat := 0
  /-- The frequencies written to it, newest first. -/
  writes : List FreqWrite := []
deriving DecidableEq, Repr

namespace Timer

def start (t : Timer) : Timer := { t with running := true, starts := t.starts + 1 }

def stop (t : Timer) : Timer := { t with running := false, stops := t.stops + 1 }

def accepts (t : Timer) (hz : Nat) : Bool := decide (hz ≠ 0 ∧ hz ≤ t.limit)

def setFrequency (t : Timer) (hz : Nat) : Timer × Except TimerError Unit :=
  if t.accepts hz then
    ({ t with freq := hz, writes := ⟨hz, true⟩ :: t.writes }, .ok ())
  else
    ({ t with writes := ⟨hz, false⟩ :: t.writes }, .error (.frequencyOutOfRange hz))

/-- Starts, stops and writes together. -/
def calls (t : Timer) : Nat := t.starts + t.stops + t.writes.length

/-- The frequencies that were taken, newest first. -/
def history (t : Timer) : List Nat := (t.writes.filter FreqWrite.accepted).map FreqWrite.hz

end Timer

structure Board where
  /-- The count of the encoder. -/
  position : Int := 0
  /-- The shaft ignores step pulses. -/
  frozen : Bool := false
  dirLevel : Bool := false
  stepLevel : Bool := false
  toggles : Nat := 0
  timer : Timer := {}
deriving DecidableEq, Repr

namespace Board

/-- Stops the timer at power-up; this is not counted. -/
def initTimer (b : Board) : Board := { b with timer := { b.timer with running := false } }

def startTimer (b : Board) : Board := { b with timer := b.timer.start }

def stopTimer (b : Board) : Board := { b with timer := b.timer.stop }

def setFrequency (b : Board) (hz : Nat) : Board × Except TimerError Unit :=
  let (t, r) := b.timer.setFrequency hz
  ({ b with timer := t }, r)

def setDir (b : Board) (high : Bool) : Board := { b with dirLevel := high }

def toggleDir (b : Board) : Board := b.setDir !b.dirLevel

/-- The position one count further in the direction of the direction line. -/
def advanced (b : Board) : Int :=
  Position.wrap (if b.dirLevel then b.position - 1 else b.position + 1)

/-- Sets the step line; a rising edge moves the shaft. -/
def setStep (b : Board) (high : Bool) : Board :=
  { b with
    stepLevel := high
    position := if high && !b.stepLevel && !b.frozen then b.advanced else b.position }

def toggleStep (b : Board) : Board :=
  ({ b with toggles := b.toggles + 1 } : Board).setStep !b.stepLevel

/-! ## What the surroundings do to a board -/

/-- Turns the shaft to a position. -/
def place (b : Board) (position : Int) : Board := { b with position := position }

/-- Blocks or frees the shaft. -/
def freeze (b : Board) (frozen : Bool) : Board := { b with frozen := frozen }

def limitTimer (b : Board) (hz : Nat) : Board := { b with timer := { b.timer with limit := hz } }

/-- The text of a board in reports. -/
def describe (b : Board) : String :=
  s!"AxisHardware \x7b timer_running: {b.timer.running}, .. \x7d"

end Board

end StepperMotion
