import StepperMotion.Axis.Basic

/-!
# Setting up and ending moves

`Axis.apply` carries out a command. It refuses what `Axis.validate` refuses before anything is
changed; after that it sets up the move, starts a new epoch and arms the timer, in this order, so
that the first timer match finds the move complete. Should the timer not take the frequency, the
axis is left stopped.

A motor must not be reversed while it turns. `Axis.beginDirectionChange` looks whether a command
would do that to a moving axis; if so, it stops the timer and asks the caller to wait. When the
caller comes back and nothing has happened to the axis in between, the command may go ahead.
-/

namespace StepperMotion

namespace Axis

/-- The largest number of steps whose half-steps can be counted. -/
abbrev maxStepCount : Nat := 2147483647

/-! ## Checking a command -/

def speedFreq (a : Axis) (level : Nat) : Except Failure Nat :=
  match a.config.freeRunFreq level with
  | .error f => .error (.fault f)
  | .ok none => .error (.refused (.speedOutOfRange a.name level))
  | .ok (some f) => .ok f

/-- The speed level of the command exists, if it names one. -/
def checkSpeed (a : Axis) (c : Command) : Except Failure Unit :=
  match c.speedLevel? with
  | none => .ok ()
  | some level => (a.speedFreq level).map fun _ => ()

/-- The ramp of the command can be built and its half-steps can be counted. -/
def checkSteps (a : Axis) : Command → Except Failure Unit
  | .steps _ _ count _ divisor =>
    if divisor = 0 then .error (.refused (.zeroAmplitudeDivisor a.name))
    else if maxStepCount < count then .error (.refused (.stepCountOutOfRange a.name count))
    else .ok ()
  | _ => .ok ()

def validate (a : Axis) (c : Command) : Except Failure Unit := do
  a.checkSpeed c
  a.checkSteps c

/-! ## Changes of direction -/

/-- The direction a command would turn a moving axis in. A setpoint that has been reached asks for
none; for this the encoder is read. -/
def directionFor (a : Axis) : Command → Axis × Option Direction
  | .closedLoop setpoint =>
    let a := a.sense
    let error := Position.sub setpoint a.posAct
    if Position.abs error < a.config.posThreshold then (a, none)
    else (a, some (.ofError error))
  | c => (a, c.direction?)

/-- The axis was halted for a change of direction, and nothing has happened to it since. -/
def isQuiesced (a : Axis) : Bool := a.quiescedEpoch == some a.epoch && !a.isRunning

/-- Halts the axis for a change of direction. -/
def quiesce (a : Axis) : Axis :=
  let a := a.stopTimer.nextEpoch
  { a with quiescedEpoch := some a.epoch }

/-- Halts the axis if the command would reverse it, and says whether the caller has to wait. -/
def beginDirectionChange (a : Axis) (c : Command) : Transition Bool :=
  if a.mode.isMoving then
    match a.directionFor c with
    | (a, none) => ⟨a, [], false⟩
    | (a, some d) =>
      if d = a.dir ∨ a.isQuiesced then ⟨a, [], false⟩
      else
        ⟨a.quiesce,
         [⟨.debug, s!"{a.name}: direction change {a.dir.abbreviation} -> {d.abbreviation}, " ++
            s!"waiting {a.config.directionChangeDelayMs} ms"⟩],
         true⟩
  else ⟨a, [], false⟩

/-! ## Arming the timer -/

def face (a : Axis) (d : Direction) : Axis :=
  { a with dir := d, board := a.board.setDir d.level }

/-- Starts counting half-steps anew, from the position the encoder shows. -/
def resetProgress (a : Axis) (halfSteps : Nat) : Axis :=
  { a.sense with
    halfStepsRequested := halfSteps
    halfStepsCompleted := 0
    halfStepsToMiddle := 0
    halfPulses := 0
    lastPos := a.board.position }

/-- The highest frequency of the current kind of move. -/
def freqLimit (a : Axis) : Nat :=
  match a.mode with
  | .closedLoop => a.config.compumotorMaxFreq
  | _ => a.config.maxFreq

def setFrequency (a : Axis) (freq : Nat) : Axis × Except TimerError Unit :=
  let (b, r) := a.board.setFrequency freq
  ({ a with board := b }, r)

/-- Starts the timer at a frequency. A frequency that is outside the limits or refused by the timer
stops the axis instead. -/
def arm (a : Axis) (freq : Nat) : Axis × Except MotionError Unit :=
  let a := a.stopTimer
  if freq < a.config.minFreq ∨ a.freqLimit < freq then
    ({ a with mode := .stopped },
     .error (.invariant a.name
       s!"frequency {freq} Hz outside [{a.config.minFreq}, {a.freqLimit}]"))
  else
    match a.setFrequency freq with
    | (a, .ok ()) => ({ a with board := a.board.startTimer }, .ok ())
    | (a, .error e) => ({ a with mode := .stopped }, .error (.invariant a.name e.message))

/-- Arms the timer for a move that has been set up, and reports the result. -/
def launch (a : Axis) (freq : Nat) (line : String) : Transition (Except Failure Outcome) :=
  match a.arm freq with
  | (a, .ok ()) => ⟨a, [⟨.info, line⟩], .ok (.started freq)⟩
  | (a, .error e) => ⟨a, [⟨.warn, e.message⟩], .error (.refused e)⟩

/-! ## The moves -/

def startFreeRun (a : Axis) (d : Direction) (freq nowMs : Nat) :
    Transition (Except Failure Outcome) :=
  let a := ({ a with mode := .freeRunning } : Axis).face d
  let a := ({ a.resetProgress 0 with ramp := .flat freq nowMs } : Axis).nextEpoch
  a.launch freq s!"{a.name}: FREE RUN, speed: {freq}, direction: {a.dir.abbreviation}"

def startSteps (a : Axis) (d : Direction) (freq count periodMs divisor nowMs : Nat) :
    Transition (Except Failure Outcome) :=
  let a := ({ a with mode := .steps } : Axis).face d
  match Count.checkedMul count 2 with
  | .error f => ⟨a, [], .error (.fault f)⟩
  | .ok halfSteps =>
    let a := a.resetProgress halfSteps
    let a := ({ a with
      halfStepsToMiddle := halfSteps / 2
      ramp := .trapezoid freq divisor a.config.slopeRatio periodMs a.config.minFreq nowMs } :
      Axis).nextEpoch
    a.launch a.ramp.current
      s!"{a.name}: STEPS RUN, steps: {count}, speed: {freq}, direction: {a.dir.abbreviation}"

/-- Lets the proportional controller, if there is one, choose the frequency to start at. -/
def seedRamp (a : Axis) : Axis × Except Fault Unit :=
  match a.controller with
  | none => (a, .ok ())
  | some c =>
    match (c.restart a.posAct).run a.posCmd a.posAct with
    | (c, .error f) => ({ a with controller := some c }, .error f)
    | (c, .ok output) =>
      let a := { a with controller := some c }
      match a.ramp.seed (Count.mul output.natAbs a.config.closedLoopFreqMultiplier) with
      | .error f => (a, .error f)
      | .ok r => ({ a with ramp := r }, .ok ())

/-- Starts a closed-loop move from the position that was read last. -/
def startClosedLoop (a : Axis) (nowMs : Nat) : Transition (Except Failure Outcome) :=
  let d := Direction.ofError a.positionError
  let a := (({ a with mode := .closedLoop } : Axis).face d).resetProgress 0
  let a := { a with
    posStart := a.posAct
    posMiddle := (a.posAct + a.posCmd).tdiv 2
    ramp := .trapezoid a.config.closedLoopMaxFreq a.config.closedLoopDivisor a.config.slopeRatio
      a.config.closedLoopPeriodMs a.config.minFreq nowMs }
  match a.seedRamp with
  | (a, .error f) => ⟨a, [], .error (.fault f)⟩
  | (a, .ok ()) =>
    let a := a.nextEpoch
    a.launch a.ramp.current
      s!"{a.name}: CLOSED_LOOP start, freq: {a.ramp.current}, direction: {a.dir.abbreviation}"

/-- Ends a closed-loop move whose setpoint has been reached, before or without a timer match. -/
def finishInPlace (a : Axis) : Axis :=
  let a := { a with alreadyThere := true }
  (if a.mode.isMoving then a.halt else a).nextEpoch

/-- Stops the axis; one that is not moving is left alone. -/
def stop (a : Axis) : Transition Outcome :=
  if a.mode.isMoving then
    ⟨a.halt.nextEpoch, [⟨.info, s!"{a.name}: STOP"⟩], .stopped⟩
  else ⟨a, [], .alreadyStopped⟩

/-- Takes a setpoint, and starts a move if the axis is not there already. -/
def seek (a : Axis) (setpoint : Int) (nowMs : Nat) : Transition (Except Failure Outcome) :=
  let a := ({ a with posCmd := setpoint } : Axis).sense
  let line := ⟨.info, s!"{a.name}: CLOSED_LOOP posCmd: {a.posCmd} posAct: {a.posAct}"⟩
  if a.withinThreshold then
    ⟨a.finishInPlace, [line, ⟨.info, s!"{a.name}: already there"⟩], .ok .alreadyThere⟩
  else (a.startClosedLoop nowMs).logged [line]

/-- Carries out a command that has been checked. -/
def execute (a : Axis) (c : Command) (nowMs : Nat) : Transition (Except Failure Outcome) :=
  match c with
  | .freeRun d level =>
    match a.speedFreq level with
    | .error e => ⟨a, [], .error e⟩
    | .ok freq => a.startFreeRun d freq nowMs
  | .steps d level count periodMs divisor =>
    match a.speedFreq level with
    | .error e => ⟨a, [], .error e⟩
    | .ok freq => a.startSteps d freq count periodMs divisor nowMs
  | .closedLoop setpoint => a.seek setpoint nowMs
  | .stop => ⟨a.stop.axis, a.stop.log, .ok a.stop.answer⟩

def apply (a : Axis) (c : Command) (nowMs : Nat) : Transition (Except Failure Outcome) :=
  match a.validate c with
  | .error e => ⟨a, [], .error e⟩
  | .ok () => a.execute c nowMs

/-- The axis waits in `epoch` for its closed-loop move to go on. -/
def awaitsResume (a : Axis) (epoch : UInt32) : Bool :=
  epoch == a.epoch && a.mode == .closedLoop && !a.isRunning

/-- Goes on with a closed-loop move that was interrupted in `epoch` because it passed its setpoint.
There is no answer if the move was replaced or stopped in the meantime. -/
def resume (a : Axis) (epoch : UInt32) (nowMs : Nat) :
    Transition (Option (Except Failure Outcome)) :=
  if a.awaitsResume epoch then
    let a := a.sense
    if a.withinThreshold then ⟨a.finishInPlace, [], some (.ok .alreadyThere)⟩
    else
      let t := a.startClosedLoop nowMs
      ⟨t.axis, t.log, some t.answer⟩
  else ⟨a, [], none⟩

end Axis

end StepperMotion
