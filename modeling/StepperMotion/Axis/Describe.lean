import StepperMotion.Axis.Basic
import StepperMotion.Text.Quoted

/-!
# An axis in a report

The one-line description of an axis: its name, what it is doing, where it is, and its ramp.
-/

namespace StepperMotion

def Ramp.describe (r : Ramp) : String :=
  s!"Ramp \x7b requested_freq: {r.requested}, current_freq: {r.current}, " ++
    s!"freq_delta: {r.delta}, freq_increment: {r.increment}, freq_decrement: {r.decrement}, " ++
    s!"slope_ratio: {r.slopeRatio}, tick_period_ms: {r.periodMs}, " ++
    s!"ticks_last_time: {r.changedMs}, max_speed_reached: {r.cruising}, " ++
    s!"max_speed_reached_distance: {r.climbed} \x7d"

def Axis.describe (a : Axis) : String :=
  let name := Text.quoted a.name
  s!"Axis \x7b name: {name}, mode: {a.mode.name}, dir: {a.dir.name}, pos_cmd: {a.posCmd}, " ++
    s!"pos_act: {a.posAct}, ramp: {a.ramp.describe}, epoch: {a.epoch.toNat}, .. \x7d"

end StepperMotion
