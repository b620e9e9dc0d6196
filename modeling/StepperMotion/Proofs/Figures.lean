import Mathlib.Data.List.Sigma
import StepperMotion.Document.Config
import StepperMotion.Proofs.Writing

/-!
# The figures of a configuration

A configuration is a record of many figures of few kinds. Everything about reading and writing a
value is said once for its kind (`FigureKind`), and what is left for a single figure is its kind,
its name in a document and its place in the record. Whatever holds of all figures can then be said
of the configuration as a function of them.

`MotionConfig.override` puts given figures in place of those of a configuration. It is what a
document means, said without the reader.
-/

namespace StepperMotion

/-! ## Values -/

namespace Json

theorem toInt?_ofInt (x : Int) : (Numeral.ofInt x).toInt? = some x := by
  show (if decide (x < 0) then if x.natAbs = 0 then none else some (-(x.natAbs : Int))
    else some (x.natAbs : Int)) = some x
  by_cases h : x < 0
  · have hne : x.natAbs ≠ 0 := by omega
    have habs : -(x.natAbs : Int) = x := by omega
    rw [if_pos (decide_eq_true h), if_neg hne, habs]
  · have habs : (x.natAbs : Int) = x := by omega
    rw [if_neg (by simpa using h), habs]

theorem int?_int {lo hi x : Int} (h : lo ≤ x ∧ x ≤ hi) : (int x).int? lo hi = some x := by
  simp [int, int?, toInt?_ofInt, h]

theorem nat?_int {hi n : Nat} (h : n ≤ hi) : (int n).nat? hi = some n := by
  rw [nat?, int?_int ⟨by omega, by omega⟩]
  rfl

theorem list?_array {α : Type} {read : Json → Option α} {write : α → Json} {xs : List α}
    (h : ∀ x ∈ xs, read (write x) = some x) : (array (xs.map write)).list? read = some xs := by
  show (xs.map write).mapM read = some xs
  induction xs with
  | nil => rfl
  | cons x xs ih =>
      rw [List.map_cons, List.mapM_cons, h x List.mem_cons_self,
        ih fun y hy => h y (List.mem_cons_of_mem x hy)]
      rfl

end Json

/-- A kind of values that a figure may have, and how they stand in a document. -/
structure FigureKind where
  Value : Type
  /-- The value is one of the kind. -/
  InRange : Value → Prop
  decidableInRange : DecidablePred InRange
  read? : Json → Option Value
  document : Value → Json
  /-- What stands in a document for a value in range is read as that value. -/
  read?_document : ∀ x, InRange x → read? (document x) = some x
  isProper_document : ∀ x, (document x).IsProper

namespace FigureKind

instance (k : FigureKind) (x : k.Value) : Decidable (k.InRange x) := k.decidableInRange x

/-- A counter of 32 bits. -/
def count : FigureKind where
  Value := Nat
  InRange n := n ≤ Count.limit
  decidableInRange _ := inferInstance
  read? := Json.count?
  document n := .int n
  read?_document _ h := Json.nat?_int h
  isProper_document n := Json.isProper_int n

/-- A natural number of 64 bits. -/
def wide : FigureKind where
  Value := Nat
  InRange n := n ≤ 18446744073709551615
  decidableInRange _ := inferInstance
  read? := Json.wide?
  document n := .int n
  read?_document _ h := Json.nat?_int h
  isProper_document n := Json.isProper_int n

def position : FigureKind where
  Value := Int
  InRange x := Position.lowest ≤ x ∧ x ≤ Position.highest
  decidableInRange _ := inferInstance
  read? := Json.position?
  document := .int
  read?_document _ h := Json.int?_int h
  isProper_document := Json.isProper_int

def flag : FigureKind where
  Value := Bool
  InRange _ := True
  decidableInRange _ := inferInstance
  read? := Json.bool?
  document := .bool
  read?_document _ _ := rfl
  isProper_document := Json.isProper_bool

/-- Counters, as many as there are. -/
def table : FigureKind where
  Value := List Nat
  InRange ns := ∀ n ∈ ns, n ≤ Count.limit
  decidableInRange _ := inferInstance
  read? := Json.list? Json.count?
  document ns := .array (ns.map fun (n : Nat) => .int n)
  read?_document _ h := Json.list?_array fun n hn => Json.nat?_int (h n hn)
  isProper_document ns := Json.isProper_array fun v hv => by
    obtain ⟨n, _, rfl⟩ := List.mem_map.mp hv
    exact Json.isProper_int n

end FigureKind

namespace MotionConfig

/-! ## Figures -/

/-- The figures of a configuration. -/
inductive Figure where
  | maxFreq
  | minFreq
  | compumotorMaxFreq
  | maxSpeedLevel
  | speedTableKhz
  | directionChangeDelayMs
  | reportInterval
  | posThreshold
  | approachThreshold
  | approachFreq
  | stallThreshold
  | stallMaxCount
  | stallDetection
  | slopeRatio
  | closedLoopMaxFreq
  | closedLoopFreqMultiplier
  | closedLoopDivisor
  | closedLoopPeriodMs
  | commandCapacity
  | notificationCapacity
  | eventCapacity
deriving DecidableEq

namespace Figure

def kind : Figure → FigureKind
  | speedTableKhz => .table
  | directionChangeDelayMs | commandCapacity | notificationCapacity | eventCapacity => .wide
  | posThreshold | approachThreshold | stallThreshold => .position
  | stallDetection => .flag
  | _ => .count

/-- The name of a figure in a document. -/
def name : Figure → String
  | maxFreq => "max_freq"
  | minFreq => "min_freq"
  | compumotorMaxFreq => "compumotor_max_freq"
  | maxSpeedLevel => "max_speed_free_run"
  | speedTableKhz => "free_run_freqs_khz"
  | directionChangeDelayMs => "direction_change_delay_ms"
  | reportInterval => "supervisor_rate"
  | posThreshold => "pos_threshold"
  | approachThreshold => "approach_threshold"
  | approachFreq => "approach_freq"
  | stallThreshold => "stall_threshold"
  | stallMaxCount => "stall_max_count"
  | stallDetection => "stall_detection"
  | slopeRatio => "slope_ratio"
  | closedLoopMaxFreq => "closed_loop_max_freq"
  | closedLoopFreqMultiplier => "closed_loop_freq_multiplier"
  | closedLoopDivisor => "closed_loop_amplitude_divisor"
  | closedLoopPeriodMs => "closed_loop_tick_period_ms"
  | commandCapacity => "command_queue_capacity"
  | notificationCapacity => "notification_queue_capacity"
  | eventCapacity => "event_capacity"

/-- All figures, in the order in which they are written. -/
def all : List Figure :=
  [maxFreq, minFreq, compumotorMaxFreq, maxSpeedLevel, speedTableKhz, directionChangeDelayMs,
   reportInterval, posThreshold, approachThreshold, approachFreq, stallThreshold, stallMaxCount,
   stallDetection, slopeRatio, closedLoopMaxFreq, closedLoopFreqMultiplier, closedLoopDivisor,
   closedLoopPeriodMs, commandCapacity, notificationCapacity, eventCapacity]

theorem map_name_all : all.map name = fieldNames := rfl

theorem mem_all (f : Figure) : f ∈ all := by
  cases f <;> decide

theorem name_mem (f : Figure) : f.name ∈ fieldNames :=
  map_name_all ▸ List.mem_map_of_mem f.mem_all

theorem nodup_fieldNames : fieldNames.Nodup := by decide

/-- No two figures have one name. -/
theorem name_inj {f g : Figure} (h : f.name = g.name) : f = g :=
  List.inj_on_of_nodup_map (map_name_all ▸ nodup_fieldNames) f.mem_all g.mem_all h

end Figure

/-- The value of a figure in a configuration. -/
def figure (c : MotionConfig) : (f : Figure) → f.kind.Value
  | .maxFreq => c.maxFreq
  | .minFreq => c.minFreq
  | .compumotorMaxFreq => c.compumotorMaxFreq
  | .maxSpeedLevel => c.maxSpeedLevel
  | .speedTableKhz => c.speedTableKhz
  | .directionChangeDelayMs => c.directionChangeDelayMs
  | .reportInterval => c.reportInterval
  | .posThreshold => c.posThreshold
  | .approachThreshold => c.approachThreshold
  | .approachFreq => c.approachFreq
  | .stallThreshold => c.stallThreshold
  | .stallMaxCount => c.stallMaxCount
  | .stallDetection => c.stallDetection
  | .slopeRatio => c.slopeRatio
  | .closedLoopMaxFreq => c.closedLoopMaxFreq
  | .closedLoopFreqMultiplier => c.closedLoopFreqMultiplier
  | .closedLoopDivisor => c.closedLoopDivisor
  | .closedLoopPeriodMs => c.closedLoopPeriodMs
  | .commandCapacity => c.commandCapacity
  | .notificationCapacity => c.notificationCapacity
  | .eventCapacity => c.eventCapacity

/-- The configuration with these figures. -/
def ofFigures (value : (f : Figure) → f.kind.Value) : MotionConfig where
  maxFreq := value .maxFreq
  minFreq := value .minFreq
  compumotorMaxFreq := value .compumotorMaxFreq
  maxSpeedLevel := value .maxSpeedLevel
  speedTableKhz := value .speedTableKhz
  directionChangeDelayMs := value .directionChangeDelayMs
  reportInterval := value .reportInterval
  posThreshold := value .posThreshold
  approachThreshold := value .approachThreshold
  approachFreq := value .approachFreq
  stallThreshold := value .stallThreshold
  stallMaxCount := value .stallMaxCount
  stallDetection := value .stallDetection
  slopeRatio := value .slopeRatio
  closedLoopMaxFreq := value .closedLoopMaxFreq
  closedLoopFreqMultiplier := value .closedLoopFreqMultiplier
  closedLoopDivisor := value .closedLoopDivisor
  closedLoopPeriodMs := value .closedLoopPeriodMs
  commandCapacity := value .commandCapacity
  notificationCapacity := value .notificationCapacity
  eventCapacity := value .eventCapacity

theorem figure_ofFigures (value : (f : Figure) → f.kind.Value) (f : Figure) :
    (ofFigures value).figure f = value f := by
  cases f <;> rfl

theorem ofFigures_figure (c : MotionConfig) : ofFigures c.figure = c := rfl

/-- Values for some of the figures. -/
abbrev Given := List ((f : Figure) × f.kind.Value)

/-- The configuration with the given figures in place of its own. -/
def override (c : MotionConfig) (given : Given) : MotionConfig :=
  ofFigures fun f => (given.dlookup f).getD (c.figure f)

/-- Every figure has a value of its kind. -/
def Ranged (c : MotionConfig) : Prop := ∀ f : Figure, f.kind.InRange (c.figure f)

theorem ranged_default : ({} : MotionConfig).Ranged := by
  intro f
  cases f <;> decide

theorem inRange_getD {given : Given} (hgiven : ∀ g ∈ given, g.1.kind.InRange g.2) {f : Figure}
    {x : f.kind.Value} (hx : f.kind.InRange x) : f.kind.InRange ((given.dlookup f).getD x) := by
  cases hfound : given.dlookup f with
  | none => exact hx
  | some y => exact hgiven _ (List.of_mem_dlookup hfound)

theorem Ranged.override {c : MotionConfig} (h : c.Ranged) {given : Given}
    (hgiven : ∀ g ∈ given, g.1.kind.InRange g.2) : (c.override given).Ranged := by
  intro f
  rw [MotionConfig.override, figure_ofFigures]
  exact inRange_getD hgiven (h f)

/-- All figures of a configuration. -/
def figures (c : MotionConfig) : Given := Figure.all.map fun f => ⟨f, c.figure f⟩

theorem nodupKeys_figures (c : MotionConfig) : c.figures.NodupKeys := by
  show (c.figures.map Sigma.fst).Nodup
  rw [figures, List.map_map]
  exact (by decide : Figure.all.Nodup)

/-- With all its own figures in place of those of another one a configuration is itself again. -/
theorem override_figures (c d : MotionConfig) : d.override c.figures = c := by
  have hfound : ∀ f, c.figures.dlookup f = some (c.figure f) := fun f =>
    List.mem_dlookup c.nodupKeys_figures (List.mem_map.mpr ⟨f, f.mem_all, rfl⟩)
  have hvalues : (fun f => (c.figures.dlookup f).getD (d.figure f)) = c.figure := by
    funext f
    rw [hfound, Option.getD_some]
  rw [override, hvalues, ofFigures_figure]

end MotionConfig

end StepperMotion
