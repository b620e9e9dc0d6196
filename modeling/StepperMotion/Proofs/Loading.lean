import StepperMotion.Proofs.Figures
import StepperMotion.Proofs.Validation

/-!
# What is loaded from a configuration document

A document of a configuration gives some of the figures, in any order, and may hold anything else
beside them: it is a list of `Entry`. Main statement: whoever loads a text of such a document gets
the configuration of the boards with the given figures in place of its own, if it passes the check,
and the refusal if it does not (`load_overlay`). A configuration that was written is a document that
gives all figures, so it is loaded as it was.

The reader takes the members apart by their names and looks every figure up by its name. No two
figures have one name, so that this is looking up the figure itself (`lookup_documented`).
-/

namespace StepperMotion

namespace MotionConfig

/-! ## Documents -/

/-- A member of the document of a configuration. -/
inductive Entry where
  | figure (f : Figure) (x : f.kind.Value)
  /-- Something that is no figure. -/
  | other (name : String) (v : Json) (h : name ∉ fieldNames)

namespace Entry

/-- What the member gives. -/
def given? : Entry → Option ((f : Figure) × f.kind.Value)
  | figure f x => some ⟨f, x⟩
  | other _ _ _ => none

def named : Entry → String × Json
  | figure f x => (f.name, f.kind.document x)
  | other name v _ => (name, v)

def member (e : Entry) : Option String × Json := (some e.named.1, e.named.2)

end Entry

/-- What the members give. -/
def given (entries : List Entry) : Given := entries.filterMap Entry.given?

/-- A figure and its value as they stand in a document. -/
def documented (g : (f : Figure) × f.kind.Value) : String × Json := (g.1.name, g.1.kind.document g.2)

theorem namedMembers?_member (entries : List Entry) :
    Json.namedMembers? (entries.map Entry.member) = some (entries.map Entry.named) := by
  rw [Json.namedMembers?, List.mapM_map]
  exact List.mapM_pure

/-- The members that are passed over are those that give nothing. -/
theorem filter_named (entries : List Entry) :
    (entries.map Entry.named).filter (fun m => fieldNames.contains m.1) =
      (given entries).map documented := by
  induction entries with
  | nil => rfl
  | cons e entries ih =>
      cases e with
      | figure f x =>
          have hknown : fieldNames.contains (Entry.figure f x).named.1 := by
            simpa [Entry.named] using f.name_mem
          rw [List.map_cons, List.filter_cons, if_pos hknown, ih]
          rfl
      | other name v h =>
          have hunknown : ¬ fieldNames.contains (Entry.other name v h).named.1 := by
            simpa [Entry.named] using h
          rw [List.map_cons, List.filter_cons, if_neg hunknown, ih]
          rfl

theorem fields?_member {entries : List Entry} (h : (given entries).NodupKeys) :
    (Json.object (entries.map Entry.member)).fields? fieldNames =
      some ((given entries).map documented) := by
  have hnames : (((given entries).map documented).map Prod.fst).Nodup := by
    have hkeys : ((given entries).map documented).map Prod.fst =
        ((given entries).map Sigma.fst).map Figure.name := by
      rw [List.map_map, List.map_map]
      rfl
    rw [hkeys]
    exact List.Nodup.map (fun _ _ => Figure.name_inj) h
  simp only [Json.fields?, namedMembers?_member, Option.bind_eq_bind, Option.bind_some,
    filter_named, hnames, if_true]

/-- A figure is looked up by its name. -/
theorem lookup_documented (given : Given) (f : Figure) :
    (given.map documented).lookup f.name = (given.dlookup f).map f.kind.document := by
  induction given with
  | nil => rfl
  | cons g given ih =>
      obtain ⟨g, x⟩ := g
      by_cases hfg : f = g
      · subst hfg
        simp [documented]
      · have hname : (f.name == g.name) = false := by
          simpa using fun h => hfg (Figure.name_inj h)
        rw [List.map_cons, documented, List.lookup_cons, hname, ih,
          List.dlookup_cons_ne given ⟨g, x⟩ hfg]

/-- **A figure that is given is read, and one that is not is left as it is.** -/
theorem field?_documented {given : Given} (hgiven : ∀ g ∈ given, g.1.kind.InRange g.2) (f : Figure)
    (x : f.kind.Value) :
    Json.field? (given.map documented) f.name f.kind.read? x = some ((given.dlookup f).getD x) := by
  rw [Json.field?, lookup_documented]
  cases hfound : given.dlookup f with
  | none => rfl
  | some y => exact f.kind.read?_document y (hgiven _ (List.of_mem_dlookup hfound))

/-! ## The record as a whole -/

/-- A record of which every figure is read is read. -/
theorem overlay?_of_figures {c d : MotionConfig} {fs : List (String × Json)}
    (h : ∀ f : Figure, Json.field? fs f.name f.kind.read? (d.figure f) = some (c.figure f)) :
    overlay? d fs = some c := by
  have hread : ∀ f : Figure, ∀ {β : Type} (k : f.kind.Value → Option β),
      (Json.field? fs f.name f.kind.read? (d.figure f)).bind k = k (c.figure f) :=
    fun f _ k => by rw [h f, Option.bind_some]
  -- one figure is read behind the other, in the order of the record
  exact
    (hread .maxFreq _).trans <| (hread .minFreq _).trans <| (hread .compumotorMaxFreq _).trans <|
    (hread .maxSpeedLevel _).trans <| (hread .speedTableKhz _).trans <|
    (hread .directionChangeDelayMs _).trans <| (hread .reportInterval _).trans <|
    (hread .posThreshold _).trans <| (hread .approachThreshold _).trans <|
    (hread .approachFreq _).trans <| (hread .stallThreshold _).trans <|
    (hread .stallMaxCount _).trans <| (hread .stallDetection _).trans <|
    (hread .slopeRatio _).trans <| (hread .closedLoopMaxFreq _).trans <|
    (hread .closedLoopFreqMultiplier _).trans <| (hread .closedLoopDivisor _).trans <|
    (hread .closedLoopPeriodMs _).trans <| (hread .commandCapacity _).trans <|
    (hread .notificationCapacity _).trans <| (hread .eventCapacity _).trans <| rfl

/-! ## Loading -/

/-- **A document stands for its figures in place of those of the boards.** -/
theorem ofJson?_member {entries : List Entry} (hkeys : (given entries).NodupKeys)
    (hgiven : ∀ g ∈ given entries, g.1.kind.InRange g.2) :
    ofJson? (.object (entries.map Entry.member)) =
      some (({} : MotionConfig).override (given entries)) := by
  rw [ofJson?, fields?_member hkeys]
  exact overlay?_of_figures fun f => by rw [field?_documented hgiven, override, figure_ofFigures]

/-- What is loaded from a text of a document that stands for a configuration. -/
theorem load_of_spells {v : Json} {text : String} {c : MotionConfig} (hv : v.Spells text)
    (hc : ofJson? v = some c) :
    load text = (c.validate.mapError LoadError.rejected).map fun _ => c := by
  rw [load, Json.parse?_of_spells hv, Option.bind_some, hc]
  cases hvalid : c.validate <;> simp [hvalid, Except.mapError, Except.map]

/-- The members that are written of a configuration. -/
def writtenEntries (c : MotionConfig) : List Entry := c.figures.map fun g => .figure g.1 g.2

theorem given_writtenEntries (c : MotionConfig) : given c.writtenEntries = c.figures := by
  rw [given, writtenEntries, List.filterMap_map]
  exact List.filterMap_some

theorem toJson_eq (c : MotionConfig) : c.toJson = .object (c.writtenEntries.map Entry.member) := rfl

theorem isProper_toJson (c : MotionConfig) : c.toJson.IsProper := by
  rw [toJson_eq]
  refine Json.isProper_object fun m hm => ?_
  simp only [writtenEntries, List.map_map, List.mem_map] at hm
  obtain ⟨⟨f, x⟩, _, rfl⟩ := hm
  exact f.kind.isProper_document x

/-- **A configuration that was written is read as it was.** -/
theorem ofJson?_toJson {c : MotionConfig} (h : c.Ranged) : ofJson? c.toJson = some c := by
  have hgiven : ∀ g ∈ c.figures, g.1.kind.InRange g.2 := by
    intro g hg
    obtain ⟨f, _, rfl⟩ := List.mem_map.mp hg
    exact h f
  rw [toJson_eq, ofJson?_member] <;> rw [given_writtenEntries]
  · rw [override_figures]
  · exact c.nodupKeys_figures
  · exact hgiven

/-- **Loading takes the given figures in place of those of the boards and checks the outcome.** A
document may give any of the figures, each of them once, in any order and among anything else, and
any text of it may be loaded. A configuration that passes the check can be written and loaded. -/
theorem load_overlay :
    (∀ (entries : List Entry) (text : String), (given entries).NodupKeys →
      (∀ g ∈ given entries, g.1.kind.InRange g.2) →
      Json.Spells (.object (entries.map Entry.member)) text →
      let c := ({} : MotionConfig).override (given entries)
      (∀ f, c.validate ≠ .error (.fault f)) →
        (c.validate = .ok () ∧ load text = .ok c)
          ∨ ∃ detail, c.validate = .error (.refused (.config detail))
            ∧ load text = .error (.rejected (.refused (.config detail))))
      ∧ ∀ c : MotionConfig, c.Ranged → c.validate = .ok () →
          load c.toJson.render = .ok c ∧ ∀ text, c.toJson.Spells text → load text = .ok c := by
  constructor
  · intro entries text hkeys hgiven htext c hcounted
    have hload : load text = (c.validate.mapError LoadError.rejected).map fun _ => c :=
      load_of_spells htext (ofJson?_member hkeys hgiven)
    have hwidth : c.compumotorMaxFreq ≤ Count.limit :=
      ranged_default.override hgiven .compumotorMaxFreq
    have hjudged := judged_validate hwidth
    generalize c.validate = r at hload hcounted hjudged
    cases hjudged with
    | fits => exact .inl ⟨rfl, hload⟩
    | refused => exact .inr ⟨_, rfl, hload⟩
    | failed => exact absurd rfl (hcounted _)
  · intro c hranged hvalid
    have hload : ∀ text, c.toJson.Spells text → load text = .ok c := by
      intro text htext
      rw [load_of_spells htext (ofJson?_toJson hranged), hvalid]
      rfl
    exact ⟨hload _ (Json.spells_render c.isProper_toJson), hload⟩

/-- The speed levels of a slow machine, and a remark. -/
def slowMachine : List Entry :=
  [.figure .speedTableKhz ([0, 5, 15] : List Nat),
   .other "remark" (.array [.null, .object []]) (by decide),
   .figure .maxSpeedLevel (2 : Nat)]

def slowMachineText : String :=
  " \x7b \"free_run_freqs_khz\" : [ 0 , 5 , 15 ] , \"remark\" : [ null , \x7b \x7d ] ," ++
    " \"max_speed_free_run\" : 2 \x7d"

/-- The text has a blank in front of every word. -/
theorem spells_slowMachine :
    Json.Spells (.object (slowMachine.map Entry.member)) slowMachineText :=
  Json.spelled_written (b := [' ']) (by simp [Json.Token.isBlank])
    (by decide : (Json.object (slowMachine.map Entry.member)).IsProper)

/-- Two speed levels instead of eight are loaded, and the remark is passed over. -/
theorem load_overlay_of_slowMachine :
    (given slowMachine).NodupKeys ∧ (∀ g ∈ given slowMachine, g.1.kind.InRange g.2)
      ∧ Json.Spells (.object (slowMachine.map Entry.member)) slowMachineText
      ∧ load slowMachineText = .ok { speedTableKhz := [0, 5, 15], maxSpeedLevel := 2 }
      ∧ load ({} : MotionConfig).toJson.render = .ok {} := by
  have hkeys : (given slowMachine).NodupKeys :=
    (by decide : ((given slowMachine).map Sigma.fst).Nodup)
  have hgiven : ∀ g ∈ given slowMachine, g.1.kind.InRange g.2 := by decide
  have hvalid : (({} : MotionConfig).override (given slowMachine)).validate = .ok () := by decide
  have hload := load_overlay.1 slowMachine slowMachineText hkeys hgiven spells_slowMachine
    fun f => by rw [hvalid]; simp
  refine ⟨hkeys, hgiven, spells_slowMachine, ?_, (load_overlay.2 {} ranged_default rfl).1⟩
  obtain ⟨_, hok⟩ | ⟨_, hrefused, _⟩ := hload
  · exact hok
  · exact absurd (hvalid.symm.trans hrefused) (by simp)

end MotionConfig

end StepperMotion
