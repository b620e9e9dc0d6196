import StepperMotion.Proofs.Ending
import StepperMotion.Proofs.Ledger
import Mathlib.Data.List.Nodup

/-!
# Axes have nothing to do with each other

A command is addressed to a name, and a report to a handle. The name leads to a place among the
axes, the place to a dispatcher, the dispatcher has a handle of its own, and so have the reports,
the parked reports and the moves that are put down to go on. `Named` says that all of these agree,
and every action keeps it so. Then an action changes at most the axis that it is about
(`act_other`).

What an action is about is a name (`subject?`), because it is names that the owner of a station
knows.
-/

namespace StepperMotion

open Axis (Operation)

/-! ## The name of an axis -/

namespace Axis

theorem name_carried {a b : Axis} {nowMs : Nat} {c : Command} {r : Except Failure Outcome}
    (h : a.Carried nowMs c b r) : b.name = a.name := by
  cases h with
  | @launched p line _ _ =>
      obtain ⟨_, _, h⟩ := launch_frame (a.setUp p).nextEpoch p.ramp.current line
      rw [h]
      rfl
  | failed _ _ _ => rfl
  | @arrived setpoint _ _ =>
      obtain ⟨_, _, h⟩ := finishInPlace_frame ({ a with posCmd := setpoint } : Axis).sense
      rw [h]
      rfl
  | stopped _ =>
      obtain ⟨_, _, _, h⟩ := stop_frame a
      rw [h]

theorem name_served {a b : Axis} {nowMs : Nat} {r : Except Fault (Option Notification)}
    (h : a.Served nowMs b r) : b.name = a.name := by
  obtain ⟨_, _, _, hobs⟩ := observe_eq a
  have hlook : a.observe.name = a.name := by rw [hobs]
  cases h with
  | idle _ => rfl
  | arrived _ _ => exact hlook
  | overshot _ _ _ => exact hlook
  | refused _ _ _ _ _ => exact hlook
  | stepped _ _ _ hb _ => rcases hb with ⟨_, rfl⟩ | ⟨_, _, rfl⟩ <;> exact hlook

theorem name_effect {a b : Axis} {o : Operation} {f? : Option Fault} (h : a.Effect o b f?) :
    b.name = a.name := by
  cases h with
  | carried hc => exact name_carried hc
  | served hserved => exact name_served hserved
  | halted _ hb => rcases hb with rfl | rfl <;> rfl
  | judged hb => rcases hb with rfl | rfl <;> rfl
  | _ => rfl

/-- **Nothing that is done to an axis changes its name.** -/
theorem name_after (a : Axis) (ops : List Operation) : (a.after ops).name = a.name :=
  after_induction (P := fun b => b.name = a.name)
    (fun b o h => (name_effect (effect_perform b o)).trans h) rfl ops

end Axis

namespace Dispatcher

/-- The commands that a dispatcher has not finished. -/
def commands (d : Dispatcher) : List Envelope := d.phase.envelope?.toList ++ d.inbox.items

variable {s : Station} {d d' : Dispatcher} {a : Axis} {replies : List Reply}

theorem Serves.name (h : d.Serves s a d' replies) : d'.name = d.name := by
  cases h <;> rfl

theorem mem_commands {e : Envelope} :
    e ∈ d.commands ↔ d.phase.envelope? = some e ∨ e ∈ d.inbox.items := by
  simp [commands]

/-- A dispatcher that makes a stroke gets no new commands by it. -/
theorem Serves.commands (h : d.Serves s a d' replies) {e : Envelope} (he : e ∈ d'.commands) :
    e ∈ d.commands := by
  rw [mem_commands] at he ⊢
  cases h with
  | begins _ => exact Or.inr (he.resolve_left (by simp [Phase.envelope?]))
  | takes _ hitems =>
      rw [hitems]
      rcases he with hhand | hrest
      · exact Or.inr (Option.some.inj hhand ▸ List.mem_cons_self ..)
      · exact Or.inr (List.mem_cons_of_mem _ hrest)
  | readies hp _ => exact he.imp (fun h => by rw [hp]; exact h) id
  | rests hhand _ => exact he.imp (fun h => hhand.trans h) id
  | finishes _ _ _ => exact Or.inr (he.resolve_left (by simp [Phase.envelope?]))
  | ends _ _ => exact absurd he (by simp [Phase.envelope?, Mailbox.close])
  | fails _ _ => exact absurd he (by simp [Phase.envelope?, Mailbox.close])
  | _ => exact he

end Dispatcher

/-! ## Names and places -/

namespace Machine

/-- The names of the axes, in their places. -/
def names (m : Machine) : List String := m.axes.map Axis.name

/-- The name of the axis in a place. -/
def name? (m : Machine) (h : Nat) : Option String := m.names[h]?

theorem name_of_get {m : Machine} {h : Nat} {a : Axis} (ha : m.axes[h]? = some a) :
    m.name? h = some a.name := by
  rw [name?, names, List.getElem?_map, ha]
  rfl

/-- No name is repeated just when the names are different from each other and from those seen
before. -/
theorem firstRepeated_none {seen entries : List String} :
    firstRepeated seen entries = none ↔ entries.Nodup ∧ ∀ name ∈ entries, name ∉ seen := by
  induction entries generalizing seen with
  | nil => simp [firstRepeated]
  | cons name rest ih =>
      rw [firstRepeated, List.nodup_cons]
      split
      · rename_i hseen
        simp [hseen]
      · rename_i hnew
        rw [ih, List.forall_mem_cons]
        simp only [List.mem_cons, not_or]
        constructor
        · rintro ⟨hdistinct, hrest⟩
          exact ⟨⟨fun hmem => (hrest name hmem).1 rfl, hdistinct⟩, hnew,
            fun other hmem => (hrest other hmem).2⟩
        · rintro ⟨⟨hfirst, hdistinct⟩, _, hrest⟩
          refine ⟨hdistinct, fun other hmem => ⟨?_, hrest other hmem⟩⟩
          rintro rfl
          exact hfirst hmem

variable {config : MotionConfig} {axes : List (AxisConfig × Board)} {capacity : Nat}
  {powered : Bool}

theorem build_ok {m : Machine} (h : build config axes capacity powered = .ok m) :
    (axes.map fun a => a.1.name).Nodup ∧ m.names = axes.map fun a => a.1.name := by
  unfold build at h
  split at h
  · exact absurd h (by simp)
  · rename_i hnone
    obtain rfl := Except.ok.inj h
    refine ⟨(firstRepeated_none.mp hnone).1, List.ext_getElem? fun j => ?_⟩
    simp only [names, List.getElem?_map, List.getElem?_mapIdx, Option.map_map]
    rfl

/-- **A machine can be built just when no two axes have the same name.** -/
theorem build_ok_iff : (∃ m, build config axes capacity powered = .ok m)
    ↔ (axes.map fun a => a.1.name).Nodup := by
  constructor
  · rintro ⟨m, h⟩
    exact (build_ok h).1
  · intro hdistinct
    have hnone : firstRepeated [] (axes.map fun a => a.1.name) = none :=
      firstRepeated_none.mpr ⟨hdistinct, fun _ _ => List.not_mem_nil⟩
    rw [build, hnone]
    exact ⟨_, rfl⟩

theorem handle_eq (m : Machine) (name : String) :
    m.handle? name = m.names.findIdx? (· == name) := by
  rw [handle?, names, List.findIdx?_map]
  rfl

/-- **A name leads to the place of the axis that has it,** if the names are different. -/
theorem handle_iff {m : Machine} (hdistinct : m.names.Nodup) {name : String} {j : Nat} :
    m.handle? name = some j ↔ m.name? j = some name := by
  rw [handle_eq, List.findIdx?_eq_some_iff_getElem, name?, List.getElem?_eq_some_iff]
  simp only [beq_iff_eq]
  constructor
  · rintro ⟨hlt, hname, _⟩
    exact ⟨hlt, hname⟩
  · rintro ⟨hlt, hname⟩
    refine ⟨hlt, hname, fun k hk hsame => ?_⟩
    have hplace := (List.Nodup.getElem_inj_iff hdistinct).mp (hsame.trans hname.symm)
    omega

end Machine

namespace Station

variable {s s₀ : Station} {x : Action} {as : List Action} {i j : Nat} {a : Axis} {d : Dispatcher}
  {e : Envelope} {note : Notification}

theorem act_names (s : Station) (x : Action) : (s.act x).machine.names = s.machine.names := by
  refine List.ext_getElem? fun j => ?_
  simp only [Machine.names, List.getElem?_map, act_axes, Option.map_map]
  exact Option.map_congr fun a _ => Axis.name_after a _

/-! ## Who is who -/

/-- Names, places and handles agree. -/
structure Named (s : Station) : Prop where
  distinct : s.machine.names.Nodup
  placed : s.Placed
  /-- A dispatcher has the name of the axis that it serves. -/
  dispatchers : ∀ (i : Nat) (d : Dispatcher), s.dispatchers[i]? = some d →
    s.machine.name? i = some d.name

theorem Named.staffed (h : s.Named) : s.Staffed := by
  intro i d hd
  have hname := h.dispatchers i d hd
  rw [Machine.name?, Machine.names, List.getElem?_map, Option.map_eq_some_iff] at hname
  obtain ⟨a, ha, _⟩ := hname
  exact ⟨a, by rw [h.placed.dispatchers i d hd, ha]⟩

theorem start_built {config : MotionConfig} {axes : List (AxisConfig × Board)} {powered : Bool}
    (h : start config axes powered = .ok s) :
    Machine.build config axes config.notificationCapacity powered = .ok s.machine := by
  unfold start bare at h
  cases hv : config.validate with
  | error e => simp [hv, bind, Except.bind] at h
  | ok u =>
      cases hbuild : Machine.build config axes config.notificationCapacity powered with
      | error r => simp [hv, hbuild, bind, Except.bind, Except.map] at h
      | ok m =>
          simp only [hv, hbuild, bind, Except.bind, Except.map, pure, Except.pure] at h
          rw [← Except.ok.inj h]
          rfl

theorem named_start {config : MotionConfig} {axes : List (AxisConfig × Board)} {powered : Bool}
    (h : start config axes powered = .ok s) : s.Named where
  distinct := by
    obtain ⟨hdistinct, hnames⟩ := Machine.build_ok (start_built h)
    rw [hnames]
    exact hdistinct
  placed := placed_start h
  dispatchers i d hd := by
    obtain ⟨a, ha, rfl⟩ := start_dispatcher h hd
    exact Machine.name_of_get ha

/-- **A command that was accepted waits at the dispatcher of the axis that it is for.** A dispatcher
has no other commands. -/
theorem act_commands (hnamed : s.Named) {d' : Dispatcher}
    (hd' : (s.act x).dispatchers[i]? = some d') :
    ∃ d, s.dispatchers[i]? = some d ∧ d'.name = d.name
      ∧ ∀ e ∈ d'.commands, e ∈ d.commands ∨ s.offer? x = some (d.name, e) := by
  have hsame : s.dispatchers[i]? = some d' → ∃ d, s.dispatchers[i]? = some d ∧ d'.name = d.name
      ∧ ∀ e ∈ d'.commands, e ∈ d.commands ∨ s.offer? x = some (d.name, e) :=
    fun hd => ⟨d', hd, rfl, fun _ he => Or.inl he⟩
  cases hx : x.dismisses with
  | false =>
      have h := act_attended hnamed.staffed hx
      generalize s.act x = s' at h hd'
      cases h with
      | elsewhere _ _ hoffice =>
          rw [(Office.mk.inj hoffice).1] at hd'
          exact hsame hd'
      | absent _ => exact hsame hd'
      | @accepts _ axis e k d _ hoffer hk hd _ _ hoffice =>
          rw [(Office.mk.inj hoffice).1] at hd'
          rcases get_set_dispatcher hd' with ⟨rfl, rfl⟩ | ⟨_, hold⟩
          · refine ⟨d, hd, rfl, fun e' he' => ?_⟩
            have hname := (Machine.handle_iff hnamed.distinct).mp hk
            obtain rfl := Option.some.inj ((hnamed.dispatchers _ d hd).symm.trans hname)
            simp only [Dispatcher.commands, ← List.append_assoc] at he'
            rcases List.mem_append.mp he' with hold | hnew
            · exact Or.inl hold
            · obtain rfl := List.mem_singleton.mp hnew
              exact Or.inr hoffer
          · exact hsame hold
      | @serves k d _ a replies _ hd _ hserves hoffice =>
          rw [(Office.mk.inj hoffice).1] at hd'
          rcases get_set_dispatcher hd' with ⟨rfl, rfl⟩ | ⟨_, hold⟩
          · exact ⟨d, hd, hserves.name, fun _ he => Or.inl (hserves.commands he)⟩
          · exact hsame hold
  | true =>
      cases x with
      | hangUp =>
          have hmap : (s.dispatchers.map fun d => { d with hungUp := true })[i]? = some d' := hd'
          rw [List.getElem?_map, Option.map_eq_some_iff] at hmap
          obtain ⟨d, hd, rfl⟩ := hmap
          exact ⟨d, hd, rfl, fun _ he => Or.inl he⟩
      | cancelDispatcher k =>
          rw [act] at hd'
          rcases cancelDispatcher_frame s k with heq | ⟨d, replies, hd, heq⟩
          · rw [heq] at hd'
            exact hsame hd'
          · rw [heq] at hd'
            rcases get_set_dispatcher hd' with ⟨rfl, rfl⟩ | ⟨_, hold⟩
            · exact ⟨d, hd, rfl, fun _ he => absurd he List.not_mem_nil⟩
            · exact hsame hold
      | _ => exact absurd hx (by simp [Action.dismisses])

theorem Named.act (h : s.Named) (x : Action) : (s.act x).Named where
  distinct := by
    rw [act_names]
    exact h.distinct
  placed := h.placed.act x
  dispatchers i d' hd' := by
    obtain ⟨d, hd, hname, _⟩ := act_commands h hd'
    rw [Machine.name?, act_names, hname]
    exact h.dispatchers i d hd

theorem Named.run (h : s.Named) (as : List Action) : (s.run as).Named :=
  run_induction (P := Named) (fun _ x h => h.act x) h as

/-- A command is no business of the dispatchers of other axes. -/
theorem act_inboxes (hnamed : s.Named) {axis : String} (hx : s.offer? x = some (axis, e))
    (hd : s.dispatchers[i]? = some d) (hother : d.name ≠ axis) :
    (s.act x).dispatchers[i]? = some d := by
  have h := offer_attended hx
  generalize s.act x = s' at h ⊢
  cases h with
  | elsewhere _ _ hoffice => rw [(Office.mk.inj hoffice).1, hd]
  | absent _ => exact hd
  | @accepts _ axis' e' k d' _ hoffer hk hd' _ _ hoffice =>
      rw [(Office.mk.inj hoffice).1]
      obtain ⟨rfl, rfl⟩ := Prod.mk.inj (Option.some.inj (hoffer.symm.trans hx))
      have hname := (Machine.handle_iff hnamed.distinct).mp hk
      have hne : k ≠ i := by
        rintro rfl
        exact hother (Option.some.inj ((hnamed.dispatchers k d hd).symm.trans hname))
      rw [List.getElem?_set_ne hne, hd]
  | serves _ _ _ _ => exact absurd hx (by simp [offer?])

/-! ## What an action is about -/

/-- The name of the axis that an action is about, if it is about one. -/
def subject? (s : Station) : Action → Option String
  | .timerMatch h _ | .place h _ | .freeze h _ | .limitTimer h _ | .stopAxis h => s.machine.name? h
  | .submit name _ | .request name _ | .status name | .setOffset name _ => some name
  | .dispatch i | .cancelDispatcher i => s.dispatchers[i]?.map Dispatcher.name
  | .supervise _ =>
    match s.supervisor with
    | .working (some note) _ => s.machine.name? note.handle
    | .working none (h :: _) => s.machine.name? h
    | _ => none
  | .reverse id =>
    (s.reversals.find? fun r => r.id == id && decide (r.dueMs ≤ s.nowMs)).bind fun r =>
      s.machine.name? r.note.handle
  | .pass _ | .statuses | .setMainPower _ | .hangUp | .cancelSupervisor => none

/-- **An action leaves every axis alone that it is not about,** unless it reads all the encoders. -/
theorem act_other (hnamed : s.Named) (hx : x ≠ .statuses) (ha : s.machine.axes[j]? = some a)
    (hother : s.subject? x ≠ some a.name) : (s.act x).machine.axes[j]? = some a := by
  have hname := Machine.name_of_get ha
  suffices hnone : s.strokes j a x = [] by
    rw [act_axes, ha, Option.map_some, hnone]
    rfl
  -- whoever makes a stroke on the axis has its handle, so that the action is about its name
  have haway : ∀ h, s.machine.name? h ≠ some a.name → h ≠ j := by
    rintro h hne rfl
    exact hne hname
  cases x with
  | timerMatch h held => exact if_neg fun hserve => haway h hother hserve.1
  | place h position => exact if_neg (haway h hother)
  | freeze h frozen => exact if_neg (haway h hother)
  | limitTimer h hz => exact if_neg (haway h hother)
  | stopAxis h => exact if_neg (haway h hother)
  | status name =>
      refine if_neg fun hfound => ?_
      exact hother (((Machine.handle_iff hnamed.distinct).mp hfound).symm.trans hname)
  | setOffset name offset =>
      refine if_neg fun hfound => ?_
      exact hother (((Machine.handle_iff hnamed.distinct).mp hfound).symm.trans hname)
  | statuses => exact absurd rfl hx
  | dispatch i =>
      simp only [strokes]
      cases hd : s.dispatchers[i]? with
      | none => rfl
      | some d =>
          refine if_neg fun hj => ?_
          rw [hnamed.placed.dispatchers i d hd] at hj
          have hsame := (hnamed.dispatchers i d hd).symm.trans (hj ▸ hname)
          rw [subject?, hd] at hother
          exact hother hsame
  | supervise signalFirst =>
      simp only [strokes, subject?] at hother ⊢
      split
      · rename_i hs
        rw [hs] at hother
        exact if_neg (haway _ hother)
      · rename_i hs
        rw [hs] at hother
        exact if_neg (haway _ hother)
      · rfl
  | reverse id =>
      simp only [strokes, subject?] at hother ⊢
      split
      · rfl
      · rename_i hr
        rw [hr] at hother
        exact if_neg (haway _ hother)
  | _ => rfl

/-- No action of a run is about the axis with a name. -/
def Ignores (s : Station) (name : String) (as : List Action) : Prop :=
  ∀ us x vs, as = us ++ x :: vs → x ≠ .statuses ∧ (s.run us).subject? x ≠ some name

theorem run_other (hnamed : s.Named) (ha : s.machine.axes[j]? = some a)
    (hignores : s.Ignores a.name as) : (s.run as).machine.axes[j]? = some a := by
  induction as generalizing s with
  | nil => exact ha
  | cons x as ih =>
      obtain ⟨hx, hother⟩ := hignores [] x as rfl
      refine ih (hnamed.act x) (act_other hnamed hx ha hother) fun us y vs has => ?_
      exact hignores (x :: us) y vs (congrArg (x :: ·) has)

/-! ## What belongs to an axis -/

variable {config : MotionConfig} {axes : List (AxisConfig × Board)} {powered : Bool}

/-- The commands of a dispatcher were given for its axis. -/
theorem given_of_commands (hstart : start config axes powered = .ok s₀)
    (hd : (s₀.run as).dispatchers[i]? = some d) (he : e ∈ d.commands) :
    ∃ us x vs, as = us ++ x :: vs ∧ (s₀.run us).offer? x = some (d.name, e) := by
  induction as using List.reverseRecOn generalizing d with
  | nil =>
      obtain ⟨a, _, rfl⟩ := start_dispatcher hstart hd
      exact absurd he List.not_mem_nil
  | append_singleton as x ih =>
      rw [run_snoc] at hd
      obtain ⟨d₀, hd₀, hname, hcommands⟩ := act_commands ((named_start hstart).run as) hd
      rcases hcommands e he with hold | hnew
      · obtain ⟨us, y, vs, rfl, hgiven⟩ := ih hd₀ hold
        exact ⟨us, y, vs ++ [x], by simp, hname ▸ hgiven⟩
      · exact ⟨as, x, [], rfl, hname ▸ hnew⟩

/-- A move is put down to go on because of a report that was in flight. -/
theorem made_of_reversal (hstart : start config axes powered = .ok s₀) {r : Reversal}
    (hr : r ∈ (s₀.run as).reversals) :
    ∃ us x vs, as = us ++ x :: vs ∧ (s₀.run us).report? x = some r.note := by
  induction as using List.reverseRecOn with
  | nil =>
      obtain ⟨_, _, _, _, _, _, hnone, _⟩ := start_ok hstart
      rw [run_nil, hnone] at hr
      exact absurd hr List.not_mem_nil
  | append_singleton as x ih =>
      rw [run_snoc] at hr
      have hmade : ∃ us y vs, as = us ++ y :: vs ∧ (s₀.run us).report? y = some r.note := by
        rcases act_reversals hr with hold | ⟨toVisit, hhand, _⟩
        · exact ih hold
        · exact reported_of_inFlight (fresh_start hstart) (.inHand hhand)
      obtain ⟨us, y, vs, rfl, hreport⟩ := hmade
      exact ⟨us, y, vs ++ [x], by simp, hreport⟩

/-- **A report is of the axis with its handle:** it was made by a timer match of this axis. -/
theorem matched_of_report (hstart : start config axes powered = .ok s₀)
    (h : (s₀.run as).InFlight note ∨ ∃ r ∈ (s₀.run as).reversals, r.note = note) :
    ∃ us vs, as = us ++ .timerMatch note.handle false :: vs
      ∧ (s₀.run us).report? (.timerMatch note.handle false) = some note := by
  have hfresh := fresh_start hstart
  obtain ⟨us, x, vs, rfl, hreport⟩ :
      ∃ us x vs, as = us ++ x :: vs ∧ (s₀.run us).report? x = some note := by
    rcases h with hflight | ⟨r, hr, rfl⟩
    · exact reported_of_inFlight hfresh hflight
    · exact made_of_reversal hstart hr
  obtain ⟨a, ha⟩ := axis_of_report hreport (hfresh.seated.run us)
  obtain ⟨rfl, _⟩ := (reports_iff.mp hreport).about (hfresh.seated.run us) rfl ha
  exact ⟨us, vs, rfl, hreport⟩

theorem filed_act (hseated : s.Seated) (h : s.desk.Filed) (x : Action) : (s.act x).desk.Filed := by
  intro j note hp
  obtain ⟨b, hb, hparked⟩ := Option.bind_eq_some_iff.mp hp
  rw [act_axes, Option.map_eq_some_iff] at hb
  obtain ⟨a, ha, rfl⟩ := hb
  rcases Axis.parked_after hparked with hold | hmem
  · exact h j note (Option.bind_eq_some_iff.mpr ⟨a, ha, hold⟩)
  · obtain ⟨k, b, rfl, hb, _, hreport⟩ := park_of_strokes ha hmem
    -- only the axis whose match it is has anything done to it
    have hk : k = j := by
      by_contra hne
      rw [strokes, if_neg fun hserve => hne hserve.1] at hmem
      exact absurd hmem List.not_mem_nil
    have hserved := Axis.tick_served b s.nowMs
    rw [hreport] at hserved
    rw [(Axis.served_report hserved).1, hseated k b hb, hk]

/-- **Wherever a report is parked, it is parked on its own axis.** -/
theorem filed_run (hstart : start config axes powered = .ok s₀) (as : List Action) :
    (s₀.run as).desk.Filed := by
  have hfresh := fresh_start hstart
  have hboth : (s₀.run as).Seated ∧ (s₀.run as).desk.Filed := by
    refine run_induction (P := fun s => s.Seated ∧ s.desk.Filed)
      (fun s x h => ⟨h.1.act x, filed_act h.1 h.2 x⟩) ⟨hfresh.seated, fun j note hp => ?_⟩ as
    obtain ⟨a, ha, hp⟩ := Option.bind_eq_some_iff.mp hp
    exact absurd (.parked ha hp) (hfresh.not_inFlight note)
  exact hboth.2

end Station

/-! ## Collecting all parked reports at once -/

/-- The axis after its parked report has been taken and judged. -/
def Axis.collected (a : Axis) : Axis :=
  match a.parked with
  | none => a
  | some note => (a.takeParked.1.inspect note).1

theorem Axis.takeParked_of_none {a : Axis} (h : a.parked = none) : a.takeParked.1 = a := by
  cases a
  cases h
  rfl

theorem Axis.parked_collected (a : Axis) : a.collected.parked = none := by
  unfold collected
  split
  · assumption
  · rename_i note _
    exact @parked_same _ (.inspect note) (by simp) (by simp)

namespace Station

variable {s s₀ : Station} {j : Nat}

theorem takeParked_snd (s : Station) (h : Nat) : (s.takeParked h).2 = s.machine.parked? h := by
  unfold takeParked Machine.parked?
  cases s.machine.axes[h]? <;> rfl

/-- One step of the sweep changes the axis that is visited. -/
theorem drain_step (hfiled : s.desk.Filed) (h : Nat) (rest : List Nat) :
    ∃ s' : Station, s.drain (h :: rest) = s'.drain rest
      ∧ s'.machine.axes = (s.machine.modifyAxis h Axis.collected).axes := by
  have htaken : (s.takeParked h).1.machine = s.machine.modifyAxis h fun a => a.takeParked.1 := by
    rw [(s.takeParked_eq h).1]
  rw [drain]
  cases hp : s.machine.parked? h with
  | none =>
      have hpair : s.takeParked h = ((s.takeParked h).1, none) :=
        Prod.ext rfl ((s.takeParked_snd h).trans hp)
      rw [hpair]
      refine ⟨_, rfl, List.ext_getElem? fun j => ?_⟩
      rw [htaken, Machine.modifyAxis_get, Machine.modifyAxis_get]
      refine Option.map_congr fun a ha => ?_
      split
      · rename_i hj
        subst hj
        have hnone : a.parked = none := by simpa [Machine.parked?, ha] using hp
        simp only [Axis.collected, hnone, Axis.takeParked_of_none hnone]
      · rfl
  | some note =>
      have hpair : s.takeParked h = ((s.takeParked h).1, some note) :=
        Prod.ext rfl ((s.takeParked_snd h).trans hp)
      rw [hpair]
      obtain rfl := hfiled h note hp
      refine ⟨_, rfl, ?_⟩
      rw [(judge_judged _ note).axes, htaken, Machine.modifyAxis_modifyAxis]
      refine List.ext_getElem? fun j => ?_
      rw [Machine.modifyAxis_get, Machine.modifyAxis_get]
      refine Option.map_congr fun a ha => ?_
      split
      · rename_i hj
        subst hj
        have hsome : a.parked = some note := by simpa [Machine.parked?, ha] using hp
        simp only [Axis.collected, hsome]
      · rfl

/-- **The sweep judges the report of every axis on that axis,** and leaves the rest alone. -/
theorem drain_axes (hfiled : s.desk.Filed) {hs : List Nat} (hdistinct : hs.Nodup) (j : Nat) :
    (s.drain hs).machine.axes[j]?
      = s.machine.axes[j]?.map fun a => if j ∈ hs then a.collected else a := by
  induction hs generalizing s with
  | nil => simp [drain]
  | cons h rest ih =>
      obtain ⟨hnew, hrest⟩ := List.nodup_cons.mp hdistinct
      obtain ⟨s', hdrain, haxes⟩ := drain_step hfiled h rest
      have hfiled' : s'.desk.Filed := by
        intro k note hp
        have hparked : (s.machine.modifyAxis h Axis.collected).parked? k = some note := by
          rw [← hp]
          exact congrArg (fun l : List Axis => l[k]?.bind Axis.parked) haxes.symm
        rw [parked?_modifyAxis] at hparked
        split at hparked
        · obtain ⟨a, _, hparked⟩ := Option.bind_eq_some_iff.mp hparked
          exact absurd (hparked.symm.trans a.parked_collected) (by simp)
        · exact hfiled k note hparked
      rw [hdrain, ih hfiled' hrest, haxes, Machine.modifyAxis_get, Option.map_map]
      refine Option.map_congr fun a _ => ?_
      by_cases hj : h = j
      · subst hj
        simp [hnew]
      · simp [hj, Ne.symm hj]

/-! ## Isolation -/

/-- What the axes have to do with each other after a run. -/
structure Isolated (s₀ : Station) (as : List Action) : Prop where
  /-- A name leads to where the axis with this name was put at the start. -/
  found : ∀ (name : String) (j : Nat),
    (s₀.run as).machine.handle? name = some j ↔ s₀.machine.name? j = some name
  /-- An axis is left alone until something happens that is about it. -/
  alone : ∀ (bs : List Action) (j : Nat) (a : Axis), (s₀.run as).machine.axes[j]? = some a →
    (s₀.run as).Ignores a.name bs → (s₀.run (as ++ bs)).machine.axes[j]? = some a
  /-- A command is no business of the dispatchers of other axes. -/
  inboxes : ∀ (x : Action) (axis : String) (e : Envelope) (i : Nat) (d : Dispatcher),
    (s₀.run as).offer? x = some (axis, e) →
    (s₀.run as).dispatchers[i]? = some d → d.name ≠ axis →
    ((s₀.run as).act x).dispatchers[i]? = some d
  /-- The commands of a dispatcher were given for its axis. -/
  commands : ∀ (i : Nat) (d : Dispatcher) (e : Envelope), (s₀.run as).dispatchers[i]? = some d →
    e ∈ d.commands → ∃ us x vs, as = us ++ x :: vs ∧ (s₀.run us).offer? x = some (d.name, e)
  /-- A report, and a move that is put down to go on, is of the axis with the handle: the report was
  made by a timer match of this axis. -/
  reports : ∀ note : Notification, ((s₀.run as).InFlight note
      ∨ ∃ r ∈ (s₀.run as).reversals, r.note = note) →
    ∃ us vs, as = us ++ .timerMatch note.handle false :: vs
      ∧ (s₀.run us).report? (.timerMatch note.handle false) = some note
  /-- A report is parked on its own axis. -/
  parked : ∀ (j : Nat) (a : Axis) (note : Notification), (s₀.run as).machine.axes[j]? = some a →
    a.parked = some note → note.handle = j
  /-- When all axes are visited at once, each is changed by its own parked report only. -/
  swept : ∀ (j : Nat) (a : Axis), (s₀.run as).machine.axes[j]? = some a →
    ((s₀.run as).drain (s₀.run as).handles).machine.axes[j]? = some a.collected

theorem isolated_run (hstart : start config axes powered = .ok s₀) (as : List Action) :
    s₀.Isolated as := by
  have hnamed := (named_start hstart).run as
  refine ⟨fun name j => ?_, fun bs j a ha hignores => ?_, fun x axis e i d hx hd hother => ?_,
    fun i d e hd he => given_of_commands hstart hd he, fun note h => matched_of_report hstart h,
    fun j a note ha hp => ?_, fun j a ha => ?_⟩
  · have hsame : (s₀.run as).machine.names = s₀.machine.names :=
      run_induction (P := fun s => s.machine.names = s₀.machine.names)
        (fun s x h => (act_names s x).trans h) rfl as
    rw [Machine.handle_iff hnamed.distinct, Machine.name?, hsame]
    rfl
  · rw [run_append]
    exact run_other hnamed ha hignores
  · exact act_inboxes hnamed hx hd hother
  · exact filed_run hstart as j note (Option.bind_eq_some_iff.mpr ⟨a, ha, hp⟩)
  · obtain ⟨hlt, _⟩ := List.getElem?_eq_some_iff.mp ha
    have hvisited : j ∈ (s₀.run as).handles := List.mem_range.mpr hlt
    have hdistinct : (s₀.run as).handles.Nodup := List.nodup_range
    rw [drain_axes (filed_run hstart as) hdistinct, ha, Option.map_some, if_pos hvisited]

/-- **A machine can be built just when no two axes have the same name. A name then leads to the axis
that has it, and in every run of a station whatever is about one axis leaves all other axes and
their boards as they are.** -/
theorem axes_isolated (config : MotionConfig) (axes : List (AxisConfig × Board)) (powered : Bool) :
    (∀ capacity, ((∃ m, Machine.build config axes capacity powered = .ok m)
        ↔ (axes.map fun a => a.1.name).Nodup)
      ∧ ∀ m, Machine.build config axes capacity powered = .ok m → ∀ name j,
        m.handle? name = some j ↔ ∃ own board, axes[j]? = some (own, board) ∧ own.name = name)
    ∧ ∀ s₀, start config axes powered = .ok s₀ → ∀ as, s₀.Isolated as := by
  refine ⟨fun capacity => ⟨Machine.build_ok_iff, fun m hbuild name j => ?_⟩,
    fun s₀ hstart as => isolated_run hstart as⟩
  obtain ⟨hdistinct, hnames⟩ := Machine.build_ok hbuild
  rw [Machine.handle_iff (hnames ▸ hdistinct), Machine.name?, hnames, List.getElem?_map,
    Option.map_eq_some_iff]
  simp only [Prod.exists]

/-- Two axes are set going, and the motor of one of them does not follow. -/
def halfBlocked : List Action :=
  [.dispatch 0, .dispatch 1, .supervise false, .submit "x" (.freeRun .clockwise 1),
    .submit "y" (.closedLoop 500), .dispatch 0, .dispatch 1, .dispatch 0, .dispatch 1, .dispatch 0,
    .dispatch 1, .timerMatch 0 false, .supervise false]

/-- One axis stalls, and the other one goes on. -/
theorem axes_isolated_of_halfBlocked :
    ∃ s₀ a b, start { reportInterval := 1, stallMaxCount := 1 }
        [(⟨"x", 0, none⟩, {}), (⟨"y", 0, none⟩, {})] true = .ok s₀
      ∧ (s₀.run halfBlocked).machine.axes[1]? = some a ∧ a.isRunning = true
      ∧ (s₀.run (halfBlocked ++ [.supervise false])).machine.axes[0]? = some b ∧ b.stalled = true
      ∧ (s₀.run (halfBlocked ++ [.supervise false])).machine.axes[1]? = some a := by
  obtain ⟨s₀, hstart, hy, hx, hsubject⟩ :
      ∃ s₀, start { reportInterval := 1, stallMaxCount := 1 }
          [(⟨"x", 0, none⟩, {}), (⟨"y", 0, none⟩, {})] true = .ok s₀
        ∧ (s₀.run halfBlocked).machine.axes[1]?.map (fun a => (a.name, a.isRunning))
          = some ("y", true)
        ∧ (s₀.run (halfBlocked ++ [.supervise false])).machine.axes[0]?.map Axis.stalled = some true
        ∧ (s₀.run halfBlocked).subject? (.supervise false) = some "x" :=
    ⟨_, rfl, by decide, by decide, by decide⟩
  obtain ⟨a, ha, hy⟩ := Option.map_eq_some_iff.mp hy
  obtain ⟨hname, hrun⟩ := Prod.mk.inj hy
  obtain ⟨b, hb, hstalled⟩ := Option.map_eq_some_iff.mp hx
  have hisolated := (axes_isolated { reportInterval := 1, stallMaxCount := 1 }
    [(⟨"x", 0, none⟩, {}), (⟨"y", 0, none⟩, {})] true).2 s₀ hstart halfBlocked
  refine ⟨s₀, a, b, hstart, ha, hrun, hb, hstalled, hisolated.alone _ 1 a ha fun us x vs has => ?_⟩
  obtain ⟨rfl, rfl, rfl⟩ : us = [] ∧ x = .supervise false ∧ vs = [] := by
    cases us with
    | nil => simpa using has.symm
    | cons _ us => simp at has
  exact ⟨by simp, by simp [hsubject, hname]⟩

end Station

end StepperMotion
