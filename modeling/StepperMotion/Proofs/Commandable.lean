import StepperMotion.Proofs.Handled
import StepperMotion.Proofs.Limits
import StepperMotion.Proofs.Settings

/-!
# Every axis can be commanded

The only thing that ends the work of a dispatcher on its own is a computation that fails while a
command is checked or carried out. There are two places where that could be: a speed level whose
frequency cannot be counted, and a controller that has no output. An accepted configuration rules out
the first. Nothing rules out the second, for the settings of a controller are taken as they are: with
limits in the wrong order, or a floor that has no opposite, a setpoint is enough to leave an axis
running that nobody can stop any more (`beyond_command`). With usable limits the dispatchers work for
good, and every command is answered with a result of its own (`always_commandable`).
-/

namespace StepperMotion

/-- The refusal is about the command or about the frequency that it leads to. -/
def MotionError.isOwn (r : MotionError) : Bool := r.isInvalidInput || r.isInvariant

namespace Axis

/-- No computation can fail in which the axis is made to move. -/
structure Steady (a : Axis) : Prop where
  sound : a.config.Sound
  usable : ∀ k, a.controller = some k → k.limits.Usable

/-- The settings decide whether an axis is steady. -/
theorem Steady.keeps {a b : Axis} (h : a.Steady) (hkeeps : a.KeepsSettings b) : b.Steady where
  sound := hkeeps.config ▸ h.sound
  usable k hk := by
    have htuned := hkeeps.tuning
    rw [tuning?, hk, Option.map_some, eq_comm, tuning?, Option.map_eq_some_iff] at htuned
    obtain ⟨k', hk', heq⟩ := htuned
    rw [← k.limits_tuning, ← heq, k'.limits_tuning]
    exact h.usable k' hk'

theorem steady_create {handle : Nat} {own : AxisConfig} {board : Board} {config : MotionConfig}
    (hs : config.Sound) (husable : ∀ k, own.controller = some k → k.limits.Usable) :
    (create handle own board config).Steady where
  sound := hs
  usable k hk := by
    obtain ⟨settings, hsettings, rfl⟩ := Option.map_eq_some_iff.mp hk
    rw [Proportional.limits_ofSettings]
    exact husable settings hsettings

/-- The controller of a steady axis has an output. -/
theorem Steady.fault {a : Axis} (h : a.Steady) (c : Command) : a.fault? c = none := by
  cases c with
  | closedLoop setpoint =>
      unfold fault? chosen
      cases hk : a.controller with
      | none => rfl
      | some k =>
          obtain ⟨output, hout⟩ := k.sample_usable (h.usable k hk) setpoint a.board.position
          simp only [hout, Except.map]
  | _ => rfl

/-- The answer to a command is its outcome, or that the command itself or its frequency was
refused. -/
def OwnAnswer (r : Except Failure Outcome) : Prop :=
  (∃ o, r = .ok o) ∨ ∃ e, r = .error (.refused e) ∧ e.isOwn = true

theorem own_launch (a : Axis) (freq : Nat) (line : String) :
    OwnAnswer (a.launch freq line).answer := by
  rcases launch_cases a freq line with ⟨_, hans, _⟩ | ⟨_, _, hans, _⟩ | ⟨_, _, hans, _⟩ <;> rw [hans]
  · exact Or.inr ⟨_, rfl, rfl⟩
  · exact Or.inr ⟨_, rfl, rfl⟩
  · exact Or.inl ⟨_, rfl⟩

theorem own_carried {a b : Axis} (h : a.Steady) {c : Command} {nowMs : Nat}
    {r : Except Failure Outcome} (hc : a.Carried nowMs c b r) : OwnAnswer r := by
  cases hc with
  | launched _ _ => exact own_launch ..
  | failed _ _ hf => exact absurd ((h.fault c).symm.trans hf) (by simp)
  | arrived _ _ => exact Or.inl ⟨_, rfl⟩
  | stopped _ => exact Or.inl ⟨_, rfl⟩

theorem own_apply {a : Axis} (h : a.Steady) (c : Command) (nowMs : Nat) :
    OwnAnswer (a.apply c nowMs).answer := by
  rcases apply_cases a c nowMs with ⟨e, hv, heq⟩ | ⟨_, hc⟩
  · rw [heq]
    rcases validate_error hv with ⟨r, rfl, hr⟩ | ⟨f, level, rfl, _, hf⟩
    · exact Or.inr ⟨r, rfl, by simp [MotionError.isOwn, hr]⟩
    · obtain ⟨freq?, hcounted⟩ := h.sound.counted level
      exact absurd (hcounted.symm.trans hf) (by simp)
  · exact own_carried h hc

/-- **Whatever a dispatcher finds out about a command on a steady axis is an answer to it.** -/
theorem own_result {a : Axis} (h : a.Steady) {nowMs : Nat} {p : Dispatcher.Phase}
    {r : Except Failure Outcome} (hr : a.result? nowMs p = some r) : OwnAnswer r := by
  have hattempt : ∀ c, (a.attempt c nowMs).answer = some r → OwnAnswer r := by
    intro c hans
    unfold attempt at hans
    dsimp only at hans
    split at hans
    · exact absurd hans (by simp)
    · -- looking for a change of direction leaves the axis steady
      have hkept := settings_perform a (.beginDirectionChange c)
      exact Option.some.inj hans ▸ own_apply (h.keeps hkept) c nowMs
  cases p with
  | received e =>
      simp only [result?] at hr
      split at hr
      · exact Or.inl ⟨_, (Option.some.inj hr).symm⟩
      · split at hr
        · rename_i failure hans
          obtain rfl := Option.some.inj hr
          unfold prepare at hans
          split at hans
          · rename_i e' hv
            have heq : a.apply e.command nowMs = ⟨a, [], .error e'⟩ := by rw [apply, hv]
            have hown := own_apply h e.command nowMs
            rw [heq, Except.error.inj hans] at hown
            exact hown
          · exact absurd hans (by simp)
        · exact absurd hr (by simp)
  | ready e => exact hattempt e.command hr
  | waiting e untilMs =>
      simp only [result?] at hr
      split at hr
      · exact hattempt e.command hr
      · exact absurd hr (by simp)
  | _ => exact absurd hr (by simp [result?])

end Axis

namespace Station

variable {s : Station} {i : Nat} {d : Dispatcher} {e : Envelope}

/-- No computation can fail in which an axis is made to move. -/
def Steady (s : Station) : Prop := ∀ (j : Nat) (a : Axis), s.machine.axes[j]? = some a → a.Steady

theorem Steady.act (h : s.Steady) (x : Action) : (s.act x).Steady := by
  intro j b hb
  rw [act_axes, Option.map_eq_some_iff] at hb
  obtain ⟨a, ha, rfl⟩ := hb
  exact (h j a ha).keeps (Axis.settings_after a _)

theorem Steady.run (h : s.Steady) (as : List Action) : (s.run as).Steady :=
  run_induction (fun _ x hs => hs.act x) h as

/-- **A dispatcher with a steady axis does not fail.** -/
theorem allLive_act (hmanned : s.Manned) (hsteady : s.Steady) {x : Action}
    (hx : x.dismisses = false) (hlive : s.AllLive) : (s.act x).AllLive := by
  intro i d' hd'
  obtain ⟨d, hd, rfl | ⟨e, _, rfl⟩ | ⟨a, _, ha, hserves⟩⟩ :=
    (act_attended hmanned.staffed hx).dispatcher hd'
  · exact hlive i _ hd
  · exact hlive i d hd
  · have hbefore := hlive i d hd
    cases hserves with
    | fails _ hr =>
        rcases Axis.own_result (hsteady _ a ha) hr with ⟨_, ho⟩ | ⟨_, he, _⟩
        · exact absurd ho (by simp)
        · exact absurd he (by simp)
    | ends _ hhung => exact absurd (hhung.symm.trans (hmanned.duty i d hd).hungUp) (by simp)
    | idles _ _ _ => exact hbefore
    | waits _ _ => exact hbefore
    | gone _ => exact hbefore
    | _ => rfl

theorem allLive_run (hmanned : s.Manned) (hsteady : s.Steady) (hlive : s.AllLive)
    {as : List Action} (hkept : ∀ x ∈ as, x.dismisses = false) : (s.run as).AllLive := by
  have hall : (s.run as).Manned ∧ (s.run as).Steady ∧ (s.run as).AllLive :=
    run_of_mem (P := fun s' => s'.Manned ∧ s'.Steady ∧ s'.AllLive)
      (fun s' x hx hs' => ⟨hs'.1.act (hkept x hx), hs'.2.1.act x,
        allLive_act hs'.1 hs'.2.1 (hkept x hx) hs'.2.2⟩) ⟨hmanned, hsteady, hlive⟩
  exact hall.2.2

/-- What was written down in a run was written down at one action of it. -/
theorem mem_history {α : Type} {note? : Station → Action → Option α} {as : List Action} {y : α}
    (h : y ∈ s.history note? as) :
    ∃ us x vs, as = us ++ x :: vs ∧ note? (s.run us) x = some y := by
  induction as generalizing s with
  | nil => exact absurd h (by simp [history])
  | cons x as ih =>
      rw [history, List.mem_append, Option.mem_toList] at h
      rcases h with hhead | htail
      · exact ⟨[], x, as, rfl, hhead⟩
      · obtain ⟨us, y', vs, rfl, hnote⟩ := ih htail
        exact ⟨x :: us, y', vs, rfl, hnote⟩

/-- A command that is finished on a steady axis has a result of its own. -/
theorem own_finished (hsteady : s.Steady) {as : List Action} {r : Except MotionError Outcome}
    (h : (e, r) ∈ s.history (finished? i) as) : ∀ m, r = .error m → m.isOwn = true := by
  rintro m rfl
  obtain ⟨us, x, _, _, hfinished⟩ := mem_history h
  unfold finished? at hfinished
  split at hfinished
  · rename_i d a hd ha
    split at hfinished
    · split at hfinished
      · rename_i e' result he' hresult
        obtain ⟨rfl, rfl⟩ := Prod.mk.inj (Option.some.inj hfinished)
        obtain ⟨r, hr, hans⟩ := Option.bind_eq_some_iff.mp hresult
        rcases Axis.own_result ((hsteady.run us) i a ha) hr with ⟨o, rfl⟩ | ⟨m', rfl, hown⟩
        · exact absurd (Option.some.inj hans) (by simp)
        · obtain rfl := Except.error.inj (Option.some.inj hans)
          exact hown
      · exact absurd hfinished (by simp)
    · exact absurd hfinished (by simp)
  · exact absurd hfinished (by simp)

/-- A dispatcher that works does not turn a command away as if nobody were there. -/
theorem enqueue_open (hmanned : s.Manned) (hlive : s.AllLive) (axis name : String) (e : Envelope) :
    (s.enqueue axis e).2 ≠ .error (.dispatcherClosed name) := by
  intro h
  cases hi : s.machine.handle? axis with
  | none => exact absurd h (by simp [enqueue, hi])
  | some i =>
      cases hd : s.dispatchers[i]? with
      | none => exact absurd h (by simp [enqueue, deliver, hi, hd])
      | some d =>
          have hopen := (hmanned.duty i d hd).isOpen (hlive i d hd)
          rw [enqueue_full hi hd hopen] at h
          split at h <;> exact absurd h (by simp)

/-! ## What the owner can rely on -/

/-- After a run, the axis of dispatcher `i` can be commanded. -/
structure Commandable (s₀ : Station) (as : List Action) (i : Nat) (d : Dispatcher) : Prop
    extends s₀.Handled as i d where
  works : d.phase.isLive = true
  /-- A command that is finished has a result of its own. -/
  own : ∀ e m, (e, .error m) ∈ s₀.history (finished? i) as → m.isOwn = true
  /-- If the dispatcher is left alone with its axis for long enough, whoever waits for the answer to
  a command gets the result of this command. -/
  replied : ∀ n, 4 * ((s₀.history (accepted? i) as).length
      - (s₀.history (finished? i) as).length) < n →
    ∀ e t, e ∈ s₀.history (accepted? i) as → e.ticket = some t →
    ∃ r, ((s₀.run (as ++ turns s₀.machine.config.restMs i n)).takeReply t).2 = some r
      ∧ (e, r) ∈ s₀.history (finished? i) (as ++ turns s₀.machine.config.restMs i n)
      ∧ ∀ m, r = .error m → m.isOwn = true
  /-- Then there is room for whatever command comes next. -/
  ready : ∀ n, 4 * ((s₀.history (accepted? i) as).length
      - (s₀.history (finished? i) as).length) < n →
    ∀ axis e, (s₀.run (as ++ turns s₀.machine.config.restMs i n)).machine.handle? axis = some i →
      ((s₀.run (as ++ turns s₀.machine.config.restMs i n)).enqueue axis e).2 = .ok ()

theorem commandable_of_steady {s₀ : Station} (h : s₀.Manned) (hsteady : s₀.Steady)
    (hlive : s₀.AllLive) (hnew : ∀ i, s₀.Spent i) (hreplies : s₀.replies = [])
    (hcapacity : 0 < s₀.machine.config.commandCapacity) {as : List Action}
    (hkept : ∀ x ∈ as, x.dismisses = false) (hd : (s₀.run as).dispatchers[i]? = some d) :
    s₀.Commandable as i d := by
  have hlive' := allLive_run h hsteady hlive hkept
  have hhandled := handled_of_manned h hnew hreplies hkept hlive' hd
  have hkeptTurns : ∀ n, ∀ x ∈ as ++ turns s₀.machine.config.restMs i n, x.dismisses = false := by
    intro n x hx
    rcases List.mem_append.mp hx with hx | hx
    · exact hkept x hx
    · exact turns_kept x hx
  have hliveTurns := fun n => allLive_run h hsteady hlive (hkeptTurns n)
  refine ⟨hhandled, hlive' i d hd, fun e m hm => own_finished hsteady hm m rfl, ?_, ?_⟩
  · intro n hn e t he ht
    have hall := hhandled.settled n hn (hliveTurns n)
    rw [← hall, List.mem_map] at he
    obtain ⟨⟨e, r⟩, hfinished, rfl⟩ := he
    have he := accepted_of_finished h hnew (hkeptTurns n) (hliveTurns n) hfinished
    exact ⟨r, (takeReply_iff h hnew hreplies (hkeptTurns n) (hliveTurns n) he ht r).mpr hfinished,
      hfinished, own_finished hsteady hfinished⟩
  · intro n hn axis e hi
    obtain ⟨d', hd'⟩ : ∃ d', ((s₀.run as).run (turns s₀.machine.config.restMs i n)).dispatchers[i]?
        = some d' := dispatcher_of_run (h.run hkept) turns_kept hd
    rw [← run_append] at hd'
    have hhandled' := handled_of_manned h hnew hreplies (hkeptTurns n) (hliveTurns n) hd'
    -- whatever was accepted has been finished, and so it has been taken
    have hall := congrArg List.length (hhandled.settled n hn (hliveTurns n))
    have hsame : s₀.history (accepted? i) (as ++ turns s₀.machine.config.restMs i n)
        = s₀.history (accepted? i) as := by
      rw [history_append, accepted_turns, List.append_nil]
    have htaken := congrArg List.length hhandled'.taken
    rw [List.length_append] at htaken
    rw [hhandled'.full axis e hi, hsame, ← hall, if_pos (by omega)]

end Station

/-! ## Runs of a station that was started -/

namespace Station

variable {config : MotionConfig} {axes : List (AxisConfig × Board)} {powered : Bool} {s₀ : Station}

theorem steady_start (h : start config axes powered = .ok s₀)
    (husable : ∀ p ∈ axes, ∀ k, p.1.controller = some k → k.limits.Usable) : s₀.Steady := by
  obtain ⟨hv, _, haxes, _⟩ := start_ok h
  intro j a ha
  rw [haxes, List.getElem?_mapIdx, Option.map_eq_some_iff] at ha
  obtain ⟨p, hp, rfl⟩ := ha
  exact Axis.steady_create (MotionConfig.sound_of_validate hv) (husable p (List.mem_of_getElem? hp))

theorem allLive_start (h : start config axes powered = .ok s₀) : s₀.AllLive := by
  intro i d hd
  obtain ⟨a, _, rfl⟩ := start_dispatcher h hd
  rfl

/-- **With usable limits of the controllers, every axis can be commanded until it is sent away:** no
command ends the work of its dispatcher, every command that is accepted is answered with a result of
its own, and another one finds its way to the axis. -/
theorem always_commandable (hstart : start config axes powered = .ok s₀)
    (husable : ∀ p ∈ axes, ∀ k, p.1.controller = some k → k.limits.Usable)
    (as : List Action) (hkept : ∀ x ∈ as, x.dismisses = false) :
    (∀ (i : Nat) (d : Dispatcher), (s₀.run as).dispatchers[i]? = some d → s₀.Commandable as i d)
      ∧ ∀ axis c name, ((s₀.run as).submit axis c).2 ≠ .error (.dispatcherClosed name)
        ∧ ((s₀.run as).request axis c).2 ≠ .error (.dispatcherClosed name) := by
  have hmanned := manned_start hstart
  have hsteady := steady_start hstart husable
  have hlive := allLive_start hstart
  have hcapacity : 0 < s₀.machine.config.commandCapacity := by
    obtain ⟨hv, hconfig, _⟩ := start_ok hstart
    rw [hconfig]
    exact MotionConfig.room_of_validate hv
  refine ⟨fun i d hd => ?_, fun axis c name => ?_⟩
  · exact commandable_of_steady hmanned hsteady hlive (spent_start hstart) (start_replies hstart)
      hcapacity hkept hd
  · have hopen := enqueue_open (hmanned.run hkept) (allLive_run hmanned hsteady hlive hkept) axis name
    refine ⟨hopen _, fun h => ?_⟩
    cases hans : ((s₀.run as).enqueue axis ⟨c, some (s₀.run as).nextTicket⟩).2 with
    | error r =>
        rw [request_of_refused hans] at h
        exact hopen _ (Except.error.inj h ▸ hans)
    | ok u =>
        have hpair : (s₀.run as).enqueue axis ⟨c, some (s₀.run as).nextTicket⟩ = (_, .ok ()) :=
          Prod.ext rfl hans
        rw [request, hpair] at h
        exact absurd h (by simp)

/-- An axis with a controller moves to a setpoint, and before it is there it is told to stop. -/
def regulated : List Action :=
  [.dispatch 0, .request "x" (.closedLoop 500), .dispatch 0, .dispatch 0, .dispatch 0,
    .timerMatch 0 false, .place 0 100, .request "x" .stop]

theorem always_commandable_of_regulated :
    ∃ s₀ d, start {} [(⟨"x", 0, some {}⟩, {})] true = .ok s₀
      ∧ (s₀.run regulated).dispatchers[0]? = some d
      ∧ s₀.history (finished? 0) regulated = [(⟨.closedLoop 500, some 0⟩, .ok (.started 12500))]
      ∧ s₀.Commandable regulated 0 d := by
  obtain ⟨s₀, d, hstart, hd, hfinished, husable, hkept⟩ :
      ∃ s₀ d, start {} [(⟨"x", 0, some {}⟩, {})] true = .ok s₀
        ∧ (s₀.run regulated).dispatchers[0]? = some d
        ∧ s₀.history (finished? 0) regulated = [(⟨.closedLoop 500, some 0⟩, .ok (.started 12500))]
        ∧ (∀ k, some ({} : Proportional.Settings) = some k → k.limits.Usable)
        ∧ ∀ x ∈ regulated, x.dismisses = false :=
    ⟨_, _, rfl, rfl, rfl, fun k hk => Option.some.inj hk ▸ by decide, by decide⟩
  refine ⟨s₀, d, hstart, hd, hfinished, ?_⟩
  refine (always_commandable hstart (fun p hp => ?_) regulated hkept).1 0 d hd
  rw [List.mem_singleton.mp hp]
  exact husable

/-- An axis turns clockwise, and is then sent further in the same direction. -/
def sentFurther : List Action :=
  [.dispatch 0, .request "x" (.freeRun .clockwise 1), .dispatch 0, .dispatch 0, .dispatch 0,
    .request "x" (.closedLoop (-500)), .dispatch 0, .dispatch 0, .dispatch 0]

/-- **Not every controller that is accepted leaves its axis commandable.** The floor of this one has
no opposite, and so its first negative output ends the work of the dispatcher. The axis turns on, and
nobody takes a command to stop it. -/
theorem beyond_command :
    ∃ s₀ d a, start {} [(⟨"x", 0, some { limits := ⟨-100, 100, Position.lowest⟩ }⟩, {})] true = .ok s₀
      ∧ (∀ x ∈ sentFurther, x.dismisses = false)
      ∧ (s₀.run sentFurther).dispatchers[0]? = some d ∧ d.phase = .failed .negOverflow
      ∧ (s₀.run sentFurther).machine.axes[0]? = some a ∧ a.isRunning = true
      ∧ s₀.history (accepted? 0) sentFurther
        = [⟨.freeRun .clockwise 1, some 0⟩, ⟨.closedLoop (-500), some 1⟩]
      ∧ ((s₀.run sentFurther).takeReply 1).2 = some (.error (.dispatcherClosed "x"))
      ∧ ((s₀.run sentFurther).request "x" .stop).2 = .error (.dispatcherClosed "x") :=
  ⟨_, _, _, rfl, by decide, rfl, rfl, rfl, rfl, by decide, rfl, rfl⟩

end Station

end StepperMotion
