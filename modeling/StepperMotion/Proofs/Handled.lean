import StepperMotion.Proofs.Ledger
import StepperMotion.Proofs.Reversal

/-!
# Commands are handled in order

What the books say about the commands for an axis is put together here with what is known of the time.
Nothing is taken and nothing is finished while the axis rests for a change of direction
(`nothing_while_resting`), and a dispatcher that is left alone with its axis for long enough finishes all
commands (`all_finished`). `handled_in_order` says what follows for the owner of a station whose
dispatchers have not been sent away.
-/

namespace StepperMotion

namespace Station

variable {s : Station} {i : Nat} {d : Dispatcher} {a : Axis} {e : Envelope}

/-! ## Rests -/

/-- The stroke of dispatcher `i` halts its axis for a change of direction. -/
def halts (i : Nat) (s : Station) (x : Action) : Bool :=
  match s.dispatchers[i]?, s.machine.axes[i]? with
  | some d, some a => decide (x = .dispatch i) && a.hasToRest s.nowMs d.phase
  | _, _ => false

/-- A dispatcher may make a stroke at the time. -/
def Free (s : Station) (i : Nat) : Prop :=
  ∃ d t, s.dispatchers[i]? = some d ∧ d.phase.earliest? s.nowMs = some t ∧ t ≤ s.nowMs

theorem free_of_taken {x : Action} (h : s.taken? i x = some e) : s.Free i := by
  unfold taken? at h
  split at h
  · exact absurd h (by simp)
  · rename_i d hd
    split at h
    · rename_i hidle
      exact ⟨d, s.nowMs, hd, by rw [hidle.2]; rfl, Nat.le_refl _⟩
    · exact absurd h (by simp)

theorem free_of_finished {x : Action} {p : Envelope × Except MotionError Outcome}
    (h : s.finished? i x = some p) : s.Free i := by
  unfold finished? at h
  split at h
  · rename_i d a hd ha
    refine ⟨d, ?_⟩
    split at h
    · cases hp : d.phase with
      | received e => exact ⟨s.nowMs, hd, rfl, Nat.le_refl _⟩
      | ready e => exact ⟨s.nowMs, hd, rfl, Nat.le_refl _⟩
      | waiting e untilMs =>
          by_cases hdue : untilMs ≤ s.nowMs
          · exact ⟨untilMs, hd, rfl, hdue⟩
          · exact absurd h (by simp [hp, Axis.result?, hdue])
      | _ => exact absurd h (by simp [hp, Dispatcher.Phase.envelope?])
    · exact absurd h (by simp)
  · exact absurd h (by simp)

theorem run_nowMs (s : Station) (as : List Action) : s.nowMs ≤ (s.run as).nowMs :=
  run_induction (P := fun s' => s.nowMs ≤ s'.nowMs)
    (fun s' x h => Nat.le_trans h (act_nowMs s' x)) (Nat.le_refl _) as

/-- **Nothing is taken or finished while the axis rests.** -/
theorem nothing_while_resting {t : Nat} (hripe : s.Ripens i t) (as : List Action)
    (hnow : (s.run as).nowMs < t + s.machine.config.restMs) :
    s.history (taken? i) as = [] ∧ s.history (finished? i) as = [] := by
  induction as generalizing s with
  | nil => exact ⟨rfl, rfl⟩
  | cons x as ih =>
      have hlater := run_nowMs s (x :: as)
      have hbound : ¬ s.Free i := by
        rintro ⟨d, t', hd, ht', hdue⟩
        have hwait := hripe d t' hd ht'
        omega
      have htaken : s.taken? i x = none := by
        cases h : s.taken? i x with
        | none => rfl
        | some e => exact absurd (free_of_taken h) hbound
      have hfinished : s.finished? i x = none := by
        cases h : s.finished? i x with
        | none => rfl
        | some p => exact absurd (free_of_finished h) hbound
      obtain ⟨hrest, hrest'⟩ := ih (hripe.act x) (by rw [act_config]; exact hnow)
      simp only [history, htaken, hfinished, hrest, hrest']
      exact ⟨rfl, rfl⟩

/-- A command that makes its axis rest is not finished, and no other is taken, before the rest is
over. -/
theorem kept_while_resting {s₀ : Station} {us vs : List Action} {x : Action}
    (hplaced : (s₀.run us).Placed) (hhalts : (s₀.run us).halts i x = true)
    (hnow : (s₀.run (us ++ x :: vs)).nowMs
      < (s₀.run us).nowMs + (s₀.run us).machine.config.restMs) :
    s₀.history (taken? i) (us ++ x :: vs) = s₀.history (taken? i) us
      ∧ s₀.history (finished? i) (us ++ x :: vs) = s₀.history (finished? i) us := by
  unfold halts at hhalts
  split at hhalts
  · rename_i d a hd ha
    simp only [Bool.and_eq_true, decide_eq_true_eq] at hhalts
    obtain ⟨rfl, hrest⟩ := hhalts
    have hi := hplaced.dispatchers i d hd
    have hripe := ripens_of_rest hplaced ha hd hi hrest
    have hnone : (s₀.run us).taken? i (.dispatch i) = none
        ∧ (s₀.run us).finished? i (.dispatch i) = none := by
      refine ⟨taken_none hd (Or.inl ?_), finished_none hd ha (Or.inr (Axis.result_of_hasToRest hrest))⟩
      intro hp
      exact absurd hrest (by simp [hp, Axis.hasToRest])
    have hsame : ((s₀.run us).act (.dispatch i)).nowMs = (s₀.run us).nowMs :=
      (dispatch_dispatched hd).nowMs
    rw [run_append, run_cons] at hnow
    obtain ⟨htaken, hfinished⟩ := nothing_while_resting hripe vs
      (by rw [hsame, act_config]; exact hnow)
    simp [history_append, history, hnone, htaken, hfinished]
  · exact absurd hhalts (by simp)

/-! ## What the owner can rely on -/

theorem turns_kept {restMs n : Nat} : ∀ x ∈ turns restMs i n, x.dismisses = false := by
  induction n with
  | zero => simp [turns]
  | succ n ih =>
      intro x hx
      simp only [turns, List.mem_cons] at hx
      rcases hx with rfl | rfl | hx
      · rfl
      · rfl
      · exact ih x hx

/-- No command is given while a dispatcher is left alone with its axis. -/
theorem accepted_turns {restMs n k : Nat} : s.history (accepted? k) (turns restMs i n) = [] := by
  induction n generalizing s with
  | zero => rfl
  | succ n ih => simp [turns, history, ih, accepted?, offer?]

theorem toGo_le (a : Axis) (d : Dispatcher) :
    toGo a d ≤ 4 * (d.phase.envelope?.toList.length + d.inbox.items.length) + 1 := by
  unfold toGo
  cases d.phase with
  | waiting e untilMs =>
      simp only [Dispatcher.Phase.envelope?, Option.toList_some, List.length_singleton]
      split <;> omega
  | received e =>
      simp only [Dispatcher.Phase.envelope?, Option.toList_some, List.length_singleton]
      omega
  | ready e =>
      simp only [Dispatcher.Phase.envelope?, Option.toList_some, List.length_singleton]
      omega
  | _ =>
      simp only [Dispatcher.Phase.envelope?, Option.toList_none, List.length_nil]
      omega

theorem dispatcher_of_run (h : s.Manned) {as : List Action}
    (hkept : ∀ x ∈ as, x.dismisses = false) (hd : s.dispatchers[i]? = some d) :
    ∃ d', (s.run as).dispatchers[i]? = some d' := by
  have hlength : (s.run as).Manned ∧ (s.run as).dispatchers.length = s.dispatchers.length := by
    refine run_of_mem (P := fun s' => s'.Manned ∧ s'.dispatchers.length = s.dispatchers.length)
      (fun s' x hx hs' => ?_) ⟨h, rfl⟩
    exact ⟨hs'.1.act (hkept x hx), (length_act hs'.1.staffed (hkept x hx)).trans hs'.2⟩
  obtain ⟨hlt, _⟩ := List.getElem?_eq_some_iff.mp hd
  rw [← hlength.2] at hlt
  exact ⟨_, List.getElem?_eq_getElem hlt⟩

/-- **A dispatcher that is left alone with its axis for long enough finishes all commands.** -/
theorem all_finished {s₀ : Station} (h : s₀.Manned) (hnew : ∀ i, s₀.Spent i) {as : List Action}
    (hkept : ∀ x ∈ as, x.dismisses = false) (hd : (s₀.run as).dispatchers[i]? = some d)
    (hlive : d.phase.isLive = true) {n : Nat}
    (hn : 4 * ((s₀.history (accepted? i) as).length
      - (s₀.history (finished? i) as).length) < n)
    (hall : (s₀.run (as ++ turns s₀.machine.config.restMs i n)).AllLive) :
    (s₀.history (finished? i) (as ++ turns s₀.machine.config.restMs i n)).map Prod.fst
      = s₀.history (accepted? i) as := by
  have hmanned := h.run hkept
  have hledger := h.ledger (hnew i) hkept hd hlive
  have hrest : (s₀.run as).machine.config.restMs = s₀.machine.config.restMs := by
    rw [run_config]
  obtain ⟨a, ha⟩ := hmanned.axis hd
  have hgo : toGo a d ≤ n := by
    have hle := toGo_le a d
    have hlength := congrArg List.length hledger.accepted
    rw [hledger.taken] at hlength
    simp only [List.length_append, List.length_map] at hlength
    omega
  -- in the end the dispatcher has nothing in hand and nothing in its inbox
  obtain ⟨d', hd'⟩ := dispatcher_of_run hmanned turns_kept hd
  have hend := hd'
  rw [← run_append] at hend
  obtain ⟨hidle, hempty⟩ := turns_finish hrest hmanned.placed hd ha (hmanned.duty i d hd) hgo hd'
    (hall i d' hend)
  have hkept' : ∀ x ∈ as ++ turns s₀.machine.config.restMs i n, x.dismisses = false := by
    intro x hx
    rcases List.mem_append.mp hx with hx | hx
    · exact hkept x hx
    · exact turns_kept x hx
  have hledger' := h.ledger (hnew i) hkept' hend (hall i d' hend)
  have hsame : s₀.history (accepted? i) (as ++ turns s₀.machine.config.restMs i n)
      = s₀.history (accepted? i) as := by
    rw [history_append, accepted_turns, List.append_nil]
  rw [← hsame, hledger'.accepted, hledger'.taken, hidle, hempty]
  simp [Dispatcher.Phase.envelope?]

/-- What has become after a run of the commands for dispatcher `i`. -/
structure Handled (s₀ : Station) (as : List Action) (i : Nat) (d : Dispatcher) : Prop
    extends s₀.Ledger as i d where
  /-- If a command makes the axis rest, it is not finished before the rest is over. -/
  rested : ∀ (us vs : List Action) (x : Action), as = us ++ x :: vs →
    (s₀.run us).halts i x = true →
    (s₀.run as).nowMs < (s₀.run us).nowMs + s₀.machine.config.restMs →
    s₀.history (taken? i) as = s₀.history (taken? i) us
      ∧ s₀.history (finished? i) as = s₀.history (finished? i) us
  /-- The dispatcher finishes them all, if it is left alone with its axis for long enough and no
  computation fails. -/
  settled : ∀ n, 4 * ((s₀.history (accepted? i) as).length
      - (s₀.history (finished? i) as).length) < n →
    (s₀.run (as ++ turns s₀.machine.config.restMs i n)).AllLive →
    (s₀.history (finished? i) (as ++ turns s₀.machine.config.restMs i n)).map Prod.fst
      = s₀.history (accepted? i) as
  /-- The answer to a command is the result of this command. -/
  answered : ∀ e t r, e ∈ s₀.history (accepted? i) as → e.ticket = some t →
    (((s₀.run as).takeReply t).2 = some r ↔ (e, r) ∈ s₀.history (finished? i) as)
  /-- There is room for another command unless the inbox is full. -/
  full : ∀ axis e, (s₀.run as).machine.handle? axis = some i →
    ((s₀.run as).enqueue axis e).2
      = if (s₀.history (accepted? i) as).length
          < (s₀.history (taken? i) as).length + s₀.machine.config.commandCapacity then .ok ()
        else .error (.queueFull axis)

theorem handled_of_manned {s₀ : Station} (h : s₀.Manned) (hnew : ∀ i, s₀.Spent i)
    (hreplies : s₀.replies = []) {as : List Action} (hkept : ∀ x ∈ as, x.dismisses = false)
    (hlive : (s₀.run as).AllLive) (hd : (s₀.run as).dispatchers[i]? = some d) :
    s₀.Handled as i d := by
  have hledger := h.ledger (hnew i) hkept hd (hlive i d hd)
  have hmanned := h.run hkept
  have hconfig : (s₀.run as).machine.config = s₀.machine.config := run_config s₀ as
  have hduty := hmanned.duty i d hd
  refine ⟨hledger, ?_, ?_, ?_, ?_⟩
  · rintro us vs x rfl hhalts hnow
    have hbefore : ∀ y ∈ us, y.dismisses = false := fun y hy =>
      hkept y (List.mem_append_left _ hy)
    refine kept_while_resting (h.run hbefore).placed hhalts ?_
    rwa [run_config]
  · intro n hn hall
    exact all_finished h hnew hkept hd (hlive i d hd) hn hall
  · intro e t r he ht
    exact takeReply_iff h hnew hreplies hkept hlive he ht r
  · intro axis e hi
    have hopen := hduty.isOpen (hlive i d hd)
    have hlength : (s₀.history (accepted? i) as).length
        = (s₀.history (taken? i) as).length + d.inbox.items.length := by
      rw [hledger.accepted, List.length_append]
    rw [enqueue_full hi hd hopen, hduty.capacity, hconfig, hlength]
    simp only [Nat.add_lt_add_iff_left]

/-! ## Runs of a station that was started -/

variable {config : MotionConfig} {axes : List (AxisConfig × Board)} {powered : Bool} {s₀ : Station}

theorem start_replies (h : start config axes powered = .ok s₀) : s₀.replies = [] := by
  unfold start at h
  cases hv : config.validate with
  | error e => simp [hv, bind, Except.bind] at h
  | ok u =>
      simp only [hv, bind, Except.bind] at h
      unfold bare at h
      cases hb : Machine.build config axes config.notificationCapacity powered with
      | error e => simp [hb, Except.map] at h
      | ok m =>
          simp only [hb, Except.map, pure, Except.pure] at h
          obtain rfl := Except.ok.inj h
          rfl

theorem spent_start (h : start config axes powered = .ok s₀) (i : Nat) : s₀.Spent i := by
  intro d hd
  obtain ⟨a, _, rfl⟩ := start_dispatcher h hd
  exact ⟨rfl, rfl⟩

/-- **The commands for an axis are handled in the order in which they were accepted,** each once and
each to its end before the next one is taken, in whatever order the parties take turns. This is so
until a dispatcher is sent away, as long as no computation fails. A command that finds no room leaves
no trace. -/
theorem handled_in_order (hstart : start config axes powered = .ok s₀) (as : List Action)
    (hkept : ∀ x ∈ as, x.dismisses = false)
    (hsound : ∀ (i : Nat) (d : Dispatcher) (f : Fault), (s₀.run as).dispatchers[i]? = some d →
      d.phase ≠ .failed f) :
    (∀ (i : Nat) (d : Dispatcher), (s₀.run as).dispatchers[i]? = some d → s₀.Handled as i d)
      ∧ ∀ axis c r,
        (((s₀.run as).submit axis c).2 = .error r → ((s₀.run as).submit axis c).1 = s₀.run as)
        ∧ (((s₀.run as).request axis c).2 = .error r →
          ((s₀.run as).request axis c).1 = s₀.run as) := by
  have hmanned := (manned_start hstart).run hkept
  have hlive : (s₀.run as).AllLive := by
    intro i d hd
    rcases (hmanned.duty i d hd).works with hlive | ⟨f, hp⟩
    · exact hlive
    · exact absurd hp (hsound i d f hd)
  refine ⟨fun i d hd => ?_, fun axis c r => ⟨enqueue_refused, request_refused⟩⟩
  exact handled_of_manned (manned_start hstart) (spent_start hstart) (start_replies hstart) hkept
    hlive hd

/-- An axis with room for two commands is turned back. While it rests, two more commands are accepted
for it and a third is refused. -/
def crowdedInbox : List Action :=
  [.dispatch 0, .submit "x" (.closedLoop 500), .dispatch 0, .dispatch 0, .dispatch 0,
    .request "x" (.closedLoop (-500)), .dispatch 0, .dispatch 0, .submit "x" (.freeRun .clockwise 1),
    .request "x" .stop, .submit "x" .stop, .dispatch 0, .pass 500, .dispatch 0, .dispatch 0]

theorem handled_in_order_of_crowdedInbox :
    ∃ s₀ d, start { commandCapacity := 2 } [(⟨"x", 0, none⟩, {})] true = .ok s₀
      ∧ (s₀.run crowdedInbox).dispatchers[0]? = some d
      ∧ s₀.history (accepted? 0) crowdedInbox = [⟨.closedLoop 500, none⟩,
        ⟨.closedLoop (-500), some 0⟩, ⟨.freeRun .clockwise 1, none⟩, ⟨.stop, some 1⟩]
      ∧ d.phase.envelope? = some ⟨.freeRun .clockwise 1, none⟩
      ∧ s₀.Handled crowdedInbox 0 d := by
  obtain ⟨s₀, d, hstart, hd, haccepted, hhand, hkept, hlive⟩ :
      ∃ s₀ d, start { commandCapacity := 2 } [(⟨"x", 0, none⟩, {})] true = .ok s₀
        ∧ (s₀.run crowdedInbox).dispatchers[0]? = some d
        ∧ s₀.history (accepted? 0) crowdedInbox = [⟨.closedLoop 500, none⟩,
          ⟨.closedLoop (-500), some 0⟩, ⟨.freeRun .clockwise 1, none⟩, ⟨.stop, some 1⟩]
        ∧ d.phase.envelope? = some ⟨.freeRun .clockwise 1, none⟩
        ∧ (∀ x ∈ crowdedInbox, x.dismisses = false)
        ∧ (s₀.run crowdedInbox).dispatchers.all (·.phase.isLive) = true :=
    ⟨_, _, rfl, rfl, by decide, by decide, by decide, by decide⟩
  refine ⟨s₀, d, hstart, hd, haccepted, hhand, ?_⟩
  refine (handled_in_order hstart crowdedInbox hkept fun i d' f hd' hp => ?_).1 0 d hd
  have hlived := List.all_eq_true.mp hlive d' (List.mem_of_getElem? hd')
  exact absurd hlived (by simp [hp, Dispatcher.Phase.isLive])

end Station

end StepperMotion
