import Mathlib.Data.List.Induction

/-!
# Runs of event-driven partial transitions

A component is a partial function from a state and an event to the next state;
`none` means that the event is not enabled.  All nondeterminism (which thread
moves, what a system call answers, what the peer sends) is carried by the event,
so a run is a list of events and one execution of the component is executable.

The file supplies the run calculus shared by all components: composition,
induction along a run with and without its history, properties that hold until an
event, what is observed of a run, and restriction of a component to the events an
assumption allows.
-/

namespace K50sv1.Transition

universe u v w x

/-- A partial transition driven by events. -/
abbrev Step (ε : Type u) (σ : Type v) :=
  σ → ε → Option σ

variable {ε : Type u} {σ : Type v}

/-- Execute a list of events from left to right.  A disabled event makes the
whole execution fail. -/
def exec (next : Step ε σ) : σ → List ε → Option σ
  | state, [] => some state
  | state, event :: events =>
      (next state event).bind fun after => exec next after events

/-- `events` leads from `source` to `target`. -/
def Runs (next : Step ε σ) (source : σ) (events : List ε) (target : σ) : Prop :=
  exec next source events = some target

/-- `target` is reached from `source` by some list of events. -/
def Reachable (next : Step ε σ) (source target : σ) : Prop :=
  ∃ events, Runs next source events target

@[simp]
theorem runs_nil_iff (next : Step ε σ) (source target : σ) :
    Runs next source [] target ↔ source = target := by
  simp [Runs, exec]

theorem runs_cons_iff (next : Step ε σ) (source target : σ) (event : ε) (events : List ε) :
    Runs next source (event :: events) target ↔
      ∃ after, next source event = some after ∧ Runs next after events target := by
  simp [Runs, exec, Option.bind_eq_some_iff]

/-- The state an executable list of events leads to. -/
theorem runs_get {next : Step ε σ} {source : σ} {events : List ε}
    (enabled : (exec next source events).isSome) :
    Runs next source events ((exec next source events).get enabled) :=
  (Option.some_get enabled).symm

/-- Executing a concatenation is executing its parts one after the other. -/
theorem exec_append (next : Step ε σ) (source : σ) (first second : List ε) :
    exec next source (first ++ second) =
      (exec next source first).bind fun middle => exec next middle second := by
  induction first generalizing source with
  | nil => rfl
  | cons event events ih =>
      cases stepEq : next source event with
      | none => simp [exec, stepEq]
      | some after => simpa [exec, stepEq] using ih after

/-- A run splits at an arbitrary point of its event list. -/
theorem runs_append_iff (next : Step ε σ) (source target : σ) (first second : List ε) :
    Runs next source (first ++ second) target ↔
      ∃ middle, Runs next source first middle ∧ Runs next middle second target := by
  rw [Runs, exec_append]
  exact Option.bind_eq_some_iff

/-- The last event of a nonempty run. -/
theorem runs_concat_iff (next : Step ε σ) (source target : σ) (events : List ε) (event : ε) :
    Runs next source (events ++ [event]) target ↔
      ∃ before, Runs next source events before ∧ next before event = some target := by
  simp [runs_append_iff, runs_cons_iff]

theorem Runs.append {next : Step ε σ} {source middle target : σ} {first second : List ε}
    (left : Runs next source first middle) (right : Runs next middle second target) :
    Runs next source (first ++ second) target :=
  (runs_append_iff next source target first second).mpr ⟨middle, left, right⟩

theorem Runs.concat {next : Step ε σ} {source before target : σ} {events : List ε} {event : ε}
    (run : Runs next source events before) (last : next before event = some target) :
    Runs next source (events ++ [event]) target :=
  (runs_concat_iff next source target events event).mpr ⟨before, run, last⟩

/-- Induction along a run with its history: a property of the events consumed so
far and the state reached is established initially and by every step. -/
theorem Runs.history {next : Step ε σ} {source target : σ} {events : List ε}
    {P : List ε → σ → Prop} (run : Runs next source events target)
    (start : P [] source)
    (step : ∀ past state event after, Runs next source past state → P past state →
      next state event = some after → P (past ++ [event]) after) :
    P events target := by
  induction events using List.reverseRecOn generalizing target with
  | nil =>
      rw [runs_nil_iff] at run
      exact run ▸ start
  | append_singleton past event ih =>
      obtain ⟨before, earlier, last⟩ := (runs_concat_iff ..).mp run
      exact step past before event target earlier (ih earlier) last

/-- A property that every step preserves holds along every run that starts in
it. -/
theorem Runs.invariant {next : Step ε σ} {source target : σ} {events : List ε}
    {I : σ → Prop} (run : Runs next source events target) (start : I source)
    (step : ∀ state event after, I state → next state event = some after → I after) :
    I target :=
  run.history (P := fun _ state => I state) start
    fun _ state event after _ => step state event after

theorem Reachable.invariant {next : Step ε σ} {source target : σ} {I : σ → Prop}
    (reachable : Reachable next source target) (start : I source)
    (step : ∀ state event after, I state → next state event = some after → I after) :
    I target := by
  obtain ⟨events, run⟩ := reachable
  exact run.invariant start step

theorem Runs.reachable {next : Step ε σ} {source target : σ} {events : List ε}
    (run : Runs next source events target) : Reachable next source target :=
  ⟨events, run⟩

theorem Reachable.refl (next : Step ε σ) (state : σ) : Reachable next state state :=
  ⟨[], (runs_nil_iff next state state).mpr rfl⟩

theorem Reachable.tail {next : Step ε σ} {source before target : σ} {event : ε}
    (reachable : Reachable next source before) (last : next before event = some target) :
    Reachable next source target := by
  obtain ⟨events, run⟩ := reachable
  exact ⟨events ++ [event], run.concat last⟩

/-- A component that follows another one, or stands still, reaches the images of what
the other one reaches. -/
theorem Reachable.simulates {ε' : Type w} {τ : Type x} {next : Step ε σ} {next' : Step ε' τ}
    {source target : σ} (project : σ → τ) (reachable : Reachable next source target)
    (step : ∀ state event after, next state event = some after →
      project after = project state ∨
        ∃ event', next' (project state) event' = some (project after)) :
    Reachable next' (project source) (project target) := by
  apply reachable.invariant (I := fun state => Reachable next' (project source) (project state))
  · exact Reachable.refl _ _
  · intro state event after reached stepped
    rcases step state event after stepped with same | ⟨event', followed⟩
    · rw [same]
      exact reached
    · exact reached.tail followed

/-! ## Properties along a run -/

/-- An execution has one result. -/
theorem Runs.unique {next : Step ε σ} {source first second : σ} {events : List ε}
    (left : Runs next source events first) (right : Runs next source events second) :
    first = second :=
  Option.some.inj (left.symm.trans right)

/-- `P` holds in every state that the execution of `events` passes through. -/
def Throughout (next : Step ε σ) (P : σ → Prop) (source : σ) (events : List ε) : Prop :=
  ∀ front back state, events = front ++ back → Runs next source front state → P state

theorem throughout_nil {next : Step ε σ} {P : σ → Prop} {source : σ} (start : P source) :
    Throughout next P source [] := by
  intro front back state split run
  rcases List.append_eq_nil_iff.mp split.symm with ⟨rfl, _⟩
  rw [runs_nil_iff] at run
  exact run ▸ start

theorem Throughout.concat {next : Step ε σ} {P : σ → Prop} {source after : σ}
    {events : List ε} {event : ε} (earlier : Throughout next P source events)
    (run : Runs next source (events ++ [event]) after) (last : P after) :
    Throughout next P source (events ++ [event]) := by
  intro front back state split reached
  rcases List.eq_nil_or_concat back with rfl | ⟨shorter, final, rfl⟩
  · rw [List.append_nil] at split
    rw [← split] at reached
    exact run.unique reached ▸ last
  · rw [List.concat_eq_append, ← List.append_assoc] at split
    exact earlier front shorter state (List.append_inj_left' split rfl) reached

theorem Throughout.target {next : Step ε σ} {P : σ → Prop} {source target : σ}
    {events : List ε} (along : Throughout next P source events)
    (run : Runs next source events target) : P target :=
  along events [] target (List.append_nil events).symm run

/-- A property that every step either keeps or ends with `Q` holds all along a run
or up to the first event with `Q`. -/
theorem Runs.weakUntil {next : Step ε σ} {source target : σ} {events : List ε}
    {P : σ → Prop} {Q : List ε → σ → ε → Prop} (run : Runs next source events target)
    (start : P source)
    (step : ∀ past state event after, Runs next source past state → P state →
      next state event = some after → P after ∨ Q past state event) :
    Throughout next P source events ∨
      ∃ before event rest middle, events = before ++ event :: rest ∧
        Runs next source before middle ∧ Throughout next P source before ∧
        Q before middle event := by
  apply run.history (P := fun past _ => Throughout next P source past ∨
    ∃ before event rest middle, past = before ++ event :: rest ∧
      Runs next source before middle ∧ Throughout next P source before ∧
      Q before middle event)
  · exact .inl (throughout_nil start)
  · rintro past state event after earlier (along | ⟨before, first, rest, middle, split, facts⟩) last
    · rcases step past state event after earlier (along.target earlier) last with kept | ended
      · exact .inl (along.concat (earlier.concat last) kept)
      · exact .inr ⟨past, event, [], state, rfl, earlier, along, ended⟩
    · right
      refine ⟨before, first, rest ++ [event], middle, ?_, facts⟩
      rw [split, List.append_assoc, List.cons_append]

/-! ## Observations -/

/-- What `observe` sees of the steps of an execution, oldest first. -/
def observations {ο : Type w} (next : Step ε σ) (observe : σ → ε → σ → Option ο) :
    σ → List ε → List ο
  | _, [] => []
  | state, event :: events =>
      match next state event with
      | none => []
      | some after =>
          (observe state event after).toList ++ observations next observe after events

/-- The last step of a run contributes what is seen of it. -/
theorem Runs.observations_concat {ο : Type w} {next : Step ε σ} {source before after : σ}
    {events : List ε} {event : ε} (observe : σ → ε → σ → Option ο)
    (run : Runs next source events before) (last : next before event = some after) :
    observations next observe source (events ++ [event]) =
      observations next observe source events ++ (observe before event after).toList := by
  induction events generalizing source with
  | nil =>
      obtain rfl := (runs_nil_iff ..).mp run
      simp [observations, last]
  | cons first rest ih =>
      obtain ⟨middle, stepped, remaining⟩ := (runs_cons_iff ..).mp run
      rw [List.cons_append, observations, observations, stepped]
      dsimp only
      rw [ih remaining, List.append_assoc]

/-! ## Restriction to the events an assumption allows -/

/-- The transition that offers only the events `allowed` admits in the current
state.  Assumptions about the environment of a component are stated this way. -/
def restrict (allowed : σ → ε → Prop) [∀ state event, Decidable (allowed state event)]
    (next : Step ε σ) : Step ε σ :=
  fun state event => if allowed state event then next state event else none

section Restrict

variable {allowed : σ → ε → Prop} [∀ state event, Decidable (allowed state event)]
  {next : Step ε σ}

theorem restrict_eq_some_iff {state after : σ} {event : ε} :
    restrict allowed next state event = some after ↔
      allowed state event ∧ next state event = some after := by
  simp [restrict]

/-- A run under an assumption is a run of the unrestricted component. -/
theorem Runs.of_restrict {source target : σ} {events : List ε}
    (run : Runs (restrict allowed next) source events target) :
    Runs next source events target :=
  run.history (P := fun past state => Runs next source past state)
    ((runs_nil_iff next source source).mpr rfl)
    fun _ _ _ _ _ earlier last => earlier.concat (restrict_eq_some_iff.mp last).2

theorem Reachable.of_restrict {source target : σ}
    (reachable : Reachable (restrict allowed next) source target) :
    Reachable next source target := by
  obtain ⟨events, run⟩ := reachable
  exact ⟨events, run.of_restrict⟩

/-- An assumption that every step meets anyway restricts nothing. -/
theorem Reachable.to_restrict {source target : σ} (reachable : Reachable next source target)
    (always : ∀ state event after, next state event = some after → allowed state event) :
    Reachable (restrict allowed next) source target :=
  reachable.invariant (Reachable.refl _ source) fun state event after reached step =>
    reached.tail (restrict_eq_some_iff.mpr ⟨always state event after step, step⟩)

end Restrict

end K50sv1.Transition
