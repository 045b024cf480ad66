import K50sv1.RilShim.AttachApn.Tokens
import Mathlib.Data.List.Pairwise

/-!
# Single flight with a latched deadline

The slot `sIaRequestInFlight` is given up for two reasons only: the completion of
the request it was taken for, or a clock reading at or past the deadline latched
when that request was issued.  The invariant records, for every request that is
issued and not completed, which of the two is still to come: either the worker is
waiting for it, or a reading at least `REISSUE_INFLIGHT_TIMEOUT_NS` after its
issue time has been taken.

Clock assumptions are stated on the log of readings, so they speak about all
readings of the run and about nothing else.
-/

namespace K50sv1.RilShim.AttachApn

open K50sv1.Transition

/-! ## Clock logs -/

/-- `clock_gettime` succeeded at every use and never went back. -/
structure ClockOk (log : List (Option Timespec)) : Prop where
  available : ∀ reading ∈ log, ∃ time, reading = some time
  monotone : log.Pairwise fun earlier later =>
    ∀ s t, earlier = some s → later = some t → timespecToNs s ≤ timespecToNs t

theorem ClockOk.left {log more : List (Option Timespec)} (clock : ClockOk (log ++ more)) :
    ClockOk log where
  available reading member := clock.available reading (List.mem_append_left more member)
  monotone := (List.pairwise_append.mp clock.monotone).1

theorem ClockOk.available_right {log more : List (Option Timespec)}
    (clock : ClockOk (log ++ more)) {reading : Option Timespec} (member : reading ∈ more) :
    ∃ time, reading = some time :=
  clock.available reading (List.mem_append_right log member)

theorem ClockOk.le {log more : List (Option Timespec)} (clock : ClockOk (log ++ more))
    {s t : Timespec} (earlier : some s ∈ log) (later : some t ∈ more) :
    timespecToNs s ≤ timespecToNs t := by
  rcases List.pairwise_append.mp clock.monotone with ⟨_, _, across⟩
  exact across (some s) earlier (some t) later s t rfl rfl

variable {simCount : Nat}

/-! ## Issue times -/

/-- `later` was issued at least a timeout after `earlier`. -/
def IssuedApart (earlier later : Request simCount) : Prop :=
  ∃ s t, earlier.issuedAt = some s ∧ later.issuedAt = some t ∧
    timespecToNs s + reissueInflightTimeoutNs ≤ timespecToNs t

/-- Two requests have different issue numbers, and whichever is the later one was
issued apart from the other. -/
def Spaced (first second : Request simCount) : Prop :=
  first.id ≠ second.id ∧ (first.id < second.id → IssuedApart first second) ∧
    (second.id < first.id → IssuedApart second first)

instance : Std.Symm (@Spaced simCount) where
  symm _ _ spaced := ⟨spaced.1.symm, spaced.2.2, spaced.2.1⟩

/-- A reading at or past the request's deadline has been taken. -/
def Overdue (log : List (Option Timespec)) (request : Request simCount) : Prop :=
  ∃ s t, request.issuedAt = some s ∧ some t ∈ log ∧
    timespecToNs s + reissueInflightTimeoutNs ≤ timespecToNs t

theorem Overdue.mono {log more : List (Option Timespec)} {request : Request simCount}
    (overdue : Overdue log request) : Overdue (log ++ more) request := by
  rcases overdue with ⟨s, t, issued, member, late⟩
  exact ⟨s, t, issued, List.mem_append_left more member, late⟩

/-- A request issued with a later reading is issued apart from an overdue one. -/
theorem Overdue.issuedApart {log more : List (Option Timespec)}
    {earlier later : Request simCount} (overdue : Overdue log earlier)
    (clock : ClockOk (log ++ more)) (reading : later.issuedAt ∈ more) :
    IssuedApart earlier later := by
  rcases overdue with ⟨s, t, issued, member, late⟩
  rcases clock.available_right reading with ⟨time, readingEq⟩
  rw [readingEq] at reading
  exact ⟨s, time, issued, readingEq, late.trans (clock.le member reading)⟩

/-! ## The invariant -/

variable [NeZero simCount]

/-- The worker is waiting for `request`. -/
structure Awaited (system : IaSystem simCount) (request : Request simCount) : Prop where
  last : system.lastIssued = some request
  live : request ∈ system.live
  index : system.shim.sIaCurrentTokenIndex = request.token
  deadline : system.shim.sIaInFlightDeadlineNs = inFlightDeadline request.issuedAt
  reading : ∃ time, request.issuedAt = some time
  unexpired : system.lastExpired = false

/-- The live requests are listed from the newest to the oldest. -/
structure FlightInvariant (system : IaSystem simCount) : Prop where
  numbered : ∀ request ∈ system.live, request.id < system.issueCount
  spaced : system.live.Pairwise fun later earlier =>
    earlier.id < later.id ∧ IssuedApart earlier later
  awaited : system.shim.sIaRequestInFlight = true → ∃ request, Awaited system request
  overdue : ∀ request ∈ system.live,
    (system.shim.sIaRequestInFlight = true → system.lastIssued ≠ some request) →
      Overdue system.clock request
  unexpired : ∀ request ∈ system.live, system.lastIssued = some request →
    system.lastExpired = false → system.shim.sIaRequestInFlight = true

theorem flightInvariant_initial : FlightInvariant (IaSystem.initial simCount) := by
  constructor <;> simp [IaSystem.live, IaSystem.initial, IaState.initial, WorkerPhase.inTransit]

/-- What the worker and the completion hook decide the slot by. -/
def IaState.flight (state : IaState simCount) : Bool × Nat × Fin reissueTokenSlots :=
  (state.sIaRequestInFlight, state.sIaInFlightDeadlineNs, state.sIaCurrentTokenIndex)

omit [NeZero simCount] in
/-- Steps that leave the slot and the issued requests alone, whatever they read
from the clock. -/
theorem FlightInvariant.congr {system after : IaSystem simCount} (inv : FlightInvariant system)
    (more : List (Option Timespec)) (live : after.live = system.live)
    (flight : after.shim.flight = system.shim.flight)
    (issueCount : after.issueCount = system.issueCount)
    (lastIssued : after.lastIssued = system.lastIssued)
    (lastExpired : after.lastExpired = system.lastExpired)
    (clock : after.clock = system.clock ++ more) : FlightInvariant after := by
  simp only [IaState.flight, Prod.mk.injEq] at flight
  rcases flight with ⟨inFlight, deadline, index⟩
  constructor
  · rw [live, issueCount]
    exact inv.numbered
  · rw [live]
    exact inv.spaced
  · rw [inFlight]
    intro held
    rcases inv.awaited held with ⟨request, awaited⟩
    refine ⟨request, ?_, ?_, ?_, ?_, awaited.reading, ?_⟩
    · rw [lastIssued, awaited.last]
    · rw [live]
      exact awaited.live
    · rw [index, awaited.index]
    · rw [deadline, awaited.deadline]
    · rw [lastExpired, awaited.unexpired]
  · rw [live, inFlight, lastIssued, clock]
    intro request member notCurrent
    exact (inv.overdue request member notCurrent).mono
  · rw [live, inFlight, lastIssued, lastExpired]
    exact inv.unexpired

omit [NeZero simCount] in
/-- Taking the free slot for a new request: everything older is overdue. -/
theorem FlightInvariant.issue {system after : IaSystem simCount} (inv : FlightInvariant system)
    (request : Request simCount) (more : List (Option Timespec))
    (idle : system.shim.sIaRequestInFlight = false) (number : request.id = system.issueCount)
    (clockOk : ClockOk (system.clock ++ more)) (reading : request.issuedAt ∈ more)
    (live : after.live = request :: system.live)
    (flight : after.shim.flight = (true, inFlightDeadline request.issuedAt, request.token))
    (issueCount : after.issueCount = system.issueCount + 1)
    (lastIssued : after.lastIssued = some request) (lastExpired : after.lastExpired = false)
    (clock : after.clock = system.clock ++ more) : FlightInvariant after := by
  simp only [IaState.flight, Prod.mk.injEq] at flight
  rcases flight with ⟨inFlight, deadline, index⟩
  have older : ∀ earlier ∈ system.live, Overdue system.clock earlier := by
    intro earlier member
    apply inv.overdue earlier member
    simp [idle]
  constructor
  · rw [live, issueCount]
    intro member
    simp only [List.mem_cons]
    rintro (rfl | old)
    · omega
    · have bound := inv.numbered member old
      omega
  · rw [live, List.pairwise_cons]
    constructor
    · intro earlier member
      constructor
      · rw [number]
        exact inv.numbered earlier member
      · exact (older earlier member).issuedApart clockOk reading
    · exact inv.spaced
  · intro _
    refine ⟨request, lastIssued, ?_, index, deadline, ?_, lastExpired⟩
    · rw [live]
      exact List.mem_cons_self
    · exact clockOk.available_right reading
  · rw [live, clock]
    intro member
    simp only [List.mem_cons]
    rintro (rfl | old) notCurrent
    · exact absurd lastIssued (notCurrent inFlight)
    · exact (older member old).mono
  · intro _ _ _ _
    exact inFlight

omit [NeZero simCount] in
/-- Giving the slot up after a reading at or past the latched deadline. -/
theorem FlightInvariant.expire {system after : IaSystem simCount} (inv : FlightInvariant system)
    (time : Timespec) (inFlight : system.shim.sIaRequestInFlight = true)
    (late : system.shim.sIaInFlightDeadlineNs ≤ timespecToNs time)
    (live : after.live = system.live) (released : after.shim.sIaRequestInFlight = false)
    (issueCount : after.issueCount = system.issueCount) (lastExpired : after.lastExpired = true)
    (clock : after.clock = system.clock ++ [some time]) : FlightInvariant after := by
  rcases inv.awaited inFlight with ⟨current, awaited⟩
  constructor
  · rw [live, issueCount]
    exact inv.numbered
  · rw [live]
    exact inv.spaced
  · rw [released]
    intro held
    contradiction
  · rw [live, clock]
    intro request member _
    -- the awaited request becomes overdue now, all others already are
    by_cases isCurrent : system.lastIssued = some request
    · have same : current = request := Option.some.inj (awaited.last.symm.trans isCurrent)
      rcases awaited.reading with ⟨issued, issuedEq⟩
      rw [awaited.deadline, issuedEq] at late
      rw [same] at issuedEq
      exact ⟨issued, time, issuedEq, by simp, late⟩
    · exact (inv.overdue request member fun _ => isCurrent).mono
  · rw [lastExpired]
    intro _ _ _ unexpired
    contradiction

omit [NeZero simCount] in
/-- Completing a request that the worker is not waiting for. -/
theorem FlightInvariant.completeStale {system after : IaSystem simCount}
    (inv : FlightInvariant system) (request : Request simCount)
    (stale : system.shim.sIaRequestInFlight = true → system.lastIssued ≠ some request)
    (members : ∀ other, other ∈ after.live ↔ other ∈ system.live ∧ other ≠ request)
    (sublist : after.live.Sublist system.live)
    (flight : after.shim.flight = system.shim.flight)
    (issueCount : after.issueCount = system.issueCount)
    (lastIssued : after.lastIssued = system.lastIssued)
    (lastExpired : after.lastExpired = system.lastExpired)
    (clock : after.clock = system.clock) : FlightInvariant after := by
  simp only [IaState.flight, Prod.mk.injEq] at flight
  rcases flight with ⟨inFlight, deadline, index⟩
  constructor
  · rw [issueCount]
    intro other member
    exact inv.numbered other (sublist.subset member)
  · exact inv.spaced.sublist sublist
  · rw [inFlight]
    intro held
    rcases inv.awaited held with ⟨current, awaited⟩
    refine ⟨current, ?_, ?_, ?_, ?_, awaited.reading, ?_⟩
    · rw [lastIssued, awaited.last]
    · rw [members]
      refine ⟨awaited.live, ?_⟩
      rintro rfl
      exact stale held awaited.last
    · rw [index, awaited.index]
    · rw [deadline, awaited.deadline]
    · rw [lastExpired, awaited.unexpired]
  · rw [inFlight, lastIssued, clock]
    intro other member
    exact inv.overdue other (sublist.subset member)
  · rw [inFlight, lastIssued, lastExpired]
    intro other member
    exact inv.unexpired other (sublist.subset member)

omit [NeZero simCount] in
/-- Completing the request that the worker is waiting for hands the slot on. -/
theorem FlightInvariant.completeCurrent {system after : IaSystem simCount}
    (inv : FlightInvariant system) (request : Request simCount)
    (last : system.lastIssued = some request)
    (members : ∀ other, other ∈ after.live ↔ other ∈ system.live ∧ other ≠ request)
    (sublist : after.live.Sublist system.live)
    (released : after.shim.sIaRequestInFlight = false)
    (issueCount : after.issueCount = system.issueCount)
    (lastIssued : after.lastIssued = system.lastIssued)
    (clock : after.clock = system.clock) : FlightInvariant after := by
  have differs : ∀ other ∈ after.live, system.lastIssued ≠ some other := by
    intro other member isLast
    apply ((members other).mp member).2
    exact Option.some.inj (isLast.symm.trans last)
  constructor
  · rw [issueCount]
    intro other member
    exact inv.numbered other (sublist.subset member)
  · exact inv.spaced.sublist sublist
  · rw [released]
    intro held
    contradiction
  · rw [clock]
    intro other member _
    exact inv.overdue other (sublist.subset member) fun _ => differs other member
  · rw [lastIssued]
    intro other member isLast
    exact absurd isLast (differs other member)

omit [NeZero simCount] in
/-- While the slot is taken, the current token index singles out the request that
was issued last. -/
theorem FlightInvariant.token_eq_current_iff {system : IaSystem simCount}
    (inv : FlightInvariant system) (tokens : TokenInvariant system) {request : Request simCount}
    (live : request ∈ system.live) (inFlight : system.shim.sIaRequestInFlight = true) :
    request.token = system.shim.sIaCurrentTokenIndex ↔ system.lastIssued = some request := by
  rcases inv.awaited inFlight with ⟨current, awaited⟩
  constructor
  · intro token
    have same := tokens.eq_of_token live awaited.live (token.trans awaited.index)
    rw [same]
    exact awaited.last
  · intro last
    have same : current = request := Option.some.inj (awaited.last.symm.trans last)
    rw [awaited.index, same]

omit [NeZero simCount] in
theorem flightInvariant_complete {system : IaSystem simCount} (inv : FlightInvariant system)
    (tokens : TokenInvariant system) {request : Request simCount}
    (held : request ∈ system.held) :
    FlightInvariant { system with
      shim := completeReissue system.shim request.token
      held := system.held.erase request } := by
  have live : request ∈ system.live := List.mem_append_right _ held
  have outstanding : system.shim.sIaTokenOutstanding request.token = true :=
    (tokens.outstanding _).mpr (List.mem_map_of_mem live)
  have members := tokens.mem_live_erase held
  have sublist : (system.worker.inTransit ++ system.held.erase request).Sublist system.live :=
    List.Sublist.append_left List.erase_sublist _
  rcases completeReissue_cases outstanding with ⟨inFlight, current, released⟩ | ⟨stale, kept⟩
  · rw [released]
    have last := (inv.token_eq_current_iff tokens live inFlight).mp current
    exact inv.completeCurrent request last members sublist rfl rfl rfl rfl
  · rw [kept]
    have notLast : system.shim.sIaRequestInFlight = true → system.lastIssued ≠ some request := by
      intro inFlight last
      exact stale inFlight ((inv.token_eq_current_iff tokens live inFlight).mpr last)
    exact inv.completeStale request notLast members sublist rfl rfl rfl rfl rfl

theorem flightInvariant_pass {system : IaSystem simCount} (inv : FlightInvariant system)
    (scanning : system.worker = .scanning) {inputs : PassInputs} {result : PassResult simCount}
    (outcome : PassOutcome system.shim inputs result)
    (clock : ClockOk (system.afterPass inputs result).clock) :
    FlightInvariant (system.afterPass inputs result) := by
  cases outcome with
  | released inFlight unset =>
      -- a usable clock always latches a deadline, so the slot is never found without one
      rcases inv.awaited inFlight with ⟨request, awaited⟩
      rcases awaited.reading with ⟨time, reading⟩
      have deadline := awaited.deadline
      rw [unset, reading] at deadline
      simp only [inFlightDeadline, reissueInflightTimeoutNs] at deadline
      omega
  | timedWait _ _ =>
      exact inv.congr [] (afterPass_live scanning inputs (by simp)) rfl rfl rfl rfl rfl
  | wait _ _ =>
      exact inv.congr [] (afterPass_live scanning inputs (by simp)) rfl rfl rfl rfl rfl
  | sleep _ _ _ _ _ _ =>
      exact inv.congr [inputs.now] (afterPass_live scanning inputs (by simp)) rfl rfl rfl rfl rfl
  | rejected socketId _ _ _ =>
      rcases chargeLastIssue_frame { system.shim with
        sIaPending := Function.update system.shim.sIaPending socketId false }
        inputs.lastIssue with ⟨_, _, frame⟩
      rw [frame]
      exact inv.congr [inputs.now, inputs.lastIssue] rfl rfl rfl rfl rfl rfl
  | copyFailed _ _ _ _ =>
      rcases chargeLastIssue_frame system.shim inputs.lastIssue with ⟨_, _, frame⟩
      rw [frame]
      exact inv.congr [inputs.now, inputs.lastIssue] rfl rfl rfl rfl rfl rfl
  | issued socketId token selected _ _ _ =>
      have idle := (selectSocket_spec selected).1
      unfold AttachApn.issue at clock ⊢
      rcases chargeLastIssue_frame _ inputs.lastIssue with ⟨_, _, frame⟩
      rw [frame] at clock ⊢
      apply inv.issue ⟨system.issueCount, token, socketId, system.shim.sIaCache socketId,
        inputs.issuedAt⟩ [inputs.now, inputs.issuedAt, inputs.lastIssue] idle rfl clock
      · simp
      · simp [IaSystem.live, IaSystem.afterPass, scanning, WorkerPhase.inTransit]
      all_goals rfl

omit [NeZero simCount] in
theorem flightInvariant_timedWake {system : IaSystem simCount} (inv : FlightInvariant system)
    (waiting : system.worker = .timedWaiting) (afterWait : Option Timespec)
    (clock : ClockOk (system.clock ++
      if system.shim.sIaRequestInFlight then [afterWait] else [])) :
    FlightInvariant { system with
      shim := afterTimedWait system.shim afterWait
      worker := .scanning
      lastExpired := system.lastExpired || waitExpires system.shim afterWait
      clock := system.clock ++
        if system.shim.sIaRequestInFlight then [afterWait] else [] } := by
  cases inFlight : system.shim.sIaRequestInFlight with
  | false =>
      have notExpired : waitExpires system.shim afterWait = false := by
        simp [waitExpires, inFlight]
      apply inv.congr []
      · simp [IaSystem.live, waiting, WorkerPhase.inTransit]
      · simp [afterTimedWait, notExpired]
      · rfl
      · rfl
      · simp [notExpired]
      · simp
  | true =>
      rw [inFlight, if_pos rfl] at clock
      rcases clock.available_right List.mem_cons_self with ⟨time, rfl⟩
      by_cases late : system.shim.sIaInFlightDeadlineNs ≤ timespecToNs time
      · have expired : waitExpires system.shim (some time) = true := by
          simp [waitExpires, inFlight, late]
        apply inv.expire time inFlight late
        · simp [IaSystem.live, waiting, WorkerPhase.inTransit]
        · simp [afterTimedWait, expired, releaseInFlight]
        · rfl
        · simp [expired]
        · simp
      · have notExpired : waitExpires system.shim (some time) = false := by
          simpa [waitExpires, inFlight] using late
        apply inv.congr [some time]
        · simp [IaSystem.live, waiting, WorkerPhase.inTransit]
        · simp [afterTimedWait, notExpired]
        · rfl
        · rfl
        · simp [notExpired]
        · simp

/-- The log of clock readings only grows. -/
theorem iaStep_clock {hooks : IaHookState} {system after : IaSystem simCount}
    {event : IaEvent simCount} (step : iaStep hooks system event = some after) :
    ∃ more, after.clock = system.clock ++ more := by
  cases iaStep_transition step with
  | dispatch socketId request strdup =>
      rcases dispatched_frame hooks system socketId request strdup with ⟨_, _, _, _, frame⟩
      rw [frame]
      exact ⟨[], (List.append_nil _).symm⟩
  | pass inputs result scanning outcome =>
      refine ⟨result.readings, ?_⟩
      rcases result with ⟨state, exit, readings⟩
      cases exit <;> rfl
  | timedWake afterWait waiting => exact ⟨_, rfl⟩
  | _ => exact ⟨[], (List.append_nil _).symm⟩

theorem flightInvariant_step {hooks : IaHookState} {system after : IaSystem simCount}
    {event : IaEvent simCount} (inv : FlightInvariant system) (tokens : TokenInvariant system)
    (step : iaStep hooks system event = some after) (clock : ClockOk after.clock) :
    FlightInvariant after := by
  cases iaStep_transition step with
  | dispatch socketId request strdup =>
      rcases dispatched_frame hooks system socketId request strdup with ⟨_, _, _, _, frame⟩
      rw [frame]
      exact inv.congr [] rfl rfl rfl rfl rfl (List.append_nil _).symm
  | forward _ _ _ _ => exact inv.congr [] rfl rfl rfl rfl rfl (List.append_nil _).symm
  | indication unsolResponse socketId =>
      rcases noteIndication_frame hooks system.shim unsolResponse socketId with ⟨_, frame⟩
      rw [frame]
      exact inv.congr [] rfl rfl rfl rfl rfl (List.append_nil _).symm
  | complete request held => exact flightInvariant_complete inv tokens held
  | completeForeign _ => exact inv
  | pass inputs result scanning outcome => exact flightInvariant_pass inv scanning outcome clock
  | timedWake afterWait waiting => exact flightInvariant_timedWake inv waiting afterWait clock
  | wake afterWait waiting =>
      have live : system.live = system.held := by
        simp [IaSystem.live, waiting, WorkerPhase.inTransit]
      exact inv.congr [] live.symm rfl rfl rfl rfl (List.append_nil _).symm
  | slept _ _ sleeping =>
      have live : system.live = system.held := by
        simp [IaSystem.live, sleeping, WorkerPhase.inTransit]
      exact inv.congr [] live.symm rfl rfl rfl rfl (List.append_nil _).symm
  | call request calling =>
      have live : system.live = request :: system.held := by
        simp [IaSystem.live, calling, WorkerPhase.inTransit]
      exact inv.congr [] live.symm rfl rfl rfl rfl (List.append_nil _).symm

theorem reachable_flightInvariant {system : IaSystem simCount}
    (reachable : Reachable iaAnyStep (.initial simCount) system)
    (clock : ClockOk system.clock) : FlightInvariant system := by
  rcases reachable with ⟨events, run⟩
  revert clock
  apply run.history (P := fun _ state => ClockOk state.clock → FlightInvariant state)
  · intro _
    exact flightInvariant_initial
  · rintro past state ⟨hooks, event⟩ after earlier ih step clock
    rcases iaStep_clock step with ⟨more, clockEq⟩
    have before : ClockOk state.clock := by
      rw [clockEq] at clock
      exact clock.left
    exact flightInvariant_step (ih before) (reachable_tokenInvariant earlier.reachable) step clock

/-! ## The three guarantees -/

section Guarantees

variable {system : IaSystem simCount}

omit [NeZero simCount]

theorem FlightInvariant.live_spaced (inv : FlightInvariant system) :
    system.live.Pairwise Spaced := by
  apply inv.spaced.imp
  rintro newer older ⟨order, apart⟩
  constructor
  · omega
  constructor
  · intro reversed
    omega
  · intro _
    exact apart

theorem FlightInvariant.deadline (inv : FlightInvariant system)
    (inFlight : system.shim.sIaRequestInFlight = true) :
    ∃ request issuedAt, system.lastIssued = some request ∧ request.issuedAt = some issuedAt ∧
      system.shim.sIaInFlightDeadlineNs = timespecToNs issuedAt + reissueInflightTimeoutNs := by
  rcases inv.awaited inFlight with ⟨request, awaited⟩
  rcases awaited.reading with ⟨issuedAt, reading⟩
  refine ⟨request, issuedAt, awaited.last, reading, ?_⟩
  rw [awaited.deadline, reading]
  rfl

/-- The completion of a held request ends the wait exactly when the worker is
still waiting for that request. -/
theorem FlightInvariant.complete_releases_iff (inv : FlightInvariant system)
    (tokens : TokenInvariant system) {request : Request simCount}
    (held : request ∈ system.held) :
    (system.shim.sIaRequestInFlight = true ∧
        (completeReissue system.shim request.token).sIaRequestInFlight = false) ↔
      system.lastIssued = some request ∧ system.lastExpired = false := by
  have live : request ∈ system.live := List.mem_append_right _ held
  have outstanding : system.shim.sIaTokenOutstanding request.token = true :=
    (tokens.outstanding _).mpr (List.mem_map_of_mem live)
  constructor
  · rintro ⟨inFlight, cleared⟩
    rcases completeReissue_cases outstanding with ⟨_, current, _⟩ | ⟨_, kept⟩
    · rcases inv.awaited inFlight with ⟨_, awaited⟩
      exact ⟨(inv.token_eq_current_iff tokens live inFlight).mp current, awaited.unexpired⟩
    · rw [kept] at cleared
      exact absurd (inFlight.symm.trans cleared) (by decide)
  · rintro ⟨last, unexpired⟩
    have inFlight := inv.unexpired request live last unexpired
    have current := (inv.token_eq_current_iff tokens live inFlight).mpr last
    refine ⟨inFlight, ?_⟩
    rcases completeReissue_cases outstanding with ⟨_, _, released⟩ | ⟨stale, _⟩
    · rw [released]
    · exact absurd current (stale inFlight)

end Guarantees

/-- With a clock that always answers and never goes back: two requests held at the
same time were issued at least a timeout apart, the latched deadline is the one
computed from the issue time of the current request, and a completion frees the
slot exactly when it completes the request issued last before its wait expired. -/
theorem single_flight {system : IaSystem simCount}
    (reachable : Reachable iaAnyStep (.initial simCount) system)
    (clock : ClockOk system.clock) :
    (∀ first ∈ system.held, ∀ second ∈ system.held, first ≠ second → Spaced first second) ∧
    (system.shim.sIaRequestInFlight = true →
      ∃ request issuedAt, system.lastIssued = some request ∧ request.issuedAt = some issuedAt ∧
        system.shim.sIaInFlightDeadlineNs =
          timespecToNs issuedAt + reissueInflightTimeoutNs) ∧
    ∀ hooks request after, iaStep hooks system (.complete request) = some after →
      ((system.shim.sIaRequestInFlight = true ∧ after.shim.sIaRequestInFlight = false) ↔
        system.lastIssued = some request ∧ system.lastExpired = false) := by
  have inv := reachable_flightInvariant reachable clock
  have tokens := reachable_tokenInvariant reachable
  refine ⟨?_, inv.deadline, ?_⟩
  · intro first firstHeld second secondHeld differs
    exact inv.live_spaced.forall (List.mem_append_right _ firstHeld)
      (List.mem_append_right _ secondHeld) differs
  · intro hooks request after step
    cases iaStep_transition step with
    | complete request held => exact inv.complete_releases_iff tokens held

theorem single_flight_overlapping :
    ∃ system : IaSystem 2, Reachable iaAnyStep (.initial 2) system ∧ ClockOk system.clock ∧
      system.held.length = 2 ∧ system.shim.sIaRequestInFlight = true ∧
      ∀ first ∈ system.held, ∀ second ∈ system.held, first ≠ second → Spaced first second := by
  have enabled : (exec iaAnyStep (IaSystem.initial 2)
      (overlappingReplays.map (Prod.mk .active))).isSome := rfl
  have run := runs_get enabled
  have clock : ClockOk ([1, 1, 1, 11, 12, 12, 12].map fun seconds => some ⟨seconds, 0⟩) := by
    constructor <;> simp [timespecToNs]
  exact ⟨_, run.reachable, clock, rfl, rfl, (single_flight run.reachable clock).1⟩

end K50sv1.RilShim.AttachApn
