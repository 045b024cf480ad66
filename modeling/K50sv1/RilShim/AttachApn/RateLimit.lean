import K50sv1.RilShim.AttachApn.Pending
import K50sv1.RilShim.AttachApn.SingleFlight
import Mathlib.Data.List.Chain

/-!
# Every attempt is charged to the rate limiter

The worker attempts a socket when it issues on it, rejects it for want of a token or
fails to copy its payload.  Each of these exits stores a fresh clock reading in
`sIaLastIssue` before `sIaLock` is released, and the next attempt is let through only
by a reading at least `REISSUE_MIN_INTERVAL_NS` later.  A pass that is not let through
sleeps past the reading it was refused with, so that neither attempts nor refusals can
follow each other without time going by.
-/

namespace K50sv1.RilShim.AttachApn

open K50sv1.Transition

variable {simCount : Nat} [NeZero simCount]

/-! ## Attempts of a run -/

/-- The time of an attempt is the one it stores in `sIaLastIssue`. -/
def attemptTime (system : IaSystem simCount) (event : IaHookState × IaEvent simCount)
    (after : IaSystem simCount) : Option Nat :=
  (attemptedSocket system event.2).map fun _ => timespecToNs after.shim.sIaLastIssue

/-- The times of all attempts of a run, oldest first. -/
def attemptTimes (events : List (IaHookState × IaEvent simCount)) : List Nat :=
  observations iaAnyStep attemptTime (.initial simCount) events

/-- `later` is at least an interval after `earlier`. -/
def SpacedTimes (earlier later : Nat) : Prop :=
  earlier + reissueMinIntervalNs ≤ later

/-- A number of spaced times takes as many intervals. -/
theorem spread_of_isChain {times : List Nat} (spaced : times.IsChain SpacedTimes)
    {first last : Nat} (head : times.head? = some first) (final : times.getLast? = some last) :
    first + (times.length - 1) * reissueMinIntervalNs ≤ last := by
  induction times generalizing first with
  | nil => cases head
  | cons time rest ih =>
      obtain rfl : time = first := Option.some.inj head
      cases rest with
      | nil =>
          obtain rfl : time = last := Option.some.inj final
          simp
      | cons second rest =>
          obtain ⟨apart, others⟩ := List.isChain_cons_cons.mp spaced
          have remaining := ih others rfl (by rwa [List.getLast?_cons_cons] at final)
          simp only [List.length_cons, Nat.add_sub_cancel, SpacedTimes] at remaining apart ⊢
          rw [Nat.add_mul]
          omega

/-! ## What a step does to the limiter -/

/-- What the rate limiter decides by. -/
def IaState.limiter (state : IaState simCount) : Bool × Timespec :=
  (state.sIaLastIssueValid, state.sIaLastIssue)

/-- An attempt is let through by one reading and charged with a later one. -/
structure Charged (system after : IaSystem simCount) (now last : Option Timespec) : Prop where
  allowed : rateLimit system.shim now = (false, 0)
  limiter : after.shim.limiter = (chargeLastIssue system.shim last).limiter
  clock : ∃ between, after.clock = system.clock ++ now :: (between ++ [last])

/-- A pass that attempts a socket is charged, any other leaves the limiter alone. -/
theorem pass_limiter {system : IaSystem simCount} {inputs : PassInputs}
    {result : PassResult simCount} (outcome : PassOutcome system.shim inputs result) :
    (result.exit.attempted = none ∧
        (system.afterPass inputs result).shim.limiter = system.shim.limiter) ∨
      (∃ socket, result.exit.attempted = some socket ∧
        Charged system (system.afterPass inputs result) inputs.now inputs.lastIssue) := by
  cases outcome with
  | released | timedWait | wait | sleep => exact .inl ⟨rfl, rfl⟩
  | rejected socketId _ allowed _ =>
      refine .inr ⟨socketId, rfl, allowed, ?_, [], rfl⟩
      cases inputs.lastIssue <;> rfl
  | copyFailed socketId _ allowed _ =>
      exact .inr ⟨socketId, rfl, allowed, rfl, [], rfl⟩
  | issued socketId token _ allowed _ _ =>
      refine .inr ⟨socketId, rfl, allowed, ?_, [inputs.issuedAt], rfl⟩
      cases last : inputs.lastIssue <;>
        simp [IaSystem.afterPass, issue, last, chargeLastIssue, IaState.limiter]

theorem iaStep_limiter {hooks : IaHookState} {system after : IaSystem simCount}
    {event : IaEvent simCount} (step : iaStep hooks system event = some after) :
    (attemptedSocket system event = none ∧ after.shim.limiter = system.shim.limiter) ∨
      (∃ socket now last, attemptedSocket system event = some socket ∧
        Charged system after now last) := by
  cases iaStep_transition step with
  | dispatch socketId request strdup =>
      rcases dispatched_frame hooks system socketId request strdup with ⟨_, _, _, _, frame⟩
      rw [frame]
      exact .inl ⟨rfl, rfl⟩
  | indication unsolResponse socketId =>
      rcases noteIndication_frame hooks system.shim unsolResponse socketId with ⟨_, frame⟩
      rw [frame]
      exact .inl ⟨rfl, rfl⟩
  | pass inputs result scanning outcome computed =>
      have attempted : attemptedSocket system (.workerPass inputs) = result.exit.attempted := by
        simp only [attemptedSocket, passExit, scanning, computed, Option.bind_some]
      rw [attempted]
      rcases pass_limiter outcome with same | ⟨socket, attempts, charged⟩
      · exact .inl same
      · exact .inr ⟨socket, inputs.now, inputs.lastIssue, attempts, charged⟩
  | timedWake afterWait waiting =>
      rcases afterTimedWait_frame system.shim afterWait with ⟨_, _, frame⟩
      rw [frame]
      exact .inl ⟨rfl, rfl⟩
  | _ => exact .inl ⟨rfl, rfl⟩

omit [NeZero simCount] in
/-- With a usable clock the limiter holds the reading of the attempt. -/
theorem Charged.stored {system after : IaSystem simCount} {now last : Option Timespec}
    (charged : Charged system after now last) (clock : ClockOk after.clock) :
    after.shim.sIaLastIssueValid = true ∧ last = some after.shim.sIaLastIssue := by
  obtain ⟨between, log⟩ := charged.clock
  rw [log] at clock
  have member : last ∈ now :: (between ++ [last]) := by simp
  obtain ⟨time, rfl⟩ := clock.available_right member
  have limiter : (after.shim.sIaLastIssueValid, after.shim.sIaLastIssue) = (true, time) :=
    charged.limiter
  obtain ⟨valid, stored⟩ := Prod.mk.inj limiter
  exact ⟨valid, by rw [stored]⟩

omit [NeZero simCount] in
/-- A limiter that has been charged before keeps the next attempt away. -/
theorem Charged.spaced {system after : IaSystem simCount} {now last : Option Timespec}
    (charged : Charged system after now last) (clock : ClockOk after.clock)
    (valid : system.shim.sIaLastIssueValid = true) :
    SpacedTimes (timespecToNs system.shim.sIaLastIssue)
      (timespecToNs after.shim.sIaLastIssue) := by
  obtain ⟨-, rfl⟩ := charged.stored clock
  obtain ⟨between, log⟩ := charged.clock
  rw [log, ← List.singleton_append, ← List.append_assoc] at clock
  obtain ⟨time, rfl⟩ := clock.left.available_right (List.mem_singleton_self now)
  have allowed := charged.allowed
  simp only [rateLimit, valid, if_true] at allowed
  have waited : timespecToNs system.shim.sIaLastIssue + reissueMinIntervalNs ≤
      timespecToNs time := by
    split at allowed
    · rename_i early
      have := congrArg Prod.snd allowed
      dsimp only at this
      omega
    · omega
  exact waited.trans (clock.le (by simp) (by simp))

/-! ## Runs -/

/-- The attempts so far are spaced, and the limiter holds the last of them. -/
structure RateInvariant (past : List (IaHookState × IaEvent simCount))
    (system : IaSystem simCount) : Prop where
  spaced : (attemptTimes past).IsChain SpacedTimes
  last : ∀ time ∈ (attemptTimes past).getLast?,
    system.shim.sIaLastIssueValid = true ∧ time = timespecToNs system.shim.sIaLastIssue

theorem rateInvariant_step {past : List (IaHookState × IaEvent simCount)}
    {event : IaHookState × IaEvent simCount} {system after : IaSystem simCount}
    (run : Runs iaAnyStep (.initial simCount) past system) (inv : RateInvariant past system)
    (step : iaAnyStep system event = some after) (clock : ClockOk after.clock) :
    RateInvariant (past ++ [event]) after := by
  have times : attemptTimes (past ++ [event]) =
      attemptTimes past ++ (attemptTime system event after).toList :=
    run.observations_concat attemptTime step
  rcases iaStep_limiter step with ⟨none, same⟩ | ⟨socket, now, last, attempts, charged⟩
  · obtain ⟨valid, stored⟩ := Prod.mk.inj same
    have unchanged : attemptTimes (past ++ [event]) = attemptTimes past := by
      rw [times, attemptTime, none, Option.map_none, Option.toList_none, List.append_nil]
    constructor
    · rw [unchanged]
      exact inv.spaced
    · rw [unchanged, valid, stored]
      exact inv.last
  · have extended : attemptTimes (past ++ [event]) =
        attemptTimes past ++ [timespecToNs after.shim.sIaLastIssue] := by
      rw [times, attemptTime, attempts, Option.map_some, Option.toList_some]
    constructor
    · rw [extended]
      refine inv.spaced.append (List.isChain_singleton _) ?_
      intro earlier isLast later isNext
      obtain ⟨valid, rfl⟩ := inv.last earlier isLast
      obtain rfl : timespecToNs after.shim.sIaLastIssue = later := Option.some.inj isNext
      exact charged.spaced clock valid
    · rw [extended, List.getLast?_concat]
      rintro time ⟨⟩
      exact ⟨(charged.stored clock).1, rfl⟩

theorem runs_rateInvariant {events : List (IaHookState × IaEvent simCount)}
    {system : IaSystem simCount} (run : Runs iaAnyStep (.initial simCount) events system)
    (clock : ClockOk system.clock) : RateInvariant events system := by
  revert clock
  apply run.history (P := fun past state => ClockOk state.clock → RateInvariant past state)
  · intro _
    exact ⟨List.isChain_nil, fun time member => by cases member⟩
  · intro past state event after earlier ih step clock
    obtain ⟨more, log⟩ := iaStep_clock step
    have before : ClockOk state.clock := by
      rw [log] at clock
      exact clock.left
    exact rateInvariant_step earlier (ih before) step clock

/-- How a locked pass of the worker can end while the clock is usable. -/
inductive Paced (system : IaSystem simCount) (inputs : PassInputs) (after : IaSystem simCount) :
    Prop where
  /-- An attempt, at the reading that it stores. -/
  | attempted (socket : Fin simCount)
      (attempts : attemptedSocket system (.workerPass inputs) = some socket)
      (valid : after.shim.sIaLastIssueValid = true)
      (stored : inputs.lastIssue = some after.shim.sIaLastIssue)
  /-- No attempt, and a sleep past the reading of the pass. -/
  | slept (now : Timespec) (waitUntilNs : Nat)
      (none : attemptedSocket system (.workerPass inputs) = none)
      (reading : inputs.now = some now)
      (sleeping : after.worker = .sleeping false waitUntilNs)
      (later : timespecToNs now < waitUntilNs)
  /-- The inner loop waits for a signal or for its deadline; the pass goes on. -/
  | blocked (none : attemptedSocket system (.workerPass inputs) = none)
      (waits : after.worker = .timedWaiting ∨ after.worker = .waiting)

theorem workerPass_paced {hooks : IaHookState} {system after : IaSystem simCount}
    {inputs : PassInputs} (flight : FlightInvariant system)
    (step : iaStep hooks system (.workerPass inputs) = some after)
    (clock : ClockOk after.clock) : Paced system inputs after := by
  cases iaStep_transition step with
  | pass _ result scanning outcome computed =>
  have attempted : attemptedSocket system (.workerPass inputs) = result.exit.attempted := by
    simp only [attemptedSocket, passExit, scanning, computed, Option.bind_some]
  have charges := pass_limiter outcome
  have charged : ∀ socket, result.exit.attempted = some socket →
      Paced system inputs (system.afterPass inputs result) := by
    intro socket attempts
    rcases charges with ⟨none, -⟩ | ⟨-, -, charged⟩
    · rw [none] at attempts
      cases attempts
    · obtain ⟨valid, stored⟩ := charged.stored clock
      exact .attempted socket (attempted.trans attempts) valid stored
  cases outcome with
  | released inFlight unset =>
      -- a usable clock always latches a deadline
      obtain ⟨request, issuedAt, -, -, deadline⟩ := flight.deadline inFlight
      rw [unset, reissueInflightTimeoutNs] at deadline
      omega
  | timedWait => exact .blocked attempted (.inl rfl)
  | wait => exact .blocked attempted (.inr rfl)
  | sleep socketId relativeSleep waitUntilNs _ limited pause =>
      have usable : ClockOk (system.clock ++ [inputs.now]) := clock
      obtain ⟨now, reading⟩ := usable.available_right (List.mem_singleton_self inputs.now)
      rw [reading] at limited
      simp only [rateLimit] at limited
      split_ifs at limited with valid early
      · obtain ⟨rfl, rfl⟩ := Prod.mk.inj limited
        exact .slept now _ attempted reading rfl early
      · obtain ⟨rfl, rfl⟩ := Prod.mk.inj limited
        simp at pause
      · obtain ⟨rfl, rfl⟩ := Prod.mk.inj limited
        simp at pause
  | rejected socketId => exact charged socketId rfl
  | copyFailed socketId => exact charged socketId rfl
  | issued socketId => exact charged socketId rfl

/-- With a clock that always answers and never goes back, consecutive attempts are at
least an interval apart, so that a number of them takes as many intervals; and every
pass of the worker attempts a socket, sleeps past the reading it took, or waits. -/
theorem replay_rate_limited {events : List (IaHookState × IaEvent simCount)}
    {system : IaSystem simCount} (run : Runs iaAnyStep (.initial simCount) events system)
    (clock : ClockOk system.clock) :
    (attemptTimes events).IsChain
        (fun earlier later => earlier + reissueMinIntervalNs ≤ later) ∧
      (∀ first last, (attemptTimes events).head? = some first →
        (attemptTimes events).getLast? = some last →
        first + ((attemptTimes events).length - 1) * reissueMinIntervalNs ≤ last) ∧
      ∀ hooks inputs after, iaStep hooks system (.workerPass inputs) = some after →
        ClockOk after.clock → Paced system inputs after := by
  have inv := runs_rateInvariant run clock
  refine ⟨inv.spaced, fun first last => spread_of_isChain inv.spaced, ?_⟩
  intro hooks inputs after step usable
  exact workerPass_paced (reachable_flightInvariant run.reachable clock) step usable

theorem replay_rate_limited_overlapping :
    ∃ system : IaSystem 2,
      Runs iaAnyStep (.initial 2) (overlappingReplays.map (Prod.mk .active)) system ∧
      attemptTimes (overlappingReplays.map (Prod.mk .active)) = [1000000000, 12000000000] ∧
      (attemptTimes (overlappingReplays.map (Prod.mk .active))).IsChain
        (fun earlier later => earlier + reissueMinIntervalNs ≤ later) := by
  have enabled : (exec iaAnyStep (IaSystem.initial 2)
      (overlappingReplays.map (Prod.mk .active))).isSome := rfl
  have run := runs_get enabled
  have clock : ClockOk ([1, 1, 1, 11, 12, 12, 12].map fun seconds => some ⟨seconds, 0⟩) := by
    constructor <;> simp [timespecToNs]
  exact ⟨_, run, rfl, (replay_rate_limited run clock).1⟩

end K50sv1.RilShim.AttachApn
