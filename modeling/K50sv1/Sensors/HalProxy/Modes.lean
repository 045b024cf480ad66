import K50sv1.Sensors.SubHal.Tracking
import K50sv1.Sensors.Routing

/-!
# One operation mode for all sub-HALs

The proxy keeps one `mCurrentOperationMode` and decides by it whether data may be injected,
but each sub-HAL has a mode of its own and each board may refuse to change it.
`setOperationMode` is a transaction over the sub-HALs: if one refuses, those already
flipped are set back, and what they answer is not looked at.  `initialize` sets every
sub-HAL to `NORMAL` and gives up at the first that fails.

The sub-HALs are those of `K50sv1.Sensors.SubHal`, each over a board of its own, and the
calls come one after the other.
-/

namespace K50sv1.Sensors.HalProxy.Modes

open K50sv1.Transition K50sv1.Sensors.SubHal

/-! ## Sub-HALs and their boards -/

/-- An entry of `mSubHalList` and the board under it. -/
structure Board where
  device : Device
  subHal : SubHalState
  backend : Backend

namespace Board

def initial (device : Device) : Board where
  device
  subHal := .initial
  backend := .initial

def call (board : Board) (call : SubHalCall) : Board where
  device := board.device
  subHal := call.state board.device board.subHal
  backend := (call.trace board.device board.subHal).foldl Backend.after board.backend

def setOperationMode (board : Board) (mode : OperationMode) (status : Status) : Result × Board :=
  ((setOperationModeLocked board.device board.subHal mode status).1,
    board.call (.setOperationMode mode status))

def initializeSubHal (board : Board) (answers : InitializeAnswers) : Result × Board :=
  ((SubHal.initializeSubHal board.device board.subHal true answers).1,
    board.call (.initializeSubHal true answers))

end Board

/-! ## The proxy -/

/-- A loop over `mSubHalList` that ends at the first sub-HAL that fails: the last result and
the index at which the loop ended. -/
def untilFailure (call : Nat → Board → Result × Board) :
    Nat → List Board → (Result × Nat) × List Board
  | subHalIndex, [] => ((.ok, subHalIndex), [])
  | subHalIndex, board :: rest =>
      if (call subHalIndex board).1 ≠ .ok then
        (((call subHalIndex board).1, subHalIndex), (call subHalIndex board).2 :: rest)
      else
        ((untilFailure call (subHalIndex + 1) rest).1,
          (call subHalIndex board).2 :: (untilFailure call (subHalIndex + 1) rest).2)

/-- The loop that sets the first sub-HALs back, and what they answer. -/
def setBack (mode : OperationMode) (status : Nat → Status) :
    Nat → Nat → List Board → List Result × List Board
  | 0, _, boards => ([], boards)
  | _ + 1, _, [] => ([], [])
  | flipped + 1, i, board :: rest =>
      ((board.setOperationMode mode (status i)).1 :: (setBack mode status flipped (i + 1) rest).1,
        (board.setOperationMode mode (status i)).2 ::
          (setBack mode status flipped (i + 1) rest).2)

/-- How a call ended that reached the sub-HALs. -/
inductive Outcome where
  | initialized (result : Result)
  /-- `resets` is what the sub-HALs answered that were set back. -/
  | modeSet (result : Result) (resets : List Result)
  deriving DecidableEq, Repr

structure ModeState where
  mSubHalList : List Board
  mCurrentOperationMode : OperationMode
  outcomes : List Outcome

namespace ModeState

def initial (devices : List Device) : ModeState where
  mSubHalList := devices.map .initial
  mCurrentOperationMode := .normal
  outcomes := []

/-- `HalProxy::setOperationMode`; `first` and `second` are what the boards answer in the two
loops. -/
def setOperationMode (state : ModeState) (mode : OperationMode) (first second : Nat → Status) :
    (Result × List Result) × ModeState :=
  let flipped := untilFailure (fun subHalIndex board =>
    board.setOperationMode mode (first subHalIndex)) 0 state.mSubHalList
  let result := flipped.1.1
  if result ≠ .ok then
    let reset := setBack state.mCurrentOperationMode second flipped.1.2 0 flipped.2
    ((result, reset.1),
      { state with
        mSubHalList := reset.2
        outcomes := state.outcomes ++ [.modeSet result reset.1] })
  else
    ((result, []),
      { mSubHalList := flipped.2
        mCurrentOperationMode := mode
        outcomes := state.outcomes ++ [.modeSet result []] })

/-- `HalProxy::initialize` from the loop over the sub-HALs on. -/
def initializeSubHals (state : ModeState) (answers : Nat → InitializeAnswers) : ModeState :=
  let loop := untilFailure (fun i board => board.initializeSubHal (answers i)) 0 state.mSubHalList
  let result := loop.1.1
  { mSubHalList := loop.2
    mCurrentOperationMode := if result ≠ .ok then state.mCurrentOperationMode else .normal
    outcomes := state.outcomes ++ [.initialized result] }

/-- `HalProxy::injectSensorData`: the result, and the board with the calls made of it. -/
def injectSensorData (state : ModeState) (hasInjection : Bool) (event : Event Sample)
    (status : Status) : Result × Option (Board × Trace) :=
  if state.mCurrentOperationMode = .normal ∧ event.payload.sensorType ≠ additionalInfo then
    (.badValue, none)
  else
    match state.mSubHalList[extractSubHalIndex event.sensorHandle]? with
    | none => (.badValue, none)
    | some board =>
        let (result, trace) := SubHal.injectSensorData board.device hasInjection
          { event with sensorHandle := clearSubHalIndex event.sensorHandle } status
        (result, some (board, trace))

end ModeState

/-- The calls that the proxy passes on to one sub-HAL leave its mode alone. -/
def passedOn : SubHalCall → Bool
  | .activate .. => true
  | .registerDirectChannel .. => true
  | .unregisterDirectChannel .. => true
  | .initializeSubHal .. => false
  | .setOperationMode .. => false

inductive ModeEvent where
  | pass (subHalIndex : Nat) (call : SubHalCall)
  /-- With queues or a callback that are not valid `initialize` does not get to the sub-HALs. -/
  | initializeSubHals (answers : Nat → InitializeAnswers)
  | setOperationMode (mode : OperationMode) (first second : Nat → Status)

def modeStep : Step ModeEvent ModeState
  | state, .pass subHalIndex call =>
      if passedOn call then
        some { state with
          mSubHalList := state.mSubHalList.mapIdx fun i board =>
            if i = subHalIndex then board.call call else board }
      else
        none
  | state, .initializeSubHals answers => some (state.initializeSubHals answers)
  | state, .setOperationMode mode first second =>
      some (state.setOperationMode mode first second).2

/-! ## When the modes are known -/

/-- A call that succeeds settles all modes; a failed `initialize` or a sub-HAL that could not
be set back leaves them unknown. -/
def settledAfter (settled : Bool) : Outcome → Bool
  | .initialized result => result = .ok
  | .modeSet result resets => result = .ok || (settled && resets.all (· = .ok))

def ModeState.settled (state : ModeState) : Bool :=
  state.outcomes.foldl settledAfter true

/-! ## One sub-HAL -/

namespace Board

variable {board : Board} {mode : OperationMode}

def Exact (board : Board) : Prop :=
  SubHal.Exact board.device board.subHal board.backend

theorem Exact.call (exact : board.Exact) (call : SubHalCall) : (board.call call).Exact := by
  have before : SubHal.Exact board.device (Tracked.mk board.subHal board.backend).subHal
      (Tracked.mk board.subHal board.backend).backend := exact
  exact exact_step before rfl

/-- The adapter and its board in a mode, and otherwise unchanged. -/
def inMode (board : Board) (mode : OperationMode) : Board :=
  { board with
    subHal := { board.subHal with mCurrentOperationMode := mode }
    backend := { board.backend with mode } }

theorem inMode_eq_self (exact : board.Exact) (current : board.subHal.mCurrentOperationMode = mode) :
    board.inMode mode = board := by
  have same : board.backend.mode = mode := exact.mode.symm.trans current
  calc
    _ = { board with
          subHal := { board.subHal with
            mCurrentOperationMode := board.subHal.mCurrentOperationMode }
          backend := { board.backend with mode := board.backend.mode } } := by
      rw [inMode, current, same]
    _ = board := rfl

theorem inMode_inMode (other : OperationMode) :
    (board.inMode other).inMode mode = board.inMode mode :=
  rfl

/-- The mode is changed and nothing else, or nothing at all. -/
theorem setOperationMode_eq (exact : board.Exact) (mode : OperationMode) (status : Status) :
    (board.setOperationMode mode status).2 =
      if (board.setOperationMode mode status).1 = .ok then board.inMode mode else board := by
  unfold setOperationMode Board.call SubHalCall.state SubHalCall.trace
  dsimp only
  rcases setOperationModeLocked_cases board.device board.subHal mode status with
    ⟨none, same, known⟩ | ⟨-, -, one, called⟩
  · rw [same, none]
    split_ifs with succeeded
    · exact (inMode_eq_self exact (known.mp succeeded).2.symm).symm
    · rfl
  · rw [called, one, List.foldl_cons, List.foldl_nil, Backend.after]
    by_cases succeeded : status = 0
    · rw [if_pos succeeded, if_pos succeeded,
        if_pos ((resultFromStatus_eq_ok_iff _).mpr succeeded)]
      rfl
    · rw [if_neg succeeded, if_neg succeeded,
        if_neg fun ok => succeeded ((resultFromStatus_eq_ok_iff _).mp ok)]

theorem mode_of_initializeSubHal (exact : board.Exact) {answers : InitializeAnswers}
    (succeeded : (board.initializeSubHal answers).1 = .ok) :
    (board.initializeSubHal answers).2.subHal.mCurrentOperationMode = .normal := by
  have ready : board.device.isReady = true := by
    by_contra unready
    have refused : board.device.isReady = false ∨ true = false := .inl (by simpa using unready)
    obtain ⟨result, failed, called⟩ := initializeSubHal_refused refused board.subHal answers
    rw [initializeSubHal, called] at succeeded
    exact failed succeeded
  exact ((newSession exact ready rfl).fresh succeeded).2.2.2

theorem mode_of_passedOn {call : SubHalCall} (passed : passedOn call = true) :
    (board.call call).subHal.mCurrentOperationMode = board.subHal.mCurrentOperationMode := by
  unfold Board.call
  cases call with
  | initializeSubHal callback answers => cases passed
  | setOperationMode mode status => cases passed
  | activate handle enabled status now =>
      rcases activate_cases board.device board.subHal handle enabled status now with
        ⟨-, same, -⟩ | ⟨-, -, called⟩
      · rw [SubHalCall.state, same]
      · rw [SubHalCall.state, called]
        dsimp only
        split_ifs <;> rfl
  | registerDirectChannel valid answer =>
      rcases registerDirectChannel_cases board.device board.subHal valid answer with
        ⟨-, same⟩ | ⟨-, called⟩
      · rw [SubHalCall.state, same]
      · rw [SubHalCall.state, called]
        split_ifs <;> rfl
  | unregisterDirectChannel channel status =>
      rcases unregisterDirectChannel_cases board.device board.subHal channel status with
        ⟨-, same⟩ | ⟨-, called⟩
      · rw [SubHalCall.state, same]
      · rw [SubHalCall.state, called]
        split_ifs <;> rfl

end Board

/-! ## The loops -/

section Loops

variable (call : Nat → Board → Result × Board) {Q : Board → Prop}

theorem forall_untilFailure (kept : ∀ subHalIndex board, Q board → Q (call subHalIndex board).2)
    {boards : List Board} (all : ∀ board ∈ boards, Q board) (start : Nat) :
    ∀ board ∈ (untilFailure call start boards).2, Q board := by
  induction boards generalizing start with
  | nil => exact all
  | cons first rest ih =>
      obtain ⟨ofFirst, ofRest⟩ := List.forall_mem_cons.mp all
      unfold untilFailure
      split_ifs
      · exact List.forall_mem_cons.mpr ⟨kept start first ofFirst, ofRest⟩
      · exact List.forall_mem_cons.mpr ⟨kept start first ofFirst, ih ofRest (start + 1)⟩

/-- A loop that succeeds has succeeded with every sub-HAL. -/
theorem forall_of_untilFailure_ok {call : Nat → Board → Result × Board}
    {P : Board → Prop}
    (reached : ∀ subHalIndex, ∀ board, Q board → (call subHalIndex board).1 = .ok →
      P (call subHalIndex board).2)
    {boards : List Board} (all : ∀ board ∈ boards, Q board) {start : Nat}
    (succeeded : (untilFailure call start boards).1.1 = .ok) :
    ∀ board ∈ (untilFailure call start boards).2, P board := by
  induction boards generalizing start with
  | nil => simp [untilFailure]
  | cons first rest ih =>
      obtain ⟨ofFirst, ofRest⟩ := List.forall_mem_cons.mp all
      unfold untilFailure at succeeded ⊢
      split_ifs at succeeded ⊢ with failed
      · exact absurd succeeded failed
      · exact List.forall_mem_cons.mpr
          ⟨reached start first ofFirst (not_not.mp failed), ih ofRest succeeded⟩

theorem forall_setBack {mode : OperationMode} {status : Nat → Status}
    (kept : ∀ board status, Q board → Q (board.setOperationMode mode status).2)
    (flipped start : Nat) {boards : List Board} (all : ∀ board ∈ boards, Q board) :
    ∀ board ∈ (setBack mode status flipped start boards).2, Q board := by
  induction boards generalizing flipped start with
  | nil => cases flipped <;> exact all
  | cons first rest ih =>
      cases flipped with
      | zero => exact all
      | succ flipped =>
          obtain ⟨ofFirst, ofRest⟩ := List.forall_mem_cons.mp all
          exact List.forall_mem_cons.mpr ⟨kept first _ ofFirst, ih flipped (start + 1) ofRest⟩

end Loops

theorem le_untilFailure (call : Nat → Board → Result × Board) (start : Nat)
    (boards : List Board) : start ≤ (untilFailure call start boards).1.2 := by
  induction boards generalizing start with
  | nil => exact Nat.le_refl start
  | cons first rest ih =>
      unfold untilFailure
      split_ifs
      · exact Nat.le_refl start
      · exact Nat.le_of_succ_le (ih (start + 1))

/-- Flipping up to the first failure and setting back what was flipped is no change at all,
provided that every sub-HAL lets itself be set back. -/
theorem setBack_untilFailure {current : OperationMode} (mode : OperationMode)
    (first second : Nat → Status) {boards : List Board} (start : Nat)
    (known : ∀ board ∈ boards, board.Exact ∧ board.subHal.mCurrentOperationMode = current) :
    let flipped := untilFailure (fun i board => board.setOperationMode mode (first i)) start boards
    let reset := setBack current second (flipped.1.2 - start) start flipped.2
    flipped.1.1 ≠ .ok → (∀ result ∈ reset.1, result = .ok) → reset.2 = boards := by
  induction boards generalizing start with
  | nil => simp [untilFailure]
  | cons board rest ih =>
      obtain ⟨⟨exact, isCurrent⟩, ofRest⟩ := List.forall_mem_cons.mp known
      have changed := Board.setOperationMode_eq exact mode (first start)
      unfold untilFailure
      split_ifs with refused
      · -- the first that refuses has not changed and none is set back
        rw [if_neg refused] at changed
        dsimp only
        rw [Nat.sub_self, setBack, changed]
        exact fun _ _ => rfl
      · rw [if_pos (not_not.mp refused)] at changed
        have position := le_untilFailure
          (fun i board => board.setOperationMode mode (first i)) (start + 1) rest
        obtain ⟨count, counted⟩ := Nat.exists_eq_add_of_le position
        have ih := ih (start + 1) ofRest
        dsimp only at ih ⊢
        rw [counted, Nat.add_sub_cancel_left] at ih
        rw [counted, Nat.add_right_comm, Nat.add_assoc start, Nat.add_sub_cancel_left, setBack,
          changed]
        intro failed answers
        obtain ⟨ofFirst, ofOthers⟩ := List.forall_mem_cons.mp answers
        have flipped : (board.inMode mode).Exact := changed ▸ Board.Exact.call exact _
        have back := Board.setOperationMode_eq flipped current (second start)
        rw [if_pos ofFirst, Board.inMode_inMode, Board.inMode_eq_self exact isCurrent] at back
        rw [back, ih failed ofOthers]

/-! ## Runs -/

/-- Every adapter knows its board, and as long as the modes are settled they are the mode of
the proxy. -/
structure Agreeing (state : ModeState) : Prop where
  exact : ∀ board ∈ state.mSubHalList, board.Exact
  agreed : state.settled = true → ∀ board ∈ state.mSubHalList,
    board.subHal.mCurrentOperationMode = state.mCurrentOperationMode

variable {state : ModeState}

theorem settled_concat (outcomes : List Outcome) (outcome : Outcome) :
    (outcomes ++ [outcome]).foldl settledAfter true =
      settledAfter (outcomes.foldl settledAfter true) outcome := by
  simp

theorem agreeing_initial (devices : List Device) : Agreeing (.initial devices) where
  exact := by
    intro board member
    obtain ⟨device, -, rfl⟩ := List.mem_map.mp member
    exact exact_initial device
  agreed := by
    intro _ board member
    obtain ⟨device, -, rfl⟩ := List.mem_map.mp member
    rfl

theorem Agreeing.known (agreeing : Agreeing state) (settled : state.settled = true) :
    ∀ board ∈ state.mSubHalList,
      board.Exact ∧ board.subHal.mCurrentOperationMode = state.mCurrentOperationMode :=
  fun board member => ⟨agreeing.exact board member, agreeing.agreed settled board member⟩

/-- A refused change of mode changes nothing if all that were flipped can be set back. -/
theorem Agreeing.refused (agreeing : Agreeing state) (settled : state.settled = true)
    (mode : OperationMode) (first second : Nat → Status)
    (failed : (state.setOperationMode mode first second).1.1 ≠ .ok)
    (restored : ∀ result ∈ (state.setOperationMode mode first second).1.2, result = .ok) :
    (state.setOperationMode mode first second).2.mSubHalList = state.mSubHalList ∧
      (state.setOperationMode mode first second).2.mCurrentOperationMode =
        state.mCurrentOperationMode := by
  have unchanged := setBack_untilFailure mode first second 0 (agreeing.known settled)
  unfold ModeState.setOperationMode at failed restored ⊢
  dsimp only at failed restored unchanged ⊢
  split_ifs at failed restored ⊢ with refused
  · exact ⟨unchanged refused restored, rfl⟩
  · exact absurd (not_not.mp refused) failed

theorem Agreeing.setOperationMode (agreeing : Agreeing state) (mode : OperationMode)
    (first second : Nat → Status) :
    Agreeing (state.setOperationMode mode first second).2 := by
  have flippedExact := forall_untilFailure
    (fun i board => board.setOperationMode mode (first i))
    (fun i board exact => Board.Exact.call exact _) agreeing.exact 0
  have refused := fun settled => agreeing.refused settled mode first second
  unfold ModeState.setOperationMode at refused ⊢
  dsimp only at refused ⊢
  split_ifs at refused ⊢ with failed
  · refine ⟨forall_setBack (fun board status exact => exact.call _) _ _ flippedExact, ?_⟩
    intro settled
    rw [ModeState.settled, settled_concat, settledAfter, decide_eq_false failed, Bool.false_or,
      Bool.and_eq_true] at settled
    obtain ⟨before, restored⟩ := settled
    obtain ⟨sameBoards, -⟩ := refused before failed (by simpa using restored)
    rw [sameBoards]
    exact agreeing.agreed before
  · refine ⟨flippedExact, fun _ => ?_⟩
    refine forall_of_untilFailure_ok (Q := Board.Exact) ?_ agreeing.exact (not_not.mp failed)
    intro subHalIndex board exact succeeded
    rw [Board.setOperationMode_eq exact, if_pos succeeded]
    rfl

theorem Agreeing.initializeSubHals (agreeing : Agreeing state)
    (answers : Nat → InitializeAnswers) : Agreeing (state.initializeSubHals answers) where
  exact := forall_untilFailure (fun i board => board.initializeSubHal (answers i))
    (fun i board exact => Board.Exact.call exact _) agreeing.exact 0
  agreed := by
    intro settled
    rw [ModeState.settled, ModeState.initializeSubHals, settled_concat, settledAfter,
      decide_eq_true_iff] at settled
    rw [ModeState.initializeSubHals, if_neg (not_not.mpr settled)]
    exact forall_of_untilFailure_ok
      (fun _ _ exact succeeded => Board.mode_of_initializeSubHal exact succeeded) agreeing.exact
      settled

theorem Agreeing.pass (agreeing : Agreeing state) (subHalIndex : Nat) {call : SubHalCall}
    (passed : passedOn call = true) :
    Agreeing { state with
      mSubHalList := state.mSubHalList.mapIdx fun i board =>
        if i = subHalIndex then board.call call else board } where
  exact := by
    intro board member
    obtain ⟨i, inside, rfl⟩ := List.mem_mapIdx.mp member
    have exact := agreeing.exact _ (List.getElem_mem inside)
    split_ifs
    · exact exact.call call
    · exact exact
  agreed := by
    intro settled board member
    obtain ⟨i, inside, rfl⟩ := List.mem_mapIdx.mp member
    have agreed := agreeing.agreed settled _ (List.getElem_mem inside)
    split_ifs
    · exact (Board.mode_of_passedOn passed).trans agreed
    · exact agreed

theorem Agreeing.step {after : ModeState} {event : ModeEvent} (agreeing : Agreeing state)
    (step : modeStep state event = some after) : Agreeing after := by
  cases event with
  | pass subHalIndex call =>
      rw [modeStep] at step
      split_ifs at step with passed
      obtain rfl := Option.some.inj step
      exact agreeing.pass subHalIndex passed
  | initializeSubHals answers =>
      obtain rfl := Option.some.inj step
      exact agreeing.initializeSubHals answers
  | setOperationMode mode first second =>
      obtain rfl := Option.some.inj step
      exact agreeing.setOperationMode mode first second

theorem Agreeing.reachable {devices : List Device}
    (reachable : Reachable modeStep (.initial devices) state) : Agreeing state :=
  reachable.invariant (agreeing_initial devices) fun _ _ _ agreeing step => agreeing.step step

/-- While the modes are settled, every board is in the mode of the proxy, a refused change
of mode is undone completely, and data other than additional information is injected only
into a board that is in the mode for it. -/
theorem operation_modes (devices : List Device) (state : ModeState)
    (reachable : Reachable modeStep (.initial devices) state) (settled : state.settled = true) :
    (∀ board ∈ state.mSubHalList, board.backend.mode = state.mCurrentOperationMode) ∧
      (∀ mode first second,
        (state.setOperationMode mode first second).1.1 ≠ .ok →
        (∀ result ∈ (state.setOperationMode mode first second).1.2, result = .ok) →
        (state.setOperationMode mode first second).2.mSubHalList = state.mSubHalList ∧
          (state.setOperationMode mode first second).2.mCurrentOperationMode =
            state.mCurrentOperationMode) ∧
      ∀ hasInjection event status board trace,
        (state.injectSensorData hasInjection event status).2 = some (board, trace) →
        event.payload.sensorType = additionalInfo ∨ board.backend.mode = .dataInjection := by
  have agreeing := Agreeing.reachable reachable
  have boards : ∀ board ∈ state.mSubHalList, board.backend.mode = state.mCurrentOperationMode :=
    fun board member => (agreeing.exact board member).mode.symm.trans
      (agreeing.agreed settled board member)
  refine ⟨boards, agreeing.refused settled, ?_⟩
  intro hasInjection event status board trace injected
  unfold ModeState.injectSensorData at injected
  split_ifs at injected with refused
  split at injected
  · cases injected
  · next found selected =>
      obtain ⟨rfl, -⟩ := Prod.mk.inj (Option.some.inj injected)
      rw [boards found (List.mem_of_getElem? selected)]
      by_cases information : event.payload.sensorType = additionalInfo
      · exact .inl information
      · right
        cases mode : state.mCurrentOperationMode with
        | normal => exact absurd ⟨mode, information⟩ refused
        | dataInjection => rfl

/-- A board with one sensor, with or without operation modes. -/
def oneSensor (hasOperationModes : Bool) : Device where
  opened := true
  sensorList := [⟨1, 0⟩]
  atLeastVersion14 := true
  hasOperationModes
  hasDirectChannels := false

/-- The second board has no operation modes, so the first is set back. -/
def refusedChange (setBack : Status) : List ModeEvent :=
  [.initializeSubHals fun _ => ⟨fun _ => 0, fun _ => 0, 0⟩, .pass 0 (.activate 1 true 0 7),
    .setOperationMode .dataInjection (fun _ => 0) fun _ => setBack]

theorem operation_modes_refused :
    ∃ state, Runs modeStep (.initial [oneSensor true, oneSensor false]) (refusedChange 0) state ∧
      state.outcomes = [.initialized .ok, .modeSet .invalidOperation [.ok]] ∧
      ∀ board ∈ state.mSubHalList, board.backend.mode = .normal := by
  have run : Runs modeStep (.initial [oneSensor true, oneSensor false]) (refusedChange 0) _ :=
    runs_get (by decide +kernel)
  have modes := operation_modes _ _ run.reachable (by decide +kernel)
  exact ⟨_, run, by decide +kernel, modes.1⟩

/-- If the first board cannot be set back either, it stays in the mode that was refused. -/
example :
    (exec modeStep (.initial [oneSensor true, oneSensor false]) (refusedChange (-5))).map
        (fun state => (state.settled, state.mCurrentOperationMode,
          state.mSubHalList.map fun board => board.backend.mode)) =
      some (false, .normal, [.dataInjection, .normal]) := by
  decide +kernel

end K50sv1.Sensors.HalProxy.Modes
