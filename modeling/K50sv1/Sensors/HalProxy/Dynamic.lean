import Mathlib.Data.List.Nodup
import Mathlib.Logic.Function.Basic
import K50sv1.Sensors.Wiring
import K50sv1.Transition.Run

/-!
# Dynamic sensors

A sub-HAL reports that sensors were connected or disconnected.  The proxy changes its table
under a lock, releases the lock and then calls the framework, whose client may have been
replaced by `initialize` in the meantime.  Reports of different sub-HALs may overtake each
other between the two; a sub-HAL makes its own reports one after the other.

The client knows what the proxy knows, sub-HAL by sub-HAL, except for a sub-HAL that was
making a report when the client was replaced.
-/

namespace K50sv1.Sensors.HalProxy.Dynamic

open K50sv1.Transition

/-! ## The table -/

/-- A `std::map<int32_t, SensorInfo>` by its entries. -/
abbrev SensorTable := Handle → Option SensorInfo

/-- What the framework is called with. -/
inductive Change where
  | connected (sensors : List SensorInfo)
  | disconnected (sensorHandles : List Handle)
  deriving DecidableEq, Repr

def insert (table : SensorTable) (sensor : SensorInfo) : SensorTable :=
  Function.update table sensor.sensorHandle (some sensor)

def erase (table : SensorTable) (sensorHandle : Handle) : SensorTable :=
  Function.update table sensorHandle none

/-- What the framework knows after a call. -/
def Change.apply (table : SensorTable) : Change → SensorTable
  | .connected sensors => sensors.foldl insert table
  | .disconnected sensorHandles => sensorHandles.foldl erase table

def Change.handles : Change → List Handle
  | .connected sensors => sensors.map SensorInfo.sensorHandle
  | .disconnected sensorHandles => sensorHandles

/-- The loop body of `onDynamicSensorsConnected`, on the table and the list `sensors`. -/
def connectSensor (subHalIndex : Nat) (state : SensorTable × List SensorInfo)
    (sensor : SensorInfo) : SensorTable × List SensorInfo :=
  if subHalIndexIsClear sensor.sensorHandle then
    let sensor := { sensor with sensorHandle := setSubHalIndex sensor.sensorHandle subHalIndex }
    (insert state.1 sensor, state.2 ++ [sensor])
  else
    state

/-- The locked region of `onDynamicSensorsConnected`. -/
def connectLocked (mDynamicSensors : SensorTable) (dynamicSensorsAdded : List SensorInfo)
    (subHalIndex : Nat) : SensorTable × List SensorInfo :=
  dynamicSensorsAdded.foldl (connectSensor subHalIndex) (mDynamicSensors, [])

/-- The loop body of `onDynamicSensorsDisconnected`, on the table and the list
`sensorHandles`. -/
def disconnectHandle (subHalIndex : Nat) (state : SensorTable × List Handle)
    (sensorHandle : Handle) : SensorTable × List Handle :=
  if subHalIndexIsClear sensorHandle then
    let sensorHandle := setSubHalIndex sensorHandle subHalIndex
    if (state.1 sensorHandle).isSome then
      (erase state.1 sensorHandle, state.2 ++ [sensorHandle])
    else
      state
  else
    state

/-- The locked region of `onDynamicSensorsDisconnected`. -/
def disconnectLocked (mDynamicSensors : SensorTable) (dynamicSensorHandlesRemoved : List Handle)
    (subHalIndex : Nat) : SensorTable × List Handle :=
  dynamicSensorHandlesRemoved.foldl (disconnectHandle subHalIndex) (mDynamicSensors, [])

/-! ## The proxy and its clients -/

/-- A report of a sub-HAL for which the table has been changed and the framework has not
been called. -/
structure Report (count : Nat) where
  subHalIndex : Fin count
  /-- The client when the table was changed. -/
  client : Nat
  change : Change
  deriving DecidableEq, Repr

/-- A report and the client that was called with it. -/
structure Told (count : Nat) where
  report : Report count
  client : Nat
  deriving DecidableEq, Repr

structure DynamicState (count : Nat) where
  mDynamicSensors : SensorTable
  /-- The number of the client; the first one is 1. -/
  mDynamicSensorsCallback : Nat
  reports : List (Report count)
  told : List (Told count)

inductive DynamicEvent (count : Nat) where
  | connect (subHalIndex : Fin count) (dynamicSensorsAdded : List SensorInfo)
  | disconnect (subHalIndex : Fin count) (dynamicSensorHandlesRemoved : List Handle)
  /-- The call of the framework. -/
  | tell (subHalIndex : Fin count)
  /-- The locked region of `initialize`. -/
  | replaceClient
  deriving DecidableEq, Repr

variable {count : Nat}

def DynamicState.initial (count : Nat) : DynamicState count where
  mDynamicSensors _ := none
  mDynamicSensorsCallback := 0
  reports := []
  told := []

/-- A sub-HAL has a callback once it is initialized, and makes one report at a time. -/
def DynamicState.mayReport (state : DynamicState count) (subHalIndex : Fin count) : Bool :=
  0 < state.mDynamicSensorsCallback &&
    state.reports.all fun report => report.subHalIndex ≠ subHalIndex

/-- The lock is released. -/
def DynamicState.reporting (state : DynamicState count) (subHalIndex : Fin count)
    (mDynamicSensors : SensorTable) (change : Change) : DynamicState count :=
  { state with
    mDynamicSensors
    reports := state.reports ++ [⟨subHalIndex, state.mDynamicSensorsCallback, change⟩] }

def dynamicStep : Step (DynamicEvent count) (DynamicState count)
  | state, .connect subHalIndex dynamicSensorsAdded =>
      if state.mayReport subHalIndex then
        let (mDynamicSensors, sensors) :=
          connectLocked state.mDynamicSensors dynamicSensorsAdded subHalIndex
        some (state.reporting subHalIndex mDynamicSensors (.connected sensors))
      else
        none
  | state, .disconnect subHalIndex dynamicSensorHandlesRemoved =>
      if state.mayReport subHalIndex then
        let (mDynamicSensors, sensorHandles) :=
          disconnectLocked state.mDynamicSensors dynamicSensorHandlesRemoved subHalIndex
        some (state.reporting subHalIndex mDynamicSensors (.disconnected sensorHandles))
      else
        none
  | state, .tell subHalIndex =>
      match state.reports.find? fun report => report.subHalIndex = subHalIndex with
      | none => none
      | some report => some { state with
          reports := state.reports.filter fun other => other.subHalIndex ≠ subHalIndex
          told := state.told ++ [⟨report, state.mDynamicSensorsCallback⟩] }
  | state, .replaceClient => some { state with
      mDynamicSensors := fun _ => none
      mDynamicSensorsCallback := state.mDynamicSensorsCallback + 1 }

/-- The sensors that the present client has been told of. -/
def DynamicState.known (state : DynamicState count) : SensorTable :=
  ((state.told.filter fun told => told.client = state.mDynamicSensorsCallback).map
    fun told => told.report.change).foldl Change.apply fun _ => none

/-- The present client was called with a report that the sub-HAL had begun before it came. -/
def DynamicState.Straddled (state : DynamicState count) (subHalIndex : Fin count) : Prop :=
  ∃ told ∈ state.told, told.client = state.mDynamicSensorsCallback ∧
    told.report.subHalIndex = subHalIndex ∧ told.report.client ≠ told.client

instance (state : DynamicState count) (subHalIndex : Fin count) :
    Decidable (state.Straddled subHalIndex) :=
  inferInstanceAs (Decidable (∃ told ∈ state.told, _))

/-! ## Handles -/

/-- The sub-HAL of a handle that the framework knows. -/
def owner (sensorHandle : Handle) : Nat :=
  sensorHandle.toNat / 2 ^ 24

theorem owner_setSubHalIndex {sensorHandle : Handle}
    (clear : subHalIndexIsClear sensorHandle = true) {subHalIndex : Nat}
    (small : subHalIndex < 256) :
    owner (setSubHalIndex sensorHandle subHalIndex) = subHalIndex := by
  have low := (subHalIndexIsClear_iff sensorHandle).mp clear
  have high : subHalIndex <<< 24 < 2 ^ 32 := by
    rw [Nat.shiftLeft_eq]
    omega
  have sum : (setSubHalIndex sensorHandle subHalIndex).toNat =
      subHalIndex <<< 24 + sensorHandle.toNat := by
    rw [setSubHalIndex, BitVec.toNat_or, BitVec.toNat_shiftLeft, BitVec.toNat_ofNat,
      bitsAfterSubHalIndex, Nat.mod_eq_of_lt (show subHalIndex < 2 ^ 32 by omega),
      Nat.mod_eq_of_lt high, Nat.or_comm, Nat.shiftLeft_add_eq_or_of_lt low]
  rw [owner, sum, Nat.shiftLeft_eq]
  omega

/-! ## One report -/

section Changes

variable {table known : SensorTable}

theorem foldl_insert_of_ne {sensors : List SensorInfo} {sensorHandle : Handle}
    (other : ∀ sensor ∈ sensors, sensor.sensorHandle ≠ sensorHandle) (table : SensorTable) :
    sensors.foldl insert table sensorHandle = table sensorHandle := by
  induction sensors generalizing table with
  | nil => rfl
  | cons sensor sensors ih =>
      rw [List.foldl_cons, ih fun later member => other later (List.mem_cons_of_mem _ member),
        insert, Function.update_of_ne (other sensor List.mem_cons_self).symm]

theorem foldl_erase_of_not_mem {sensorHandles : List Handle} {sensorHandle : Handle}
    (other : sensorHandle ∉ sensorHandles) (table : SensorTable) :
    sensorHandles.foldl erase table sensorHandle = table sensorHandle := by
  induction sensorHandles generalizing table with
  | nil => rfl
  | cons first sensorHandles ih =>
      rw [List.mem_cons, not_or] at other
      rw [List.foldl_cons, ih other.2, erase, Function.update_of_ne other.1]

/-- A change concerns its handles only. -/
theorem Change.apply_of_not_mem {change : Change} {sensorHandle : Handle}
    (other : sensorHandle ∉ change.handles) (table : SensorTable) :
    change.apply table sensorHandle = table sensorHandle := by
  cases change with
  | connected sensors =>
      refine foldl_insert_of_ne (fun sensor member same => other ?_) table
      exact same ▸ List.mem_map_of_mem member
  | disconnected sensorHandles => exact foldl_erase_of_not_mem other table

theorem foldl_insert_congr (sensors : List SensorInfo) {sensorHandle : Handle}
    (same : table sensorHandle = known sensorHandle) :
    sensors.foldl insert table sensorHandle = sensors.foldl insert known sensorHandle := by
  induction sensors generalizing table known with
  | nil => exact same
  | cons sensor sensors ih =>
      refine ih ?_
      by_cases this : sensorHandle = sensor.sensorHandle
      · rw [this, insert, insert, Function.update_self, Function.update_self]
      · rw [insert, insert, Function.update_of_ne this, Function.update_of_ne this, same]

theorem foldl_erase_congr (sensorHandles : List Handle) {sensorHandle : Handle}
    (same : table sensorHandle = known sensorHandle) :
    sensorHandles.foldl erase table sensorHandle =
      sensorHandles.foldl erase known sensorHandle := by
  induction sensorHandles generalizing table known with
  | nil => exact same
  | cons first sensorHandles ih =>
      refine ih ?_
      by_cases this : sensorHandle = first
      · rw [this, erase, erase, Function.update_self, Function.update_self]
      · rw [erase, erase, Function.update_of_ne this, Function.update_of_ne this, same]

/-- A change does the same to tables that agree on a handle. -/
theorem Change.apply_congr (change : Change) {sensorHandle : Handle}
    (same : table sensorHandle = known sensorHandle) :
    change.apply table sensorHandle = change.apply known sensorHandle := by
  cases change with
  | connected sensors => exact foldl_insert_congr sensors same
  | disconnected sensorHandles => exact foldl_erase_congr sensorHandles same

/-- What a locked region has done to the table is what the framework is going to be told. -/
structure Locked (table : SensorTable) (subHalIndex : Nat) (after : SensorTable)
    (change : Change) : Prop where
  applied : after = change.apply table
  owned : ∀ sensorHandle ∈ change.handles, owner sensorHandle = subHalIndex
  /-- What is disconnected was connected, and is disconnected once. -/
  removable : ∀ sensorHandles, change = .disconnected sensorHandles →
    sensorHandles.Nodup ∧ ∀ sensorHandle ∈ sensorHandles, (table sensorHandle).isSome = true

/-- The loop of `onDynamicSensorsConnected` from any point on. -/
theorem locked_foldl_connectSensor (dynamicSensorsAdded sensors : List SensorInfo)
    {subHalIndex : Nat} (small : subHalIndex < 256)
    (owned : ∀ sensor ∈ sensors, owner sensor.sensorHandle = subHalIndex) :
    let result := dynamicSensorsAdded.foldl (connectSensor subHalIndex)
      (sensors.foldl insert table, sensors)
    Locked table subHalIndex result.1 (.connected result.2) := by
  induction dynamicSensorsAdded generalizing sensors with
  | nil =>
      refine ⟨rfl, ?_, fun _ other => by cases other⟩
      intro sensorHandle member
      obtain ⟨sensor, among, rfl⟩ := List.mem_map.mp member
      exact owned sensor among
  | cons sensor dynamicSensorsAdded ih =>
      rw [List.foldl_cons]
      by_cases clear : subHalIndexIsClear sensor.sensorHandle = true
      · let added : SensorInfo :=
          { sensor with sensorHandle := setSubHalIndex sensor.sensorHandle subHalIndex }
        have step : connectSensor subHalIndex (sensors.foldl insert table, sensors) sensor =
            ((sensors ++ [added]).foldl insert table, sensors ++ [added]) := by
          rw [connectSensor, if_pos clear, List.foldl_append]
          rfl
        rw [step]
        refine ih (sensors ++ [added]) fun other member => ?_
        rcases List.mem_append.mp member with early | last
        · exact owned other early
        · obtain rfl := List.mem_singleton.mp last
          exact owner_setSubHalIndex clear small
      · rw [connectSensor, if_neg clear]
        exact ih sensors owned

theorem locked_connect (table : SensorTable) (dynamicSensorsAdded : List SensorInfo)
    {subHalIndex : Nat} (small : subHalIndex < 256) :
    Locked table subHalIndex (connectLocked table dynamicSensorsAdded subHalIndex).1
      (.connected (connectLocked table dynamicSensorsAdded subHalIndex).2) :=
  locked_foldl_connectSensor dynamicSensorsAdded [] small fun _ member => by cases member

/-- What the loop of `onDynamicSensorsDisconnected` has collected. -/
structure Collected (table : SensorTable) (subHalIndex : Nat) (sensorHandles : List Handle) :
    Prop where
  owned : ∀ sensorHandle ∈ sensorHandles, owner sensorHandle = subHalIndex
  nodup : sensorHandles.Nodup
  present : ∀ sensorHandle ∈ sensorHandles, (table sensorHandle).isSome = true

theorem foldl_erase_of_mem {sensorHandles : List Handle} {sensorHandle : Handle}
    (member : sensorHandle ∈ sensorHandles) (table : SensorTable) :
    sensorHandles.foldl erase table sensorHandle = none := by
  induction sensorHandles generalizing table with
  | nil => cases member
  | cons first sensorHandles ih =>
      by_cases later : sensorHandle ∈ sensorHandles
      · exact ih later _
      · rw [List.foldl_cons, foldl_erase_of_not_mem later, erase]
        obtain rfl := (List.mem_cons.mp member).resolve_right later
        exact Function.update_self _ _ _

/-- A handle that is still in the table is collected. -/
theorem Collected.concat {subHalIndex : Nat} {sensorHandles : List Handle} {sensorHandle : Handle}
    (collected : Collected table subHalIndex sensorHandles)
    (present : (sensorHandles.foldl erase table sensorHandle).isSome = true)
    (owned : owner sensorHandle = subHalIndex) :
    Collected table subHalIndex (sensorHandles ++ [sensorHandle]) := by
  have fresh : sensorHandle ∉ sensorHandles := by
    intro member
    rw [foldl_erase_of_mem member] at present
    cases present
  rw [foldl_erase_of_not_mem fresh] at present
  constructor
  case owned =>
    intro other member
    rcases List.mem_append.mp member with early | last
    · exact collected.owned other early
    · rw [List.mem_singleton.mp last, owned]
  case nodup =>
    rw [List.nodup_append]
    refine ⟨collected.nodup, List.nodup_singleton _, ?_⟩
    intro other member last among same
    rw [List.mem_singleton.mp among] at same
    exact fresh (same ▸ member)
  case present =>
    intro other member
    rcases List.mem_append.mp member with early | last
    · exact collected.present other early
    · rw [List.mem_singleton.mp last]
      exact present

/-- The loop of `onDynamicSensorsDisconnected` from any point on. -/
theorem locked_foldl_disconnectHandle (dynamicSensorHandlesRemoved : List Handle)
    {sensorHandles : List Handle} {subHalIndex : Nat} (small : subHalIndex < 256)
    (collected : Collected table subHalIndex sensorHandles) :
    let result := dynamicSensorHandlesRemoved.foldl (disconnectHandle subHalIndex)
      (sensorHandles.foldl erase table, sensorHandles)
    Locked table subHalIndex result.1 (.disconnected result.2) := by
  induction dynamicSensorHandlesRemoved generalizing sensorHandles with
  | nil =>
      refine ⟨rfl, collected.owned, ?_⟩
      rintro _ ⟨⟩
      exact ⟨collected.nodup, collected.present⟩
  | cons sensorHandle dynamicSensorHandlesRemoved ih =>
      rw [List.foldl_cons]
      by_cases clear : subHalIndexIsClear sensorHandle = true
      · let removed := setSubHalIndex sensorHandle subHalIndex
        by_cases present : (sensorHandles.foldl erase table removed).isSome = true
        · have step : disconnectHandle subHalIndex (sensorHandles.foldl erase table, sensorHandles)
              sensorHandle = ((sensorHandles ++ [removed]).foldl erase table,
                sensorHandles ++ [removed]) := by
            rw [disconnectHandle, if_pos clear, List.foldl_append]
            exact if_pos present
          rw [step]
          exact ih (collected.concat present (owner_setSubHalIndex clear small))
        · have step : disconnectHandle subHalIndex (sensorHandles.foldl erase table, sensorHandles)
              sensorHandle = (sensorHandles.foldl erase table, sensorHandles) := by
            rw [disconnectHandle, if_pos clear]
            exact if_neg present
          rw [step]
          exact ih collected
      · rw [disconnectHandle, if_neg clear]
        exact ih collected

theorem locked_disconnect (table : SensorTable) (dynamicSensorHandlesRemoved : List Handle)
    {subHalIndex : Nat} (small : subHalIndex < 256) :
    Locked table subHalIndex (disconnectLocked table dynamicSensorHandlesRemoved subHalIndex).1
      (.disconnected (disconnectLocked table dynamicSensorHandlesRemoved subHalIndex).2) := by
  refine locked_foldl_disconnectHandle dynamicSensorHandlesRemoved small ⟨?_, List.nodup_nil, ?_⟩
  · exact fun _ member => by cases member
  · exact fun _ member => by cases member

end Changes

/-! ## Agreement -/

/-- What is disconnected is known to the client, and is disconnected once. -/
def Removable (known : SensorTable) (change : Change) : Prop :=
  ∀ sensorHandles, change = .disconnected sensorHandles →
    sensorHandles.Nodup ∧ ∀ sensorHandle ∈ sensorHandles, (known sensorHandle).isSome = true

/-- The report was begun for the present client. -/
def DynamicState.Current (state : DynamicState count) (report : Report count) : Prop :=
  report.client = state.mDynamicSensorsCallback

instance (state : DynamicState count) (report : Report count) : Decidable (state.Current report) :=
  inferInstanceAs (Decidable (_ = _))

structure Agreeing (state : DynamicState count) : Prop where
  clients : ∀ told ∈ state.told, told.client ≤ state.mDynamicSensorsCallback
  begun : ∀ report ∈ state.reports, report.client ≤ state.mDynamicSensorsCallback
  owned : ∀ report ∈ state.reports, ∀ sensorHandle ∈ report.change.handles,
    owner sensorHandle = report.subHalIndex
  idle : ∀ subHalIndex, ¬state.Straddled subHalIndex →
    (∀ report ∈ state.reports, state.Current report → report.subHalIndex ≠ subHalIndex) →
    ∀ sensorHandle, owner sensorHandle = subHalIndex →
      state.known sensorHandle = state.mDynamicSensors sensorHandle
  busy : ∀ report ∈ state.reports, state.Current report → ¬state.Straddled report.subHalIndex →
    ∀ sensorHandle, owner sensorHandle = report.subHalIndex →
      report.change.apply state.known sensorHandle = state.mDynamicSensors sensorHandle
  removable : ∀ report ∈ state.reports, state.Current report →
    ¬state.Straddled report.subHalIndex → Removable state.known report.change

theorem agreeing_initial : Agreeing (DynamicState.initial count) where
  clients _ member := by cases member
  begun _ member := by cases member
  owned _ member := by cases member
  idle _ _ _ _ _ := rfl
  busy _ member := by cases member
  removable _ member := by cases member

section Steps

variable {state : DynamicState count}

/-- A handle of another sub-HAL is not touched. -/
theorem apply_of_owner_ne {subHalIndex : Nat} {change : Change} {sensorHandle : Handle}
    (owned : ∀ changed ∈ change.handles, owner changed = subHalIndex)
    (other : owner sensorHandle ≠ subHalIndex) (table : SensorTable) :
    change.apply table sensorHandle = table sensorHandle :=
  Change.apply_of_not_mem (fun member => other (owned sensorHandle member)) table

theorem Agreeing.reporting (agreeing : Agreeing state) {subHalIndex : Fin count}
    {after : SensorTable} {change : Change} (may : state.mayReport subHalIndex = true)
    (locked : Locked state.mDynamicSensors subHalIndex after change) :
    Agreeing (state.reporting subHalIndex after change) := by
  have others : ∀ report ∈ state.reports, report.subHalIndex ≠ subHalIndex := by
    intro report member
    rw [DynamicState.mayReport, Bool.and_eq_true, List.all_eq_true] at may
    simpa using may.2 report member
  -- the table of the other sub-HALs stays as it is
  have frame : ∀ {other : Fin count}, other ≠ subHalIndex → ∀ sensorHandle,
      owner sensorHandle = other → after sensorHandle = state.mDynamicSensors sensorHandle := by
    intro other different sensorHandle owns
    rw [locked.applied]
    refine apply_of_owner_ne locked.owned (fun same => different (Fin.ext ?_)) _
    rw [← owns, same]
  constructor
  case clients => exact agreeing.clients
  case begun =>
    intro report member
    rcases List.mem_append.mp member with early | last
    · exact agreeing.begun report early
    · rw [List.mem_singleton.mp last]
      exact Nat.le_refl _
  case owned =>
    intro report member
    rcases List.mem_append.mp member with early | last
    · exact agreeing.owned report early
    · rw [List.mem_singleton.mp last]
      exact locked.owned
  case idle =>
    intro other straight quiet sensorHandle owns
    have different : other ≠ subHalIndex := by
      rintro rfl
      exact quiet _ (List.mem_append_right _ (List.mem_singleton_self _)) rfl rfl
    rw [show (state.reporting subHalIndex after change).mDynamicSensors sensorHandle = _ from
      frame different sensorHandle owns]
    exact agreeing.idle other straight
      (fun report member => quiet report (List.mem_append_left _ member)) sensorHandle owns
  case busy =>
    intro report member current straight sensorHandle owns
    rcases List.mem_append.mp member with early | last
    · rw [show (state.reporting subHalIndex after change).mDynamicSensors sensorHandle = _ from
        frame (others report early) sensorHandle owns]
      exact agreeing.busy report early current straight sensorHandle owns
    · obtain rfl := List.mem_singleton.mp last
      have same := agreeing.idle subHalIndex straight (fun report member _ => others report member)
        sensorHandle owns
      rw [show (state.reporting subHalIndex after change).mDynamicSensors = _ from locked.applied]
      exact change.apply_congr same
  case removable =>
    intro report member current straight
    rcases List.mem_append.mp member with early | last
    · exact agreeing.removable report early current straight
    · obtain rfl := List.mem_singleton.mp last
      rintro sensorHandles rfl
      obtain ⟨nodup, present⟩ := locked.removable sensorHandles rfl
      refine ⟨nodup, fun sensorHandle among => ?_⟩
      have same := agreeing.idle subHalIndex straight (fun report member _ => others report member)
        sensorHandle (locked.owned sensorHandle among)
      rw [show (state.reporting subHalIndex after _).known sensorHandle = _ from same]
      exact present sensorHandle among

/-- The state in which the client has been called. -/
def DynamicState.tells (state : DynamicState count) (report : Report count) : DynamicState count :=
  { state with
    reports := state.reports.filter fun other => other.subHalIndex ≠ report.subHalIndex
    told := state.told ++ [⟨report, state.mDynamicSensorsCallback⟩] }

theorem known_tells (report : Report count) :
    (state.tells report).known = report.change.apply state.known := by
  simp [DynamicState.known, DynamicState.tells]

theorem Agreeing.tells (agreeing : Agreeing state) {report : Report count}
    (member : report ∈ state.reports) : Agreeing (state.tells report) := by
  have straight_of : ∀ {other : Fin count}, ¬(state.tells report).Straddled other →
      ¬state.Straddled other := by
    rintro other straight ⟨told, among, now, index, late⟩
    exact straight ⟨told, List.mem_append_left _ among, now, index, late⟩
  have frame : ∀ {other : Fin count}, other ≠ report.subHalIndex → ∀ sensorHandle,
      owner sensorHandle = other →
      (state.tells report).known sensorHandle = state.known sensorHandle := by
    intro other different sensorHandle owns
    rw [known_tells]
    refine apply_of_owner_ne (agreeing.owned report member)
      (fun same => different (Fin.ext ?_)) _
    rw [← owns, same]
  have remaining : ∀ {other : Report count}, other ∈ (state.tells report).reports →
      other ∈ state.reports ∧ other.subHalIndex ≠ report.subHalIndex := by
    intro other among
    simpa [DynamicState.tells] using among
  constructor
  case clients =>
    intro told among
    rcases List.mem_append.mp among with early | last
    · exact agreeing.clients told early
    · rw [List.mem_singleton.mp last]
      exact Nat.le_refl _
  case begun => exact fun other among => agreeing.begun other (remaining among).1
  case owned => exact fun other among => agreeing.owned other (remaining among).1
  case idle =>
    intro other straight quiet sensorHandle owns
    by_cases same : other = report.subHalIndex
    · -- the client was called with a report that had been begun for it
      have current : state.Current report := by
        by_contra late
        exact straight ⟨_, List.mem_append_right _ (List.mem_singleton_self _), rfl, same.symm,
          late⟩
      rw [known_tells]
      exact agreeing.busy report member current (same ▸ straight_of straight) sensorHandle
        (same ▸ owns)
    · rw [frame same sensorHandle owns]
      refine agreeing.idle other (straight_of straight) ?_ sensorHandle owns
      intro another among current index
      refine quiet another ?_ current index
      exact List.mem_filter.mpr ⟨among, by simpa [index] using same⟩
  case busy =>
    intro other among current straight sensorHandle owns
    obtain ⟨before, different⟩ := remaining among
    have same := frame different sensorHandle owns
    exact (other.change.apply_congr same).trans
      (agreeing.busy other before current (straight_of straight) sensorHandle owns)
  case removable =>
    intro other among current straight sensorHandles removes
    obtain ⟨before, different⟩ := remaining among
    obtain ⟨nodup, present⟩ :=
      agreeing.removable other before current (straight_of straight) sensorHandles removes
    refine ⟨nodup, fun sensorHandle handle => ?_⟩
    have owns := agreeing.owned other before sensorHandle (by rw [removes]; exact handle)
    rw [frame different sensorHandle owns]
    exact present sensorHandle handle

/-- A new client has been told nothing. -/
theorem Agreeing.replaceClient (agreeing : Agreeing state) : Agreeing { state with
    mDynamicSensors := fun _ => none
    mDynamicSensorsCallback := state.mDynamicSensorsCallback + 1 } := by
  have untold : ∀ told ∈ state.told, told.client ≠ state.mDynamicSensorsCallback + 1 := by
    intro told member same
    have early := agreeing.clients told member
    omega
  have stale : ∀ report ∈ state.reports, report.client ≠ state.mDynamicSensorsCallback + 1 := by
    intro report member same
    have early := agreeing.begun report member
    omega
  constructor
  case clients => exact fun told member => Nat.le_succ_of_le (agreeing.clients told member)
  case begun => exact fun report member => Nat.le_succ_of_le (agreeing.begun report member)
  case owned => exact agreeing.owned
  case idle =>
    intro _ _ _ sensorHandle _
    rw [DynamicState.known, List.filter_eq_nil_iff.mpr]
    · rfl
    · intro told member
      simpa using untold told member
  case busy => exact fun report member current => absurd current (stale report member)
  case removable => exact fun report member current => absurd current (stale report member)

theorem Agreeing.step (agreeing : Agreeing state) (small : count ≤ 256)
    {event : DynamicEvent count} {after : DynamicState count}
    (step : dynamicStep state event = some after) : Agreeing after := by
  cases event with
  | connect subHalIndex dynamicSensorsAdded =>
      simp only [dynamicStep] at step
      split_ifs at step with may
      obtain rfl := Option.some.inj step
      exact agreeing.reporting may (locked_connect _ _ (by omega))
  | disconnect subHalIndex dynamicSensorHandlesRemoved =>
      simp only [dynamicStep] at step
      split_ifs at step with may
      obtain rfl := Option.some.inj step
      exact agreeing.reporting may (locked_disconnect _ _ (by omega))
  | tell subHalIndex =>
      simp only [dynamicStep] at step
      split at step
      · cases step
      · next report found =>
        obtain rfl := Option.some.inj step
        have index : report.subHalIndex = subHalIndex := by
          simpa using List.find?_some found
        have told := agreeing.tells (List.mem_of_find?_eq_some found)
        rw [DynamicState.tells, index] at told
        exact told
  | replaceClient =>
      obtain rfl := Option.some.inj step
      exact agreeing.replaceClient

end Steps

/-- In every order of the locked regions and the calls of the framework, for a sub-HAL none of
whose reports straddled the coming of the present client: while it is making no report, the
client knows exactly the sensors of this sub-HAL that the proxy knows; while it is reporting
sensors that were disconnected, the client knows each of them and is told of it once. -/
theorem dynamic_agreement (small : count ≤ 256) (state : DynamicState count)
    (reachable : Reachable dynamicStep (.initial count) state) (subHalIndex : Fin count)
    (straight : ¬state.Straddled subHalIndex) :
    ((∀ report ∈ state.reports, state.Current report → report.subHalIndex ≠ subHalIndex) →
      ∀ sensorHandle, owner sensorHandle = subHalIndex →
        state.known sensorHandle = state.mDynamicSensors sensorHandle) ∧
    ∀ report ∈ state.reports, state.Current report → report.subHalIndex = subHalIndex →
      ∀ sensorHandles, report.change = .disconnected sensorHandles →
        sensorHandles.Nodup ∧
          ∀ sensorHandle ∈ sensorHandles, (state.known sensorHandle).isSome = true := by
  have agreeing : Agreeing state :=
    reachable.invariant agreeing_initial fun _ _ _ agreeing step => agreeing.step small step
  refine ⟨agreeing.idle subHalIndex straight, ?_⟩
  rintro report member current rfl
  exact agreeing.removable report member current straight

/-- Two sub-HALs connect a sensor under the same handle, their reports overtake each other,
and a later client sees one of them come again and go. -/
def overtakingRun (first second : Fin 2) : List (DynamicEvent 2) :=
  [.replaceClient, .connect first [⟨5, 0⟩], .connect second [⟨5, 1⟩, ⟨0x1000005, 0⟩],
    .tell second, .tell first, .replaceClient, .connect second [⟨5, 1⟩], .tell second,
    .disconnect second [5, 5, 6]]

theorem dynamic_agreement_overtaking :
    ∃ state, Runs dynamicStep (.initial 2) (overtakingRun 0 1) state ∧
      (∀ sensorHandle, owner sensorHandle = 0 →
        state.known sensorHandle = state.mDynamicSensors sensorHandle) ∧
      (state.known 0x1000005).isSome = true ∧ state.mDynamicSensors 0x1000005 = none := by
  have run : Runs dynamicStep (.initial 2) (overtakingRun 0 1) _ := runs_get (by decide +kernel)
  have first := dynamic_agreement (by decide) _ run.reachable 0 (by decide +kernel)
  have second := dynamic_agreement (by decide) _ run.reachable 1 (by decide +kernel)
  refine ⟨_, run, first.1 (by decide +kernel), ?_, by decide +kernel⟩
  exact (second.2 ⟨1, 2, .disconnected [0x1000005]⟩ (by decide +kernel) (by decide +kernel) rfl _
    rfl).2 _ (List.mem_singleton_self _)

end K50sv1.Sensors.HalProxy.Dynamic
