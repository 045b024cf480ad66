import Mathlib.Data.List.Basic

/-!
# Sensors and events as the multi-HAL proxy sees them

A sensor handle is a 32-bit word whose top byte selects a sub-HAL.  Of a sensor the
proxy reads its flags, of an event only the handle; everything else an event carries
is the payload of type `π`, which the proxy copies and never looks at.
-/

namespace K50sv1.Sensors

/-! ## Handles -/

abbrev Handle := BitVec 32

/-- `kBitsAfterSubHalIndex`. -/
def bitsAfterSubHalIndex : Nat := 24

/-- `kSensorHandleSubHalIndexMask`. -/
def sensorHandleSubHalIndexMask : Handle := 0xFF000000#32

def setSubHalIndex (sensorHandle : Handle) (subHalIndex : Nat) : Handle :=
  sensorHandle ||| (BitVec.ofNat 32 subHalIndex <<< bitsAfterSubHalIndex)

/-- The shift is arithmetic and the cast to `size_t` extends the sign. -/
def extractSubHalIndex (sensorHandle : Handle) : Nat :=
  ((sensorHandle.sshiftRight bitsAfterSubHalIndex).signExtend 64).toNat

def clearSubHalIndex (sensorHandle : Handle) : Handle :=
  sensorHandle &&& ~~~sensorHandleSubHalIndexMask

def subHalIndexIsClear (sensorHandle : Handle) : Bool :=
  sensorHandle &&& sensorHandleSubHalIndexMask = 0

/-! ## Sensors -/

/-- `V1_0::SensorFlagBits::WAKE_UP`. -/
def wakeUpFlag : BitVec 32 := 1#32

structure SensorInfo where
  sensorHandle : Handle
  flags : BitVec 32
  deriving DecidableEq, Repr

def SensorInfo.isWakeUp (sensor : SensorInfo) : Bool :=
  sensor.flags &&& wakeUpFlag ≠ 0

/-- A `std::map<int32_t, SensorInfo>`, in key order. -/
abbrev SensorMap := List (Handle × SensorInfo)

/-! ## Events -/

structure Event (π : Type) where
  sensorHandle : Handle
  payload : π
  deriving DecidableEq, Repr

variable {π : Type}

/-- The wake-up bit of an event's sensor; `none` is the `std::out_of_range` of
`mSensors.at`. -/
def wakeUpOf (mSensors : SensorMap) (event : Event π) : Option Bool :=
  (mSensors.lookup event.sensorHandle).map SensorInfo.isWakeUp

/-- The number of wake-up events among the first `n`; `none` when `mSensors.at`
throws. -/
def countNumWakeupEvents (mSensors : SensorMap) (events : List (Event π)) (n : Nat) :
    Option Nat :=
  (events.take n).foldlM (fun numWakeupEvents event =>
    (wakeUpOf mSensors event).map fun wakeUp =>
      if wakeUp then numWakeupEvents + 1 else numWakeupEvents) 0

/-- The event under the handle the framework knows. -/
def Event.withSubHalIndex (event : Event π) (mSubHalIndex : Nat) : Event π :=
  { event with sensorHandle := setSubHalIndex event.sensorHandle mSubHalIndex }

/-- `HalProxyCallback::processEvents`: rewrite the handles and count the wake-up
events. -/
def processEvents (mSensors : SensorMap) (mSubHalIndex : Nat) (events : List (Event π)) :
    Option (List (Event π) × Nat) :=
  events.foldlM (fun (eventsOut, numWakeupEvents) event =>
    let event := event.withSubHalIndex mSubHalIndex
    (wakeUpOf mSensors event).map fun wakeUp =>
      (eventsOut ++ [event], if wakeUp then numWakeupEvents + 1 else numWakeupEvents)) ([], 0)

/-! ### Counting wake-up events -/

/-- An event whose sensor the map lists as a wake-up sensor. -/
def isWakeUp (mSensors : SensorMap) (event : Event π) : Bool :=
  wakeUpOf mSensors event = some true

/-- An event whose sensor the map lists. -/
def isListed (mSensors : SensorMap) (event : Event π) : Bool :=
  (wakeUpOf mSensors event).isSome

/-- What the two loops do with one event. -/
theorem wakeUpOf_map (mSensors : SensorMap) (event : Event π) {β : Type} (next : Nat → β)
    (start : Nat) :
    ((wakeUpOf mSensors event).map fun wakeUp => next (if wakeUp then start + 1 else start)) =
      if isListed mSensors event then
        some (next (start + if isWakeUp mSensors event then 1 else 0))
      else
        none := by
  cases info : wakeUpOf mSensors event with
  | none => simp [isListed, info]
  | some wakeUp =>
      cases wakeUp with
      | true => simp [isListed, isWakeUp, info]
      | false => simp [isListed, isWakeUp, info]

theorem foldlM_wakeUps (mSensors : SensorMap) (events : List (Event π)) (start : Nat) :
    events.foldlM (fun numWakeupEvents event =>
        (wakeUpOf mSensors event).map fun wakeUp =>
          if wakeUp then numWakeupEvents + 1 else numWakeupEvents) start =
      if events.all (isListed mSensors) then
        some (start + events.countP (isWakeUp mSensors))
      else
        none := by
  induction events generalizing start with
  | nil => simp
  | cons event rest ih =>
      rw [List.foldlM_cons, wakeUpOf_map mSensors event (fun count => count) start]
      by_cases listed : isListed mSensors event = true
      · simp [listed, ih, List.countP_cons, Nat.add_left_comm, Nat.add_comm]
      · simp [listed]

/-- Counting succeeds exactly on listed sensors. -/
theorem countNumWakeupEvents_eq (mSensors : SensorMap) (events : List (Event π)) (n : Nat) :
    countNumWakeupEvents mSensors events n =
      if (events.take n).all (isListed mSensors) then
        some ((events.take n).countP (isWakeUp mSensors))
      else
        none := by
  rw [countNumWakeupEvents, foldlM_wakeUps, Nat.zero_add]

/-- All events of a batch that has been counted are listed, so every part of it can
be counted. -/
theorem countNumWakeupEvents_of_counted {mSensors : SensorMap} {events : List (Event π)}
    {total : Nat}
    (counted : countNumWakeupEvents mSensors events events.length = some total) :
    events.all (isListed mSensors) = true ∧ total = events.countP (isWakeUp mSensors) := by
  rw [countNumWakeupEvents_eq, List.take_length] at counted
  split at counted
  · rename_i listed
    exact ⟨listed, (Option.some.inj counted).symm⟩
  · contradiction

theorem countNumWakeupEvents_of_listed {mSensors : SensorMap} {events : List (Event π)}
    (listed : events.all (isListed mSensors) = true) (n : Nat) :
    countNumWakeupEvents mSensors events n =
      some ((events.take n).countP (isWakeUp mSensors)) := by
  rw [countNumWakeupEvents_eq, if_pos]
  rw [List.all_eq_true] at listed ⊢
  intro event member
  exact listed event (List.mem_of_mem_take member)

theorem listed_drop {mSensors : SensorMap} {events : List (Event π)}
    (listed : events.all (isListed mSensors) = true) (n : Nat) :
    (events.drop n).all (isListed mSensors) = true := by
  rw [List.all_eq_true] at listed ⊢
  intro event member
  exact listed event (List.mem_of_mem_drop member)

/-- The wake-up events behind the first `n` are what the subtraction leaves. -/
theorem wakeUps_drop (mSensors : SensorMap) (events : List (Event π)) (n : Nat) :
    events.countP (isWakeUp mSensors) - (events.take n).countP (isWakeUp mSensors) =
      (events.drop n).countP (isWakeUp mSensors) := by
  have parts : events.countP (isWakeUp mSensors) =
      (events.take n).countP (isWakeUp mSensors) +
        (events.drop n).countP (isWakeUp mSensors) := by
    rw [← List.countP_append, List.take_append_drop]
  omega

theorem foldlM_processed (mSensors : SensorMap) (mSubHalIndex : Nat) (events : List (Event π))
    (eventsOut : List (Event π)) (start : Nat) :
    events.foldlM (fun (eventsOut, numWakeupEvents) event =>
        let event := event.withSubHalIndex mSubHalIndex
        (wakeUpOf mSensors event).map fun wakeUp =>
          (eventsOut ++ [event],
            if wakeUp then numWakeupEvents + 1 else numWakeupEvents)) (eventsOut, start) =
      if (events.map (Event.withSubHalIndex · mSubHalIndex)).all (isListed mSensors) then
        some (eventsOut ++ events.map (Event.withSubHalIndex · mSubHalIndex),
          start + (events.map (Event.withSubHalIndex · mSubHalIndex)).countP
            (isWakeUp mSensors))
      else
        none := by
  induction events generalizing eventsOut start with
  | nil => simp
  | cons event rest ih =>
      rw [List.foldlM_cons]
      dsimp only
      rw [wakeUpOf_map mSensors (event.withSubHalIndex mSubHalIndex)
        (fun count => (eventsOut ++ [event.withSubHalIndex mSubHalIndex], count)) start]
      by_cases listed : isListed mSensors (event.withSubHalIndex mSubHalIndex) = true
      · simp only [listed, if_true, Option.bind_eq_bind, Option.bind_some, ih]
        simp [listed, List.countP_cons, Nat.add_assoc, Nat.add_comm]
      · simp [listed]

/-- `processEvents` returns the batch with rewritten handles and its wake-up
count. -/
theorem processEvents_eq_some {mSensors : SensorMap} {mSubHalIndex numWakeupEvents : Nat}
    {events eventsOut : List (Event π)}
    (processed : processEvents mSensors mSubHalIndex events =
      some (eventsOut, numWakeupEvents)) :
    eventsOut = events.map (Event.withSubHalIndex · mSubHalIndex) ∧
      countNumWakeupEvents mSensors eventsOut eventsOut.length = some numWakeupEvents := by
  rw [processEvents, foldlM_processed] at processed
  split at processed
  · rename_i listed
    obtain ⟨rfl, rfl⟩ := Prod.mk.inj (Option.some.inj processed)
    rw [List.nil_append, Nat.zero_add, countNumWakeupEvents_of_listed listed, List.take_length]
    exact ⟨rfl, rfl⟩
  · contradiction

end K50sv1.Sensors
