import Mathlib.Algebra.GroupWithZero.Nat
import K50sv1.Sensors.System

/-!
# The handles of the service

With one sub-HAL at index 0 a handle is valid for the proxy exactly if its top byte is
clear, and clearing or setting the index then changes nothing.  The table of the proxy is
the part of the sub-HAL's table with such handles, which may be smaller: the board is free
to use the top byte.
-/

namespace K50sv1.Sensors

open K50sv1.Data K50sv1.Sensors.SubHal

/-! ## Handles -/

theorem isSubHalIndexValid_iff (sensorHandle : Handle) :
    isSubHalIndexValid sensorHandle = true ↔ sensorHandle.toNat < 2 ^ 24 := by
  have bound := sensorHandle.isLt
  -- the sign extension of the shifted handle is zero only if the shifted handle is
  have extended : ((sensorHandle.sshiftRight 24).signExtend 64).toNat < 1 ↔
      (sensorHandle.sshiftRight 24).toInt = 0 := by
    have bound := ((sensorHandle.sshiftRight 24).signExtend 64).isLt
    rw [← BitVec.toInt_signExtend_of_le (v := 64) (by decide), BitVec.toInt_eq_toNat_cond]
    split <;> omega
  rw [isSubHalIndexValid, decide_eq_true_iff, extractSubHalIndex, bitsAfterSubHalIndex, extended,
    BitVec.toInt_sshiftRight, Int.shiftRight_eq_div_pow, BitVec.toInt_eq_toNat_cond]
  split <;> omega

theorem toNat_clearSubHalIndex (sensorHandle : Handle) :
    (clearSubHalIndex sensorHandle).toNat = sensorHandle.toNat % 2 ^ 24 := by
  have mask : ~~~sensorHandleSubHalIndexMask = BitVec.ofNat 32 (2 ^ 24 - 1) := by decide
  rw [clearSubHalIndex, mask, BitVec.toNat_and, BitVec.toNat_ofNat, Nat.mod_eq_of_lt (by decide),
    Nat.and_two_pow_sub_one_eq_mod]

theorem clearSubHalIndex_eq_self_iff (sensorHandle : Handle) :
    clearSubHalIndex sensorHandle = sensorHandle ↔ sensorHandle.toNat < 2 ^ 24 := by
  rw [← BitVec.toNat_inj, toNat_clearSubHalIndex]
  exact Nat.mod_eq_iff_lt (by decide)

theorem subHalIndexIsClear_iff (sensorHandle : Handle) :
    subHalIndexIsClear sensorHandle = true ↔ sensorHandle.toNat < 2 ^ 24 := by
  rw [subHalIndexIsClear, decide_eq_true_iff, ← clearSubHalIndex_eq_self_iff, clearSubHalIndex]
  constructor
  · intro clear
    have parts : sensorHandleSubHalIndexMask ||| ~~~sensorHandleSubHalIndexMask =
        BitVec.allOnes 32 := by decide
    calc
      _ = (sensorHandle &&& sensorHandleSubHalIndexMask) |||
          (sensorHandle &&& ~~~sensorHandleSubHalIndexMask) := by
        rw [clear]
        exact BitVec.zero_or.symm
      _ = sensorHandle := by
        rw [← BitVec.and_or_distrib_left, parts, BitVec.and_allOnes]
  · intro same
    have disjoint : ~~~sensorHandleSubHalIndexMask &&& sensorHandleSubHalIndexMask = 0 := by decide
    rw [← same, BitVec.and_assoc, disjoint]
    exact BitVec.and_zero

/-- The three tests of the proxy agree. -/
theorem isSubHalIndexValid_eq (sensorHandle : Handle) :
    isSubHalIndexValid sensorHandle = subHalIndexIsClear sensorHandle :=
  Bool.eq_iff_iff.mpr ((isSubHalIndexValid_iff _).trans (subHalIndexIsClear_iff _).symm)

theorem clearSubHalIndex_of_isClear {sensorHandle : Handle}
    (clear : subHalIndexIsClear sensorHandle = true) :
    clearSubHalIndex sensorHandle = sensorHandle :=
  (clearSubHalIndex_eq_self_iff _).mpr ((subHalIndexIsClear_iff _).mp clear)

theorem subHalIndexIsClear_clear (sensorHandle : Handle) :
    subHalIndexIsClear (clearSubHalIndex sensorHandle) = true := by
  rw [subHalIndexIsClear_iff, toNat_clearSubHalIndex]
  exact Nat.mod_lt _ (by decide)

@[simp]
theorem setSubHalIndex_zero (sensorHandle : Handle) :
    setSubHalIndex sensorHandle 0 = sensorHandle := by
  simp [setSubHalIndex]

/-! ## Tables -/

/-- A sensor is listed under its own handle. -/
theorem sensorHandle_of_mem_enumerateSensors {list : List SensorInfo}
    {entry : Handle × SensorInfo} (member : entry ∈ enumerateSensors list) :
    entry.2.sensorHandle = entry.1 := by
  refine List.foldlRecOn list _
    (motive := fun sensors : OrderedMap Handle SensorInfo BitVec.toInt =>
      ∀ entry ∈ sensors.entries, entry.2.sensorHandle = entry.1) ?_ ?_ entry member
  · simp [OrderedMap.empty]
  · intro sensors keyed sensor _ entry member
    rcases OrderedMap.mem_emplace member with rfl | old
    · rfl
    · exact keyed entry old

theorem sensorHandle_of_mem_mSensors {device : Device} {entry : Handle × SensorInfo}
    (member : entry ∈ device.mSensors) : entry.2.sensorHandle = entry.1 := by
  rw [Device.mSensors] at member
  split at member
  · exact sensorHandle_of_mem_enumerateSensors member
  · cases member

/-- The proxy lists the sensors with a clear top byte, under the handles of the board. -/
theorem proxySensors_eq (device : Device) :
    device.proxySensors = device.mSensors.filter fun entry => subHalIndexIsClear entry.1 := by
  have same : device.mSensors.filter (fun entry => subHalIndexIsClear entry.2.sensorHandle) =
      device.mSensors.filter fun entry => subHalIndexIsClear entry.1 :=
    List.filter_congr fun entry member => by rw [sensorHandle_of_mem_mSensors member]
  rw [Device.proxySensors, initializeSensorList, same]
  apply (List.map_congr_left _).trans (List.map_id _)
  intro entry member
  have key := sensorHandle_of_mem_mSensors (List.mem_of_mem_filter member)
  rw [setSubHalIndex_zero]
  exact Prod.ext key rfl

theorem lookup_proxySensors (device : Device) (sensorHandle : Handle) :
    device.proxySensors.lookup sensorHandle =
      if subHalIndexIsClear sensorHandle then device.mSensors.lookup sensorHandle else none := by
  rw [proxySensors_eq, OrderedMap.lookup_filter]

end K50sv1.Sensors
