import Mathlib.Algebra.GroupWithZero.Nat
import Mathlib.Data.List.Range
import Mathlib.Tactic.SplitIfs
import K50sv1.Dalvik.Rules

/-!
# The live feature refresh of the Wi-Fi offload service

`patch_wfo_jar` replaces the receiver of `IMS_FEATURE_CHANGED` and gives the service the
methods it calls.  The receiver lets the service read its flags from the properties again,
puts the value that the broadcast itself carries over the one that has not been written yet,
takes all signal-strength callbacks back and notifies MAL.  A request of MAL for such
callbacks takes those of its SIM back instead of adding to them.

The methods are executed by the machine of `K50sv1.Dalvik`.  The stock methods they call are
the rest of the machine: reading the properties may yield anything, and each of them may
throw.
-/

namespace K50sv1.VendorBlobs.WifiOffload

open K50sv1.Transition K50sv1.Dalvik

/-! ## The methods of the patch -/

inductive WfoMethod where
  | updateFeatureValue
  /-- `access$6000`. -/
  | access6000
  /-- `access$000`, which returns the handler of the service. -/
  | access000
  | getIntExtra
  | applyImsFeatureChange
  | unregisterAllRssiMonitoring
  /-- `unregisterAllRssiMonitoring(I)` of the processor. -/
  | processorUnregisterAll
  | obtainMessage
  | sendMessage
  | checkInvalidSimIdx
  deriving DecidableEq, Repr

inductive Feature where
  | volte
  | vilte
  | wfc
  deriving DecidableEq, Repr

inductive WfoField where
  | this0
  | mRssiMonitoringProcessor
  | mSimCount
  /-- `mIsVolteEnabled`, `mIsVilteEnabled` and `mIsWfcEnabled`. -/
  | mIsEnabled (feature : Feature)
  deriving DecidableEq, Repr

inductive WfoLabel where
  | rssiCleanup
  | rssiCleanupDone
  | applyOff
  | applyStore
  | applyNotVolte
  | applyNotVilte
  | applyDone
  | rssiRegistrationDone
  deriving DecidableEq, Repr

abbrev WfoCode := Method WfoMethod WfoField WfoLabel

def access6000 : WfoCode where
  locals := 0
  code := [
    .invoke .direct [.p 0] .updateFeatureValue,
    .returnVoid]

def unregisterAllRssiMonitoring : WfoCode where
  locals := 2
  code := [
    .iget (.v 1) (.p 0) .mRssiMonitoringProcessor,
    .ifTestZ .eq (.v 1) .rssiCleanupDone,
    .const (.v 0) 0x0,
    .label .rssiCleanup,
    .iget (.v 1) (.p 0) .mSimCount,
    .ifTest .ge (.v 0) (.v 1) .rssiCleanupDone,
    .iget (.v 1) (.p 0) .mRssiMonitoringProcessor,
    .invoke .virtual [.v 1, .v 0] .processorUnregisterAll,
    .addIntLit8 (.v 0) (.v 0) 0x1,
    .goto .rssiCleanup,
    .label .rssiCleanupDone,
    .returnVoid]

def applyImsFeatureChange : WfoCode where
  locals := 2
  code := [
    .ifTestZ .lt (.p 1) .applyDone,
    .iget (.v 0) (.p 0) .mSimCount,
    .ifTest .ge (.p 1) (.v 0) .applyDone,
    .ifTestZ .lt (.p 3) .applyDone,
    .const (.v 1) 0x1,
    .ifTest .ne (.p 3) (.v 1) .applyOff,
    .const (.v 0) 0x1,
    .goto .applyStore,
    .label .applyOff,
    .const (.v 0) 0x0,
    .label .applyStore,
    .ifTestZ .ne (.p 2) .applyNotVolte,
    .iget (.v 1) (.p 0) (.mIsEnabled .volte),
    .aputBoolean (.v 0) (.v 1) (.p 1),
    .goto .applyDone,
    .label .applyNotVolte,
    .const (.v 1) 0x1,
    .ifTest .ne (.p 2) (.v 1) .applyNotVilte,
    .iget (.v 1) (.p 0) (.mIsEnabled .vilte),
    .aputBoolean (.v 0) (.v 1) (.p 1),
    .goto .applyDone,
    .label .applyNotVilte,
    .const (.v 1) 0x2,
    .ifTest .ne (.p 2) (.v 1) .applyDone,
    .iget (.v 1) (.p 0) (.mIsEnabled .wfc),
    .aputBoolean (.v 0) (.v 1) (.p 1),
    .label .applyDone,
    .returnVoid]

/-- The number of registers is that of the stock method. -/
def onReceive (locals : Nat) : WfoCode where
  locals
  code := [
    .iget (.v 0) (.p 0) .this0,
    .invoke .static [.v 0] .access6000,
    .const (.v 4) (-0x1),
    .constString (.v 1) "phone_id",
    .invoke .virtual [.p 2, .v 1, .v 4] .getIntExtra,
    .moveResult (.v 1),
    .constString (.v 2) "item",
    .invoke .virtual [.p 2, .v 2, .v 4] .getIntExtra,
    .moveResult (.v 2),
    .constString (.v 3) "value",
    .invoke .virtual [.p 2, .v 3, .v 4] .getIntExtra,
    .moveResult (.v 3),
    .invoke .virtual [.v 0, .v 1, .v 2, .v 3] .applyImsFeatureChange,
    .invoke .virtual [.v 0] .unregisterAllRssiMonitoring,
    .iget (.v 0) (.p 0) .this0,
    .invoke .static [.v 0] .access000,
    .moveResult (.v 0),
    .const (.v 1) 0x14,
    .invoke .virtual [.v 0, .v 1] .obtainMessage,
    .moveResult (.v 1),
    .invoke .virtual [.v 0, .v 1] .sendMessage,
    .returnVoid]

/-- Up to the code that the stock method has behind it. -/
def onRssiMonitorRequest : WfoCode where
  locals := 5
  code := [
    .constString (.v 0) "onRssiMonitorRequest: invalid SIM id",
    .invoke .direct [.p 0, .p 1, .v 0] .checkInvalidSimIdx,
    .moveResult (.v 0),
    .ifTestZ .ne (.v 0) .rssiRegistrationDone,
    .iget (.v 0) (.p 0) .mRssiMonitoringProcessor,
    .invoke .virtual [.v 0, .p 1] .processorUnregisterAll,
    .label .rssiRegistrationDone]

/-- The methods of which the patch has the code. -/
def wfoCode : WfoMethod → Option WfoCode
  | .access6000 => some access6000
  | .applyImsFeatureChange => some applyImsFeatureChange
  | .unregisterAllRssiMonitoring => some unregisterAllRssiMonitoring
  | _ => none

/-! ## The rest of the machine -/

inductive WfoObject where
  | receiver
  | service
  | processor
  | flags (feature : Feature)
  | intent
  | handler
  | message (what : BitVec 32)
  deriving DecidableEq, Repr

abbrev Flags := Feature → Nat → Bool

/-- What a service does not change. -/
structure Setting where
  simCount : Nat
  /-- The count is the length of each array of flags. -/
  small : simCount < 2 ^ 31
  hasProcessor : Bool

/-- The calls that have an effect elsewhere. -/
inductive WfoCall where
  /-- The flags have been read from the properties. -/
  | refresh (flags : Flags)
  /-- The answer of `checkInvalidSimIdx`. -/
  | check (simId : BitVec 32) (invalid : Bool)
  | unregister (simId : BitVec 32)
  /-- A message for the handler, with the flags at this time. -/
  | send (what : BitVec 32) (flags : Flags)

structure WfoState where
  flags : Flags
  calls : List WfoCall

/-- What the environment decides at a call of a stock method. -/
structure Choice (τ : Type) where
  thrown : Option τ
  /-- The properties, if they are read. -/
  refreshed : Flags
  /-- The answer of `checkInvalidSimIdx`. -/
  invalidSimIdx : Bool

def Choice.reply {τ : Type} (choice : Choice τ) (value : Option (Value WfoObject)) :
    Except (Throwable τ) (Option (Value WfoObject)) :=
  match choice.thrown with
  | some exception => .error (.other exception)
  | none => .ok value

variable {τ : Type}

theorem Choice.eq_of_reply_ok {choice : Choice τ} {value result : Option (Value WfoObject)}
    (replied : choice.reply value = .ok result) : value = result := by
  unfold Choice.reply at replied
  split at replied
  · cases replied
  · exact Except.ok.inj replied

theorem Choice.raised_of_reply_error {choice : Choice τ} {value : Option (Value WfoObject)}
    {exception : Throwable τ} (replied : choice.reply value = .error exception) :
    ∃ raised, exception = .other raised := by
  unfold Choice.reply at replied
  split at replied
  · exact ⟨_, (Except.error.inj replied).symm⟩
  · cases replied

def putFlag (flags : Flags) (feature : Feature) (index : Nat) (enabled : Bool) : Flags :=
  Function.update flags feature (Function.update (flags feature) index enabled)

def getField (setting : Setting) : WfoObject → WfoField → Value WfoObject
  | .receiver, .this0 => .ref .service
  | .service, .mRssiMonitoringProcessor =>
      if setting.hasProcessor then .ref .processor else .int 0
  | .service, .mSimCount => .int (BitVec.ofNat 32 setting.simCount)
  | .service, .mIsEnabled feature => .ref (.flags feature)
  | _, _ => .int 0

/-- The stock methods; `extras` are those of the broadcast. -/
def invokeStock (extras : String → Option (BitVec 32)) (state : WfoState) (choice : Choice τ) :
    WfoMethod → List (Value WfoObject) → WfoState × Except (Throwable τ) (Option (Value WfoObject))
  | .updateFeatureValue, [.ref .service] =>
      (⟨choice.refreshed, state.calls ++ [.refresh choice.refreshed]⟩, choice.reply none)
  | .access000, [.ref .service] => (state, choice.reply (some (.ref .handler)))
  | .getIntExtra, [.ref .intent, .text name, .int default] =>
      (state, choice.reply (some (.int ((extras name).getD default))))
  | .processorUnregisterAll, [.ref .processor, .int simId] =>
      ({ state with calls := state.calls ++ [.unregister simId] }, choice.reply none)
  | .obtainMessage, [.ref .handler, .int what] =>
      (state, choice.reply (some (.ref (.message what))))
  | .sendMessage, [.ref .handler, .ref (.message what)] =>
      ({ state with calls := state.calls ++ [.send what state.flags] },
        choice.reply (some (.int 1)))
  | .checkInvalidSimIdx, [.ref .service, .int simId, .text _] =>
      ({ state with calls := state.calls ++ [.check simId choice.invalidSimIdx] },
        choice.reply (some (.int (if choice.invalidSimIdx then 1 else 0))))
  | _, _ => (state, .error .nullPointer)

def wfoHandle (setting : Setting) (extras : String → Option (BitVec 32)) :
    Program.Handler (Request WfoMethod WfoField WfoObject) (Reply τ) WfoState (Choice τ)
  | state, .iget object field, _ => (state, getField setting object field)
  | state, .aputBoolean (.flags feature) index value, _ =>
      if index.toNat < setting.simCount then
        ({ state with flags := putFlag state.flags feature index.toNat value }, .ok ())
      else
        (state, .error .arrayIndexOutOfBounds)
  | state, .aputBoolean .., _ => (state, .error .nullPointer)
  | state, .invoke method arguments, choice => invokeStock extras state choice method arguments

/-! ## What the broadcast asks for -/

/-- The items that have a flag. -/
def featureOf (item : BitVec 32) : Option Feature :=
  if item = 0 then some .volte
  else if item = 1 then some .vilte
  else if item = 2 then some .wfc
  else none

def store (flags : Flags) (item phoneId : BitVec 32) (enabled : Bool) : Flags :=
  match featureOf item with
  | some feature => putFlag flags feature phoneId.toNat enabled
  | none => flags

/-- The value of a broadcast wins if it names a SIM, an item and a value. -/
def changed (simCount : Nat) (phoneId item value : BitVec 32) (flags : Flags) : Flags :=
  if 0 ≤ phoneId.toInt ∧ phoneId.toInt < simCount ∧ 0 ≤ value.toInt then
    store flags item phoneId (value = 1)
  else
    flags

/-! ## `applyImsFeatureChange` -/

section Apply

variable {setting : Setting} {extras : String → Option (BitVec 32)} {state : WfoState}
  {phoneId item value : BitVec 32}

theorem toInt_ofNat {number : Nat} (small : number < 2 ^ 31) :
    (BitVec.ofNat 32 number).toInt = number := by
  rw [BitVec.toInt_eq_toNat_cond, BitVec.toNat_ofNat, Nat.mod_eq_of_lt (by omega)]
  split <;> omega

/-- The parameters of the method, and the flag to store. -/
structure Storing (registers : Nat → Value WfoObject) (phoneId item flag : BitVec 32) : Prop where
  ofThis : registers 2 = .ref .service
  ofPhoneId : registers 3 = .int phoneId
  ofItem : registers 4 = .int item
  ofFlag : registers 0 = .int flag

theorem Storing.scratch {registers : Nat → Value WfoObject} {flag : BitVec 32}
    (storing : Storing registers phoneId item flag) (value : Value WfoObject) :
    Storing (Function.update registers 1 value) phoneId item flag :=
  ⟨storing.ofThis, storing.ofPhoneId, storing.ofItem, storing.ofFlag⟩

/-- The store into the array of a feature. -/
theorem meets_storeFlag {registers : Nat → Value WfoObject} {feature : Feature}
    {flag : BitVec 32} {rest : List (Instruction WfoMethod WfoField WfoLabel)}
    {Q : Outcome WfoObject τ → WfoState → Prop} (storing : Storing registers phoneId item flag)
    (inside : phoneId.toNat < setting.simCount)
    (next : Meets (wfoHandle setting extras) wfoCode applyImsFeatureChange
      ⟨rest, Function.update registers 1 (.ref (.flags feature)), none⟩ Q
      { state with flags := putFlag state.flags feature phoneId.toNat (flag ≠ 0) }) :
    Meets (wfoHandle setting extras) wfoCode applyImsFeatureChange
      ⟨.iget (.v 1) (.p 0) (.mIsEnabled feature) :: .aputBoolean (.v 0) (.v 1) (.p 1) :: rest,
        registers, none⟩ Q state := by
  have handled : ∀ choice : Choice τ, wfoHandle setting extras state
      (.aputBoolean (.flags feature) phoneId (flag ≠ 0)) choice =
      ({ state with flags := putFlag state.flags feature phoneId.toNat (flag ≠ 0) },
        .ok ()) := by
    intro choice
    rw [wfoHandle, if_pos inside]
  refine meets_iget storing.ofThis fun _ => ?_
  have after := storing.scratch (.ref (.flags feature))
  refine meets_aputBoolean after.ofFlag rfl after.ofPhoneId fun choice => ?_
  change (wfoHandle setting extras state _ choice).2 = _ ∧ Meets _ _ _ _ _
    (wfoHandle setting extras state _ choice).1
  rw [handled]
  exact ⟨rfl, next⟩

/-- From the label of the store on. -/
theorem meets_applyStore {registers : Nat → Value WfoObject} {flag : BitVec 32} {enabled : Bool}
    (storing : Storing registers phoneId item flag) (isFlag : decide (flag ≠ 0) = enabled)
    (inside : phoneId.toNat < setting.simCount) :
    Meets (wfoHandle (τ := τ) setting extras) wfoCode applyImsFeatureChange
      ⟨applyImsFeatureChange.code.drop 11, registers, none⟩
      (Ends (fun result after => result = none ∧
          after = { state with flags := store state.flags item phoneId enabled })
        fun _ _ => False) state := by
  subst isFlag
  have tested : Comparison.holdsZ .ne (registers 4) = some (decide (item ≠ 0)) := by
    rw [storing.ofItem]
    rfl
  refine meets_ifTestZ tested rfl (fun notVolte => ?_) fun volte => ?_
  · refine meets_const ?_
    have again := storing.scratch (.int 1)
    refine meets_ifTest again.ofItem rfl rfl (fun notVilte => ?_) fun vilte => ?_
    · refine meets_const ?_
      have third := again.scratch (.int 2)
      refine meets_ifTest third.ofItem rfl rfl (fun other => ?_) fun wfc => ?_
      · have unknown : featureOf item = none := by
          rw [featureOf, if_neg (of_decide_eq_true notVolte), if_neg (of_decide_eq_true notVilte),
            if_neg (of_decide_eq_true other)]
        refine meets_returnVoid ⟨rfl, ?_⟩
        rw [store, unknown]
      · obtain rfl : item = 2 := not_not.mp (of_decide_eq_false wfc)
        exact meets_storeFlag third inside (meets_label (meets_returnVoid ⟨rfl, rfl⟩))
    · obtain rfl : item = 1 := not_not.mp (of_decide_eq_false vilte)
      exact meets_storeFlag again inside (meets_goto rfl (meets_returnVoid ⟨rfl, rfl⟩))
  · obtain rfl : item = 0 := not_not.mp (of_decide_eq_false volte)
    exact meets_storeFlag storing inside (meets_goto rfl (meets_returnVoid ⟨rfl, rfl⟩))

theorem meets_applyImsFeatureChange :
    Meets (wfoHandle (τ := τ) setting extras) wfoCode applyImsFeatureChange
      (applyImsFeatureChange.enter [.ref .service, .int phoneId, .int item, .int value])
      (Ends (fun result after => result = none ∧
          after = { state with flags := changed setting.simCount phoneId item value state.flags })
        fun _ _ => False) state := by
  have count := toInt_ofNat setting.small
  -- every way out but the last leaves the flags alone
  have skipped : ¬(0 ≤ phoneId.toInt ∧ phoneId.toInt < setting.simCount ∧ 0 ≤ value.toInt) →
      ∀ registers, Meets (wfoHandle (τ := τ) setting extras) wfoCode applyImsFeatureChange
        ⟨[.returnVoid], registers, none⟩
        (Ends (fun result after => result = none ∧
            after = { state with
              flags := changed setting.simCount phoneId item value state.flags })
          fun _ _ => False) state := by
    intro invalid registers
    refine meets_returnVoid ⟨rfl, ?_⟩
    rw [changed, if_neg invalid]
  refine meets_ifTestZ rfl rfl (fun negative => skipped ?_ _) fun nonnegative => ?_
  · have below : phoneId.toInt < 0 := of_decide_eq_true negative
    omega
  have phoneLower : ¬phoneId.toInt < 0 := of_decide_eq_false nonnegative
  refine meets_iget rfl fun _ => ?_
  refine meets_ifTest rfl rfl rfl (fun beyond => skipped ?_ _) fun within => ?_
  · have above : (BitVec.ofNat 32 setting.simCount).toInt ≤ phoneId.toInt :=
      of_decide_eq_true beyond
    omega
  have phoneUpper : ¬(BitVec.ofNat 32 setting.simCount).toInt ≤ phoneId.toInt :=
    of_decide_eq_false within
  refine meets_ifTestZ rfl rfl (fun negative => skipped ?_ _) fun valued => ?_
  · have below : value.toInt < 0 := of_decide_eq_true negative
    omega
  have valueLower : ¬value.toInt < 0 := of_decide_eq_false valued
  have inside : phoneId.toNat < setting.simCount := by
    have natural := BitVec.toInt_eq_toNat_cond phoneId
    split at natural <;> omega
  rw [changed, if_pos (by omega)]
  refine meets_const (meets_ifTest rfl rfl rfl (fun off => ?_) fun on => ?_)
  · rw [decide_eq_false (of_decide_eq_true off)]
    exact meets_const (meets_label (meets_applyStore ⟨rfl, rfl, rfl, rfl⟩ rfl inside))
  · rw [decide_eq_true (not_not.mp (of_decide_eq_false on))]
    exact meets_const (meets_goto rfl (meets_applyStore ⟨rfl, rfl, rfl, rfl⟩ rfl inside))

end Apply

/-! ## `unregisterAllRssiMonitoring` -/

section Cleanup

variable {setting : Setting} {extras : String → Option (BitVec 32)} {state : WfoState}

def unregister (simId : Nat) : WfoCall :=
  .unregister (BitVec.ofNat 32 simId)

/-- The calls for all SIMs. -/
def Setting.unregisters (setting : Setting) : List WfoCall :=
  if setting.hasProcessor then (List.range setting.simCount).map unregister else []

/-- The method has made all the calls, or some of them up to one that threw. -/
def Calls (state : WfoState) (calls : List WfoCall) : Outcome WfoObject τ → WfoState → Prop :=
  Ends (fun result after => result = none ∧
      after = { state with calls := state.calls ++ calls })
    fun exception after => (∃ raised, exception = .other raised) ∧
      ∃ done, done <+: calls ∧ after = { state with calls := state.calls ++ done }

theorem Calls.cons {call : WfoCall} {calls : List WfoCall} {outcome : Outcome WfoObject τ}
    {after : WfoState}
    (rest : Calls { state with calls := state.calls ++ [call] } calls outcome after) :
    Calls state (call :: calls) outcome after := by
  cases outcome with
  | returned result =>
      obtain ⟨none, rfl⟩ := rest
      exact ⟨none, congrArg (WfoState.mk state.flags) (List.append_assoc ..)⟩
  | thrown exception =>
      obtain ⟨raised, done, early, rfl⟩ := rest
      refine ⟨raised, call :: done, List.prefix_cons_inj call |>.mpr early, ?_⟩
      exact congrArg (WfoState.mk state.flags) (List.append_assoc ..)
  | continues registers => exact rest.elim
  | stuck => exact rest.elim
  | unfinished => exact rest.elim

/-- From the label of the loop on. -/
theorem meets_rssiCleanup (hasProcessor : setting.hasProcessor = true) (left simId : Nat)
    (count : simId + left = setting.simCount) {registers : Nat → Value WfoObject}
    (ofIndex : registers 0 = .int (BitVec.ofNat 32 simId)) (ofThis : registers 2 = .ref .service) :
    Meets (wfoHandle (τ := τ) setting extras) wfoCode unregisterAllRssiMonitoring
      ⟨unregisterAllRssiMonitoring.code.drop 4, registers, none⟩
      (Calls state ((List.range' simId left).map unregister)) state := by
  have small := setting.small
  have toIntCount := toInt_ofNat small
  have processor : getField setting .service .mRssiMonitoringProcessor = .ref .processor :=
    if_pos hasProcessor
  induction left generalizing simId registers state with
  | zero =>
      have toIntSim := toInt_ofNat (show simId < 2 ^ 31 by omega)
      refine meets_iget ofThis fun _ => ?_
      refine meets_ifTest ofIndex rfl rfl (fun done => ?_) fun more => ?_
      · refine meets_returnVoid ⟨rfl, ?_⟩
        exact congrArg (WfoState.mk state.flags) (List.append_nil state.calls).symm
      · have below : ¬(BitVec.ofNat 32 setting.simCount).toInt ≤ (BitVec.ofNat 32 simId).toInt :=
          of_decide_eq_false more
        omega
  | succ left ih =>
      have toIntSim := toInt_ofNat (show simId < 2 ^ 31 by omega)
      refine meets_iget ofThis fun _ => ?_
      refine meets_ifTest ofIndex rfl rfl (fun done => ?_) fun more => ?_
      · have above : (BitVec.ofNat 32 setting.simCount).toInt ≤ (BitVec.ofNat 32 simId).toInt :=
          of_decide_eq_true done
        omega
      refine meets_iget ofThis fun _ => ?_
      refine meets_invoke (congrArg₂ (fun object simId => [object, simId]) processor ofIndex) rfl
        rfl ?_ ?_
      · intro choice value returned
        obtain rfl := Choice.eq_of_reply_ok returned
        refine meets_addIntLit8 ofIndex (meets_goto rfl ?_)
        refine Meets.mono (ih (simId + 1) (by omega) ?_ ofThis) fun _ _ => Calls.cons
        exact congrArg Value.int (BitVec.ofNat_add ..).symm
      · intro choice exception threw
        refine ⟨Choice.raised_of_reply_error threw, [unregister simId], ?_, rfl⟩
        exact ⟨_, rfl⟩

theorem meets_unregisterAllRssiMonitoring :
    Meets (wfoHandle (τ := τ) setting extras) wfoCode unregisterAllRssiMonitoring
      (unregisterAllRssiMonitoring.enter [.ref .service]) (Calls state setting.unregisters)
      state := by
  rw [Setting.unregisters]
  refine meets_iget rfl fun _ => ?_
  cases hasProcessor : setting.hasProcessor with
  | true =>
      have processor : getField setting .service .mRssiMonitoringProcessor = .ref .processor :=
        if_pos hasProcessor
      refine meets_ifTestZ (congrArg (Comparison.holdsZ .eq) processor) rfl nofun fun _ => ?_
      rw [if_pos rfl, List.range_eq_range']
      refine meets_const (meets_label ?_)
      exact meets_rssiCleanup hasProcessor setting.simCount 0 (Nat.zero_add _) rfl rfl
  | false =>
      have missing : getField setting .service .mRssiMonitoringProcessor = .int 0 :=
        if_neg (by simp [hasProcessor])
      refine meets_ifTestZ (congrArg (Comparison.holdsZ .eq) missing) rfl (fun _ => ?_) nofun
      refine meets_returnVoid ⟨rfl, ?_⟩
      exact congrArg (WfoState.mk state.flags) (List.append_nil state.calls).symm

end Cleanup

/-! ## `onReceive` -/

section Receive

variable {setting : Setting} {extras : String → Option (BitVec 32)} {state : WfoState}

/-- An extra of the broadcast, with the default that the receiver gives. -/
def intExtra (extras : String → Option (BitVec 32)) (name : String) : BitVec 32 :=
  (extras name).getD (-1)

/-- The flags after a broadcast, from those that were read from the properties. -/
def received (setting : Setting) (extras : String → Option (BitVec 32)) (refreshed : Flags) :
    Flags :=
  changed setting.simCount (intExtra extras "phone_id") (intExtra extras "item")
    (intExtra extras "value") refreshed

/-- The calls of a broadcast that is handled to its end. -/
def notification (setting : Setting) (extras : String → Option (BitVec 32))
    (refreshed : Flags) : List WfoCall :=
  .refresh refreshed :: setting.unregisters ++ [.send 20 (received setting extras refreshed)]

theorem meets_access6000 :
    Meets (wfoHandle (τ := τ) setting extras) wfoCode access6000
      (access6000.enter [.ref .service])
      (Ends (fun result after => result = none ∧
          ∃ refreshed, after = ⟨refreshed, state.calls ++ [.refresh refreshed]⟩)
        fun exception after => (∃ raised, exception = .other raised) ∧
          ∃ refreshed, after = ⟨refreshed, state.calls ++ [.refresh refreshed]⟩) state := by
  refine meets_invoke rfl rfl rfl ?_ ?_
  · intro choice value returned
    exact meets_returnVoid ⟨rfl, choice.refreshed, rfl⟩
  · intro choice exception threw
    exact ⟨Choice.raised_of_reply_error threw, choice.refreshed, rfl⟩

/-- The registers of the parameters, which are above all others. -/
structure Receiving (locals : Nat) (registers : Nat → Value WfoObject) : Prop where
  ofThis : registers (locals + 0) = .ref .receiver
  ofIntent : registers (locals + 2) = .ref .intent

theorem refresh_early (setting : Setting) (extras : String → Option (BitVec 32))
    (refreshed : Flags) {done : List WfoCall} (early : done <+: setting.unregisters) :
    .refresh refreshed :: done <+: notification setting extras refreshed :=
  ((List.prefix_cons_inj _).mpr early).trans ⟨_, rfl⟩

theorem Receiving.set {locals number : Nat} {registers : Nat → Value WfoObject}
    (receiving : Receiving locals registers) (below : number < locals) (value : Value WfoObject) :
    Receiving locals (Function.update registers number value) where
  ofThis := by
    rw [Function.update_of_ne (by omega)]
    exact receiving.ofThis
  ofIntent := by
    rw [Function.update_of_ne (by omega)]
    exact receiving.ofIntent

theorem receiving_enter (locals : Nat) (context : Value WfoObject) :
    Receiving locals ((onReceive locals).enter [.ref .receiver, context, .ref .intent]).registers
    where
  ofThis := by simp [Method.enter, onReceive]
  ofIntent := by simp [Method.enter, onReceive]

/-- One of the three extras is fetched into `v1`, `v2` or `v3`. -/
theorem meets_getIntExtra {locals number : Nat} {registers : Nat → Value WfoObject}
    {rest : List (Instruction WfoMethod WfoField WfoLabel)} {result : Option (Value WfoObject)}
    {Q : Outcome WfoObject τ → WfoState → Prop} {name : String}
    (receiving : Receiving locals registers) (below : number < locals) (other : 4 ≠ number)
    (default : registers 4 = .int (-1))
    (next : Meets (wfoHandle setting extras) wfoCode (onReceive locals)
      ⟨rest, Function.update registers number (.int (intExtra extras name)), none⟩ Q state)
    (threw : ∀ raised, Q (.thrown (.other raised)) state) :
    Meets (wfoHandle setting extras) wfoCode (onReceive locals)
      ⟨.constString (.v number) name :: .invoke .virtual [.p 2, .v number, .v 4] .getIntExtra ::
        .moveResult (.v number) :: rest, registers, result⟩ Q state := by
  refine meets_constString ?_
  have loaded : [.p 2, .v number, .v 4].map (fun register =>
      Function.update registers number (.text name) ((onReceive locals).number register)) =
      [.ref .intent, .text name, .int (-1)] := by
    have ofIntent := (receiving.set below (.text name)).ofIntent
    simp [Method.number, onReceive, ofIntent, Function.update_of_ne other, default]
  refine meets_invoke loaded rfl rfl ?_ ?_
  · intro choice value returned
    obtain rfl := Choice.eq_of_reply_ok returned
    refine meets_moveResult ?_
    rw [show (onReceive locals).number (.v number) = number from rfl, Function.update_idem]
    exact next
  · intro choice exception exceptional
    obtain ⟨raised, rfl⟩ := Choice.raised_of_reply_error exceptional
    exact threw raised

/-- A broadcast has been handled to its end, or some of its calls up to one that threw have
been made. -/
def Broadcast (setting : Setting) (extras : String → Option (BitVec 32)) (state : WfoState) :
    Outcome WfoObject τ → WfoState → Prop :=
  Ends (fun result after => result = none ∧ ∃ refreshed,
      after = ⟨received setting extras refreshed,
        state.calls ++ notification setting extras refreshed⟩)
    fun exception after => (∃ raised, exception = .other raised) ∧ ∃ refreshed done,
      done <+: notification setting extras refreshed ∧ after.calls = state.calls ++ done

/-- The end of the receiver: MAL is told about the flags. -/
theorem meets_notify {locals : Nat} {registers : Nat → Value WfoObject} {refreshed : Flags}
    (receiving : Receiving locals registers) :
    Meets (wfoHandle (τ := τ) setting extras) wfoCode (onReceive locals)
      ⟨(onReceive locals).code.drop 14, registers, none⟩ (Broadcast setting extras state)
      ⟨received setting extras refreshed,
        state.calls ++ .refresh refreshed :: setting.unregisters⟩ := by
  have early := refresh_early setting extras refreshed
    (List.prefix_refl setting.unregisters)
  refine meets_iget receiving.ofThis fun _ => ?_
  refine meets_invoke rfl rfl rfl ?_ ?_
  · intro choice value returned
    obtain rfl := Choice.eq_of_reply_ok returned
    refine meets_moveResult (meets_const ?_)
    refine meets_invoke rfl rfl rfl ?_ ?_
    · intro choice value returned
      obtain rfl := Choice.eq_of_reply_ok returned
      refine meets_moveResult ?_
      refine meets_invoke rfl rfl rfl ?_ ?_
      · intro choice value returned
        refine meets_returnVoid ⟨rfl, refreshed, ?_⟩
        exact congrArg (WfoState.mk _) (List.append_assoc ..)
      · intro choice exception threw
        exact ⟨Choice.raised_of_reply_error threw, refreshed, _, List.prefix_refl _,
          List.append_assoc ..⟩
    · intro choice exception threw
      exact ⟨Choice.raised_of_reply_error threw, refreshed, _, early, rfl⟩
  · intro choice exception threw
    exact ⟨Choice.raised_of_reply_error threw, refreshed, _, early, rfl⟩

/-- The method needs five registers of its own. -/
theorem meets_onReceive {locals : Nat} (enough : 5 ≤ locals) (context : Value WfoObject) :
    Meets (wfoHandle (τ := τ) setting extras) wfoCode (onReceive locals)
      ((onReceive locals).enter [.ref .receiver, context, .ref .intent])
      (Broadcast setting extras state) state := by
  have receiving := receiving_enter locals context
  refine meets_iget receiving.ofThis fun _ => ?_
  have service := receiving.set (show 0 < locals by omega) (.ref .service)
  refine meets_invokeCode rfl rfl rfl meets_access6000 ?_ ?_
  · rintro value after ⟨-, refreshed, rfl⟩
    have early := refresh_early setting extras refreshed List.nil_prefix
    have threw : ∀ raised : τ, Broadcast setting extras state (.thrown (.other raised))
        ⟨refreshed, state.calls ++ [.refresh refreshed]⟩ :=
      fun raised => ⟨⟨raised, rfl⟩, refreshed, _, early, rfl⟩
    refine meets_const ?_
    have default := service.set (show 4 < locals by omega) (.int (-1))
    refine meets_getIntExtra default (by omega) (by decide) rfl ?_ threw
    have phoneId := default.set (show 1 < locals by omega) (.int (intExtra extras "phone_id"))
    refine meets_getIntExtra phoneId (by omega) (by decide) rfl ?_ threw
    have item := phoneId.set (show 2 < locals by omega) (.int (intExtra extras "item"))
    refine meets_getIntExtra item (by omega) (by decide) rfl ?_ threw
    have value := item.set (show 3 < locals by omega) (.int (intExtra extras "value"))
    refine meets_invokeCode rfl rfl rfl meets_applyImsFeatureChange ?_ nofun
    rintro _ after ⟨-, rfl⟩
    refine meets_invokeCode rfl rfl rfl meets_unregisterAllRssiMonitoring ?_ ?_
    · rintro _ after ⟨rfl, rfl⟩
      dsimp only
      rw [List.append_assoc]
      exact meets_notify value
    · rintro exception after ⟨raised, done, early, rfl⟩
      exact ⟨raised, refreshed, _, refresh_early setting extras refreshed early,
        List.append_assoc ..⟩
  · rintro exception after ⟨raised, refreshed, rfl⟩
    exact ⟨raised, refreshed, _, refresh_early setting extras refreshed List.nil_prefix, rfl⟩

end Receive

/-! ## `onRssiMonitorRequest` -/

section RssiRequest

variable {setting : Setting} {extras : String → Option (BitVec 32)} {state : WfoState}
  {simId size : BitVec 32} {thresholds : Value WfoObject}

/-- The parameters of the method are still in their registers. -/
def KeepsParameters (simId size : BitVec 32) (thresholds : Value WfoObject)
    (registers : Nat → Value WfoObject) : Prop :=
  [5, 6, 7, 8].map registers = [.ref .service, .int simId, .int size, thresholds]

/-- The calls of a request up to the stock code behind the patch: those for a valid SIM need
the processor. -/
inductive Setting.Requests (setting : Setting) (simId : BitVec 32) : List WfoCall → Prop
  | invalid : setting.Requests simId [.check simId true]
  | valid (processor : setting.hasProcessor = true) :
      setting.Requests simId [.check simId false, .unregister simId]

/-- The stock code behind the patch is reached with its parameters, and the callbacks of a
valid SIM have been taken back; or a stock method threw, or a valid SIM was to lose its
callbacks without a processor. -/
def RssiRequest (setting : Setting) (simId size : BitVec 32) (thresholds : Value WfoObject)
    (state : WfoState) : Outcome WfoObject τ → WfoState → Prop
  | .continues registers, after => KeepsParameters simId size thresholds registers ∧
      ∃ calls, setting.Requests simId calls ∧ after = { state with calls := state.calls ++ calls }
  | .thrown .nullPointer, after => setting.hasProcessor = false ∧
      after = { state with calls := state.calls ++ [.check simId false] }
  | .thrown (.other _), after => ∃ done invalid,
      (done = [.check simId invalid] ∨ setting.Requests simId done) ∧
        after = { state with calls := state.calls ++ done }
  | _, _ => False

theorem meets_onRssiMonitorRequest :
    Meets (wfoHandle (τ := τ) setting extras) wfoCode onRssiMonitorRequest
      (onRssiMonitorRequest.enter [.ref .service, .int simId, .int size, thresholds])
      (RssiRequest setting simId size thresholds state) state := by
  refine meets_constString (meets_invoke rfl rfl rfl ?_ ?_)
  · intro choice value returned
    obtain rfl := Choice.eq_of_reply_ok returned
    refine meets_moveResult ?_
    have checked : Comparison.holdsZ (ω := WfoObject) .ne
        (.int (if choice.invalidSimIdx then 1 else 0)) = some choice.invalidSimIdx := by
      cases choice.invalidSimIdx <;> rfl
    refine meets_ifTestZ checked rfl (fun invalid => ?_) fun valid => ?_
    · refine meets_end ⟨rfl, _, .invalid, ?_⟩
      rw [← invalid]
      rfl
    refine meets_iget rfl fun _ => ?_
    cases hasProcessor : setting.hasProcessor with
    | true =>
        have processor : getField setting .service .mRssiMonitoringProcessor = .ref .processor :=
          if_pos hasProcessor
        refine meets_invoke (congrArg (fun object => [object, Value.int simId]) processor) rfl rfl
          ?_ ?_
        · intro _ value returned
          refine meets_label (meets_end ⟨rfl, _, .valid hasProcessor, ?_⟩)
          rw [← valid]
          exact congrArg (WfoState.mk state.flags) (List.append_assoc ..)
        · intro _ exception threw
          obtain ⟨raised, rfl⟩ := Choice.raised_of_reply_error threw
          refine ⟨_, false, .inr (.valid hasProcessor), ?_⟩
          rw [← valid]
          exact congrArg (WfoState.mk state.flags) (List.append_assoc ..)
    | false =>
        have missing : getField setting .service .mRssiMonitoringProcessor = .int 0 :=
          if_neg (by simp [hasProcessor])
        refine meets_invoke_null (congrArg (fun object => [object, Value.int simId]) missing) rfl
          ⟨hasProcessor, ?_⟩
        rw [← valid]
        rfl
  · intro choice exception threw
    obtain ⟨raised, rfl⟩ := Choice.raised_of_reply_error threw
    exact ⟨_, choice.invalidSimIdx, .inl rfl, rfl⟩

end RssiRequest

/-! ## Broadcasts and requests in any order -/

/-- What reaches the service, with what the stock methods answer meanwhile. -/
inductive WfoEvent (τ : Type) where
  | broadcast (extras : String → Option (BitVec 32)) (context : Value WfoObject)
      (choices : Nat → Choice τ)
  | rssiRequest (simId size : BitVec 32) (thresholds : Value WfoObject) (choices : Nat → Choice τ)

/-- How an event was handled: the end of the method, its calls and the flags it leaves. -/
structure Report (τ : Type) where
  outcome : Outcome WfoObject τ
  calls : List WfoCall
  flags : Flags

/-- What the machine makes of an event, for every sufficient number of steps. -/
def WfoEvent.Executes (setting : Setting) (locals : Nat) (flags : Flags) (report : Report τ) :
    WfoEvent τ → Prop
  | .broadcast extras context choices =>
      Program.SettlesOn (wfoHandle setting extras)
        (fun steps => (onReceive locals).call wfoCode steps
          [.ref .receiver, context, .ref .intent])
        ⟨flags, []⟩ choices report.outcome ⟨report.flags, report.calls⟩
  | .rssiRequest simId size thresholds choices =>
      Program.SettlesOn (wfoHandle setting fun _ => none)
        (fun steps => onRssiMonitorRequest.call wfoCode steps
          [.ref .service, .int simId, .int size, thresholds])
        ⟨flags, []⟩ choices report.outcome ⟨report.flags, report.calls⟩

/-- The reports of events that are handled one after the other. -/
inductive Serves (setting : Setting) (locals : Nat) :
    Flags → List (WfoEvent τ) → List (Report τ) → Prop
  | nil {flags : Flags} : Serves setting locals flags [] []
  | cons {flags : Flags} {event : WfoEvent τ} {report : Report τ} {events : List (WfoEvent τ)}
      {reports : List (Report τ)} (executes : event.Executes setting locals flags report)
      (rest : Serves setting locals report.flags events reports) :
      Serves setting locals flags (event :: events) (report :: reports)

/-- How an event is handled, with every way that it can end. -/
inductive Handled (setting : Setting) (flags : Flags) : WfoEvent τ → Report τ → Prop
  /-- The flags are those of the properties with the value of the broadcast over them, each
  SIM has lost its callbacks if there is a processor, and MAL is told last. -/
  | notified {extras : String → Option (BitVec 32)} {context : Value WfoObject}
      {choices : Nat → Choice τ} {refreshed : Flags} :
      Handled setting flags (.broadcast extras context choices)
        ⟨.returned none, notification setting extras refreshed,
          received setting extras refreshed⟩
  /-- A stock method threw; nothing was done out of order. -/
  | interrupted {extras : String → Option (BitVec 32)} {context : Value WfoObject}
      {choices : Nat → Choice τ} {raised : τ} {refreshed after : Flags} {done : List WfoCall}
      (early : done <+: notification setting extras refreshed) :
      Handled setting flags (.broadcast extras context choices)
        ⟨.thrown (.other raised), done, after⟩
  /-- No callback is added, those of a valid SIM are taken back, and the stock code goes on. -/
  | refused {simId size : BitVec 32} {thresholds : Value WfoObject} {choices : Nat → Choice τ}
      {registers : Nat → Value WfoObject} {calls : List WfoCall}
      (kept : KeepsParameters simId size thresholds registers)
      (requests : setting.Requests simId calls) :
      Handled setting flags (.rssiRequest simId size thresholds choices)
        ⟨.continues registers, calls, flags⟩
  /-- Without a processor the request for a valid SIM takes nothing back and ends here. -/
  | noProcessor {simId size : BitVec 32} {thresholds : Value WfoObject}
      {choices : Nat → Choice τ} (missing : setting.hasProcessor = false) :
      Handled setting flags (.rssiRequest simId size thresholds choices)
        ⟨.thrown .nullPointer, [.check simId false], flags⟩
  /-- The check of the SIM threw, or the taking back. -/
  | failed {simId size : BitVec 32} {thresholds : Value WfoObject} {choices : Nat → Choice τ}
      {raised : τ} {invalid : Bool} {done : List WfoCall}
      (early : done = [.check simId invalid] ∨ setting.Requests simId done) :
      Handled setting flags (.rssiRequest simId size thresholds choices)
        ⟨.thrown (.other raised), done, flags⟩

/-- Each event of a sequence is handled, from the flags that the ones before it left. -/
inductive HandledAll (setting : Setting) : Flags → List (WfoEvent τ) → List (Report τ) → Prop
  | nil {flags : Flags} : HandledAll setting flags [] []
  | cons {flags : Flags} {event : WfoEvent τ} {report : Report τ} {events : List (WfoEvent τ)}
      {reports : List (Report τ)} (handled : Handled setting flags event report)
      (rest : HandledAll setting report.flags events reports) :
      HandledAll setting flags (event :: events) (report :: reports)

theorem WfoEvent.executes (setting : Setting) {locals : Nat} (enough : 5 ≤ locals) (flags : Flags)
    (event : WfoEvent τ) : ∃ report, event.Executes setting locals flags report := by
  cases event with
  | broadcast extras context choices =>
      obtain ⟨outcome, after, -, on⟩ := (meets_onReceive enough context).run choices
      exact ⟨⟨outcome, after.calls, after.flags⟩, on⟩
  | rssiRequest simId size thresholds choices =>
      obtain ⟨outcome, after, -, on⟩ := meets_onRssiMonitorRequest.run choices
      exact ⟨⟨outcome, after.calls, after.flags⟩, on⟩

theorem WfoEvent.Executes.handled {setting : Setting} {locals : Nat} (enough : 5 ≤ locals)
    {flags : Flags} {event : WfoEvent τ} {report : Report τ}
    (executes : event.Executes setting locals flags report) :
    Handled setting flags event report := by
  obtain ⟨outcome, calls, after⟩ := report
  cases event with
  | broadcast extras context choices =>
      simp only [WfoEvent.Executes] at executes
      have post := (meets_onReceive enough context).of_settlesOn executes
      cases outcome with
      | returned value =>
          obtain ⟨rfl, refreshed, same⟩ := post
          obtain ⟨rfl, rfl⟩ := WfoState.mk.inj same
          exact .notified
      | thrown exception =>
          obtain ⟨⟨raised, rfl⟩, refreshed, done, early, rfl⟩ := post
          exact .interrupted early
      | continues registers => exact post.elim
      | stuck => exact post.elim
      | unfinished => exact post.elim
  | rssiRequest simId size thresholds choices =>
      simp only [WfoEvent.Executes] at executes
      have post := meets_onRssiMonitorRequest.of_settlesOn executes
      cases outcome with
      | continues registers =>
          obtain ⟨kept, made, requests, same⟩ := post
          obtain ⟨rfl, rfl⟩ := WfoState.mk.inj same
          exact .refused kept requests
      | thrown exception =>
          cases exception with
          | nullPointer =>
              obtain ⟨missing, same⟩ := post
              obtain ⟨rfl, rfl⟩ := WfoState.mk.inj same
              exact .noProcessor missing
          | arrayIndexOutOfBounds => exact post.elim
          | other raised =>
              obtain ⟨done, invalid, early, same⟩ := post
              obtain ⟨rfl, rfl⟩ := WfoState.mk.inj same
              exact .failed early
      | returned value => exact post.elim
      | stuck => exact post.elim
      | unfinished => exact post.elim

/-- Broadcasts and requests in any order are all handled, each of them in one of the ways of
`Handled`. -/
theorem live_feature_refresh (setting : Setting) (locals : Nat) (enough : 5 ≤ locals)
    (flags : Flags) (events : List (WfoEvent τ)) :
    (∃ reports, Serves setting locals flags events reports) ∧
      ∀ reports, Serves setting locals flags events reports →
        HandledAll setting flags events reports := by
  constructor
  · induction events generalizing flags with
    | nil => exact ⟨[], .nil⟩
    | cons event events ih =>
        obtain ⟨report, executes⟩ := event.executes setting enough flags
        obtain ⟨reports, rest⟩ := ih report.flags
        exact ⟨report :: reports, .cons executes rest⟩
  · intro reports serves
    induction serves with
    | nil => exact .nil
    | cons executes rest ih => exact .cons (executes.handled enough) ih

def twoSims : Setting where
  simCount := 2
  small := by decide
  hasProcessor := true

/-- VoLTE is switched on for the second SIM while the property still says that it is off. -/
def volteOn : String → Option (BitVec 32)
  | "phone_id" => some 1
  | "item" => some 0
  | "value" => some 1
  | _ => none

def quiet : Nat → Choice Unit :=
  fun _ => ⟨none, fun _ _ => false, false⟩

theorem live_feature_refresh_volteOn :
    ∃ reports, Serves twoSims 5 (fun _ _ => false)
        [.broadcast volteOn (.int 0) quiet, .rssiRequest 1 5 (.int 0) quiet] reports ∧
      HandledAll twoSims (fun _ _ => false)
        [.broadcast volteOn (.int 0) quiet, .rssiRequest 1 5 (.int 0) quiet] reports := by
  obtain ⟨⟨reports, serves⟩, handled⟩ := live_feature_refresh twoSims 5 (Nat.le_refl 5)
    (fun _ _ => false) [.broadcast volteOn (.int 0) quiet, .rssiRequest 1 5 (.int 0) quiet]
  exact ⟨reports, serves, handled reports serves⟩

example :
    let after := (((onReceive 5).call wfoCode 80 [.ref .receiver, .int 0, .ref .intent]).run
      (wfoHandle twoSims volteOn) ⟨fun _ _ => false, []⟩ quiet).2
    (after.calls.length, after.flags .volte 0, after.flags .volte 1, after.flags .wfc 1) =
      (4, false, true, false) := by
  decide +kernel

end K50sv1.VendorBlobs.WifiOffload
