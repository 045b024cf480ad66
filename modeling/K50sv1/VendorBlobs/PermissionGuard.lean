import Mathlib.Algebra.GroupWithZero.Nat
import Mathlib.Data.List.Nodup
import Mathlib.Data.List.Perm.Subperm
import Mathlib.Data.List.Range
import Mathlib.Tactic.SplitIfs
import K50sv1.Dalvik.Rules

/-!
# The permission guards of the vendor services

Two vendor services answer remote calls without looking at the caller.  `extract-files.sh`
gives both classes an `onTransact` of their own, in assembler text, which demands a
permission for each transaction of the interface and then goes on to the one of the stock
class.  The guard is executed here by the machine of `K50sv1.Dalvik`; what the stock class
does is left open.
-/

namespace K50sv1.VendorBlobs.PermissionGuard

open K50sv1.Transition K50sv1.Dalvik

/-! ## The guard -/

inductive GuardMethod where
  | enforceCallingOrSelfPermission
  /-- `onTransact` of the stock class. -/
  | superOnTransact
  deriving DecidableEq, Repr

inductive GuardField where
  | mContext
  deriving DecidableEq, Repr

inductive GuardLabel where
  | read
  | modify
  | enforce
  | dispatch
  | permission
  deriving DecidableEq, Repr

inductive Permission where
  | readPrivilegedPhoneState
  | modifyPhoneState
  deriving DecidableEq, Repr

def Permission.name : Permission → String
  | .readPrivilegedPhoneState => "android.permission.READ_PRIVILEGED_PHONE_STATE"
  | .modifyPhoneState => "android.permission.MODIFY_PHONE_STATE"

/-- What the two guards differ in: the text they put into the exception and the table of the
switch. -/
structure Service where
  message : String
  targets : List GuardLabel

def Service.onTransact (service : Service) : Method GuardMethod GuardField GuardLabel where
  locals := 3
  code := [
    .packedSwitch (.p 1) .permission,
    .goto .dispatch,
    .label .read,
    .constString (.v 1) Permission.readPrivilegedPhoneState.name,
    .goto .enforce,
    .label .modify,
    .constString (.v 1) Permission.modifyPhoneState.name,
    .label .enforce,
    .iget (.v 0) (.p 0) .mContext,
    .constString (.v 2) service.message,
    .invoke .virtual [.v 0, .v 1, .v 2] .enforceCallingOrSelfPermission,
    .label .dispatch,
    .invoke .super [.p 0, .p 1, .p 2, .p 3, .p 4] .superOnTransact,
    .moveResult (.v 0),
    .returnValue (.v 0),
    .label .permission,
    .packedSwitchData 1 service.targets]

/-! ## The two services -/

namespace MtkImsService

/-- The methods of the interface in the order of their transactions. -/
def methods : List String := [
  "setCallIndication(ILjava/lang/String;Ljava/lang/String;ILjava/lang/String;ZI)V",
  "createMtkCallSession(ILandroid/telephony/ims/ImsCallProfile;" ++
    "Landroid/telephony/ims/aidl/IImsCallSessionListener;" ++
    "Lcom/android/ims/internal/IImsCallSession;)" ++
    "Lcom/mediatek/ims/internal/IMtkImsCallSession;",
  "getPendingMtkCallSession(ILjava/lang/String;)Lcom/mediatek/ims/internal/IMtkImsCallSession;",
  "getImsState(I)I",
  "getImsRegUriType(I)I",
  "hangupAllCall(I)V",
  "deregisterIms(I)V",
  "updateRadioState(II)V",
  "UpdateImsState(I)V",
  "getConfigInterfaceEx(I)Lcom/mediatek/ims/internal/IMtkImsConfig;",
  "getMtkUtInterface(I)Lcom/mediatek/ims/internal/IMtkImsUt;",
  "runGbaAuthentication(Ljava/lang/String;[BZII)Lcom/mediatek/gba/NafSessionKey;",
  "getModemMultiImsCount()I",
  "getCurrentCallCount(I)I",
  "getImsNetworkState(I)[I",
  "addImsSmsListener(ILandroid/telephony/ims/aidl/IImsSmsListener;)V",
  "sendSms(IIILjava/lang/String;Ljava/lang/String;Z[B)V",
  "registerProprietaryImsListener(ILcom/android/ims/internal/IImsRegistrationListener;" ++
    "Lcom/mediatek/ims/internal/IMtkImsRegistrationListener;Z)V",
  "isCameraAvailable()Z",
  "setMTRedirect(IZ)V",
  "fallBackAospMTFlow(I)V",
  "setSipHeader(ILjava/util/Map;Ljava/lang/String;)V",
  "changeEnabledCapabilities(ILandroid/telephony/ims/feature/CapabilityChangeRequest;)V",
  "setImsPreCallInfo(IILjava/lang/String;Ljava/lang/String;Ljava/util/Map;[Ljava/lang/String;)V"]

def readCodes : List Nat := [4, 5, 13, 14, 15, 18, 19]

/-- The check of the public methods of the class that is patched. -/
def signaturesExpected (actualMethods : List String) : Bool :=
  methods.length = 24 && actualMethods.mergeSort = methods.mergeSort

def service : Service where
  message := "MtkImsService"
  targets := (List.range' 1 methods.length).map fun code =>
    if code ∈ readCodes then .read else .modify

end MtkImsService

namespace WifiOffloadService

def expectedTransactions : List (String × Nat) := [
  ("registerForHandoverEvent", 1), ("unregisterForHandoverEvent", 2),
  ("getRatType", 3), ("getDisconnectCause", 4), ("setEpdgFqdn", 5),
  ("updateCallState", 6), ("isWifiConnected", 7), ("updateRadioState", 8),
  ("setMccMncAllowList", 9), ("getMccMncAllowList", 10),
  ("factoryReset", 11), ("setWifiOff", 12)]

/-- The entry of a Python dictionary made of pairs: the last one counts. -/
def dictionary (transactions : List (String × Nat)) (name : String) : Option Nat :=
  transactions.reverse.lookup name

/-- The check of the transaction codes that the stub of the interface declares. -/
def transactionsExpected (transactions : List (String × Nat)) : Bool :=
  transactions.length = expectedTransactions.length &&
    (transactions ++ expectedTransactions).all fun entry =>
      dictionary transactions entry.1 = dictionary expectedTransactions entry.1

def service : Service where
  message := "WifiOffloadService"
  targets := [.read, .read, .read, .read, .modify, .modify, .read, .modify, .modify, .read,
    .modify, .modify]

end WifiOffloadService

/-! ## Transactions -/

section Transactions

variable {ω τ σ : Type}

structure Transaction (ω : Type) where
  code : BitVec 32
  data : Value ω
  reply : Value ω
  flags : BitVec 32
  /-- The permissions of the caller. -/
  granted : String → Bool

def Transaction.arguments (transaction : Transaction ω) (self : ω) : List (Value ω) :=
  [.ref self, .int transaction.code, transaction.data, transaction.reply, .int transaction.flags]

/-- A service object and what is not part of the patch: the stock `onTransact`, which may do
anything, the contents of `mContext` and the exception for a missing permission. -/
structure Instance (ω τ σ : Type) where
  self : ω
  mContext : Value ω
  securityException : τ
  onTransact : σ → List (Value ω) → Except (Throwable τ) (Value ω) × σ

def Instance.handle (object : Instance ω τ σ) (granted : String → Bool) :
    Program.Handler (Request GuardMethod GuardField ω) (Reply τ) σ Unit
  | state, .iget _ .mContext, _ => (state, object.mContext)
  | state, .aputBoolean .., _ => (state, .ok ())
  | state, .invoke .enforceCallingOrSelfPermission (_ :: .text permission :: _), _ =>
      (state, if granted permission then .ok none else .error (.other object.securityException))
  | state, .invoke .enforceCallingOrSelfPermission _, _ => (state, .error .nullPointer)
  | state, .invoke .superOnTransact arguments, _ =>
      ((object.onTransact state arguments).2, (object.onTransact state arguments).1.map some)

/-- A transaction is answered by the patched class. -/
def Instance.serve (object : Instance ω τ σ) (service : Service) (steps : Nat) (state : σ)
    (transaction : Transaction ω) : Outcome ω τ × σ :=
  (service.onTransact.call (fun _ => none) steps (transaction.arguments object.self)).run
    (object.handle transaction.granted) state fun _ => ()

/-- Transactions one after the other: the answers and the state they leave. -/
def answers {α : Type} (answer : σ → α → Outcome ω τ × σ) : σ → List α → List (Outcome ω τ) × σ
  | state, [] => ([], state)
  | state, transaction :: rest =>
      ((answer state transaction).1 :: (answers answer (answer state transaction).2 rest).1,
        (answers answer (answer state transaction).2 rest).2)

/-! ## What the guards are for -/

/-- The transactions of an interface and which of them only read. -/
structure Policy where
  count : Nat
  reads : List Nat

def Policy.required (policy : Policy) (code : BitVec 32) : Option Permission :=
  if 1 ≤ code.toNat ∧ code.toNat ≤ policy.count then
    some (if code.toNat ∈ policy.reads then .readPrivilegedPhoneState else .modifyPhoneState)
  else
    none

def Instance.lacksContext (object : Instance ω τ σ) : Bool :=
  match object.mContext with
  | .int _ => true
  | _ => false

/-- Why a transaction is refused, if it is. -/
def Instance.refusal (object : Instance ω τ σ) (policy : Policy) (transaction : Transaction ω) :
    Option (Throwable τ) :=
  match policy.required transaction.code with
  | none => none
  | some permission =>
      if object.lacksContext then some .nullPointer
      else if transaction.granted permission.name then none
      else some (.other object.securityException)

/-- The stock class, asked only what the policy allows. -/
def Instance.answer (object : Instance ω τ σ) (policy : Policy) (state : σ)
    (transaction : Transaction ω) : Outcome ω τ × σ :=
  match object.refusal policy transaction with
  | some exception => (.thrown exception, state)
  | none =>
      match object.onTransact state (transaction.arguments object.self) with
      | (.ok value, after) => (.returned (some value), after)
      | (.error exception, after) => (.thrown exception, after)

def Permission.label : Permission → GuardLabel
  | .readPrivilegedPhoneState => .read
  | .modifyPhoneState => .modify

def Service.Implements (service : Service) (policy : Policy) : Prop :=
  ∀ code, switchTarget 1 service.targets code = (policy.required code).map Permission.label

/-! ## The guard is executed -/

variable {object : Instance ω τ σ} {service : Service} {policy : Policy} {state : σ}
  {transaction : Transaction ω}

/-- From the label of the dispatch on, the arguments are those of the transaction. -/
theorem meets_dispatch (allowed : object.refusal policy transaction = none)
    {registers : Nat → Value ω}
    (parameters : [3, 4, 5, 6, 7].map registers = transaction.arguments object.self) :
    Meets (object.handle transaction.granted) (fun _ => none) service.onTransact
      ⟨service.onTransact.code.drop 12, registers, none⟩
      (fun outcome after => (outcome, after) = object.answer policy state transaction) state := by
  rw [Instance.answer, allowed]
  rcases stock : object.onTransact state (transaction.arguments object.self) with
    ⟨raised | answer, after⟩
  · have handled : object.handle transaction.granted state
        (.invoke .superOnTransact (transaction.arguments object.self)) () =
        (after, .error raised) := by
      rw [Instance.handle, stock]
      rfl
    refine meets_invoke parameters rfl rfl ?_ ?_
    · intro _ value returned
      rw [handled] at returned
      cases returned
    · intro _ exception threw
      rw [handled] at threw ⊢
      obtain rfl := Except.error.inj threw
      rfl
  · have handled : object.handle transaction.granted state
        (.invoke .superOnTransact (transaction.arguments object.self)) () =
        (after, .ok (some answer)) := by
      rw [Instance.handle, stock]
      rfl
    refine meets_invoke parameters rfl rfl ?_ ?_
    · intro _ value returned
      rw [handled] at returned ⊢
      obtain rfl := Except.ok.inj returned
      exact meets_moveResult (meets_returnValue rfl)
    · intro _ exception threw
      rw [handled] at threw
      cases threw

/-- From the label of the check on, with the permission to demand in `v1`. -/
theorem meets_enforce {permission : Permission}
    (required : policy.required transaction.code = some permission) {registers : Nat → Value ω}
    (demanded : registers 1 = .text permission.name)
    (parameters : [3, 4, 5, 6, 7].map registers = transaction.arguments object.self) :
    Meets (object.handle transaction.granted) (fun _ => none) service.onTransact
      ⟨service.onTransact.code.drop 8, registers, none⟩
      (fun outcome after => (outcome, after) = object.answer policy state transaction) state := by
  refine meets_iget (List.cons_eq_cons.mp parameters).1 fun _ => ?_
  refine meets_constString ?_
  change Meets _ _ _ _ _ state
  -- the parameters are above the registers that were written
  have kept : [3, 4, 5, 6, 7].map (Function.update
      (Function.update registers 0 object.mContext) 2 (.text service.message)) =
      transaction.arguments object.self := parameters
  have loaded : [0, 1, 2].map (Function.update
      (Function.update registers 0 object.mContext) 2 (.text service.message)) =
      [object.mContext, .text permission.name, .text service.message] := by
    rw [← demanded]
    rfl
  have receiver : nullReceiver .virtual
      [object.mContext, .text permission.name, .text service.message] = object.lacksContext := by
    rw [Instance.lacksContext]
    cases object.mContext <;> rfl
  cases lacking : object.lacksContext with
  | true =>
      refine meets_invoke_null loaded (receiver.trans lacking) ?_
      simp only [Instance.answer, Instance.refusal, required, lacking, if_true]
  | false =>
      have handled : (object.handle transaction.granted state
          (.invoke .enforceCallingOrSelfPermission
            [object.mContext, .text permission.name, .text service.message]) ()).2 =
          if transaction.granted permission.name then Except.ok none
          else .error (.other object.securityException) := rfl
      refine meets_invoke loaded (receiver.trans lacking) rfl ?_ ?_
      · intro _ value returned
        rw [handled] at returned
        split_ifs at returned with granted
        obtain rfl := Except.ok.inj returned
        refine meets_label (meets_dispatch ?_ kept)
        simp only [Instance.refusal, required, lacking, granted, Bool.false_eq_true, if_true,
          if_false]
      · intro _ exception threw
        rw [handled] at threw
        split_ifs at threw with granted
        obtain rfl := Except.error.inj threw
        simp only [Instance.answer, Instance.refusal, required, lacking, granted,
          Bool.false_eq_true, if_false]
        rfl

/-- The patched class does what the policy says. -/
theorem meets_onTransact (implements : service.Implements policy) (object : Instance ω τ σ)
    (state : σ) (transaction : Transaction ω) :
    Meets (object.handle transaction.granted) (fun _ => none) service.onTransact
      (service.onTransact.enter (transaction.arguments object.self))
      (fun outcome after => (outcome, after) = object.answer policy state transaction) state := by
  refine meets_packedSwitch rfl rfl ?_ ?_
  · intro target selected
    rw [implements] at selected
    obtain ⟨permission, required, rfl⟩ := Option.map_eq_some_iff.mp selected
    cases permission with
    | readPrivilegedPhoneState =>
        exact ⟨_, rfl, meets_constString (meets_goto rfl (meets_enforce required rfl rfl))⟩
    | modifyPhoneState =>
        exact ⟨_, rfl, meets_constString (meets_label (meets_enforce required rfl rfl))⟩
  · intro unselected
    rw [implements] at unselected
    have free := Option.map_eq_none_iff.mp unselected
    refine meets_goto rfl (meets_dispatch ?_ rfl)
    simp only [Instance.refusal, free]

/-- Transactions one after the other are answered as by the policy. -/
theorem answers_serve (implements : service.Implements policy) (object : Instance ω τ σ)
    (transactions : List (Transaction ω)) (state : σ) :
    ∃ steps, ∀ more, answers (object.serve service (steps + more)) state transactions =
      answers (object.answer policy) state transactions := by
  induction transactions generalizing state with
  | nil => exact ⟨0, fun _ => rfl⟩
  | cons transaction rest ih =>
      obtain ⟨result, after, answered, first, alike⟩ :=
        (meets_onTransact implements object state transaction).run fun _ => ()
      obtain ⟨others, alikeAfter⟩ := ih (object.answer policy state transaction).2
      refine ⟨first + others, fun more => ?_⟩
      have now : object.serve service (first + others + more) state transaction =
          object.answer policy state transaction := by
        rw [← answered, Nat.add_assoc]
        exact alike (others + more)
      have later := alikeAfter (first + more)
      rw [← Nat.add_assoc, Nat.add_comm others] at later
      rw [answers, now, later, answers]

/-- Only what is allowed has an effect. -/
theorem answers_answer_snd (object : Instance ω τ σ) (policy : Policy)
    (transactions : List (Transaction ω)) (state : σ) :
    (answers (object.answer policy) state transactions).2 =
      (transactions.filter fun transaction => (object.refusal policy transaction).isNone).foldl
        (fun state transaction =>
          (object.onTransact state (transaction.arguments object.self)).2) state := by
  induction transactions generalizing state with
  | nil => rfl
  | cons transaction rest ih =>
      rw [answers, ih, List.filter_cons]
      cases refused : object.refusal policy transaction with
      | some exception =>
          simp only [Instance.answer, refused, Option.isNone_some, Bool.false_eq_true, if_false]
      | none =>
          simp only [Instance.answer, refused, Option.isNone_none, if_true, List.foldl_cons]
          rcases object.onTransact state (transaction.arguments object.self) with
            ⟨_ | _, after⟩ <;> rfl

end Transactions

/-! ## The policies of the two services -/

def MtkImsService.policy : Policy where
  count := 24
  reads := [4, 5, 13, 14, 15, 18, 19]

def WifiOffloadService.policy : Policy where
  count := 12
  reads := [1, 2, 3, 4, 7, 10]

/-- A table with one entry for each transaction. -/
theorem implements_of_targets {service : Service} {policy : Policy}
    (small : policy.count < 2 ^ 32 - 1)
    (table : service.targets = (List.range' 1 policy.count).map fun code =>
      if code ∈ policy.reads then .read else .modify) :
    service.Implements policy := by
  intro code
  have bound := code.isLt
  -- the difference to the first key wraps around for the code zero only
  have key : (code - 1).toNat = (2 ^ 32 - 1 + code.toNat) % 2 ^ 32 := by
    rw [BitVec.toNat_sub]
    rfl
  rw [switchTarget, table, List.getElem?_map, key, Policy.required]
  by_cases inside : 1 ≤ code.toNat ∧ code.toNat ≤ policy.count
  · have position : (2 ^ 32 - 1 + code.toNat) % 2 ^ 32 = code.toNat - 1 := by omega
    rw [if_pos inside, position, List.getElem?_range' (by omega), Nat.one_mul,
      Nat.add_sub_cancel' inside.1]
    simp only [Option.map_some]
    split_ifs <;> rfl
  · have beyond : policy.count ≤ (2 ^ 32 - 1 + code.toNat) % 2 ^ 32 := by omega
    rw [if_neg inside, List.getElem?_eq_none (by simpa using beyond)]
    rfl

theorem MtkImsService.implements : MtkImsService.service.Implements MtkImsService.policy :=
  implements_of_targets (by decide) rfl

theorem WifiOffloadService.implements :
    WifiOffloadService.service.Implements WifiOffloadService.policy :=
  implements_of_targets (by decide) rfl

/-! ## The checks before the patch -/

/-- A dictionary without repeated keys has all the pairs it was made of. -/
theorem dictionary_of_mem {transactions : List (String × Nat)} {entry : String × Nat}
    (distinct : (transactions.map Prod.fst).Nodup) (member : entry ∈ transactions) :
    WifiOffloadService.dictionary transactions entry.1 = some entry.2 := by
  have distinctReverse : (transactions.reverse.map Prod.fst).Nodup := by
    rw [List.map_reverse]
    exact List.nodup_reverse.mpr distinct
  obtain ⟨before, after, split⟩ := List.append_of_mem (List.mem_reverse.mpr member)
  refine List.lookup_eq_some_iff.mpr ⟨before, after, split, fun other earlier => ?_⟩
  rw [split, List.map_append, List.map_cons] at distinctReverse
  have different := (List.pairwise_append.mp distinctReverse).2.2 other.1
    (List.mem_map_of_mem earlier) entry.1 List.mem_cons_self
  simpa using different.symm

/-- The transactions that were expected are those that the stub declares. -/
theorem mem_expectedTransactions {transactions : List (String × Nat)}
    (expected : WifiOffloadService.transactionsExpected transactions = true)
    {entry : String × Nat} (member : entry ∈ transactions) :
    entry ∈ WifiOffloadService.expectedTransactions := by
  rw [WifiOffloadService.transactionsExpected, Bool.and_eq_true, decide_eq_true_iff,
    List.all_eq_true] at expected
  obtain ⟨sameLength, sameEntries⟩ := expected
  have expectedDistinct : (WifiOffloadService.expectedTransactions.map Prod.fst).Nodup := by
    decide
  -- as many pairs as expected keys, and all of these among them: no key is repeated
  have declared : WifiOffloadService.expectedTransactions.map Prod.fst ⊆
      transactions.map Prod.fst := by
    intro name isExpected
    obtain ⟨entry, member, rfl⟩ := List.mem_map.mp isExpected
    have same := of_decide_eq_true (sameEntries entry (List.mem_append_right _ member))
    rw [dictionary_of_mem expectedDistinct member] at same
    obtain ⟨before, after, split, -⟩ := List.lookup_eq_some_iff.mp same
    refine List.mem_map.mpr ⟨_, List.mem_reverse.mp (split ▸ ?_), rfl⟩
    simp
  have perm := (expectedDistinct.subperm declared).perm_of_length_le (by simp [sameLength])
  have found := dictionary_of_mem (perm.nodup_iff.mp expectedDistinct) member
  rw [of_decide_eq_true (sameEntries entry (List.mem_append_left _ member))] at found
  obtain ⟨before, after, split, -⟩ := List.lookup_eq_some_iff.mp found
  exact List.mem_reverse.mp (split ▸ by simp)

/-- A class that passed the checks of the script, with what the checks looked at. -/
inductive PatchedService where
  | mtkIms (actualMethods : List String)
      (accepted : MtkImsService.signaturesExpected actualMethods = true)
  | wifiOffload (transactions : List (String × Nat))
      (accepted : WifiOffloadService.transactionsExpected transactions = true)

namespace PatchedService

def service : PatchedService → Service
  | .mtkIms .. => MtkImsService.service
  | .wifiOffload .. => WifiOffloadService.service

def policy : PatchedService → Policy
  | .mtkIms .. => MtkImsService.policy
  | .wifiOffload .. => WifiOffloadService.policy

/-- The transaction codes of the interface. -/
def codes : PatchedService → List Nat
  | .mtkIms actualMethods _ =>
      actualMethods.map fun method => MtkImsService.methods.idxOf method + 1
  | .wifiOffload transactions _ => transactions.map Prod.snd

theorem implements (patched : PatchedService) : patched.service.Implements patched.policy := by
  cases patched with
  | mtkIms actualMethods accepted => exact MtkImsService.implements
  | wifiOffload transactions accepted => exact WifiOffloadService.implements

theorem code_bounds {patched : PatchedService} {code : Nat} (declared : code ∈ patched.codes) :
    1 ≤ code ∧ code ≤ patched.policy.count := by
  cases patched with
  | mtkIms actualMethods accepted =>
      obtain ⟨method, member, rfl⟩ := List.mem_map.mp declared
      rw [MtkImsService.signaturesExpected, Bool.and_eq_true, decide_eq_true_iff,
        decide_eq_true_iff] at accepted
      -- both lists have been sorted to the same one
      have perm : actualMethods.Perm MtkImsService.methods :=
        (List.mergeSort_perm _ _).symm.trans
          (accepted.2 ▸ List.mergeSort_perm MtkImsService.methods _)
      have position := List.idxOf_lt_length_of_mem (perm.mem_iff.mp member)
      rw [accepted.1] at position
      exact ⟨Nat.le_add_left 1 _, position⟩
  | wifiOffload transactions accepted =>
      obtain ⟨entry, member, rfl⟩ := List.mem_map.mp declared
      have bounds : ∀ entry ∈ WifiOffloadService.expectedTransactions,
          1 ≤ entry.2 ∧ entry.2 ≤ 12 := by decide
      exact bounds entry (mem_expectedTransactions accepted member)

theorem count_le (patched : PatchedService) : patched.policy.count ≤ 24 := by
  cases patched with
  | mtkIms actualMethods accepted => exact Nat.le_refl 24
  | wifiOffload transactions accepted => exact Nat.le_add_right 12 12

end PatchedService

/-- A patched service answers any transactions as the policy of its interface says and
leaves the state in which the allowed ones alone would have left the stock service; no
transaction of the interface is without a permission. -/
theorem guarded_services {ω τ σ : Type} (patched : PatchedService) (object : Instance ω τ σ)
    (transactions : List (Transaction ω)) (state : σ) :
    (∃ steps, ∀ more,
      answers (object.serve patched.service (steps + more)) state transactions =
          answers (object.answer patched.policy) state transactions ∧
        (answers (object.serve patched.service (steps + more)) state transactions).2 =
          (transactions.filter fun transaction =>
              (object.refusal patched.policy transaction).isNone).foldl
            (fun state transaction =>
              (object.onTransact state (transaction.arguments object.self)).2) state) ∧
      ∀ code ∈ patched.codes, ∃ permission,
        patched.policy.required (BitVec.ofNat 32 code) = some permission := by
  constructor
  · obtain ⟨steps, alike⟩ := answers_serve patched.implements object transactions state
    refine ⟨steps, fun more => ⟨alike more, ?_⟩⟩
    rw [alike more, answers_answer_snd]
  · intro code declared
    have bounds := PatchedService.code_bounds declared
    have small := patched.count_le
    have same : (BitVec.ofNat 32 code).toNat = code := by
      rw [BitVec.toNat_ofNat]
      exact Nat.mod_eq_of_lt (by omega)
    rw [Policy.required, same, if_pos bounds]
    exact ⟨_, rfl⟩

/-- A stub that declares its transactions in another order, and a stock service that counts
what it is asked. -/
def countingStub : PatchedService :=
  .wifiOffload WifiOffloadService.expectedTransactions.reverse (by decide)

def counter : Instance Unit Unit Nat where
  self := ()
  mContext := .ref ()
  securityException := ()
  onTransact := fun count _ => (.ok (.int 1), count + 1)

/-- `getRatType` and `factoryReset` with the permission to read, and a transaction that every
interface has. -/
def threeTransactions : List (Transaction Unit) :=
  [3, 11, 0x5f4e5446].map fun code =>
    ⟨code, .ref (), .ref (), 0, fun name => name = Permission.readPrivilegedPhoneState.name⟩

theorem guarded_services_reader :
    ∃ steps, ∀ more,
      (answers (counter.serve countingStub.service (steps + more)) 0 threeTransactions).2 = 2 := by
  obtain ⟨⟨steps, alike⟩, -⟩ := guarded_services countingStub counter threeTransactions 0
  refine ⟨steps, fun more => ?_⟩
  rw [(alike more).2]
  decide

end K50sv1.VendorBlobs.PermissionGuard
