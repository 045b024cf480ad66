import Mathlib.Algebra.GroupWithZero.Nat
import Mathlib.Data.List.FinRange

/-!
# Shared vocabulary of the RIL shim

Sockets, tokens, clock readings and the initial-attach APN payload, as
`k50sv1_ril_shim.c` sees them.  Pointers that the shim only compares are modelled
by what they identify; strings are modelled by their contents, so a deep copy is
equality and `NULL` stays apart from the empty string.
-/

namespace K50sv1.RilShim

/-! ## Requests and indications the shim interprets -/

/-- `RIL_UNSOL_RESET_ATTACH_APN`, a MediaTek extension of `ril.h`. -/
def rilUnsolResetAttachApn : Int := 3020

/-- One re-issue per second, `REISSUE_MIN_INTERVAL_NS`. -/
def reissueMinIntervalNs : Nat := 1000 * 1000 * 1000

/-- The end of a single-flight wait, `REISSUE_INFLIGHT_TIMEOUT_NS`. -/
def reissueInflightTimeoutNs : Nat := 10 * 1000 * 1000 * 1000

/-- `REISSUE_TOKEN_SLOTS`. -/
def reissueTokenSlots : Nat := 16

instance : NeZero reissueTokenSlots := ⟨by decide⟩

/-- The bounds check `(int)socketId >= 0 && (int)socketId < SIM_COUNT`. -/
def checkedSocket (simCount : Nat) (socketId : Int) : Option (Fin simCount) :=
  if bounds : 0 ≤ socketId ∧ socketId.toNat < simCount then
    some ⟨socketId.toNat, bounds.2⟩
  else
    none

@[simp]
theorem checkedSocket_val {simCount : Nat} (socket : Fin simCount) :
    checkedSocket simCount socket.val = some socket := by
  simp [checkedSocket]

theorem eq_of_checkedSocket {simCount : Nat} {socketId : Int} {socket : Fin simCount}
    (checked : checkedSocket simCount socketId = some socket) : socketId = socket.val := by
  unfold checkedSocket at checked
  split at checked
  · rename_i bounds
    rw [← Option.some.inj checked]
    exact (Int.toNat_of_nonneg bounds.1).symm
  · contradiction

/-! ## Tokens -/

/-- A `RIL_Token`: the address of one of the shim's own `sReissueTokens`, or of
any other object. -/
inductive RilToken where
  | reissue (index : Fin reissueTokenSlots)
  | foreign (address : Nat)
  deriving DecidableEq, Repr

/-- Identity test against every element of `sReissueTokens`. -/
def isReissueToken (t : RilToken) : Bool :=
  (List.finRange reissueTokenSlots).any fun i => t = .reissue i

@[simp]
theorem isReissueToken_reissue (index : Fin reissueTokenSlots) :
    isReissueToken (.reissue index) = true := by
  simp [isReissueToken, List.any_eq_true]

@[simp]
theorem isReissueToken_foreign (address : Nat) :
    isReissueToken (.foreign address) = false := by
  simp [isReissueToken]

/-! ## Clock readings -/

/-- A `CLOCK_MONOTONIC` reading.  The clock starts at zero, so both members are
nonnegative. -/
structure Timespec where
  tvSec : Nat
  tvNsec : Nat
  deriving DecidableEq, Repr

def timespecToNs (time : Timespec) : Nat :=
  time.tvSec * 1000000000 + time.tvNsec

/-! ## The initial-attach APN payload -/

/-- The bytes of a C string before its terminator. -/
abbrev CString := List UInt8

/-- MediaTek's payload of `RIL_REQUEST_SET_INITIAL_ATTACH_APN`.  A `char *` member
is `none` when it is `NULL`. -/
structure MtkInitialAttachApn where
  apn : Option CString
  protocol : Option CString
  roamingProtocol : Option CString
  authtype : Int
  username : Option CString
  password : Option CString
  supportedTypesBitmask : Int
  bearerBitmask : Int
  modemCognitive : Int
  mtu : Int
  mvnoType : Option CString
  mvnoMatchData : Option CString
  canHandleIms : Int
  deriving DecidableEq, Repr

/-- The all-zero structure that `freeIaStrings` leaves behind. -/
def MtkInitialAttachApn.zero : MtkInitialAttachApn where
  apn := none
  protocol := none
  roamingProtocol := none
  authtype := 0
  username := none
  password := none
  supportedTypesBitmask := 0
  bearerBitmask := 0
  modemCognitive := 0
  mtu := 0
  mvnoType := none
  mvnoMatchData := none
  canHandleIms := 0

/-- `sizeof(MtkInitialAttachApn)`. -/
def sizeofMtkInitialAttachApn : Nat := 0x58

/-- Whether each of the seven `strdup` calls of one `copyIa` finds memory. -/
structure StrdupResults where
  apn : Bool
  protocol : Bool
  roamingProtocol : Bool
  username : Bool
  password : Bool
  mvnoType : Bool
  mvnoMatchData : Bool
  deriving DecidableEq, Repr

/-- Enough memory for every string. -/
def StrdupResults.ample : StrdupResults :=
  ⟨true, true, true, true, true, true, true⟩

/-- `NULL` in, `NULL` out.  The second component is the accumulated `*ok`. -/
def dupOrNull (memory : Bool) (src : Option CString) (ok : Bool) : Option CString × Bool :=
  match src with
  | none => (none, ok)
  | some text => if memory then (some text, ok) else (none, false)

/-- Deep copy of a payload; `none` when a string could not be duplicated, after
which the destination has been freed and zeroed. -/
def copyIa (strdup : StrdupResults) (src : MtkInitialAttachApn) :
    Option MtkInitialAttachApn :=
  let (apn, ok) := dupOrNull strdup.apn src.apn true
  let (protocol, ok) := dupOrNull strdup.protocol src.protocol ok
  let (roamingProtocol, ok) := dupOrNull strdup.roamingProtocol src.roamingProtocol ok
  let (username, ok) := dupOrNull strdup.username src.username ok
  let (password, ok) := dupOrNull strdup.password src.password ok
  let (mvnoType, ok) := dupOrNull strdup.mvnoType src.mvnoType ok
  let (mvnoMatchData, ok) := dupOrNull strdup.mvnoMatchData src.mvnoMatchData ok
  let dst := { src with
    apn, protocol, roamingProtocol, username, password, mvnoType, mvnoMatchData }
  if ok then some dst else none

theorem dupOrNull_of_snd {memory ok : Bool} {src : Option CString}
    (success : (dupOrNull memory src ok).2 = true) :
    (dupOrNull memory src ok).1 = src ∧ ok = true := by
  cases src with
  | none => exact ⟨rfl, success⟩
  | some text =>
      cases memory with
      | true => exact ⟨rfl, success⟩
      | false => simp [dupOrNull] at success

/-- A successful copy has every member of the source, integers and strings, with
`NULL` members still `NULL`. -/
theorem copyIa_eq_some {strdup : StrdupResults} {src dst : MtkInitialAttachApn}
    (copied : copyIa strdup src = some dst) : dst = src := by
  simp only [copyIa] at copied
  split at copied
  · rename_i ok
    obtain ⟨matchDataEq, ok⟩ := dupOrNull_of_snd ok
    obtain ⟨mvnoTypeEq, ok⟩ := dupOrNull_of_snd ok
    obtain ⟨passwordEq, ok⟩ := dupOrNull_of_snd ok
    obtain ⟨usernameEq, ok⟩ := dupOrNull_of_snd ok
    obtain ⟨roamingEq, ok⟩ := dupOrNull_of_snd ok
    obtain ⟨protocolEq, ok⟩ := dupOrNull_of_snd ok
    obtain ⟨apnEq, -⟩ := dupOrNull_of_snd ok
    rw [← Option.some.inj copied, matchDataEq, mvnoTypeEq, passwordEq, usernameEq,
      roamingEq, protocolEq, apnEq]
  · contradiction

/-- The framework's `SET_INITIAL_ATTACH_APN` as it reaches the shim: what `data`
points to, read as a payload, and the length that came with it. -/
structure SetInitialAttachApn where
  data : Option MtkInitialAttachApn
  datalen : Nat
  deriving DecidableEq, Repr

/-- A request both producers send: a payload of the expected length. -/
def SetInitialAttachApn.ofPayload (payload : MtkInitialAttachApn) : SetInitialAttachApn :=
  ⟨some payload, sizeofMtkInitialAttachApn⟩

end K50sv1.RilShim
