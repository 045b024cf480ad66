import Mathlib.Tactic.TypeStar

/-!
# Error numbers and texts of the launcher

The launcher's functions return zero or a size on success and a negated error number
otherwise.  A result is modelled as an `Except Errno`, so `.error e` stands for the
return value `-e`.
-/

namespace K50sv1.WmtLauncher

/-- An error number as the kernel reports it; larger values cannot be told apart from
addresses and do not occur. -/
structure Errno where
  number : Nat
  positive : 0 < number
  bounded : number ≤ 4095
  deriving DecidableEq, Repr

namespace Errno

def eperm : Errno := ⟨1, by decide, by decide⟩

def enoent : Errno := ⟨2, by decide, by decide⟩

def eintr : Errno := ⟨4, by decide, by decide⟩

def eio : Errno := ⟨5, by decide, by decide⟩

def e2big : Errno := ⟨7, by decide, by decide⟩

def eagain : Errno := ⟨11, by decide, by decide⟩

def enomem : Errno := ⟨12, by decide, by decide⟩

def eexist : Errno := ⟨17, by decide, by decide⟩

def enodev : Errno := ⟨19, by decide, by decide⟩

def einval : Errno := ⟨22, by decide, by decide⟩

def efbig : Errno := ⟨27, by decide, by decide⟩

def erange : Errno := ⟨34, by decide, by decide⟩

def enodata : Errno := ⟨61, by decide, by decide⟩

def eproto : Errno := ⟨71, by decide, by decide⟩

def ebadmsg : Errno := ⟨74, by decide, by decide⟩

def emsgsize : Errno := ⟨90, by decide, by decide⟩

def eprotonosupport : Errno := ⟨93, by decide, by decide⟩

def eopnotsupp : Errno := ⟨95, by decide, by decide⟩

def etimedout : Errno := ⟨110, by decide, by decide⟩

def estale : Errno := ⟨116, by decide, by decide⟩

def ecanceled : Errno := ⟨125, by decide, by decide⟩

/-- The return value that stands for an error. -/
def result (errno : Errno) : Int32 :=
  Int32.ofInt (-errno.number)

theorem toInt_result (errno : Errno) : errno.result.toInt = -errno.number := by
  have bounded := errno.bounded
  apply Int32.toInt_ofInt_of_le
  · omega
  · omega

end Errno

/-- The bytes of a text of the source, which is plain ASCII. -/
def ascii (text : String) : List UInt8 :=
  text.toList.map fun character => UInt8.ofNat character.toNat

/-- An assignment to one element of an array. -/
def store {α : Type*} {size : Nat} (array : Fin size → α) (index : Nat) (value : α) :
    Fin size → α :=
  fun i => if i.val = index then value else array i

theorem store_same {α : Type*} {size index : Nat} {array : Fin size → α} {value : α} {i : Fin size}
    (same : i.val = index) : store array index value i = value :=
  if_pos same

theorem store_other {α : Type*} {size index : Nat} {array : Fin size → α} {value : α} {i : Fin size}
    (other : i.val ≠ index) : store array index value i = array i :=
  if_neg other

end K50sv1.WmtLauncher
