import K50sv1.RilShim.Got.Core

/-!
# Starting the shim

`RIL_Init` and `RIL_SAP_Init` with the functions below them, as programs over the calls
through which they touch the process: the loader, the vendor library's own entry points, the
vendor's function table, the protection of its page, and the shim's static variables.  The
attach-APN hooks are installed by the program of their own module, whose calls are calls of
this interface too.

The vendor library is any library: it fails, or it answers with any table.  Its memory is
written by its own `RIL_Init` and by the shim only.
-/

namespace K50sv1.RilShim.Startup

open K50sv1.Transition
open K50sv1.RilShim.Got (Layout Protection GotOp GotProgram)

/-! ## Process state -/

/-- A `RIL_RequestFunc`, as far as the shim can tell them apart. -/
inductive RequestFunc where
  | null
  | onRequestShim
  | vendor (address : Nat)
  deriving DecidableEq, Repr

/-- The members of `RIL_RadioFunctions` that the shim uses. -/
structure RadioFunctions where
  version : Int
  onRequest : RequestFunc
  deriving DecidableEq, Repr

/-- `offsetof(RIL_RadioFunctions, onRequest)`, pinned by a `_Static_assert`. -/
def offsetofOnRequest : Nat := 8

/-- `sizeof(RIL_RequestFunc)`. -/
def sizeofRequestFunc : Nat := 8

/-- The part of the process that a start reads and writes.  The members from `refused` on, and
`got.faulted`, are not memory: they remember what has happened. -/
structure Image where
  /-- `sRealHandle` is not `NULL`. -/
  sRealHandle : Bool
  /-- `sEnv` is set. -/
  sEnv : Bool
  sRealFuncs : Option Nat
  sRealOnRequest : RequestFunc
  sOnRequestPatched : Bool
  /-- The function tables of the vendor library, by address. -/
  table : Nat → RadioFunctions
  /-- What the installation of the attach-APN hooks works on, the protections among it. -/
  got : Got.Process
  /-- The calls of `mprotect` that failed. -/
  refused : List (Nat × Protection)
  /-- The request functions that the vendor library has put into its tables. -/
  original : Nat → RequestFunc
  /-- What `sRealOnRequest` was when the shim was put into a table. -/
  behindShim : Option RequestFunc
  /-- The vendor library was initialized when the shim was in a table. -/
  reentered : Bool

/-- The table that the vendor's `RIL_Init` returns. -/
structure VendorTable where
  address : Nat
  version : Int
  /-- `none` is `NULL`. -/
  onRequest : Option Nat
  deriving DecidableEq, Repr

def VendorTable.requestFunc (funcs : VendorTable) : RequestFunc :=
  match funcs.onRequest with
  | none => .null
  | some address => .vendor address

theorem VendorTable.requestFunc_ne_shim (funcs : VendorTable) :
    funcs.requestFunc ≠ .onRequestShim := by
  unfold VendorTable.requestFunc
  split <;> simp

namespace Image

/-- The page of a table's `onRequest`. -/
def page (layout : Layout) (funcs : Nat) : Nat :=
  layout.page (funcs + offsetofOnRequest)

/-- Put a function into the `onRequest` of a table. -/
def setOnRequest (image : Image) (funcs : Nat) (onRequest : RequestFunc) : Image :=
  { image with table := Function.update image.table funcs { image.table funcs with onRequest } }

/-- The vendor's `RIL_Init` has returned. -/
def initialized (image : Image) (result : Option VendorTable) : Image :=
  let called := { image with
    sRealFuncs := result.map VendorTable.address
    reentered := image.reentered || image.behindShim.isSome }
  match result with
  | none => called
  | some funcs => { called with
      table := Function.update image.table funcs.address ⟨funcs.version, funcs.requestFunc⟩
      original := Function.update image.original funcs.address funcs.requestFunc }

/-- The store of `onRequestShim`.  A page that is not what it was taken for may drop it. -/
def patched (layout : Layout) (image : Image) (funcs : Nat) (takes : Bool) : Image :=
  if !(image.got.prot (page layout funcs)).write then
    { image with got := { image.got with faulted := true } }
  else if takes then
    { image.setOnRequest funcs .onRequestShim with behindShim := some image.sRealOnRequest }
  else
    image

/-- A call of the installation of the hooks, and of `mprotect` and `mappingProt`. -/
def calls (layout : Layout) (image : Image) (op : GotOp) (works : Bool) : Image :=
  { image with
    got := (Got.answer layout image.got op works).1
    refused := image.refused ++ match op with
      | .mprotect page _ protection => if works then [] else [(page, protection)]
      | _ => [] }

end Image

/-! ## The interface -/

inductive StartOp where
  | loadPatched
  | storePatched
  | loadHandle
  /-- `dlopen`, with the store of `sRealHandle`. -/
  | dlopen
  | dlsym
  | storeEnv
  /-- The vendor's `RIL_Init`, with the store of `sRealFuncs`. -/
  | realInit
  | realSapInit
  | loadFuncs
  | sysconfPageSize
  | loadVersion (funcs : Nat)
  | loadOnRequest (funcs : Nat)
  | storeRealOnRequest (original : RequestFunc)
  | storeOnRequestShim (funcs : Nat)
  | got (op : GotOp)
  deriving DecidableEq, Repr

def StartOp.Reply : StartOp → Type
  | .loadPatched | .loadHandle | .dlopen | .dlsym => Bool
  | .storePatched | .storeEnv | .storeRealOnRequest _ | .storeOnRequestShim _ => Unit
  | .realInit | .realSapInit | .loadFuncs => Option Nat
  | .sysconfPageSize | .loadVersion _ => Int
  | .loadOnRequest _ => RequestFunc
  | .got op => op.Reply

/-- What the environment decides about a call. -/
structure Choice where
  works : Bool := true
  result : Option VendorTable := none
  deriving DecidableEq, Repr

def respond (layout : Layout) : Program.Handler StartOp StartOp.Reply Image Choice
  | image, .loadPatched, _ => (image, image.sOnRequestPatched)
  | image, .storePatched, _ => ({ image with sOnRequestPatched := true }, ())
  | image, .loadHandle, _ => (image, image.sRealHandle)
  | image, .dlopen, choice => ({ image with sRealHandle := choice.works }, choice.works)
  | image, .dlsym, choice => (image, choice.works)
  | image, .storeEnv, _ => ({ image with sEnv := true }, ())
  | image, .realInit, choice =>
      (image.initialized choice.result, choice.result.map VendorTable.address)
  | image, .realSapInit, choice => (image, choice.result.map VendorTable.address)
  | image, .loadFuncs, _ => (image, image.sRealFuncs)
  | image, .sysconfPageSize, choice =>
      (image, (if choice.works then (layout.pageSize : Int) else -1 : Int))
  | image, .loadVersion funcs, _ => (image, (image.table funcs).version)
  | image, .loadOnRequest funcs, _ => (image, (image.table funcs).onRequest)
  | image, .storeRealOnRequest original, _ => ({ image with sRealOnRequest := original }, ())
  | image, .storeOnRequestShim funcs, choice => (image.patched layout funcs choice.works, ())
  | image, .got op, choice =>
      (image.calls layout op choice.works, (Got.answer layout image.got op choice.works).2)

/-! ## The start -/

abbrev StartProgram := Program StartOp StartOp.Reply

def loadPatched : StartProgram Bool :=
  Program.perform StartOp.loadPatched

def storePatched : StartProgram Unit :=
  Program.perform StartOp.storePatched

def loadHandle : StartProgram Bool :=
  Program.perform StartOp.loadHandle

def dlopen : StartProgram Bool :=
  Program.perform StartOp.dlopen

def dlsym : StartProgram Bool :=
  Program.perform StartOp.dlsym

def storeEnv : StartProgram Unit :=
  Program.perform StartOp.storeEnv

def realInit : StartProgram (Option Nat) :=
  Program.perform StartOp.realInit

def realSapInit : StartProgram (Option Nat) :=
  Program.perform StartOp.realSapInit

def loadFuncs : StartProgram (Option Nat) :=
  Program.perform StartOp.loadFuncs

def sysconfPageSize : StartProgram Int :=
  Program.perform StartOp.sysconfPageSize

def loadVersion (funcs : Nat) : StartProgram Int :=
  Program.perform (StartOp.loadVersion funcs)

def loadOnRequest (funcs : Nat) : StartProgram RequestFunc :=
  Program.perform (StartOp.loadOnRequest funcs)

def storeRealOnRequest (original : RequestFunc) : StartProgram Unit :=
  Program.perform (StartOp.storeRealOnRequest original)

def storeOnRequestShim (funcs : Nat) : StartProgram Unit :=
  Program.perform (StartOp.storeOnRequestShim funcs)

def mappingProt (address : Nat) : StartProgram (Option Protection) :=
  Program.perform (StartOp.got (.mappingProt address))

def mprotect (page span : Nat) (protection : Protection) : StartProgram Bool :=
  Program.perform (StartOp.got (.mprotect page span protection))

/-- The installation of the hooks, in this interface. -/
def installAttachApnHooks : StartProgram Int :=
  Got.installAttachApnHooks.embed StartOp.got fun _ reply => reply

/-- The protection is put back, at the second attempt if need be; that both have failed is
only logged. -/
def restoreProtection (page span : Nat) (oldProt : Protection) : StartProgram Unit := do
  if !oldProt.write then
    if !(← mprotect page span oldProt) then
      let _ ← mprotect page span oldProt

/-- Publish, store and read back, on a writable page. -/
def exchangeOnRequest (funcs page span : Nat) (oldProt : Protection) : StartProgram Int := do
  -- published before the shim is reachable
  storeRealOnRequest (← loadOnRequest funcs)
  storeOnRequestShim funcs
  let patched := (← loadOnRequest funcs) = .onRequestShim
  restoreProtection page span oldProt
  return if patched then 0 else -1

/-- The page of the field is made writable unless it is. -/
def makeWritable (page span : Nat) (oldProt : Protection) : StartProgram Bool :=
  if oldProt.write then pure true else mprotect page span oldProt.withWrite

/-- `patchOnRequest` on a table that has passed the checks. -/
def patchField (funcs : Nat) (pageSize : Int) : StartProgram Int := do
  let field := funcs + offsetofOnRequest
  let page := field - field % pageSize.toNat
  let span := field + sizeofRequestFunc - page
  match ← mappingProt field with
  | none => return -1
  | some oldProt =>
      if !(← makeWritable page span oldProt) then
        return -1
      else
        exchangeOnRequest funcs page span oldProt

def patchOnRequest (funcs : Nat) : StartProgram Int := do
  let pageSize ← sysconfPageSize
  if pageSize ≤ 0 then
    return -1
  else
    let version ← loadVersion funcs
    if version < 6 ∨ 20 < version then
      return -1
    else if (← loadOnRequest funcs) = .null then
      return -1
    else
      patchField funcs pageSize

def openRealRil : StartProgram Bool := do
  if ← loadHandle then return true else dlopen

/-- The end of a successful `RIL_Init`; that the hooks could not be installed is only
logged. -/
def armAttachApn (funcs : Nat) : StartProgram (Option Nat) := do
  if 15 ≤ (← loadVersion funcs) then
    let _ ← installAttachApnHooks
  loadFuncs

/-- `RIL_Init` from the vendor's `RIL_Init` on. -/
def wrapVendor : StartProgram (Option Nat) := do
  storeEnv
  match ← realInit with
  | none => return none
  | some funcs =>
      if (← patchOnRequest funcs) ≠ 0 then
        return none
      else
        storePatched
        armAttachApn funcs

def rilInit : StartProgram (Option Nat) := do
  if ← loadPatched then
    loadFuncs
  else if !(← openRealRil) then
    return none
  else if !(← dlsym) then
    return none
  else
    wrapVendor

def rilSapInit : StartProgram (Option Nat) := do
  if !(← openRealRil) then
    return none
  else if !(← dlsym) then
    return none
  else
    realSapInit

end K50sv1.RilShim.Startup
