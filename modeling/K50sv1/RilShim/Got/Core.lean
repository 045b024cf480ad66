import K50sv1.RilShim.AttachApn.Core
import K50sv1.Transition.Program

/-!
# Hooking the two GOT slots

`installAttachApnHooks` and the functions below it, as programs over the calls
through which they touch the process: atomic accesses to the loader's GOT words
and to the shim's own published pointers, `mprotect`, `/proc/self/maps`, and the
pthread calls.  Every call may fail.  A call that reports success tells the
truth: a word read back is the word stored there, a protection found is the
protection in force.

The relocation scan is one call that yields the slot of a symbol or nothing.
-/

namespace K50sv1.RilShim.Got

open K50sv1.Transition
open K50sv1.RilShim.AttachApn (IaHookState)

/-! ## Process state -/

/-- The two imported functions that the shim hooks. -/
inductive GotSymbol where
  | onUnsolicitedResponse
  | onRequestComplete
  deriving DecidableEq, Repr

/-- A code address as the shim can tell them apart. -/
inductive CodePtr where
  | null
  | unsolHook
  | completeHook
  | function (address : Nat)
  deriving DecidableEq, Repr

/-- The replacement for a symbol. -/
def hookOf : GotSymbol → CodePtr
  | .onUnsolicitedResponse => .unsolHook
  | .onRequestComplete => .completeHook

/-- The `PROT_*` bits of a mapping. -/
structure Protection where
  read : Bool
  write : Bool
  exec : Bool
  deriving DecidableEq, Repr

/-- `protection | PROT_WRITE`. -/
def Protection.withWrite (protection : Protection) : Protection :=
  { protection with write := true }

/-- Where the library was loaded. -/
structure Layout where
  slot : GotSymbol → Nat
  pageSize : Nat
  pageSize_pos : 0 < pageSize

/-- The base address of the page that contains an address. -/
def Layout.page (layout : Layout) (address : Nat) : Nat :=
  address - address % layout.pageSize

/-- The part of the process that the installation reads and writes. -/
structure Process where
  got : Nat → CodePtr
  /-- Protection by page address. -/
  prot : Nat → Protection
  /-- `sRealOnUnsol` and `sRealOnComplete`. -/
  sReal : GotSymbol → CodePtr
  sIaHookState : IaHookState
  workers : Nat
  /-- Not memory: a page was written to that is not writable. -/
  faulted : Bool

/-! ## The interface -/

/-- The pthread calls whose only result is whether they worked. -/
inductive PthreadCall where
  | condattrInit
  | condattrSetclock
  | condInit
  | attrInit
  | attrSetdetachstate
  deriving DecidableEq, Repr

inductive GotOp where
  /-- Strong compare-exchange on `sIaHookState`. -/
  | exchangeHookState (expected desired : IaHookState)
  | storeHookState (state : IaHookState)
  /-- `dl_iterate_phdr` with `gotScanCallback`. -/
  | scanLibrary
  /-- The relocation scan of `findGotEntry`. -/
  | resolve (symbol : GotSymbol)
  | mappingProt (address : Nat)
  | loadGot (slot : Nat)
  | storeReal (symbol : GotSymbol) (original : CodePtr) (valid : original ≠ .null)
  | mprotect (page pageSize : Nat) (protection : Protection)
  | exchangeGot (slot : Nat) (expected desired : CodePtr)
  | pthread (call : PthreadCall)
  | pthreadCreate
  deriving DecidableEq, Repr

/-- What each call answers.  A compare-exchange on the state answers the value it
found, a failed lookup or read-back answers `none`. -/
def GotOp.Reply : GotOp → Type
  | .exchangeHookState _ _ => IaHookState
  | .storeHookState _ => Unit
  | .scanLibrary => Bool
  | .resolve _ => Option (Nat × Nat)
  | .mappingProt _ => Option Protection
  | .loadGot _ => Option CodePtr
  | .storeReal _ _ _ => Unit
  | .mprotect _ _ _ => Bool
  | .exchangeGot _ _ _ => Bool
  | .pthread _ => Bool
  | .pthreadCreate => Bool

/-- The effect of a call; the choice says whether it works. -/
def answer (layout : Layout) : Program.Handler GotOp GotOp.Reply Process Bool
  | process, .exchangeHookState expected desired, _ =>
      if process.sIaHookState = expected then
        ({ process with sIaHookState := desired }, process.sIaHookState)
      else
        (process, process.sIaHookState)
  | process, .storeHookState state, _ => ({ process with sIaHookState := state }, ())
  | process, .scanLibrary, works => (process, works)
  | process, .resolve symbol, works =>
      (process, if works then some (layout.slot symbol, layout.pageSize) else none)
  | process, .mappingProt address, works =>
      (process, if works then some (process.prot (layout.page address)) else none)
  | process, .loadGot slot, works => (process, if works then some (process.got slot) else none)
  | process, .storeReal symbol original _, _ =>
      ({ process with sReal := Function.update process.sReal symbol original }, ())
  | process, .mprotect page _ protection, works =>
      if works then
        ({ process with prot := Function.update process.prot page protection }, true)
      else
        (process, false)
  | process, .exchangeGot slot expected desired, works =>
      if !(process.prot (layout.page slot)).write then
        -- the signal that this raises is not modelled; no installation gets here
        ({ process with faulted := true }, false)
      else if works ∧ process.got slot = expected then
        ({ process with got := Function.update process.got slot desired }, true)
      else
        (process, false)
  | process, .pthread _, works => (process, works)
  | process, .pthreadCreate, works =>
      if works then ({ process with workers := process.workers + 1 }, true) else (process, false)

/-! ## The installation -/

abbrev GotProgram := Program GotOp GotOp.Reply

def exchangeHookState (expected desired : IaHookState) : GotProgram IaHookState :=
  Program.perform (GotOp.exchangeHookState expected desired)

def storeHookState (state : IaHookState) : GotProgram Unit :=
  Program.perform (GotOp.storeHookState state)

def scanLibrary : GotProgram Bool :=
  Program.perform GotOp.scanLibrary

def resolve (symbol : GotSymbol) : GotProgram (Option (Nat × Nat)) :=
  Program.perform (GotOp.resolve symbol)

def mappingProt (address : Nat) : GotProgram (Option Protection) :=
  Program.perform (GotOp.mappingProt address)

def loadGot (slot : Nat) : GotProgram (Option CodePtr) :=
  Program.perform (GotOp.loadGot slot)

def storeReal (symbol : GotSymbol) (original : CodePtr) (valid : original ≠ .null) :
    GotProgram Unit :=
  Program.perform (GotOp.storeReal symbol original valid)

def mprotect (page pageSize : Nat) (protection : Protection) : GotProgram Bool :=
  Program.perform (GotOp.mprotect page pageSize protection)

def exchangeGot (slot : Nat) (expected desired : CodePtr) : GotProgram Bool :=
  Program.perform (GotOp.exchangeGot slot expected desired)

def pthread (call : PthreadCall) : GotProgram Bool :=
  Program.perform (GotOp.pthread call)

def pthreadCreate : GotProgram Bool :=
  Program.perform GotOp.pthreadCreate

/-- `GotEntry`.  An entry whose original is `NULL` or the hook itself is never
made. -/
structure GotEntry where
  symbol : GotSymbol
  slot : Nat
  original : CodePtr
  replacement : CodePtr
  page : Nat
  pageSize : Nat
  protection : Protection
  original_ne_null : original ≠ .null
  original_ne_replacement : original ≠ replacement
  deriving DecidableEq, Repr

def loadGotValue (entry : GotEntry) : GotProgram (Option CodePtr) :=
  loadGot entry.slot

/-- Resolve without writing. -/
def findGotEntry (symbol : GotSymbol) (replacement : CodePtr) :
    GotProgram (Option GotEntry) := do
  match ← resolve symbol with
  | none => return none
  | some (slot, pageSize) =>
      match ← mappingProt slot with
      | none => return none
      | some protection =>
          match ← loadGot slot with
          | none => return none
          | some original =>
              if unusable : original = .null ∨ original = replacement then
                return none
              else
                return some
                  { symbol, slot, original, replacement, page := slot - slot % pageSize
                    pageSize, protection
                    original_ne_null := fun null => unusable (.inl null)
                    original_ne_replacement := fun hooked => unusable (.inr hooked) }

/-- The slot reads as `expected`. -/
def readsBack (entry : GotEntry) (expected : CodePtr) : GotProgram Bool := do
  let actual ← loadGotValue entry
  return actual = some expected

def verifyGotValue (entry : GotEntry) (expected : CodePtr) : GotProgram Bool := do
  let matching ← readsBack entry expected
  let actualProt ← mappingProt entry.slot
  return matching && actualProt = some entry.protection

/-- `mprotect` the page of an entry, unless it was writable from the start. -/
def changeProtection (entry : GotEntry) (protection : Protection) : GotProgram Bool :=
  if entry.protection.write then pure true else mprotect entry.page entry.pageSize protection

/-- The compare-exchange and the read-back after it. -/
def exchangeAndReadBack (entry : GotEntry) (expected desired : CodePtr) : GotProgram Bool := do
  if ← exchangeGot entry.slot expected desired then readsBack entry desired else return false

/-- Compare-and-publish one GOT word, then check its value and its protection.  The
protection is restored whether or not the exchange worked. -/
def writeGotValue (entry : GotEntry) (expected desired : CodePtr) : GotProgram Bool := do
  if !(← changeProtection entry entry.protection.withWrite) then
    return false
  else
    let success ← exchangeAndReadBack entry expected desired
    let restored ← changeProtection entry entry.protection
    if success && restored then verifyGotValue entry desired else return false

/-- Put the original back if the slot reads as the replacement; the result of the
write is ignored. -/
def unhook (entry : GotEntry) : GotProgram Unit := do
  if ← readsBack entry entry.replacement then
    let _ ← writeGotValue entry entry.replacement entry.original

/-- Undo in reverse order; only the final verification counts. -/
def rollbackGotHooks (unsol complete : GotEntry) : GotProgram Bool := do
  unhook complete
  unhook unsol
  let completeRestored ← verifyGotValue complete complete.original
  let unsolRestored ← verifyGotValue unsol unsol.original
  return completeRestored && unsolRestored

/-- Whether `sIaWake` is on `CLOCK_MONOTONIC`. -/
def initIaWake : GotProgram Bool := do
  if !(← pthread .condattrInit) then
    return false
  else if ← pthread .condattrSetclock then
    pthread .condInit
  else
    return false

def startIaWorker : GotProgram Bool := do
  if !(← initIaWake) then
    return false
  else if !(← pthread .attrInit) then
    return false
  else if ← pthread .attrSetdetachstate then
    pthreadCreate
  else
    return false

/-- Both entries, if the library and both symbols resolve to distinct slots. -/
def resolveBoth : GotProgram (Option (GotEntry × GotEntry)) := do
  if !(← scanLibrary) then
    return none
  else
    match ← findGotEntry .onUnsolicitedResponse .unsolHook with
    | none => return none
    | some unsol =>
        match ← findGotEntry .onRequestComplete .completeHook with
        | none => return none
        | some complete =>
            if unsol.slot = complete.slot then return none else return some (unsol, complete)

/-- Write both hooks and verify both. -/
def writeBoth (unsol complete : GotEntry) : GotProgram Bool := do
  if !(← writeGotValue unsol unsol.original unsol.replacement) then
    return false
  else if !(← writeGotValue complete complete.original complete.replacement) then
    return false
  else if !(← verifyGotValue unsol unsol.replacement) then
    return false
  else
    verifyGotValue complete complete.replacement

/-- The common end of both failure paths. -/
def abandon (unsol complete : GotEntry) : GotProgram Int := do
  let rolledBack ← rollbackGotHooks unsol complete
  storeHookState (if rolledBack then .disabled else .failed)
  return -1

/-- The call from the first GOT write on. -/
def commit (unsol complete : GotEntry) : GotProgram Int := do
  if !(← writeBoth unsol complete) then
    abandon unsol complete
  else if !(← startIaWorker) then
    abandon unsol complete
  else
    storeHookState .active
    return 0

def installAttachApnHooks : GotProgram Int := do
  let observed ← exchangeHookState .disabled .installing
  if observed ≠ .disabled then
    return if observed = .active then 0 else -1
  else
    match ← resolveBoth with
    | none =>
        storeHookState .disabled
        return -1
    | some (unsol, complete) =>
        -- both originals are published before either hook is reachable
        storeReal .onUnsolicitedResponse unsol.original unsol.original_ne_null
        storeReal .onRequestComplete complete.original complete.original_ne_null
        commit unsol complete

end K50sv1.RilShim.Got
