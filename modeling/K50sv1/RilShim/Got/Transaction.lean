import K50sv1.RilShim.Got.Core
import K50sv1.Transition.Run

/-!
# Hook installation is a transaction

The specification of one call of `installAttachApnHooks` for every combination of
faults, and its consequences for sequences of calls.  A call works inside a
footprint (each slot holds its original value or its hook, and a hook only where
the original has been published) and decides its outcome by verification alone,
so the specification needs no case for the individual fault.
-/

namespace K50sv1.RilShim.Got

open K50sv1.Transition
open K50sv1.Transition.Program
open K50sv1.RilShim.AttachApn (IaHookState)

variable {layout : Layout} {Inv : Process → Prop} {process : Process}

/-! ## Calls -/

section Calls

variable (inv : Inv process)
include inv

theorem ensures_loadGot {slot : Nat} {Q : Option CodePtr → Process → Prop}
    (failed : Q none process) (read : Q (some (process.got slot)) process) :
    Ensures (answer layout) Inv (loadGot slot) Q process := by
  apply ensures_perform inv
  intro works
  cases works with
  | false => exact ⟨inv, failed⟩
  | true => exact ⟨inv, read⟩

theorem ensures_mappingProt {address : Nat} {Q : Option Protection → Process → Prop}
    (failed : Q none process) (found : Q (some (process.prot (layout.page address))) process) :
    Ensures (answer layout) Inv (mappingProt address) Q process := by
  apply ensures_perform inv
  intro works
  cases works with
  | false => exact ⟨inv, failed⟩
  | true => exact ⟨inv, found⟩

/-- The pthread calls and the library scan change nothing the model sees. -/
theorem ensures_pthread {call : PthreadCall} {Q : Bool → Process → Prop}
    (post : ∀ works, Q works process) :
    Ensures (answer layout) Inv (pthread call) Q process :=
  ensures_perform inv fun works => ⟨inv, post works⟩

theorem ensures_mprotect {page pageSize : Nat} {protection : Protection}
    {Q : Bool → Process → Prop} (failed : Q false process)
    (changed : Inv { process with prot := Function.update process.prot page protection } ∧
      Q true { process with prot := Function.update process.prot page protection }) :
    Ensures (answer layout) Inv (mprotect page pageSize protection) Q process := by
  apply ensures_perform inv
  intro works
  cases works with
  | false => exact ⟨inv, failed⟩
  | true => exact changed

theorem ensures_storeReal {symbol : GotSymbol} {original : CodePtr} {valid : original ≠ .null}
    {Q : Unit → Process → Prop}
    (stored : Inv { process with sReal := Function.update process.sReal symbol original } ∧
      Q () { process with sReal := Function.update process.sReal symbol original }) :
    Ensures (answer layout) Inv (storeReal symbol original valid) Q process :=
  ensures_perform inv fun _ => stored

theorem ensures_storeHookState {state : IaHookState} {Q : Unit → Process → Prop}
    (stored : Inv { process with sIaHookState := state } ∧
      Q () { process with sIaHookState := state }) :
    Ensures (answer layout) Inv (storeHookState state) Q process :=
  ensures_perform inv fun _ => stored

theorem ensures_exchangeHookState {expected desired : IaHookState}
    {Q : IaHookState → Process → Prop}
    (exchanged : process.sIaHookState = expected →
      Inv { process with sIaHookState := desired } ∧
        Q expected { process with sIaHookState := desired })
    (kept : process.sIaHookState ≠ expected → Q process.sIaHookState process) :
    Ensures (answer layout) Inv (exchangeHookState expected desired) Q process := by
  apply ensures_perform inv
  intro _
  by_cases same : process.sIaHookState = expected
  · simp only [answer, if_pos same]
    rw [same]
    exact exchanged same
  · simp only [answer, if_neg same]
    exact ⟨inv, kept same⟩

theorem ensures_exchangeGot {slot : Nat} {expected desired : CodePtr}
    {Q : Bool → Process → Prop} (writable : (process.prot (layout.page slot)).write = true)
    (failed : Q false process)
    (exchanged : process.got slot = expected →
      Inv { process with got := Function.update process.got slot desired } ∧
        Q true { process with got := Function.update process.got slot desired }) :
    Ensures (answer layout) Inv (exchangeGot slot expected desired) Q process := by
  apply ensures_perform inv
  intro works
  by_cases enabled : works ∧ process.got slot = expected
  · simp only [answer, writable, Bool.not_true, Bool.false_eq_true, if_false, if_pos enabled]
    exact exchanged enabled.2
  · simp only [answer, writable, Bool.not_true, Bool.false_eq_true, if_false, if_neg enabled]
    exact ⟨inv, failed⟩

end Calls

/-! ## Entries -/

/-- `entry` is what `findGotEntry` gathers for `symbol` in the state `start`. -/
structure Describes (layout : Layout) (start : Process) (symbol : GotSymbol)
    (entry : GotEntry) : Prop where
  slot : entry.slot = layout.slot symbol
  page : entry.page = layout.page (layout.slot symbol)
  original : entry.original = start.got (layout.slot symbol)
  replacement : entry.replacement = hookOf symbol
  protection : entry.protection = start.prot (layout.page (layout.slot symbol))

theorem ensures_findGotEntry (inv : Inv process) (symbol : GotSymbol) :
    Ensures (answer layout) Inv (findGotEntry symbol (hookOf symbol))
      (fun found after => after = process ∧
        ∀ entry, found = some entry → Describes layout process symbol entry) process := by
  have missing : Ensures (answer layout) Inv (pure none)
      (fun found after => after = process ∧
        ∀ entry, found = some entry → Describes layout process symbol entry) process := by
    apply ensures_pure inv
    simp
  apply ensures_bind
  apply ensures_perform inv
  intro works
  refine ⟨inv, ?_⟩
  cases works with
  | false => exact missing
  | true =>
      apply ensures_bind
      apply ensures_mappingProt inv missing
      apply ensures_bind
      apply ensures_loadGot inv missing
      by_cases unusable : process.got (layout.slot symbol) = .null ∨
          process.got (layout.slot symbol) = hookOf symbol
      · simp only [dif_pos unusable]
        exact missing
      · simp only [dif_neg unusable]
        apply ensures_pure inv
        refine ⟨rfl, ?_⟩
        rintro entry ⟨⟩
        exact ⟨rfl, rfl, rfl, rfl, rfl⟩

theorem ensures_readsBack (inv : Inv process) (entry : GotEntry) (expected : CodePtr) :
    Ensures (answer layout) Inv (readsBack entry expected)
      (fun matching after => after = process ∧
        (matching = true → process.got entry.slot = expected)) process := by
  apply ensures_bind
  apply ensures_loadGot inv
  · apply ensures_pure inv
    simp
  · apply ensures_pure inv
    simp

/-- A verified slot has the expected word and the captured protection. -/
theorem ensures_verifyGotValue (inv : Inv process) (entry : GotEntry) (expected : CodePtr) :
    Ensures (answer layout) Inv (verifyGotValue entry expected)
      (fun verified after => after = process ∧
        (verified = true → process.got entry.slot = expected ∧
          process.prot (layout.page entry.slot) = entry.protection)) process := by
  apply (ensures_readsBack inv entry expected).bind
  rintro matching after _ ⟨rfl, word⟩
  apply ensures_bind
  apply ensures_mappingProt inv
  · apply ensures_pure inv
    simp
  · apply ensures_pure inv
    refine ⟨rfl, ?_⟩
    simp only [Bool.and_eq_true, decide_eq_true_eq, Option.some.injEq]
    rintro ⟨isMatching, protection⟩
    exact ⟨word isMatching, protection⟩

/-! ## Inside a transaction -/

/-- Between the publication of both originals and the end of the call: each slot
holds its original word or its hook, and a page that was writable still is. -/
structure Transacting (layout : Layout) (start process : Process) : Prop where
  installing : process.sIaHookState = .installing
  workers : process.workers = start.workers
  unfaulted : process.faulted = start.faulted
  writable : ∀ symbol, (start.prot (layout.page (layout.slot symbol))).write = true →
    (process.prot (layout.page (layout.slot symbol))).write = true
  published : ∀ symbol, process.sReal symbol = start.got (layout.slot symbol)
  slots : ∀ symbol, process.got (layout.slot symbol) = start.got (layout.slot symbol) ∨
    process.got (layout.slot symbol) = hookOf symbol

section Transaction

variable {start : Process} {symbol : GotSymbol} {entry : GotEntry}

/-- The protection of a page may be changed if it was not writable. -/
theorem Transacting.mprotect (inv : Transacting layout start process)
    (describes : Describes layout start symbol entry) (readOnly : ¬entry.protection.write = true)
    (protection : Protection) :
    Transacting layout start
      { process with prot := Function.update process.prot entry.page protection } where
  installing := inv.installing
  workers := inv.workers
  unfaulted := inv.unfaulted
  writable other writable := by
    have differs : layout.page (layout.slot other) ≠ entry.page := by
      intro same
      rw [same, describes.page, ← describes.protection] at writable
      exact readOnly writable
    simpa [differs] using inv.writable other writable
  published := inv.published
  slots := inv.slots

/-- A slot may be set to its original word or to its hook. -/
theorem Transacting.exchange (inv : Transacting layout start process)
    (distinct : Function.Injective layout.slot) {desired : CodePtr}
    (allowed : desired = start.got (layout.slot symbol) ∨ desired = hookOf symbol) :
    Transacting layout start
      { process with got := Function.update process.got (layout.slot symbol) desired } where
  installing := inv.installing
  workers := inv.workers
  unfaulted := inv.unfaulted
  writable := inv.writable
  published := inv.published
  slots other := by
    by_cases same : other = symbol
    · subst same
      simpa using allowed
    · have differs : layout.slot other ≠ layout.slot symbol := fun equal => same (distinct equal)
      simpa [differs] using inv.slots other

/-- A page is writable once it has been made so. -/
theorem ensures_changeProtection (inv : Transacting layout start process)
    (describes : Describes layout start symbol entry) (protection : Protection) :
    Ensures (answer layout) (Transacting layout start) (changeProtection entry protection)
      (fun changed after => changed = true → protection.write = true →
        (after.prot (layout.page entry.slot)).write = true) process := by
  have page : layout.page entry.slot = entry.page := by rw [describes.slot, describes.page]
  unfold changeProtection
  split_ifs with write
  · refine ensures_pure inv fun _ _ => ?_
    rw [describes.protection] at write
    rw [describes.slot]
    exact inv.writable symbol write
  · refine ensures_mprotect inv nofun ⟨inv.mprotect describes write _, fun _ writable => ?_⟩
    rw [page]
    exact (congrArg Protection.write (Function.update_self ..)).trans writable

theorem ensures_exchangeAndReadBack (inv : Transacting layout start process)
    (distinct : Function.Injective layout.slot) (describes : Describes layout start symbol entry)
    (writable : (process.prot (layout.page entry.slot)).write = true)
    (expected : CodePtr) {desired : CodePtr}
    (allowed : desired = start.got (layout.slot symbol) ∨ desired = hookOf symbol) :
    Ensures (answer layout) (Transacting layout start)
      (exchangeAndReadBack entry expected desired) (fun _ _ => True) process := by
  apply ensures_bind
  apply ensures_exchangeGot inv writable
  · exact ensures_pure inv trivial
  · intro _
    rw [describes.slot]
    have written := inv.exchange distinct allowed
    refine ⟨written, ?_⟩
    exact (ensures_readsBack written entry desired).mono (fun _ inv => inv)
      (fun _ _ _ _ => trivial)

/-- Writing a slot stays inside the transaction, whatever fails. -/
theorem ensures_writeGotValue (inv : Transacting layout start process)
    (distinct : Function.Injective layout.slot) (describes : Describes layout start symbol entry)
    (expected : CodePtr) {desired : CodePtr}
    (allowed : desired = start.got (layout.slot symbol) ∨ desired = hookOf symbol) :
    Ensures (answer layout) (Transacting layout start) (writeGotValue entry expected desired)
      (fun _ _ => True) process := by
  apply (ensures_changeProtection inv describes _).bind
  rintro unprotected after inv writable
  cases unprotected with
  | false => exact ensures_pure inv trivial
  | true =>
      apply (ensures_exchangeAndReadBack inv distinct describes (writable rfl rfl) expected
        allowed).bind
      rintro success after inv _
      apply (ensures_changeProtection inv describes _).bind
      rintro restored after inv _
      split
      · exact (ensures_verifyGotValue inv entry desired).mono (fun _ inv => inv)
          (fun _ _ _ _ => trivial)
      · exact ensures_pure inv trivial

theorem ensures_unhook (inv : Transacting layout start process)
    (distinct : Function.Injective layout.slot)
    (describes : Describes layout start symbol entry) :
    Ensures (answer layout) (Transacting layout start) (unhook entry) (fun _ _ => True)
      process := by
  apply (ensures_readsBack inv entry _).bind
  rintro matching after inv _
  cases matching with
  | false => exact ensures_pure inv trivial
  | true =>
      apply (ensures_writeGotValue inv distinct describes _ (.inl describes.original)).bind
      rintro _ after inv _
      exact ensures_pure inv trivial

end Transaction

/-! ## The outcome of a call -/

/-- Both slots hold `word` under the protections of `start`. -/
def SlotsHold (layout : Layout) (start : Process) (word : GotSymbol → CodePtr)
    (process : Process) : Prop :=
  ∀ symbol, process.got (layout.slot symbol) = word symbol ∧
    process.prot (layout.page (layout.slot symbol)) =
      start.prot (layout.page (layout.slot symbol))

/-- Both slots hold their words from before the call. -/
def Restored (layout : Layout) (start process : Process) : Prop :=
  SlotsHold layout start (fun symbol => start.got (layout.slot symbol)) process

section Pair

variable {start : Process} {unsol complete : GotEntry}
  (distinct : Function.Injective layout.slot)
  (describesUnsol : Describes layout start .onUnsolicitedResponse unsol)
  (describesComplete : Describes layout start .onRequestComplete complete)

include describesUnsol describesComplete

/-- Verifying both entries one after the other. -/
theorem slotsHold_of_verified {word : GotSymbol → CodePtr}
    (unsolHolds : process.got unsol.slot = word .onUnsolicitedResponse ∧
      process.prot (layout.page unsol.slot) = unsol.protection)
    (completeHolds : process.got complete.slot = word .onRequestComplete ∧
      process.prot (layout.page complete.slot) = complete.protection) :
    SlotsHold layout start word process := by
  rw [describesUnsol.slot, describesUnsol.protection] at unsolHolds
  rw [describesComplete.slot, describesComplete.protection] at completeHolds
  intro symbol
  cases symbol with
  | onUnsolicitedResponse => exact unsolHolds
  | onRequestComplete => exact completeHolds

include distinct

/-- Both writes with both verifications: a positive answer is the truth about both
slots at once. -/
theorem ensures_writeBoth (inv : Transacting layout start process) :
    Ensures (answer layout) (Transacting layout start) (writeBoth unsol complete)
      (fun written after => written = true → SlotsHold layout start hookOf after) process := by
  apply (ensures_writeGotValue inv distinct describesUnsol _
    (.inr describesUnsol.replacement)).bind
  rintro unsolWritten after inv _
  cases unsolWritten with
  | false => exact ensures_pure inv nofun
  | true =>
      apply (ensures_writeGotValue inv distinct describesComplete _
        (.inr describesComplete.replacement)).bind
      rintro completeWritten after inv _
      cases completeWritten with
      | false => exact ensures_pure inv nofun
      | true =>
          apply (ensures_verifyGotValue inv unsol _).bind
          rintro unsolVerified _ _ ⟨rfl, unsolHolds⟩
          cases unsolVerified with
          | false => exact ensures_pure inv nofun
          | true =>
              apply (ensures_verifyGotValue inv complete _).mono (fun _ inv => inv)
              rintro completeVerified _ _ ⟨rfl, completeHolds⟩ verified
              rw [describesUnsol.replacement] at unsolHolds
              rw [describesComplete.replacement] at completeHolds
              exact slotsHold_of_verified describesUnsol describesComplete (unsolHolds rfl)
                (completeHolds verified)

/-- The rollback is judged by its final verification. -/
theorem ensures_rollbackGotHooks (inv : Transacting layout start process) :
    Ensures (answer layout) (Transacting layout start) (rollbackGotHooks unsol complete)
      (fun rolledBack after => rolledBack = true → Restored layout start after) process := by
  apply (ensures_unhook inv distinct describesComplete).bind
  rintro _ after inv _
  apply (ensures_unhook inv distinct describesUnsol).bind
  rintro _ after inv _
  apply (ensures_verifyGotValue inv complete _).bind
  rintro completeRestored _ _ ⟨rfl, completeHolds⟩
  apply (ensures_verifyGotValue inv unsol _).bind
  rintro unsolRestored _ _ ⟨rfl, unsolHolds⟩
  apply ensures_pure inv
  intro rolledBack
  rw [Bool.and_eq_true] at rolledBack
  rw [describesUnsol.original] at unsolHolds
  rw [describesComplete.original] at completeHolds
  exact slotsHold_of_verified describesUnsol describesComplete (unsolHolds rolledBack.2)
    (completeHolds rolledBack.1)

end Pair

/-- What every state of a call has in common: a slot holds its original word, or its
hook with the original published, and a worker exists only once both hooks do. -/
structure Footprint (layout : Layout) (start process : Process) : Prop where
  real : ∀ symbol, process.sReal symbol = start.sReal symbol ∨
    process.sReal symbol = start.got (layout.slot symbol)
  slots : ∀ symbol, process.got (layout.slot symbol) = start.got (layout.slot symbol) ∨
    process.got (layout.slot symbol) = hookOf symbol ∧
      process.sReal symbol = start.got (layout.slot symbol)
  workers : process.workers = start.workers ∨ process.workers = start.workers + 1 ∧
    ∀ symbol, process.got (layout.slot symbol) = hookOf symbol
  unfaulted : process.faulted = start.faulted

theorem Transacting.footprint {start : Process} (inv : Transacting layout start process) :
    Footprint layout start process where
  real symbol := .inr (inv.published symbol)
  slots symbol := (inv.slots symbol).imp id fun hooked => ⟨hooked, inv.published symbol⟩
  workers := .inl inv.workers
  unfaulted := inv.unfaulted

theorem Footprint.storeHookState {start : Process} (inv : Footprint layout start process)
    (state : IaHookState) :
    Footprint layout start { process with sIaHookState := state } :=
  ⟨inv.real, inv.slots, inv.workers, inv.unfaulted⟩

/-- Publishing the word of a slot as the original of its symbol. -/
theorem Footprint.storeReal {start : Process} (inv : Footprint layout start process)
    (symbol : GotSymbol) :
    Footprint layout start { process with
      sReal := Function.update process.sReal symbol (start.got (layout.slot symbol)) } where
  real other := by
    by_cases same : other = symbol
    · right
      subst same
      exact Function.update_self ..
    · simpa [same] using inv.real other
  slots other := by
    by_cases same : other = symbol
    · subst same
      rcases inv.slots other with original | ⟨hooked, _⟩
      · exact .inl original
      · exact .inr ⟨hooked, Function.update_self ..⟩
    · simpa [same] using inv.slots other
  workers := inv.workers
  unfaulted := inv.unfaulted

theorem footprint_refl (start : Process) : Footprint layout start start :=
  ⟨fun _ => .inl rfl, fun _ => .inl rfl, .inl rfl, rfl⟩

/-- Return code 0 from `DISABLED`. -/
structure Committed (layout : Layout) (start process : Process) : Prop where
  active : process.sIaHookState = .active
  hooked : SlotsHold layout start hookOf process
  worker : process.workers = start.workers + 1

/-- Return code -1 from `DISABLED`. -/
structure Aborted (layout : Layout) (start process : Process) : Prop where
  state : process.sIaHookState = .disabled ∧ Restored layout start process ∨
    process.sIaHookState = .failed
  worker : process.workers = start.workers

/-- The outcome of a call that began in the state `start`. -/
def InstallOutcome (layout : Layout) (start : Process) (rc : Int) (process : Process) : Prop :=
  if start.sIaHookState = .disabled then
    rc = 0 ∧ Committed layout start process ∨ rc = -1 ∧ Aborted layout start process
  else
    process = start ∧ rc = if start.sIaHookState = .active then 0 else -1

/-- The worker is created by the last call or not at all. -/
theorem ensures_startIaWorker (inv : Inv process)
    (created : Inv { process with workers := process.workers + 1 }) :
    Ensures (answer layout) Inv startIaWorker
      (fun started after => after =
        if started then { process with workers := process.workers + 1 } else process)
      process := by
  have none : Ensures (answer layout) Inv (pure false)
      (fun started after => after =
        if started then { process with workers := process.workers + 1 } else process)
      process := ensures_pure inv rfl
  have wake : Ensures (answer layout) Inv initIaWake (fun _ after => after = process) process := by
    apply ensures_bind
    apply ensures_pthread inv
    intro initialised
    cases initialised with
    | false => exact ensures_pure inv rfl
    | true =>
        apply ensures_bind
        apply ensures_pthread inv
        intro monotonic
        cases monotonic with
        | false => exact ensures_pure inv rfl
        | true => exact ensures_pthread inv fun _ => rfl
  apply wake.bind
  rintro awake _ _ rfl
  cases awake with
  | false => exact none
  | true =>
      apply ensures_bind
      apply ensures_pthread inv
      intro initialised
      cases initialised with
      | false => exact none
      | true =>
          apply ensures_bind
          apply ensures_pthread inv
          intro detached
          cases detached with
          | false => exact none
          | true =>
              apply ensures_perform inv
              intro works
              cases works with
              | false => exact ⟨inv, rfl⟩
              | true => exact ⟨created, rfl⟩

theorem ensures_resolveBoth (inv : Inv process) :
    Ensures (answer layout) Inv resolveBoth
      (fun found after => after = process ∧ ∀ unsol complete, found = some (unsol, complete) →
        Describes layout process .onUnsolicitedResponse unsol ∧
        Describes layout process .onRequestComplete complete ∧
        Function.Injective layout.slot) process := by
  have missing : ∀ {P : GotEntry → GotEntry → Prop}, Ensures (answer layout) Inv (pure none)
      (fun found after => after = process ∧ ∀ unsol complete,
        found = some (unsol, complete) → P unsol complete) process := by
    intro P
    apply ensures_pure inv
    simp
  apply ensures_bind
  apply ensures_perform inv
  intro found
  refine ⟨inv, ?_⟩
  cases found with
  | false => exact missing
  | true =>
      apply (ensures_findGotEntry inv .onUnsolicitedResponse).bind
      rintro unsol _ _ ⟨rfl, describesUnsol⟩
      cases unsol with
      | none => exact missing
      | some unsol =>
          apply (ensures_findGotEntry inv .onRequestComplete).bind
          rintro complete _ _ ⟨rfl, describesComplete⟩
          cases complete with
          | none => exact missing
          | some complete =>
              by_cases same : unsol.slot = complete.slot
              · simp only [if_pos same]
                exact missing
              · simp only [if_neg same]
                apply ensures_pure inv
                refine ⟨rfl, ?_⟩
                rintro _ _ ⟨⟩
                have first := describesUnsol unsol rfl
                have second := describesComplete complete rfl
                refine ⟨first, second, ?_⟩
                rw [first.slot, second.slot] at same
                intro left right equal
                cases left <;> cases right
                · rfl
                · exact absurd equal same
                · exact absurd equal.symm same
                · rfl

section Install

variable {start : Process} {unsol complete : GotEntry}

theorem ensures_abandon (distinct : Function.Injective layout.slot)
    (describesUnsol : Describes layout start .onUnsolicitedResponse unsol)
    (describesComplete : Describes layout start .onRequestComplete complete)
    (inv : Transacting layout start process) :
    Ensures (answer layout) (Footprint layout start) (abandon unsol complete)
      (fun rc after => rc = -1 ∧ Aborted layout start after) process := by
  have rollback := ensures_rollbackGotHooks distinct describesUnsol describesComplete inv
  apply (rollback.mono (Q := fun rolledBack after => Transacting layout start after ∧
      (rolledBack = true → Restored layout start after))
    (fun _ inv => inv.footprint) (fun _ _ inv restored => ⟨inv, restored⟩)).bind
  rintro rolledBack after footprint ⟨inv, restored⟩
  apply ensures_bind
  apply ensures_storeHookState footprint
  refine ⟨footprint.storeHookState _, ?_⟩
  apply ensures_pure (footprint.storeHookState _)
  refine ⟨rfl, ?_, inv.workers⟩
  cases rolledBack with
  | false => exact .inr rfl
  | true => exact .inl ⟨rfl, restored rfl⟩

/-- The call after both originals have been published. -/
theorem ensures_commit (distinct : Function.Injective layout.slot)
    (describesUnsol : Describes layout start .onUnsolicitedResponse unsol)
    (describesComplete : Describes layout start .onRequestComplete complete)
    (inv : Transacting layout start process) :
    Ensures (answer layout) (Footprint layout start) (commit unsol complete)
      (fun rc after => rc = 0 ∧ Committed layout start after ∨
        rc = -1 ∧ Aborted layout start after) process := by
  have aborts : ∀ {process}, Transacting layout start process →
      Ensures (answer layout) (Footprint layout start) (abandon unsol complete)
        (fun rc after => rc = 0 ∧ Committed layout start after ∨
          rc = -1 ∧ Aborted layout start after) process := fun inv =>
    (ensures_abandon distinct describesUnsol describesComplete inv).mono (fun _ inv => inv)
      (fun _ _ _ aborted => .inr aborted)
  have writes := ensures_writeBoth distinct describesUnsol describesComplete inv
  apply (writes.mono (Q := fun written after => Transacting layout start after ∧
      (written = true → SlotsHold layout start hookOf after))
    (fun _ inv => inv.footprint) (fun _ _ inv hooked => ⟨inv, hooked⟩)).bind
  rintro written after footprint ⟨inv, hooked⟩
  cases written with
  | false => exact aborts inv
  | true =>
      have hooked := hooked rfl
      have created : Footprint layout start { after with workers := after.workers + 1 } := by
        refine ⟨footprint.real, footprint.slots, .inr ⟨?_, fun symbol => (hooked symbol).1⟩,
          footprint.unfaulted⟩
        rw [inv.workers]
      apply (ensures_startIaWorker footprint created).bind
      rintro started _ _ rfl
      cases started with
      | false => exact aborts inv
      | true =>
          apply ensures_bind
          apply ensures_storeHookState created
          refine ⟨created.storeHookState _, ?_⟩
          apply ensures_pure (created.storeHookState _)
          left
          refine ⟨rfl, rfl, hooked, ?_⟩
          rw [← inv.workers]

/-- What holds at every moment of a call that began in the state `start`. -/
def During (layout : Layout) (start process : Process) : Prop :=
  if start.sIaHookState = .disabled then Footprint layout start process else process = start

/-- No page is written to that is not writable. -/
theorem During.unfaulted (during : During layout start process) :
    process.faulted = start.faulted := by
  unfold During at during
  split_ifs at during
  · exact during.unfaulted
  · rw [during]

/-- A call that finds `DISABLED`. -/
theorem ensures_install_of_disabled (disabled : start.sIaHookState = .disabled) :
    Ensures (answer layout) (Footprint layout start) installAttachApnHooks
      (fun rc after => rc = 0 ∧ Committed layout start after ∨
        rc = -1 ∧ Aborted layout start after) start := by
  have begun : Footprint layout start { start with sIaHookState := .installing } :=
    (footprint_refl start).storeHookState _
  apply ensures_bind
  apply ensures_exchangeHookState (footprint_refl start)
  · intro _
    refine ⟨begun, ?_⟩
    apply (ensures_resolveBoth begun).bind
    rintro found _ _ ⟨rfl, describes⟩
    cases found with
    | none =>
        apply ensures_bind
        apply ensures_storeHookState begun
        refine ⟨begun.storeHookState _, ?_⟩
        apply ensures_pure (begun.storeHookState _)
        right
        exact ⟨rfl, .inl ⟨rfl, fun _ => ⟨rfl, rfl⟩⟩, rfl⟩
    | some entries =>
        rcases entries with ⟨unsol, complete⟩
        rcases describes unsol complete rfl with ⟨first, second, distinct⟩
        have describesUnsol : Describes layout start .onUnsolicitedResponse unsol :=
          ⟨first.slot, first.page, first.original, first.replacement, first.protection⟩
        have describesComplete : Describes layout start .onRequestComplete complete :=
          ⟨second.slot, second.page, second.original, second.replacement, second.protection⟩
        have unsolPublished := begun.storeReal .onUnsolicitedResponse
        have bothPublished := unsolPublished.storeReal .onRequestComplete
        apply ensures_bind
        apply ensures_storeReal begun
        rw [describesUnsol.original]
        refine ⟨unsolPublished, ?_⟩
        apply ensures_bind
        apply ensures_storeReal unsolPublished
        rw [describesComplete.original]
        refine ⟨bothPublished, ?_⟩
        apply ensures_commit distinct describesUnsol describesComplete
        constructor
        case installing => rfl
        case workers => rfl
        case unfaulted => rfl
        case writable => exact fun _ writable => writable
        case published =>
          intro symbol
          cases symbol <;> rfl
        case slots => exact fun _ => .inl rfl
  · intro enabled
    exact absurd disabled enabled

/-- The specification of `installAttachApnHooks`, for all faults at once. -/
theorem ensures_installAttachApnHooks (start : Process) :
    Ensures (answer layout) (During layout start) installAttachApnHooks
      (InstallOutcome layout start) start := by
  by_cases disabled : start.sIaHookState = .disabled
  · apply (ensures_install_of_disabled disabled).mono
    · intro after inv
      rwa [During, if_pos disabled]
    · intro rc after _ outcome
      rwa [InstallOutcome, if_pos disabled]
  · have unchanged : During layout start start := by
      rw [During, if_neg disabled]
    apply ensures_bind
    apply ensures_exchangeHookState unchanged
    · intro found
      exact absurd found disabled
    · intro _
      rw [if_pos disabled]
      apply ensures_pure unchanged
      rw [InstallOutcome, if_neg disabled]
      exact ⟨rfl, rfl⟩

end Install

/-! ## Calls and sequences of calls -/

/-- One complete call under a stream of outcomes. -/
def callInstall (layout : Layout) (start : Process) (outcomes : Nat → Bool) : Int × Process :=
  installAttachApnHooks.run (answer layout) start outcomes

/-- Calls made one after the other. -/
def installStep (layout : Layout) : Step (Nat → Bool) Process :=
  fun process outcomes => some (callInstall layout process outcomes).2

theorem callInstall_outcome (layout : Layout) (start : Process) (outcomes : Nat → Bool) :
    InstallOutcome layout start (callInstall layout start outcomes).1
      (callInstall layout start outcomes).2 :=
  (ensures_installAttachApnHooks start).run outcomes

/-- The worker belongs to the `ACTIVE` state. -/
def WorkerCount (count : Nat) (process : Process) : Prop :=
  process.sIaHookState = .active ∧ process.workers = count + 1 ∨
    process.sIaHookState ≠ .active ∧ process.workers = count

theorem workerCount_call {count : Nat} {start : Process} (before : WorkerCount count start)
    (outcomes : Nat → Bool) : WorkerCount count (callInstall layout start outcomes).2 := by
  have outcome := callInstall_outcome layout start outcomes
  unfold InstallOutcome at outcome
  split at outcome
  · rename_i disabled
    have count : start.workers = count := by
      rcases before with ⟨active, _⟩ | ⟨_, count⟩
      · rw [disabled] at active
        contradiction
      · exact count
    rcases outcome with ⟨_, committed⟩ | ⟨_, aborted⟩
    · left
      exact ⟨committed.active, by rw [committed.worker, count]⟩
    · right
      refine ⟨?_, by rw [aborted.worker, count]⟩
      rcases aborted.state with ⟨state, _⟩ | state
      · simp [state]
      · simp [state]
  · rw [outcome.1]
    exact before

/-- A call outside `DISABLED` changes nothing. -/
theorem callInstall_of_active {start : Process} (active : start.sIaHookState = .active)
    (outcomes : Nat → Bool) : (callInstall layout start outcomes).2 = start := by
  have outcome := callInstall_outcome layout start outcomes
  unfold InstallOutcome at outcome
  rw [if_neg (by simp [active])] at outcome
  exact outcome.1

/-- A call from `DISABLED` returns 0 exactly when it ends in `ACTIVE`, with both hooks
in place under the captured protections and one more worker; otherwise it returns -1
without a worker, and `DISABLED` means that both slots are as they were.  In any
sequence of calls at most one worker is started and `ACTIVE` is never left. -/
theorem install_transaction (layout : Layout) (start : Process) :
    (start.sIaHookState = .disabled → ∀ outcomes,
      ((callInstall layout start outcomes).1 = 0 ↔
        (callInstall layout start outcomes).2.sIaHookState = .active) ∧
      ((callInstall layout start outcomes).1 = 0 →
        SlotsHold layout start hookOf (callInstall layout start outcomes).2 ∧
          (callInstall layout start outcomes).2.workers = start.workers + 1) ∧
      ((callInstall layout start outcomes).1 ≠ 0 →
        (callInstall layout start outcomes).1 = -1 ∧
          (callInstall layout start outcomes).2.workers = start.workers ∧
          ((callInstall layout start outcomes).2.sIaHookState = .disabled ∧
              Restored layout start (callInstall layout start outcomes).2 ∨
            (callInstall layout start outcomes).2.sIaHookState = .failed))) ∧
    (start.sIaHookState = .disabled → ∀ final, Reachable (installStep layout) start final →
      final.workers ≤ start.workers + 1) ∧
    (start.sIaHookState = .active → ∀ final, Reachable (installStep layout) start final →
      final.sIaHookState = .active ∧ final.workers = start.workers) := by
  refine ⟨?_, ?_, ?_⟩
  · intro disabled outcomes
    have outcome := callInstall_outcome layout start outcomes
    unfold InstallOutcome at outcome
    rw [if_pos disabled] at outcome
    rcases outcome with ⟨rc, committed⟩ | ⟨rc, aborted⟩
    · refine ⟨iff_of_true rc committed.active, ?_, fun failed => absurd rc failed⟩
      intro _
      exact ⟨committed.hooked, committed.worker⟩
    · have notActive : (callInstall layout start outcomes).2.sIaHookState ≠ .active := by
        rcases aborted.state with ⟨state, _⟩ | state
        · simp [state]
        · simp [state]
      have notZero : (callInstall layout start outcomes).1 ≠ 0 := by
        rw [rc]
        decide
      refine ⟨iff_of_false notZero notActive, fun zero => absurd zero notZero, ?_⟩
      intro _
      exact ⟨rc, aborted.worker, aborted.state⟩
  · intro disabled final reachable
    have count : WorkerCount start.workers final := by
      apply reachable.invariant (I := WorkerCount start.workers)
      · right
        exact ⟨by simp [disabled], rfl⟩
      · rintro process outcomes _ before ⟨⟩
        exact workerCount_call before outcomes
    rcases count with ⟨_, workers⟩ | ⟨_, workers⟩
    · omega
    · omega
  · intro active final reachable
    have unchanged : final = start := by
      apply reachable.invariant (I := fun process => process = start) rfl
      rintro process outcomes _ rfl ⟨⟩
      exact callInstall_of_active active outcomes
    rw [unchanged]
    exact ⟨active, rfl⟩

/-- Two slots on one page, read-only after relocation. -/
def sharedPage : Layout where
  slot
    | .onUnsolicitedResponse => 0x1008
    | .onRequestComplete => 0x1010
  pageSize := 0x1000
  pageSize_pos := by decide

/-- The process before the first call. -/
def freshProcess : Process where
  got := .function
  prot _ := ⟨true, false, false⟩
  sReal _ := .null
  sIaHookState := .disabled
  workers := 0
  faulted := false

theorem install_transaction_sharedPage :
    freshProcess.sIaHookState = .disabled ∧
      (callInstall sharedPage freshProcess fun _ => true).1 = 0 ∧
      SlotsHold sharedPage freshProcess hookOf
        (callInstall sharedPage freshProcess fun _ => true).2 ∧
      (callInstall sharedPage freshProcess fun _ => true).2.workers = 1 := by
  have worked : (callInstall sharedPage freshProcess fun _ => true).1 = 0 := rfl
  have transaction := (install_transaction sharedPage freshProcess).1 rfl fun _ => true
  exact ⟨rfl, worked, transaction.2.1 worked⟩

end K50sv1.RilShim.Got
