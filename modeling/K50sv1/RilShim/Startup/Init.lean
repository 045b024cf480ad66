import K50sv1.RilShim.Got.Transaction
import K50sv1.RilShim.Startup.Core

/-!
# What a start does to the process

The specification of one call of `RIL_Init` for every behaviour of the vendor library, the
loader and the kernel: at every moment a table holds the vendor's request function, or the
shim with that function behind it; at the end the table is wrapped, or nothing is.
-/

namespace K50sv1.RilShim.Startup

open K50sv1.Transition
open K50sv1.Transition.Program
open K50sv1.RilShim.Got (Layout Protection GotOp)

/-! ## Invariant -/

/-- The table at `funcs` is wrapped. -/
structure Wrapped (funcs : Nat) (image : Image) : Prop where
  real : image.sRealFuncs = some funcs
  slot : (image.table funcs).onRequest = .onRequestShim
  behind : image.behindShim = some (image.original funcs)
  version : 6 ≤ (image.table funcs).version ∧ (image.table funcs).version ≤ 20

/-- The table is wrapped, and of a version for which the hooks are installed. -/
def Armable (image : Image) : Prop :=
  image.sOnRequestPatched = true ∧
    ∃ funcs, image.sRealFuncs = some funcs ∧ 15 ≤ (image.table funcs).version

/-- What holds at every moment of a process in which `start` is the state that the hooks are
installed from. -/
structure Sound (start : Got.Process) (image : Image) : Prop where
  unfaulted : image.got.faulted = start.faulted
  once : image.reentered = false
  original : ∀ funcs, image.original funcs ≠ .onRequestShim
  slot : ∀ funcs, (image.table funcs).onRequest = image.original funcs ∨
    (image.table funcs).onRequest = .onRequestShim ∧
      image.behindShim = some (image.original funcs)
  behind : ∀ real, image.behindShim = some real →
    image.sRealOnRequest = real ∧ real ≠ .null ∧ real ≠ .onRequestShim ∧ image.sEnv = true
  wrapped : image.sOnRequestPatched = true → ∃ funcs, Wrapped funcs image
  untouched : image.got = { start with prot := image.got.prot } ∨ Armable image

/-- No protection has changed for good, unless putting it back was refused twice. -/
def Restored (start : Got.Process) (image : Image) : Prop :=
  ∀ page, image.got.prot page = start.prot page ∨
    2 ≤ image.refused.count (page, start.prot page)

/-- The vendor library is initialized and its table at `funcs` is as it made it. -/
structure Initialized (funcs : Nat) (image : Image) : Prop where
  unpatched : image.sOnRequestPatched = false
  behind : image.behindShim = none
  env : image.sEnv = true
  real : image.sRealFuncs = some funcs

/-- What holds between two calls of `RIL_Init`. -/
def Settled (start : Got.Process) (image : Image) : Prop :=
  image.sOnRequestPatched = true ∨ image.behindShim = none ∧ Restored start image

section Steps

variable {start : Got.Process} {image : Image} {funcs : Nat}

theorem Sound.slot_of_behind (sound : Sound start image) (unwrapped : image.behindShim = none)
    (funcs : Nat) : (image.table funcs).onRequest = image.original funcs := by
  rcases sound.slot funcs with same | ⟨-, behind⟩
  · exact same
  · rw [unwrapped] at behind
    cases behind

theorem Sound.untouched_of_unpatched (sound : Sound start image)
    (unpatched : image.sOnRequestPatched = false) :
    image.got = { start with prot := image.got.prot } := by
  rcases sound.untouched with untouched | ⟨patched, -⟩
  · exact untouched
  · rw [unpatched] at patched
    cases patched

theorem Sound.storePatched (sound : Sound start image) (wrapped : Wrapped funcs image) :
    Sound start { image with sOnRequestPatched := true } where
  unfaulted := sound.unfaulted
  once := sound.once
  original := sound.original
  slot := sound.slot
  behind := sound.behind
  wrapped _ := ⟨funcs, wrapped.real, wrapped.slot, wrapped.behind, wrapped.version⟩
  untouched := sound.untouched.imp_right fun armable => ⟨rfl, armable.2⟩

theorem Sound.storeEnv (sound : Sound start image) : Sound start { image with sEnv := true } where
  unfaulted := sound.unfaulted
  once := sound.once
  original := sound.original
  slot := sound.slot
  behind real behind :=
    have ⟨published, notNull, notShim, _⟩ := sound.behind real behind
    ⟨published, notNull, notShim, rfl⟩
  wrapped patched :=
    have ⟨funcs, wrapped⟩ := sound.wrapped patched
    ⟨funcs, wrapped.real, wrapped.slot, wrapped.behind, wrapped.version⟩
  untouched := sound.untouched

theorem Sound.dlopen (sound : Sound start image) (opened : Bool) :
    Sound start { image with sRealHandle := opened } where
  unfaulted := sound.unfaulted
  once := sound.once
  original := sound.original
  slot := sound.slot
  behind := sound.behind
  wrapped patched :=
    have ⟨funcs, wrapped⟩ := sound.wrapped patched
    ⟨funcs, wrapped.real, wrapped.slot, wrapped.behind, wrapped.version⟩
  untouched := sound.untouched

/-- The vendor library may be initialized as long as nothing is wrapped. -/
theorem Sound.initialized (sound : Sound start image) (unwrapped : image.behindShim = none)
    (unpatched : image.sOnRequestPatched = false) (result : Option VendorTable) :
    Sound start (image.initialized result) := by
  have slot := sound.slot_of_behind unwrapped
  have once : (image.reentered || image.behindShim.isSome) = false := by
    rw [sound.once, unwrapped]
    rfl
  have untouched := sound.untouched_of_unpatched unpatched
  cases result with
  | none =>
      exact
        { unfaulted := sound.unfaulted
          once
          original := sound.original
          slot := sound.slot
          behind := sound.behind
          wrapped := fun patched => absurd patched (by rw [Image.initialized]; simp [unpatched])
          untouched := .inl untouched }
  | some table =>
      constructor
      case unfaulted => exact sound.unfaulted
      case once => exact once
      case original =>
        intro funcs
        by_cases same : funcs = table.address
        · rw [same]
          simpa [Image.initialized] using table.requestFunc_ne_shim
        · simpa [Image.initialized, same] using sound.original funcs
      case slot =>
        intro funcs
        refine .inl ?_
        by_cases same : funcs = table.address
        · rw [same]
          simp [Image.initialized]
        · simpa [Image.initialized, same] using slot funcs
      case behind => exact sound.behind
      case wrapped => exact fun patched => absurd patched (by simp [Image.initialized, unpatched])
      case untouched => exact .inl untouched

theorem Sound.storeRealOnRequest (sound : Sound start image)
    (unwrapped : image.behindShim = none) (original : RequestFunc) :
    Sound start { image with sRealOnRequest := original } where
  unfaulted := sound.unfaulted
  once := sound.once
  original := sound.original
  slot := sound.slot
  behind real behind := by
    rw [show _ = none from unwrapped] at behind
    cases behind
  wrapped patched :=
    have ⟨funcs, wrapped⟩ := sound.wrapped patched
    ⟨funcs, wrapped.real, wrapped.slot, wrapped.behind, wrapped.version⟩
  untouched := sound.untouched

/-- The shim may be put in front of the function that is published. -/
theorem Sound.shimmed (sound : Sound start image) (initialized : Initialized funcs image)
    (published : image.sRealOnRequest = image.original funcs)
    (notNull : image.original funcs ≠ .null) :
    Sound start { image.setOnRequest funcs .onRequestShim with
      behindShim := some image.sRealOnRequest } := by
  have slot := sound.slot_of_behind initialized.behind
  constructor
  case unfaulted => exact sound.unfaulted
  case once => exact sound.once
  case original => exact sound.original
  case slot =>
    intro other
    by_cases same : other = funcs
    · rw [same]
      exact .inr ⟨by simp [Image.setOnRequest], congrArg some published⟩
    · refine .inl ?_
      simpa [Image.setOnRequest, same] using slot other
  case behind =>
    intro real behind
    obtain rfl := Option.some.inj behind
    refine ⟨rfl, ?_, ?_, initialized.env⟩
    · rw [published]
      exact notNull
    · rw [published]
      exact sound.original funcs
  case wrapped =>
    intro patched
    have before : image.sOnRequestPatched = true := patched
    rw [initialized.unpatched] at before
    cases before
  case untouched => exact .inl (sound.untouched_of_unpatched initialized.unpatched)

/-- A predicate that no protection matters to. -/
def IgnoresProtection (P : Image → Prop) : Prop :=
  ∀ image prot refused, P image → P { image with got := { image.got with prot }, refused }

theorem ignores_wrapped (funcs : Nat) : IgnoresProtection (Wrapped funcs) :=
  fun _ _ _ wrapped => ⟨wrapped.real, wrapped.slot, wrapped.behind, wrapped.version⟩

theorem ignores_initialized (funcs : Nat) : IgnoresProtection (Initialized funcs) :=
  fun _ _ _ ready => ⟨ready.unpatched, ready.behind, ready.env, ready.real⟩

theorem ignores_sound (start : Got.Process) : IgnoresProtection (Sound start) := by
  intro image prot refused sound
  constructor
  case unfaulted => exact sound.unfaulted
  case once => exact sound.once
  case original => exact sound.original
  case slot => exact sound.slot
  case behind => exact sound.behind
  case wrapped =>
    intro patched
    obtain ⟨funcs, wrapped⟩ := sound.wrapped patched
    exact ⟨funcs, ignores_wrapped funcs _ _ _ wrapped⟩
  case untouched =>
    refine sound.untouched.imp_left fun untouched => ?_
    show { image.got with prot } = { start with prot }
    rw [untouched]

/-- The installation of the hooks changes none of the tables. -/
theorem Sound.calls (sound : Sound start image) (armable : Armable image) (layout : Layout)
    (op : GotOp) (works : Bool)
    (unfaulted : (image.calls layout op works).got.faulted = start.faulted) :
    Sound start (image.calls layout op works) where
  unfaulted
  once := sound.once
  original := sound.original
  slot := sound.slot
  behind := sound.behind
  wrapped patched :=
    have ⟨funcs, wrapped⟩ := sound.wrapped patched
    ⟨funcs, wrapped.real, wrapped.slot, wrapped.behind, wrapped.version⟩
  untouched := .inr armable

end Steps

/-! ## Protections -/

/-- The page is given a protection. -/
def Image.protects (image : Image) (page : Nat) (protection : Protection) : Image :=
  { image with got :=
      { image.got with prot := Function.update image.got.prot page protection } }

/-- A change of a protection is refused. -/
def Image.refuses (image : Image) (page : Nat) (protection : Protection) : Image :=
  { image with refused := image.refused ++ [(page, protection)] }

section Protections

variable {start : Got.Process} {image : Image} {page : Nat} {protection oldProt : Protection}

theorem protects_prot : (image.protects page protection).got.prot =
    Function.update image.got.prot page protection :=
  rfl

theorem refuses_refused :
    (image.refuses page protection).refused = image.refused ++ [(page, protection)] :=
  rfl

theorem protects_self (same : image.got.prot page = protection) :
    image.protects page protection = image := by
  unfold Image.protects
  rw [← same, Function.update_eq_self]

theorem protects_protects (first : Protection) :
    (image.protects page first).protects page protection = image.protects page protection := by
  simp [Image.protects]

theorem count_refuses_le (entry : Nat × Protection) :
    image.refused.count entry ≤ (image.refuses page protection).refused.count entry := by
  rw [refuses_refused, List.count_append]
  exact Nat.le_add_right _ _

theorem Restored.refuses (restored : Restored start image) :
    Restored start (image.refuses page protection) := by
  intro other
  exact (restored other).imp_right fun twice => twice.trans (count_refuses_le _)

/-- A page of which the old protection was refused twice may stay as it is. -/
theorem Restored.of_refused (restored : Restored start (image.protects page oldProt)) :
    Restored start ((image.refuses page oldProt).refuses page oldProt) := by
  intro other
  have monotone : image.refused.count (other, start.prot other) ≤
      ((image.refuses page oldProt).refuses page oldProt).refused.count
        (other, start.prot other) :=
    (count_refuses_le _).trans (count_refuses_le _)
  rcases restored other with same | twice
  · by_cases this : other = page
    · -- the page itself: what was refused is its protection at the start
      have old : start.prot other = oldProt := by
        rw [← same, this, protects_prot, Function.update_self]
      refine .inr ?_
      rw [old, this, refuses_refused, refuses_refused, List.count_append, List.count_append,
        List.count_singleton_self]
      omega
    · refine .inl ?_
      rw [protects_prot, Function.update_of_ne this] at same
      exact same
  · exact .inr (le_trans twice monotone)

end Protections

/-! ## Calls -/

section Calls

variable {start : Got.Process} {image : Image} {layout : Layout} {funcs : Nat}

/-- A call that only reads. -/
theorem ensures_reads {op : StartOp} {Q : op.Reply → Image → Prop} (sound : Sound start image)
    (reads : ∀ choice, (respond layout image op choice).1 = image)
    (post : ∀ choice, Q (respond layout image op choice).2 image) :
    Ensures (respond layout) (Sound start) (perform op) Q image := by
  apply ensures_perform sound
  intro choice
  rw [reads choice]
  exact ⟨sound, post choice⟩

theorem calls_mappingProt (layout : Layout) (image : Image) (address : Nat) (works : Bool) :
    image.calls layout (.mappingProt address) works = image := by
  simp [Image.calls, Got.answer]

theorem calls_mprotect (layout : Layout) (image : Image) (page span : Nat)
    (protection : Protection) (works : Bool) :
    image.calls layout (.mprotect page span protection) works =
      if works then image.protects page protection else image.refuses page protection := by
  cases works <;> simp [Image.calls, Got.answer, Image.protects, Image.refuses]

theorem ensures_mappingProt {address : Nat} {Q : Option Protection → Image → Prop}
    (sound : Sound start image) (failed : Q none image)
    (found : Q (some (image.got.prot (layout.page address))) image) :
    Ensures (respond layout) (Sound start) (mappingProt address) Q image := by
  refine ensures_reads sound ?_ ?_
  · exact fun choice => calls_mappingProt layout image address choice.works
  · rintro ⟨works, result⟩
    cases works with
    | false => exact failed
    | true => exact found

theorem ensures_mprotect {page span : Nat} {protection : Protection} {Q : Bool → Image → Prop}
    (sound : Sound start image) (failed : Q false (image.refuses page protection))
    (changed : Q true (image.protects page protection)) :
    Ensures (respond layout) (Sound start) (mprotect page span protection) Q image := by
  apply ensures_perform sound
  rintro ⟨works, result⟩
  have effect : (respond layout image (.got (.mprotect page span protection))
      ⟨works, result⟩).1 = _ :=
    calls_mprotect layout image page span protection works
  rw [effect]
  cases works with
  | false => exact ⟨ignores_sound start image image.got.prot _ sound, failed⟩
  | true => exact ⟨ignores_sound start image _ image.refused sound, changed⟩

/-! ## The table -/

/-- The old protection is put back, or refused twice. -/
theorem ensures_restoreProtection {P : Image → Prop} (ignores : IgnoresProtection P)
    {page span : Nat} {oldProt : Protection} (sound : Sound start image) (holds : P image)
    (writable : oldProt.write = true → image.got.prot page = oldProt)
    (restored : Restored start (image.protects page oldProt)) :
    Ensures (respond layout) (Sound start) (restoreProtection page span oldProt)
      (fun _ after => P after ∧ Restored start after) image := by
  unfold restoreProtection
  by_cases write : oldProt.write = true
  · rw [write]
    refine ensures_pure sound ⟨holds, ?_⟩
    rwa [protects_self (writable write)] at restored
  · rw [Bool.eq_false_iff.mpr write]
    refine ensures_bind (ensures_mprotect sound ?_ ?_)
    · refine ensures_bind
        (ensures_mprotect (ignores_sound start image image.got.prot _ sound) ?_ ?_)
      · have kept := ignores image image.got.prot ((image.refuses page oldProt).refuses page
          oldProt).refused holds
        exact ensures_pure (ignores_sound start image image.got.prot _ sound)
          ⟨kept, restored.of_refused⟩
      · have kept := ignores image ((image.refuses page oldProt).protects page oldProt).got.prot
          ((image.refuses page oldProt).protects page oldProt).refused holds
        exact ensures_pure (ignores_sound start image _ _ sound)
          ⟨kept, Restored.refuses restored⟩
    · have kept := ignores image (image.protects page oldProt).got.prot image.refused holds
      exact ensures_pure (ignores_sound start image _ _ sound) ⟨kept, restored⟩

theorem ensures_loadOnRequest {Q : RequestFunc → Image → Prop} (sound : Sound start image)
    (post : Q (image.table funcs).onRequest image) :
    Ensures (respond layout) (Sound start) (loadOnRequest funcs) Q image :=
  ensures_reads sound (fun _ => rfl) fun _ => post

theorem ensures_loadVersion {Q : Int → Image → Prop} (sound : Sound start image)
    (post : Q (image.table funcs).version image) :
    Ensures (respond layout) (Sound start) (loadVersion funcs) Q image :=
  ensures_reads sound (fun _ => rfl) fun _ => post

theorem ensures_storeRealOnRequest {original : RequestFunc} {Q : Unit → Image → Prop}
    (sound : Sound start image) (unwrapped : image.behindShim = none)
    (post : Q () { image with sRealOnRequest := original }) :
    Ensures (respond layout) (Sound start) (storeRealOnRequest original) Q image :=
  ensures_perform sound fun _ => ⟨sound.storeRealOnRequest unwrapped original, post⟩

theorem ensures_storeOnRequestShim {Q : Unit → Image → Prop} (sound : Sound start image)
    (initialized : Initialized funcs image)
    (published : image.sRealOnRequest = image.original funcs)
    (notNull : image.original funcs ≠ .null)
    (writable : (image.got.prot (Image.page layout funcs)).write = true)
    (dropped : Q () image)
    (taken : Q () { image.setOnRequest funcs .onRequestShim with
      behindShim := some image.sRealOnRequest }) :
    Ensures (respond layout) (Sound start) (storeOnRequestShim funcs) Q image := by
  apply ensures_perform sound
  rintro ⟨takes, result⟩
  have effect : (respond layout image (.storeOnRequestShim funcs) ⟨takes, result⟩).1 =
      if takes then { image.setOnRequest funcs .onRequestShim with
        behindShim := some image.sRealOnRequest } else image := by
    simp [respond, Image.patched, writable]
  rw [effect]
  cases takes with
  | false => exact ⟨sound, dropped⟩
  | true => exact ⟨sound.shimmed initialized published notNull, taken⟩

/-- The outcome of `patchOnRequest`. -/
def PatchOutcome (start : Got.Process) (funcs : Nat) (result : Int) (image : Image) : Prop :=
  Restored start image ∧
    (result = 0 ∧ Wrapped funcs image ∧ image.sOnRequestPatched = false ∨
      result ≠ 0 ∧ Initialized funcs image)

/-- The version of the table has passed the check. -/
def Supported (image : Image) (funcs : Nat) : Prop :=
  6 ≤ (image.table funcs).version ∧ (image.table funcs).version ≤ 20

theorem ensures_exchangeOnRequest {page span : Nat} {oldProt : Protection}
    (sound : Sound start image) (initialized : Initialized funcs image)
    (supported : Supported image funcs) (notNull : (image.table funcs).onRequest ≠ .null)
    (page_eq : page = Image.page layout funcs) (writable : (image.got.prot page).write = true)
    (unchanged : oldProt.write = true → image.got.prot page = oldProt)
    (restored : Restored start (image.protects page oldProt)) :
    Ensures (respond layout) (Sound start) (exchangeOnRequest funcs page span oldProt)
      (PatchOutcome start funcs) image := by
  have slot := sound.slot_of_behind initialized.behind funcs
  refine ensures_bind (ensures_loadOnRequest sound ?_)
  refine ensures_bind (ensures_storeRealOnRequest sound initialized.behind ?_)
  have published := sound.storeRealOnRequest initialized.behind (image.table funcs).onRequest
  have ready : Initialized funcs { image with sRealOnRequest := (image.table funcs).onRequest } :=
    ⟨initialized.unpatched, initialized.behind, initialized.env, initialized.real⟩
  refine ensures_bind (ensures_storeOnRequestShim published ready slot (slot ▸ notNull)
    (page_eq ▸ writable) ?_ ?_)
  · -- the store was dropped: the table is as it was, and this is noticed
    refine ensures_bind (ensures_loadOnRequest published ?_)
    refine (ensures_restoreProtection (ignores_initialized funcs) published ready unchanged
      restored).bind fun _ after inv ends => ensures_pure inv ⟨ends.2, .inr ⟨?_, ends.1⟩⟩
    have original : (image.table funcs).onRequest ≠ .onRequestShim := slot ▸ sound.original funcs
    simp [original]
  · have shimmed := published.shimmed ready slot (slot ▸ notNull)
    have wrapped : Wrapped funcs { image.setOnRequest funcs .onRequestShim with
        sRealOnRequest := (image.table funcs).onRequest
        behindShim := some (image.table funcs).onRequest } :=
      ⟨initialized.real, by simp [Image.setOnRequest], congrArg some slot,
        by simpa [Image.setOnRequest, Supported] using supported⟩
    refine ensures_bind (ensures_loadOnRequest shimmed ?_)
    have ignores : IgnoresProtection fun image =>
        Wrapped funcs image ∧ image.sOnRequestPatched = false :=
      fun image prot refused holds => ⟨ignores_wrapped funcs image prot refused holds.1, holds.2⟩
    refine (ensures_restoreProtection ignores shimmed ⟨wrapped, initialized.unpatched⟩ unchanged
      restored).bind fun _ after inv ends => ensures_pure inv ⟨ends.2, .inl ⟨?_, ends.1⟩⟩
    simp [Image.setOnRequest]

theorem ensures_patchField {pageSize : Int} (size : pageSize = layout.pageSize)
    (sound : Sound start image) (initialized : Initialized funcs image)
    (supported : Supported image funcs) (notNull : (image.table funcs).onRequest ≠ .null)
    (restored : Restored start image) :
    Ensures (respond layout) (Sound start) (patchField funcs pageSize)
      (PatchOutcome start funcs) image := by
  have page_eq : funcs + offsetofOnRequest - (funcs + offsetofOnRequest) % pageSize.toNat =
      Image.page layout funcs := by
    rw [size]
    rfl
  unfold patchField
  simp only [page_eq]
  refine ensures_bind (ensures_mappingProt sound ?_ ?_)
  · exact ensures_pure sound ⟨restored, .inr ⟨by decide, initialized⟩⟩
  · let page := Image.page layout funcs
    let oldProt := image.got.prot page
    show Ensures _ _ (makeWritable page _ oldProt >>= _) _ _
    have same : image.protects page oldProt = image := protects_self rfl
    unfold makeWritable
    by_cases write : oldProt.write = true
    · rw [if_pos write]
      exact ensures_exchangeOnRequest sound initialized supported notNull rfl write (fun _ => rfl)
        (same.symm ▸ restored)
    · rw [if_neg write]
      refine ensures_bind (ensures_mprotect sound ?_ ?_)
      · exact ensures_pure (ignores_sound start image image.got.prot _ sound)
          ⟨restored.refuses, .inr ⟨by decide, ignores_initialized funcs _ image.got.prot _
            initialized⟩⟩
      · refine ensures_exchangeOnRequest (ignores_sound start image _ image.refused sound)
          (ignores_initialized funcs _ _ image.refused initialized) supported notNull rfl ?_ ?_ ?_
        · rw [protects_prot, Function.update_self]
          rfl
        · exact fun writes => absurd writes write
        · rw [protects_protects]
          exact same.symm ▸ restored

theorem ensures_patchOnRequest (sound : Sound start image) (initialized : Initialized funcs image)
    (restored : Restored start image) :
    Ensures (respond layout) (Sound start) (patchOnRequest funcs)
      (PatchOutcome start funcs) image := by
  have refuse : Ensures (respond layout) (Sound start) (pure (-1))
      (PatchOutcome start funcs) image :=
    ensures_pure sound ⟨restored, .inr ⟨by decide, initialized⟩⟩
  unfold patchOnRequest
  refine ensures_bind (ensures_reads sound (fun _ => rfl) ?_)
  rintro ⟨works, result⟩
  cases works with
  | false => exact refuse
  | true =>
      have positive : ¬(layout.pageSize : Int) ≤ 0 := by
        have := layout.pageSize_pos
        omega
      show Ensures _ _ (if (layout.pageSize : Int) ≤ 0 then _ else _) _ _
      rw [if_neg positive]
      refine ensures_bind (ensures_loadVersion sound ?_)
      split_ifs with unsupported
      · exact refuse
      · refine ensures_bind (ensures_loadOnRequest sound ?_)
        split_ifs with null
        · exact refuse
        · refine ensures_patchField rfl sound initialized ?_ null restored
          unfold Supported
          omega

end Calls

/-! ## The entry points -/

section Entries

variable {start : Got.Process} {image : Image} {layout : Layout} {funcs : Nat}

/-- The outcome of `RIL_Init`. -/
def InitOutcome (start : Got.Process) (result : Option Nat) (image : Image) : Prop :=
  (∃ funcs, result = some funcs ∧ image.sOnRequestPatched = true ∧
      image.sRealFuncs = some funcs) ∨
    result = none ∧ image.sOnRequestPatched = false ∧ image.behindShim = none ∧
      Restored start image

theorem ensures_loadFuncs (sound : Sound start image) (patched : image.sOnRequestPatched = true) :
    Ensures (respond layout) (Sound start) loadFuncs (InitOutcome start) image := by
  obtain ⟨funcs, wrapped⟩ := sound.wrapped patched
  exact ensures_reads sound (fun _ => rfl) fun _ =>
    .inl ⟨funcs, wrapped.real, patched, wrapped.real⟩

theorem ensures_installAttachApnHooks (sound : Sound start image) (armable : Armable image) :
    Ensures (respond layout) (Sound start) installAttachApnHooks
      (fun _ after => Armable after) image := by
  have begun := sound.unfaulted
  -- on its part of the process the installation is the transaction of its own module
  have alone : Ensures (Got.answer layout) (Got.During layout image.got) _ _ image.got :=
    Got.ensures_installAttachApnHooks image.got
  refine Ensures.mono (I := fun after => Sound start after ∧ Armable after)
    (alone.embed Image.got Choice.works (fun _ _ _ => ⟨rfl, rfl⟩) ?_ ⟨sound, armable⟩)
    (fun _ inv => inv.1) fun _ _ inv _ => inv.2
  rintro op before choice ⟨sound, armable⟩ during
  exact ⟨sound.calls armable layout op choice.works (during.unfaulted.trans begun), armable⟩

theorem ensures_armAttachApn (sound : Sound start image) (patched : image.sOnRequestPatched = true)
    (real : image.sRealFuncs = some funcs) :
    Ensures (respond layout) (Sound start) (armAttachApn funcs) (InitOutcome start) image := by
  unfold armAttachApn
  refine ensures_bind (ensures_loadVersion sound ?_)
  split_ifs with recent
  · refine ensures_bind ?_
    exact (ensures_installAttachApnHooks sound ⟨patched, funcs, real, recent⟩).mono
      (fun _ inv => inv) fun _ after inv armable => ensures_loadFuncs inv armable.1
  · exact ensures_loadFuncs sound patched

theorem ensures_wrapVendor (sound : Sound start image)
    (unpatched : image.sOnRequestPatched = false) (unwrapped : image.behindShim = none)
    (restored : Restored start image) :
    Ensures (respond layout) (Sound start) wrapVendor (InitOutcome start) image := by
  unfold wrapVendor
  refine ensures_bind (ensures_perform sound fun _ => ⟨sound.storeEnv, ?_⟩)
  refine ensures_bind (ensures_perform sound.storeEnv ?_)
  rintro ⟨works, result⟩
  have initialized := sound.storeEnv.initialized unwrapped unpatched result
  refine ⟨initialized, ?_⟩
  cases result with
  | none => exact ensures_pure initialized (.inr ⟨rfl, unpatched, unwrapped, restored⟩)
  | some table =>
      refine (ensures_patchOnRequest initialized ⟨unpatched, unwrapped, rfl, rfl⟩ restored).bind ?_
      rintro result after inv ⟨restored, ⟨rfl, wrapped, -⟩ | ⟨failed, ready⟩⟩
      · have patched := inv.storePatched wrapped
        exact ensures_bind (ensures_perform inv fun _ =>
          ⟨patched, ensures_armAttachApn patched rfl wrapped.real⟩)
      · rw [if_pos failed]
        exact ensures_pure inv (.inr ⟨rfl, ready.unpatched, ready.behind, restored⟩)

/-- A library that is opened changes nothing else. -/
theorem ensures_openRealRil {P : Image → Prop}
    (ignores : ∀ image opened, P image → P { image with sRealHandle := opened })
    (sound : Sound start image) (holds : P image) :
    Ensures (respond layout) (Sound start) openRealRil (fun _ after => P after) image := by
  unfold openRealRil
  refine ensures_bind (ensures_reads sound (fun _ => rfl) fun _ => ?_)
  cases opened : image.sRealHandle with
  | true =>
      rw [show (respond layout image .loadHandle _).2 = true from opened]
      exact ensures_pure sound holds
  | false =>
      rw [show (respond layout image .loadHandle _).2 = false from opened]
      exact ensures_perform sound fun choice =>
        ⟨sound.dlopen choice.works, ignores image choice.works holds⟩

theorem ensures_rilInit (sound : Sound start image) (settled : Settled start image) :
    Ensures (respond layout) (Sound start) rilInit (InitOutcome start) image := by
  unfold rilInit
  refine ensures_bind (ensures_reads sound (fun _ => rfl) fun _ => ?_)
  cases patched : image.sOnRequestPatched with
  | true =>
      rw [show (respond layout image .loadPatched _).2 = true from patched]
      exact ensures_loadFuncs sound patched
  | false =>
      rw [show (respond layout image .loadPatched _).2 = false from patched]
      obtain ⟨unwrapped, restored⟩ := settled.resolve_left (by simp [patched])
      let Fresh : Image → Prop := fun image =>
        image.sOnRequestPatched = false ∧ image.behindShim = none ∧ Restored start image
      refine (ensures_openRealRil (P := Fresh) (fun _ _ fresh => fresh) sound
        ⟨patched, unwrapped, restored⟩).bind ?_
      rintro opened after inv fresh
      have refuse : Ensures (respond layout) (Sound start) (pure none) (InitOutcome start) after :=
        ensures_pure inv (.inr ⟨rfl, fresh⟩)
      cases opened with
      | false => exact refuse
      | true =>
          refine ensures_bind (ensures_reads inv (fun _ => rfl) ?_)
          rintro ⟨works, result⟩
          cases works with
          | false => exact refuse
          | true => exact ensures_wrapVendor inv fresh.1 fresh.2.1 fresh.2.2

/-- `RIL_SAP_Init` opens the library and changes nothing else. -/
theorem ensures_rilSapInit {P : Image → Prop}
    (ignores : ∀ image opened, P image → P { image with sRealHandle := opened })
    (sound : Sound start image) (holds : P image) :
    Ensures (respond layout) (Sound start) rilSapInit (fun _ after => P after) image := by
  unfold rilSapInit
  refine (ensures_openRealRil ignores sound holds).bind ?_
  rintro opened after inv holds
  cases opened with
  | false => exact ensures_pure inv holds
  | true =>
      refine ensures_bind (ensures_reads inv (fun _ => rfl) ?_)
      rintro ⟨works, result⟩
      cases works with
      | false => exact ensures_pure inv holds
      | true => exact ensures_reads inv (fun _ => rfl) fun _ => holds

end Entries

end K50sv1.RilShim.Startup
