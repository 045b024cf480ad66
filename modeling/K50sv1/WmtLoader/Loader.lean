import K50sv1.Data.HexText
import K50sv1.Transition.Program
import K50sv1.WmtLauncher.Core

/-!
# The loader of the WMT driver

`main` finds out which chip the product has, from a property or from the detector, hands it
to the driver in three requests and says in another property that the driver is ready.  It
is a program over the properties and the detector node, either of which may fail at any
call; a property that `property_set` could not store may have been stored all the same.
-/

namespace K50sv1.WmtLoader

open K50sv1.Data.CText
open K50sv1.Transition
open K50sv1.Transition.Program
open K50sv1.WmtLauncher (Errno ascii)

/-! ## The interface -/

/-- The requests to the detector. -/
inductive Request where
  | setChipId
  | getSocId
  | moduleInit
  | moduleCleanup
  deriving DecidableEq, Repr

/-- The calls of the loader. -/
inductive Op where
  | getReady
  | getChip
  | setChip (value : List UInt8)
  /-- `READY_PROPERTY` is set to "yes". -/
  | setReady
  | openNode
  | ioctl (request : Request) (argument : Nat)
  | close
  deriving DecidableEq, Repr

def Op.Reply : Op → Type
  | .getReady | .getChip => List UInt8
  /- Whether `property_set` returns zero. -/
  | .setChip _ | .setReady => Bool
  | .openNode => Except Errno Unit
  | .ioctl _ _ => Except Errno Nat
  | .close => Unit

/-- What `property_set` does. -/
inductive Setting where
  | done
  | refused
  /-- The value is stored and an error is returned. -/
  | unacknowledged
  deriving DecidableEq, Repr

/-- What happens behind a call. -/
structure Choice where
  setting : Setting := .done
  opened : Except Errno Unit := .ok ()
  answer : Except Errno Nat := .ok 0
  deriving DecidableEq, Repr

/-- The calls that change something. -/
inductive Call where
  | setChip (value : List UInt8)
  | setReady
  | openNode (answer : Except Errno Unit)
  | ioctl (request : Request) (argument : Nat) (answer : Except Errno Nat)
  | close
  deriving DecidableEq, Repr

/-- The two properties and the calls made so far, oldest first. -/
structure World where
  ready : List UInt8
  chip : List UInt8
  calls : List Call
  deriving DecidableEq, Repr

def yes : List UInt8 :=
  ascii "yes"

namespace World

def records (world : World) (call : Call) : World :=
  { world with calls := world.calls ++ [call] }

/-- What a call does and answers. -/
def call (world : World) (op : Op) (choice : Choice) : World × op.Reply :=
  match op with
  | .getReady => (world, world.ready)
  | .getChip => (world, world.chip)
  | .setChip value =>
      let chip := if choice.setting = .refused then world.chip else value
      ({ world with chip }.records (.setChip value), choice.setting == .done)
  | .setReady =>
      let ready := if choice.setting = .refused then world.ready else yes
      ({ world with ready }.records .setReady, choice.setting == .done)
  | .openNode => (world.records (.openNode choice.opened), choice.opened)
  | .ioctl request argument =>
      (world.records (.ioctl request argument choice.answer), choice.answer)
  | .close => (world.records .close, ())

end World

/-! ## The program -/

/-- A program of the loader. -/
abbrev Loading (α : Type) :=
  Program Op Op.Reply α

def getReady : Loading (List UInt8) := perform Op.getReady

def getChip : Loading (List UInt8) := perform Op.getChip

def setChip (value : List UInt8) : Loading Bool := perform (Op.setChip value)

def setReady : Loading Bool := perform Op.setReady

def openNode : Loading (Except Errno Unit) := perform Op.openNode

def ioctl (request : Request) (argument : Nat) : Loading (Except Errno Nat) :=
  perform (Op.ioctl request argument)

def close : Loading Unit := perform Op.close

def supportedChip (chip : Nat) : Bool :=
  chip = 0x6755 ∨ chip = 0x0326

/-- `cached_chip_id`, for the value of the property. -/
def cachedChipId (value : List UInt8) : Option Nat :=
  match value with
  | [] => none
  | first :: _ =>
      if isXDigit first then
        let parsed := strtoul16 value
        if parsed.outOfRange ∨ parsed.rest ≠ [] ∨ 0xffffffff < parsed.value ∨
            ¬supportedChip parsed.value then
          none
        else
          some parsed.value
      else
        none

def nodeAttempts : Nat := 200

/-- The loop of `open_detector`, with so many attempts left.  A timeout is a failure like
any other. -/
def openDetector : Nat → Loading Bool
  | 0 => pure false
  | attempts + 1 => do
      match ← openNode with
      | .ok () => pure true
      | .error errno =>
          if errno ≠ Errno.enoent ∧ errno ≠ Errno.enodev ∧ errno ≠ Errno.eintr then
            pure false
          else
            openDetector attempts

/-- The loop of `initialize_driver`. -/
def requestAll : List (Request × Nat) → Loading Bool
  | [] => pure true
  | (request, argument) :: rest => do
      match ← ioctl request argument with
      | .ok 0 => requestAll rest
      | _ => pure false

/-- The older silicon is initialized as the newer one. -/
def initChip (chip : Nat) : Nat :=
  if chip = 0x0326 then 0x6755 else chip

/-- The requests of `initialize_driver`. -/
def initRequests (chip : Nat) : List (Request × Nat) :=
  [(.setChipId, chip), (.moduleCleanup, initChip chip), (.moduleInit, initChip chip)]

def initializeDriver (chip : Nat) : Loading Bool :=
  requestAll (initRequests chip)

/-- The text of the chip property. -/
def chipText (chip : Nat) : List UInt8 :=
  ascii "0x" ++ hexText 4 chip

/-- The part of `main` that asks the detector.  There is no chip if it fails. -/
def detectChip : Loading (Option Nat) := do
  match ← ioctl .getSocId 0 with
  | .error _ => pure none
  | .ok detected =>
      if supportedChip detected then
        let published ← setChip (chipText detected)
        pure (if published then some detected else none)
      else
        pure none

/-- The chip that `main` goes on with. -/
def findChip : Loading (Option Nat) := do
  match cachedChipId (← getChip) with
  | some chip => pure (some chip)
  | none => detectChip

/-- `main` with the detector open, up to `out`. -/
def load : Loading Nat := do
  match ← findChip with
  | none => pure 1
  | some chip =>
      if ← initializeDriver chip then
        let published ← setReady
        pure (if published then 0 else 1)
      else
        pure 1

def main : Loading Nat := do
  if (← getReady) = yes then
    pure 0
  else if ← openDetector nodeAttempts then
    let status ← load
    close
    pure status
  else
    pure 1

/-! ## What the loader leaves -/

/-- The driver has accepted a chip. -/
def initCalls (chip : Nat) : List Call :=
  (initRequests chip).map fun (request, argument) => .ioctl request argument (.ok 0)

/-- The driver was initialized for the chip that the property names, and nothing but the
closing of the detector has happened since it was said to be ready. -/
def Ready (world : World) : Prop :=
  ∃ chip earlier later, cachedChipId world.chip = some chip ∧
    world.calls = earlier ++ initCalls chip ++ .setReady :: later ∧
      (later = [] ∨ later = [.close])

/-- A driver that is said to be ready is ready. -/
def Honest (world : World) : Prop :=
  world.ready = yes → Ready world

namespace World

def opened (world : World) : Nat :=
  world.calls.count (.openNode (.ok ()))

def closed (world : World) : Nat :=
  world.calls.count .close

end World

/-- What a part of `main` between the opening of the detector and the announcement leaves
alone. -/
structure Quiet (world after : World) : Prop where
  ready : after.ready = world.ready
  opened : after.opened = world.opened
  closed : after.closed = world.closed

theorem Quiet.refl (world : World) : Quiet world world :=
  ⟨rfl, rfl, rfl⟩

theorem Quiet.trans {world middle after : World} (first : Quiet world middle)
    (second : Quiet middle after) : Quiet world after :=
  ⟨second.ready.trans first.ready, second.opened.trans first.opened,
    second.closed.trans first.closed⟩

theorem Quiet.records {world : World} {call : Call} (notOpened : call ≠ .openNode (.ok ()))
    (notClosed : call ≠ .close) : Quiet world (world.records call) := by
  refine ⟨rfl, ?_, ?_⟩
  · simp [World.opened, World.records, List.count_append, notOpened]
  · simp [World.closed, World.records, List.count_append, notClosed]

theorem honest_of_ne {world : World} (unready : world.ready ≠ yes) : Honest world :=
  fun ready => absurd ready unready

section Parts

variable {world : World}

/-- At most so many attempts are made, and the last one decides. -/
theorem ensures_openDetector (attempts : Nat) (unready : world.ready ≠ yes) :
    Ensures World.call Honest (openDetector attempts)
      (fun found after => after.ready = world.ready ∧
        after.opened = world.opened + (if found then 1 else 0) ∧ after.closed = world.closed)
      world := by
  induction attempts generalizing world with
  | zero => exact ensures_pure (honest_of_ne unready) ⟨rfl, rfl, rfl⟩
  | succ attempts ih =>
      refine ensures_bind (ensures_perform (honest_of_ne unready) fun choice => ⟨?_, ?_⟩)
      · exact honest_of_ne unready
      dsimp only [World.call]
      cases choice.opened with
      | ok =>
          refine ensures_pure (honest_of_ne unready) ⟨rfl, ?_, ?_⟩
          · simp [World.opened, World.records]
          · simp [World.closed, World.records]
      | error errno =>
          let next := world.records (.openNode (.error errno))
          have quiet : Quiet world next := .records nofun nofun
          have still : next.ready ≠ yes := unready
          dsimp only
          split_ifs
          · exact ensures_pure (honest_of_ne unready) ⟨rfl, quiet.opened, quiet.closed⟩
          · refine (ih still).mono (fun _ inv => inv) ?_
            rintro found after - ⟨ready, opened, closed⟩
            rw [quiet.opened] at opened
            rw [quiet.closed] at closed
            exact ⟨ready, opened, closed⟩

/-- The requests are made in order until one fails. -/
theorem ensures_requestAll (requests : List (Request × Nat)) (unready : world.ready ≠ yes) :
    Ensures World.call Honest (requestAll requests)
      (fun done after => Quiet world after ∧ after.chip = world.chip ∧
        (done = true → after.calls = world.calls ++
          requests.map fun (request, argument) => .ioctl request argument (.ok 0))) world := by
  induction requests generalizing world with
  | nil => exact ensures_pure (honest_of_ne unready) ⟨.refl world, rfl, fun _ => by simp⟩
  | cons first rest ih =>
      obtain ⟨request, argument⟩ := first
      refine ensures_bind (ensures_perform (honest_of_ne unready) fun choice => ⟨?_, ?_⟩)
      · exact honest_of_ne unready
      obtain ⟨-, -, answer⟩ := choice
      have quiet : Quiet world (world.records (.ioctl request argument answer)) :=
        .records nofun nofun
      have still : (world.records (.ioctl request argument answer)).ready ≠ yes := unready
      match answer with
      | .ok 0 =>
          refine (ih still).mono (fun _ inv => inv) ?_
          rintro done after - ⟨more, chip, calls⟩
          refine ⟨quiet.trans more, chip, fun all => ?_⟩
          rw [calls all, World.records]
          simp
      | .ok (_ + 1) | .error _ =>
          exact ensures_pure (honest_of_ne unready) ⟨quiet, rfl, nofun⟩

theorem supportedChip_le {chip : Nat} (supported : supportedChip chip = true) :
    chip ≤ 0xffffffff := by
  have either : chip = 0x6755 ∨ chip = 0x0326 := by simpa [supportedChip] using supported
  omega

/-- What the loader writes into the property it reads back. -/
theorem cachedChipId_chipText {chip : Nat} (supported : supportedChip chip = true) :
    cachedChipId (chipText chip) = some chip := by
  have small := supportedChip_le supported
  have text : chipText chip = 0x30 :: 0x78 :: (hexText 4 chip ++ []) := by
    rw [List.append_nil]
    rfl
  have parsed : strtoul16 (chipText chip) = { value := chip, rest := [], outOfRange := false } := by
    rw [text]
    exact strtoul16_hexText (by omega) nofun
  have first : isXDigit 0x30 = true := by decide
  rw [text] at parsed ⊢
  rw [cachedChipId, if_pos first, parsed]
  dsimp only
  rw [if_neg]
  simpa [supported] using small

theorem ensures_findChip (unready : world.ready ≠ yes) :
    Ensures World.call Honest findChip
      (fun found after => Quiet world after ∧
        ∀ chip ∈ found, cachedChipId after.chip = some chip) world := by
  refine ensures_bind (ensures_perform (honest_of_ne unready) fun _ => ⟨honest_of_ne unready, ?_⟩)
  dsimp only [World.call]
  cases cached : cachedChipId world.chip with
  | some chip =>
      refine ensures_pure (honest_of_ne unready) ⟨.refl world, ?_⟩
      rintro other ⟨⟩
      exact cached
  | none =>
      refine ensures_bind (ensures_perform (honest_of_ne unready) fun choice => ⟨?_, ?_⟩)
      · exact honest_of_ne unready
      obtain ⟨-, -, answer⟩ := choice
      have quiet : Quiet world (world.records (.ioctl .getSocId 0 answer)) := .records nofun nofun
      cases answer with
      | error errno => exact ensures_pure (honest_of_ne unready) ⟨quiet, nofun⟩
      | ok detected =>
          dsimp only [World.call]
          split_ifs with supported
          · refine ensures_bind (ensures_perform (honest_of_ne unready) fun choice => ⟨?_, ?_⟩)
            · exact honest_of_ne unready
            obtain ⟨setting, -, -⟩ := choice
            have published : ∀ chip : List UInt8, Quiet world
                ({ (world.records (.ioctl .getSocId 0 (.ok detected))) with chip }.records
                  (.setChip (chipText detected))) := by
              intro chip
              have same : Quiet (world.records (.ioctl .getSocId 0 (.ok detected)))
                { (world.records (.ioctl .getSocId 0 (.ok detected))) with chip } := ⟨rfl, rfl, rfl⟩
              exact (quiet.trans same).trans (.records nofun nofun)
            refine ensures_pure (honest_of_ne unready) ⟨published _, ?_⟩
            cases setting with
            | done =>
                rintro chip ⟨⟩
                exact cachedChipId_chipText supported
            | refused | unacknowledged => exact nofun
          · exact ensures_pure (honest_of_ne unready) ⟨quiet, nofun⟩

/-- The detector is still open, and a driver that is said to be ready was just said to be
so. -/
structure Announced (world after : World) : Prop where
  opened : after.opened = world.opened
  closed : after.closed = world.closed
  ready : after.ready = yes → ∃ chip earlier, cachedChipId after.chip = some chip ∧
    after.calls = earlier ++ initCalls chip ++ [.setReady]

theorem Announced.honest {after : World} (announced : Announced world after) : Honest after := by
  intro ready
  obtain ⟨chip, earlier, cached, calls⟩ := announced.ready ready
  exact ⟨chip, earlier, [], cached, calls, .inl rfl⟩

theorem Quiet.announced {after : World} (quiet : Quiet world after) (unready : world.ready ≠ yes) :
    Announced world after where
  opened := quiet.opened
  closed := quiet.closed
  ready ready := absurd (quiet.ready ▸ ready) unready

theorem ensures_load (unready : world.ready ≠ yes) :
    Ensures World.call Honest load
      (fun status after => Announced world after ∧ (status = 0 → after.ready = yes)) world := by
  refine (ensures_findChip unready).bind ?_
  rintro found after - ⟨quiet, cached⟩
  have still : after.ready ≠ yes := quiet.ready ▸ unready
  cases found with
  | none => exact ensures_pure (honest_of_ne still) ⟨quiet.announced unready, nofun⟩
  | some chip =>
      refine (ensures_requestAll (initRequests chip) still).bind ?_
      rintro done final - ⟨more, same, calls⟩
      have unchanged : final.ready ≠ yes := more.ready ▸ still
      have throughout := quiet.trans more
      cases done with
      | false => exact ensures_pure (honest_of_ne unchanged) ⟨throughout.announced unready, nofun⟩
      | true =>
          refine ensures_bind (ensures_perform (honest_of_ne unchanged) fun choice => ?_)
          obtain ⟨setting, -, -⟩ := choice
          have recorded : ∀ ready : List UInt8,
              Announced world ({ final with ready }.records .setReady) := by
            intro ready
            have counted : Quiet { final with ready } ({ final with ready }.records .setReady) :=
              .records nofun nofun
            refine ⟨counted.opened.trans throughout.opened, counted.closed.trans throughout.closed,
              fun _ => ⟨chip, after.calls, same ▸ cached chip rfl, ?_⟩⟩
            rw [World.records, calls rfl]
            rfl
          cases setting with
          | done =>
              exact ⟨(recorded yes).honest, ensures_pure (recorded yes).honest
                ⟨recorded yes, fun _ => rfl⟩⟩
          | refused =>
              exact ⟨(recorded final.ready).honest, ensures_pure (recorded final.ready).honest
                ⟨recorded final.ready, nofun⟩⟩
          | unacknowledged =>
              exact ⟨(recorded yes).honest, ensures_pure (recorded yes).honest
                ⟨recorded yes, nofun⟩⟩

/-- The detector is closed as often as it was opened on the way. -/
def Balanced (world after : World) : Prop :=
  after.opened + world.closed = world.opened + after.closed

theorem ensures_main (honest : Honest world) :
    Ensures World.call Honest main
      (fun status after => (status = 0 → after.ready = yes) ∧ Balanced world after) world := by
  refine ensures_bind (ensures_perform honest fun _ => ⟨honest, ?_⟩)
  by_cases ready : world.ready = yes
  · rw [show (World.call world .getReady _).2 = world.ready from rfl, if_pos ready]
    exact ensures_pure honest ⟨fun _ => ready, rfl⟩
  rw [show (World.call world .getReady _).2 = world.ready from rfl, if_neg ready]
  refine (ensures_openDetector nodeAttempts ready).bind ?_
  rintro found after - ⟨same, opened, closed⟩
  have still : after.ready ≠ yes := same ▸ ready
  cases found with
  | false =>
      refine ensures_pure (honest_of_ne still) ⟨nofun, ?_⟩
      rw [Balanced, opened, closed]
      rfl
  | true =>
      refine (ensures_load still).bind ?_
      rintro status final - ⟨announced, succeeded⟩
      refine ensures_bind (ensures_perform announced.honest fun _ => ?_)
      have closes : Honest (final.records .close) := by
        intro ready
        obtain ⟨chip, earlier, cached, calls⟩ := announced.ready ready
        refine ⟨chip, earlier, [.close], cached, ?_, .inr rfl⟩
        rw [World.records, calls, List.append_assoc]
        rfl
      refine ⟨closes, ensures_pure closes ⟨succeeded, ?_⟩⟩
      have one : (final.records .close).opened = world.opened + 1 := by
        simpa [World.opened, World.records] using announced.opened.trans opened
      have other : (final.records .close).closed = world.closed + 1 := by
        have := announced.closed.trans closed
        simpa [World.closed, World.records] using this
      show (final.records .close).opened + _ = _ + (final.records .close).closed
      omega

/-- A loader that finds the driver said to be ready trusts the property. -/
theorem run_main_of_ready (ready : world.ready = yes) (choices : Nat → Choice) :
    main.run World.call world choices = (0, world) := by
  show (Program.run World.call (if world.ready = yes then pure 0 else _) world _) = (0, world)
  rw [if_pos ready]
  rfl

end Parts

/-- A run of the loader, whatever the properties and the detector do.  If the driver is said
to be ready at its start, it succeeds without a call that changes anything.  Otherwise a
driver that is said to be ready at its end was initialized, in order and without an error,
for the chip that the property names, and the loader succeeds only if this is so.  The
detector is closed as often as it was opened. -/
theorem loader_run (world : World) (choices : Nat → Choice) :
    (world.ready = yes → main.run World.call world choices = (0, world)) ∧
    (world.ready ≠ yes →
      Honest (main.run World.call world choices).2 ∧
      ((main.run World.call world choices).1 = 0 →
        Ready (main.run World.call world choices).2)) ∧
    Balanced world (main.run World.call world choices).2 := by
  refine ⟨fun ready => run_main_of_ready ready choices, fun unready => ?_, ?_⟩
  · have ensures := ensures_main (honest_of_ne unready)
    have left := ensures.run_inv choices
    exact ⟨left, fun succeeded => left ((ensures.run choices).1 succeeded)⟩
  · by_cases ready : world.ready = yes
    · rw [run_main_of_ready ready choices]
      rfl
    · exact ((ensures_main (honest_of_ne ready)).run choices).2

/-- The property names no chip, and the second attempt opens the detector. -/
theorem loader_run_detects :
    Ready (main.run World.call ⟨[], ascii "mt6755", []⟩ fun call =>
      { opened := if call = 1 then .error .enoent else .ok ()
        answer := .ok (if call = 4 then 0x0326 else 0) }).2 :=
  ((loader_run _ _).2.1 (by decide)).2 (by decide +kernel)

end K50sv1.WmtLoader
