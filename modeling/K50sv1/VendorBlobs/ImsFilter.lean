import K50sv1.Data.CText
import K50sv1.Data.Pattern
import Mathlib.Algebra.BigOperators.Group.List.Basic
import Mathlib.Tactic.SplitIfs

/-!
# Dropping the generated `ImsService` module

The Perl program in `setup-makefiles.sh` that removes the generated module of
`ImsService` from the staged `Android.bp`, and the subshell around it.  The program scans
the text line by line and takes an `android_app_import` up to the line at which its
braces are balanced.
-/

namespace K50sv1.VendorBlobs

open K50sv1.Data
open K50sv1.Data.Pattern

/-! ## The patterns -/

abbrev Text := List UInt8

def ascii (text : String) : Text :=
  text.toList.map Char.toUInt8

def newline : UInt8 := 0x0a

/-- `^` without `/m`. -/
def textStart : Atom UInt8 :=
  .check fun before _ => before = []

/-- `$` without `/m`: a newline at the very end may follow. -/
def textEnd : Atom UInt8 :=
  .check fun _ after => after = [] || after = [newline]

/-- `^` with `/m`; there is no line behind a newline that ends the text. -/
def lineStart : Atom UInt8 :=
  .check fun before after => before = [] || (before.getLast? = some newline && after ≠ [])

/-- `$` with `/m`. -/
def lineEnd : Atom UInt8 :=
  .check fun _ after => after = [] || after.head? = some newline

/-- `\s*`. -/
def spaces : Atom UInt8 :=
  .many CText.isSpace

/-- `^android_app_import\s*\{\s*$` -/
def openingPattern : List (Atom UInt8) :=
  textStart :: (literal (ascii "android_app_import") ++
    spaces :: (literal (ascii "\x7b") ++ [spaces, textEnd]))

/-- `^\s*name:\s*"ImsService",\s*$` -/
def namePattern : List (Atom UInt8) :=
  lineStart :: spaces :: (literal (ascii "name:") ++
    spaces :: (literal (ascii "\"ImsService\",") ++ [spaces, lineEnd]))

/-- `^\s*$` -/
def blankPattern : List (Atom UInt8) :=
  [textStart, spaces, textEnd]

def opens (line : Text) : Bool :=
  occurs openingPattern line

def namesImsService (block : Text) : Bool :=
  occurs namePattern block

def blank (line : Text) : Bool :=
  occurs blankPattern line

/-! ## The program -/

/-- Why the program dies. -/
inductive FilterError where
  | cannotRead (reason : String)
  | cannotClose (reason : String)
  | unterminated
  | unbalanced
  | notExactlyOne
  deriving DecidableEq, Repr

def FilterError.message (path : String) : FilterError → String
  | .cannotRead reason => "Cannot read " ++ path ++ ": " ++ reason ++ "\n"
  | .cannotClose reason => "Cannot close " ++ path ++ ": " ++ reason ++ "\n"
  | .unterminated => "Unterminated android_app_import in " ++ path ++ "\n"
  | .unbalanced => "Unbalanced android_app_import in " ++ path ++ "\n"
  | .notExactlyOne => "Expected exactly one generated ImsService module in " ++ path ++ "\n"

/-- `split /(?<=\n)/, $text, -1` -/
def splitLines (text : Text) : List Text :=
  splitAfter (· = newline) text

def openBraces (line : Text) : Nat :=
  line.count 0x7b

def closeBraces (line : Text) : Nat :=
  line.count 0x7d

/-- The loop that collects a block: the block and the lines behind it. -/
def takeBlock : List Text → Text → Int → Except FilterError (Text × List Text)
  | [], _, _ => .error .unterminated
  | line :: rest, block, depth =>
      let block := block ++ line
      let depth := depth + openBraces line
      let depth := depth - closeBraces line
      if depth < 0 then .error .unbalanced
      else if depth ≠ 0 then takeBlock rest block depth
      else .ok (block, rest)

/-- The lines without a blank first one. -/
def dropSeparator : List Text → List Text
  | [] => []
  | line :: rest => if blank line then rest else line :: rest

theorem length_takeBlock {lines : List Text} {block : Text} {depth : Int}
    {taken : Text × List Text} (ok : takeBlock lines block depth = .ok taken) :
    taken.2.length < lines.length := by
  induction lines generalizing block depth with
  | nil => cases ok
  | cons line rest ih =>
      rw [takeBlock] at ok
      split_ifs at ok with negative pending
      · exact (ih ok).trans (Nat.lt_succ_self _)
      · cases ok
        exact Nat.lt_succ_self _

theorem length_dropSeparator_le (lines : List Text) :
    (dropSeparator lines).length ≤ lines.length := by
  cases lines with
  | nil => exact Nat.le_refl _
  | cons line rest =>
      rw [dropSeparator]
      split_ifs
      · exact Nat.le_succ _
      · exact Nat.le_refl _

/-- The main loop over the lines that are left: the output and the number of blocks
removed. -/
def filterLoop : List Text → Text → Nat → Except FilterError (Text × Nat)
  | [], output, removed => .ok (output, removed)
  | line :: rest, output, removed =>
      if !opens line then
        filterLoop rest (output ++ line) removed
      else
        match _ : takeBlock (line :: rest) [] 0 with
        | .error error => .error error
        | .ok (block, behind) =>
            if namesImsService block then
              filterLoop (dropSeparator behind) output (removed + 1)
            else
              filterLoop behind (output ++ block) removed
termination_by lines => lines.length
decreasing_by
  · exact Nat.lt_succ_self _
  · exact (length_dropSeparator_le behind).trans_lt (length_takeBlock ‹_›)
  · exact length_takeBlock ‹_›

/-- The program from the text it has read to what it prints. -/
def filterText (text : Text) : Except FilterError Text :=
  match filterLoop (splitLines text) [] 0 with
  | .error error => .error error
  | .ok (output, removed) => if removed = 1 then .ok output else .error .notExactlyOne

/-! ## The subshell -/

/-- What the commands of the subshell do: `mktemp`, Perl's `open` and `close` with the
reason of a failure, `chmod` and `mv`. -/
structure Commands where
  mktemp : Bool
  openFails : Option String
  closeFails : Option String
  chmod : Bool
  mv : Bool

def perl (commands : Commands) (text : Text) : Except FilterError Text :=
  match commands.openFails, commands.closeFails with
  | some reason, _ => .error (.cannotRead reason)
  | none, some reason => .error (.cannotClose reason)
  | none, none => filterText text

/-- How the subshell ends: the staged `Android.bp`, and what Perl has complained of. -/
structure StageResult where
  androidBp : Text
  succeeded : Bool
  complaint : String

/-- The subshell; under `errexit` the first command that fails ends it. -/
def filterStage (commands : Commands) (path : String) (androidBp : Text) : StageResult :=
  if !commands.mktemp then
    ⟨androidBp, false, ""⟩
  else
    match perl commands androidBp with
    | .error error => ⟨androidBp, false, error.message path⟩
    | .ok patched =>
        if !commands.chmod || !commands.mv then ⟨androidBp, false, ""⟩ else ⟨patched, true, ""⟩

end K50sv1.VendorBlobs
