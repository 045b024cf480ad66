import K50sv1.VendorBlobs.ImsFilter

/-!
# The filter removes exactly one module

The text is read as plain lines and groups: a group is opened by an `android_app_import`
line and goes up to the first line at which its braces are balanced.  The filter succeeds
exactly if the whole text can be read so and one group names `ImsService`.
-/

namespace K50sv1.VendorBlobs

open K50sv1.Data
open K50sv1.Data.Pattern

/-! ## What the patterns match -/

/-- White space only. -/
def Spaces (text : Text) : Prop :=
  ∀ byte ∈ text, CText.isSpace byte = true

/-- `android_app_import {`, with white space before the brace and behind it. -/
def IsOpening (line : Text) : Prop :=
  ∃ gap tail, Spaces gap ∧ Spaces tail ∧
    line = ascii "android_app_import" ++ (gap ++ (ascii "\x7b" ++ tail))

/-- From the start of a line to the end of one, `name: "ImsService",` and white space. -/
def NamesImsService (block : Text) : Prop :=
  ∃ before indent gap tail after,
    (before = [] ∨ before.getLast? = some newline) ∧ (after = [] ∨ after.head? = some newline) ∧
    Spaces indent ∧ Spaces gap ∧ Spaces tail ∧
    block = before ++ (indent ++ (ascii "name:" ++
      (gap ++ (ascii "\"ImsService\"," ++ tail)))) ++ after

theorem spaces_newline : Spaces [newline] := by
  intro byte member
  rw [List.mem_singleton.1 member]
  rfl

theorem Spaces.append {first second : Text} (one : Spaces first) (two : Spaces second) :
    Spaces (first ++ second) :=
  fun byte member => (List.mem_append.1 member).elim (one byte) (two byte)

/-- White space may be followed by a last newline, which is white space itself. -/
theorem spaces_of_textEnd {run after : Text} (holds : Spaces run)
    (ending : (decide (after = []) || decide (after = [newline])) = true) :
    Spaces (run ++ after) := by
  rcases Bool.or_eq_true_iff.1 ending with none | last
  · rw [of_decide_eq_true none, List.append_nil]
    exact holds
  · rw [of_decide_eq_true last]
    exact holds.append spaces_newline

theorem opens_iff {line : Text} : opens line = true ↔ IsOpening line := by
  rw [opens, occurs_iff]
  simp only [openingPattern, textStart, spaces, textEnd, matches_check_iff, matches_literal_iff,
    matches_many_iff, matches_nil_iff]
  constructor
  · rintro ⟨before, _, after, rfl, start, _, rfl, gap, _, rfl, gapSpaces, _, rfl, run, _, rfl,
      runSpaces, ending, rfl⟩
    obtain rfl := of_decide_eq_true start
    refine ⟨gap, run ++ after, gapSpaces, spaces_of_textEnd runSpaces ending, ?_⟩
    simp
  · rintro ⟨gap, tail, gapSpaces, tailSpaces, rfl⟩
    exact ⟨[], _, [], by simp, rfl, _, rfl, gap, _, rfl, gapSpaces, tail, rfl, tail, [],
      by simp, tailSpaces, rfl, rfl⟩

theorem blank_iff {line : Text} : blank line = true ↔ Spaces line := by
  rw [blank, occurs_iff]
  simp only [blankPattern, textStart, spaces, textEnd, matches_check_iff, matches_many_iff,
    matches_nil_iff]
  constructor
  · rintro ⟨before, _, after, rfl, start, run, _, rfl, runSpaces, ending, rfl⟩
    obtain rfl := of_decide_eq_true start
    simpa using spaces_of_textEnd runSpaces ending
  · intro lineSpaces
    exact ⟨[], line, [], by simp, rfl, line, [], by simp, lineSpaces, rfl, rfl⟩

theorem namesImsService_iff {block : Text} :
    namesImsService block = true ↔ NamesImsService block := by
  rw [namesImsService, occurs_iff]
  simp only [namePattern, lineStart, spaces, lineEnd, matches_check_iff, matches_literal_iff,
    matches_many_iff, matches_nil_iff]
  constructor
  · rintro ⟨before, _, after, rfl, start, indent, _, rfl, indentSpaces, _, rfl, gap, _, rfl,
      gapSpaces, _, rfl, tail, _, rfl, tailSpaces, ending, rfl⟩
    refine ⟨before, indent, gap, tail, after, ?_, ?_, indentSpaces, gapSpaces, tailSpaces, ?_⟩
    · simp only [Bool.or_eq_true, Bool.and_eq_true, decide_eq_true_eq] at start
      exact start.imp_right And.left
    · simpa using ending
    · simp
  · rintro ⟨before, indent, gap, tail, after, start, ending, indentSpaces, gapSpaces,
      tailSpaces, rfl⟩
    refine ⟨before, _, after, rfl, ?_, indent, _, rfl, indentSpaces, _, rfl, gap, _, rfl,
      gapSpaces, tail, rfl, tail, [], by simp, tailSpaces, ?_, rfl⟩
    · simp only [Bool.or_eq_true, Bool.and_eq_true, decide_eq_true_eq]
      refine start.imp_right fun last => ⟨last, ?_⟩
      simp [ascii]
    · simpa using ending

/-- An opening line is not blank. -/
theorem IsOpening.not_spaces {line : Text} (opening : IsOpening line) : ¬ Spaces line := by
  obtain ⟨gap, tail, -, -, rfl⟩ := opening
  intro blank
  have letter : (0x61 : UInt8) ∈ ascii "android_app_import" := by decide
  exact absurd (blank 0x61 (List.mem_append_left _ letter)) (by decide)

/-! ## Groups -/

/-- What a line adds to the open braces. -/
def balance (line : Text) : Int :=
  openBraces line - closeBraces line

/-- With `depth` open braces before them, the lines close all at the end of the last one
and not before; after no line are there less than none. -/
inductive Closes : Int → List Text → Prop where
  | last {depth : Int} {line : Text} (zero : depth + balance line = 0) : Closes depth [line]
  | cons {depth : Int} {line : Text} {rest : List Text} (positive : 0 < depth + balance line)
      (closes : Closes (depth + balance line) rest) : Closes depth (line :: rest)

/-- An `android_app_import` from its opening line to the line that closes it. -/
structure IsGroup (lines : List Text) : Prop where
  opening : ∃ first rest, lines = first :: rest ∧ IsOpening first
  closes : Closes 0 lines

theorem takeBlock_cons (line : Text) (rest : List Text) (block : Text) (depth : Int) :
    takeBlock (line :: rest) block depth =
      if depth + balance line < 0 then .error .unbalanced
      else if depth + balance line ≠ 0 then
        takeBlock rest (block ++ line) (depth + balance line)
      else .ok (block ++ line, rest) := by
  have depths : depth + openBraces line - closeBraces line = depth + balance line :=
    add_sub_assoc ..
  rw [takeBlock, depths]

theorem takeBlock_of_closes {depth : Int} {group : List Text} (closes : Closes depth group)
    (behind : List Text) (block : Text) :
    takeBlock (group ++ behind) block depth = .ok (block ++ group.flatten, behind) := by
  induction closes generalizing block with
  | last zero => simp [takeBlock_cons, zero]
  | cons positive closes ih =>
      rw [List.cons_append, takeBlock_cons, if_neg (by omega), if_pos (by omega), ih,
        List.flatten_cons, List.append_assoc]

theorem closes_of_takeBlock {lines behind : List Text} {block taken : Text} {depth : Int}
    (ok : takeBlock lines block depth = .ok (taken, behind)) :
    ∃ group, lines = group ++ behind ∧ Closes depth group ∧ taken = block ++ group.flatten := by
  induction lines generalizing block depth with
  | nil => cases ok
  | cons line rest ih =>
      rw [takeBlock_cons] at ok
      split_ifs at ok with negative pending
      · obtain ⟨group, rfl, closes, rfl⟩ := ih ok
        have positive : 0 < depth + balance line := by omega
        exact ⟨line :: group, rfl, .cons positive closes, by simp⟩
      · cases ok
        exact ⟨[line], rfl, .last (not_not.1 pending), by simp⟩

/-! ## Reading the text as items -/

/-- A line outside every group, or a group. -/
inductive Item where
  | plain (line : Text)
  | group (lines : List Text)

def Item.lines : Item → List Text
  | .plain line => [line]
  | .group lines => lines

def Item.Proper : Item → Prop
  | .plain line => ¬ IsOpening line
  | .group lines => IsGroup lines

def Item.Names : Item → Prop
  | .plain _ => False
  | .group lines => NamesImsService lines.flatten

def Item.names : Item → Bool
  | .plain _ => false
  | .group lines => namesImsService lines.flatten

theorem Item.names_iff (item : Item) : item.names = true ↔ item.Names := by
  cases item with
  | plain line => exact Bool.false_eq_true.to_iff
  | group lines => exact namesImsService_iff

/-- The items are the lines, top to bottom. -/
structure Reads (lines : List Text) (items : List Item) : Prop where
  lines : lines = items.flatMap Item.lines
  proper : ∀ item ∈ items, item.Proper

/-- What the loop prints for the items; `skip` if the last one was removed. -/
def kept : Bool → List Item → Text
  | _, [] => []
  | skip, .plain line :: items => (if skip && blank line then [] else line) ++ kept false items
  | _, .group lines :: items =>
      if namesImsService lines.flatten then kept true items
      else lines.flatten ++ kept false items

theorem reads_nil : Reads [] [] :=
  ⟨rfl, nofun⟩

theorem Reads.plain {lines : List Text} {items : List Item} (reads : Reads lines items)
    {line : Text} (plain : ¬ IsOpening line) : Reads (line :: lines) (.plain line :: items) where
  lines := congrArg (line :: ·) reads.lines
  proper := List.forall_mem_cons.2 ⟨plain, reads.proper⟩

theorem Reads.group {lines : List Text} {items : List Item} (reads : Reads lines items)
    {group : List Text} (proper : IsGroup group) :
    Reads (group ++ lines) (.group group :: items) where
  lines := congrArg (group ++ ·) reads.lines
  proper := List.forall_mem_cons.2 ⟨proper, reads.proper⟩

theorem Reads.uncons {lines : List Text} {item : Item} {items : List Item}
    (reads : Reads lines (item :: items)) :
    ∃ behind, lines = item.lines ++ behind ∧ item.Proper ∧ Reads behind items := by
  obtain ⟨proper, later⟩ := List.forall_mem_cons.1 reads.proper
  exact ⟨_, reads.lines, proper, rfl, later⟩

/-- The separator that the loop skips is a line of its own. -/
theorem Reads.of_dropSeparator {lines : List Text} {items : List Item}
    (reads : Reads (dropSeparator lines) items) : ∃ all, Reads lines all := by
  cases lines with
  | nil => exact ⟨items, reads⟩
  | cons line rest =>
      rw [dropSeparator] at reads
      split_ifs at reads with isBlank
      · exact ⟨_, reads.plain fun opening => opening.not_spaces (blank_iff.1 isBlank)⟩
      · exact ⟨items, reads⟩

/-- A block that the loop takes is a group. -/
theorem isGroup_of_takeBlock {line : Text} {rest behind : List Text} {block : Text}
    (opening : opens line = true) (taken : takeBlock (line :: rest) [] 0 = .ok (block, behind)) :
    ∃ group, line :: rest = group ++ behind ∧ IsGroup group ∧ block = group.flatten := by
  obtain ⟨group, split, closes, same⟩ := closes_of_takeBlock taken
  refine ⟨group, split, ⟨?_, closes⟩, same⟩
  cases closes with
  | last zero => exact ⟨_, _, rfl, (List.cons.inj split).1 ▸ opens_iff.1 opening⟩
  | cons positive closes => exact ⟨_, _, rfl, (List.cons.inj split).1 ▸ opens_iff.1 opening⟩

/-- Whatever the loop gets through can be read as items. -/
theorem reads_of_filterLoop {lines : List Text} {output : Text} {removed : Nat}
    {result : Text × Nat} (ok : filterLoop lines output removed = .ok result) :
    ∃ items, Reads lines items := by
  fun_induction filterLoop lines output removed with
  | case1 output removed => exact ⟨[], reads_nil⟩
  | case2 line rest output removed plain ih =>
      obtain ⟨items, reads⟩ := ih ok
      have notOpening : ¬ IsOpening line := fun opening => by
        simp [opens_iff.2 opening] at plain
      exact ⟨_, reads.plain notOpening⟩
  | case3 line rest output removed opening error taken => cases ok
  | case4 line rest output removed opening block behind taken names ih =>
      obtain ⟨_, reads⟩ := ih ok
      obtain ⟨items, reads⟩ := reads.of_dropSeparator
      obtain ⟨group, split, proper, _⟩ := isGroup_of_takeBlock (by simpa using opening) taken
      exact ⟨_, split ▸ reads.group proper⟩
  | case5 line rest output removed opening block behind taken names ih =>
      obtain ⟨items, reads⟩ := ih ok
      obtain ⟨group, split, proper, _⟩ := isGroup_of_takeBlock (by simpa using opening) taken
      exact ⟨_, split ▸ reads.group proper⟩

/-! ## What the loop computes -/

/-- The items without a blank first line. -/
def dropBlank : List Item → List Item
  | .plain line :: items => if blank line then items else .plain line :: items
  | items => items

theorem kept_true (items : List Item) : kept true items = kept false (dropBlank items) := by
  cases items with
  | nil => rfl
  | cons item items =>
      cases item with
      | group lines => rfl
      | plain line =>
          rw [dropBlank]
          split_ifs with isBlank
          · simp [kept, isBlank]
          · simp [kept, isBlank]

theorem Reads.dropSeparator {lines : List Text} {items : List Item} (reads : Reads lines items) :
    Reads (dropSeparator lines) (dropBlank items) := by
  obtain ⟨rfl, proper⟩ := reads
  cases items with
  | nil => exact reads_nil
  | cons item items =>
      cases item with
      | plain line =>
          rw [dropBlank, List.flatMap_cons, Item.lines, List.singleton_append,
            VendorBlobs.dropSeparator]
          split_ifs with isBlank
          · exact ⟨rfl, (List.forall_mem_cons.1 proper).2⟩
          · exact ⟨rfl, proper⟩
      | group group =>
          obtain ⟨first, rest, rfl, opening⟩ := (proper _ List.mem_cons_self).opening
          have isBlank : ¬ blank first = true := fun isBlank =>
            opening.not_spaces (blank_iff.1 isBlank)
          rw [List.flatMap_cons, Item.lines, List.cons_append, VendorBlobs.dropSeparator,
            if_neg isBlank]
          exact ⟨rfl, proper⟩

theorem length_dropBlank_le (items : List Item) : (dropBlank items).length ≤ items.length := by
  unfold dropBlank
  split
  · split_ifs
    · exact Nat.le_succ _
    · exact Nat.le_refl _
  · exact Nat.le_refl _

/-- Skipping the separator does not skip a group. -/
theorem countP_dropBlank (items : List Item) :
    (dropBlank items).countP Item.names = items.countP Item.names := by
  unfold dropBlank
  split
  · split_ifs
    · rw [List.countP_cons_of_neg Bool.false_ne_true]
    · rfl
  · rfl

theorem filterLoop_plain {line : Text} (plain : ¬ IsOpening line) (rest : List Text)
    (output : Text) (removed : Nat) :
    filterLoop (line :: rest) output removed = filterLoop rest (output ++ line) removed := by
  have notOpening : opens line = false :=
    Bool.eq_false_iff.2 fun opening => plain (opens_iff.1 opening)
  rw [filterLoop, notOpening]
  rfl

theorem filterLoop_group {group : List Text} (proper : IsGroup group) (behind : List Text)
    (output : Text) (removed : Nat) :
    filterLoop (group ++ behind) output removed =
      if namesImsService group.flatten then
        filterLoop (dropSeparator behind) output (removed + 1)
      else filterLoop behind (output ++ group.flatten) removed := by
  have taken := takeBlock_of_closes proper.closes behind []
  obtain ⟨first, rest, rfl, opening⟩ := proper.opening
  rw [List.cons_append] at taken ⊢
  rw [filterLoop, opens_iff.2 opening, if_neg (by decide)]
  split
  · rename_i error failed
    rw [taken] at failed
    cases failed
  · rename_i block behind' ok
    rw [taken] at ok
    cases ok
    rfl

/-- The loop goes through everything that can be read as items. -/
theorem filterLoop_of_reads {lines : List Text} {items : List Item} (reads : Reads lines items)
    (output : Text) (removed : Nat) :
    filterLoop lines output removed =
      .ok (output ++ kept false items, removed + items.countP Item.names) := by
  -- the separator is skipped with the group before it, so the recursion is on the length
  induction bound : items.length using Nat.strong_induction_on
    generalizing lines items output removed with
  | _ length ih =>
      subst bound
      cases items with
      | nil =>
          rw [reads.lines]
          simp [filterLoop, kept]
      | cons item items =>
          obtain ⟨behind, rfl, proper, later⟩ := reads.uncons
          cases item with
          | plain line =>
              rw [Item.lines, List.singleton_append, filterLoop_plain proper,
                ih items.length (Nat.lt_succ_self _) later _ _ rfl,
                List.countP_cons_of_neg Bool.false_ne_true, kept]
              simp
          | group group =>
              rw [Item.lines, filterLoop_group proper, kept]
              split_ifs with names
              · have named : (Item.group group).names = true := names
                have shorter : (dropBlank items).length < items.length + 1 :=
                  Nat.lt_succ_of_le (length_dropBlank_le items)
                rw [ih _ shorter later.dropSeparator _ _ rfl, countP_dropBlank, kept_true,
                  List.countP_cons_of_pos named, Nat.add_right_comm, Nat.add_assoc]
              · have unnamed : ¬ (Item.group group).names = true := names
                rw [ih items.length (Nat.lt_succ_self _) later _ _ rfl,
                  List.countP_cons_of_neg unnamed, List.append_assoc]

/-! ## Exactly one group -/

theorem countP_eq_one_iff {α : Type} {p : α → Bool} {list : List α} :
    list.countP p = 1 ↔ ∃ before element after, list = before ++ element :: after ∧
      p element = true ∧ ∀ other ∈ before ++ after, ¬ p other = true := by
  constructor
  · intro one
    obtain ⟨element, member, holds⟩ := List.countP_pos_iff.1 (one ▸ Nat.one_pos)
    obtain ⟨before, after, rfl⟩ := List.append_of_mem member
    refine ⟨before, element, after, rfl, holds, ?_⟩
    have others : (before ++ after).countP p = 0 := by
      rw [List.countP_append, List.countP_cons_of_pos holds] at one
      rw [List.countP_append]
      omega
    exact List.countP_eq_zero.1 others
  · rintro ⟨before, element, after, rfl, holds, others⟩
    have none := List.countP_eq_zero.2 others
    rw [List.countP_append] at none
    rw [List.countP_append, List.countP_cons_of_pos holds]
    omega

/-- Items without the module are printed as they are. -/
theorem kept_append {before : List Item} (unnamed : ∀ item ∈ before, ¬ item.names = true)
    (items : List Item) :
    kept false (before ++ items) = (before.flatMap Item.lines).flatten ++ kept false items := by
  induction before with
  | nil => rfl
  | cons item before ih =>
      obtain ⟨first, others⟩ := List.forall_mem_cons.1 unnamed
      cases item with
      | plain line =>
          rw [List.cons_append, kept, ih others]
          simp [Item.lines]
      | group group =>
          have other : ¬ namesImsService group.flatten = true := first
          rw [List.cons_append, kept, if_neg other, ih others]
          simp [Item.lines]

theorem kept_of_unnamed {items : List Item} (unnamed : ∀ item ∈ items, ¬ item.names = true) :
    kept false items = (items.flatMap Item.lines).flatten := by
  have whole := kept_append unnamed []
  rwa [List.append_nil, kept, List.append_nil] at whole

theorem dropBlank_subset (items : List Item) : dropBlank items ⊆ items := by
  unfold dropBlank
  split
  · split_ifs
    · exact List.subset_cons_self ..
    · exact List.Subset.refl _
  · exact List.Subset.refl _

/-- The module and its separator are missing from what is printed. -/
theorem kept_module {before after : List Item} {group : List Text}
    (unnamed : ∀ item ∈ before ++ after, ¬ item.names = true)
    (named : namesImsService group.flatten = true) (proper : ∀ item ∈ after, item.Proper) :
    kept false (before ++ .group group :: after) =
      (before.flatMap Item.lines).flatten ++
        (dropSeparator (after.flatMap Item.lines)).flatten := by
  have reads : Reads (after.flatMap Item.lines) after := ⟨rfl, proper⟩
  have unnamedAfter : ∀ item ∈ dropBlank after, ¬ item.names = true := fun item member =>
    unnamed item (List.mem_append_right _ (dropBlank_subset after member))
  rw [kept_append fun item member => unnamed item (List.mem_append_left _ member), kept,
    if_pos named, kept_true, kept_of_unnamed unnamedAfter, ← reads.dropSeparator.lines]

/-! ## The filter -/

/-- `rest` are the lines without a blank first one. -/
def WithoutSeparator (lines rest : List Text) : Prop :=
  (∃ line, Spaces line ∧ lines = line :: rest) ∨
    (rest = lines ∧ ∀ line, lines.head? = some line → ¬ Spaces line)

theorem withoutSeparator_iff {lines rest : List Text} :
    WithoutSeparator lines rest ↔ rest = dropSeparator lines := by
  cases lines with
  | nil => simp [WithoutSeparator, dropSeparator]
  | cons line lines =>
      rw [WithoutSeparator, dropSeparator]
      split_ifs with isBlank
      · have spaces := blank_iff.1 isBlank
        constructor
        · rintro (⟨_, _, same⟩ | ⟨_, notBlank⟩)
          · exact (List.cons.inj same).2.symm
          · exact absurd spaces (notBlank line rfl)
        · rintro rfl
          exact .inl ⟨line, spaces, rfl⟩
      · constructor
        · rintro (⟨_, spaces, same⟩ | ⟨same, _⟩)
          · rw [← (List.cons.inj same).1] at spaces
            exact absurd (blank_iff.2 spaces) isBlank
          · exact same
        · rintro rfl
          refine .inr ⟨rfl, fun _ same spaces => ?_⟩
          rw [← Option.some.inj same] at spaces
          exact isBlank (blank_iff.2 spaces)

/-- `output` is `text` without the one group that names `ImsService` and without the
separator behind it. -/
def Removes (text output : Text) : Prop :=
  ∃ before group after rest, Reads (splitLines text) (before ++ .group group :: after) ∧
    NamesImsService group.flatten ∧ (∀ item ∈ before ++ after, ¬ item.Names) ∧
    WithoutSeparator (after.flatMap Item.lines) rest ∧
    output = (before.flatMap Item.lines).flatten ++ rest.flatten

theorem removes_of_filterText {text output : Text} (ok : filterText text = .ok output) :
    Removes text output := by
  unfold filterText at ok
  cases looped : filterLoop (splitLines text) [] 0 with
  | error error =>
      rw [looped] at ok
      cases ok
  | ok result =>
      obtain ⟨printed, removed⟩ := result
      obtain ⟨items, reads⟩ := reads_of_filterLoop looped
      rw [filterLoop_of_reads reads, List.nil_append, Nat.zero_add] at ok
      dsimp only at ok
      split_ifs at ok with one
      cases ok
      obtain ⟨before, item, after, rfl, names, unnamed⟩ := countP_eq_one_iff.1 one
      have proper : ∀ item ∈ after, item.Proper := fun item member =>
        reads.proper item (List.mem_append_right _ (List.mem_cons_of_mem _ member))
      cases item with
      | plain line => cases names
      | group group =>
          exact ⟨before, group, after, _, reads, namesImsService_iff.1 names,
            fun item member named => unnamed item member (item.names_iff.2 named),
            withoutSeparator_iff.2 rfl, kept_module unnamed names proper⟩

theorem filterText_of_removes {text output : Text} (removes : Removes text output) :
    filterText text = .ok output := by
  obtain ⟨before, group, after, rest, reads, named, unnamed, separator, rfl⟩ := removes
  have unnamed' : ∀ item ∈ before ++ after, ¬ item.names = true := fun item member names =>
    unnamed item member (item.names_iff.1 names)
  have one : (before ++ .group group :: after).countP Item.names = 1 :=
    countP_eq_one_iff.2 ⟨before, _, after, rfl, namesImsService_iff.2 named, unnamed'⟩
  have proper : ∀ item ∈ after, item.Proper := fun item member =>
    reads.proper item (List.mem_append_right _ (List.mem_cons_of_mem _ member))
  rw [filterText, filterLoop_of_reads reads, one,
    kept_module unnamed' (namesImsService_iff.2 named) proper, withoutSeparator_iff.1 separator]
  rfl

theorem filterText_of_perl {commands : Commands} {text patched : Text}
    (printed : perl commands text = .ok patched) : filterText text = .ok patched := by
  unfold perl at printed
  split at printed
  · cases printed
  · cases printed
  · exact printed

/-- The staged file is replaced by what the filter prints, or left as it is. -/
theorem filterStage_replaces_or_keeps (commands : Commands) (path : String) (text : Text) :
    ((filterStage commands path text).succeeded = true ∧
        filterText text = .ok (filterStage commands path text).androidBp) ∨
      ((filterStage commands path text).succeeded = false ∧
        (filterStage commands path text).androidBp = text) := by
  unfold filterStage
  cases printed : perl commands text with
  | error error =>
      dsimp only
      split_ifs
      · exact .inr ⟨rfl, rfl⟩
      · exact .inr ⟨rfl, rfl⟩
  | ok patched =>
      split_ifs with noFile failed
      · exact .inr ⟨rfl, rfl⟩
      · exact .inr ⟨rfl, rfl⟩
      · exact .inl ⟨rfl, filterText_of_perl printed⟩

/-- On every text the filter removes exactly one module or dies, and then nothing is
replaced. -/
theorem ims_filter_exact (commands : Commands) (path : String) (text : Text) :
    WholeParts (· = newline) text (splitLines text) ∧
    (∀ output, filterText text = .ok output ↔ Removes text output) ∧
    ((filterStage commands path text).succeeded = true →
      Removes text (filterStage commands path text).androidBp) ∧
    ((¬ ∃ output, Removes text output) →
      (∃ error, filterText text = .error error) ∧
      (filterStage commands path text).succeeded = false ∧
      (filterStage commands path text).androidBp = text) := by
  have exact : ∀ output, filterText text = .ok output ↔ Removes text output :=
    fun _ => ⟨removes_of_filterText, filterText_of_removes⟩
  refine ⟨wholeParts_splitAfter _ text, exact, fun succeeded => ?_, fun none => ⟨?_, ?_⟩⟩
  · rcases filterStage_replaces_or_keeps commands path text with ⟨_, printed⟩ | ⟨failed, _⟩
    · exact removes_of_filterText printed
    · rw [failed] at succeeded
      cases succeeded
  · cases printed : filterText text with
    | error error => exact ⟨error, rfl⟩
    | ok output => exact absurd ⟨output, removes_of_filterText printed⟩ none
  · rcases filterStage_replaces_or_keeps commands path text with ⟨_, printed⟩ | kept
    · exact absurd ⟨_, removes_of_filterText printed⟩ none
    · exact kept

end K50sv1.VendorBlobs
