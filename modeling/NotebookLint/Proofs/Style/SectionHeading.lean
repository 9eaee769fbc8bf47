import NotebookLint.Proofs.Style.Locality
import NotebookLint.Proofs.Text.Lines
import NotebookLint.Proofs.Text.Run
import NotebookLint.Proofs.Text.Trim

/-! Sections without a motivation. A heading is one that can be split into the parts of a numbered
heading; reading it from left to right finds such parts, since no two that follow each other share
a character. -/
namespace NotebookLint.Style.Motivation
open Text

/-- Two number signs, white space, a number, a dot, a number, white space, and any rest. -/
def IsNumbered (line : List Char) : Prop :=
  ∃ gap whole fraction space rest,
    line = ['#', '#'] ++ gap ++ whole ++ ['.'] ++ fraction ++ space ++ rest ∧
      IsRun isBlank gap ∧ IsRun isDigit whole ∧ IsRun isDigit fraction ∧ IsRun isBlank space

theorem isSectionHeading_append {gap whole : List Char} (gap_blank : IsRun isBlank gap)
    (whole_digits : IsRun isDigit whole) (rest : List Char) :
    isSectionHeading ('#' :: '#' :: (gap ++ (whole ++ '.' :: rest))) =
      ((past isDigit rest).bind (past isBlank)).isSome := by
  have undotted : isDigit '.' = false := by decide +kernel
  have past_gap := past_append gap_blank
    (whole_digits.head?_any (fun _ => isBlank_of_isDigit) ('.' :: rest))
  have past_whole : past isDigit (whole ++ '.' :: rest) = some ('.' :: rest) :=
    past_append whole_digits (by simp [undotted])
  simp only [isSectionHeading,past_gap,Option.bind_some,past_whole]

theorem isSectionHeading_iff (line : List Char) :
    isSectionHeading line = true ↔ IsNumbered line := by
  constructor
  · intro heading
    unfold isSectionHeading at heading
    split at heading
    · rename_i text
      split at heading
      · rename_i found
        obtain ⟨numbers,past_gap,past_whole⟩ := Option.bind_eq_some_iff.mp found
        obtain ⟨gap,gap_blank,rfl⟩ := exists_run_of_past past_gap
        obtain ⟨whole,whole_digits,rfl⟩ := exists_run_of_past past_whole
        obtain ⟨rest,ends⟩ := Option.isSome_iff_exists.mp heading
        obtain ⟨title,past_fraction,past_space⟩ := Option.bind_eq_some_iff.mp ends
        obtain ⟨fraction,fraction_digits,rfl⟩ := exists_run_of_past past_fraction
        obtain ⟨space,space_blank,rfl⟩ := exists_run_of_past past_space
        exact ⟨gap,whole,fraction,space,rest,by simp,gap_blank,whole_digits,fraction_digits,
          space_blank⟩
      · contradiction
    · contradiction
  · rintro ⟨gap,whole,fraction,space,rest,rfl,gap_blank,whole_digits,fraction_digits,space_blank⟩
    have past_fraction := past_append fraction_digits
      (space_blank.head?_any (fun _ => isDigit_of_isBlank) rest)
    have past_space := (isSome_past_iff isBlank (space ++ rest)).mpr ⟨space,rest,space_blank,rfl⟩
    simp [isSectionHeading_append gap_blank whole_digits,past_fraction,past_space]

-- No kind of white space and no script of digits is special, and no title is needed.
example : IsNumbered "##\u00A0٣.٤\r".toList :=
  ⟨['\u00A0'],['٣'],['٤'],['\r'],[],by decide,by decide +kernel⟩

/-- The cell at a position opens a numbered section that has no motivation. -/
structure LacksMotivation (rules : Rules) (cells : List Cell) (position : Nat) (cell : Cell) :
    Prop where
  placed : cells[position]? = some cell
  prose : cell.kind = .markdown
  opens : ∃ line, IsFirstLine cell.source.toList line ∧ IsNumbered line
  silent : ¬ rules.motivationMarker.toList <:+: cell.source.toList
  unfollowed : ∀ ahead ∈ [1, 2], ∀ next, cells[position + ahead]? = some next →
    next.kind = .markdown → ¬ rules.motivationMarker.toList <:+: next.source.toList

/-- What is reported about the cell at a position: the line that opens the section, without the white
space around it. -/
def Reports (cells : List Cell) (position : Nat) (finding : Finding) : Prop :=
  ∃ cell line title, cells[position]? = some cell ∧ IsFirstLine cell.source.toList line ∧
    IsTrimmed line title ∧ finding = ⟨cell.index, .warning,
      "Cell " ++ toString cell.index ++ ": Section '" ++ String.ofList title ++
        "' may be missing a motivation paragraph"⟩

theorem opens_iff (cell : Cell) : (∃ line, IsFirstLine cell.source.toList line ∧ IsNumbered line) ↔
    isSectionHeading cell.firstLine = true := by
  rw [isSectionHeading_iff]
  constructor
  · rintro ⟨line,first,numbered⟩
    rwa [Cell.firstLine,first.firstLine_eq]
  · intro numbered
    exact ⟨cell.firstLine,isFirstLine_firstLine _,numbered⟩

theorem lacksMotivation_iff (rules : Rules) {cells : List Cell} {position : Nat} {cell : Cell}
    (placed : cells[position]? = some cell) :
    LacksMotivation rules cells position cell ↔
      (cell.isMarkdown && isSectionHeading cell.firstLine &&
        !isMotivated rules cell (cells.drop (position + 1))) = true := by
  have further (index : Nat) : (cells.drop (position + 1))[index]? =
      cells[position + (1 + index)]? := by
    rw [List.getElem?_drop,Nat.add_assoc]
  simp only [Bool.and_eq_true,Bool.not_eq_true',← Bool.not_eq_true,isMotivated_eq_true_iff,not_or,
    ← opens_iff,motivates, includes_iff_infix,Cell.isMarkdown,beq_iff_eq,
    Cell.proseAt?_eq_some_iff,further]
  constructor
  · rintro ⟨-,prose,opens,silent,unfollowed⟩
    refine ⟨⟨prose,opens⟩,silent,?_⟩
    rintro ⟨index,near,_,⟨next,found,markdown,rfl⟩,helps⟩
    have within : index < 2 := near
    have ahead : 1 + index ∈ [1, 2] := List.mem_pair.mpr (by omega)
    exact unfollowed _ ahead next found markdown helps
  · rintro ⟨⟨prose,opens⟩,silent,unmotivated⟩
    refine ⟨placed,prose,opens,silent,?_⟩
    intro ahead near next found markdown helps
    refine unmotivated ⟨ahead - 1,?_,_,⟨next,?_,markdown,rfl⟩,helps⟩
    · rcases List.mem_pair.mp near with rfl | rfl <;> decide
    · rcases List.mem_pair.mp near with rfl | rfl <;> exact found

/-- Where every item of a list gives one result or none, the results follow the items that give one. -/
theorem forall₂_filter_flatMap {α β : Type} {related : α → β → Prop} {gives : α → Bool}
    {results : α → List β} (items : List α)
    (one : ∀ item ∈ items, gives item = true → ∃ result, results item = [result] ∧ related item result)
    (none : ∀ item ∈ items, gives item = false → results item = []) :
    List.Forall₂ related (items.filter gives) (items.flatMap results) := by
  induction items with
  | nil => exact .nil
  | cons item items ih =>
    obtain ⟨one_here,one_later⟩ := List.forall_mem_cons.mp one
    obtain ⟨none_here,none_later⟩ := List.forall_mem_cons.mp none
    rw [List.flatMap_cons]
    cases given : gives item with
    | true =>
      obtain ⟨result,only,holds⟩ := one_here given
      rw [List.filter_cons_of_pos given,only]
      exact .cons holds (ih one_later none_later)
    | false =>
      rw [List.filter_cons_of_neg (by simp [given]),none_here given]
      exact ih one_later none_later

/-- One warning is given for each position of a section without a motivation, in the order of the
positions, and nothing else. -/
theorem findings_of_lacking (rules : Rules) (cells : List Cell) :
    ∃ positions : List Nat, positions.Pairwise (· < ·) ∧
      (∀ position, position ∈ positions ↔ ∃ cell, LacksMotivation rules cells position cell) ∧
      List.Forall₂ (Reports cells) positions (findings rules cells) := by
  classical
  let lacks position : Bool := ∃ cell, LacksMotivation rules cells position cell
  refine ⟨(List.range cells.length).filter lacks,?_,?_,?_⟩
  · exact List.pairwise_lt_range.filter _
  · intro position
    rw [List.mem_filter,List.mem_range,decide_eq_true_eq]
    constructor
    · exact fun listed => listed.2
    · rintro ⟨cell,lacking⟩
      obtain ⟨inside,-⟩ := List.getElem?_eq_some_iff.mp lacking.placed
      exact ⟨inside,cell,lacking⟩
  · have parts : findings rules cells = _ :=
      Check.findings_eq_flatMap_findingsAt .motivation rules false cells
    rw [parts]
    apply forall₂_filter_flatMap
    · intro position _ given
      obtain ⟨cell,lacking⟩ := of_decide_eq_true given
      have placed := lacking.placed
      have found : Check.motivation.findingsAt rules false cells position =
          [.warning cell.index (message cell)] := by
        simp only [Check.findingsAt,placed,Check.cellFindings]
        exact if_pos ((lacksMotivation_iff rules placed).mp lacking)
      have quoted := congrArg (Finding.warning cell.index) (message_eq cell)
      exact ⟨_,found,cell,cell.firstLine,_,placed,isFirstLine_firstLine _,isTrimmed_trim _,quoted⟩
    · intro position listed given
      have placed := List.getElem?_eq_getElem (List.mem_range.mp listed)
      simp only [Check.findingsAt,placed,Check.cellFindings]
      apply if_neg
      rw [← lacksMotivation_iff rules placed]
      exact fun lacking => of_decide_eq_false given ⟨_,lacking⟩

/-- The marker in code and in prose three positions on does not count, and white space and digits of
any script open a section. -/
theorem findings_of_lacking_distant :
    let cells : List Cell := [⟨0, .code, "## 1.1 A"⟩, ⟨7, .markdown, "##\u00A0٣.٤\t Bias\r\nText"⟩,
      ⟨8, .code, "**Motivation:**"⟩, ⟨9, .markdown, "## 3.5"⟩, ⟨10, .markdown, "**Motivation:** late"⟩]
    let warning : Finding := ⟨7, .warning,
      "Cell 7: Section '##\u00A0٣.٤\t Bias' may be missing a motivation paragraph"⟩
    findings .standard cells = [warning] ∧
    ∃ positions : List Nat, positions.Pairwise (· < ·) ∧
      (∀ position, position ∈ positions ↔
        ∃ cell, LacksMotivation .standard cells position cell) ∧
      List.Forall₂ (Reports cells) positions [warning] := by
  intro cells warning
  have found : findings .standard cells = [warning] := by decide +kernel
  refine ⟨found,?_⟩
  rw [← found]
  exact findings_of_lacking .standard cells

end NotebookLint.Style.Motivation
