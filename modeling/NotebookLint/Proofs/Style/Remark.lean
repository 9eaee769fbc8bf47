import Mathlib.Tactic.Choose
import NotebookLint.Lint

/-! What the checks say. All that a check finds about a cell comes from a list of remarks in which
neither the number of the cell nor the wish for advice has a part: the number is only written into
the findings, and advice only follows them. -/
namespace NotebookLint

/-- What there is to say about a cell, and the advice that goes with it, if any. -/
structure Remark where
  text : String
  advice : Option String

/-- A remark as it is reported about the cell of a number. -/
def Remark.findings (severity : Severity) (advise : Bool) (cell : Nat) (remark : Remark) :
    List Finding :=
  ⟨cell, severity, Finding.about cell remark.text⟩ ::
    if advise then remark.advice.toList.map fun text => ⟨cell, severity, Finding.advice text⟩
    else []

theorem Remark.mem_findings_iff {severity : Severity} {advise : Bool} {cell : Nat}
    {remark : Remark} {finding : Finding} : finding ∈ remark.findings severity advise cell ↔
      finding = ⟨cell, severity, Finding.about cell remark.text⟩ ∨
        advise = true ∧ ∃ text, remark.advice = some text ∧
          finding = ⟨cell, severity, Finding.advice text⟩ := by
  cases advise <;> simp [findings,eq_comm]

namespace Check
open Style

/-- The kind of the cells that a check looks at. -/
def kind : Check → CellKind
  | abbreviations | motivation => .markdown
  | discipline | explanation => .code

def severity : Check → Severity
  | abbreviations | discipline => .issue
  | motivation | explanation => .warning

/-- What a check finds about one cell, given the cells after it. -/
def cellFindings (check : Check) (rules : Rules) (advise : Bool) (cell : Cell)
    (following : List Cell) : List Finding :=
  match check with
  | abbreviations => Abbreviations.cellFindings rules cell
  | motivation => Motivation.cellFindings rules cell following
  | discipline => Discipline.cellFindings rules advise cell
  | explanation => Explanation.cellFindings rules advise cell

theorem findings_nil (check : Check) (rules : Rules) (advise : Bool) :
    check.findings rules advise [] = [] := by
  cases check <;> rfl

theorem findings_cons (check : Check) (rules : Rules) (advise : Bool) (cell : Cell)
    (following : List Cell) :
    check.findings rules advise (cell :: following) =
      check.cellFindings rules advise cell following ++ check.findings rules advise following := by
  cases check <;> rfl

/-- Whatever the number of a cell and whether or not advice is wanted, the findings about the cell
are those of one list of remarks, which is empty unless the check looks at cells of that kind. -/
def Remarked (check : Check) (kind : CellKind) (findings : Bool → Nat → List Finding) : Prop :=
  ∃ remarks : List Remark, (remarks ≠ [] → kind = check.kind) ∧ ∀ advise index,
    findings advise index = remarks.flatMap (Remark.findings check.severity advise index)

theorem remarked_of_silent (check : Check) (kind : CellKind) {findings : Bool → Nat → List Finding}
    (silent : ∀ advise index, findings advise index = []) : check.Remarked kind findings :=
  ⟨[],by simp,silent⟩

section
variable (rules : Rules) (kind : CellKind) (source : String)

private theorem remarked_abbreviations : abbreviations.Remarked kind fun _ index =>
    Abbreviations.cellFindings rules ⟨index, kind, source⟩ := by
  -- One remark for each occurrence, entry by entry.
  have entries (entry : Abbreviation) : ∃ remarks : List Remark, ∀ advise index,
      Abbreviations.entryFindings ⟨index, kind, source⟩ entry =
        remarks.flatMap (Remark.findings .issue advise index) := by
    obtain ⟨text,named⟩ : ∃ text, ∀ index,
        Abbreviations.message ⟨index, kind, source⟩ entry = Finding.about index text :=
      ⟨_,fun _ => rfl⟩
    unfold Abbreviations.entryFindings
    split
    · exact ⟨[],fun _ _ => rfl⟩
    · refine ⟨(Text.bareOccurrences entry.term.toList source.toList).map fun _ => ⟨text,none⟩,?_⟩
      intro advise index
      simp only [named,List.flatMap_map,Remark.findings,Option.toList_none,List.map_nil,ite_self]
      exact List.map_eq_flatMap
  by_cases prose : kind = .markdown
  · choose remarks spoken using entries
    refine ⟨rules.abbreviations.flatMap remarks,fun _ => prose,?_⟩
    intro advise index
    simp [Abbreviations.cellFindings,Cell.isMarkdown,prose,severity,List.flatMap_assoc,← spoken]
  · apply remarked_of_silent
    simp [Abbreviations.cellFindings,Cell.isMarkdown,prose]

private theorem remarked_motivation (following : List Cell) :
    motivation.Remarked kind fun _ index =>
      Motivation.cellFindings rules ⟨index, kind, source⟩ following := by
  obtain ⟨text,named⟩ : ∃ text, ∀ index,
      Motivation.message ⟨index, kind, source⟩ = Finding.about index text := by
    simp only [Motivation.message,Cell.firstLine]
    exact ⟨_,fun _ => rfl⟩
  let lacks := kind == .markdown &&
    Motivation.isSectionHeading (Text.firstLine source.toList) &&
      !Motivation.isMotivated rules ⟨0, kind, source⟩ following
  have decided (index : Nat) : Motivation.cellFindings rules ⟨index, kind, source⟩ following =
      if lacks then [.warning index (Motivation.message ⟨index, kind, source⟩)] else [] := rfl
  cases lacking : lacks with
  | true =>
    refine ⟨[⟨text,none⟩],fun _ => ?_,?_⟩
    · simp only [lacks,Bool.and_eq_true,beq_iff_eq] at lacking
      exact lacking.1.1
    · simp [decided,lacking,named,severity,Remark.findings,Finding.warning]
  | false =>
    apply remarked_of_silent
    simp [decided,lacking]

private theorem remarked_discipline : discipline.Remarked kind fun advise index =>
    Discipline.cellFindings rules advise ⟨index, kind, source⟩ := by
  obtain ⟨text,named⟩ : ∃ text, ∀ index,
      Discipline.message rules ⟨index, kind, source⟩ = Finding.about index text := by
    simp only [Discipline.message]
    exact ⟨_,fun _ => rfl⟩
  obtain ⟨advice,advised⟩ : ∃ advice, Discipline.advice = Finding.advice advice := ⟨_,rfl⟩
  have decided (index : Nat) : Discipline.isTooLong rules ⟨index, kind, source⟩ =
      Discipline.isTooLong rules ⟨0, kind, source⟩ := rfl
  cases long : Discipline.isTooLong rules ⟨0, kind, source⟩ with
  | true =>
    refine ⟨[⟨text,some advice⟩],fun _ => ?_,?_⟩
    · simp only [Discipline.isTooLong,Cell.isCode,Bool.and_eq_true,beq_iff_eq] at long
      exact long.1.1
    · simp [Discipline.cellFindings,decided,long,named,advised,severity,Remark.findings,
        Finding.issue]
  | false =>
    apply remarked_of_silent
    simp [Discipline.cellFindings,decided,long]

private theorem remarked_explanation : explanation.Remarked kind fun advise index =>
    Explanation.cellFindings rules advise ⟨index, kind, source⟩ := by
  have advised (gap : Explanation.Gap) : ∃ advice, gap.advice = Finding.advice advice := by
    cases gap <;> exact ⟨_,rfl⟩
  have decided (index : Nat) :
      Explanation.needsComment rules ⟨index, kind, source⟩ =
          Explanation.needsComment rules ⟨0, kind, source⟩ ∧
        Explanation.gap? rules ⟨index, kind, source⟩ = Explanation.gap? rules ⟨0, kind, source⟩ :=
    ⟨rfl,rfl⟩
  cases needed : Explanation.needsComment rules ⟨0, kind, source⟩ with
  | true =>
    cases found : Explanation.gap? rules ⟨0, kind, source⟩ with
    | some gap =>
      obtain ⟨advice,named⟩ := advised gap
      refine ⟨[⟨gap.message,some advice⟩],fun _ => ?_,?_⟩
      · simp only [Explanation.needsComment,Cell.isCode,Bool.and_eq_true,beq_iff_eq] at needed
        exact needed.1.1.1
      · simp [Explanation.cellFindings,Explanation.gapFindings,decided,needed,found,named,
          severity,Remark.findings,Finding.warning]
    | none =>
      apply remarked_of_silent
      simp [Explanation.cellFindings,decided,found]
  | false =>
    apply remarked_of_silent
    simp [Explanation.cellFindings,decided,needed]

end

theorem remarked_cellFindings (check : Check) (rules : Rules) (kind : CellKind) (source : String)
    (following : List Cell) : check.Remarked kind fun advise index =>
      check.cellFindings rules advise ⟨index, kind, source⟩ following := by
  cases check with
  | abbreviations => exact remarked_abbreviations rules kind source
  | motivation => exact remarked_motivation rules kind source following
  | discipline => exact remarked_discipline rules kind source
  | explanation => exact remarked_explanation rules kind source

/-- All findings of a check are remarks on cells of its kind. -/
theorem exists_remarks (check : Check) (rules : Rules) (cells : List Cell) :
    ∃ remarks : List (Cell × Remark),
      (∀ entry ∈ remarks, entry.1 ∈ cells ∧ entry.1.kind = check.kind) ∧ ∀ advise,
        check.findings rules advise cells =
          remarks.flatMap fun entry => entry.2.findings check.severity advise entry.1.index := by
  induction cells with
  | nil => exact ⟨[],by simp,fun advise => findings_nil check rules advise⟩
  | cons cell following ih =>
    obtain ⟨later,among,rest⟩ := ih
    obtain ⟨here,looked,first⟩ := remarked_cellFindings check rules cell.kind cell.source following
    refine ⟨here.map (cell, ·) ++ later,?_,?_⟩
    · intro entry member
      rcases List.mem_append.mp member with inside | after
      · obtain ⟨remark,present,rfl⟩ := List.mem_map.mp inside
        exact ⟨List.mem_cons_self,looked (List.ne_nil_of_mem present)⟩
      · exact ⟨List.mem_cons_of_mem _ (among entry after).1,(among entry after).2⟩
    · intro advise
      have spoken : check.cellFindings rules advise cell following = _ := first advise cell.index
      rw [findings_cons,spoken,rest,List.flatMap_append,List.flatMap_map]

theorem exists_remark_of_mem_findings {check : Check} {rules : Rules} {advise : Bool}
    {cells : List Cell} {finding : Finding} (found : finding ∈ check.findings rules advise cells) :
    ∃ cell ∈ cells, cell.kind = check.kind ∧
      ∃ remark : Remark, finding ∈ remark.findings check.severity advise cell.index := by
  obtain ⟨remarks,among,said⟩ := exists_remarks check rules cells
  rw [said,List.mem_flatMap] at found
  obtain ⟨entry,member,found⟩ := found
  exact ⟨entry.1,(among entry member).1,(among entry member).2,entry.2,found⟩

theorem severity_of_mem_findings {check : Check} {rules : Rules} {advise : Bool}
    {cells : List Cell} {finding : Finding} (found : finding ∈ check.findings rules advise cells) :
    finding.severity = check.severity := by
  obtain ⟨cell,-,-,remark,found⟩ := exists_remark_of_mem_findings found
  rcases Remark.mem_findings_iff.mp found with rfl | ⟨-,text,-,rfl⟩ <;> rfl

theorem exists_cell_of_mem_findings {check : Check} {rules : Rules} {advise : Bool}
    {cells : List Cell} {finding : Finding} (found : finding ∈ check.findings rules advise cells) :
    ∃ cell ∈ cells, cell.kind = check.kind ∧ cell.index = finding.cell := by
  obtain ⟨cell,member,looked,remark,found⟩ := exists_remark_of_mem_findings found
  refine ⟨cell,member,looked,?_⟩
  rcases Remark.mem_findings_iff.mp found with rfl | ⟨-,text,-,rfl⟩ <;> rfl

end Check
end NotebookLint
