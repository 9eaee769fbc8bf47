import Mathlib.Data.List.Forall2
import NotebookLint.Proofs.Style.Remark

/-! Locality of the checks. The findings of a check are put together from parts, one for each
position, and a part depends on the cell at its position alone. Only a motivation may also stand in
the prose at the next two positions. -/
namespace NotebookLint

/-- The source of a cell, if it is prose. -/
def Cell.prose? (cell : Cell) : Option String :=
  if cell.isMarkdown then some cell.source else none

/-- The prose at a position, if the cell there is prose. -/
def Cell.proseAt? (cells : List Cell) (position : Nat) : Option String :=
  cells[position]?.bind prose?

theorem Cell.proseAt?_eq_some_iff (cells : List Cell) (position : Nat) (source : String) :
    proseAt? cells position = some source ↔ ∃ cell, cells[position]? = some cell ∧
      cell.kind = .markdown ∧ cell.source = source := by
  simp [proseAt?,prose?,Option.bind_eq_some_iff,isMarkdown]

namespace Style.Motivation

theorem isMotivated_eq_true_iff (rules : Rules) (cell : Cell) (following : List Cell) :
    isMotivated rules cell following = true ↔ motivates rules cell = true ∨
      ∃ ahead < window, ∃ source, Cell.proseAt? following ahead = some source ∧
        Text.includes rules.motivationMarker.toList source.toList = true := by
  rw [isMotivated,Bool.or_eq_true,List.any_eq_true]
  apply or_congr_right
  constructor
  · rintro ⟨next,near,helps⟩
    obtain ⟨ahead,inside,rfl⟩ := List.mem_take_iff_getElem.mp near
    rw [Bool.and_eq_true] at helps
    have present : following[ahead]? = some following[ahead] :=
      List.getElem?_eq_getElem (by omega)
    refine ⟨ahead,by omega,following[ahead].source,?_,helps.2⟩
    exact (Cell.proseAt?_eq_some_iff _ _ _).mpr ⟨_,present,beq_iff_eq.mp helps.1,rfl⟩
  · rintro ⟨ahead,near,source,found,helps⟩
    obtain ⟨next,present,markdown,rfl⟩ := (Cell.proseAt?_eq_some_iff _ _ _).mp found
    obtain ⟨inside,rfl⟩ := List.getElem?_eq_some_iff.mp present
    refine ⟨_,List.mem_take_iff_getElem.mpr ⟨ahead,by omega,rfl⟩,?_⟩
    rw [Bool.and_eq_true]
    exact ⟨beq_iff_eq.mpr markdown,helps⟩

theorem isMotivated_congr (rules : Rules) (cell : Cell) {following others : List Cell}
    (alike : ∀ ahead < window, Cell.proseAt? following ahead = Cell.proseAt? others ahead) :
    isMotivated rules cell following = isMotivated rules cell others := by
  rw [Bool.eq_iff_iff,isMotivated_eq_true_iff,isMotivated_eq_true_iff]
  apply or_congr_right
  apply exists_congr
  intro ahead
  apply and_congr_right
  intro near
  rw [alike ahead near]

end Style.Motivation

namespace Check
open Style

theorem cellFindings_congr (check : Check) (rules : Rules) (advise : Bool) (cell : Cell)
    {following others : List Cell} (alike : check = .motivation → ∀ ahead < Motivation.window,
      Cell.proseAt? following ahead = Cell.proseAt? others ahead) :
    check.cellFindings rules advise cell following =
      check.cellFindings rules advise cell others := by
  cases check with
  | abbreviations | discipline | explanation => rfl
  | motivation =>
    simp only [cellFindings,Motivation.cellFindings,
      Motivation.isMotivated_congr rules cell (alike rfl)]

theorem cellFindings_eq_nil {check : Check} {cell : Cell} (elsewhere : cell.kind ≠ check.kind)
    (rules : Rules) (advise : Bool) (following : List Cell) :
    check.cellFindings rules advise cell following = [] := by
  obtain ⟨remarks,looked,said⟩ :=
    remarked_cellFindings check rules cell.kind cell.source following
  have silent : remarks = [] := by
    by_contra present
    exact elsewhere (looked present)
  subst silent
  exact said advise cell.index

/-- What a check finds about the cell at a position. -/
def findingsAt (check : Check) (rules : Rules) (advise : Bool) (cells : List Cell)
    (position : Nat) : List Finding :=
  match cells[position]? with
  | none => []
  | some cell => check.cellFindings rules advise cell (cells.drop (position + 1))

theorem findings_eq_flatMap_findingsAt (check : Check) (rules : Rules) (advise : Bool)
    (cells : List Cell) : check.findings rules advise cells =
      (List.range cells.length).flatMap (check.findingsAt rules advise cells) := by
  induction cells with
  | nil => exact findings_nil check rules advise
  | cons cell following ih =>
    rw [findings_cons,ih,List.length_cons,List.range_succ_eq_map,List.flatMap_cons,
      List.flatMap_map]
    rfl

theorem findingsAt_congr (check : Check) (rules : Rules) (advise : Bool) {cells others : List Cell}
    {position place : Nat} (same : cells[position]? = others[place]?)
    (ahead : check = .motivation →
      Cell.proseAt? cells (position + 1) = Cell.proseAt? others (place + 1) ∧
        Cell.proseAt? cells (position + 2) = Cell.proseAt? others (place + 2)) :
    check.findingsAt rules advise cells position = check.findingsAt rules advise others place := by
  unfold findingsAt
  rw [same]
  cases others[place]? with
  | none => rfl
  | some cell =>
    apply cellFindings_congr
    intro window near inside
    obtain ⟨next,second⟩ := ahead window
    unfold Cell.proseAt? at next second ⊢
    rw [List.getElem?_drop,List.getElem?_drop]
    match near,inside with
    | 0,_ => exact next
    | 1,_ => exact second

theorem findingsAt_set (check : Check) (rules : Rules) (advise : Bool) (cells : List Cell)
    (cell : Cell) {position place : Nat} (outside : place + 2 < position ∨ position < place) :
    check.findingsAt rules advise (cells.set position cell) place =
      check.findingsAt rules advise cells place := by
  apply findingsAt_congr
  · exact List.getElem?_set_ne (by omega)
  · intro _
    unfold Cell.proseAt?
    rw [List.getElem?_set_ne (by omega),List.getElem?_set_ne (by omega)]
    exact ⟨rfl,rfl⟩

theorem findings_append {check : Check} (apart : check ≠ .motivation) (rules : Rules)
    (advise : Bool) (cells more : List Cell) :
    check.findings rules advise (cells ++ more) =
      check.findings rules advise cells ++ check.findings rules advise more := by
  cases check with
  | motivation => contradiction
  | abbreviations | discipline | explanation => exact List.flatMap_append

private theorem getElem?_cases {R : Cell → Cell → Prop} {cells others : List Cell}
    (related : List.Forall₂ R cells others) (position : Nat) :
    cells[position]? = none ∧ others[position]? = none ∨
      ∃ cell other, cells[position]? = some cell ∧ others[position]? = some other ∧
        R cell other := by
  induction related generalizing position with
  | nil => exact .inl ⟨rfl,rfl⟩
  | cons head _ ih =>
    cases position with
    | zero => exact .inr ⟨_,_,rfl,rfl,head⟩
    | succ position => exact ih position

private theorem proseAt?_eq {R : Cell → Cell → Prop} {cells others : List Cell}
    (related : List.Forall₂ R cells others)
    (prose : ∀ cell other, R cell other → cell.prose? = other.prose?) (position : Nat) :
    Cell.proseAt? cells position = Cell.proseAt? others position := by
  unfold Cell.proseAt?
  rcases getElem?_cases related position with ⟨absent,gone⟩ | ⟨cell,other,here,there,alike⟩
  · rw [absent,gone]
  · rw [here,there]
    exact prose cell other alike

theorem findings_eq_of_others (check : Check) (rules : Rules) (advise : Bool)
    {cells others : List Cell} (related : List.Forall₂ (fun cell other =>
      cell = other ∨ cell.kind = .other ∧ other.kind = .other) cells others) :
    check.findings rules advise cells = check.findings rules advise others := by
  rw [findings_eq_flatMap_findingsAt,findings_eq_flatMap_findingsAt,related.length_eq]
  apply List.flatMap_congr
  intro position _
  have prose := proseAt?_eq related (by
    rintro cell other (rfl | ⟨strange,odd⟩)
    · rfl
    · simp [Cell.prose?,Cell.isMarkdown,strange,odd])
  rcases getElem?_cases related position with ⟨absent,gone⟩ | ⟨cell,other,here,there,alike⟩
  · simp only [findingsAt,absent,gone]
  · rcases alike with rfl | ⟨strange,odd⟩
    · exact findingsAt_congr check rules advise (here.trans there.symm)
        fun _ => ⟨prose _,prose _⟩
    · have unseen : .other ≠ check.kind := by cases check <;> decide
      simp only [findingsAt,here,there,cellFindings_eq_nil (strange ▸ unseen),
        cellFindings_eq_nil (odd ▸ unseen)]

/-- Cells that differ in their numbers get the same remarks, each under its own number. -/
theorem exists_remarks_of_renumbered (check : Check) (rules : Rules) (advise : Bool)
    {cells others : List Cell} (related : List.Forall₂ (fun cell other =>
      cell.kind = other.kind ∧ cell.source = other.source) cells others) (position : Nat) :
    ∃ remarks : List Remark, ∀ cell other,
      cells[position]? = some cell → others[position]? = some other →
        check.findingsAt rules advise cells position =
            remarks.flatMap (Remark.findings check.severity advise cell.index) ∧
          check.findingsAt rules advise others position =
            remarks.flatMap (Remark.findings check.severity advise other.index) := by
  have prose := proseAt?_eq related (by
    rintro cell other ⟨kind,source⟩
    unfold Cell.prose? Cell.isMarkdown
    rw [kind,source])
  rcases getElem?_cases related position with ⟨absent,-⟩ | ⟨cell,other,here,there,kind,source⟩
  · exact ⟨[],by simp [absent]⟩
  · obtain ⟨remarks,-,said⟩ := remarked_cellFindings check rules cell.kind cell.source
      (cells.drop (position + 1))
    refine ⟨remarks,?_⟩
    rintro _ _ first second
    obtain rfl := Option.some.inj (here.symm.trans first)
    obtain rfl := Option.some.inj (there.symm.trans second)
    simp only [findingsAt,here,there]
    refine ⟨said advise cell.index,?_⟩
    rw [← said advise other.index,kind,source]
    apply cellFindings_congr
    intro _ ahead _
    have next := prose (position + 1 + ahead)
    unfold Cell.proseAt? at next ⊢
    rw [List.getElem?_drop,List.getElem?_drop,next]

/-- The findings of a check are its findings position by position, and what it finds at a position
is settled by the cell there and, for the motivation of sections, by the prose at the next two. So
the other checks may be run on the pieces of a notebook, a cell that is replaced only matters from
two positions before it, what is neither prose nor code never matters, and the number of a cell is
seen nowhere but in the findings about it. -/
theorem findings_local (check : Check) (rules : Rules) (advise : Bool) :
    (∀ cells, check.findings rules advise cells =
      (List.range cells.length).flatMap (check.findingsAt rules advise cells)) ∧
    (∀ (cells others : List Cell) (position place : Nat), cells[position]? = others[place]? →
      (check = .motivation →
        Cell.proseAt? cells (position + 1) = Cell.proseAt? others (place + 1) ∧
          Cell.proseAt? cells (position + 2) = Cell.proseAt? others (place + 2)) →
      check.findingsAt rules advise cells position =
        check.findingsAt rules advise others place) ∧
    (check ≠ .motivation → ∀ cells more, check.findings rules advise (cells ++ more) =
      check.findings rules advise cells ++ check.findings rules advise more) ∧
    (∀ (cells : List Cell) (cell : Cell) (position place : Nat),
      place + 2 < position ∨ position < place →
      check.findingsAt rules advise (cells.set position cell) place =
        check.findingsAt rules advise cells place) ∧
    (∀ cells others : List Cell, List.Forall₂ (fun cell other =>
        cell = other ∨ cell.kind = .other ∧ other.kind = .other) cells others →
      check.findings rules advise cells = check.findings rules advise others) ∧
    (∀ cells others : List Cell, List.Forall₂ (fun cell other =>
        cell.kind = other.kind ∧ cell.source = other.source) cells others →
      ∀ position, ∃ remarks : List Remark, ∀ cell other,
        cells[position]? = some cell → others[position]? = some other →
          check.findingsAt rules advise cells position =
              remarks.flatMap (Remark.findings check.severity advise cell.index) ∧
            check.findingsAt rules advise others position =
              remarks.flatMap (Remark.findings check.severity advise other.index)) := by
  refine ⟨findings_eq_flatMap_findingsAt check rules advise,?_,?_,?_,?_,?_⟩
  · intro cells others position place same ahead
    exact findingsAt_congr check rules advise same ahead
  · intro apart cells more
    exact findings_append apart rules advise cells more
  · intro cells cell position place outside
    exact findingsAt_set check rules advise cells cell outside
  · intro cells others related
    exact findings_eq_of_others check rules advise related
  · intro cells others related position
    exact exists_remarks_of_renumbered check rules advise related position

/-- A motivation three positions after a heading comes too late, and one in a cell that is neither
prose nor code does not count. -/
theorem findingsAt_late_motivation :
    motivation.findings .standard false
        [⟨4, .markdown, "## 1.1 A"⟩, ⟨9, .code, "x"⟩, ⟨2, .other, "Motivation:"⟩] =
      [.warning 4 "Cell 4: Section '## 1.1 A' may be missing a motivation paragraph"] ∧
    motivation.findingsAt .standard false
        [⟨4, .markdown, "## 1.1 A"⟩, ⟨9, .code, "x"⟩, ⟨2, .other, ""⟩,
          ⟨7, .markdown, "Motivation:"⟩] 0 =
      [.warning 4 "Cell 4: Section '## 1.1 A' may be missing a motivation paragraph"] := by
  obtain ⟨-,-,-,replaced,unseen,-⟩ := findings_local motivation .standard false
  constructor
  · rw [unseen _ [⟨4, .markdown, "## 1.1 A"⟩, ⟨9, .code, "x"⟩, ⟨2, .other, ""⟩]
      (.cons (.inl rfl) (.cons (.inl rfl) (.cons (.inr ⟨rfl,rfl⟩) .nil)))]
    decide +kernel
  · have same := replaced [⟨4, .markdown, "## 1.1 A"⟩, ⟨9, .code, "x"⟩, ⟨2, .other, ""⟩,
      ⟨7, .markdown, "B"⟩] ⟨7, .markdown, "Motivation:"⟩ 3 0 (by decide)
    refine same.trans ?_
    decide +kernel

end Check
end NotebookLint
