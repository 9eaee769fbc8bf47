import NotebookLint.Proofs.Style.CommentLine

/-! The count of significant lines. Whether a line counts is settled by the line alone, and by what is
left of it when the white space at its ends is cut off. So a text counts what its lines count, in any
order, and lines that do not count may come and go. A text of one line counts one at most. -/
namespace NotebookLint
open Text

theorem toList_append_feed (line rest : String) :
    (line ++ "\n" ++ rest).toList = line.toList ++ '\n' :: rest.toList := by
  simp

namespace Rules

def isSignificant (rules : Rules) (line : List Char) : Bool :=
  !(trim line).isEmpty && !rules.isComment (trim line)

theorem isSignificant_eq_false_iff (rules : Rules) (line : List Char) :
    rules.isSignificant line = false ↔
      line.all isBlank = true ∨ rules.commentMarker.toList <+: trim line := by
  rw [← trim_eq_nil_iff,← List.isPrefixOf_iff_prefix,isSignificant,Bool.and_eq_false_iff,
    Bool.not_eq_false',Bool.not_eq_false',List.isEmpty_iff]
  rfl

theorem length_significantLines (rules : Rules) (source : String) :
    (rules.significantLines source).length =
      (lines source.toList).countP rules.isSignificant := by
  rw [significantLines,← List.countP_eq_length_filter,List.countP_map]
  rfl

theorem significantLines_append (rules : Rules) (source more : String) :
    rules.significantLines (source ++ "\n" ++ more) =
      rules.significantLines source ++ rules.significantLines more := by
  rw [significantLines,toList_append_feed,lines_append,List.map_append,List.filter_append]
  rfl

theorem length_significantLines_of_unbroken (rules : Rules) {source : String}
    (unbroken : '\n' ∉ source.toList) : (rules.significantLines source).length ≤ 1 := by
  rw [length_significantLines,lines_of_unbroken unbroken]
  exact List.countP_le_length

end Rules

namespace Text

/-- A part of a line with nothing but white space around it. -/
def IsPadded (core line : List Char) : Prop :=
  ∃ before after, line = before ++ core ++ after ∧ before.all isBlank = true ∧
    after.all isBlank = true

theorem IsPadded.trim_eq {core line : List Char} (padded : IsPadded core line) :
    trim line = trim core := by
  obtain ⟨before,after,rfl,before_blank,after_blank⟩ := padded
  rw [trim_concat_of_blank after_blank,trim_append_of_blank before_blank]

/-- Two lines that differ only in the white space at their ends. -/
def SpacedAlike (line other : List Char) : Prop :=
  ∃ core, IsPadded core line ∧ IsPadded core other

theorem SpacedAlike.trim_eq {line other : List Char} (alike : SpacedAlike line other) :
    trim line = trim other := by
  obtain ⟨core,first,second⟩ := alike
  rw [first.trim_eq,second.trim_eq]

theorem map_trim_of_spacedAlike {text others : List (List Char)}
    (alike : List.Forall₂ SpacedAlike text others) : text.map trim = others.map trim := by
  induction alike with
  | nil => rfl
  | cons first _ ih => rw [List.map_cons,List.map_cons,first.trim_eq,ih]

end Text

namespace Style.Discipline

section
variable (rules : Rules) {source other : String}

theorem length_significantLines_of_perm
    (shuffled : (lines source.toList).Perm (lines other.toList)) :
    (rules.significantLines source).length = (rules.significantLines other).length := by
  rw [rules.length_significantLines,rules.length_significantLines]
  exact shuffled.countP_eq rules.isSignificant

theorem significantLines_of_spacedAlike
    (alike : List.Forall₂ SpacedAlike (lines source.toList) (lines other.toList)) :
    rules.significantLines source = rules.significantLines other := by
  rw [Rules.significantLines,map_trim_of_spacedAlike alike]
  rfl

theorem length_significantLines_of_inserted {front inserted back : List (List Char)}
    (without : lines source.toList = front ++ back)
    (with_lines : lines other.toList = front ++ inserted ++ back)
    (nothing : ∀ line ∈ inserted,
      line.all isBlank = true ∨ rules.commentMarker.toList <+: trim line) :
    (rules.significantLines source).length = (rules.significantLines other).length := by
  have uncounted : inserted.countP rules.isSignificant = 0 := by
    rw [List.countP_eq_zero]
    intro line among
    rw [Bool.not_eq_true,rules.isSignificant_eq_false_iff]
    exact nothing line among
  rw [rules.length_significantLines,rules.length_significantLines,without,with_lines,
    List.countP_append,List.countP_append,List.countP_append,uncounted,Nat.add_zero]

end

section
variable {rules : Rules} (allowed : 1 ≤ rules.maxCodeLines) (advise : Bool)
include allowed

theorem cellFindings_of_unbroken {cell : Cell} (unbroken : '\n' ∉ cell.source.toList) :
    cellFindings rules advise cell = [] := by
  have few := rules.length_significantLines_of_unbroken unbroken
  have short : isTooLong rules cell = false := by
    rw [isTooLong,Bool.and_eq_false_iff,decide_eq_false_iff_not]
    right
    omega
  rw [cellFindings,short]
  rfl

theorem findings_of_pieces {cell : Cell} {pieces : List Cell}
    (split : pieces.map (·.source.toList) = lines cell.source.toList) :
    findings rules advise pieces = [] := by
  rw [findings,List.flatMap_eq_nil_iff]
  intro piece among
  have line : piece.source.toList ∈ lines cell.source.toList := by
    rw [← split]
    exact List.mem_map_of_mem among
  exact cellFindings_of_unbroken allowed advise (unbroken_of_mem_lines line)

end

/-- The count of a text is the sum over its lines, so neither their order matters nor the white space
at their ends, and blank lines and comments may be inserted anywhere. Where one line is allowed, a cell
that falls into cells of one line each leaves no finding behind. -/
theorem lineCount_linewise (rules : Rules) :
    (∀ source more : String, (rules.significantLines (source ++ "\n" ++ more)).length =
      (rules.significantLines source).length + (rules.significantLines more).length) ∧
    (∀ source other : String, (lines source.toList).Perm (lines other.toList) →
      (rules.significantLines source).length = (rules.significantLines other).length) ∧
    (∀ source other : String,
      List.Forall₂ SpacedAlike (lines source.toList) (lines other.toList) →
      (rules.significantLines source).length = (rules.significantLines other).length) ∧
    (∀ (source other : String) (front inserted back : List (List Char)),
      lines source.toList = front ++ back → lines other.toList = front ++ inserted ++ back →
      (∀ line ∈ inserted,
        line.all isBlank = true ∨ rules.commentMarker.toList <+: trim line) →
      (rules.significantLines source).length = (rules.significantLines other).length) ∧
    (1 ≤ rules.maxCodeLines → ∀ (advise : Bool) (cell : Cell) (before pieces after : List Cell),
      pieces.map (·.source.toList) = lines cell.source.toList →
      findings rules advise (before ++ pieces ++ after) =
        findings rules advise before ++ findings rules advise after) := by
  refine ⟨?sum,?order,?ends,?inserted,?pieces⟩
  case sum =>
    intro source more
    rw [rules.significantLines_append,List.length_append]
  case order =>
    intro source other shuffled
    exact length_significantLines_of_perm rules shuffled
  case ends =>
    intro source other alike
    rw [significantLines_of_spacedAlike rules alike]
  case inserted =>
    intro source other front inserted back without with_lines nothing
    exact length_significantLines_of_inserted rules without with_lines nothing
  case pieces =>
    intro allowed advise cell before pieces after split
    have silent := findings_of_pieces allowed advise split
    rw [findings] at silent
    rw [findings,List.flatMap_append,List.flatMap_append,silent,List.append_nil]
    rfl

/-- A marker in the middle of a line makes no comment, and a line that looks empty may hold white
space. -/
theorem lineCount_linewise_scattered :
    (Rules.standard.significantLines "\u00A0# a\n y # b\t\n\u2003\n  x").length =
        (Rules.standard.significantLines "x\ny # b").length ∧
      findings .standard true
          ([⟨0, .code, "x"⟩] ++ [⟨1, .code, "x"⟩, ⟨2, .code, "y # b"⟩, ⟨3, .code, ""⟩] ++
            [⟨4, .code, "z\nz\nz"⟩]) =
        findings .standard true [⟨0, .code, "x"⟩] ++
          findings .standard true [⟨4, .code, "z\nz\nz"⟩] := by
  obtain ⟨-,order,ends,inserted,pieces⟩ := lineCount_linewise .standard
  constructor
  · have trimmed := ends "\u00A0# a\n y # b\t\n\u2003\n  x" "# a\ny # b\n\nx"
      (.cons ⟨"# a".toList,⟨['\u00A0'],[],rfl,rfl,rfl⟩,[],[],rfl,rfl,rfl⟩
        (.cons ⟨"y # b".toList,⟨[' '],['\t'],rfl,rfl,rfl⟩,[],[],rfl,rfl,rfl⟩
          (.cons ⟨[],⟨['\u2003'],[],rfl,rfl,rfl⟩,[],[],rfl,rfl,rfl⟩
            (.cons ⟨['x'],⟨[' ', ' '],[],rfl,rfl,rfl⟩,[],[],rfl,rfl,rfl⟩ .nil))))
    have sorted := order "# a\ny # b\n\nx" "x\ny # b\n# a\n" (by decide)
    have added := inserted "x\ny # b" "x\ny # b\n# a\n" ["x".toList, "y # b".toList]
      ["# a".toList, []] [] rfl rfl (by decide)
    rw [trimmed,sorted,added]
  · exact pieces (by decide) true ⟨1, .code, "x\ny # b\n"⟩ _ _ _ rfl

end Style.Discipline
end NotebookLint
