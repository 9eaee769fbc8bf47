import NotebookLint.Proofs.Text.WholeWord
import NotebookLint.Style.Abbreviations

/-! What the search for abbreviations finds when every term of the table is a word: one issue for
each whole word that spells a term outside of code, and nothing else. -/
namespace NotebookLint.Style.Abbreviations
open Text

/-- Every term of the table is non-empty and made of word characters. -/
def HasWordTerms (rules : Rules) : Prop :=
  ∀ entry ∈ rules.abbreviations, entry.term.toList ≠ [] ∧ entry.term.toList.all isWord

instance (rules : Rules) : Decidable (HasWordTerms rules) :=
  inferInstanceAs (Decidable (∀ entry ∈ rules.abbreviations, _))

/-- The issues of one entry are all alike, so that their number says everything about them. -/
theorem entryFindings_eq_bareWords (cell : Cell) (entry : Abbreviation)
    (present : entry.term.toList ≠ []) (spelled : entry.term.toList.all isWord) :
    entryFindings cell entry =
      (bareWords entry.term.toList cell.source.toList).map fun _ =>
        ⟨cell.index, .issue, "Cell " ++ toString cell.index ++ ": Found abbreviation '" ++
          entry.term ++ "' (should be '" ++ entry.expansion ++ "')"⟩ := by
  have named : entry.term.isEmpty = false := by simpa using present
  simp only [entryFindings,named,Bool.false_eq_true,if_false,List.map_const',
    length_bareOccurrences spelled present,message_eq,Finding.issue]

/-- With a table of words the findings are, cell by cell and entry by entry, one issue for each
whole word that spells the entry's term and has no backtick beside it. The standard table is one
of words. -/
theorem findings_eq_bareWords :
    (∀ rules, HasWordTerms rules → ∀ cells : List Cell,
      findings rules cells = (cells.filter (·.isMarkdown)).flatMap fun cell =>
        rules.abbreviations.flatMap fun entry =>
          (bareWords entry.term.toList cell.source.toList).map fun _ =>
            ⟨cell.index, .issue, "Cell " ++ toString cell.index ++ ": Found abbreviation '" ++
              entry.term ++ "' (should be '" ++ entry.expansion ++ "')"⟩) ∧
      HasWordTerms .standard := by
  refine ⟨?_,by decide⟩
  intro rules terms cells
  have each (cell : Cell) : rules.abbreviations.flatMap (entryFindings cell) =
      rules.abbreviations.flatMap fun entry =>
        (bareWords entry.term.toList cell.source.toList).map fun _ =>
          ⟨cell.index, .issue, "Cell " ++ toString cell.index ++ ": Found abbreviation '" ++
            entry.term ++ "' (should be '" ++ entry.expansion ++ "')"⟩ := by
    apply List.flatMap_congr
    intro entry member
    obtain ⟨present,spelled⟩ := terms entry member
    exact entryFindings_eq_bareWords cell entry present spelled
  induction cells with
  | nil => rfl
  | cons cell rest ih =>
    change cellFindings rules cell ++ findings rules rest = _
    cases prose : cell.isMarkdown with
    | true => simp only [cellFindings,prose,if_true,each,ih,List.filter_cons,List.flatMap_cons]
    | false => simp [cellFindings,prose,ih]

/-- A term inside of a longer word or beside a backtick is passed over. -/
theorem findings_of_two_terms :
    HasWordTerms { Rules.standard with
        abbreviations := [⟨"SE", "Standard Error"⟩, ⟨"MSE", "Mean Squared Error"⟩] } ∧
      findings { Rules.standard with
          abbreviations := [⟨"SE", "Standard Error"⟩, ⟨"MSE", "Mean Squared Error"⟩] }
          [⟨4, .markdown, "MSE,\x60SE\x60 SE"⟩, ⟨5, .code, "SE"⟩] =
        [⟨4, .issue, "Cell 4: Found abbreviation 'SE' (should be 'Standard Error')"⟩,
          ⟨4, .issue, "Cell 4: Found abbreviation 'MSE' (should be 'Mean Squared Error')"⟩] := by
  have terms : HasWordTerms { Rules.standard with
      abbreviations := [⟨"SE", "Standard Error"⟩, ⟨"MSE", "Mean Squared Error"⟩] } := by
    decide
  refine ⟨terms,?_⟩
  rw [findings_eq_bareWords.1 _ terms]
  decide +kernel

end NotebookLint.Style.Abbreviations
