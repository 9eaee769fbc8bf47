import NotebookLint.Proofs.Rules.Table
import NotebookLint.Proofs.Text.SmallLetters

/-! Rules as their own configuration. A configuration that sets everything to what it already led to
leads to the same rules again: its table already begins with the standard terms, so that merging
goes through both in step, and its keywords are lowered already. -/
namespace NotebookLint

/-- The configuration that sets everything as it is in some rules. -/
def Overrides.ofRules (rules : Rules) : Overrides where
  abbreviations := some rules.abbreviations
  plottingKeywords := some rules.plottingKeywords
  skipKeywords := some rules.skipKeywords
  statsKeywords := some rules.statsKeywords
  maxCodeLines := some rules.maxCodeLines
  commentMarker := some rules.commentMarker
  motivationMarker := some rules.motivationMarker

namespace Rules

theorem setExpansion_append {entry : Abbreviation} {done : List Abbreviation}
    (new : entry.term ∉ terms done) (table : List Abbreviation) :
    setExpansion entry (done ++ table) = done ++ setExpansion entry table := by
  induction done with
  | nil => rfl
  | cons old done ih =>
    rw [terms_cons,List.mem_cons,not_or] at new
    rw [List.cons_append,setExpansion,if_neg (Ne.symm new.1),ih new.2,List.cons_append]

theorem setExpansion_of_prefix {entry : Abbreviation} {entries table : List Abbreviation}
    (begins : terms table <+: terms (entry :: entries)) :
    setExpansion entry table = entry :: table.tail ∧ terms table.tail <+: terms entries := by
  cases table with
  | nil => exact ⟨rfl,List.nil_prefix⟩
  | cons old rest =>
    obtain ⟨same,begins⟩ := List.cons_prefix_cons.mp begins
    exact ⟨by simp [setExpansion,same],begins⟩

/-- Entries that begin with the terms of a table replace it. -/
theorem mergeAbbreviations_of_prefix (done : List Abbreviation) {entries table : List Abbreviation}
    (begins : terms table <+: terms entries) (distinct : (terms (done ++ entries)).Nodup) :
    mergeAbbreviations (done ++ table) entries = done ++ entries := by
  induction entries generalizing done table with
  | nil =>
    have empty : table = [] := List.map_eq_nil_iff.mp (List.prefix_nil.mp begins)
    rw [empty]
    rfl
  | cons entry entries ih =>
    have new : entry.term ∉ terms done := by
      intro old
      rw [terms,List.map_append,List.nodup_append] at distinct
      exact distinct.2.2 _ old _ List.mem_cons_self rfl
    obtain ⟨replaced,begins⟩ := setExpansion_of_prefix begins
    rw [mergeAbbreviations,List.foldl_cons,← mergeAbbreviations,setExpansion_append new,replaced,
      ← List.singleton_append,← List.append_assoc,ih _ begins]
    · simp
    · simpa using distinct

/-- Keywords that are set are lowered, and the standard ones are lower case already. -/
theorem map_lowercase_getD (keywords : Option (List String)) {usual : List String}
    (small : usual.map lowercase = usual) :
    ((keywords.map (·.map lowercase)).getD usual).map lowercase =
      (keywords.map (·.map lowercase)).getD usual := by
  cases keywords with
  | none => exact small
  | some keywords =>
    rw [Option.map_some,Option.getD_some,List.map_map]
    apply List.map_congr_left
    intro keyword _
    exact lowercase_lowercase keyword

/-- The rules of a configuration, set as a configuration, lead to themselves. -/
theorem ofOverrides_ofRules (overrides : Overrides) :
    ofOverrides (.ofRules (ofOverrides overrides)) = ofOverrides overrides := by
  have table : mergeAbbreviations standard.abbreviations (ofOverrides overrides).abbreviations =
      (ofOverrides overrides).abbreviations := by
    apply mergeAbbreviations_of_prefix []
    · exact ⟨_,(terms_mergeAbbreviations standard.abbreviations _).symm⟩
    · exact nodup_terms_mergeAbbreviations _ nodup_terms_standard
  have plotting : (ofOverrides overrides).plottingKeywords.map lowercase =
      (ofOverrides overrides).plottingKeywords :=
    map_lowercase_getD overrides.plottingKeywords (by decide +kernel)
  have skipped : (ofOverrides overrides).skipKeywords.map lowercase =
      (ofOverrides overrides).skipKeywords :=
    map_lowercase_getD overrides.skipKeywords (by decide +kernel)
  generalize ofOverrides overrides = rules at table plotting skipped ⊢
  simp only [ofOverrides,apply,Overrides.ofRules,Option.getD_some,Option.map_some,table,plotting,
    skipped]

end Rules
end NotebookLint
