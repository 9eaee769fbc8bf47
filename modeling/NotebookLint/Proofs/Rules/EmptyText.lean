import NotebookLint.Proofs.Rules.Agreement

/-! Rules of files on the empty text. What is found in the empty text is found in every text, so a
rule that matches it matches everything. A file is refused if it sets an empty marker, but not if
one of its lists of keywords holds an empty keyword. -/
namespace NotebookLint

namespace Text

theorem lowerChar_ne_nil (c : Char) : lowerChar c ≠ [] := by
  rw [lowerChar]
  split <;> exact List.cons_ne_nil _ _

theorem lowercase_eq_nil_iff (text : List Char) : lowercase text = [] ↔ text = [] := by
  cases text with
  | nil => exact Iff.rfl
  | cons c rest =>
    apply iff_of_false _ (List.cons_ne_nil c rest)
    rw [lowercase,lowercaseAfter]
    split
    · exact List.cons_ne_nil _ _
    · intro empty
      exact lowerChar_ne_nil c (List.append_eq_nil_iff.mp empty).1

end Text

namespace Rules
open Text

theorem mentionsAny_nil_iff (keywords : List String) :
    mentionsAny keywords [] = true ↔ "" ∈ keywords := by
  simp only [mentionsAny,List.any_eq_true, includes,List.isEmpty_iff,String.toList_eq_nil_iff,
    exists_eq_right]

theorem mentionsAny_of_nil {keywords : List String} (everywhere : mentionsAny keywords [] = true)
    (source : List Char) : mentionsAny keywords source = true := by
  rw [mentionsAny_iff]
  exact ⟨"",(mentionsAny_nil_iff keywords).mp everywhere,List.nil_infix⟩

theorem empty_mem_map_lowercase_iff (keywords : List String) :
    "" ∈ keywords.map lowercase ↔ "" ∈ keywords := by
  simp only [List.mem_map,lowercase,String.ofList_eq_empty_iff,lowercase_eq_nil_iff,
    String.toList_eq_nil_iff,exists_eq_right]

section
variable {usual : List String} (named : "" ∉ usual) (set : Option (List String))
include named

theorem empty_mem_getD_iff : "" ∈ set.getD usual ↔ ∃ keywords ∈ set, "" ∈ keywords := by
  cases set with
  | none => simpa using named
  | some keywords => simp

theorem empty_mem_lowered_iff :
    "" ∈ (set.map (·.map lowercase)).getD usual ↔ ∃ keywords ∈ set, "" ∈ keywords := by
  cases set with
  | none => simpa using named
  | some keywords => simpa using empty_mem_map_lowercase_iff keywords

end

theorem isPlotting_empty_iff (overrides : Overrides) :
    (ofOverrides overrides).isPlotting "" = true ↔
      ∃ keywords ∈ overrides.plottingKeywords, "" ∈ keywords :=
  (mentionsAny_nil_iff _).trans (empty_mem_lowered_iff (by decide) _)

theorem skipsExplanation_empty_iff (overrides : Overrides) :
    (ofOverrides overrides).skipsExplanation "" = true ↔
      ∃ keywords ∈ overrides.skipKeywords, "" ∈ keywords :=
  (mentionsAny_nil_iff _).trans (empty_mem_lowered_iff (by decide) _)

theorem hasStatistics_empty_iff (overrides : Overrides) :
    (ofOverrides overrides).hasStatistics "" = true ↔
      ∃ keywords ∈ overrides.statsKeywords, "" ∈ keywords :=
  (mentionsAny_nil_iff _).trans (empty_mem_getD_iff (by decide) _)

/-- What a file sets, whether or not its rules are accepted. -/
def fileOverrides? (path : String) (contents : FileContents) : Option Overrides :=
  contents.text.toOption.bind (FileFormat.ofPath path).overrides?

theorem fileOverrides?_toUTF8 (path text : String) :
    fileOverrides? path (.ok text.toUTF8) = (FileFormat.ofPath path).overrides? text := by
  rw [fileOverrides?,FileContents.text_toUTF8]
  rfl

section
variable {path : String} {contents : FileContents}

theorem ofFile_of_overrides {overrides : Overrides}
    (set : fileOverrides? path contents = some overrides) :
    ofFile path contents = match emptyMarker? overrides with
      | some marker => .error (.emptyMarker marker)
      | none => .ok (ofOverrides overrides) := by
  rw [fileOverrides?,Option.bind_eq_some_iff] at set
  obtain ⟨text,read,written⟩ := set
  cases given : contents.text with
  | error error =>
    rw [given] at read
    cases read
  | ok text =>
    rw [given] at read
    obtain rfl := Option.some.inj read
    cases marked : emptyMarker? overrides with
    | none => simp only [ofFile,given,ofText,written,marked]
    | some marker => simp only [ofFile,given,ofText,written,marked]

theorem exists_overrides_of_ofFile {rules : Rules} (loaded : ofFile path contents = .ok rules) :
    ∃ overrides, fileOverrides? path contents = some overrides ∧
      overrides.commentMarker ≠ some "" ∧ overrides.motivationMarker ≠ some "" ∧
      rules = ofOverrides overrides := by
  cases set : fileOverrides? path contents with
  | none =>
    rw [fileOverrides?] at set
    rw [ofFile] at loaded
    split at loaded
    · cases loaded
    · rename_i text given
      rw [given] at set
      have unread : (FileFormat.ofPath path).overrides? text = none := set
      rw [ofText,unread] at loaded
      cases loaded
  | some overrides =>
    rw [ofFile_of_overrides set,emptyMarker?] at loaded
    by_cases comment : overrides.commentMarker = some ""
    · rw [if_pos comment] at loaded
      cases loaded
    · by_cases motivation : overrides.motivationMarker = some ""
      · rw [if_neg comment,if_pos motivation] at loaded
        cases loaded
      · rw [if_neg comment,if_neg motivation] at loaded
        exact ⟨overrides,rfl,comment,motivation,(Except.ok.inj loaded).symm⟩

end

theorem getD_marker_ne_empty {usual : String} (named : usual ≠ "") {set : Option String}
    (marked : set ≠ some "") : set.getD usual ≠ "" := by
  cases set with
  | none => exact named
  | some marker =>
    intro empty
    exact marked (congrArg some empty)

theorem markers_ne_empty_of_ofFile {path : String} {contents : FileContents} {rules : Rules}
    (loaded : ofFile path contents = .ok rules) :
    rules.commentMarker ≠ "" ∧ rules.motivationMarker ≠ "" := by
  obtain ⟨overrides,-,comment,motivation,rfl⟩ := exists_overrides_of_ofFile loaded
  exact ⟨getD_marker_ne_empty (by decide) comment,getD_marker_ne_empty (by decide) motivation⟩

/-- A file that sets an empty marker is refused, so that in the rules of an accepted one neither marker
is found in the empty text. A keyword is, just if the file sets an empty one, and then the rule
applies to every source. -/
theorem ofFile_on_empty (path : String) (contents : FileContents) :
    (∀ overrides, fileOverrides? path contents = some overrides →
      overrides.commentMarker = some "" ∨ overrides.motivationMarker = some "" →
        ∃ marker, ofFile path contents = .error (.emptyMarker marker)) ∧
    ∀ rules, ofFile path contents = .ok rules →
      rules.isComment [] = false ∧ ¬ rules.motivationMarker.toList <:+: "".toList ∧
      ∃ overrides, fileOverrides? path contents = some overrides ∧
        (rules.isPlotting "" = true ↔ ∃ keywords ∈ overrides.plottingKeywords, "" ∈ keywords) ∧
        (rules.skipsExplanation "" = true ↔ ∃ keywords ∈ overrides.skipKeywords, "" ∈ keywords) ∧
        (rules.hasStatistics "" = true ↔ ∃ keywords ∈ overrides.statsKeywords, "" ∈ keywords) ∧
        (rules.isPlotting "" = true → ∀ source, rules.isPlotting source = true) ∧
        (rules.skipsExplanation "" = true → ∀ source, rules.skipsExplanation source = true) ∧
        (rules.hasStatistics "" = true → ∀ source, rules.hasStatistics source = true) := by
  constructor
  · intro overrides set empty
    rw [ofFile_of_overrides set,emptyMarker?]
    by_cases comment : overrides.commentMarker = some ""
    · rw [if_pos comment]
      exact ⟨.comment,rfl⟩
    · rw [if_neg comment,if_pos (empty.resolve_left comment)]
      exact ⟨.motivation,rfl⟩
  · intro rules loaded
    obtain ⟨commented,motivated⟩ := markers_ne_empty_of_ofFile loaded
    obtain ⟨overrides,set,-,-,rfl⟩ := exists_overrides_of_ofFile loaded
    refine ⟨?_,?_,overrides,set,isPlotting_empty_iff overrides,skipsExplanation_empty_iff overrides,
      hasStatistics_empty_iff overrides,?_,?_,?_⟩
    · rw [isComment,Bool.eq_false_iff,ne_eq,List.isPrefixOf_iff_prefix,List.prefix_nil,
        String.toList_eq_nil_iff]
      exact commented
    · intro inside
      exact motivated (String.toList_eq_nil_iff.mp (List.infix_nil.mp inside))
    all_goals
      intro everywhere source
      exact mentionsAny_of_nil everywhere _

/-- An empty marker is refused, but an empty keyword beside another one is kept and found in every
source. -/
theorem ofFile_on_empty_statistics :
    (∃ marker, ofFile "rules.toml" (.ok "motivation_marker = \"\"".toUTF8) =
      .error (.emptyMarker marker)) ∧
    ∃ rules, ofFile "rules.toml" (.ok "stats_keywords = [\"mean\", \"\"]".toUTF8) = .ok rules ∧
      rules.isComment [] = false ∧ ∀ source, rules.hasStatistics source = true := by
  have unmarked : fileOverrides? "rules.toml" (.ok "motivation_marker = \"\"".toUTF8) =
      some { Overrides.empty with motivationMarker := some "" } := by
    rw [fileOverrides?_toUTF8]
    decide +kernel
  have loaded : ofFile "rules.toml" (.ok "stats_keywords = [\"mean\", \"\"]".toUTF8) =
      .ok (ofOverrides { Overrides.empty with statsKeywords := some ["mean", ""] }) :=
    ofFile_eq_ok rfl (by decide +kernel) rfl
  obtain ⟨silent,-,_,-,-,-,-,-,-,everywhere⟩ := (ofFile_on_empty "rules.toml" _).2 _ loaded
  exact ⟨(ofFile_on_empty "rules.toml" _).1 _ unmarked (.inr rfl),_,loaded,silent,
    everywhere (by decide +kernel)⟩

/-- None of the three lists of keywords is looked through for an empty one. -/
theorem ofFile_keeps_empty_keywords :
    ∃ rules, ofFile "rules.toml" (.ok ("plotting_keywords = [\"\"]\n" ++
        "translation_skip_keywords = [\"\"]\nstats_keywords = [\"\"]\n").toUTF8) = .ok rules ∧
      rules.isPlotting "" = true ∧ rules.skipsExplanation "" = true ∧
      rules.hasStatistics "" = true := by
  refine ⟨.ofOverrides { Overrides.empty with
    plottingKeywords := some [""]
    skipKeywords := some [""]
    statsKeywords := some [""] },ofFile_eq_ok rfl (by decide +kernel) rfl,?_⟩
  decide +kernel

end Rules
end NotebookLint
