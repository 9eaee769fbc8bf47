import NotebookLint.Proofs.Text.AsciiLetters

/-! The standard keywords that are looked for in lower case. None of them can be spelled by a letter
outside of ASCII, so that looking for them comes down to a search that takes no account of the case
of the letters of ASCII. -/
namespace NotebookLint.Rules
open Text

theorem mentionsAny_lowercase_iff_of_plain {keywords : List String}
    (plain : ∀ keyword ∈ keywords, IsPlainKeyword keyword.toList) (source : List Char) :
    mentionsAny keywords (Text.lowercase source) = true ↔
      ∃ keyword ∈ keywords, keyword.toList <:+: asciiLowercase source := by
  simp only [mentionsAny_iff,Text.lowercase]
  apply exists_congr
  intro keyword
  apply and_congr_right
  intro member
  exact (plain keyword member).infix_lowercaseAfter_iff false source

theorem standard_plottingKeywords_plain :
    ∀ keyword ∈ standard.plottingKeywords, IsPlainKeyword keyword.toList := by
  decide

theorem standard_skipKeywords_plain :
    ∀ keyword ∈ standard.skipKeywords, IsPlainKeyword keyword.toList := by
  decide

/-- By the standard rules a source plots, or needs no explanation, just if one of their keywords is in
it after each letter from A to Z, and nothing else, has been made small. -/
theorem standard_mentions_iff (source : String) :
    (standard.isPlotting source = true ↔
      ∃ keyword ∈ standard.plottingKeywords,
        keyword.toList <:+: source.toList.map Char.toLower) ∧
    (standard.skipsExplanation source = true ↔
      ∃ keyword ∈ standard.skipKeywords, keyword.toList <:+: source.toList.map Char.toLower) := by
  constructor
  · exact mentionsAny_lowercase_iff_of_plain standard_plottingKeywords_plain source.toList
  · exact mentionsAny_lowercase_iff_of_plain standard_skipKeywords_plain source.toList

end NotebookLint.Rules
