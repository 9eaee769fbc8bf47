import NotebookLint.Text.Blank
import NotebookLint.Text.Lowercase
import NotebookLint.Text.Search

/-! The tables that the checks look things up in, and how a configuration is laid over them. -/
namespace NotebookLint

/-- A term that must not stand in prose, and what to write instead. -/
structure Abbreviation where
  term : String
  expansion : String
  deriving DecidableEq, Repr

/-- The rules of a run. The plotting and skip keywords are compared with the lower case of a source,
the keywords of statistics with the source itself. -/
structure Rules where
  abbreviations : List Abbreviation
  plottingKeywords : List String
  skipKeywords : List String
  statsKeywords : List String
  maxCodeLines : Nat
  commentMarker : String
  motivationMarker : String
  deriving DecidableEq, Repr

/-- What a configuration sets; a field that is `none` keeps what it was. -/
structure Overrides where
  abbreviations : Option (List Abbreviation)
  plottingKeywords : Option (List String)
  skipKeywords : Option (List String)
  statsKeywords : Option (List String)
  maxCodeLines : Option Nat
  commentMarker : Option String
  motivationMarker : Option String
  deriving DecidableEq, Repr

def lowercase (text : String) : String :=
  String.ofList (Text.lowercase text.toList)

namespace Rules

def standard : Rules where
  abbreviations :=
    [⟨"RV", "Random Variable"⟩,
     ⟨"PMF", "Probability Mass Function"⟩,
     ⟨"PDF", "Probability Density Function"⟩,
     ⟨"CDF", "Cumulative Distribution Function"⟩,
     ⟨"SE", "Standard Error"⟩,
     ⟨"SD", "Standard Deviation"⟩,
     ⟨"MSE", "Mean Squared Error"⟩,
     ⟨"MVUE", "Minimum Variance Unbiased Estimator"⟩,
     ⟨"CRLB", "Cramér-Rao Lower Bound"⟩,
     ⟨"MLE", "Maximum Likelihood Estimator"⟩,
     ⟨"LLN", "Law of Large Numbers"⟩,
     ⟨"CLT", "Central Limit Theorem"⟩,
     ⟨"IID", "Independent and Identically Distributed"⟩,
     ⟨"WLLN", "Weak Law of Large Numbers"⟩,
     ⟨"SLLN", "Strong Law of Large Numbers"⟩]
  plottingKeywords := ["plt.", "plot", "scatter", "hist", "xlabel", "ylabel", "title", "legend"]
  skipKeywords := ["plt.", "plot"]
  statsKeywords :=
    [".mean()", ".var()", ".std()", "np.mean", "np.var", "np.std", "stats.", "rvs(", "sem(",
     "ttest", "interval", "fisher_information", "bias", "mse", "estimates", "sample_mean",
     "standard_error"]
  maxCodeLines := 2
  commentMarker := "#"
  motivationMarker := "Motivation:"

def expansion? (rules : Rules) (term : String) : Option String :=
  (rules.abbreviations.find? (·.term == term)).map (·.expansion)

def mentionsAny (keywords : List String) (source : List Char) : Bool :=
  keywords.any fun keyword => Text.includes keyword.toList source

theorem mentionsAny_iff (keywords : List String) (source : List Char) :
    mentionsAny keywords source = true ↔ ∃ keyword ∈ keywords, keyword.toList <:+: source := by
  simp only [mentionsAny,List.any_eq_true, Text.includes_iff_infix]

def isPlotting (rules : Rules) (source : String) : Bool :=
  mentionsAny rules.plottingKeywords (Text.lowercase source.toList)

def skipsExplanation (rules : Rules) (source : String) : Bool :=
  mentionsAny rules.skipKeywords (Text.lowercase source.toList)

def hasStatistics (rules : Rules) (source : String) : Bool :=
  mentionsAny rules.statsKeywords source.toList

def isComment (rules : Rules) (line : List Char) : Bool :=
  rules.commentMarker.toList.isPrefixOf line

/-- The lines of a source that are neither blank nor comments. -/
def significantLines (rules : Rules) (source : String) : List (List Char) :=
  ((Text.lines source.toList).map Text.trim).filter fun line =>
    !line.isEmpty && !rules.isComment line

/-- A new expansion goes to the first entry with its term, or to a new last entry. -/
def setExpansion (entry : Abbreviation) : List Abbreviation → List Abbreviation
  | [] => [entry]
  | old :: rest =>
    if old.term = entry.term then { old with expansion := entry.expansion } :: rest
    else old :: setExpansion entry rest

def mergeAbbreviations (table entries : List Abbreviation) : List Abbreviation :=
  entries.foldl (fun table entry => setExpansion entry table) table

/-- Lays a configuration over rules: abbreviations are merged, everything else is replaced. -/
def apply (rules : Rules) (overrides : Overrides) : Rules where
  abbreviations := mergeAbbreviations rules.abbreviations (overrides.abbreviations.getD [])
  -- The keywords that are compared with lower case are themselves lowered.
  plottingKeywords :=
    (overrides.plottingKeywords.map (·.map lowercase)).getD rules.plottingKeywords
  skipKeywords := (overrides.skipKeywords.map (·.map lowercase)).getD rules.skipKeywords
  statsKeywords := overrides.statsKeywords.getD rules.statsKeywords
  maxCodeLines := overrides.maxCodeLines.getD rules.maxCodeLines
  commentMarker := overrides.commentMarker.getD rules.commentMarker
  motivationMarker := overrides.motivationMarker.getD rules.motivationMarker

/-- The rules of a configuration: laid over the standard ones. -/
def ofOverrides (overrides : Overrides) : Rules :=
  standard.apply overrides

end Rules
end NotebookLint
