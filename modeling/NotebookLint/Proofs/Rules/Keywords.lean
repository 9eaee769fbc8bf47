import NotebookLint.Proofs.Text.Surroundings
import NotebookLint.Rules.Source

/-! Keywords that are lowered before they are looked for in the lower case of a source. A keyword is
found where it stands unless a capital sigma in it becomes another small letter there. -/
namespace NotebookLint.Rules
open Text

/-- Whatever configuration sets the keyword, its rules know the source by it. -/
def Recognised (keyword source : String) : Prop :=
  ∀ overrides : Overrides,
    (keyword ∈ overrides.plottingKeywords.getD [] →
      (ofOverrides overrides).isPlotting source = true) ∧
    (keyword ∈ overrides.skipKeywords.getD [] →
      (ofOverrides overrides).skipsExplanation source = true)

theorem mentionsAny_lowercase_iff {keywords : List String} {source : List Char} :
    mentionsAny (keywords.map lowercase) source = true ↔
      ∃ keyword ∈ keywords, Text.lowercase keyword.toList <:+: source := by
  simp only [mentionsAny,List.any_map,List.any_eq_true,Function.comp_apply, includes_iff_infix,
    lowercase,String.toList_ofList]

theorem mentionsAny_of_mem {keyword : String} {source : List Char} {set : Option (List String)}
    (member : keyword ∈ set.getD []) (inside : Text.lowercase keyword.toList <:+: source)
    (usual : List String) : mentionsAny ((set.map (·.map lowercase)).getD usual) source = true := by
  cases set with
  | none => contradiction
  | some keywords => exact mentionsAny_lowercase_iff.mpr ⟨keyword,member,inside⟩

theorem mentionsAny_singleton {keyword : String} {source : List Char}
    (outside : ¬ Text.lowercase keyword.toList <:+: source) (usual : List String) :
    mentionsAny (((some [keyword]).map (·.map lowercase)).getD usual) source = false := by
  rw [Option.map_some,Option.getD_some,Bool.eq_false_iff,ne_eq,mentionsAny_lowercase_iff]
  rintro ⟨other,member,inside⟩
  rw [List.mem_singleton.mp member] at inside
  exact outside inside

theorem recognised_of_infix {keyword source : String}
    (inside : Text.lowercase keyword.toList <:+: Text.lowercase source.toList) :
    Recognised keyword source :=
  fun _ => ⟨(mentionsAny_of_mem · inside _),(mentionsAny_of_mem · inside _)⟩

/-- A keyword without a sigma that is open to its surroundings is recognised in every source that
contains it, and one with such a sigma is missed in some; but any keyword is recognised where it
stands apart from letters with case. -/
theorem recognised_unless_open (keyword : String) :
    (IsSettled keyword.toList → ∀ source : String, keyword.toList <:+: source.toList →
      Recognised keyword source) ∧
    (¬ IsSettled keyword.toList → ∃ source : String, keyword.toList <:+: source.toList ∧
      ∀ overrides : Overrides,
        (overrides.plottingKeywords = some [keyword] →
          (ofOverrides overrides).isPlotting source = false) ∧
        (overrides.skipKeywords = some [keyword] →
          (ofOverrides overrides).skipsExplanation source = false)) ∧
    ∀ (source : String) (front back : List Char),
      source.toList = front ++ keyword.toList ++ back →
        casedBehind false front = false → casedAhead back = false → Recognised keyword source := by
  refine ⟨?settled,?unsettled,?apart⟩
  case settled =>
    rintro settled source ⟨front,back,written⟩
    apply recognised_of_infix
    rw [← written]
    exact settled.lowercase_infix front back
  case unsettled =>
    intro unsettled
    obtain ⟨front,back,outside⟩ := exists_not_lowercase_infix unsettled
    refine ⟨String.ofList (front ++ keyword.toList ++ back),?_,fun overrides => ⟨?_,?_⟩⟩
    · rw [String.toList_ofList]
      exact ⟨front,back,rfl⟩
    · intro alone
      rw [isPlotting,ofOverrides,apply,alone,String.toList_ofList]
      exact mentionsAny_singleton outside standard.plottingKeywords
    · intro alone
      rw [skipsExplanation,ofOverrides,apply,alone,String.toList_ofList]
      exact mentionsAny_singleton outside standard.skipKeywords
  case apart =>
    intro source front back written before after
    apply recognised_of_infix
    rw [written]
    exact lowercase_infix_of_apart keyword.toList before after

/-- A keyword without a sigma is settled, and so is one with a sigma between letters with case; one with
a sigma at its end is not, and still found between brackets. -/
theorem recognised_unless_open_sigma :
    Recognised "Figure" "my_Figure()" ∧
      Recognised "ΑΣΑ" "ΒΑΣΑΒ" ∧
      (∃ source : String, "ΑΣ".toList <:+: source.toList ∧ ∀ overrides : Overrides,
        (overrides.plottingKeywords = some ["ΑΣ"] →
          (ofOverrides overrides).isPlotting source = false) ∧
        (overrides.skipKeywords = some ["ΑΣ"] →
          (ofOverrides overrides).skipsExplanation source = false)) ∧
      Recognised "ΑΣ" "(ΑΣ)" :=
  ⟨(recognised_unless_open "Figure").1 (isSettled_of_not_mem (by decide)) "my_Figure()"
      ⟨['m', 'y', '_'],['(', ')'],by decide⟩,
    (recognised_unless_open "ΑΣΑ").1 (by decide +kernel) "ΒΑΣΑΒ" ⟨['Β'],['Β'],by decide⟩,
    (recognised_unless_open "ΑΣ").2.1 (by decide +kernel),
    (recognised_unless_open "ΑΣ").2.2 "(ΑΣ)" ['('] [')'] (by decide) (by decide +kernel)
      (by decide +kernel)⟩

/-- The keyword is kept with the small sigma of an end, which is not the one within a word. -/
theorem keyword_missed_within_word :
    "ΑΣ".toList <:+: "ΑΣΑ".toList ∧
      (ofOverrides { Overrides.empty with plottingKeywords := some ["ΑΣ"] }).isPlotting "ΑΣΑ" =
        false ∧
      (ofOverrides { Overrides.empty with skipKeywords := some ["ΑΣ"] }).skipsExplanation "ΑΣΑ" =
        false :=
  ⟨⟨[],['Α'],by decide⟩,by decide +kernel⟩

end NotebookLint.Rules
