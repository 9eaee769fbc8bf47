import NotebookLint.Proofs.Rules.Agreement
import NotebookLint.Proofs.Text.Standing
import NotebookLint.Style.Abbreviations

/-! What the search for abbreviations finds of a term of any spelling. A finding always leads to a bare
place of the term, but a bare place may go unnoticed when a place beside a backtick reaches into it.
A term that begins or ends with other than a word character stands nowhere between blanks. -/
namespace NotebookLint.Style.Abbreviations
open Text

section
variable {entry : Abbreviation} (present : entry.term ≠ "") (cell : Cell)
include present

theorem entryFindings_ne_nil_iff :
    entryFindings cell entry ≠ [] ↔
      bareOccurrences entry.term.toList cell.source.toList ≠ [] := by
  simp [entryFindings,present]

theorem exists_bare_of_entryFindings (found : entryFindings cell entry ≠ []) :
    ∃ front back, StandsIn cell.source.toList front entry.term.toList back ∧
      IsBareBetween front back :=
  exists_bare_of_bareOccurrences (by simpa using present)
    ((entryFindings_ne_nil_iff present cell).mp found)

theorem entryFindings_ne_nil {front back : List Char}
    (stands : StandsIn cell.source.toList front entry.term.toList back)
    (bare : IsBareBetween front back)
    (clear : ∀ earlier later, StandsIn cell.source.toList earlier entry.term.toList later →
      earlier.length < front.length → front.length < earlier.length + entry.term.toList.length →
        IsBareBetween earlier later) :
    entryFindings cell entry ≠ [] :=
  (entryFindings_ne_nil_iff present cell).mpr
    (bareOccurrences_ne_nil (by simpa using present) stands bare clear)

end

theorem mem_findings_of_entryFindings {rules : Rules} {entry : Abbreviation} {cells : List Cell}
    {cell : Cell} (listed : entry ∈ rules.abbreviations) (member : cell ∈ cells)
    (prose : cell.isMarkdown = true) (found : entryFindings cell entry ≠ []) :
    ⟨cell.index, .issue, "Cell " ++ toString cell.index ++ ": Found abbreviation '" ++ entry.term ++
      "' (should be '" ++ entry.expansion ++ "')"⟩ ∈ findings rules cells := by
  obtain ⟨finding,here⟩ := List.exists_mem_of_ne_nil _ found
  have all := here
  simp only [entryFindings,List.mem_ite_nil_left,List.mem_map,message_eq] at all
  obtain ⟨-,_,-,rfl⟩ := all
  refine List.mem_flatMap.mpr ⟨cell,member,?_⟩
  rw [cellFindings,if_pos prose]
  exact List.mem_flatMap.mpr ⟨entry,listed,here⟩

/-- Whatever is said about an entry of the table in a cell of prose is found in the run, and something
is said only if the term stands bare in the source. It is then said, too, unless places beside a
backtick reach from the left into each bare place; so it always is, if no end of the term is a
beginning of it. -/
theorem entryFindings_bare {rules : Rules} {entry : Abbreviation}
    (listed : entry ∈ rules.abbreviations) (present : entry.term ≠ "") {cells : List Cell}
    {cell : Cell} (member : cell ∈ cells) (prose : cell.isMarkdown = true) :
    (entryFindings cell entry ≠ [] →
      ⟨cell.index, .issue, "Cell " ++ toString cell.index ++ ": Found abbreviation '" ++
        entry.term ++ "' (should be '" ++ entry.expansion ++ "')"⟩ ∈ findings rules cells ∧
      ∃ front back, StandsIn cell.source.toList front entry.term.toList back ∧
        IsBareBetween front back) ∧
    (∀ front back, StandsIn cell.source.toList front entry.term.toList back →
      IsBareBetween front back →
      (∀ earlier later, StandsIn cell.source.toList earlier entry.term.toList later →
        earlier.length < front.length → front.length < earlier.length + entry.term.toList.length →
          IsBareBetween earlier later) → entryFindings cell entry ≠ []) ∧
    ((∀ shift, 0 < shift → shift < entry.term.toList.length →
        ¬ entry.term.toList.drop shift <+: entry.term.toList) →
      (entryFindings cell entry ≠ [] ↔
        ∃ front back, StandsIn cell.source.toList front entry.term.toList back ∧
          IsBareBetween front back)) := by
  refine ⟨?_,?_,?_⟩
  · intro found
    exact ⟨mem_findings_of_entryFindings listed member prose found,
      exists_bare_of_entryFindings present cell found⟩
  · intro front back stands bare clear
    exact entryFindings_ne_nil present cell stands bare clear
  · intro apart
    refine ⟨exists_bare_of_entryFindings present cell,?_⟩
    rintro ⟨front,back,stands,bare⟩
    apply entryFindings_ne_nil present cell stands bare
    intro earlier later also before overlap
    -- Then an end of the term would be a beginning of it.
    have ending := drop_prefix_of_overlap (stands.written.symm.trans also.written) (Nat.le_of_lt before)
    exact absurd ending (apart _ (by omega) (by omega))

/-- A place beside a backtick does not hide a later one that it only comes close to. -/
theorem entryFindings_bare_beside_code :
    entryFindings ⟨3, .markdown, "\x60t-test t-test"⟩ ⟨"t-test", "test by Student"⟩ ≠ [] ∧
      ⟨3, .issue, "Cell 3: Found abbreviation 't-test' (should be 'test by Student')"⟩ ∈
        findings { Rules.standard with abbreviations := [⟨"t-test", "test by Student"⟩] }
          [⟨3, .markdown, "\x60t-test t-test"⟩] := by
  let entry : Abbreviation := ⟨"t-test", "test by Student"⟩
  have listed : entry ∈ { Rules.standard with abbreviations := [entry] }.abbreviations :=
    List.mem_singleton_self entry
  obtain ⟨said,unhidden,-⟩ := entryFindings_bare listed (by decide)
    (List.mem_singleton_self ⟨3, .markdown, "\x60t-test t-test"⟩) rfl
  have found : entryFindings ⟨3, .markdown, "\x60t-test t-test"⟩ entry ≠ [] := by
    apply unhidden "\x60t-test ".toList [] (by decide +kernel) (by decide)
    intro earlier later also before overlap
    have nowhere : ∀ place < "\x60t-test ".toList.length,
        "\x60t-test ".toList.length < place + "t-test".toList.length →
          "t-test".toList.isPrefixOf ("\x60t-test t-test".toList.drop place) = false := by
      decide +kernel
    have absent := nowhere earlier.length before overlap
    rw [isPrefixOf_drop_of_written also.written] at absent
    cases absent
  exact ⟨found,(said found).1⟩

/-- The place after the backtick is found and dropped, and with it the bare one that overlaps it. -/
theorem hidden_bare_term :
    StandsIn "\x60MA MA MA".toList "\x60MA ".toList "MA MA".toList [] ∧
      IsBareBetween "\x60MA ".toList [] ∧
      entryFindings ⟨0, .markdown, "\x60MA MA MA"⟩ ⟨"MA MA", "Moving Averages"⟩ = [] ∧
      findings (.ofOverrides { Overrides.empty with
          abbreviations := some [⟨"MA MA", "Moving Averages"⟩] })
        [⟨0, .markdown, "\x60MA MA MA"⟩] = [] := by
  decide +kernel

theorem isBoundary_of_delimited {neighbour : Option Char} (apart : neighbour ∈ [none, some ' '])
    (inside : Option Char) : isBoundary neighbour inside = inside.any isWord ∧
      isBoundary inside neighbour = inside.any isWord := by
  have blank : isWord ' ' = false := by decide
  rcases List.mem_pair.mp apart with rfl | rfl <;> simp [isBoundary,blank]

/-- Between blanks or ends of the source a term is found if it begins and ends with word characters,
and otherwise never, as long as it does not overlap itself there. -/
theorem findings_of_delimited {rules : Rules} {entry : Abbreviation}
    (listed : entry ∈ rules.abbreviations) (present : entry.term ≠ "") {cells : List Cell}
    {cell : Cell} (member : cell ∈ cells) (prose : cell.isMarkdown = true) {front back : List Char}
    (written : cell.source.toList = front ++ entry.term.toList ++ back)
    (before : front.getLast? ∈ [none, some ' ']) (after : back.head? ∈ [none, some ' '])
    (alone : ∀ earlier later, cell.source.toList = earlier ++ entry.term.toList ++ later →
      earlier.length < front.length + entry.term.toList.length →
        front.length < earlier.length + entry.term.toList.length → earlier.length = front.length) :
    ((∃ found ∈ occurrences entry.term.toList cell.source.toList, found.start = front.length) ↔
      entry.term.toList.head?.any isWord = true ∧ entry.term.toList.getLast?.any isWord = true) ∧
    (entry.term.toList.head?.any isWord = true → entry.term.toList.getLast?.any isWord = true →
      ⟨cell.index, .issue, "Cell " ++ toString cell.index ++ ": Found abbreviation '" ++
        entry.term ++ "' (should be '" ++ entry.expansion ++ "')"⟩ ∈ findings rules cells) := by
  have spelled : entry.term.toList ≠ [] := by simpa using present
  have opens := (isBoundary_of_delimited before entry.term.toList.head?).1
  have closes := (isBoundary_of_delimited after entry.term.toList.getLast?).2
  have stands (first : entry.term.toList.head?.any isWord = true)
      (last : entry.term.toList.getLast?.any isWord = true) :
      StandsIn cell.source.toList front entry.term.toList back :=
    ⟨written,opens.trans first,closes.trans last⟩
  refine ⟨⟨?_,?_⟩,?_⟩
  · rintro ⟨found,here,start⟩
    obtain ⟨earlier,later,also,rfl⟩ := exists_standsIn_of_mem_occurrences spelled here
    obtain ⟨rfl,rfl⟩ := also.eq_of_length written start
    exact ⟨opens.symm.trans also.opens,closes.symm.trans also.closes⟩
  · rintro ⟨first,last⟩
    obtain ⟨found,here,starts,reaches⟩ :=
      exists_found_of_standsIn spelled (stands first last)
    obtain ⟨earlier,later,also,rfl⟩ := exists_standsIn_of_mem_occurrences spelled here
    have positive : 0 < entry.term.toList.length := List.length_pos_iff.mpr spelled
    exact ⟨_,here,alone earlier later also.written (by dsimp only at starts; omega) reaches⟩
  · intro first last
    have bare : IsBareBetween front back := by
      constructor
      · rcases List.mem_pair.mp before with none | blank <;> simp_all
      · rcases List.mem_pair.mp after with none | blank <;> simp_all
    apply mem_findings_of_entryFindings listed member prose
    apply entryFindings_ne_nil present cell (stands first last) bare
    intro earlier later also less overlap
    have same := alone earlier later also.written (by omega) overlap
    omega

/-- A file of rules may set a term with a mark inside, and the term is found at the end of a source. -/
theorem findings_of_delimited_file :
    Rules.ofFile "rules.toml"
        (.ok "abbreviations = [\x7bterm = \"k-NN\", expansion = \"k Nearest\"\x7d]".toUTF8) =
      .ok (.ofOverrides { Overrides.empty with abbreviations := some [⟨"k-NN", "k Nearest"⟩] }) ∧
    (∃ found ∈ occurrences "k-NN".toList "the k-NN".toList, found.start = 4) ∧
    ⟨2, .issue, "Cell 2: Found abbreviation 'k-NN' (should be 'k Nearest')"⟩ ∈
      findings (.ofOverrides { Overrides.empty with abbreviations := some [⟨"k-NN", "k Nearest"⟩] })
        [⟨2, .markdown, "the k-NN"⟩] := by
  refine ⟨Rules.ofFile_eq_ok rfl (by decide +kernel) rfl,?_⟩
  have listed : ⟨"k-NN", "k Nearest"⟩ ∈ (Rules.ofOverrides { Overrides.empty with
      abbreviations := some [⟨"k-NN", "k Nearest"⟩] }).abbreviations := by
    decide +kernel
  have once : ∀ place < 8, "k-NN".toList.isPrefixOf ("the k-NN".toList.drop place) = true →
      place = 4 := by
    decide +kernel
  obtain ⟨here,reported⟩ := findings_of_delimited listed (by decide)
    (List.mem_singleton_self ⟨2, .markdown, "the k-NN"⟩) rfl
    (by decide +kernel : "the k-NN".toList = "the ".toList ++ "k-NN".toList ++ [])
    (by decide) (by decide) (by
      intro earlier later also before _
      exact once earlier.length before (isPrefixOf_drop_of_written also))
  exact ⟨here.mpr (by decide +kernel),reported (by decide +kernel) (by decide +kernel)⟩

/-- A file of rules may set a term that ends with a dot, but between blanks the term is not found. -/
theorem dotted_term_unfound :
    Rules.ofFile "rules.toml"
        (.ok "abbreviations = [\x7bterm = \"e.g.\", expansion = \"for example\"\x7d]".toUTF8) =
      .ok (.ofOverrides { Overrides.empty with abbreviations := some [⟨"e.g.", "for example"⟩] }) ∧
    ⟨"e.g.", "for example"⟩ ∈ (Rules.ofOverrides { Overrides.empty with
      abbreviations := some [⟨"e.g.", "for example"⟩] }).abbreviations ∧
    trim "e.g.".toList = "e.g.".toList ∧
    "see e.g. this".toList = "see ".toList ++ "e.g.".toList ++ " this".toList ∧
    (∀ earlier later, "see e.g. this".toList = earlier ++ "e.g.".toList ++ later →
      earlier.length = "see ".toList.length) ∧
    findings (.ofOverrides { Overrides.empty with
      abbreviations := some [⟨"e.g.", "for example"⟩] }) [⟨0, .markdown, "see e.g. this"⟩] = [] := by
  refine ⟨Rules.ofFile_eq_ok rfl (by decide +kernel) rfl,by decide +kernel,by decide +kernel,
    by decide +kernel,?_,by decide +kernel⟩
  intro earlier later written
  have once : ∀ place < 14, "e.g.".toList.isPrefixOf ("see e.g. this".toList.drop place) = true →
      place = "see ".toList.length := by
    decide +kernel
  have inside : earlier.length < 14 := by
    have size := congrArg List.length written
    rw [List.length_append,List.length_append] at size
    exact Nat.lt_of_le_of_lt (by omega) (by decide +kernel : "see e.g. this".toList.length < 14)
  exact once earlier.length inside (isPrefixOf_drop_of_written written)

end NotebookLint.Style.Abbreviations
