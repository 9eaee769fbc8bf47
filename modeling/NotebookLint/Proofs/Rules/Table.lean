import NotebookLint.Style.Abbreviations

/-! The table of abbreviations that a configuration leads to. Merging an entry keeps the terms that are
there in their order, puts a new term behind them, and changes what is looked up for its own term
only. So no term is ever there twice, and the last entry for a term decides on its expansion. -/
namespace NotebookLint.Rules

def terms (table : List Abbreviation) : List String :=
  table.map (·.term)

/-- The expansion in the first entry of a term. -/
def lookup? (term : String) (table : List Abbreviation) : Option String :=
  (table.find? (·.term == term)).map (·.expansion)

@[simp] theorem terms_cons (entry : Abbreviation) (table : List Abbreviation) :
    terms (entry :: table) = entry.term :: terms table :=
  rfl

theorem lookup?_cons (term : String) (entry : Abbreviation) (table : List Abbreviation) :
    lookup? term (entry :: table) =
      if entry.term = term then some entry.expansion else lookup? term table := by
  by_cases asked : entry.term = term <;> simp [lookup?,asked]

theorem lookup?_append (term : String) (table more : List Abbreviation) :
    lookup? term (table ++ more) = (lookup? term table).or (lookup? term more) := by
  induction table with
  | nil => rfl
  | cons entry table ih =>
    rw [List.cons_append,lookup?_cons,lookup?_cons,ih]
    split <;> rfl

theorem lookup?_of_mem {table : List Abbreviation} (distinct : (terms table).Nodup)
    {entry : Abbreviation} (listed : entry ∈ table) :
    lookup? entry.term table = some entry.expansion := by
  induction table with
  | nil => contradiction
  | cons first rest ih =>
    rw [terms_cons] at distinct
    obtain ⟨alone,distinct⟩ := List.nodup_cons.mp distinct
    rw [lookup?_cons]
    rcases List.mem_cons.mp listed with rfl | later
    · rw [if_pos rfl]
    · have other : first.term ≠ entry.term := by
        intro same
        rw [same] at alone
        exact alone (List.mem_map_of_mem later)
      rw [if_neg other]
      exact ih distinct later

/-- An old term stays where it is, and a new one comes last. -/
theorem terms_setExpansion (entry : Abbreviation) (table : List Abbreviation) :
    terms (setExpansion entry table) =
      if entry.term ∈ terms table then terms table else terms table ++ [entry.term] := by
  induction table with
  | nil => rfl
  | cons old rest ih =>
    by_cases same : old.term = entry.term
    · simp [setExpansion,same]
    · simp only [setExpansion,same,if_false,terms_cons,List.mem_cons,Ne.symm same,false_or,ih]
      split <;> rfl

theorem lookup?_setExpansion (term : String) (entry : Abbreviation) (table : List Abbreviation) :
    lookup? term (setExpansion entry table) =
      if entry.term = term then some entry.expansion else lookup? term table := by
  induction table with
  | nil => exact lookup?_cons term entry []
  | cons old rest ih =>
    by_cases same : old.term = entry.term
    · simp only [setExpansion,same,if_true,lookup?_cons]
      split <;> rfl
    · simp only [setExpansion,same,if_false,lookup?_cons,ih]
      by_cases asked : old.term = term
      · have other : entry.term ≠ term := asked ▸ Ne.symm same
        simp only [asked,other,if_true,if_false]
      · simp only [asked,if_false]

theorem nodup_terms_setExpansion (entry : Abbreviation) {table : List Abbreviation}
    (distinct : (terms table).Nodup) : (terms (setExpansion entry table)).Nodup := by
  rw [terms_setExpansion]
  split
  · exact distinct
  · rename_i new
    exact List.nodup_append.mpr ⟨distinct,List.nodup_cons.mpr ⟨List.not_mem_nil,List.nodup_nil⟩,by
      rintro _ old _ only rfl
      exact new (List.mem_singleton.mp only ▸ old)⟩

theorem nodup_terms_mergeAbbreviations (entries : List Abbreviation) {table : List Abbreviation}
    (distinct : (terms table).Nodup) : (terms (mergeAbbreviations table entries)).Nodup := by
  induction entries generalizing table with
  | nil => exact distinct
  | cons entry entries ih => exact ih (nodup_terms_setExpansion entry distinct)

/-- New terms come after the old ones, in the order of their first entries. -/
theorem terms_mergeAbbreviations (table entries : List Abbreviation) :
    terms (mergeAbbreviations table entries) =
      terms table ++ ((terms entries).removeAll (terms table)).eraseDups := by
  induction entries generalizing table with
  | nil => exact (List.append_nil _).symm
  | cons entry entries ih =>
    rw [mergeAbbreviations,List.foldl_cons,← mergeAbbreviations,ih,terms_setExpansion,terms_cons]
    by_cases old : entry.term ∈ terms table
    · simp [old,List.removeAll]
    · have apart (term : String) : (!(terms table ++ [entry.term]).elem term) =
          (!term == entry.term && !(terms table).elem term) := by
        rw [Bool.eq_iff_iff]
        simp [and_comm]
      simp only [old,if_false,List.removeAll,apart,List.filter_cons]
      simp [old,List.eraseDups_cons,List.filter_filter]

/-- The last entry of a term is the one that counts. -/
theorem lookup?_mergeAbbreviations (term : String) (table entries : List Abbreviation) :
    lookup? term (mergeAbbreviations table entries) =
      (lookup? term entries.reverse).or (lookup? term table) := by
  induction entries generalizing table with
  | nil => rfl
  | cons entry entries ih =>
    rw [mergeAbbreviations,List.foldl_cons,← mergeAbbreviations,ih,lookup?_setExpansion,
      List.reverse_cons,lookup?_append,lookup?_cons,Option.or_assoc]
    split <;> rfl

theorem nodup_terms_standard : (terms standard.abbreviations).Nodup := by
  decide

/-- Where no term has two entries, what is found about a term names what is looked up for it. -/
theorem exists_expansion_of_mem_findings {rules : Rules}
    (distinct : (terms rules.abbreviations).Nodup) {cells : List Cell} {finding : Finding}
    (reported : finding ∈ Style.Abbreviations.findings rules cells) :
    ∃ cell ∈ cells, ∃ term expansion, rules.expansion? term = some expansion ∧
      finding ∈ Style.Abbreviations.entryFindings cell ⟨term, expansion⟩ ∧
      finding = ⟨cell.index, .issue, "Cell " ++ toString cell.index ++ ": Found abbreviation '" ++
        term ++ "' (should be '" ++ expansion ++ "')"⟩ := by
  obtain ⟨cell,member,here⟩ := List.mem_flatMap.mp reported
  rw [Style.Abbreviations.cellFindings,List.mem_ite_nil_right] at here
  obtain ⟨entry,listed,found⟩ := List.mem_flatMap.mp here.2
  refine ⟨cell,member,entry.term,entry.expansion,lookup?_of_mem distinct listed,found,?_⟩
  rw [Style.Abbreviations.entryFindings,List.mem_ite_nil_left] at found
  obtain ⟨_,-,named⟩ := List.mem_map.mp found.2
  rw [← named,Style.Abbreviations.message_eq]
  rfl

/-- The table of a configuration holds no term twice. It begins with the standard terms, and the other
terms of the configuration follow in the order in which they come up first. The last entry of a
term in the configuration decides on its expansion, and without one the standard table does. So
this is also the expansion that every issue about the term names. -/
theorem abbreviations_ofOverrides (overrides : Overrides) :
    let entries := overrides.abbreviations.getD []
    let rules := ofOverrides overrides
    (terms rules.abbreviations).Nodup ∧
    terms rules.abbreviations = terms standard.abbreviations ++
      ((terms entries).removeAll (terms standard.abbreviations)).eraseDups ∧
    (∀ term, rules.expansion? term =
      ((entries.reverse.find? (·.term == term)).map (·.expansion)).or (standard.expansion? term)) ∧
    ∀ cells, ∀ finding ∈ Style.Abbreviations.findings rules cells,
      ∃ cell ∈ cells, ∃ term expansion, rules.expansion? term = some expansion ∧
        finding ∈ Style.Abbreviations.entryFindings cell ⟨term, expansion⟩ ∧
        finding = ⟨cell.index, .issue, "Cell " ++ toString cell.index ++
          ": Found abbreviation '" ++ term ++ "' (should be '" ++ expansion ++ "')"⟩ := by
  intro entries rules
  have distinct : (terms rules.abbreviations).Nodup :=
    nodup_terms_mergeAbbreviations entries nodup_terms_standard
  refine ⟨distinct,terms_mergeAbbreviations standard.abbreviations entries,?_,?_⟩
  · intro term
    exact lookup?_mergeAbbreviations term standard.abbreviations entries
  · exact fun _ _ => exists_expansion_of_mem_findings distinct

/-- The second entry for a term replaces the first one, and an issue names what it says. -/
theorem abbreviations_ofOverrides_repeated :
    let rules := ofOverrides ⟨some [⟨"MA", "Mean"⟩, ⟨"RV", "Random Vector"⟩, ⟨"MA", "Moving Average"⟩],
      none, none, none, none, none, none⟩
    let finding : Finding :=
      ⟨0, .issue, "Cell 0: Found abbreviation 'MA' (should be 'Moving Average')"⟩
    terms rules.abbreviations = terms standard.abbreviations ++ ["MA"] ∧
    rules.expansion? "MA" = some "Moving Average" ∧
    ∃ cell ∈ [⟨0, .markdown, "The MA"⟩], ∃ term expansion, rules.expansion? term = some expansion ∧
      finding ∈ Style.Abbreviations.entryFindings cell ⟨term, expansion⟩ ∧
      finding = ⟨cell.index, .issue, "Cell " ++ toString cell.index ++ ": Found abbreviation '" ++
        term ++ "' (should be '" ++ expansion ++ "')"⟩ := by
  intro rules finding
  obtain ⟨-,order,expansions,issues⟩ := abbreviations_ofOverrides
    ⟨some [⟨"MA", "Mean"⟩, ⟨"RV", "Random Vector"⟩, ⟨"MA", "Moving Average"⟩],
      none, none, none, none, none, none⟩
  exact ⟨order.trans (by decide),(expansions "MA").trans (by decide),
    issues [⟨0, .markdown, "The MA"⟩] finding (by decide +kernel)⟩

end NotebookLint.Rules
