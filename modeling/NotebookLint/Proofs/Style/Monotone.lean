import Mathlib.Data.List.Basic
import Mathlib.Data.List.Flatten
import NotebookLint.Lint

/-! Rules that are stricter or laxer than others. Every table and every limit works in one direction:
what the laxer rules find, the stricter ones find in the same order. The table of abbreviations is
looked through entry by entry, so with some of its entries go their findings, and no others. -/
namespace NotebookLint
open Text

namespace Rules

theorem mentionsAny_of_subset {keywords others : List String} (more : keywords ⊆ others)
    {source : List Char} (mentioned : mentionsAny keywords source = true) :
    mentionsAny others source = true := by
  rw [mentionsAny_iff] at mentioned ⊢
  obtain ⟨keyword,member,inside⟩ := mentioned
  exact ⟨keyword,more member,inside⟩

theorem mentionsAny_eq_false_of_subset {keywords others : List String} (more : keywords ⊆ others)
    {source : List Char} (unmentioned : mentionsAny others source = false) :
    mentionsAny keywords source = false := by
  rw [← Bool.not_eq_true] at unmentioned ⊢
  intro mentioned
  exact unmentioned (mentionsAny_of_subset more mentioned)

end Rules

namespace Style

theorem ite_sublist_of_imp {α : Type} {found : List α} {first second : Bool}
    (implied : first = true → second = true) :
    (if first then found else []).Sublist (if second then found else []) := by
  cases first with
  | false => exact List.nil_sublist _
  | true => rw [implied rfl]

section
variable {rules laxer : Rules}

namespace Discipline

theorem isTooLong_of_laxer (keywords : rules.plottingKeywords ⊆ laxer.plottingKeywords)
    (limit : rules.maxCodeLines ≤ laxer.maxCodeLines)
    (marker : laxer.commentMarker = rules.commentMarker) {cell : Cell}
    (long : isTooLong laxer cell = true) : isTooLong rules cell = true := by
  have lines : laxer.significantLines cell.source = rules.significantLines cell.source := by
    unfold Rules.significantLines Rules.isComment
    rw [marker]
  simp only [isTooLong,Bool.and_eq_true,Bool.not_eq_true',decide_eq_true_eq,lines] at long ⊢
  obtain ⟨⟨code,plain⟩,many⟩ := long
  exact ⟨⟨code,Rules.mentionsAny_eq_false_of_subset keywords plain⟩,Nat.lt_of_le_of_lt limit many⟩

/-- The message names the limit, but the cells that are reported are the same under any limit. -/
theorem map_cell_cellFindings (rules : Rules) (advise : Bool) (cell : Cell) :
    (cellFindings rules advise cell).map (·.cell) =
      if isTooLong rules cell then cell.index :: if advise then [cell.index] else [] else [] := by
  unfold cellFindings
  cases isTooLong rules cell with
  | false => rfl
  | true => cases advise <;> rfl

theorem map_cell_findings_sublist (keywords : rules.plottingKeywords ⊆ laxer.plottingKeywords)
    (limit : rules.maxCodeLines ≤ laxer.maxCodeLines)
    (marker : laxer.commentMarker = rules.commentMarker) (advise : Bool) (cells : List Cell) :
    ((findings laxer advise cells).map (·.cell)).Sublist
      ((findings rules advise cells).map (·.cell)) := by
  simp only [findings,List.map_flatMap,map_cell_cellFindings]
  apply List.Sublist.flatMap_right
  intro cell _
  apply ite_sublist_of_imp
  exact isTooLong_of_laxer keywords limit marker

end Discipline

namespace Explanation

theorem needsComment_of_laxer (skips : rules.skipKeywords ⊆ laxer.skipKeywords)
    (statistics : laxer.statsKeywords ⊆ rules.statsKeywords) {cell : Cell}
    (needed : needsComment laxer cell = true) : needsComment rules cell = true := by
  simp only [needsComment,Bool.and_eq_true,Bool.not_eq_true'] at needed ⊢
  obtain ⟨⟨written,checked⟩,mentioned⟩ := needed
  exact ⟨⟨written,Rules.mentionsAny_eq_false_of_subset skips checked⟩,
    Rules.mentionsAny_of_subset statistics mentioned⟩

theorem findings_sublist (skips : rules.skipKeywords ⊆ laxer.skipKeywords)
    (statistics : laxer.statsKeywords ⊆ rules.statsKeywords)
    (marker : laxer.commentMarker = rules.commentMarker) (advise : Bool) (cells : List Cell) :
    (findings laxer advise cells).Sublist (findings rules advise cells) := by
  apply List.Sublist.flatMap_right
  intro cell _
  have gap : gap? laxer cell = gap? rules cell := by
    unfold gap? Rules.isComment
    rw [marker]
  unfold cellFindings
  rw [gap]
  apply ite_sublist_of_imp
  exact needsComment_of_laxer skips statistics

end Explanation

namespace Motivation

theorem motivates_of_shorter
    (shorter : laxer.motivationMarker.toList <:+: rules.motivationMarker.toList) {cell : Cell}
    (helps : motivates rules cell = true) : motivates laxer cell = true := by
  rw [motivates, includes_iff_infix] at helps ⊢
  exact shorter.trans helps

theorem isMotivated_of_shorter
    (shorter : laxer.motivationMarker.toList <:+: rules.motivationMarker.toList) {cell : Cell}
    {following : List Cell} (motivated : isMotivated rules cell following = true) :
    isMotivated laxer cell following = true := by
  simp only [isMotivated,Bool.or_eq_true,List.any_eq_true,Bool.and_eq_true] at motivated ⊢
  obtain helps | ⟨next,near,markdown,helps⟩ := motivated
  · exact .inl (motivates_of_shorter shorter helps)
  · exact .inr ⟨next,near,markdown,motivates_of_shorter shorter helps⟩

theorem findings_sublist
    (shorter : laxer.motivationMarker.toList <:+: rules.motivationMarker.toList)
    (cells : List Cell) : (findings laxer cells).Sublist (findings rules cells) := by
  induction cells with
  | nil => exact List.nil_sublist _
  | cons cell following ih =>
    rw [findings,findings]
    apply List.Sublist.append _ ih
    unfold cellFindings
    apply ite_sublist_of_imp
    simp only [Bool.and_eq_true,Bool.not_eq_true']
    intro ⟨heading,lacks⟩
    refine ⟨heading,?_⟩
    rw [← Bool.not_eq_true] at lacks ⊢
    intro motivated
    exact lacks (isMotivated_of_shorter shorter motivated)

end Motivation
end

namespace Abbreviations

/-- The findings about a cell by a table, each with the entry that it is emitted for. -/
def tracedEntries (table : List Abbreviation) (cell : Cell) : List (Abbreviation × Finding) :=
  table.flatMap fun entry => (entryFindings cell entry).map (entry, ·)

def traced (rules : Rules) (cells : List Cell) : List (Abbreviation × Finding) :=
  cells.flatMap fun cell =>
    if cell.isMarkdown then tracedEntries rules.abbreviations cell else []

theorem map_snd_traced (rules : Rules) (cells : List Cell) :
    (traced rules cells).map Prod.snd = findings rules cells := by
  rw [traced,findings,List.map_flatMap]
  apply List.flatMap_congr
  intro cell _
  unfold cellFindings
  split
  · simp only [tracedEntries,List.map_flatMap,List.map_map,Function.comp_def,List.map_id']
  · rfl

theorem filter_tracedEntries (keep : Abbreviation → Bool) (table : List Abbreviation)
    (cell : Cell) : (tracedEntries table cell).filter (fun found => keep found.1) =
      tracedEntries (table.filter keep) cell := by
  unfold tracedEntries
  induction table with
  | nil => rfl
  | cons entry table ih =>
    rw [List.flatMap_cons,List.filter_append,ih,List.filter_map]
    cases kept : keep entry with
    | true => simp [Function.comp_def,kept]
    | false => simp [Function.comp_def,kept]

theorem filter_traced (keep : Abbreviation → Bool) (rules : Rules) (cells : List Cell) :
    (traced rules cells).filter (fun found => keep found.1) =
      traced { rules with abbreviations := rules.abbreviations.filter keep } cells := by
  rw [traced,traced,List.filter_flatMap]
  apply List.flatMap_congr
  intro cell _
  split
  · exact filter_tracedEntries keep rules.abbreviations cell
  · rfl

theorem filter_insert_new {before after : List Abbreviation} {entry : Abbreviation}
    (new : ∀ old ∈ before ++ after, old.term ≠ entry.term) :
    (before ++ entry :: after).filter (·.term != entry.term) = before ++ after := by
  have others : (before ++ after).filter (·.term != entry.term) = before ++ after := by
    apply List.filter_eq_self.mpr
    intro old listed
    exact bne_iff_ne.mpr (new old listed)
  rw [List.filter_append,List.filter_cons_of_neg (by simp),← List.filter_append,others]

end Abbreviations

/-- More plotting or skip keywords, fewer keywords of statistics, a higher limit and a shorter marker
make a laxer rule, and a new term a stricter one that only adds the findings of its entry. -/
theorem findings_monotone (rules : Rules) (advise : Bool) (cells : List Cell) :
    (∀ (keywords : List String) (limit : Nat), rules.plottingKeywords ⊆ keywords →
      rules.maxCodeLines ≤ limit →
      ((Discipline.findings
        { rules with plottingKeywords := keywords, maxCodeLines := limit } advise cells).map
          (·.cell)).Sublist ((Discipline.findings rules advise cells).map (·.cell))) ∧
    (∀ keywords : List String, rules.skipKeywords ⊆ keywords →
      (Explanation.findings { rules with skipKeywords := keywords } advise cells).Sublist
        (Explanation.findings rules advise cells)) ∧
    (∀ keywords : List String, rules.statsKeywords ⊆ keywords →
      (Explanation.findings rules advise cells).Sublist
        (Explanation.findings { rules with statsKeywords := keywords } advise cells)) ∧
    (∀ marker : String, marker.toList <:+: rules.motivationMarker.toList →
      (Motivation.findings { rules with motivationMarker := marker } cells).Sublist
        (Motivation.findings rules cells)) ∧
    (∀ (before after : List Abbreviation) (entry : Abbreviation),
      rules.abbreviations = before ++ after →
      (∀ old ∈ rules.abbreviations, old.term ≠ entry.term) →
      (Abbreviations.findings rules cells).Sublist
        (Abbreviations.findings { rules with abbreviations := before ++ entry :: after } cells) ∧
      (Abbreviations.traced { rules with abbreviations := before ++ entry :: after } cells).map
          Prod.snd =
        Abbreviations.findings { rules with abbreviations := before ++ entry :: after } cells ∧
      ((Abbreviations.traced { rules with abbreviations := before ++ entry :: after } cells).filter
          (fun found => found.1.term != entry.term)).map Prod.snd =
        Abbreviations.findings rules cells) := by
  refine ⟨?plotting,?skipping,?statistics,?marker,?entry⟩
  case plotting =>
    intro keywords limit more raised
    apply Discipline.map_cell_findings_sublist
    · exact more
    · exact raised
    · rfl
  case skipping =>
    intro keywords more
    apply Explanation.findings_sublist
    · exact more
    · exact List.Subset.refl _
    · rfl
  case statistics =>
    intro keywords more
    apply Explanation.findings_sublist
    · exact List.Subset.refl _
    · exact more
    · rfl
  case marker =>
    intro marker shorter
    apply Motivation.findings_sublist
    exact shorter
  case entry =>
    intro before after entry table new
    rw [table] at new
    have rest : ((Abbreviations.traced
        { rules with abbreviations := before ++ entry :: after } cells).filter
          (fun found => found.1.term != entry.term)).map Prod.snd =
        Abbreviations.findings rules cells := by
      rw [Abbreviations.filter_traced (·.term != entry.term),Abbreviations.filter_insert_new new,
        ← table,Abbreviations.map_snd_traced]
    refine ⟨?_,Abbreviations.map_snd_traced _ cells,rest⟩
    rw [← rest,← Abbreviations.map_snd_traced]
    exact List.filter_sublist.map Prod.snd

/-- The new term begins with an old one, and the new marker is part of the old one. -/
theorem findings_monotone_inference :
    ((Discipline.findings { Rules.standard with
          plottingKeywords := ["draw"] ++ Rules.standard.plottingKeywords
          maxCodeLines := 3 } true [⟨4, .code, "a\nb\nc\nDraw()"⟩, ⟨7, .code, "a\nb\nc\nd"⟩]).map
            (·.cell)).Sublist
        ((Discipline.findings .standard true
          [⟨4, .code, "a\nb\nc\nDraw()"⟩, ⟨7, .code, "a\nb\nc\nd"⟩]).map (·.cell)) ∧
      (Explanation.findings
          { Rules.standard with skipKeywords := ["draw"] ++ Rules.standard.skipKeywords } true
            [⟨2, .code, "Draw(x.mean())"⟩]).Sublist
        (Explanation.findings .standard true [⟨2, .code, "Draw(x.mean())"⟩]) ∧
      (Explanation.findings .standard true [⟨2, .code, "Draw(x.mean())"⟩]).Sublist
        (Explanation.findings
          { Rules.standard with statsKeywords := ["median"] ++ Rules.standard.statsKeywords } true
            [⟨2, .code, "Draw(x.mean())"⟩]) ∧
      (Motivation.findings { Rules.standard with motivationMarker := "Motivation" }
          [⟨0, .markdown, "## 1.2 Motivation"⟩]).Sublist
        (Motivation.findings .standard [⟨0, .markdown, "## 1.2 Motivation"⟩]) ∧
      ((Abbreviations.traced { Rules.standard with
            abbreviations := [] ++ ⟨"SE MLE", "an error"⟩ :: Rules.standard.abbreviations }
          [⟨1, .markdown, "The SE MLE"⟩]).filter
            (fun found => found.1.term != "SE MLE")).map Prod.snd =
        Abbreviations.findings .standard [⟨1, .markdown, "The SE MLE"⟩] := by
  obtain ⟨plotting,-⟩ := findings_monotone .standard true
    [⟨4, .code, "a\nb\nc\nDraw()"⟩, ⟨7, .code, "a\nb\nc\nd"⟩]
  obtain ⟨-,skipping,statistics,-⟩ := findings_monotone .standard true
    [⟨2, .code, "Draw(x.mean())"⟩]
  obtain ⟨-,-,-,marker,-⟩ := findings_monotone .standard true [⟨0, .markdown, "## 1.2 Motivation"⟩]
  obtain ⟨-,-,-,-,entry⟩ := findings_monotone .standard true [⟨1, .markdown, "The SE MLE"⟩]
  refine ⟨plotting _ 3 (List.subset_append_right _ _) (by decide),
    skipping _ (List.subset_append_right _ _),statistics _ (List.subset_append_right _ _),
    marker "Motivation" ⟨[],[':'],by decide⟩,?_⟩
  exact (entry [] Rules.standard.abbreviations ⟨"SE MLE", "an error"⟩ rfl (by decide)).2.2

end Style
end NotebookLint
