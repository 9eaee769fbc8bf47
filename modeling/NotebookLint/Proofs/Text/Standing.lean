import NotebookLint.Proofs.Text.WholeWord

/-! The places where a term stands in a text, and which of them a search from left to right finds. It
goes on after the end of each place that it finds, so it passes over a place only if that overlaps
an earlier one. Backticks are looked at after the search: a place beside a backtick is found and
dropped, and with it every place that overlaps its end. -/
namespace NotebookLint.Text

/-- A term stands in a text after `front` and before `back`: it is written there, with a word boundary
at both of its ends. -/
structure StandsIn (text front term back : List Char) : Prop where
  written : text = front ++ term ++ back
  opens : isBoundary front.getLast? term.head? = true
  closes : isBoundary term.getLast? back.head? = true

theorem StandsIn.eq_of_length {text front term back earlier later : List Char}
    (stands : StandsIn text earlier term later) (written : text = front ++ term ++ back)
    (same : earlier.length = front.length) : earlier = front ∧ later = back := by
  have whole := stands.written.symm.trans written
  rw [List.append_assoc,List.append_assoc] at whole
  obtain ⟨rfl,rest⟩ := List.append_inj whole same
  exact ⟨rfl,List.append_cancel_left rest⟩

/-- No backtick lies directly before or after what is between two texts. -/
def IsBareBetween (front back : List Char) : Prop :=
  front.getLast? ≠ some '\x60' ∧ back.head? ≠ some '\x60'

instance (text front term back : List Char) : Decidable (StandsIn text front term back) :=
  decidable_of_iff (text = front ++ term ++ back ∧ isBoundary front.getLast? term.head? = true ∧
      isBoundary term.getLast? back.head? = true)
    ⟨fun ⟨written, opens, closes⟩ => ⟨written, opens, closes⟩,
      fun stands => ⟨stands.written, stands.opens, stands.closes⟩⟩

instance (front back : List Char) : Decidable (IsBareBetween front back) :=
  inferInstanceAs (Decidable (_ ∧ _))

theorem occurrenceAt_eq_some_iff_append {term : List Char} {start : Nat} {before : Option Char}
    {text : List Char} {found : Occurrence} :
    occurrenceAt term start before text = some found ↔ ∃ back, text = term ++ back ∧
      isBoundary before term.head? = true ∧ isBoundary term.getLast? back.head? = true ∧
      found = ⟨start, before, back.head?⟩ := by
  constructor
  · intro found
    simp only [occurrenceAt,Option.ite_none_right_eq_some,Bool.and_eq_true,
      List.isPrefixOf_iff_prefix,Option.some.injEq] at found
    obtain ⟨⟨⟨⟨back,rfl⟩,opens⟩,closes⟩,rfl⟩ := found
    rw [List.drop_left] at closes ⊢
    exact ⟨back,rfl,opens,closes,rfl⟩
  · rintro ⟨back,rfl,opens,closes,rfl⟩
    simp [occurrenceAt,List.isPrefixOf_iff_prefix,opens,closes]

section
variable {term : List Char} (present : term ≠ [])
include present

theorem mem_allOccurrences_iff_standsIn (text : List Char) (found : Occurrence) :
    found ∈ allOccurrences term 0 none text ↔ ∃ front back, StandsIn text front term back ∧
      found = ⟨front.length, front.getLast?, back.head?⟩ := by
  have places := mem_allOccurrences_iff term [] text found
  simp only [List.length_nil,List.getLast?_nil,List.nil_append,Nat.zero_le,true_and,
    Nat.zero_add,occurrenceAt_eq_some_iff_append] at places
  rw [places]
  constructor
  · rintro ⟨start,inside,back,rest,opens,closes,rfl⟩
    have size : (text.take start).length = start := by
      rw [List.length_take]
      omega
    refine ⟨text.take start,back,⟨?_,opens,closes⟩,by rw [size]⟩
    rw [List.append_assoc,← rest,List.take_append_drop]
  · rintro ⟨front,back,⟨rfl,opens,closes⟩,rfl⟩
    have positive : 0 < term.length := List.length_pos_iff.mpr present
    rw [List.append_assoc]
    refine ⟨front.length,?_,back,List.drop_left,?_,closes,?_⟩
    · simp only [List.length_append]
      omega
    · rwa [List.take_left]
    · rw [List.take_left]

end

theorem start_le_of_mem_allOccurrences {term : List Char} {start : Nat} {before : Option Char}
    {text : List Char} {found : Occurrence} (member : found ∈ allOccurrences term start before text) :
    start ≤ found.start := by
  have among := (starts_sublist term start before text).subset (List.mem_map_of_mem member)
  exact (List.mem_range'_1.mp among).1

theorem occurrencesAfter_subset (term : List Char) (taken start : Nat) (before : Option Char)
    (text : List Char) :
    occurrencesAfter term taken start before text ⊆ allOccurrences term start before text := by
  induction text generalizing taken start before with
  | nil => exact List.Subset.refl _
  | cons c rest ih =>
    rw [occurrencesAfter.eq_def,allOccurrences]
    cases taken with
    | succ left => exact List.subset_append_of_subset_right _ (ih left _ _)
    | zero =>
      cases here : occurrenceAt term start before (c :: rest) with
      | none => simpa [here] using ih 0 _ _
      | some found =>
        simpa [here] using List.subset_cons_of_subset found (ih (term.length - 1) _ _)

/-- Where the term stands outside of what is already taken, the search finds it or has found a place
that overlaps it from the left. -/
theorem exists_found_of_stands {term : List Char} (present : term ≠ []) (taken start : Nat)
    {before : Option Char} {text : List Char} {place : Occurrence}
    (stands : place ∈ allOccurrences term start before text)
    (beyond : start + taken ≤ place.start) :
    ∃ found ∈ occurrencesAfter term taken start before text,
      found.start ≤ place.start ∧ place.start < found.start + term.length := by
  have positive : 0 < term.length := List.length_pos_iff.mpr present
  induction text generalizing taken start before with
  | nil => simp [allOccurrences] at stands
  | cons c rest ih =>
    rw [allOccurrences,List.mem_append,Option.mem_toList] at stands
    cases taken with
    | succ left =>
      rw [occurrencesAfter]
      rcases stands with here | later
      · obtain ⟨back,-,-,-,rfl⟩ := occurrenceAt_eq_some_iff_append.mp here
        simp only at beyond
        omega
      · exact ih left (start + 1) later (by omega)
    | zero =>
      cases head : occurrenceAt term start before (c :: rest) with
      | none =>
        simp only [occurrencesAfter,head]
        rcases stands with here | later
        · rw [head] at here
          cases here
        · exact ih 0 (start + 1) later (start_le_of_mem_allOccurrences later)
      | some first =>
        simp only [occurrencesAfter,head]
        obtain ⟨back,-,-,-,rfl⟩ := occurrenceAt_eq_some_iff_append.mp head
        by_cases covered : place.start < start + term.length
        · exact ⟨_,List.mem_cons_self,beyond,covered⟩
        · rcases stands with here | later
          · obtain ⟨back,-,-,-,rfl⟩ := occurrenceAt_eq_some_iff_append.mp here
            simp only at covered
            omega
          · obtain ⟨found,member,reaches⟩ := ih (term.length - 1) (start + 1) later (by omega)
            exact ⟨found,List.mem_cons_of_mem _ member,reaches⟩

section
variable {term : List Char} (present : term ≠ []) {text : List Char}
include present

theorem exists_standsIn_of_mem_occurrences {found : Occurrence}
    (member : found ∈ occurrences term text) : ∃ front back, StandsIn text front term back ∧
      found = ⟨front.length, front.getLast?, back.head?⟩ :=
  (mem_allOccurrences_iff_standsIn present text found).mp
    (occurrencesAfter_subset term 0 0 none text member)

theorem exists_bare_of_bareOccurrences (found : bareOccurrences term text ≠ []) :
    ∃ front back, StandsIn text front term back ∧ IsBareBetween front back := by
  obtain ⟨occurrence,member⟩ := List.exists_mem_of_ne_nil _ found
  rw [bareOccurrences,List.mem_filter] at member
  obtain ⟨member,bare⟩ := member
  obtain ⟨front,back,stands,rfl⟩ := exists_standsIn_of_mem_occurrences present member
  exact ⟨front,back,stands,by simpa [Occurrence.isCode,IsBareBetween] using bare⟩

theorem exists_found_of_standsIn {front back : List Char} (stands : StandsIn text front term back) :
    ∃ found ∈ occurrences term text,
      found.start ≤ front.length ∧ front.length < found.start + term.length := by
  have standing := (mem_allOccurrences_iff_standsIn present text
    ⟨front.length, front.getLast?, back.head?⟩).mpr ⟨front,back,stands,rfl⟩
  exact exists_found_of_stands present 0 0 standing (Nat.zero_le _)

/-- The search finds a bare place or one that overlaps it from the left. If none of those is beside a
backtick, then something bare is found in either case. -/
theorem bareOccurrences_ne_nil {front back : List Char} (stands : StandsIn text front term back)
    (bare : IsBareBetween front back)
    (clear : ∀ earlier later, StandsIn text earlier term later →
      earlier.length < front.length → front.length < earlier.length + term.length →
        IsBareBetween earlier later) :
    bareOccurrences term text ≠ [] := by
  obtain ⟨found,member,starts,reaches⟩ := exists_found_of_standsIn present stands
  obtain ⟨earlier,later,also,rfl⟩ := exists_standsIn_of_mem_occurrences present member
  have free : IsBareBetween earlier later := by
    rcases Nat.lt_or_eq_of_le starts with less | same
    · exact clear earlier later also less reaches
    · obtain ⟨rfl,rfl⟩ := also.eq_of_length stands.written same
      exact bare
  refine List.ne_nil_of_mem (List.mem_filter.mpr ⟨member,?_⟩)
  simpa [Occurrence.isCode,IsBareBetween] using free

end

theorem isPrefixOf_drop_of_written {text front term back : List Char}
    (written : text = front ++ term ++ back) : term.isPrefixOf (text.drop front.length) = true := by
  rw [written,List.append_assoc,List.drop_left,List.isPrefixOf_iff_prefix]
  exact List.prefix_append term back

/-- Where a term is written twice, and the second time before its first end, it begins with one of its
own ends. -/
theorem drop_prefix_of_overlap {term front back earlier later : List Char}
    (same : front ++ term ++ back = earlier ++ term ++ later)
    (before : earlier.length ≤ front.length) :
    term.drop (front.length - earlier.length) <+: term := by
  have rest := congrArg (List.drop front.length) same
  rw [List.append_assoc,List.drop_left,List.append_assoc,List.drop_append,List.drop_append,
    List.drop_eq_nil_of_le before,List.nil_append] at rest
  have ending : term.drop (front.length - earlier.length) <+: term ++ back := by
    rw [rest]
    exact List.prefix_append _ _
  apply List.prefix_of_prefix_length_le ending (List.prefix_append term back)
  rw [List.length_drop]
  exact Nat.sub_le _ _

end NotebookLint.Text
