import NotebookLint.Proofs.Text.Standing

/-! Bare words. A term made of word characters stands bare in a text where both of its neighbours are
open: neither word characters nor backticks. Two bare words share a place only if they are one, and
a word that stands bare in two joined texts stands in one of them, unless word characters meet where
they are joined. -/
namespace NotebookLint.Text

/-- A neighbour that is neither a word character nor a backtick. An end of the text is open. -/
def isOpen (neighbour : Option Char) : Bool :=
  !neighbour.any isWord && neighbour != some '\x60'

theorem not_isOpen_of_isWord {c : Char} (word : isWord c = true) : isOpen (some c) = false := by
  simp [isOpen,word]

theorem any_isWord_of_isOpen {neighbour : Option Char} (opens : isOpen neighbour = true) :
    neighbour.any isWord = false := by
  simp only [isOpen,Bool.and_eq_true,Bool.not_eq_true'] at opens
  exact opens.1

structure StandsBare (text front term back : List Char) : Prop where
  written : text = front ++ term ++ back
  opens : isOpen front.getLast? = true
  closes : isOpen back.head? = true

/-- A term stands bare somewhere in a text that comes after the character `before`. -/
def OccursBare (before : Option Char) (term text : List Char) : Prop :=
  ∃ front back, text = front ++ term ++ back ∧ isOpen (front.getLast?.or before) = true ∧
    isOpen back.head? = true

theorem OccursBare.alone {before : Option Char} {term text : List Char}
    (occurs : OccursBare before term text) : OccursBare none term text := by
  obtain ⟨front,back,written,opens,closes⟩ := occurs
  refine ⟨front,back,written,?_,closes⟩
  cases last : front.getLast? with
  | none => rfl
  | some c => simpa [last] using opens

theorem takeWhile_isWord {word back : List Char} (spelled : word.all isWord)
    (closes : back.head?.any isWord = false) : (word ++ back).takeWhile isWord = word := by
  rw [List.takeWhile_append_of_pos (List.all_eq_true.mp spelled)]
  cases back with
  | nil => simp
  | cons c rest =>
    have ends : isWord c = false := by simpa using closes
    simp [ends]

section
variable {term : List Char} (spelled : term.all isWord) (present : term ≠ [])
include spelled present

theorem standsBare_iff (text front back : List Char) :
    StandsBare text front term back ↔
      StandsIn text front term back ∧ IsBareBetween front back := by
  have first := head_isWord spelled present
  have last := getLast_isWord spelled present
  constructor
  · rintro ⟨written,opens,closes⟩
    simp only [isOpen,Bool.and_eq_true,Bool.not_eq_true',bne_iff_ne] at opens closes
    exact ⟨⟨written,by simp [isBoundary,first,opens.1],by simp [isBoundary,last,closes.1]⟩,
      opens.2,closes.2⟩
  · rintro ⟨⟨written,opens,closes⟩,before,after⟩
    simp only [isBoundary,first,last,bne_iff_ne,ne_eq,Bool.not_eq_true,Bool.true_eq] at opens closes
    exact ⟨written,by simp [isOpen,opens,before],by simp [isOpen,closes,after]⟩

theorem mem_bareOccurrences_iff (text : List Char) (found : Occurrence) :
    found ∈ bareOccurrences term text ↔ ∃ front back, StandsBare text front term back ∧
      found = ⟨front.length, front.getLast?, back.head?⟩ := by
  simp only [bareOccurrences,List.mem_filter,occurrences_eq_all spelled present,
    mem_allOccurrences_iff_standsIn present,standsBare_iff spelled present]
  constructor
  · rintro ⟨⟨front,back,stands,rfl⟩,bare⟩
    exact ⟨front,back,⟨stands,by simpa [Occurrence.isCode,IsBareBetween] using bare⟩,rfl⟩
  · rintro ⟨front,back,⟨stands,bare⟩,rfl⟩
    exact ⟨⟨front,back,stands,rfl⟩,by simpa [Occurrence.isCode,IsBareBetween] using bare⟩

theorem bareOccurrences_eq_nil_iff (text : List Char) :
    bareOccurrences term text = [] ↔ ¬ OccursBare none term text := by
  rw [List.eq_nil_iff_forall_not_mem]
  simp only [mem_bareOccurrences_iff spelled present,OccursBare,Option.or_none]
  constructor
  · rintro absent ⟨front,back,written,opens,closes⟩
    exact absent _ ⟨front,back,⟨written,opens,closes⟩,rfl⟩
  · rintro absent found ⟨front,back,stands,-⟩
    exact absent ⟨front,back,stands.written,stands.opens,stands.closes⟩

end

section
variable {term : List Char} (spelled : term.all isWord)
include spelled

/-- A bare word in two joined texts does not straddle the seam. -/
theorem OccursBare.of_append {before : Option Char} {text more : List Char}
    (occurs : OccursBare before term (text ++ more)) (seam : more.head?.any isWord = false) :
    OccursBare before term text ∨ OccursBare (text.getLast?.or before) term more := by
  obtain ⟨front,back,written,opens,closes⟩ := occurs
  rcases List.append_eq_append_iff.mp written with ⟨middle,whole,rest⟩ | ⟨middle,whole,rest⟩
  · rcases List.append_eq_append_iff.mp whole with ⟨inner,rfl,rfl⟩ | ⟨inner,rfl,rfl⟩
    · -- The term begins in the first text, and it would go on past the seam with a word character.
      cases middle with
      | nil => exact .inl ⟨front,[],by simp,opens,rfl⟩
      | cons c middle =>
        have word : isWord c = true := List.all_eq_true.mp spelled c (by simp)
        simp [rest,word] at seam
    · refine .inr ⟨inner,back,rest,?_,closes⟩
      simpa [List.getLast?_append,Option.or_assoc] using opens
  · refine .inl ⟨front,middle,whole,opens,?_⟩
    cases middle with
    | nil => rfl
    | cons c middle => simpa [rest] using closes

/-- Where a bare word is, no other bare word begins. -/
theorem StandsBare.eq_of_shared {text front back other begun rest : List Char}
    (stands : StandsBare text front term back) (also : StandsBare text begun other rest)
    (word : other.all isWord) (within : front.length ≤ begun.length)
    (inside : begun.length < front.length + term.length) : front = begun ∧ term = other := by
  have whole := stands.written.symm.trans also.written
  rw [List.append_assoc,List.append_assoc] at whole
  obtain ⟨middle,rfl,tail⟩ :
      ∃ middle, begun = front ++ middle ∧ term ++ back = middle ++ (other ++ rest) := by
    rcases List.append_eq_append_iff.mp whole with split | ⟨middle,rfl,tail⟩
    · exact split
    · have none : middle = [] := by
        rw [List.length_append] at within
        exact List.length_eq_zero_iff.mp (by omega)
      exact ⟨[],by simp [none],by simp [tail,none]⟩
  have nothing : middle = [] := by
    by_contra some
    -- The other word would begin after a character of this one.
    have among : middle.getLast some ∈ term := by
      have begins : middle <+: term := List.prefix_of_prefix_length_le
        (tail ▸ List.prefix_append middle (other ++ rest)) (List.prefix_append term back)
        (by simp only [List.length_append] at inside; omega)
      exact begins.subset (List.getLast_mem some)
    have blocked := also.opens
    rw [List.getLast?_append_of_ne_nil _ some,List.getLast?_eq_some_getLast some,
      not_isOpen_of_isWord (List.all_eq_true.mp spelled _ among)] at blocked
    cases blocked
  subst nothing
  refine ⟨by simp,?_⟩
  rw [← takeWhile_isWord spelled (any_isWord_of_isOpen stands.closes),
    ← takeWhile_isWord word (any_isWord_of_isOpen also.closes),tail,List.nil_append]

end

end NotebookLint.Text
