import Mathlib.Data.List.Nodup
import Mathlib.Data.List.Perm.Basic
import Mathlib.Data.List.ProdSigma
import NotebookLint.Text.Occurrence

/-! Whole words: maximal runs of word characters. A term that is made of word characters occurs
exactly where a whole word spells it: such occurrences never overlap, so a search that goes on
after the end of each one passes none over. -/
namespace NotebookLint.Text

/-- The characters from `start` up to `stop` are word characters, and no word character stands
directly before or after them. -/
structure IsWholeWord (text : List Char) (start stop : Nat) : Prop where
  nonempty : start < stop
  inside : stop ≤ text.length
  words : (text.extract start stop).all isWord
  opens : (text.take start).getLast?.any isWord = false
  closes : text[stop]?.any isWord = false

instance (text : List Char) (start stop : Nat) : Decidable (IsWholeWord text start stop) :=
  decidable_of_iff
    (start < stop ∧ stop ≤ text.length ∧ (text.extract start stop).all isWord ∧
      (text.take start).getLast?.any isWord = false ∧ text[stop]?.any isWord = false)
    ⟨fun ⟨nonempty, inside, words, opens, closes⟩ => ⟨nonempty, inside, words, opens, closes⟩,
      fun word => ⟨word.nonempty, word.inside, word.words, word.opens, word.closes⟩⟩

/-- The whole words of a text, each as its start and its end. -/
def wholeWords (text : List Char) : List (Nat × Nat) :=
  (List.range text.length ×ˢ List.range (text.length + 1)).filter fun (start, stop) =>
    IsWholeWord text start stop

theorem mem_wholeWords_iff (text : List Char) (word : Nat × Nat) :
    word ∈ wholeWords text ↔ IsWholeWord text word.1 word.2 := by
  obtain ⟨start,stop⟩ := word
  simp only [wholeWords,List.mem_filter,List.mem_product,List.mem_range,decide_eq_true_eq,
    and_iff_right_iff_imp]
  intro whole
  have nonempty := whole.nonempty
  have inside := whole.inside
  omega

/-- Whether a word spells a term and has no backtick beside it. -/
def isBare (term text : List Char) (word : Nat × Nat) : Bool :=
  text.extract word.1 word.2 == term && (text.take word.1).getLast? != some '\x60' &&
    text[word.2]? != some '\x60'

def bareWords (term text : List Char) : List (Nat × Nat) :=
  (wholeWords text).filter (isBare term text)

/-- Every place where a term stands with a boundary at both of its ends, whether or not it overlaps
an earlier one. -/
def allOccurrences (term : List Char) (start : Nat) (before : Option Char) :
    List Char → List Occurrence
  | [] => []
  | c :: rest =>
    (occurrenceAt term start before (c :: rest)).toList ++
      allOccurrences term (start + 1) (some c) rest

section
variable {term : List Char} (spelled : term.all isWord) (present : term ≠ [])
include spelled present

theorem head_isWord : term.head?.any isWord = true := by
  cases term with
  | nil => contradiction
  | cons c rest => simp_all

theorem getLast_isWord : term.getLast?.any isWord = true := by
  rw [List.getLast?_eq_some_getLast present]
  exact List.all_eq_true.mp spelled _ (List.getLast_mem present)

/-- A word term does not occur directly after a word character. -/
private theorem occurrenceAt_after_word (start : Nat) {before : Option Char} (text : List Char)
    (word : before.any isWord = true) : occurrenceAt term start before text = none := by
  have head := head_isWord spelled present
  simp [occurrenceAt,isBoundary,word,head]

/-- Going on after the end of an occurrence of a word term loses nothing: `taken` characters of an
occurrence are left, and a word character stands before each of them. -/
theorem occurrencesAfter_eq_all (taken start : Nat) (before : Option Char) (text : List Char)
    (words : (text.take taken).all isWord) (inside : 0 < taken → before.any isWord = true) :
    occurrencesAfter term taken start before text = allOccurrences term start before text := by
  induction text generalizing taken start before with
  | nil => rfl
  | cons c rest ih =>
    rw [occurrencesAfter.eq_def,allOccurrences]
    cases taken with
    | succ left =>
      -- Within an occurrence no other begins, since a word character stands before each place.
      have absent := occurrenceAt_after_word spelled present start (c :: rest) (inside (by omega))
      simp only [List.take_succ_cons,List.all_cons,Bool.and_eq_true] at words
      simp only [absent,Option.toList_none,List.nil_append]
      exact ih left _ (some c) words.2 (fun _ => words.1)
    | zero =>
      cases found : occurrenceAt term start before (c :: rest) with
      | none =>
        simp only [found,Option.toList_none,List.nil_append]
        exact ih 0 _ (some c) (by simp) (by simp)
      | some occurrence =>
        have standing : term <+: c :: rest := by
          unfold occurrenceAt at found
          simp_all
        obtain ⟨more, rfl, tail⟩ : ∃ more, term = c :: more ∧ more <+: rest := by
          cases term with
          | nil => contradiction
          | cons first more =>
            obtain ⟨rfl, tail⟩ := List.cons_prefix_cons.mp standing
            exact ⟨more, rfl, tail⟩
        simp only [List.all_cons,Bool.and_eq_true] at spelled
        simp only [found,List.length_cons,Nat.add_sub_cancel,Option.toList_some,
          List.singleton_append]
        -- What is left of the occurrence is the rest of the term, all of it word characters.
        have left : (rest.take more.length).all isWord := by
          rw [← List.prefix_iff_eq_take.mp tail]
          exact spelled.2
        rw [ih more.length _ (some c) left (fun _ => spelled.1)]

theorem occurrences_eq_all (text : List Char) :
    occurrences term text = allOccurrences term 0 none text :=
  occurrencesAfter_eq_all spelled present 0 0 none text (by simp) (by simp)

/-- An occurrence of a word term at a place of a text: it is written there, and no word character
stands directly before or after it. -/
theorem occurrenceAt_eq_some_iff (start : Nat) (before : Option Char) (text : List Char)
    (found : Occurrence) :
    occurrenceAt term start before text = some found ↔
      text.take term.length = term ∧ before.any isWord = false ∧
        text[term.length]?.any isWord = false ∧ found = ⟨start, before, text[term.length]?⟩ := by
  have head := head_isWord spelled present
  have last := getLast_isWord spelled present
  have standing : term.isPrefixOf text = true ↔ text.take term.length = term := by
    rw [List.isPrefixOf_iff_prefix,List.prefix_iff_eq_take,eq_comm]
  simp only [occurrenceAt,isBoundary,head,last,List.head?_drop,Option.ite_none_right_eq_some,
    Bool.and_eq_true,standing,bne_iff_ne,ne_eq,Bool.not_eq_true,Bool.true_eq,Option.some.injEq,
    and_assoc]
  rw [eq_comm (b := found)]

end

/-- The occurrences are those at the single places of a text, of which `done` is already behind. -/
theorem mem_allOccurrences_iff (term done text : List Char) (found : Occurrence) :
    found ∈ allOccurrences term done.length done.getLast? text ↔
      ∃ start, done.length ≤ start ∧ start < done.length + text.length ∧
        occurrenceAt term start ((done ++ text).take start).getLast? ((done ++ text).drop start) =
          some found := by
  induction text generalizing done with
  | nil =>
    simp only [allOccurrences,List.not_mem_nil,List.length_nil,false_iff,not_exists,not_and]
    omega
  | cons c rest ih =>
    have further := ih (done ++ [c])
    simp only [List.length_append,List.length_singleton,List.getLast?_concat,List.append_assoc,
      List.singleton_append] at further
    simp only [allOccurrences,List.mem_append,Option.mem_toList,further,List.length_cons]
    constructor
    · rintro (here | ⟨start,beyond,inside,there⟩)
      · exact ⟨done.length,Nat.le_refl _,by omega,by simpa using here⟩
      · exact ⟨start,by omega,by omega,there⟩
    · rintro ⟨start,beyond,inside,there⟩
      by_cases here : start = done.length
      · subst here
        exact Or.inl (by simpa using there)
      · exact Or.inr ⟨start,by omega,by omega,there⟩

theorem starts_sublist (term : List Char) (start : Nat) (before : Option Char) (text : List Char) :
    ((allOccurrences term start before text).map (·.start)).Sublist
      (List.range' start text.length) := by
  induction text generalizing start before with
  | nil => simp [allOccurrences]
  | cons c rest ih =>
    have here : ((occurrenceAt term start before (c :: rest)).toList.map (·.start)).Sublist
        [start] := by
      unfold occurrenceAt
      dsimp only
      split <;> simp
    simpa only [allOccurrences,List.map_append,List.length_cons,List.range'_succ,
      List.singleton_append] using here.append (ih (start + 1) (some c))

section
variable {term : List Char} (spelled : term.all isWord) (present : term ≠ [])
include spelled present

/-- Where a whole word spells a term, the term decides where the word ends. -/
theorem isWholeWord_spelling_iff (text : List Char) (start stop : Nat) :
    IsWholeWord text start stop ∧ text.extract start stop = term ↔
      start < text.length ∧ stop = start + term.length ∧
        (text.drop start).take term.length = term ∧
        (text.take start).getLast?.any isWord = false ∧ text[stop]?.any isWord = false := by
  have positive : 0 < term.length := List.length_pos_iff.mpr present
  constructor
  · rintro ⟨word,spells⟩
    have nonempty := word.nonempty
    have inside := word.inside
    have size : term.length = stop - start := by
      rw [← spells,List.extract_eq_take_drop,List.length_take,List.length_drop]
      omega
    refine ⟨by omega,by omega,?_,word.opens,word.closes⟩
    rw [size,← List.extract_eq_take_drop,spells]
  · rintro ⟨bound,rfl,standing,opens,closes⟩
    have spells : text.extract start (start + term.length) = term := by
      rw [List.extract_eq_take_drop,Nat.add_sub_cancel_left,standing]
    have inside : term.length ≤ text.length - start := by
      have size := congrArg List.length standing
      rw [List.length_take,List.length_drop] at size
      omega
    exact ⟨⟨by omega,by omega,by rw [spells]; exact spelled,opens,closes⟩,spells⟩

theorem mem_starts_iff (text : List Char) (start : Nat) :
    start ∈ (bareOccurrences term text).map (·.start) ↔
      start ∈ (bareWords term text).map Prod.fst := by
  have places := mem_allOccurrences_iff term [] text
  simp only [List.length_nil,List.getLast?_nil,List.nil_append,Nat.zero_le,true_and,
    Nat.zero_add,occurrenceAt_eq_some_iff spelled present] at places
  have words := isWholeWord_spelling_iff spelled present text
  simp only [bareOccurrences,occurrences_eq_all spelled present,bareWords,List.mem_map,
    List.mem_filter,places,mem_wholeWords_iff,Prod.exists,isBare,Bool.and_eq_true,beq_iff_eq,
    bne_iff_ne]
  constructor
  · rintro ⟨_,⟨⟨start,bound,standing,opens,closes,rfl⟩,bare⟩,rfl⟩
    rw [List.getElem?_drop] at closes
    obtain ⟨word,spells⟩ :=
      (words start (start + term.length)).mpr ⟨bound,rfl,standing,opens,closes⟩
    simp only [Occurrence.isCode,List.getElem?_drop,Bool.not_eq_true',Bool.or_eq_false_iff,
      beq_eq_false_iff_ne] at bare
    exact ⟨start,start + term.length,⟨word,⟨spells,bare.1⟩,bare.2⟩,rfl⟩
  · rintro ⟨_,stop,⟨word,⟨spells,before⟩,after⟩,rfl⟩
    obtain ⟨bound,rfl,standing,opens,closes⟩ := (words _ _).mp ⟨word,spells⟩
    rw [← List.getElem?_drop] at closes
    exact ⟨_,⟨⟨_,bound,standing,opens,closes,rfl⟩,by simp [Occurrence.isCode,before,after]⟩,rfl⟩

/-- A word term has as many bare occurrences as there are bare words. -/
theorem length_bareOccurrences (text : List Char) :
    (bareOccurrences term text).length = (bareWords term text).length := by
  have starts : ((bareOccurrences term text).map (·.start)).Nodup := by
    have distinct := (starts_sublist term 0 none text).nodup List.nodup_range'
    rw [bareOccurrences,occurrences_eq_all spelled present]
    exact distinct.sublist (List.filter_sublist.map _)
  have words : ((bareWords term text).map Prod.fst).Nodup := by
    have distinct : (bareWords term text).Nodup :=
      ((List.nodup_range.product List.nodup_range).filter _).filter _
    apply distinct.map_on
    intro first member second other same
    simp only [bareWords,isBare,List.mem_filter,mem_wholeWords_iff,Bool.and_eq_true,
      beq_iff_eq] at member other
    have ends := ((isWholeWord_spelling_iff spelled present text _ _).mp
      ⟨member.1,member.2.1.1⟩).2.1
    have others := ((isWholeWord_spelling_iff spelled present text _ _).mp
      ⟨other.1,other.2.1.1⟩).2.1
    exact Prod.ext same (by omega)
  -- Neither list has a start twice, so that the same starts make as many.
  have same := (List.perm_ext_iff_of_nodup starts words).mpr (mem_starts_iff spelled present text)
  simpa using same.length_eq

end

end NotebookLint.Text
