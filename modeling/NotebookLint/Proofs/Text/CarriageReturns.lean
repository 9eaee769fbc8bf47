import NotebookLint.Proofs.Text.AsciiLetters
import NotebookLint.Proofs.Text.Lines
import NotebookLint.Proofs.Text.Standing
import NotebookLint.Proofs.Text.Trim

/-! Texts whose lines end in carriage returns. Each line but the last has one more character at its
end, which is white space, neither a word character nor a backtick, and for lower case like the line
feed after it. So a search for something without a line break finds as much as before, and a trimmed
line is what it was. -/
namespace NotebookLint.Text

/-- The text with a carriage return before each line feed. -/
def withReturns (text : List Char) : List Char :=
  text.flatMap fun c => if c = '\n' then ['\r', '\n'] else [c]

theorem withReturns_feed (rest : List Char) :
    withReturns ('\n' :: rest) = '\r' :: '\n' :: withReturns rest :=
  rfl

theorem withReturns_cons {c : Char} (other : c ≠ '\n') (rest : List Char) :
    withReturns (c :: rest) = c :: withReturns rest := by
  rw [withReturns,List.flatMap_cons,if_neg other]
  rfl

/-- Induction over a text, with line feeds apart from the other characters. -/
theorem feed_induction {property : List Char → Prop} (nil : property [])
    (feed : ∀ rest, property rest → property ('\n' :: rest))
    (other : ∀ c rest, c ≠ '\n' → property rest → property (c :: rest)) (text : List Char) :
    property text := by
  induction text with
  | nil => exact nil
  | cons c rest ih =>
    by_cases same : c = '\n'
    · rw [same]
      exact feed rest ih
    · exact other c rest same ih

theorem withReturns_append (text more : List Char) :
    withReturns (text ++ more) = withReturns text ++ withReturns more :=
  List.flatMap_append

theorem withReturns_of_unbroken {text : List Char} (unbroken : '\n' ∉ text) :
    withReturns text = text := by
  induction text with
  | nil => rfl
  | cons c rest ih =>
    obtain ⟨other,later⟩ := List.ne_and_not_mem_of_not_mem_cons unbroken
    rw [withReturns_cons (Ne.symm other),ih later]

theorem firstLine_withReturns (text : List Char) : firstLine (withReturns text) =
    firstLine text ++ if '\n' ∈ text then ['\r'] else [] := by
  by_cases feed : '\n' ∈ text
  · obtain ⟨line,rest,rfl,unbroken⟩ := List.eq_append_cons_of_mem feed
    have returned : '\n' ∉ line ++ ['\r'] := by simp [unbroken]
    rw [if_pos feed,withReturns_append,withReturns_of_unbroken unbroken,withReturns_feed,
      firstLine_append unbroken,List.append_cons,firstLine_append returned]
  · rw [if_neg feed,withReturns_of_unbroken feed,List.append_nil]

theorem trim_return (line : List Char) : trim (line ++ ['\r']) = trim line :=
  trim_concat_of_blank (by decide) line

theorem map_trim_lines_withReturns (text : List Char) :
    (lines (withReturns text)).map trim = (lines text).map trim := by
  induction text using lines_induction with
  | last line unbroken => rw [withReturns_of_unbroken unbroken]
  | next line rest unbroken ih =>
    have returned : '\n' ∉ line ++ ['\r'] := by simp [unbroken]
    rw [withReturns_append,withReturns_of_unbroken unbroken,withReturns_feed,List.append_cons,
      lines_unbroken_append unbroken,lines_unbroken_append returned,List.map_cons,List.map_cons,ih,
      trim_return]

theorem all_isBlank_withReturns (text : List Char) :
    (withReturns text).all isBlank = text.all isBlank := by
  induction text using feed_induction with
  | nil => rfl
  | feed rest ih =>
    have blank : isBlank '\r' = true := by decide
    rw [withReturns_feed,List.all_cons,List.all_cons,List.all_cons,blank,Bool.true_and,ih]
  | other c rest unfed ih => rw [withReturns_cons unfed,List.all_cons,List.all_cons,ih]

theorem trim_withReturns_eq_nil_iff (text : List Char) :
    trim (withReturns text) = [] ↔ trim text = [] := by
  rw [trim_eq_nil_iff,trim_eq_nil_iff,all_isBlank_withReturns]

/-- Neither character of a line break is in a text. -/
structure IsInline (text : List Char) : Prop where
  unreturned : '\r' ∉ text
  unbroken : '\n' ∉ text

instance (text : List Char) : Decidable (IsInline text) :=
  decidable_of_iff ('\r' ∉ text ∧ '\n' ∉ text)
    ⟨fun ⟨unreturned, unbroken⟩ => ⟨unreturned, unbroken⟩,
      fun inside => ⟨inside.unreturned, inside.unbroken⟩⟩

theorem IsInline.tail {c : Char} {text : List Char} (inside : IsInline (c :: text)) :
    IsInline text :=
  ⟨List.not_mem_of_not_mem_cons inside.unreturned,List.not_mem_of_not_mem_cons inside.unbroken⟩

section
variable {part : List Char} (inside : IsInline part) (present : part ≠ [])
include inside present

theorem IsInline.not_prefix_return (rest : List Char) : ¬ part <+: '\r' :: rest :=
  fun begins => present (eq_nil_of_prefix_cons inside.unreturned begins)

theorem IsInline.not_prefix_feed (rest : List Char) : ¬ part <+: '\n' :: rest :=
  fun begins => present (eq_nil_of_prefix_cons inside.unbroken begins)

end

theorem prefix_withReturns_iff {part : List Char} (inside : IsInline part) (text : List Char) :
    part <+: withReturns text ↔ part <+: text := by
  induction text using feed_induction generalizing part with
  | nil => rfl
  | feed rest =>
    by_cases present : part = []
    · simp [present]
    · exact iff_of_false (inside.not_prefix_return present _) (inside.not_prefix_feed present _)
  | other c rest unfed ih =>
    rw [withReturns_cons unfed]
    cases part with
    | nil => simp
    | cons p part => rw [List.cons_prefix_cons,List.cons_prefix_cons,ih inside.tail]

theorem infix_withReturns_iff {part : List Char} (inside : IsInline part) (text : List Char) :
    part <:+: withReturns text ↔ part <:+: text := by
  induction text using feed_induction with
  | nil => rfl
  | feed rest ih =>
    rw [withReturns_feed,infix_cons_iff_of_not_mem inside.unreturned,
      infix_cons_iff_of_not_mem inside.unbroken,infix_cons_iff_of_not_mem inside.unbroken,ih]
  | other c rest unfed ih =>
    have begins := prefix_withReturns_iff inside (c :: rest)
    rw [withReturns_cons unfed] at begins ⊢
    rw [List.infix_cons_iff,List.infix_cons_iff,begins,ih]

theorem feed_not_mem_lowerChar {c : Char} (other : c ≠ '\n') : '\n' ∉ lowerChar c := by
  have lowers := lowers_lowerChar c
  generalize lowerChar c = image at lowers ⊢
  cases lowers with
  | ascii small =>
    have kept : ∀ code < 128, (Char.ofNat code).toLower = '\n' → Char.ofNat code = '\n' := by
      decide +kernel
    have same := kept c.toNat (of_decide_eq_true small)
    rw [Char.ofNat_toNat] at same
    rw [List.mem_singleton]
    exact fun fed => other (same fed.symm)
  | dotted => decide
  | other strange shown =>
    rw [List.mem_singleton]
    rintro rfl
    revert shown
    decide

theorem casedAhead_withReturns (text : List Char) :
    casedAhead (withReturns text) = casedAhead text := by
  unfold casedAhead
  induction text using feed_induction with
  | nil => rfl
  | feed rest =>
    have uncased : isCased '\r' = isCased '\n' := by decide +kernel
    rw [withReturns_feed,List.dropWhile_cons_of_neg (by decide +kernel),
      List.dropWhile_cons_of_neg (by decide +kernel)]
    exact uncased
  | other c rest unfed ih =>
    rw [withReturns_cons unfed]
    cases ignorable : isCaseIgnorable c with
    | true => rw [List.dropWhile_cons_of_pos ignorable,List.dropWhile_cons_of_pos ignorable,ih]
    | false =>
      rw [List.dropWhile_cons_of_neg (by simp [ignorable]),
        List.dropWhile_cons_of_neg (by simp [ignorable])]
      rfl

/-- Neither character of a line break has case or is ignored, and both are their own small letters. -/
theorem lowercaseAfter_withReturns (cased : Bool) (text : List Char) :
    lowercaseAfter cased (withReturns text) = withReturns (lowercaseAfter cased text) := by
  induction text using feed_induction generalizing cased with
  | nil => rfl
  | feed rest ih =>
    have returned : lowerChar '\r' = ['\r'] := by decide +kernel
    have fed : lowerChar '\n' = ['\n'] := by decide +kernel
    have passed : isCaseIgnorable '\r' = false ∧ isCaseIgnorable '\n' = false := by decide +kernel
    have uncased : isCased '\r' = false ∧ isCased '\n' = false := by decide +kernel
    simp [withReturns_feed,lowercaseAfter,returned,fed,passed,uncased,ih]
  | other c rest unfed ih =>
    rw [withReturns_cons unfed,lowercaseAfter,lowercaseAfter,casedAhead_withReturns,ih]
    split
    · rw [withReturns_cons]
      split <;> decide
    · rw [withReturns_append,withReturns_of_unbroken (feed_not_mem_lowerChar unfed)]

theorem lowercase_withReturns (text : List Char) :
    lowercase (withReturns text) = withReturns (lowercase text) :=
  lowercaseAfter_withReturns false text

theorem any_head?_withReturns {kind : Char → Bool} (alike : kind '\r' = kind '\n')
    (text : List Char) : (withReturns text).head?.any kind = text.head?.any kind := by
  induction text using feed_induction with
  | nil => rfl
  | feed rest => exact alike
  | other c rest unfed =>
    rw [withReturns_cons unfed]
    rfl

theorem Occurrence.isCode_eq_any (found : Occurrence) :
    found.isCode = (found.before.any (· == '\x60') || found.after.any (· == '\x60')) := by
  obtain ⟨start,before,after⟩ := found
  cases before <;> cases after <;> rfl

theorem occurrenceAt_of_unwritten {term text : List Char} (unwritten : ¬ term <+: text) (start : Nat)
    (before : Option Char) : occurrenceAt term start before text = none := by
  rw [← List.isPrefixOf_iff_prefix,Bool.not_eq_true] at unwritten
  simp [occurrenceAt,unwritten]

section
variable {term : List Char} (inside : IsInline term)
include inside

/-- Of what follows a term only two things matter, and in both a carriage return is like a line feed. -/
theorem map_isCode_occurrenceAt_withReturns (start place : Nat) (before : Option Char)
    (text : List Char) :
    (occurrenceAt term place before (withReturns text)).map Occurrence.isCode =
      (occurrenceAt term start before text).map Occurrence.isCode := by
  by_cases stands : term <+: text
  · obtain ⟨back,rfl⟩ := stands
    have word : (withReturns back).head?.any isWord = back.head?.any isWord :=
      any_head?_withReturns (by decide +kernel) back
    have tick : (withReturns back).head?.any (· == '\x60') = back.head?.any (· == '\x60') :=
      any_head?_withReturns (by decide) back
    have begins (more : List Char) : term.isPrefixOf (term ++ more) = true :=
      List.isPrefixOf_iff_prefix.mpr (List.prefix_append term more)
    rw [withReturns_append,withReturns_of_unbroken inside.unbroken]
    simp only [occurrenceAt,begins,List.drop_left,isBoundary,word]
    split
    · simp only [Option.map_some,Occurrence.isCode_eq_any,tick]
    · rfl
  · have gone : ¬ term <+: withReturns text := by rwa [prefix_withReturns_iff inside]
    rw [occurrenceAt_of_unwritten gone,occurrenceAt_of_unwritten stands]

variable (present : term ≠ [])
include present

/-- The places of the occurrences differ by the carriage returns before them. What is still taken of an
occurrence has no line feed in it. -/
theorem map_isCode_occurrencesAfter_withReturns (taken start place : Nat) (before : Option Char)
    (text : List Char) (clear : '\n' ∉ text.take taken) :
    (occurrencesAfter term taken place before (withReturns text)).map Occurrence.isCode =
      (occurrencesAfter term taken start before text).map Occurrence.isCode := by
  induction text using feed_induction generalizing taken start place before with
  | nil => rfl
  | feed rest ih =>
    cases taken with
    | succ left => exact absurd List.mem_cons_self clear
    | zero =>
      simp only [withReturns_feed,occurrencesAfter,
        occurrenceAt_of_unwritten (inside.not_prefix_return present _),
        occurrenceAt_of_unwritten (inside.not_prefix_feed present _)]
      exact ih 0 _ _ _ List.not_mem_nil
  | other c rest unfed ih =>
    rw [withReturns_cons unfed]
    cases taken with
    | succ left =>
      simp only [occurrencesAfter]
      exact ih left _ _ _ (List.not_mem_of_not_mem_cons clear)
    | zero =>
      have here := map_isCode_occurrenceAt_withReturns inside start place before (c :: rest)
      rw [withReturns_cons unfed] at here
      simp only [occurrencesAfter]
      cases found : occurrenceAt term start before (c :: rest) with
      | none =>
        rw [found,Option.map_none,Option.map_eq_none_iff] at here
        simp only [here]
        exact ih 0 _ _ _ List.not_mem_nil
      | some occurrence =>
        rw [found,Option.map_some,Option.map_eq_some_iff] at here
        obtain ⟨other,stood,same⟩ := here
        simp only [stood,List.map_cons,same]
        congr 1
        apply ih
        -- What is taken next is the rest of the term.
        obtain ⟨back,written,-⟩ := occurrenceAt_eq_some_iff_append.mp found
        have later := congrArg List.tail written
        rw [List.tail_cons,List.tail_append_of_ne_nil present] at later
        rw [later,← List.length_tail,List.take_left]
        exact fun member => inside.unbroken (List.mem_of_mem_tail member)

theorem length_bareOccurrences_withReturns (text : List Char) :
    (bareOccurrences term (withReturns text)).length = (bareOccurrences term text).length := by
  have codes := map_isCode_occurrencesAfter_withReturns inside present 0 0 0 none text
    List.not_mem_nil
  have count (found : List Occurrence) : (found.filter (!·.isCode)).length =
      (found.map Occurrence.isCode).countP (!·) := by
    rw [List.countP_map,List.countP_eq_length_filter]
    rfl
  rw [bareOccurrences,bareOccurrences,count,count,occurrences,occurrences,codes]

end

end NotebookLint.Text
