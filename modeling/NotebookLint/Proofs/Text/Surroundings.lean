import NotebookLint.Proofs.Text.SmallLetters

/-! Lower case of a part of a text. Of what surrounds the part only two things matter, and only to a
capital sigma: whether the nearest characters before and after the part that are not ignorable have
case. A part without a sigma that is open to its surroundings is lowered alike everywhere. -/
namespace NotebookLint.Text

/-- Whether the first character of a text that is not ignorable has case. Beyond the end of the text
stands what `ahead` says. -/
def casedWithin (ahead : Bool) : List Char → Bool
  | [] => ahead
  | c :: rest => if isCaseIgnorable c then casedWithin ahead rest else isCased c

/-- The same, seen from the end of a text back to its beginning. -/
def casedBehind (cased : Bool) (text : List Char) : Bool :=
  casedWithin cased text.reverse

/-- Lower case of a text between what `cased` says before it and what `ahead` says after it. -/
def lowercaseBetween (cased ahead : Bool) : List Char → List Char
  | [] => []
  | c :: rest =>
    (if c = 'Σ' then [if cased && !casedWithin ahead rest then 'ς' else 'σ'] else lowerChar c) ++
      lowercaseBetween (if isCaseIgnorable c then cased else isCased c) ahead rest

theorem casedWithin_append (ahead : Bool) (text more : List Char) :
    casedWithin ahead (text ++ more) = casedWithin (casedWithin ahead more) text := by
  induction text with
  | nil => rfl
  | cons c rest ih => rw [List.cons_append,casedWithin,casedWithin,ih]

theorem casedBehind_append (cased : Bool) (text more : List Char) :
    casedBehind cased (text ++ more) = casedBehind (casedBehind cased text) more := by
  rw [casedBehind,List.reverse_append,casedWithin_append]
  rfl

theorem casedBehind_concat (cased : Bool) (text : List Char) (c : Char) :
    casedBehind cased (text ++ [c]) =
      if isCaseIgnorable c then casedBehind cased text else isCased c :=
  casedBehind_append cased text [c]

theorem casedBehind_cons (cased : Bool) (c : Char) (rest : List Char) :
    casedBehind cased (c :: rest) =
      casedBehind (if isCaseIgnorable c then cased else isCased c) rest :=
  casedBehind_append cased [c] rest

theorem casedWithin_of_all {text : List Char} (ignorable : text.all isCaseIgnorable = true)
    (ahead : Bool) : casedWithin ahead text = ahead := by
  induction text with
  | nil => rfl
  | cons c rest ih =>
    rw [List.all_cons,Bool.and_eq_true] at ignorable
    rw [casedWithin,if_pos ignorable.1,ih ignorable.2]

theorem casedWithin_of_not_all {text : List Char} (seen : ¬ text.all isCaseIgnorable = true)
    (ahead : Bool) : casedWithin ahead text = casedWithin false text := by
  induction text with
  | nil => exact absurd rfl seen
  | cons c rest ih =>
    rw [casedWithin,casedWithin]
    cases ignorable : isCaseIgnorable c with
    | true =>
      rw [List.all_cons,ignorable,Bool.true_and] at seen
      exact ih seen
    | false => rfl

theorem casedBehind_of_all {text : List Char} (ignorable : text.all isCaseIgnorable = true)
    (cased : Bool) : casedBehind cased text = cased :=
  casedWithin_of_all (by rwa [List.all_reverse]) cased

theorem casedBehind_of_not_all {text : List Char} (seen : ¬ text.all isCaseIgnorable = true)
    (cased : Bool) : casedBehind cased text = casedBehind false text :=
  casedWithin_of_not_all (by rwa [List.all_reverse]) cased

theorem casedWithin_false (text : List Char) : casedWithin false text = casedAhead text := by
  unfold casedAhead
  induction text with
  | nil => rfl
  | cons c rest ih =>
    cases ignorable : isCaseIgnorable c with
    | true => rw [casedWithin,if_pos ignorable,List.dropWhile_cons_of_pos ignorable,ih]
    | false =>
      rw [casedWithin,List.dropWhile_cons_of_neg (by simp [ignorable])]
      simp [ignorable]

theorem lowercaseAfter_eq_between (cased : Bool) (text : List Char) :
    lowercaseAfter cased text = lowercaseBetween cased false text := by
  induction text generalizing cased with
  | nil => rfl
  | cons c rest ih =>
    simp only [lowercaseAfter,lowercaseBetween,casedWithin_false,ih]
    split <;> rfl

theorem lowercase_eq_between (text : List Char) :
    lowercase text = lowercaseBetween false false text :=
  lowercaseAfter_eq_between false text

theorem lowercaseBetween_append (cased ahead : Bool) (text more : List Char) :
    lowercaseBetween cased ahead (text ++ more) =
      lowercaseBetween cased (casedWithin ahead more) text ++
        lowercaseBetween (casedBehind cased text) ahead more := by
  induction text generalizing cased with
  | nil => rfl
  | cons c rest ih =>
    rw [List.cons_append,lowercaseBetween,lowercaseBetween,casedBehind_cons,casedWithin_append,ih,
      List.append_assoc]

theorem lowercase_append_append (front part back : List Char) :
    lowercase (front ++ part ++ back) =
      lowercaseBetween false (casedWithin (casedAhead back) part) front ++
        lowercaseBetween (casedBehind false front) (casedAhead back) part ++
        lowercaseBetween (casedBehind false (front ++ part)) false back := by
  rw [lowercase_eq_between,lowercaseBetween_append,lowercaseBetween_append,casedWithin_false]

theorem length_lowercaseBetween (cased ahead : Bool) (text : List Char) :
    (lowercaseBetween cased ahead text).length = (lowercase text).length := by
  suffices alike : ∀ cased ahead other beyond, (lowercaseBetween cased ahead text).length =
      (lowercaseBetween other beyond text).length by
    rw [lowercase_eq_between]
    exact alike cased ahead false false
  induction text with
  | nil => exact fun _ _ _ _ => rfl
  | cons c rest ih =>
    intro cased ahead other beyond
    rw [lowercaseBetween,lowercaseBetween,List.length_append,List.length_append,ih _ _ _ beyond]
    split <;> rfl

/-- Whether the small letter of a capital sigma between two texts depends on what stands around both of
them. -/
def IsOpenSigma (before after : List Char) : Prop :=
  before.all isCaseIgnorable = true ∧ casedAhead after = false ∨
    casedBehind false before = true ∧ after.all isCaseIgnorable = true

instance (before after : List Char) : Decidable (IsOpenSigma before after) :=
  inferInstanceAs (Decidable (_ ∨ _))

/-- No sigma of a text is open to what surrounds the text. -/
def IsSettled (text : List Char) : Prop :=
  ∀ before after, text = before ++ 'Σ' :: after → ¬ IsOpenSigma before after

theorem isSettled_of_not_mem {text : List Char} (plain : 'Σ' ∉ text) : IsSettled text := by
  rintro before after rfl
  exact absurd (List.mem_append_right _ List.mem_cons_self) plain

theorem isSettled_iff_getElem? (text : List Char) :
    IsSettled text ↔ ∀ place < text.length, text[place]? = some 'Σ' →
      ¬ IsOpenSigma (text.take place) (text.drop (place + 1)) := by
  constructor
  · intro settled place _ sigma
    obtain ⟨inside,here⟩ := List.getElem?_eq_some_iff.mp sigma
    apply settled
    rw [← here,List.getElem_cons_drop,List.take_append_drop]
  · rintro closed before after rfl
    simpa using closed before.length (by simp) (by simp)

instance (text : List Char) : Decidable (IsSettled text) :=
  decidable_of_iff' _ (isSettled_iff_getElem? text)

/-- Whether a sigma between two texts is a final one, where both are in their surroundings. -/
def isFinal (cased ahead : Bool) (before after : List Char) : Bool :=
  casedBehind cased before && !casedWithin ahead after

theorem isFinal_of_not_isOpenSigma {before after : List Char} (closed : ¬ IsOpenSigma before after)
    (cased ahead : Bool) : isFinal cased ahead before after = isFinal false false before after := by
  obtain ⟨not_first,not_last⟩ := not_or.mp closed
  rw [← casedWithin_false] at not_first
  unfold isFinal
  by_cases first : before.all isCaseIgnorable = true
  · have cased_after : casedWithin false after = true := by simpa [first] using not_first
    have seen : ¬ after.all isCaseIgnorable = true :=
      fun last => by simp [casedWithin_of_all last] at cased_after
    rw [casedWithin_of_not_all seen,cased_after,Bool.not_true,Bool.and_false,Bool.and_false]
  · rw [casedBehind_of_not_all first]
    by_cases last : after.all isCaseIgnorable = true
    · have uncased_before : casedBehind false before = false := by simpa [last] using not_last
      rw [uncased_before,Bool.false_and,Bool.false_and]
    · rw [casedWithin_of_not_all last]

/-- A letter with case before both texts, or one after them, makes a difference to an open sigma. -/
theorem IsOpenSigma.isFinal_ne {before after : List Char} (opened : IsOpenSigma before after) :
    isFinal true false before after ≠ isFinal false false before after ∨
      isFinal false true before after ≠ isFinal false false before after := by
  unfold isFinal
  rcases opened with ⟨first,uncased_after⟩ | ⟨cased_before,last⟩
  · left
    rw [casedBehind_of_all first,casedBehind_of_all first,casedWithin_false,uncased_after]
    decide
  · right
    rw [casedWithin_of_all last,casedWithin_of_all last,cased_before]
    decide

theorem lowercaseBetween_sigma (cased ahead : Bool) (before after : List Char) :
    lowercaseBetween (casedBehind cased before) ahead ('Σ' :: after) =
      (if isFinal cased ahead before after then 'ς' else 'σ') ::
        lowercaseBetween (casedBehind cased (before ++ ['Σ'])) ahead after := by
  rw [lowercaseBetween,if_pos rfl,casedBehind_concat]
  rfl

theorem IsSettled.lowercaseBetween_eq {before rest : List Char} (settled : IsSettled (before ++ rest))
    (cased ahead : Bool) :
    lowercaseBetween (casedBehind cased before) ahead rest =
      lowercaseBetween (casedBehind false before) false rest := by
  -- What has been lowered moves over to `before`: a sigma is settled by the text on both of its sides.
  induction rest generalizing before with
  | nil => rfl
  | cons c rest ih =>
    have shifted : IsSettled ((before ++ [c]) ++ rest) := by rwa [List.append_assoc]
    have next := ih shifted
    by_cases sigma : c = 'Σ'
    · subst sigma
      rw [lowercaseBetween_sigma,lowercaseBetween_sigma,next,
        isFinal_of_not_isOpenSigma (settled before rest rfl)]
    · rw [casedBehind_concat,casedBehind_concat] at next
      rw [lowercaseBetween,lowercaseBetween,if_neg sigma,if_neg sigma,next]

/-- A settled text is lowered alike wherever it stands. -/
theorem IsSettled.lowercase_infix {text : List Char} (settled : IsSettled text)
    (front back : List Char) : lowercase text <:+: lowercase (front ++ text ++ back) := by
  have alike : lowercaseBetween (casedBehind false front) (casedAhead back) text = lowercase text := by
    rw [lowercase_eq_between]
    exact lowercaseBetween_eq (show IsSettled ([] ++ text) from settled) _ _
  rw [lowercase_append_append,alike]
  exact ⟨_,_,rfl⟩

/-- So is any text that stands apart from letters with case. -/
theorem lowercase_infix_of_apart (text : List Char) {front back : List Char}
    (before : casedBehind false front = false) (after : casedAhead back = false) :
    lowercase text <:+: lowercase (front ++ text ++ back) := by
  rw [lowercase_append_append,before,after,lowercase_eq_between text]
  exact ⟨_,_,rfl⟩

theorem lowercaseBetween_ne {before after : List Char} {cased ahead : Bool}
    (differs : isFinal cased ahead before after ≠ isFinal false false before after) :
    lowercaseBetween cased ahead (before ++ 'Σ' :: after) ≠ lowercase (before ++ 'Σ' :: after) := by
  intro same
  rw [lowercase_eq_between,lowercaseBetween_append,lowercaseBetween_append] at same
  have lengths : ∀ within beyond, (lowercaseBetween cased within before).length =
      (lowercaseBetween false beyond before).length :=
    fun within beyond => by rw [length_lowercaseBetween,length_lowercaseBetween]
  have sigmas := (List.append_inj same (lengths _ _)).2
  rw [lowercaseBetween_sigma,lowercaseBetween_sigma,List.cons.injEq] at sigmas
  have letters := sigmas.1
  revert letters differs
  generalize isFinal cased ahead before after = here, isFinal false false before after = alone
  revert here alone
  decide

theorem lowercaseBetween_of_isSmall {c : Char} (small : IsSmall c) (cased ahead : Bool) :
    lowercaseBetween cased ahead [c] = [c] := by
  rw [lowercaseBetween,lowercaseBetween,if_neg small.ne_sigma,small,List.append_nil]

theorem exists_cased_ne (other : Option Char) :
    ∃ c, some c ≠ other ∧ IsSmall c ∧ ∀ beyond, casedWithin beyond [c] = true := by
  -- Of two letters at least one is another.
  by_cases taken : other = some 'a'
  · refine ⟨'b',?_,by decide +kernel⟩
    rw [taken]
    decide
  · exact ⟨'a',Ne.symm taken,by decide +kernel⟩

theorem not_infix_cons {part whole : List Char} {c : Char} (lengths : whole.length = part.length)
    (differs : whole ≠ part) (other : some c ≠ part.head?) : ¬ part <:+: c :: whole := by
  intro inside
  rcases List.infix_cons_iff.mp inside with first | later
  · cases part with
    | nil => exact differs (List.length_eq_zero_iff.mp lengths)
    | cons d rest => exact other (congrArg some (List.cons_prefix_cons.mp first).1.symm)
  · exact differs (later.eq_of_length lengths.symm).symm

theorem not_infix_concat {part whole : List Char} {c : Char} (lengths : whole.length = part.length)
    (differs : whole ≠ part) (other : some c ≠ part.getLast?) : ¬ part <:+: whole ++ [c] := by
  rw [← List.reverse_infix,List.reverse_concat]
  refine not_infix_cons (by simpa using lengths) ?_ (by rwa [List.head?_reverse])
  exact fun same => differs (List.reverse_inj.mp same)

/-- A text that is not settled is lowered otherwise beside some letter. -/
theorem exists_not_lowercase_infix {text : List Char} (unsettled : ¬ IsSettled text) :
    ∃ front back, ¬ lowercase text <:+: lowercase (front ++ text ++ back) := by
  obtain ⟨before,after,split,opened⟩ :
      ∃ before after, text = before ++ 'Σ' :: after ∧ IsOpenSigma before after := by
    simpa [IsSettled] using unsettled
  -- The letter beside the text differs from the nearest one in its lower case. So the lower case of
  -- the text can only be where the text is, where the sigma is another.
  rcases opened.isFinal_ne with differs | differs
  · obtain ⟨c,other,small,cased⟩ := exists_cased_ne (lowercase text).head?
    have unlike : lowercaseBetween true false text ≠ lowercase text :=
      split ▸ lowercaseBetween_ne differs
    refine ⟨[c],[],?_⟩
    rw [lowercase_append_append,lowercaseBetween_of_isSmall small,casedBehind,
      List.reverse_singleton,cased,lowercaseBetween,List.append_nil]
    exact not_infix_cons (length_lowercaseBetween _ _ _) unlike other
  · obtain ⟨c,other,small,cased⟩ := exists_cased_ne (lowercase text).getLast?
    have unlike : lowercaseBetween false true text ≠ lowercase text :=
      split ▸ lowercaseBetween_ne differs
    refine ⟨[],[c],?_⟩
    rw [lowercase_append_append,lowercaseBetween_of_isSmall small,← casedWithin_false [c],cased]
    exact not_infix_concat (length_lowercaseBetween _ _ _) unlike other

end NotebookLint.Text
