import NotebookLint.Text.Blank

/-! What is left of a text when the white space at its ends is cut off: the one part of it that has
nothing but white space beside it, and none at its own ends. -/
namespace NotebookLint.Text

structure IsTrimmed (text core : List Char) : Prop where
  written : ∃ before after, text = before ++ core ++ after ∧ before.all isBlank = true ∧
    after.all isBlank = true
  opens : core.head?.any isBlank = false
  closes : core.getLast?.any isBlank = false

theorem head?_trimStart (text : List Char) : (trimStart text).head?.any isBlank = false := by
  have stops := List.head?_dropWhile_not isBlank text
  unfold trimStart
  cases head : (text.dropWhile isBlank).head? with
  | none => rfl
  | some c => simpa [head] using stops

theorem trimStart_append {before : List Char} (blank : before.all isBlank = true)
    (text : List Char) : trimStart (before ++ text) = trimStart text :=
  List.dropWhile_append_of_pos (List.all_eq_true.mp blank)

theorem trimStart_of_head? {text : List Char} (opens : text.head?.any isBlank = false) :
    trimStart text = text := by
  cases text with
  | nil => rfl
  | cons c text => exact List.dropWhile_cons_of_neg (by simpa using opens)

theorem exists_trimStart_eq (text : List Char) :
    ∃ before, text = before ++ trimStart text ∧ before.all isBlank = true :=
  ⟨text.takeWhile isBlank,List.takeWhile_append_dropWhile.symm,List.all_takeWhile⟩

theorem isTrimmed_trim (text : List Char) : IsTrimmed text (trim text) := by
  obtain ⟨before,front,before_blank⟩ := exists_trimStart_eq text
  obtain ⟨after,back,after_blank⟩ := exists_trimStart_eq (trimStart text).reverse
  have split : trimStart text = trim text ++ after.reverse := by
    rw [trim,trimEnd,← List.reverse_append,← back,List.reverse_reverse]
  refine ⟨⟨before,after.reverse,?_,before_blank,by rwa [List.all_reverse]⟩,?_,?_⟩
  · rw [List.append_assoc,← split]
    exact front
  · have opens := head?_trimStart text
    rw [split] at opens
    cases start : trim text with
    | nil => rfl
    | cons c rest => simpa [start] using opens
  · rw [trim,trimEnd,List.getLast?_reverse]
    exact head?_trimStart _

theorem IsTrimmed.trim_eq {text core : List Char} (trimmed : IsTrimmed text core) :
    trim text = core := by
  obtain ⟨⟨before,after,rfl,before_blank,after_blank⟩,opens,closes⟩ := trimmed
  have ending : trimStart (after.reverse ++ core.reverse) = core.reverse := by
    rw [trimStart_append (by rwa [List.all_reverse]),trimStart_of_head? (by rwa [List.head?_reverse])]
  rw [trim,List.append_assoc,trimStart_append before_blank]
  cases core with
  | nil =>
    have nothing : trimStart after = [] := by
      rw [← List.append_nil after,trimStart_append after_blank]
      rfl
    rw [List.nil_append,nothing]
    rfl
  | cons c core =>
    rw [trimStart_of_head? (by simpa using opens),trimEnd,List.reverse_append,ending,
      List.reverse_reverse]

/-- A text has one trimmed part only, the one that is left when white space is cut off. -/
theorem isTrimmed_iff (text core : List Char) : IsTrimmed text core ↔ trim text = core := by
  constructor
  · exact IsTrimmed.trim_eq
  · rintro rfl
    exact isTrimmed_trim text

theorem trim_eq_nil_iff (text : List Char) : trim text = [] ↔ text.all isBlank = true := by
  constructor
  · intro nothing
    obtain ⟨before,after,written,before_blank,after_blank⟩ := (isTrimmed_trim text).written
    rw [nothing,List.append_nil] at written
    rw [written,List.all_append,before_blank,after_blank]
    rfl
  · intro blank
    exact IsTrimmed.trim_eq ⟨⟨text,[],by simp,blank,rfl⟩,rfl,rfl⟩

theorem trim_append_of_blank {before : List Char} (blank : before.all isBlank = true)
    (text : List Char) : trim (before ++ text) = trim text := by
  rw [trim,trimStart_append blank]
  rfl

/-- White space after a text is cut off with what ends the text. -/
theorem trim_concat_of_blank {after : List Char} (blank : after.all isBlank = true)
    (text : List Char) : trim (text ++ after) = trim text := by
  have trimmed := isTrimmed_trim text
  obtain ⟨before,ending,written,before_blank,ending_blank⟩ := trimmed.written
  apply IsTrimmed.trim_eq
  refine ⟨⟨before,ending ++ after,?_,before_blank,?_⟩,trimmed.opens,trimmed.closes⟩
  · rw [← List.append_assoc,← written]
  · rw [List.all_append,ending_blank,blank]
    rfl

theorem mem_of_mem_trim {text : List Char} {c : Char} (kept : c ∈ trim text) : c ∈ text := by
  have front : c ∈ trimStart text := by
    have back := (List.dropWhile_sublist isBlank).subset (List.mem_reverse.mp kept)
    exact List.mem_reverse.mp back
  exact (List.dropWhile_sublist isBlank).subset front

theorem length_trim_le (text : List Char) : (trim text).length ≤ text.length := by
  obtain ⟨before,after,written,-,-⟩ := (isTrimmed_trim text).written
  have size := congrArg List.length written
  rw [List.length_append,List.length_append] at size
  omega

theorem exists_trimEnd_eq (text : List Char) :
    ∃ after, text = trimEnd text ++ after ∧ after.all isBlank = true := by
  obtain ⟨before,written,blank⟩ := exists_trimStart_eq text.reverse
  refine ⟨before.reverse,?_,by rwa [List.all_reverse]⟩
  rw [trimEnd,← List.reverse_append,← written,List.reverse_reverse]

theorem getLast?_trimEnd (text : List Char) : (trimEnd text).getLast?.any isBlank = false := by
  rw [trimEnd,List.getLast?_reverse]
  exact head?_trimStart text.reverse

end NotebookLint.Text
