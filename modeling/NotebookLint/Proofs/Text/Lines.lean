import NotebookLint.Text.Blank
import NotebookLint.Text.Search

/-! The lines of a text, one after another: a text is one line, or a line with a line feed and a text
after it. -/
namespace NotebookLint.Text

theorem lines_unbroken_append {line : List Char} (unbroken : '\n' ∉ line) (more : List Char) :
    lines (line ++ '\n' :: more) = line :: lines more := by
  rw [lines_append,lines_of_unbroken unbroken,List.singleton_append]

theorem firstLine_unbroken (text : List Char) : '\n' ∉ firstLine text := by
  intro broken
  have other := List.all_eq_true.mp List.all_takeWhile '\n' broken
  simp at other

theorem firstLine_append {line : List Char} (unbroken : '\n' ∉ line) (rest : List Char) :
    firstLine (line ++ '\n' :: rest) = line := by
  have first := head?_lines (line ++ '\n' :: rest)
  rw [lines_unbroken_append unbroken] at first
  exact (Option.some.inj first).symm

theorem firstLine_of_unbroken {text : List Char} (unbroken : '\n' ∉ text) :
    firstLine text = text := by
  have first := head?_lines text
  rw [lines_of_unbroken unbroken] at first
  exact (Option.some.inj first).symm

/-- The line that a text begins with: what stands before its first line feed, or all of it. -/
structure IsFirstLine (text line : List Char) : Prop where
  unbroken : '\n' ∉ line
  begins : text = line ∨ ∃ rest, text = line ++ '\n' :: rest

theorem isFirstLine_firstLine (text : List Char) : IsFirstLine text (firstLine text) := by
  refine ⟨firstLine_unbroken text,?_⟩
  by_cases feed : '\n' ∈ text
  · obtain ⟨line,rest,rfl,unbroken⟩ := List.eq_append_cons_of_mem feed
    exact .inr ⟨rest,by rw [firstLine_append unbroken]⟩
  · exact .inl (firstLine_of_unbroken feed).symm

theorem IsFirstLine.firstLine_eq {text line : List Char} (first : IsFirstLine text line) :
    firstLine text = line := by
  obtain ⟨unbroken,rfl | ⟨rest,rfl⟩⟩ := first
  · exact firstLine_of_unbroken unbroken
  · exact firstLine_append unbroken rest

theorem lines_induction {property : List Char → Prop}
    (last : ∀ line, '\n' ∉ line → property line)
    (next : ∀ line rest, '\n' ∉ line → property rest → property (line ++ '\n' :: rest))
    (text : List Char) : property text := by
  induction size : text.length using Nat.strongRecOn generalizing text with
  | ind length ih =>
    by_cases feed : '\n' ∈ text
    · obtain ⟨line,rest,rfl,unbroken⟩ := List.eq_append_cons_of_mem feed
      apply next line rest unbroken
      apply ih rest.length _ rest rfl
      rw [← size,List.length_append,List.length_cons]
      omega
    · exact last text feed

theorem unbroken_of_mem_lines {text line : List Char} (among : line ∈ lines text) :
    '\n' ∉ line := by
  induction text using lines_induction with
  | last text unbroken =>
    rw [lines_of_unbroken unbroken,List.mem_singleton] at among
    rwa [among]
  | next first rest unbroken ih =>
    rw [lines_unbroken_append unbroken] at among
    obtain rfl | later := List.mem_cons.mp among
    · exact unbroken
    · exact ih later

theorem all_isBlank_lines (text : List Char) :
    (lines text).all (·.all isBlank) = text.all isBlank := by
  induction text using lines_induction with
  | last text unbroken =>
    rw [lines_of_unbroken unbroken,List.all_cons,List.all_nil,Bool.and_true]
  | next first rest unbroken ih =>
    have feed : isBlank '\n' = true := by decide
    rw [lines_unbroken_append unbroken,List.all_cons,ih,List.all_append,List.all_cons,feed,
      Bool.true_and]

end NotebookLint.Text
