import NotebookLint.Proofs.Rules.EmptyText
import NotebookLint.Proofs.Text.Lines
import NotebookLint.Proofs.Text.Trim
import NotebookLint.Style.Discipline

/-! Lines of comment. A line is trimmed before the marker of comments is looked for at its beginning,
so white space at the ends of the marker itself may be gone by then: at its beginning always, and at
its end where nothing but white space follows it in the line. -/
namespace NotebookLint.Style.Discipline
open Text

/-- Whether a line that a marker and a tail make up still begins with the marker after the white space
at the ends of the line has been cut off. -/
def KeepsMarker (marker tail : List Char) : Prop :=
  marker.head?.any isBlank = false ∧
    (marker.getLast?.any isBlank = false ∨ tail.all isBlank = false)

instance (marker tail : List Char) : Decidable (KeepsMarker marker tail) :=
  inferInstanceAs (Decidable (_ ∧ _))

section
variable {marker : List Char} (present : marker ≠ [])
include present

theorem prefix_trim_of_keepsMarker {tail : List Char} (keeps : KeepsMarker marker tail) :
    marker <+: trim (marker ++ tail) := by
  obtain ⟨after,written,blank⟩ := exists_trimEnd_eq tail
  have trimmed : IsTrimmed (marker ++ tail) (marker ++ trimEnd tail) := by
    refine ⟨⟨[],after,?_,rfl,blank⟩,?_,?_⟩
    · rw [List.nil_append,List.append_assoc,← written]
    · rw [List.head?_append_of_ne_nil _ present]
      exact keeps.1
    · by_cases nothing : trimEnd tail = []
      · -- The tail is white space, so the marker comes last.
        rw [nothing,List.nil_append] at written
        rw [nothing,List.append_nil]
        exact keeps.2.resolve_right (by simp [written,blank])
      · rw [List.getLast?_append_of_ne_nil _ nothing]
        exact getLast?_trimEnd tail
  rw [trimmed.trim_eq]
  exact List.prefix_append _ _

theorem keepsMarker_of_prefix_trim {tail : List Char} (begins : marker <+: trim (marker ++ tail)) :
    KeepsMarker marker tail := by
  constructor
  · have opens := (isTrimmed_trim (marker ++ tail)).opens
    obtain ⟨rest,split⟩ := begins
    rwa [← split,List.head?_append_of_ne_nil _ present] at opens
  · by_cases blank : tail.all isBlank = true
    · left
      rw [trim_concat_of_blank blank] at begins
      have same := begins.eq_of_length_le (length_trim_le marker)
      rw [same]
      exact (isTrimmed_trim marker).closes
    · exact .inr (by simpa using blank)

theorem prefix_trim_iff (tail : List Char) :
    marker <+: trim (marker ++ tail) ↔ KeepsMarker marker tail :=
  ⟨keepsMarker_of_prefix_trim present,prefix_trim_of_keepsMarker present⟩

end

/-- Whether nothing of white space, a marker and a tail is counted. -/
def IsUncounted (marker tail : List Char) : Prop :=
  (marker ++ tail).all isBlank = true ∨ ('\n' ∉ marker ∧ KeepsMarker marker tail)

instance (marker tail : List Char) : Decidable (IsUncounted marker tail) :=
  inferInstanceAs (Decidable (_ ∨ _))

theorem isUncounted_forall_iff (marker : List Char) :
    (∀ tail, '\n' ∉ tail → IsUncounted marker tail) ↔ '\n' ∉ marker ∧ trim marker = marker := by
  rw [← isTrimmed_iff]
  constructor
  · intro uncounted
    have visible : isBlank 'x' = false := by decide
    obtain ⟨unbroken,opens,-⟩ := (uncounted ['x'] (by decide)).resolve_left (by simp [visible])
    refine ⟨unbroken,⟨[],[],by simp,rfl,rfl⟩,opens,?_⟩
    rcases uncounted [] List.not_mem_nil with blank | ⟨-,keeps⟩
    · -- A marker of white space alone would begin with some.
      cases marker with
      | nil => rfl
      | cons c rest => simp_all
    · exact keeps.2.resolve_right (by simp)
  · rintro ⟨unbroken,trimmed⟩ tail -
    exact .inr ⟨unbroken,trimmed.opens,.inl trimmed.closes⟩

theorem significantLines_eq_nil_iff (rules : Rules) (source : String) :
    rules.significantLines source = [] ↔
      ∀ line ∈ lines source.toList, trim line = [] ∨ rules.isComment (trim line) = true := by
  simp only [Rules.significantLines,List.filter_eq_nil_iff,List.forall_mem_map,Bool.and_eq_true,
    Bool.not_eq_true',List.isEmpty_eq_false_iff,not_and,Bool.not_eq_false,
    Classical.or_iff_not_imp_left,ne_eq]

/-- A marker of more than one line is not in any line. -/
theorem isComment_of_broken {rules : Rules} (broken : '\n' ∈ rules.commentMarker.toList)
    {text line : List Char} (among : line ∈ lines text) : ¬ rules.isComment (trim line) = true := by
  rw [Rules.isComment,List.isPrefixOf_iff_prefix]
  intro begins
  exact unbroken_of_mem_lines among (mem_of_mem_trim (begins.subset broken))

section
variable {rules : Rules} (marked : rules.commentMarker ≠ "") {indent : List Char}
  (blank : indent.all isBlank = true)
include marked blank

theorem isComment_indented_iff (tail : List Char) :
    rules.isComment (trim (indent ++ rules.commentMarker.toList ++ tail)) = true ↔
      KeepsMarker rules.commentMarker.toList tail := by
  rw [List.append_assoc,trim_append_of_blank blank,Rules.isComment,List.isPrefixOf_iff_prefix,
    prefix_trim_iff (by simpa using marked)]

theorem significantLines_marked_iff {tail : List Char} (unbroken : '\n' ∉ indent ++ tail) :
    rules.significantLines (String.ofList (indent ++ rules.commentMarker.toList ++ tail)) = [] ↔
      IsUncounted rules.commentMarker.toList tail := by
  have apart : (indent ++ rules.commentMarker.toList ++ tail).all isBlank =
      (rules.commentMarker.toList ++ tail).all isBlank := by
    rw [List.append_assoc,List.all_append,blank,Bool.true_and]
  rw [significantLines_eq_nil_iff,String.toList_ofList,IsUncounted,← apart]
  by_cases broken : '\n' ∈ rules.commentMarker.toList
  · rw [← all_isBlank_lines,List.all_eq_true]
    simp only [broken,not_true,false_and,or_false]
    apply forall₂_congr
    intro line among
    rw [or_iff_left (isComment_of_broken broken among),trim_eq_nil_iff]
  · have single : '\n' ∉ indent ++ rules.commentMarker.toList ++ tail := by
      simp_all
    rw [lines_of_unbroken single,List.forall_mem_singleton,isComment_indented_iff marked blank,
      trim_eq_nil_iff,and_iff_right broken]

end

/-- A line of white space, the marker of comments and a tail with which it is left out. -/
def IsCommentLine (rules : Rules) (line : List Char) : Prop :=
  ∃ indent tail, line = indent ++ rules.commentMarker.toList ++ tail ∧
    indent.all isBlank = true ∧ IsUncounted rules.commentMarker.toList tail

theorem significantLines_of_comments {rules : Rules} (marked : rules.commentMarker ≠ "")
    {source : String} (comments : ∀ line ∈ lines source.toList, IsCommentLine rules line) :
    rules.significantLines source = [] := by
  rw [significantLines_eq_nil_iff]
  intro line among
  obtain ⟨indent,tail,rfl,blank,nothing | ⟨-,keeps⟩⟩ := comments line among
  · left
    rw [List.append_assoc,trim_append_of_blank blank,trim_eq_nil_iff]
    exact nothing
  · right
    exact (isComment_indented_iff marked blank tail).mpr keeps

theorem findings_of_no_lines {rules : Rules} {cell : Cell}
    (uncounted : rules.significantLines cell.source = []) (advise : Bool) :
    findings rules advise [cell] = [] := by
  simp [findings,cellFindings,isTooLong,uncounted]

/-- By the rules of a file, nothing of white space, the marker of comments and a tail is counted just
if the marker can still be seen in the trimmed line, or there is nothing but white space. This is so
for every tail just if the marker is in one line and has no white space at its ends. A cell of such
lines is never too long. -/
theorem comments_uncounted {path : String} {contents : FileContents} {rules : Rules}
    (loaded : Rules.ofFile path contents = .ok rules) :
    (∀ indent tail, indent.all isBlank = true → '\n' ∉ indent ++ tail →
      (rules.significantLines (String.ofList (indent ++ rules.commentMarker.toList ++ tail)) = [] ↔
        IsUncounted rules.commentMarker.toList tail)) ∧
    ((∀ tail, '\n' ∉ tail → IsUncounted rules.commentMarker.toList tail) ↔
      '\n' ∉ rules.commentMarker.toList ∧
        trim rules.commentMarker.toList = rules.commentMarker.toList) ∧
    ∀ advise cell, (∀ line ∈ lines cell.source.toList, IsCommentLine rules line) →
      findings rules advise [cell] = [] := by
  have marked := (Rules.markers_ne_empty_of_ofFile loaded).1
  refine ⟨?_,isUncounted_forall_iff rules.commentMarker.toList,?_⟩
  · intro indent tail blank unbroken
    exact significantLines_marked_iff marked blank unbroken
  · intro advise cell comments
    exact findings_of_no_lines (significantLines_of_comments marked comments) advise

/-- Where no line may count, lines of comment still do not. -/
theorem comments_uncounted_slashes :
    ∃ rules, Rules.ofFile "rules.toml"
        (.ok "comment_marker = \"//\"\nmax_code_lines = 0".toUTF8) = .ok rules ∧
      rules.significantLines "\t//" = [] ∧
      findings rules true [⟨3, .code, "// a\n\u00A0//\n//b "⟩] = [] := by
  have loaded : Rules.ofFile "rules.toml"
      (.ok "comment_marker = \"//\"\nmax_code_lines = 0".toUTF8) =
        .ok (.ofOverrides { Overrides.empty with
          commentMarker := some "//"
          maxCodeLines := some 0 }) :=
    Rules.ofFile_eq_ok rfl (by decide +kernel) rfl
  obtain ⟨line,trimmed,cell⟩ := comments_uncounted loaded
  have uncounted := trimmed.mpr (by decide +kernel)
  have nothing : IsUncounted ['/', '/'] [] := uncounted [] (by decide)
  refine ⟨_,loaded,(line ['\t'] [] (by decide) (by decide)).mpr nothing,?_⟩
  apply cell
  intro text among
  have three : text ∈ ["// a".toList, "\u00A0//".toList, "//b ".toList] := among
  simp only [List.mem_cons,List.not_mem_nil,or_false] at three
  rcases three with rfl | rfl | rfl
  · exact ⟨[],[' ', 'a'],rfl,rfl,uncounted _ (by decide)⟩
  · exact ⟨['\u00A0'],[],rfl,by decide,nothing⟩
  · exact ⟨[],['b', ' '],rfl,rfl,uncounted _ (by decide)⟩

/-- A file may set a marker with a blank at its end, or one with a blank at its beginning. The first is
not found in a line that ends with it, and the second in none. -/
theorem blank_marker_counted :
    (∃ rules, Rules.ofFile "rules.toml" (.ok "comment_marker = \"# \"".toUTF8) = .ok rules ∧
      rules.commentMarker = "# " ∧ rules.significantLines "# " = [['#']] ∧
      findings rules false [⟨0, .code, "# \n# \n# "⟩] =
        [.issue 0 "Cell 0: Code cell has 3 lines (should be ≤2 lines)"]) ∧
    ∃ rules, Rules.ofFile "rules.toml" (.ok "comment_marker = \" #\"".toUTF8) = .ok rules ∧
      rules.commentMarker = " #" ∧ rules.significantLines " # x" = [['#', ' ', 'x']] := by
  constructor
  · refine ⟨.ofOverrides { Overrides.empty with commentMarker := some "# " },
      Rules.ofFile_eq_ok rfl (by decide +kernel) rfl,rfl,?_⟩
    decide +kernel
  · refine ⟨.ofOverrides { Overrides.empty with commentMarker := some " #" },
      Rules.ofFile_eq_ok rfl (by decide +kernel) rfl,rfl,?_⟩
    decide +kernel

end NotebookLint.Style.Discipline
