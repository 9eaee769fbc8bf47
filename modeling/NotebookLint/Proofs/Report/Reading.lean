import NotebookLint.Proofs.Program.Verdict
import NotebookLint.Proofs.Text.Decimal
import NotebookLint.Proofs.Text.Lines

/-! Reading a report back. Its headings, its colours and the verdict are passed over: the messages are
the lines that begin with two spaces, and the number of cells is what is left of the title when only
its digits are kept. A message may look like a heading or a rule, but its line begins as no heading
and no rule does, so the messages of a report are told by its text as long as each is one line. -/
namespace NotebookLint.Report
open Text

/-- What a report tells. -/
structure Told where
  issues : List String
  warnings : List String
  cells : Nat
  deriving DecidableEq, Repr

/-- Items are set in by two spaces, and nothing else in a report is. -/
def isItem (line : List Char) : Bool :=
  [' ', ' '].isPrefixOf line

def itemMessages (lines : List (List Char)) : List String :=
  lines.map fun line => String.ofList (line.drop 2)

/-- The issues are the items from the eighth line on, one directly after the other; each item below
them is a warning. Without issues the eighth line is a heading or a rule. -/
def told (report : String) : Told :=
  let body := (lines report.toList).drop 7
  ⟨itemMessages (body.takeWhile isItem), itemMessages ((body.dropWhile isItem).filter isItem),
    numeral 10 (((lines report.toList)[2]?.getD []).filter (·.isDigit))⟩

/-- The line of a finding. -/
def itemLine (finding : Finding) : List Char :=
  ' ' :: ' ' :: finding.message.toList

@[simp] theorem isItem_itemLine (finding : Finding) : isItem (itemLine finding) = true := by
  simp [isItem,itemLine]

theorem itemMessages_itemLine (findings : List Finding) :
    itemMessages (findings.map itemLine) = findings.map (·.message) := by
  simp [itemMessages,itemLine]

theorem not_isItem_cons {first : Char} (visible : first ≠ ' ') (rest : List Char) :
    isItem (first :: rest) = false := by
  simp [isItem,List.isPrefixOf,visible.symm]

theorem not_isItem_nil : isItem [] = false :=
  rfl

theorem lines_newline (more : List Char) : lines ('\n' :: more) = [] :: lines more :=
  lines_unbroken_append List.not_mem_nil more

theorem rule_unbroken : '\n' ∉ rule.toList := by
  decide +kernel

theorem not_isItem_rule : isItem rule.toList = false := by
  decide +kernel

theorem toDigits_unbroken (number : Nat) : '\n' ∉ Nat.toDigits 10 number := by
  intro broken
  have digit := isDigit_toDigits number '\n' broken
  cases digit

theorem lines_framed {text : String} (unbroken : '\n' ∉ text.toList) (more : List Char) :
    lines ((framed text).toList ++ more) =
      [] :: rule.toList :: text.toList :: rule.toList :: lines more := by
  have split : (framed text).toList ++ more = '\n' :: (rule.toList ++ '\n' ::
      (text.toList ++ '\n' :: (rule.toList ++ '\n' :: more))) := by
    simp [framed]
  rw [split,lines_newline,lines_unbroken_append rule_unbroken,lines_unbroken_append unbroken,
    lines_unbroken_append rule_unbroken]

theorem lines_items {findings : List Finding}
    (unbroken : ∀ finding ∈ findings, '\n' ∉ finding.message.toList) (more : List Char) :
    lines ((items findings).toList ++ more) = findings.map itemLine ++ lines more := by
  induction findings with
  | nil => simp [items]
  | cons finding rest ih =>
    have split : (items (finding :: rest)).toList ++ more =
        itemLine finding ++ '\n' :: ((items rest).toList ++ more) := by
      simp [items,itemLine]
    have line : '\n' ∉ itemLine finding := by
      simpa [itemLine] using unbroken finding List.mem_cons_self
    rw [split,lines_unbroken_append line,
      ih fun other later => unbroken other (List.mem_cons_of_mem _ later)]
    rfl

/-- A list under its heading, which begins as its title or with a colour. -/
theorem exists_lines_listing (colour : Bool) (paint : Colour) {title : String} {first : Char}
    {begun : List Char} (opens : title.toList = first :: begun) (visible : first ≠ ' ')
    (plain : '\n' ∉ title.toList) (count : Nat) {findings : List Finding}
    (unbroken : ∀ finding ∈ findings, '\n' ∉ finding.message.toList) (more : List Char) :
    ∃ heading, isItem heading = false ∧
      lines ((listing colour paint title count findings).toList ++ more) =
        heading :: [] :: (findings.map itemLine ++ lines more) := by
  have digits := toDigits_unbroken count
  let heading := title ++ " (" ++ toString count ++ "):"
  let shown := if colour then strong paint heading else heading
  have line : '\n' ∉ shown.toList := by
    cases colour <;> cases paint <;>
      simp_all [shown,heading,strong,bold,coloured,escape,Colour.code]
  have split : (listing colour paint title count findings).toList ++ more =
      shown.toList ++ '\n' :: '\n' :: ((items findings).toList ++ more) := by
    simp [listing,shown,heading]
  refine ⟨shown.toList,?_,?_⟩
  · cases colour with
    | false =>
      simp only [shown,heading,Bool.false_eq_true,if_false,String.toList_append,opens]
      exact not_isItem_cons visible _
    | true =>
      simp only [shown,if_true,strong,bold,String.toList_append]
      exact not_isItem_cons (by decide) _
  · rw [split,lines_unbroken_append line,lines_newline,lines_items unbroken]

section
variable (colour : Bool) {result : LintResult}

/-- Below the issues the only items are the warnings, and an empty line comes first. -/
theorem exists_lines_ending
    (unbroken : ∀ finding ∈ result.warnings, '\n' ∉ finding.message.toList) :
    ∃ rest, lines ((warningsPart colour result).toList ++
        (verdictPart colour result.outcome).toList) = [] :: rest ∧
      rest.takeWhile isItem = [] ∧ rest.filter isItem = result.warnings.map itemLine := by
  let closing := [rule.toList,(shownVerdict colour result.outcome).toList,rule.toList,[]]
  have verdict : lines (verdictPart colour result.outcome).toList = [] :: closing := by
    have framed := lines_framed (shownVerdict_unbroken colour result.outcome) []
    rwa [List.append_nil] at framed
  have silent : isItem (shownVerdict colour result.outcome).toList = false := by
    cases colour <;> cases result.outcome <;> decide +kernel
  have below : closing.filter isItem = [] := by
    simp [closing,not_isItem_rule,not_isItem_nil,silent]
  cases listed : result.warnings with
  | nil =>
    refine ⟨closing,by simpa [warningsPart,listed] using verdict,?_,below⟩
    simp [closing,not_isItem_rule]
  | cons finding rest =>
    rw [listed] at unbroken
    obtain ⟨heading,plain,written⟩ := exists_lines_listing colour .yellow
      (by rfl : "⚠️  WARNINGS".toList = _) (by decide) (by decide +kernel)
      result.summary.warnings unbroken (verdictPart colour result.outcome).toList
    refine ⟨heading :: [] :: ((finding :: rest).map itemLine ++ [] :: closing),?_,?_,?_⟩
    · rw [← verdict,← written]
      simp only [warningsPart,listed,List.isEmpty_cons,Bool.false_eq_true,if_false,
        String.toList_append]
      exact lines_newline _
    · simp [plain]
    · simp [plain,not_isItem_nil,below]

/-- A report line by line: a title, what is said first about the issues, an empty line, and then the
items in their two groups. -/
theorem exists_lines_results
    (issues : ∀ finding ∈ result.issues, '\n' ∉ finding.message.toList)
    (warnings : ∀ finding ∈ result.warnings, '\n' ∉ finding.message.toList) :
    ∃ first rest, lines (results colour result).toList =
        [] :: rule.toList ::
          ("VALIDATION RESULTS (" ++ toString result.summary.cells ++ " cells)").toList ::
            rule.toList :: [] :: first :: [] :: rest ∧
      rest.takeWhile isItem = result.issues.map itemLine ∧
      (rest.dropWhile isItem).filter isItem = result.warnings.map itemLine := by
  have title : '\n' ∉
      ("VALIDATION RESULTS (" ++ toString result.summary.cells ++ " cells)").toList := by
    simpa using toDigits_unbroken result.summary.cells
  obtain ⟨ending,closing,quiet,below⟩ := exists_lines_ending colour warnings
  have split : (results colour result).toList =
      (framed ("VALIDATION RESULTS (" ++ toString result.summary.cells ++ " cells)")).toList ++
        '\n' :: ((issuesPart colour result).toList ++ ((warningsPart colour result).toList ++
          (verdictPart colour result.outcome).toList)) := by
    simp [results]
  rw [split,lines_framed title,lines_newline]
  cases listed : result.issues with
  | nil =>
    -- The line that there are no issues stands where their heading would.
    obtain ⟨line,plain,written⟩ : ∃ line, '\n' ∉ line ∧
        (issuesPart colour result).toList = line ++ ['\n'] := by
      cases colour with
      | false => exact ⟨"✅ No critical issues found!".toList,by decide +kernel,by
          simp [issuesPart,listed]⟩
      | true => exact ⟨(coloured .green "✅ No critical issues found!").toList,by decide +kernel,by
          simp [issuesPart,listed]⟩
    have whole : ending.dropWhile isItem = ending := by
      simpa [quiet] using List.takeWhile_append_dropWhile (p := isItem) (l := ending)
    refine ⟨line,ending,?_,quiet,by rw [whole,below]⟩
    rw [written,List.append_assoc,List.singleton_append,lines_unbroken_append plain,closing]
  | cons finding rest =>
    rw [listed] at issues
    obtain ⟨heading,plain,written⟩ := exists_lines_listing colour .red
      (by rfl : "❌ ISSUES FOUND".toList = _) (by decide) (by decide +kernel)
      result.summary.issues issues ((warningsPart colour result).toList ++
        (verdictPart colour result.outcome).toList)
    have indented : ∀ line ∈ (finding :: rest).map itemLine, isItem line = true := by
      intro line member
      obtain ⟨other,-,rfl⟩ := List.mem_map.mp member
      exact isItem_itemLine other
    refine ⟨heading,(finding :: rest).map itemLine ++ [] :: ending,?_,?_,?_⟩
    · simp only [issuesPart,listed,List.isEmpty_cons,Bool.false_eq_true,if_false,written,closing]
    · rw [List.takeWhile_append_of_pos indented,List.takeWhile_cons_of_neg (by decide),
        List.append_nil]
    · rw [List.dropWhile_append_of_pos indented,List.dropWhile_cons_of_neg (by decide),
        List.filter_cons_of_neg (by decide),below]

/-- A report tells the messages and the number of cells that it was made from. -/
theorem told_results (issues : ∀ finding ∈ result.issues, '\n' ∉ finding.message.toList)
    (warnings : ∀ finding ∈ result.warnings, '\n' ∉ finding.message.toList) :
    told (results colour result) =
      ⟨result.issues.map (·.message), result.warnings.map (·.message), result.summary.cells⟩ := by
  obtain ⟨first,rest,written,listed,below⟩ := exists_lines_results colour issues warnings
  have digits : ("VALIDATION RESULTS (" ++ toString result.summary.cells ++ " cells)").toList.filter
      (·.isDigit) = Nat.toDigits 10 result.summary.cells := by
    have number := List.filter_eq_self.mpr (isDigit_toDigits result.summary.cells)
    simpa using number
  simp only [told,written,List.drop_succ_cons,List.drop_zero,listed,below,itemMessages_itemLine,
    List.getElem?_cons_succ,List.getElem?_cons_zero,Option.getD_some,digits,numeral_toDigits]

end

end NotebookLint.Report
