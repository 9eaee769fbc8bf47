import NotebookLint.Program
import NotebookLint.Proofs.Lint.Split

/-! What a run of the program prints and how it exits. The exit status is told by the arguments, the
file and two of the checks, and the verdict at the end of the report agrees with it. -/
namespace NotebookLint

theorem Arguments.Stop.isRequest_iff (stop : Stop) :
    stop.isRequest = true ↔ stop ∈ [Stop.help, .summary, .version] := by
  cases stop <;> simp [isRequest]

theorem Notebook.load_eq_ok_iff (contents : FileContents) (notebook : Notebook) :
    load contents = .ok notebook ↔ ∃ bytes text, contents = .ok bytes ∧
      String.fromUTF8? bytes = some text ∧ parse text = .ok notebook := by
  unfold load FileContents.text
  cases contents with
  | error error =>
    simp only
    split <;> simp
  | ok bytes =>
    cases decoded : String.fromUTF8? bytes with
    | none => simp [decoded,ReadError.isAbsence]
    | some text => cases parsed : parse text <;> simp [decoded,parsed]

theorem Notebook.load_toUTF8 {text : String} {notebook : Notebook}
    (parsed : parse text = .ok notebook) : load (.ok text.toUTF8) = .ok notebook := by
  simp only [load,FileContents.text_toUTF8,parsed]

namespace Report

/-- A verdict as it is printed. -/
def shownVerdict (colour : Bool) (outcome : Outcome) : String :=
  if colour then bold (verdict outcome) else verdict outcome

theorem verdict_eq_fail_iff (outcome : Outcome) :
    verdict outcome = verdict .fail ↔ outcome = .fail := by
  cases outcome with
  | clean | passWithWarnings => simp [verdict,← String.toList_inj]
  | fail => simp

theorem shownVerdict_eq_fail_iff (colour : Bool) (outcome : Outcome) :
    shownVerdict colour outcome = shownVerdict colour .fail ↔ outcome = .fail := by
  rw [← verdict_eq_fail_iff]
  cases colour <;> simp [shownVerdict,bold]

theorem shownVerdict_unbroken (colour : Bool) (outcome : Outcome) :
    '\n' ∉ (shownVerdict colour outcome).toList := by
  have unbroken : '\n' ∉ (verdict outcome).toList := by cases outcome <;> decide +kernel
  cases colour <;> simp [shownVerdict,bold,escape,unbroken]

theorem results_eq_append (colour : Bool) (result : LintResult) : ∃ before,
    results colour result = before ++ framed (shownVerdict colour result.outcome) :=
  ⟨_,rfl⟩

end Report

namespace Program

/-- The line of the verdict in what a run has printed: below it there are only the rule and the ends
of the report and of its line. -/
def verdictLine? (output : String) : Option (List Char) :=
  (Text.lines output.toList).reverse[3]?

theorem verdictLine?_framed (before : String) {text : String} (unbroken : '\n' ∉ text.toList) :
    verdictLine? (before ++ line (Report.framed text)) = some text.toList := by
  have rule : '\n' ∉ Report.rule.toList := by decide +kernel
  have split : (before ++ line (Report.framed text)).toList =
      (before.toList ++ '\n' :: Report.rule.toList) ++ '\n' :: (text.toList ++ '\n' ::
        (Report.rule.toList ++ '\n' :: ([] ++ '\n' :: []))) := by
    simp [line,Report.framed]
  unfold verdictLine?
  simp only [split,Text.lines_append,Text.lines_of_unbroken unbroken,Text.lines_of_unbroken rule]
  simp [Text.lines]

theorem verdictLine?_checked (colour : Bool) (arguments : Arguments) (notebook : Notebook) :
    verdictLine? (checked colour arguments notebook).output =
      some (Report.shownVerdict colour
        (lint .standard arguments.advise notebook).outcome).toList := by
  obtain ⟨before,report⟩ :=
    Report.results_eq_append colour (lint .standard arguments.advise notebook)
  have ending (front : String) : front ++ line (Report.results colour
      (lint .standard arguments.advise notebook)) = (front ++ before) ++
        line (Report.framed (Report.shownVerdict colour
          (lint .standard arguments.advise notebook).outcome)) := by
    rw [report,line,line,String.append_assoc,String.append_assoc]
  simp only [checked,ending]
  exact verdictLine?_framed _ (Report.shownVerdict_unbroken colour _)

theorem checked_status_eq_zero_iff (colour : Bool) (arguments : Arguments) (notebook : Notebook) :
    (checked colour arguments notebook).status = 0 ↔
      Style.Abbreviations.findings .standard notebook.cells = [] ∧
        Style.Discipline.findings .standard arguments.advise notebook.cells = [] := by
  rw [← List.append_eq_nil_iff]
  change _ ↔ Check.abbreviations.findings .standard arguments.advise notebook.cells ++
    Check.discipline.findings .standard arguments.advise notebook.cells = []
  rw [← lint_issues,← LintResult.passed_eq_true_iff]
  simp [checked]

section
variable (colour : Bool) (written : List String) (contents : String → FileContents)

theorem run_of_stop {stop : Arguments.Stop} (stopped : Arguments.parse written = .error stop) :
    run colour written contents = ⟨if stop.isRequest then 0 else 1, stop.text⟩ := by
  simp only [run,stopped]

theorem run_of_failure {arguments : Arguments} {error : Notebook.LoadError}
    (parsed : Arguments.parse written = .ok arguments)
    (failed : Notebook.load (contents arguments.notebook) = .error error) :
    run colour written contents =
      ⟨1, line (Report.errorMark colour ++ " " ++ error.message arguments.notebook)⟩ := by
  simp only [run,parsed,check,failed]

theorem run_of_notebook {arguments : Arguments} {notebook : Notebook}
    (parsed : Arguments.parse written = .ok arguments)
    (loaded : Notebook.load (contents arguments.notebook) = .ok notebook) :
    run colour written contents = checked colour arguments notebook := by
  simp only [run,parsed,check,loaded]

theorem status_cases : (run colour written contents).status = 0 ∨
    (run colour written contents).status = 1 := by
  cases parsed : Arguments.parse written with
  | error stop =>
    rw [run_of_stop colour written contents parsed]
    cases stop.isRequest <;> simp
  | ok arguments =>
    cases loaded : Notebook.load (contents arguments.notebook) with
    | error error =>
      rw [run_of_failure colour written contents parsed loaded]
      exact .inr rfl
    | ok notebook =>
      rw [run_of_notebook colour written contents parsed loaded]
      simp only [checked]
      cases (lint .standard arguments.advise notebook).passed <;> simp

theorem status_eq_zero_iff : (run colour written contents).status = 0 ↔
    (∃ stop ∈ [Arguments.Stop.help, .summary, .version],
      Arguments.parse written = .error stop) ∨
    ∃ arguments bytes text notebook, Arguments.parse written = .ok arguments ∧
      contents arguments.notebook = .ok bytes ∧ String.fromUTF8? bytes = some text ∧
      Notebook.parse text = .ok notebook ∧
      Style.Abbreviations.findings .standard notebook.cells = [] ∧
      Style.Discipline.findings .standard arguments.advise notebook.cells = [] := by
  constructor
  · intro passed
    cases parsed : Arguments.parse written with
    | error stop =>
      rw [run_of_stop colour written contents parsed] at passed
      refine .inl ⟨stop,(Arguments.Stop.isRequest_iff stop).mp ?_,rfl⟩
      by_contra other
      simp [other] at passed
    | ok arguments =>
      cases loaded : Notebook.load (contents arguments.notebook) with
      | error error =>
        rw [run_of_failure colour written contents parsed loaded] at passed
        cases passed
      | ok notebook =>
        rw [run_of_notebook colour written contents parsed loaded] at passed
        obtain ⟨bytes,text,read,decoded,accepted⟩ := (Notebook.load_eq_ok_iff _ _).mp loaded
        exact .inr ⟨arguments,bytes,text,notebook,rfl,read,decoded,accepted,
          (checked_status_eq_zero_iff colour arguments notebook).mp passed⟩
  · rintro (⟨stop,requested,parsed⟩ |
      ⟨arguments,bytes,text,notebook,parsed,read,decoded,accepted,clean⟩)
    · rw [run_of_stop colour written contents parsed,
        (Arguments.Stop.isRequest_iff stop).mpr requested]
      rfl
    · have loaded := (Notebook.load_eq_ok_iff _ _).mpr ⟨bytes,text,read,decoded,accepted⟩
      rw [run_of_notebook colour written contents parsed loaded]
      exact (checked_status_eq_zero_iff colour arguments notebook).mpr clean

theorem verdictLine?_run {arguments : Arguments} {notebook : Notebook}
    (parsed : Arguments.parse written = .ok arguments)
    (loaded : Notebook.load (contents arguments.notebook) = .ok notebook) :
    verdictLine? (run colour written contents).output =
        some (Report.shownVerdict colour .fail).toList ↔
      (run colour written contents).status = 1 := by
  rw [run_of_notebook colour written contents parsed loaded,verdictLine?_checked,
    Option.some_inj,String.toList_inj,Report.shownVerdict_eq_fail_iff]
  cases judged : (lint .standard arguments.advise notebook).outcome <;>
    simp [checked,LintResult.passed,judged,Outcome.passed]

/-- The program exits with 0 or 1. It exits with 0 when help or the version is asked for, and when
the notebook can be read and has neither bare abbreviations nor cells that are too long by the
standard rules. A run that reads its notebook prints the note on a notebook without cells, the
banner, what it checks for and the report, in which the verdict is the failing one when it exits
with 1; a run that cannot read it prints one error. -/
theorem run_verdict :
    ((run colour written contents).status = 0 ∨ (run colour written contents).status = 1) ∧
    ((run colour written contents).status = 0 ↔
      (∃ stop ∈ [Arguments.Stop.help, .summary, .version],
        Arguments.parse written = .error stop) ∨
      ∃ arguments bytes text notebook, Arguments.parse written = .ok arguments ∧
        contents arguments.notebook = .ok bytes ∧ String.fromUTF8? bytes = some text ∧
        Notebook.parse text = .ok notebook ∧
        Style.Abbreviations.findings .standard notebook.cells = [] ∧
        Style.Discipline.findings .standard arguments.advise notebook.cells = []) ∧
    (∀ arguments notebook, Arguments.parse written = .ok arguments →
      Notebook.load (contents arguments.notebook) = .ok notebook →
        (run colour written contents).output =
          (if notebook.cells = [] then line (Report.noteMark colour ++ " Notebook has no cells.")
            else "") ++
          line (Report.banner (Path.display arguments.notebook)) ++
          (line "Checking for abbreviations..." ++
            line "Checking for motivation paragraphs..." ++
            line "Checking code cell line discipline..." ++
            line "Checking for translation comments...") ++
          line (Report.results colour (lint .standard arguments.advise notebook)) ∧
        (verdictLine? (run colour written contents).output =
            some (Report.shownVerdict colour .fail).toList ↔
          (run colour written contents).status = 1)) ∧
    (∀ arguments error, Arguments.parse written = .ok arguments →
      Notebook.load (contents arguments.notebook) = .error error →
        (run colour written contents).output =
          line (Report.errorMark colour ++ " " ++ error.message arguments.notebook)) := by
  refine ⟨status_cases colour written contents,status_eq_zero_iff colour written contents,?_,?_⟩
  · intro arguments notebook parsed loaded
    refine ⟨?_,verdictLine?_run colour written contents parsed loaded⟩
    rw [run_of_notebook colour written contents parsed loaded]
    simp [checked,Notebook.isEmpty,Check.all,Check.label,String.join]
  · intro arguments error parsed failed
    rw [run_of_failure colour written contents parsed failed]

end

/-- The text of a notebook with one code cell of three lines. -/
def longCellText : String :=
  "\x7b\"cells\":[\x7b\"cell_type\":\"code\"," ++ "\"source\":\"a = 1\\nb = 2\\nc = 3\"\x7d]\x7d"

/-- A notebook with one cell that is too long fails with the failing verdict, a notebook without cells
passes with a note, and a path that leads nowhere fails with one error. -/
theorem run_verdict_three_runs :
    let rule := "======================================================================"
    let ran contents := run false ["nb.ipynb"] fun _ => contents
    Arguments.parse ["nb.ipynb"] = .ok ⟨"nb.ipynb", false⟩ ∧
    Notebook.load (.ok longCellText.toUTF8) = .ok ⟨[⟨0, .code, "a = 1\nb = 2\nc = 3"⟩]⟩ ∧
    verdictLine? (ran (.ok longCellText.toUTF8)).output =
      some "❌ Notebook has issues that should be fixed".toList ∧
    (ran (.ok longCellText.toUTF8)).status = 1 ∧
    Notebook.load (.ok "\x7b\x7d".toUTF8) = .ok ⟨[]⟩ ∧
    (ran (.ok "\x7b\x7d".toUTF8)).status = 0 ∧
    (ran (.ok "\x7b\x7d".toUTF8)).output =
      "▲ note: Notebook has no cells.\n" ++
      "\n" ++ rule ++ "\nValidating: nb.ipynb\n" ++ rule ++ "\n\n" ++
      "Checking for abbreviations...\nChecking for motivation paragraphs...\n" ++
      "Checking code cell line discipline...\nChecking for translation comments...\n" ++
      "\n" ++ rule ++ "\nVALIDATION RESULTS (0 cells)\n" ++ rule ++ "\n\n" ++
      "✅ No critical issues found!\n" ++
      "\n" ++ rule ++ "\n✅ Notebook passes all validation checks!\n" ++ rule ++ "\n\n" ∧
    (ran (.error .notFound)).status = 1 ∧
    (ran (.error .notFound)).output = "✖ error: Notebook not found at nb.ipynb\n" := by
  intro rule ran
  have parsed : Arguments.parse ["nb.ipynb"] = .ok ⟨"nb.ipynb", false⟩ := rfl
  have long : Notebook.load (.ok longCellText.toUTF8) =
      .ok ⟨[⟨0, .code, "a = 1\nb = 2\nc = 3"⟩]⟩ := Notebook.load_toUTF8 rfl
  have empty : Notebook.load (.ok "\x7b\x7d".toUTF8) = .ok ⟨[]⟩ := Notebook.load_toUTF8 rfl
  obtain ⟨bytes,text,same,decoded,accepted⟩ := (Notebook.load_eq_ok_iff _ _).mp empty
  obtain ⟨-,-,printed,-⟩ := run_verdict false ["nb.ipynb"] fun _ => .ok longCellText.toUTF8
  obtain ⟨-,passes,noted,-⟩ := run_verdict false ["nb.ipynb"] fun _ => .ok "\x7b\x7d".toUTF8
  obtain ⟨-,-,-,refused⟩ := run_verdict false ["nb.ipynb"] fun _ => .error .notFound
  have failed : (ran (.ok longCellText.toUTF8)).status = 1 := by decide +kernel
  refine ⟨parsed,long,(printed _ _ parsed long).2.mpr failed,failed,empty,?_,?_,by decide +kernel,?_⟩
  · exact passes.mpr (.inr ⟨_,bytes,text,_,parsed,same,decoded,accepted,rfl,rfl⟩)
  · rw [(noted _ _ parsed empty).1]
    decide +kernel
  · rw [refused _ .notFound parsed rfl]
    decide +kernel

end Program
end NotebookLint
