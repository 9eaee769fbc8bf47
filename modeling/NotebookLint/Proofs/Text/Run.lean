import NotebookLint.Text.Blank
import NotebookLint.Text.Digit
import NotebookLint.Text.Search

/-! Runs of characters of one kind. Reading past a run takes as much as there is of it, which is the run
that was written wherever the next character is of another kind. -/
namespace NotebookLint.Text

/-- One or more characters of a kind. -/
structure IsRun (kind : Char → Bool) (run : List Char) : Prop where
  present : run ≠ []
  all : run.all kind = true

instance (kind : Char → Bool) (run : List Char) : Decidable (IsRun kind run) :=
  decidable_of_iff (run ≠ [] ∧ run.all kind = true)
    ⟨fun ⟨present, all⟩ => ⟨present, all⟩, fun run => ⟨run.present, run.all⟩⟩

theorem IsRun.head?_any {kind other : Char → Bool} {run : List Char} (spelled : IsRun kind run)
    (apart : ∀ c, kind c = true → other c = false) (rest : List Char) :
    (run ++ rest).head?.any other = false := by
  cases run with
  | nil => exact absurd rfl spelled.present
  | cons c run => exact apart c (List.all_eq_true.mp spelled.all c List.mem_cons_self)

theorem past_append {kind : Char → Bool} {run rest : List Char} (spelled : IsRun kind run)
    (ends : rest.head?.any kind = false) : past kind (run ++ rest) = some rest := by
  cases run with
  | nil => exact absurd rfl spelled.present
  | cons c run =>
    obtain ⟨first,others⟩ := List.forall_mem_cons.mp (List.all_eq_true.mp spelled.all)
    rw [List.cons_append,past,if_pos first,List.dropWhile_append_of_pos others]
    cases rest with
    | nil => rfl
    | cons d rest => rw [List.dropWhile_cons_of_neg (by simpa using ends)]

theorem exists_run_of_past {kind : Char → Bool} {text rest : List Char}
    (found : past kind text = some rest) : ∃ run, IsRun kind run ∧ text = run ++ rest := by
  cases text with
  | nil => contradiction
  | cons c text =>
    rw [past,Option.ite_none_right_eq_some,Option.some.injEq] at found
    obtain ⟨first,rfl⟩ := found
    refine ⟨c :: text.takeWhile kind,⟨List.cons_ne_nil _ _,?_⟩,?_⟩
    · rw [List.all_cons,first,List.all_takeWhile]
      rfl
    · rw [List.cons_append,List.takeWhile_append_dropWhile]

theorem isSome_past_iff (kind : Char → Bool) (text : List Char) :
    (past kind text).isSome = true ↔ ∃ run rest, IsRun kind run ∧ text = run ++ rest := by
  constructor
  · intro found
    obtain ⟨rest,found⟩ := Option.isSome_iff_exists.mp found
    obtain ⟨run,spelled,written⟩ := exists_run_of_past found
    exact ⟨run,rest,spelled,written⟩
  · rintro ⟨run,rest,spelled,rfl⟩
    cases run with
    | nil => exact absurd rfl spelled.present
    | cons c run =>
      have first : kind c = true := List.all_eq_true.mp spelled.all c List.mem_cons_self
      rw [List.cons_append,past,if_pos first]
      rfl

theorem Ranges.exists_of_contains {runs : List (Nat × Nat)} {code : Nat}
    (inside : contains runs code = true) : ∃ run ∈ runs, run.1 ≤ code ∧ code ≤ run.2 := by
  induction runs with
  | nil => contradiction
  | cons run runs ih =>
    simp only [contains,Bool.and_eq_true,Bool.or_eq_true,decide_eq_true_eq] at inside
    obtain ⟨begun,here | later⟩ := inside
    · exact ⟨run,List.mem_cons_self,begun,here⟩
    · obtain ⟨found,member,bounds⟩ := ih later
      exact ⟨found,List.mem_cons_of_mem _ member,bounds⟩

theorem isBlank_of_isDigit {c : Char} (digit : isDigit c = true) : isBlank c = false := by
  have apart : digitRuns.all (fun digits => blankRuns.all fun blanks =>
      digits.2 < blanks.1 || blanks.2 < digits.1) = true := by
    decide +kernel
  rw [Bool.eq_false_iff]
  intro blank
  obtain ⟨digits,listed,first,last⟩ := Ranges.exists_of_contains digit
  obtain ⟨blanks,member,begins,ends⟩ := Ranges.exists_of_contains blank
  have beside := List.all_eq_true.mp (List.all_eq_true.mp apart digits listed) blanks member
  rw [Bool.or_eq_true,decide_eq_true_eq,decide_eq_true_eq] at beside
  omega

theorem isDigit_of_isBlank {c : Char} (blank : isBlank c = true) : isDigit c = false := by
  rw [← Bool.not_eq_true]
  intro digit
  rw [isBlank_of_isDigit digit] at blank
  contradiction

end NotebookLint.Text
