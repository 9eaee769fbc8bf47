import NotebookLint.Proofs.Arguments.Accepted
import NotebookLint.Proofs.Program.Verdict

/-! The first decisive argument wins. Help, the version and every error but those about a notebook
that is missing or empty are given at one argument, and nothing after that argument is read. -/
namespace NotebookLint.Arguments

/-- The kinds of answers to arguments that name no notebook to be checked. -/
inductive Kind where
  | displayHelp
  | displayVersion
  | unknownArgument
  | argumentConflict
  | tooManyValues
  | invalidValue
  | missingRequiredArgument
  deriving DecidableEq, Repr

def Stop.kind : Stop → Kind
  | help | summary => .displayHelp
  | version => .displayVersion
  | unknownFlag _ _ | extraArgument _ => .unknownArgument
  | repeatedFlag => .argumentConflict
  | unexpectedValue _ _ _ => .tooManyValues
  | emptyNotebook => .invalidValue
  | missingNotebook _ => .missingRequiredArgument

def Kind.IsDecisive (kind : Kind) : Prop :=
  kind ∈ [displayHelp, displayVersion, unknownArgument, argumentConflict, tooManyValues]

instance (kind : Kind) : Decidable kind.IsDecisive :=
  inferInstanceAs (Decidable (_ ∈ _))

theorem Stop.isRequest_iff_kind (stop : Stop) : stop.isRequest = true ↔
    stop.kind = .displayHelp ∨ stop.kind = .displayVersion := by
  cases stop <;> simp [isRequest,kind]

/-- A reading, and whether flags are still looked for. -/
abbrev Position := Reading × Bool

def Position.step : Position → String → Except Stop Position
  | (reading, true), word =>
    if word == "--" then .ok (reading, false) else (·, true) <$> reading.take word
  | (reading, false), word => (·, false) <$> reading.takePositional word

theorem readAll_eq_foldlM (position : Position) (written : List String) :
    readAll position.1 position.2 written = Prod.fst <$> written.foldlM Position.step position := by
  induction written generalizing position with
  | nil => rfl
  | cons word rest ih =>
    rw [List.foldlM_cons]
    match position with
    | (reading, true) =>
      by_cases broken : (word == "--") = true
      · rw [readAll,Bool.true_and,if_pos broken,Position.step,if_pos broken]
        exact ih (reading, false)
      · rw [readAll,Bool.true_and,if_neg broken,if_pos rfl,Position.step,if_neg broken]
        cases reading.take word with
        | error stop => rfl
        | ok next => exact ih (next, true)
    | (reading, false) =>
      rw [readAll,Bool.false_and,if_neg Bool.false_ne_true,if_neg Bool.false_ne_true,Position.step]
      cases reading.takePositional word with
      | error stop => rfl
      | ok next => exact ih (next, false)

section
variable {position reached : Position} {written before : List String} {word : String} {stop : Stop}

/-- A run that stops does so at one argument, before which it has not stopped. -/
theorem exists_deciding (stopped : written.foldlM Position.step position = .error stop) :
    ∃ before word after reached, written = before ++ word :: after ∧
      before.foldlM Position.step position = .ok reached ∧ reached.step word = .error stop := by
  induction written generalizing position with
  | nil => cases stopped
  | cons word rest ih =>
    rw [List.foldlM_cons] at stopped
    cases taken : position.step word with
    | error first =>
      rw [taken] at stopped
      exact ⟨[],word,rest,position,rfl,rfl,taken.trans stopped⟩
    | ok next =>
      rw [taken] at stopped
      obtain ⟨before,decider,after,reached,rfl,read,decided⟩ := ih stopped
      refine ⟨word :: before,decider,after,reached,rfl,?_,decided⟩
      rw [List.foldlM_cons,taken]
      exact read

theorem foldlM_of_deciding (read : before.foldlM Position.step position = .ok reached)
    (decided : reached.step word = .error stop) (rest : List String) :
    (before ++ word :: rest).foldlM Position.step position = .error stop := by
  have continued : (before ++ word :: rest).foldlM Position.step position =
      (word :: rest).foldlM Position.step reached := by
    rw [List.foldlM_append,read]
    rfl
  rw [continued,List.foldlM_cons,decided]
  rfl

end

theorem Reading.not_isDecisive_of_finish {reading : Reading} {stop : Stop}
    (stopped : reading.finish = .error stop) : ¬ stop.kind.IsDecisive := by
  obtain ⟨advise,notebook⟩ := reading
  cases notebook with
  | none =>
    cases stopped
    simp [Stop.kind,Kind.IsDecisive]
  | some path =>
    by_cases empty : path = ""
    · subst empty
      cases stopped
      simp [Stop.kind,Kind.IsDecisive]
    · rw [finish,checkNotebook_of_ne (by simpa using empty)] at stopped
      cases stopped

theorem parse_eq_bind (written : List String) : parse written =
    (do let reached ← written.foldlM Position.step (start, true); reached.1.finish) := by
  rw [parse_eq_proceed,Reading.proceed,readAll_eq_foldlM (start, true)]
  cases written.foldlM Position.step (start, true) <;> rfl

section
variable {written before : List String} {reached : Position} {word : String} {stop : Stop}

theorem stopped_of_decisive (stopped : parse written = .error stop)
    (decisive : stop.kind.IsDecisive) :
    written.foldlM Position.step (start, true) = .error stop := by
  rw [parse_eq_bind] at stopped
  cases read : written.foldlM Position.step (start, true) with
  | error first =>
    rw [read] at stopped
    change (Except.error first : Except Stop Arguments) = .error stop at stopped
    cases stopped
    rfl
  | ok reached =>
    rw [read] at stopped
    exact absurd decisive (Reading.not_isDecisive_of_finish stopped)

theorem parse_of_deciding (read : before.foldlM Position.step (start, true) = .ok reached)
    (decided : reached.step word = .error stop) (rest : List String) :
    parse (before ++ word :: rest) = .error stop := by
  rw [parse_eq_bind,foldlM_of_deciding read decided]
  rfl

/-- What the program prints and how it exits is told by the kind and the text of the answer. -/
theorem run_eq_of_kind_of_text {other : List String} {later : Stop}
    (stopped : parse written = .error stop) (also : parse other = .error later)
    (sameKind : later.kind = stop.kind) (sameText : later.text = stop.text)
    (colour colour' : Bool) (contents contents' : String → FileContents) :
    Program.run colour' other contents' = Program.run colour written contents := by
  have requested : later.isRequest = stop.isRequest := by
    rw [Bool.eq_iff_iff,Stop.isRequest_iff_kind,Stop.isRequest_iff_kind,sameKind]
  rw [Program.run_of_stop _ _ _ also,Program.run_of_stop _ _ _ stopped,requested,sameText]

/-- An answer of one of the decisive kinds is the answer to every longer list of arguments too, and
the program prints the same and exits alike, whatever the files hold. It is given at the first
argument that decides anything. -/
theorem parse_append_of_decisive (stopped : parse written = .error stop)
    (decisive : stop.kind.IsDecisive) (more : List String) :
    parse (written ++ more) = .error stop ∧
    (∀ colour colour' contents contents', Program.run colour' (written ++ more) contents' =
      Program.run colour written contents) ∧
    ∃ before word after, written = before ++ word :: after ∧
      (∀ other, parse before = .error other → ¬ other.kind.IsDecisive) ∧
      ∀ rest, parse (before ++ word :: rest) = .error stop := by
  obtain ⟨before,word,after,reached,split,read,decided⟩ :=
    exists_deciding (stopped_of_decisive stopped decisive)
  have settled := parse_of_deciding read decided
  have longer : parse (written ++ more) = .error stop := by
    rw [split,List.append_assoc,List.cons_append]
    exact settled (after ++ more)
  refine ⟨longer,run_eq_of_kind_of_text stopped longer rfl rfl,before,word,after,split,?_,settled⟩
  intro other undecided first
  have early := stopped_of_decisive undecided first
  rw [read] at early
  cases early

/-- An unknown flag behind the flag for advice, with help asked for too late. -/
theorem parse_append_of_unknown_output :
    parse ["--fix-suggestions", "--output=json"] =
      .error (.unknownFlag "--output" (.withFlag .advise)) ∧
    Kind.unknownArgument.IsDecisive ∧
    parse ["--fix-suggestions", "--output=json", "--help", "--"] =
      .error (.unknownFlag "--output" (.withFlag .advise)) := by
  have stopped : parse ["--fix-suggestions", "--output=json"] =
      .error (.unknownFlag "--output" (.withFlag .advise)) := rfl
  exact ⟨stopped,by decide,(parse_append_of_decisive stopped (by decide) ["--help", "--"]).1⟩

end

-- An empty notebook decides nothing: an argument too many is reported before it.
example : [[""], ["", "x"]].map parse = [.error .emptyNotebook, .error (.extraArgument "x")] :=
  rfl

end NotebookLint.Arguments
