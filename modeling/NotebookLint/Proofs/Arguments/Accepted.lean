import NotebookLint.Arguments

/-! The argument lists that are accepted. Before the first `--` an argument is the flag for advice,
which may stand there once, or a positional; after it every argument is a positional. There has to be
one positional in all, and it names the notebook. Whatever else is written stops the reading. -/
namespace NotebookLint.Arguments

/-- An argument that nobody takes for a flag: a lone hyphen, or one that does not begin with a
hyphen. -/
def IsPositional (word : String) : Prop :=
  word = "-" ∨ word.toList.head? ≠ some '-'

instance (word : String) : Decidable (IsPositional word) :=
  inferInstanceAs (Decidable (_ ∨ _))

/-- The arguments before the first `--`. -/
def options (written : List String) : List String :=
  written.takeWhile (· != "--")

/-- The arguments after the first `--`. -/
def operands (written : List String) : List String :=
  (written.dropWhile (· != "--")).tail

def positionals (written : List String) : List String :=
  (options written).filter (IsPositional ·) ++ operands written

structure Accepts (written : List String) (arguments : Arguments) : Prop where
  known : ∀ word ∈ options written, word = "--fix-suggestions" ∨ IsPositional word
  once : (options written).count "--fix-suggestions" ≤ 1
  single : positionals written = [arguments.notebook]
  present : arguments.notebook ≠ ""
  advised : arguments.advise = true ↔ "--fix-suggestions" ∈ options written

section
variable (rest : List String)

variable {word : String} (unbroken : word ≠ "--")
include unbroken

theorem options_cons : options (word :: rest) = word :: options rest := by
  rw [options,List.takeWhile_cons_of_pos (by simpa using unbroken)]
  rfl

theorem operands_cons : operands (word :: rest) = operands rest := by
  rw [operands,List.dropWhile_cons_of_pos (by simpa using unbroken)]
  rfl

theorem positionals_cons_of_positional (positional : IsPositional word) :
    positionals (word :: rest) = word :: positionals rest := by
  rw [positionals,options_cons rest unbroken,operands_cons rest unbroken,
    List.filter_cons_of_pos (by simpa using positional)]
  rfl

theorem positionals_cons_of_not_positional (other : ¬ IsPositional word) :
    positionals (word :: rest) = positionals rest := by
  rw [positionals,options_cons rest unbroken,operands_cons rest unbroken,
    List.filter_cons_of_neg (by simpa using other)]
  rfl

end

/-- What comes of a reading when the arguments end. -/
def Reading.finish (reading : Reading) : Except Stop Arguments := do
  reading.checkNotebook
  match reading.notebook with
  | some notebook => .ok ⟨notebook, reading.advise⟩
  | none => .error (.missingNotebook reading.advise)

/-- What comes of a reading with some arguments still to be read. -/
def Reading.proceed (reading : Reading) (flags : Bool) (written : List String) :
    Except Stop Arguments := do
  let reading ← readAll reading flags written
  reading.finish

theorem parse_eq_proceed (written : List String) : parse written = start.proceed true written :=
  rfl

namespace Reading

section
variable {reading : Reading}

theorem checkNotebook_of_ne (present : reading.notebook ≠ some "") :
    reading.checkNotebook = .ok () :=
  if_neg present

theorem checkNotebook_of_empty (empty : reading.notebook = some "") :
    reading.checkNotebook = .error .emptyNotebook :=
  if_pos empty

theorem finish_eq_ok_iff (arguments : Arguments) :
    reading.finish = .ok arguments ↔ reading.notebook.toList = [arguments.notebook] ∧
      arguments.notebook ≠ "" ∧ arguments.advise = reading.advise := by
  obtain ⟨advise,notebook⟩ := reading
  obtain ⟨path,advised⟩ := arguments
  cases notebook with
  | none =>
    have missing : finish ⟨advise, none⟩ = .error (.missingNotebook advise) := rfl
    simp [missing]
  | some written =>
    by_cases empty : written = ""
    · subst empty
      have refused : finish ⟨advise, some ""⟩ = .error .emptyNotebook := rfl
      rw [refused]
      apply iff_of_false (by simp)
      intro ⟨same,present,_⟩
      exact present (List.singleton_inj.mp same).symm
    · have ended : finish ⟨advise, some written⟩ = .ok ⟨written, advise⟩ := by
        rw [finish,checkNotebook_of_ne (by simpa using empty)]
        rfl
      rw [ended,Except.ok.injEq,Arguments.mk.injEq]
      constructor
      · intro ⟨same,flag⟩
        subst same flag
        exact ⟨rfl,empty,rfl⟩
      · intro ⟨same,_,flag⟩
        exact ⟨List.singleton_inj.mp same,flag.symm⟩

end

section
variable (reading : Reading) {word : String}

theorem take_flag : reading.take "--fix-suggestions" =
    (do reading.checkNotebook; reading.takeFlag .advise) :=
  rfl

theorem take_of_positional (positional : IsPositional word) :
    reading.take word = reading.takePositional word := by
  obtain rfl | unflagged := positional
  · rfl
  · unfold take
    split
    · rename_i begins
      exact absurd (congrArg List.head? begins) unflagged
    · rename_i begins
      exact absurd (congrArg List.head? begins) unflagged
    · rfl

/-- Nothing that asks for help or the version leaves anything to be read. -/
theorem exists_stop_after_check (stop : Stop) :
    ∃ first, (do reading.checkNotebook; .error stop : Except Stop Reading) = .error first := by
  by_cases empty : reading.notebook = some ""
  · rw [checkNotebook_of_empty empty]
    exact ⟨_,rfl⟩
  · rw [checkNotebook_of_ne empty]
    exact ⟨_,rfl⟩

theorem exists_stop_of_short (letter : Char) :
    ∃ stop, reading.takeShort letter = .error stop := by
  unfold takeShort
  split
  · exact exists_stop_after_check reading .summary
  · split
    · exact exists_stop_after_check reading .version
    · exact ⟨_,rfl⟩

theorem splitValue_eq_none {written : List Char} {name : String}
    (whole : splitValue written = (name, none)) : name.toList = written := by
  rw [splitValue,Prod.mk.injEq] at whole
  obtain ⟨rfl,unvalued⟩ := whole
  have nothing : written.dropWhile (· != '=') = [] := by
    cases after : written.dropWhile (· != '=') with
    | nil => rfl
    | cons c value => simp [after] at unvalued
  have all := List.takeWhile_append_dropWhile (p := (· != '=')) (l := written)
  rw [nothing,List.append_nil] at all
  rw [String.toList_ofList,all]

theorem exists_stop_of_long {written : List Char}
    (other : written ≠ "--fix-suggestions".toList) :
    ∃ stop, reading.takeLong written = .error stop := by
  unfold takeLong
  cases split : splitValue written with
  | mk name value =>
    dsimp only
    cases found : Flag.ofName? name with
    | none => exact ⟨_,rfl⟩
    | some flag =>
      cases value with
      | some value => exact ⟨_,rfl⟩
      | none =>
        have named : flag.name = name := by simpa using List.find?_some found
        cases flag with
        | advise =>
          rw [← splitValue_eq_none split,← named] at other
          exact absurd rfl other
        | help => exact exists_stop_after_check reading .help
        | version => exact exists_stop_after_check reading .version

theorem exists_stop_of_other (unflagged : word ≠ "--fix-suggestions")
    (other : ¬ IsPositional word) : ∃ stop, reading.take word = .error stop := by
  obtain ⟨long,hyphened⟩ := not_or.mp other
  unfold take
  split
  · rename_i spelled
    apply exists_stop_of_long
    rw [← spelled]
    exact fun same => unflagged (String.toList_inj.mp same)
  · exact exists_stop_of_short reading _
  · rename_i neither
    obtain ⟨rest,spelled⟩ := List.head?_eq_some_iff.mp (Classical.not_not.mp hyphened)
    cases rest with
    | nil => exact absurd (String.toList_inj.mp spelled) long
    | cons letter rest => exact absurd spelled (neither letter rest)

end

section
variable {reading : Reading} {word : String} {rest : List String} {arguments : Arguments}

theorem proceed_eq_ok_of_take {next : Reading} (unbroken : word ≠ "--")
    (taken : reading.take word = .ok next) :
    reading.proceed true (word :: rest) = next.proceed true rest := by
  rw [proceed,readAll,if_neg (by simpa using unbroken),if_pos rfl,taken]
  rfl

theorem proceed_eq_error_of_take {stop : Stop} (unbroken : word ≠ "--")
    (stopped : reading.take word = .error stop) :
    reading.proceed true (word :: rest) = .error stop := by
  rw [proceed,readAll,if_neg (by simpa using unbroken),if_pos rfl,stopped]
  rfl

theorem proceed_flag_eq_ok_iff :
    reading.proceed true ("--fix-suggestions" :: rest) = .ok arguments ↔
      reading.notebook ≠ some "" ∧ reading.advise = false ∧
        Reading.proceed { reading with advise := true } true rest = .ok arguments := by
  have unbroken : "--fix-suggestions" ≠ "--" := by decide
  by_cases empty : reading.notebook = some ""
  · have stopped : reading.take "--fix-suggestions" = .error .emptyNotebook := by
      rw [take_flag,checkNotebook_of_empty empty]
      rfl
    rw [proceed_eq_error_of_take unbroken stopped]
    apply iff_of_false (by simp)
    intro ⟨present,_⟩
    exact present empty
  · have checked : reading.take "--fix-suggestions" = reading.takeFlag .advise := by
      rw [take_flag,checkNotebook_of_ne empty]
      rfl
    cases given : reading.advise with
    | true =>
      have stopped : reading.take "--fix-suggestions" = .error .repeatedFlag := by
        rw [checked,takeFlag,if_pos given]
      rw [proceed_eq_error_of_take unbroken stopped]
      apply iff_of_false (by simp)
      intro ⟨_,unadvised,_⟩
      contradiction
    | false =>
      have taken : reading.take "--fix-suggestions" = .ok { reading with advise := true } := by
        rw [checked,takeFlag,if_neg (by simp [given])]
      rw [proceed_eq_ok_of_take unbroken taken]
      rw [and_iff_right empty,and_iff_right rfl]

theorem proceed_positional_eq_ok_iff (unbroken : word ≠ "--") (positional : IsPositional word) :
    reading.proceed true (word :: rest) = .ok arguments ↔ reading.notebook = none ∧
      Reading.proceed { reading with notebook := some word } true rest = .ok arguments := by
  have taken := take_of_positional reading positional
  cases given : reading.notebook with
  | none =>
    rw [takePositional,if_pos (by simp [given])] at taken
    rw [proceed_eq_ok_of_take unbroken taken]
    simp
  | some first =>
    rw [takePositional,if_neg (by simp [given])] at taken
    rw [proceed_eq_error_of_take unbroken taken]
    simp

theorem proceed_other_ne_ok (unbroken : word ≠ "--") (unflagged : word ≠ "--fix-suggestions")
    (other : ¬ IsPositional word) : reading.proceed true (word :: rest) ≠ .ok arguments := by
  obtain ⟨stop,stopped⟩ := exists_stop_of_other reading unflagged other
  rw [proceed_eq_error_of_take unbroken stopped]
  simp

end

/-- After the first `--` nothing is a flag. -/
theorem proceed_false_eq_ok_iff (reading : Reading) (written : List String)
    (arguments : Arguments) : reading.proceed false written = .ok arguments ↔
      reading.notebook.toList ++ written = [arguments.notebook] ∧ arguments.notebook ≠ "" ∧
        arguments.advise = reading.advise := by
  induction written generalizing reading with
  | nil =>
    rw [List.append_nil]
    exact finish_eq_ok_iff arguments
  | cons word rest ih =>
    obtain ⟨advise,notebook⟩ := reading
    cases notebook with
    | none => exact ih ⟨advise, some word⟩
    | some first =>
      have refused : proceed ⟨advise, some first⟩ false (word :: rest) =
          .error (.extraArgument word) := rfl
      simp [refused]

end Reading

/-- The arguments that are still accepted after others that have been read. -/
structure AcceptsAfter (reading : Reading) (written : List String) (arguments : Arguments) :
    Prop where
  known : ∀ word ∈ options written, word = "--fix-suggestions" ∨ IsPositional word
  once : (options written).count "--fix-suggestions" + reading.advise.toNat ≤ 1
  single : reading.notebook.toList ++ positionals written = [arguments.notebook]
  present : arguments.notebook ≠ ""
  advised : arguments.advise = true ↔
    reading.advise = true ∨ "--fix-suggestions" ∈ options written

section
variable {reading : Reading} {word : String} {written rest : List String} {arguments : Arguments}

theorem acceptsAfter_of_options_eq_nil (plain : options written = []) :
    AcceptsAfter reading written arguments ↔
      reading.notebook.toList ++ positionals written = [arguments.notebook] ∧
        arguments.notebook ≠ "" ∧ arguments.advise = reading.advise := by
  constructor
  · intro accepted
    refine ⟨accepted.single,accepted.present,?_⟩
    rw [Bool.eq_iff_iff,accepted.advised,plain]
    simp
  · intro ⟨single,present,same⟩
    refine ⟨by simp [plain],?_,single,present,by simp [plain,same]⟩
    rw [plain,List.count_nil,Nat.zero_add]
    exact Bool.toNat_le reading.advise

theorem acceptsAfter_flag_iff :
    AcceptsAfter reading ("--fix-suggestions" :: rest) arguments ↔
      reading.notebook ≠ some "" ∧ reading.advise = false ∧
        AcceptsAfter { reading with advise := true } rest arguments := by
  have listed := options_cons rest (by decide : "--fix-suggestions" ≠ "--")
  have skipped := positionals_cons_of_not_positional rest
    (by decide : "--fix-suggestions" ≠ "--") (by decide)
  constructor
  · intro ⟨known,once,single,present,advised⟩
    rw [listed] at known once advised
    rw [skipped] at single
    rw [List.count_cons_self] at once
    have unadvised : reading.advise = false := by
      rw [← Bool.not_eq_true]
      intro given
      rw [given,Bool.toNat_true] at once
      omega
    refine ⟨?_,unadvised,⟨(List.forall_mem_cons.mp known).2,?_,single,present,?_⟩⟩
    · intro empty
      rw [empty] at single
      exact present (List.cons.inj single).1.symm
    · rw [unadvised,Bool.toNat_false] at once
      rw [Bool.toNat_true]
      omega
    · rw [advised]
      simp
  · intro ⟨_,unadvised,⟨known,once,single,present,advised⟩⟩
    constructor
    · rw [listed]
      exact List.forall_mem_cons.mpr ⟨.inl rfl,known⟩
    · rw [listed,List.count_cons_self,unadvised,Bool.toNat_false]
      rw [Bool.toNat_true] at once
      omega
    · rw [skipped]
      exact single
    · exact present
    · rw [listed,advised]
      simp

theorem acceptsAfter_positional_iff (unbroken : word ≠ "--") (positional : IsPositional word) :
    AcceptsAfter reading (word :: rest) arguments ↔ reading.notebook = none ∧
      AcceptsAfter { reading with notebook := some word } rest arguments := by
  have listed := options_cons rest unbroken
  have counted := positionals_cons_of_positional rest unbroken positional
  have unflagged : word ≠ "--fix-suggestions" := by
    intro flag
    rw [flag] at positional
    exact absurd positional (by decide)
  constructor
  · intro ⟨known,once,single,present,advised⟩
    rw [listed] at known once advised
    rw [counted] at single
    rw [List.count_cons_of_ne unflagged] at once
    have unnamed : reading.notebook = none := by
      cases given : reading.notebook with
      | none => rfl
      | some first => simp [given] at single
    rw [unnamed] at single
    refine ⟨unnamed,⟨(List.forall_mem_cons.mp known).2,once,single,present,?_⟩⟩
    rw [advised,List.mem_cons,or_iff_right (Ne.symm unflagged)]
  · intro ⟨unnamed,⟨known,once,single,present,advised⟩⟩
    constructor
    · rw [listed]
      exact List.forall_mem_cons.mpr ⟨.inr positional,known⟩
    · rw [listed,List.count_cons_of_ne unflagged]
      exact once
    · rw [counted,unnamed]
      exact single
    · exact present
    · rw [listed,List.mem_cons,or_iff_right (Ne.symm unflagged)]
      exact advised

theorem not_acceptsAfter_other (unbroken : word ≠ "--") (unflagged : word ≠ "--fix-suggestions")
    (other : ¬ IsPositional word) : ¬ AcceptsAfter reading (word :: rest) arguments := by
  intro accepted
  have known := accepted.known word (by rw [options_cons rest unbroken]; exact List.mem_cons_self)
  exact known.elim unflagged other

end

theorem Reading.proceed_eq_ok_iff (reading : Reading) (written : List String)
    (arguments : Arguments) :
    reading.proceed true written = .ok arguments ↔ AcceptsAfter reading written arguments := by
  induction written generalizing reading with
  | nil =>
    rw [acceptsAfter_of_options_eq_nil rfl]
    exact proceed_false_eq_ok_iff reading [] arguments
  | cons word rest ih =>
    by_cases broken : word = "--"
    · rw [broken,acceptsAfter_of_options_eq_nil rfl]
      exact proceed_false_eq_ok_iff reading rest arguments
    · by_cases flagged : word = "--fix-suggestions"
      · rw [flagged,proceed_flag_eq_ok_iff,acceptsAfter_flag_iff,ih]
      · by_cases positional : IsPositional word
        · rw [proceed_positional_eq_ok_iff broken positional,
            acceptsAfter_positional_iff broken positional,ih]
        · exact iff_of_false (proceed_other_ne_ok broken flagged positional)
            (not_acceptsAfter_other broken flagged positional)

theorem acceptsAfter_start_iff (written : List String) (arguments : Arguments) :
    AcceptsAfter start written arguments ↔ Accepts written arguments := by
  constructor
  · intro ⟨known,once,single,present,advised⟩
    exact ⟨known,once,single,present,advised.trans (or_iff_right Bool.false_ne_true)⟩
  · intro ⟨known,once,single,present,advised⟩
    exact ⟨known,once,single,present,advised.trans (or_iff_right Bool.false_ne_true).symm⟩

/-- An argument list is read as a notebook and a flag just if it names one notebook, and no other
argument than the flag, once at most, stands before the first `--`. Every other list is answered with
an error, with help or with the version. -/
theorem parse_accepts (written : List String) :
    (∀ path advise, parse written = .ok ⟨path, advise⟩ ↔ Accepts written ⟨path, advise⟩) ∧
      ((∃ stop, parse written = .error stop) ↔ ¬ ∃ arguments, Accepts written arguments) := by
  have accepted (arguments : Arguments) :
      parse written = .ok arguments ↔ Accepts written arguments := by
    rw [parse_eq_proceed,Reading.proceed_eq_ok_iff,acceptsAfter_start_iff]
  refine ⟨fun path advise => accepted ⟨path, advise⟩,?_⟩
  simp only [← accepted]
  cases parse written with
  | error stop => simp
  | ok arguments => simp

example : parse ["--fix-suggestions", "--", "--fix-suggestions"] =
    .ok ⟨"--fix-suggestions", true⟩ :=
  rfl

end NotebookLint.Arguments
