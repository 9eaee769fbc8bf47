import NotebookLint.Path
import NotebookLint.Report.Layout

/-! What the banner shows of a path: the name of the file that the path ends in, wherever the file is
and whatever slashes and lone dots follow its name. Every other path is shown as it is. -/
namespace NotebookLint

theorem Report.banner_eq (name : String) : banner name =
    "\n" ++ "======================================================================" ++
      "\nValidating: " ++ name ++
      "\n" ++ "======================================================================" ++ "\n" := by
  have lined : rule = "======================================================================" := rfl
  simp [banner,framed,lined,← String.toList_inj]

namespace Path

/-- Slashes, and lone dots after slashes. -/
inductive Idle : List Char → Prop
  | nil : Idle []
  | slash {tail : List Char} : Idle tail → Idle ('/' :: tail)
  | dot {tail : List Char} : Idle tail → Idle ('/' :: '.' :: tail)

/-- A piece of a path that leads somewhere. -/
structure IsStep (piece : List Char) : Prop where
  present : piece ≠ []
  whole : '/' ∉ piece
  notHere : piece ≠ ['.']

structure IsName (name : List Char) : Prop extends IsStep name where
  notAbove : name ≠ ['.', '.']

/-- Behind the piece, which stands at the beginning or after a slash, the path is idle. -/
inductive EndsIn (piece : List Char) : List Char → Prop
  | alone {tail : List Char} : Idle tail → EndsIn piece (piece ++ tail)
  | below (before : List Char) {tail : List Char} : Idle tail →
      EndsIn piece (before ++ '/' :: (piece ++ tail))

/-- Nothing but slashes and lone dots, or `..` at the end. -/
inductive Nameless : List Char → Prop
  | idle {path : List Char} : Idle path → Nameless path
  | here {tail : List Char} : Idle tail → Nameless ('.' :: tail)
  | above {path : List Char} : EndsIn ['.', '.'] path → Nameless path

theorem isStep_above : IsStep ['.', '.'] :=
  ⟨by decide,by decide,by decide⟩

section
variable {c : Char} {piece name tail path : List Char}

theorem IsStep.isName_cons (step : IsStep piece) (plain : c ≠ '/') : IsName (c :: piece) where
  present := List.cons_ne_nil c piece
  whole := List.not_mem_cons_of_ne_of_not_mem plain.symm step.whole
  notHere same := step.present (List.cons.inj same).2
  notAbove same := step.notHere (List.cons.inj same).2

theorem isName_singleton (plain : c ≠ '/') (undotted : c ≠ '.') : IsName [c] where
  present := List.cons_ne_nil c []
  whole := by simpa using plain.symm
  notHere := by simpa using undotted
  notAbove := by simp

/-- A character in front of a path stands in front of its last piece too, or leaves it as it is. -/
theorem EndsIn.cons (ending : EndsIn piece path) (c : Char) :
    EndsIn piece (c :: path) ∨ c ≠ '/' ∧ EndsIn (c :: piece) (c :: path) := by
  cases ending with
  | alone idle =>
    by_cases slash : c = '/'
    · subst slash
      exact .inl (.below [] idle)
    · exact .inr ⟨slash,.alone idle⟩
  | below before idle => exact .inl (.below (c :: before) idle)

theorem Nameless.cons (nameless : Nameless path) (c : Char) :
    (∃ name, IsName name ∧ EndsIn name (c :: path)) ∨ Nameless (c :: path) := by
  cases nameless with
  | idle idle =>
    by_cases slash : c = '/'
    · subst slash
      exact .inr (.idle idle.slash)
    · by_cases dot : c = '.'
      · subst dot
        exact .inr (.here idle)
      · exact .inl ⟨[c],isName_singleton slash dot,.alone idle⟩
  | here idle =>
    by_cases slash : c = '/'
    · subst slash
      exact .inr (.idle idle.dot)
    · by_cases dot : c = '.'
      · subst dot
        exact .inr (.above (.alone idle))
      · refine .inl ⟨[c, '.'],⟨⟨by simp,?_,by simp⟩,by simpa using dot⟩,.alone idle⟩
        simpa using Ne.symm slash
  | above ending =>
    obtain same | ⟨plain,longer⟩ := ending.cons c
    · exact .inr (.above same)
    · exact .inl ⟨_,isStep_above.isName_cons plain,longer⟩

/-- Each path ends in a name or has none. -/
theorem endsIn_or_nameless (path : List Char) :
    (∃ name, IsName name ∧ EndsIn name path) ∨ Nameless path := by
  induction path with
  | nil => exact .inr (.idle .nil)
  | cons c path ih =>
    obtain ⟨name,named,ending⟩ | nameless := ih
    · left
      obtain same | ⟨plain,longer⟩ := ending.cons c
      · exact ⟨name,named,same⟩
      · exact ⟨_,named.isName_cons plain,longer⟩
    · exact nameless.cons c

/-- The pieces of a path that lead somewhere. -/
def steps (path : List Char) : List (List Char) :=
  (pieces path).filter fun piece => piece != [] && piece != ['.']

theorem fileNameOf_eq_filter (path : List Char) :
    fileNameOf path = (steps path).getLast?.filter (· != ['.', '.']) := by
  unfold fileNameOf
  split
  · rename_i above
    change (steps path).getLast? = _ at above
    rw [above]
    rfl
  · rename_i other
    change ¬ (steps path).getLast? = _ at other
    change (steps path).getLast? = _
    cases last : (steps path).getLast? with
    | none => rfl
    | some piece =>
      have elsewhere : piece ≠ ['.', '.'] := by
        intro same
        exact other (last.trans (congrArg some same))
      rw [Option.filter_some,if_pos (by simpa using elsewhere)]

theorem steps_append_slash (before after : List Char) :
    steps (before ++ '/' :: after) = steps before ++ steps after := by
  rw [steps,pieces,List.splitOn_append_cons_self,List.filter_append]
  rfl

theorem IsStep.steps_eq (step : IsStep piece) : steps piece = [piece] := by
  rw [steps,pieces,List.splitOn_eq_singleton step.whole]
  simp [step.present,step.notHere]

theorem Idle.steps_append (idle : Idle tail) (path : List Char) :
    steps (path ++ tail) = steps path := by
  induction idle generalizing path with
  | nil => rw [List.append_nil]
  | @slash tail _ ih =>
    rw [List.append_cons,ih,steps_append_slash]
    exact List.append_nil _
  | @dot tail _ ih =>
    have regrouped : path ++ '/' :: '.' :: tail = (path ++ ['/', '.']) ++ tail := by simp
    rw [regrouped,ih,steps_append_slash]
    exact List.append_nil _

theorem EndsIn.getLast?_steps (ending : EndsIn piece path) (step : IsStep piece) :
    (steps path).getLast? = some piece := by
  cases ending with
  | alone idle => rw [idle.steps_append,step.steps_eq,List.getLast?_singleton]
  | below before idle =>
    rw [steps_append_slash,idle.steps_append,step.steps_eq,List.getLast?_concat]

theorem EndsIn.fileNameOf_eq (ending : EndsIn name path) (named : IsName name) :
    fileNameOf path = some name := by
  rw [fileNameOf_eq_filter,ending.getLast?_steps named.toIsStep,Option.filter_some,
    if_pos (by simpa using named.notAbove)]

theorem Nameless.fileNameOf_eq (nameless : Nameless path) : fileNameOf path = none := by
  rw [fileNameOf_eq_filter]
  cases nameless with
  | idle idle =>
    have nowhere : steps path = steps [] := idle.steps_append []
    rw [nowhere]
    rfl
  | @here tail idle =>
    have nowhere : steps ('.' :: tail) = steps ['.'] := idle.steps_append ['.']
    rw [nowhere]
    rfl
  | above ending =>
    rw [ending.getLast?_steps isStep_above]
    rfl

end

section
variable {name tail path : String}

theorem display_of_endsIn (named : IsName name.toList) (ending : EndsIn name.toList path.toList) :
    display path = name := by
  rw [display,fileName?,ending.fileNameOf_eq named]
  exact String.ofList_toList

theorem display_of_nameless (nameless : Nameless path.toList) : display path = path := by
  rw [display,fileName?,nameless.fileNameOf_eq]
  rfl

theorem display_name_append (named : IsName name.toList) (idle : Idle tail.toList) :
    display (name ++ tail) = name := by
  apply display_of_endsIn named
  rw [String.toList_append]
  exact .alone idle

theorem display_below_append (before : String) (named : IsName name.toList)
    (idle : Idle tail.toList) : display (before ++ "/" ++ name ++ tail) = name := by
  apply display_of_endsIn named
  have spelled : (before ++ "/" ++ name ++ tail).toList =
      before.toList ++ '/' :: (name.toList ++ tail.toList) := by simp
  rw [spelled]
  exact .below before.toList idle

end

/-- The banner of a path that ends in the name of a file is the banner of that name, whatever stands
before the name and whatever slashes and lone dots behind it. A path that ends in no name is shown as
a whole. There are no other paths. -/
theorem banner_display :
    let rule := "======================================================================"
    (∀ before name tail : String, IsName name.toList → Idle tail.toList →
      Report.banner (display (before ++ "/" ++ name ++ tail)) =
        Report.banner (display (name ++ tail)) ∧
      Report.banner (display (name ++ tail)) = Report.banner (display name) ∧
      Report.banner (display name) =
        "\n" ++ rule ++ "\nValidating: " ++ name ++ "\n" ++ rule ++ "\n") ∧
    (∀ path : String, Nameless path.toList → Report.banner (display path) =
      "\n" ++ rule ++ "\nValidating: " ++ path ++ "\n" ++ rule ++ "\n") ∧
    ∀ path : String, (∃ name, IsName name ∧ EndsIn name path.toList) ∨ Nameless path.toList := by
  refine ⟨?_,?_,fun path => endsIn_or_nameless path.toList⟩
  · intro before name tail named idle
    have bare : display name = name := by
      have shown : display (name ++ "") = name := display_name_append named .nil
      rwa [String.append_empty] at shown
    rw [display_below_append before named idle,display_name_append named idle,bare]
    exact ⟨rfl,rfl,Report.banner_eq name⟩
  · intro path nameless
    rw [display_of_nameless nameless]
    exact Report.banner_eq path

/-- A notebook in a folder, with a slash and a dot to spare, and a path up out of a folder. -/
theorem banner_display_folder :
    let rule := "======================================================================"
    IsName "ch02.ipynb".toList ∧ Idle "//.".toList ∧
    Report.banner (display "../books//ch02.ipynb//.") = Report.banner (display "ch02.ipynb//.") ∧
    Report.banner (display "ch02.ipynb//.") = Report.banner (display "ch02.ipynb") ∧
    Report.banner (display "ch02.ipynb") =
      "\n" ++ rule ++ "\nValidating: ch02.ipynb\n" ++ rule ++ "\n" ∧
    Nameless "books/../.".toList ∧
    Report.banner (display "books/../.") =
      "\n" ++ rule ++ "\nValidating: books/../.\n" ++ rule ++ "\n" := by
  have named : IsName "ch02.ipynb".toList :=
    ⟨⟨by decide,by decide,by decide⟩,by decide⟩
  have idle : Idle "//.".toList := .slash (.dot .nil)
  have nameless : Nameless "books/../.".toList := .above (.below "books".toList (.dot .nil))
  obtain ⟨shownName,shownWhole,-⟩ := banner_display
  obtain ⟨far,near,bare⟩ := shownName "../books/" "ch02.ipynb" "//." named idle
  exact ⟨named,idle,far,near,bare.trans (by decide +kernel),nameless,
    (shownWhole _ nameless).trans (by decide +kernel)⟩

end Path
end NotebookLint
