import Mathlib.Data.List.Induction
import Mathlib.Tactic.SplitIfs
import NotebookLint.Proofs.Json.Run

/-! Where the text of an object ends. The one character that completes an object is its closing
brace: no text that stops before it is complete, and only white space may follow it. -/
namespace NotebookLint.Json.Reader

theorem settleName_mode (name : String) (frames : List Frame) :
    (settleName name frames).mode = .colon := by
  unfold settleName
  split <;> rfl

/-- Whether a state that a character leads to, if it leads to one, has a property. -/
def Outcome.Leads (holds : State → Prop) : Outcome → Prop
  | next state => holds state
  | _ => True

theorem leads_of_step {holds : State → Prop} {state next : State} {c : Char}
    (leads : (step state c).Leads holds) (stepped : step state c = .next next) : holds next := by
  rwa [stepped] at leads

theorem leads_ite {holds : State → Prop} {test : Prop} [Decidable test] {yes no : Outcome}
    (met : test → yes.Leads holds) (unmet : ¬test → no.Leads holds) :
    (if test then yes else no).Leads holds := by
  split
  · exact met ‹_›
  · exact unmet ‹_›

/-- A bracket that closes where a value could begin closes an array, and no word stands for an
object. -/
def IsRegular (state : State) : Prop :=
  match state.mode with
  | .value .first => ∃ read outer, state.frames = .items read :: outer
  | .word _ _ value => ∀ members, value ≠ .object members
  | _ => True

/-- A step by `c` that completes an object is one by its closing brace. -/
structure Lands (c : Char) (next : State) : Prop where
  regular : IsRegular next
  closed : ∀ members, next.mode = .done (.object members) → c = '\x7d'

theorem lands_settle {value : Json} (plain : ∀ members, value ≠ .object members)
    (frames : List Frame) (c : Char) : Lands c (settle value frames) := by
  rcases settle_mode value frames with settled | ⟨-,settled⟩
  · exact ⟨by simp [IsRegular,settled],by simp [settled]⟩
  · exact ⟨by simp [IsRegular,settled],by simp [settled,plain]⟩

theorem lands_brace (frames : List Frame) : Lands '\x7d' (close frames) := by
  refine ⟨?_,fun _ _ => rfl⟩
  unfold close
  split
  · exact (lands_settle (by simp) _ '\x7d').regular
  · next read outer =>
    rcases settle_mode (.object read.reverse) outer with settled | ⟨-,settled⟩ <;>
      simp [IsRegular,settled]
  · simp [IsRegular]


theorem beginValue_lands {frames : List Frame} {slot : Slot} (c : Char)
    (regular : IsRegular ⟨frames, .value slot⟩) : (beginValue frames slot c).Leads (Lands c) := by
  unfold beginValue openValue
  refine leads_ite (fun _ => ⟨regular,by simp⟩) (fun _ => ?_)
  refine leads_ite (fun found => ?_) (fun _ => ?_)
  · obtain ⟨-,rfl⟩ : c = ']' ∧ slot = .first := by simpa using found
    obtain ⟨read,outer,rfl⟩ := regular
    exact lands_settle (by simp) _ _
  · repeat' refine leads_ite (fun _ => ?_) (fun _ => ?_)
    all_goals first | trivial | exact ⟨by simp [IsRegular],by simp⟩

theorem betweenValues_lands (frames : List Frame) (c : Char) :
    (betweenValues frames c).Leads (Lands c) := by
  unfold betweenValues
  refine leads_ite (fun _ => ⟨trivial,by simp⟩) (fun _ => ?_)
  split
  · refine leads_ite (fun _ => ⟨trivial,by simp⟩) (fun _ => ?_)
    exact leads_ite (fun _ => lands_settle (by simp) _ _) (fun _ => trivial)
  · refine leads_ite (fun _ => ⟨trivial,by simp⟩) (fun _ => ?_)
    refine leads_ite ?_ (fun _ => trivial)
    rintro rfl
    exact lands_brace _

theorem endNumber_lands (frames : List Frame) (read : List Char) (c : Char) :
    (endNumber frames read c).Leads (Lands c) := by
  unfold endNumber
  refine leads_ite (fun _ => trivial) (fun _ => ?_)
  unfold afterValue afterDocument
  rcases settle_mode (.number read.reverse) frames with settled | ⟨-,settled⟩
  · simp only [settled]
    exact betweenValues_lands _ _
  · simp only [settled]
    exact leads_ite (fun _ => ⟨trivial,by simp⟩) (fun _ => trivial)

theorem stepNumber_lands (frames : List Frame) (phase : Phase) (read : List Char) (c : Char) :
    (stepNumber frames phase read c).Leads (Lands c) := by
  have ended := endNumber_lands frames read c
  have grown (phase : Phase) : Lands c ⟨frames, .number phase (c :: read)⟩ := ⟨trivial,by simp⟩
  unfold stepNumber
  generalize endNumber frames read c = finished at ended ⊢
  cases phase
  all_goals repeat' refine leads_ite (fun _ => ?_) (fun _ => ?_)
  all_goals first | trivial | exact ended | exact grown _

theorem stepString_lands (frames : List Frame) (isName : Bool) (read : List Char)
    (escape : Escape) (c : Char) : (stepString frames isName read escape c).Leads (Lands c) := by
  have stays (read : List Char) (escape : Escape) :
      Lands c ⟨frames, .string isName read escape⟩ := ⟨trivial,by simp⟩
  unfold stepString
  cases escape with
  | none =>
    refine leads_ite (fun _ => ?_) (fun _ => ?_)
    · cases isName
      · exact lands_settle (by simp) _ _
      · have colon := settleName_mode (String.ofList read.reverse) frames
        exact ⟨by simp [IsRegular,colon],by simp [colon]⟩
    · repeat' refine leads_ite (fun _ => ?_) (fun _ => ?_)
      all_goals first | trivial | exact stays _ _
  | backslash =>
    refine leads_ite (fun _ => stays _ _) (fun _ => ?_)
    split
    · exact stays _ _
    · trivial
  | hex high due code =>
    refine leads_ite (fun _ => stays _ _) (fun _ => ?_)
    split
    · trivial
    · unfold endHex
      cases high with
      | none =>
        dsimp only
        split_ifs
        all_goals first | trivial | exact stays _ _
      | some high =>
        dsimp only
        split_ifs
        all_goals first | trivial | exact stays _ _
  | pairBackslash high => exact leads_ite (fun _ => stays _ _) (fun _ => trivial)
  | pairLetter high => exact leads_ite (fun _ => stays _ _) (fun _ => trivial)

theorem step_lands {state : State} (c : Char) (regular : IsRegular state)
    (unfinished : ∀ value, state.mode ≠ .done value) : (step state c).Leads (Lands c) := by
  obtain ⟨frames,mode⟩ := state
  unfold step
  cases mode with
  | value slot => exact beginValue_lands c regular
  | word due left value =>
    refine leads_ite (fun _ => ?_) (fun _ => trivial)
    cases left with
    | nil => exact lands_settle regular _ _
    | cons next left => exact ⟨regular,by simp⟩
  | number phase read => exact stepNumber_lands _ _ _ _
  | string isName read escape => exact stepString_lands _ _ _ _ _
  | name isFirst =>
    unfold beginName
    repeat' refine leads_ite (fun _ => ?_) (fun _ => ?_)
    all_goals first | trivial | exact ⟨trivial,by simp⟩ | skip
    next found =>
      obtain ⟨rfl,-⟩ : c = '\x7d' ∧ isFirst = true := by simpa using found
      exact lands_brace _
  | colon =>
    repeat' refine leads_ite (fun _ => ?_) (fun _ => ?_)
    all_goals first | trivial | exact ⟨trivial,by simp⟩
  | separator => exact betweenValues_lands _ _
  | done value => exact absurd rfl (unfinished value)

theorem isRegular_of_after {state : State} {text : List Char}
    (reached : after start text = some state) : IsRegular state := by
  refine after_induction ?_ reached trivial
  intro state c next regular stepped
  by_cases finished : ∃ value, state.mode = .done value
  · obtain ⟨value,finished⟩ := finished
    refine leads_of_step ?_ stepped
    simp only [step,finished,afterDocument]
    exact leads_ite (fun _ => trivial) (fun _ => trivial)
  · exact (leads_of_step (step_lands c regular (by simpa using finished)) stepped).regular

theorem step_done {state : State} {value : Json} (finished : state.mode = .done value) (c : Char) :
    (∃ next, step state c = .next next ∧ next.mode = .done value) ∧ isSpace c = true ∨
      (∀ next, step state c ≠ .next next) ∧ isSpace c = false := by
  simp only [step,finished,afterDocument,peek]
  cases isSpace c <;> simp

theorem after_done {state : State} {value : Json} (finished : state.mode = .done value)
    (tail : List Char) :
    (∃ last, after state tail = some last ∧ last.mode = .done value) ∧ tail.all isSpace = true ∨
      after state tail = none ∧ tail.all isSpace = false := by
  induction tail generalizing state with
  | nil => exact .inl ⟨⟨state,rfl,finished⟩,rfl⟩
  | cons c rest ih =>
    rcases step_done finished c with ⟨⟨next,stepped,still⟩,space⟩ | ⟨stuck,other⟩
    · simpa only [after_cons_of_step stepped,List.all_cons,space,Bool.true_and] using ih still
    · refine .inr ⟨?_,by simp [other]⟩
      unfold after
      split
      · next next stepped => exact absurd stepped (stuck next)
      · rfl

theorem exists_brace {state : State} {text : List Char} {members : List (String × Json)}
    (reached : after start text = some state) (finished : state.mode = .done (.object members)) :
    ∃ body blanks, text = body ++ '\x7d' :: blanks ∧ blanks.all isSpace = true := by
  -- From the end: white space leaves the object as it is, until its brace completes it.
  induction text using List.reverseRecOn generalizing state with
  | nil =>
    obtain rfl : start = state := by simpa [after] using reached
    simp [start] at finished
  | append_singleton text c ih =>
    obtain ⟨middle,before,last⟩ := after_append_eq_some reached
    have stepped : step middle c = .next state := by
      unfold after at last
      split at last <;> simp_all [after]
    by_cases complete : ∃ value, middle.mode = .done value
    · obtain ⟨value,complete⟩ := complete
      rcases step_done complete c with ⟨⟨next,same,still⟩,space⟩ | ⟨stuck,-⟩
      · obtain rfl : next = state := by simpa [same] using stepped
        obtain rfl : value = .object members := by simpa [still] using finished
        obtain ⟨body,blanks,rfl,blank⟩ := ih before complete
        exact ⟨body,blanks ++ [c],by simp,by simp [blank,space]⟩
      · exact absurd stepped (stuck state)
    · have lands := step_lands c (isRegular_of_after before) (by simpa using complete)
      have brace := (leads_of_step lands stepped).closed members finished
      exact ⟨text,[],by rw [brace],rfl⟩

/-- A number at the top, which nothing but its end tells from a longer one. -/
def IsTopNumber (state : State) : Prop :=
  (∃ phase read, state = ⟨[], .number phase read⟩) ∨ ∃ literal, state.mode = .done (.number literal)

theorem step_isTopNumber {state : State} (c : Char) (number : IsTopNumber state) :
    (step state c).Leads IsTopNumber := by
  rcases number with ⟨phase,read,rfl⟩ | ⟨literal,finished⟩
  · have grown (phase : Phase) : IsTopNumber ⟨[], .number phase (c :: read)⟩ :=
      .inl ⟨phase,c :: read,rfl⟩
    have ended : (endNumber [] read c).Leads IsTopNumber := by
      unfold endNumber
      refine leads_ite (fun _ => trivial) (fun _ => ?_)
      exact leads_ite (fun _ => .inr ⟨read.reverse,rfl⟩) (fun _ => trivial)
    change (stepNumber [] phase read c).Leads IsTopNumber
    unfold stepNumber
    generalize endNumber [] read c = finished at ended ⊢
    cases phase
    all_goals repeat' refine leads_ite (fun _ => ?_) (fun _ => ?_)
    all_goals first | trivial | exact ended | exact grown _
  · simp only [step,finished,afterDocument]
    exact leads_ite (fun _ => .inr ⟨literal,rfl⟩) (fun _ => trivial)

theorem finish_eq_ok {state : State} {value : Json} (finished : finish state = .ok value) :
    state.mode = .done value ∨ IsTopNumber state ∧ ∃ literal, value = .number literal := by
  obtain ⟨frames,mode⟩ := state
  have number (read : List Char) (ended : endOfNumber frames read = .ok value) :
      frames = [] ∧ ∃ literal, value = .number literal := by
    unfold endOfNumber at ended
    split at ended
    · simp at ended
    · split at ended
      · exact ⟨rfl,_,(Except.ok.inj ended).symm⟩
      · simp at ended
      · simp at ended
  cases mode with
  | done value => exact .inl (by simpa [finish] using finished)
  | number phase read =>
    have ended : endOfNumber frames read = .ok value := by cases phase <;> simp_all [finish]
    obtain ⟨rfl,literal⟩ := number read ended
    exact .inr ⟨.inl ⟨phase,read,rfl⟩,literal⟩
  | value slot => cases slot <;> simp [finish] at finished
  | name isFirst => cases isFirst <;> simp [finish] at finished
  | separator =>
    simp only [finish] at finished
    split at finished <;> simp at finished
  | word due left value => simp [finish] at finished
  | string isName read escape => simp [finish] at finished
  | colon => simp [finish] at finished

theorem after_of_read_object {text : List Char} {members : List (String × Json)}
    (accepted : read text = .ok (.object members)) :
    ∃ last, after start text = some last ∧ last.mode = .done (.object members) := by
  obtain ⟨last,reached,finished⟩ := (read_eq_ok_iff _ _).mp accepted
  rcases finish_eq_ok finished with complete | ⟨-,literal,number⟩
  · exact ⟨last,reached,complete⟩
  · cases number

/-- What is cut off before the closing brace of an object is read as no value at all. -/
theorem read_cut_of_object {text : List Char} {members : List (String × Json)}
    (accepted : read text = .ok (.object members)) :
    ∃ body blanks, text = body ++ '\x7d' :: blanks ∧ blanks.all isSpace = true ∧
      ∀ cut, cut <+: body → ∃ error, read cut = .error error := by
  obtain ⟨last,reached,complete⟩ := after_of_read_object accepted
  obtain ⟨body,blanks,rfl,blank⟩ := exists_brace reached complete
  refine ⟨body,blanks,rfl,blank,?_⟩
  rintro cut ⟨more,rfl⟩
  apply read_eq_error_of_forall
  intro value cutRead
  obtain ⟨middle,before,finished⟩ := (read_eq_ok_iff _ _).mp cutRead
  rw [List.append_assoc,after_append,before] at reached
  change after middle (more ++ '\x7d' :: blanks) = some last at reached
  rcases finish_eq_ok finished with complete | ⟨number,-⟩
  -- A value that is complete lets no brace follow.
  · rcases after_done complete (more ++ '\x7d' :: blanks) with ⟨-,space⟩ | ⟨stuck,-⟩
    · simp [isSpace] at space
    · rw [stuck] at reached
      cases reached
  -- A number may go on, but never becomes an object.
  · have kept : ∀ state c next, IsTopNumber state → step state c = .next next → IsTopNumber next :=
      fun _ c _ number stepped => leads_of_step (step_isTopNumber c number) stepped
    rcases after_induction kept reached number with ⟨phase,digits,rfl⟩ | ⟨literal,other⟩
    · cases complete
    · simp_all

/-- What is added to the text of an object is read as the same object if it is white space, and as
no value otherwise. -/
theorem read_append_of_object {text : List Char} {members : List (String × Json)}
    (accepted : read text = .ok (.object members)) (tail : List Char) :
    read (text ++ tail) = .ok (.object members) ∧ tail.all isSpace = true ∨
      (∃ error, read (text ++ tail) = .error error) ∧ tail.all isSpace = false := by
  obtain ⟨last,reached,complete⟩ := after_of_read_object accepted
  have continued : after start (text ++ tail) = after last tail := by
    rw [after_append,reached]
    rfl
  rcases after_done complete tail with ⟨⟨more,further,still⟩,space⟩ | ⟨stuck,other⟩
  · refine .inl ⟨(read_eq_ok_iff _ _).mpr ⟨more,by rw [continued,further],?_⟩,space⟩
    simp only [finish,still]
  · refine .inr ⟨read_eq_error_of_forall ?_,other⟩
    intro value tailRead
    obtain ⟨state,ended,-⟩ := (read_eq_ok_iff _ _).mp tailRead
    rw [continued,stuck] at ended
    cases ended

end NotebookLint.Json.Reader
