import NotebookLint.Json.Reader

/-! Runs of the JSON reader without the places that they count: which state a text leads to, if no
character of it is at fault, and what that says about a whole text. -/
namespace NotebookLint.Json

/-- White space of JSON and nothing else. -/
def IsBlank (text : List Char) : Prop :=
  ∀ c ∈ text, c = ' ' ∨ c = '\t' ∨ c = '\n' ∨ c = '\r'

namespace Reader

theorem isBlank_iff (text : List Char) : IsBlank text ↔ text.all isSpace = true := by
  simp [IsBlank,isSpace,or_assoc]

def after (state : State) : List Char → Option State
  | [] => some state
  | c :: rest => match step state c with
    | .next state => after state rest
    | _ => none

theorem after_cons_of_step {state next : State} {c : Char} (stepped : step state c = .next next)
    (rest : List Char) : after state (c :: rest) = after next rest := by
  simp only [after,stepped]

theorem after_append (state : State) (text more : List Char) :
    after state (text ++ more) = (after state text).bind fun state => after state more := by
  induction text generalizing state with
  | nil => rfl
  | cons c rest ih =>
    simp only [List.cons_append,after]
    split
    · exact ih _
    · rfl

theorem after_append_eq_some {state last : State} {text more : List Char}
    (reached : after state (text ++ more) = some last) :
    ∃ middle, after state text = some middle ∧ after middle more = some last := by
  rw [after_append] at reached
  exact Option.bind_eq_some_iff.mp reached

theorem after_induction {holds : State → Prop}
    (kept : ∀ state c next, holds state → step state c = .next next → holds next)
    {state last : State} {text : List Char} (reached : after state text = some last)
    (first : holds state) : holds last := by
  induction text generalizing state with
  | nil => simp_all [after]
  | cons c rest ih =>
    cases stepped : step state c with
    | next next =>
      rw [after_cons_of_step stepped] at reached
      exact ih reached (kept _ _ _ first stepped)
    | faultBefore fault => simp [after,stepped] at reached
    | faultWithin fault bytes => simp [after,stepped] at reached

theorem run_eq_ok_iff (place past : Text.Place) (state last : State) (text : List Char) :
    run place state text = .ok (past, last) ↔
      past = text.foldl Text.Place.past place ∧ after state text = some last := by
  induction text generalizing place state with
  | nil => simp [run,after,eq_comm]
  | cons c rest ih =>
    cases stepped : step state c with
    | next next => simpa only [after,run,stepped,List.foldl_cons] using ih (place.past c) next
    | faultBefore fault => simp [after,run,stepped]
    | faultWithin fault bytes => simp [after,run,stepped]

/-- A text is read as a value where it leads to a state in which that value is complete. -/
theorem read_eq_ok_iff (text : List Char) (value : Json) :
    read text = .ok value ↔ ∃ last, after start text = some last ∧ finish last = .ok value := by
  cases ran : run .start start text with
  | error error =>
    have stuck : ∀ last, after start text ≠ some last := by
      intro last reached
      have done := (run_eq_ok_iff .start _ start last text).mpr ⟨rfl,reached⟩
      rw [ran] at done
      cases done
    simp [read,ran,stuck]
  | ok ended =>
    obtain ⟨place,last⟩ := ended
    have reached := ((run_eq_ok_iff _ _ _ _ _).mp ran).2
    cases finished : finish last <;> simp [read,ran,reached,finished]

theorem read_eq_error_of_forall {text : List Char} (refused : ∀ value, read text ≠ .ok value) :
    ∃ error, read text = .error error := by
  cases result : read text with
  | error error => exact ⟨error,rfl⟩
  | ok value => exact absurd result (refused value)

theorem settle_mode (value : Json) (frames : List Frame) :
    (settle value frames).mode = .separator ∨
      frames = [] ∧ (settle value frames).mode = .done value := by
  unfold settle
  split <;> simp

end Reader
end NotebookLint.Json
