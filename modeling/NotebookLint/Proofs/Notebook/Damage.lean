import NotebookLint.Notebook
import NotebookLint.Proofs.Json.Ending

/-! Damaged notebook files. A text that was cut off before the last brace of its notebook is no JSON,
and neither is one that anything but white space was added to. -/
namespace NotebookLint.Notebook

theorem parse_eq_ok_iff (text : String) (notebook : Notebook) :
    parse text = .ok notebook ↔ ∃ members,
      Json.Reader.read text.toList = .ok (.object members) ∧
        ofJson (.object members) = .ok notebook := by
  unfold parse
  cases read : Json.Reader.read text.toList with
  | error error => simp
  | ok json =>
    cases json with
    | object members => cases shaped : ofJson (.object members) <;> simp [shaped]
    | _ => simp [ofJson]

theorem parse_eq_malformed {text : String} {error : Json.Error}
    (refused : Json.Reader.read text.toList = .error error) :
    parse text = .error (.malformed error) := by
  simp only [parse,refused]

/-- The text of a notebook ends with the brace of its object, perhaps before white space. Every text
that stops short of that brace is malformed. White space may be added to the text, and whatever
else is added makes it malformed. -/
theorem parse_damaged {text : String} {notebook : Notebook} (accepted : parse text = .ok notebook) :
    (∃ body blanks, text.toList = body ++ '\x7d' :: blanks ∧ Json.IsBlank blanks ∧
      ∀ cut : String, cut.toList <+: body → ∃ error, parse cut = .error (.malformed error)) ∧
    ∀ tail : String,
      (Json.IsBlank tail.toList → parse (text ++ tail) = .ok notebook) ∧
      (¬ Json.IsBlank tail.toList → ∃ error, parse (text ++ tail) = .error (.malformed error)) := by
  obtain ⟨members,read,shaped⟩ := (parse_eq_ok_iff _ _).mp accepted
  constructor
  · obtain ⟨body,blanks,split,blank,cuts⟩ := Json.Reader.read_cut_of_object read
    refine ⟨body,blanks,split,(Json.Reader.isBlank_iff _).mpr blank,?_⟩
    intro cut short
    obtain ⟨error,refused⟩ := cuts cut.toList short
    exact ⟨error,parse_eq_malformed refused⟩
  · intro tail
    have whole := Json.Reader.read_append_of_object read tail.toList
    rw [← String.toList_append] at whole
    rw [Json.Reader.isBlank_iff]
    rcases whole with ⟨again,space⟩ | ⟨⟨error,refused⟩,other⟩
    · exact ⟨fun _ => (parse_eq_ok_iff _ _).mpr ⟨members,again,shaped⟩,fun other => absurd space other⟩
    · exact ⟨fun space => by simp [space] at other,fun _ => ⟨error,parse_eq_malformed refused⟩⟩

/-- A notebook that was cut within an escape of a nested object, and one with a brace too many. -/
theorem parse_damaged_metadata :
    parse "\x7b\"info\":\x7b\"n\":\"\\u00e9\"\x7d,\"cells\":[\x7b\x7d]\x7d" =
        .ok ⟨[⟨0, .other, ""⟩]⟩ ∧
      (∃ error, parse "\x7b\"info\":\x7b\"n\":\"\\u00" = .error (.malformed error)) ∧
      ∃ error, parse ("\x7b\"info\":\x7b\"n\":\"\\u00e9\"\x7d,\"cells\":[\x7b\x7d]\x7d" ++ "\x7d") =
        .error (.malformed error) := by
  have accepted :
      parse "\x7b\"info\":\x7b\"n\":\"\\u00e9\"\x7d,\"cells\":[\x7b\x7d]\x7d" =
        .ok ⟨[⟨0, .other, ""⟩]⟩ := by
    decide +kernel
  obtain ⟨⟨body,blanks,split,blank,cuts⟩,tails⟩ := parse_damaged accepted
  refine ⟨accepted,cuts _ ?_,(tails "\x7d").2 (by simp [Json.IsBlank])⟩
  rcases List.eq_nil_or_concat blanks with rfl | ⟨front,last,rfl⟩
  · have front := congrArg List.dropLast split
    rw [List.dropLast_concat] at front
    rw [← front]
    decide +kernel
  · have ends := congrArg List.getLast? split
    rw [List.concat_eq_append,← List.cons_append,← List.append_assoc,List.getLast?_concat] at ends
    have brace : some '\x7d' = some last := ends
    have stays := blank last (by simp)
    simp [← Option.some.inj brace] at stays

end NotebookLint.Notebook
