import NotebookLint.Rules.Basic

/-! Small letters. What is put in place of a capital letter has no small letter but itself, so the lower
case of a text is its own lower case. -/
namespace NotebookLint

namespace Text

/-- A code point is that of a capital letter of a run. -/
structure CaseRun.Holds (run : CaseRun) (code : Nat) : Prop where
  begun : run.first ≤ code
  inside : code ≤ run.last
  placed : (code - run.first) % run.step = 0

/-- The small letters of a run lie outside of all runs of a table, or alternate with the capital letters
there. As in the search for a small letter, the first run that begins beyond them ends the test. -/
def CaseRun.isClearOf (run : CaseRun) : List CaseRun → Bool
  | [] => true
  | other :: runs =>
    run.image + (run.last - run.first) < other.first ||
      ((other.last < run.image ||
        other.step == 2 && (run.step == 2 || run.first == run.last) &&
          run.image % 2 != other.first % 2) && run.isClearOf runs)

theorem lowerCode_cases (runs : List CaseRun) (code : Nat) :
    lowerCode runs code = code ∨
      ∃ run ∈ runs, run.Holds code ∧ lowerCode runs code = run.image + (code - run.first) := by
  induction runs with
  | nil => exact .inl rfl
  | cons run runs ih =>
    rw [lowerCode]
    split
    · exact .inl rfl
    · rename_i begun
      split
      · rename_i inside
        rw [Bool.and_eq_true,decide_eq_true_eq,beq_iff_eq] at inside
        exact .inr ⟨run,List.mem_cons_self,⟨by omega,inside.1,inside.2⟩,rfl⟩
      · refine ih.imp_right ?_
        rintro ⟨later,member,found⟩
        exact ⟨later,List.mem_cons_of_mem _ member,found⟩

theorem CaseRun.Holds.lowerCode_image {run : CaseRun} {code : Nat} (capital : run.Holds code)
    {runs : List CaseRun} (clear : run.isClearOf runs = true) :
    lowerCode runs (run.image + (code - run.first)) = run.image + (code - run.first) := by
  have inside := capital.inside
  have placed := capital.placed
  induction runs with
  | nil => rfl
  | cons other runs ih =>
    simp only [isClearOf,Bool.or_eq_true,Bool.and_eq_true,decide_eq_true_eq,beq_iff_eq,
      bne_iff_ne] at clear
    rw [lowerCode]
    split
    · rfl
    · rename_i begun
      rcases clear with beyond | ⟨apart,rest⟩
      · omega
      · rw [if_neg,ih rest]
        rw [Bool.and_eq_true,decide_eq_true_eq,beq_iff_eq]
        rintro ⟨also,turn⟩
        rcases apart with before | ⟨⟨two,steps⟩,other_turn⟩
        · omega
        · rw [two] at turn
          rcases steps with steps | single
          · rw [steps] at placed
            omega
          · omega

theorem caseRuns_clear : caseRuns.all (·.isClearOf caseRuns) = true := by
  decide +kernel

theorem lowerCode_lowerCode (code : Nat) :
    lowerCode caseRuns (lowerCode caseRuns code) = lowerCode caseRuns code := by
  rcases lowerCode_cases caseRuns code with same | ⟨run,member,capital,image⟩
  · rw [same,same]
  · rw [image]
    exact capital.lowerCode_image (List.all_eq_true.mp caseRuns_clear run member)

/-- A character that is its own small letter. -/
def IsSmall (c : Char) : Prop :=
  lowerChar c = [c]

instance (c : Char) : Decidable (IsSmall c) :=
  inferInstanceAs (Decidable (_ = _))

/-- The capital I with a dot above is the small letter of nothing. -/
theorem lowerCode_ne_dotted {code : Nat} (other : code ≠ 'İ'.toNat) :
    lowerCode caseRuns code ≠ 'İ'.toNat := by
  have beside : caseRuns.all (fun run =>
      run.image + (run.last - run.first) < 'İ'.toNat || 'İ'.toNat < run.image) = true := by
    decide +kernel
  rcases lowerCode_cases caseRuns code with same | ⟨run,member,capital,image⟩
  · rwa [same]
  · have away := List.all_eq_true.mp beside run member
    rw [Bool.or_eq_true,decide_eq_true_eq,decide_eq_true_eq] at away
    have inside := capital.inside
    rw [image]
    omega

theorem isSmall_of_mem_lowerChar {c d : Char} (lowered : d ∈ lowerChar c) : IsSmall d := by
  by_cases dotted : c = 'İ'
  · rw [lowerChar,if_pos dotted,List.mem_cons,List.mem_singleton] at lowered
    rcases lowered with rfl | rfl <;> decide +kernel
  · rw [lowerChar,if_neg dotted,List.mem_singleton] at lowered
    by_cases valid : (lowerCode caseRuns c.toNat).isValidChar
    · have code : d.toNat = lowerCode caseRuns c.toNat := by
        rw [lowered,Char.ofNat,dif_pos valid]
        rfl
      have undotted : d ≠ 'İ' := by
        intro same
        apply lowerCode_ne_dotted (fun same => dotted (Char.toNat_inj.mp same))
        rw [← code,same]
      rw [IsSmall,lowerChar,if_neg undotted,code,lowerCode_lowerCode,← lowered]
    · rw [Char.ofNat,dif_neg valid] at lowered
      subst lowered
      decide +kernel

theorem IsSmall.ne_sigma {c : Char} (small : IsSmall c) : c ≠ 'Σ' := by
  rintro rfl
  revert small
  decide +kernel

theorem isSmall_of_mem_lowercaseAfter {cased : Bool} {text : List Char} {c : Char}
    (lowered : c ∈ lowercaseAfter cased text) : IsSmall c := by
  induction text generalizing cased with
  | nil => contradiction
  | cons first rest ih =>
    rw [lowercaseAfter] at lowered
    split at lowered
    · rcases List.mem_cons.mp lowered with rfl | later
      · split <;> decide +kernel
      · exact ih later
    · rcases List.mem_append.mp lowered with here | later
      · exact isSmall_of_mem_lowerChar here
      · exact ih later

theorem lowercaseAfter_of_isSmall (cased : Bool) {text : List Char} (small : ∀ c ∈ text, IsSmall c) :
    lowercaseAfter cased text = text := by
  induction text generalizing cased with
  | nil => rfl
  | cons first rest ih =>
    obtain ⟨first_small,rest_small⟩ := List.forall_mem_cons.mp small
    rw [lowercaseAfter,if_neg first_small.ne_sigma,first_small,ih _ rest_small,List.singleton_append]

theorem lowercase_lowercase (text : List Char) : lowercase (lowercase text) = lowercase text :=
  lowercaseAfter_of_isSmall false fun _ lowered => isSmall_of_mem_lowercaseAfter lowered

end Text

theorem lowercase_lowercase (text : String) : lowercase (lowercase text) = lowercase text := by
  simp only [lowercase,String.toList_ofList,Text.lowercase_lowercase]

end NotebookLint
