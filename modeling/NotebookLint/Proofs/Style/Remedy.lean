import NotebookLint.Proofs.Style.Rewrite

/-! Following the advice about abbreviations. Each reported term is either replaced by its expansion
or put between backticks. In what comes out no term is reported, provided that none is in the
expansions: no word arises where the pieces meet, since a reported term has open neighbours. -/
namespace NotebookLint.Style.Abbreviations
open Text

def expanded (entry : Abbreviation) : List Char :=
  entry.expansion.toList

def quoted (entry : Abbreviation) : List Char :=
  '\x60' :: entry.term.toList ++ ['\x60']

/-- The cell after the advice of the rules is followed in it. -/
def remedied (rules : Rules) (write : Abbreviation → List Char) (cell : Cell) : Cell :=
  { cell with source := String.ofList (rewrite rules.abbreviations write cell.source.toList) }

/-- The advice of the rules can be followed: the terms are distinct words, and no expansion gives
rise to a finding when it is all that a cell says. -/
structure HasSafeAdvice (rules : Rules) : Prop where
  words : HasWordTerms rules
  distinct : (rules.abbreviations.map (·.term)).Nodup
  expansions : ∀ entry ∈ rules.abbreviations, findings rules [⟨0, .markdown, entry.expansion⟩] = []

instance (rules : Rules) : Decidable (HasSafeAdvice rules) :=
  decidable_of_iff (HasWordTerms rules ∧ (rules.abbreviations.map (·.term)).Nodup ∧
      ∀ entry ∈ rules.abbreviations, findings rules [⟨0, .markdown, entry.expansion⟩] = [])
    ⟨fun ⟨words, distinct, expansions⟩ => ⟨words, distinct, expansions⟩,
      fun safe => ⟨safe.words, safe.distinct, safe.expansions⟩⟩

section
variable {rules : Rules} (words : HasWordTerms rules)
include words

namespace Rewritten
variable {write : Abbreviation → List Char} {before : Option Char} {source result : List Char}

theorem head?_eq (rewritten : Rewritten rules.abbreviations write before source result)
    (plain : source.head?.any isWord = false) : result.head? = source.head? := by
  cases rewritten with
  | done => rfl
  | keep => rfl
  | @replace _ entry back result listed opens closes next =>
    -- The source would begin with a word character.
    obtain ⟨present,spelled⟩ := words entry listed
    cases spelling : entry.term.toList with
    | nil => contradiction
    | cons c rest => simp_all

/-- Nothing is left to report, if there is nothing in what is written for the terms. The character
`place` is the one before the result, which need not be the one before the source if the source does
not begin in the middle of a word. -/
theorem not_occursBare (rewritten : Rewritten rules.abbreviations write before source result)
    (clean : ∀ entry ∈ rules.abbreviations, ∀ other ∈ rules.abbreviations,
      ¬ OccursBare none other.term.toList (write entry)) {place : Option Char}
    (continues : place = before ∨ source.head?.any isWord = false) :
    ∀ entry ∈ rules.abbreviations, ¬ OccursBare place entry.term.toList result := by
  intro other named
  obtain ⟨present,spelled⟩ := words other named
  induction rewritten generalizing place with
  | done =>
    rintro ⟨front,back,written,-⟩
    simp_all
  | @keep before c rest result nothing next ih =>
    rintro ⟨front,back,written,opens,closes⟩
    cases front with
    | cons d front =>
      obtain ⟨rfl,more⟩ := List.cons.inj written
      refine ih (.inl rfl) ⟨front,back,more,?_,closes⟩
      simpa [List.getLast?_cons,Option.or_some] using opens
    | nil =>
      cases spelling : other.term.toList with
      | nil => contradiction
      | cons w word =>
        rw [spelling] at written spelled
        rw [List.all_cons,Bool.and_eq_true] at spelled
        obtain ⟨rfl,more⟩ := List.cons.inj written
        obtain rfl : place = before := by simpa [spelled.1] using continues
        -- The rest of the term is in the source, too, where it would then stand bare.
        obtain ⟨tail,rfl,same⟩ := next.of_word (not_isOpen_of_isWord spelled.1) spelled.2 more
        exact nothing other named opens tail (by rwa [same]) (by rw [spelling]; rfl)
  | @replace before entry back result listed opens closes next ih =>
    intro occurs
    have plain := any_isWord_of_isOpen closes
    have seam : result.head?.any isWord = false := by
      rwa [next.head?_eq words plain]
    rcases occurs.of_append spelled seam with inside | after
    · exact clean entry listed other named inside.alone
    · exact ih (.inr plain) after

end Rewritten

theorem cellFindings_eq_nil_iff {cell : Cell} (prose : cell.isMarkdown = true) :
    cellFindings rules cell = [] ↔
      ∀ entry ∈ rules.abbreviations, ¬ OccursBare none entry.term.toList cell.source.toList := by
  rw [cellFindings,if_pos prose,List.flatMap_eq_nil_iff]
  apply forall₂_congr
  intro entry listed
  obtain ⟨present,spelled⟩ := words entry listed
  have named : entry.term.isEmpty = false := by simpa using present
  rw [← bareOccurrences_eq_nil_iff spelled present]
  simp [entryFindings,named]

theorem findings_remedied_eq_nil {write : Abbreviation → List Char}
    (clean : ∀ entry ∈ rules.abbreviations, ∀ other ∈ rules.abbreviations,
      ¬ OccursBare none other.term.toList (write entry)) (cells : List Cell) :
    findings rules (cells.map (remedied rules write)) = [] := by
  rw [findings,List.flatMap_eq_nil_iff]
  intro cell member
  obtain ⟨old,-,rfl⟩ := List.mem_map.mp member
  cases prose : (remedied rules write old).isMarkdown with
  | false => simp [cellFindings,prose]
  | true =>
    rw [cellFindings_eq_nil_iff words prose,remedied,String.toList_ofList]
    exact (rewritten_rewrite words write _).not_occursBare words clean (.inl rfl)

theorem not_occursBare_quoted {entry other : Abbreviation} (listed : entry ∈ rules.abbreviations)
    (named : other ∈ rules.abbreviations) :
    ¬ OccursBare none other.term.toList (quoted entry) := by
  rintro ⟨front,back,written,opens,-⟩
  rw [Option.or_none] at opens
  cases last : front.getLast? with
  | some c =>
    have inside : c ∈ quoted entry := by
      rw [written,List.append_assoc]
      exact List.mem_append_left _ (List.mem_of_getLast? last)
    -- Each character is a backtick or one of a word, so that no neighbour is open.
    have shut : isOpen (some c) = false := by
      simp only [quoted,List.mem_append,List.mem_cons,List.not_mem_nil,or_false] at inside
      rcases inside with (rfl | within) | rfl
      · decide
      · exact not_isOpen_of_isWord (List.all_eq_true.mp (words entry listed).2 c within)
      · decide
    rw [last,shut] at opens
    cases opens
  | none =>
    -- The term would begin with the first backtick.
    obtain rfl := List.getLast?_eq_none_iff.mp last
    obtain ⟨present,spelled⟩ := words other named
    have tick : isWord '\x60' = false := by decide
    cases spelling : other.term.toList with
    | nil => contradiction
    | cons c rest =>
      rw [spelling] at written spelled
      obtain ⟨rfl,-⟩ := List.cons.inj written
      simp [tick] at spelled

end

theorem HasSafeAdvice.not_occursBare_expanded {rules : Rules} (safe : HasSafeAdvice rules)
    {entry other : Abbreviation} (listed : entry ∈ rules.abbreviations)
    (named : other ∈ rules.abbreviations) :
    ¬ OccursBare none other.term.toList (expanded entry) := by
  have silent := safe.expansions entry listed
  rw [findings,List.flatMap_singleton,cellFindings_eq_nil_iff safe.words rfl] at silent
  exact silent other named

/-- When the advice of the rules can be followed, the search reports no two terms at one place, and
with each of them written as it is a text stays the same. With each of them expanded, or with each of
them between backticks, nothing is found any more. The standard rules are such. -/
theorem findings_remedied :
    (∀ rules, HasSafeAdvice rules →
      (∀ text, rewrite rules.abbreviations (·.term.toList) text = text ∧
        ∀ hit ∈ hits rules.abbreviations text, ∀ other ∈ hits rules.abbreviations text,
          ∀ place, hit.covers place = true → other.covers place = true → hit = other) ∧
      ∀ cells : List Cell, findings rules (cells.map (remedied rules expanded)) = [] ∧
        findings rules (cells.map (remedied rules quoted)) = []) ∧
      HasSafeAdvice .standard := by
  refine ⟨?_,by decide +kernel⟩
  intro rules safe
  refine ⟨fun text => ⟨?_,?_⟩,fun cells => ⟨?_,?_⟩⟩
  · exact (rewritten_rewrite safe.words _ text).of_terms
  · intro hit member other also place here there
    exact Hit.eq_of_covers safe.words safe.distinct member also here there
  · apply findings_remedied_eq_nil safe.words
    intro entry listed other named
    exact safe.not_occursBare_expanded listed named
  · apply findings_remedied_eq_nil safe.words
    intro entry listed other named
    exact not_occursBare_quoted safe.words listed named

/-- Beside code and beside an expansion that ends with a mark, the advice clears what was found. -/
theorem findings_remedied_table :
    let rules := { Rules.standard with
      abbreviations := [⟨"SE", "Standard Error"⟩, ⟨"MSE", "(mean squared error)"⟩] }
    let cell : Cell := ⟨4, .markdown, "MSE-SE,\x60SE\x60 RMSE"⟩
    HasSafeAdvice rules ∧ (findings rules [cell]).length = 2 ∧
      remedied rules expanded cell =
        ⟨4, .markdown, "(mean squared error)-Standard Error,\x60SE\x60 RMSE"⟩ ∧
      remedied rules quoted cell =
        ⟨4, .markdown, "\x60MSE\x60-\x60SE\x60,\x60SE\x60 RMSE"⟩ ∧
      findings rules [remedied rules expanded cell] = [] ∧
      findings rules [remedied rules quoted cell] = [] := by
  intro rules cell
  have safe : HasSafeAdvice rules := by decide +kernel
  obtain ⟨whole,cut⟩ := (findings_remedied.1 rules safe).2 [cell]
  exact ⟨safe,by decide +kernel,by decide +kernel,by decide +kernel,whole,cut⟩

end NotebookLint.Style.Abbreviations
