import NotebookLint.Proofs.Style.WordFindings
import NotebookLint.Proofs.Text.BareWord

/-! Writing something else for each reported term of a text, all of them at once. The relation
`Rewritten` says from left to right what comes out; with a table of words the search reports exactly
the terms that it replaces, and no two of them share a place. -/
namespace NotebookLint.Style.Abbreviations
open Text

/-- A reported term: where it begins in a text, and its entry in the table. -/
structure Hit where
  start : Nat
  entry : Abbreviation
  deriving DecidableEq, Repr

namespace Hit

def stop (hit : Hit) : Nat :=
  hit.start + hit.entry.term.toList.length

def covers (hit : Hit) (place : Nat) : Bool :=
  hit.start ≤ place && place < hit.stop

end Hit

def hits (table : List Abbreviation) (text : List Char) : List Hit :=
  table.flatMap fun entry =>
    (bareOccurrences entry.term.toList text).map fun found => ⟨found.start, entry⟩

/-- What stands for one character of a text when its hits are written anew: a hit is written where it
begins, the rest of it is left out, and everything else stays. -/
def writtenAt (hits : List Hit) (write : Abbreviation → List Char) : Char × Nat → List Char
  | (c, place) =>
    match hits.find? (·.start == place) with
    | some hit => write hit.entry
    | none => if hits.any (·.covers place) then [] else [c]

def IsUncrossed (hits : List Hit) (place : Nat) : Prop :=
  ∀ hit ∈ hits, hit.start < place → hit.stop ≤ place

/-- A text with something else written for each reported term. -/
def rewrite (table : List Abbreviation) (write : Abbreviation → List Char) (text : List Char) :
    List Char :=
  text.zipIdx.flatMap (writtenAt (hits table text) write)

/-- A text after the character `before`, and what becomes of it when something else is written for
each term of the table that stands bare in it. -/
inductive Rewritten (table : List Abbreviation) (write : Abbreviation → List Char) :
    Option Char → List Char → List Char → Prop where
  | done (before : Option Char) : Rewritten table write before [] []
  | keep {before : Option Char} {c : Char} {rest result : List Char}
      (nothing : ∀ entry ∈ table, isOpen before = true → ∀ back, isOpen back.head? = true →
        c :: rest ≠ entry.term.toList ++ back)
      (next : Rewritten table write (some c) rest result) :
      Rewritten table write before (c :: rest) (c :: result)
  | replace {before : Option Char} {entry : Abbreviation} {back result : List Char}
      (listed : entry ∈ table) (opens : isOpen before = true) (closes : isOpen back.head? = true)
      (next : Rewritten table write entry.term.toList.getLast? back result) :
      Rewritten table write before (entry.term.toList ++ back) (write entry ++ result)

namespace Rewritten
variable {table : List Abbreviation} {write : Abbreviation → List Char} {before : Option Char}
  {source result : List Char}

/-- A word is copied where no hit can begin in it. -/
theorem of_word (rewritten : Rewritten table write before source result)
    (blocked : isOpen before = false) {word back : List Char} (spelled : word.all isWord)
    (written : result = word ++ back) : ∃ rest, source = word ++ rest ∧ rest.head? = back.head? := by
  induction word generalizing before source result with
  | nil =>
    refine ⟨source,rfl,?_⟩
    cases rewritten with
    | done => rw [← List.nil_append back,← written]
    | keep nothing next => rw [← List.nil_append back,← written]; rfl
    | replace listed opens => simp [opens] at blocked
  | cons w word ih =>
    rw [List.all_cons,Bool.and_eq_true] at spelled
    cases rewritten with
    | done => cases written
    | keep nothing next =>
      obtain ⟨rfl,more⟩ := List.cons.inj written
      obtain ⟨rest,rfl,same⟩ := ih next (not_isOpen_of_isWord spelled.1) spelled.2 more
      exact ⟨rest,rfl,same⟩
    | replace listed opens => simp [opens] at blocked

theorem of_terms (rewritten : Rewritten table (·.term.toList) before source result) :
    result = source := by
  induction rewritten with
  | done => rfl
  | keep _ _ ih => rw [ih]
  | replace _ _ _ _ ih => rw [ih]

end Rewritten

namespace IsUncrossed
variable {hits : List Hit} {place : Nat} (uncrossed : IsUncrossed hits place)
  (unbegun : ∀ hit ∈ hits, hit.start ≠ place)
include uncrossed unbegun

theorem stop_le {hit : Hit} (member : hit ∈ hits) (begun : hit.start ≤ place) : hit.stop ≤ place :=
  uncrossed hit member (Nat.lt_of_le_of_ne begun (unbegun hit member))

theorem writtenAt_eq (write : Abbreviation → List Char) (c : Char) :
    writtenAt hits write (c, place) = [c] := by
  have first : hits.find? (·.start == place) = none := by simpa using unbegun
  have uncovered : hits.any (·.covers place) = false := by
    rw [List.any_eq_false]
    intro hit member
    simpa [Hit.covers] using uncrossed.stop_le unbegun member
  simp [writtenAt,first,uncovered]

theorem succ : IsUncrossed hits (place + 1) := by
  intro hit member begun
  exact Nat.le_succ_of_le (uncrossed.stop_le unbegun member (Nat.le_of_lt_succ begun))

end IsUncrossed

section
variable {rules : Rules} (words : HasWordTerms rules)
include words

theorem mem_hits_iff (text : List Char) (hit : Hit) :
    hit ∈ hits rules.abbreviations text ↔ hit.entry ∈ rules.abbreviations ∧
      ∃ front back, StandsBare text front hit.entry.term.toList back ∧ hit.start = front.length := by
  simp only [hits,List.mem_flatMap,List.mem_map]
  constructor
  · rintro ⟨entry,listed,found,member,rfl⟩
    obtain ⟨present,spelled⟩ := words entry listed
    obtain ⟨front,back,stands,rfl⟩ := (mem_bareOccurrences_iff spelled present text found).mp member
    exact ⟨listed,front,back,stands,rfl⟩
  · rintro ⟨listed,front,back,stands,start⟩
    obtain ⟨present,spelled⟩ := words hit.entry listed
    refine ⟨hit.entry,listed,_,(mem_bareOccurrences_iff spelled present text _).mpr
      ⟨front,back,stands,rfl⟩,?_⟩
    rw [← start]

theorem Hit.eq_of_begins {text : List Char} {hit other : Hit}
    (member : hit ∈ hits rules.abbreviations text) (also : other ∈ hits rules.abbreviations text)
    (within : hit.start ≤ other.start) (inside : other.start < hit.stop) :
    hit.start = other.start ∧ hit.entry.term = other.entry.term := by
  obtain ⟨listed,front,back,stands,start⟩ := (mem_hits_iff words text hit).mp member
  obtain ⟨named,begun,rest,again,place⟩ := (mem_hits_iff words text other).mp also
  rw [Hit.stop,start] at inside
  rw [start,place] at within ⊢
  rw [place] at inside
  obtain ⟨rfl,same⟩ := stands.eq_of_shared (words _ listed).2 again (words _ named).2 within inside
  exact ⟨rfl,String.toList_inj.mp same⟩

theorem IsUncrossed.stop {text : List Char} {hit : Hit}
    (uncrossed : IsUncrossed (hits rules.abbreviations text) hit.start)
    (member : hit ∈ hits rules.abbreviations text) :
    IsUncrossed (hits rules.abbreviations text) hit.stop := by
  intro other also begun
  by_cases earlier : other.start < hit.start
  · exact Nat.le_trans (uncrossed other also earlier) (Nat.le_add_right _ _)
  · obtain ⟨begin,term⟩ := Hit.eq_of_begins words member also (by omega) begun
    exact Nat.le_of_eq (by rw [Hit.stop,Hit.stop,begin,term])

/-- No two hits share a place. -/
theorem Hit.eq_of_covers (distinct : (rules.abbreviations.map (·.term)).Nodup) {text : List Char}
    {hit other : Hit} (member : hit ∈ hits rules.abbreviations text)
    (also : other ∈ hits rules.abbreviations text) {place : Nat} (here : hit.covers place = true)
    (there : other.covers place = true) : hit = other := by
  simp only [Hit.covers,Bool.and_eq_true,decide_eq_true_eq] at here there
  have same : hit.start = other.start ∧ hit.entry.term = other.entry.term := by
    rcases Nat.le_total hit.start other.start with within | within
    · exact Hit.eq_of_begins words member also within (by omega)
    · obtain ⟨start,term⟩ := Hit.eq_of_begins words also member within (by omega)
      exact ⟨start.symm,term.symm⟩
  have entries := List.inj_on_of_nodup_map distinct ((mem_hits_iff words text hit).mp member).1
    ((mem_hits_iff words text other).mp also).1 same.2
  cases hit
  cases other
  simp_all

theorem writtenAt_inside (write : Abbreviation → List Char) {text : List Char} {hit : Hit}
    (member : hit ∈ hits rules.abbreviations text) {place : Nat} (after : hit.start < place)
    (inside : place < hit.stop) (c : Char) :
    writtenAt (hits rules.abbreviations text) write (c, place) = [] := by
  have unbegun : (hits rules.abbreviations text).find? (·.start == place) = none := by
    rw [List.find?_eq_none]
    intro other also begins
    have start : other.start = place := beq_iff_eq.mp begins
    have same := (Hit.eq_of_begins words member also (by omega) (by omega)).1
    omega
  have covered : (hits rules.abbreviations text).any (·.covers place) = true :=
    List.any_eq_true.mpr ⟨hit,member,by simp [Hit.covers,inside,Nat.le_of_lt after]⟩
  simp [writtenAt,unbegun,covered]

theorem flatMap_writtenAt_hit (write : Abbreviation → List Char) {text : List Char} {place : Nat}
    {hit : Hit} (found : (hits rules.abbreviations text).find? (·.start == place) = some hit) :
    (hit.entry.term.toList.zipIdx place).flatMap (writtenAt (hits rules.abbreviations text) write) =
      write hit.entry := by
  have member := List.mem_of_find?_eq_some found
  have start : hit.start = place := by simpa using List.find?_some found
  obtain ⟨present,-⟩ := words hit.entry ((mem_hits_iff words text hit).mp member).1
  cases spelling : hit.entry.term.toList with
  | nil => contradiction
  | cons c rest =>
    have silent : (rest.zipIdx (place + 1)).flatMap
        (writtenAt (hits rules.abbreviations text) write) = [] := by
      rw [List.flatMap_eq_nil_iff]
      rintro ⟨d,inside⟩ among
      obtain ⟨after,before,-⟩ := List.mem_zipIdx among
      apply writtenAt_inside words write member (by omega)
      rw [Hit.stop,spelling,List.length_cons]
      omega
    rw [List.zipIdx_cons,List.flatMap_cons,silent,List.append_nil]
    simp [writtenAt,found]

theorem rewritten_after (write : Abbreviation → List Char) {text : List Char}
    (before rest : List Char) (split : text = before ++ rest)
    (uncrossed : IsUncrossed (hits rules.abbreviations text) before.length) :
    Rewritten rules.abbreviations write before.getLast? rest
      ((rest.zipIdx before.length).flatMap (writtenAt (hits rules.abbreviations text) write)) := by
  -- On what is left of the text: one character of it goes at a time, or a hit as a whole. That no hit
  -- crosses the place is kept either way.
  induction size : rest.length using Nat.strongRecOn generalizing before rest with
  | ind size ih =>
  subst size
  cases rest with
  | nil => exact .done _
  | cons c rest =>
    cases found : (hits rules.abbreviations text).find? (·.start == before.length) with
    | none =>
      have unbegun : ∀ hit ∈ hits rules.abbreviations text, hit.start ≠ before.length := by
        simpa using found
      have next := ih rest.length (by simp) (before ++ [c]) rest (by simp [split])
        (by simpa using uncrossed.succ unbegun) rfl
      rw [List.zipIdx_cons,List.flatMap_cons,uncrossed.writtenAt_eq unbegun]
      refine .keep ?_ (by simpa using next)
      intro entry listed opens back closes same
      refine unbegun ⟨before.length,entry⟩ ?_ rfl
      refine (mem_hits_iff words text _).mpr ⟨listed,before,back,⟨?_,opens,closes⟩,rfl⟩
      rw [split,same,List.append_assoc]
    | some hit =>
      have member := List.mem_of_find?_eq_some found
      have start : hit.start = before.length := by simpa using List.find?_some found
      obtain ⟨listed,front,back,stands,place⟩ := (mem_hits_iff words text hit).mp member
      obtain ⟨present,-⟩ := words hit.entry listed
      have same : before = front ∧ c :: rest = hit.entry.term.toList ++ back := by
        apply List.append_inj _ (start.symm.trans place)
        rw [← split,stands.written,List.append_assoc]
      obtain ⟨rfl,spelled⟩ := same
      have shorter : back.length < (c :: rest).length := by
        have positive : 0 < hit.entry.term.toList.length := List.length_pos_iff.mpr present
        rw [spelled,List.length_append]
        omega
      have further : IsUncrossed (hits rules.abbreviations text)
          (before ++ hit.entry.term.toList).length := by
        rw [List.length_append,← start]
        exact IsUncrossed.stop words (start ▸ uncrossed) member
      have next := ih back.length shorter (before ++ hit.entry.term.toList) back stands.written
        further rfl
      rw [spelled,List.zipIdx_append,List.flatMap_append,flatMap_writtenAt_hit words write found]
      refine .replace listed stands.opens stands.closes ?_
      rw [List.length_append,List.getLast?_append_of_ne_nil _ present] at next
      exact next

theorem rewritten_rewrite (write : Abbreviation → List Char) (text : List Char) :
    Rewritten rules.abbreviations write none text (rewrite rules.abbreviations write text) :=
  rewritten_after words write [] text rfl (by simp [IsUncrossed])

end

end NotebookLint.Style.Abbreviations
