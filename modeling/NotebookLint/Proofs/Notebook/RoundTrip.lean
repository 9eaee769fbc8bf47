import Mathlib.Data.List.Forall2
import NotebookLint.Proofs.Notebook.Damage
import NotebookLint.Proofs.Json.Reading

/-! Notebooks come back from their files: whichever JSON a list of cells is put into and however that
JSON is written, the same cells are read from it, in their order. -/
namespace NotebookLint

namespace Json

theorem lookup_of_perm {name : String} {value : Json} {members others : List (String × Json)}
    (permuted : members.Perm ((name, value) :: others)) (unique : ∀ other ∈ others, other.1 ≠ name) :
    lookup name members = some value := by
  have present : (name, value) ∈ members := permuted.mem_iff.mpr (by simp)
  have alone : ∀ member ∈ members, member.1 = name → member = (name, value) := by
    intro member among named
    rcases List.mem_cons.mp (permuted.mem_iff.mp among) with same | other
    · exact same
    · exact absurd named (unique member other)
  unfold lookup
  cases found : members.reverse.find? (·.1 == name) with
  | none =>
    have missing := List.find?_eq_none.mp found (name, value) (by simpa using present)
    simp at missing
  | some member =>
    have among : member ∈ members := by simpa using List.mem_of_find?_eq_some found
    have named : member.1 = name := by simpa using List.find?_some found
    rw [alone member among named]
    rfl

end Json

namespace Notebook

inductive NamesKind : CellKind → String → Prop
  | markdown : NamesKind .markdown "markdown"
  | code : NamesKind .code "code"
  | other {name : String} (noMarkdown : name ≠ "markdown") (noCode : name ≠ "code") :
      NamesKind .other name

/-- A source in fragments: the strings of a list make it up, and what else is in the list adds
nothing. -/
inductive Fragments : String → List Json → Prop
  | nil : Fragments "" []
  | text {source : String} {parts : List Json} (first : String) (rest : Fragments source parts) :
      Fragments (first ++ source) (.string first :: parts)
  | null {source : String} {parts : List Json} (rest : Fragments source parts) :
      Fragments source (.null :: parts)
  | boolean {source : String} {parts : List Json} (value : Bool) (rest : Fragments source parts) :
      Fragments source (.boolean value :: parts)
  | number {source : String} {parts : List Json} (literal : List Char)
      (rest : Fragments source parts) : Fragments source (.number literal :: parts)

inductive HoldsSource (source : String) : Json → Prop
  | whole : HoldsSource source (.string source)
  | fragments {parts : List Json} (parted : Fragments source parts) :
      HoldsSource source (.array parts)

/-- Members that are strings, under none of the names. -/
def Unread (names : List String) (members : List (String × Json)) : Prop :=
  ∀ member ∈ members, member.1 ∉ names ∧ ∃ text, member.2 = .string text

/-- The JSON of a cell, its members in any order and beside members that nothing reads. -/
inductive HoldsCell : CellKind × String → Json → Prop
  | object {kind : CellKind} {name source : String} {json : Json}
      {members others : List (String × Json)} (named : NamesKind kind name)
      (held : HoldsSource source json) (unread : Unread ["cell_type", "source"] others)
      (permuted : members.Perm (("cell_type", .string name) :: ("source", json) :: others)) :
      HoldsCell (kind, source) (.object members)

/-- The JSON of a notebook, likewise. -/
inductive HoldsCells (cells : List (CellKind × String)) : Json → Prop
  | object {items : List Json} {members others : List (String × Json)}
      (held : List.Forall₂ HoldsCell cells items) (unread : Unread ["cells"] others)
      (permuted : members.Perm (("cells", .array items) :: others)) :
      HoldsCells cells (.object members)

/-- Cells are numbered in their order. -/
def numbered (cells : List (CellKind × String)) : Notebook :=
  ⟨cells.mapIdx fun index cell => ⟨index, cell.1, cell.2⟩⟩

theorem ofName_of_namesKind {kind : CellKind} {name : String} (named : NamesKind kind name) :
    CellKind.ofName name = kind := by
  cases named with
  | markdown => rfl
  | code => rfl
  | other noMarkdown noCode => simp [CellKind.ofName]

theorem join_of_fragments {source : String} {parts : List Json} (parted : Fragments source parts) :
    String.join (parts.filterMap Json.string?) = source := by
  induction parted with
  | nil => rfl
  | text first rest ih => simp [Json.string?,String.join_cons,ih]
  | null rest ih => rwa [List.filterMap_cons_none rfl]
  | boolean value rest ih => rwa [List.filterMap_cons_none rfl]
  | number literal rest ih => rwa [List.filterMap_cons_none rfl]

theorem sourceOfJson_of_holdsSource {source : String} {json : Json}
    (held : HoldsSource source json) : Cell.sourceOfJson (some json) = source := by
  cases held with
  | whole => rfl
  | fragments parted => exact join_of_fragments parted

theorem cell_ofJson_of_holdsCell {cell : CellKind × String} {json : Json}
    (held : HoldsCell cell json) (index : Nat) : Cell.ofJson index json = ⟨index, cell.1, cell.2⟩ := by
  obtain ⟨named,held,unread,permuted⟩ := held
  next kind name source json members others =>
  have kindFound : Json.lookup "cell_type" members = some (.string name) := by
    apply Json.lookup_of_perm permuted
    intro other among
    rcases List.mem_cons.mp among with rfl | among
    · simp
    · have apart := (unread other among).1
      simp_all
  have sourceFound : Json.lookup "source" members = some json := by
    apply Json.lookup_of_perm (permuted.trans (.swap _ _ _))
    intro other among
    rcases List.mem_cons.mp among with rfl | among
    · simp
    · have apart := (unread other among).1
      simp_all
  simp only [Cell.ofJson,Json.member?,kindFound,sourceFound,CellKind.ofJson?,Option.bind_some,
    Json.string?,ofName_of_namesKind named,sourceOfJson_of_holdsSource held]

theorem mapIdx_of_forall₂ {cells : List (CellKind × String)} {items : List Json}
    (held : List.Forall₂ HoldsCell cells items) :
    items.mapIdx Cell.ofJson = (numbered cells).cells := by
  have same := List.Forall₂.length_eq held
  apply List.ext_getElem
  · simp [numbered,same]
  · intro index inside _
    rw [List.length_mapIdx] at inside
    have cell := List.Forall₂.get held (same ▸ inside) inside
    simpa [numbered] using cell_ofJson_of_holdsCell cell index

theorem ofJson_of_holdsCells {cells : List (CellKind × String)} {json : Json}
    (held : HoldsCells cells json) : ofJson json = .ok (numbered cells) := by
  obtain ⟨held,unread,permuted⟩ := held
  have found := Json.lookup_of_perm permuted (fun other among => by
    simpa using (unread other among).1)
  simp only [ofJson,found,mapIdx_of_forall₂ held,numbered]

/-- Every text of a notebook is read as the cells of that notebook. Nothing in the JSON of a notebook
lies deeper than a fragment, in a list, in a cell, in the list of cells, in the notebook. -/
theorem parse_written {cells : List (CellKind × String)} {json : Json} {text : String}
    (held : HoldsCells cells json) (written : Json.WritesDocument 4 json text.toList) :
    parse text = .ok (numbered cells) := by
  have shaped := ofJson_of_holdsCells held
  cases held with
  | object _ _ _ =>
    exact (parse_eq_ok_iff _ _).mpr ⟨_,Json.Reader.read_writesDocument (by decide) written,shaped⟩

/-- A cell with its source in fragments, written with escapes of every kind. -/
theorem parse_written_fragments :
    parse (" \x7b\"cells\": [\x7b\"source\":[\"\\u0070\\n\", 7, \"\\uD83d\\uDE00\"]," ++
        " \"cell_type\":\"markdown\"\x7d]\x7d") =
      .ok ⟨[⟨0, .markdown, "p\n😀"⟩]⟩ := by
  have none : Json.IsBlank [] := by simp [Json.IsBlank]
  have space : Json.IsBlank [' '] := by simp [Json.IsBlank]
  have letter : Json.WritesChar 'p' _ :=
    .code (.digits ('0', 0) ('0', 0) ('7', 7) ('0', 0) (by decide))
  have line : Json.WritesChar '\n' ['\\', 'n'] := .short (by decide)
  have face : Json.WritesChar '😀' _ :=
    @Json.WritesChar.pair _ 0xD83D 0xDE00 _ _ (by decide) (by decide) (by decide)
      (.digits ('D', 13) ('8', 8) ('3', 3) ('d', 13) (by decide))
      (.digits ('D', 13) ('E', 14) ('0', 0) ('0', 0) (by decide))
  have first : Json.WritesString "p\n" _ := ⟨_,.cons letter (.cons line .nil),rfl⟩
  have second : Json.WritesString "😀" _ := ⟨_,.cons face .nil,rfl⟩
  have parts : Json.Writes 1 (.array [.string "p\n", .number ['7'], .string "😀"]) _ :=
    .inr (.inl ⟨_,rfl,.full (.more none (.string first) none
      (.more space (.natural 7 (by decide)) none (.last space (.string second) none)))⟩)
  have kind : Json.Writes 1 (.string "markdown") _ :=
    .inl (.string (Json.writesString_plain _ (by decide)))
  have cell : Json.Writes 2 (.object _) _ :=
    .inr (.inr ⟨_,rfl,.full (.more none
      (.named (Json.writesString_plain "source" (by decide)) none none parts) none
      (.last space (.named (Json.writesString_plain "cell_type" (by decide)) none none kind) none))⟩)
  have cells : Json.Writes 4 (.object _) _ :=
    .inr (.inr ⟨_,rfl,.full (.last none
      (.named (Json.writesString_plain "cells" (by decide)) none space
        (.inr (.inl ⟨_,rfl,.full (.last none cell none)⟩))) none)⟩)
  have source : HoldsSource "p\n😀" _ :=
    .fragments (.text "p\n" (.number ['7'] (.text "😀" .nil)))
  exact parse_written (.object (.cons (.object .markdown source (by simp [Unread]) (.swap _ _ _)) .nil)
    (by simp [Unread]) (.refl _)) ⟨_,_,[],space,cells,none,by decide⟩

end Notebook
end NotebookLint
