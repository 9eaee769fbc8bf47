import Mathlib.Data.List.Forall2
import Mathlib.Data.List.Nodup
import NotebookLint.Rules.Source

/-! What a configuration sets, as a list of names with their values, and that a configuration is read
back from it through every format that keeps the values apart. -/
namespace NotebookLint

/-- What a field of a configuration may hold. -/
inductive Setting where
  | text (text : String)
  | number (value : Nat)
  | texts (texts : List String)
  | entries (entries : List Abbreviation)
  deriving DecidableEq, Repr

namespace Overrides

/-- The fields by their names, with what they are set to. -/
def fields (overrides : Overrides) : List (String × Option Setting) :=
  [("abbreviations", overrides.abbreviations.map .entries),
   ("plotting_keywords", overrides.plottingKeywords.map .texts),
   ("translation_skip_keywords", overrides.skipKeywords.map .texts),
   ("stats_keywords", overrides.statsKeywords.map .texts),
   ("max_code_lines", overrides.maxCodeLines.map .number),
   ("comment_marker", overrides.commentMarker.map .text),
   ("motivation_marker", overrides.motivationMarker.map .text)]

def settings (overrides : Overrides) : List (String × Setting) :=
  overrides.fields.filterMap fun field => field.2.map (field.1, ·)

/-- Lines that set a configuration out, in any order, between lines with texts that no field has a
use for. Their names are words of letters, and no two of them are the same. -/
structure SetsOut (overrides : Overrides) (extras : List (String × String))
    (lines : List (String × Setting)) : Prop where
  permuted : lines.Perm (overrides.settings ++ extras.map fun extra => (extra.1, .text extra.2))
  small : ∀ value, overrides.maxCodeLines = some value → value < UInt64.size
  distinct : (extras.map (·.1)).Nodup
  unknown : ∀ extra ∈ extras, extra.1 ∉ Format.fieldNames
  worded : ∀ extra ∈ extras, extra.1 ≠ ""
  lettered : ∀ extra ∈ extras, ∀ c ∈ extra.1.toList, c.isAlpha = true

theorem map_fst_fields (overrides : Overrides) :
    overrides.fields.map (·.1) = Format.fieldNames :=
  rfl

theorem mem_settings_iff (overrides : Overrides) (name : String) (setting : Setting) :
    (name, setting) ∈ overrides.settings ↔ (name, some setting) ∈ overrides.fields := by
  simp only [settings,List.mem_filterMap,Option.map_eq_some_iff,Prod.mk.injEq]
  constructor
  · rintro ⟨⟨field,_⟩,among,value,set,rfl,rfl⟩
    dsimp only at set
    exact set ▸ among
  · intro among
    exact ⟨_,among,_,rfl,rfl,rfl⟩

theorem settings_names_sublist (overrides : Overrides) :
    (overrides.settings.map (·.1)).Sublist Format.fieldNames := by
  rw [← map_fst_fields overrides,settings]
  generalize overrides.fields = fields
  induction fields with
  | nil => exact .slnil
  | cons field rest ih =>
    rcases field with ⟨name,_ | setting⟩
    · exact ih.cons _
    · exact ih.cons_cons _

end Overrides

section
variable {α : Type} {pairs : List (String × α)}

theorem find?_eq_some_of_mem (distinct : (pairs.map (·.1)).Nodup) {name : String} {value : α}
    (present : (name, value) ∈ pairs) : pairs.find? (·.1 == name) = some (name, value) := by
  induction pairs with
  | nil => nomatch present
  | cons pair rest ih =>
    rw [List.map_cons,List.nodup_cons] at distinct
    rcases List.mem_cons.mp present with rfl | later
    · simp
    · have other : pair.1 ≠ name := by
        rintro rfl
        exact distinct.1 (List.mem_map.mpr ⟨_,later,rfl⟩)
      rw [List.find?_cons_of_neg (by simpa using other)]
      exact ih distinct.2 later

theorem find?_eq_none_of_not_mem {name : String} (absent : name ∉ pairs.map (·.1)) :
    pairs.find? (·.1 == name) = none := by
  rw [List.find?_eq_none]
  intro pair present named
  rw [beq_iff_eq] at named
  exact absent (named ▸ List.mem_map_of_mem present)

end

theorem forall₂_map_map {α β γ : Type} {relation : β → γ → Prop} {left : α → β} {right : α → γ}
    (each : ∀ value, relation (left value) (right value)) (values : List α) :
    List.Forall₂ relation (values.map left) (values.map right) := by
  rw [List.forall₂_map_left_iff,List.forall₂_map_right_iff,List.forall₂_same]
  exact fun value _ => each value

namespace Overrides.SetsOut
variable {overrides : Overrides} {extras : List (String × String)} {lines : List (String × Setting)}
  (sets : overrides.SetsOut extras lines)
include sets

theorem mem_iff (line : String × Setting) :
    line ∈ lines ↔ line ∈ overrides.settings ∨ ∃ extra ∈ extras, line = (extra.1, .text extra.2) := by
  rw [sets.permuted.mem_iff,List.mem_append,List.mem_map]
  simp only [eq_comm]

theorem names_nodup : (lines.map (·.1)).Nodup := by
  have apart : ((overrides.settings ++
      extras.map fun extra => (extra.1, Setting.text extra.2)).map (·.1)).Nodup := by
    rw [List.map_append,List.map_map,List.nodup_append']
    refine ⟨overrides.settings_names_sublist.nodup (by decide),sets.distinct,?_⟩
    intro name set named
    obtain ⟨extra,among,rfl⟩ := List.mem_map.mp named
    exact sets.unknown extra among (overrides.settings_names_sublist.mem set)
  exact (sets.permuted.map _).nodup_iff.mpr apart

/-- A line sets the field of its name, if there is such a field, and otherwise holds a text. -/
theorem line_cases {line : String × Setting} (among : line ∈ lines) :
    (line.1, some line.2) ∈ overrides.fields ∨
      line.1 ∉ Format.fieldNames ∧ ∃ text, line.2 = .text text := by
  rcases (sets.mem_iff line).mp among with set | ⟨extra,known,rfl⟩
  · exact .inl ((overrides.mem_settings_iff _ _).mp set)
  · exact .inr ⟨sets.unknown extra known,_,rfl⟩

theorem find_field {name : String} {setting : Option Setting}
    (field : (name, setting) ∈ overrides.fields) :
    (lines.find? (·.1 == name)).map (·.2) = setting := by
  cases setting with
  | some setting =>
    have among := (sets.mem_iff _).mpr (.inl ((overrides.mem_settings_iff _ _).mpr field))
    rw [find?_eq_some_of_mem sets.names_nodup among]
    rfl
  | none =>
    have known : name ∈ Format.fieldNames :=
      overrides.map_fst_fields ▸ List.mem_map.mpr ⟨_,field,rfl⟩
    rw [find?_eq_none_of_not_mem,Option.map_none]
    -- A line of that name would set the field.
    intro named
    obtain ⟨line,among,rfl⟩ := List.mem_map.mp named
    rcases sets.line_cases among with set | ⟨unknown,-⟩
    · have fields_nodup : (overrides.fields.map (·.1)).Nodup := by
        rw [Overrides.map_fst_fields]
        decide
      have first := find?_eq_some_of_mem fields_nodup set
      rw [find?_eq_some_of_mem fields_nodup field] at first
      cases first
    · exact unknown known

end Overrides.SetsOut

namespace Format
variable {α : Type}

/-- A way to put settings into the values of a format that can be undone. -/
structure Encodes (format : Format α) (encode : Setting → α) (entry : Abbreviation → α) : Prop where
  text : ∀ text, format.text? (encode (.text text)) = some text
  number : ∀ value < UInt64.size, format.natural? (encode (.number value)) = some value
  texts : ∀ texts, format.list? (encode (.texts texts)) = some (texts.map (encode ∘ .text))
  entries : ∀ entries, format.list? (encode (.entries entries)) = some (entries.map entry)
  record : ∀ abbreviation, ∃ field, format.record? entryNames (entry abbreviation) = some field ∧
    field "term" = some (encode (.text abbreviation.term)) ∧
    field "expansion" = some (encode (.text abbreviation.expansion))
  isSet : ∀ setting, format.isSet? (encode setting) = some true

theorem mapM_map_of_inverse {β γ : Type} {write : β → γ} {read : γ → Option β}
    (inverse : ∀ value, read (write value) = some value) (values : List β) :
    (values.map write).mapM read = some values := by
  induction values with
  | nil => rfl
  | cons value rest ih => simp [inverse,ih]

variable {format : Format α} {encode : Setting → α} {entry : Abbreviation → α}
  (encodes : format.Encodes encode entry)
include encodes

theorem texts?_of_encodes (texts : List String) :
    format.texts? (encode (.texts texts)) = some texts := by
  rw [texts?,encodes.texts,Option.bind_some]
  exact mapM_map_of_inverse encodes.text texts

theorem abbreviation?_of_encodes (abbreviation : Abbreviation) :
    format.abbreviation? (entry abbreviation) = some abbreviation := by
  obtain ⟨field,looked,term,expansion⟩ := encodes.record abbreviation
  simp [abbreviation?,looked,term,expansion,encodes.text]

theorem abbreviations?_of_encodes (entries : List Abbreviation) :
    format.abbreviations? (encode (.entries entries)) = some entries := by
  rw [abbreviations?,encodes.entries,Option.bind_some]
  exact mapM_map_of_inverse (abbreviation?_of_encodes encodes) entries

theorem optional_of_encodes {β : Type} {read : α → Option β} {make : β → Setting} (set : Option β)
    (reads : ∀ value, set = some value → read (encode (make value)) = some value) :
    format.optional read ((set.map make).map encode) = some set := by
  cases set with
  | none => rfl
  | some value => simp [optional,encodes.isSet,reads value rfl]

/-- A record that holds the fields of a configuration is read as that configuration. -/
theorem overrides?_of_encodes {overrides : Overrides} {root : α} {field : String → Option α}
    (looked : format.record? fieldNames root = some field)
    (small : ∀ value, overrides.maxCodeLines = some value → value < UInt64.size)
    (held : ∀ known ∈ overrides.fields, field known.1 = known.2.map encode) :
    format.overrides? root = some overrides := by
  simp only [Overrides.fields,List.forall_mem_cons] at held
  obtain ⟨abbreviations,plotting,skip,stats,lines,comment,motivation,-⟩ := held
  have listed := optional_of_encodes encodes overrides.abbreviations
    fun value _ => abbreviations?_of_encodes encodes value
  have worded (set : Option (List String)) := optional_of_encodes encodes set
    fun value _ => texts?_of_encodes encodes value
  have counted := optional_of_encodes encodes overrides.maxCodeLines
    fun value set => encodes.number value (small value set)
  have marked (set : Option String) := optional_of_encodes encodes set
    fun value _ => encodes.text value
  simp only [overrides?,looked,abbreviations,plotting,skip,stats,lines,comment,motivation,listed,
    worded,counted,marked,Option.bind_eq_bind,Option.bind_some,Option.pure_def]

end Format
end NotebookLint
