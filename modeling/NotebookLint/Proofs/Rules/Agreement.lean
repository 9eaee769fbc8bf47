import NotebookLint.Proofs.Toml.Building
import NotebookLint.Proofs.Yaml.Building

/-! The ways to supply a configuration agree: as a file in TOML or YAML, or as an object. -/
namespace NotebookLint

namespace Json

def ofEntry (entry : Abbreviation) : Json :=
  .object [("term", .string entry.term), ("expansion", .string entry.expansion)]

def ofSetting : Setting → Json
  | .text text => .string text
  | .number value => .number (Nat.toDigits 10 value)
  | .texts texts => .array (texts.map .string)
  | .entries entries => .array (entries.map ofEntry)

def ofLine (line : String × Setting) : String × Json :=
  (line.1, ofSetting line.2)

theorem encodes : format.Encodes ofSetting ofEntry where
  text _ := rfl
  number value small := by
    have decimal : (Nat.toDigits 10 value).all Char.isDigit = true :=
      List.all_eq_true.mpr (Text.isDigit_toDigits value)
    simp only [format,ofSetting,natural?,Text.numeral_toDigits,decimal]
    simp [small]
  texts texts := by simp [format,ofSetting,array?,Function.comp_def]
  entries _ := rfl
  record _ := ⟨_,rfl,rfl,rfl⟩
  isSet setting := by cases setting <;> rfl

end Json

/-- An object is read as the configuration that its members set out. -/
theorem Overrides.SetsOut.ofJson? {overrides : Overrides} {extras : List (String × String)}
    {lines : List (String × Setting)} (sets : overrides.SetsOut extras lines) :
    Overrides.ofJson? (.object (lines.map Json.ofLine)) = some overrides := by
  apply Format.overrides?_of_encodes Json.encodes rfl sets.small
  intro known field
  have reversed : (lines.reverse.map (·.1)).Nodup := by
    rw [List.map_reverse,List.nodup_reverse]
    exact sets.names_nodup
  -- The last member of a name counts, but there is no other one.
  have same : lines.reverse.find? (·.1 == known.1) = lines.find? (·.1 == known.1) := by
    by_cases named : known.1 ∈ lines.map (·.1)
    · obtain ⟨⟨name,setting⟩,among,equal⟩ := List.mem_map.mp named
      dsimp only at equal
      subst equal
      rw [find?_eq_some_of_mem sets.names_nodup among,
        find?_eq_some_of_mem reversed (List.mem_reverse.mpr among)]
    · rw [find?_eq_none_of_not_mem named,
        find?_eq_none_of_not_mem (by rwa [List.map_reverse,List.mem_reverse])]
  rw [← sets.find_field field,← same,Json.lookup,← List.map_reverse,List.find?_map]
  simp [Json.ofLine,Function.comp_def]

namespace Rules

theorem overrides?_write {overrides : Overrides} {extras : List (String × String)}
    {lines : List (String × Setting)} (sets : overrides.SetsOut extras lines) (format : FileFormat)
    (short : format = .yaml → ∀ extra ∈ extras, extra.1.length ≤ Yaml.Token.longestKey) :
    format.overrides? (format.write lines) = some overrides := by
  cases format with
  | toml => exact sets.ofToml?_write
  | yaml => exact sets.ofYaml?_write (short rfl)

theorem ofFile_eq_malformed {path : String} {format : FileFormat} {text : String}
    (chosen : FileFormat.ofPath path = format) (unread : format.overrides? text = none) :
    ofFile path (.ok text.toUTF8) = .error (.malformed format) := by
  simp only [ofFile,FileContents.text_toUTF8,ofText,chosen,unread]

theorem ofFile_eq_ok {path : String} {format : FileFormat} {text : String} {overrides : Overrides}
    (chosen : FileFormat.ofPath path = format) (read : format.overrides? text = some overrides)
    (marked : emptyMarker? overrides = none) :
    ofFile path (.ok text.toUTF8) = .ok (ofOverrides overrides) := by
  simp only [ofFile,FileContents.text_toUTF8,ofText,chosen,read,marked]

/-- Whichever way a configuration is set out, the same is read: from an object, from a file in YAML
where the path asks for that, and from a file in TOML otherwise. A file gives the rules of the
configuration, unless a marker is empty; the marker of comments comes first then. Texts under other
names change nothing, if their names can be keys of YAML where they have to be. -/
theorem ofFile_write {overrides : Overrides} {extras : List (String × String)}
    {lines : List (String × Setting)} (sets : overrides.SetsOut extras lines) (path : String)
    (short : FileFormat.ofPath path = .yaml →
      ∀ extra ∈ extras, extra.1.length ≤ Yaml.Token.longestKey) :
    Overrides.ofJson? (.object (lines.map Json.ofLine)) = some overrides ∧
      (overrides.commentMarker ≠ some "" → overrides.motivationMarker ≠ some "" →
        ofFile path (.ok ((FileFormat.ofPath path).write lines).toUTF8) =
          .ok (ofOverrides overrides)) ∧
      (overrides.commentMarker = some "" →
        ofFile path (.ok ((FileFormat.ofPath path).write lines).toUTF8) =
          .error (.emptyMarker .comment)) ∧
      (overrides.commentMarker ≠ some "" → overrides.motivationMarker = some "" →
        ofFile path (.ok ((FileFormat.ofPath path).write lines).toUTF8) =
          .error (.emptyMarker .motivation)) := by
  have read := overrides?_write sets (.ofPath path) short
  simp only [ofFile,FileContents.text_toUTF8,ofText,read]
  refine ⟨sets.ofJson?,?_,?_,?_⟩
  · intro comment motivation
    simp [emptyMarker?,comment,motivation]
  · intro comment
    simp [emptyMarker?,comment]
  · intro comment motivation
    simp [emptyMarker?,comment,motivation]

/-- A configuration with two fields beside a text that nothing reads, from a file in YAML. -/
theorem ofFile_write_escaped :
    ofFile "rules.yml" (.ok ("max_code_lines: 3\n" ++
        "abbreviations: [\x7bterm: \"SE\", expansion: \"\\\"\\U000000E9\"\x7d]\nNote: \"x\"\n").toUTF8) =
      .ok (ofOverrides { Overrides.empty with
        abbreviations := some [⟨"SE", "\"é"⟩]
        maxCodeLines := some 3 }) := by
  have written : FileFormat.write (.ofPath "rules.yml") [("max_code_lines", .number 3),
      ("abbreviations", .entries [⟨"SE", "\"é"⟩]), ("Note", .text "x")] = "max_code_lines: 3\n" ++
        "abbreviations: [\x7bterm: \"SE\", expansion: \"\\\"\\U000000E9\"\x7d]\nNote: \"x\"\n" := by
    decide +kernel
  have sets : Overrides.SetsOut { Overrides.empty with
      abbreviations := some [⟨"SE", "\"é"⟩]
      maxCodeLines := some 3 } [("Note", "x")] [("max_code_lines", .number 3),
        ("abbreviations", .entries [⟨"SE", "\"é"⟩]), ("Note", .text "x")] :=
    ⟨.swap _ _ _,by simp [UInt64.size],by simp,by simp [Format.fieldNames],by simp,by simp⟩
  have short : FileFormat.ofPath "rules.yml" = .yaml →
      ∀ extra ∈ [("Note", "x")], extra.1.length ≤ Yaml.Token.longestKey := by
    intro _ extra among
    obtain rfl := List.mem_singleton.mp among
    decide
  rw [← written]
  exact (ofFile_write sets "rules.yml" short).2.1 nofun nofun

/-- A name of letters alone is no key of YAML if it has more than 1024 of them, and none of TOML if
they are not those of ASCII. -/
theorem ofFile_strange_name :
    Overrides.empty.SetsOut [(String.ofList (List.replicate 1025 'a'), "x")]
        [(String.ofList (List.replicate 1025 'a'), .text "x")] ∧
      ofFile "rules.yaml" (.ok (FileFormat.yaml.write
        [(String.ofList (List.replicate 1025 'a'), .text "x")]).toUTF8) =
          .error (.malformed .yaml) ∧
      ofFile "rules.toml" (.ok (FileFormat.toml.write [("é", .text "x")]).toUTF8) =
        .error (.malformed .toml) := by
  refine ⟨⟨.refl _,nofun,List.nodup_singleton _,?_,?_,?_⟩,?_,?_⟩
  · have short : ∀ name ∈ Format.fieldNames, name.toList.length < 1025 := by decide
    intro extra among known
    obtain rfl := List.mem_singleton.mp among
    have length := short _ known
    rw [String.toList_ofList,List.length_replicate] at length
    exact absurd length (Nat.lt_irrefl _)
  · intro extra among empty
    obtain rfl := List.mem_singleton.mp among
    have none' := congrArg String.toList empty
    rw [String.toList_ofList] at none'
    cases none'
  · intro extra among c inside
    obtain rfl := List.mem_singleton.mp among
    rw [String.toList_ofList] at inside
    rw [(List.mem_replicate.mp inside).2]
    decide
  · apply ofFile_eq_malformed (by decide +kernel)
    have unread : Yaml.Document.read (FileFormat.yaml.write
        [(String.ofList (List.replicate 1025 'a'), .text "x")]).toList = none := by
      rw [← Option.isNone_iff_eq_none,FileFormat.write,String.toList_ofList,List.flatMap_singleton,
        writeLine,String.toList_ofList]
      decide +kernel
    rw [FileFormat.overrides?,Overrides.ofYaml?,unread,Option.bind_none]
  · apply ofFile_eq_malformed (by decide +kernel)
    have unread : Toml.Document.read (FileFormat.toml.write [("é", .text "x")]).toList = none := by
      rw [← Option.isNone_iff_eq_none]
      decide +kernel
    rw [FileFormat.overrides?,Overrides.ofToml?,unread,Option.bind_none]

end Rules
end NotebookLint
