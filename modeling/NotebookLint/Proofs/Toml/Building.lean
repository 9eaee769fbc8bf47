import NotebookLint.Proofs.Toml.Scanning
import NotebookLint.Rules.Source

/-! The table of a rules file in TOML, and the configuration that is read from it. -/
namespace NotebookLint.Toml

def entryTable (entry : Abbreviation) : Toml :=
  .table .braces [("term", .string entry.term), ("expansion", .string entry.expansion)]

def ofSetting : Setting → Toml
  | .text text => .string text
  | .number value => .integer value
  | .texts texts => .list false (texts.map .string)
  | .entries entries => .list false (entries.map entryTable)

def ofLine (line : String × Setting) : String × Toml :=
  (line.1, ofSetting line.2)

theorem update_eq_append {key : String} {entries : Entries} (fresh : key ∉ entries.map (·.1))
    (value : Toml) : update key (assign value) entries = some (entries ++ [(key, value)]) := by
  induction entries with
  | nil => rfl
  | cons entry rest ih =>
    rw [List.map_cons,List.mem_cons,not_or] at fresh
    rw [update,if_neg (Ne.symm fresh.1),ih fresh.2]
    rfl

theorem grouped_of_all {kind : Char → Bool} {text : List Char} (some' : text ≠ [])
    (all : ∀ c ∈ text, kind c = true) (underscore : kind '_' = false) :
    grouped kind text = some text := by
  induction text with
  | nil => exact absurd rfl some'
  | cons c rest ih =>
    rw [List.forall_mem_cons] at all
    cases rest with
    | nil => simp [grouped,all.1]
    | cons next rest =>
      have other : next ≠ '_' := by
        rintro rfl
        simp [underscore] at all
      rw [grouped]
      · simp [all.1,ih (by simp) all.2]
      · exact other

theorem scalar?_toDigits (value : Nat) :
    scalar? (Nat.toDigits 10 value) = some (.integer value) := by
  have decimal := Text.isDigit_toDigits value
  have digits : grouped Char.isDigit (Nat.toDigits 10 value) = some (Nat.toDigits 10 value) :=
    grouped_of_all Nat.toDigits_ne_nil decimal (by decide)
  have read : integer? (Nat.toDigits 10 value) = some (.integer value) := by
    have numeral := Text.numeral_toDigits value
    rcases Text.toDigits_cases value with ⟨rfl,-⟩ | ⟨first,rest,spelled,nonzero⟩
    · rfl
    · rw [spelled] at decimal digits numeral ⊢
      have digit := decimal first (by simp)
      have plus : first ≠ '+' := by rintro rfl; cases digit
      have minus : first ≠ '-' := by rintro rfl; cases digit
      simp [integer?,nonzero,splitSign,plus,minus,decimalDigits?,digits,numeral]
  have noTrue := Text.toDigits_ne_cons value (show 't'.isDigit = false from rfl)
  have noFalse := Text.toDigits_ne_cons value (show 'f'.isDigit = false from rfl)
  simp [scalar?,noTrue,noFalse,read]

namespace Document
open Token

section
variable (root : Entries) (header : List String) (frames : List Frame)

@[simp]
theorem step_line_atom (text : List Char) : step ⟨root, header, frames, .line⟩ (.atom text) =
    beginKey ⟨root, header, frames, .line⟩ [] (.atom text) :=
  rfl

@[simp]
theorem step_key (path : List String) (token : Token) :
    step ⟨root, header, frames, .key path⟩ token =
      beginKey ⟨root, header, frames, .key path⟩ path token :=
  rfl

@[simp]
theorem step_keyNext_blank (path : List String) (text : List Char) :
    step ⟨root, header, frames, .keyNext path⟩ (.blank text) =
      some ⟨root, header, frames, .keyNext path⟩ :=
  rfl

@[simp]
theorem step_keyNext_equals (path : List String) :
    step ⟨root, header, frames, .keyNext path⟩ .equals =
      some (beginEntry ⟨root, header, frames, .keyNext path⟩ path) :=
  rfl

@[simp]
theorem step_value (token : Token) : step ⟨root, header, frames, .value⟩ token =
    beginValue ⟨root, header, frames, .value⟩ token :=
  rfl

@[simp]
theorem step_bare_newline (text : List Char) : step ⟨root, header, frames, .bare text⟩ .newline =
    afterBare ⟨root, header, frames, .bare text⟩ text .newline :=
  rfl

@[simp]
theorem step_separator (token : Token) : step ⟨root, header, frames, .separator⟩ token =
    separate ⟨root, header, frames, .separator⟩ token :=
  rfl

@[simp]
theorem step_lineEnd (token : Token) : step ⟨root, header, frames, .lineEnd⟩ token =
    endLine ⟨root, header, frames, .lineEnd⟩ token :=
  rfl

end

section
variable {root : Entries} {name : String} (fresh : name ∉ root.map (·.1)) (value : Toml)
include fresh

theorem settle_line (mode : Mode) :
    settle ⟨root, [], [.line [name]], mode⟩ value =
      some ⟨root ++ [(name, value)], [], [], .lineEnd⟩ := by
  simp [settle,reach,Toml.bind,update_eq_append fresh]

end

theorem foldlM_lineName {name : String} (bare : isBareKey name.toList = true) (root : Entries)
    (rest : List Token) :
    (.atom name.toList :: markTokens ++ rest).foldlM step ⟨root, [], [], .line⟩ =
      rest.foldlM step ⟨root, [], [.line [name]], .value⟩ := by
  simp [markTokens,beginKey,extend?,keyOf?,bare,deepest,beginEntry,beginValue]

theorem foldlM_member {name : String} (bare : isBareKey name.toList = true) (text : String)
    (root entries : Entries) (fresh : name ∉ entries.map (·.1)) (outer : List Frame)
    (rest : List Token) :
    (memberTokens name text ++ rest).foldlM step ⟨root, [], .braces entries [] :: outer, .key []⟩ =
      rest.foldlM step
        ⟨root, [], .braces (entries ++ [(name, .string text)]) [] :: outer, .separator⟩ := by
  simp [memberTokens,markTokens,beginKey,extend?,keyOf?,bare,deepest,beginEntry,beginValue,
    settle,Toml.bind,update_eq_append fresh]

/-- Tokens that are read as an item of an array. -/
def IsItem (tokens : List Token) (value : Toml) : Prop :=
  ∀ root items outer rest, outer.length < deepest →
    (tokens ++ rest).foldlM step ⟨root, [], .array items :: outer, .value⟩ =
      rest.foldlM step ⟨root, [], .array (value :: items) :: outer, .separator⟩

theorem isItem_string (text : String) : IsItem [.string false text.toList] (.string text) := by
  intro root items outer rest _
  simp [beginValue,settle]

theorem isItem_entry (entry : Abbreviation) : IsItem (entryTokens entry) (entryTable entry) := by
  intro root items outer rest deep
  have room : outer.length + 1 ≤ deepest := deep
  have opened (more : List Token) :
      (.openBrace :: more).foldlM step ⟨root, [], .array items :: outer, .value⟩ =
        more.foldlM step ⟨root, [], .braces [] [] :: .array items :: outer, .key []⟩ := by
    simp [beginValue,openFrame,room]
  have comma (entries : Entries) (more : List Token) :
      (.comma :: .blank [' '] :: more).foldlM step
          ⟨root, [], .braces entries [] :: .array items :: outer, .separator⟩ =
        more.foldlM step ⟨root, [], .braces entries [] :: .array items :: outer, .key []⟩ := by
    simp [separate,beginKey]
  have closed (entries : Entries) (more : List Token) :
      (.closeBrace :: more).foldlM step
          ⟨root, [], .braces entries [] :: .array items :: outer, .separator⟩ =
        more.foldlM step ⟨root, [], .array (.table .braces entries :: items) :: outer, .separator⟩ := by
    simp [separate,close,settle]
  calc (entryTokens entry ++ rest).foldlM step ⟨root, [], .array items :: outer, .value⟩
    _ = (memberTokens "term" entry.term ++ (.comma :: .blank [' '] ::
          (memberTokens "expansion" entry.expansion ++ .closeBrace :: rest))).foldlM step
        ⟨root, [], .braces [] [] :: .array items :: outer, .key []⟩ := by
      rw [← opened]
      simp [entryTokens,encloseTokens]
    _ = rest.foldlM step ⟨root, [], .array (entryTable entry :: items) :: outer, .separator⟩ := by
      rw [foldlM_member (by decide) _ _ _ (by simp),comma,
        foldlM_member (by decide) _ _ _ (by simp),closed]
      rfl

theorem foldlM_items {tokens : List (List Token)} {values : List Toml}
    (each : List.Forall₂ IsItem tokens values) (some' : tokens ≠ []) (root : Entries)
    (items : List Toml) {outer : List Frame} (room : outer.length < deepest) (rest : List Token) :
    ([.comma, .blank [' ']].intercalate tokens ++ rest).foldlM step
        ⟨root, [], .array items :: outer, .value⟩ =
      rest.foldlM step ⟨root, [], .array (values.reverse ++ items) :: outer, .separator⟩ := by
  induction each generalizing items with
  | nil => exact absurd rfl some'
  | @cons first value tokens values item others ih =>
    cases others with
    | nil => simpa using item root items outer rest room
    | @cons next _ tokens _ second others =>
      have comma (items : List Toml) (more : List Token) :
          (.comma :: .blank [' '] :: more).foldlM step ⟨root, [], .array items :: outer, .separator⟩ =
            more.foldlM step ⟨root, [], .array items :: outer, .value⟩ := by
        simp [separate,beginValue]
      rw [List.intercalate_cons_cons,List.append_assoc,List.append_assoc,item _ _ _ _ room,
        List.cons_append,List.cons_append,List.nil_append,comma,ih (by simp)]
      simp

/-- A list is complete with its closing bracket, which may follow the opening at once. -/
theorem foldlM_enclose {tokens : List (List Token)} {values : List Toml}
    (each : List.Forall₂ IsItem tokens values) {root : Entries} {name : String}
    (fresh : name ∉ root.map (·.1)) (rest : List Token) :
    (encloseTokens .openBracket .closeBracket tokens ++ rest).foldlM step
        ⟨root, [], [.line [name]], .value⟩ =
      rest.foldlM step ⟨root ++ [(name, .list false values)], [], [], .lineEnd⟩ := by
  have opened (more : List Token) :
      (.openBracket :: more).foldlM step ⟨root, [], [.line [name]], .value⟩ =
        more.foldlM step ⟨root, [], [.array [], .line [name]], .value⟩ := by
    simp [beginValue,openFrame,deepest]
  rw [encloseTokens,List.append_assoc,List.cons_append,opened,List.singleton_append]
  by_cases empty : tokens = []
  · subst empty
    cases each
    simp [beginValue,isBetweenEntries,close,settle_line fresh]
  · rw [foldlM_items each empty root [] (by simp [deepest])]
    simp [separate,close,settle_line fresh]

theorem foldlM_setting (setting : Setting) {root : Entries} {name : String}
    (fresh : name ∉ root.map (·.1)) (rest : List Token) :
    (settingTokens setting ++ .newline :: rest).foldlM step ⟨root, [], [.line [name]], .value⟩ =
      rest.foldlM step ⟨root ++ [(name, ofSetting setting)], [], [], .line⟩ := by
  cases setting with
  | text text => simp [settingTokens,beginValue,settle_line fresh,endLine,ofSetting]
  | number value =>
    simp [settingTokens,beginValue,afterBare,scalar?_toDigits,settle_line fresh,endLine,
      ofSetting]
  | texts texts =>
    have each : List.Forall₂ IsItem (texts.map fun text => [.string false text.toList])
        (texts.map .string) :=
      forall₂_map_map isItem_string texts
    rw [settingTokens,foldlM_enclose each fresh,List.foldlM_cons,step_lineEnd]
    rfl
  | entries entries =>
    have each : List.Forall₂ IsItem (entries.map entryTokens) (entries.map entryTable) :=
      forall₂_map_map isItem_entry entries
    rw [settingTokens,foldlM_enclose each fresh,List.foldlM_cons,step_lineEnd]
    rfl

theorem isBareKey_of_isWord {text : List Char} (word : Text.IsWord text) :
    isBareKey text = true := by
  rw [isBareKey,List.all_eq_true]
  intro c among
  rcases word.2 c among with letter | underscore <;> simp [*]

theorem foldlM_lines {lines : List (String × Setting)}
    (worded : ∀ line ∈ lines, Text.IsWord line.1.toList) {root : Entries}
    (distinct : (root.map (·.1) ++ lines.map (·.1)).Nodup) :
    (lines.flatMap lineTokens).foldlM step ⟨root, [], [], .line⟩ =
      some ⟨root ++ lines.map ofLine, [], [], .line⟩ := by
  induction lines generalizing root with
  | nil => simp
  | cons line lines ih =>
    obtain ⟨word,others⟩ := List.forall_mem_cons.mp worded
    have fresh : line.1 ∉ root.map (·.1) := by
      intro among
      exact (List.nodup_append'.mp distinct).2.2 among (by simp)
    have rest : ((root ++ [ofLine line]).map (·.1) ++ lines.map (·.1)).Nodup := by
      simpa [ofLine] using distinct
    calc ((line :: lines).flatMap lineTokens).foldlM step ⟨root, [], [], .line⟩
      _ = (.atom line.1.toList :: markTokens ++ (settingTokens line.2 ++
            .newline :: lines.flatMap lineTokens)).foldlM step ⟨root, [], [], .line⟩ := by
        simp [lineTokens]
      _ = (lines.flatMap lineTokens).foldlM step ⟨root ++ [ofLine line], [], [], .line⟩ := by
        rw [foldlM_lineName (isBareKey_of_isWord word),foldlM_setting line.2 fresh]
        rfl
      _ = some ⟨root ++ (line :: lines).map ofLine, [], [], .line⟩ := by
        rw [ih others rest]
        simp

/-- The table of a file has the settings of its lines. -/
theorem read_lines {lines : List (String × Setting)}
    (worded : ∀ line ∈ lines, Text.IsWord line.1.toList) (distinct : (lines.map (·.1)).Nodup) :
    read (lines.flatMap (Rules.writeLine Rules.FileFormat.toml.mark)) =
      some (lines.map ofLine) := by
  have noMark : (lines.flatMap (Rules.writeLine Rules.FileFormat.toml.mark)).head? ≠
      some '\ufeff' := by
    cases lines with
    | nil => simp
    | cons line lines =>
      have word := worded line (by simp)
      obtain ⟨c,more,name⟩ := List.exists_cons_of_ne_nil word.1
      have other := word.ne (show c ∈ line.1.toList by simp [name]) '\ufeff' (by decide)
      simpa [Rules.writeLine,name] using other
  have built := @foldlM_lines lines worded [] (by simpa using distinct)
  simp only [read,noMark,if_false,scan_lines worded,Option.bind_eq_bind,Option.bind_some,start,
    built,finish,List.nil_append]

end Document

theorem encodes : format.Encodes ofSetting entryTable where
  text _ := rfl
  number value small := by
    rw [UInt64.size] at small
    simp [format,ofSetting]
    omega
  texts texts := by simp [format,ofSetting,Function.comp_def]
  entries _ := rfl
  record _ := ⟨_,rfl,rfl,rfl⟩
  isSet _ := rfl

end Toml

/-- A file in TOML is read as the configuration that its lines set out. -/
theorem Overrides.SetsOut.ofToml?_write {overrides : Overrides} {extras : List (String × String)}
    {lines : List (String × Setting)} (sets : overrides.SetsOut extras lines) :
    Overrides.ofToml? (Rules.FileFormat.toml.write lines) = some overrides := by
  have root : Toml.Document.read (Rules.FileFormat.toml.write lines).toList =
      some (lines.map Toml.ofLine) := by
    rw [Rules.FileFormat.write,String.toList_ofList]
    exact Toml.Document.read_lines (fun line among => sets.isWord among) sets.names_nodup
  have readable : (lines.map Toml.ofLine).all fun entry =>
      Format.fieldNames.contains entry.1 || Toml.inRange entry.2 := by
    rw [List.all_map,List.all_eq_true]
    intro line among
    rcases sets.line_cases among with field | ⟨-,text,held⟩
    · have known : line.1 ∈ Format.fieldNames :=
        overrides.map_fst_fields ▸ List.mem_map.mpr ⟨_,field,rfl⟩
      simp [Toml.ofLine,known]
    · simp [Toml.ofLine,held,Toml.ofSetting,Toml.inRange]
  have looked : Toml.format.record? Format.fieldNames (.table .header (lines.map Toml.ofLine)) =
      some fun name => Toml.lookup name (lines.map Toml.ofLine) := by
    exact if_pos readable
  rw [ofToml?,root,Option.bind_some]
  apply Format.overrides?_of_encodes Toml.encodes looked sets.small
  intro known field
  rw [← sets.find_field field,Toml.lookup,List.find?_map]
  simp [Toml.ofLine,Function.comp_def]

end NotebookLint
