import NotebookLint.Proofs.Yaml.Scanning
import NotebookLint.Rules.Source

/-! The node of a rules file in YAML, and the configuration that is read from it. -/
namespace NotebookLint.Yaml

def entryNode (entry : Abbreviation) : Node :=
  .map [(.scalar .plain none "term".toList, .scalar .quoted none entry.term.toList),
    (.scalar .plain none "expansion".toList, .scalar .quoted none entry.expansion.toList)]

def ofSetting : Setting → Node
  | .text text => .scalar .quoted none text.toList
  | .number value => .scalar .plain none (Nat.toDigits 10 value)
  | .texts texts => .list (texts.map fun text => .scalar .quoted none text.toList)
  | .entries entries => .list (entries.map entryNode)

def ofLine (line : String × Setting) : Node × Node :=
  (.scalar .plain none line.1.toList, ofSetting line.2)

namespace Document
variable (tags : List (List Char × List Char))

theorem node_scalar (steps : Nat) (place : Place) (anchors : Anchors) (style : Style)
    (text : List Char) (rest : List Token) :
    node tags (steps + 2) place anchors (.scalar style text :: rest) =
      some (.scalar style none text, anchors, rest) := by
  cases place <;> rfl

theorem node_entry (steps : Nat) (place : Place) (anchors : Anchors) (entry : Abbreviation)
    (rest : List Token) :
    node tags (steps + 12) place anchors (entryTokens entry ++ rest) =
      some (entryNode entry, anchors, rest) := by
  cases place <;> rfl

/-- Tokens of a text or an entry. -/
def BeginsItem (tokens : List Token) : Prop :=
  ∃ first more, tokens = first :: more ∧ ((∃ style text, first = .scalar style text) ∨ first = .openMap)

theorem flowItem_of_begins {item : List Token} (begins : BeginsItem item) {steps : Nat}
    {anchors : Anchors} {rest behind : List Token} {value : Node} {values : List Node}
    (first : node tags steps .flow anchors (item ++ rest) = some (value, anchors, rest))
    (others : flowItems tags steps false anchors rest = some (values, anchors, behind)) :
    flowItem tags (steps + 1) anchors (item ++ rest) = some (value :: values, anchors, behind) := by
  rcases begins with ⟨token,more,rfl,⟨style,text,rfl⟩ | rfl⟩ <;>
  · rw [List.cons_append] at first ⊢
    simp [flowItem,first,others]

theorem flowItems_of_begins {item : List Token} (begins : BeginsItem item) (steps : Nat)
    (anchors : Anchors) (rest : List Token) :
    flowItems tags (steps + 1) true anchors (item ++ rest) =
      flowItem tags steps anchors (item ++ rest) := by
  rcases begins with ⟨first,more,rfl,⟨style,text,rfl⟩ | rfl⟩ <;> rfl

theorem flowItems_comma {item : List Token} (begins : BeginsItem item) (steps : Nat)
    (anchors : Anchors) (rest : List Token) :
    flowItems tags (steps + 1) false anchors (.comma :: (item ++ rest)) =
      flowItem tags steps anchors (item ++ rest) := by
  rcases begins with ⟨first,more,rfl,⟨style,text,rfl⟩ | rfl⟩ <;> rfl

theorem flowItems_close (steps : Nat) (isFirst : Bool) (anchors : Anchors) (rest : List Token) :
    flowItems tags (steps + 1) isFirst anchors (.closeList :: rest) = some ([], anchors, rest) := by
  cases isFirst <;> rfl

/-- Tokens that are read as an item of a list. -/
structure IsItem (tokens : List Token) (value : Node) : Prop where
  begins : BeginsItem tokens
  read : ∀ steps place anchors rest, 4 * tokens.length ≤ steps →
    node tags steps place anchors (tokens ++ rest) = some (value, anchors, rest)

theorem isItem_scalar (style : Style) (text : List Char) :
    IsItem tags [.scalar style text] (.scalar style none text) where
  begins := ⟨_,_,rfl,.inl ⟨_,_,rfl⟩⟩
  read := by
    intro steps place anchors rest enough
    obtain ⟨spare,rfl⟩ := Nat.exists_eq_add_of_le' (show 2 ≤ steps by simp at enough; omega)
    exact node_scalar tags spare place anchors style text rest

theorem isItem_entry (entry : Abbreviation) : IsItem tags (entryTokens entry) (entryNode entry) where
  begins := ⟨_,_,rfl,.inr rfl⟩
  read := by
    intro steps place anchors rest enough
    have length : (entryTokens entry).length = 11 := rfl
    obtain ⟨spare,rfl⟩ := Nat.exists_eq_add_of_le' (show 12 ≤ steps by omega)
    exact node_entry tags spare place anchors entry rest

theorem exists_intercalate_eq_append (item : List Token) (items : List (List Token)) :
    ∃ later, [.comma].intercalate (item :: items) = item ++ later := by
  cases items with
  | nil => exact ⟨[],by simp⟩
  | cons _ _ => exact ⟨_,by rw [List.intercalate_cons_cons,List.append_assoc]⟩

theorem flowItem_intercalate {items : List (List Token)} {values : List Node}
    (each : List.Forall₂ (IsItem tags) items values) (some' : items ≠ []) (steps : Nat)
    (anchors : Anchors) (rest : List Token)
    (enough : 4 * ([.comma].intercalate items).length + 4 ≤ steps) :
    flowItem tags steps anchors ([.comma].intercalate items ++ .closeList :: rest) =
      some (values, anchors, rest) := by
  induction each generalizing steps with
  | nil => exact absurd rfl some'
  | @cons item value items values first others ih =>
    cases others with
    | nil =>
      simp only [List.intercalate_singleton] at enough ⊢
      obtain ⟨spare,rfl⟩ := Nat.exists_eq_add_of_le' (show 2 ≤ steps by omega)
      exact flowItem_of_begins tags first.begins (first.read _ _ _ _ (by omega))
        (flowItems_close tags spare false anchors rest)
    | @cons next nextValue items values second others =>
      rw [List.intercalate_cons_cons] at enough ⊢
      simp only [List.length_append,List.length_singleton] at enough
      obtain ⟨spare,rfl⟩ := Nat.exists_eq_add_of_le' (show 2 ≤ steps by omega)
      obtain ⟨later,split⟩ := exists_intercalate_eq_append next items
      have continued := ih (by simp) spare (by omega)
      have after : flowItems tags (spare + 1) false anchors
          (.comma :: ([.comma].intercalate (next :: items) ++ .closeList :: rest)) =
            some (nextValue :: values, anchors, rest) := by
        rw [split,List.append_assoc] at continued ⊢
        rw [flowItems_comma tags second.begins,continued]
      rw [List.append_assoc,List.append_assoc,List.singleton_append]
      exact flowItem_of_begins tags first.begins (first.read _ _ _ _ (by omega)) after

theorem node_list {items : List (List Token)} {values : List Node}
    (each : List.Forall₂ (IsItem tags) items values) {steps : Nat} {place : Place}
    (anchors : Anchors) (rest : List Token)
    (enough : 4 * (encloseTokens .openList .closeList items).length ≤ steps) :
    node tags steps place anchors (encloseTokens .openList .closeList items ++ rest) =
      some (.list values, anchors, rest) := by
  have length : (encloseTokens .openList .closeList items).length =
      ([.comma].intercalate items).length + 2 := by
    simp [encloseTokens]
  obtain ⟨spare,rfl⟩ := Nat.exists_eq_add_of_le' (show 3 ≤ steps by omega)
  have opened {tokens : List Token}
      (inside : flowItems tags (spare + 1) true anchors tokens = some (values, anchors, rest)) :
      node tags (spare + 3) place anchors (.openList :: tokens) =
        some (.list values, anchors, rest) := by
    cases place <;> simp [node,properties,content,inside]
  rw [encloseTokens,List.append_assoc,List.cons_append,List.singleton_append]
  apply opened
  cases each with
  | nil => exact flowItems_close tags spare true anchors rest
  | @cons item value items values first others =>
    obtain ⟨later,split⟩ := exists_intercalate_eq_append item items
    have read := flowItem_intercalate tags (.cons first others) (by simp) spare anchors rest
      (by omega)
    rw [split,List.append_assoc] at read ⊢
    rw [flowItems_of_begins tags first.begins,read]

theorem node_setting (setting : Setting) {steps : Nat} (anchors : Anchors) (rest : List Token)
    (enough : 4 * (settingTokens setting).length ≤ steps) :
    node tags steps .afterKey anchors (settingTokens setting ++ rest) =
      some (ofSetting setting, anchors, rest) := by
  cases setting with
  | text text => exact (isItem_scalar tags .quoted text.toList).read _ _ _ _ enough
  | number value => exact (isItem_scalar tags .plain (Nat.toDigits 10 value)).read _ _ _ _ enough
  | texts texts =>
    have each := forall₂_map_map (fun text : String => isItem_scalar tags .quoted text.toList) texts
    exact node_list tags each anchors rest enough
  | entries entries =>
    exact node_list tags (forall₂_map_map (isItem_entry tags) entries) anchors rest enough

theorem endsMember_setting (setting : Setting) (rest : List Token) :
    endsMember (settingTokens setting ++ rest) = false := by
  cases setting <;> rfl

theorem members_key {steps : Nat} {anchors : Anchors} {tokens between rest behind : List Token}
    {key value : Node} {pairs : List (Node × Node)}
    (first : nodeUnless tags steps endsMember .afterKey anchors tokens =
      some (key, anchors, between))
    (second : valueAfter tags steps endsMember .afterKey anchors between =
      some (value, anchors, rest))
    (others : members tags steps anchors rest = some (pairs, anchors, behind)) :
    members tags (steps + 1) anchors (.key :: tokens) =
      some ((key, value) :: pairs, anchors, behind) := by
  simp [members,first,second,others]

theorem node_blockMap {steps : Nat} {anchors : Anchors} {tokens rest : List Token}
    {pairs : List (Node × Node)}
    (inside : members tags steps anchors tokens = some (pairs, anchors, rest)) :
    node tags (steps + 2) .block anchors (.blockMap :: tokens) =
      some (.map pairs, anchors, rest) := by
  simp [node,properties,content,inside]

theorem members_line (line : String × Setting) {steps : Nat} (anchors : Anchors)
    {rest behind : List Token} {pairs : List (Node × Node)}
    (enough : 4 * (settingTokens line.2).length + 4 ≤ steps)
    (others : members tags steps anchors rest = some (pairs, anchors, behind)) :
    members tags (steps + 1) anchors (lineTokens line ++ rest) =
      some (ofLine line :: pairs, anchors, behind) := by
  obtain ⟨spare,rfl⟩ := Nat.exists_eq_add_of_le' (show 4 ≤ steps by omega)
  have key (tokens : List Token) : nodeUnless tags (spare + 4) endsMember .afterKey anchors
      (.scalar .plain line.1.toList :: tokens) =
        some (.scalar .plain none line.1.toList, anchors, tokens) :=
    rfl
  have value : valueAfter tags (spare + 4) endsMember .afterKey anchors
      (.value :: (settingTokens line.2 ++ rest)) = some (ofSetting line.2, anchors, rest) := by
    rw [valueAfter,nodeUnless,endsMember_setting]
    exact node_setting tags line.2 anchors rest (by omega)
  exact members_key tags (key _) value others

theorem members_lines (lines : List (String × Setting)) {steps : Nat} (anchors : Anchors)
    (rest : List Token) (enough : 4 * (lines.flatMap lineTokens).length + 1 ≤ steps) :
    members tags steps anchors (lines.flatMap lineTokens ++ .blockEnd :: rest) =
      some (lines.map ofLine, anchors, rest) := by
  induction lines generalizing steps with
  | nil =>
    obtain ⟨spare,rfl⟩ := Nat.exists_eq_add_of_le' enough
    rfl
  | cons line lines ih =>
    have length : (lineTokens line).length = (settingTokens line.2).length + 3 := by
      simp [lineTokens,nameTokens]
    rw [List.flatMap_cons] at enough ⊢
    rw [List.length_append] at enough
    obtain ⟨spare,rfl⟩ := Nat.exists_eq_add_of_le' (show 1 ≤ steps by omega)
    rw [List.append_assoc]
    exact members_line tags line anchors (by omega) (ih (by omega))

/-- The root of a file has the settings of its lines, unless there are none. -/
theorem read_lines {lines : List (String × Setting)}
    (worded : ∀ line ∈ lines, Text.IsWord line.1.toList)
    (short : ∀ line ∈ lines, line.1.toList.length ≤ Token.longestKey) :
    read (lines.flatMap (Rules.writeLine Rules.FileFormat.yaml.mark)) =
      some (if lines = [] then none else some (.map (lines.map ofLine))) := by
  rw [read,Token.scan_lines worded short]
  cases lines with
  | nil => rfl
  | cons line lines =>
    have inside : members standardTags (stepsFor (fileTokens (line :: lines)) - 2) []
        ((line :: lines).flatMap lineTokens ++ [.blockEnd]) =
          some ((line :: lines).map ofLine, [], []) := by
      apply members_lines
      simp only [stepsFor,fileTokens,List.cons_append,List.length_cons,List.length_append]
      omega
    have steps : stepsFor (fileTokens (line :: lines)) =
        stepsFor (fileTokens (line :: lines)) - 2 + 2 := by
      simp [stepsFor]
    have whole : first (fileTokens (line :: lines)) =
        some (.map ((line :: lines).map ofLine), []) := by
      have root := node_blockMap standardTags inside
      rw [← steps] at root
      exact congrArg (Option.map fun found => (found.1, found.2.2)) root
    have some' : fileTokens (line :: lines) ≠ [] := by simp [fileTokens]
    simp [some',whole,-List.map_cons]

end Document

theorem foldl_looks {α : Type} (looks : α → Nat) {values : List α}
    (none' : ∀ value ∈ values, looks value = 0) :
    values.foldl (fun total value => total + looks value) 0 = 0 := by
  induction values with
  | nil => rfl
  | cons value values ih =>
    rw [List.forall_mem_cons] at none'
    simpa [none'.1] using ih none'.2

theorem recordLooks_eq_zero (slots : List (Nat × Node)) (names : List String) (inside : Node → Nat)
    {pairs : List (Node × Node)}
    (none' : ∀ pair ∈ pairs, valueLooks pair.1 = 0 ∧ inside pair.2 = 0) :
    recordLooks slots names inside (.map pairs) = 0 := by
  simp only [recordLooks,Node.resolve,Nat.add_assoc]
  refine foldl_looks (fun pair : Node × Node => valueLooks pair.1 +
    if (text? (pair.1.resolve slots)).any names.contains then inside pair.2 else 0) ?_
  intro pair among
  obtain ⟨key,value⟩ := none' pair among
  simp [key,value]

theorem entryLooks_entryNode (slots : List (Nat × Node)) (entry : Abbreviation) :
    entryLooks slots (entryNode entry) = 0 := by
  have looks := recordLooks_eq_zero slots Format.entryNames valueLooks
    (show ∀ pair ∈ [((.scalar .plain none "term".toList : Node),
          (.scalar .quoted none entry.term.toList : Node)),
        (.scalar .plain none "expansion".toList, .scalar .quoted none entry.expansion.toList)],
      valueLooks pair.1 = 0 ∧ valueLooks pair.2 = 0 by simp [valueLooks,Node.isAlias])
  rw [entryLooks,entryNode,looks]
  rfl

theorem fieldLooks_ofSetting (slots : List (Nat × Node)) (setting : Setting) :
    fieldLooks slots (ofSetting setting) = 0 := by
  cases setting with
  | text text => rfl
  | number value => rfl
  | texts texts =>
    simp only [fieldLooks,ofSetting,Node.resolve]
    rw [foldl_looks]
    · rfl
    · intro item among
      obtain ⟨text,-,rfl⟩ := List.mem_map.mp among
      rfl
  | entries entries =>
    simp only [fieldLooks,ofSetting,Node.resolve]
    rw [foldl_looks]
    · rfl
    · intro item among
      obtain ⟨entry,-,rfl⟩ := List.mem_map.mp among
      exact entryLooks_entryNode slots entry

theorem isModest_lines (lines : List (String × Setting)) :
    isModest (.map (lines.map ofLine)) = true := by
  have looks : recordLooks (Node.map (lines.map ofLine)).slots Format.fieldNames
      (fieldLooks (Node.map (lines.map ofLine)).slots) (.map (lines.map ofLine)) = 0 := by
    apply recordLooks_eq_zero
    intro pair among
    obtain ⟨line,-,rfl⟩ := List.mem_map.mp among
    exact ⟨rfl,fieldLooks_ofSetting _ line.2⟩
  rw [isModest,looks]
  simp

theorem number?_toDigits (value : Nat) : number? (Nat.toDigits 10 value) = some value := by
  have decimal := Text.isDigit_toDigits value
  have numeral := Text.numeral_toDigits value
  have read : inBase? 10 (Nat.toDigits 10 value) = some value := by
    have digits : ∀ c ∈ Nat.toDigits 10 value, Text.isDigitOf 10 c = true :=
      fun c among => Text.isDigitOf_ten (decimal c among)
    simp only [inBase?,List.all_eq_true.mpr digits,numeral]
    simp
  rcases Text.toDigits_cases value with ⟨rfl,-⟩ | ⟨first,rest,spelled,nonzero⟩
  · rfl
  · rw [spelled] at decimal read ⊢
    have digit := decimal first (by simp)
    have plus : first ≠ '+' := by rintro rfl; cases digit
    simp [number?,plus,nonzero,read]

theorem not_isNullWord_toDigits (value : Nat) : isNullWord (Nat.toDigits 10 value) = false := by
  have noTilde := Text.toDigits_ne_cons value (show '~'.isDigit = false from rfl)
  have noSmall := Text.toDigits_ne_cons value (show 'n'.isDigit = false from rfl)
  have noCapital := Text.toDigits_ne_cons value (show 'N'.isDigit = false from rfl)
  simp [isNullWord,noTilde,noSmall,noCapital]

theorem encodes (slots : List (Nat × Node)) : (format slots).Encodes ofSetting entryNode where
  text text := by simp [format,Node.resolve,ofSetting,text?]
  number value small := by
    simp only [format,Node.resolve,ofSetting,natural?,number?_toDigits]
    simp [small]
  texts texts := by simp [format,Node.resolve,ofSetting,Function.comp_def]
  entries entries := by simp [format,Node.resolve,ofSetting]
  record entry := by
    refine ⟨_,rfl,?_,?_⟩ <;> rfl
  isSet setting := by
    cases setting with
    | number value =>
      simp [format,Node.resolve,ofSetting,isSet?,not_isNullWord_toDigits,Nat.toDigits_ne_nil]
    | _ => rfl

theorem record?_lines {lines : List (String × Setting)} (distinct : (lines.map (·.1)).Nodup)
    (slots : List (Nat × Node)) (names : List String) :
    (format slots).record? names (.map (lines.map ofLine)) = some fun name =>
      ((lines.find? (·.1 == name)).map (·.2)).map ofSetting := by
  have fields : (lines.map ofLine).mapM (fun pair : Node × Node => do
      return (← text? (pair.1.resolve slots), pair.2)) =
        some (lines.map fun line => (line.1, ofSetting line.2)) := by
    clear distinct
    induction lines with
    | nil => rfl
    | cons line lines ih =>
      rw [List.map_cons,List.mapM_cons,ih]
      simp [ofLine,Node.resolve,text?]
  have once : names.all (fun name =>
      ((lines.map fun line => (line.1, ofSetting line.2)).filter (·.1 == name)).length ≤ 1) := by
    rw [List.all_eq_true]
    intro name _
    have names : (lines.map fun line => (line.1, ofSetting line.2)).map (·.1) =
        lines.map (·.1) := by
      simp
    have most := List.nodup_iff_count_le_one.mp distinct name
    rw [← names,List.count,List.countP_map,List.countP_eq_length_filter] at most
    simpa [Function.comp_def] using most
  simp only [format,Node.resolve,Option.bind_eq_bind] at fields ⊢
  rw [fields,Option.bind_some,if_pos once]
  simp [List.find?_map,Function.comp_def]

end NotebookLint.Yaml

namespace NotebookLint

theorem Overrides.eq_empty_of_settings {overrides : Overrides} (unset : overrides.settings = []) :
    overrides = empty := by
  obtain ⟨abbreviations,plotting,skip,stats,lines,comment,motivation⟩ := overrides
  simp [settings,fields] at unset
  simp [unset,empty]

/-- A file in YAML is read as the configuration that its lines set out, if no name is too long for a
key. -/
theorem Overrides.SetsOut.ofYaml?_write {overrides : Overrides} {extras : List (String × String)}
    {lines : List (String × Setting)} (sets : overrides.SetsOut extras lines)
    (short : ∀ extra ∈ extras, extra.1.length ≤ Yaml.Token.longestKey) :
    Overrides.ofYaml? (Rules.FileFormat.yaml.write lines) = some overrides := by
  have near : ∀ line ∈ lines, line.1.toList.length ≤ Yaml.Token.longestKey := by
    intro line among
    rcases (sets.mem_iff line).mp among with set | ⟨extra,known,rfl⟩
    · have table : ∀ name ∈ Format.fieldNames, name.toList.length ≤ Yaml.Token.longestKey := by
        decide
      exact table _ (overrides.settings_names_sublist.mem (List.mem_map.mpr ⟨_,set,rfl⟩))
    · rw [String.length_toList]
      exact short extra known
  have root := Yaml.Document.read_lines (fun line among => sets.isWord among) near
  rw [ofYaml?,Rules.FileFormat.write,String.toList_ofList,root,Option.bind_some]
  split
  -- A file without lines holds no document, and sets nothing.
  · next none' =>
    have empty : lines = [] := by
      by_contra some'
      simp [some'] at none'
    have unset : overrides.settings = [] := by
      have nothing := sets.permuted
      rw [empty,List.nil_perm,List.append_eq_nil_iff] at nothing
      exact nothing.1
    rw [overrides.eq_empty_of_settings unset]
  · next root' some' =>
    obtain rfl : Yaml.Node.map (lines.map Yaml.ofLine) = root' := by
      split at some'
      · cases some'
      · exact Option.some.inj some'
    rw [if_pos (Yaml.isModest_lines lines)]
    apply Format.overrides?_of_encodes (Yaml.encodes _)
      (Yaml.record?_lines sets.names_nodup _ _) sets.small
    intro known field
    rw [sets.find_field field]

end NotebookLint
