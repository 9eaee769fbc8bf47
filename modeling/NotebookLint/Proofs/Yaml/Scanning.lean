import NotebookLint.Proofs.Yaml.Quoting
import NotebookLint.Yaml.Token

/-! The tokens of a rules file in YAML. -/
namespace NotebookLint.Yaml

def nameTokens (name : List Char) : List Token :=
  [.key, .scalar .plain name, .value]

def encloseTokens (opening closing : Token) (items : List (List Token)) : List Token :=
  opening :: [.comma].intercalate items ++ [closing]

def memberTokens (name text : String) : List Token :=
  nameTokens name.toList ++ [.scalar .quoted text.toList]

def entryTokens (entry : Abbreviation) : List Token :=
  encloseTokens .openMap .closeMap
    [memberTokens "term" entry.term, memberTokens "expansion" entry.expansion]

def settingTokens : Setting → List Token
  | .text text => [.scalar .quoted text.toList]
  | .number value => [.scalar .plain (Nat.toDigits 10 value)]
  | .texts texts =>
    encloseTokens .openList .closeList (texts.map fun text => [.scalar .quoted text.toList])
  | .entries entries => encloseTokens .openList .closeList (entries.map entryTokens)

def lineTokens (line : String × Setting) : List Token :=
  nameTokens line.1.toList ++ settingTokens line.2

/-- A file without lines has no tokens at all. -/
def fileTokens : List (String × Setting) → List Token
  | [] => []
  | line :: lines => .blockMap :: (line :: lines).flatMap lineTokens ++ [.blockEnd]

namespace Token
open Text Rules

/-- A state in which no token is counted twice or left out. -/
abbrev counted (rest : List Char) (spot : Spot) (levels : List Nat)
    (candidates : List (Option Candidate)) (keyAllowed : Bool) (tokens : List Token) : State :=
  ⟨rest, spot, levels, candidates, keyAllowed, tokens, tokens.length⟩

/-- Scanning goes on from one state as from the other, which takes so many tokens at most. -/
def Leads (most : Nat) (state next : State) : Prop :=
  ∃ taken ≤ most, ∀ steps, scanFrom (steps + taken) state = scanFrom steps next

theorem Leads.trans {first second : Nat} {state middle next : State}
    (here : Leads first state middle) (there : Leads second middle next) :
    Leads (first + second) state next := by
  obtain ⟨taken,few,here⟩ := here
  obtain ⟨more,also,there⟩ := there
  refine ⟨more + taken,by omega,?_⟩
  intro steps
  rw [← Nat.add_assoc,here,there]

theorem Leads.of_le {few most : Nat} (enough : few ≤ most) {state next : State}
    (leads : Leads few state next) : Leads most state next := by
  obtain ⟨taken,few,same⟩ := leads
  exact ⟨taken,by omega,same⟩

/-- White space before a token takes no step of its own. -/
theorem leads_of_skipBlanks {state next : State} (same : state.skipBlanks = next.skipBlanks) :
    Leads 0 state next := by
  refine ⟨0,by omega,?_⟩
  intro steps
  cases steps with
  | zero => rfl
  | succ steps => simp only [scanFrom,same]

/-- Where no white space stands before it and no block ends, a token takes one step. -/
theorem leads_take {c : Char} {rest : List Char} {spot : Spot} {levels : List Nat}
    {candidates : List (Option Candidate)} {keyAllowed : Bool} {tokens : List Token} {count : Nat}
    (visible : isBlank c = false ∧ isBreak c = false ∧ c ≠ '#' ∧ c ≠ '\ufeff')
    (outer : levels = [] ∨ levels = [1]) {next : State}
    (taken : State.take ⟨c :: rest, spot, levels, candidates, keyAllowed, tokens, count⟩ c rest =
      some next) :
    Leads 1 ⟨c :: rest, spot, levels, candidates, keyAllowed, tokens, count⟩ next := by
  obtain ⟨unblank,unbroken,noComment,noMark⟩ := visible
  simp only [isBlank,Bool.or_eq_false_iff,beq_eq_false_iff_ne] at unblank
  have still : State.skipBlanks ⟨c :: rest, spot, levels, candidates, keyAllowed, tokens, count⟩ =
      ⟨c :: rest, spot, levels, candidates, keyAllowed, tokens, count⟩ := by
    simp [State.skipBlanks,skipBlanks,unbroken,unblank,noComment,noMark]
  have level (column : Nat) :
      State.dedent ⟨c :: rest, spot, levels, candidates, keyAllowed, tokens, count⟩ (column + 1) =
        ⟨c :: rest, spot, levels, candidates, keyAllowed, tokens, count⟩ := by
    rcases outer with rfl | rfl <;> simp [State.dedent,State.dedentTo]
  refine ⟨1,Nat.le_refl 1,?_⟩
  intro steps
  simp only [scanFrom,still,level,taken,Option.bind_some]

theorem leads_space (rest : List Char) (spot : Spot) (levels : List Nat)
    (candidates : List (Option Candidate)) (keyAllowed : Bool) (tokens : List Token) :
    Leads 0 (counted (' ' :: rest) spot levels candidates keyAllowed tokens)
      (counted rest (spot.along 1) levels candidates keyAllowed tokens) := by
  apply leads_of_skipBlanks
  have past : spot.past ' ' = spot.along 1 := past_of_isPrintable (by simp [IsPrintable]) spot
  simp [State.skipBlanks,skipBlanks,isBreak,State.inFlow,past]

/-- Outside of brackets a key may follow at the beginning of the next line. -/
theorem leads_newline (rest : List Char) (spot : Spot) (levels : List Nat)
    (candidate : Option Candidate) (keyAllowed : Bool) (tokens : List Token) :
    Leads 0 (counted ('\n' :: rest) spot levels [candidate] keyAllowed tokens)
      (counted rest ⟨spot.line + 1, 0, spot.offset + 1⟩ levels [candidate] true tokens) := by
  apply leads_of_skipBlanks
  have past : spot.past '\n' = ⟨spot.line + 1, 0, spot.offset + 1⟩ := rfl
  simp [State.skipBlanks,skipBlanks,isBreak,State.inFlow,past]

/-- A candidate that need not be a key. -/
def IsFree (candidate : Option Candidate) : Prop :=
  ∀ found, candidate = some found → found.required = false

theorem dropCandidate_of_isFree {candidate : Option Candidate} (free : IsFree candidate)
    (rest : List Char) (spot : Spot) (levels : List Nat) (outer : List (Option Candidate))
    (keyAllowed : Bool) (tokens : List Token) (count : Nat) :
    State.dropCandidate ⟨rest, spot, levels, candidate :: outer, keyAllowed, tokens, count⟩ =
      some ⟨rest, spot, levels, none :: outer, keyAllowed, tokens, count⟩ := by
  cases candidate with
  | none => rfl
  | some found => simp [State.dropCandidate,free found rfl]

theorem leads_comma {candidate : Option Candidate} (free : IsFree candidate) (rest : List Char)
    (spot : Spot) (outer : List (Option Candidate)) (keyAllowed : Bool) (tokens : List Token) :
    Leads 1 (counted (',' :: rest) spot [1] (candidate :: outer) keyAllowed tokens)
      (counted rest (spot.along 1) [1] (none :: outer) true (.comma :: tokens)) := by
  apply leads_take (by simp [isBlank,isBreak]) (.inr rfl)
  have past : spot.past ',' = spot.along 1 := past_of_isPrintable (by simp [IsPrintable]) spot
  simp [State.take,isMarker,State.takeComma,dropCandidate_of_isFree free,State.takeIndicator,
    State.skip,State.emit,State.allowKey,past]

theorem leads_close {candidate : Option Candidate} (free : IsFree candidate) {closing : Char}
    {token : Token} (closes : closing = ']' ∧ token = .closeList ∨
      closing = '\x7d' ∧ token = .closeMap) (rest : List Char) (spot : Spot)
    {outer : List (Option Candidate)} (some' : outer ≠ []) (keyAllowed : Bool)
    (tokens : List Token) :
    Leads 1 (counted (closing :: rest) spot [1] (candidate :: outer) keyAllowed tokens)
      (counted rest (spot.along 1) [1] outer false (token :: tokens)) := by
  have taken (token : Token) (c : Char) (printable : IsPrintable c) :
      State.takeClosing (counted (c :: rest) spot [1] (candidate :: outer) keyAllowed tokens) token =
        some (counted rest (spot.along 1) [1] outer false (token :: tokens)) := by
    have flow : 1 < outer.length + 1 := by
      have some'' := List.length_pos_iff.mpr some'
      omega
    simp only [State.takeClosing,counted,dropCandidate_of_isFree free,Option.map_some,State.inFlow,
      List.length_cons,flow,decide_true,if_true,State.takeIndicator,State.skip,
      past_of_isPrintable printable,State.emit,State.allowKey,List.tail_cons]
  rcases closes with ⟨rfl,rfl⟩ | ⟨rfl,rfl⟩
  · apply leads_take (by simp [isBlank,isBreak]) (.inr rfl)
    simpa [State.take,isMarker] using taken .closeList ']' (by simp [IsPrintable])
  · apply leads_take (by simp [isBlank,isBreak]) (.inr rfl)
    simpa [State.take,isMarker] using taken .closeMap '\x7d' (by simp [IsPrintable])

/-- Inside of brackets, and where no key may begin, the next token leaves a free candidate. -/
theorem markCandidate_of_isFree {candidate : Option Candidate} (free : IsFree candidate)
    {outer : List (Option Candidate)} {keyAllowed : Bool} (flow : keyAllowed = true → outer ≠ [])
    (rest : List Char) (spot : Spot) (levels : List Nat) (tokens : List Token) :
    ∃ marked, IsFree marked ∧
      State.markCandidate (counted rest spot levels (candidate :: outer) keyAllowed tokens) =
        some (counted rest spot levels (marked :: outer) keyAllowed tokens) := by
  cases keyAllowed with
  | false => exact ⟨candidate,free,rfl⟩
  | true =>
    refine ⟨some ⟨tokens.length, spot, false⟩,by simp [IsFree],?_⟩
    simp [State.markCandidate,dropCandidate_of_isFree free,State.inFlow,
      List.length_pos_iff.mpr (flow rfl)]

theorem leads_open {candidate : Option Candidate} (free : IsFree candidate) {opening : Char}
    {token : Token} (opens : opening = '[' ∧ token = .openList ∨
      opening = '\x7b' ∧ token = .openMap) (rest : List Char) (spot : Spot)
    {outer : List (Option Candidate)} {keyAllowed : Bool} (flow : keyAllowed = true → outer ≠ [])
    (tokens : List Token) :
    ∃ marked, IsFree marked ∧
      Leads 1 (counted (opening :: rest) spot [1] (candidate :: outer) keyAllowed tokens)
        (counted rest (spot.along 1) [1] (none :: marked :: outer) true (token :: tokens)) := by
  obtain ⟨marked,freed,mark⟩ := markCandidate_of_isFree free flow (opening :: rest) spot [1] tokens
  refine ⟨marked,freed,?_⟩
  rcases opens with ⟨rfl,rfl⟩ | ⟨rfl,rfl⟩
  · apply leads_take (by simp [isBlank,isBreak]) (.inr rfl)
    have past := past_of_isPrintable (show IsPrintable '[' by simp [IsPrintable]) spot
    simp [State.take,isMarker,State.takeOpening,mark,State.takeIndicator,State.skip,State.emit,
      State.allowKey,past]
  · apply leads_take (by simp [isBlank,isBreak]) (.inr rfl)
    have past := past_of_isPrintable (show IsPrintable '\x7b' by simp [IsPrintable]) spot
    simp [State.take,isMarker,State.takeOpening,mark,State.takeIndicator,State.skip,State.emit,
      State.allowKey,past]

theorem leads_quote {candidate : Option Candidate} (free : IsFree candidate) (text : String)
    (rest : List Char) (spot : Spot) {outer : List (Option Candidate)} {keyAllowed : Bool}
    (flow : keyAllowed = true → outer ≠ []) (tokens : List Token) :
    ∃ marked, IsFree marked ∧
      Leads 1 (counted (quote text ++ rest) spot [1] (candidate :: outer) keyAllowed tokens)
        (counted rest (spot.along (quote text).length) [1] (marked :: outer) false
          (.scalar .quoted text.toList :: tokens)) := by
  obtain ⟨marked,freed,mark⟩ :=
    markCandidate_of_isFree free flow (quote text ++ rest) spot [1] tokens
  refine ⟨marked,freed,?_⟩
  have past := past_of_isPrintable (show IsPrintable '"' by simp [IsPrintable]) spot
  have inside : 0 < (spot.along 1).column := Nat.succ_pos _
  have scanned : doubleQuoted (spot.along 1) [] .none none
      (text.toList.flatMap escape ++ '"' :: rest) =
        some ⟨text.toList, spot.along (quote text).length, rest, false⟩ := by
    rw [doubleQuoted_quote inside,Spot.along_along]
    simp [quote,Nat.add_comm]
  have spelled : quote text ++ rest = '"' :: (text.toList.flatMap escape ++ '"' :: rest) := by
    simp [quote]
  rw [spelled] at mark ⊢
  apply leads_take (by simp [isBlank,isBreak]) (.inr rfl)
  simp [State.take,isMarker,State.takeQuoted,mark,State.skip,past,scanned,State.takeScalar,
    State.emit]

/-- Where a name may stand, by the open levels, the candidates further out and the column, and which
tokens it opens: at the beginning of the first line, of a later one, or inside of brackets. -/
inductive Stands : List Nat → List (Option Candidate) → Nat → List Token → Prop
  | first : Stands [] [] 0 [.blockMap]
  | later : Stands [1] [] 0 []
  | inside {outer : List (Option Candidate)} (some' : outer ≠ []) (column : Nat) :
      Stands [1] outer column []

theorem take_word {c : Char} {more : List Char} (word : IsWord (c :: more)) (rest : List Char)
    (state : State) : state.take c rest = state.takePlain := by
  have other := word.ne (c := c) (by simp)
  have noMarker : isMarker (c :: rest) = false := by
    unfold isMarker
    split
    · next same => exact absurd (List.cons.inj same).1 (other '-' (by decide))
    · next same => exact absurd (List.cons.inj same).1 (other '.' (by decide))
    · rfl
  simp [State.take,noMarker,isBlank,State.isIndicator,isFlowIndicator,other '%',other '[',other ']',
    other '\x7b',other '\x7d',other ',',other '-',other '?',other ':',other '*',other '&',other '!',
    other '|',other '>',other '\'',other '"',other ' ',other '\t',other '#',other '@',
    other '\x60']

theorem insert_counted (rest : List Char) (spot : Spot) (levels : List Nat)
    (candidates : List (Option Candidate)) (keyAllowed : Bool) (later tokens : List Token)
    (token : Token) :
    State.insert (counted rest spot levels candidates keyAllowed (later ++ tokens)) tokens.length
        token = counted rest spot levels candidates keyAllowed (later ++ token :: tokens) := by
  simp [State.insert,Nat.add_assoc]

theorem visible_of_isWord {text : List Char} (word : IsWord text) {c : Char} (among : c ∈ text) :
    isBlank c = false ∧ isBreak c = false ∧ c ≠ '#' ∧ c ≠ '\ufeff' := by
  have other := word.ne among
  have unbroken := not_isBreak_of_isPrintable (isPrintable_of_isWord word c among)
  exact ⟨by simp [isBlank,other ' ',other '\t'],unbroken,other '#' (by decide),
    other '\ufeff' (by decide)⟩

/-- The candidate for a key is the token that the text of the name becomes. -/
theorem leads_nameText {levels : List Nat} (outside : levels = [] ∨ levels = [1])
    {candidate : Option Candidate} (free : IsFree candidate) {name : List Char}
    (word : IsWord name) (rest : List Char) (spot : Spot) (outer : List (Option Candidate))
    (tokens : List Token) :
    ∃ required, Leads 1
      (counted (name ++ ':' :: ' ' :: rest) spot levels (candidate :: outer) true tokens)
      (counted (':' :: ' ' :: rest) (spot.along name.length) levels
        (some ⟨tokens.length, spot, required⟩ :: outer) false (.scalar .plain name :: tokens)) := by
  refine ⟨!decide (1 < outer.length + 1) && levels.headD 0 == spot.column + 1,?_⟩
  have mark : State.markCandidate
      (counted (name ++ ':' :: ' ' :: rest) spot levels (candidate :: outer) true tokens) =
        some (counted (name ++ ':' :: ' ' :: rest) spot levels (some ⟨tokens.length, spot,
          !decide (1 < outer.length + 1) && levels.headD 0 == spot.column + 1⟩ :: outer) true
            tokens) := by
    simp only [State.markCandidate,dropCandidate_of_isFree free,if_true,Option.map_some,
      List.tail_cons,State.inFlow,State.level,List.length_cons]
  have scanned (level : Nat) (inFlow : Bool) := plain_word word level inFlow spot rest
  obtain ⟨c,more,rfl⟩ := List.exists_cons_of_ne_nil word.1
  apply leads_take (visible_of_isWord word (by simp)) outside
  rw [take_word word,State.takePlain]
  simp only [List.cons_append] at scanned mark
  simp [mark,scanned,State.takeScalar,State.emit]

/-- The colon puts the mark of a key before the name, and opens the map of the file before that where
no map is open. -/
theorem leads_nameColon {levels : List Nat} {outer : List (Option Candidate)} {spot : Spot}
    {opened : List Token} (stands : Stands levels outer spot.column opened) {name : List Char}
    (short : name.length ≤ longestKey) (required : Bool) (rest : List Char)
    (tokens : List Token) :
    Leads 1
      (counted (':' :: ' ' :: rest) (spot.along name.length) levels
        (some ⟨tokens.length, spot, required⟩ :: outer) false (.scalar .plain name :: tokens))
      (counted (' ' :: rest) (spot.along (name.length + 1)) [1] (none :: outer) false
        ((nameTokens name).reverse ++ opened ++ tokens)) := by
  generalize column : spot.column = at' at stands
  have outside : levels = [] ∨ levels = [1] := by cases stands <;> simp
  apply leads_take (by simp [isBlank,isBreak]) outside
  have past := past_of_isPrintable (show IsPrintable ':' by simp [IsPrintable])
  have near : State.reaches (counted (':' :: ' ' :: rest) (spot.along name.length) levels
      (some ⟨tokens.length, spot, required⟩ :: outer) false (.scalar .plain name :: tokens))
        ⟨tokens.length, spot, required⟩ = true := by
    simp [State.reaches,Spot.along,short]
  have taken : State.take (counted (':' :: ' ' :: rest) (spot.along name.length) levels
      (some ⟨tokens.length, spot, required⟩ :: outer) false (.scalar .plain name :: tokens)) ':'
        (' ' :: rest) = State.takeValue (counted (':' :: ' ' :: rest) (spot.along name.length)
          levels (some ⟨tokens.length, spot, required⟩ :: outer) false
            (.scalar .plain name :: tokens)) := by
    simp [State.take,isMarker,endsWord,isBlank]
  have keyed : State.insert (counted (':' :: ' ' :: rest) (spot.along name.length) levels
      (none :: outer) false (.scalar .plain name :: tokens)) tokens.length .key =
        counted (':' :: ' ' :: rest) (spot.along name.length) levels (none :: outer) false
          (.scalar .plain name :: .key :: tokens) :=
    insert_counted _ _ _ _ _ [.scalar .plain name] tokens .key
  have indented : State.indent (counted (':' :: ' ' :: rest) (spot.along name.length) levels
      (none :: outer) false (.scalar .plain name :: .key :: tokens)) spot.column tokens.length
        .blockMap = counted (':' :: ' ' :: rest) (spot.along name.length) [1] (none :: outer)
          false (.scalar .plain name :: .key :: (opened ++ tokens)) := by
    rw [column]
    cases stands with
    | first => exact insert_counted _ _ [1] _ _ [.scalar .plain name, .key] tokens .blockMap
    | later => rfl
    | inside some' => simp [State.indent,State.inFlow,List.length_pos_iff.mpr some']
  rw [taken,State.takeValue]
  simp only [near,if_true,keyed,indented]
  simp [State.takeIndicator,State.skip,State.emit,State.allowKey,past,nameTokens]

/-- A name is a key, because a colon follows within reach. -/
theorem leads_name {levels : List Nat} {outer : List (Option Candidate)} {spot : Spot}
    {opened : List Token} (stands : Stands levels outer spot.column opened)
    {candidate : Option Candidate} (free : IsFree candidate) {name : List Char}
    (word : IsWord name) (short : name.length ≤ longestKey) (rest : List Char)
    (tokens : List Token) :
    Leads 2 (counted (name ++ ':' :: ' ' :: rest) spot levels (candidate :: outer) true tokens)
      (counted (' ' :: rest) (spot.along (name.length + 1)) [1] (none :: outer) false
        ((nameTokens name).reverse ++ opened ++ tokens)) := by
  have outside : levels = [] ∨ levels = [1] := by
    generalize spot.column = column at stands
    cases stands <;> simp
  obtain ⟨required,marked⟩ := leads_nameText outside free word rest spot outer tokens
  exact marked.trans (leads_nameColon stands short required rest tokens)

/-- A text inside of brackets that is read as these tokens. -/
def IsItem (text : List Char) (item : List Token) : Prop :=
  ∀ candidate outer spot tokens rest, IsFree candidate → outer ≠ [] →
    ∃ marked, IsFree marked ∧
      Leads text.length (counted (text ++ rest) spot [1] (candidate :: outer) true tokens)
        (counted rest (spot.along text.length) [1] (marked :: outer) false (item.reverse ++ tokens))

theorem isFree_none : IsFree none :=
  nofun

theorem isItem_quote (text : String) : IsItem (quote text) [.scalar .quoted text.toList] := by
  intro candidate outer spot tokens rest free some'
  obtain ⟨marked,freed,leads⟩ := leads_quote free text rest spot (fun _ => some') tokens
  exact ⟨marked,freed,leads.of_le (by simp [quote])⟩

theorem isItem_member {name : String} (word : IsWord name.toList)
    (short : name.toList.length ≤ longestKey) (text : String) :
    IsItem (writeMember FileFormat.yaml.mark name text) (memberTokens name text) := by
  intro candidate outer spot tokens rest free some'
  have named := leads_name (.inside some' spot.column) free word short (quote text ++ rest) tokens
  have spaced := leads_space (quote text ++ rest) (spot.along (name.toList.length + 1)) [1]
    (none :: outer) false ((nameTokens name.toList).reverse ++ [] ++ tokens)
  obtain ⟨marked,freed,quoted⟩ := leads_quote isFree_none text rest
    ((spot.along (name.toList.length + 1)).along 1) (show false = true → outer ≠ [] by simp)
    ((nameTokens name.toList).reverse ++ [] ++ tokens)
  refine ⟨marked,freed,?_⟩
  have all := ((named.trans spaced).trans quoted).of_le
    (show 2 + 0 + 1 ≤ (writeMember FileFormat.yaml.mark name text).length by
      simp [writeMember,FileFormat.mark,quote]
      omega)
  simpa [writeMember,FileFormat.mark,memberTokens,Nat.add_assoc,Nat.add_comm 2] using all

theorem leads_intercalate {texts : List (List Char)} {items : List (List Token)}
    (each : List.Forall₂ IsItem texts items) {candidate : Option Candidate}
    (free : IsFree candidate) {outer : List (Option Candidate)} (some' : outer ≠ [])
    (spot : Spot) (tokens : List Token) (rest : List Char) :
    ∃ marked keyAllowed, IsFree marked ∧
      Leads ([',', ' '].intercalate texts).length
        (counted ([',', ' '].intercalate texts ++ rest) spot [1] (candidate :: outer) true tokens)
        (counted rest (spot.along ([',', ' '].intercalate texts).length) [1] (marked :: outer)
          keyAllowed (([.comma].intercalate items).reverse ++ tokens)) := by
  induction each generalizing candidate spot tokens with
  | nil => exact ⟨candidate,true,free,0,Nat.le_refl 0,fun steps => rfl⟩
  | @cons text item texts items first others ih =>
    cases others with
    | nil =>
      obtain ⟨marked,freed,leads⟩ := first candidate outer spot tokens rest free some'
      exact ⟨marked,false,freed,by simpa using leads⟩
    | @cons next nextItem texts items second others =>
      obtain ⟨marked,freed,here⟩ := first candidate outer spot tokens
        (',' :: ' ' :: ([',', ' '].intercalate (next :: texts) ++ rest)) free some'
      have comma := leads_comma freed (' ' :: ([',', ' '].intercalate (next :: texts) ++ rest))
        (spot.along text.length) outer false (item.reverse ++ tokens)
      have space := leads_space ([',', ' '].intercalate (next :: texts) ++ rest)
        ((spot.along text.length).along 1) [1] (none :: outer) true
        (.comma :: (item.reverse ++ tokens))
      obtain ⟨last,keyAllowed,ended,there⟩ := ih isFree_none
        (((spot.along text.length).along 1).along 1) (.comma :: (item.reverse ++ tokens))
      refine ⟨last,keyAllowed,ended,?_⟩
      have all := (((here.trans comma).trans space).trans there).of_le
        (show _ ≤ ([',', ' '].intercalate (text :: next :: texts)).length by
          rw [List.intercalate_cons_cons]
          simp
          omega)
      simpa [List.intercalate_cons_cons,Nat.add_assoc,Nat.add_comm 2] using all

theorem leads_enclose {opening closing : Char} {openToken closeToken : Token}
    (kind : opening = '[' ∧ openToken = .openList ∧ closing = ']' ∧ closeToken = .closeList ∨
      opening = '\x7b' ∧ openToken = .openMap ∧ closing = '\x7d' ∧ closeToken = .closeMap)
    {texts : List (List Char)} {items : List (List Token)} (each : List.Forall₂ IsItem texts items)
    {candidate : Option Candidate} (free : IsFree candidate) {outer : List (Option Candidate)}
    {keyAllowed : Bool} (flow : keyAllowed = true → outer ≠ []) (spot : Spot)
    (tokens : List Token) (rest : List Char) :
    ∃ marked, IsFree marked ∧
      Leads (enclose opening closing texts).length
        (counted (enclose opening closing texts ++ rest) spot [1] (candidate :: outer) keyAllowed
          tokens)
        (counted rest (spot.along (enclose opening closing texts).length) [1] (marked :: outer)
          false ((encloseTokens openToken closeToken items).reverse ++ tokens)) := by
  have opens : opening = '[' ∧ openToken = .openList ∨ opening = '\x7b' ∧ openToken = .openMap := by
    rcases kind with ⟨first,second,-⟩ | ⟨first,second,-⟩ <;> simp [first,second]
  have closes : closing = ']' ∧ closeToken = .closeList ∨
      closing = '\x7d' ∧ closeToken = .closeMap := by
    rcases kind with ⟨-,-,first,second⟩ | ⟨-,-,first,second⟩ <;> simp [first,second]
  obtain ⟨marked,freed,opened⟩ := leads_open free opens
    ([',', ' '].intercalate texts ++ closing :: rest) spot flow tokens
  obtain ⟨last,allowed,ended,inside⟩ := leads_intercalate each isFree_none
    (show marked :: outer ≠ [] by simp) (spot.along 1) (openToken :: tokens) (closing :: rest)
  have closed := leads_close ended closes rest
    ((spot.along 1).along ([',', ' '].intercalate texts).length)
    (show marked :: outer ≠ [] by simp) allowed
    (([.comma].intercalate items).reverse ++ openToken :: tokens)
  refine ⟨marked,freed,?_⟩
  have all := ((opened.trans inside).trans closed).of_le
    (show _ ≤ (enclose opening closing texts).length by simp [enclose]; omega)
  simpa [enclose,encloseTokens,Nat.add_comm,Nat.add_left_comm] using all

theorem isItem_entry (entry : Abbreviation) :
    IsItem (writeEntry FileFormat.yaml.mark entry) (entryTokens entry) := by
  intro candidate outer spot tokens rest free some'
  have each : List.Forall₂ IsItem
      [writeMember FileFormat.yaml.mark "term" entry.term,
        writeMember FileFormat.yaml.mark "expansion" entry.expansion]
      [memberTokens "term" entry.term, memberTokens "expansion" entry.expansion] :=
    .cons (isItem_member (isWord_of_all (by decide) (by decide)) (by decide) _)
      (.cons (isItem_member (isWord_of_all (by decide) (by decide)) (by decide) _) .nil)
  exact leads_enclose (.inr ⟨rfl,rfl,rfl,rfl⟩) each free (fun _ => some') spot tokens rest

/-- Nothing that a line of its own may not begin with. -/
def BeginsLine (rest : List Char) : Prop :=
  ∀ c ∈ rest.head?, isBlank c = false ∧ isBreak c = false

theorem leads_number {digits : List Char} (word : IsWord digits) {rest : List Char}
    (next : BeginsLine rest) (spot : Spot) (candidate : Option Candidate) (tokens : List Token) :
    Leads 1 (counted (digits ++ '\n' :: rest) spot [1] [candidate] false tokens)
      (counted rest ⟨spot.line + 1, 0, spot.offset + digits.length + 1⟩ [1] [candidate] true
        (.scalar .plain digits :: tokens)) := by
  have scanned := plain_number word (show 0 < 1 by decide) spot next
  obtain ⟨c,more,rfl⟩ := List.exists_cons_of_ne_nil word.1
  apply leads_take (visible_of_isWord word (by simp)) (.inr rfl)
  rw [take_word word,State.takePlain]
  simp only [List.cons_append] at scanned
  simp [State.markCandidate,State.level,State.inFlow,scanned,State.takeScalar,State.emit]

theorem leads_setting (setting : Setting) {candidate : Option Candidate} (free : IsFree candidate)
    {rest : List Char} (next : BeginsLine rest) (spot : Spot) (tokens : List Token) :
    ∃ marked place, IsFree marked ∧ Spot.column place = 0 ∧
      Leads (writeSetting FileFormat.yaml.mark setting).length
        (counted (writeSetting FileFormat.yaml.mark setting ++ '\n' :: rest) spot [1] [candidate]
          false tokens)
        (counted rest place [1] [marked] true ((settingTokens setting).reverse ++ tokens)) := by
  have outside : false = true → ([] : List (Option Candidate)) ≠ [] := nofun
  have ended {length most : Nat} {text : List Char} {marked : Option Candidate} {items : List Token}
      (leads : Leads most (counted (text ++ '\n' :: rest) spot [1] [candidate] false tokens)
        (counted ('\n' :: rest) (spot.along length) [1] [marked] false items)) :=
    leads.trans (leads_newline rest (spot.along length) [1] marked false items)
  cases setting with
  | text text =>
    obtain ⟨marked,freed,leads⟩ := leads_quote free text ('\n' :: rest) spot outside tokens
    exact ⟨marked,_,freed,rfl,(ended leads).of_le (by simp [writeSetting,quote])⟩
  | number value =>
    have word := isWord_toDigits value
    refine ⟨candidate,_,free,rfl,(leads_number word next spot candidate tokens).of_le ?_⟩
    exact List.length_pos_iff.mpr word.1
  | texts texts =>
    have each : List.Forall₂ IsItem (texts.map quote)
        (texts.map fun text => [.scalar .quoted text.toList]) :=
      forall₂_map_map isItem_quote texts
    obtain ⟨marked,freed,leads⟩ :=
      leads_enclose (.inl ⟨rfl,rfl,rfl,rfl⟩) each free outside spot tokens ('\n' :: rest)
    exact ⟨marked,_,freed,rfl,ended leads⟩
  | entries entries =>
    have each : List.Forall₂ IsItem (entries.map (writeEntry FileFormat.yaml.mark))
        (entries.map entryTokens) :=
      forall₂_map_map isItem_entry entries
    obtain ⟨marked,freed,leads⟩ :=
      leads_enclose (.inl ⟨rfl,rfl,rfl,rfl⟩) each free outside spot tokens ('\n' :: rest)
    exact ⟨marked,_,freed,rfl,ended leads⟩

theorem leads_line {line : String × Setting} (word : IsWord line.1.toList)
    (short : line.1.toList.length ≤ longestKey) {levels : List Nat} {opened : List Token}
    {spot : Spot} (stands : Stands levels [] spot.column opened) {candidate : Option Candidate}
    (free : IsFree candidate) {rest : List Char} (next : BeginsLine rest) (tokens : List Token) :
    ∃ marked place, IsFree marked ∧ Spot.column place = 0 ∧
      Leads (writeLine FileFormat.yaml.mark line).length
        (counted (writeLine FileFormat.yaml.mark line ++ rest) spot levels [candidate] true tokens)
        (counted rest place [1] [marked] true
          ((lineTokens line).reverse ++ opened ++ tokens)) := by
  have named := leads_name stands free word short
    (writeSetting FileFormat.yaml.mark line.2 ++ '\n' :: rest) tokens
  have spaced := leads_space (writeSetting FileFormat.yaml.mark line.2 ++ '\n' :: rest)
    (spot.along (line.1.toList.length + 1)) [1] [none] false
    ((nameTokens line.1.toList).reverse ++ opened ++ tokens)
  obtain ⟨marked,place,freed,column,set⟩ := leads_setting line.2 isFree_none next
    ((spot.along (line.1.toList.length + 1)).along 1)
    ((nameTokens line.1.toList).reverse ++ opened ++ tokens)
  refine ⟨marked,place,freed,column,?_⟩
  have all := ((named.trans spaced).trans set).of_le
    (show _ ≤ (writeLine FileFormat.yaml.mark line).length by
      simp [writeLine,FileFormat.mark]
      omega)
  simpa [writeLine,FileFormat.mark,lineTokens] using all

theorem beginsLine_lines {lines : List (String × Setting)}
    (worded : ∀ line ∈ lines, IsWord line.1.toList) :
    BeginsLine (lines.flatMap (writeLine FileFormat.yaml.mark)) := by
  cases lines with
  | nil => nofun
  | cons line lines =>
    have word := worded line (by simp)
    obtain ⟨c,more,name⟩ := List.exists_cons_of_ne_nil word.1
    obtain ⟨unblank,unbroken,-⟩ := visible_of_isWord word (show c ∈ line.1.toList by simp [name])
    simp [BeginsLine,writeLine,name,unblank,unbroken]

theorem leads_lines {lines : List (String × Setting)}
    (worded : ∀ line ∈ lines, IsWord line.1.toList)
    (short : ∀ line ∈ lines, line.1.toList.length ≤ longestKey) {spot : Spot}
    (column : spot.column = 0) {candidate : Option Candidate} (free : IsFree candidate)
    (tokens : List Token) :
    ∃ marked place, IsFree marked ∧
      Leads (lines.flatMap (writeLine FileFormat.yaml.mark)).length
        (counted (lines.flatMap (writeLine FileFormat.yaml.mark)) spot [1] [candidate] true tokens)
        (counted [] place [1] [marked] true ((lines.flatMap lineTokens).reverse ++ tokens)) := by
  induction lines generalizing spot candidate tokens with
  | nil => exact ⟨candidate,spot,free,0,Nat.le_refl 0,fun steps => rfl⟩
  | cons line lines ih =>
    obtain ⟨word,words⟩ := List.forall_mem_cons.mp worded
    obtain ⟨near,others⟩ := List.forall_mem_cons.mp short
    have stands : Stands [1] [] spot.column [] := by
      rw [column]
      exact .later
    obtain ⟨marked,place,freed,column,here⟩ :=
      leads_line word near stands free (beginsLine_lines words) tokens
    obtain ⟨last,final,ended,there⟩ :=
      ih words others column freed ((lineTokens line).reverse ++ [] ++ tokens)
    refine ⟨last,final,ended,?_⟩
    simpa using here.trans there

theorem scanFrom_end {candidate : Option Candidate} (free : IsFree candidate) (spot : Spot)
    (keyAllowed : Bool) (tokens : List Token) (steps : Nat) :
    scanFrom (steps + 1) (counted [] spot [1] [candidate] keyAllowed tokens) =
      some (tokens.reverse ++ [.blockEnd]) := by
  have dropped := dropCandidate_of_isFree free [] spot [] [] keyAllowed (.blockEnd :: tokens)
    (tokens.length + 1)
  simp [scanFrom,State.skipBlanks,skipBlanks,State.dedent,State.inFlow,State.dedentTo,State.emit,
    dropped]

theorem scanFrom_lines {lines : List (String × Setting)}
    (worded : ∀ line ∈ lines, IsWord line.1.toList)
    (short : ∀ line ∈ lines, line.1.toList.length ≤ longestKey) :
    scanFrom ((lines.flatMap (writeLine FileFormat.yaml.mark)).length + 1)
      (start (lines.flatMap (writeLine FileFormat.yaml.mark))) = some (fileTokens lines) := by
  cases lines with
  | nil => rfl
  | cons line lines =>
    obtain ⟨word,words⟩ := List.forall_mem_cons.mp worded
    obtain ⟨near,others⟩ := List.forall_mem_cons.mp short
    obtain ⟨marked,place,freed,column,here⟩ :=
      leads_line word near (show Stands [] [] Spot.start.column _ from .first) isFree_none
        (beginsLine_lines words) []
    obtain ⟨last,final,ended,there⟩ := leads_lines words others column freed
      ((lineTokens line).reverse ++ [.blockMap] ++ [])
    obtain ⟨taken,few,same⟩ := here.trans there
    -- There is a step for each character and one for the end, which are more than are taken.
    rw [List.flatMap_cons,List.length_append]
    obtain ⟨spare,enough⟩ := Nat.exists_eq_add_of_le' few
    rw [enough,show spare + taken + 1 = spare + 1 + taken by omega]
    refine (same (spare + 1)).trans ?_
    rw [scanFrom_end ended]
    simp [fileTokens]

theorem isPrintable_writeLine {line : String × Setting} (word : IsWord line.1.toList) :
    ∀ c ∈ writeLine FileFormat.yaml.mark line, IsPrintable c ∨ c = '\n' := by
  intro c among
  simp only [writeLine,List.mem_append,List.mem_singleton] at among
  rcases among with ((inName | inMark) | inValue) | rfl
  · exact .inl (isPrintable_of_isWord word c inName)
  · exact .inl (isPrintable_mark .yaml c inMark)
  · exact .inl (isPrintable_writeSetting (isPrintable_mark .yaml) line.2 c inValue)
  · exact .inr rfl

theorem unifyBreaks_of_isPrintable {text : List Char}
    (printable : ∀ c ∈ text, IsPrintable c ∨ c = '\n') : unifyBreaks text = text := by
  induction text with
  | nil => rfl
  | cons c rest ih =>
    obtain ⟨first,others⟩ := List.forall_mem_cons.mp printable
    have carriage : c ≠ '\r' := by
      rintro rfl
      simp [IsPrintable] at first
    have nextLine : c ≠ '\u0085' := by
      rintro rfl
      simp [IsPrintable] at first
    rw [unifyBreaks]
    · simp [carriage,nextLine,ih others]
    · exact fun _ same => absurd same carriage

/-- A file is read as the tokens of its lines. -/
theorem scan_lines {lines : List (String × Setting)}
    (worded : ∀ line ∈ lines, IsWord line.1.toList)
    (short : ∀ line ∈ lines, line.1.toList.length ≤ longestKey) :
    scan (lines.flatMap (writeLine FileFormat.yaml.mark)) = some (fileTokens lines) := by
  have printable : ∀ c ∈ lines.flatMap (writeLine FileFormat.yaml.mark),
      IsPrintable c ∨ c = '\n' := by
    intro c among
    obtain ⟨line,known,inside⟩ := List.mem_flatMap.mp among
    exact isPrintable_writeLine (worded line known) c inside
  have allowed : (lines.flatMap (writeLine FileFormat.yaml.mark)).all isAllowed = true := by
    rw [List.all_eq_true]
    intro c among
    rcases printable c among with seen | rfl
    · have range := seen
      simp only [IsPrintable] at range
      simp [isAllowed,range]
    · decide
  rw [scan,if_pos allowed,unifyBreaks_of_isPrintable printable]
  exact scanFrom_lines worded short

end Token
end NotebookLint.Yaml
