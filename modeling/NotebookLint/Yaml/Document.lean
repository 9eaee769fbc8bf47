import NotebookLint.Yaml.Node
import NotebookLint.Yaml.Token

/-! YAML documents: the node that a sequence of tokens writes, by descent into its collections. The
number of steps is bounded by the number of tokens, of which each step takes one or goes one level
down. -/
namespace NotebookLint.Yaml.Document

def standardTags : List (List Char × List Char) :=
  [(['!'], ['!']), (['!', '!'], "tag:yaml.org,2002:".toList)]

def tag? (tags : List (List Char × List Char)) (handle suffix : List Char) : Option (List Char) :=
  if handle.isEmpty then some suffix
  else (tags.find? (·.1 == handle)).map (·.2 ++ suffix)

/-- The anchor and the tag before a node's content, in either order. -/
structure Properties where
  anchor : Option (List Char)
  tag : Option (List Char)

/-- The tag of a text that is written out, which an exclamation mark alone leaves without one. -/
def Properties.ownTag (found : Properties) : Option (List Char) :=
  if found.tag = some ['!'] then none else found.tag

def properties (tags : List (List Char × List Char)) :
    List Token → Option (Properties × List Token)
  | .anchor name :: .tag handle suffix :: rest =>
    (tag? tags handle suffix).map fun tag => (⟨some name, some tag⟩, rest)
  | .tag handle suffix :: .anchor name :: rest =>
    (tag? tags handle suffix).map fun tag => (⟨some name, some tag⟩, rest)
  | .anchor name :: rest => some (⟨some name, none⟩, rest)
  | .tag handle suffix :: rest =>
    (tag? tags handle suffix).map fun tag => (⟨none, some tag⟩, rest)
  | rest => some (⟨none, none⟩, rest)

/-- Something read from tokens, with the anchors known after it and the tokens that follow it. -/
abbrev Reading (α : Type) :=
  α × Anchors × List Token

/-- Where a node stands: in a block collection, there perhaps where the entries of a list need no
indentation, or inside brackets. -/
inductive Place where
  | block
  | afterKey
  | flow
  deriving DecidableEq

def isOneOf (ends : List Token) : List Token → Bool
  | [] => false
  | token :: _ => ends.contains token

def endsEntry : List Token → Bool := isOneOf [.entry, .blockEnd]
def endsLooseEntry : List Token → Bool := isOneOf [.entry, .key, .value, .blockEnd]
def endsMember : List Token → Bool := isOneOf [.key, .value, .blockEnd]
def endsFlowKey (closing : Token) : List Token → Bool := isOneOf [.value, .comma, closing]
def endsFlowValue (closing : Token) : List Token → Bool := isOneOf [.comma, closing]

section
variable (tags : List (List Char × List Char))

mutual

def node (steps : Nat) (place : Place) (anchors : Anchors) (tokens : List Token) :
    Option (Reading Node) :=
  match steps with
  | 0 => none
  | steps + 1 =>
    match tokens with
    | .alias name :: rest => (anchors.slot? name).map fun slot => (.alias slot, anchors, rest)
    | _ => do
      let (found, rest) ← properties tags tokens
      match found.anchor with
      | none => content steps place found anchors rest
      | some name =>
        let (anchors, slot) := anchors.add name
        let (inner, anchors, rest) ← content steps place found anchors rest
        return (.anchored slot inner, anchors, rest)

def content (steps : Nat) (place : Place) (found : Properties) (anchors : Anchors)
    (tokens : List Token) : Option (Reading Node) :=
  match steps with
  | 0 => none
  | steps + 1 =>
    match tokens, place with
    | .entry :: _, .afterKey => do
      let (items, anchors, rest) ← looseEntries steps anchors tokens
      return (.list items, anchors, rest)
    | .scalar style text :: rest, _ => some (.scalar style found.ownTag text, anchors, rest)
    | .openList :: rest, _ => do
      let (items, anchors, rest) ← flowItems steps true anchors rest
      return (.list items, anchors, rest)
    | .openMap :: rest, _ => do
      let (pairs, anchors, rest) ← flowPairs steps true anchors rest
      return (.map pairs, anchors, rest)
    | .blockList :: rest, .block | .blockList :: rest, .afterKey => do
      let (items, anchors, rest) ← entries steps anchors rest
      return (.list items, anchors, rest)
    | .blockMap :: rest, .block | .blockMap :: rest, .afterKey => do
      let (pairs, anchors, rest) ← members steps anchors rest
      return (.map pairs, anchors, rest)
    | tokens, _ =>
      if found.anchor.isSome || found.tag.isSome then
        some (.scalar .plain found.tag [], anchors, tokens)
      else none

/-- A node, unless one of the tokens stands here before which it is void. -/
def nodeUnless (steps : Nat) (ends : List Token → Bool) (place : Place) (anchors : Anchors)
    (tokens : List Token) : Option (Reading Node) :=
  match steps with
  | 0 => none
  | steps + 1 =>
    if ends tokens then some (.void, anchors, tokens) else node steps place anchors tokens

def entries (steps : Nat) (anchors : Anchors) (tokens : List Token) :
    Option (Reading (List Node)) :=
  match steps with
  | 0 => none
  | steps + 1 =>
    match tokens with
    | .entry :: rest => do
      let (item, anchors, rest) ← nodeUnless steps endsEntry .block anchors rest
      let (items, anchors, rest) ← entries steps anchors rest
      return (item :: items, anchors, rest)
    | .blockEnd :: rest => some ([], anchors, rest)
    | _ => none

/-- The entries of a list that stands no deeper than its key. -/
def looseEntries (steps : Nat) (anchors : Anchors) (tokens : List Token) :
    Option (Reading (List Node)) :=
  match steps with
  | 0 => none
  | steps + 1 =>
    match tokens with
    | .entry :: rest => do
      let (item, anchors, rest) ← nodeUnless steps endsLooseEntry .block anchors rest
      let (items, anchors, rest) ← looseEntries steps anchors rest
      return (item :: items, anchors, rest)
    | rest => some ([], anchors, rest)

/-- The value after a key: void without a colon, and void before a token that cannot begin one. -/
def valueAfter (steps : Nat) (ends : List Token → Bool) (place : Place) (anchors : Anchors)
    (tokens : List Token) : Option (Reading Node) :=
  match steps with
  | 0 => none
  | steps + 1 =>
    match tokens with
    | .value :: rest => nodeUnless steps ends place anchors rest
    | rest => some (.void, anchors, rest)

def members (steps : Nat) (anchors : Anchors) (tokens : List Token) :
    Option (Reading (List (Node × Node))) :=
  match steps with
  | 0 => none
  | steps + 1 =>
    match tokens with
    | .key :: rest => do
      let (key, anchors, rest) ← nodeUnless steps endsMember .afterKey anchors rest
      let (value, anchors, rest) ← valueAfter steps endsMember .afterKey anchors rest
      let (pairs, anchors, rest) ← members steps anchors rest
      return ((key, value) :: pairs, anchors, rest)
    | .blockEnd :: rest => some ([], anchors, rest)
    | _ => none

/-- The items of a list in brackets. An item with a key is a map of one pair. -/
def flowItems (steps : Nat) (isFirst : Bool) (anchors : Anchors) (tokens : List Token) :
    Option (Reading (List Node)) :=
  match steps with
  | 0 => none
  | steps + 1 =>
    match tokens, isFirst with
    | .closeList :: rest, _ => some ([], anchors, rest)
    | .comma :: .closeList :: rest, false => some ([], anchors, rest)
    | .comma :: rest, false => flowItem steps anchors rest
    | rest, true => flowItem steps anchors rest
    | _, false => none

def flowItem (steps : Nat) (anchors : Anchors) (tokens : List Token) :
    Option (Reading (List Node)) :=
  match steps with
  | 0 => none
  | steps + 1 =>
    match tokens with
    | .key :: rest => do
      -- The token after a void key is lost.
      let (key, anchors, rest) ←
        if endsFlowKey .closeList rest then some (.void, anchors, rest.tail)
        else node steps .flow anchors rest
      let (value, anchors, rest) ← valueAfter steps (endsFlowValue .closeList) .flow anchors rest
      let (items, anchors, rest) ← flowItems steps false anchors rest
      return (.map [(key, value)] :: items, anchors, rest)
    | rest => do
      let (item, anchors, rest) ← node steps .flow anchors rest
      let (items, anchors, rest) ← flowItems steps false anchors rest
      return (item :: items, anchors, rest)

/-- The members of a map in braces. A member without a mark has a void value. -/
def flowPairs (steps : Nat) (isFirst : Bool) (anchors : Anchors) (tokens : List Token) :
    Option (Reading (List (Node × Node))) :=
  match steps with
  | 0 => none
  | steps + 1 =>
    match tokens, isFirst with
    | .closeMap :: rest, _ => some ([], anchors, rest)
    | .comma :: .closeMap :: rest, false => some ([], anchors, rest)
    | .comma :: rest, false => flowPair steps anchors rest
    | rest, true => flowPair steps anchors rest
    | _, false => none

def flowPair (steps : Nat) (anchors : Anchors) (tokens : List Token) :
    Option (Reading (List (Node × Node))) :=
  match steps with
  | 0 => none
  | steps + 1 =>
    match tokens with
    | .key :: rest => do
      let (key, anchors, rest) ← nodeUnless steps (endsFlowKey .closeMap) .flow anchors rest
      let (value, anchors, rest) ← valueAfter steps (endsFlowValue .closeMap) .flow anchors rest
      let (pairs, anchors, rest) ← flowPairs steps false anchors rest
      return ((key, value) :: pairs, anchors, rest)
    | rest => do
      let (key, anchors, rest) ← node steps .flow anchors rest
      let (pairs, anchors, rest) ← flowPairs steps false anchors rest
      return ((key, .void) :: pairs, anchors, rest)

end
end

def stepsFor (tokens : List Token) : Nat :=
  8 * tokens.length + 8

/-- The directives before a document: at most one about the version, and one for each handle. -/
def directives (version : Bool) (tags : List (List Char × List Char)) :
    List Token → Option (List (List Char × List Char) × List Token)
  | .version :: rest => if version then none else directives true tags rest
  | .tagDirective handle expansion :: rest =>
    if tags.any (·.1 == handle) then none
    else directives version ((handle, expansion) :: tags) rest
  | rest => some (tags, rest)

def endsDocument : List Token → Bool
  | [] => true
  | .version :: _ | .tagDirective _ _ :: _ | .documentStart :: _ | .documentEnd :: _ => true
  | _ => false

def body (tags : List (List Char × List Char)) (tokens : List Token) : Option (Node × List Token) :=
  if endsDocument tokens then some (.void, tokens)
  else (node tags (stepsFor tokens) .block [] tokens).map fun (root, _, rest) => (root, rest)

/-- A document at the beginning of a text, which needs no start of its own if it has no
directives. -/
def first (tokens : List Token) : Option (Node × List Token) :=
  match tokens with
  | .version :: _ | .tagDirective _ _ :: _ | .documentStart :: _ =>
    (directives false [] tokens).bind fun
      | (tags, .documentStart :: rest) => body (tags ++ standardTags) rest
      | _ => none
  | _ =>
    (node standardTags (stepsFor tokens) .block [] tokens).map fun (root, _, rest) => (root, rest)

/-- The only document of a text, if it has one: after it, documents may end but not begin. -/
def read (text : List Char) : Option (Option Node) := do
  let tokens ← Token.scan text
  if tokens.isEmpty then return none
  let (root, rest) ← first tokens
  if rest.all (· == .documentEnd) then return some root else none

end NotebookLint.Yaml.Document
