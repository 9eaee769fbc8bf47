import NotebookLint.Yaml.Scalar

/-! YAML nodes, and the nodes that anchors give a name to. -/
namespace NotebookLint.Yaml

/-- A node. An anchor is kept as the number of its slot, and an alias as the slot it looks at. -/
inductive Node where
  | scalar (style : Style) (tag : Option (List Char)) (text : List Char)
  | list (items : List Node)
  | map (pairs : List (Node × Node))
  | alias (slot : Nat)
  | anchored (slot : Nat) (node : Node)
  deriving Inhabited, Repr

namespace Node

/-- What stands where nothing is written. -/
def void : Node := scalar .plain none []

mutual

/-- The nodes that have slots, in the order in which they begin. -/
def slots : Node → List (Nat × Node)
  | .scalar _ _ _ => []
  | .alias _ => []
  | .list items => listSlots items
  | .map pairs => pairSlots pairs
  | .anchored slot node => (slot, node) :: slots node

def listSlots : List Node → List (Nat × Node)
  | [] => []
  | item :: rest => slots item ++ listSlots rest

def pairSlots : List (Node × Node) → List (Nat × Node)
  | [] => []
  | (key, value) :: rest => slots key ++ slots value ++ pairSlots rest

end

mutual

/-- How many events a node is written with: one for each text and alias, and two for the ends of
each collection. -/
def events : Node → Nat
  | .scalar _ _ _ => 1
  | .alias _ => 1
  | .list items => listEvents items + 2
  | .map pairs => pairEvents pairs + 2
  | .anchored _ node => events node

def listEvents : List Node → Nat
  | [] => 0
  | item :: rest => events item + listEvents rest

def pairEvents : List (Node × Node) → Nat
  | [] => 0
  | (key, value) :: rest => events key + events value + pairEvents rest

end

def isAlias : Node → Bool
  | .alias _ => true
  | _ => false

/-- The node itself, without its anchor, or what its alias stands for: the last node of the slot. -/
def resolve (slots : List (Nat × Node)) : Node → Node
  | .anchored _ node => node
  | .alias slot => ((slots.reverse.find? (·.1 == slot)).map (·.2)).getD void
  | node => node

end Node

/-- The anchors met so far, each name once with its newest slot. -/
abbrev Anchors := List (List Char × Nat)

namespace Anchors

def slot? (anchors : Anchors) (name : List Char) : Option Nat :=
  (anchors.find? (·.1 == name)).map (·.2)

/-- A new anchor gets the slot whose number is that of the names so far. -/
def add (anchors : Anchors) (name : List Char) : Anchors × Nat :=
  -- A name that is used again does not count twice, so that the next name may share its newer slot.
  ((name, anchors.length) :: anchors.filter (·.1 != name), anchors.length)

end Anchors
end NotebookLint.Yaml
