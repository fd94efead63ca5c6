import SqlTyping.Yaml.Scalar

/-!
# Nodes

The content of a YAML document: scalars, sequences and mappings, and aliases, which stand for a
node with an anchor elsewhere in the document. An alias may occur inside the node that it stands
for, so it refers to that node by number.
-/

namespace SqlTyping.Yaml

/-- A node. The lines count from one. -/
inductive Node where
  | scalar (line : Nat) (tag : Tag) (text : String)
  | sequence (line : Nat) (tag : Tag) (items : List Node)
  | mapping (line : Nat) (tag : Tag) (entries : List (Node × Node))
  /-- The alias with the given serial number for the node with the number `target`. -/
  | reference (line : Nat) (name : String) (serial target : Nat)

/-- The content of a document. -/
structure Document where
  root : Node
  /-- The nodes with an anchor, by number. -/
  anchored : List (Nat × Node)
  /-- A bound for the number of nodes. -/
  size : Nat

namespace Node

/-- The line on which a node starts. -/
def line : Node → Nat
  | scalar line .. => line
  | sequence line .. => line
  | mapping line .. => line
  | reference line .. => line

/-- The text of a scalar, the name of an alias; collections have none. -/
def text : Node → String
  | scalar _ _ text => text
  | reference _ name _ _ => name
  | sequence .. | mapping .. => ""

/-- The tag of a node; an alias has none of its own. -/
def tag : Node → Tag
  | scalar _ tag _ => tag
  | sequence _ tag _ => tag
  | mapping _ tag _ => tag
  | reference .. => .other ""

/-- Whether a key announces the entries of other mappings. -/
def isMerge : Node → Bool
  | scalar _ tag text => text = "<<" && tag = .merge
  | _ => false

/-- Whether two nodes are of one kind and have the same text. Two keys of a mapping must differ in
this sense. -/
def sameText : Node → Node → Bool
  | scalar _ _ a, scalar _ _ b => a = b
  | reference _ a _ _, reference _ b _ _ => a = b
  | sequence .., sequence .. => true
  | mapping .., mapping .. => true
  | _, _ => false

end Node

end SqlTyping.Yaml
