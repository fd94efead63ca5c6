import SqlTyping.Diagnostic
import SqlTyping.Text.Quoted
import SqlTyping.Yaml.Node
import SqlTyping.Yaml.Value

/-!
# Decoding nodes

From nodes to texts, lists, records and values of any kind. What does not fit is recorded as a
complaint, and decoding goes on, so that all complaints about a document are reported together. A
problem, in contrast, ends decoding at once.

A mapping may merge other mappings: their entries count where it has no entry of its own. To tell
which do, the keys are kept in a set. A collection cannot be an element of a set, so a mapping that
takes part in a merge and has a collection as a key crashes the decoding.
-/

namespace SqlTyping.Yaml

/-! ### Complaints -/

/-- Why a part of a document does not fit. -/
structure Complaint where
  line : Nat
  text : String
  deriving DecidableEq

namespace Complaint

/-- The complaint as it is listed in a report. -/
def render (c : Complaint) : String :=
  "line " ++ toString c.line ++ ": " ++ c.text

/-- The report of several complaints. -/
def report (cs : List Complaint) : String :=
  "yaml: unmarshal errors:\n  " ++ "\n  ".intercalate (cs.map render)

/-- A text of more than ten bytes is cut behind the seventh one. -/
def excerpt (s : String) : String :=
  if s.utf8ByteSize ≤ 10 then s
  else Text.readable ((Text.bytesOf s.toList).take 7) ++ "..."

/-- The complaint about a node with the given tag that is not of the demanded type. The text of the
node is shown unless the tag says that it is a collection. -/
def wrongType (node : Node) (tag : Tag) (typeName : String) : Complaint where
  line := node.line
  text :=
    let shown := if tag = .seq ∨ tag = .map then node.text
      else " \x60" ++ excerpt node.text ++ "\x60"
    "cannot unmarshal " ++ tag.name ++ shown ++ " into " ++ typeName

/-- The complaints about keys that occur before in the same mapping. -/
def duplicateKeys : List Node → List Complaint
  | [] => []
  | key :: rest =>
    (rest.filter key.sameText).map (fun other =>
      ⟨other.line, "mapping key " ++ Text.quote other.text ++ " already defined at line " ++
        toString key.line⟩) ++ duplicateKeys rest

end Complaint

/-! ### Progress -/

/-- Why decoding ends without a result. -/
inductive DecodingStop where
  | problem (p : Problem)
  | crash (c : Crash)

/-- What has been found so far. -/
structure Progress where
  complaints : List Complaint := []
  /-- The number of nodes that have been decoded, with repetitions. -/
  decoded : Nat := 0
  /-- The number of those that were reached through an alias. -/
  aliased : Nat := 0

/-- Whether a document consists of aliases to such an extent that it must be malicious. The share
that is allowed falls from 99 to 10 percent as the document grows. -/
def Progress.isExcessive (p : Progress) : Bool :=
  p.aliased > 100 && p.decoded > 1000 &&
    if p.decoded ≤ 400000 then p.aliased * 100 > p.decoded * 99
    else if p.decoded ≥ 4000000 then p.aliased * 10 > p.decoded
    else p.aliased * 360000000 > p.decoded * (356400000 - 89 * (p.decoded - 400000))

/-- A decoding that may stop early, and otherwise yields a result with complaints. -/
abbrev Decoding := StateT Progress (Except DecodingStop)

/-- What is known around a node that is being decoded. -/
structure Scope where
  anchored : List (Nat × Node)
  /-- The serial numbers of the aliases that are being followed. -/
  active : List Nat := []
  /-- A bound for the depth of nesting, aliases included. -/
  depth : Nat

namespace Scope

/-- The node that a node stands for, where it is of no interest how it is reached. -/
def target (scope : Scope) (node : Node) : Node :=
  match node with
  | .reference _ _ _ target => (scope.anchored.lookup target).getD node
  | _ => node

/-- The tag of the node that a node stands for. -/
def tagOf (scope : Scope) (node : Node) : Tag :=
  (scope.target node).tag

end Scope

namespace Decoding

/-- Records complaints. -/
def complain (cs : List Complaint) : Decoding Unit :=
  modify fun p => { p with complaints := p.complaints ++ cs }

/-- Stops with a problem. -/
def fail {α : Type} (p : Problem) : Decoding α :=
  fun _ => .error (.problem p)

/-- Stops with a crash. -/
def crash {α : Type} (c : Crash) : Decoding α :=
  fun _ => .error (.crash c)

/-- Goes on with a result that may be a problem. -/
def lift {α : Type} (r : Except Problem α) : Decoding α :=
  fun p => (r.map (·, p)).mapError .problem

/-- Counts a node. -/
def count (scope : Scope) : Decoding Unit := do
  modify fun p => { p with
    decoded := p.decoded + 1
    aliased := if scope.active.isEmpty then p.aliased else p.aliased + 1 }
  if (← get).isExcessive then fail { text := "document contains excessive aliasing" }

/-- Starts to decode a node. An alias, which must not lie inside the node it stands for, is
followed. -/
def enter (scope : Scope) (node : Node) : Decoding (Node × Scope) := do
  count scope
  match node with
  | .reference _ name serial _ =>
    if serial ∈ scope.active then
      fail { text := "anchor '" ++ name ++ "' value contains itself" }
    else
      let inner := { scope with active := serial :: scope.active }
      count inner
      return (scope.target node, inner)
  | _ => return (node, scope)

/-- Complains about a node that is not of the demanded type, or about its keys. -/
def reject (node : Node) (typeName : String) : Decoding Unit :=
  match node with
  | .mapping _ tag entries =>
    let duplicates := Complaint.duplicateKeys (entries.map Prod.fst)
    complain (if duplicates.isEmpty then [.wrongType node tag typeName] else duplicates)
  | _ => complain [.wrongType node node.tag typeName]

/-- The text that a scalar stands for; `none` if it is null. -/
def textOf? (tag : Tag) (text : String) : Except Problem (Option Text.Raw) :=
  (Scalar.ofTagged tag text).map fun
    | .null => none
    | .text s => some s
    | _ => some (.ofString text)

/-- Decodes a text. -/
def text (scope : Scope) (node : Node) : Decoding (Option Text.Raw) := do
  let (node, _) ← enter scope node
  match node with
  | .scalar _ tag text => lift (textOf? tag text)
  | _ =>
    reject node "string"
    return none

/-! ### Entries of mappings -/

/-- An entry of a mapping. -/
structure Entry where
  scope : Scope
  key : Scalar
  /-- The line of the key. -/
  line : Nat
  /-- Whether the key occurs before in the same mapping. -/
  repeated : Bool
  value : Node

/-- How a mapping is decoded into a result: how its keys are read, where `none` stands for a key
that does not count, and what an entry adds. -/
structure Builder (α : Type) where
  key : Scope → Node → Decoding (Option Value)
  entry : α → Entry → Decoding α

/-- A key that must be a text. -/
def textKey (scope : Scope) (node : Node) : Decoding (Option Value) := do
  return (← text scope node).map fun s => .scalar (.text s)

/-- Decodes a mapping's own entries, given the keys that occurred before in the same mapping. If the
mapping is merged into another one, `seen` holds the keys that are skipped; the new ones join them. -/
def ownEntries {α : Type} (b : Builder α) (scope : Scope) :
    List (Node × Node) → List Scalar → Option (List Scalar) → α →
      Decoding (α × Option (List Scalar))
  | [], _, seen, a => return (a, seen)
  | (key, value) :: rest, earlier, seen, a => do
    if key.isMerge then ownEntries b scope rest earlier seen a
    else
      match ← b.key scope key with
      | none => ownEntries b scope rest earlier seen a
      | some (.scalar s) =>
        if (seen.getD []).any s.same then ownEntries b scope rest earlier seen a
        else
          let a ← b.entry a ⟨scope, s, key.line, earlier.any s.same, value⟩
          ownEntries b scope rest (s :: earlier) (seen.map (s :: ·)) a
      | some v =>
        if seen.isSome then crash .unusableKey
        else fail { text := "invalid map key: " ++ v.literal }

/-- The keys of a mapping, which are skipped in the mappings that it merges. -/
def ownKeys (value : Scope → Node → Decoding (Option Value)) (scope : Scope) :
    List (Node × Node) → Decoding (List Scalar)
  | [] => return []
  | (key, _) :: rest => do
    match ← value scope key with
    | none => ownKeys value scope rest
    | some (.scalar s) => return s :: (← ownKeys value scope rest)
    | some _ => crash .unusableKey

/-- The problem with merging something else than mappings. -/
def wrongMerge : Problem where
  text := "map merge requires map or sequence of maps as the value"

/-- The mappings that are merged: one mapping, or the items of a sequence. -/
def mergedNodes : Node → List Node
  | .sequence _ _ items => items
  | node => [node]

mutual

/-- Decodes the entries of a mapping, those that it merges included. -/
def entriesFrom {α : Type} (b : Builder α) (value : Scope → Node → Decoding (Option Value)) :
    Nat → Scope → List (Node × Node) → Option (List Scalar) → α →
      Decoding (α × Option (List Scalar))
  | 0, _, _, seen, a => return (a, seen)
  | fuel + 1, scope, entries, seen, a => do
    let duplicates := Complaint.duplicateKeys (entries.map Prod.fst)
    if !duplicates.isEmpty then
      complain duplicates
      return (a, seen)
    else
      let (a, seen) ← ownEntries b scope entries [] seen a
      match (entries.filter fun entry => entry.1.isMerge).getLast? with
      | none => return (a, seen)
      | some (_, node) =>
        let known ← match seen with
          | some keys => pure keys
          | none => ownKeys value scope entries
        let (a, known) ← mergeFrom b value fuel scope (mergedNodes node) known a
        return (a, seen.map fun _ => known)

/-- Decodes the entries of mappings that are merged into one with the given keys. -/
def mergeFrom {α : Type} (b : Builder α) (value : Scope → Node → Decoding (Option Value)) :
    Nat → Scope → List Node → List Scalar → α → Decoding (α × List Scalar)
  | 0, _, _, known, a => return (a, known)
  | _, _, [], known, a => return (a, known)
  | fuel + 1, scope, node :: rest, known, a => do
    match scope.target node with
    | .mapping _ _ entries =>
      let (_, inner) ← enter scope node
      let (a, after) ← entriesFrom b value fuel inner entries (some known) a
      mergeFrom b value fuel scope rest (after.getD known) a
    | _ => fail wrongMerge

end

/-! ### Values of any kind -/

/-- The list with a value for a key, in place of an earlier one if there is one. -/
def put {κ α : Type} (same : κ → κ → Bool) (entries : List (κ × α)) (k : κ) (v : α) :
    List (κ × α) :=
  if entries.any fun e => same e.1 k then
    entries.map fun e => if same e.1 k then (k, v) else e
  else entries ++ [(k, v)]

/-- How a mapping with texts as keys is decoded, given how its values are. -/
def tableBuilder (value : Scope → Node → Decoding (Option Value)) :
    Builder (List (Text.Raw × Value)) where
  key := textKey
  entry entries e := do
    match ← value e.scope e.value with
    | some v => return put (· = ·) entries e.key.render v
    | none => return entries

/-- How a mapping with keys of any kind is decoded, given how its values are. -/
def mapBuilder (value : Scope → Node → Decoding (Option Value)) :
    Builder (List (Scalar × Value)) where
  key := value
  entry entries e := do
    match ← value e.scope e.value with
    | some v => return put Scalar.same entries e.key v
    | none => return entries

/-- Decodes a node as a value of any kind. A mapping in which a key occurs twice has none. -/
def valueFrom : Nat → Scope → Node → Decoding (Option Value)
  | 0, _, _ => return none
  | fuel + 1, scope, node => do
    let (node, scope) ← enter scope node
    match node with
    | .scalar _ tag text => return some (.scalar (← lift (Scalar.ofTagged tag text)))
    | .sequence _ _ items =>
      return some (.list ((← items.mapM (valueFrom fuel scope)).filterMap id))
    | .mapping _ _ entries =>
      let isTable := entries.all fun entry =>
        scope.tagOf entry.1 = .str || scope.tagOf entry.1 = .merge
      let value := valueFrom fuel
      let v ←
        if isTable then do
          let (entries, _) ← entriesFrom (tableBuilder value) value scope.depth scope entries none []
          pure (Value.table entries)
        else do
          let (entries, _) ← entriesFrom (mapBuilder value) value scope.depth scope entries none []
          pure (Value.map entries)
      return if (Complaint.duplicateKeys (entries.map Prod.fst)).isEmpty then some v else none
    | .reference .. => return none

/-- Decodes a node as a value of any kind. -/
def value (scope : Scope) (node : Node) : Decoding (Option Value) :=
  valueFrom scope.depth scope node

/-! ### Values of known types

Each of these decodes a node as a value of one type. Where null stands for no value at all, the
result is `none`. -/

/-- Decodes a scalar of a type that has no scalars but null. -/
def onlyNull (node : Node) (tag : Tag) (text typeName : String) : Decoding Unit := do
  match ← lift (Scalar.ofTagged tag text) with
  | .null => return
  | _ => reject node typeName

/-- Decodes a list, without the items that have no value. -/
def list {α : Type} (typeName : String) (item : Scope → Node → Decoding (Option α))
    (scope : Scope) (node : Node) : Decoding (List α) := do
  let (node, scope) ← enter scope node
  match node with
  | .sequence _ _ items => return (← items.mapM (item scope)).filterMap id
  | .scalar _ tag text =>
    onlyNull node tag text typeName
    return []
  | _ =>
    reject node typeName
    return []

/-- How a field of a record is decoded into the record. -/
abbrev Field (α : Type) := Scope → Node → α → Decoding α

/-- A field that holds a text, which stays as it is if the node is null. -/
def textField {α : Type} (set : Text.Raw → α → α) : Field α := fun scope node a => do
  return match ← text scope node with
  | some s => set s a
  | none => a

/-- How a record is decoded from its fields. -/
def recordBuilder {α : Type} (typeName : String) (field? : String → Option (Field α)) :
    Builder α where
  key := textKey
  entry a e := do
    let name := e.key.render
    match name.string?.bind field? with
    | some field =>
      if e.repeated then
        complain [⟨e.line, "field " ++ name.shown ++ " already set in type " ++ typeName⟩]
        return a
      else field e.scope e.value a
    | none =>
      complain [⟨e.line, "field " ++ name.shown ++ " not found in type " ++ typeName⟩]
      return a

/-- Decodes a record from its fields. -/
def record {α : Type} (typeName : String) (field? : String → Option (Field α)) (empty : α)
    (scope : Scope) (node : Node) : Decoding (Option α) := do
  let (node, scope) ← enter scope node
  match node with
  | .mapping _ _ entries =>
    let (a, _) ←
      entriesFrom (recordBuilder typeName field?) value scope.depth scope entries none empty
    return some a
  | .scalar _ tag text =>
    onlyNull node tag text typeName
    return none
  | _ =>
    reject node typeName
    return none

/-- Decodes a record that may be missing. -/
def optionalRecord {α : Type} (typeName : String) (field? : String → Option (Field α)) (empty : α)
    (scope : Scope) (node : Node) : Decoding (Option α) := do
  match scope.target node with
  | .scalar .. => record typeName field? empty scope node
  | target =>
    if target.tag = .null then
      discard (enter scope node)
      reject target ("*" ++ typeName)
      return none
    else record typeName field? empty scope node

/-- Decodes a mapping with texts as keys and values of any kind. -/
def table (typeName : String) (scope : Scope) (node : Node) :
    Decoding (List (Text.Raw × Value)) := do
  let (node, scope) ← enter scope node
  match node with
  | .mapping _ _ entries =>
    return (← entriesFrom (tableBuilder value) value scope.depth scope entries none []).1
  | .scalar _ tag text =>
    onlyNull node tag text typeName
    return []
  | _ =>
    reject node typeName
    return []

end Decoding

/-- Why nothing can be made of a document: the message about its first problem, or about all
complaints, or a crash. -/
inductive Unreadable where
  | message (text : String)
  | crash (c : Crash)

/-- The abort for a document of which nothing can be made, given the error for a message. -/
def Unreadable.abort (error : String → Diagnostic) : Unreadable → Abort
  | message text => .error (error text)
  | crash c => .crash c

/-- Decodes a document, which counts as a node itself. -/
def Document.decode {α : Type} (decoding : Scope → Node → Decoding α) (d : Document) :
    Except Unreadable α :=
  let scope : Scope := { anchored := d.anchored, depth := (d.size + 1) * (d.size + 1) }
  match (decoding scope d.root).run { decoded := 1 } with
  | .error (.problem p) => .error (.message p.message)
  | .error (.crash c) => .error (.crash c)
  | .ok (a, progress) =>
    if progress.complaints.isEmpty then .ok a
    else .error (.message (Complaint.report progress.complaints))

end SqlTyping.Yaml
