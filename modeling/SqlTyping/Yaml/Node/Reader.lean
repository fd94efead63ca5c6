import SqlTyping.Yaml.Node
import SqlTyping.Yaml.Token.Stream

/-!
# Reading documents

The grammar of documents over the tokens of a text. Only the first document of a text is read. What
follows it counts only as far as the first token behind it must be certain.
-/

namespace SqlTyping.Yaml

/-- The state of reading a document. -/
structure NodeReader where
  stream : TokenStream
  /-- The meaning of the handles of tags. -/
  handles : List (String × String) := []
  /-- The numbers of the nodes with an anchor, the latest first. -/
  anchors : List (String × Nat) := []
  anchored : List (Nat × Node) := []
  /-- The number of anchors and aliases so far. -/
  count : Nat := 0

/-- A step of reading a document. -/
abbrev Reading := StateT NodeReader (Except Problem)

namespace Reading

/-- Fails with a problem. -/
def fail {α : Type} (p : Problem) : Reading α :=
  fun _ => .error p

/-- The next token. -/
def peek : Reading Token := fun r =>
  match r.stream.tokens, r.stream.problem with
  | t :: _, _ => .ok (t, r)
  | [], some p => .error p
  | [], none => .error { text := "attempted to go past the end of stream; corrupted value?" }

/-- Goes past the next token. -/
def skip : Reading Unit :=
  modify fun r => { r with stream := { r.stream with tokens := r.stream.tokens.drop 1 } }

/-- Goes past the next token, and gives the one behind it. -/
def skipAndPeek : Reading Token := do
  skip
  peek

/-! ### Anchors and tags -/

/-- A new number. -/
def fresh : Reading Nat := do
  let n := (← get).count
  modify fun r => { r with count := n + 1 }
  return n

/-- Declares the anchor of a node that is still to be read, and gives the number of the node. -/
def openAnchor (anchor : Option String) : Reading (Option Nat) := do
  match anchor with
  | none => return none
  | some name =>
    let n ← fresh
    modify fun r => { r with anchors := (name, n) :: r.anchors }
    return some n

/-- Records a node that has been read. -/
def closeAnchor (number : Option Nat) (node : Node) : Reading Node := do
  match number with
  | none => return node
  | some n =>
    modify fun r => { r with anchored := (n, node) :: r.anchored }
    return node

/-- The node for an alias. Its anchor must stand in front of it. -/
def readAlias (line : Nat) (name : String) : Reading Node := do
  match (← get).anchors.lookup name with
  | none => fail { text := "unknown anchor '" ++ name ++ "' referenced" }
  | some target =>
    skip
    return .reference line name (← fresh) target

/-- What stands in front of the content of a node. -/
structure Properties where
  anchor : Option String := none
  /-- The handle and the suffix of the tag, and where it stands. -/
  tag : Option (String × String × Mark) := none

/-- Reads the anchor and the tag in front of a node, in either order, and gives the next token. -/
def readProperties (t : Token) : Reading (Properties × Token) := do
  match t.kind with
  | .anchor name =>
    let t ← skipAndPeek
    match t.kind with
    | .tag handle suffix =>
      return ({ anchor := some name, tag := some (handle, suffix, t.start) }, ← skipAndPeek)
    | _ => return ({ anchor := some name }, t)
  | .tag handle suffix =>
    let tag := some (handle, suffix, t.start)
    let t ← skipAndPeek
    match t.kind with
    | .anchor name => return ({ anchor := some name, tag }, ← skipAndPeek)
    | _ => return ({ tag }, t)
  | _ => return ({}, t)

/-- The full name of the tag of a node that starts at `start`; it is empty without a tag. -/
def tagName (start : Mark) (p : Properties) : Reading String := do
  match p.tag with
  | none => return ""
  | some (handle, suffix, mark) =>
    if handle.isEmpty then return suffix
    let name := ((← get).handles.lookup handle).elim "" (· ++ suffix)
    if name.isEmpty then fail (.structural start mark "found undefined tag handle")
    return name

/-- The tag of a node: the given one, unless that leaves the choice open. -/
def chosenTag (name : String) (otherwise : Tag) : Tag :=
  if name.isEmpty ∨ name = "!" then otherwise else .ofName name

/-- The tag of a scalar without a tag of its own. -/
def scalarTag (style : ScalarStyle) (text : String) : Tag :=
  if style ≠ .plain then .str
  else if text = "<<" then .merge
  else (Scalar.ofPlain true text).tag

/-- An empty scalar at the given position. -/
def emptyScalar (mark : Mark) : Node :=
  .scalar (mark.line + 1) .null ""

/-! ### Nodes -/

mutual

/-- Reads a node. Block collections are read only if `block` holds, and a block sequence without
indentation only if `indentless` holds. -/
def readNode : Nat → Bool → Bool → Reading Node
  | 0, _, _ => fail { text := "unknown problem parsing YAML content" }
  | fuel + 1, block, indentless => do
    let t ← peek
    let start := t.start
    let line := start.line + 1
    match t.kind with
    | .reference name => readAlias line name
    | _ =>
      let (properties, t) ← readProperties t
      let tag ← tagName start properties
      let number ← openAnchor properties.anchor
      match t.kind with
      | .scalar text style =>
        skip
        closeAnchor number (.scalar line (chosenTag tag (scalarTag style text)) text)
      | .flowSequenceStart =>
        skip
        let items ← readFlowSequence fuel t.start true
        closeAnchor number (.sequence line (chosenTag tag .seq) items)
      | .flowMappingStart =>
        skip
        let entries ← readFlowMapping fuel t.start true
        closeAnchor number (.mapping line (chosenTag tag .map) entries)
      | kind =>
        if kind = .blockEntry ∧ indentless then
          let items ← readIndentlessSequence fuel
          closeAnchor number (.sequence line (chosenTag tag .seq) items)
        else if kind = .blockSequenceStart ∧ block then
          skip
          let items ← readBlockSequence fuel t.start
          closeAnchor number (.sequence line (chosenTag tag .seq) items)
        else if kind = .blockMappingStart ∧ block then
          skip
          let entries ← readBlockMapping fuel t.start
          closeAnchor number (.mapping line (chosenTag tag .map) entries)
        else if properties.anchor.isSome ∨ !tag.isEmpty then
          closeAnchor number (.scalar line (chosenTag tag .null) "")
        else fail (.structural start t.start "did not find expected node content")

/-- Reads the items of a block sequence that starts at `start`. -/
def readBlockSequence : Nat → Mark → Reading (List Node)
  | 0, _ => return []
  | fuel + 1, start => do
    let t ← peek
    match t.kind with
    | .blockEntry =>
      let next ← skipAndPeek
      let item ←
        if next.kind = .blockEntry ∨ next.kind = .blockEnd then pure (emptyScalar t.stop)
        else readNode fuel true false
      return item :: (← readBlockSequence fuel start)
    | .blockEnd =>
      skip
      return []
    | _ => fail (.structural start t.start "did not find expected '-' indicator")

/-- Reads the items of a block sequence without indentation. -/
def readIndentlessSequence : Nat → Reading (List Node)
  | 0 => return []
  | fuel + 1 => do
    let t ← peek
    if t.kind = .blockEntry then
      let next ← skipAndPeek
      let item ←
        if next.kind = .blockEntry ∨ next.kind = .key ∨ next.kind = .value ∨
            next.kind = .blockEnd then pure (emptyScalar t.stop)
        else readNode fuel true false
      return item :: (← readIndentlessSequence fuel)
    else return []

/-- Reads the entries of a block mapping that starts at `start`. -/
def readBlockMapping : Nat → Mark → Reading (List (Node × Node))
  | 0, _ => return []
  | fuel + 1, start => do
    let t ← peek
    match t.kind with
    | .key =>
      let next ← skipAndPeek
      let key ←
        if next.kind = .key ∨ next.kind = .value ∨ next.kind = .blockEnd then
          pure (emptyScalar t.stop)
        else readNode fuel true true
      let value ← readBlockValue fuel
      return (key, value) :: (← readBlockMapping fuel start)
    | .blockEnd =>
      skip
      return []
    | _ => fail (.structural start t.start "did not find expected key")

/-- Reads the value of an entry of a block mapping. -/
def readBlockValue : Nat → Reading Node
  | 0 => return emptyScalar {}
  | fuel + 1 => do
    let t ← peek
    if t.kind = .value then
      let next ← skipAndPeek
      if next.kind = .key ∨ next.kind = .value ∨ next.kind = .blockEnd then
        return emptyScalar t.stop
      else readNode fuel true true
    else return emptyScalar t.start

/-- Reads the items of a flow sequence that starts at `start`. -/
def readFlowSequence : Nat → Mark → Bool → Reading (List Node)
  | 0, _, _ => return []
  | fuel + 1, start, first => do
    let t ← peek
    if t.kind = .flowSequenceEnd then
      skip
      return []
    else
      let t ←
        if first then pure t
        else if t.kind = .flowEntry then skipAndPeek
        else fail (.structural start t.start "did not find expected ',' or ']'")
      match t.kind with
      | .flowSequenceEnd =>
        skip
        return []
      | .key =>
        let next ← skipAndPeek
        let key ←
          if next.kind = .value ∨ next.kind = .flowEntry ∨ next.kind = .flowSequenceEnd then
            skip
            pure (emptyScalar next.stop)
          else readNode fuel false false
        let value ← readFlowValue fuel .flowSequenceEnd
        let item := Node.mapping (t.start.line + 1) .map [(key, value)]
        return item :: (← readFlowSequence fuel start false)
      | _ =>
        let item ← readNode fuel false false
        return item :: (← readFlowSequence fuel start false)

/-- Reads the entries of a flow mapping that starts at `start`. -/
def readFlowMapping : Nat → Mark → Bool → Reading (List (Node × Node))
  | 0, _, _ => return []
  | fuel + 1, start, first => do
    let t ← peek
    if t.kind = .flowMappingEnd then
      skip
      return []
    else
      let t ←
        if first then pure t
        else if t.kind = .flowEntry then skipAndPeek
        else fail (.structural start t.start "did not find expected ',' or '\x7d'")
      match t.kind with
      | .flowMappingEnd =>
        skip
        return []
      | .key =>
        let next ← skipAndPeek
        let key ←
          if next.kind = .value ∨ next.kind = .flowEntry ∨ next.kind = .flowMappingEnd then
            pure (emptyScalar next.start)
          else readNode fuel false false
        let value ← readFlowValue fuel .flowMappingEnd
        return (key, value) :: (← readFlowMapping fuel start false)
      | _ =>
        let key ← readNode fuel false false
        let next ← peek
        return (key, emptyScalar next.start) :: (← readFlowMapping fuel start false)

/-- Reads the value of an entry in a flow collection that ends with the given token. -/
def readFlowValue : Nat → TokenKind → Reading Node
  | 0, _ => return emptyScalar {}
  | fuel + 1, closing => do
    let t ← peek
    if t.kind = .value then
      let next ← skipAndPeek
      if next.kind = .flowEntry ∨ next.kind = closing then return emptyScalar next.start
      else readNode fuel false false
    else return emptyScalar t.start

end

/-! ### Documents -/

/-- The handles of tags that need no directive. -/
def defaultHandles : List (String × String) :=
  [("!", "!"), ("!!", Tag.standardNamespace)]

/-- Reads the directives in front of a document, and gives the token behind them. -/
def readDirectives : Nat → Bool → Reading Token
  | 0, _ => peek
  | fuel + 1, versionSeen => do
    let t ← peek
    match t.kind with
    | .version major minor =>
      if versionSeen then fail (.structural {} t.start "found duplicate %YAML directive")
      else if major ≠ 1 ∨ minor ≠ 1 then
        fail (.structural {} t.start "found incompatible YAML document")
      else
        skip
        readDirectives fuel true
    | .tagDirective handle stem =>
      if ((← get).handles.lookup handle).isSome then
        fail (.structural {} t.start "found duplicate %TAG directive")
      else
        modify fun r => { r with handles := (handle, stem) :: r.handles }
        skip
        readDirectives fuel versionSeen
    | _ => return t

/-- Whether a token can stand directly behind the start of a document without content. -/
def endsEmptyDocument : TokenKind → Bool
  | .version .. | .tagDirective .. | .documentStart | .documentEnd | .streamEnd => true
  | _ => false

/-- Reads the content of the first document, if there is one. -/
def readDocument (fuel : Nat) : Reading (Option Node) := do
  discard peek
  let first ← skipAndPeek
  match first.kind with
  | .streamEnd => return none
  | .version .. | .tagDirective .. | .documentStart =>
    let t ← readDirectives fuel false
    modify fun r => { r with handles := r.handles ++ defaultHandles }
    if t.kind ≠ .documentStart then
      fail (.structural {} t.start "did not find expected <document start>")
    else
      let next ← skipAndPeek
      let node ←
        if endsEmptyDocument next.kind then pure (emptyScalar next.start)
        else readNode fuel true false
      discard peek
      return some node
  | _ =>
    modify fun r => { r with handles := defaultHandles }
    let node ← readNode fuel true false
    discard peek
    return some node

end Reading

/-- Reads the first document of a text. The result is `none` if the text has no document. -/
def Document.read (text : List Char) : Except Problem (Option Document) := do
  let stream := TokenStream.ofText text
  let size := stream.tokens.length + 2
  let (root?, reader) ← (Reading.readDocument (4 * size)).run { stream }
  return root?.map fun root => { root, anchored := reader.anchored, size }

end SqlTyping.Yaml
