import SqlTyping.Yaml.Token.Property
import SqlTyping.Yaml.Token.Scalar

/-!
# From text to tokens

The tokens of a text. In block style the columns of lines decide where collections start and end,
and a key is only recognised by the colon behind it: the tokens in front of a possible key are
inserted once the colon is found. A scanner therefore remembers, for every level of nesting, where
the last possible key started.

A token is delivered as soon as two further tokens are known and no key can turn out to start at
it. So a text with a problem still has tokens, and a problem with their order is reported first.
-/

namespace SqlTyping.Yaml

/-- The last place on a level of nesting at which a key may have started. -/
structure KeySlot where
  /-- The number of tokens in front of the place. -/
  position : Nat := 0
  mark : Mark := {}
  /-- Whether a key may still turn out to start there. -/
  possible : Bool := false
  /-- Whether the place can hold nothing but a key. -/
  required : Bool := false

/-- The state of tokenisation. -/
structure Scanner where
  cursor : Cursor
  /-- The number of tokens that have been delivered. -/
  delivered : Nat := 0
  /-- The tokens that are still to be delivered. -/
  queue : Array Token
  /-- The column of the innermost block collection; `-1` if there is none. -/
  indent : Int := -1
  /-- The columns of the surrounding block collections, innermost first. -/
  outer : List Int := []
  /-- The number of open block collections. -/
  blockDepth : Nat := 0
  /-- The possible key inside the innermost flow collection, or outside all of them. -/
  slot : KeySlot := {}
  /-- The possible keys around every open flow collection, innermost first. -/
  outerSlots : List KeySlot := []
  /-- The number of open flow collections. -/
  flowDepth : Nat := 0
  /-- The positions of the tokens that are held back, with the level whose possible key decides how
  long. -/
  held : List (Nat × Nat) := []
  /-- Whether a key may start here. -/
  keyAllowed : Bool := true

namespace Scanner

/-- Whether the scanner is inside a flow collection. -/
def inFlow (s : Scanner) : Bool :=
  s.flowDepth > 0

/-- The present position. -/
def mark (s : Scanner) : Mark :=
  s.cursor.mark

/-- The number of tokens so far. -/
def count (s : Scanner) : Nat :=
  s.delivered + s.queue.size

/-- A problem at the present position. -/
def problem (s : Scanner) (text : String) : Problem :=
  .lexical s.mark s.mark text

/-- The greatest number of open collections, separately for the two styles. -/
def depthLimit : Nat := 10000

/-- The problem with a collection too many. -/
def tooDeep (s : Scanner) : Problem :=
  .lexical s.slot.mark s.mark ("exceeded max depth of " ++ toString depthLimit)

/-! ### Possible keys -/

/-- The greatest number of characters between the start of a key and its colon. -/
def keyLimit : Nat := 1024

/-- Whether a possible key has come too far away to be one. -/
def isStale (s : Scanner) (k : KeySlot) : Bool :=
  k.mark.line < s.mark.line || k.mark.index + keyLimit < s.mark.index

/-- The problem with a place that can hold nothing but a key and holds none. -/
def missingColon (s : Scanner) (k : KeySlot) : Problem :=
  .lexical k.mark s.mark "could not find expected ':'"

/-- Whether a key may have started at a place and is near enough. -/
def isValid (s : Scanner) (k : KeySlot) : Except Problem Bool :=
  if !k.possible then .ok false
  else if s.isStale k then if k.required then .error (s.missingColon k) else .ok false
  else .ok true

/-- No longer holds back the token at a position. -/
def release (s : Scanner) (position : Nat) : Scanner :=
  { s with held := s.held.filter fun h => h.1 ≠ position }

/-- Gives up the present possible key. -/
def dropKey (s : Scanner) : Except Problem Scanner :=
  if !s.slot.possible then .ok s
  else if s.slot.required then .error (s.missingColon s.slot)
  else .ok { s.release s.slot.position with slot := { s.slot with possible := false } }

/-- Remembers that a key may start here, if one may. -/
def saveKey (s : Scanner) : Except Problem Scanner :=
  if s.keyAllowed then do
    let s := (← s.dropKey).release s.count
    let required : Bool := !s.inFlow && s.indent = s.mark.column
    .ok { s with
          slot := { position := s.count, mark := s.mark, possible := true, required }
          held := (s.count, s.flowDepth) :: s.held }
  else .ok s

/-- The possible key on a level of nesting. -/
def slotAt? (s : Scanner) (level : Nat) : Option KeySlot :=
  if level ≤ s.flowDepth then (s.slot :: s.outerSlots)[s.flowDepth - level]? else none

/-- Enters a flow collection whose bracket is the next token. -/
def openFlow (s : Scanner) : Except Problem Scanner :=
  let s := { s with
    slot := { position := s.count, mark := s.mark }
    outerSlots := s.slot :: s.outerSlots
    flowDepth := s.flowDepth + 1 }
  if s.flowDepth > depthLimit then .error s.tooDeep else .ok s

/-- Leaves a flow collection. The token at its last possible key is no longer held back; this is
the opening bracket if no key was possible inside. -/
def closeFlow (s : Scanner) : Scanner :=
  match s.outerSlots with
  | [] => s
  | slot :: outerSlots =>
    { s.release s.slot.position with slot, outerSlots, flowDepth := s.flowDepth - 1 }

/-! ### Indentation -/

/-- The scanner with a token at its end. -/
def push (s : Scanner) (t : Token) : Scanner :=
  { s with queue := s.queue.push t }

/-- The scanner with a token in front of the one at the given position, or at its end if that one
has been delivered. -/
def insert (s : Scanner) (position : Nat) (t : Token) : Scanner :=
  if position < s.delivered then s.push t
  else { s with queue := (s.queue.toList.insertIdx (position - s.delivered) t).toArray }

/-- Starts a block collection at the given column unless the innermost one starts there. -/
def openBlock (s : Scanner) (column position : Nat) (kind : TokenKind) (mark : Mark) :
    Except Problem Scanner :=
  if !s.inFlow ∧ s.indent < column then
    let s := { s with
      outer := s.indent :: s.outer
      indent := column
      blockDepth := s.blockDepth + 1 }
    if s.blockDepth > depthLimit then .error s.tooDeep
    else .ok (s.insert position ⟨kind, mark, mark⟩)
  else .ok s

/-- Closes the block collections `outer` as long as the innermost one starts behind `column`. -/
def closeBlocksFrom (column : Int) (mark : Mark) (s : Scanner) : List Int → Scanner
  | [] => s
  | indent :: outer =>
    if s.indent > column then
      closeBlocksFrom column mark
        { s.push ⟨.blockEnd, mark, mark⟩ with
          indent, outer, blockDepth := s.blockDepth - 1 } outer
    else s

/-- Closes the block collections that start behind the given column. -/
def closeBlocks (s : Scanner) (column : Int) (mark : Mark) : Scanner :=
  if s.inFlow then s else closeBlocksFrom column mark s s.outer

/-! ### White space and comments -/

/-- The greatest distance at which a comment is looked for. -/
def commentReach : Nat := 512

/-- Goes on to the character with the given index, over line ends where necessary. -/
def skipTo (index : Nat) : Nat → Cursor → Except Problem Cursor
  | 0, c => .ok c
  | fuel + 1, c =>
    if c.mark.index ≥ index then .ok c
    else if isBreak c.head then do skipTo index fuel (← (← c.skipBreak).ensure 1)
    else do skipTo index fuel (← (c.advance 1).ensure 1)

/-- Goes past the comments from the cursor on, where nothing but blanks and line ends stands in
front of each; `distance` tells how far ahead the next one is looked for. The cursor stays at the
end of the last comment's line. A line end of several bytes ends the search. -/
def skipComments : Nat → Nat → Cursor → Except Problem Cursor
  | 0, _, c => .ok c
  | fuel + 1, distance, c => do
    if distance ≥ commentReach then return c
    let c ← c.ensure (distance + 1)
    let d := c.charAt distance
    if distance > 0 ∧ (c.charAt (distance - 1)).utf8Size > 1 then return c
    else if isBlank d ∨ isBreak d then skipComments fuel (distance + 1) c
    else if d = '#' then
      let c ← skipTo (c.mark.index + distance) (distance + 1) c
      skipComments fuel 1 (← c.skipLine)
    else return c

/-- Goes on to the next token. A tab is white space only where no key can start. If the characters
in hand start with a byte order mark, one character at the start of each line is passed over. -/
def skipToToken : Nat → Scanner → Except Problem Scanner
  | 0, s => .ok s
  | fuel + 1, s => do
    let c ← s.cursor.ensure 1
    let c := if c.mark.column = 0 ∧ c.first = byteOrderMark then c.advance 1 else c
    let c ← c.skipWhile fun d => d = ' ' || ((s.inFlow || !s.keyAllowed) && d = '\t')
    let c ← if c.head = '#' then skipComments (2 * c.size + commentReach) 0 c else .ok c
    if isBreak c.head then
      skipToToken fuel
        { s with cursor := ← c.skipBreak, keyAllowed := s.keyAllowed || !s.inFlow }
    else return { s with cursor := c }

/-- Goes past a comment behind a token on the same line, which is looked for up to a distance. -/
def skipLineCommentFrom (c : Cursor) : Nat → Nat → Except Problem Cursor
  | 0, _ => .ok c
  | fuel + 1, distance => do
    let c ← c.ensure (distance + 1)
    if isBlank (c.charAt distance) then skipLineCommentFrom c fuel (distance + 1)
    else if c.charAt distance = '#' then (c.advance distance).skipLine
    else return c

/-- Goes past a comment behind a token, if both are on one line. -/
def skipLineComment (s : Scanner) : Except Problem Scanner := do
  if s.cursor.afterBreak then return s
  else return { s with cursor := ← skipLineCommentFrom s.cursor commentReach 0 }

/-! ### Tokens -/

/-- Reads a token of the next `n` characters. -/
def take (s : Scanner) (n : Nat) (kind : TokenKind) : Scanner :=
  let after := s.cursor.advance n
  { s.push ⟨kind, s.mark, after.mark⟩ with cursor := after }

/-- Ends the text. Every block collection ends here. -/
def fetchEnd (s : Scanner) : Except Problem Scanner := do
  let mark := if s.mark.column = 0 then s.mark
    else { s.mark with line := s.mark.line + 1, column := 0 }
  let s := { s with cursor := { s.cursor with mark } }
  let s ← (s.closeBlocks (-1) mark).dropKey
  .ok ({ s with keyAllowed := false }.push ⟨.streamEnd, mark, mark⟩)

/-- Reads a directive. -/
def fetchDirective (s : Scanner) : Except Problem Scanner := do
  let s ← (s.closeBlocks (-1) s.mark).dropKey
  let (kind, stop, after) ← scanDirective s.cursor
  .ok { s.push ⟨kind, s.mark, stop⟩ with cursor := after, keyAllowed := false }

/-- Reads a marker of the start or the end of a document. -/
def fetchMarker (s : Scanner) (kind : TokenKind) : Except Problem Scanner := do
  let s ← (s.closeBlocks (-1) s.mark).dropKey
  .ok { s.take 3 kind with keyAllowed := false }

/-- Opens a flow collection. -/
def fetchFlowStart (s : Scanner) (kind : TokenKind) : Except Problem Scanner := do
  let s ← (← s.saveKey).openFlow
  .ok { s.take 1 kind with keyAllowed := true }

/-- Closes a flow collection. -/
def fetchFlowEnd (s : Scanner) (kind : TokenKind) : Except Problem Scanner := do
  let s := (← s.dropKey).closeFlow
  .ok { s.take 1 kind with keyAllowed := false }

/-- Reads the comma of a flow collection. -/
def fetchFlowEntry (s : Scanner) : Except Problem Scanner := do
  let s ← s.dropKey
  .ok { s.take 1 .flowEntry with keyAllowed := true }

/-- Reads the hyphen of a block sequence. -/
def fetchBlockEntry (s : Scanner) : Except Problem Scanner := do
  if !s.inFlow ∧ !s.keyAllowed then
    .error (s.problem "block sequence entries are not allowed in this context")
  else
    let s ← s.openBlock s.mark.column s.count .blockSequenceStart s.mark
    let s ← s.dropKey
    .ok { s.take 1 .blockEntry with keyAllowed := true }

/-- Reads the question mark of a key. -/
def fetchKey (s : Scanner) : Except Problem Scanner := do
  if !s.inFlow ∧ !s.keyAllowed then
    .error (s.problem "mapping keys are not allowed in this context")
  else
    let s ← s.openBlock s.mark.column s.count .blockMappingStart s.mark
    let s ← s.dropKey
    .ok { s.take 1 .key with keyAllowed := !s.inFlow }

/-- Reads the colon of a value. If a key can have started before, it has. -/
def fetchValue (s : Scanner) : Except Problem Scanner := do
  let k := s.slot
  let valid ← s.isValid k
  let s := { s with slot := { k with possible := false } }
  if valid then
    let s := s.insert k.position ⟨.key, k.mark, k.mark⟩
    let s ← s.openBlock k.mark.column k.position .blockMappingStart k.mark
    .ok { (s.release k.position).take 1 .value with keyAllowed := false }
  else if !s.inFlow ∧ !s.keyAllowed then
    .error (s.problem "mapping values are not allowed in this context")
  else
    let s ← s.openBlock s.mark.column s.count .blockMappingStart s.mark
    .ok { s.take 1 .value with keyAllowed := !s.inFlow }

/-- Reads an anchor or an alias. -/
def fetchName (s : Scanner) (kind : String → TokenKind) : Except Problem Scanner := do
  let s ← s.saveKey
  let (name, after) ← scanName s.cursor
  .ok { s.push ⟨kind name, s.mark, after.mark⟩ with cursor := after, keyAllowed := false }

/-- Reads a tag. -/
def fetchTag (s : Scanner) : Except Problem Scanner := do
  let s ← s.saveKey
  let (kind, after) ← scanTag s.cursor
  .ok { s.push ⟨kind, s.mark, after.mark⟩ with cursor := after, keyAllowed := false }

/-- Reads a block scalar. -/
def fetchBlockScalar (s : Scanner) (style : ScalarStyle) : Except Problem Scanner := do
  let s ← s.dropKey
  let (text, after) ← scanBlock (style = .literal) s.indent s.cursor
  .ok { s.push ⟨.scalar (String.ofList text) style, s.mark, after.mark⟩ with
        cursor := after, keyAllowed := true }

/-- Reads a quoted scalar. -/
def fetchQuoted (s : Scanner) (style : ScalarStyle) : Except Problem Scanner := do
  let s ← s.saveKey
  let (text, after) ← scanQuoted s.cursor
  .ok { s.push ⟨.scalar (String.ofList text) style, s.mark, after.mark⟩ with
        cursor := after, keyAllowed := false }

/-- Reads a plain scalar. A key can follow it only on a later line. -/
def fetchPlain (s : Scanner) : Except Problem Scanner := do
  let s ← s.saveKey
  let (scanned, after) ← scanPlain s.inFlow (s.indent + 1) s.cursor
  .ok { s.push ⟨.scalar (String.ofList scanned.text) .plain, s.mark, scanned.stop⟩ with
        cursor := after, keyAllowed := scanned.broken }

/-- The characters with a meaning of their own, with which no plain scalar starts. -/
def indicators : List Char :=
  ['-', '?', ':', ',', '[', ']', '{', '}', '#', '&', '*', '!', '|', '>', '\'', '"', '%', '@',
    backquote]

/-- Whether a plain scalar starts at the cursor. -/
def startsPlain (inFlow : Bool) (c : Cursor) : Bool :=
  !(isGap c.head || indicators.contains c.head) ||
    (c.head = '-' && !isBlank (c.charAt 1)) ||
    (!inFlow && (c.head = '?' || c.head = ':') && !isGap (c.charAt 1))

/-- Reads the token that starts at the cursor, which marks neither a document nor the end. -/
def fetchContent (s : Scanner) : Except Problem Scanner :=
  let c := s.cursor
  if c.head = '[' then s.fetchFlowStart .flowSequenceStart
  else if c.head = '{' then s.fetchFlowStart .flowMappingStart
  else if c.head = ']' then s.fetchFlowEnd .flowSequenceEnd
  else if c.head = '}' then s.fetchFlowEnd .flowMappingEnd
  else if c.head = ',' then s.fetchFlowEntry
  else if c.head = '?' ∧ (s.inFlow ∨ isGap (c.charAt 1)) then s.fetchKey
  else if c.head = ':' ∧ (s.inFlow ∨ isGap (c.charAt 1)) then s.fetchValue
  else if c.head = '*' then s.fetchName .reference
  else if c.head = '&' then s.fetchName .anchor
  else if c.head = '!' then s.fetchTag
  else if c.head = '|' ∧ !s.inFlow then s.fetchBlockScalar .literal
  else if c.head = '>' ∧ !s.inFlow then s.fetchBlockScalar .folded
  else if c.head = '\'' then s.fetchQuoted .singleQuoted
  else if c.head = '"' then s.fetchQuoted .doubleQuoted
  else if startsPlain s.inFlow c then s.fetchPlain
  else .error (s.problem "found character that cannot start any token")

/-- Reads the next token. A comment on its line goes with it, unless the token is a marker or a
hyphen. -/
def fetch (s : Scanner) : Except Problem Scanner := do
  let before := s.mark
  let s ← skipToToken (s.cursor.size + 1) s
  let s := s.closeBlocks s.mark.column before
  let s := { s with cursor := ← s.cursor.ensure 4 }
  let c := s.cursor
  if c.head = endOfText then s.fetchEnd
  else if c.mark.column = 0 ∧ c.head = '%' then s.fetchDirective
  else if c.atMarker '-' then s.fetchMarker .documentStart
  else if c.atMarker '.' then s.fetchMarker .documentEnd
  else if c.head = '-' ∧ isGap (c.charAt 1) then s.fetchBlockEntry
  else (← s.fetchContent).skipLineComment

/-- Whether the next token can be delivered: two further tokens are known, and no key can turn out
to start at it. -/
def isCertain (s : Scanner) : Except Problem Bool :=
  if s.queue.size > 2 then
    match (s.held.lookup s.delivered).bind s.slotAt? with
    | none => .ok true
    | some k => (s.isValid k).map (!·)
  else .ok false

end Scanner

/-- The tokens of a text, and the problem that ends them if there is one. -/
structure TokenStream where
  tokens : List Token
  problem : Option Problem := none

/-- Delivers tokens onto those in `ready`, which are in reverse order. -/
def Scanner.deliver : Nat → Scanner → List Token → TokenStream
  | 0, _, ready => { tokens := ready.reverse }
  | fuel + 1, s, ready =>
    match s.isCertain with
    | .error p => { tokens := ready.reverse, problem := some p }
    | .ok true =>
      match s.queue.toList with
      | [] => { tokens := ready.reverse }
      | t :: rest =>
        if t.kind = .streamEnd then { tokens := (t :: ready).reverse }
        else
          let s := s.release s.delivered
          deliver fuel { s with delivered := s.delivered + 1, queue := rest.toArray } (t :: ready)
    | .ok false =>
      match s.fetch with
      | .error p => { tokens := ready.reverse, problem := some p }
      | .ok s => deliver fuel s ready

/-- The tokens of a text. -/
def TokenStream.ofText (text : List Char) : TokenStream :=
  match Cursor.ofText text with
  | .error p => { tokens := [], problem := some p }
  | .ok cursor =>
    let s : Scanner := { cursor, queue := #[⟨.streamStart, {}, {}⟩] }
    s.deliver (16 * text.length + 64) []

end SqlTyping.Yaml
