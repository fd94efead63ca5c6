import SqlTyping.Journal.Message

/-!
# Templates

A template is a text with places for arguments. A place is a percent sign, the layout of the argument
(flags, width and precision) and a letter. The arguments are taken in their order; a number in square
brackets asks for the argument with that number, and a star takes a width or a precision from the
arguments. Whatever is wrong with a place is said in the message itself.
-/

namespace SqlTyping

namespace Template

/-- The state of filling in a template. -/
structure Filling where
  /-- All arguments. -/
  args : List Argument
  /-- The number of the next argument, from zero. -/
  next : Nat := 0
  /-- Whether an argument was asked for by its number. -/
  reordered : Bool := false
  deriving DecidableEq

/-- A place of a template that is being read. -/
structure Place where
  filling : Filling
  /-- The rest of the template. -/
  rest : List Char
  layout : Layout := {}
  /-- What has to be said about the place before its argument. -/
  notes : Message := []
  /-- Whether the numbers of arguments are in order. -/
  numbered : Bool := true
  /-- Whether the last thing read was the number of an argument. -/
  afterNumber : Bool := false

/-! ### Numbers -/

/-- The greatest width or precision. -/
def fieldLimit : Nat := 1000000

/-- Reads digits onto a number. The result is `none` if the number gets out of hand. -/
def readDigits (n : Nat) : List Char → Option (Nat × List Char)
  | [] => some (n, [])
  | c :: rest =>
    if '0' ≤ c ∧ c ≤ '9' then
      if n > fieldLimit then none else readDigits (n * 10 + (c.toNat - '0'.toNat)) rest
    else some (n, c :: rest)

/-- Reads a number, if there is one. Behind a number that gets out of hand nothing is left to read. -/
def readNumber (cs : List Char) : Option Nat × List Char :=
  match readDigits 0 cs with
  | none => (none, [])
  | some (n, rest) => if rest.length < cs.length then (some n, rest) else (none, rest)

/-- The number of an argument, from one, between square brackets of which the first one has been
read; `none` if there is none. The result holds the text behind the brackets, too. -/
def readIndex (cs : List Char) : Option Nat × List Char :=
  let inside := cs.takeWhile (· ≠ ']')
  let behind := cs.drop (inside.length + 1)
  if inside.length = cs.length ∨ (Text.bytesOf cs).length < 2 then (none, cs)
  else
    match readNumber inside with
    | (some n, []) => (some n, behind)
    | (_, _) => (none, behind)

/-! ### Parts of a place -/

namespace Place

/-- Reads flags. A field that is filled up on the right is not filled up with zeros. -/
def readFlags (l : Layout) : List Char → Layout × List Char
  | [] => (l, [])
  | c :: rest =>
    match c with
    | '#' => readFlags { l with sharp := true } rest
    | '0' => readFlags { l with zero := !l.minus } rest
    | '+' => readFlags { l with plus := true } rest
    | '-' => readFlags { l with minus := true, zero := false } rest
    | ' ' => readFlags { l with space := true } rest
    | _ => (l, c :: rest)

/-- Reads the number of an argument, if there is one. -/
def index (p : Place) : Place :=
  match p.rest with
  | '[' :: cs =>
    let (n?, rest) := readIndex cs
    let p := { p with rest, filling.reordered := true }
    match n? with
    | some n =>
      if 0 < n ∧ n ≤ p.filling.args.length then
        { p with filling.next := n - 1, afterNumber := true }
      else { p with numbered := false, afterNumber := true }
    | none => { p with numbered := false, afterNumber := false }
  | _ => { p with afterNumber := false }

/-- The number that the next argument holds, if it holds one of a reasonable size. -/
def takeNumber (p : Place) : Option Int × Place :=
  match p.filling.args[p.filling.next]? with
  | none => (none, p)
  | some a =>
    let p := { p with filling.next := p.filling.next + 1 }
    match a with
    | ⟨.int n, false⟩ => (if n.natAbs > fieldLimit then none else some n, p)
    | _ => (none, p)

/-- Adds a note. -/
def note (p : Place) (text : String) : Place :=
  { p with notes := p.notes ++ [⟨text, false⟩] }

/-- Reads the width. A negative one asks for filling up on the right. -/
def width (p : Place) : Place :=
  match p.rest with
  | '*' :: rest =>
    let (n?, p) := { p with rest }.takeNumber
    let p := match n? with
      | some n =>
        if n < 0 then
          { p with layout := { p.layout with width := some n.natAbs, minus := true, zero := false } }
        else { p with layout.width := some n.natAbs }
      | none => p.note "%!(BADWIDTH)"
    { p with afterNumber := false }
  | cs =>
    let (n?, rest) := readNumber cs
    { p with rest, layout.width := n?, numbered := p.numbered && !(p.afterNumber && n?.isSome) }

/-- Reads the precision. A negative one counts as none. -/
def precision (p : Place) : Place :=
  match p.rest with
  | '.' :: rest =>
    let p := { p with rest, numbered := p.numbered && !p.afterNumber }.index
    match p.rest with
    | '*' :: rest =>
      let (n?, p) := { p with rest }.takeNumber
      let p := match n? with
        | some n => if n < 0 then p.note "%!(BADPREC)" else { p with layout.precision := some n.natAbs }
        | none => p.note "%!(BADPREC)"
      { p with afterNumber := false }
    | cs =>
      let (n?, rest) := readNumber cs
      { p with rest, layout.precision := some (n?.getD 0) }
  | _ => p

/-- Reads a place up to its letter. -/
def read (f : Filling) (cs : List Char) : Place :=
  let (layout, rest) := readFlags {} cs
  let p : Place := { filling := f, rest, layout }
  let p := p.index.width.precision
  if p.afterNumber then p else p.index

/-- What stands for a place with the given letter, and the state behind it. -/
def fill (p : Place) (letter : Char) : Message × Filling :=
  let f := p.filling
  let wrong (reason : String) : Message :=
    p.notes ++ [⟨"%!" ++ letter.toString ++ "(" ++ reason ++ ")", false⟩]
  if letter = '%' then (p.notes ++ [⟨"%", false⟩], f)
  else if !p.numbered then (wrong "BADINDEX", f)
  else
    match f.args[f.next]? with
    | none => (wrong "MISSING", f)
    | some a => (p.notes ++ a.messageAs p.layout letter, { f with next := f.next + 1 })

end Place

/-! ### Messages -/

/-- The arguments that a template does not use. Where arguments are asked for by number, this is not
looked at. -/
def surplus (f : Filling) : Message :=
  match f.args.drop f.next with
  | [] => []
  | args =>
    if f.reordered then []
    else
      let listed := args.map (Argument.typed {})
      ⟨"%!(EXTRA ", false⟩ :: ([⟨", ", false⟩] : Message).intercalate listed ++ [⟨")", false⟩]

/-- Fills in the rest of a template. -/
def fillFrom : Nat → Filling → List Char → Message
  | 0, f, _ => surplus f
  | _, f, [] => surplus f
  | fuel + 1, f, '%' :: cs =>
    let p := Place.read f cs
    match p.rest with
    | [] => p.notes ++ ⟨"%!(NOVERB)", false⟩ :: surplus p.filling
    | letter :: rest =>
      let (m, f) := p.fill letter
      m ++ fillFrom fuel f rest
  | fuel + 1, f, c :: cs => ⟨c.toString, false⟩ :: fillFrom fuel f cs

end Template

/-- The message of a template with its arguments. Without a template the arguments are listed. -/
def Message.ofTemplate (template : String) (args : List Argument) : Message :=
  if template.isEmpty then ([⟨" ", false⟩] : Message).intercalate (args.map Argument.message)
  else Template.fillFrom (template.length + 1) { args } template.toList

end SqlTyping
