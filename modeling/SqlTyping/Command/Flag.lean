import SqlTyping.Setting.Engine
import SqlTyping.Table
import SqlTyping.Text.Numeral
import SqlTyping.Text.Quoted

/-!
# Flags

The flags of the command line. A flag is written with two hyphens and its name, or, if it has a
letter, with one hyphen and the letter. Its value stands behind an equals sign or in the next
argument, except that a switch without an equals sign is turned on.
-/

namespace SqlTyping

/-- A flag. -/
inductive Flag where
  | settings
  | set
  | catalog
  | format
  | verbosity
  | help
  | coalesce
  | signature
  | returns
  | expr
  | nonNull
  | evaluate
  deriving DecidableEq

/-- The values of all flags. -/
structure Options where
  settingsFile : String := ""
  /-- The keys and values given with `--set`, in their order. -/
  overrides : List (String × String) := []
  catalogFiles : List String := []
  format : DisplayFormat := .tsv
  verbosity : Int := 0
  help : Bool := false
  coalesce : Bool := false
  signature : String := ""
  returns : String := ""
  expr : Bool := false
  nonNull : Bool := false
  evaluate : Bool := false
  deriving DecidableEq

/-- The overrides as text. -/
def Options.overridesText (o : Options) : String :=
  ",".intercalate (o.overrides.map fun e => e.1 ++ "=" ++ e.2)

namespace Flag

/-- The flags that every command has. -/
def shared : List Flag := [settings, set, catalog, format, verbosity]

/-- The name of a flag. -/
def name : Flag → String
  | settings => "settings"
  | set => "set"
  | catalog => "catalog"
  | format => "format"
  | verbosity => "verbosity"
  | help => "help"
  | coalesce => "coalesce"
  | signature => "signature"
  | returns => "returns"
  | expr => "expr"
  | nonNull => "nonnull"
  | evaluate => "evaluate"

/-- The letter of a flag, if it has one. -/
def letter? : Flag → Option Char
  | verbosity => some 'v'
  | help => some 'h'
  | _ => none

/-- Whether a flag is turned on by its mere presence. -/
def isSwitch : Flag → Bool
  | help | coalesce | expr | nonNull | evaluate => true
  | settings | set | catalog | format | verbosity | signature | returns => false

/-- How messages call a flag. -/
def label (f : Flag) : String :=
  match f.letter? with
  | some c => "-" ++ c.toString ++ ", --" ++ f.name
  | none => "--" ++ f.name

/-! ### Values -/

/-- Reads a truth value. -/
def readBool (value : String) : Except String Bool :=
  if value ∈ ["1", "t", "T", "TRUE", "true", "True"] then .ok true
  else if value ∈ ["0", "f", "F", "FALSE", "false", "False"] then .ok false
  else .error ("strconv.ParseBool: parsing " ++ Text.quote value ++ ": invalid syntax")

/-- Whether every underscore stands between two digits, of which the first may be the mark of the
base. The flag tells whether there is a digit in front. -/
def underscoresBetween : Bool → List Char → Bool
  | _, [] => true
  | before, '_' :: c :: rest => before && c ≠ '_' && underscoresBetween true rest
  | _, ['_'] => false
  | _, _ :: rest => underscoresBetween true rest

/-- Reads a whole number of 64 bits whose base is marked and whose digits may be grouped by
underscores. -/
def readInteger (value : String) : Except String Int :=
  let (negative, unsigned) := Text.splitSign value.toList
  let (base, digits) := Text.splitBase unsigned
  let marked := digits.length < unsigned.length
  let read : Except Text.NumeralError Int := do
    if underscoresBetween marked digits then
      Text.withSign 64 negative (← Text.readNatural base 64 (digits.filter (· ≠ '_')))
    else .error .malformed
  read.mapError (·.message (Text.quote value))

/-- Reads a list of names with commas between them. -/
def readList (value : String) : Except String (List String) :=
  if value.isEmpty then .ok [] else (Text.readRecord value).mapError Text.RecordError.message

/-- Reads a setting and its value. The setting must exist. -/
def readOverride (value : String) : Except String (String × String) :=
  let cs := value.toList
  let before := cs.takeWhile (· ≠ '=')
  if before.length = cs.length then
    .error (Text.mask ("expected key=value, got " ++ Text.quote value))
  else
    let key := Text.trim (String.ofList before)
    if (Engine.registry.find? key).isSome then
      .ok (key, Text.trim (String.ofList (cs.drop (before.length + 1))))
    else .error (Text.mask ("unknown setting " ++ Text.quote key))

/-- The options after a flag has been given a value. The error is the reason why the flag does not
take it. -/
def assign (f : Flag) (o : Options) (value : String) : Except String Options :=
  match f with
  | settings => .ok { o with settingsFile := value }
  | set => (readOverride value).map fun e => { o with overrides := o.overrides ++ [e] }
  | catalog => (readList value).map fun l => { o with catalogFiles := o.catalogFiles ++ l }
  | format => ((DisplayFormat.ofName value).map fun f => { o with format := f }).mapError
    Diagnostic.message
  | verbosity => (readInteger value).map fun n => { o with verbosity := n }
  | help => (readBool value).map fun b => { o with help := b }
  | coalesce => (readBool value).map fun b => { o with coalesce := b }
  | signature => .ok { o with signature := value }
  | returns => .ok { o with returns := value }
  | expr => (readBool value).map fun b => { o with expr := b }
  | nonNull => (readBool value).map fun b => { o with nonNull := b }
  | evaluate => (readBool value).map fun b => { o with evaluate := b }

end Flag

/-! ### Reading arguments -/

/-- Why arguments cannot be read. -/
inductive FlagError where
  | badSyntax (argument : String)
  | unknownName (name : String)
  | unknownLetter (letter : Char) (letters : String)
  | missingValue (argument : String)
  | missingLetterValue (letter : Char) (letters : String)
  | badValue (flag : Flag) (value reason : String)
  deriving DecidableEq

/-- The message about arguments that cannot be read. -/
def FlagError.message : FlagError → String
  | badSyntax argument => "bad flag syntax: " ++ argument
  | unknownName name => "unknown flag: --" ++ name
  | unknownLetter letter letters =>
    "unknown shorthand flag: " ++ Text.quoteChar letter ++ " in -" ++ letters
  | missingValue argument => "flag needs an argument: " ++ argument
  | missingLetterValue letter letters =>
    "flag needs an argument: " ++ Text.quoteChar letter ++ " in -" ++ letters
  | badValue flag value reason =>
    "invalid argument " ++ Text.quote value ++ " for " ++ Text.quote flag.label ++ " flag: " ++
      reason

namespace Flag

/-- The flag with a name among the given ones. -/
def find? (flags : List Flag) (name : String) : Option Flag :=
  flags.find? fun f => f.name = name

/-- The flag with a letter among the given ones. -/
def findLetter? (flags : List Flag) (c : Char) : Option Flag :=
  flags.find? fun f => f.letter? = some c

/-- Gives a flag a value. -/
def apply (f : Flag) (o : Options) (value : String) : Except FlagError Options :=
  (f.assign o value).mapError (FlagError.badValue f value)

/-- Reads an argument with two hyphens, given without them, and the arguments behind it. -/
def readLong (flags : List Flag) (o : Options) (argument : List Char) (rest : List String) :
    Except FlagError (Options × List String) :=
  if argument.head? ∈ [none, some '-', some '='] then
    .error (.badSyntax (String.ofList ('-' :: '-' :: argument)))
  else
    let name := argument.takeWhile (· ≠ '=')
    match find? flags (String.ofList name) with
    | none => .error (.unknownName (String.ofList name))
    | some f =>
      match argument.drop name.length, rest with
      | _ :: value, _ => (f.apply o (String.ofList value)).map (·, rest)
      | [], _ =>
        if f.isSwitch then (f.apply o "true").map (·, rest)
        else
          match rest with
          | value :: rest => (f.apply o value).map (·, rest)
          | [] => .error (.missingValue (String.ofList ('-' :: '-' :: argument)))

/-- Reads the letters behind one hyphen and the arguments behind them. Letters that start with
`test.` are not meant for the tool and are passed over. -/
def readLetters (flags : List Flag) (o : Options) (rest : List String) :
    List Char → Except FlagError (Options × List String)
  | [] => .ok (o, rest)
  | c :: more =>
    if "test.".toList.isPrefixOf (c :: more) then .ok (o, rest)
    else
      match findLetter? flags c with
      | none => .error (.unknownLetter (Text.firstByte c) (String.ofList (c :: more)))
      | some f =>
        match more with
        | '=' :: d :: value => (f.apply o (String.ofList (d :: value))).map (·, rest)
        | _ =>
          if f.isSwitch then
            match f.apply o "true" with
            | .error e => .error e
            | .ok o => readLetters flags o rest more
          else
            match more, rest with
            | d :: value, _ => (f.apply o (String.ofList (d :: value))).map (·, rest)
            | [], value :: rest => (f.apply o value).map (·, rest)
            | [], [] => .error (.missingLetterValue c (String.ofList [c]))

/-- What has been read of a command line: the options, the other arguments in reverse order, and why
reading stopped. -/
structure Reading where
  options : Options
  operands : List String := []
  failure : Option FlagError := none

/-- Reads arguments. Behind `--` there are no flags. -/
def readFrom (flags : List Flag) : Nat → Reading → List String → Reading
  | 0, r, _ => r
  | _, r, [] => r
  | fuel + 1, r, argument :: rest =>
    let resume (step : Except FlagError (Options × List String)) : Reading :=
      match step with
      | .error e => { r with failure := some e }
      | .ok (options, rest) => readFrom flags fuel { r with options } rest
    match argument.toList with
    | ['-', '-'] => { r with operands := rest.reverse ++ r.operands }
    | '-' :: '-' :: name => resume (readLong flags r.options name rest)
    | '-' :: c :: letters => resume (readLetters flags r.options rest (c :: letters))
    | _ => readFrom flags fuel { r with operands := argument :: r.operands } rest

/-- Reads arguments with the given flags. -/
def read (flags : List Flag) (args : List String) : Reading :=
  let r := readFrom flags (args.length + 1) { options := {} } args
  { r with operands := r.operands.reverse }

end Flag

end SqlTyping
