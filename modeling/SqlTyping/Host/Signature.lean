import SqlTyping.Host.Representation
import SqlTyping.Text.Space

/-!
# Host signatures

A list of host types in parentheses, such as `(int32, *bool)`, that selects an overload by the
types its parameters are bound as.
-/

namespace SqlTyping

/-- The host types of the parameters of a routine. -/
abbrev HostSignature := List HostType

/-- The spelling of a host signature. -/
def HostSignature.render (s : HostSignature) : String :=
  "(" ++ ", ".intercalate (s.map HostType.text) ++ ")"

/-- Why a text is not a host signature. -/
inductive HostSignatureError where
  | noParentheses
  /-- The part at a zero-based position is not a host type. -/
  | noHostType (position : Nat) (part : List Char)

namespace HostSignature

/-- The older spelling of `any`. -/
def anySynonym : String := "interface\x7b\x7d"

/-- Reads one part of a host signature; white space does not count. -/
def readPart (part : List Char) : Except (List Char) HostType :=
  let spelling := (Text.wordList part).flatten
  let spelling := if spelling = anySynonym.toList then "any".toList else spelling
  match HostType.ofText? spelling with
  | some t => .ok t
  | none => .error spelling

/-- Reads the parts of a host signature from a position on. -/
def readParts (position : Nat) : List (List Char) → Except HostSignatureError HostSignature
  | [] => .ok []
  | part :: rest => do
    let t ← (readPart part).mapError (.noHostType position)
    let ts ← readParts (position + 1) rest
    .ok (t :: ts)

/-- Reads a host signature. -/
def read (source : List Char) : Except HostSignatureError HostSignature :=
  match Text.trimList source with
  | '(' :: rest =>
    if rest.getLast? = some ')' then
      let inner := Text.trimList rest.dropLast
      if inner.isEmpty then .ok [] else readParts 0 (Text.splitAtAll (· = ',') inner)
    else .error .noParentheses
  | _ => .error .noParentheses

end HostSignature

/-- The diagnostic for a text that is not a host signature, given the text in quotes. -/
def HostSignatureError.diagnostic (quoted : String) : HostSignatureError → Diagnostic
  | noParentheses =>
    .ofCode .syntaxError
      ("host signature " ++ quoted ++ " must be a parenthesized list of types")
  | noHostType position part =>
    .placed position <| .ofCode .syntaxError
      ("host signature " ++ quoted ++ ": " ++ Text.quote (String.ofList part) ++
        " is not a host type")

/-- The host signature that a text spells. -/
def HostSignature.parse (source : String) : Except Diagnostic HostSignature :=
  (read source.toList).mapError (·.diagnostic (Text.quote source))

end SqlTyping
