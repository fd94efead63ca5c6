import SqlTyping.Yaml.Cursor

/-!
# YAML tokens

The smallest units of YAML text, with their positions. The starts and ends of collections in block
style are tokens too, although they have no characters of their own.
-/

namespace SqlTyping.Yaml

/-- How a scalar is written. -/
inductive ScalarStyle where
  | plain
  | singleQuoted
  | doubleQuoted
  | literal
  | folded
  deriving DecidableEq

/-- What a token is. -/
inductive TokenKind where
  | streamStart
  | streamEnd
  | version (major minor : Nat)
  | tagDirective (handle stem : String)
  | documentStart
  | documentEnd
  | blockSequenceStart
  | blockMappingStart
  | blockEnd
  | flowSequenceStart
  | flowSequenceEnd
  | flowMappingStart
  | flowMappingEnd
  | blockEntry
  | flowEntry
  | key
  | value
  | reference (name : String)
  | anchor (name : String)
  | tag (handle suffix : String)
  | scalar (text : String) (style : ScalarStyle)
  deriving DecidableEq

/-- A token with its position. -/
structure Token where
  kind : TokenKind
  start : Mark
  stop : Mark
  deriving DecidableEq

end SqlTyping.Yaml
