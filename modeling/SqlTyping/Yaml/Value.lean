import SqlTyping.Text.Quoted
import SqlTyping.Yaml.Scalar

/-!
# Values of any kind

What a node stands for if nothing is known of it in advance, and two forms of its text: a plain one
for the value of a setting, and one with the types of all parts for reports.
-/

namespace SqlTyping.Yaml

/-- A value of any kind. -/
inductive Value where
  | scalar (s : Scalar)
  | list (items : List Value)
  /-- A mapping all of whose keys are texts. -/
  | table (entries : List (Text.Raw × Value))
  | map (entries : List (Scalar × Value))

namespace Value

/-- Inserts a pair into a list that is ordered by its keys. -/
def insertOrdered {α : Type} (p : Scalar × α) : List (Scalar × α) → List (Scalar × α)
  | [] => [p]
  | q :: rest => if p.1.before q.1 then p :: q :: rest else q :: insertOrdered p rest

/-- The pairs in the order of their keys. -/
def ordered {α : Type} (ps : List (Scalar × α)) : List (Scalar × α) :=
  ps.foldl (fun acc p => insertOrdered p acc) []

/-- Texts in brackets, with a space between any two. -/
def renderList (before : String) (texts : List Text.Raw) : Text.Raw :=
  .ofString (before ++ "[") ++ (texts.intersperse (.ofString " ")).flatten ++ .ofString "]"

/-- The entries of a mapping in the order of their keys. -/
def renderEntries (entries : List (Scalar × Text.Raw)) : Text.Raw :=
  renderList "map" ((ordered entries).map fun e => e.1.render ++ .ofString ":" ++ e.2)

/-- The entries of a mapping with their types, behind the type of the mapping. -/
def literalEntries (keyType : String) (entries : List (Scalar × String)) : String :=
  "map[" ++ keyType ++ "]interface \x7b\x7d\x7b" ++
    ", ".intercalate ((ordered entries).map fun e => e.1.literal ++ ":" ++ e.2) ++ "\x7d"

mutual

/-- The text of a value. -/
def render : Value → Text.Raw
  | scalar s => s.render
  | list items => renderList "" (renderItems items)
  | table entries => renderEntries (renderTable entries)
  | map entries => renderEntries (renderMap entries)

/-- The texts of values. -/
def renderItems : List Value → List Text.Raw
  | [] => []
  | v :: rest => v.render :: renderItems rest

/-- The texts of the values in a table. -/
def renderTable : List (Text.Raw × Value) → List (Scalar × Text.Raw)
  | [] => []
  | (k, v) :: rest => (.text k, v.render) :: renderTable rest

/-- The texts of the values in a mapping. -/
def renderMap : List (Scalar × Value) → List (Scalar × Text.Raw)
  | [] => []
  | (k, v) :: rest => (k, v.render) :: renderMap rest

end

mutual

/-- The text of a value with the types of its parts. -/
def literal : Value → String
  | scalar s => s.literal
  | list items => "[]interface \x7b\x7d\x7b" ++ ", ".intercalate (literalItems items) ++ "\x7d"
  | table entries => literalEntries "string" (literalTable entries)
  | map entries => literalEntries "interface \x7b\x7d" (literalMap entries)

/-- The texts of values with their types. -/
def literalItems : List Value → List String
  | [] => []
  | v :: rest => v.literal :: literalItems rest

/-- The texts of the values in a table with their types. -/
def literalTable : List (Text.Raw × Value) → List (Scalar × String)
  | [] => []
  | (k, v) :: rest => (.text k, v.literal) :: literalTable rest

/-- The texts of the values in a mapping with their types. -/
def literalMap : List (Scalar × Value) → List (Scalar × String)
  | [] => []
  | (k, v) :: rest => (k, v.literal) :: literalMap rest

end

end Value

end SqlTyping.Yaml
