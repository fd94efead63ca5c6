import SqlTyping.Text.Masked
import SqlTyping.Text.Space

/-!
# Notes

What an operation has to say about its progress. A note has a level of detail, and a reader who
asks for less detail does not see it. Tags tell which statement and expression a note is about.
-/

namespace SqlTyping

/-- A remark of an operation about its progress. -/
structure Note where
  /-- The verbosity from which on the note is shown. -/
  level : Int
  text : String
  tags : List (String × String) := []

namespace Note

/-- The tags as they stand in front of the text of a note. -/
def renderTags (tags : List (String × String)) : String :=
  if tags.isEmpty then ""
  else "[" ++ ",".intercalate (tags.map fun t => t.1 ++ "=" ++ t.2) ++ "] "

/-- The note as a line of the log, without the time. -/
def line (n : Note) : String :=
  "I " ++ Text.trim (Text.mask (renderTags n.tags ++ n.text))

/-- The lines of a log at the given verbosity. -/
def lines (verbosity : Int) (notes : List Note) : List String :=
  (notes.filter fun n => n.level ≤ verbosity).map line

/-- The note with further tags in front of its own. -/
def tagged (tags : List (String × String)) (n : Note) : Note :=
  { n with tags := tags ++ n.tags }

end Note

end SqlTyping
