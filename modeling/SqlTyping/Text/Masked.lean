/-!
# Redaction marks

Log lines can enclose sensitive values in the marks `‹` and `›`. So that a value cannot forge a
mark, every mark inside a message or a rendered name is replaced by a question mark.
-/

namespace SqlTyping.Text

/-- Whether a character is one of the two redaction marks. -/
def isMark (c : Char) : Bool :=
  c == '‹' || c == '›'

/-- A text with every redaction mark replaced by a question mark. -/
def mask (s : String) : String :=
  String.ofList (s.toList.map fun c => if isMark c then '?' else c)

/-- A text between redaction marks. -/
def marked (s : String) : String :=
  "‹" ++ s ++ "›"

end SqlTyping.Text
