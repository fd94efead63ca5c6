/-!
# White space

The white space that surrounds and separates words in every text the library reads, and the two
operations on it: trimming and splitting into words.
-/

namespace SqlTyping.Text

/-- White space: tab, line feed, vertical tab, form feed, carriage return, space, next line,
no-break space, and the wider spaces and separators. -/
def isSpace (c : Char) : Bool :=
  let n := c.toNat
  (9 ≤ n && n ≤ 13) || n == 0x20 || n == 0x85 || n == 0xA0 || n == 0x1680 ||
    (0x2000 ≤ n && n ≤ 0x200A) || n == 0x2028 || n == 0x2029 || n == 0x202F || n == 0x205F ||
    n == 0x3000

/-- The text without white space at either end. -/
def trimList (cs : List Char) : List Char :=
  ((cs.dropWhile isSpace).reverse.dropWhile isSpace).reverse

/-- The pieces of a list between the entries that satisfy `p`, empty pieces included. There is
always at least one piece. -/
def splitAtAll {α : Type} (p : α → Bool) : List α → List (List α)
  | [] => [[]]
  | c :: rest =>
    if p c then [] :: splitAtAll p rest
    else match splitAtAll p rest with
      | piece :: pieces => (c :: piece) :: pieces
      | [] => [[c]]

/-- The words of a text: its non-empty pieces between white space. -/
def wordList (cs : List Char) : List (List Char) :=
  (splitAtAll isSpace cs).filter fun word => !word.isEmpty

/-- The text without white space at either end. -/
def trim (s : String) : String :=
  String.ofList (trimList s.toList)

/-- The words of a text. -/
def words (s : String) : List String :=
  (wordList s.toList).map String.ofList

end SqlTyping.Text
