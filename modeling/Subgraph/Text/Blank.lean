import Subgraph.Text.Chars

namespace Subgraph.Text

/-- Spaces, tabs, line and paragraph ends and the information separators. The zero-width space and
the byte order mark are not among them. -/
def blankRanges : Ranges :=
  [(0x09, 0x0D), (0x1C, 0x20), (0x85, 0x85), (0xA0, 0xA0), (0x1680, 0x1680), (0x2000, 0x200A),
   (0x2028, 0x2029), (0x202F, 0x202F), (0x205F, 0x205F), (0x3000, 0x3000)]

def isBlank (c : Char) : Bool :=
  blankRanges.contains c

def dropEndWhile (p : Char → Bool) (text : List Char) : List Char :=
  (text.reverse.dropWhile p).reverse

/-- The text without the characters that satisfy `p` at its two ends. -/
def dropEnds (p : Char → Bool) (text : List Char) : List Char :=
  dropEndWhile p (text.dropWhile p)

/-- The text without its leading and trailing blanks. -/
def trim (text : List Char) : List Char :=
  dropEnds isBlank text

theorem length_dropWhile_le (p : Char → Bool) (text : List Char) :
    (text.dropWhile p).length ≤ text.length :=
  (List.dropWhile_sublist p).length_le

theorem length_dropEndWhile_le (p : Char → Bool) (text : List Char) :
    (dropEndWhile p text).length ≤ text.length := by
  simpa [dropEndWhile] using length_dropWhile_le p text.reverse

theorem length_trim_le (text : List Char) : (trim text).length ≤ text.length :=
  Nat.le_trans (length_dropEndWhile_le ..) (length_dropWhile_le ..)

end Subgraph.Text
