import Subgraph.Text.Blank
import Subgraph.Text.Chars
import Subgraph.Text.Lines

namespace Subgraph.Comment

open Text

/-- The tokens that open, continue or close a comment: two or more slashes, a slash and asterisks,
asterisks and a slash, a lone asterisk, a lone number sign. -/
def isDelimiter : List Char → Bool
  | ['*'] => true
  | ['#'] => true
  | '/' :: '/' :: slashes => slashes.all (· == '/')
  | '/' :: '*' :: stars => stars.all (· == '*')
  | '*' :: rest => rest.dropWhile (· == '*') == ['/']
  | _ => false

/-- Removes a delimiter that stands at the start as a word of its own. -/
def dropDelimiter (line : List Char) : List Char :=
  if isDelimiter (line.takeWhile (!isBlank ·)) then line.dropWhile (!isBlank ·) else line

/-- Removes a closing delimiter from the end. -/
def dropClosing (line : List Char) : List Char :=
  if ['*', '/'].isSuffixOf line then dropEndWhile isBlank (line.take (line.length - 2)) else line

/-- The prose of one line, without surrounding blanks. -/
def cleanLine (line : List Char) : List Char :=
  dropClosing (trim (dropDelimiter (trim line)))

/-- The prose of a comment on a single line: delimiters and blank lines left out, the other lines
joined by one space. -/
def cleanChars (comment : List Char) : List Char :=
  [' '].intercalate (((lines comment).map cleanLine).filter (!·.isEmpty))

def clean : String → String := onChars cleanChars

end Subgraph.Comment
