import Subgraph.Text.Chars
import Subgraph.Text.Quoted

namespace Subgraph.Yaml

def isBreak (c : Char) : Bool :=
  c == '\n' || c == '\u0085' || c == '\u2028' || c == '\u2029'

/-- Blanks within a line. -/
def isGap (c : Char) : Bool :=
  c == ' ' || c == '\t'

/-- A place in a text: what stands before it, nearest character first, and what is still to come. -/
structure Cursor where
  before : List Char := []
  rest : List Char
  deriving DecidableEq, Repr

namespace Cursor

/-- The number of the line, from zero. -/
def line (cursor : Cursor) : Nat :=
  cursor.before.countP isBreak

/-- The number of characters between the start of the line and the place. -/
def column (cursor : Cursor) : Nat :=
  (cursor.before.takeWhile (!isBreak ·)).length

def advance (cursor : Cursor) (count : Nat) : Cursor where
  before := (cursor.rest.take count).reverse ++ cursor.before
  rest := cursor.rest.drop count

/-- Moves on to where `rest` is still to come. -/
def moveTo (cursor : Cursor) (rest : List Char) : Cursor :=
  cursor.advance (cursor.rest.length - rest.length)

/-- How much of a line is shown on one side of a place, and how much is left of it when it is cut. -/
def shownLimit : Nat × Nat :=
  (37, 32)

def cutMark : List Char :=
  " ... ".toList

/-- The end of the line's text before the place. -/
def shownBefore (cursor : Cursor) : List Char :=
  let line := cursor.before.takeWhile (!isBreak ·)
  if line.length < shownLimit.1 then line.reverse else cutMark ++ (line.take shownLimit.2).reverse

/-- The start of the line's text from the place on. -/
def shownAfter (cursor : Cursor) : List Char :=
  let line := cursor.rest.takeWhile (!isBreak ·)
  if line.length < shownLimit.1 then line else line.take shownLimit.2 ++ cutMark

/-- Where the place is, with its line and a mark under it. -/
def describe (cursor : Cursor) : String :=
  let head := cursor.shownBefore
  let shown := String.ofList (head ++ cursor.shownAfter)
  let mark := String.ofList (List.replicate (head.length + 4) ' ')
  s!"  in \"<unicode string>\", line {cursor.line + 1}, column {cursor.column + 1}:\n    {shown}\n{mark}^"

/-- Blanks, comments and line breaks. -/
def dropFiller (inComment : Bool) : List Char → List Char
  | [] => []
  | c :: rest =>
    if isBreak c then dropFiller false rest
    else if inComment then dropFiller true rest
    else if c == ' ' then dropFiller false rest
    else if c == '#' then dropFiller true rest
    else c :: rest

/-- Moves on to the next character that is not filler. -/
def skip (cursor : Cursor) : Cursor :=
  cursor.moveTo (dropFiller false cursor.rest)

/-- Moves on over spaces. -/
def skipSpaces (cursor : Cursor) : Cursor :=
  cursor.moveTo (cursor.rest.dropWhile (· == ' '))

/-- Whether the text ends here or goes on with a blank. -/
def endsWord : List Char → Bool
  | [] => true
  | c :: _ => isGap c || isBreak c

/-- Whether a line starts with a document mark, three equal signs that stand alone. -/
def startsMark (sign : Char) (line : List Char) : Bool :=
  line.take 3 == [sign, sign, sign] && endsWord (line.drop 3)

/-- Whether a line starts or ends a document. -/
def isDocumentMark (line : List Char) : Bool :=
  startsMark '-' line || startsMark '.' line

def atDocumentStart (cursor : Cursor) : Bool :=
  cursor.column == 0 && startsMark '-' cursor.rest

def atDocumentEnd (cursor : Cursor) : Bool :=
  cursor.column == 0 && startsMark '.' cursor.rest

/-- Whether no more of the document follows. -/
def atEnd (cursor : Cursor) : Bool :=
  cursor.rest.isEmpty || cursor.atDocumentStart || cursor.atDocumentEnd

/-- A dash that starts an item of a list. -/
def atDash (cursor : Cursor) : Bool :=
  cursor.rest.head? == some '-' && endsWord (cursor.rest.drop 1)

/-- A colon that ends a key. -/
def atColon (cursor : Cursor) : Bool :=
  cursor.rest.head? == some ':' && endsWord (cursor.rest.drop 1)

def isAt (cursor : Cursor) (c : Char) : Bool :=
  cursor.rest.head? == some c

end Cursor

/-- What is wrong at a place. A `start` is where the part began that cannot be read to its end, and
`found` names what stands in the way. -/
inductive Cause where
  | stray (c : Char)
  | quoteUnclosed (start : Cursor)
  | quoteDivided (start : Cursor)
  | escapeUnknown (start : Cursor) (c : Char)
  | escapeShort (start : Cursor) (width : Nat) (c : Char)
  | colonMissing (start : Cursor)
  | mapMisplaced
  | listMisplaced
  | flowListUnclosed (start : Cursor) (found : String)
  | flowMapUnclosed (start : Cursor) (found : String)
  | flowContentMissing (found : String)
  | contentMissing (found : String)
  | listUnended (start : Cursor) (found : String)
  | mapUnended (start : Cursor) (found : String)
  | documentUnended (found : String)
  | secondDocument (start : Cursor)
  | keyHasParts (start : Cursor)
  | keyMarkAsValue (text : String)
  deriving DecidableEq, Repr

namespace Cause

/-- What was being read, and where it began if that is told. -/
def context : Cause → Option (String × Option Cursor)
  | stray _ => some ("while scanning for the next token", none)
  | quoteUnclosed start | quoteDivided start => some ("while scanning a quoted scalar", start)
  | escapeUnknown start _ | escapeShort start _ _ => some ("while scanning a double-quoted scalar", start)
  | colonMissing start => some ("while scanning a simple key", start)
  | flowListUnclosed start _ => some ("while parsing a flow sequence", start)
  | flowMapUnclosed start _ => some ("while parsing a flow mapping", start)
  | flowContentMissing _ => some ("while parsing a flow node", none)
  | contentMissing _ => some ("while parsing a block node", none)
  | listUnended start _ => some ("while parsing a block collection", start)
  | mapUnended start _ => some ("while parsing a block mapping", start)
  | secondDocument start => some ("expected a single document in the stream", start)
  | keyHasParts start => some ("while constructing a mapping", start)
  | mapMisplaced | listMisplaced | documentUnended _ | keyMarkAsValue _ => none

def problem : Cause → String
  | stray c => s!"found character {Text.quoted (String.singleton c)} that cannot start any token"
  | quoteUnclosed _ => "found unexpected end of stream"
  | quoteDivided _ => "found unexpected document separator"
  | escapeUnknown _ c => s!"found unknown escape character {Text.quoted (String.singleton c)}"
  | escapeShort _ width c =>
    s!"expected escape sequence of {width} hexadecimal numbers, but found {Text.quoted (String.singleton c)}"
  | colonMissing _ => "could not find expected ':'"
  | mapMisplaced => "mapping values are not allowed here"
  | listMisplaced => "sequence entries are not allowed here"
  | flowListUnclosed _ found => s!"expected ',' or ']', but got '{found}'"
  | flowMapUnclosed _ found => s!"expected ',' or '\x7d', but got '{found}'"
  | flowContentMissing found | contentMissing found => s!"expected the node content, but found '{found}'"
  | listUnended _ found | mapUnended _ found => s!"expected <block end>, but found '{found}'"
  | documentUnended found => s!"expected '<document start>', but found '{found}'"
  | secondDocument _ => "but found another document"
  | keyHasParts _ => "found unhashable key"
  | keyMarkAsValue text =>
    let tag := if text == "=" then "value" else "merge"
    s!"could not determine a constructor for the tag 'tag:yaml.org,2002:{tag}'"

end Cause

/-- Why a text cannot be read. -/
inductive Fault where
  | wrong (cause : Cause) (place : Cursor)
  /-- A character that no text may have, with its position. -/
  | unprintable (c : Char) (position : Nat)
  deriving DecidableEq, Repr

/-- A report in lines. The start of the part is left out where the fault stands at it. -/
def Fault.message : Fault → String
  | wrong cause place =>
    let context := match cause.context with
      | none => []
      | some (activity, none) => [activity]
      | some (activity, some start) =>
        if start.line = place.line && start.column = place.column then [activity]
        else [activity, start.describe]
    "\n".intercalate (context ++ [cause.problem, place.describe])
  | unprintable c position =>
    let code := String.ofList (Text.hexDigits 4 c.toNat)
    s!"unacceptable character #x{code}: special characters are not allowed\n" ++
      s!"  in \"<unicode string>\", position {position}"

end Subgraph.Yaml
