import Subgraph.Yaml.Plain
import Subgraph.Yaml.Wrapped

namespace Subgraph.Yaml.Writer

inductive Style where
  | plain
  | single
  | double
  deriving DecidableEq, Repr

/-- The column after which a line is folded. -/
def width : Nat := 80

/-- By how much parts stand further right than what they belong to. -/
def step : Nat := 2

def isSafe (c : Char) : Bool :=
  ' ' ≤ c && c ≤ '~'

/-- Characters that give a text another meaning when it starts with them. -/
def leadingMarks : List Char :=
  "#,[]\x7b\x7d&*!|>'\"%@`".toList

/-- Characters that do so only in front of a blank. -/
def leadingSigns : List Char :=
  ['?', ':', '-']

/-- A colon that would end a key or a hash that would start a comment, after the first character. -/
def hasInnerMark : List Char → Bool
  | before :: c :: rest =>
    (c == ':' && Cursor.endsWord rest) || (c == '#' && Cursor.endsWord [before]) || hasInnerMark (c :: rest)
  | _ => false

/-- Whether a text has a meaning of its own outside quotes. -/
def hasMark : List Char → Bool
  | [] => false
  | c :: rest =>
    (c :: rest).take 3 == ['-', '-', '-'] || (c :: rest).take 3 == ['.', '.', '.'] ||
      leadingMarks.contains c || (leadingSigns.contains c && Cursor.endsWord rest) ||
      hasInnerMark (c :: rest)

/-- Whether a text may stand without quotes, apart from what it would read back as. -/
def allowsPlain (text : List Char) : Bool :=
  text.all isSafe && text.head? != some ' ' && text.getLast? != some ' ' && !hasMark text

/-- Whether a line break stands next to a space. -/
def hasLooseBreak : List Char → Bool
  | c :: next :: rest =>
    (c == ' ' && next == '\n') || (c == '\n' && next == ' ') || hasLooseBreak (next :: rest)
  | _ => false

def allowsSingle (text : List Char) : Bool :=
  text.all (fun c => c == '\n' || isSafe c) && !hasLooseBreak text

/-- Whether an unquoted text would be read back as the same text. -/
def readsBack (text : List Char) : Bool :=
  Scalar.ofPlain? (String.ofList text) == some (.text (String.ofList text))

def style (text : List Char) : Style :=
  if allowsPlain text && readsBack text then .plain
  else if allowsSingle text then .single
  else .double

def blanks (count : Nat) : List Char :=
  List.replicate count ' '

/-- The column after which a scalar's lines are folded, if they are, and how far its further lines
are indented. -/
structure Folding where
  limit : Option Nat := some width
  indent : Nat

def Folding.isBeyond (folding : Folding) (column : Nat) : Bool :=
  folding.limit.any (· < column)

/-- A line break with the indentation after it. -/
def Folding.newLine (folding : Folding) : List Char :=
  '\n' :: blanks folding.indent

/-- An unquoted text from a column on. Single spaces beyond the limit become line breaks. -/
def plain (folding : Folding) (afterSpace : Bool) (column : Nat) : List Char → List Char
  | [] => []
  | c :: rest =>
    if c == ' ' && !afterSpace && rest.head? != some ' ' && folding.isBeyond column then
      folding.newLine ++ plain folding true folding.indent rest
    else c :: plain folding (c == ' ') (column + 1) rest

/-- The character before a place in a text. -/
inductive Previous where
  | start
  | space
  | lineBreak
  | other
  deriving DecidableEq, Repr

/-- A text in single quotes, after the first quote. Each run of line breaks is written with one more
of them, and single spaces beyond the limit become line breaks, except at the ends. -/
def single (folding : Folding) (previous : Previous) (column : Nat) : List Char → List Char
  | [] => ['\'']
  | c :: rest =>
    if c == '\n' then
      let first := if previous = .lineBreak then [] else ['\n']
      if rest.head? == some '\n' then first ++ '\n' :: single folding .lineBreak 0 rest
      else first ++ folding.newLine ++ single folding .lineBreak folding.indent rest
    else if c == '\'' then '\'' :: '\'' :: single folding .other (column + 2) rest
    else if c == ' ' then
      if (previous = .other) && !rest.isEmpty && rest.head? != some ' ' && folding.isBeyond column then
        folding.newLine ++ single folding .space folding.indent rest
      else c :: single folding .space (column + 1) rest
    else c :: single folding .other (column + 1) rest

/-- The escapes of one letter that are written. -/
def letterEscapes : List (Char × Char) :=
  [('\x00', '0'), ('\x07', 'a'), ('\x08', 'b'), ('\t', 't'), ('\n', 'n'), ('\x0b', 'v'), ('\x0c', 'f'),
    ('\r', 'r'), ('\x1b', 'e'), ('"', '"'), ('\\', '\\'), ('\u0085', 'N'), ('\u00a0', '_'),
    ('\u2028', 'L'), ('\u2029', 'P')]

/-- The escape of a character that cannot stand for itself in double quotes. -/
def escape? (c : Char) : Option (List Char) :=
  match letterEscapes.lookup c with
  | some letter => some ['\\', letter]
  | none =>
    if isSafe c then none
    else if c.toNat ≤ 0xFF then some ('\\' :: 'x' :: Text.hexDigitsUpper 2 c.toNat)
    else if c.toNat ≤ 0xFFFF then some ('\\' :: 'u' :: Text.hexDigitsUpper 4 c.toNat)
    else some ('\\' :: 'U' :: Text.hexDigitsUpper 8 c.toNat)

/-- A line break inside double quotes. The space that the next line would start with is escaped. -/
def Folding.escapedLine (folding : Folding) (next : Option Char) : List Char × Nat :=
  if next == some ' ' then ('\\' :: folding.newLine ++ ['\\'], folding.indent + 1)
  else ('\\' :: folding.newLine, folding.indent)

/-- A text in double quotes, after the first quote. Beyond the limit a line ends after an escape, in
front of a space, and in front of what follows an escape, but not next to the quotes. -/
def double (folding : Folding) (first afterEscape : Bool) (column : Nat) : List Char → List Char
  | [] => ['"']
  | c :: rest =>
    let inside := !first && !rest.isEmpty
    match escape? c with
    | some escape =>
      let column := column + escape.length
      if inside && folding.isBeyond (column - 1) then
        let (line, column) := folding.escapedLine rest.head?
        escape ++ line ++ double folding false true column rest
      else escape ++ double folding false true column rest
    | none =>
      if inside && (c == ' ' || afterEscape) && folding.isBeyond column then
        let (line, column) := folding.escapedLine (some c)
        line ++ c :: double folding false false (column + 1) rest
      else c :: double folding false false (column + 1) rest

/-- A text from a column on. -/
def text (folding : Folding) (column : Nat) (content : List Char) : List Char :=
  match style content with
  | .plain => plain folding false column content
  | .single => '\'' :: single folding .start (column + 1) content
  | .double => '"' :: double folding true false (column + 1) content

/-- A number with a point. An exponent is written after a point only. -/
def float : Double → List Char
  | .undefined => ".nan".toList
  | .infinite negative => if negative then "-.inf".toList else ".inf".toList
  | value =>
    let written := value.text.toList
    if written.contains '.' then written
    else written.flatMap fun c => if c == 'e' then ['.', '0', 'e'] else [c]

def scalar (folding : Folding) (column : Nat) : Scalar → List Char
  | .null => "null".toList
  | .bool value => if value then "true".toList else "false".toList
  | .int value => (toString value).toList
  | .float value => float value
  | .text content => text folding column content.toList
  | .time written => written.toList

/-- A key is never folded. -/
def key (content : Scalar) : List Char :=
  scalar ⟨none, 0⟩ 0 content

mutual

/-- A value after a dash at column `indent`. -/
def item (indent : Nat) : Value → List Char
  | .scalar value => ' ' :: scalar ⟨some width, indent + step⟩ (indent + 2) value ++ ['\n']
  | .list [] => " []\n".toList
  | .map [] => " \x7b\x7d\n".toList
  | .list (first :: more) => ' ' :: items (indent + step) true (first :: more)
  | .map (first :: more) => ' ' :: entries (indent + step) true (first :: more)

/-- Items one below another. The first may go on in a line that is already indented. -/
def items (indent : Nat) (inLine : Bool) : List Value → List Char
  | [] => []
  | value :: rest =>
    (if inLine then [] else blanks indent) ++ '-' :: item indent value ++ items indent false rest

/-- A value after a colon that ends at a column, in a map indented by `indent`. A list stands in the
column of its key. -/
def entry (indent column : Nat) : Value → List Char
  | .scalar value => ' ' :: scalar ⟨some width, indent + step⟩ (column + 1) value ++ ['\n']
  | .list [] => " []\n".toList
  | .map [] => " \x7b\x7d\n".toList
  | .list (first :: more) => '\n' :: items indent false (first :: more)
  | .map (first :: more) => '\n' :: entries (indent + step) false (first :: more)

/-- Entries one below another. -/
def entries (indent : Nat) (inLine : Bool) : List (Scalar × Value) → List Char
  | [] => []
  | (name, value) :: rest =>
    let name := key name
    (if inLine then [] else blanks indent) ++ name ++ ':' :: entry indent (indent + name.length + 1) value ++
      entries indent false rest

end

end Subgraph.Yaml.Writer

namespace Subgraph.Yaml

/-- The text of a map with one entry after another. -/
def write (entries : Entries) : String :=
  if entries.isEmpty then "\x7b\x7d\n" else String.ofList (Writer.entries 0 false entries)

end Subgraph.Yaml
