import Subgraph.Template.Basic
import Subgraph.Text.Blank

namespace Subgraph.Template

inductive Token where
  | name (value : String)
  | int (value : Nat)
  | text (value : String)
  | symbol (value : Char)
  deriving DecidableEq, Repr

/-- The token in a message. -/
def Token.shown : Token → String
  | name value => value
  | int _ => "integer"
  | text _ => "string"
  | symbol value => value.toString

/-- What stands between two marks, with the line of its first mark. -/
structure Inner where
  line : Nat
  tokens : List Token
  closed : Bool
  deriving DecidableEq, Repr

inductive Segment where
  | text (line : Nat) (value : List Char)
  | print (inner : Inner)
  | tag (inner : Inner)
  deriving DecidableEq, Repr

def Segment.line : Segment → Nat
  | text line _ => line
  | print inner => inner.line
  | tag inner => inner.line

/-- The marks that leave the plain text. -/
inductive Mark where
  | print
  | tag
  | comment
  deriving DecidableEq, Repr

def Mark.symbol : Mark → Char
  | print => '\x7d'
  | tag => '%'
  | comment => '#'

def markOf? : Char → Option Mark
  | '\x7b' => some .print
  | '%' => some .tag
  | '#' => some .comment
  | _ => none

def newlines (text : List Char) : Nat :=
  text.count '\n'

/-- The text up to the first opening mark, the mark, and the rest. -/
def splitAtMark : List Char → List Char × Option (Mark × List Char)
  | '\x7b' :: c :: rest =>
    match markOf? c with
    | some mark => ([], some (mark, rest))
    | none =>
      let (text, found) := splitAtMark (c :: rest)
      ('\x7b' :: text, found)
  | c :: rest =>
    let (text, found) := splitAtMark rest
    (c :: text, found)
  | [] => ([], none)

/-- Blanks between the start of the line and a tag go with the tag. -/
def dropIndent (lineStart : Bool) (text : List Char) : List Char :=
  let indent := (text.reverse.takeWhile (· != '\n')).reverse
  let before := text.take (text.length - indent.length)
  if (lineStart || !before.isEmpty) && indent.all Text.isBlank then before else text

/-- The text before a mark, after the mark has taken the blanks that belong to it. -/
def textBefore (mark : Mark) (sign : Option Char) (lineStart : Bool) (text : List Char) : List Char :=
  match sign with
  | some '-' => Text.dropEndWhile Text.isBlank text
  | some _ => text
  | none => if mark = .print then text else dropIndent lineStart text

/-- Takes a sign that follows an opening mark. -/
def takeSign : List Char → Option Char × List Char
  | '-' :: rest => (some '-', rest)
  | '+' :: rest => (some '+', rest)
  | rest => (none, rest)

/-- Blanks that a closing mark takes from the text after it: all of them after a minus sign, else one
line feed after a tag or comment. -/
def afterClose (mark : Mark) (sign : Option Char) (rest : List Char) : List Char × List Char :=
  match sign, mark, rest with
  | some '-', _, _ => (rest.takeWhile Text.isBlank, rest.dropWhile Text.isBlank)
  | some _, _, _ => ([], rest)
  | none, .print, _ => ([], rest)
  | none, _, '\n' :: after => (['\n'], after)
  | none, _, _ => ([], rest)

/-- The closing mark at the start of a text: its sign and what comes after. -/
def closing? (mark : Mark) (text : List Char) : Option (Option Char × List Char) :=
  match text with
  | '-' :: c :: '\x7d' :: rest => if c = mark.symbol then some (some '-', rest) else none
  | '+' :: c :: '\x7d' :: rest =>
    if c = mark.symbol && mark ≠ .print then some (some '+', rest) else none
  | c :: '\x7d' :: rest => if c = mark.symbol then some (none, rest) else none
  | _ => none

/-- What a comment leaves of the text: the number of its lines ends and the text after it. -/
def skipComment : List Char → Option (Nat × Option Char × List Char)
  | [] => none
  | c :: rest =>
    match closing? .comment (c :: rest) with
    | some (sign, after) => some (0, sign, after)
    | none => (skipComment rest).map fun (lines, sign, after) =>
        (lines + if c = '\n' then 1 else 0, sign, after)

def isNameStart (c : Char) : Bool :=
  c.isAlpha || c == '_'

def isNamePart (c : Char) : Bool :=
  c.isAlphanum || c == '_'

/-- The characters of a string literal up to its closing quote. -/
def stringBody (mark : Char) : List Char → Option (List Char × List Char)
  | [] => none
  | '\\' :: 'n' :: rest => (stringBody mark rest).map fun (body, after) => ('\n' :: body, after)
  | '\\' :: 't' :: rest => (stringBody mark rest).map fun (body, after) => ('\t' :: body, after)
  | '\\' :: c :: rest => (stringBody mark rest).map fun (body, after) => (c :: body, after)
  | c :: rest =>
    if c = mark then some ([], rest)
    else (stringBody mark rest).map fun (body, after) => (c :: body, after)

/-- The result of reading tokens: the tokens, whether the closing mark was found and with which sign,
the text after it, and the line ends passed. -/
structure Tokens where
  tokens : List Token
  closed : Bool
  sign : Option Char
  rest : List Char
  lines : Nat

/-- Reads tokens up to the closing mark. Each round takes at least one character, of which there are
no more than `fuel`. -/
def readTokens (mark : Mark) : (fuel : Nat) → List Char → Except Char Tokens
  | 0, text => .ok ⟨[], false, none, text, 0⟩
  | _, [] => .ok ⟨[], false, none, [], 0⟩
  | fuel + 1, c :: rest =>
    match closing? mark (c :: rest) with
    | some (sign, after) => .ok ⟨[], true, sign, after, 0⟩
    | none =>
      if Text.isBlank c then do
        let more ← readTokens mark fuel rest
        return { more with lines := more.lines + if c = '\n' then 1 else 0 }
      else if isNameStart c then do
        let more ← readTokens mark fuel (rest.dropWhile isNamePart)
        return { more with tokens := .name (String.ofList (c :: rest.takeWhile isNamePart)) :: more.tokens }
      else if c.isDigit then do
        let more ← readTokens mark fuel (rest.dropWhile Char.isDigit)
        let digits := c :: rest.takeWhile Char.isDigit
        return { more with tokens := .int (Nat.ofDigitChars 10 digits 0) :: more.tokens }
      else if c = '"' || c = '\'' then
        match stringBody c rest with
        | none => throw c
        | some (body, after) => do
          let more ← readTokens mark fuel after
          return { more with tokens := .text (String.ofList body) :: more.tokens
                             lines := more.lines + newlines body }
      else if ['.', ',', '(', ')', '[', ']', '|', ':', '=', '<', '>', '!', '+', '-', '*', '/', '%',
          '~', '\x7b', '\x7d'].contains c then do
        let more ← readTokens mark fuel rest
        return { more with tokens := .symbol c :: more.tokens }
      else throw c

/-- Divides a text that begins on `line`. Every round takes at least the two characters of a mark, of
which there are no more than `fuel`. -/
def segmentsFrom : (fuel : Nat) → (line : Nat) → (lineStart : Bool) → List Char →
    Except Fault (List Segment)
  | 0, line, _, text => .ok [.text line text]
  | fuel + 1, line, lineStart, source =>
    match splitAtMark source with
    | (text, none) => .ok (if text.isEmpty then [] else [.text line text])
    | (text, some (mark, rest)) => do
      let (sign, rest) := takeSign rest
      let before := textBefore mark sign lineStart text
      let here := line + newlines text
      let start := if before.isEmpty then [] else [Segment.text line before]
      match mark with
      | .comment =>
        match skipComment rest with
        | none => throw ⟨here, .unclosedComment⟩
        | some (lines, sign, rest) =>
          let (taken, rest) := afterClose mark sign rest
          let more ← segmentsFrom fuel (here + lines + newlines taken) (taken.getLast? == some '\n') rest
          return start ++ more
      | _ =>
        match readTokens mark rest.length rest with
        | .error char =>
          throw ⟨here, .unexpectedChar char (source.length - rest.length)⟩
        | .ok read =>
          let inner : Inner := ⟨here, read.tokens, read.closed⟩
          let (taken, rest) := afterClose mark read.sign read.rest
          let segment := if mark = .print then Segment.print inner else Segment.tag inner
          let more ← segmentsFrom fuel (here + read.lines + newlines taken)
            (taken.getLast? == some '\n') rest
          return start ++ segment :: more

def segments (source : List Char) : Except Fault (List Segment) :=
  segmentsFrom (source.length + 1) 1 true source

end Subgraph.Template
