import Subgraph.Yaml.Cursor

namespace Subgraph.Yaml

/-- The blanks and line breaks since the last word of a scalar. -/
inductive Gap where
  | nothing
  | blanks (text : List Char)
  /-- Line breaks, the first one and those after it, and the blanks that the last line starts with. A
  first break that is escaped is only an aid to layout. -/
  | breaks (first : Char) (escaped : Bool) (more : List Char) (column : Nat)
  deriving DecidableEq, Repr

namespace Gap

/-- The line break that a character stands for. -/
def broken (c : Char) : Char :=
  if c == '\u0085' then '\n' else c

/-- The text that a gap between two words stands for. A line break folds into one space, and each empty
line stands for a line break. -/
def text : Gap → List Char
  | nothing => []
  | blanks text => text
  | breaks first escaped more _ =>
    if escaped then more
    else if first != '\n' then first :: more
    else if more.isEmpty then [' ']
    else more

def addBlank (c : Char) : Gap → Gap
  | nothing => blanks [c]
  | blanks text => blanks (text ++ [c])
  | breaks first escaped more column => breaks first escaped more (column + 1)

def addBreak (c : Char) : Gap → Gap
  | nothing | blanks _ => breaks (broken c) false [] 0
  | breaks first escaped more _ => breaks first escaped (more ++ [broken c]) 0

end Gap

/-- A scalar's text and what follows it, or what is wrong and what follows that place. -/
abbrev Scan := Except ((Cursor → Cause) × List Char) (List Char × List Char)

namespace Scan

def append (text : List Char) (scan : Scan) : Scan :=
  scan.map fun (more, rest) => (text ++ more, rest)

end Scan

namespace Wrapped

/-- The text of a scalar in single quotes, after the first quote. Two quotes stand for one. -/
def singleQuoted (gap : Gap) : List Char → Scan
  | [] => .error (.quoteUnclosed, [])
  | '\'' :: '\'' :: rest => (singleQuoted .nothing rest).append (gap.text ++ ['\''])
  | c :: rest =>
    if c == '\'' then .ok (gap.text, rest)
    else if isBreak c then
      if Cursor.isDocumentMark rest then .error (.quoteDivided, rest)
      else singleQuoted (gap.addBreak c) rest
    else if isGap c then singleQuoted (gap.addBlank c) rest
    else (singleQuoted .nothing rest).append (gap.text ++ [c])

/-- The characters that have an escape of one letter. -/
def shortEscapes : List (Char × Char) :=
  [('0', '\x00'), ('a', '\x07'), ('b', '\x08'), ('t', '\x09'), ('\t', '\x09'), ('n', '\n'), ('v', '\x0b'),
    ('f', '\x0c'), ('r', '\r'), ('e', '\x1b'), (' ', ' '), ('"', '"'), ('\\', '\\'), ('/', '/'),
    ('N', '\u0085'), ('_', '\u00a0'), ('L', '\u2028'), ('P', '\u2029')]

/-- How many hexadecimal digits follow the letter of an escape. -/
def hexEscape? : Char → Option Nat
  | 'x' => some 2
  | 'u' => some 4
  | 'U' => some 8
  | _ => none

/-- How far an escape has been read. -/
inductive Escape where
  | none
  | opened
  /-- Digits still to come, all digits, and the value so far. -/
  | digits (left width value : Nat)
  deriving DecidableEq, Repr

/-- The text of a scalar in double quotes, after the first quote. -/
def doubleQuoted (gap : Gap) : Escape → List Char → Scan
  | .digits _ width _, [] => .error ((.escapeShort · width '\x00'), [])
  | .opened, [] => .error ((.escapeUnknown · '\x00'), [])
  | .none, [] => .error (.quoteUnclosed, [])
  | .digits left width value, c :: rest =>
    match Text.hexValue? c with
    | none => .error ((.escapeShort · width c), c :: rest)
    | some digit =>
      let value := value * 16 + digit
      if left ≤ 1 then (doubleQuoted .nothing .none rest).append [Char.ofNat value]
      else doubleQuoted gap (.digits (left - 1) width value) rest
  | .opened, c :: rest =>
    match shortEscapes.lookup c, hexEscape? c with
    | some meant, _ => (doubleQuoted .nothing .none rest).append [meant]
    | _, some width => doubleQuoted gap (.digits width width 0) rest
    | _, _ =>
      if isBreak c then
        if Cursor.isDocumentMark rest then .error (.quoteDivided, rest)
        else doubleQuoted (.breaks (Gap.broken c) true [] 0) .none rest
      else .error ((.escapeUnknown · c), c :: rest)
  | .none, c :: rest =>
    if c == '"' then .ok (gap.text, rest)
    else if c == '\\' then (doubleQuoted .nothing .opened rest).append gap.text
    else if isBreak c then
      if Cursor.isDocumentMark rest then .error (.quoteDivided, rest)
      else doubleQuoted (gap.addBreak c) .none rest
    else if isGap c then doubleQuoted (gap.addBlank c) .none rest
    else (doubleQuoted .nothing .none rest).append (gap.text ++ [c])

/-- Marks that end an unquoted scalar inside brackets. -/
def flowMarks : List Char :=
  [',', '?', '[', ']', '\x7b', '\x7d']

/-- Marks that end a key inside brackets when they follow a colon. -/
def flowEnds : List Char :=
  [',', '[', ']', '\x7b', '\x7d']

/-- Whether an unquoted scalar ends in front of a character that does not belong to a gap. -/
def endsPlain (flow : Bool) (indent : Nat) (gap : Gap) (c : Char) (rest : List Char) : Bool :=
  c == '\t' || (c == '#' && gap != .nothing) ||
    (c == ':' && (Cursor.endsWord rest || (flow && rest.head?.any flowEnds.contains))) ||
    (flow && flowMarks.contains c) ||
    match gap with
    | .breaks _ _ _ column => (!flow && column < indent) || (column == 0 && Cursor.isDocumentMark (c :: rest))
    | _ => false

/-- The text of an unquoted scalar and what follows it. Lines after the first have at least `indent`
blanks in front, unless the scalar stands inside brackets. -/
def plain (flow : Bool) (indent : Nat) (gap : Gap) : List Char → List Char × List Char
  | [] => ([], [])
  | c :: rest =>
    if isBreak c then plain flow indent (gap.addBreak c) rest
    else if c == ' ' then plain flow indent (gap.addBlank c) rest
    else if endsPlain flow indent gap c rest then ([], c :: rest)
    else
      let (text, rest) := plain flow indent .nothing rest
      (gap.text ++ c :: text, rest)

/-- Characters that cannot start an unquoted scalar. -/
def indicators : List Char :=
  "-?:,[]\x7b\x7d#&*!|>'\"%@`".toList

def startsPlain (flow : Bool) : List Char → Bool
  | [] => false
  | c :: rest =>
    !(isGap c || isBreak c || indicators.contains c) ||
      (!Cursor.endsWord rest && (c == '-' || (!flow && (c == '?' || c == ':'))))

end Wrapped

end Subgraph.Yaml
