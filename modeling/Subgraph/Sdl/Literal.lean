import Subgraph.Text.Blank
import Subgraph.Text.Chars

namespace Subgraph.Sdl

/-- Quotes, backslashes and control characters are escaped, all else stands for itself. -/
def escape (c : Char) : List Char :=
  if c = '"' then ['\\', '"']
  else if c = '\\' then ['\\', '\\']
  else if c = '\n' then ['\\', 'n']
  else if c = '\r' then ['\\', 'r']
  else if c = '\t' then ['\\', 't']
  else if c = '\x08' then ['\\', 'b']
  else if c = '\x0c' then ['\\', 'f']
  else if c.toNat < 0x20 then ['\\', 'u'] ++ Text.hexDigits 4 c.toNat
  else [c]

/-- A text as a string literal. -/
def quote : String → String :=
  Text.onChars fun text => '"' :: text.flatMap escape ++ ['"']

/-- Puts a backslash before three quotes in a row. -/
def guardQuotes : List Char → List Char
  | '"' :: '"' :: '"' :: rest => '\\' :: '"' :: '"' :: '"' :: guardQuotes rest
  | [] => []
  | c :: rest => c :: guardQuotes rest

/-- The lines of a block string that describes a definition, or nothing for an empty comment. -/
def description (comment : String) (indent : String) : String :=
  if comment.isEmpty then ""
  else
    let text := Text.onChars (guardQuotes ∘ Text.trim) comment
    indent ++ "\"\"\"\n" ++ indent ++ text ++ "\n" ++ indent ++ "\"\"\"\n"

end Subgraph.Sdl
