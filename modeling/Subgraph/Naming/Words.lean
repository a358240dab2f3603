import Subgraph.Text.Blank
import Subgraph.Text.Case

namespace Subgraph.Words

open Text

/-- Blanks, hyphens and full stops divide words, as underscores do. -/
def isSeparator (c : Char) : Bool :=
  isBlank c || c == '-' || c == '.'

def startsWithSeparator : List Char → Bool
  | [] => false
  | c :: _ => isSeparator c

/-- Each run of separators becomes one underscore. -/
def underscoreRuns : List Char → List Char
  | [] => []
  | c :: rest =>
    if isSeparator c then
      if startsWithSeparator rest then underscoreRuns rest else '_' :: underscoreRuns rest
    else c :: underscoreRuns rest

/-- The trimmed name with its separators written as underscores. -/
def plain (name : List Char) : List Char :=
  underscoreRuns (trim name)

/-- Divides a run of capitals before the capital that a small letter follows. -/
def splitAcronyms : List Char → List Char
  | a :: b :: c :: rest =>
    if a.isUpper && b.isUpper && c.isLower then a :: '_' :: splitAcronyms (b :: c :: rest)
    else a :: splitAcronyms (b :: c :: rest)
  | few => few

/-- Divides between a small letter or digit and the capital after it. -/
def splitHumps : List Char → List Char
  | a :: b :: rest =>
    if (a.isLower || a.isDigit) && b.isUpper then a :: '_' :: splitHumps (b :: rest)
    else a :: splitHumps (b :: rest)
  | few => few

def snake (name : List Char) : List Char :=
  lower (splitHumps (splitAcronyms (plain name)))

/-- Removes each run of underscores that an ASCII letter or digit follows and capitalises that
character. `run` counts the underscores read since the last other character. -/
def capitalise (run : Nat) : List Char → List Char
  | [] => List.replicate run '_'
  | c :: rest =>
    if c = '_' then capitalise (run + 1) rest
    else if 0 < run && c.isAlphanum then c.toUpper :: capitalise 0 rest
    else List.replicate run '_' ++ c :: capitalise 0 rest

def lowerFirst : List Char → List Char
  | [] => []
  | c :: rest => lower [c] ++ rest

def upperFirst : List Char → List Char
  | [] => []
  | c :: rest => upper [c] ++ rest

def camel (name : List Char) : List Char :=
  lowerFirst (capitalise 0 (dropEnds (· == '_') (plain name)))

def pascal (name : List Char) : List Char :=
  upperFirst (camel name)

/-- Characters that a GraphQL name may hold. -/
def isNameChar (c : Char) : Bool :=
  c.isAlphanum || c == '_'

/-- An underscore goes before a leading digit. -/
def guardDigit : List Char → List Char
  | [] => []
  | c :: rest => if c.isDigit then '_' :: c :: rest else c :: rest

def typeName (name : List Char) : List Char :=
  guardDigit ((upperFirst name).filter isNameChar)

def fieldName (name : List Char) : List Char :=
  guardDigit ((camel name).filter isNameChar)

end Subgraph.Words
