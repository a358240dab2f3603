import Subgraph.Text.CaseTable

namespace Subgraph.Text

def shiftChar (shifts : List CaseShift) (c : Char) : Char :=
  match shifts.find? (·.covers c.toNat) with
  | some s => Char.ofNat (Int.toNat (c.toNat + s.shift))
  | none => c

/-- The lower-case form of a character on its own. The capital I with a dot keeps its dot as a
combining mark. -/
def lowerChar (c : Char) : List Char :=
  if c.toNat = 0x130 then ['i', Char.ofNat 0x307] else [shiftChar lowerShifts c]

def upperChar (c : Char) : List Char :=
  match upperExpansions.lookup c.toNat with
  | some codes => codes.map Char.ofNat
  | none => [shiftChar upperShifts c]

def isCased (c : Char) : Bool :=
  casedRanges.contains c

def isCaseIgnorable (c : Char) : Bool :=
  caseIgnorableRanges.contains c

/-- A cased letter follows, with nothing but skipped characters in between. -/
def casedAhead (text : List Char) : Bool :=
  match text.dropWhile isCaseIgnorable with
  | [] => false
  | c :: _ => isCased c

/-- `inWord` tells whether a cased letter stands before `text`, with nothing but skipped characters
in between. A capital sigma that ends a word becomes a final sigma. -/
def lowerFrom (inWord : Bool) : List Char → List Char
  | [] => []
  | c :: rest =>
    (if c = 'Σ' then [if inWord && !casedAhead rest then 'ς' else 'σ'] else lowerChar c) ++
      lowerFrom (if isCaseIgnorable c then inWord else isCased c) rest

def lower (text : List Char) : List Char :=
  lowerFrom false text

def upper (text : List Char) : List Char :=
  text.flatMap upperChar

end Subgraph.Text
