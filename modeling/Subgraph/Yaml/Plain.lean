import Subgraph.Yaml.Cursor
import Subgraph.Yaml.Value

namespace Subgraph.Yaml.Plain

def truths : List String :=
  ["yes", "Yes", "YES", "true", "True", "TRUE", "on", "On", "ON"]

def falsehoods : List String :=
  ["no", "No", "NO", "false", "False", "FALSE", "off", "Off", "OFF"]

def nulls : List String :=
  ["", "~", "null", "Null", "NULL"]

/-- Marks that have a meaning as keys only. -/
def keyMarks : List String :=
  ["=", "<<"]

/-- Splits off a sign. -/
def signed : List Char → Bool × List Char
  | '-' :: rest => (true, rest)
  | '+' :: rest => (false, rest)
  | text => (false, text)

def isSpaced (p : Char → Bool) (c : Char) : Bool :=
  c == '_' || p c

/-- The value of digits in a base. Underscores between them are passed over. -/
def digitsValue (base : Nat) (digits : List Char) : Nat :=
  digits.foldl (fun value c => if c == '_' then value else value * base + (Text.hexValue? c).getD 0) 0

def digitsIn? (base : Nat) (p : Char → Bool) (digits : List Char) : Option Nat :=
  if !digits.isEmpty && digits.all (isSpaced p) then some (digitsValue base digits) else none

def isBinary (c : Char) : Bool :=
  c == '0' || c == '1'

def isOctal (c : Char) : Bool :=
  '0' ≤ c && c ≤ '7'

/-- A part of a number in base 60. -/
def sixtieth? : List Char → Option Nat
  | [c] => if c.isDigit then some (digitsValue 10 [c]) else none
  | [tens, c] => if '0' ≤ tens && tens ≤ '5' && c.isDigit then some (digitsValue 10 [tens, c]) else none
  | _ => none

/-- The number in base 60 whose parts follow a first one. -/
def sixtieths? (first : Nat) (parts : List (List Char)) : Option Nat :=
  parts.foldlM (fun value part => (sixtieth? part).map (value * 60 + ·)) first

/-- Whole numbers, without their sign. -/
def natural? : List Char → Option Nat
  | '0' :: 'b' :: digits => digitsIn? 2 isBinary digits
  | '0' :: 'x' :: digits => digitsIn? 16 (fun c => (Text.hexValue? c).isSome) digits
  | ['0'] => some 0
  | '0' :: digits => digitsIn? 8 isOctal digits
  | text =>
    if (text.head?.any Char.isDigit) then
      match text.splitOn ':' with
      | [digits] => digitsIn? 10 Char.isDigit digits
      | first :: parts => do sixtieths? (← digitsIn? 10 Char.isDigit first) parts
      | [] => none
    else none

def int? (text : List Char) : Option Int :=
  let (negative, body) := signed text
  (natural? body).map fun (n : Nat) => if negative then -(n : Int) else (n : Int)

/-- The exponent that ends a number. Its sign is required. -/
def exponent? : List Char → Option Int
  | [] => some 0
  | e :: sign :: digits =>
    if (e == 'e' || e == 'E') && !digits.isEmpty && digits.all Char.isDigit then
      match sign with
      | '+' => some (digitsValue 10 digits)
      | '-' => some (-(digitsValue 10 digits : Int))
      | _ => none
    else none
  | _ => none

/-- A number with a point. Before the point there must be a digit; without a sign it may stand after
it instead. In front of a fraction the whole part may be in base 60. -/
def point? (text : List Char) : Option Double :=
  let (negative, body) := signed text
  let whole := body.takeWhile (isSpaced Char.isDigit)
  let parts := body.takeWhile fun c => isSpaced Char.isDigit c || c == ':'
  match body.drop parts.length with
  | '.' :: rest =>
    let fraction := rest.takeWhile (isSpaced Char.isDigit)
    let places := (fraction.filter (· != '_')).length
    let tail := rest.drop fraction.length
    if parts.length = whole.length then do
      let leads := whole.head?.any Char.isDigit
      let bare := text.head? == some '.' && fraction.head?.any Char.isDigit
      if leads || bare then
        return .ofScientific negative (digitsValue 10 (whole ++ fraction)) ((← exponent? tail) - places)
      else none
    else if tail.isEmpty && whole.head?.any Char.isDigit then do
      let value ← sixtieths? (digitsValue 10 whole) ((parts.splitOn ':').drop 1)
      return .ofScientific negative (value * Nat.pow 10 places + digitsValue 10 fraction) (-places)
    else none
  | _ => none

def infinities : List String :=
  [".inf", ".Inf", ".INF"]

def undefineds : List String :=
  [".nan", ".NaN", ".NAN"]

def float? (text : List Char) : Option Double :=
  let (negative, body) := signed text
  if infinities.contains (String.ofList body) then some (.infinite negative)
  else if undefineds.contains (String.ofList text) then some .undefined
  else point? text

/-- Drops the digits that a text starts with, if there are from `least` to `most` of them. -/
def dropDigits (least most : Nat) (text : List Char) : Option (List Char) :=
  let size := ((text.take most).takeWhile Char.isDigit).length
  if least ≤ size then some (text.drop size) else none

def dropChar (p : Char → Bool) : List Char → Option (List Char)
  | c :: rest => if p c then some rest else none
  | [] => none

def isDate (text : List Char) : Bool :=
  text.length = 10 && (do
    let rest ← dropDigits 4 4 text
    let rest ← dropChar (· == '-') rest
    let rest ← dropDigits 2 2 rest
    let rest ← dropChar (· == '-') rest
    dropDigits 2 2 rest) == some []

/-- The offset that may end a time of day. -/
def isOffset (text : List Char) : Bool :=
  match text.dropWhile isGap with
  | [] => text.isEmpty
  | ['Z'] => true
  | sign :: rest =>
    (sign == '-' || sign == '+') &&
      match dropDigits 1 2 rest with
      | some [] => true
      | some (':' :: minutes) => dropDigits 2 2 minutes == some []
      | _ => false

/-- What stands between a date and a time of day: a letter, or gaps. -/
def dropDivider : List Char → Option (List Char)
  | [] => none
  | c :: rest =>
    if c == 'T' || c == 't' then some rest
    else if isGap c then some (rest.dropWhile isGap)
    else none

def isMoment (text : List Char) : Bool :=
  ((do
    let rest ← dropDigits 4 4 text
    let rest ← dropChar (· == '-') rest
    let rest ← dropDigits 1 2 rest
    let rest ← dropChar (· == '-') rest
    let rest ← dropDigits 1 2 rest
    let rest ← dropDivider rest
    let rest ← dropDigits 1 2 rest
    let rest ← dropChar (· == ':') rest
    let rest ← dropDigits 2 2 rest
    let rest ← dropChar (· == ':') rest
    dropDigits 2 2 rest).any fun rest =>
      match rest with
      | '.' :: rest => isOffset (rest.dropWhile Char.isDigit)
      | rest => isOffset rest)

def isTime (text : List Char) : Bool :=
  isDate text || isMoment text

end Subgraph.Yaml.Plain

namespace Subgraph.Yaml

/-- The value of an unquoted scalar. The marks that only keys may be have none. -/
def Scalar.ofPlain? (text : String) : Option Scalar :=
  if Plain.truths.contains text then some (.bool true)
  else if Plain.falsehoods.contains text then some (.bool false)
  else if Plain.nulls.contains text then some .null
  else if Plain.keyMarks.contains text then none
  else
    match Plain.float? text.toList, Plain.int? text.toList with
    | some value, _ => some (.float value)
    | none, some value => some (.int value)
    | none, none => some (if Plain.isTime text.toList then .time text else .text text)

end Subgraph.Yaml
