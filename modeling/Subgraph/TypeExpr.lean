import Subgraph.Text.Blank
import Subgraph.Text.Chars
import Subgraph.Text.Letter

namespace Subgraph.TypeExpr

open Text

/-- The scalars that every GraphQL schema has. -/
def builtinScalars : List String :=
  ["Int", "Float", "String", "Boolean", "ID"]

def isScalar (name : String) : Bool :=
  builtinScalars.contains name

def decorate (base : String) (repeated required : Bool) : String :=
  (if repeated then "[" ++ base ++ "]" else base) ++ (if required then "!" else "")

/-- The text inside one pair of list brackets. -/
def unwrap? (text : List Char) : Option (List Char) :=
  if text.head? = some '[' ∧ text.getLast? = some ']' then some text.tail.dropLast else none

theorem length_unwrap_lt {text inner : List Char} (unwrapped : unwrap? text = some inner) :
    inner.length < text.length := by
  cases text with
  | nil => simp [unwrap?] at unwrapped
  | cons c rest =>
    simp only [unwrap?, List.tail_cons] at unwrapped
    split at unwrapped <;> simp only [Option.some.injEq, reduceCtorEq] at unwrapped
    subst unwrapped
    simp only [List.length_dropLast, List.length_cons]
    omega

/-- Takes off marks, brackets and surrounding blanks, outermost first. -/
def peel (text : List Char) : List Char :=
  if (trim text).getLast? = some '!' then peel (trim text).dropLast
  else
    match _found : unwrap? (trim text) with
    | some inner => peel inner
    | none => trim text
termination_by text.length
decreasing_by
  · have shorter := length_trim_le text
    rename_i marked
    cases body : trim text with
    | nil => simp [body] at marked
    | cons c rest => simp [body, List.length_dropLast] at shorter ⊢; omega
  · exact Nat.lt_of_lt_of_le (length_unwrap_lt (by assumption)) (length_trim_le text)

def baseName : String → String := onChars peel

/-- What is wrong with a type expression. -/
inductive Fault where
  | empty
  | unbalanced (type : String)
  | missingBase (type : String)
  | badName (base : String)
  deriving DecidableEq, Repr

def Fault.message : Fault → String
  | empty => "type name cannot be empty"
  | unbalanced type => s!"unbalanced list brackets in '{type}'"
  | missingBase type => s!"missing base type in '{type}'"
  | badName base => s!"invalid type name '{base}'"

/-- A letter or underscore, then letters, numbers and underscores, not underscores alone. -/
def isBaseName (base : List Char) : Bool :=
  match base with
  | [] => false
  | c :: _ =>
    (isAlphabetic c || c == '_') && base.any (· != '_') &&
      base.all fun d => d == '_' || isAlphanumeric d

def check (type : String) : Option Fault :=
  if type.isEmpty then some .empty
  else if type.toList.count '[' ≠ type.toList.count ']' then some (.unbalanced type)
  else if (baseName type).isEmpty then some (.missingBase type)
  else if isBaseName (baseName type).toList then none
  else some (.badName (baseName type))

end Subgraph.TypeExpr
