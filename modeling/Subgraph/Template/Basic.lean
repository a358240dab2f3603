namespace Subgraph.Template

inductive Expr where
  | name (name : String)
  | text (value : String)
  | int (value : Nat)
  | member (of : Expr) (name : String)
  | item (of : Expr) (index : Expr)
  | call (function : String) (arguments : List Expr)
  | filter (on : Expr) (name : String) (arguments : List Expr)
  deriving Repr

/-- One piece of a template. A loop may leave items out by a condition and has nodes for the case
that no item is left. -/
inductive Node where
  | text (value : String)
  | print (expr : Expr)
  | loop (binder : String) (items : Expr) (condition : Option Expr) (body otherwise : List Node)
  | branch (cases : List (Expr × List Node)) (otherwise : List Node)
  deriving Repr

/-- The helper functions that a template may call, or use as filters. -/
def helperNames : List String :=
  ["pascal", "camel", "snake", "lower_first", "trim", "trim_prefix", "trim_suffix", "has_prefix",
   "has_suffix", "gql_string", "lookup", "has_field_with_suffix", "id_field_name", "is_id_name",
   "description", "field_comment", "arguments", "type_directives", "field_directives",
   "federation_imports"]

/-- Filters that are no helpers. -/
def listFilters : List String :=
  ["map", "join", "length"]

def isFilter (name : String) : Bool :=
  helperNames.contains name || listFilters.contains name

/-- The blocks that were open when something else was met: the tags that may come next, and the name
of the innermost block. -/
structure Pending where
  awaited : List String := []
  innermost : Option String := none
  deriving DecidableEq, Repr

/-- Why a text is no template. -/
inductive Cause where
  | unexpectedEnd (expected : String)
  | unexpectedToken (expected found : String)
  | unexpected (found : String)
  | unexpectedChar (char : Char) (position : Nat)
  | unclosedComment
  | unknownTag (name : String) (pending : Pending)
  | misplacedTag (name : String) (pending : Pending)
  | unclosedBlock (pending : Pending)
  | unknownFilter (name : String)
  deriving DecidableEq, Repr

def Pending.tags (pending : Pending) : String :=
  " or ".intercalate (pending.awaited.map fun tag => s!"'{tag}'")

def Pending.lookingFor (pending : Pending) : String :=
  if pending.awaited.isEmpty then ""
  else s!" Jinja was looking for the following tags: {pending.tags}."

def Pending.toClose (pending : Pending) : String :=
  match pending.innermost with
  | some block => s!" The innermost block that needs to be closed is '{block}'."
  | none => ""

def Cause.message : Cause → String
  | unexpectedEnd expected => s!"unexpected end of template, expected '{expected}'."
  | unexpectedToken expected found => s!"expected token '{expected}', got '{found}'"
  | unexpected found => s!"unexpected '{found}'"
  | unexpectedChar char position => s!"unexpected char '{char}' at {position}"
  | unclosedComment => "Missing end of comment tag"
  | unknownTag name pending =>
    s!"Encountered unknown tag '{name}'.{pending.lookingFor}{pending.toClose}"
  | misplacedTag name pending =>
    s!"Encountered unknown tag '{name}'. You probably made a nesting mistake. Jinja is expecting this tag, " ++
      s!"but currently looking for {pending.tags}.{pending.toClose}"
  | unclosedBlock pending => s!"Unexpected end of template.{pending.lookingFor}{pending.toClose}"
  | unknownFilter name => s!"No filter named '{name}'."

structure Fault where
  line : Nat
  cause : Cause
  deriving DecidableEq, Repr

end Subgraph.Template
