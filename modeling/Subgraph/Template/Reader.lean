import Subgraph.Template.Segment

namespace Subgraph.Template

/-- What a reader of tokens finds at the end of them: the closing mark, or the end of the text. -/
def printEnd : String := "end of print statement"

def tagEnd : String := "end of statement block"

def found (stop : String) : List Token → String
  | [] => stop
  | token :: _ => token.shown

def expectSymbol (symbol : Char) (stop : String) : List Token → Except Cause (List Token)
  | .symbol c :: rest =>
    if c = symbol then .ok rest else .error (.unexpectedToken symbol.toString c.toString)
  | tokens => .error (.unexpectedToken symbol.toString (found stop tokens))

mutual

/-- An expression with its attributes, items and filters. Every call takes a token or leads to one
that does, so `fuel` need not exceed twice their number by more than two. -/
def readExpr (stop : String) : (fuel : Nat) → List Token → Except Cause (Expr × List Token)
  | 0, tokens => .error (.unexpected (found stop tokens))
  | fuel + 1, .name name :: .symbol '(' :: rest => do
    let (arguments, rest) ← readArguments stop fuel rest
    readTail stop fuel (.call name arguments) rest
  | fuel + 1, .name name :: rest => readTail stop fuel (.name name) rest
  | fuel + 1, .text value :: rest => readTail stop fuel (.text value) rest
  | fuel + 1, .int value :: rest => readTail stop fuel (.int value) rest
  | fuel + 1, .symbol '(' :: rest => do
    let (inner, rest) ← readExpr stop fuel rest
    readTail stop fuel inner (← expectSymbol ')' stop rest)
  | _ + 1, tokens => .error (.unexpected (found stop tokens))

/-- What follows an expression that has been read. -/
def readTail (stop : String) : (fuel : Nat) → Expr → List Token → Except Cause (Expr × List Token)
  | 0, expr, tokens => .ok (expr, tokens)
  | fuel + 1, expr, .symbol '.' :: .name name :: rest => readTail stop fuel (.member expr name) rest
  | fuel + 1, expr, .symbol '[' :: rest => do
    let (index, rest) ← readExpr stop fuel rest
    readTail stop fuel (.item expr index) (← expectSymbol ']' stop rest)
  | fuel + 1, expr, .symbol '|' :: .name name :: .symbol '(' :: rest => do
    let (arguments, rest) ← readArguments stop fuel rest
    readTail stop fuel (.filter expr name arguments) rest
  | fuel + 1, expr, .symbol '|' :: .name name :: rest => readTail stop fuel (.filter expr name []) rest
  | _ + 1, expr, tokens => .ok (expr, tokens)

/-- Arguments up to the closing parenthesis. -/
def readArguments (stop : String) : (fuel : Nat) → List Token → Except Cause (List Expr × List Token)
  | 0, tokens => .error (.unexpected (found stop tokens))
  | _ + 1, .symbol ')' :: rest => .ok ([], rest)
  | fuel + 1, tokens => do
    let (first, rest) ← readExpr stop fuel tokens
    match rest with
    | .symbol ',' :: rest =>
      let (others, rest) ← readArguments stop fuel rest
      return (first :: others, rest)
    | rest => return ([first], ← expectSymbol ')' stop rest)

end

def expression (stop : String) (tokens : List Token) : Except Cause (Expr × List Token) :=
  readExpr stop (2 * tokens.length + 2) tokens

mutual

/-- The names of the filters in an expression, in the order in which they apply. -/
def filtersOf : Expr → List String
  | .name _ | .text _ | .int _ => []
  | .member of _ => filtersOf of
  | .item of index => filtersOf of ++ filtersOf index
  | .call _ arguments => filtersOfAll arguments
  | .filter on name arguments => filtersOf on ++ [name] ++ filtersOfAll arguments

def filtersOfAll : List Expr → List String
  | [] => []
  | expr :: rest => filtersOf expr ++ filtersOfAll rest

end

/-- A block that is not yet closed. In its last part a loop has the nodes of its body, and a branch
has no condition. -/
inductive Block where
  | loop (binder : String) (items : Expr) (condition : Option Expr) (body : Option (List Node))
  | branch (cases : List (Expr × List Node)) (condition : Option Expr)

namespace Block

def name : Block → String
  | loop .. => "for"
  | branch .. => "if"

def awaited : Block → List String
  | loop _ _ _ none => ["endfor", "else"]
  | loop _ _ _ (some _) => ["endfor"]
  | branch _ (some _) => ["elif", "else", "endif"]
  | branch _ none => ["endif"]

/-- The node of a block whose last nodes are given. -/
def close (block : Block) (nodes : List Node) : Node :=
  match block with
  | loop binder items condition none => .loop binder items condition nodes []
  | loop binder items condition (some body) => .loop binder items condition body nodes
  | branch cases (some condition) => .branch (cases ++ [(condition, nodes)]) []
  | branch cases none => .branch cases nodes

end Block

/-- How far a template has been read: the open blocks with the nodes before each of them, innermost
first, the nodes of the innermost block in reverse, and the first filter that does not exist. -/
structure Progress where
  blocks : List (Block × List Node) := []
  nodes : List Node := []
  unknown : Option Fault := none

namespace Progress

def pending (progress : Progress) : Pending where
  awaited := (progress.blocks.head?.map (·.1.awaited)).getD []
  innermost := progress.blocks.head?.map (·.1.name)

def add (progress : Progress) (node : Node) : Progress :=
  { progress with nodes := node :: progress.nodes }

/-- Notes the filters of an expression on some line. -/
def checked (progress : Progress) (line : Nat) (expr : Expr) : Progress :=
  let missing := (filtersOf expr).find? (!isFilter ·)
  { progress with unknown := progress.unknown.or (missing.map fun name => ⟨line, .unknownFilter name⟩) }

def opened (progress : Progress) (block : Block) : Progress :=
  { progress with blocks := (block, progress.nodes) :: progress.blocks, nodes := [] }

/-- Nothing may follow in a tag or print statement, and its closing mark must be there. -/
def finish (inner : Inner) (ending : String) (rest : List Token) : Except Cause Unit :=
  match rest, inner.closed with
  | token :: _, _ => .error (.unexpectedToken ending token.shown)
  | [], false => .error (.unexpectedEnd ending)
  | [], true => .ok ()

/-- The tag that opens a loop, after its first word. -/
def openLoop (progress : Progress) (inner : Inner) (stop : String) :
    List Token → Except Cause Progress
  | .name binder :: .name "in" :: rest => do
    let (items, rest) ← expression stop rest
    match rest with
    | .name "if" :: rest =>
      let (condition, rest) ← expression stop rest
      finish inner tagEnd rest
      return ((progress.checked inner.line items).checked inner.line condition).opened
        (.loop binder items (some condition) none)
    | rest =>
      finish inner tagEnd rest
      return (progress.checked inner.line items).opened (.loop binder items none none)
  | .name _ :: rest => .error (.unexpectedToken "in" (found stop rest))
  | rest => .error (.unexpectedToken "name" (found stop rest))

def openBranch (progress : Progress) (inner : Inner) (stop : String) (tokens : List Token) :
    Except Cause Progress := do
  let (condition, rest) ← expression stop tokens
  finish inner tagEnd rest
  return (progress.checked inner.line condition).opened (.branch [] (some condition))

/-- A tag that belongs to the innermost block. -/
def continueBlock (progress : Progress) (inner : Inner) (stop tag : String) (rest : List Token)
    (block : Block) (outer : List Node) (others : List (Block × List Node)) : Except Cause Progress :=
  let nodes := progress.nodes.reverse
  match tag, block with
  | "elif", .branch cases (some condition) => do
    let (next, rest) ← expression stop rest
    finish inner tagEnd rest
    return { progress.checked inner.line next with
      blocks := (.branch (cases ++ [(condition, nodes)]) (some next), outer) :: others, nodes := [] }
  | "else", .branch cases (some condition) => do
    finish inner tagEnd rest
    return { progress with
      blocks := (.branch (cases ++ [(condition, nodes)]) none, outer) :: others, nodes := [] }
  | "else", .loop binder items condition none => do
    finish inner tagEnd rest
    return { progress with
      blocks := (.loop binder items condition (some nodes), outer) :: others, nodes := [] }
  | _, _ => do
    finish inner tagEnd rest
    return { progress with blocks := others, nodes := block.close nodes :: outer }

def readTag (progress : Progress) (inner : Inner) : Except Cause Progress :=
  let stop := if inner.closed then tagEnd else "end of template"
  match inner.tokens with
  | .name "for" :: rest => progress.openLoop inner stop rest
  | .name "if" :: rest => progress.openBranch inner stop rest
  | .name tag :: rest =>
    match progress.blocks with
    | (block, outer) :: others =>
      if block.awaited.contains tag then progress.continueBlock inner stop tag rest block outer others
      else if others.any (·.1.awaited.contains tag) then .error (.misplacedTag tag progress.pending)
      else .error (.unknownTag tag progress.pending)
    | [] => .error (.unknownTag tag progress.pending)
  | _ => .error (.unexpectedToken "name" (found stop inner.tokens))

def readPrint (progress : Progress) (inner : Inner) : Except Cause Progress := do
  let stop := if inner.closed then printEnd else "end of template"
  let (expr, rest) ← expression stop inner.tokens
  finish inner printEnd rest
  return (progress.checked inner.line expr).add (.print expr)

def read (progress : Progress) (segment : Segment) : Except Fault Progress :=
  match segment with
  | .text _ value => .ok (progress.add (.text (String.ofList value)))
  | .print inner => (progress.readPrint inner).mapError (⟨inner.line, ·⟩)
  | .tag inner => (progress.readTag inner).mapError (⟨inner.line, ·⟩)

end Progress

/-- Reads a template. A filter that does not exist is found only when all else is in order. -/
def read (source : String) : Except Fault (List Node) := do
  let segments ← segments source.toList
  let progress ← segments.foldlM Progress.read {}
  if !progress.blocks.isEmpty then
    throw ⟨(segments.getLast?.map (·.line)).getD 1, .unclosedBlock progress.pending⟩
  match progress.unknown with
  | some fault => throw fault
  | none => return progress.nodes.reverse

end Subgraph.Template
