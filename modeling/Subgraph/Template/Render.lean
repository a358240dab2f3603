import Subgraph.Template.Helper

namespace Subgraph.Template

/-- The names that an expression may use. -/
abbrev Scope := List (String × Value)

mutual

def eval (scope : Scope) : Expr → Except EvalFault Value
  | .name name => .ok ((scope.lookup name).getD (.undefined s!"'{name}' is undefined"))
  | .text value => .ok (.text value)
  | .int value => .ok (.int value)
  | .member of name => do (← eval scope of).member name
  | .item of index => do
    let value ← eval scope of
    value.item (← eval scope index)
  | .call function arguments => do callHelper function (← evalAll scope arguments)
  | .filter on name arguments => do
    let value ← eval scope on
    applyFilter name value (← evalAll scope arguments)

def evalAll (scope : Scope) : List Expr → Except EvalFault (List Value)
  | [] => .ok []
  | expr :: rest => do
    let value ← eval scope expr
    return value :: (← evalAll scope rest)

end

/-- The items for which a condition on the loop variable holds. -/
def selected (scope : Scope) (binder : String) (condition : Option Expr) (items : List Value) :
    Except EvalFault (List Value) :=
  match condition with
  | none => .ok items
  | some condition => items.filterM fun item => do
      (← eval ((binder, item) :: scope) condition).holds

mutual

def renderNode (scope : Scope) : Node → Except EvalFault String
  | .text value => .ok value
  | .print expr => do (← eval scope expr).print
  | .loop binder items condition body otherwise => do
    let items ← selected scope binder condition (← (← eval scope items).items)
    if items.isEmpty then renderNodes scope otherwise
    else
      let texts ← items.zipIdx.mapM fun (item, place) =>
        renderNodes ((binder, item) :: ("loop", .loop (place + 1)) :: scope) body
      return String.join texts
  | .branch cases otherwise => do
    match ← renderCases scope cases with
    | some text => return text
    | none => renderNodes scope otherwise

def renderNodes (scope : Scope) : List Node → Except EvalFault String
  | [] => .ok ""
  | node :: rest => do
    let text ← renderNode scope node
    return text ++ (← renderNodes scope rest)

/-- The first case whose condition holds. -/
def renderCases (scope : Scope) : List (Expr × List Node) → Except EvalFault (Option String)
  | [] => .ok none
  | (condition, nodes) :: rest => do
    if ← (← eval scope condition).holds then
      return some (← renderNodes scope nodes)
    else renderCases scope rest

end

def render (template : List Node) (schema : Schema) : Except EvalFault String :=
  renderNodes [("schema", .schema schema)] template

end Subgraph.Template
