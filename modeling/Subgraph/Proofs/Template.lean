import Mathlib.Data.List.Basic
import Subgraph.CommandLine
import Subgraph.Proofs.Config.Saved

namespace Subgraph

namespace Template

section Equality

mutual

/-- Decides whether two expressions are the same. Their arguments stand in lists, so that no instance can
be derived. -/
def Expr.same : Expr → Expr → Bool
  | .name first, .name second => first == second
  | .text first, .text second => first == second
  | .int first, .int second => first == second
  | .member of key, .member other second => of.same other && key == second
  | .item of index, .item other second => of.same other && index.same second
  | .call function arguments, .call other second => function == other && sameAll arguments second
  | .filter on key arguments, .filter other second others =>
    on.same other && key == second && sameAll arguments others
  | _, _ => false

def Expr.sameAll : List Expr → List Expr → Bool
  | [], [] => true
  | expr :: rest, other :: others => expr.same other && sameAll rest others
  | _, _ => false

end

mutual

theorem Expr.same_iff (expr other : Expr) : expr.same other = true ↔ expr = other := by
  cases expr with
  | name | text | int => cases other <;> simp [Expr.same]
  | member of key => cases other <;> simp [Expr.same, of.same_iff]
  | item of index => cases other <;> simp [Expr.same, of.same_iff, index.same_iff]
  | call function arguments => cases other <;> simp [Expr.same, Expr.sameAll_iff arguments]
  | filter on key arguments =>
    cases other <;> simp [Expr.same, on.same_iff, Expr.sameAll_iff arguments, and_assoc]

theorem Expr.sameAll_iff (exprs others : List Expr) : Expr.sameAll exprs others = true ↔ exprs = others := by
  cases exprs with
  | nil => cases others <;> simp [Expr.sameAll]
  | cons expr rest => cases others <;> simp [Expr.sameAll, expr.same_iff, Expr.sameAll_iff rest]

end

instance : DecidableEq Expr :=
  fun expr other => decidable_of_iff _ (expr.same_iff other)

mutual

def Node.same : Node → Node → Bool
  | .text first, .text second => first == second
  | .print first, .print second => first == second
  | .loop binder items condition body rest, .loop other list test nodes others =>
    binder == other && items == list && condition == test && sameAll body nodes && sameAll rest others
  | .branch cases rest, .branch others nodes => sameCases cases others && sameAll rest nodes
  | _, _ => false

def Node.sameAll : List Node → List Node → Bool
  | [], [] => true
  | node :: rest, other :: others => node.same other && sameAll rest others
  | _, _ => false

def Node.sameCases : List (Expr × List Node) → List (Expr × List Node) → Bool
  | [], [] => true
  | (condition, nodes) :: rest, (test, body) :: others =>
    condition == test && sameAll nodes body && sameCases rest others
  | _, _ => false

end

mutual

theorem Node.same_iff (node other : Node) : node.same other = true ↔ node = other := by
  cases node with
  | text | print => cases other <;> simp [Node.same]
  | loop binder items condition body rest =>
    cases other <;> simp [Node.same, Node.sameAll_iff body, Node.sameAll_iff rest, and_assoc]
  | branch cases rest =>
    cases other <;> simp [Node.same, Node.sameCases_iff cases, Node.sameAll_iff rest]

theorem Node.sameAll_iff (nodes others : List Node) : Node.sameAll nodes others = true ↔ nodes = others := by
  cases nodes with
  | nil => cases others <;> simp [Node.sameAll]
  | cons node rest => cases others <;> simp [Node.sameAll, node.same_iff, Node.sameAll_iff rest]

theorem Node.sameCases_iff (cases others : List (Expr × List Node)) :
    Node.sameCases cases others = true ↔ cases = others := by
  match cases, others with
  | [], [] | [], _ :: _ | _ :: _, [] => simp [Node.sameCases]
  | (condition, nodes) :: rest, (test, body) :: others =>
    simp [Node.sameCases, Node.sameAll_iff nodes, Node.sameCases_iff rest]

end

instance : DecidableEq Node :=
  fun node other => decidable_of_iff _ (node.same_iff other)

end Equality

section Rendering

variable {scope : Scope}

theorem renderNodes_cons {node : Node} {nodes : List Node} {text more : String}
    (first : renderNode scope node = .ok text) (rest : renderNodes scope nodes = .ok more) :
    renderNodes scope (node :: nodes) = .ok (text ++ more) := by
  rw [renderNodes, first, rest]
  rfl

theorem renderNodes_append {front back : List Node} {text more : String}
    (first : renderNodes scope front = .ok text) (second : renderNodes scope back = .ok more) :
    renderNodes scope (front ++ back) = .ok (text ++ more) := by
  induction front generalizing text with
  | nil =>
    rw [renderNodes] at first
    cases first
    rw [List.nil_append, second, String.empty_append]
  | cons node front ih =>
    rw [renderNodes] at first
    cases shown : renderNode scope node with
    | error fault => simp [shown, bind, Except.bind] at first
    | ok start =>
      cases inner : renderNodes scope front with
      | error fault => simp [shown, inner, bind, Except.bind] at first
      | ok others =>
        simp only [shown, inner, bind, Except.bind, pure, Except.pure, Except.ok.injEq] at first
        rw [List.cons_append, renderNodes_cons shown (ih inner), ← first, String.append_assoc]

theorem renderNodes_texts {nodes : List Node} (texts : List String)
    (each : nodes.map (renderNode scope) = texts.map .ok) : renderNodes scope nodes = .ok (String.join texts) := by
  induction nodes generalizing texts with
  | nil =>
    cases List.map_eq_nil_iff.mp each.symm
    rw [renderNodes, String.join_nil]
  | cons node nodes ih =>
    obtain ⟨text, others, rfl, first, rest⟩ := List.map_eq_cons_iff.mp each.symm
    rw [renderNodes_cons first.symm (ih others rest.symm), String.join_cons]

theorem mapM_ok {α β γ : Type} {inject : α → β} {rule : α → γ} {run : β → Except EvalFault γ}
    (each : ∀ x, run (inject x) = .ok (rule x)) (items : List α) :
    (items.map inject).mapM run = .ok (items.map rule) := by
  have total : run ∘ inject = fun x => pure (rule x) := funext each
  rw [List.mapM_map, total, List.mapM_pure]
  rfl

/-- A loop whose body is rendered for every item, whatever the place of the item is. -/
theorem renderNode_loop {α : Type} {inject : α → Value} {rule : α → String} {binder : String} {list : Expr}
    {body otherwise : List Node} {items : List α} {other : String}
    (listed : eval scope list = .ok (.list (items.map inject)))
    (each : ∀ x index, renderNodes ((binder, inject x) :: ("loop", .loop index) :: scope) body = .ok (rule x))
    (none_left : renderNodes scope otherwise = .ok other) :
    renderNode scope (.loop binder list none body otherwise) =
      .ok (if items.isEmpty then other else String.join (items.map rule)) := by
  have firsts : items.zipIdx.map (fun x => rule x.1) = items.map rule := by
    rw [← Function.comp_def rule Prod.fst, ← List.map_map, List.zipIdx_map_fst]
  simp only [renderNode, listed, selected, Value.items, bind, Except.bind, pure, Except.pure, none_left]
  rw [List.zipIdx_map,
    @mapM_ok _ _ _ (Prod.map inject id) (fun x => rule x.1) _ (by exact fun x => each x.1 (x.2 + 1)), firsts]
  cases items <;> simp

theorem renderNode_loop_nil {α : Type} {inject : α → Value} {rule : α → String} {binder : String} {list : Expr}
    {body : List Node} {items : List α} (listed : eval scope list = .ok (.list (items.map inject)))
    (each : ∀ x index, renderNodes ((binder, inject x) :: ("loop", .loop index) :: scope) body = .ok (rule x)) :
    renderNode scope (.loop binder list none body []) = .ok (String.join (items.map rule)) := by
  rw [renderNode_loop listed each (by rw [renderNodes])]
  cases items <;> rfl

theorem renderNode_branch {condition : Expr} {nodes : List Node} {value : Value} {holds : Bool} {text : String}
    (found : eval scope condition = .ok value) (decided : value.holds = .ok holds)
    (shown : renderNodes scope nodes = .ok text) :
    renderNode scope (.branch [(condition, nodes)] []) = .ok (if holds then text else "") := by
  cases holds <;>
    simp [renderNode, renderCases, found, decided, shown, renderNodes, bind, Except.bind, pure, Except.pure]

end Rendering

end Template

namespace Sdl

open Template

section Nodes

/-- Nodes in braces; the first brace ends the head. -/
def bracedNodes (head : List Template.Node) (body : Template.Node) : List Template.Node :=
  head ++ [body, .text "\x7d\n"]

def fieldLoop (list : Template.Expr) (body : List Template.Node) : Template.Node :=
  .loop "field" list none body [.text placeholder]

def headerNodes : List Template.Node :=
  [.text "# Code generated by protoc-gen-graphql. DO NOT EDIT.\n# source: ",
   .print (.member (.name "schema") "source"), .text "\n# service: ",
   .print (.member (.name "schema") "service_name"), .text "\n"] ++
  [.branch [(.member (.name "schema") "comment",
    [.text "# ", .print (.member (.name "schema") "comment"), .text "\n"])] []]

def importedNames : Template.Expr :=
  .filter (.call "federation_imports" [.name "schema"]) "map" [.text "gql_string"]

def linkNodes : List Template.Node :=
  [.branch [(.call "federation_imports" [.name "schema"],
    [.text "\nextend schema @link(url: \"https://specs.apollo.dev/federation/v2.3\", import: [",
     .print (.filter importedNames "join" [.text ", "]), .text "])\n"])] []]

def rootFieldNodes : List Template.Node :=
  [.print (.call "description" [.member (.name "field") "comment", .text "  "]), .text "  ",
   .print (.member (.name "field") "name"), .print (.call "arguments" [.name "field"]), .text ": ",
   .print (.member (.name "field") "type"), .text "\n"]

def queryNodes : List Template.Node :=
  bracedNodes [.text "\ntype Query \x7b\n"]
    (fieldLoop (.member (.member (.name "schema") "root_query") "fields") rootFieldNodes)

def mutationNodes : List Template.Node :=
  [.branch [(.member (.name "schema") "has_mutations",
    bracedNodes [.text "\ntype Mutation \x7b\n"]
      (.loop "field" (.member (.member (.name "schema") "root_mutation") "fields") none rootFieldNodes []))] []]

def objectFieldNodes : List Template.Node :=
  [.print (.call "description" [.call "field_comment" [.name "field"], .text "  "]), .text "  ",
   .print (.member (.name "field") "name"), .text ": ", .print (.member (.name "field") "type"),
   .print (.call "field_directives" [.name "field"]), .text "\n"]

def objectNodes : List Template.Node :=
  bracedNodes
    [.text "\n", .print (.call "description" [.member (.name "type") "comment"]), .text "type ",
     .print (.member (.name "type") "name"), .print (.call "type_directives" [.name "type"]), .text " \x7b\n"]
    (fieldLoop (.member (.name "type") "fields") objectFieldNodes)

def inputFieldNodes : List Template.Node :=
  [.print (.call "description" [.member (.name "field") "comment", .text "  "]), .text "  ",
   .print (.member (.name "field") "name"), .text ": ", .print (.member (.name "field") "type"), .text "\n"]

def inputNodes : List Template.Node :=
  bracedNodes
    [.text "\n", .print (.call "description" [.member (.name "input") "comment"]), .text "input ",
     .print (.member (.name "input") "name"), .text " \x7b\n"]
    (fieldLoop (.member (.name "input") "fields") inputFieldNodes)

def optionNodes : List Template.Node :=
  [.text "  ", .print (.member (.name "option") "name"), .text " # ",
   .print (.member (.name "option") "comment"), .text "\n"]

def enumNodes : List Template.Node :=
  bracedNodes
    [.text "\n", .print (.call "description" [.member (.name "enum") "comment"]), .text "enum ",
     .print (.member (.name "enum") "name"), .text " \x7b\n"]
    (.loop "option" (.member (.name "enum") "options") none optionNodes [])

def definitionNodes : List Template.Node :=
  [.loop "type" (.member (.name "schema") "types") none objectNodes [],
   .loop "input" (.member (.name "schema") "inputs") none inputNodes [],
   .loop "enum" (.member (.name "schema") "enums") none enumNodes []]

/-- What the standard template is read as. Its parts are those of the document. -/
def templateNodes : List Template.Node :=
  headerNodes ++ linkNodes ++ queryNodes ++ mutationNodes ++ definitionNodes

theorem toList_template : template.toList = templateLines.flatMap fun line => line.toList ++ ['\n'] := by
  rw [template, String.toList_join, List.flatMap_map]
  exact List.flatMap_congr fun line _ => String.toList_append

theorem read_template : Template.read template = .ok templateNodes := by
  rw [Template.read, toList_template]
  simp only [templateLines, List.flatMap_cons, List.flatMap_nil, String.toList_append]
  repeat rw [String.toList_ofList]
  decide +kernel

end Nodes

section Parts

variable {scope : Scope}

theorem render_rootFieldNodes (scope : Scope) (field : Schema.Field) :
    renderNodes (("field", .field field) :: scope) rootFieldNodes = .ok (rootFieldLines field) := by
  rw [renderNodes_texts
    [description field.comment "  ", "  ", field.name, field.argumentList, ": ", field.type, "\n"] rfl]
  simp only [rootFieldLines, String.join_cons, String.join_nil, String.append_empty, String.append_assoc]
  rfl

theorem render_objectFieldNodes (scope : Scope) (field : Schema.Field) :
    renderNodes (("field", .field field) :: scope) objectFieldNodes = .ok (objectFieldLines field) := by
  rw [renderNodes_texts
    [description field.note "  ", "  ", field.name, ": ", field.type, field.directives, "\n"] rfl]
  simp only [objectFieldLines, String.join_cons, String.join_nil, String.append_empty, String.append_assoc]
  rfl

theorem render_inputFieldNodes (scope : Scope) (field : Schema.Field) :
    renderNodes (("field", .field field) :: scope) inputFieldNodes = .ok (inputFieldLines field) := by
  rw [renderNodes_texts [description field.comment "  ", "  ", field.name, ": ", field.type, "\n"] rfl]
  simp only [inputFieldLines, String.join_cons, String.join_nil, String.append_empty, String.append_assoc]
  rfl

theorem render_optionNodes (scope : Scope) (option : Schema.EnumOption) :
    renderNodes (("option", .option option) :: scope) optionNodes =
      .ok s!"  {option.name} # {option.comment}\n" := by
  rw [renderNodes_texts ["  ", option.name, " # ", option.comment, "\n"] rfl]
  simp only [String.join_cons, String.join_nil, String.append_empty, String.append_assoc]
  rfl

theorem render_fieldLoop {list : Template.Expr} {body : List Template.Node} {fields : List Schema.Field}
    {rule : Schema.Field → String} (listed : eval scope list = .ok (.list (fields.map .field)))
    (each : ∀ scope field, renderNodes (("field", .field field) :: scope) body = .ok (rule field)) :
    renderNode scope (fieldLoop list body) = .ok (fieldLines rule fields) :=
  renderNode_loop listed (fun field _ => each _ field) (renderNodes_texts [placeholder] rfl)

theorem render_bracedNodes {head : List Template.Node} {loop : Template.Node} {body : String}
    (front title : String) (first : renderNodes scope head = .ok (front ++ (title ++ " \x7b\n")))
    (inner : renderNode scope loop = .ok body) :
    renderNodes scope (bracedNodes head loop) = .ok (front ++ block title body) := by
  have last : renderNodes scope [.text "\x7d\n"] = .ok "\x7d\n" := renderNodes_texts ["\x7d\n"] rfl
  rw [bracedNodes, renderNodes_append first (renderNodes_cons inner last), block]
  simp only [String.append_assoc]

theorem render_objectNodes (scope : Scope) (type : Schema.ObjectType) :
    renderNodes (("type", .object type) :: scope) objectNodes = .ok (objectBlock type) := by
  refine render_bracedNodes ("\n" ++ description type.comment "") s!"type {type.name}{type.directives}" ?_
    (render_fieldLoop rfl render_objectFieldNodes)
  rw [renderNodes_texts ["\n", description type.comment "", "type ", type.name, type.directives, " \x7b\n"] rfl]
  simp only [String.join_cons, String.join_nil, String.append_empty, String.append_assoc]
  rfl

theorem render_inputNodes (scope : Scope) (type : Schema.InputType) :
    renderNodes (("input", .input type) :: scope) inputNodes = .ok (inputBlock type) := by
  refine render_bracedNodes ("\n" ++ description type.comment "") s!"input {type.name}" ?_
    (render_fieldLoop rfl render_inputFieldNodes)
  rw [renderNodes_texts ["\n", description type.comment "", "input ", type.name, " \x7b\n"] rfl]
  simp only [String.join_cons, String.join_nil, String.append_empty, String.append_assoc]
  rfl

theorem render_enumNodes (scope : Scope) (type : Schema.EnumType) :
    renderNodes (("enum", .enum type) :: scope) enumNodes = .ok (enumBlock type) := by
  refine render_bracedNodes ("\n" ++ description type.comment "") s!"enum {type.name}" ?_
    (renderNode_loop_nil rfl fun option _ => render_optionNodes _ option)
  rw [renderNodes_texts ["\n", description type.comment "", "enum ", type.name, " \x7b\n"] rfl]
  simp only [String.join_cons, String.join_nil, String.append_empty, String.append_assoc]
  rfl

end Parts

section Whole

variable (schema : Schema)

theorem render_headerNodes : renderNodes [("schema", .schema schema)] headerNodes = .ok (header schema) := by
  have shown : renderNodes [("schema", .schema schema)] headerNodes =
      .ok (String.join ["# Code generated by protoc-gen-graphql. DO NOT EDIT.\n# source: ", schema.source,
        "\n# service: ", schema.service, "\n"] ++
        ((if !schema.comment.isEmpty then String.join ["# ", schema.comment, "\n"] else "") ++ "")) :=
    renderNodes_append (renderNodes_texts _ rfl)
      (renderNodes_cons (renderNode_branch rfl rfl (renderNodes_texts _ rfl)) rfl)
  have top : "# Code generated by protoc-gen-graphql. DO NOT EDIT.\n# source: " =
      "# Code generated by protoc-gen-graphql. DO NOT EDIT.\n" ++ "# source: " := by simp only [String.reduceAppend]
  have next : "\n# service: " = "\n" ++ "# service: " := by simp only [String.reduceAppend]
  rw [shown, top, next]
  simp only [String.join_cons, String.join_nil, String.append_empty, String.append_assoc, -String.reduceAppend]
  unfold header
  cases schema.comment.isEmpty <;> simp only [String.append_assoc, -String.reduceAppend] <;> rfl

theorem eval_importedNames : eval [("schema", .schema schema)] importedNames =
    .ok (.list ((schema.federationImports.map quote).map .text)) := by
  have quoted : (schema.federationImports.map Template.Value.text).mapM
      (fun item => callHelper "gql_string" [item]) =
        .ok (schema.federationImports.map (Template.Value.text ∘ quote)) := mapM_ok (fun _ => by rfl) _
  have shown : eval [("schema", .schema schema)] importedNames = Template.Value.list <$>
      (schema.federationImports.map Template.Value.text).mapM (fun item => callHelper "gql_string" [item]) := rfl
  rw [shown, quoted, List.map_map]
  rfl

theorem render_importedNames :
    renderNode [("schema", .schema schema)] (.print (.filter importedNames "join" [.text ", "])) =
      .ok (", ".intercalate (schema.federationImports.map quote)) := by
  have printed : ((schema.federationImports.map quote).map Template.Value.text).mapM Template.Value.print =
      .ok ((schema.federationImports.map quote).map id) := mapM_ok (fun _ => by rfl) _
  simp only [renderNode, eval, evalAll, eval_importedNames, applyFilter, Template.Value.items, printed, bind,
    Except.bind, pure, Except.pure, List.map_id]
  rfl

theorem render_linkNodes : renderNodes [("schema", .schema schema)] linkNodes = .ok (link schema) := by
  rw [linkNodes, renderNodes_cons (renderNode_branch rfl rfl
    (renderNodes_cons rfl (renderNodes_cons (render_importedNames schema) (renderNodes_texts ["])\n"] rfl)))) rfl]
  simp only [link, List.isEmpty_map, String.join_cons, String.join_nil, String.append_empty, String.append_assoc]
  cases schema.federationImports.isEmpty <;> rfl

theorem render_queryNodes : renderNodes [("schema", .schema schema)] queryNodes =
    .ok ("\n" ++ block "type Query" (fieldLines rootFieldLines schema.query)) :=
  render_bracedNodes "\n" "type Query" rfl (render_fieldLoop rfl render_rootFieldNodes)

theorem render_mutationNodes : renderNodes [("schema", .schema schema)] mutationNodes =
    .ok (if schema.mutation.isEmpty then ""
      else "\n" ++ block "type Mutation" (String.join (schema.mutation.map rootFieldLines))) := by
  rw [mutationNodes, renderNodes_cons (renderNode_branch rfl rfl (render_bracedNodes "\n" "type Mutation" rfl
    (renderNode_loop_nil rfl fun field _ => render_rootFieldNodes _ field))) rfl, String.append_empty]
  cases schema.mutation.isEmpty <;> rfl

theorem render_definitionNodes : renderNodes [("schema", .schema schema)] definitionNodes =
    .ok (String.join (schema.types.map objectBlock) ++ (String.join (schema.inputs.map inputBlock) ++
      (String.join (schema.enums.map enumBlock) ++ ""))) :=
  renderNodes_cons (renderNode_loop_nil rfl fun type _ => render_objectNodes _ type)
    (renderNodes_cons (renderNode_loop_nil rfl fun type _ => render_inputNodes _ type)
      (renderNodes_cons (renderNode_loop_nil rfl fun type _ => render_enumNodes _ type) rfl))

/-- The standard template is rendered as the document in the standard layout. -/
theorem render_templateNodes : Template.render templateNodes schema = .ok (document schema) := by
  have start := renderNodes_append (render_headerNodes schema) (render_linkNodes schema)
  have roots := renderNodes_append (renderNodes_append start (render_queryNodes schema))
    (render_mutationNodes schema)
  rw [Template.render, templateNodes, renderNodes_append roots (render_definitionNodes schema)]
  simp only [document, String.append_empty, String.append_assoc]

end Whole

theorem template_plain : (template.toList.all fun c => decide (c.toNat < 0x80) && c != '\r') = true := by
  rw [toList_template]
  simp only [templateLines, List.flatMap_cons, List.flatMap_nil, String.toList_append]
  repeat rw [String.toList_ofList]
  decide +kernel

theorem readText_template {tree : FileTree} {path : Path} (copied : tree.read path = .ok (Utf8.encode template)) :
    tree.readText path = .ok template := by
  refine FileTree.readText_of_read copied fun c member => ?_
  simpa using List.all_eq_true.mp template_plain c member

end Sdl

theorem Layout.load_of_readText {tree : FileTree} {path source : String} {nodes : List Template.Node}
    (named : path ≠ "") (text : tree.readText (Path.ofString path) = .ok source)
    (read : Template.read source = .ok nodes) :
    (load tree (some path)).value = custom (Path.ofString path).name (Template.render nodes) := by
  have given : (some path).filter (!·.isEmpty) = some path := by simp [named]
  have found : Host.readSource tree (Path.ofString path) = .ok (.ok source) := by
    change Except.ok ((tree.readText (Path.ofString path)).mapError (·.message)) = _
    rw [text]
    rfl
  have understood : Host.readTemplate tree source = .ok (.ok (Template.render nodes)) := by
    change Except.ok ((Template.read source).map Template.render) = _
    rw [read]
    rfl
  simp only [load, loadOn, given, loadCustom, found, understood]
  rfl

theorem Layout.render_custom {name text : String} {rendering : Rendering} {schema : Schema}
    (shown : rendering schema = .ok text) : (custom name rendering).render schema = .ok text := by
  rw [render, shown]
  rfl

/-- A copy of the standard template lays every schema out in the standard way. -/
theorem Layout.render_of_copy {tree : FileTree} {path : String} (named : path ≠ "")
    (copied : tree.read (Path.ofString path) = .ok (Utf8.encode Sdl.template)) (schema : Schema) :
    (load tree (some path)).value.render schema = standard.render schema := by
  rw [load_of_readText named (Sdl.readText_template copied) Sdl.read_template,
    render_custom (Sdl.render_templateNodes schema), render]

namespace CommandLine

theorem read_runTemplate {tree : FileTree} {path : String} {force : Bool} (named : path ≠ "")
    (done : (runTemplate tree (.text path) force).exit = .ok 0) :
    (runTemplate tree (.text path) force).tree.read (Path.ofString path) = .ok (Utf8.encode Sdl.template) := by
  have given : (Setting.text path).text?.filter (!·.isEmpty) = some path := by simp [Setting.text?, named]
  unfold runTemplate at done ⊢
  generalize Utf8.encode Sdl.template = source at done ⊢
  simp only [given] at done ⊢
  split at done
  · cases done
  · rename_i fresh
    rw [if_neg fresh]
    cases written : tree.write (Path.ofString path) source with
    | error fault => simp [written] at done
    | ok after => exact FileTree.read_of_write written

/-- The template that the program writes lays every schema out in the standard way. -/
theorem render_of_runTemplate {tree : FileTree} {path : String} {force : Bool} (named : path ≠ "")
    (done : (runTemplate tree (.text path) force).exit = .ok 0) (schema : Schema) :
    (Layout.load (runTemplate tree (.text path) force).tree (some path)).value.render schema =
      Layout.standard.render schema :=
  Layout.render_of_copy named (read_runTemplate named done) schema

end CommandLine

end Subgraph
