import Subgraph.Proofs.WalkOrder

namespace Subgraph

open Descriptor

namespace Logged

variable {α β : Type}

@[simp] theorem value_pure (value : α) : (pure value : Logged α).value = value := rfl

@[simp] theorem value_bind (first : Logged α) (next : α → Logged β) :
    (first >>= next).value = (next first.value).value := rfl

end Logged

namespace Build

/-- The methods that become root fields, each with its output message. -/
def served (pool : Pool) (methods : List (Option Method)) : List (Method × Message) :=
  methods.filterMap fun method? => do
    let method ← method?
    let (_, output) ← output? pool method
    return (method, output)

/-- The output messages of the methods that become root fields. -/
def outputs (pool : Pool) (methods : List (Option Method)) : List Message :=
  (served pool methods).map (·.2)

/-- The request messages with fields of the methods that become root fields. -/
def requests (pool : Pool) (methods : List (Option Method)) : List Message :=
  (served pool methods).filterMap fun (method, _) => (request? pool method).map (·.2)

/-- The root fields of one kind, in the order of their methods. -/
def roots (pool : Pool) (methods : List (Option Method)) (operation : Operation) : List Schema.Field :=
  ((served pool methods).filter fun (method, _) => classify method.name = operation).map
    fun (method, output) => rootField pool method output

@[simp] theorem objectType_name (pool : Pool) (message : Message) :
    (objectType pool message).name = objectName message := by
  unfold objectType
  split <;> rfl

@[simp] theorem objectType_fields (pool : Pool) (message : Message) :
    (objectType pool message).fields = (pool.keptFields message).map (outputField pool) := by
  unfold objectType
  split <;> rfl

@[simp] theorem objectType_comment (pool : Pool) (message : Message) :
    (objectType pool message).comment = Comment.clean message.comment := by
  unfold objectType
  split <;> rfl

@[simp] theorem inputType_name (pool : Pool) (message : Message) :
    (inputType pool message).name = inputName message := rfl

@[simp] theorem enumType_name (enum : Enum) : (enumType enum).name = Naming.typeName enum.name := rfl

@[simp] theorem names_objectTypes (pool : Pool) (messages : List Message) :
    (messages.map (objectType pool)).map (·.name) = messages.map objectName := by
  simp

@[simp] theorem names_inputTypes (pool : Pool) (messages : List Message) :
    (messages.map (inputType pool)).map (·.name) = messages.map inputName := by
  simp

theorem mem_addEnum {enums : List Schema.EnumType} {enum : Enum} {name : String} :
    name ∈ (addEnum enums enum).map (·.name) ↔
      name ∈ enums.map (·.name) ∨ Naming.typeName enum.name = name := by
  unfold addEnum
  split
  · rename_i taken
    obtain ⟨holder, member, same⟩ := List.any_eq_true.mp taken
    have held : Naming.typeName enum.name ∈ enums.map (·.name) :=
      List.mem_map.mpr ⟨holder, member, by simpa using same⟩
    exact ⟨.inl, fun known => known.elim id (· ▸ held)⟩
  · simp [eq_comm]

theorem mem_foldl_addEnum {enums : List Schema.EnumType} {met : List Enum} {name : String} :
    name ∈ (met.foldl addEnum enums).map (·.name) ↔
      name ∈ enums.map (·.name) ∨ ∃ enum ∈ met, Naming.typeName enum.name = name := by
  induction met generalizing enums with
  | nil => simp
  | cons first rest ih =>
    rw [List.foldl_cons, ih, mem_addEnum]
    simp only [List.mem_cons, exists_eq_or_imp, or_assoc]

/-- Every enum type is made from one of the enums met. -/
theorem foldl_addEnum_origin {enums : List Schema.EnumType} {met : List Enum} {type : Schema.EnumType}
    (member : type ∈ met.foldl addEnum enums) : type ∈ enums ∨ ∃ enum ∈ met, type = enumType enum := by
  induction met generalizing enums with
  | nil => exact .inl member
  | cons first rest ih =>
    rcases ih member with early | ⟨enum, later, same⟩
    · unfold addEnum at early
      split at early
      · exact .inl early
      · rcases List.mem_append.mp early with old | new
        · exact .inl old
        · exact .inr ⟨first, List.mem_cons_self, List.mem_singleton.mp new⟩
    · exact .inr ⟨enum, List.mem_cons_of_mem _ later, same⟩

/-- A shown field of one of the messages refers to the enum. -/
def EnumOf (pool : Pool) (messages : List Message) (enum : Enum) : Prop :=
  ∃ message ∈ messages, ∃ field ∈ pool.keptFields message, fieldEnum? pool field = some enum

theorem enumOf_append {pool : Pool} {first second : List Message} {enum : Enum} :
    EnumOf pool (first ++ second) enum ↔ EnumOf pool first enum ∨ EnumOf pool second enum := by
  simp only [EnumOf, List.mem_append, or_and_right, exists_or]

theorem EnumOf.mono {pool : Pool} {first second : List Message} {enum : Enum}
    (subset : first ⊆ second) (refers : EnumOf pool first enum) : EnumOf pool second enum := by
  obtain ⟨message, member, found⟩ := refers
  exact ⟨message, subset member, found⟩

/-- The enums of the fields that a walk shows, in their order. -/
def enumsMet (pool : Pool) (steps : List Step) : List Enum :=
  (Walk.shown steps).filterMap (fieldEnum? pool)

theorem addEnums_eq (pool : Pool) (enums : List Schema.EnumType) (steps : List Step) :
    addEnums pool enums steps = (enumsMet pool steps).foldl addEnum enums := by
  rw [addEnums, enumsMet, Walk.shown, List.filterMap_filterMap]

theorem mem_enumsMet {pool : Pool} {key : Message → String} {seen : List String} {place : Nat}
    {message : Message} (found : pool.messages[place]? = some message) {enum : Enum} :
    enum ∈ enumsMet pool (Walk.visit pool key seen place) ↔
      EnumOf pool (Walk.entered (Walk.visit pool key seen place)) enum := by
  simp only [enumsMet, List.mem_filterMap, Walk.mem_shown_visit found, EnumOf]
  constructor
  · rintro ⟨field, ⟨owner, member, shown⟩, refers⟩
    exact ⟨owner, member, field, shown, refers⟩
  · rintro ⟨owner, member, field, shown, refers⟩
    exact ⟨field, ⟨owner, member, shown⟩, refers⟩

/-- What the definitions of a schema have been made from: object types from the messages `types`, met
in depth-first order from `outputs`, input types from `inputs`, met in the same way from `requests`,
and enum types from `enums`, those that the fields of these messages refer to. -/
structure Registered (pool : Pool) (outputs requests types inputs : List Message) (enums : List Enum)
    (schema : Schema) : Prop where
  typeOrder : Preorder pool.references objectName [] outputs types
  inputOrder : Preorder pool.references inputName [] requests inputs
  types_eq : schema.types = types.map (objectType pool)
  inputs_eq : schema.inputs = inputs.map (inputType pool)
  enums_eq : schema.enums = enums.foldl addEnum []
  enums_iff : ∀ enum, enum ∈ enums ↔ EnumOf pool (types ++ inputs) enum

variable {pool : Pool} {outputs' requests' types inputs : List Message} {enums : List Enum}
  {schema : Schema}

theorem Registered.enumName_mem
    (state : Registered pool outputs' requests' types inputs enums schema) {name : String} :
    name ∈ schema.enums.map (·.name) ↔
      ∃ enum, EnumOf pool (types ++ inputs) enum ∧ Naming.typeName enum.name = name := by
  rw [state.enums_eq, mem_foldl_addEnum]
  simp only [List.map_nil, List.not_mem_nil, false_or, state.enums_iff]

theorem Registered.enum_origin
    (state : Registered pool outputs' requests' types inputs enums schema) {type : Schema.EnumType}
    (member : type ∈ schema.enums) :
    ∃ enum, EnumOf pool (types ++ inputs) enum ∧ type = enumType enum := by
  rw [state.enums_eq] at member
  obtain ⟨enum, met, same⟩ := (foldl_addEnum_origin member).resolve_left List.not_mem_nil
  exact ⟨enum, (state.enums_iff enum).mp met, same⟩

theorem preorder_extend {key : Message → String} {pending order : List Message} {place : Nat}
    {message : Message} (walk : Preorder pool.references key [] pending order)
    (found : pool.messages[place]? = some message) :
    Preorder pool.references key [] (pending ++ [message])
      (order ++ Walk.entered (Walk.visit pool key (order.map key) place)) :=
  walk.append ((Walk.preorder_visit found).congr_visited (by simp))

theorem Registered.addOutput (state : Registered pool outputs' requests' types inputs enums schema)
    {place : Nat} {output : Message} (found : pool.messages[place]? = some output) :
    ∃ more moreEnums, Registered pool (outputs' ++ [output]) requests' (types ++ more) inputs
      (enums ++ moreEnums) (addOutput pool schema place).value := by
  refine ⟨_, enumsMet pool (Walk.visit pool objectName (types.map objectName) place),
    ⟨preorder_extend state.typeOrder found, state.inputOrder, ?_, state.inputs_eq, ?_, fun enum => ?_⟩⟩
  · simp only [Build.addOutput, state.types_eq, names_objectTypes, List.map_append]
  · simp only [Build.addOutput, addEnums_eq, state.types_eq, names_objectTypes, state.enums_eq,
      List.foldl_append]
  · simp only [List.mem_append, state.enums_iff, mem_enumsMet found, enumOf_append, or_right_comm]

theorem Registered.addInput (state : Registered pool outputs' requests' types inputs enums schema)
    {place : Nat} {request : Message} (found : pool.messages[place]? = some request) :
    ∃ more moreEnums, Registered pool outputs' (requests' ++ [request]) types (inputs ++ more)
      (enums ++ moreEnums) (addInput pool schema place).value := by
  refine ⟨_, enumsMet pool (Walk.visit pool inputName (inputs.map inputName) place),
    ⟨state.typeOrder, preorder_extend state.inputOrder found, state.types_eq, ?_, ?_, fun enum => ?_⟩⟩
  · simp only [Build.addInput, state.inputs_eq, names_inputTypes, List.map_append]
  · simp only [Build.addInput, addEnums_eq, state.inputs_eq, names_inputTypes, state.enums_eq,
      List.foldl_append]
  · simp only [List.mem_append, state.enums_iff, mem_enumsMet found, enumOf_append, or_assoc]

theorem Registered.addRootField (state : Registered pool outputs' requests' types inputs enums schema)
    (operation : Operation) (field : Schema.Field) :
    Registered pool outputs' requests' types inputs enums (addRootField schema operation field) := by
  obtain ⟨typeOrder, inputOrder, types_eq, inputs_eq, enums_eq, enums_iff⟩ := state
  cases operation <;> exact ⟨typeOrder, inputOrder, types_eq, inputs_eq, enums_eq, enums_iff⟩

theorem output?_found {method : Method} {place : Nat} {output : Message}
    (resolved : output? pool method = some (place, output)) : pool.messages[place]? = some output := by
  simp only [output?, bind, Option.bind_eq_some_iff] at resolved
  obtain ⟨at', _, message, found, same⟩ := resolved
  cases same
  exact found

theorem request?_found {method : Method} {place : Nat} {request : Message}
    (taken : request? pool method = some (place, request)) :
    pool.messages[place]? = some request := by
  simp only [request?, bind, Option.bind_eq_some_iff] at taken
  obtain ⟨at', _, message, found, same⟩ := taken
  split at same
  · cases same
  · cases same
    exact found

@[simp] theorem served_none (methods : List (Option Method)) :
    served pool (none :: methods) = served pool methods := rfl

theorem served_unresolved {method : Method} (missing : output? pool method = none)
    (methods : List (Option Method)) : served pool (some method :: methods) = served pool methods := by
  simp [served, missing]

theorem served_resolved {method : Method} {place : Nat} {output : Message}
    (resolved : output? pool method = some (place, output)) (methods : List (Option Method)) :
    served pool (some method :: methods) = (method, output) :: served pool methods := by
  simp [served, resolved]

/-- What one method adds: a walk from its output, a walk from the request that it takes, and a root
field. -/
theorem addMethod_value_resolved {method : Method} {place : Nat} {output : Message}
    (resolved : output? pool method = some (place, output)) (schema : Schema) :
    (addMethod pool schema method).value =
      Build.addRootField
        (match request? pool method with
          | some (place', _) => (Build.addInput pool (Build.addOutput pool schema place).value place').value
          | none => (Build.addOutput pool schema place).value)
        (classify method.name) (rootField pool method output) := by
  simp only [addMethod, resolved, Logged.value_bind]
  cases request? pool method <;> rfl

theorem addMethod_value_unresolved {method : Method} (missing : output? pool method = none)
    (schema : Schema) : (addMethod pool schema method).value = schema := by
  simp [addMethod, missing]

/-- Every method keeps account of the messages and enums that it registers. -/
theorem Registered.addMethods (state : Registered pool outputs' requests' types inputs enums schema)
    (service : String) (methods : List (Option Method)) :
    ∃ moreTypes moreInputs moreEnums, Registered pool (outputs' ++ outputs pool methods)
      (requests' ++ requests pool methods) (types ++ moreTypes) (inputs ++ moreInputs)
      (enums ++ moreEnums) (addMethods pool service schema methods).value := by
  induction methods generalizing schema outputs' requests' types inputs enums with
  | nil => exact ⟨[], [], [], by simpa [outputs, requests, served, Build.addMethods] using state⟩
  | cons method? rest ih =>
    cases method? with
    | none => exact ih state
    | some method =>
      simp only [Build.addMethods, Logged.value_bind]
      cases resolved : output? pool method with
      | none =>
        simp only [addMethod_value_unresolved resolved, outputs, requests, served_unresolved resolved]
        exact ih state
      | some entry =>
        obtain ⟨place, output⟩ := entry
        obtain ⟨newTypes, outputEnums, walked⟩ := state.addOutput (output?_found resolved)
        rw [addMethod_value_resolved resolved]
        cases taken : request? pool method with
        | none =>
          obtain ⟨moreTypes, moreInputs, moreEnums, final⟩ :=
            ih (walked.addRootField (classify method.name) (rootField pool method output))
          refine ⟨newTypes ++ moreTypes, moreInputs, outputEnums ++ moreEnums, ?_⟩
          simpa [outputs, requests, served_resolved resolved, taken] using final
        | some entry =>
          obtain ⟨place', request⟩ := entry
          obtain ⟨newInputs, inputEnums, walked⟩ := walked.addInput (request?_found taken)
          obtain ⟨moreTypes, moreInputs, moreEnums, final⟩ :=
            ih (walked.addRootField (classify method.name) (rootField pool method output))
          refine ⟨newTypes ++ moreTypes, newInputs ++ moreInputs, outputEnums ++ inputEnums ++ moreEnums, ?_⟩
          simpa [outputs, requests, served_resolved resolved, taken] using final

/-- The schema of a service is made from the messages of two depth-first walks. -/
theorem registered_build (pool : Pool) (service : Service) :
    ∃ types inputs enums, Registered pool (outputs pool service.methods)
      (requests pool service.methods) types inputs enums (build pool service).value := by
  have start : Registered pool [] [] [] [] [] (emptySchema service) :=
    ⟨.done, .done, rfl, rfl, rfl, fun enum => by simp [EnumOf]⟩
  obtain ⟨types, inputs, enums, final⟩ := start.addMethods service.fullName service.methods
  exact ⟨types, inputs, enums, final⟩

/-- The root fields of one kind. -/
def rootFields (schema : Schema) : Operation → List Schema.Field
  | .query => schema.query
  | .mutation => schema.mutation

theorem rootFields_addRootField (schema : Schema) (operation kind : Operation) (field : Schema.Field) :
    rootFields (addRootField schema operation field) kind =
      rootFields schema kind ++ if operation = kind then [field] else [] := by
  cases operation <;> cases kind <;> simp [rootFields, addRootField]

theorem rootFields_addMethod {method : Method} {place : Nat} {output : Message}
    (resolved : output? pool method = some (place, output)) (schema : Schema) (kind : Operation) :
    rootFields (addMethod pool schema method).value kind =
      rootFields schema kind ++
        if classify method.name = kind then [rootField pool method output] else [] := by
  rw [addMethod_value_resolved resolved, rootFields_addRootField]
  cases request? pool method <;> cases kind <;> rfl

theorem rootFields_addMethods (pool : Pool) (service : String) (schema : Schema)
    (methods : List (Option Method)) (kind : Operation) :
    rootFields (addMethods pool service schema methods).value kind =
      rootFields schema kind ++ roots pool methods kind := by
  induction methods generalizing schema with
  | nil => simp [addMethods, roots, served]
  | cons method? rest ih =>
    cases method? with
    | none => exact ih schema
    | some method =>
      simp only [addMethods, Logged.value_bind, ih]
      cases resolved : output? pool method with
      | none => simp only [addMethod_value_unresolved resolved, roots, served_unresolved resolved]
      | some entry =>
        obtain ⟨place, output⟩ := entry
        rw [rootFields_addMethod resolved, List.append_assoc]
        simp only [roots, served_resolved resolved, List.filter_cons, decide_eq_true_eq]
        split <;> rfl

/-- Methods become root fields in their order, each of them once. -/
theorem rootFields_build (pool : Pool) (service : Service) (kind : Operation) :
    rootFields (build pool service).value kind = roots pool service.methods kind := by
  have fields := rootFields_addMethods pool service.fullName (emptySchema service)
    service.methods kind
  have empty : rootFields (emptySchema service) kind = [] := by cases kind <;> rfl
  rwa [empty, List.nil_append] at fields

/-- Messages that can be reached from `roots` never share a name. -/
def TellsApart (pool : Pool) (name : Message → String) (roots : List Message) : Prop :=
  Set.InjOn name {message | ReachableFrom pool.references roots message}

theorem mem_messages_of_references {pool : Pool} {message held : Message}
    (edge : held ∈ pool.references message) : held ∈ pool.messages := by
  obtain ⟨field?, _, holds⟩ := List.mem_filterMap.mp edge
  obtain ⟨field, _, holds⟩ := Option.bind_eq_some_iff.mp holds
  simp only [Pool.referred?, Pool.message?, Option.ite_none_right_eq_some] at holds
  obtain ⟨place, _, found⟩ := Option.bind_eq_some_iff.mp holds.2
  exact List.mem_of_getElem? found

theorem mem_messages_of_reachable {roots : List Message} (known : ∀ root ∈ roots, root ∈ pool.messages)
    {message : Message} (reached : ReachableFrom pool.references roots message) :
    message ∈ pool.messages :=
  reached.within {message | message ∈ pool.messages}
    (fun _ _ _ edge => mem_messages_of_references edge) known

theorem mem_messages_of_outputs {methods : List (Option Method)} {output : Message}
    (member : output ∈ outputs pool methods) : output ∈ pool.messages := by
  simp only [outputs, served, List.mem_map, List.mem_filterMap, bind, Option.bind_eq_some_iff] at member
  obtain ⟨_, ⟨_, _, method, _, ⟨place, message⟩, resolved, same⟩, rfl⟩ := member
  cases same
  exact List.mem_of_getElem? (output?_found resolved)

theorem mem_messages_of_requests {methods : List (Option Method)} {request : Message}
    (member : request ∈ requests pool methods) : request ∈ pool.messages := by
  simp only [requests, List.mem_filterMap, Option.map_eq_some_iff] at member
  obtain ⟨_, _, ⟨place, message⟩, taken, rfl⟩ := member
  exact List.mem_of_getElem? (request?_found taken)

/-- Names that tell all messages of a pool apart tell those apart that can be reached. -/
theorem tellsApart_of_nodup {name : Message → String} {roots : List Message}
    (known : ∀ root ∈ roots, root ∈ pool.messages) (distinct : (pool.messages.map name).Nodup) :
    TellsApart pool name roots := by
  intro first reachedFirst second reachedSecond same
  exact List.inj_on_of_nodup_map distinct (mem_messages_of_reachable known reachedFirst)
    (mem_messages_of_reachable known reachedSecond) same

/-- The names are those of all messages that can be reached from `roots`, each listed once, in the
order in which a depth-first walk that tells messages apart by themselves first comes to them. -/
def ListsReachable (pool : Pool) (name : Message → String) (roots : List Message)
    (names : List String) : Prop :=
  ∃ order, Preorder pool.references id [] roots order ∧
    (∀ message, message ∈ order ↔ ReachableFrom pool.references roots message) ∧
    names = order.map name ∧ names.Nodup

theorem listsReachable_of_preorder {name : Message → String} {roots order : List Message}
    (distinct : TellsApart pool name roots) (walk : Preorder pool.references name [] roots order) :
    ListsReachable pool name roots (order.map name) :=
  ⟨order, walk.forget_key distinct, fun _ => walk.mem_iff_reachable distinct, rfl, walk.nodup_keys⟩

theorem fieldEnum?_eq_some {field : Field} {enum : Enum} :
    fieldEnum? pool field = some enum ↔ field.kind = .enum ∧ pool.enum? field.enum = some enum := by
  simp only [fieldEnum?, Option.ite_none_right_eq_some]

/-- A field that refers to an enum is always shown. -/
theorem enumOf_iff {messages : List Message} {enum : Enum} :
    EnumOf pool messages enum ↔ ∃ message ∈ messages, ∃ field, some field ∈ message.fields ∧
      field.kind = .enum ∧ pool.enum? field.enum = some enum := by
  simp only [EnumOf, fieldEnum?_eq_some, Pool.mem_keptFields]
  constructor
  · rintro ⟨message, member, field, ⟨declared, _⟩, kind, found⟩
    exact ⟨message, member, field, declared, kind, found⟩
  · rintro ⟨message, member, field, declared, kind, found⟩
    have kept : pool.unresolved field = false := by simp [Pool.unresolved, kind, Kind.isComposite]
    exact ⟨message, member, field, ⟨declared, kept⟩, kind, found⟩

/-- A schema holds exactly what its service can reach. Where names tell the messages apart, its
object types and its input types stand for the messages reachable from outputs and from requests,
in depth-first order; its enum types, in any case, for the enums of the messages registered. -/
theorem registration_exact (pool : Pool) (service : Service) :
    (TellsApart pool objectName (outputs pool service.methods) →
      ListsReachable pool objectName (outputs pool service.methods)
        ((build pool service).value.types.map (·.name))) ∧
    (TellsApart pool inputName (requests pool service.methods) →
      ListsReachable pool inputName (requests pool service.methods)
        ((build pool service).value.inputs.map (·.name))) ∧
    ∃ types inputs,
      Preorder pool.references objectName [] (outputs pool service.methods) types ∧
      (build pool service).value.types = types.map (objectType pool) ∧
      Preorder pool.references inputName [] (requests pool service.methods) inputs ∧
      (build pool service).value.inputs = inputs.map (inputType pool) ∧
      ∀ name, name ∈ (build pool service).value.enums.map (·.name) ↔
        ∃ enum, (∃ message ∈ types ++ inputs, ∃ field, some field ∈ message.fields ∧
          field.kind = .enum ∧ pool.enum? field.enum = some enum) ∧
          Naming.typeName enum.name = name := by
  obtain ⟨types, inputs, enums, state⟩ := registered_build pool service
  refine ⟨fun distinct => ?_, fun distinct => ?_, types, inputs, state.typeOrder, state.types_eq,
    state.inputOrder, state.inputs_eq, fun name => ?_⟩
  · rw [state.types_eq, names_objectTypes]
    exact listsReachable_of_preorder distinct state.typeOrder
  · rw [state.inputs_eq, names_inputTypes]
    exact listsReachable_of_preorder distinct state.inputOrder
  · simp only [state.enumName_mem, enumOf_iff]

/-- Orders and customers hold each other; a field without a message and a missing field stand in
between. -/
def shopPool : Pool where
  messages :=
    [{ name := "order", fullName := "shop.order"
       fields :=
        [some { name := "order_id" }, none, some { name := "lost", kind := .message, message := some 7 },
         some { name := "buyer", kind := .message, message := some 1 },
         some { name := "state", kind := .enum, enum := some 0 }] },
     { name := "Customer", fullName := "shop.Customer"
       fields := [some { name := "orders", kind := .message, repeated := true, message := some 0 }] },
     { name := "GetOrderRequest", fullName := "shop.GetOrderRequest"
       fields := [some { name := "like", kind := .group, message := some 0 }] }]
  enums := [{ name := "state", fullName := "shop.state", values := [{ name := "OPEN", number := 0 }] }]

def shopService : Service where
  name := "Shop"
  fullName := "shop.Shop"
  methods :=
    [none, some { name := "GetOrder", input := some 2, output := some 0 },
     some { name := "Drop", output := some 9 }, some { name := "Move", input := some 0, output := some 1 }]

theorem registration_exact_shop :
    TellsApart shopPool objectName (outputs shopPool shopService.methods) ∧
    TellsApart shopPool inputName (requests shopPool shopService.methods) ∧
    ListsReachable shopPool objectName (outputs shopPool shopService.methods)
      ((build shopPool shopService).value.types.map (·.name)) ∧
    ListsReachable shopPool inputName (requests shopPool shopService.methods)
      ((build shopPool shopService).value.inputs.map (·.name)) := by
  have types : TellsApart shopPool objectName (outputs shopPool shopService.methods) :=
    tellsApart_of_nodup (fun _ => mem_messages_of_outputs) (by decide +kernel)
  have inputs : TellsApart shopPool inputName (requests shopPool shopService.methods) :=
    tellsApart_of_nodup (fun _ => mem_messages_of_requests) (by decide +kernel)
  have exact' := registration_exact shopPool shopService
  exact ⟨types, inputs, exact'.1 types, exact'.2.1 inputs⟩

end Build

end Subgraph
