import Subgraph.Proofs.Closure

namespace Subgraph.Build

open Descriptor

/-- The root field of a method takes one argument, the only input type of its name, and this has the
fields of the method's own request. -/
structure TakesOwn (pool : Pool) (schema : Schema) (method : Method) (field : Schema.Field) : Prop where
  name : field.name = Naming.lowerFirst method.name
  argument : ∀ place request, request? pool method = some (place, request) →
    ∃ input ∈ schema.inputs, field.arguments = [input.name] ∧
      (∀ other ∈ schema.inputs, other.name = input.name → other = input) ∧
      input.fields.map (·.name) = (pool.keptFields request).map (Naming.fieldName ·.name)

/-- All root fields, taken with their methods in order, have the arguments of their own requests. -/
def ArgumentsMatch (pool : Pool) (service : Service) : Prop :=
  ∀ kind, List.Forall₂ (fun entry field => TakesOwn pool (build pool service).value entry.1 field)
    ((served pool service.methods).filter fun entry => classify entry.1.name = kind)
    (rootFields (build pool service).value kind)

/-- No two methods with different requests share an argument. -/
def ArgumentsApart (pool : Pool) (service : Service) : Prop :=
  ∀ first ∈ served pool service.methods, ∀ second ∈ served pool service.methods,
    ∀ {place place' request request'}, request? pool first.1 = some (place, request) →
      request? pool second.1 = some (place', request') → request ≠ request' →
      (rootField pool first.1 first.2).arguments ≠ (rootField pool second.1 second.2).arguments

section Registered

variable {pool : Pool} {service : Service} {types inputs : List Message} {enums : List Enum}
  {schema : Schema}

theorem Registered.input_unique {outputs' requests' : List Message}
    (state : Registered pool outputs' requests' types inputs enums schema) {input other : Schema.InputType}
    (member : input ∈ schema.inputs) (member' : other ∈ schema.inputs) (same : other.name = input.name) :
    other = input := by
  have distinct : (schema.inputs.map (·.name)).Nodup := by
    rw [state.inputs_eq, names_inputTypes]
    exact state.inputOrder.nodup_keys
  exact List.inj_on_of_nodup_map distinct member' member same

/-- Where names tell requests apart, every request has an input type of its own. -/
theorem Registered.input_of_request
    (state : Registered pool (outputs pool service.methods) (requests pool service.methods) types inputs
      enums schema)
    (distinct : TellsApart pool inputName (requests pool service.methods)) {request : Message}
    (member : request ∈ requests pool service.methods) : inputType pool request ∈ schema.inputs := by
  rw [state.inputs_eq]
  exact List.mem_map_of_mem ((state.inputOrder.mem_iff_reachable distinct).mpr (.root member))

end Registered

theorem inputType_fieldNames (pool : Pool) (message : Message) :
    (inputType pool message).fields.map (·.name) =
      (pool.keptFields message).map (Naming.fieldName ·.name) := by
  simp [inputType, plainField]

theorem rootField_arguments {pool : Pool} {method : Method} {place : Nat} {request : Message}
    (taken : request? pool method = some (place, request)) (output : Message) :
    (rootField pool method output).arguments = [inputName request] := by
  simp [rootField, taken]

theorem argumentsMatch_iff {pool : Pool} {service : Service} :
    ArgumentsMatch pool service ↔ ∀ entry ∈ served pool service.methods,
      TakesOwn pool (build pool service).value entry.1 (rootField pool entry.1 entry.2) := by
  simp only [ArgumentsMatch, rootFields_build, roots, List.forall₂_map_right_iff, List.forall₂_same]
  constructor
  · intro takes entry listed
    exact takes (classify entry.1.name) entry (List.mem_filter.mpr ⟨listed, by simp⟩)
  · exact fun takes kind entry listed => takes entry (List.mem_of_mem_filter listed)

/-- If the names of input types tell the messages below requests apart, then every method takes the
fields of its own request. -/
theorem arguments_match_requests (pool : Pool) (service : Service)
    (distinct : TellsApart pool inputName (requests pool service.methods)) :
    ArgumentsMatch pool service ∧ ArgumentsApart pool service := by
  obtain ⟨types, inputs, enums, state⟩ := registered_build pool service
  refine ⟨argumentsMatch_iff.mpr fun entry listed => ⟨rfl, fun place request taken => ?_⟩, ?_⟩
  · have member := mem_requests_of_mem_served listed taken
    have registered := state.input_of_request distinct member
    exact ⟨inputType pool request, registered, rootField_arguments taken _,
      fun other member' => state.input_unique registered member', inputType_fieldNames pool request⟩
  · intro first listed second listed' place place' request request' taken taken' different shared
    rw [rootField_arguments taken, rootField_arguments taken', List.singleton_inj] at shared
    exact different (distinct (.root (mem_requests_of_mem_served listed taken))
      (.root (mem_requests_of_mem_served listed' taken')) shared)

theorem arguments_match_requests_shop :
    TellsApart shopPool inputName (requests shopPool shopService.methods) ∧
      ArgumentsMatch shopPool shopService ∧ ArgumentsApart shopPool shopService := by
  have distinct : TellsApart shopPool inputName (requests shopPool shopService.methods) :=
    tellsApart_of_nodup (fun _ => mem_messages_of_requests) (by decide +kernel)
  exact ⟨distinct, arguments_match_requests shopPool shopService distinct⟩

/-- Requests that come to one input type cannot both have it made from their own fields. -/
theorem not_argumentsMatch_of_shared {pool : Pool} {service : Service} {first second : Method × Message}
    {place place' : Nat} {request request' : Message} (listed : first ∈ served pool service.methods)
    (listed' : second ∈ served pool service.methods)
    (taken : request? pool first.1 = some (place, request))
    (taken' : request? pool second.1 = some (place', request'))
    (shared : inputName request = inputName request')
    (different : (pool.keptFields request).map (Naming.fieldName ·.name) ≠
      (pool.keptFields request').map (Naming.fieldName ·.name)) :
    ¬ArgumentsMatch pool service := by
  intro matched
  have takes := argumentsMatch_iff.mp matched
  obtain ⟨input, member, argument, unique, fields⟩ := (takes first listed).argument place request taken
  obtain ⟨input', member', argument', _, fields'⟩ :=
    (takes second listed').argument place' request' taken'
  rw [rootField_arguments taken, List.singleton_inj] at argument
  rw [rootField_arguments taken', List.singleton_inj] at argument'
  have same : input' = input := unique input' member' (by rw [← argument, ← argument', shared])
  exact different (by rw [← fields, ← fields', same])

/-- An order is placed as it is and looked up by a request that is called after it. -/
def orderPool : Pool where
  messages :=
    [{ name := "Order", fullName := "desk.Order", fields := [some { name := "total", kind := .int32 }] },
     { name := "OrderRequest", fullName := "desk.OrderRequest", fields := [some { name := "order_id" }] }]

def orderService : Service where
  name := "Desk"
  fullName := "desk.Desk"
  methods :=
    [some { name := "PlaceOrder", input := some 0, output := some 0 },
     some { name := "GetOrder", input := some 1, output := some 0 }]

/-- Object types tell an order and its request apart, and input types do not. -/
theorem arguments_shared_by_order_requests :
    TellsApart orderPool objectName (requests orderPool orderService.methods) ∧
      ¬ArgumentsMatch orderPool orderService := by
  have distinct : TellsApart orderPool objectName (requests orderPool orderService.methods) :=
    tellsApart_of_nodup (fun _ => mem_messages_of_requests) (by decide +kernel)
  have placed : ∃ entry ∈ served orderPool orderService.methods,
      request? orderPool entry.1 = orderPool.messages[0]?.map (0, ·) := by decide +kernel
  have sought : ∃ entry ∈ served orderPool orderService.methods,
      request? orderPool entry.1 = orderPool.messages[1]?.map (1, ·) := by decide +kernel
  obtain ⟨first, listed, taken⟩ := placed
  obtain ⟨second, listed', taken'⟩ := sought
  exact ⟨distinct, not_argumentsMatch_of_shared listed listed' taken taken' (by decide +kernel)
    (by decide +kernel)⟩

end Subgraph.Build
