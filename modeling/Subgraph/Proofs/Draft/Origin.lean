import Subgraph.Proofs.Closure
import Subgraph.Proofs.Draft.Agreement

namespace Subgraph.Build

open Descriptor

/-- The messages that the methods of a service start from on a side. -/
def Side.roots (side : Side) (pool : Pool) (methods : List (Option Method)) : List Message :=
  match side with
  | .output => outputs pool methods
  | .request => requests pool methods

namespace Call

variable {side : Side} {call : Call} {message : Message}

theorem met?_eq_some : call.met? side = some message ↔ call.sought = .message side message := by
  unfold met?
  cases call.sought with
  | enum _ => simp
  | message other held =>
    by_cases same : other = side
    · simp [same]
    · simp [same]

theorem walked?_eq_some :
    call.walked? side = some message ↔
      call.sought = .message side message ∧ (call.registers.on side).find? (side.key message) = none := by
  simp [walked?, met?_eq_some]

/-- A message that was walked is the first one of its name that was met: any earlier one would have
left the name registered. -/
theorem find?_met_of_walked {calls : List Call}
    (ordered : calls.Pairwise fun earlier later => earlier.Precedes later.registers)
    (member : message ∈ calls.filterMap (walked? side)) :
    (calls.filterMap (met? side)).find? (side.key · == side.key message) = some message := by
  induction ordered with
  | nil => simp at member
  | @cons head rest earlier _ ih =>
    obtain ⟨call, listed, walked⟩ := List.mem_filterMap.mp member
    obtain ⟨sought, fresh⟩ := walked?_eq_some.mp walked
    rcases List.mem_cons.mp listed with rfl | later
    · have met := met?_eq_some.mpr sought
      simp [met]
    · have found := ih (List.mem_filterMap.mpr ⟨call, later, walked⟩)
      cases met : head.met? side with
      | none => simpa [met] using found
      | some other =>
        have different : side.key other ≠ side.key message := by
          intro same
          obtain ⟨place, registered⟩ :=
            (earlier call later).registered side other (met?_eq_some.mp met)
          simp [same, fresh] at registered
        simpa [met, different] using found

end Call

/-- An enum type is made from the first enum that was met with its name. -/
theorem find?_of_mem_foldl_addEnum {start : List Schema.EnumType} {met : List Enum}
    {type : Schema.EnumType} (member : type ∈ met.foldl addEnum start) :
    type ∈ start ∨ type.name ∉ start.map (·.name) ∧
      ∃ enum, met.find? (Naming.typeName ·.name == type.name) = some enum ∧ type = enumType enum := by
  induction met generalizing start with
  | nil => exact .inl member
  | cons first rest ih =>
    rcases ih member with early | ⟨absent, enum, found, same⟩
    · by_cases old : type ∈ start
      · exact .inl old
      · unfold addEnum at early
        split at early
        · exact absurd early old
        · rename_i free
          obtain rfl : type = enumType first := by simpa [old] using early
          refine .inr ⟨?_, first, by simp, rfl⟩
          simpa using free
    · rw [mem_addEnum, not_or] at absent
      refine .inr ⟨absent.1, enum, ?_, same⟩
      simpa [absent.2] using found

namespace Draft

variable {side : Side} {pool : Pool} {limit : Nat} {roots : Side → List Message} {draft after : Draft}

/-- All definitions are the images of the messages walked and of the enums met, and these messages can
be reached from `roots`. -/
structure Accounted (pool : Pool) (roots : Side → List Message) (draft : Draft) : Prop where
  entries_eq : ∀ side, (draft.registers.on side).entries = (draft.walked side).map (side.image pool)
  enums_eq : draft.registers.enums.entries = draft.enumsMet.foldl Build.addEnum []
  reached : ∀ side, ∀ message ∈ draft.walked side, ReachableFrom pool.references (roots side) message
  enums_reached : ∀ enum ∈ draft.enumsMet, ∃ side message,
    ReachableFrom pool.references (roots side) message ∧
      ∃ field ∈ pool.keptFields message, fieldEnum? pool field = some enum

theorem accounted_empty (pool : Pool) (roots : Side → List Message) : Accounted pool roots {} := by
  refine ⟨fun side => ?_, rfl, by simp [walked], by simp [enumsMet]⟩
  cases side <;> rfl

theorem Accounted.resolve {message : Message} {place spot : Nat} (accounted : Accounted pool roots draft)
    (consistent : draft.registers.Consistent) (found : pool.messages[spot]? = some message)
    (member : message ∈ roots side)
    (done : resolve side pool limit draft message = some (after, place)) : Accounted pool roots after := by
  obtain ⟨entries, follows⟩ := resolve_covers consistent (knows_self side draft) found done
  generalize (draft.registers.on side).entries.map side.nameOf = seen at entries follows
  have inside : ∀ entered ∈ Walk.entered (Walk.visit pool side.key seen spot),
      ReachableFrom pool.references (roots side) entered := fun entered listed =>
    ((Walk.preorder_visit found).reachable listed).mono (by simpa using member)
  refine ⟨fun other => ?_, ?_, fun other => ?_, ?_⟩
  · rw [follows.walked_eq]
    by_cases same : other = side
    · subst same
      rw [entries, accounted.entries_eq, if_pos rfl, List.map_append]
    · rw [follows.others other same, accounted.entries_eq, if_neg same, List.append_nil]
  · rw [follows.enums_eq, follows.enumsMet_eq, accounted.enums_eq, List.foldl_append]
  · rw [follows.walked_eq, List.forall_mem_append]
    refine ⟨accounted.reached other, ?_⟩
    by_cases same : other = side
    · subst same
      rw [if_pos rfl]
      exact inside
    · simp [same]
  · rw [follows.enumsMet_eq, List.forall_mem_append]
    refine ⟨accounted.enums_reached, fun enum met => ?_⟩
    obtain ⟨owner, entered, refers⟩ := (mem_enumsMet found).mp met
    exact ⟨side, owner, inside owner entered, refers⟩

theorem Accounted.addRoot (accounted : Accounted pool roots draft) (operation : Operation)
    (field : Schema.Field) : Accounted pool roots (draft.addRoot operation field) := by
  obtain ⟨entries, enums, reached, enumsReached⟩ := accounted
  cases operation <;> exact ⟨entries, enums, reached, enumsReached⟩

/-- What a method looks up is among `roots`. -/
def Starts (pool : Pool) (roots : Side → List Message) (method? : Option Method) : Prop :=
  ∀ method spot output, method? = some method → output? pool method = some (spot, output) →
    output ∈ roots .output ∧
      ∀ spot request, request? pool method = some (spot, request) → request ∈ roots .request

theorem starts_of_mem {methods : List (Option Method)} {method? : Option Method}
    (member : method? ∈ methods) : Starts pool (·.roots pool methods) method? := by
  rintro method spot output rfl resolved
  have listed : (method, output) ∈ served pool methods := by
    simp only [served, List.mem_filterMap]
    exact ⟨some method, member, by simp [resolved]⟩
  exact ⟨mem_outputs_of_mem_served listed, fun _ _ taken => mem_requests_of_mem_served listed taken⟩

theorem Accounted.addMethod {limit : Side → Nat} {method? : Option Method}
    (accounted : Accounted pool roots draft) (consistent : draft.registers.Consistent)
    (starts : Starts pool roots method?) (done : addMethod pool limit draft method? = some after) :
    Accounted pool roots after := by
  rcases addMethod_cases done with
    ⟨_, rfl⟩ | ⟨method, ⟨spot, output⟩, found, place, type, taken, names, rfl, resolved, sought, _, given, rfl⟩
  · exact accounted
  · obtain ⟨first, second⟩ := starts method spot output rfl resolved
    have accounted' := accounted.resolve consistent (output?_found resolved) first sought
    refine Accounted.addRoot ?_ _ _
    rcases arguments_cases given with ⟨_, rfl, _⟩ | ⟨⟨spot', request⟩, place', input, asks, sought', _, _⟩
    · exact accounted'
    · exact accounted'.resolve ((resolve_advances sought).consistent consistent) (request?_found asks)
        (second spot' request asks) sought'

theorem accounted_run {limit : Side → Nat} {methods : List (Option Method)}
    (done : run pool limit methods = some draft) : Accounted pool (·.roots pool methods) draft := by
  have both : draft.registers.Consistent ∧ Accounted pool (·.roots pool methods) draft := by
    refine foldlM_invariant (fun reached : Draft =>
      reached.registers.Consistent ∧ Accounted pool (·.roots pool methods) reached) ?_
      ⟨Registers.consistent_empty, accounted_empty pool _⟩ done
    rintro method? member state next ⟨consistent, accounted⟩ stepped
    exact ⟨(addMethod_advances stepped).consistent consistent,
      accounted.addMethod consistent (starts_of_mem member) stepped⟩
  exact both.2

theorem Accounted.names_walked (accounted : Accounted pool roots draft) (side : Side) :
    (draft.registers.on side).entries.map side.nameOf = (draft.walked side).map side.key := by
  simp [accounted.entries_eq]

/-- A definition is the image of the first message that was met with its name. -/
theorem Accounted.first_met (accounted : Accounted pool roots draft) (sound : Sound draft) (side : Side)
    {entry : side.Entry} (member : entry ∈ (draft.registers.on side).entries) :
    ∃ message, (draft.met side).find? (side.key · == side.nameOf entry) = some message ∧
      ReachableFrom pool.references (roots side) message ∧ entry = side.image pool message := by
  rw [accounted.entries_eq] at member
  obtain ⟨message, walked, rfl⟩ := List.mem_map.mp member
  refine ⟨message, ?_, accounted.reached side message walked, rfl⟩
  rw [side.nameOf_image]
  exact Call.find?_met_of_walked sound.ordered walked

theorem Accounted.first_enum_met (accounted : Accounted pool roots draft) {type : Schema.EnumType}
    (member : type ∈ draft.registers.enums.entries) :
    ∃ enum, draft.enumsMet.find? (Naming.typeName ·.name == type.name) = some enum ∧
      (∃ side message, ReachableFrom pool.references (roots side) message ∧
        ∃ field ∈ pool.keptFields message, fieldEnum? pool field = some enum) ∧
      type = enumType enum := by
  rw [accounted.enums_eq] at member
  obtain ⟨_, enum, first, image⟩ := (find?_of_mem_foldl_addEnum member).resolve_left List.not_mem_nil
  exact ⟨enum, first, accounted.enums_reached enum (List.mem_of_find?_eq_some first), image⟩

end Draft

end Subgraph.Build
