import Subgraph.Proofs.Draft.Definitions

namespace Subgraph

/-- The lists of the first schema are the beginnings of those of the second, entry by entry. -/
structure Schema.Extends (before after : Schema) : Prop where
  types : before.types <+: after.types
  inputs : before.inputs <+: after.inputs
  enums : before.enums <+: after.enums
  query : before.query <+: after.query
  mutation : before.mutation <+: after.mutation

namespace Schema.Extends

theorem refl (schema : Schema) : schema.Extends schema :=
  ⟨List.prefix_refl _, List.prefix_refl _, List.prefix_refl _, List.prefix_refl _, List.prefix_refl _⟩

theorem trans {first second third : Schema} (early : first.Extends second) (late : second.Extends third) :
    first.Extends third where
  types := early.types.trans late.types
  inputs := early.inputs.trans late.inputs
  enums := early.enums.trans late.enums
  query := early.query.trans late.query
  mutation := early.mutation.trans late.mutation

end Schema.Extends

namespace Build

open Descriptor

section Methods

variable (pool : Pool) (schema : Schema)

theorem addOutput_extends (place : Nat) : schema.Extends (addOutput pool schema place).value := by
  refine { Schema.Extends.refl schema with types := List.prefix_append .., enums := ?_ }
  rw [addOutput, addEnums_eq]
  exact foldl_addEnum_extends ..

theorem addInput_extends (place : Nat) : schema.Extends (addInput pool schema place).value := by
  refine { Schema.Extends.refl schema with inputs := List.prefix_append .., enums := ?_ }
  rw [addInput, addEnums_eq]
  exact foldl_addEnum_extends ..

theorem addRootField_extends (operation : Operation) (field : Schema.Field) :
    schema.Extends (addRootField schema operation field) := by
  cases operation with
  | query => exact { Schema.Extends.refl schema with query := List.prefix_append .. }
  | mutation => exact { Schema.Extends.refl schema with mutation := List.prefix_append .. }

theorem addMethod_extends (method : Method) : schema.Extends (addMethod pool schema method).value := by
  cases resolved : output? pool method with
  | none =>
    rw [addMethod_value_unresolved resolved]
    exact .refl schema
  | some entry =>
    have walked := addOutput_extends pool schema entry.1
    rw [addMethod_value_resolved resolved]
    refine .trans ?_ (addRootField_extends ..)
    cases request? pool method with
    | none => exact walked
    | some taken => exact walked.trans (addInput_extends ..)

theorem addMethods_extends (service : String) (methods : List (Option Method)) :
    schema.Extends (addMethods pool service schema methods).value := by
  induction methods generalizing schema with
  | nil => exact .refl schema
  | cons method? rest ih =>
    cases method? with
    | none => exact ih schema
    | some method => exact (addMethod_extends pool schema method).trans (ih _)

theorem addMethods_append (service : String) (first second : List (Option Method)) :
    (addMethods pool service schema (first ++ second)).value =
      (addMethods pool service (addMethods pool service schema first).value second).value := by
  induction first generalizing schema with
  | nil => rfl
  | cons method? rest ih =>
    cases method? with
    | none => exact ih schema
    | some method => exact ih _

end Methods

namespace Registers.Extends

variable {base registers : Registers} {side : Side}

theorem refl (registers : Registers) : registers.Extends registers :=
  ⟨fun _ => List.prefix_refl _, List.prefix_refl _⟩

theorem add (intact : base.Extends registers) (name : String) (entry : side.Entry) :
    base.Extends (registers.modify side (·.add name entry)) := by
  refine ⟨fun other => ?_, by simpa using intact.enums⟩
  by_cases same : other = side
  · subst same
    rw [on_modify]
    exact (intact.entries other).trans (List.prefix_append ..)
  · rw [on_modify_of_ne same]
    exact intact.entries other

theorem addEnum (intact : base.Extends registers) (name : String) (entry : Schema.EnumType) :
    base.Extends { registers with enums := registers.enums.add name entry } := by
  refine ⟨fun other => ?_, intact.enums.trans (List.prefix_append ..)⟩
  cases other with
  | output => exact intact.entries .output
  | request => exact intact.entries .request

/-- A definition that came after those of `base` may be changed. -/
theorem change (intact : base.Extends registers) {place : Nat}
    (later : (base.on side).entries.length ≤ place) (update : side.Entry → side.Entry) :
    base.Extends (registers.modify side (·.change place update)) := by
  refine ⟨fun other => ?_, by simpa using intact.enums⟩
  by_cases same : other = side
  · subst same
    have start := List.prefix_iff_eq_take.mp (intact.entries other)
    rw [on_modify, Register.change, List.prefix_iff_eq_take, List.take_modify, ← start,
      List.modify_eq_self later]
  · rw [on_modify_of_ne same]
    exact intact.entries other

end Registers.Extends

namespace Draft

/-- From one draft to a later one the definitions of `base` are left as they were: they stand in the later
draft, and they stood whenever something was looked up in between. -/
structure LeavesAlone (base : Registers) (before after : Draft) : Prop where
  registers : base.Extends after.registers
  calls : ∃ later, after.calls = before.calls ++ later ∧ ∀ call ∈ later, base.Extends call.registers

variable {base : Registers} {side : Side} {pool : Pool} {limit : Nat} {draft before middle after : Draft}

namespace LeavesAlone

theorem refl (intact : base.Extends draft.registers) : LeavesAlone base draft draft :=
  ⟨intact, [], by simp, by simp⟩

theorem trans (early : LeavesAlone base before middle) (late : LeavesAlone base middle after) :
    LeavesAlone base before after := by
  obtain ⟨_, first, firstCalls, firstAlone⟩ := early
  obtain ⟨registers, second, secondCalls, secondAlone⟩ := late
  refine ⟨registers, first ++ second, by rw [secondCalls, firstCalls, List.append_assoc], ?_⟩
  exact List.forall_mem_append.mpr ⟨firstAlone, secondAlone⟩

theorem record (intact : base.Extends draft.registers) (sought : Sought) :
    LeavesAlone base draft (draft.record sought) :=
  ⟨intact, [⟨sought, draft.registers⟩], rfl, by simpa using intact⟩

theorem enter (intact : base.Extends draft.registers) (side : Side) (message : Message) :
    LeavesAlone base draft (draft.enter side message) :=
  { record intact (.message side message) with registers := intact.add .. }

theorem change (alone : LeavesAlone base before after) {place : Nat}
    (later : (base.on side).entries.length ≤ place) (update : side.Entry → side.Entry) :
    LeavesAlone base before (after.change side place update) :=
  { alone with registers := alone.registers.change later update }

theorem addRoot (alone : LeavesAlone base before after) (operation : Operation) (field : Schema.Field) :
    LeavesAlone base before (after.addRoot operation field) := by
  cases operation with
  | query => exact { alone with }
  | mutation => exact { alone with }

theorem resolveEnum (intact : base.Extends draft.registers) (enum : Enum) :
    LeavesAlone base draft (draft.resolveEnum enum).1 := by
  unfold Draft.resolveEnum
  split
  · exact record intact (.enum enum)
  · exact { record intact (.enum enum) with registers := intact.addEnum .. }

end LeavesAlone

section Seek

variable {seek : Draft → Message → Option (Draft × Nat)}
  (leaves : ∀ {draft message after place}, base.Extends draft.registers →
    seek draft message = some (after, place) → LeavesAlone base draft after)

include leaves

theorem fieldBase_leavesAlone {field : Field} {name : String} (intact : base.Extends draft.registers)
    (done : fieldBase side pool seek draft field = some (after, name)) : LeavesAlone base draft after := by
  unfold fieldBase at done
  split at done
  · obtain ⟨⟨found, place⟩, sought, done⟩ := Option.bind_eq_some_iff.mp done
    obtain ⟨entry, _, same⟩ := Option.bind_eq_some_iff.mp done
    cases same
    exact leaves intact sought
  · rename_i enum _ _
    obtain ⟨entry, _, same⟩ := Option.bind_eq_some_iff.mp done
    cases same
    exact .resolveEnum intact enum
  · cases done
    exact .refl intact

/-- Fields are added to a definition that came after those of `base`. -/
theorem addField_leavesAlone {place : Nat} (later : (base.on side).entries.length ≤ place)
    {state next : Draft × Option Schema.Field} {field? : Option Field}
    (intact : base.Extends state.1.registers)
    (done : addField side pool seek place state field? = some next) : LeavesAlone base state.1 next.1 := by
  cases field? with
  | none =>
    cases done
    exact .refl intact
  | some field =>
    cases kept : pool.unresolved field with
    | true =>
      rw [addField_unresolved kept] at done
      cases done
      exact .refl intact
    | false =>
      rw [addField_kept kept] at done
      obtain ⟨⟨found, name⟩, based, same⟩ := Option.bind_eq_some_iff.mp done
      cases same
      exact (fieldBase_leavesAlone leaves intact based).change later _

end Seek

theorem resolve_leavesAlone {message : Message} {place : Nat} (intact : base.Extends draft.registers)
    (done : resolve side pool limit draft message = some (after, place)) : LeavesAlone base draft after := by
  induction limit using Nat.strongRecOn generalizing draft message after place with
  | ind limit ih =>
    rcases resolve_cases done with ⟨_, rfl⟩ | ⟨less, filled, key?, rfl, _, walked, rfl, rfl⟩
    · exact .record intact _
    · have later : (base.on side).entries.length ≤ (draft.registers.on side).entries.length :=
        (intact.entries side).length_le
      have entered := LeavesAlone.enter intact side message
      have filledAlone : LeavesAlone base draft filled := by
        refine foldlM_invariant (fun reached : Draft × Option Schema.Field => LeavesAlone base draft reached.1)
          (fun _ _ reached next alone stepped => ?_) entered walked
        exact alone.trans
          (addField_leavesAlone (ih less (Nat.lt_succ_self less)) later alone.registers stepped)
      exact filledAlone.change later _

theorem arguments_leavesAlone {method : Method} {names : List String} (intact : base.Extends draft.registers)
    (done : arguments pool limit draft method = some (after, names)) : LeavesAlone base draft after := by
  rcases arguments_cases done with ⟨_, rfl, _⟩ | ⟨entry, place, input, _, sought, _, _⟩
  · exact .refl intact
  · exact resolve_leavesAlone intact sought

theorem addMethod_leavesAlone {limit : Side → Nat} {method? : Option Method}
    (intact : base.Extends draft.registers) (done : addMethod pool limit draft method? = some after) :
    LeavesAlone base draft after := by
  rcases addMethod_cases done with
    ⟨_, rfl⟩ | ⟨method, entry, found, place, type, taken, names, _, _, sought, _, given, rfl⟩
  · exact .refl intact
  · have first := resolve_leavesAlone intact sought
    exact (first.trans (arguments_leavesAlone first.registers given)).addRoot _ _

/-- Methods that are drafted later leave alone what is registered. -/
theorem foldlM_leavesAlone {limit : Side → Nat} {methods : List (Option Method)}
    (done : methods.foldlM (addMethod pool limit) draft = some after) :
    LeavesAlone draft.registers draft after :=
  foldlM_invariant (LeavesAlone draft.registers draft)
    (fun _ _ _ _ alone stepped => alone.trans (addMethod_leavesAlone alone.registers stepped))
    (.refl (.refl _)) done

end Draft

/-- More methods only extend a schema. Drafting goes on from where the first methods came to, and what they
registered is left alone by all that is looked up for the others, in whatever way these share messages
or names with the first. -/
theorem methods_extend (pool : Pool) (service : Service) (first second : List (Option Method)) :
    ∃ before after,
      Draft.run pool (fun _ => pool.messages.length) first = some before ∧
      Draft.run pool (fun _ => pool.messages.length) (first ++ second) = some after ∧
      before.schema service = (build pool { service with methods := first }).value ∧
      after.schema service = (build pool { service with methods := first ++ second }).value ∧
      Draft.LeavesAlone before.registers before after ∧
      (build pool { service with methods := first }).value.Extends
        (build pool { service with methods := first ++ second }).value := by
  obtain ⟨after, done⟩ := Draft.run_pool pool (first ++ second)
  have whole := done
  rw [Draft.run, List.foldlM_append] at done
  obtain ⟨before, early, late⟩ := Option.bind_eq_some_iff.mp done
  refine ⟨before, after, early, whole, Draft.schema_run early service, Draft.schema_run whole service,
    Draft.foldlM_leavesAlone late, ?_⟩
  have split : (build pool { service with methods := first ++ second }).value =
      (addMethods pool service.fullName (build pool { service with methods := first }).value second).value :=
    addMethods_append pool (emptySchema service) service.fullName first second
  rw [split]
  exact addMethods_extends ..

end Build

end Subgraph
