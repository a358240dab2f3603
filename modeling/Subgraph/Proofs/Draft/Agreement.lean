import Subgraph.Proofs.Draft.History
import Subgraph.Proofs.Entities

namespace Subgraph.Build

open Descriptor

theorem baseType_of_referred {pool : Pool} {field : Field} {held : Message}
    (holds : pool.referred? field = some held) (reference : Message → String) :
    baseType pool reference field = reference held := by
  simp only [Pool.referred?, Option.ite_none_right_eq_some] at holds
  simp [baseType, holds.1, holds.2]

theorem baseType_of_enum {pool : Pool} {field : Field} {enum : Enum}
    (refers : fieldEnum? pool field = some enum) (reference : Message → String) :
    baseType pool reference field = Naming.typeName enum.name := by
  obtain ⟨kind, found⟩ := fieldEnum?_eq_some.mp refers
  simp [baseType, kind, found, Kind.isComposite]

theorem baseType_of_neither {pool : Pool} {field : Field} (none_held : pool.referred? field = none)
    (no_enum : fieldEnum? pool field = none) (reference : Message → String) :
    baseType pool reference field = field.kind.scalarFor (some field.name) := by
  unfold baseType
  split
  · rename_i held composite found
    simp [Pool.referred?, composite, found] at none_held
  · split
    · rename_i enum kind found
      simp [fieldEnum?, kind, found] at no_enum
    · rfl

namespace Side

/-- The finished definition of a message. -/
def image (pool : Pool) : (side : Side) → Message → side.Entry
  | output => objectType pool
  | request => inputType pool

/-- The finished field. -/
def shownField (side : Side) (pool : Pool) (field : Field) : Schema.Field :=
  side.fieldOf (baseType pool side.key field) field

@[simp] theorem nameOf_image (side : Side) (pool : Pool) (message : Message) :
    side.nameOf (side.image pool message) = side.key message := by
  cases side with
  | output => exact objectType_name pool message
  | request => rfl

/-- The definition with more fields after its own. -/
def extend (fields : List Schema.Field) : (side : Side) → side.Entry → side.Entry
  | output, type => { type with fields := type.fields ++ fields }
  | request, type => { type with fields := type.fields ++ fields }

theorem foldl_addField (side : Side) (fields : List Schema.Field) (entry : side.Entry) :
    fields.foldl (fun entry shown => side.addField shown entry) entry = side.extend fields entry := by
  induction fields generalizing entry with
  | nil => cases side <;> simp [extend]
  | cons shown rest ih =>
    rw [List.foldl_cons, ih]
    cases side <;> simp [extend, addField]

theorem find?_key_output (pool : Pool) (message : Message) :
    ((pool.keptFields message).map (output.shownField pool)).find? (·.key) =
      (shownKey? pool message).map (output.shownField pool) := by
  rw [List.find?_map, shownKey?]
  rfl

/-- A definition whose fields are added one by one and that is then finished is the one that the
message makes. -/
theorem finish_foldl_addField (side : Side) (pool : Pool) (message : Message) :
    side.finish message (((pool.keptFields message).map (side.shownField pool)).find? (·.key))
      (((pool.keptFields message).map (side.shownField pool)).foldl
        (fun entry shown => side.addField shown entry) (side.start message)) =
      side.image pool message := by
  rw [foldl_addField]
  cases side with
  | request => rfl
  | output =>
    rw [find?_key_output]
    simp only [finish, image, objectType, entity_value, Option.isSome_map]
    cases shownKey? pool message with
    | none =>
      simp only [Option.map_none, Option.isSome_none]
      cases (Federation.resolveEntity message (some false)).value.holds <;> rfl
    | some key =>
      simp only [Option.map_some, Option.isSome_some]
      cases (Federation.resolveEntity message (some true)).value.holds <;> rfl

end Side

namespace Draft

variable {side : Side} {pool : Pool} {limit : Nat} {draft before after : Draft}

@[simp] theorem walked_record (draft : Draft) (sought : Sought) (side : Side) :
    (draft.record sought).walked side =
      draft.walked side ++ (Call.walked? side ⟨sought, draft.registers⟩).toList := by
  unfold walked record
  cases first : Call.walked? side ⟨sought, draft.registers⟩ <;> simp [first]

@[simp] theorem enumsMet_record (draft : Draft) (sought : Sought) :
    (draft.record sought).enumsMet = draft.enumsMet ++ (Call.enum? ⟨sought, draft.registers⟩).toList := by
  unfold enumsMet record
  cases first : Call.enum? ⟨sought, draft.registers⟩ <;> simp [first]

/-- What happens to a draft, apart from the definitions of a side, while the fields of `messages` are
walked on that side and `enums` are met. -/
structure Follows (side : Side) (messages : List Message) (enums : List Enum) (before after : Draft) :
    Prop where
  enums_eq : after.registers.enums.entries = enums.foldl Build.addEnum before.registers.enums.entries
  others : ∀ other, other ≠ side → after.registers.on other = before.registers.on other
  walked_eq : ∀ other, after.walked other = before.walked other ++ if other = side then messages else []
  enumsMet_eq : after.enumsMet = before.enumsMet ++ enums
  query_eq : after.query = before.query
  mutation_eq : after.mutation = before.mutation

theorem Follows.refl (side : Side) (draft : Draft) : Follows side [] [] draft draft :=
  ⟨rfl, fun _ _ => rfl, by simp, by simp, rfl, rfl⟩

theorem Follows.trans {messages messages' : List Message} {enums enums' : List Enum} {middle : Draft}
    (first : Follows side messages enums before middle)
    (second : Follows side messages' enums' middle after) :
    Follows side (messages ++ messages') (enums ++ enums') before after where
  enums_eq := by rw [second.enums_eq, first.enums_eq, List.foldl_append]
  others other different := (second.others other different).trans (first.others other different)
  walked_eq other := by
    rw [second.walked_eq, first.walked_eq]
    split <;> simp
  enumsMet_eq := by rw [second.enumsMet_eq, first.enumsMet_eq, List.append_assoc]
  query_eq := second.query_eq.trans first.query_eq
  mutation_eq := second.mutation_eq.trans first.mutation_eq

theorem follows_again {message : Message} {place : Nat}
    (found : (draft.registers.on side).find? (side.key message) = some place) :
    Follows side [] [] draft (draft.record (.message side message)) := by
  refine ⟨rfl, fun _ _ => rfl, fun other => ?_, by simp [Call.enum?], rfl, rfl⟩
  have known : Call.walked? other ⟨.message side message, draft.registers⟩ = none := by
    by_cases same : side = other
    · subst same
      simp [Call.walked?, Call.met?, found]
    · simp [Call.walked?, Call.met?, same]
  simp [known]

theorem follows_first {message : Message}
    (fresh : (draft.registers.on side).find? (side.key message) = none) :
    Follows side [message] [] draft (draft.enter side message) := by
  refine ⟨by simp [enter, record], fun other different => Registers.on_modify_of_ne different,
    fun other => ?_, by simp [enumsMet, enter, record, Call.enum?], rfl, rfl⟩
  have recorded : (draft.enter side message).walked other =
      (draft.record (.message side message)).walked other := rfl
  rw [recorded, walked_record]
  by_cases same : other = side
  · subst same
    simp [Call.walked?, Call.met?, fresh]
  · simp [Call.walked?, Call.met?, same, Ne.symm same]

theorem follows_change (side : Side) (draft : Draft) (place : Nat) (update : side.Entry → side.Entry) :
    Follows side [] [] draft (draft.change side place update) :=
  ⟨by simp [change], fun other different => Registers.on_modify_of_ne different,
    fun other => by simp [walked, change], by simp [enumsMet, change], rfl, rfl⟩

theorem addEnum_eq {enums : Register Schema.EnumType} (consistent : enums.Consistent (·.name)) (enum : Enum) :
    Build.addEnum enums.entries enum =
      if (enums.find? (Naming.typeName enum.name)).isSome then enums.entries
      else enums.entries ++ [enumType enum] := by
  have taken : enums.entries.any (·.name == Naming.typeName enum.name) =
      (enums.find? (Naming.typeName enum.name)).isSome := by
    rw [Bool.eq_iff_iff, consistent.find?_isSome_iff]
    simp
  rw [Build.addEnum, taken]

@[simp] theorem on_resolveEnum (draft : Draft) (enum : Enum) (side : Side) :
    (draft.resolveEnum enum).1.registers.on side = draft.registers.on side := by
  unfold resolveEnum
  split <;> cases side <;> rfl

theorem follows_resolveEnum (side : Side) (consistent : draft.registers.Consistent) (enum : Enum) :
    Follows side [] [enum] draft (draft.resolveEnum enum).1 := by
  have registered := addEnum_eq consistent.enums enum
  unfold resolveEnum
  cases found : draft.registers.enums.find? (Naming.typeName enum.name) with
  | some place =>
    refine ⟨?_, fun _ _ => rfl, fun other => ?_, ?_, rfl, rfl⟩
    · simpa [found, record] using registered.symm
    · simp [Call.walked?, Call.met?]
    · simp [Call.enum?]
  | none =>
    refine ⟨?_, fun other _ => ?_, fun other => ?_, ?_, rfl, rfl⟩
    · simpa [found, enterEnum, record, Register.add] using registered.symm
    · cases other <;> rfl
    · simp [walked, enterEnum, record, Call.walked?, Call.met?]
    · simp [enumsMet, enterEnum, record, Call.enum?]

/-- The enum type found for an enum has its name. -/
theorem resolveEnum_named (consistent : draft.registers.Consistent) (enum : Enum) :
    ∃ type, (draft.resolveEnum enum).1.registers.enums.entries[(draft.resolveEnum enum).2]? = some type ∧
      type.name = Naming.typeName enum.name := by
  unfold resolveEnum
  cases found : draft.registers.enums.find? (Naming.typeName enum.name) with
  | some place => exact consistent.enums.entry_of_find? found
  | none => exact ⟨enumType enum, by simp [enterEnum, record, Register.add], rfl⟩

/-- The definitions of a side are the ones that a walk has seen. -/
def Knows (side : Side) (draft : Draft) (seen : List String) : Prop :=
  ∀ name, name ∈ (draft.registers.on side).entries.map side.nameOf ↔ name ∈ seen

/-- The draft has gone along the steps of a walk: the finished definitions of the messages entered
have been added, and all definitions from before are as they were. -/
structure Covers (side : Side) (pool : Pool) (steps : List Step) (before after : Draft) : Prop where
  entries_eq : (after.registers.on side).entries =
    (before.registers.on side).entries ++ (Walk.entered steps).map (side.image pool)
  follows : Follows side (Walk.entered steps) (Build.enumsMet pool steps) before after

theorem Knows.covers {seen : List String} {steps : List Step} (knows : Knows side before seen)
    (covers : Covers side pool steps before after) :
    Knows side after ((Walk.entered steps).map side.key ++ seen) := by
  intro name
  have names : ((Walk.entered steps).map (side.image pool)).map side.nameOf =
      (Walk.entered steps).map side.key := by simp
  rw [covers.entries_eq, List.map_append, names, List.mem_append, List.mem_append, knows name, or_comm]

theorem Knows.change {seen : List String} {place : Nat} {update : side.Entry → side.Entry}
    (knows : Knows side draft seen) (kept : ∀ entry, side.nameOf (update entry) = side.nameOf entry) :
    Knows side (draft.change side place update) seen := by
  have same : ((draft.change side place update).registers.on side).entries.map side.nameOf =
      (draft.registers.on side).entries.map side.nameOf := by
    rw [Draft.change, Registers.on_modify, Register.names_change kept]
  intro name
  rw [same]
  exact knows name

theorem fieldEnum?_of_referred {field : Field} {held : Message} (holds : pool.referred? field = some held) :
    fieldEnum? pool field = none := by
  simp only [Pool.referred?, Option.ite_none_right_eq_some] at holds
  have kind : field.kind ≠ .enum := by
    intro kind
    simp [kind, Kind.isComposite] at holds
  simp [fieldEnum?, kind]

theorem enumsMet_append (pool : Pool) (first second : List Step) :
    Build.enumsMet pool (first ++ second) = Build.enumsMet pool first ++ Build.enumsMet pool second := by
  simp [Build.enumsMet]

/-- The walk through some fields is the walk for the first one and then the walk through the rest. -/
theorem visitFields_split {field : Field} (resolved : pool.unresolved field = false)
    (key : Message → String) (seen : List String) (rest : List (Option Field)) :
    Walk.visitFields pool key seen (some field :: rest) =
      (Walk.below pool key seen field ++ [.field field]) ++
        Walk.visitFields pool key
          ((Walk.entered (Walk.below pool key seen field ++ [.field field])).map key ++ seen) rest := by
  simp [Walk.visitFields_kept resolved]

theorem modify_append {δ : Type} {first : List δ} {place : Nat} (inside : place < first.length)
    (second : List δ) (update : δ → δ) :
    (first ++ second).modify place update = first.modify place update ++ second := by
  induction first generalizing place with
  | nil => simp at inside
  | cons entry rest ih =>
    cases place with
    | zero => simp
    | succ place => simpa using ih (by simpa using inside)

theorem modify_length {δ : Type} (first second : List δ) (entry : δ) (update : δ → δ) :
    (first ++ entry :: second).modify first.length update = first ++ update entry :: second := by
  induction first with
  | nil => rfl
  | cons head rest ih => simpa using ih

theorem or_find?_cons (key? : Option Schema.Field) (shown : Schema.Field) (rest : List Schema.Field) :
    (key?.or (if shown.key then some shown else none)).or (rest.find? (·.key)) =
      key?.or ((shown :: rest).find? (·.key)) := by
  rw [Option.or_assoc, List.find?_cons]
  cases shown.key <;> rfl

section Seek

variable {less : Nat} {seen : List String}
  (ih : ∀ {draft message after place seen spot}, draft.registers.Consistent → Knows side draft seen →
    pool.messages[spot]? = some message → resolve side pool less draft message = some (after, place) →
    Covers side pool (Walk.visit pool side.key seen spot) draft after)

include ih

/-- The name read from the definition that a field leads to is the one its type is built on, even if
that definition is not finished or was made from another message. -/
theorem fieldBase_covers {field : Field} {base : String} (consistent : draft.registers.Consistent)
    (knows : Knows side draft seen)
    (done : fieldBase side pool (resolve side pool less) draft field = some (after, base)) :
    base = baseType pool side.key field ∧
      Covers side pool (Walk.below pool side.key seen field ++ [.field field]) draft after := by
  rcases Walk.below_cases pool side.key seen field with
    ⟨none_held, empty⟩ | ⟨spot, message, found, held, same⟩
  · cases refers : fieldEnum? pool field with
    | none =>
      simp only [fieldBase, none_held, refers] at done
      cases done
      refine ⟨(baseType_of_neither none_held refers _).symm, by simp [empty], ?_⟩
      simpa [empty, Build.enumsMet, refers] using Follows.refl side draft
    | some enum =>
      simp only [fieldBase, none_held, refers] at done
      obtain ⟨type, stands, same⟩ := Option.bind_eq_some_iff.mp done
      cases same
      obtain ⟨named, there, name⟩ := resolveEnum_named consistent enum
      obtain rfl := Option.some.inj (stands.symm.trans there)
      refine ⟨name.trans (baseType_of_enum refers _).symm, by simp [empty], ?_⟩
      simpa [empty, Build.enumsMet, refers] using follows_resolveEnum side consistent enum
  · simp only [fieldBase, held] at done
    obtain ⟨⟨found', place⟩, sought, done⟩ := Option.bind_eq_some_iff.mp done
    obtain ⟨entry, stands, same'⟩ := Option.bind_eq_some_iff.mp done
    cases same'
    have covers := ih consistent knows found sought
    obtain ⟨named, there, name⟩ := resolve_named consistent sought
    obtain rfl := Option.some.inj (stands.symm.trans there)
    refine ⟨name.trans (baseType_of_referred held _).symm, ?_, ?_⟩
    · simpa [same] using covers.entries_eq
    · simpa [same, Build.enumsMet, fieldEnum?_of_referred held] using covers.follows

/-- Fields are added to the definition at `place` and to no other, whatever is drafted in between. -/
theorem foldlM_addField_covers {fields : List (Option Field)} {place : Nat}
    {state final : Draft × Option Schema.Field} (consistent : state.1.registers.Consistent)
    (knows : Knows side state.1 seen) (inside : place < (state.1.registers.on side).entries.length)
    (done : fields.foldlM (addField side pool (resolve side pool less) place) state = some final) :
    (final.1.registers.on side).entries =
        ((state.1.registers.on side).entries.modify place fun own =>
          ((pool.keptAmong fields).map (side.shownField pool)).foldl
            (fun entry shown => side.addField shown entry) own) ++
          (Walk.entered (Walk.visitFields pool side.key seen fields)).map (side.image pool) ∧
      final.2 = state.2.or (((pool.keptAmong fields).map (side.shownField pool)).find? (·.key)) ∧
      Follows side (Walk.entered (Walk.visitFields pool side.key seen fields))
        (Build.enumsMet pool (Walk.visitFields pool side.key seen fields)) state.1 final.1 := by
  induction fields generalizing state seen with
  | nil =>
    cases done
    refine ⟨?_, by simp [Pool.keptAmong], ?_⟩
    · rw [Walk.visitFields_nil, Walk.entered_nil, List.map_nil, List.append_nil]
      exact (List.modify_id place (final.1.registers.on side).entries).symm
    · simpa [Build.enumsMet] using Follows.refl side final.1
  | cons field? rest ih' =>
    rw [List.foldlM_cons] at done
    obtain ⟨next, stepped, later⟩ := Option.bind_eq_some_iff.mp done
    cases field? with
    | none =>
      cases stepped
      simpa [Pool.keptAmong] using ih' consistent knows inside later
    | some field =>
      cases resolved : pool.unresolved field with
      | true =>
        rw [addField_unresolved resolved] at stepped
        cases stepped
        rw [Walk.visitFields_unresolved resolved]
        simpa [Pool.keptAmong, resolved, Build.enumsMet] using ih' consistent knows inside later
      | false =>
        rw [addField_kept resolved] at stepped
        obtain ⟨⟨found, base⟩, based, same⟩ := Option.bind_eq_some_iff.mp stepped
        cases same
        obtain ⟨rfl, covers⟩ := fieldBase_covers ih consistent knows based
        have sound := (fieldBase_advances resolve_advances based).consistent consistent
        have follows := covers.follows.trans
          (follows_change side found place (side.addField (side.shownField pool field)))
        have wider : place < (found.registers.on side).entries.length := by
          rw [covers.entries_eq, List.length_append]
          omega
        obtain ⟨entries, key, follows'⟩ := ih'
          (sound.modify ((sound.on side).change (side.nameOf_addField _)))
          ((knows.covers covers).change (side.nameOf_addField _))
          (by simpa [change, Register.change] using wider) later
        have kept : pool.keptAmong (some field :: rest) = field :: pool.keptAmong rest := by
          simp [Pool.keptAmong, resolved]
        rw [visitFields_split resolved, kept, Walk.entered_append, enumsMet_append]
        refine ⟨?_, ?_, ?_⟩
        · rw [entries]
          simp only [change, Registers.on_modify, Register.change, covers.entries_eq]
          rw [modify_append inside, modify_append (by simpa using inside), List.modify_modify_eq,
            List.map_append, List.append_assoc]
          rfl
        · rw [key, List.map_cons]
          exact or_find?_cons ..
        · simpa only [List.append_nil] using follows.trans follows'

end Seek

/-- Drafting the definition for a message is a walk from that message. -/
theorem resolve_covers {message : Message} {place spot : Nat} {seen : List String}
    (consistent : draft.registers.Consistent) (knows : Knows side draft seen)
    (found : pool.messages[spot]? = some message)
    (done : resolve side pool limit draft message = some (after, place)) :
    Covers side pool (Walk.visit pool side.key seen spot) draft after := by
  induction limit using Nat.strongRecOn generalizing draft message after place spot seen with
  | ind limit ih =>
    rcases resolve_cases done with ⟨known, rfl⟩ | ⟨less, filled, key?, rfl, fresh, walked, rfl, rfl⟩
    · have member : side.key message ∈ seen := by
        rw [← knows, ← (consistent.on side).find?_isSome_iff, known]
        rfl
      rw [Walk.visit_known found member]
      exact ⟨by simp [record], by simpa [Build.enumsMet] using follows_again known⟩
    · have absent : side.key message ∉ seen := by
        rw [← knows, ← (consistent.on side).find?_eq_none_iff]
        exact fresh
      have started := (Advance.first fresh).consistent consistent
      have startedKnows : Knows side (draft.enter side message)
          (side.key message :: seen) := by
        intro name
        simp [enter, record, Register.add, knows name, or_comm]
      obtain ⟨entries, key, follows⟩ := foldlM_addField_covers (ih less (Nat.lt_succ_self less)) started
        startedKnows (by simp [enter, Register.add]) walked
      have own : ((draft.enter side message).registers.on side).entries =
          (draft.registers.on side).entries ++ [side.start message] := by
        simp [enter, Register.add]
      have kept : pool.keptAmong message.fields = pool.keptFields message := rfl
      rw [own, modify_length, List.append_assoc, List.singleton_append, kept] at entries
      have finished : side.finish message key? _ = side.image pool message :=
        (congrArg (side.finish message · _) key).trans (side.finish_foldl_addField pool message)
      have all := ((follows_first fresh).trans follows).trans (follows_change side filled
        (draft.registers.on side).entries.length (side.finish message key?))
      rw [Walk.visit_fresh found absent]
      refine ⟨?_, by simpa [Build.enumsMet] using all⟩
      simp only [change, Registers.on_modify, Register.change]
      rw [entries, modify_length, finished]
      simp

theorem knows_self (side : Side) (draft : Draft) :
    Knows side draft ((draft.registers.on side).entries.map side.nameOf) :=
  fun _ => .rfl

theorem schema_resolve_output {message : Message} {place spot : Nat}
    (consistent : draft.registers.Consistent) (found : pool.messages[spot]? = some message)
    (done : resolve .output pool limit draft message = some (after, place)) (service : Service) :
    after.schema service = (addOutput pool (draft.schema service) spot).value := by
  obtain ⟨types, follows⟩ := resolve_covers consistent (knows_self .output draft) found done
  have inputs := follows.others .request (by simp)
  simp only [schema, addOutput, addEnums_eq, follows.query_eq, follows.mutation_eq, Schema.mk.injEq,
    true_and]
  exact ⟨types, congrArg Register.entries inputs, follows.enums_eq⟩

theorem schema_resolve_request {message : Message} {place spot : Nat}
    (consistent : draft.registers.Consistent) (found : pool.messages[spot]? = some message)
    (done : resolve .request pool limit draft message = some (after, place)) (service : Service) :
    after.schema service = (addInput pool (draft.schema service) spot).value := by
  obtain ⟨inputs, follows⟩ := resolve_covers consistent (knows_self .request draft) found done
  have types := follows.others .output (by simp)
  simp only [schema, addInput, addEnums_eq, follows.query_eq, follows.mutation_eq, Schema.mk.injEq,
    true_and]
  exact ⟨congrArg Register.entries types, inputs, follows.enums_eq⟩

theorem schema_addRoot (draft : Draft) (service : Service) (operation : Operation) (field : Schema.Field) :
    (draft.addRoot operation field).schema service =
      addRootField (draft.schema service) operation field := by
  cases operation <;> rfl

theorem arguments_agree (consistent : draft.registers.Consistent) {method : Method} {names : List String}
    (done : arguments pool limit draft method = some (after, names)) (service : Service) :
    names = (request? pool method).toList.map (fun (_, request) => inputName request) ∧
      after.schema service =
        match request? pool method with
        | some (spot, _) => (addInput pool (draft.schema service) spot).value
        | none => draft.schema service := by
  rcases arguments_cases done with
    ⟨none_taken, rfl, rfl⟩ | ⟨⟨spot, request⟩, place, input, taken, sought, stands, rfl⟩
  · simp [none_taken]
  · obtain ⟨named, there, name⟩ := resolve_named consistent sought
    obtain rfl := Option.some.inj (stands.symm.trans there)
    rw [taken]
    exact ⟨congrArg (· :: []) name, schema_resolve_request consistent (request?_found taken) sought service⟩

/-- A method does to a draft what it does to a schema. -/
theorem schema_addMethod (consistent : draft.registers.Consistent) {limit : Side → Nat} {method : Method}
    (done : addMethod pool limit draft (some method) = some after) (service : Service) :
    after.schema service = (Build.addMethod pool (draft.schema service) method).value := by
  rcases addMethod_cases done with
    ⟨missing, rfl⟩ | ⟨_, ⟨spot, output⟩, found, place, type, taken, names, ⟨⟩, resolved, sought, stands, given, rfl⟩
  · exact (addMethod_value_unresolved missing _).symm
  · have kept := (resolve_advances sought).consistent consistent
    obtain ⟨named, there, name⟩ := resolve_named consistent sought
    obtain rfl := Option.some.inj (stands.symm.trans there)
    obtain ⟨rfl, same⟩ := arguments_agree kept given service
    rw [schema_addRoot, same, addMethod_value_resolved resolved,
      schema_resolve_output consistent (output?_found resolved) sought service]
    congr 1
    exact congrArg (fun type => Schema.Field.mk _ type _ _ _ _ _ _ _) name

/-- After any number of methods the draft has come to the schema of these methods. -/
theorem schema_foldlM (consistent : draft.registers.Consistent) {limit : Side → Nat}
    {methods : List (Option Method)} (done : methods.foldlM (addMethod pool limit) draft = some after)
    (service : Service) (name : String) :
    after.schema service = (addMethods pool name (draft.schema service) methods).value := by
  induction methods generalizing draft with
  | nil =>
    cases done
    rfl
  | cons method? rest ih =>
    rw [List.foldlM_cons] at done
    obtain ⟨next, stepped, later⟩ := Option.bind_eq_some_iff.mp done
    have same := ih ((addMethod_advances stepped).consistent consistent) later
    cases method? with
    | none =>
      cases stepped
      exact same
    | some method =>
      rw [same, schema_addMethod consistent stepped service]
      rfl

theorem schema_run {limit : Side → Nat} {methods : List (Option Method)}
    (done : run pool limit methods = some draft) (service : Service) :
    draft.schema service =
      (addMethods pool service.fullName (emptySchema service) methods).value :=
  schema_foldlM Registers.consistent_empty done service service.fullName

end Draft

end Subgraph.Build
