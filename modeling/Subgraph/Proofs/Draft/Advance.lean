import Subgraph.Proofs.Draft.Basic

namespace Subgraph.Build

open Descriptor

namespace Side

@[simp] theorem nameOf_start (side : Side) (message : Message) :
    side.nameOf (side.start message) = side.key message := by
  cases side <;> rfl

@[simp] theorem nameOf_addField (side : Side) (shown : Schema.Field) (entry : side.Entry) :
    side.nameOf (side.addField shown entry) = side.nameOf entry := by
  cases side <;> rfl

@[simp] theorem nameOf_finish (side : Side) (message : Message) (key? : Option Schema.Field)
    (entry : side.Entry) : side.nameOf (side.finish message key? entry) = side.nameOf entry := by
  cases side with
  | output =>
    unfold finish
    split <;> rfl
  | request => rfl

end Side

namespace Registers

variable {registers : Registers} {side other : Side} {update : Register side.Entry → Register side.Entry}

@[simp] theorem on_modify (registers : Registers) (side : Side)
    (update : Register side.Entry → Register side.Entry) :
    (registers.modify side update).on side = update (registers.on side) := by
  cases side <;> rfl

theorem on_modify_of_ne (different : other ≠ side) :
    (registers.modify side update).on other = registers.on other := by
  cases side <;> cases other <;> simp_all [modify, on]

@[simp] theorem enums_modify (registers : Registers) (side : Side)
    (update : Register side.Entry → Register side.Entry) :
    (registers.modify side update).enums = registers.enums := by
  cases side <;> rfl

theorem consistent_empty : Consistent {} :=
  ⟨Register.consistent_empty _, Register.consistent_empty _, Register.consistent_empty _⟩

theorem Consistent.on (consistent : registers.Consistent) (side : Side) :
    (registers.on side).Consistent side.nameOf := by
  cases side with
  | output => exact consistent.types
  | request => exact consistent.inputs

theorem Consistent.modify (consistent : registers.Consistent)
    (kept : (update (registers.on side)).Consistent side.nameOf) :
    (registers.modify side update).Consistent := by
  cases side with
  | output => exact ⟨kept, consistent.inputs, consistent.enums⟩
  | request => exact ⟨consistent.types, kept, consistent.enums⟩

/-- What is registered stays where it is. -/
def Grows (before after : Registers) : Prop :=
  ∀ side name place, (before.on side).find? name = some place →
    (after.on side).find? name = some place

theorem Grows.refl (registers : Registers) : registers.Grows registers :=
  fun _ _ _ found => found

theorem Grows.trans {first second third : Registers} (early : first.Grows second)
    (late : second.Grows third) : first.Grows third :=
  fun side name place found => late side name place (early side name place found)

theorem grows_add {name : String} {entry : side.Entry} (fresh : (registers.on side).find? name = none) :
    registers.Grows (registers.modify side (·.add name entry)) := by
  intro other known place found
  by_cases here : other = side
  · subst here
    have different : name ≠ known := by
      rintro rfl
      simp [fresh] at found
    simpa [different] using found
  · rwa [on_modify_of_ne here]

theorem grows_change (registers : Registers) (side : Side) (place : Nat)
    (update : side.Entry → side.Entry) : registers.Grows (registers.modify side (·.change place update)) := by
  intro other known place' found
  by_cases here : other = side
  · subst here
    simpa using found
  · rwa [on_modify_of_ne here]

theorem grows_enums (registers : Registers) (enums : Register Schema.EnumType) :
    registers.Grows { registers with enums := enums } := by
  intro side name place found
  cases side <;> exact found

end Registers

namespace Draft

/-- The single steps of drafting: looking up a definition that is there, registering one that is
not, changing a definition without touching its name, and adding a root field. -/
inductive Advance : Draft → Draft → Prop
  | again {draft side message place} : (draft.registers.on side).find? (side.key message) = some place →
      Advance draft (draft.record (.message side message))
  | first {draft side message} : (draft.registers.on side).find? (side.key message) = none →
      Advance draft (draft.enter side message)
  | enumAgain {draft enum place} :
      draft.registers.enums.find? (Naming.typeName enum.name) = some place →
      Advance draft (draft.record (.enum enum))
  | enumFirst {draft enum} : draft.registers.enums.find? (Naming.typeName enum.name) = none →
      Advance draft (draft.enterEnum enum)
  | change {draft side place update} : (∀ entry, side.nameOf (update entry) = side.nameOf entry) →
      Advance draft (draft.change side place update)
  | root {draft operation field} : Advance draft (draft.addRoot operation field)

abbrev Advances : Draft → Draft → Prop :=
  Relation.ReflTransGen Advance

variable {side : Side} {pool : Pool} {limit : Nat} {draft after : Draft}

section Fold

variable {σ τ : Type} {step : σ → τ → Option σ} {items : List τ}

/-- What every step keeps, a fold keeps. -/
theorem foldlM_invariant (inv : σ → Prop)
    (keep : ∀ item ∈ items, ∀ state next, inv state → step state item = some next → inv next)
    {start final : σ} (holds : inv start) (done : items.foldlM step start = some final) : inv final := by
  induction items generalizing start with
  | nil =>
    cases done
    exact holds
  | cons item rest ih =>
    rw [List.foldlM_cons] at done
    obtain ⟨next, stepped, later⟩ := Option.bind_eq_some_iff.mp done
    have kept := keep item List.mem_cons_self start next holds stepped
    exact ih (fun other member => keep other (List.mem_cons_of_mem _ member)) kept later

/-- A fold comes to its end if its steps do. -/
theorem foldlM_total (inv : σ → Prop)
    (each : ∀ item ∈ items, ∀ state, inv state → ∃ next, step state item = some next ∧ inv next)
    {start : σ} (holds : inv start) : ∃ final, items.foldlM step start = some final := by
  induction items generalizing start with
  | nil => exact ⟨start, rfl⟩
  | cons item rest ih =>
    obtain ⟨next, stepped, kept⟩ := each item List.mem_cons_self start holds
    obtain ⟨final, later⟩ := ih (fun other member => each other (List.mem_cons_of_mem _ member)) kept
    exact ⟨final, by rw [List.foldlM_cons, stepped]; exact later⟩

theorem foldlM_extend {wider : σ → τ → Option σ}
    (extend : ∀ {state item next}, step state item = some next → wider state item = some next)
    {start final : σ} (done : items.foldlM step start = some final) :
    items.foldlM wider start = some final := by
  induction items generalizing start with
  | nil => exact done
  | cons item rest ih =>
    rw [List.foldlM_cons] at done ⊢
    obtain ⟨next, stepped, later⟩ := Option.bind_eq_some_iff.mp done
    rw [extend stepped]
    exact ih later

end Fold

theorem resolveEnum_advances (draft : Draft) (enum : Enum) :
    Advances draft (draft.resolveEnum enum).1 := by
  unfold resolveEnum
  split
  · rename_i place found
    exact .single (.enumAgain found)
  · rename_i fresh
    exact .single (.enumFirst fresh)

section Seek

variable {seek : Draft → Message → Option (Draft × Nat)}

theorem addField_unresolved {field : Field} (missing : pool.unresolved field = true) (place : Nat)
    (state : Draft × Option Schema.Field) :
    addField side pool seek place state (some field) = some state := by
  simp only [addField, if_pos missing]

theorem addField_kept {field : Field} (kept : pool.unresolved field = false) (place : Nat)
    (state : Draft × Option Schema.Field) :
    addField side pool seek place state (some field) =
      (fieldBase side pool seek state.1 field).bind fun (found, base) =>
        some (found.change side place (side.addField (side.fieldOf base field)),
          state.2.or (if (side.fieldOf base field).key then some (side.fieldOf base field) else none)) := by
  simp only [addField, kept, Bool.false_eq_true, if_false]
  rfl

variable (advances : ∀ {draft message after place}, seek draft message = some (after, place) →
    Advances draft after)

include advances

theorem fieldBase_advances {field : Field} {base : String}
    (done : fieldBase side pool seek draft field = some (after, base)) : Advances draft after := by
  unfold fieldBase at done
  split at done
  · obtain ⟨⟨found, place⟩, sought, done⟩ := Option.bind_eq_some_iff.mp done
    obtain ⟨entry, _, same⟩ := Option.bind_eq_some_iff.mp done
    cases same
    exact advances sought
  · rename_i enum _ _
    obtain ⟨entry, _, same⟩ := Option.bind_eq_some_iff.mp done
    cases same
    exact resolveEnum_advances draft enum
  · cases done
    exact .refl

theorem addField_advances {place : Nat} {state next : Draft × Option Schema.Field} {field? : Option Field}
    (done : addField side pool seek place state field? = some next) : Advances state.1 next.1 := by
  cases field? with
  | none =>
    cases done
    exact .refl
  | some field =>
    cases kept : pool.unresolved field with
    | true =>
      rw [addField_unresolved kept] at done
      cases done
      exact .refl
    | false =>
      rw [addField_kept kept] at done
      obtain ⟨⟨found, base⟩, based, same⟩ := Option.bind_eq_some_iff.mp done
      cases same
      exact (fieldBase_advances advances based).tail (.change (by simp))

theorem foldlM_addField_advances {place : Nat} {state next : Draft × Option Schema.Field}
    {fields : List (Option Field)}
    (done : fields.foldlM (addField side pool seek place) state = some next) :
    Advances state.1 next.1 := by
  refine foldlM_invariant (fun reached : Draft × Option Schema.Field => Advances state.1 reached.1)
    (fun _ _ reached later early stepped => ?_) .refl done
  exact early.trans (addField_advances advances stepped)

end Seek

@[simp] theorem find?_enter (draft : Draft) (side : Side) (message : Message) :
    ((draft.enter side message).registers.on side).find? (side.key message) =
      some (draft.registers.on side).entries.length := by
  simp [enter]

/-- A message that is registered is not walked. -/
theorem resolve_known {message : Message} {place : Nat}
    (found : (draft.registers.on side).find? (side.key message) = some place) :
    resolve side pool limit draft message = some (draft.record (.message side message), place) := by
  unfold resolve
  simp only [found]

theorem resolve_fresh {message : Message}
    (fresh : (draft.registers.on side).find? (side.key message) = none) :
    resolve side pool (limit + 1) draft message =
      (message.fields.foldlM
        (addField side pool (resolve side pool limit) (draft.registers.on side).entries.length)
        (draft.enter side message, none)).bind fun (filled, key?) =>
          some (filled.change side (draft.registers.on side).entries.length (side.finish message key?),
            (draft.registers.on side).entries.length) := by
  conv => lhs; unfold resolve
  simp only [fresh]
  rfl

/-- A message is known, or its definition is registered, filled and finished. -/
theorem resolve_cases {message : Message} {place : Nat}
    (done : resolve side pool limit draft message = some (after, place)) :
    ((draft.registers.on side).find? (side.key message) = some place ∧
      after = draft.record (.message side message)) ∨
    ∃ less filled key?, limit = less + 1 ∧
      (draft.registers.on side).find? (side.key message) = none ∧
      message.fields.foldlM (addField side pool (resolve side pool less) place)
        (draft.enter side message, none) = some (filled, key?) ∧
      place = (draft.registers.on side).entries.length ∧
      after = filled.change side place (side.finish message key?) := by
  cases found : (draft.registers.on side).find? (side.key message) with
  | some old =>
    rw [resolve_known found] at done
    cases done
    exact .inl ⟨rfl, rfl⟩
  | none =>
    cases limit with
    | zero =>
      unfold resolve at done
      simp [found] at done
    | succ less =>
      rw [resolve_fresh found] at done
      obtain ⟨⟨filled, key?⟩, walked, same⟩ := Option.bind_eq_some_iff.mp done
      cases same
      exact .inr ⟨less, filled, key?, rfl, rfl, walked, rfl, rfl⟩

theorem resolve_advances {message : Message} {place : Nat}
    (done : resolve side pool limit draft message = some (after, place)) : Advances draft after := by
  induction limit using Nat.strongRecOn generalizing draft message after place with
  | ind limit ih =>
    rcases resolve_cases done with ⟨found, rfl⟩ | ⟨less, filled, key?, rfl, fresh, walked, _, rfl⟩
    · exact .single (.again found)
    · have below := foldlM_addField_advances (ih less (Nat.lt_succ_self less)) walked
      exact (below.head (.first fresh)).tail (.change (by simp))

/-- A method takes no argument, or the input type that its request is resolved to. -/
theorem arguments_cases {method : Method} {names : List String}
    (done : arguments pool limit draft method = some (after, names)) :
    (request? pool method = none ∧ after = draft ∧ names = []) ∨
    ∃ entry place input, request? pool method = some entry ∧
      resolve .request pool limit draft entry.2 = some (after, place) ∧
      after.registers.inputs.entries[place]? = some input ∧ names = [input.name] := by
  unfold arguments at done
  cases taken : request? pool method with
  | none =>
    simp only [taken] at done
    cases done
    exact .inl ⟨rfl, rfl, rfl⟩
  | some entry =>
    simp only [taken] at done
    obtain ⟨⟨found, place⟩, sought, done⟩ := Option.bind_eq_some_iff.mp done
    obtain ⟨input, stands, same⟩ := Option.bind_eq_some_iff.mp done
    cases same
    exact .inr ⟨entry, place, input, rfl, sought, stands, rfl⟩

theorem arguments_advances {method : Method} {names : List String}
    (done : arguments pool limit draft method = some (after, names)) : Advances draft after := by
  rcases arguments_cases done with ⟨_, rfl, _⟩ | ⟨entry, place, input, _, sought, _, _⟩
  · exact .refl
  · exact resolve_advances sought

theorem addMethod_passed_over {limit : Side → Nat} {method? : Option Method}
    (missing : method?.bind (output? pool) = none) : addMethod pool limit draft method? = some draft := by
  cases method? with
  | none => rfl
  | some method =>
    have unresolved : output? pool method = none := missing
    simp only [addMethod, unresolved]

theorem addMethod_resolved {limit : Side → Nat} {method : Method} {entry : Nat × Message}
    {found taken : Draft} {place : Nat} {type : Schema.ObjectType} {names : List String}
    (resolved : output? pool method = some entry)
    (sought : resolve .output pool (limit .output) draft entry.2 = some (found, place))
    (stands : found.registers.types.entries[place]? = some type)
    (given : arguments pool (limit .request) found method = some (taken, names)) :
    addMethod pool limit draft (some method) = some (taken.addRoot (classify method.name)
      { name := Naming.lowerFirst method.name
        type := type.name
        comment := Comment.clean method.comment
        arguments := names }) := by
  simp only [addMethod, resolved, sought, stands, given, Option.bind_eq_bind, Option.bind_some]
  rfl

/-- A method is passed over, or its output and its request are resolved and it becomes a root field. -/
theorem addMethod_cases {limit : Side → Nat} {method? : Option Method}
    (done : addMethod pool limit draft method? = some after) :
    (method?.bind (output? pool) = none ∧ after = draft) ∨
    ∃ method entry found place type taken names, method? = some method ∧
      output? pool method = some entry ∧
      resolve .output pool (limit .output) draft entry.2 = some (found, place) ∧
      found.registers.types.entries[place]? = some type ∧
      arguments pool (limit .request) found method = some (taken, names) ∧
      after = taken.addRoot (classify method.name)
        { name := Naming.lowerFirst method.name
          type := type.name
          comment := Comment.clean method.comment
          arguments := names } := by
  cases method? with
  | none =>
    cases done
    exact .inl ⟨rfl, rfl⟩
  | some method =>
    unfold addMethod at done
    cases resolved : output? pool method with
    | none =>
      simp only [resolved] at done
      cases done
      exact .inl ⟨resolved, rfl⟩
    | some entry =>
      simp only [resolved] at done
      obtain ⟨⟨found, place⟩, sought, done⟩ := Option.bind_eq_some_iff.mp done
      obtain ⟨type, stands, done⟩ := Option.bind_eq_some_iff.mp done
      obtain ⟨⟨taken, names⟩, given, same⟩ := Option.bind_eq_some_iff.mp done
      cases same
      exact .inr
        ⟨method, entry, found, place, type, taken, names, rfl, resolved, sought, stands, given, rfl⟩

theorem addMethod_advances {limit : Side → Nat} {method? : Option Method}
    (done : addMethod pool limit draft method? = some after) : Advances draft after := by
  rcases addMethod_cases done with
    ⟨_, rfl⟩ | ⟨method, entry, found, place, type, taken, names, _, _, sought, _, given, rfl⟩
  · exact .refl
  · exact ((resolve_advances sought).trans (arguments_advances given)).tail .root

theorem run_advances {limit : Side → Nat} {methods : List (Option Method)}
    (done : run pool limit methods = some draft) : Advances {} draft :=
  foldlM_invariant (Advances {}) (fun _ _ _ _ early stepped => early.trans (addMethod_advances stepped))
    .refl done

end Draft

end Subgraph.Build
