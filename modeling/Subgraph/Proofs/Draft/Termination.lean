import Mathlib.Data.Set.Card
import Subgraph.Proofs.Draft.Origin

namespace Subgraph.Build

open Descriptor

/-- The names that messages reachable from `roots` have on a side. -/
def reachableNames (pool : Pool) (side : Side) (roots : List Message) : Set String :=
  {name | ∃ message, ReachableFrom pool.references roots message ∧ side.key message = name}

/-- Those of the names that are not registered. -/
def unregistered (pool : Pool) (side : Side) (roots : List Message) (registers : Registers) : Set String :=
  {name ∈ reachableNames pool side roots | (registers.on side).find? name = none}

section Unregistered

variable {pool : Pool} {side : Side} {roots : List Message} {registers before after : Registers}

theorem finite_reachable (pool : Pool) (roots : List Message) :
    {message | ReachableFrom pool.references roots message}.Finite := by
  refine (List.finite_toSet (roots ++ pool.messages)).subset fun message reached => ?_
  refine reached.within {message | message ∈ roots ++ pool.messages} ?_ ?_
  · intro node _ successor edge
    exact List.mem_append_right _ (mem_messages_of_references edge)
  · intro root member
    exact List.mem_append_left _ member

theorem finite_reachableNames (pool : Pool) (side : Side) (roots : List Message) :
    (reachableNames pool side roots).Finite :=
  (finite_reachable pool roots).image side.key

theorem ncard_reachableNames_le (known : ∀ root ∈ roots, root ∈ pool.messages) :
    (reachableNames pool side roots).ncard ≤ pool.messages.length := by
  have listed : reachableNames pool side roots ⊆ ((pool.messages.map side.key).toFinset : Set String) := by
    rintro name ⟨message, reached, rfl⟩
    simpa using ⟨message, mem_messages_of_reachable known reached, rfl⟩
  calc (reachableNames pool side roots).ncard
      ≤ ((pool.messages.map side.key).toFinset : Set String).ncard :=
        Set.ncard_le_ncard listed (Finset.finite_toSet _)
    _ = (pool.messages.map side.key).toFinset.card := Set.ncard_coe_finset _
    _ ≤ (pool.messages.map side.key).length := List.toFinset_card_le _
    _ = pool.messages.length := List.length_map _

theorem finite_unregistered (pool : Pool) (side : Side) (roots : List Message) (registers : Registers) :
    (unregistered pool side roots registers).Finite :=
  (finite_reachableNames pool side roots).subset fun _ member => member.1

theorem unregistered_subset {fewer : List Message} (grows : before.Grows after)
    (reached : ∀ message, ReachableFrom pool.references fewer message →
      ReachableFrom pool.references roots message) :
    unregistered pool side fewer after ⊆ unregistered pool side roots before := by
  rintro name ⟨⟨message, reachable, rfl⟩, fresh⟩
  refine ⟨⟨message, reached message reachable, rfl⟩, ?_⟩
  cases found : (before.on side).find? (side.key message) with
  | none => rfl
  | some place => simp [grows side _ place found] at fresh

theorem ncard_unregistered_le {fewer : List Message} (grows : before.Grows after)
    (reached : ∀ message, ReachableFrom pool.references fewer message →
      ReachableFrom pool.references roots message) :
    (unregistered pool side fewer after).ncard ≤ (unregistered pool side roots before).ncard :=
  Set.ncard_le_ncard (unregistered_subset grows reached) (finite_unregistered ..)

/-- Registering a message that can be reached leaves fewer names to register. -/
theorem ncard_unregistered_lt {message : Message} {place : Nat} (grows : before.Grows after)
    (reached : ReachableFrom pool.references roots message)
    (fresh : (before.on side).find? (side.key message) = none)
    (found : (after.on side).find? (side.key message) = some place) :
    (unregistered pool side roots after).ncard < (unregistered pool side roots before).ncard := by
  refine Set.ncard_lt_ncard ⟨unregistered_subset grows fun _ => id, fun superset => ?_⟩
    (finite_unregistered ..)
  have missing := (superset ⟨⟨message, reached, rfl⟩, fresh⟩).2
  simp [found] at missing

end Unregistered

namespace Draft

variable {side : Side} {pool : Pool} {limit : Nat} {draft before after : Draft}

section Seek

variable {less : Nat}
  (total : ∀ {draft message}, draft.registers.Consistent →
    (unregistered pool side [message] draft.registers).ncard ≤ less →
    ∃ result, resolve side pool less draft message = some result)

include total

theorem fieldBase_total {field : Field} (consistent : draft.registers.Consistent)
    (enough : ∀ message, pool.referred? field = some message →
      (unregistered pool side [message] draft.registers).ncard ≤ less) :
    ∃ result, fieldBase side pool (resolve side pool less) draft field = some result := by
  cases held : pool.referred? field with
  | some message =>
    obtain ⟨⟨found, place⟩, sought⟩ := total consistent (enough message held)
    obtain ⟨entry, stands, _⟩ := resolve_named consistent sought
    exact ⟨(found, side.nameOf entry), by simp [fieldBase, held, sought, stands]⟩
  | none =>
    cases refers : fieldEnum? pool field with
    | some enum =>
      obtain ⟨type, stands, _⟩ := resolveEnum_named consistent enum
      exact ⟨((draft.resolveEnum enum).1, type.name), by simp [fieldBase, held, refers, stands]⟩
    | none =>
      exact ⟨(draft, field.kind.scalarFor (some field.name)), by simp only [fieldBase, held, refers]⟩

theorem foldlM_addField_total {fields : List (Option Field)} {place : Nat}
    {state : Draft × Option Schema.Field} (consistent : state.1.registers.Consistent)
    (enough : ∀ message ∈ pool.referredBy fields,
      (unregistered pool side [message] state.1.registers).ncard ≤ less) :
    ∃ final, fields.foldlM (addField side pool (resolve side pool less) place) state = some final := by
  refine foldlM_total (fun reached : Draft × Option Schema.Field => reached.1.registers.Consistent ∧
    ∀ message ∈ pool.referredBy fields,
      (unregistered pool side [message] reached.1.registers).ncard ≤ less) ?_ ⟨consistent, enough⟩
  rintro field? declared reached ⟨consistent, enough⟩
  have next : ∃ next, addField side pool (resolve side pool less) place reached field? = some next := by
    cases field? with
    | none => exact ⟨reached, rfl⟩
    | some field =>
      cases resolved : pool.unresolved field with
      | true => exact ⟨reached, addField_unresolved resolved place reached⟩
      | false =>
        obtain ⟨result, based⟩ := fieldBase_total total consistent fun message held =>
          enough message (List.mem_filterMap.mpr ⟨some field, declared, held⟩)
        rw [addField_kept resolved, based]
        exact ⟨_, rfl⟩
  obtain ⟨next, stepped⟩ := next
  have steps := addField_advances resolve_advances stepped
  refine ⟨next, stepped, steps.consistent consistent, fun message mentioned => ?_⟩
  exact (ncard_unregistered_le steps.grows fun _ => id).trans (enough message mentioned)

end Seek

/-- Drafting ends when as many messages may be walked one inside of another as there are names left to
register. -/
theorem resolve_total {message : Message} (consistent : draft.registers.Consistent)
    (enough : (unregistered pool side [message] draft.registers).ncard ≤ limit) :
    ∃ result, resolve side pool limit draft message = some result := by
  induction limit generalizing draft message with
  | zero =>
    cases found : (draft.registers.on side).find? (side.key message) with
    | some place => exact ⟨_, resolve_known found⟩
    | none =>
      have empty := (Set.ncard_eq_zero (finite_unregistered ..)).mp (Nat.le_zero.mp enough)
      have here : side.key message ∈ unregistered pool side [message] draft.registers :=
        ⟨⟨message, .root List.mem_cons_self, rfl⟩, found⟩
      simp [empty] at here
  | succ less ih =>
    cases found : (draft.registers.on side).find? (side.key message) with
    | some place => exact ⟨_, resolve_known found⟩
    | none =>
      have step : Advance draft (draft.enter side message) := .first found
      have fewer : (unregistered pool side [message] (draft.enter side message).registers).ncard <
          (unregistered pool side [message] draft.registers).ncard :=
        ncard_unregistered_lt step.grows (.root List.mem_cons_self) found (find?_enter ..)
      have below : ∀ child ∈ pool.references message,
          (unregistered pool side [child] (draft.enter side message).registers).ncard ≤ less := by
        intro child edge
        have part : (unregistered pool side [child] (draft.enter side message).registers).ncard ≤
            (unregistered pool side [message] (draft.enter side message).registers).ncard :=
          ncard_unregistered_le (.refl _) fun other reached =>
            (reached.mono (by simpa using edge)).of_next List.mem_cons_self
        omega
      have walked : ∃ final, message.fields.foldlM
          (addField side pool (resolve side pool less) (draft.registers.on side).entries.length)
          (draft.enter side message, none) = some final :=
        foldlM_addField_total ih (step.consistent consistent) below
      obtain ⟨final, walked⟩ := walked
      rw [resolve_fresh found, walked]
      exact ⟨_, rfl⟩

theorem resolve_total_root {roots : List Message} {message : Message}
    (consistent : draft.registers.Consistent)
    (enough : (reachableNames pool side roots).ncard ≤ limit) (member : message ∈ roots) :
    ∃ result, resolve side pool limit draft message = some result := by
  refine resolve_total consistent (le_trans (Set.ncard_le_ncard ?_ (finite_reachableNames ..)) enough)
  rintro name ⟨⟨other, reached, rfl⟩, _⟩
  exact ⟨other, reached.mono (by simpa using member), rfl⟩

theorem arguments_total {roots : List Message} {method : Method} (consistent : draft.registers.Consistent)
    (enough : (reachableNames pool .request roots).ncard ≤ limit)
    (starts : ∀ spot request, request? pool method = some (spot, request) → request ∈ roots) :
    ∃ result, arguments pool limit draft method = some result := by
  cases taken : request? pool method with
  | none => exact ⟨(draft, []), by simp only [arguments, taken]⟩
  | some entry =>
    obtain ⟨⟨found, place⟩, sought⟩ :=
      resolve_total_root consistent enough (starts entry.1 entry.2 taken)
    obtain ⟨input, stands, _⟩ := resolve_named consistent sought
    change found.registers.inputs.entries[place]? = some input at stands
    exact ⟨(found, [input.name]), by simp [arguments, taken, sought, stands]⟩

theorem addMethod_total {limit : Side → Nat} {roots : Side → List Message} {method? : Option Method}
    (consistent : draft.registers.Consistent)
    (enough : ∀ side, (reachableNames pool side (roots side)).ncard ≤ limit side)
    (starts : Starts pool roots method?) : ∃ next, addMethod pool limit draft method? = some next := by
  cases resolved : method?.bind (output? pool) with
  | none => exact ⟨draft, addMethod_passed_over resolved⟩
  | some entry =>
    obtain ⟨method, rfl, resolved⟩ := Option.bind_eq_some_iff.mp resolved
    obtain ⟨first, second⟩ := starts method entry.1 entry.2 rfl resolved
    obtain ⟨⟨found, place⟩, sought⟩ := resolve_total_root consistent (enough .output) first
    obtain ⟨type, stands, _⟩ := resolve_named consistent sought
    have kept := (resolve_advances sought).consistent consistent
    obtain ⟨⟨taken, names⟩, given⟩ := arguments_total kept (enough .request) second
    exact ⟨_, addMethod_resolved resolved sought stands given⟩

theorem run_total {limit : Side → Nat} {methods : List (Option Method)}
    (enough : ∀ side, (reachableNames pool side (side.roots pool methods)).ncard ≤ limit side) :
    ∃ draft, run pool limit methods = some draft := by
  refine foldlM_total (fun reached : Draft => reached.registers.Consistent) ?_ Registers.consistent_empty
  intro method? member reached consistent
  obtain ⟨next, stepped⟩ := addMethod_total consistent enough (starts_of_mem member)
  exact ⟨next, stepped, (addMethod_advances stepped).consistent consistent⟩

theorem run_pool (pool : Pool) (methods : List (Option Method)) :
    ∃ draft, run pool (fun _ => pool.messages.length) methods = some draft := by
  refine run_total fun side => ncard_reachableNames_le ?_
  cases side with
  | output => exact fun _ => mem_messages_of_outputs
  | request => exact fun _ => mem_messages_of_requests

theorem addField_extend {seek wider : Draft → Message → Option (Draft × Nat)}
    (extend : ∀ {draft message result}, seek draft message = some result → wider draft message = some result)
    {place : Nat} {state next : Draft × Option Schema.Field} {field? : Option Field}
    (done : addField side pool seek place state field? = some next) :
    addField side pool wider place state field? = some next := by
  cases field? with
  | none => exact done
  | some field =>
    cases kept : pool.unresolved field with
    | true => rwa [addField_unresolved kept] at done ⊢
    | false =>
      rw [addField_kept kept] at done ⊢
      obtain ⟨⟨found, base⟩, based, same⟩ := Option.bind_eq_some_iff.mp done
      have based' : fieldBase side pool wider state.1 field = some (found, base) := by
        cases held : pool.referred? field with
        | some message =>
          simp only [fieldBase, held] at based ⊢
          obtain ⟨⟨reached, place⟩, sought, based⟩ := Option.bind_eq_some_iff.mp based
          rw [extend sought]
          exact based
        | none =>
          cases refers : fieldEnum? pool field <;> simpa only [fieldBase, held, refers] using based
      rw [based']
      exact same

/-- More room for nesting changes nothing about a draft that has come to an end. -/
theorem resolve_of_le {wider : Nat} {message : Message} {result : Draft × Nat} (le : limit ≤ wider)
    (done : resolve side pool limit draft message = some result) :
    resolve side pool wider draft message = some result := by
  induction limit generalizing wider draft message result with
  | zero =>
    rcases resolve_cases done with ⟨found, same⟩ | ⟨less, _, _, positive, _⟩
    · rw [resolve_known found, ← same]
    · exact absurd positive (Nat.succ_ne_zero less).symm
  | succ less ih =>
    cases found : (draft.registers.on side).find? (side.key message) with
    | some place => rwa [resolve_known found] at done ⊢
    | none =>
      obtain ⟨more, rfl⟩ : ∃ more, wider = more + 1 := ⟨wider - 1, by omega⟩
      rw [resolve_fresh found] at done ⊢
      obtain ⟨filled, walked, same⟩ := Option.bind_eq_some_iff.mp done
      rw [foldlM_extend (addField_extend (ih (by omega))) walked]
      exact same

theorem arguments_of_le {wider : Nat} {method : Method} {result : Draft × List String} (le : limit ≤ wider)
    (done : arguments pool limit draft method = some result) :
    arguments pool wider draft method = some result := by
  unfold arguments at done ⊢
  cases request : request? pool method with
  | none => simpa only [request] using done
  | some entry =>
    simp only [request] at done ⊢
    obtain ⟨found, sought, rest⟩ := Option.bind_eq_some_iff.mp done
    rw [resolve_of_le le sought]
    exact rest

theorem run_of_le {limit wider : Side → Nat} {methods : List (Option Method)}
    (le : ∀ side, limit side ≤ wider side) (done : run pool limit methods = some draft) :
    run pool wider methods = some draft := by
  refine foldlM_extend ?_ done
  intro state method? next stepped
  rcases addMethod_cases stepped with
    ⟨missing, rfl⟩ | ⟨method, entry, found, place, type, taken, names, rfl, resolved, sought, stands, given, rfl⟩
  · exact addMethod_passed_over missing
  · exact addMethod_resolved resolved (resolve_of_le (le .output) sought) stands
      (arguments_of_le (le .request) given)

/-- A call that walks the fields of a message leaves fewer names to register, for all that is looked up
later as well as in the end. -/
theorem Accounted.descends {roots : Side → List Message} (accounted : Accounted pool roots draft)
    {call : Call} (member : call ∈ draft.calls) {message : Message}
    (walked : call.walked? side = some message) {later : Registers} (precedes : call.Precedes later) :
    (unregistered pool side (roots side) later).ncard <
      (unregistered pool side (roots side) call.registers).ncard := by
  obtain ⟨sought, fresh⟩ := Call.walked?_eq_some.mp walked
  obtain ⟨place, found⟩ := precedes.registered side message sought
  have reached := accounted.reached side message (List.mem_filterMap.mpr ⟨call, member, walked⟩)
  exact ncard_unregistered_lt precedes.grows reached fresh found

end Draft

/-- Drafting comes to an end on every service. It ends when, on each side, as many messages may be
walked one inside of another as reachable messages have names: a call that walks the fields of a
message leaves fewer of these names unregistered, and no two messages of one name are walked. -/
theorem drafting_terminates (pool : Pool) (service : Service) :
    ∃ draft,
      (∀ limit : Side → Nat,
        (∀ side, (reachableNames pool side (side.roots pool service.methods)).ncard ≤ limit side) →
        Draft.run pool limit service.methods = some draft) ∧
      draft.schema service = (build pool service).value ∧
      ∀ side,
        (reachableNames pool side (side.roots pool service.methods)).Finite ∧
        draft.calls.Pairwise (fun earlier later => (earlier.walked? side).isSome →
          (unregistered pool side (side.roots pool service.methods) later.registers).ncard <
            (unregistered pool side (side.roots pool service.methods) earlier.registers).ncard) ∧
        (∀ call ∈ draft.calls, (call.walked? side).isSome →
          (unregistered pool side (side.roots pool service.methods) draft.registers).ncard <
            (unregistered pool side (side.roots pool service.methods) call.registers).ncard) ∧
        ((draft.walked side).map side.key).Nodup := by
  obtain ⟨draft, done⟩ := Draft.run_total fun side =>
    le_refl (reachableNames pool side (side.roots pool service.methods)).ncard
  have sound := (Draft.run_advances done).sound Draft.sound_empty
  have accounted := Draft.accounted_run done
  refine ⟨draft, fun limit enough => Draft.run_of_le enough done, Draft.schema_run done service,
    fun side => ⟨finite_reachableNames .., ?_, ?_, ?_⟩⟩
  · refine sound.ordered.imp_of_mem fun member _ precedes walked => ?_
    obtain ⟨message, walked⟩ := Option.isSome_iff_exists.mp walked
    exact accounted.descends member walked precedes
  · intro call member walked
    obtain ⟨message, walked⟩ := Option.isSome_iff_exists.mp walked
    exact accounted.descends member walked (sound.past call member)
  · rw [← accounted.names_walked]
    exact (sound.consistent.on side).distinct

end Subgraph.Build
