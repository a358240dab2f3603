import Subgraph.Build
import Subgraph.Proofs.Preorder

namespace Subgraph

open Descriptor

namespace Descriptor.Pool

/-- The message that a field holds. -/
def referred? (pool : Pool) (field : Field) : Option Message :=
  if field.kind.isComposite then pool.message? field.message else none

def referredBy (pool : Pool) (fields : List (Option Field)) : List Message :=
  fields.filterMap fun field => field.bind pool.referred?

/-- The messages that the fields of a message hold, in the order of the fields. -/
def references (pool : Pool) (message : Message) : List Message :=
  pool.referredBy message.fields

/-- Of some fields, those that are present and resolved. -/
def keptAmong (pool : Pool) (fields : List (Option Field)) : List Field :=
  (fields.filterMap id).filter (!pool.unresolved ·)

theorem mem_keptFields {pool : Pool} {message : Message} {field : Field} :
    field ∈ pool.keptFields message ↔ some field ∈ message.fields ∧ pool.unresolved field = false := by
  simp [keptFields]

theorem referred?_of_unresolved {pool : Pool} {field : Field} (missing : pool.unresolved field = true) :
    pool.referred? field = none := by
  simp_all [unresolved, referred?]

/-- A kept field holds a message exactly when it is composite. -/
theorem referred?_of_kept {pool : Pool} {field : Field} (kept : pool.unresolved field = false)
    (composite : field.kind.isComposite = true) : ∃ message, pool.referred? field = some message := by
  simp only [unresolved, composite, Bool.true_and, Option.isNone_eq_false_iff] at kept
  obtain ⟨message, found⟩ := Option.isSome_iff_exists.mp kept
  exact ⟨message, by simp [referred?, composite, found]⟩

theorem mem_references {pool : Pool} {message held : Message} {field : Field}
    (member : field ∈ pool.keptFields message) (holds : pool.referred? field = some held) :
    held ∈ pool.references message :=
  List.mem_filterMap.mpr ⟨some field, (mem_keptFields.mp member).1, holds⟩

end Descriptor.Pool

namespace Walk

variable {pool : Pool} {key : Message → String}

/-- The fields that a walk shows, in the order of their steps. -/
def shown (steps : List Step) : List Field :=
  steps.filterMap Step.field?

@[simp] theorem entered_nil : entered [] = [] := rfl

@[simp] theorem entered_append (first second : List Step) :
    entered (first ++ second) = entered first ++ entered second :=
  List.filterMap_append

@[simp] theorem entered_enter (message : Message) (steps : List Step) :
    entered (.enter message :: steps) = message :: entered steps := rfl

@[simp] theorem entered_field (field : Field) (steps : List Step) :
    entered (.field field :: steps) = entered steps := rfl

@[simp] theorem entered_skip (field : Field) (steps : List Step) :
    entered (.skip field :: steps) = entered steps := rfl

@[simp] theorem entered_leave (message : Message) (steps : List Step) :
    entered (.leave message :: steps) = entered steps := rfl

@[simp] theorem shown_nil : shown [] = [] := rfl

@[simp] theorem shown_append (first second : List Step) :
    shown (first ++ second) = shown first ++ shown second :=
  List.filterMap_append

@[simp] theorem shown_enter (message : Message) (steps : List Step) :
    shown (.enter message :: steps) = shown steps := rfl

@[simp] theorem shown_field (field : Field) (steps : List Step) :
    shown (.field field :: steps) = field :: shown steps := rfl

@[simp] theorem shown_skip (field : Field) (steps : List Step) :
    shown (.skip field :: steps) = shown steps := rfl

@[simp] theorem shown_leave (message : Message) (steps : List Step) :
    shown (.leave message :: steps) = shown steps := rfl

/-- The walk below a field. -/
def below (pool : Pool) (key : Message → String) (seen : List String) (field : Field) : List Step :=
  match field.kind.isComposite, field.message with
  | true, some place => visit pool key seen place
  | _, _ => []

theorem visit_missing {place : Nat} (missing : pool.messages[place]? = none) (seen : List String) :
    visit pool key seen place = [] := by
  rw [visit]
  split
  · rfl
  · simp_all

/-- The walk below a field starts at the message that the field holds. -/
theorem below_cases (pool : Pool) (key : Message → String) (seen : List String) (field : Field) :
    (pool.referred? field = none ∧ below pool key seen field = []) ∨
      ∃ place message, pool.messages[place]? = some message ∧ pool.referred? field = some message ∧
        below pool key seen field = visit pool key seen place := by
  unfold below Pool.referred? Pool.message?
  cases composite : field.kind.isComposite with
  | false => exact .inl ⟨rfl, rfl⟩
  | true =>
    cases reference : field.message with
    | none => exact .inl ⟨rfl, rfl⟩
    | some place =>
      cases found : pool.messages[place]? with
      | none =>
        exact .inl ⟨by simp [found], visit_missing found seen⟩
      | some message =>
        exact .inr ⟨place, message, found, by simp [found], rfl⟩

theorem visit_known {seen : List String} {place : Nat} {message : Message}
    (found : pool.messages[place]? = some message) (known : key message ∈ seen) :
    visit pool key seen place = [] := by
  rw [visit]
  split
  · rfl
  · simp_all

theorem visit_fresh {seen : List String} {place : Nat} {message : Message}
    (found : pool.messages[place]? = some message) (fresh : key message ∉ seen) :
    visit pool key seen place =
      .enter message :: visitFields pool key (key message :: seen) message.fields ++ [.leave message] := by
  rw [visit]
  split
  · simp_all
  · simp_all

@[simp] theorem visitFields_nil (seen : List String) : visitFields pool key seen [] = [] := by
  rw [visitFields]

@[simp] theorem visitFields_none (seen : List String) (rest : List (Option Field)) :
    visitFields pool key seen (none :: rest) = visitFields pool key seen rest := by
  rw [visitFields]

theorem visitFields_unresolved {field : Field} (missing : pool.unresolved field = true)
    (seen : List String) (rest : List (Option Field)) :
    visitFields pool key seen (some field :: rest) = .skip field :: visitFields pool key seen rest := by
  rw [visitFields, if_pos missing]

theorem visitFields_kept {field : Field} (kept : pool.unresolved field = false)
    (seen : List String) (rest : List (Option Field)) :
    visitFields pool key seen (some field :: rest) =
      below pool key seen field ++ .field field ::
        visitFields pool key ((entered (below pool key seen field)).map key ++ seen) rest := by
  rw [visitFields, if_neg (by simp [kept])]
  rfl

/-- The rules of a walk: what holds of messages met before and carries over from the fields of a
message to the message, and from the first of some fields and the others to all of them, holds of
every walk. -/
theorem induction_on (pool : Pool) (key : Message → String)
    {visits : List String → Nat → Message → Prop} {walks : List String → List (Option Field) → Prop}
    (known : ∀ seen place message, pool.messages[place]? = some message → key message ∈ seen →
      visits seen place message)
    (fresh : ∀ seen place message, pool.messages[place]? = some message → key message ∉ seen →
      walks (key message :: seen) message.fields → visits seen place message)
    (nil : ∀ seen, walks seen [])
    (absent : ∀ seen rest, walks seen rest → walks seen (none :: rest))
    (unresolved : ∀ seen field rest, pool.unresolved field = true → walks seen rest →
      walks seen (some field :: rest))
    (kept : ∀ seen field rest, pool.unresolved field = false →
      (∀ place message, pool.messages[place]? = some message → visits seen place message) →
      walks ((entered (below pool key seen field)).map key ++ seen) rest →
      walks seen (some field :: rest)) :
    (∀ seen place message, pool.messages[place]? = some message → visits seen place message) ∧
      ∀ seen fields, walks seen fields := by
  have both := visit.mutual_induct pool key
    (fun seen place => ∀ message, pool.messages[place]? = some message → visits seen place message)
    walks ?_ ?_ ?_ nil absent unresolved ?_
  · exact ⟨fun seen place => both.1 seen place, both.2⟩
  · intro seen place missing message found
    simp [missing] at found
  · intro seen place message found old other same
    obtain rfl := Option.some.inj (found.symm.trans same)
    exact known seen place message found (by simpa using old)
  · intro seen place message found new walked other same
    obtain rfl := Option.some.inj (found.symm.trans same)
    exact fresh seen place message found (by simpa using new) walked
  · intro seen field rest resolved steps visited walked
    exact kept seen field rest (by simpa using resolved) visited walked

theorem preorder_both (pool : Pool) (key : Message → String) :
    (∀ seen place message, pool.messages[place]? = some message →
      Preorder pool.references key seen [message] (entered (visit pool key seen place))) ∧
    ∀ seen fields, Preorder pool.references key seen (pool.referredBy fields)
      (entered (visitFields pool key seen fields)) := by
  apply induction_on pool key
  · intro seen place message found old
    rw [visit_known found old]
    exact .known old .done
  · intro seen place message found new walked
    have first := Preorder.fresh new walked .done
    rw [visit_fresh found new]
    simpa using first
  · intro seen
    rw [visitFields_nil]
    exact .done
  · intro seen rest walked
    rw [visitFields_none]
    exact walked
  · intro seen field rest missing walked
    rw [visitFields_unresolved missing]
    simpa [Pool.referredBy, Pool.referred?_of_unresolved missing] using walked
  · intro seen field rest resolved visited walked
    rw [visitFields_kept resolved, entered_append, entered_field]
    rcases below_cases pool key seen field with ⟨none_held, empty⟩ | ⟨place, message, found, held, same⟩
    · rw [empty] at walked ⊢
      simpa [Pool.referredBy, none_held] using walked
    · have first := visited place message found
      rw [same] at walked ⊢
      have split : pool.referredBy (some field :: rest) = [message] ++ pool.referredBy rest := by
        simp [Pool.referredBy, held]
      rw [split]
      exact first.append walked

/-- A walk enters messages in depth-first order. -/
theorem preorder_visit {seen : List String} {place : Nat} {message : Message}
    (found : pool.messages[place]? = some message) :
    Preorder pool.references key seen [message] (entered (visit pool key seen place)) :=
  (preorder_both pool key).1 seen place message found

theorem mem_shown_both (pool : Pool) (key : Message → String) (field : Field) :
    (∀ seen place message, pool.messages[place]? = some message →
      (field ∈ shown (visit pool key seen place) ↔
        ∃ owner ∈ entered (visit pool key seen place), field ∈ pool.keptFields owner)) ∧
    ∀ seen fields, (field ∈ shown (visitFields pool key seen fields) ↔
      field ∈ pool.keptAmong fields ∨
        ∃ owner ∈ entered (visitFields pool key seen fields), field ∈ pool.keptFields owner) := by
  apply induction_on pool key
  · intro seen place message found old
    simp [visit_known found old]
  · intro seen place message found new walked
    rw [visit_fresh found new]
    simpa [Pool.keptFields, Pool.keptAmong] using walked
  · intro seen
    simp [Pool.keptAmong]
  · intro seen rest walked
    simpa [Pool.keptAmong] using walked
  · intro seen other rest missing walked
    rw [visitFields_unresolved missing]
    simpa [Pool.keptAmong, missing] using walked
  · intro seen other rest resolved visited walked
    have inside : field ∈ shown (below pool key seen other) ↔
        ∃ owner ∈ entered (below pool key seen other), field ∈ pool.keptFields owner := by
      rcases below_cases pool key seen other with ⟨_, empty⟩ | ⟨place, message, found, _, same⟩
      · simp [empty]
      · rw [same]
        exact visited place message found
    rw [visitFields_kept resolved]
    have kept : pool.keptAmong (some other :: rest) = other :: pool.keptAmong rest := by
      simp [Pool.keptAmong, resolved]
    simp only [shown_append, shown_field, entered_append, entered_field, List.mem_append, kept,
      List.mem_cons, inside, walked, or_and_right, exists_or, or_assoc, or_left_comm]

/-- A walk shows the kept fields of the messages that it enters and no others. -/
theorem mem_shown_visit {seen : List String} {place : Nat} {message : Message} {field : Field}
    (found : pool.messages[place]? = some message) :
    field ∈ shown (visit pool key seen place) ↔
      ∃ owner ∈ entered (visit pool key seen place), field ∈ pool.keptFields owner :=
  (mem_shown_both pool key field).1 seen place message found

end Walk

end Subgraph
