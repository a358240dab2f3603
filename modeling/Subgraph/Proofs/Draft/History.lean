import Subgraph.Proofs.Draft.Advance

namespace Subgraph.Build

open Descriptor

/-- The registers have grown since the call was made, and the message that it was made for is among
the ones registered. -/
structure Call.Precedes (call : Call) (registers : Registers) : Prop where
  grows : call.registers.Grows registers
  registered : ∀ side message, call.sought = .message side message →
    ∃ place, (registers.on side).find? (side.key message) = some place

theorem Call.Precedes.later {call : Call} {before after : Registers} (precedes : call.Precedes before)
    (grows : before.Grows after) : call.Precedes after := by
  refine ⟨precedes.grows.trans grows, fun side message sought => ?_⟩
  obtain ⟨place, found⟩ := precedes.registered side message sought
  exact ⟨place, grows side _ place found⟩

namespace Call

/-- The message that a definition of a side was looked up for. -/
def met? (side : Side) (call : Call) : Option Message :=
  match call.sought with
  | .message other message => if other = side then some message else none
  | .enum _ => none

/-- The same, if there was no definition yet, so that the fields of the message were walked. -/
def walked? (side : Side) (call : Call) : Option Message :=
  (call.met? side).filter fun message => ((call.registers.on side).find? (side.key message)).isNone

def enum? (call : Call) : Option Enum :=
  match call.sought with
  | .message .. => none
  | .enum enum => some enum

end Call

namespace Draft

/-- The messages looked up on a side, in their order, as often as they were. -/
def met (draft : Draft) (side : Side) : List Message :=
  draft.calls.filterMap (Call.met? side)

/-- The messages whose fields were walked. -/
def walked (draft : Draft) (side : Side) : List Message :=
  draft.calls.filterMap (Call.walked? side)

/-- The enums looked up. -/
def enumsMet (draft : Draft) : List Enum :=
  draft.calls.filterMap Call.enum?

/-- Registers agree with their indexes, now and whenever something was looked up, and they have only
grown from each of these moments to the next. -/
structure Sound (draft : Draft) : Prop where
  consistent : draft.registers.Consistent
  recorded : ∀ call ∈ draft.calls, call.registers.Consistent
  past : ∀ call ∈ draft.calls, call.Precedes draft.registers
  ordered : draft.calls.Pairwise fun earlier later => earlier.Precedes later.registers

theorem sound_empty : Sound {} :=
  ⟨Registers.consistent_empty, by simp, by simp, .nil⟩

variable {before after : Draft}

theorem Advance.consistent (step : Advance before after) (consistent : before.registers.Consistent) :
    after.registers.Consistent := by
  cases step with
  | again _ => exact consistent
  | @first side message fresh =>
    have named := (side.nameOf_start message).symm
    refine consistent.modify ?_
    rw [named] at fresh ⊢
    exact (consistent.on side).add fresh
  | enumAgain _ => exact consistent
  | @enumFirst enum fresh =>
    have unnamed : before.registers.enums.find? (enumType enum).name = none := fresh
    exact ⟨consistent.types, consistent.inputs, consistent.enums.add unnamed⟩
  | change kept => exact consistent.modify ((consistent.on _).change kept)
  | @root operation field => cases operation <;> exact consistent

theorem Advance.grows (step : Advance before after) : before.registers.Grows after.registers := by
  cases step with
  | again _ => exact .refl _
  | first fresh => exact Registers.grows_add fresh
  | enumAgain _ => exact .refl _
  | enumFirst _ => exact Registers.grows_enums _ _
  | change _ => exact Registers.grows_change _ _ _ _
  | @root operation field => cases operation <;> exact .refl _

/-- A step makes one call at most, and registers the message that it is made for. -/
theorem Advance.calls (step : Advance before after) :
    after.calls = before.calls ∨ ∃ sought, after.calls = before.calls ++ [⟨sought, before.registers⟩] ∧
      ∀ side message, sought = .message side message →
        ∃ place, (after.registers.on side).find? (side.key message) = some place := by
  cases step with
  | @again side message place found =>
    refine .inr ⟨_, rfl, ?_⟩
    rintro _ _ ⟨⟩
    exact ⟨place, found⟩
  | @first side message fresh =>
    refine .inr ⟨_, rfl, ?_⟩
    rintro _ _ ⟨⟩
    exact ⟨(before.registers.on side).entries.length, by simp [enter, record]⟩
  | enumAgain _ => exact .inr ⟨_, rfl, by rintro _ _ ⟨⟩⟩
  | enumFirst _ => exact .inr ⟨_, rfl, by rintro _ _ ⟨⟩⟩
  | change _ => exact .inl rfl
  | @root operation field => cases operation <;> exact .inl rfl

theorem Advance.sound (step : Advance before after) (sound : Sound before) : Sound after := by
  have consistent := step.consistent sound.consistent
  have past : ∀ call ∈ before.calls, call.Precedes after.registers :=
    fun call member => (sound.past call member).later step.grows
  rcases step.calls with same | ⟨sought, more, registered⟩
  · exact ⟨consistent, same ▸ sound.recorded, same ▸ past, same ▸ sound.ordered⟩
  · refine ⟨consistent, ?_, ?_, ?_⟩
    · rw [more, List.forall_mem_append, List.forall_mem_singleton]
      exact ⟨sound.recorded, sound.consistent⟩
    · rw [more, List.forall_mem_append, List.forall_mem_singleton]
      exact ⟨past, step.grows, registered⟩
    · rw [more, List.pairwise_append]
      refine ⟨sound.ordered, List.pairwise_singleton .., fun call member last final => ?_⟩
      rw [List.mem_singleton.mp final]
      exact sound.past call member

theorem Advances.sound (steps : Advances before after) (sound : Sound before) : Sound after := by
  induction steps with
  | refl => exact sound
  | tail _ step ih => exact step.sound ih

theorem Advances.grows (steps : Advances before after) : before.registers.Grows after.registers := by
  induction steps with
  | refl => exact .refl _
  | tail _ step ih => exact ih.trans step.grows

theorem Advances.consistent (steps : Advances before after) (consistent : before.registers.Consistent) :
    after.registers.Consistent := by
  induction steps with
  | refl => exact consistent
  | tail _ step ih => exact step.consistent ih

/-- The place given for a message is the one that the index gives for its name. -/
theorem resolve_found {side : Side} {pool : Pool} {limit : Nat} {draft : Draft} {message : Message}
    {place : Nat} (done : resolve side pool limit draft message = some (after, place)) :
    (after.registers.on side).find? (side.key message) = some place := by
  rcases resolve_cases done with ⟨found, rfl⟩ | ⟨less, filled, key?, rfl, fresh, walked, rfl, rfl⟩
  · exact found
  · have below := (foldlM_addField_advances resolve_advances walked).grows
    have registered := below side (side.key message) (draft.registers.on side).entries.length
      (by simp [enter, record])
    simpa [change] using registered

/-- The definition that stands there has the name of the message. -/
theorem resolve_named {side : Side} {pool : Pool} {limit : Nat} {draft : Draft} {message : Message}
    {place : Nat} (consistent : draft.registers.Consistent)
    (done : resolve side pool limit draft message = some (after, place)) :
    ∃ entry, (after.registers.on side).entries[place]? = some entry ∧
      side.nameOf entry = side.key message :=
  (((resolve_advances done).consistent consistent).on side).entry_of_find? (resolve_found done)

end Draft

end Subgraph.Build
