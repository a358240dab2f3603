import Subgraph.Descriptor

namespace Subgraph

open Descriptor

/-- What happens at one point of a walk. A field follows what lies below it. -/
inductive Step where
  | enter (message : Message)
  | field (field : Field)
  | skip (field : Field)
  | leave (message : Message)
  deriving DecidableEq, Repr

namespace Step

def entered? : Step → Option Message
  | enter message => some message
  | _ => none

def field? : Step → Option Field
  | .field shown => some shown
  | _ => none

end Step

namespace Walk

/-- The messages entered, in order. -/
def entered (steps : List Step) : List Message :=
  steps.filterMap Step.entered?

/-- The number of messages in the pool whose keys have not been seen. -/
def unseen (pool : Pool) (key : Message → String) (seen : List String) : Nat :=
  pool.messages.countP fun message => !seen.contains (key message)

theorem unseen_append_le (pool : Pool) (key : Message → String) (more seen : List String) :
    unseen pool key (more ++ seen) ≤ unseen pool key seen :=
  List.countP_mono_left fun message _ fresh => by
    simp only [List.contains_append, Bool.not_or, Bool.and_eq_true] at fresh
    exact fresh.2

theorem unseen_cons_lt {pool : Pool} {key : Message → String} {seen : List String}
    {message : Message} (member : message ∈ pool.messages) (fresh : seen.contains (key message) = false) :
    unseen pool key (key message :: seen) < unseen pool key seen := by
  unfold unseen
  generalize pool.messages = messages at member
  induction messages with
  | nil => simp at member
  | cons first rest ih =>
    have weaker : ∀ list : List Message,
        list.countP (fun m => !(key message :: seen).contains (key m)) ≤
          list.countP (fun m => !seen.contains (key m)) := fun list =>
      List.countP_mono_left fun m _ unseen => by
        simp only [List.contains_cons, Bool.not_or, Bool.and_eq_true] at unseen
        exact unseen.2
    rcases List.mem_cons.mp member with rfl | later
    · have others := weaker rest
      simp only [List.countP_cons, List.contains_cons, BEq.rfl, Bool.true_or, Bool.not_true, fresh,
        Bool.not_false, if_true]
      simp only [List.contains_cons] at others
      simp only [Bool.false_eq_true, if_false, Nat.add_zero]
      omega
    · have others := ih later
      have here := weaker [first]
      simp only [List.countP_cons, List.countP_nil] at here ⊢
      omega

mutual

/-- The walk from the message at a place of the pool, depth first, when the keys `seen` have been entered
before. A message counts as entered before its fields are walked, so messages that refer to each other
come to an end. -/
def visit (pool : Pool) (key : Message → String) (seen : List String) (place : Nat) : List Step :=
  match _found : pool.messages[place]? with
  | none => []
  | some message =>
    if _fresh : seen.contains (key message) then []
    else
      .enter message :: visitFields pool key (key message :: seen) message.fields ++ [.leave message]
termination_by (unseen pool key seen, 0)
decreasing_by
  exact Prod.Lex.left _ _ (unseen_cons_lt (List.mem_of_getElem? (by assumption))
    (Bool.eq_false_iff.mpr (by assumption)))

/-- The walk through fields in order. A field that refers to a message outside of the pool is
skipped. -/
def visitFields (pool : Pool) (key : Message → String) (seen : List String) :
    List (Option Field) → List Step
  | [] => []
  | none :: rest => visitFields pool key seen rest
  | some field :: rest =>
    if pool.unresolved field then .skip field :: visitFields pool key seen rest
    else
      let below :=
        match field.kind.isComposite, field.message with
        | true, some place => visit pool key seen place
        | _, _ => []
      below ++ .field field :: visitFields pool key ((entered below).map key ++ seen) rest
termination_by fields => (unseen pool key seen, fields.length + 1)
decreasing_by
  · exact Prod.Lex.right _ (by simp)
  · exact Prod.Lex.right _ (by simp)
  · exact Prod.Lex.right _ (by simp)
  · rcases Nat.lt_or_eq_of_le (unseen_append_le pool key ((entered _).map key) seen) with less | same
    · exact Prod.Lex.left _ _ less
    · rw [same]
      exact Prod.Lex.right _ (by simp)

end

end Walk

end Subgraph
