import Mathlib.Computability.StateTransition
import Subgraph.Proofs.TypeExpr.Grammar

namespace Subgraph.TypeExpr

open Text StateTransition

/-- Nothing can be taken off: no blank stands at either end of the text, no mark ends it and no brackets hold
it. -/
structure Undecorated (text : List Char) : Prop where
  trimmed : Trimmed text
  unmarked : text.getLast? ≠ some '!'
  unlisted : ∀ inner, text ≠ '[' :: inner ++ [']']

/-- One round: the mark that ends a trimmed text goes, or else the brackets that hold it, and then the blanks
that stood inside. -/
def peelOnce (text : List Char) : Option (List Char) :=
  if text.getLast? = some '!' then some (trim text.dropLast) else (unwrap? text).map trim

theorem unwrap?_eq_none {text : List Char} :
    unwrap? text = none ↔ ∀ inner, text ≠ '[' :: inner ++ [']'] := by
  constructor
  · rintro missing inner rfl
    rw [unwrap?_wrap] at missing
    cases missing
  · intro unlisted
    cases found : unwrap? text with
    | none => rfl
    | some inner => exact absurd (unwrap?_eq_some found) (unlisted inner)

theorem Undecorated.peel_eq {text : List Char} (bare : Undecorated text) : peel text = text :=
  peel_eq_self bare.trimmed.trim_eq bare.unmarked (unwrap?_eq_none.mpr bare.unlisted)

theorem undecorated_peel (text : List Char) : Undecorated (peel text) := by
  fun_induction peel text with
  | case1 text marked ih => exact ih
  | case2 text unmarked inner found ih => exact ih
  | case3 text unmarked found => exact ⟨trimmed_trim text, unmarked, unwrap?_eq_none.mp found⟩

/-- The rounds that begin at the trimmed text end at what peeling gives. -/
theorem peel_mem_eval (text : List Char) : peel text ∈ eval peelOnce (trim text) := by
  fun_induction peel text with
  | case1 text marked ih =>
    have round : peelOnce (trim text) = some (trim (trim text).dropLast) := if_pos marked
    rwa [reaches_eval (.single round)]
  | case2 text unmarked inner found ih =>
    have round : peelOnce (trim text) = some (trim inner) := by
      rw [peelOnce, if_neg unmarked, found, Option.map_some]
    rwa [reaches_eval (.single round)]
  | case3 text unmarked found =>
    have stopped : peelOnce (trim text) = none := by
      rw [peelOnce, if_neg unmarked, found, Option.map_none]
    exact mem_eval.mpr ⟨.refl, stopped⟩

theorem decorated_decorate (base : String) (repeated required : Bool) :
    Decorated base.toList (decorate base repeated required).toList := by
  have listed : Decorated base.toList (if repeated then '[' :: base.toList ++ [']'] else base.toList) := by
    cases repeated with
    | false => exact .bare
    | true => exact .listed .bare
  rw [toList_decorate]
  cases required with
  | false => simpa using listed
  | true => exact listed.marked

/-- Under any tower of decorations there is one text that nothing can be taken off, and it is the base name. -/
theorem decorated_iff {base type : String} (bare : Undecorated base.toList) :
    Decorated base.toList type.toList ↔ baseName type = base := by
  rw [← String.toList_inj, toList_baseName]
  constructor
  · intro decorated
    rw [decorated.peel_eq, bare.peel_eq]
  · intro peeled
    rw [← peeled]
    exact decorated_peel type.toList

/-- Peeling undoes decoration. A text is a decoration of its base name and of no other text that nothing can be
taken off. For every text the rounds of peeling end, at its base name, which peeling leaves as it is. -/
theorem decoration_undone :
    (∀ base : String, Undecorated base.toList →
      (∀ type : String, Decorated base.toList type.toList ↔ baseName type = base) ∧
      ∀ repeated required, baseName (decorate base repeated required) = base) ∧
    ∀ type : String, (baseName type).toList ∈ eval peelOnce (trim type.toList) ∧
      Undecorated (baseName type).toList ∧ baseName (baseName type) = baseName type := by
  refine ⟨fun base bare => ⟨fun type => decorated_iff bare, fun repeated required => ?_⟩, fun type => ?_⟩
  · exact (decorated_iff bare).mp (decorated_decorate base repeated required)
  · have bare : Undecorated (baseName type).toList := by
      rw [toList_baseName]
      exact undecorated_peel type.toList
    refine ⟨?_, bare, (decorated_iff bare).mp .bare⟩
    rw [toList_baseName]
    exact peel_mem_eval type.toList

/-- A base with a bracket of its own, marked and in a list of which the brackets stand around blanks. -/
theorem decoration_undone_bracket :
    Undecorated "[a".toList ∧ Decorated "[a".toList "[\t[a !]!".toList ∧ baseName "[\t[a !]!" = "[a" ∧
      baseName (decorate "[a" true true) = "[a" := by
  have bare : Undecorated "[a".toList := by
    refine ⟨⟨?_, ?_⟩, by decide, fun inner same => ?_⟩
    · rintro c ⟨⟩
      decide
    · rintro c ⟨⟩
      decide
    · have last := congrArg List.getLast? same
      rw [getLast?_wrap] at last
      cases last
  have marked : Decorated "[a".toList ([] ++ "[a".toList ++ [' '] ++ ['!']) :=
    .marked (.padded .bare (by simp) (List.forall_mem_singleton.mpr rfl))
  have padded : Decorated "[a".toList (['\t'] ++ ([] ++ "[a".toList ++ [' '] ++ ['!']) ++ []) :=
    marked.padded (List.forall_mem_singleton.mpr rfl) (by simp)
  have tower : Decorated "[a".toList "[\t[a !]!".toList := padded.listed.marked
  obtain ⟨undone, plain⟩ := decoration_undone.1 "[a" bare
  exact ⟨bare, tower, (undone _).mp tower, plain true true⟩

end Subgraph.TypeExpr
