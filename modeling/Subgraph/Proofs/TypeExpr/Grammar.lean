import Subgraph.Proofs.TypeExpr

namespace Subgraph

namespace Text

/-- No code point is in a range of both tables. -/
def Ranges.Apart (first second : Ranges) : Prop :=
  ∀ one ∈ first, ∀ other ∈ second, one.2 < other.1 ∨ other.2 < one.1

instance (first second : Ranges) : Decidable (first.Apart second) :=
  inferInstanceAs (Decidable (∀ one ∈ first, ∀ other ∈ second, one.2 < other.1 ∨ other.2 < one.1))

theorem Ranges.Apart.not_contains {first second : Ranges} (apart : first.Apart second) {c : Char}
    (inside : second.contains c = true) : first.contains c = false := by
  rw [Bool.eq_false_iff]
  intro also
  obtain ⟨one, one_mem, one_holds⟩ := List.any_eq_true.mp also
  obtain ⟨other, other_mem, other_holds⟩ := List.any_eq_true.mp inside
  have gap := apart one one_mem other other_mem
  simp only [Bool.and_eq_true, decide_eq_true_eq] at one_holds other_holds
  omega

/-- The tables looked through once: blanks, marks and brackets are no letters and no numbers. -/
theorem solid_tables :
    blankRanges.Apart letterRanges ∧ blankRanges.Apart numberRanges ∧
      ['!', '[', ']'].all (fun sign => !isAlphanumeric sign) = true := by
  decide +kernel

theorem isBlank_of_isAlphanumeric {c : Char} (alphanumeric : isAlphanumeric c = true) :
    isBlank c = false := by
  rcases (Bool.or_eq_true _ _).mp alphanumeric with letter | number
  · exact solid_tables.1.not_contains letter
  · exact solid_tables.2.1.not_contains number

end Text

namespace TypeExpr

open Text

/-- A text made from a base by putting blanks around it, a mark after it or brackets around it, any
number of times. -/
inductive Decorated (base : List Char) : List Char → Prop
  | bare : Decorated base base
  | padded {text before after : List Char} (inner : Decorated base text)
      (front : ∀ c ∈ before, isBlank c = true) (back : ∀ c ∈ after, isBlank c = true) :
      Decorated base (before ++ text ++ after)
  | marked {text : List Char} (inner : Decorated base text) : Decorated base (text ++ ['!'])
  | listed {text : List Char} (inner : Decorated base text) : Decorated base ('[' :: text ++ [']'])

/-- A name that a type expression may be built on. It begins with a letter or an underscore, has letters,
numbers and underscores only, and is not made of underscores alone. -/
structure IsBase (name : List Char) : Prop where
  start : ∃ c rest, name = c :: rest ∧ (isAlphabetic c = true ∨ c = '_')
  chars : ∀ c ∈ name, isAlphanumeric c = true ∨ c = '_'
  distinctive : ∃ c ∈ name, c ≠ '_'

/-- The grammar derives the type from the base. -/
def Derives (type base : String) : Prop :=
  IsBase base.toList ∧ Decorated base.toList type.toList

/-- Decorations are taken off again, down to the base. -/
theorem Decorated.peel_eq {base text : List Char} (decorated : Decorated base text) :
    peel text = peel base := by
  induction decorated with
  | bare => rfl
  | padded inner front back ih =>
    rw [← ih]
    apply peel_congr
    rw [trim_append_right _ back, trim_append_left front]
  | marked inner ih => rw [peel_mark, ih]
  | listed inner ih => rw [peel_wrap, ih]

/-- Blanks at the ends of a text are decoration. -/
theorem Decorated.of_trim {base text : List Char} (inner : Decorated base (trim text)) :
    Decorated base text := by
  obtain ⟨before, after, front, back, whole⟩ := exists_blanks_around text
  have around := inner.padded front back
  rwa [← whole] at around

/-- Every text is what peeling leaves of it, decorated. -/
theorem decorated_peel (text : List Char) : Decorated (peel text) text := by
  fun_induction peel text with
  | case1 text last ih =>
    obtain ⟨body, shape⟩ := List.getLast?_eq_some_iff.mp last
    refine .of_trim ?_
    rw [shape, List.dropLast_concat] at ih ⊢
    exact ih.marked
  | case2 text unmarked inner found ih =>
    refine .of_trim ?_
    rw [unwrap?_eq_some found]
    exact ih.listed
  | case3 text unmarked found => exact .of_trim .bare

/-- Brackets come and go in pairs. -/
theorem Decorated.balanced {base text : List Char} (decorated : Decorated base text)
    (balanced : base.count '[' = base.count ']') : text.count '[' = text.count ']' := by
  have absent {sign : Char} (solid : isBlank sign = false) {blanks : List Char}
      (blank : ∀ c ∈ blanks, isBlank c = true) : blanks.count sign = 0 :=
    List.count_eq_zero.mpr fun member => absurd (blank sign member) (by simp [solid])
  induction decorated with
  | bare => exact balanced
  | padded inner front back ih =>
    have opening : isBlank '[' = false := by decide
    have closing : isBlank ']' = false := by decide
    simp only [List.count_append, ih, absent opening front, absent opening back, absent closing front,
      absent closing back]
  | marked inner ih => simpa using ih
  | listed inner ih => simp [ih]

namespace IsBase

variable {base : List Char} (named : IsBase base)

include named

theorem ne_nil : base ≠ [] := by
  obtain ⟨c, rest, rfl, _⟩ := named.start
  exact List.cons_ne_nil c rest

theorem solid {c : Char} (member : c ∈ base) : isBlank c = false := by
  rcases named.chars c member with alphanumeric | rfl
  · exact isBlank_of_isAlphanumeric alphanumeric
  · decide

/-- Marks and brackets do not occur in a base. -/
theorem plain {sign : Char} (decorative : sign ∈ ['!', '[', ']']) : sign ∉ base := by
  intro member
  have excluded := List.all_eq_true.mp solid_tables.2.2 sign decorative
  rcases named.chars sign member with alphanumeric | rfl
  · simp [alphanumeric] at excluded
  · exact absurd decorative (by decide)

/-- Nothing can be taken off a base. -/
theorem peel_eq : peel base = base :=
  peel_eq_self_of_plain (fun _ => named.solid) (named.plain (by decide)) (named.plain (by decide))

theorem balanced : base.count '[' = base.count ']' := by
  rw [List.count_eq_zero.mpr (named.plain (by decide)), List.count_eq_zero.mpr (named.plain (by decide))]

end IsBase

theorem isBaseName_iff {base : List Char} : isBaseName base = true ↔ IsBase base := by
  cases base with
  | nil =>
    constructor
    · intro named
      cases named
    · exact fun named => absurd rfl named.ne_nil
  | cons c rest =>
    simp only [isBaseName, Bool.and_eq_true, List.any_eq_true, List.all_eq_true, Bool.or_eq_true,
      beq_iff_eq, bne_iff_ne]
    constructor
    · rintro ⟨⟨start, distinctive⟩, chars⟩
      exact ⟨⟨c, rest, rfl, start⟩, fun d member => (chars d member).symm, distinctive⟩
    · rintro ⟨⟨d, others, same, start⟩, chars, distinctive⟩
      cases same
      exact ⟨⟨start, distinctive⟩, fun d member => (chars d member).symm⟩

theorem peel_nil : peel [] = [] :=
  peel_eq_self rfl (by simp) rfl

theorem toList_baseName (type : String) : (baseName type).toList = peel type.toList :=
  String.toList_ofList

theorem check_eq_none_iff {type : String} :
    check type = none ↔ type ≠ "" ∧ type.toList.count '[' = type.toList.count ']' ∧
      IsBase (baseName type).toList := by
  rw [← isBaseName_iff, check]
  by_cases empty : type = ""
  · simp [empty]
  · by_cases balanced : type.toList.count '[' = type.toList.count ']'
    · by_cases missing : baseName type = ""
      · simp [empty, balanced, missing, isBaseName]
      · simp [empty, balanced, missing]
    · simp [empty, balanced]

/-- A type is derived from its base name alone, and only if it is accepted. -/
theorem derives_iff {type base : String} :
    Derives type base ↔ check type = none ∧ base = baseName type := by
  constructor
  · rintro ⟨named, decorated⟩
    have peeled : peel type.toList = base.toList := decorated.peel_eq.trans named.peel_eq
    have found : base = baseName type := by
      rw [← String.toList_inj, toList_baseName, peeled]
    refine ⟨check_eq_none_iff.mpr ⟨?_, decorated.balanced named.balanced, found ▸ named⟩, found⟩
    rintro rfl
    exact named.ne_nil (peeled.symm.trans peel_nil)
  · rintro ⟨accepted, rfl⟩
    obtain ⟨_, _, named⟩ := check_eq_none_iff.mp accepted
    refine ⟨named, ?_⟩
    rw [toList_baseName]
    exact decorated_peel type.toList

/-- The check accepts exactly the types that the grammar derives, and the name that a type is derived
from is its base name. -/
theorem check_accepts_grammar (type : String) :
    (check type = none ↔ ∃ base, Derives type base) ∧
      ∀ base, Derives type base → base = baseName type := by
  constructor
  · constructor
    · intro accepted
      exact ⟨baseName type, derives_iff.mpr ⟨accepted, rfl⟩⟩
    · rintro ⟨base, derived⟩
      exact (derives_iff.mp derived).1
  · intro base derived
    exact (derives_iff.mp derived).2

end TypeExpr

end Subgraph
