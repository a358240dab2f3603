import Subgraph.Proofs.SnakeCase

namespace Subgraph

namespace Words

open Text

theorem isAlphanum_of_isNameChar {c : Char} (allowed : isNameChar c = true) (other : c ≠ '_') :
    c.isAlphanum = true := by
  simpa [isNameChar, other] using allowed

theorem toLower_of_small {c : Char} (small : (c.isLower || c.isDigit) = true) : c.toLower = c :=
  (caseFacts (isAlphanum_ascii (isAlphanum_of_small small))).lower_of_not_upper (not_isUpper_of_small small)

section TypeName

/-- A GraphQL name keeps all but the case of its first character. -/
theorem IsName.typeName_eq {c : Char} {rest : List Char} (named : IsName (c :: rest)) :
    typeName (c :: rest) = c.toUpper :: rest := by
  obtain ⟨-, start, allowed⟩ := named
  have here := allowed c List.mem_cons_self
  have letter : c.toUpper.isDigit = false := (caseFacts (isNameChar_ascii here)).digit_upper.trans (start c rfl)
  have raised : upperFirst (c :: rest) = c.toUpper :: rest := by
    rw [upperFirst, upper_ascii (isNameChar_ascii here)]
    rfl
  have kept : (c.toUpper :: rest).filter isNameChar = c.toUpper :: rest :=
    List.filter_eq_self.mpr (List.forall_mem_cons.mpr
      ⟨(nameCharFacts here).raised, fun d later => allowed d (List.mem_cons_of_mem _ later)⟩)
  rw [typeName, raised, kept, guardDigit, if_neg (by simp [letter])]

theorem IsName.exists_cons {name : List Char} (named : IsName name) :
    ∃ c rest, name = c :: rest ∧ isNameChar c = true := by
  obtain ⟨nonempty, -, allowed⟩ := named
  obtain ⟨c, rest, rfl⟩ := List.exists_cons_of_ne_nil nonempty
  exact ⟨c, rest, rfl, allowed c List.mem_cons_self⟩

theorem IsName.typeName_typeName {name : List Char} (named : IsName name) :
    typeName (typeName name) = typeName name := by
  obtain ⟨c, rest, rfl, allowed⟩ := named.exists_cons
  have again : IsName (c.toUpper :: rest) := by
    rw [← named.typeName_eq]
    exact isName_typeName (by rw [named.typeName_eq]; simp)
  rw [named.typeName_eq, again.typeName_eq, (caseFacts (isNameChar_ascii allowed)).upper_upper]

/-- The names are equal but for the case of their first characters. -/
def SameButFirstCase (first second : List Char) : Prop :=
  ∃ c d rest, first = c :: rest ∧ second = d :: rest ∧ c.toLower = d.toLower

theorem toUpper_eq_iff {c d : Char} (allowed : isNameChar c = true) (allowed_too : isNameChar d = true) :
    c.toUpper = d.toUpper ↔ c.toLower = d.toLower := by
  have first := caseFacts (isNameChar_ascii allowed)
  have second := caseFacts (isNameChar_ascii allowed_too)
  constructor
  · intro same
    rw [← first.lower_upper, same, second.lower_upper]
  · intro same
    rw [← first.upper_lower, same, second.upper_lower]

theorem IsName.typeName_eq_iff {first second : List Char} (named : IsName first) (named_too : IsName second) :
    typeName first = typeName second ↔ SameButFirstCase first second := by
  obtain ⟨c, rest, rfl, allowed⟩ := named.exists_cons
  obtain ⟨d, others, rfl, allowed_too⟩ := named_too.exists_cons
  rw [named.typeName_eq, named_too.typeName_eq, List.cons.injEq, toUpper_eq_iff allowed allowed_too]
  constructor
  · rintro ⟨same, rfl⟩
    exact ⟨c, d, rest, rfl, rfl, same⟩
  · rintro ⟨_, _, _, here, there, same⟩
    cases here
    cases there
    exact ⟨same, rfl⟩

end TypeName

section FieldName

/-- The form of field names: letters and digits after a small letter, or after an underscore and a digit. -/
inductive FieldForm : List Char → Prop
  | letter {c : Char} {rest : List Char} (small : c.isLower = true)
      (others : ∀ d ∈ rest, d.isAlphanum = true) : FieldForm (c :: rest)
  | digit {c : Char} {rest : List Char} (digit : c.isDigit = true)
      (others : ∀ d ∈ rest, d.isAlphanum = true) : FieldForm ('_' :: c :: rest)

theorem isName_or_empty_fieldName (name : List Char) : fieldName name = [] ∨ IsName (fieldName name) := by
  cases empty : (camel name).filter isNameChar with
  | nil => exact .inl (by rw [fieldName, empty]; rfl)
  | cons c rest =>
    exact .inr (isName_guardDigit (by rw [empty]; simp) fun d member => List.of_mem_filter member)

theorem capitalise_alphanum {text : List Char} (alphanum : ∀ c ∈ text, c.isAlphanum = true) :
    capitalise 0 text = text := by
  have whole := capitalise_append (fun c member => ne_underscore_of_isAlphanum (alphanum c member)) []
  simpa [capitalise] using whole

/-- No underscore is left where letters or digits follow all of them. -/
theorem isAlphanum_of_mem_capitalise {run : Nat} {text : List Char} (allowed : ∀ c ∈ text, isNameChar c = true)
    (ended : text.getLast? ≠ some '_') (begun : text = [] → run = 0) :
    ∀ c ∈ capitalise run text, c.isAlphanum = true := by
  induction text generalizing run with
  | nil =>
    intro c member
    rw [begun rfl] at member
    cases member
  | cons d text ih =>
    have here := allowed d List.mem_cons_self
    have later : ∀ c ∈ text, isNameChar c = true := fun c inside => allowed c (List.mem_cons_of_mem _ inside)
    have still : text.getLast? ≠ some '_' := fun last => ended (by rw [List.getLast?_cons, last]; rfl)
    rw [capitalise]
    split
    · rename_i underscore
      refine ih later still fun empty => absurd ?_ ended
      rw [empty, underscore]
      rfl
    · rename_i other
      have alphanum := isAlphanum_of_isNameChar here other
      have rest : ∀ c ∈ capitalise 0 text, c.isAlphanum = true := ih later still fun _ => rfl
      split
      · exact List.forall_mem_cons.mpr ⟨isAlphanum_toUpper alphanum, rest⟩
      · rename_i settled
        have none_pending : run = 0 := by simpa [alphanum] using settled
        rw [none_pending]
        exact List.forall_mem_cons.mpr ⟨alphanum, rest⟩

/-- The name of a field from what is left of an identifier between its underscores at the ends. -/
theorem fieldName_of_dropEnds {name rest : List Char} {c : Char} (allowed : ∀ d ∈ name, isNameChar d = true)
    (left : dropEnds (· == '_') name = c :: rest) :
    c.isAlphanum = true ∧ (∀ d ∈ capitalise 0 rest, d.isAlphanum = true) ∧
      fieldName name = guardDigit (c.toLower :: capitalise 0 rest) := by
  have inside : ∀ d ∈ c :: rest, isNameChar d = true := fun d member =>
    allowed d ((dropEnds_sublist _ name).subset (left ▸ member))
  have here := inside c List.mem_cons_self
  have other : c ≠ '_' := by
    have start : (dropEnds (· == '_') name).head? = some c := by rw [left]; rfl
    simpa using head?_dropEnds start
  have ended : (c :: rest).getLast? ≠ some '_' := by
    intro last
    rw [← left] at last
    exact absurd (getLast?_dropEndWhile last) (by simp)
  have alphanum := isAlphanum_of_isNameChar here other
  have others : ∀ d ∈ capitalise 0 rest, d.isAlphanum = true :=
    isAlphanum_of_mem_capitalise (fun d later => inside d (List.mem_cons_of_mem _ later))
      (fun last => ended (by rw [List.getLast?_cons, last]; rfl)) fun _ => rfl
  have camelled : camel name = c.toLower :: capitalise 0 rest := by
    rw [camel, plain_eq_self allowed, left, capitalise_cons other, lowerFirst,
      lower_ascii (isAlphanum_ascii alphanum)]
    rfl
  have kept : (c.toLower :: capitalise 0 rest).filter isNameChar = c.toLower :: capitalise 0 rest :=
    List.filter_eq_self.mpr (List.forall_mem_cons.mpr
      ⟨(nameCharFacts here).lowered, fun d later => isNameChar_of_isAlphanum (others d later)⟩)
  exact ⟨alphanum, others, by rw [fieldName, camelled, kept]⟩

/-- Of underscores alone nothing is left, and any other identifier takes the form of field names. -/
theorem fieldName_form {name : List Char} (allowed : ∀ c ∈ name, isNameChar c = true) :
    (∀ c ∈ name, c = '_') ∧ fieldName name = [] ∨ (∃ c ∈ name, c ≠ '_') ∧ FieldForm (fieldName name) := by
  cases left : dropEnds (· == '_') name with
  | nil =>
    have underscores := dropEnds_eq_nil.mp left
    refine .inl ⟨fun c member => by simpa using underscores c member, ?_⟩
    rw [fieldName, camel, plain_eq_self allowed, left]
    rfl
  | cons c rest =>
    obtain ⟨alphanum, others, named⟩ := fieldName_of_dropEnds allowed left
    have member : c ∈ name := (dropEnds_sublist _ name).subset (left ▸ List.mem_cons_self)
    refine .inr ⟨⟨c, member, ne_underscore_of_isAlphanum alphanum⟩, ?_⟩
    rw [named, guardDigit]
    cases digit : c.isDigit with
    | true =>
      have kept : c.toLower = c := toLower_of_small (by simp [digit])
      rw [kept, if_pos digit]
      exact .digit digit others
    | false =>
      have small := isLower_toLower (by simpa [Char.isAlphanum, digit] using alphanum)
      have letter := not_isDigit_of_isAlpha (isAlpha_of_isLower small)
      rw [if_neg (by simp [letter])]
      exact .letter small others

theorem dropEnds_alphanum {text : List Char} (alphanum : ∀ c ∈ text, c.isAlphanum = true) :
    dropEnds (· == '_') text = text := by
  refine dropEnds_of_forall fun c member => ?_
  simpa using ne_underscore_of_isAlphanum (alphanum c member)

/-- A name in the form of field names is kept. -/
theorem FieldForm.fieldName_eq {name : List Char} (form : FieldForm name) : fieldName name = name := by
  cases form with
  | @letter c rest small others =>
    have alphanum : ∀ d ∈ c :: rest, d.isAlphanum = true :=
      List.forall_mem_cons.mpr ⟨isAlphanum_of_small (by simp [small]), others⟩
    have allowed : ∀ d ∈ c :: rest, isNameChar d = true := fun d member =>
      isNameChar_of_isAlphanum (alphanum d member)
    obtain ⟨_, _, named⟩ := fieldName_of_dropEnds allowed (dropEnds_alphanum alphanum)
    have kept : c.toLower = c := toLower_of_small (by simp [small])
    have letter := not_isDigit_of_isAlpha (isAlpha_of_isLower small)
    rw [named, kept, capitalise_alphanum others, guardDigit, if_neg (by simp [letter])]
  | @digit c rest digit others =>
    have alphanum : ∀ d ∈ c :: rest, d.isAlphanum = true :=
      List.forall_mem_cons.mpr ⟨isAlphanum_of_small (by simp [digit]), others⟩
    have allowed : ∀ d ∈ '_' :: c :: rest, isNameChar d = true :=
      List.forall_mem_cons.mpr ⟨rfl, fun d member => isNameChar_of_isAlphanum (alphanum d member)⟩
    have left : dropEnds (· == '_') ('_' :: c :: rest) = c :: rest := dropEnds_alphanum alphanum
    obtain ⟨_, _, named⟩ := fieldName_of_dropEnds allowed left
    have kept : c.toLower = c := toLower_of_small (by simp [digit])
    rw [named, kept, capitalise_alphanum others, guardDigit, if_pos digit]

theorem fieldName_fieldName {name : List Char} (allowed : ∀ c ∈ name, isNameChar c = true) :
    fieldName (fieldName name) = fieldName name := by
  rcases fieldName_form allowed with ⟨_, empty⟩ | ⟨_, form⟩
  · rw [empty]
    rfl
  · exact form.fieldName_eq

end FieldName

end Words

namespace Naming

theorem toList_fieldName (name : String) : (fieldName name).toList = Words.fieldName name.toList := by
  simp [fieldName, Text.onChars]

/-- Names of definitions and fields are empty or GraphQL names. Those made from identifiers keep their form
when they are made again. Two identifiers give one name of a definition if they are equal but for the case of
their first characters, and an identifier gives an empty name of a field if it has underscores alone. -/
theorem names_formed :
    (∀ text, (typeName text = "" ∨ Words.IsName (typeName text).toList) ∧
        (fieldName text = "" ∨ Words.IsName (fieldName text).toList)) ∧
      ∀ name, Words.IsName name.toList →
        typeName (typeName name) = typeName name ∧ fieldName (fieldName name) = fieldName name ∧
        typeName name ≠ "" ∧
        (∀ other, Words.IsName other.toList →
          (typeName name = typeName other ↔ Words.SameButFirstCase name.toList other.toList)) ∧
        (fieldName name = "" ↔ ∀ c ∈ name.toList, c = '_') ∧
        (fieldName name ≠ "" → Words.FieldForm (fieldName name).toList) := by
  have empty_iff (text : String) : text = "" ↔ text.toList = [] := String.toList_eq_nil_iff.symm
  refine ⟨fun text => ⟨?_, ?_⟩, fun name named => ?_⟩
  · rw [empty_iff, toList_typeName]
    exact Decidable.or_iff_not_imp_left.mpr Words.isName_typeName
  · rw [empty_iff, toList_fieldName]
    exact Words.isName_or_empty_fieldName _
  · have form := Words.fieldName_form named.2.2
    simp only [← String.toList_inj, Ne, toList_typeName, toList_fieldName, String.toList_empty]
    refine ⟨named.typeName_typeName, Words.fieldName_fieldName named.2.2, ?_,
      fun other named_too => named.typeName_eq_iff named_too, ?_, ?_⟩
    · intro empty
      obtain ⟨c, rest, shape, _⟩ := named.exists_cons
      rw [shape] at named empty
      rw [named.typeName_eq] at empty
      cases empty
    · rcases form with ⟨underscores, empty⟩ | ⟨⟨c, member, other⟩, formed⟩
      · exact ⟨fun _ => underscores, fun _ => empty⟩
      · refine ⟨fun empty => ?_, fun underscores => absurd (underscores c member) other⟩
        rw [empty] at formed
        cases formed
    · intro filled
      exact form.elim (fun none => absurd none.2 filled) (·.2)

theorem names_formed_code :
    Words.IsName "_2fa__code_".toList ∧ Words.IsName "order".toList ∧ Words.IsName "Order".toList ∧
      fieldName "_2fa__code_" = "_2faCode" ∧ fieldName "_2faCode" = "_2faCode" ∧
      Words.FieldForm "_2faCode".toList ∧ typeName "order" = typeName "Order" := by
  have code : Words.IsName "_2fa__code_".toList := by decide
  have small : Words.IsName "order".toList := by decide
  have capital : Words.IsName "Order".toList := by decide
  have shown : fieldName "_2fa__code_" = "_2faCode" := by decide +kernel
  obtain ⟨-, again, -, -, -, formed⟩ := names_formed.2 _ code
  rw [shown] at again formed
  refine ⟨code, small, capital, shown, again, formed (by decide), ?_⟩
  exact ((names_formed.2 _ small).2.2.2.1 _ capital).mpr ⟨'o', 'O', _, rfl, rfl, rfl⟩

end Naming

end Subgraph
