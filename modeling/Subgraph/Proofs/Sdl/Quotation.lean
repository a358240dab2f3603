import Mathlib.Algebra.Ring.Parity
import Subgraph.Proofs.Sdl.Reading

namespace Subgraph.Sdl

open Schema Words

/-- How many backslashes a text ends with. -/
def closingBackslashes (text : List Char) : Nat :=
  (text.rtakeWhile (· == '\\')).length

theorem closingBackslashes_backslash (text : List Char) :
    closingBackslashes (text ++ ['\\']) = closingBackslashes text + 1 := by
  rw [closingBackslashes, List.rtakeWhile_concat_pos _ _ _ (by decide), List.length_append]
  rfl

theorem closingBackslashes_other (text : List Char) {c : Char} (other : c ≠ '\\') :
    closingBackslashes (text ++ [c]) = 0 := by
  rw [closingBackslashes, List.rtakeWhile_concat_neg _ _ _ (by simpa using other)]
  rfl

/-- Backslashes escape each other in pairs, so a quote is escaped by an odd number of them. -/
def QuotesEscaped (text : List Char) : Prop :=
  ∀ before after, text = before ++ '"' :: after → Odd (closingBackslashes before)

theorem QuotesEscaped.concat {text : List Char} (inner : QuotesEscaped text) {c : Char}
    (last : c = '"' → Odd (closingBackslashes text)) : QuotesEscaped (text ++ [c]) := by
  intro before after whole
  rcases List.eq_nil_or_concat' after with rfl | ⟨others, d, rfl⟩
  · obtain ⟨rfl, same⟩ := List.append_inj' whole rfl
    exact last (List.head_eq_of_cons_eq same)
  · rw [← List.cons_append, ← List.append_assoc] at whole
    exact inner before others (List.append_inj' whole rfl).1

/-- What may stand between two quotes: escaped quotes only, and an end that escapes nothing. -/
structure Guarded (body : List Char) : Prop where
  quotes : QuotesEscaped body
  ending : Even (closingBackslashes body)

/-- A character that a literal shows as it is. -/
def Plain (c : Char) : Prop :=
  c ≠ '"' ∧ c ≠ '\\' ∧ 0x20 ≤ c.toNat

namespace Guarded

variable {body : List Char}

theorem empty : Guarded [] :=
  ⟨by simp [QuotesEscaped], by simp [closingBackslashes]⟩

theorem plain (guarded : Guarded body) {text : List Char} (each : ∀ c ∈ text, Plain c) :
    Guarded (body ++ text) := by
  induction text using List.reverseRecOn with
  | nil => simpa using guarded
  | append_singleton text c ih =>
    obtain ⟨unquoted, solid, _⟩ := each c (by simp)
    have front := ih fun d member => each d (List.mem_append_left _ member)
    rw [← List.append_assoc]
    refine ⟨front.quotes.concat fun quote => absurd quote unquoted, ?_⟩
    rw [closingBackslashes_other _ solid]
    exact .zero

/-- A backslash and the character after it go together, whichever that is. -/
theorem escaped (guarded : Guarded body) (c : Char) : Guarded (body ++ ['\\', c]) := by
  have split : body ++ ['\\', c] = body ++ ['\\'] ++ [c] := by simp
  have odd : Odd (closingBackslashes (body ++ ['\\'])) := by
    rw [closingBackslashes_backslash]
    exact guarded.ending.add_one
  rw [split]
  refine ⟨(guarded.quotes.concat fun quote => absurd quote (by decide)).concat fun _ => odd, ?_⟩
  by_cases double : c = '\\'
  · rw [double, closingBackslashes_backslash]
    exact odd.add_one
  · rw [closingBackslashes_other _ double]
    exact .zero

end Guarded

/-- The codes of control characters are plain. -/
theorem plain_hexDigits {code : Nat} (control : code < 0x20) : ∀ c ∈ Text.hexDigits 4 code, Plain c := by
  have each : ∀ code < 0x20, (Text.hexDigits 4 code).all
      (fun c => c != '"' && c != '\\' && decide (0x20 ≤ c.toNat)) = true := by decide +kernel
  intro c member
  have holds := List.all_eq_true.mp (each code control) c member
  simpa [Plain, and_assoc] using holds

/-- A character is written as it is, or as a backslash with another character and perhaps a code. -/
theorem escape_shape (c : Char) :
    (escape c = [c] ∧ Plain c) ∨
      ∃ sign code, escape c = ['\\', sign] ++ code ∧ 0x20 ≤ sign.toNat ∧ ∀ d ∈ code, Plain d := by
  unfold escape
  split
  · exact .inr ⟨'"', [], rfl, by decide, by simp⟩
  split
  · exact .inr ⟨'\\', [], rfl, by decide, by simp⟩
  split
  · exact .inr ⟨'n', [], rfl, by decide, by simp⟩
  split
  · exact .inr ⟨'r', [], rfl, by decide, by simp⟩
  split
  · exact .inr ⟨'t', [], rfl, by decide, by simp⟩
  split
  · exact .inr ⟨'b', [], rfl, by decide, by simp⟩
  split
  · exact .inr ⟨'f', [], rfl, by decide, by simp⟩
  split
  · rename_i control
    exact .inr ⟨'u', Text.hexDigits 4 c.toNat, rfl, by decide, plain_hexDigits control⟩
  · rename_i unquoted solid _ _ _ _ _ visible
    exact .inl ⟨rfl, unquoted, solid, Nat.le_of_not_lt visible⟩

theorem Guarded.escape {body : List Char} (guarded : Guarded body) (c : Char) :
    Guarded (body ++ escape c) := by
  rcases escape_shape c with ⟨same, plain⟩ | ⟨sign, code, shape, _, plain⟩
  · rw [same]
    exact guarded.plain (List.forall_mem_singleton.mpr plain)
  · rw [shape, ← List.append_assoc]
    exact (guarded.escaped sign).plain plain

theorem guarded_flatMap_escape (text : List Char) : Guarded (text.flatMap Sdl.escape) := by
  induction text using List.reverseRecOn with
  | nil => exact .empty
  | append_singleton text c ih =>
    rw [List.flatMap_append, List.flatMap_singleton]
    exact ih.escape c

/-- No control character is left in a quotation. -/
theorem visible_of_mem_escape {c d : Char} (member : d ∈ escape c) : 0x20 ≤ d.toNat := by
  rcases escape_shape c with ⟨same, plain⟩ | ⟨sign, code, shape, visible, plain⟩
  · rw [same] at member
    rw [List.mem_singleton.mp member]
    exact plain.2.2
  · rw [shape] at member
    rcases List.mem_append.mp member with pair | inside
    · rcases List.mem_pair.mp pair with rfl | rfl
      · decide
      · exact visible
    · exact (plain d inside).2.2

theorem toList_quote (text : String) :
    (quote text).toList = '"' :: text.toList.flatMap escape ++ ['"'] := by
  simp [quote, Text.onChars]

/-- The quotation of a text is one token, if no further quote makes it the start of a block string. -/
theorem scan_quote (text : String) {rest : List Char} (apart : rest.head? ≠ some '"') :
    scan ((quote text).toList ++ rest) = (scan rest).map (.text text :: ·) := by
  by_cases empty : text = ""
  · have single : ∀ more, '"' :: rest ≠ '"' :: '"' :: more := by
      intro more same
      rw [(List.cons.inj same).2] at apart
      exact apart rfl
    rw [empty]
    exact scan_text single rfl
  · exact Scans.quoted empty rest

/-- The text is one string literal of GraphQL that stands for the value. -/
structure IsLiteral (literal value : String) : Prop where
  enclosed : ∃ body, literal.toList = '"' :: body ++ ['"'] ∧ (∀ c ∈ body, 0x20 ≤ c.toNat) ∧ Guarded body ∧
    readText (body ++ ['"']) = some (value.toList, [])
  token : ∀ rest, rest.head? ≠ some '"' →
    scan (literal.toList ++ rest) = (scan rest).map (.text value :: ·)

theorem isLiteral_quote (text : String) : IsLiteral (quote text) text where
  enclosed := by
    refine ⟨text.toList.flatMap escape, toList_quote text, fun c member => ?_, guarded_flatMap_escape _,
      readText_quote _ _⟩
    obtain ⟨source, _, inside⟩ := List.mem_flatMap.mp member
    exact visible_of_mem_escape inside
  token _ := scan_quote text

/-- A literal stands for one value only. -/
theorem IsLiteral.value_unique {literal first second : String} (one : IsLiteral literal first)
    (other : IsLiteral literal second) : first = second := by
  have same := (one.token [] (by simp)).symm.trans (other.token [] (by simp))
  simpa [scan] using same

/-- The fields that the only directive of a name selects. Where there is none, nothing is selected. -/
def selected? (name : String) (directives : List Directive) : Option String :=
  match directives.filter (·.name == name) with
  | [] => some ""
  | [⟨_, [⟨argument, .text fields⟩]⟩] => if argument = "fields" then some fields else none
  | _ => none

theorem selected?_objectDirectives {type : ObjectType} (entity : type.federated = true) :
    (directivesOn type.directives).bind (selected? "key") = some type.keyField := by
  rw [directivesOn_of_closes (closes_line.objectDirectives type), entity]
  by_cases empty : type.keyField = ""
  · simp [empty, selected?]
  · simp [empty, selected?, selection]

theorem selected?_fieldDirectives (field : Field) :
    (directivesOn field.directives).bind (selected? "requires") = some (field.requires.getD "") := by
  have apart : (if field.external then [(⟨"external", []⟩ : Directive)] else []).filter
      (·.name == "requires") = [] := by
    split <;> rfl
  rw [directivesOn_of_closes (closes_line.fieldDirectives field), objectFieldOutline, Option.bind_some,
    selected?, List.filter_append, apart, List.nil_append, Field.requirement?]
  cases field.requires with
  | none => rfl
  | some fields =>
    by_cases empty : fields = ""
    · simp [empty, Option.filter_some]
    · simp [empty, Option.filter_some, selection]

/-- Every text is quoted as one string literal that stands for it, so different texts have different
quotations. The key of an entity and the requirement of a field are read back from their directives,
where an empty one is not shown. -/
theorem quote_read_back :
    (∀ text, IsLiteral (quote text) text) ∧ Function.Injective quote ∧
      (∀ type : ObjectType, type.federated = true →
        (directivesOn type.directives).bind (selected? "key") = some type.keyField) ∧
      ∀ field : Field,
        (directivesOn field.directives).bind (selected? "requires") = some (field.requires.getD "") := by
  refine ⟨isLiteral_quote, fun first second same => ?_, fun type entity => ?_, fun field => ?_⟩
  · have other := isLiteral_quote second
    rw [← same] at other
    exact (isLiteral_quote first).value_unique other
  · exact selected?_objectDirectives entity
  · exact selected?_fieldDirectives field

/-- An entity whose key has a quote after a backslash, a line end and a control character. -/
def awkwardEntity : ObjectType where
  name := "Awkward"
  federated := true
  keyField := "id \\\"\n\x01"

theorem quote_read_back_awkward :
    awkwardEntity.federated = true ∧
      awkwardEntity.directives = " @key(fields: \"id \\\\\\\"\\n\\u0001\")" ∧
      (directivesOn awkwardEntity.directives).bind (selected? "key") = some "id \\\"\n\x01" :=
  ⟨rfl, by decide +kernel, quote_read_back.2.2.1 awkwardEntity rfl⟩

end Subgraph.Sdl
