import Mathlib.Data.List.Basic
import Mathlib.Tactic.MkIffOfInductiveProp
import Subgraph.Naming
import Subgraph.TypeExpr

namespace Subgraph

namespace Text

/-- What holds of the first 128 code points holds of every ASCII character. -/
theorem forall_ascii (p : Char → Prop) (each : ∀ code < 128, p (Char.ofNat code)) {c : Char}
    (ascii : c.toNat < 128) : p c :=
  Char.ofNat_toNat c ▸ each c.toNat ascii

theorem find?_ascii {shifts : List CaseShift} (beyond : ∀ shift ∈ shifts, 128 ≤ shift.first) {code : Nat}
    (ascii : code < 128) : shifts.find? (·.covers code) = none := by
  refine List.find?_eq_none.mpr fun shift member covered => ?_
  have start := beyond shift member
  simp only [CaseShift.covers, Bool.and_eq_true, decide_eq_true_eq] at covered
  omega

/-- Of a table whose other entries lie beyond ASCII, only the first one counts for ASCII. -/
theorem shiftChar_ascii {first : CaseShift} {others : List CaseShift}
    (beyond : ∀ shift ∈ others, 128 ≤ shift.first) {c : Char} (ascii : c.toNat < 128) :
    shiftChar (first :: others) c = shiftChar [first] c := by
  simp only [shiftChar, List.find?_cons, find?_ascii beyond ascii, List.find?_nil]

/-- The tables of cases, looked through once: their first entries shift the ASCII letters and the others lie
beyond ASCII. -/
theorem case_tables :
    (∀ shift ∈ upperShifts.tail, 128 ≤ shift.first) ∧ (∀ shift ∈ lowerShifts.tail, 128 ≤ shift.first) ∧
      (∀ entry ∈ upperExpansions, 128 ≤ entry.1) ∧
      ∀ code < 128, shiftChar [⟨0x61, 0x7A, 1, -32⟩] (Char.ofNat code) = (Char.ofNat code).toUpper ∧
        shiftChar [⟨0x41, 0x5A, 1, 32⟩] (Char.ofNat code) = (Char.ofNat code).toLower := by
  decide +kernel

theorem shift_letters {c : Char} (ascii : c.toNat < 128) :
    shiftChar [⟨0x61, 0x7A, 1, -32⟩] c = c.toUpper ∧ shiftChar [⟨0x41, 0x5A, 1, 32⟩] c = c.toLower :=
  forall_ascii
    (fun c => shiftChar [⟨0x61, 0x7A, 1, -32⟩] c = c.toUpper ∧ shiftChar [⟨0x41, 0x5A, 1, 32⟩] c = c.toLower)
    case_tables.2.2.2 ascii

theorem lookup_upperExpansions {code : Nat} (ascii : code < 128) : upperExpansions.lookup code = none := by
  refine List.lookup_eq_none_iff.mpr fun entry member => ?_
  have start := case_tables.2.2.1 entry member
  rw [bne_iff_ne]
  omega

theorem upper_ascii {c : Char} (ascii : c.toNat < 128) : upper [c] = [c.toUpper] := by
  have table : shiftChar upperShifts c = shiftChar [⟨0x61, 0x7A, 1, -32⟩] c :=
    shiftChar_ascii case_tables.1 ascii
  have single := (shift_letters ascii).1
  simp [upper, upperChar, lookup_upperExpansions ascii, table, single]

/-- Characters of an ASCII text are lowered each on its own. -/
theorem lowerFrom_ascii {text : List Char} (ascii : ∀ c ∈ text, c.toNat < 128) (inWord : Bool) :
    lowerFrom inWord text = text.map Char.toLower := by
  induction text generalizing inWord with
  | nil => rfl
  | cons c text ih =>
    have here := ascii c List.mem_cons_self
    have table : shiftChar lowerShifts c = shiftChar [⟨0x41, 0x5A, 1, 32⟩] c :=
      shiftChar_ascii case_tables.2.1 here
    have single := (shift_letters here).2
    have undotted : c.toNat ≠ 0x130 := by omega
    have plain : c ≠ 'Σ' := by
      rintro rfl
      exact absurd here (by decide)
    have others := ih fun d later => ascii d (List.mem_cons_of_mem _ later)
    rw [lowerFrom, if_neg plain, lowerChar, if_neg undotted, table, single, others]
    rfl

theorem lower_ascii {c : Char} (ascii : c.toNat < 128) : lower [c] = [c.toLower] :=
  lowerFrom_ascii (List.forall_mem_singleton.mpr ascii) false

/-- A character that is not taken off shields what comes after it from the front. -/
theorem dropEnds_cons {p : Char → Bool} {c : Char} (stop : p c = false) (rest : List Char) :
    dropEnds p (c :: rest) = c :: dropEndWhile p rest := by
  have start : (c :: rest).dropWhile p = c :: rest := by simp [stop]
  rw [dropEnds, start, dropEndWhile, List.reverse_cons, List.dropWhile_append]
  split
  · rename_i empty
    simp [dropEndWhile, List.isEmpty_iff.mp empty, stop]
  · simp [dropEndWhile]

theorem isAlphanum_ascii {c : Char} (alphanum : c.isAlphanum = true) : c.toNat < 128 := by
  delta Char.isAlphanum Char.isAlpha Char.isUpper Char.isLower Char.isDigit at alphanum
  simp only [Bool.or_eq_true, Bool.and_eq_true, decide_eq_true_eq, ge_iff_le,
    UInt32.le_iff_toNat_le] at alphanum
  have capital : 'Z'.val.toNat = 90 := rfl
  have small : 'z'.val.toNat = 122 := rfl
  have digit : '9'.val.toNat = 57 := rfl
  have code : c.toNat = c.val.toNat := rfl
  omega

end Text

namespace Words

open Text

theorem isNameChar_ascii {c : Char} (allowed : isNameChar c = true) : c.toNat < 128 := by
  simp only [isNameChar, Bool.or_eq_true, beq_iff_eq] at allowed
  rcases allowed with alphanum | rfl
  · exact isAlphanum_ascii alphanum
  · decide

theorem isNameChar_of_isAlphanum {c : Char} (alphanum : c.isAlphanum = true) : isNameChar c = true := by
  simp [isNameChar, alphanum]

theorem isAlphanum_of_isAlpha {c : Char} (letter : c.isAlpha = true) : c.isAlphanum = true := by
  rw [Char.isAlphanum, letter, Bool.true_or]

/-- What holds of every ASCII letter, digit and underscore. -/
theorem forall_isNameChar (p : Char → Prop)
    (each : ∀ code < 128, isNameChar (Char.ofNat code) = true → p (Char.ofNat code)) {c : Char}
    (allowed : isNameChar c = true) : p c :=
  forall_ascii (fun c => isNameChar c = true → p c) each (isNameChar_ascii allowed) allowed

/-- How the characters of names stand to the wider classes of characters. -/
@[mk_iff]
structure NameCharFacts (c : Char) : Prop where
  undivided : isSeparator c = false
  alphanumeric : (c == '_' || isAlphanumeric c) = true
  start : c.isDigit = false → (isAlphabetic c || c == '_') = true
  raised : isNameChar c.toUpper = true
  lowered : isNameChar c.toLower = true

instance (c : Char) : Decidable (NameCharFacts c) :=
  decidable_of_iff _ (nameCharFacts_iff c).symm

theorem nameCharFacts {c : Char} (allowed : isNameChar c = true) : NameCharFacts c :=
  forall_isNameChar NameCharFacts (by decide +kernel) allowed

/-- How an ASCII character stands to its two cases. -/
@[mk_iff]
structure CaseFacts (c : Char) : Prop where
  upper_upper : c.toUpper.toUpper = c.toUpper
  upper_lower : c.toLower.toUpper = c.toUpper
  lower_upper : c.toUpper.toLower = c.toLower
  upper_of_not_lower : c.isLower = false → c.toUpper = c
  lower_of_not_upper : c.isUpper = false → c.toLower = c
  lower_ascii : c.toLower.toNat < 128
  digit_upper : c.toUpper.isDigit = c.isDigit
  capital_upper : c.toUpper.isUpper = c.isAlpha
  small_lower : c.toLower.isLower = c.isAlpha
  not_digit : c.isAlpha = true → c.isDigit = false
  not_capital : (c.isLower || c.isDigit) = true → c.isUpper = false
  not_small : c.isUpper = true → c.isLower = false

instance (c : Char) : Decidable (CaseFacts c) :=
  decidable_of_iff _ (caseFacts_iff c).symm

theorem caseFacts {c : Char} (ascii : c.toNat < 128) : CaseFacts c :=
  forall_ascii CaseFacts (by decide +kernel) ascii

theorem isAlpha_of_isLower {c : Char} (lower : c.isLower = true) : c.isAlpha = true := by
  delta Char.isAlpha
  rw [lower, Bool.or_true]

theorem isAlpha_of_isUpper {c : Char} (upper : c.isUpper = true) : c.isAlpha = true := by
  delta Char.isAlpha
  rw [upper, Bool.true_or]

theorem isAlpha_ascii {c : Char} (letter : c.isAlpha = true) : c.toNat < 128 :=
  isAlphanum_ascii (isAlphanum_of_isAlpha letter)

theorem not_isDigit_of_isAlpha {c : Char} (letter : c.isAlpha = true) : c.isDigit = false :=
  (caseFacts (isAlpha_ascii letter)).not_digit letter

theorem isLower_toLower {c : Char} (letter : c.isAlpha = true) : c.toLower.isLower = true :=
  (caseFacts (isAlpha_ascii letter)).small_lower.trans letter

theorem isAlpha_toLower {c : Char} (letter : c.isAlpha = true) : c.toLower.isAlpha = true :=
  isAlpha_of_isLower (isLower_toLower letter)

theorem ne_underscore_of_isAlphanum {c : Char} (alphanum : c.isAlphanum = true) : c ≠ '_' := by
  rintro rfl
  exact absurd alphanum (by decide)

theorem isAlphanum_toUpper {c : Char} (alphanum : c.isAlphanum = true) : c.toUpper.isAlphanum = true := by
  have here := caseFacts (isAlphanum_ascii alphanum)
  rw [Char.isAlphanum, Bool.or_eq_true] at alphanum ⊢
  rcases alphanum with letter | digit
  · exact .inl (isAlpha_of_isUpper (here.capital_upper.trans letter))
  · exact .inr (here.digit_upper.trans digit)

/-- A GraphQL name: ASCII letters, digits and underscores, with no digit at its start. -/
def IsName (name : List Char) : Prop :=
  name ≠ [] ∧ (∀ c, name.head? = some c → c.isDigit = false) ∧ ∀ c ∈ name, isNameChar c = true

instance (name : List Char) : Decidable (IsName name) :=
  match name with
  | [] => isFalse fun named => named.1 rfl
  | c :: rest =>
    decidable_of_iff (c.isDigit = false ∧ (c :: rest).all isNameChar = true) (by simp [IsName])

theorem IsName.append {name more : List Char} (named : IsName name)
    (allowed : ∀ c ∈ more, isNameChar c = true) : IsName (name ++ more) := by
  obtain ⟨nonempty, start, chars⟩ := named
  refine ⟨by simp [nonempty], fun c first => start c ?_, fun c member => ?_⟩
  · rwa [List.head?_append_of_ne_nil _ nonempty] at first
  · exact (List.mem_append.mp member).elim (chars c) (allowed c)

theorem mem_guardDigit_of_mem {text : List Char} {c : Char} (member : c ∈ text) :
    c ∈ guardDigit text := by
  cases text with
  | nil => exact member
  | cons d rest =>
    rw [guardDigit]
    split
    · exact List.mem_cons_of_mem _ member
    · exact member

theorem isName_guardDigit {text : List Char} (nonempty : text ≠ [])
    (allowed : ∀ c ∈ text, isNameChar c = true) : IsName (guardDigit text) := by
  cases text with
  | nil => exact absurd rfl nonempty
  | cons c rest =>
    rw [guardDigit]
    split
    · refine ⟨by simp, by simp, fun d member => ?_⟩
      rcases List.mem_cons.mp member with rfl | member
      · rfl
      · exact allowed d member
    · rename_i digit
      exact ⟨by simp, by simpa using digit, allowed⟩

/-- Names of definitions are GraphQL names, where anything is left of them. -/
theorem isName_typeName {name : List Char} (nonempty : typeName name ≠ []) : IsName (typeName name) := by
  refine isName_guardDigit (fun empty => nonempty ?_) fun c member => List.of_mem_filter member
  rw [typeName, empty, guardDigit]

/-- A letter or digit survives, and upper case is ASCII for ASCII. -/
theorem typeName_alphanum {name : List Char} (some_alphanum : ∃ c ∈ name, c.isAlphanum = true) :
    ∃ c ∈ typeName name, c.isAlphanum = true := by
  obtain ⟨c, member, alphanum⟩ := some_alphanum
  have kept {d : Char} (inside : d ∈ upperFirst name) (good : d.isAlphanum = true) :
      ∃ c ∈ typeName name, c.isAlphanum = true :=
    ⟨d, mem_guardDigit_of_mem (List.mem_filter.mpr ⟨inside, isNameChar_of_isAlphanum good⟩), good⟩
  cases name with
  | nil => simp at member
  | cons first rest =>
    rcases List.mem_cons.mp member with rfl | later
    · exact kept (d := c.toUpper) (by simp [upperFirst, upper_ascii (isAlphanum_ascii alphanum)])
        (isAlphanum_toUpper alphanum)
    · exact kept (List.mem_append_right _ later) alphanum

/-- A name that begins with an ASCII letter and goes on with letters, digits and underscores. -/
def isIdentifier : List Char → Bool
  | [] => false
  | c :: rest => c.isAlpha && rest.all isNameChar

theorem isName_singleton {c : Char} (letter : c.isAlpha = true) : IsName [c] := by
  have allowed := isNameChar_of_isAlphanum (isAlphanum_of_isAlpha letter)
  simp [IsName, allowed, not_isDigit_of_isAlpha letter]

theorem exists_of_isIdentifier {name : List Char} (identifier : isIdentifier name = true) :
    ∃ c rest, name = c :: rest ∧ c.isAlpha = true ∧ ∀ d ∈ rest, isNameChar d = true := by
  cases name with
  | nil => cases identifier
  | cons c rest =>
    obtain ⟨letter, others⟩ := Bool.and_eq_true_iff.mp identifier
    exact ⟨c, rest, rfl, letter, List.all_eq_true.mp others⟩

theorem isName_of_isIdentifier {name : List Char} (identifier : isIdentifier name = true) : IsName name := by
  obtain ⟨c, rest, rfl, letter, others⟩ := exists_of_isIdentifier identifier
  exact (isName_singleton letter).append others

theorem isName_lowerFirst {name : List Char} (identifier : isIdentifier name = true) :
    IsName (lowerFirst name) := by
  obtain ⟨c, rest, rfl, letter, others⟩ := exists_of_isIdentifier identifier
  rw [lowerFirst, lower_ascii (isAlpha_ascii letter)]
  exact (isName_singleton (isAlpha_toLower letter)).append others

/-- Where no underscore is pending, another character is left as it is. -/
theorem capitalise_cons {c : Char} (other : c ≠ '_') (rest : List Char) :
    capitalise 0 (c :: rest) = c :: capitalise 0 rest := by
  simp [capitalise, other]

theorem not_isBlank_of_not_isSeparator {c : Char} (undivided : isSeparator c = false) : isBlank c = false := by
  simp only [isSeparator, Bool.or_eq_false_iff] at undivided
  exact undivided.1.1

/-- The first letter survives in camel case. -/
theorem camel_of_isAlpha {c : Char} (letter : c.isAlpha = true) (rest : List Char) :
    ∃ others, camel (c :: rest) = c.toLower :: others := by
  have alphanum := isAlphanum_of_isAlpha letter
  have other := ne_underscore_of_isAlphanum alphanum
  have undivided := (nameCharFacts (isNameChar_of_isAlphanum alphanum)).undivided
  have solid := not_isBlank_of_not_isSeparator undivided
  rw [camel, plain, trim, dropEnds_cons solid, underscoreRuns, if_neg (by simp [undivided]),
    dropEnds_cons (by simpa using other), capitalise_cons other, lowerFirst,
    lower_ascii (isAlpha_ascii letter)]
  exact ⟨_, rfl⟩

theorem isName_fieldName {name : List Char} (identifier : isIdentifier name = true) :
    IsName (fieldName name) := by
  obtain ⟨c, rest, rfl, letter, _⟩ := exists_of_isIdentifier identifier
  obtain ⟨others, camelled⟩ := camel_of_isAlpha letter rest
  have allowed := isNameChar_of_isAlphanum (isAlphanum_of_isAlpha (isAlpha_toLower letter))
  have kept : c.toLower ∈ (camel (c :: rest)).filter isNameChar :=
    List.mem_filter.mpr ⟨camelled ▸ List.mem_cons_self, allowed⟩
  exact isName_guardDigit (List.ne_nil_of_mem kept) fun d member => List.of_mem_filter member

end Words

namespace Naming

theorem toList_typeName (name : String) : (typeName name).toList = Words.typeName name.toList := by
  simp [typeName, Text.onChars]

theorem toList_inputName (message : String) :
    ∃ base, (inputName message).toList = Words.typeName base ++ ['I', 'n', 'p', 'u', 't'] := by
  refine ⟨(Text.removeEnd "Request" message).toList, ?_⟩
  rw [inputName, String.toList_append, toList_typeName]
  rfl

end Naming

end Subgraph
