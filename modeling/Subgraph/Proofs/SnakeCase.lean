import Mathlib.Data.Set.Function
import Subgraph.Proofs.Names
import Subgraph.Proofs.Trim

namespace Subgraph

namespace Words

open Text

/-- A small letter, then small letters and digits. -/
def isWord : List Char → Bool
  | [] => false
  | c :: rest => c.isLower && rest.all fun d => d.isLower || d.isDigit

/-- The parts between the underscores of a name are words. -/
def IsSnake (name : List Char) : Prop :=
  ∀ word ∈ name.splitOn '_', isWord word = true

instance (name : List Char) : Decidable (IsSnake name) :=
  decidable_of_iff ((name.splitOn '_').all isWord = true) List.all_eq_true

theorem isAlphanum_of_small {c : Char} (small : (c.isLower || c.isDigit) = true) : c.isAlphanum = true := by
  delta Char.isAlphanum Char.isAlpha
  simp only [Bool.or_eq_true] at small ⊢
  exact small.imp_left .inr

theorem not_isUpper_of_small {c : Char} (small : (c.isLower || c.isDigit) = true) : c.isUpper = false :=
  (caseFacts (isAlphanum_ascii (isAlphanum_of_small small))).not_capital small

theorem ne_underscore_of_small {c : Char} (small : (c.isLower || c.isDigit) = true) : c ≠ '_' :=
  ne_underscore_of_isAlphanum (isAlphanum_of_small small)

theorem exists_of_isWord {word : List Char} (is_word : isWord word = true) :
    ∃ first rest, word = first :: rest ∧ first.isLower = true ∧
      ∀ c ∈ rest, (c.isLower || c.isDigit) = true := by
  cases word with
  | nil => cases is_word
  | cons first rest =>
    obtain ⟨lower, others⟩ := Bool.and_eq_true_iff.mp is_word
    exact ⟨first, rest, rfl, lower, List.all_eq_true.mp others⟩

theorem small_of_mem_word {word : List Char} (is_word : isWord word = true) {c : Char} (member : c ∈ word) :
    (c.isLower || c.isDigit) = true := by
  obtain ⟨first, rest, rfl, lower, others⟩ := exists_of_isWord is_word
  rcases List.mem_cons.mp member with rfl | later
  · simp [lower]
  · exact others c later

/-- Each word with the underscore before it. -/
def underscored (words : List (List Char)) : List Char :=
  words.flatMap ('_' :: ·)

theorem intercalate_underscore (word : List Char) (words : List (List Char)) :
    ['_'].intercalate (word :: words) = word ++ underscored words := by
  induction words generalizing word with
  | nil => simp [underscored]
  | cons next words ih =>
    rw [List.intercalate_cons_cons, ih next]
    simp [underscored]

theorem IsSnake.parts {name : List Char} (snake : IsSnake name) :
    ∃ word words, name.splitOn '_' = word :: words ∧ name = word ++ underscored words ∧
      isWord word = true ∧ ∀ next ∈ words, isWord next = true := by
  have whole : ['_'].intercalate (name.splitOn '_') = name := List.intercalate_splitOn '_'
  unfold IsSnake at snake
  cases parts : name.splitOn '_' with
  | nil => exact absurd parts (List.splitOn_ne_nil _ _)
  | cons word words =>
    rw [parts, intercalate_underscore] at whole
    rw [parts] at snake
    exact ⟨word, words, rfl, whole.symm, snake word List.mem_cons_self,
      fun next later => snake next (List.mem_cons_of_mem _ later)⟩

theorem IsSnake.shape {name : List Char} (snake : IsSnake name) :
    ∃ word words, name = word ++ underscored words ∧ isWord word = true ∧
      ∀ next ∈ words, isWord next = true := by
  obtain ⟨word, words, _, shape⟩ := snake.parts
  exact ⟨word, words, shape⟩

/-- The characters of a snake case name. -/
theorem IsSnake.small {name : List Char} (snake : IsSnake name) {c : Char} (member : c ∈ name) :
    (c.isLower || c.isDigit) = true ∨ c = '_' := by
  obtain ⟨word, words, rfl, is_word, others⟩ := snake.shape
  rcases List.mem_append.mp member with first | later
  · exact .inl (small_of_mem_word is_word first)
  · obtain ⟨next, listed, inside⟩ := List.mem_flatMap.mp later
    rcases List.mem_cons.mp inside with rfl | inside
    · exact .inr rfl
    · exact .inl (small_of_mem_word (others next listed) inside)

theorem IsSnake.isNameChar {name : List Char} (snake : IsSnake name) {c : Char} (member : c ∈ name) :
    isNameChar c = true := by
  rcases snake.small member with small | rfl
  · exact isNameChar_of_isAlphanum (isAlphanum_of_small small)
  · rfl

/-- The last word is not empty, so no underscore ends the name. -/
theorem getLast?_underscored {word : List Char} {words : List (List Char)} (is_word : isWord word = true)
    (each : ∀ next ∈ words, isWord next = true) : (word ++ underscored words).getLast? ≠ some '_' := by
  induction words generalizing word with
  | nil =>
    intro last
    rw [underscored, List.flatMap_nil, List.append_nil] at last
    exact ne_underscore_of_small (small_of_mem_word is_word (List.mem_of_getLast? last)) rfl
  | cons next words ih =>
    have is_next := each next List.mem_cons_self
    have others := ih is_next fun later member => each later (List.mem_cons_of_mem _ member)
    have whole : word ++ underscored (next :: words) = (word ++ ['_']) ++ (next ++ underscored words) := by
      simp [underscored]
    rw [whole, List.getLast?_append]
    cases ending : (next ++ underscored words).getLast? with
    | some c =>
      rw [ending] at others
      exact others
    | none =>
      have empty := List.getLast?_eq_none_iff.mp ending
      rw [(List.append_eq_nil_iff.mp empty).1] at is_next
      cases is_next

theorem underscoreRuns_eq_self {text : List Char} (undivided : ∀ c ∈ text, isSeparator c = false) :
    underscoreRuns text = text := by
  induction text with
  | nil => rfl
  | cons c text ih =>
    rw [underscoreRuns, if_neg (by simp [undivided c List.mem_cons_self]),
      ih fun d later => undivided d (List.mem_cons_of_mem _ later)]

/-- A name without separators is plain. -/
theorem plain_of_undivided {name : List Char} (undivided : ∀ c ∈ name, isSeparator c = false) :
    plain name = name := by
  have trimmed : trim name = name :=
    dropEnds_of_forall fun c member => not_isBlank_of_not_isSeparator (undivided c member)
  rw [plain, trimmed, underscoreRuns_eq_self undivided]

/-- Letters, digits and underscores are all that stands in the name already. -/
theorem plain_eq_self {name : List Char} (allowed : ∀ c ∈ name, isNameChar c = true) : plain name = name :=
  plain_of_undivided fun c member =>
    (nameCharFacts (allowed c member)).undivided

/-- The characters of a capitalised text: underscores, upper case letters and digits, and such as stood there
before. -/
theorem mem_capitalise {run : Nat} {text : List Char} {c : Char} (member : c ∈ capitalise run text) :
    c = '_' ∨ c.isAlphanum = true ∨ c ∈ text := by
  induction text generalizing run with
  | nil => exact .inl (List.eq_of_mem_replicate member)
  | cons d text ih =>
    have later {count : Nat} (inside : c ∈ capitalise count text) :
        c = '_' ∨ c.isAlphanum = true ∨ c ∈ d :: text :=
      (ih inside).imp_right (.imp_right (List.mem_cons_of_mem d))
    rw [capitalise] at member
    split at member
    · exact later member
    · split at member
      · rename_i raised
        rcases List.mem_cons.mp member with rfl | inside
        · exact .inr (.inl (isAlphanum_toUpper (Bool.and_eq_true_iff.mp raised).2))
        · exact later inside
      · rcases List.mem_append.mp member with front | inside
        · exact .inl (List.eq_of_mem_replicate front)
        · rcases List.mem_cons.mp inside with rfl | inside
          · exact .inr (.inr List.mem_cons_self)
          · exact later inside

theorem isNameChar_of_mem_capitalise {run : Nat} {text : List Char}
    (allowed : ∀ c ∈ text, isNameChar c = true) {c : Char} (member : c ∈ capitalise run text) :
    isNameChar c = true := by
  rcases mem_capitalise member with rfl | alphanum | inside
  · rfl
  · exact isNameChar_of_isAlphanum alphanum
  · exact allowed c inside

theorem capitalise_append {text : List Char} (others : ∀ c ∈ text, c ≠ '_') (rest : List Char) :
    capitalise 0 (text ++ rest) = text ++ capitalise 0 rest := by
  induction text with
  | nil => rfl
  | cons c text ih =>
    rw [List.cons_append, capitalise_cons (others c List.mem_cons_self),
      ih fun d later => others d (List.mem_cons_of_mem _ later)]
    rfl

/-- The letter after an underscore takes its place. -/
theorem capitalise_underscore {c : Char} (alphanum : c.isAlphanum = true) (rest : List Char) :
    capitalise 0 ('_' :: c :: rest) = c.toUpper :: capitalise 0 rest := by
  have other : c ≠ '_' := by
    rintro rfl
    exact absurd alphanum (by decide)
  simp [capitalise, other, alphanum]

/-- The first letter of a word takes the place of the underscore before it. -/
theorem capitalise_underscored_cons {first : Char} {rest : List Char} (lower : first.isLower = true)
    (small : ∀ c ∈ rest, (c.isLower || c.isDigit) = true) (words : List (List Char)) :
    capitalise 0 (underscored ((first :: rest) :: words)) =
      first.toUpper :: (rest ++ capitalise 0 (underscored words)) := by
  have alphanum : first.isAlphanum = true := isAlphanum_of_small (by simp [lower])
  have solid : ∀ c ∈ rest, c ≠ '_' := fun c member => ne_underscore_of_small (small c member)
  have whole : underscored ((first :: rest) :: words) = '_' :: first :: (rest ++ underscored words) := rfl
  rw [whole, capitalise_underscore alphanum, capitalise_append solid]

/-- Writes every capital as an underscore and a small letter. -/
def uncapitalise (text : List Char) : List Char :=
  text.flatMap fun c => if c.isUpper then ['_', c.toLower] else [c]

theorem uncapitalise_append (text more : List Char) :
    uncapitalise (text ++ more) = uncapitalise text ++ uncapitalise more :=
  List.flatMap_append

theorem uncapitalise_small {text : List Char} (small : ∀ c ∈ text, (c.isLower || c.isDigit) = true) :
    uncapitalise text = text := by
  have single (c : Char) (member : c ∈ text) : (if c.isUpper then ['_', c.toLower] else [c]) = [c] := by
    rw [not_isUpper_of_small (small c member)]
    rfl
  rw [uncapitalise, List.flatMap_congr single, List.flatMap_singleton']

/-- Capitals stand where words began, so the words are found again. -/
theorem uncapitalise_underscored {words : List (List Char)} (each : ∀ word ∈ words, isWord word = true) :
    uncapitalise (capitalise 0 (underscored words)) = underscored words := by
  induction words with
  | nil => rfl
  | cons word words ih =>
    have others := ih fun next later => each next (List.mem_cons_of_mem _ later)
    obtain ⟨first, rest, rfl, lower, small⟩ := exists_of_isWord (each word List.mem_cons_self)
    have letter := isAlpha_of_isLower lower
    have here := caseFacts (isAlpha_ascii letter)
    have upper : first.toUpper.isUpper = true := here.capital_upper.trans letter
    have back : first.toUpper.toLower = first :=
      here.lower_upper.trans (here.lower_of_not_upper (here.not_capital (by simp [lower])))
    have raised : uncapitalise (first.toUpper :: (rest ++ capitalise 0 (underscored words))) =
        ['_', first] ++ (uncapitalise rest ++ uncapitalise (capitalise 0 (underscored words))) := by
      rw [← uncapitalise_append]
      simp [uncapitalise, upper, back]
    rw [capitalise_underscored_cons lower small, raised, uncapitalise_small small, others]
    rfl

theorem IsSnake.capitalise_eq_cons {name : List Char} (snake : IsSnake name) :
    ∃ first others, first.isLower = true ∧ capitalise 0 name = first :: others := by
  obtain ⟨word, words, shape, is_word, _⟩ := snake.shape
  obtain ⟨first, rest, rfl, lower, _⟩ := exists_of_isWord is_word
  have other : first ≠ '_' := ne_underscore_of_small (by simp [lower])
  refine ⟨first, capitalise 0 (rest ++ underscored words), lower, ?_⟩
  rw [shape, List.cons_append, capitalise_cons other]

/-- Of the rules for camel case, only that for the beginnings of words applies to a name of letters, digits
and underscores, if no underscore and no capital stands at its ends. -/
theorem camel_eq_capitalise {first : Char} {rest : List Char}
    (allowed : ∀ c ∈ first :: rest, isNameChar c = true) (lower : first.isLower = true)
    (last : (first :: rest).getLast? ≠ some '_') : camel (first :: rest) = capitalise 0 (first :: rest) := by
  have small : (first.isLower || first.isDigit) = true := by simp [lower]
  have other : first ≠ '_' := ne_underscore_of_small small
  have ends : dropEnds (· == '_') (first :: rest) = first :: rest := by
    refine dropEnds_eq_self (fun c begins => ?_) fun c ending => ?_
    · cases begins
      simpa using other
    · rw [beq_eq_false_iff_ne]
      rintro rfl
      exact last ending
  have ascii := isAlphanum_ascii (isAlphanum_of_small small)
  rw [camel, plain_eq_self allowed, ends, capitalise_cons other, lowerFirst, lower_ascii ascii,
    (caseFacts ascii).lower_of_not_upper (not_isUpper_of_small small)]
  rfl

theorem IsSnake.camel_eq {name : List Char} (snake : IsSnake name) : camel name = capitalise 0 name := by
  obtain ⟨word, words, shape, is_word, each⟩ := snake.shape
  have last := getLast?_underscored is_word each
  have allowed : ∀ c ∈ name, Words.isNameChar c = true := fun c => snake.isNameChar
  obtain ⟨first, rest, rfl, lower, _⟩ := exists_of_isWord is_word
  rw [shape] at allowed ⊢
  exact camel_eq_capitalise allowed lower last

theorem IsSnake.fieldName_eq {name : List Char} (snake : IsSnake name) :
    fieldName name = capitalise 0 name := by
  obtain ⟨first, others, lower, head⟩ := snake.capitalise_eq_cons
  have kept : (capitalise 0 name).filter Words.isNameChar = capitalise 0 name :=
    List.filter_eq_self.mpr fun c => isNameChar_of_mem_capitalise fun c => snake.isNameChar
  have letter : first.isDigit = false := not_isDigit_of_isAlpha (isAlpha_of_isLower lower)
  rw [fieldName, snake.camel_eq, kept, head, guardDigit, if_neg (by simp [letter])]

theorem IsSnake.uncapitalise_fieldName {name : List Char} (snake : IsSnake name) :
    uncapitalise (fieldName name) = name := by
  obtain ⟨word, words, shape, is_word, each⟩ := snake.shape
  have small := fun c => small_of_mem_word is_word (c := c)
  have solid : ∀ c ∈ word, c ≠ '_' := fun c member => ne_underscore_of_small (small c member)
  rw [snake.fieldName_eq, shape, capitalise_append solid, uncapitalise_append, uncapitalise_small small,
    uncapitalise_underscored each]

/-- The name begins with an ASCII capital. -/
def startsUpper : List Char → Bool
  | [] => false
  | c :: _ => c.isUpper

theorem upperFirst_lowerFirst {name : List Char} (upper : startsUpper name = true) :
    upperFirst (lowerFirst name) = name := by
  cases name with
  | nil => rfl
  | cons c rest =>
    have capital : c.isUpper = true := upper
    have ascii := isAlpha_ascii (isAlpha_of_isUpper capital)
    have here := caseFacts ascii
    have back : c.toLower.toUpper = c :=
      here.upper_lower.trans (here.upper_of_not_lower (here.not_small capital))
    rw [lowerFirst, lower_ascii ascii, List.singleton_append, upperFirst, upper_ascii here.lower_ascii, back]
    rfl

end Words

namespace Naming

/-- A rule on characters that can be undone tells apart the texts on which it can. -/
theorem onChars_injOn {rule undo : List Char → List Char} {p : List Char → Prop}
    (undone : ∀ text, p text → undo (rule text) = text) :
    Set.InjOn (Text.onChars rule) {text | p text.toList} := by
  intro first inFirst second inSecond same
  have chars : rule first.toList = rule second.toList := String.ofList_injective same
  rw [← String.toList_inj, ← undone _ inFirst, chars, undone _ inSecond]

theorem fieldName_injOn : Set.InjOn fieldName {name | Words.IsSnake name.toList} :=
  onChars_injOn fun _ snake => snake.uncapitalise_fieldName

theorem lowerFirst_injOn : Set.InjOn lowerFirst {name | Words.startsUpper name.toList = true} :=
  onChars_injOn fun _ upper => Words.upperFirst_lowerFirst upper

end Naming

end Subgraph
