import Subgraph.Proofs.WordDivision

namespace Subgraph

namespace Words

open Text

/-- No two capitals in a row. -/
def CapitalsApart (name : List Char) : Prop :=
  name.IsChain fun c d => ¬(c.isUpper = true ∧ d.isUpper = true)

instance (name : List Char) : Decidable (CapitalsApart name) :=
  inferInstanceAs (Decidable (name.IsChain fun c d => ¬(c.isUpper = true ∧ d.isUpper = true)))

/-- ASCII letters and digits with a small letter at the start and no two capitals in a row. -/
structure IsCamel (name : List Char) : Prop where
  start : ∃ first rest, name = first :: rest ∧ first.isLower = true
  alphanum : ∀ c ∈ name, c.isAlphanum = true
  apart : CapitalsApart name

theorem small_of_not_isUpper {c : Char} (alphanum : c.isAlphanum = true) (low : c.isUpper = false) :
    (c.isLower || c.isDigit) = true := by
  delta Char.isAlphanum Char.isAlpha at alphanum
  rwa [low, Bool.false_or] at alphanum

/-- Where no two capitals meet, a capital begins a word and nothing else does. -/
theorem ends_eq_isUpper {c d : Char} (alphanum : c.isAlphanum = true)
    (apart : ¬(c.isUpper = true ∧ d.isUpper = true)) (rest : List Char) :
    (endsHump c (d :: rest) || endsAcronym c (d :: rest)) = d.isUpper := by
  cases capital : d.isUpper with
  | false => simp [endsHump, endsAcronym, capital]
  | true =>
    have low : c.isUpper = false := by
      rw [Bool.eq_false_iff]
      exact fun upper => apart ⟨upper, capital⟩
    have small := small_of_not_isUpper alphanum low
    simpa [endsHump, endsAcronym, capital, low] using small

theorem splitHumps_splitAcronyms_apart {c : Char} {rest : List Char}
    (alphanum : ∀ d ∈ c :: rest, d.isAlphanum = true) (apart : CapitalsApart (c :: rest)) :
    splitHumps (splitAcronyms (c :: rest)) = c :: rest.flatMap fun d => division d.isUpper ++ [d] := by
  induction rest generalizing c with
  | nil => rfl
  | cons d rest ih =>
    obtain ⟨here, later⟩ := List.isChain_cons_cons.mp apart
    have others := ih (fun e member => alphanum e (List.mem_cons_of_mem _ member)) later
    rw [splitHumps_splitAcronyms_cons, ends_eq_isUpper (alphanum c List.mem_cons_self) here, others]
    simp

/-- A camel case name is divided before its capitals. The first letter is none of them. -/
theorem IsCamel.splitHumps_splitAcronyms {name : List Char} (is_camel : IsCamel name) :
    splitHumps (splitAcronyms name) = name.flatMap fun c => division c.isUpper ++ [c] := by
  obtain ⟨⟨first, rest, rfl, small⟩, alphanum, apart⟩ := is_camel
  have low : first.isUpper = false := not_isUpper_of_small (by simp [small])
  rw [splitHumps_splitAcronyms_apart alphanum apart, List.flatMap_cons, low]
  rfl

theorem ascii_of_mem_division {name : List Char} (alphanum : ∀ c ∈ name, c.isAlphanum = true) {c : Char}
    (member : c ∈ name.flatMap fun d => division d.isUpper ++ [d]) : c.toNat < 128 := by
  obtain ⟨d, listed, inside⟩ := List.mem_flatMap.mp member
  rcases List.mem_append.mp inside with mark | same
  · rw [division] at mark
    split at mark
    · rw [List.mem_singleton.mp mark]
      decide
    · cases mark
  · rw [List.mem_singleton.mp same]
    exact isAlphanum_ascii (alphanum d listed)

/-- The lower case of a character with its division before it. -/
theorem toLower_division {c : Char} (alphanum : c.isAlphanum = true) :
    (division c.isUpper ++ [c]).map Char.toLower = if c.isUpper then ['_', c.toLower] else [c] := by
  cases upper : c.isUpper with
  | true => rfl
  | false =>
    have kept := (caseFacts (isAlphanum_ascii alphanum)).lower_of_not_upper upper
    simp [division, kept]

/-- A camel case name is written in snake case by writing its capitals apart. -/
theorem IsCamel.snake_eq {name : List Char} (is_camel : IsCamel name) : snake name = uncapitalise name := by
  have alphanum := is_camel.alphanum
  have allowed : ∀ c ∈ name, isNameChar c = true := fun c member =>
    isNameChar_of_isAlphanum (alphanum c member)
  calc snake name
      = lower (name.flatMap fun c => division c.isUpper ++ [c]) := by
        rw [snake, plain_eq_self allowed, is_camel.splitHumps_splitAcronyms]
    _ = name.flatMap fun c => (division c.isUpper ++ [c]).map Char.toLower := by
        rw [lower, lowerFrom_ascii fun c => ascii_of_mem_division alphanum, List.map_flatMap]
    _ = uncapitalise name := List.flatMap_congr fun c member => toLower_division (alphanum c member)

theorem capitalise_uncapitalise {name : List Char} (alphanum : ∀ c ∈ name, c.isAlphanum = true) :
    capitalise 0 (uncapitalise name) = name := by
  induction name with
  | nil => rfl
  | cons c name ih =>
    have here := alphanum c List.mem_cons_self
    have others := ih fun d later => alphanum d (List.mem_cons_of_mem _ later)
    have whole : uncapitalise (c :: name) = uncapitalise [c] ++ uncapitalise name := uncapitalise_append [c] name
    cases upper : c.isUpper with
    | true =>
      have facts := caseFacts (isAlphanum_ascii here)
      have back : c.toLower.toUpper = c :=
        facts.upper_lower.trans (facts.upper_of_not_lower (facts.not_small upper))
      have letter := isAlpha_toLower (isAlpha_of_isUpper upper)
      have split : uncapitalise [c] = ['_', c.toLower] := by simp [uncapitalise, upper]
      rw [whole, split, List.cons_append, List.cons_append, List.nil_append,
        capitalise_underscore (isAlphanum_of_isAlpha letter), back, others]
    | false =>
      have other : c ≠ '_' := ne_underscore_of_small (small_of_not_isUpper here upper)
      have same : uncapitalise [c] = [c] := by simp [uncapitalise, upper]
      rw [whole, same, List.singleton_append, capitalise_cons other, others]

theorem isNameChar_of_mem_uncapitalise {name : List Char} (alphanum : ∀ c ∈ name, c.isAlphanum = true)
    {c : Char} (member : c ∈ uncapitalise name) : isNameChar c = true := by
  obtain ⟨d, listed, inside⟩ := List.mem_flatMap.mp member
  have here := alphanum d listed
  split at inside
  · rename_i upper
    rcases List.mem_pair.mp inside with rfl | rfl
    · rfl
    · exact isNameChar_of_isAlphanum (isAlphanum_of_isAlpha (isAlpha_toLower (isAlpha_of_isUpper upper)))
  · rw [List.mem_singleton.mp inside]
    exact isNameChar_of_isAlphanum here

/-- Every underscore is followed by the letter that it was put before. -/
theorem getLast?_uncapitalise {name : List Char} (alphanum : ∀ c ∈ name, c.isAlphanum = true) :
    (uncapitalise name).getLast? ≠ some '_' := by
  rcases List.eq_nil_or_concat' name with rfl | ⟨front, c, rfl⟩
  · simp [uncapitalise]
  · have here := alphanum c (by simp)
    rw [uncapitalise_append]
    cases upper : c.isUpper with
    | true =>
      have letter := isAlpha_toLower (isAlpha_of_isUpper upper)
      simp [uncapitalise, upper, ne_underscore_of_isAlphanum (isAlphanum_of_isAlpha letter)]
    | false =>
      have other : c ≠ '_' := ne_underscore_of_small (small_of_not_isUpper here upper)
      simp [uncapitalise, upper, other]

theorem IsCamel.camel_uncapitalise {name : List Char} (is_camel : IsCamel name) :
    camel (uncapitalise name) = name := by
  obtain ⟨⟨first, rest, rfl, small⟩, alphanum, _⟩ := is_camel
  have low : first.isUpper = false := not_isUpper_of_small (by simp [small])
  have begins : uncapitalise (first :: rest) = first :: uncapitalise rest := by
    simp [uncapitalise, low]
  have allowed := fun c => isNameChar_of_mem_uncapitalise alphanum (c := c)
  have last := getLast?_uncapitalise alphanum
  have back := capitalise_uncapitalise alphanum
  rw [begins] at allowed last back ⊢
  rw [camel_eq_capitalise allowed small last, back]

/-- Characters that are no capitals keep the capitals around them apart. -/
theorem capitalsApart_append {text tail : List Char} (low : ∀ c ∈ text, c.isUpper = false)
    (filled : text ≠ []) (later : ∀ c, c.isUpper = false → CapitalsApart (c :: tail)) (first : Char) :
    CapitalsApart (first :: (text ++ tail)) := by
  induction text generalizing first with
  | nil => exact absurd rfl filled
  | cons c text ih =>
    have here := low c List.mem_cons_self
    refine List.isChain_cons_cons.mpr ⟨by simp [here], ?_⟩
    cases text with
    | nil => exact later c here
    | cons d text => exact ih (fun e member => low e (List.mem_cons_of_mem _ member)) (by simp) c

/-- The capital of a word is kept apart from the next one by the rest of the word, unless the word is the
last one. -/
theorem capitalsApart_underscored {words : List (List Char)} (each : ∀ word ∈ words, isWord word = true)
    (long : ∀ word ∈ words.dropLast, 2 ≤ word.length) {c : Char} (low : c.isUpper = false) :
    CapitalsApart (c :: capitalise 0 (underscored words)) := by
  induction words generalizing c with
  | nil => exact .singleton c
  | cons word words ih =>
    obtain ⟨first, rest, rfl, small, others⟩ := exists_of_isWord (each word List.mem_cons_self)
    rw [capitalise_underscored_cons small others]
    refine List.isChain_cons_cons.mpr ⟨by simp [low], ?_⟩
    by_cases single : rest = []
    · cases words with
      | nil =>
        rw [single]
        exact .singleton _
      | cons next words =>
        have length := long (first :: rest) (by simp)
        rw [single, List.length_singleton] at length
        omega
    · have shorter : ∀ word ∈ words.dropLast, 2 ≤ word.length := by
        intro word member
        have filled : words ≠ [] := by
          rintro rfl
          cases member
        refine long word ?_
        rw [List.dropLast_cons_of_ne_nil filled]
        exact List.mem_cons_of_mem _ member
      exact capitalsApart_append (fun d member => not_isUpper_of_small (others d member)) single
        (fun d plain => ih (fun word member => each word (List.mem_cons_of_mem _ member)) shorter plain) _

theorem isAlphanum_of_mem_underscored {words : List (List Char)} (each : ∀ word ∈ words, isWord word = true)
    {c : Char} (member : c ∈ capitalise 0 (underscored words)) : c.isAlphanum = true := by
  induction words with
  | nil => cases member
  | cons word words ih =>
    obtain ⟨first, rest, rfl, small, others⟩ := exists_of_isWord (each word List.mem_cons_self)
    rw [capitalise_underscored_cons small others] at member
    rcases List.mem_cons.mp member with rfl | later
    · exact isAlphanum_toUpper (isAlphanum_of_small (by simp [small]))
    · rcases List.mem_append.mp later with inside | further
      · exact isAlphanum_of_small (others c inside)
      · exact ih (fun next member => each next (List.mem_cons_of_mem _ member)) further

/-- The camel case name of a snake case name has no two capitals in a row, if only the words at its ends may
have a single letter. -/
theorem IsSnake.isCamel_capitalise {name : List Char} (snake : IsSnake name)
    (long : ∀ word ∈ (name.splitOn '_').tail.dropLast, 2 ≤ word.length) : IsCamel (capitalise 0 name) := by
  obtain ⟨word, words, parts, shape, is_word, each⟩ := snake.parts
  rw [parts, List.tail_cons] at long
  have solid : ∀ c ∈ word, c ≠ '_' := fun c member => ne_underscore_of_small (small_of_mem_word is_word member)
  rw [shape, capitalise_append solid]
  obtain ⟨first, rest, rfl, small, others⟩ := exists_of_isWord is_word
  have later := fun c => capitalsApart_underscored each long (c := c)
  refine ⟨⟨first, _, rfl, small⟩, fun c member => ?_, ?_⟩
  · rcases List.mem_append.mp member with inside | further
    · exact isAlphanum_of_small (small_of_mem_word is_word inside)
    · exact isAlphanum_of_mem_underscored each further
  · by_cases single : rest = []
    · rw [single]
      exact later first (not_isUpper_of_small (by simp [small]))
    · exact capitalsApart_append (fun c member => not_isUpper_of_small (others c member)) single later first

end Words

namespace Naming

open Words

/-- The two case styles undo each other. -/
theorem snake_camel_inverse :
    (∀ name : String, IsSnake name.toList →
      (∀ word ∈ (name.toList.splitOn '_').tail.dropLast, 2 ≤ word.length) → snake (camel name) = name) ∧
      ∀ name : String, IsCamel name.toList → camel (snake name) = name := by
  constructor
  · intro name is_snake long
    have camelled := is_snake.isCamel_capitalise long
    have back := is_snake.uncapitalise_fieldName
    rw [is_snake.fieldName_eq] at back
    rw [← String.toList_inj, snake, camel, Text.onChars, Text.onChars, String.toList_ofList,
      String.toList_ofList, is_snake.camel_eq, camelled.snake_eq, back]
  · intro name is_camel
    rw [← String.toList_inj, snake, camel, Text.onChars, Text.onChars, String.toList_ofList,
      String.toList_ofList, is_camel.snake_eq, is_camel.camel_uncapitalise]

theorem snake_camel_inverse_short :
    (IsSnake "a_b2_c".toList ∧ (∀ word ∈ ("a_b2_c".toList.splitOn '_').tail.dropLast, 2 ≤ word.length) ∧
      camel "a_b2_c" = "aB2C" ∧ snake (camel "a_b2_c") = "a_b2_c") ∧
      IsCamel "aB2C".toList ∧ camel (snake "aB2C") = "aB2C" := by
  have snake_form : IsSnake "a_b2_c".toList := by decide +kernel
  have long : ∀ word ∈ ("a_b2_c".toList.splitOn '_').tail.dropLast, 2 ≤ word.length := by decide +kernel
  have camel_form : IsCamel "aB2C".toList :=
    ⟨⟨'a', _, rfl, by decide⟩, List.all_eq_true.mp (by decide), by decide⟩
  exact ⟨⟨snake_form, long, by decide +kernel, snake_camel_inverse.1 _ snake_form long⟩, camel_form,
    snake_camel_inverse.2 _ camel_form⟩

end Naming

end Subgraph
