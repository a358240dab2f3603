import Mathlib.Data.Nat.Find
import Subgraph.Proofs.SnakeCase

namespace Subgraph

namespace Words

open Text

/-- Tells which texts match, and what is written instead of each of them. -/
abbrev Rule := List Char → List Char → Prop

variable {rule : Rule}

/-- A match at the start of a text is at most as long as this one. -/
def Longest (rule : Rule) (text found : List Char) : Prop :=
  ∀ other replacement, rule other replacement → other <+: text → other.length ≤ found.length

/-- No match is at the start of the text. -/
def Unmatched (rule : Rule) (text : List Char) : Prop :=
  ∀ found replacement, rule found replacement → ¬found <+: text

/-- A pass over a text: from left to right the longest match is replaced and skipped, and a character where
no match begins is kept. -/
inductive Substituted (rule : Rule) : List Char → List Char → Prop
  | done : Substituted rule [] []
  | hit {found replacement rest result : List Char} (holds : rule found replacement)
      (longest : Longest rule (found ++ rest) found) (later : Substituted rule rest result) :
      Substituted rule (found ++ rest) (replacement ++ result)
  | miss {c : Char} {rest result : List Char} (unmatched : Unmatched rule (c :: rest))
      (later : Substituted rule rest result) : Substituted rule (c :: rest) (c :: result)

theorem exists_longest {text found replacement : List Char} (holds : rule found replacement)
    (begins : found <+: text) :
    ∃ longest instead, rule longest instead ∧ longest <+: text ∧ Longest rule text longest := by
  classical
  let matched : Nat → Prop := fun length =>
    ∃ other instead, rule other instead ∧ other <+: text ∧ other.length = length
  have some_length : matched found.length := ⟨found, replacement, holds, begins, rfl⟩
  obtain ⟨longest, instead, rules, starts, length⟩ :=
    Nat.findGreatest_spec begins.length_le some_length
  refine ⟨longest, instead, rules, starts, fun other another applies fits => ?_⟩
  rw [length]
  exact Nat.le_findGreatest fits.length_le ⟨other, another, applies, fits, rfl⟩

/-- Passes come to an end, if no match is empty. -/
theorem exists_substituted (filled : ∀ found replacement, rule found replacement → found ≠ [])
    (text : List Char) : ∃ result, Substituted rule text result := by
  induction length : text.length using Nat.strong_induction_on generalizing text with
  | _ n ih =>
    cases text with
    | nil => exact ⟨[], .done⟩
    | cons c text =>
      by_cases matched : ∃ found replacement, rule found replacement ∧ found <+: c :: text
      · obtain ⟨_, _, holds, begins⟩ := matched
        obtain ⟨found, replacement, holds, ⟨rest, whole⟩, longest⟩ := exists_longest holds begins
        have positive := List.length_pos_iff.mpr (filled found replacement holds)
        have shorter : rest.length < n := by
          rw [← length, ← whole, List.length_append]
          omega
        obtain ⟨result, later⟩ := ih rest.length shorter rest rfl
        rw [← whole] at longest ⊢
        exact ⟨replacement ++ result, .hit holds longest later⟩
      · have unmatched : Unmatched rule (c :: text) := fun found replacement holds begins =>
          matched ⟨found, replacement, holds, begins⟩
        have shorter : text.length < n := by
          rw [← length]
          exact Nat.lt_succ_self _
        obtain ⟨result, later⟩ := ih text.length shorter text rfl
        exact ⟨c :: result, .miss unmatched later⟩

/-- A function that does what a pass does at each step gives the only result of the pass. -/
theorem substituted_iff {pass : List Char → List Char}
    (filled : ∀ found replacement, rule found replacement → found ≠ []) (empty : pass [] = [])
    (hit : ∀ found replacement rest, rule found replacement → Longest rule (found ++ rest) found →
      pass (found ++ rest) = replacement ++ pass rest)
    (miss : ∀ c rest, Unmatched rule (c :: rest) → pass (c :: rest) = c :: pass rest)
    (text result : List Char) : Substituted rule text result ↔ result = pass text := by
  have only {text result : List Char} (substituted : Substituted rule text result) : result = pass text := by
    induction substituted with
    | done => exact empty.symm
    | hit holds longest _ ih => rw [hit _ _ _ holds longest, ih]
    | miss unmatched _ ih => rw [miss _ _ unmatched, ih]
  constructor
  · exact only
  · rintro rfl
    obtain ⟨result, substituted⟩ := exists_substituted filled text
    exact only substituted ▸ substituted

/-- One underscore for any number of separators. -/
inductive Separators : Rule
  | run {chars : List Char} (filled : chars ≠ []) (each : ∀ c ∈ chars, isSeparator c = true) :
      Separators chars ['_']

/-- An underscore before the last of several capitals, if a small letter follows it. -/
inductive Acronym : Rule
  | capitals {others : List Char} {last next : Char} (filled : others ≠ [])
      (each : ∀ c ∈ others, c.isUpper = true) (capital : last.isUpper = true) (small : next.isLower = true) :
      Acronym (others ++ [last, next]) (others ++ ['_', last, next])

/-- An underscore between a small letter or digit and a capital. -/
inductive Hump : Rule
  | pair {first second : Char} (small : (first.isLower || first.isDigit) = true)
      (capital : second.isUpper = true) : Hump [first, second] [first, '_', second]

theorem underscoreRuns_append {chars : List Char} (filled : chars ≠ [])
    (each : ∀ c ∈ chars, isSeparator c = true) {rest : List Char} (ended : startsWithSeparator rest = false) :
    underscoreRuns (chars ++ rest) = '_' :: underscoreRuns rest := by
  induction chars with
  | nil => exact absurd rfl filled
  | cons c chars ih =>
    have here := each c List.mem_cons_self
    rw [List.cons_append, underscoreRuns, if_pos here]
    cases chars with
    | nil => rw [List.nil_append, if_neg (by simp [ended])]
    | cons d chars =>
      have next : startsWithSeparator (d :: chars ++ rest) = true := each d (by simp)
      rw [if_pos next, ih (by simp) fun e later => each e (List.mem_cons_of_mem _ later)]

theorem substituted_separators_iff (text result : List Char) :
    Substituted Separators text result ↔ result = underscoreRuns text := by
  refine substituted_iff (fun _ _ holds => ?_) rfl (fun found _ rest holds longest => ?_)
    (fun c rest unmatched => ?_) text result
  · obtain ⟨filled, _⟩ := holds
    exact filled
  · obtain ⟨filled, each⟩ := holds
    have ended : startsWithSeparator rest = false := by
      cases rest with
      | nil => rfl
      | cons d rest =>
        rw [startsWithSeparator, Bool.eq_false_iff]
        intro separator
        have more : Separators (found ++ [d]) ['_'] := .run (by simp) fun c member =>
          (List.mem_append.mp member).elim (each c) fun last => List.mem_singleton.mp last ▸ separator
        have length := longest _ _ more ⟨rest, by simp⟩
        rw [List.length_append, List.length_singleton] at length
        omega
    exact underscoreRuns_append filled each ended
  · have other : isSeparator c = false := by
      rw [Bool.eq_false_iff]
      intro separator
      exact unmatched [c] ['_'] (.run (by simp) (List.forall_mem_singleton.mpr separator)) (by simp)
    rw [underscoreRuns, if_neg (by simp [other])]

/-- An underscore, where words are divided. -/
def division (divided : Bool) : List Char :=
  if divided then ['_'] else []

/-- A small letter or digit ends a word before a capital. -/
def endsHump (c : Char) (rest : List Char) : Bool :=
  (c.isLower || c.isDigit) && rest[0]?.any Char.isUpper

/-- A capital ends a word before a capital that a small letter follows. -/
def endsAcronym (c : Char) (rest : List Char) : Bool :=
  c.isUpper && rest[0]?.any Char.isUpper && rest[1]?.any Char.isLower

theorem splitHumps_cons (c : Char) (rest : List Char) :
    splitHumps (c :: rest) = c :: (division (endsHump c rest) ++ splitHumps rest) := by
  cases rest with
  | nil => simp [splitHumps, endsHump, division]
  | cons d rest =>
    rw [splitHumps]
    split <;> simp_all [endsHump, division]

theorem splitAcronyms_cons (c : Char) (rest : List Char) :
    splitAcronyms (c :: rest) = c :: (division (endsAcronym c rest) ++ splitAcronyms rest) := by
  match rest with
  | [] => simp [splitAcronyms, endsAcronym, division]
  | [d] => simp [splitAcronyms, endsAcronym, division]
  | d :: e :: rest =>
    rw [splitAcronyms]
    split <;> simp_all [endsAcronym, division]

theorem not_isLower_of_isUpper {c : Char} (upper : c.isUpper = true) : c.isLower = false := by
  rw [Bool.eq_false_iff]
  intro lower
  rw [not_isUpper_of_small (by simp [lower])] at upper
  cases upper

/-- A capital that follows a small letter or digit ends no hump itself. -/
theorem splitHumps_pair {first second : Char} (small : (first.isLower || first.isDigit) = true)
    (capital : second.isUpper = true) (rest : List Char) :
    splitHumps ([first, second] ++ rest) = [first, '_', second] ++ splitHumps rest := by
  have begins : endsHump first (second :: rest) = true := by
    simpa [endsHump, capital] using small
  have ends : endsHump second rest = false := by
    rw [endsHump, Bool.eq_false_iff]
    intro again
    rw [not_isUpper_of_small (Bool.and_eq_true_iff.mp again).1] at capital
    cases capital
  simp [splitHumps_cons, begins, ends, division]

theorem substituted_humps_iff (text result : List Char) :
    Substituted Hump text result ↔ result = splitHumps text := by
  refine substituted_iff (fun _ _ holds => ?_) rfl (fun found _ rest holds _ => ?_)
    (fun c rest unmatched => ?_) text result
  · obtain ⟨_, _⟩ := holds
    exact List.cons_ne_nil _ _
  · obtain ⟨small, capital⟩ := holds
    exact splitHumps_pair small capital rest
  · have whole : endsHump c rest = false := by
      rw [Bool.eq_false_iff]
      intro divided
      cases rest with
      | nil => simp [endsHump] at divided
      | cons d rest =>
        obtain ⟨small, capital⟩ := Bool.and_eq_true_iff.mp divided
        exact unmatched _ _ (.pair small capital) (by simp)
    rw [splitHumps_cons, whole]
    rfl

/-- Capitals are divided before the last of them only. -/
theorem splitAcronyms_append {others : List Char} (filled : others ≠ [])
    (each : ∀ c ∈ others, c.isUpper = true) {last next : Char} (capital : last.isUpper = true)
    (small : next.isLower = true) (rest : List Char) :
    splitAcronyms (others ++ [last, next] ++ rest) = others ++ ['_', last, next] ++ splitAcronyms rest := by
  have low : next.isUpper = false := not_isUpper_of_small (by simp [small])
  induction others with
  | nil => exact absurd rfl filled
  | cons c others ih =>
    have here := each c List.mem_cons_self
    cases others with
    | nil => simp [splitAcronyms_cons, endsAcronym, here, capital, small, low, division]
    | cons d others =>
      have later := ih (by simp) fun e member => each e (List.mem_cons_of_mem _ member)
      have inside : endsAcronym c (d :: others ++ [last, next] ++ rest) = false := by
        cases others with
        | nil => simp [endsAcronym, not_isLower_of_isUpper capital]
        | cons e others => simp [endsAcronym, not_isLower_of_isUpper (each e (by simp))]
      rw [List.cons_append, List.cons_append, splitAcronyms_cons, inside, later]
      rfl

theorem substituted_acronyms_iff (text result : List Char) :
    Substituted Acronym text result ↔ result = splitAcronyms text := by
  refine substituted_iff (fun _ _ holds => ?_) rfl (fun found _ rest holds _ => ?_)
    (fun c rest unmatched => ?_) text result
  · obtain ⟨_, _, _, _⟩ := holds
    simp
  · obtain ⟨filled, each, capital, small⟩ := holds
    exact splitAcronyms_append filled each capital small rest
  · have whole : endsAcronym c rest = false := by
      rw [Bool.eq_false_iff]
      intro divided
      match rest with
      | [] => simp [endsAcronym] at divided
      | [d] => simp [endsAcronym] at divided
      | d :: e :: rest =>
        simp only [endsAcronym, List.getElem?_cons_zero, List.getElem?_cons_succ, Option.any_some,
          Bool.and_eq_true] at divided
        obtain ⟨⟨first, second⟩, third⟩ := divided
        exact unmatched _ _ (.capitals (by simp) (List.forall_mem_singleton.mpr first) second third) ⟨rest, rfl⟩
    rw [splitAcronyms_cons, whole]
    rfl

/-- Words are divided between the character before this position and the one at it: a small letter or
digit and a capital, or two capitals with a small letter after them. -/
def dividesAt (text : List Char) : Nat → Bool
  | 0 => false
  | i + 1 =>
    (text[i]?.any fun c => c.isLower || c.isDigit) && text[i + 1]?.any Char.isUpper ||
      text[i]?.any Char.isUpper && text[i + 1]?.any Char.isUpper && text[i + 2]?.any Char.isLower

/-- The text with an underscore at each position where words are divided. -/
def divided (text : List Char) : List Char :=
  (text.mapIdx fun i c => division (dividesAt text i) ++ [c]).flatten

theorem divided_cons (c : Char) (rest : List Char) :
    divided (c :: rest) = c :: (division (endsHump c rest || endsAcronym c rest) ++ divided rest) := by
  cases rest with
  | nil => simp [divided, dividesAt, endsHump, endsAcronym, division]
  | cons d rest =>
    have shifted (i : Nat) : dividesAt (c :: d :: rest) (i + 2) = dividesAt (d :: rest) (i + 1) := rfl
    have first : dividesAt (c :: d :: rest) 1 = (endsHump c (d :: rest) || endsAcronym c (d :: rest)) := rfl
    have begins (text : List Char) : dividesAt text 0 = false := rfl
    simp [divided, List.mapIdx_cons, shifted, first, begins, division]

theorem getElem?_zero_splitAcronyms (text : List Char) : (splitAcronyms text)[0]? = text[0]? := by
  cases text with
  | nil => rfl
  | cons c rest => rw [splitAcronyms_cons]; rfl

/-- The second pass neither loses nor doubles what the first one has divided. -/
theorem splitHumps_splitAcronyms_cons (c : Char) (rest : List Char) :
    splitHumps (splitAcronyms (c :: rest)) =
      c :: (division (endsHump c rest || endsAcronym c rest) ++ splitHumps (splitAcronyms rest)) := by
  have low : '_'.isUpper = false ∧ '_'.isLower = false ∧ '_'.isDigit = false := by decide
  rw [splitAcronyms_cons, splitHumps_cons]
  cases ends : endsAcronym c rest with
  | true =>
    have front : endsHump c ('_' :: splitAcronyms rest) = false := by simp [endsHump, low]
    have back : endsHump '_' (splitAcronyms rest) = false := by simp [endsHump, low]
    simp [front, division, splitHumps_cons, back]
  | false =>
    have same : endsHump c (division false ++ splitAcronyms rest) = endsHump c rest := by
      simp [endsHump, division, getElem?_zero_splitAcronyms]
    rw [same]
    simp [division]

theorem splitHumps_splitAcronyms (text : List Char) : splitHumps (splitAcronyms text) = divided text := by
  induction text with
  | nil => rfl
  | cons c rest ih => rw [splitHumps_splitAcronyms_cons, divided_cons, ih]

end Words

namespace Naming

open Words

/-- A name in snake case is the result of three passes in lower case: separators are replaced, then
acronyms divided, then humps. Every pass has one result, and what the last two do to the result of the
first is to divide it at its positions. -/
theorem snake_divides_words (name : String) :
    ∃ plain acronyms humps,
      (∀ text, Substituted Separators (Text.trim name.toList) text ↔ text = plain) ∧
        (∀ text, Substituted Acronym plain text ↔ text = acronyms) ∧
        (∀ text, Substituted Hump acronyms text ↔ text = humps) ∧
        humps = divided plain ∧ (snake name).toList = Text.lower humps := by
  refine ⟨_, _, _, substituted_separators_iff _, substituted_acronyms_iff _, substituted_humps_iff _,
    splitHumps_splitAcronyms _, ?_⟩
  rw [snake, Text.onChars, String.toList_ofList]
  rfl

end Naming

end Subgraph
