import Mathlib.Data.List.DropRight
import Subgraph.Text.Blank

namespace Subgraph.Text

/-- Characters of a class are taken up to the first one outside of it. -/
theorem span_append {p : Char → Bool} {front rest : List Char} (inside : ∀ c ∈ front, p c = true)
    (stop : ∀ c, rest.head? = some c → p c = false) :
    (front ++ rest).takeWhile p = front ∧ (front ++ rest).dropWhile p = rest := by
  rw [List.takeWhile_append_of_pos inside, List.dropWhile_append_of_pos inside]
  cases rest with
  | nil => simp
  | cons c rest => simp [stop c rfl]

theorem dropEndWhile_append_false {p : Char → Bool} {text : List Char} {c : Char} (stop : p c = false) :
    dropEndWhile p (text ++ [c]) = text ++ [c] := by
  simp [dropEndWhile, stop]

/-- Nothing is taken off a text with other characters at both ends. -/
theorem dropEnds_eq_self {p : Char → Bool} {text : List Char} (first : ∀ c, text.head? = some c → p c = false)
    (last : ∀ c, text.getLast? = some c → p c = false) : dropEnds p text = text := by
  have start : text.dropWhile p = text := by
    cases text with
    | nil => rfl
    | cons c rest => simp [first c rfl]
  rw [dropEnds, start]
  rcases List.eq_nil_or_concat' text with rfl | ⟨front, c, rfl⟩
  · rfl
  · exact dropEndWhile_append_false (last c (by simp))

/-- Nothing is taken off a text that has other characters only. -/
theorem dropEnds_of_forall {p : Char → Bool} {text : List Char} (others : ∀ c ∈ text, p c = false) :
    dropEnds p text = text :=
  dropEnds_eq_self (fun c first => others c (List.mem_of_mem_head? first)) fun c last =>
    others c (List.mem_of_getLast? last)

/-- A text that has no blank at either end is trimmed already. -/
theorem trim_eq_self {text : List Char} (first : ∀ c, text.head? = some c → isBlank c = false)
    (last : ∀ c, text.getLast? = some c → isBlank c = false) : trim text = text :=
  dropEnds_eq_self first last

theorem trim_dropWhile (text : List Char) : trim (text.dropWhile isBlank) = trim text := by
  rw [trim, trim, dropEnds, dropEnds, List.dropWhile_idempotent]

/-- A character that is no blank shields the blanks before it from the end. -/
theorem trim_append_singleton (text : List Char) {c : Char} (stop : isBlank c = false) :
    trim (text ++ [c]) = text.dropWhile isBlank ++ [c] := by
  have start : (text ++ [c]).dropWhile isBlank = text.dropWhile isBlank ++ [c] := by
    rw [List.dropWhile_append]
    split
    · rename_i empty
      simp [List.isEmpty_iff.mp empty, stop]
    · rfl
  rw [trim, dropEnds, start, dropEndWhile_append_false stop]

/-- Blanks in front of a text are trimmed away. -/
theorem trim_append_left {before : List Char} (blank : ∀ c ∈ before, isBlank c = true)
    (text : List Char) : trim (before ++ text) = trim text := by
  rw [trim, dropEnds, List.dropWhile_append_of_pos blank]
  rfl

theorem dropEndWhile_append {p : Char → Bool} {after : List Char} (taken : ∀ c ∈ after, p c = true)
    (text : List Char) : dropEndWhile p (text ++ after) = dropEndWhile p text := by
  have backwards : ∀ c ∈ after.reverse, p c = true := fun c member => taken c (List.mem_reverse.mp member)
  rw [dropEndWhile, List.reverse_append, List.dropWhile_append_of_pos backwards]
  rfl

/-- Blanks behind a text are trimmed away. -/
theorem trim_append_right (text : List Char) {after : List Char}
    (blank : ∀ c ∈ after, isBlank c = true) : trim (text ++ after) = trim text := by
  have gone : after.dropWhile isBlank = [] := List.dropWhile_eq_nil_iff.mpr blank
  rw [trim, dropEnds, List.dropWhile_append]
  split
  · rename_i empty
    rw [gone, trim, dropEnds, List.isEmpty_iff.mp empty]
  · exact dropEndWhile_append blank _

/-- A text is what trimming leaves of it, between blanks. -/
theorem exists_blanks_around (text : List Char) :
    ∃ before after, (∀ c ∈ before, isBlank c = true) ∧ (∀ c ∈ after, isBlank c = true) ∧
      text = before ++ trim text ++ after := by
  have rest : text.dropWhile isBlank =
      trim text ++ (text.dropWhile isBlank).rtakeWhile isBlank :=
    List.rdropWhile_append_rtakeWhile.symm
  refine ⟨text.takeWhile isBlank, (text.dropWhile isBlank).rtakeWhile isBlank,
    fun c member => List.mem_takeWhile_imp member, fun c member => List.mem_rtakeWhile_imp member, ?_⟩
  rw [List.append_assoc, ← rest, List.takeWhile_append_dropWhile]

/-- No blank at either end. -/
def Trimmed (text : List Char) : Prop :=
  (∀ c, text.head? = some c → isBlank c = false) ∧ ∀ c, text.getLast? = some c → isBlank c = false

theorem Trimmed.trim_eq {text : List Char} (trimmed : Trimmed text) : trim text = text :=
  trim_eq_self trimmed.1 trimmed.2

/-- A text has no blank at its ends if the texts at its ends have none. -/
theorem Trimmed.around {front back : List Char} (first : Trimmed front) (last : Trimmed back)
    (begun : front ≠ []) (ended : back ≠ []) (middle : List Char) : Trimmed (front ++ (middle ++ back)) := by
  refine ⟨fun c head => first.1 c ?_, fun c final => last.2 c ?_⟩
  · rwa [List.head?_append_of_ne_nil _ begun] at head
  · rwa [← List.append_assoc, List.getLast?_append_of_ne_nil _ ended] at final

theorem dropEndWhile_isPrefix (p : Char → Bool) (text : List Char) : dropEndWhile p text <+: text :=
  List.rdropWhile_prefix p text

theorem getLast?_dropEndWhile {p : Char → Bool} {text : List Char} {c : Char}
    (last : (dropEndWhile p text).getLast? = some c) : p c = false := by
  have nonempty : dropEndWhile p text ≠ [] := by
    rintro empty
    simp [empty] at last
  have stop := List.rdropWhile_last_not p text nonempty
  rw [List.getLast?_eq_getLast_of_ne_nil nonempty] at last
  cases Option.some.inj last
  exact Bool.eq_false_iff.mpr stop

theorem head?_of_isPrefix {first whole : List Char} {c : Char} (initial : first <+: whole)
    (head : first.head? = some c) : whole.head? = some c := by
  obtain ⟨rest, rfl⟩ := initial
  cases first with
  | nil => cases head
  | cons d first => exact head

/-- Taking blanks off the end of a text leaves its start alone. -/
theorem trimmed_dropEndWhile {text : List Char} (start : ∀ c, text.head? = some c → isBlank c = false) :
    Trimmed (dropEndWhile isBlank text) :=
  ⟨fun c head => start c (head?_of_isPrefix (dropEndWhile_isPrefix ..) head), fun _ => getLast?_dropEndWhile⟩

/-- What is left starts outside of the class that is taken off. -/
theorem head?_dropEnds {p : Char → Bool} {text : List Char} {c : Char}
    (head : (dropEnds p text).head? = some c) : p c = false := by
  have stop := List.head?_dropWhile_not p text
  rw [head?_of_isPrefix (dropEndWhile_isPrefix ..) head] at stop
  simpa using stop

theorem trimmed_trim (text : List Char) : Trimmed (trim text) :=
  ⟨fun _ => head?_dropEnds, fun _ => getLast?_dropEndWhile⟩

theorem dropEnds_sublist (p : Char → Bool) (text : List Char) : (dropEnds p text).Sublist text :=
  (dropEndWhile_isPrefix ..).sublist.trans (List.dropWhile_sublist _)

theorem trim_sublist (text : List Char) : (trim text).Sublist text :=
  dropEnds_sublist isBlank text

/-- Nothing is left of a text only if all of it is of the class. -/
theorem dropEnds_eq_nil {p : Char → Bool} {text : List Char} :
    dropEnds p text = [] ↔ ∀ c ∈ text, p c = true := by
  constructor
  · intro empty
    have taken : ∀ c ∈ text.dropWhile p, p c = true := List.rdropWhile_eq_nil_iff.mp empty
    cases left : text.dropWhile p with
    | nil => exact List.dropWhile_eq_nil_iff.mp left
    | cons c rest =>
      have stop := List.head?_dropWhile_not p text
      rw [left] at stop taken
      exact absurd (taken c List.mem_cons_self) (by simpa using stop)
  · intro taken
    rw [dropEnds, List.dropWhile_eq_nil_iff.mpr taken]
    rfl

theorem trim_ne_nil {text : List Char} {c : Char} (member : c ∈ text) (solid : isBlank c = false) :
    trim text ≠ [] := by
  intro empty
  have blank := dropEnds_eq_nil.mp empty c member
  rw [solid] at blank
  cases blank

end Subgraph.Text
