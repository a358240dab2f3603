import Mathlib.Data.List.Chain
import Subgraph.Proofs.NameForms
import Subgraph.Proofs.WordDivision

namespace Subgraph

namespace Text

/-- Characters that are their own lower case. -/
def isLowered (c : Char) : Bool :=
  c != 'Σ' && lowerChar c == [c]

/-- Nothing that a shift leads to lies in an interval. -/
def CaseShift.misses (s : CaseShift) (range : Nat × Nat) : Bool :=
  Nat.blt (Int.toNat (s.last + s.shift)) range.1 || Nat.blt range.2 (Int.toNat (s.first + s.shift))

/-- Nothing that a shift leads to is covered by another one, if only because the two take every second code
point in turns. -/
def CaseShift.isApart (s t : CaseShift) : Bool :=
  s.misses (t.first, t.last) ||
    (t.stride == 2 && (s.stride == 2 || s.first == s.last) && (s.first + s.shift - t.first) % 2 == 1)

/-- No lower case lies here: blanks, the other characters that divide words, and the two capitals that have a
rule of their own. In the last interval there are no characters at all. -/
def neverLowered : Ranges :=
  blankRanges ++ [(0x2D, 0x2E), (0x5F, 0x5F), (0x130, 0x130), (0x3A3, 0x3A3), (0xD800, 0xDFFF)]

/-- The table of lower case, looked through once. -/
theorem lowerShifts_apart :
    (lowerShifts.all fun s => decide (0 ≤ s.first + s.shift) && decide (s.last + s.shift < 0x110000) &&
      neverLowered.all s.misses && lowerShifts.all s.isApart) = true := by
  decide +kernel

section Shift

variable {s t : CaseShift} {code : Nat}

theorem CaseShift.beyond_of_misses {range : Nat × Nat} (missed : s.misses range = true)
    (covered : s.covers code = true) (inside : range.1 ≤ Int.toNat (code + s.shift)) :
    range.2 < Int.toNat (code + s.shift) := by
  simp only [misses, Bool.or_eq_true, Nat.blt_eq] at missed
  simp only [covers, Bool.and_eq_true, decide_eq_true_eq] at covered
  omega

theorem CaseShift.not_covers_of_isApart (start : 0 ≤ s.first + s.shift) (apart : s.isApart t = true)
    (covered : s.covers code = true) : t.covers (Int.toNat (code + s.shift)) = false := by
  rw [Bool.eq_false_iff]
  intro again
  simp only [isApart, Bool.or_eq_true, Bool.and_eq_true, beq_iff_eq] at apart
  rcases apart with missed | ⟨⟨second, steps⟩, odd⟩
  · have beyond := beyond_of_misses missed covered
    simp only [covers, Bool.and_eq_true, decide_eq_true_eq] at again
    omega
  · simp only [covers, second, Bool.and_eq_true, decide_eq_true_eq, beq_iff_eq] at covered again
    rcases steps with step | single
    · rw [step] at covered
      omega
    · omega

end Shift

/-- A character stays, or it is moved by a shift of the table. -/
theorem shiftChar_cases (shifts : List CaseShift) (c : Char) :
    shifts.find? (·.covers c.toNat) = none ∧ shiftChar shifts c = c ∨
      ∃ s ∈ shifts, s.covers c.toNat = true ∧ shiftChar shifts c = Char.ofNat (Int.toNat (c.toNat + s.shift)) := by
  unfold shiftChar
  cases found : shifts.find? (·.covers c.toNat) with
  | none => exact .inl ⟨rfl, rfl⟩
  | some s => exact .inr ⟨s, List.mem_of_find?_eq_some found, by simpa using List.find?_some found, rfl⟩

theorem neverLowered_contains {c : Char} {range : Nat × Nat} (listed : range ∈ neverLowered)
    (low : range.1 ≤ c.toNat) (high : c.toNat ≤ range.2) : neverLowered.contains c = true := by
  refine List.any_eq_true.mpr ⟨range, listed, ?_⟩
  simp [low, high]

/-- A character that is moved to lower case is not moved again, and lands on no character that lower case
never gives. -/
theorem shiftChar_moved {c : Char} {s : CaseShift} (listed : s ∈ lowerShifts)
    (covered : s.covers c.toNat = true) {d : Char} (moved : d = Char.ofNat (Int.toNat (c.toNat + s.shift))) :
    lowerShifts.find? (·.covers d.toNat) = none ∧ neverLowered.contains d = false := by
  have checked := List.all_eq_true.mp lowerShifts_apart s listed
  simp only [Bool.and_eq_true, decide_eq_true_eq, List.all_eq_true] at checked
  obtain ⟨⟨⟨start, top⟩, missed⟩, apart⟩ := checked
  have inside : c.toNat ≤ s.last := by
    simp only [CaseShift.covers, Bool.and_eq_true, decide_eq_true_eq] at covered
    exact covered.1.2
  have valid : (Int.toNat (c.toNat + s.shift)).isValidChar := by
    have gap := CaseShift.beyond_of_misses (missed (0xD800, 0xDFFF) (by decide)) covered
    simp only [Nat.isValidChar]
    omega
  have code : d.toNat = Int.toNat (c.toNat + s.shift) := by
    rw [moved, Char.ofNat, dif_pos valid]
    rfl
  rw [code]
  constructor
  · refine List.find?_eq_none.mpr fun t other => ?_
    rw [CaseShift.not_covers_of_isApart start (apart t other) covered]
    decide
  · refine List.any_eq_false.mpr fun range other => ?_
    have beyond := CaseShift.beyond_of_misses (missed range other) covered
    simp only [Bool.and_eq_true, decide_eq_true_eq, code]
    omega

theorem isLowered_of_find? {c : Char} (still : lowerShifts.find? (·.covers c.toNat) = none)
    (undotted : c.toNat ≠ 0x130) (plain : c ≠ 'Σ') : isLowered c = true := by
  simp [isLowered, lowerChar, shiftChar, still, undotted, plain]

/-- What the two capitals with a rule of their own become. -/
theorem special_lowered {d : Char} (member : d ∈ ['i', Char.ofNat 0x307] ++ ['ς', 'σ']) :
    isLowered d = true ∧ neverLowered.contains d = false := by
  have checked : ((['i', Char.ofNat 0x307] ++ ['ς', 'σ']).all fun d =>
      isLowered d && !neverLowered.contains d) = true := by
    decide +kernel
  have here := List.all_eq_true.mp checked d member
  simpa only [Bool.and_eq_true, Bool.not_eq_true'] using here

/-- The lower case of a character is its own lower case, and nothing that lower case never gives except for the
character itself. -/
theorem lowerChar_settled {c d : Char} (plain : c ≠ 'Σ') (member : d ∈ lowerChar c) :
    isLowered d = true ∧ (d = c ∨ neverLowered.contains d = false) := by
  unfold lowerChar at member
  split at member
  · have special := special_lowered (List.mem_append_left ['ς', 'σ'] member)
    exact ⟨special.1, .inr special.2⟩
  · rename_i undotted
    rw [List.mem_singleton] at member
    rcases shiftChar_cases lowerShifts c with ⟨still, same⟩ | ⟨s, listed, covered, moved⟩
    · rw [same] at member
      subst member
      exact ⟨isLowered_of_find? still undotted plain, .inl rfl⟩
    · obtain ⟨still, lowered⟩ := shiftChar_moved listed covered (member.trans moved)
      have other (code : Nat) (reserved : (code, code) ∈ neverLowered) : d.toNat ≠ code := by
        intro same
        rw [neverLowered_contains reserved same.ge same.le] at lowered
        cases lowered
      have not_sigma : d ≠ 'Σ' := by
        rintro rfl
        exact other 0x3A3 (by decide) rfl
      exact ⟨isLowered_of_find? still (other 0x130 (by decide)) not_sigma, .inr lowered⟩

theorem mem_lowerFrom {inWord : Bool} {text : List Char} {d : Char} (member : d ∈ lowerFrom inWord text) :
    isLowered d = true ∧ (d ∈ text ∨ neverLowered.contains d = false) := by
  induction text generalizing inWord with
  | nil => cases member
  | cons c text ih =>
    rw [lowerFrom] at member
    rcases List.mem_append.mp member with here | later
    · split at here
      · have sigma : d ∈ ['ς', 'σ'] := by
          split at here <;> simp_all
        have special := special_lowered (List.mem_append_right ['i', Char.ofNat 0x307] sigma)
        exact ⟨special.1, .inr special.2⟩
      · rename_i plain
        obtain ⟨lowered, from_here⟩ := lowerChar_settled plain here
        refine ⟨lowered, from_here.imp_left ?_⟩
        rintro rfl
        exact List.mem_cons_self
    · obtain ⟨lowered, from_later⟩ := ih later
      exact ⟨lowered, from_later.imp_left (List.mem_cons_of_mem _)⟩

theorem lowerFrom_eq_self {text : List Char} (lowered : ∀ c ∈ text, isLowered c = true) (inWord : Bool) :
    lowerFrom inWord text = text := by
  induction text generalizing inWord with
  | nil => rfl
  | cons c text ih =>
    have here := lowered c List.mem_cons_self
    simp only [isLowered, Bool.and_eq_true, bne_iff_ne, beq_iff_eq] at here
    rw [lowerFrom, if_neg here.1, here.2, ih fun d later => lowered d (List.mem_cons_of_mem _ later)]
    rfl

end Text

namespace Words

open Text

/-- Lower case makes no separators and no underscores. -/
theorem undivided_of_not_neverLowered {c : Char} (lowered : neverLowered.contains c = false) :
    isSeparator c = false ∧ c ≠ '_' := by
  have other (range : Nat × Nat) (reserved : range ∈ neverLowered)
      (inside : range.1 ≤ c.toNat ∧ c.toNat ≤ range.2) : False := by
    rw [neverLowered_contains reserved inside.1 inside.2] at lowered
    cases lowered
  have solid : isBlank c = false := by
    rw [Bool.eq_false_iff]
    intro blank
    obtain ⟨range, listed, inside⟩ := List.any_eq_true.mp blank
    exact other range (List.mem_append_left _ listed) (by simpa using inside)
  have hyphen : c ≠ '-' := by
    rintro rfl
    exact other (0x2D, 0x2E) (by decide) (by decide)
  have stop : c ≠ '.' := by
    rintro rfl
    exact other (0x2D, 0x2E) (by decide) (by decide)
  refine ⟨by simp [isSeparator, solid, hyphen, stop], ?_⟩
  rintro rfl
  exact other (0x5F, 0x5F) (by decide) (by decide)

theorem not_isSeparator_of_mem_underscoreRuns {text : List Char} {c : Char} (member : c ∈ underscoreRuns text) :
    isSeparator c = false := by
  induction text with
  | nil => cases member
  | cons d rest ih =>
    rw [underscoreRuns] at member
    split at member
    · split at member
      · exact ih member
      · rcases List.mem_cons.mp member with rfl | later
        · decide
        · exact ih later
    · rename_i other
      rcases List.mem_cons.mp member with rfl | later
      · simpa using other
      · exact ih later

section Snake

/-- What snake case leaves alone: no separators, and every character in lower case. -/
def SnakeSettled (name : List Char) : Prop :=
  ∀ c ∈ name, isSeparator c = false ∧ isLowered c = true

theorem not_isUpper_of_isLowered {c : Char} (lowered : isLowered c = true) : c.isUpper = false := by
  rw [Bool.eq_false_iff]
  intro upper
  have letter := isAlpha_of_isUpper upper
  have same : [c.toLower] = [c] := by
    rw [← lower_ascii (isAlpha_ascii letter)]
    exact lowerFrom_eq_self (List.forall_mem_singleton.mpr lowered) false
  have small := isLower_toLower letter
  rw [List.singleton_inj.mp same] at small
  rw [not_isUpper_of_small (by simp [small])] at upper
  cases upper

/-- Words are divided by underscores and nothing else. -/
theorem mem_divided {text : List Char} {c : Char} (member : c ∈ divided text) : c ∈ text ∨ c = '_' := by
  induction text with
  | nil => cases member
  | cons d rest ih =>
    rw [divided_cons, List.mem_cons, List.mem_append] at member
    rcases member with rfl | between | later
    · exact .inl List.mem_cons_self
    · refine .inr ?_
      unfold division at between
      split at between
      · exact List.mem_singleton.mp between
      · cases between
    · exact (ih later).imp_left (List.mem_cons_of_mem _)

/-- Without capitals there is nothing to divide. -/
theorem divided_eq_self {text : List Char} (low : ∀ c ∈ text, c.isUpper = false) : divided text = text := by
  induction text with
  | nil => rfl
  | cons c rest ih =>
    have others : ∀ d ∈ rest, d.isUpper = false := fun d later => low d (List.mem_cons_of_mem _ later)
    have next : rest[0]?.any Char.isUpper = false := by
      cases rest with
      | nil => rfl
      | cons d rest => exact others d List.mem_cons_self
    rw [divided_cons, ih others, endsHump, endsAcronym, next]
    simp [division]

theorem snakeSettled_snake (name : List Char) : SnakeSettled (snake name) := by
  intro c member
  rw [snake, splitHumps_splitAcronyms] at member
  obtain ⟨lowered, origin⟩ := mem_lowerFrom member
  refine ⟨?_, lowered⟩
  rcases origin with kept | made
  · rcases mem_divided kept with kept | rfl
    · exact not_isSeparator_of_mem_underscoreRuns kept
    · decide
  · exact (undivided_of_not_neverLowered made).1

theorem SnakeSettled.snake_eq {name : List Char} (settled : SnakeSettled name) : snake name = name := by
  have low : ∀ c ∈ name, c.isUpper = false := fun c member => not_isUpper_of_isLowered (settled c member).2
  rw [snake, splitHumps_splitAcronyms, plain_of_undivided fun c member => (settled c member).1,
    divided_eq_self low]
  exact lowerFrom_eq_self (fun c member => (settled c member).2) false

theorem snake_eq_self_iff {name : List Char} : snake name = name ↔ SnakeSettled name :=
  ⟨fun same => same ▸ snakeSettled_snake name, SnakeSettled.snake_eq⟩

end Snake

section Camel

/-- No ASCII letter or digit follows an underscore. -/
def UnderscoresHeld (text : List Char) : Prop :=
  text.IsChain fun c next => c = '_' → next.isAlphanum = false

/-- What camel case leaves alone: no separators, the first character in lower case, no underscores at the ends,
and between them only such as stand before other characters than ASCII letters and digits. -/
structure CamelSettled (name : List Char) : Prop where
  undivided : ∀ c ∈ name, isSeparator c = false
  first : ∀ c, name.head? = some c → isLowered c = true ∧ c ≠ '_'
  last : name.getLast? ≠ some '_'
  held : UnderscoresHeld name

theorem UnderscoresHeld.cons {c : Char} {rest : List Char} (other : c ≠ '_') (held : UnderscoresHeld rest) :
    UnderscoresHeld (c :: rest) :=
  List.isChain_cons.mpr ⟨fun _ _ underscore => absurd underscore other, held⟩

/-- The underscores that camel case does not take away are held by what comes after them. -/
theorem underscoresHeld_capitalise (run : Nat) (text : List Char) : UnderscoresHeld (capitalise run text) := by
  have underscores (count : Nat) : UnderscoresHeld (List.replicate count '_') :=
    List.isChain_replicate_of_rel count fun _ => rfl
  induction text generalizing run with
  | nil => exact underscores run
  | cons c text ih =>
    rw [capitalise]
    split
    · exact ih (run + 1)
    · rename_i other
      split
      · rename_i raised
        exact (ih 0).cons (ne_underscore_of_isAlphanum (isAlphanum_toUpper (Bool.and_eq_true_iff.mp raised).2))
      · rename_i left
        refine List.isChain_append.mpr ⟨underscores run, (ih 0).cons other, fun d last e first _ => ?_⟩
        have pending : 0 < run := by
          rcases Nat.eq_zero_or_pos run with rfl | positive
          · cases last
          · exact positive
        cases first
        simpa [pending] using left

/-- Underscores that are held stay. -/
theorem capitalise_of_held {run : Nat} {text : List Char} (held : UnderscoresHeld text)
    (begun : 0 < run → ∀ c, text.head? = some c → c.isAlphanum = false) :
    capitalise run text = List.replicate run '_' ++ text := by
  induction text generalizing run with
  | nil => rw [capitalise, List.append_nil]
  | cons c text ih =>
    obtain ⟨next, later⟩ := List.isChain_cons.mp held
    rw [capitalise]
    split
    · rename_i underscore
      rw [ih later fun _ d first => next d first underscore, List.replicate_succ', List.append_assoc, underscore]
      rfl
    · have stays : ¬(decide (0 < run) && c.isAlphanum) = true := by
        intro raised
        simp only [Bool.and_eq_true, decide_eq_true_eq] at raised
        rw [begun raised.1 c rfl] at raised
        cases raised.2
      rw [if_neg stays, ih later fun none => absurd none (Nat.lt_irrefl 0)]
      rfl

theorem not_isSeparator_of_mem_capitalise {run : Nat} {text : List Char}
    (undivided : ∀ c ∈ text, isSeparator c = false) {c : Char} (member : c ∈ capitalise run text) :
    isSeparator c = false := by
  rcases mem_capitalise member with rfl | alphanum | inside
  · decide
  · exact (nameCharFacts (isNameChar_of_isAlphanum alphanum)).undivided
  · exact undivided c inside

/-- A text that does not end with an underscore does not end with one in capitals either. -/
theorem getLast?_capitalise {run : Nat} {text : List Char} (ended : text.getLast? ≠ some '_')
    (begun : text = [] → run = 0) : (capitalise run text).getLast? ≠ some '_' := by
  induction text generalizing run with
  | nil =>
    rw [begun rfl]
    exact nofun
  | cons c text ih =>
    have still : text.getLast? ≠ some '_' := fun last => ended (by rw [List.getLast?_cons, last]; rfl)
    have after {d : Char} (other : d ≠ '_') : (d :: capitalise 0 text).getLast? ≠ some '_' := by
      rw [List.getLast?_cons]
      cases last : (capitalise 0 text).getLast? with
      | none => simpa using other
      | some e => simpa [last] using ih still fun _ => rfl
    rw [capitalise]
    split
    · rename_i underscore
      refine ih still fun empty => absurd ?_ ended
      rw [empty, underscore]
      rfl
    · rename_i other
      split
      · rename_i raised
        exact after (ne_underscore_of_isAlphanum (isAlphanum_toUpper (Bool.and_eq_true_iff.mp raised).2))
      · rw [List.getLast?_append_of_ne_nil _ (List.cons_ne_nil _ _)]
        exact after other

theorem underscoresHeld_append {front rest : List Char} (others : ∀ c ∈ front, c ≠ '_')
    (held : UnderscoresHeld rest) : UnderscoresHeld (front ++ rest) := by
  induction front with
  | nil => exact held
  | cons c front ih =>
    exact (ih fun d later => others d (List.mem_cons_of_mem _ later)).cons (others c List.mem_cons_self)

/-- What a character that divides no words becomes in lower case. -/
theorem lower_singleton {c : Char} (undivided : isSeparator c = false) (other : c ≠ '_') :
    lower [c] ≠ [] ∧ ∀ d ∈ lower [c], isLowered d = true ∧ isSeparator d = false ∧ d ≠ '_' := by
  constructor
  · rw [lower, lowerFrom]
    split
    · simp
    · rw [lowerChar]
      split <;> simp
  · intro d member
    obtain ⟨lowered, origin⟩ := mem_lowerFrom member
    refine ⟨lowered, ?_⟩
    rcases origin with kept | made
    · rw [List.mem_singleton.mp kept]
      exact ⟨undivided, other⟩
    · exact undivided_of_not_neverLowered made

theorem camelSettled_camel (name : List Char) : CamelSettled (camel name) := by
  rw [camel]
  cases kept : dropEnds (· == '_') (plain name) with
  | nil =>
    have empty : lowerFirst (capitalise 0 []) = [] := rfl
    rw [empty]
    exact ⟨by simp, by simp, by simp, .nil⟩
  | cons c rest =>
    have undivided : ∀ d ∈ c :: rest, isSeparator d = false := fun d member =>
      not_isSeparator_of_mem_underscoreRuns ((dropEnds_sublist _ _).subset (kept ▸ member))
    have other : c ≠ '_' := by
      have head : (dropEnds (· == '_') (plain name)).head? = some c := by rw [kept]; rfl
      simpa using head?_dropEnds head
    have ended : rest.getLast? ≠ some '_' := by
      intro last
      have final : (dropEnds (· == '_') (plain name)).getLast? = some '_' := by
        rw [kept, List.getLast?_cons, last]
        rfl
      simpa using getLast?_dropEndWhile final
    obtain ⟨filled, lowered⟩ := lower_singleton (undivided c List.mem_cons_self) other
    rw [capitalise_cons other, lowerFirst]
    refine ⟨fun d member => ?_, fun d first => ?_, fun last => ?_, ?_⟩
    · rcases List.mem_append.mp member with front | later
      · exact (lowered d front).2.1
      · exact not_isSeparator_of_mem_capitalise (fun e inside => undivided e (List.mem_cons_of_mem _ inside)) later
    · rw [List.head?_append_of_ne_nil _ filled] at first
      obtain ⟨small, -, underscore⟩ := lowered d (List.mem_of_mem_head? first)
      exact ⟨small, underscore⟩
    · rw [List.getLast?_append] at last
      cases final : (capitalise 0 rest).getLast? with
      | none =>
        rw [final, Option.none_or] at last
        exact (lowered '_' (List.mem_of_getLast? last)).2.2 rfl
      | some d =>
        rw [final, Option.some_or] at last
        exact getLast?_capitalise ended (fun _ => rfl) (final.trans last)
    · exact underscoresHeld_append (fun d member => (lowered d member).2.2) (underscoresHeld_capitalise 0 rest)

theorem CamelSettled.camel_eq {name : List Char} (settled : CamelSettled name) : camel name = name := by
  have ends : dropEnds (· == '_') name = name :=
    dropEnds_eq_self (fun c first => by simpa using (settled.first c first).2) fun c last => by
      rw [beq_eq_false_iff_ne]
      rintro rfl
      exact settled.last last
  rw [camel, plain_of_undivided settled.undivided, ends,
    capitalise_of_held settled.held fun none => absurd none (Nat.lt_irrefl 0)]
  cases name with
  | nil => rfl
  | cons c rest =>
    have lowered : lower [c] = [c] :=
      lowerFrom_eq_self (List.forall_mem_singleton.mpr (settled.first c rfl).1) false
    rw [List.replicate_zero, List.nil_append, lowerFirst, lowered]
    rfl

theorem camel_eq_self_iff {name : List Char} : camel name = name ↔ CamelSettled name :=
  ⟨fun same => same ▸ camelSettled_camel name, CamelSettled.camel_eq⟩

end Camel

end Words

namespace Naming

/-- A name in snake case is left as it is by snake case, and one in camel case by camel case. The names that
are left as they are can be told by their characters. -/
theorem case_styles_settle (name : String) :
    snake (snake name) = snake name ∧ camel (camel name) = camel name ∧
      (snake name = name ↔ Words.SnakeSettled name.toList) ∧
      (camel name = name ↔ Words.CamelSettled name.toList) := by
  have snake_iff (text : String) : snake text = text ↔ Words.SnakeSettled text.toList := by
    rw [← Words.snake_eq_self_iff, ← String.toList_inj, snake, Text.onChars, String.toList_ofList]
  have camel_iff (text : String) : camel text = text ↔ Words.CamelSettled text.toList := by
    rw [← Words.camel_eq_self_iff, ← String.toList_inj, camel, Text.onChars, String.toList_ofList]
  refine ⟨(snake_iff _).mpr ?_, (camel_iff _).mpr ?_, snake_iff name, camel_iff name⟩
  · rw [snake, Text.onChars, String.toList_ofList]
    exact Words.snakeSettled_snake _
  · rw [camel, Text.onChars, String.toList_ofList]
    exact Words.camelSettled_camel _

end Naming

end Subgraph
