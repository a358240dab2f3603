import Mathlib.Data.Nat.Digits.Defs
import Subgraph.Proofs.Yaml.Quoted

namespace Subgraph

namespace Text

/-- The number that hexadecimal digits stand for, after those of `value`. -/
def hexNumber (value : Nat) (digits : List Char) : Nat :=
  digits.foldl (fun value c => value * 16 + (hexValue? c).getD 0) value

theorem hexValue?_digitChar {digit : Nat} (small : digit < 16) :
    hexValue? (Nat.digitChar digit).toUpper = some digit := by
  have each : ∀ digit < 16, hexValue? (Nat.digitChar digit).toUpper = some digit := by decide
  exact each digit small

theorem hexNumber_append (value : Nat) (digits more : List Char) :
    hexNumber value (digits ++ more) = hexNumber (hexNumber value digits) more :=
  List.foldl_append

/-- The digits of a number are digits, and they stand for it. -/
theorem hexNumber_toDigits (n : Nat) :
    (∀ c ∈ (Nat.toDigits 16 n).map Char.toUpper, (hexValue? c).isSome = true) ∧
      hexNumber 0 ((Nat.toDigits 16 n).map Char.toUpper) = n := by
  induction n using Nat.strongRecOn with
  | ind n ih =>
    rw [Nat.toDigits_eq_if (by decide)]
    split
    · rename_i small
      simp [hexNumber, hexValue?_digitChar small]
    · have last : hexValue? (Nat.digitChar (n % 16)).toUpper = some (n % 16) :=
        hexValue?_digitChar (Nat.mod_lt n (by decide))
      obtain ⟨digits, number⟩ := ih (n / 16) (by omega)
      rw [List.map_append, List.map_singleton]
      constructor
      · intro c inside
        rcases List.mem_append.mp inside with front | back
        · exact digits c front
        · rw [List.mem_singleton.mp back, last]
          rfl
      · rw [hexNumber_append, number]
        simp only [hexNumber, List.foldl_cons, List.foldl_nil, last, Option.getD_some]
        omega

/-- Zeros in front do not change a number. -/
theorem hexNumber_zeros (count : Nat) (digits : List Char) :
    hexNumber 0 (List.replicate count '0' ++ digits) = hexNumber 0 digits := by
  induction count with
  | zero => rfl
  | succ count ih => exact ih

theorem hexDigitsUpper_eq (width n : Nat) : hexDigitsUpper width n =
    List.replicate (width - (Nat.toDigits 16 n).length) '0' ++ (Nat.toDigits 16 n).map Char.toUpper := by
  rw [hexDigitsUpper, hexDigits, List.map_append, List.map_replicate]
  rfl

theorem hexDigitsUpper_digit {width n : Nat} {c : Char} (inside : c ∈ hexDigitsUpper width n) :
    (hexValue? c).isSome = true := by
  rw [hexDigitsUpper_eq] at inside
  rcases List.mem_append.mp inside with front | back
  · rw [List.eq_of_mem_replicate front]
    rfl
  · exact (hexNumber_toDigits n).1 c back

theorem hexNumber_hexDigitsUpper (width n : Nat) : hexNumber 0 (hexDigitsUpper width n) = n := by
  rw [hexDigitsUpper_eq, hexNumber_zeros, (hexNumber_toDigits n).2]

theorem length_hexDigitsUpper {width n : Nat} (positive : 0 < width) (small : n < 16 ^ width) :
    (hexDigitsUpper width n).length = width := by
  have short : (Nat.toDigits 16 n).length ≤ width := (Nat.length_toDigits_le_iff (by decide) positive).mpr small
  rw [hexDigitsUpper_eq, List.length_append, List.length_replicate, List.length_map]
  omega

end Text

namespace Yaml

theorem Scan.append_append (scan : Scan) (front back : List Char) :
    (scan.append back).append front = scan.append (front ++ back) := by
  cases scan with
  | error wrong => rfl
  | ok read => exact congrArg (fun text => Except.ok (text, read.2)) (List.append_assoc front back read.1).symm

section Double

variable {gap : Gap}

/-- What a character outside of an escape leads to. -/
theorem double_none (gap : Gap) (c : Char) (rest : List Char) : Wrapped.doubleQuoted gap .none (c :: rest) =
    if c == '"' then .ok (gap.text, rest)
    else if c == '\\' then (Wrapped.doubleQuoted .nothing .opened rest).append gap.text
    else if isBreak c then
      if Cursor.isDocumentMark rest then .error (.quoteDivided, rest)
      else Wrapped.doubleQuoted (gap.addBreak c) .none rest
    else if isGap c then Wrapped.doubleQuoted (gap.addBlank c) .none rest
    else (Wrapped.doubleQuoted .nothing .none rest).append (gap.text ++ [c]) :=
  rfl

theorem double_close (rest : List Char) : Wrapped.doubleQuoted gap .none ('"' :: rest) = .ok (gap.text, rest) := by
  rw [double_none, if_pos (by decide)]

theorem double_open (rest : List Char) :
    Wrapped.doubleQuoted gap .none ('\\' :: rest) =
      (Wrapped.doubleQuoted .nothing .opened rest).append gap.text := by
  rw [double_none, if_neg (by decide), if_pos (by decide)]

theorem double_space (rest : List Char) :
    Wrapped.doubleQuoted gap .none (' ' :: rest) = Wrapped.doubleQuoted (gap.addBlank ' ') .none rest := by
  rw [double_none, if_neg (by decide), if_neg (by decide), if_neg (by decide), if_pos (by decide)]

theorem double_char {c : Char} (safe : Writer.isSafe c = true) (solid : c ≠ ' ') (unquoted : c ≠ '"')
    (bare : c ≠ '\\') (rest : List Char) : Wrapped.doubleQuoted gap .none (c :: rest) =
      (Wrapped.doubleQuoted .nothing .none rest).append (gap.text ++ [c]) := by
  rw [double_none, if_neg (by simpa using unquoted), if_neg (by simpa using bare),
    if_neg (by simp [(safeFacts safe).unbroken]), if_neg (by simpa [isGap_eq safe] using solid)]

/-- What a backslash opens: an escape of one letter, an escape of digits, or a line that goes on. -/
theorem double_opened (gap : Gap) (c : Char) (rest : List Char) :
    (∀ meant, Wrapped.shortEscapes.lookup c = some meant →
      Wrapped.doubleQuoted gap .opened (c :: rest) = (Wrapped.doubleQuoted .nothing .none rest).append [meant]) ∧
    (∀ width, Wrapped.shortEscapes.lookup c = none → Wrapped.hexEscape? c = some width →
      Wrapped.doubleQuoted gap .opened (c :: rest) = Wrapped.doubleQuoted gap (.digits width width 0) rest) ∧
    (c = '\n' → Cursor.isDocumentMark rest = false →
      Wrapped.doubleQuoted gap .opened (c :: rest) = Wrapped.doubleQuoted (.breaks '\n' true [] 0) .none rest) := by
  rw [Wrapped.doubleQuoted]
  refine ⟨fun meant means => ?_, fun width noLetter counted => ?_, ?_⟩
  · rw [means]
  · rw [noLetter, counted]
  · rintro rfl unmarked
    have noLetter : Wrapped.shortEscapes.lookup '\n' = none := by decide
    have noDigits : Wrapped.hexEscape? '\n' = none := rfl
    rw [noLetter, noDigits]
    dsimp only
    rw [if_pos (by decide), if_neg (by simp [unmarked])]
    rfl

theorem digits_read {digits : List Char} (known : ∀ c ∈ digits, (Text.hexValue? c).isSome = true)
    (several : digits ≠ []) (width value : Nat) (rest : List Char) :
    Wrapped.doubleQuoted gap (.digits digits.length width value) (digits ++ rest) =
      (Wrapped.doubleQuoted .nothing .none rest).append [Char.ofNat (Text.hexNumber value digits)] := by
  induction digits generalizing value with
  | nil => exact absurd rfl several
  | cons c digits ih =>
    obtain ⟨digit, means⟩ := Option.isSome_iff_exists.mp (known c List.mem_cons_self)
    have number : Text.hexNumber value (c :: digits) = Text.hexNumber (value * 16 + digit) digits := by
      simp [Text.hexNumber, means]
    rw [List.cons_append, Wrapped.doubleQuoted, means, number]
    cases digits with
    | nil => rfl
    | cons next digits =>
      exact ih (fun d inside => known d (List.mem_cons_of_mem _ inside)) (by simp) (value * 16 + digit)

/-- An escape of hexadecimal digits. -/
theorem escape_digits {letter c : Char} {width : Nat} (noLetter : Wrapped.shortEscapes.lookup letter = none)
    (counted : Wrapped.hexEscape? letter = some width) (positive : 0 < width) (small : c.toNat < 16 ^ width)
    (rest : List Char) :
    Wrapped.doubleQuoted gap .none ('\\' :: letter :: Text.hexDigitsUpper width c.toNat ++ rest) =
      (Wrapped.doubleQuoted .nothing .none rest).append (gap.text ++ [c]) := by
  have length := Text.length_hexDigitsUpper positive small
  have several : Text.hexDigitsUpper width c.toNat ≠ [] := List.ne_nil_of_length_pos (by rwa [length])
  have digits := @digits_read .nothing _ (fun _ => Text.hexDigitsUpper_digit) several width 0 rest
  rw [length, Text.hexNumber_hexDigitsUpper, Char.ofNat_toNat] at digits
  rw [List.cons_append, List.cons_append, double_open, (double_opened ..).2.1 width noLetter counted, digits,
    Scan.append_append]

/-- An escape is read as the character that it is written for. -/
theorem escape_read {c : Char} {escape : List Char} (escaped : Writer.escape? c = some escape) (rest : List Char) :
    Wrapped.doubleQuoted gap .none (escape ++ rest) =
      (Wrapped.doubleQuoted .nothing .none rest).append (gap.text ++ [c]) := by
  have each : (Writer.letterEscapes.all fun entry =>
      Wrapped.shortEscapes.lookup entry.2 == some entry.1) = true := by decide
  rw [Writer.escape?] at escaped
  split at escaped
  · rename_i letter found
    cases escaped
    obtain ⟨front, back, shape, -⟩ := List.lookup_eq_some_iff.mp found
    have means := List.all_eq_true.mp each (c, letter) (by simp [shape])
    rw [List.cons_append, List.singleton_append, double_open, (double_opened ..).1 c (eq_of_beq means),
      Scan.append_append]
  · split at escaped
    · cases escaped
    split at escaped
    · rename_i small
      cases escaped
      exact escape_digits (by decide) rfl (by decide) (Nat.lt_succ_of_le small) rest
    split at escaped
    · rename_i small
      cases escaped
      exact escape_digits (by decide) rfl (by decide) (Nat.lt_succ_of_le small) rest
    · cases escaped
      exact escape_digits (by decide) rfl (by decide) (UInt32.toNat_lt c.val) rest

/-- What a character that has no escape is not. -/
theorem escape?_eq_none {c : Char} (bare : Writer.escape? c = none) :
    Writer.isSafe c = true ∧ c ≠ '"' ∧ c ≠ '\\' := by
  refine ⟨?_, ?_, ?_⟩
  · by_contra refused
    rw [Writer.escape?] at bare
    split at bare
    · cases bare
    · rw [if_neg refused] at bare
      split at bare
      · cases bare
      · split at bare <;> cases bare
  · rintro rfl
    exact absurd bare (by decide)
  · rintro rfl
    exact absurd bare (by decide)

theorem space_bare : Writer.escape? ' ' = none := by
  decide

theorem opened_space (rest : List Char) : Wrapped.doubleQuoted gap .opened (' ' :: rest) =
    (Wrapped.doubleQuoted .nothing .none rest).append [' '] :=
  (double_opened ..).1 ' ' (by decide)

section Line

variable {folding : Writer.Folding} (positive : 0 < folding.indent)

include positive

/-- A line that is broken with an escape goes on after its indentation. -/
theorem line_read (rest : List Char) : Wrapped.doubleQuoted gap .none ('\\' :: folding.newLine ++ rest) =
    (Wrapped.doubleQuoted (.breaks '\n' true [] folding.indent) .none rest).append gap.text := by
  have blanks : Wrapped.doubleQuoted (.breaks '\n' true [] 0) .none (Writer.blanks folding.indent ++ rest) =
      Wrapped.doubleQuoted (.breaks '\n' true [] (0 + folding.indent)) .none rest :=
    blanks_read (Wrapped.doubleQuoted · .none) (fun _ => double_space) 0 folding.indent rest
  rw [Nat.zero_add] at blanks
  rw [Writer.Folding.newLine, List.cons_append, List.cons_append, double_open,
    (double_opened ..).2.2 rfl (indented_unmarked positive rest), blanks]

theorem escapedLine_space (rest : List Char) :
    Wrapped.doubleQuoted gap .none ((folding.escapedLine (some ' ')).1 ++ rest) =
      (Wrapped.doubleQuoted .nothing .opened rest).append gap.text := by
  have line : (folding.escapedLine (some ' ')).1 ++ rest = '\\' :: folding.newLine ++ '\\' :: rest := by
    simp [Writer.Folding.escapedLine]
  rw [line, line_read positive, double_open, Scan.append_append]
  exact congrArg (Scan.append · _) (List.append_nil gap.text)

theorem escapedLine_solid {next : Option Char} (solid : next ≠ some ' ') (rest : List Char) :
    Wrapped.doubleQuoted gap .none ((folding.escapedLine next).1 ++ rest) =
      (Wrapped.doubleQuoted (.breaks '\n' true [] folding.indent) .none rest).append gap.text := by
  have line : (folding.escapedLine next).1 = '\\' :: folding.newLine := by
    simp [Writer.Folding.escapedLine, solid]
  rw [line, line_read positive]

end Line

/-- What has been passed of a text in double quotes, in front of what is left of it. A space that would start a
line stands behind a backslash of its own, within the limit. -/
inductive DoubleGap (folding : Writer.Folding) (text : List Char) : Nat → Gap → Wrapped.Escape → Prop
  | nothing {column : Nat} : DoubleGap folding text column .nothing .none
  | spaces {column : Nat} {spaces : List Char} : DoubleGap folding text column (.blanks spaces) .none
  | line {column : Nat} (solid : text.head? ≠ some ' ') :
    DoubleGap folding text column (.breaks '\n' true [] folding.indent) .none
  | space {column : Nat} (space : text.head? = some ' ') (near : folding.isBeyond column = false) :
    DoubleGap folding text column .nothing .opened

/-- An escape is open only in front of a space within the limit. -/
theorem DoubleGap.closed {folding : Writer.Folding} {text : List Char} {column : Nat} {escape : Wrapped.Escape}
    (pending : DoubleGap folding text column gap escape)
    (far : text.head? = some ' ' → folding.isBeyond column = true) : escape = .none := by
  cases pending with
  | nothing => rfl
  | spaces => rfl
  | line => rfl
  | space ahead within =>
    rw [far ahead] at within
    cases within

/-- What is left of a text is read as it was written, whatever has been passed of it. -/
def DoubleReads (folding : Writer.Folding) (after text : List Char) : Prop :=
  ∀ {gap : Gap} {escape : Wrapped.Escape} {column : Nat} {first afterEscape : Bool},
    DoubleGap folding text column gap escape →
      Wrapped.doubleQuoted gap escape (Writer.double folding first afterEscape column text ++ after) =
        .ok (gap.text ++ text, after)

section Reads

variable {folding : Writer.Folding} {after text : List Char}

theorem DoubleReads.nil : DoubleReads folding after [] := by
  intro gap escape column first afterEscape pending
  rw [List.append_nil]
  cases pending with
  | nothing => exact double_close after
  | spaces => exact double_close after
  | line => exact double_close after
  | space space => cases space

variable (positive : 0 < folding.indent) (reads : DoubleReads folding after text)

include positive reads

/-- A character that stands for itself, in front of which a line may end. -/
theorem DoubleReads.bare {c : Char} (bare : Writer.escape? c = none) : DoubleReads folding after (c :: text) := by
  intro gap escape column first afterEscape pending
  obtain ⟨safe, unquoted, unescaped⟩ := escape?_eq_none bare
  rw [Writer.double, bare]
  dsimp only
  split
  · rename_i folds
    simp only [Bool.and_eq_true] at folds
    have closed : escape = .none := pending.closed fun _ => folds.2
    subst closed
    rw [List.append_assoc, List.cons_append]
    by_cases space : c = ' '
    · subst space
      rw [escapedLine_space positive, opened_space, Scan.append_append]
      exact Scan.append_ok (reads .nothing) (by simp [Gap.text])
    · rw [escapedLine_solid positive (by simpa using space), double_char safe space unquoted unescaped,
        Scan.append_append]
      exact Scan.append_ok (reads .nothing) (by simp [Gap.text])
  · rw [List.cons_append]
    by_cases space : c = ' '
    · subst space
      have follows (spaces : List Char) := @reads (.blanks (spaces ++ [' '])) .none (column + 1) false false .spaces
      simp only [Gap.text, List.append_assoc, List.singleton_append] at follows
      cases pending with
      | nothing => exact (double_space _).trans (follows [])
      | @spaces spaces => exact (double_space _).trans (follows spaces)
      | line solid => exact absurd rfl solid
      | space =>
        rw [opened_space]
        exact Scan.append_ok (reads .nothing) (by simp [Gap.text])
    · have closed : escape = .none := pending.closed fun ahead => absurd (Option.some.inj ahead) space
      subst closed
      rw [double_char safe space unquoted unescaped]
      exact Scan.append_ok (reads .nothing) (by simp [Gap.text])

variable (near : folding.isBeyond (folding.indent + 1) = false)

include near

theorem DoubleReads.folded {afterEscape : Bool} :
    Wrapped.doubleQuoted .nothing .none ((folding.escapedLine text.head?).1 ++
      (Writer.double folding false afterEscape (folding.escapedLine text.head?).2 text ++ after)) =
        .ok (text, after) := by
  by_cases space : text.head? = some ' '
  · have column : (folding.escapedLine (some ' ')).2 = folding.indent + 1 := rfl
    rw [space, escapedLine_space positive, column]
    exact Scan.append_ok (reads (.space space near)) rfl
  · rw [escapedLine_solid positive space]
    exact Scan.append_ok (reads (.line space)) rfl

theorem DoubleReads.escaped {c : Char} {written : List Char} (escaped : Writer.escape? c = some written) :
    DoubleReads folding after (c :: text) := by
  intro gap escape column first afterEscape pending
  have closed : escape = .none := by
    refine pending.closed fun ahead => ?_
    cases ahead
    rw [space_bare] at escaped
    cases escaped
  subst closed
  rw [Writer.double, escaped]
  dsimp only
  split
  · rw [List.append_assoc, List.append_assoc, escape_read escaped]
    exact Scan.append_ok (reads.folded positive near) (by simp)
  · rw [List.append_assoc, escape_read escaped]
    exact Scan.append_ok (reads .nothing) (by simp [Gap.text])

end Reads

/-- A text in double quotes is read as it was written. -/
theorem double_read {folding : Writer.Folding} (positive : 0 < folding.indent)
    (near : folding.isBeyond (folding.indent + 1) = false) (after text : List Char) :
    DoubleReads folding after text := by
  induction text with
  | nil => exact DoubleReads.nil
  | cons c text ih =>
    cases escaped : Writer.escape? c with
    | none => exact ih.bare positive escaped
    | some escape => exact ih.escaped positive near escaped

end Double

end Yaml

end Subgraph
