import Mathlib.Data.List.DropRight
import Subgraph.Proofs.Names
import Subgraph.Sdl.Literal

namespace Subgraph.Sdl

/-- Line feeds and carriage returns are the only characters that end a line of a document. -/
def isLineEnd (c : Char) : Bool :=
  c == '\n' || c == '\r'

/-- The character that stands after a backslash for another one. -/
def unescape? : Char → Option Char
  | '"' => some '"'
  | '\\' => some '\\'
  | '/' => some '/'
  | 'b' => some '\x08'
  | 'f' => some '\x0c'
  | 'n' => some '\n'
  | 'r' => some '\r'
  | 't' => some '\t'
  | _ => none

/-- The character with a code of four hexadecimal digits. Halves of surrogate pairs are none. -/
def codeChar? (a b c d : Char) : Option Char := do
  let code := (((← Text.hexValue? a) * 16 + (← Text.hexValue? b)) * 16 + (← Text.hexValue? c)) * 16 +
    (← Text.hexValue? d)
  if code.isValidChar then some (Char.ofNat code) else none

/-- What has been read, with some characters before it. -/
def prepend (first : List Char) (read : Option (List Char × List Char)) :
    Option (List Char × List Char) :=
  read.map fun (others, rest) => (first ++ others, rest)

@[simp] theorem prepend_some (first others rest : List Char) :
    prepend first (some (others, rest)) = some (first ++ others, rest) := rfl

@[simp] theorem prepend_nil (read : Option (List Char × List Char)) : prepend [] read = read := by
  cases read <;> rfl

@[simp] theorem prepend_prepend (first second : List Char) (read : Option (List Char × List Char)) :
    prepend first (prepend second read) = prepend (first ++ second) read := by
  cases read with
  | none => rfl
  | some found => simp [prepend]

theorem prepend_eq_some {first value rest : List Char} {read : Option (List Char × List Char)}
    (whole : prepend first read = some (value, rest)) : ∃ others, read = some (others, rest) := by
  obtain ⟨⟨others, left⟩, found, same⟩ := Option.map_eq_some_iff.mp whole
  cases same
  exact ⟨others, found⟩

/-- Reads a string literal after its opening quote: the text that it stands for and what follows its
closing quote. -/
def readText : List Char → Option (List Char × List Char)
  | '"' :: rest => some ([], rest)
  | '\\' :: 'u' :: a :: b :: c :: d :: rest => do
    let first ← codeChar? a b c d
    prepend [first] (readText rest)
  | '\\' :: c :: rest => do
    let first ← unescape? c
    prepend [first] (readText rest)
  | c :: rest => if isLineEnd c then none else prepend [c] (readText rest)
  | [] => none

/-- Reads a block string after its three opening quotes: its raw content, in which three quotes may
stand after a backslash, and what follows its three closing quotes. -/
def readBlock : List Char → Option (List Char × List Char)
  | '\\' :: '"' :: '"' :: '"' :: rest => prepend ['"', '"', '"'] (readBlock rest)
  | '"' :: '"' :: '"' :: rest => some ([], rest)
  | c :: rest => prepend [c] (readBlock rest)
  | [] => none

/-- The lines of a raw content. -/
def blockLines : List Char → List (List Char)
  | [] => [[]]
  | '\r' :: '\n' :: rest => [] :: blockLines rest
  | c :: rest =>
    if isLineEnd c then [] :: blockLines rest
    else (blockLines rest).modifyHead (c :: ·)

/-- Spaces and tabs indent lines. -/
def isSpace (c : Char) : Bool :=
  c == ' ' || c == '\t'

def isBlankLine (line : List Char) : Bool :=
  line.all isSpace

/-- The indentation of a line that has more than that. -/
def indentation? (line : List Char) : Option Nat :=
  if isBlankLine line then none else some (line.takeWhile isSpace).length

/-- What a block string stands for: the indentation that all lines but the first have in common is
taken off, and so are blank lines at both ends. -/
def blockValue (content : List Char) : List Char :=
  let lines := blockLines content
  let common := ((lines.tail.filterMap indentation?).min?).getD 0
  let shifted := lines.take 1 ++ lines.tail.map (·.drop common)
  ['\n'].intercalate ((shifted.dropWhile isBlankLine).rdropWhile isBlankLine)

theorem length_readText_lt {text value rest : List Char} (read : readText text = some (value, rest)) :
    rest.length < text.length := by
  fun_induction readText text generalizing value rest with
  | case1 after =>
    cases Option.some.inj read
    exact Nat.lt_succ_self _
  | case2 a b c d after ih =>
    obtain ⟨first, _, inner⟩ := Option.bind_eq_some_iff.mp read
    obtain ⟨others, inner⟩ := prepend_eq_some inner
    have shorter := ih inner
    simp only [List.length_cons]
    omega
  | case3 c after _ ih =>
    obtain ⟨first, _, inner⟩ := Option.bind_eq_some_iff.mp read
    obtain ⟨others, inner⟩ := prepend_eq_some inner
    have shorter := ih inner
    simp only [List.length_cons]
    omega
  | case4 => cases read
  | case5 c after _ _ _ _ ih =>
    obtain ⟨others, inner⟩ := prepend_eq_some read
    exact Nat.lt_succ_of_lt (ih inner)
  | case6 => cases read

theorem length_readBlock_lt {text content rest : List Char}
    (read : readBlock text = some (content, rest)) : rest.length < text.length := by
  fun_induction readBlock text generalizing content rest with
  | case1 after ih =>
    obtain ⟨others, inner⟩ := prepend_eq_some read
    have shorter := ih inner
    simp only [List.length_cons]
    omega
  | case2 after =>
    cases Option.some.inj read
    simp only [List.length_cons]
    omega
  | case3 c after _ _ ih =>
    obtain ⟨others, inner⟩ := prepend_eq_some read
    exact Nat.lt_succ_of_lt (ih inner)
  | case4 => cases read

/-- The character that a code stands for, if it has four digits. -/
def readCode? : List Char → Option Char
  | [a, b, c, d] => codeChar? a b c d
  | _ => none

/-- A control character is written with a code that stands for it. -/
theorem hexDigits_control {c : Char} (control : c.toNat < 0x20) :
    ∃ a b d e, Text.hexDigits 4 c.toNat = [a, b, d, e] ∧ codeChar? a b d e = some c := by
  have each : ∀ code < 0x20, readCode? (Text.hexDigits 4 code) = some (Char.ofNat code) := by decide +kernel
  have read := each c.toNat control
  rw [Char.ofNat_toNat] at read
  unfold readCode? at read
  split at read
  · rename_i a b d e digits
    exact ⟨a, b, d, e, digits, read⟩
  · cases read

/-- Each character of a literal is read back on its own. -/
theorem readText_escape (c : Char) (rest : List Char) :
    readText (escape c ++ rest) = prepend [c] (readText rest) := by
  unfold escape
  split
  · subst c; rfl
  split
  · subst c; rfl
  split
  · subst c; rfl
  split
  · subst c; rfl
  split
  · subst c; rfl
  split
  · subst c; rfl
  split
  · subst c; rfl
  split
  · rename_i control
    obtain ⟨a, b, d, e, digits, code⟩ := hexDigits_control control
    simp [digits, readText, code]
  · simp_all [readText, isLineEnd]

theorem readText_quote (text rest : List Char) :
    readText (text.flatMap escape ++ '"' :: rest) = some (text, rest) := by
  induction text with
  | nil => rfl
  | cons c text ih => rw [List.flatMap_cons, List.append_assoc, readText_escape, ih]; rfl

/-- No three quotes are left in a row without a backslash before them, up to the next line. -/
theorem guardQuotes_starts (text tail : List Char) :
    (∀ rest, guardQuotes text ++ '\n' :: tail ≠ '"' :: '"' :: '"' :: rest) ∧
      ((∀ rest, text ≠ '"' :: '"' :: rest) →
        ∀ rest, guardQuotes text ++ '\n' :: tail ≠ '"' :: '"' :: rest) ∧
      ((∀ rest, text ≠ '"' :: rest) → ∀ rest, guardQuotes text ++ '\n' :: tail ≠ '"' :: rest) := by
  fun_induction guardQuotes text with
  | case1 rest ih => simp
  | case2 => simp
  | case3 c rest unguarded ih =>
    refine ⟨fun more same => ?_, fun single more same => ?_, fun other more same => ?_⟩
    · obtain ⟨rfl, others⟩ := List.cons.inj same
      exact ih.2.1 (fun r start => unguarded r rfl start) more others
    · obtain ⟨rfl, others⟩ := List.cons.inj same
      exact ih.2.2 (fun r start => single r (by rw [start])) more others
    · obtain ⟨rfl, _⟩ := List.cons.inj same
      exact other rest rfl

theorem readBlock_step {c : Char} {rest : List Char}
    (unescaped : c = '\\' → ∀ more, rest ≠ '"' :: '"' :: '"' :: more)
    (unclosed : c = '"' → ∀ more, rest ≠ '"' :: '"' :: more) :
    readBlock (c :: rest) = prepend [c] (readBlock rest) := by
  rw [readBlock]
  · exact fun more first start => unescaped first more start
  · exact fun more first start => unclosed first more start

theorem readBlock_plain {text : List Char} (plain : ∀ c ∈ text, c ≠ '\\' ∧ c ≠ '"') (rest : List Char) :
    readBlock (text ++ rest) = prepend text (readBlock rest) := by
  induction text with
  | nil => simp
  | cons c text ih =>
    obtain ⟨solid, unquoted⟩ := plain c List.mem_cons_self
    rw [List.cons_append, readBlock_step (fun same => absurd same solid) (fun same => absurd same unquoted),
      ih fun d later => plain d (List.mem_cons_of_mem _ later), prepend_prepend, List.singleton_append]

theorem readBlock_indent {indent : List Char} (spaces : ∀ c ∈ indent, isSpace c = true) (rest : List Char) :
    readBlock ('\n' :: indent ++ rest) = prepend ('\n' :: indent) (readBlock rest) := by
  refine readBlock_plain (fun c member => ?_) rest
  rcases List.mem_cons.mp member with rfl | inside
  · decide
  · constructor <;> rintro rfl <;> exact absurd (spaces _ inside) (by decide)

/-- The content of a block string ends where its text does: at the quotes of the next line. -/
theorem readBlock_guardQuotes (text indent rest : List Char) (spaces : ∀ c ∈ indent, isSpace c = true) :
    readBlock (guardQuotes text ++ '\n' :: indent ++ '"' :: '"' :: '"' :: rest) =
      some (text ++ '\n' :: indent, rest) := by
  have closing : readBlock ('\n' :: indent ++ '"' :: '"' :: '"' :: rest) = some ('\n' :: indent, rest) := by
    rw [readBlock_indent spaces, readBlock]
    simp
  fun_induction guardQuotes text with
  | case1 text ih => simp_all [readBlock]
  | case2 => exact closing
  | case3 c text unguarded ih =>
    simp only [List.cons_append, List.append_assoc] at ih ⊢
    rw [readBlock_step, ih]
    · rfl
    · exact fun _ => (guardQuotes_starts text _).1
    · rintro rfl
      exact (guardQuotes_starts text _).2.1 fun r start => unguarded r rfl start

/-- A text on an indented line of its own is the content of its block string, with the line ends and the
indents around it. -/
theorem readBlock_indented (text rest : List Char) {indent : List Char}
    (spaces : ∀ c ∈ indent, isSpace c = true) :
    readBlock ('\n' :: indent ++ (guardQuotes text ++ '\n' :: indent ++ '"' :: '"' :: '"' :: rest)) =
      some ('\n' :: (indent ++ text ++ '\n' :: indent), rest) := by
  rw [readBlock_indent spaces, readBlock_guardQuotes text indent rest spaces]
  simp

theorem blockLines_cons {c : Char} (inside : isLineEnd c = false) (rest : List Char) :
    blockLines (c :: rest) = (blockLines rest).modifyHead (c :: ·) := by
  rw [blockLines]
  · simp [inside]
  · rintro more rfl
    cases inside

theorem blockLines_newline (rest : List Char) : blockLines ('\n' :: rest) = [] :: blockLines rest := by
  rw [blockLines]
  · rfl
  · intro more same
    cases same

theorem blockLines_line {line : List Char} (single : ∀ c ∈ line, isLineEnd c = false) (rest : List Char) :
    blockLines (line ++ '\n' :: rest) = line :: blockLines rest := by
  induction line with
  | nil => exact blockLines_newline rest
  | cons c line ih =>
    rw [List.cons_append, blockLines_cons (single c List.mem_cons_self),
      ih fun d later => single d (List.mem_cons_of_mem _ later)]
    rfl

theorem blockLines_last {line : List Char} (single : ∀ c ∈ line, isLineEnd c = false) :
    blockLines line = [line] := by
  induction line with
  | nil => rfl
  | cons c line ih =>
    rw [blockLines_cons (single c List.mem_cons_self),
      ih fun d later => single d (List.mem_cons_of_mem _ later)]
    rfl

/-- A single line of text that does not begin with a space is what its block string stands for, however
far it is indented. -/
theorem blockValue_line {indent text : List Char} {c : Char} (spaces : ∀ c ∈ indent, isSpace c = true)
    (single : ∀ c ∈ text, isLineEnd c = false) (start : text.head? = some c) (solid : isSpace c = false) :
    blockValue ('\n' :: (indent ++ text ++ '\n' :: indent)) = text := by
  have inside (d : Char) (space : isSpace d = true) : isLineEnd d = false := by
    simp only [isSpace, Bool.or_eq_true, beq_iff_eq] at space
    rcases space with rfl | rfl <;> decide
  have lines : blockLines ('\n' :: (indent ++ text ++ '\n' :: indent)) = [[], indent ++ text, indent] := by
    rw [blockLines_newline, blockLines_line, blockLines_last fun d member => inside d (spaces d member)]
    intro d member
    exact (List.mem_append.mp member).elim (fun here => inside d (spaces d here)) (single d)
  obtain ⟨rest, rfl⟩ : ∃ rest, text = c :: rest := by
    cases text with
    | nil => cases start
    | cons d rest => exact ⟨rest, by rw [Option.some.inj start]⟩
  have blank : isBlankLine indent = true := List.all_eq_true.mpr spaces
  have filled (front : List Char) : isBlankLine (front ++ c :: rest) = false := by
    simp [isBlankLine, solid]
  have leading : (indent ++ c :: rest).takeWhile isSpace = indent := by
    rw [List.takeWhile_append_of_pos spaces]
    simp [solid]
  have common : [indent ++ c :: rest, indent].filterMap indentation? = [indent.length] := by
    simp [indentation?, blank, filled, leading]
  have shifted : [indent ++ c :: rest, indent].map (·.drop indent.length) = [c :: rest, []] := by simp
  have trimmed : (([[]] ++ [c :: rest, []]).dropWhile isBlankLine).rdropWhile isBlankLine =
      [c :: rest] := by
    have text : isBlankLine (c :: rest) = false := filled []
    have empty : isBlankLine [] = true := rfl
    simp [List.rdropWhile, text, empty]
  simp only [blockValue, lines, List.tail_cons, common, List.min?_singleton, Option.getD_some,
    List.take_succ_cons, List.take_zero, shifted, trimmed, List.intercalate_singleton]

end Subgraph.Sdl
