import Subgraph.Proofs.Comment

namespace Subgraph

namespace Text

theorem linesFrom_unbroken {line : List Char} (unbroken : ∀ c ∈ line, isLineBreak c = false)
    (current rest : List Char) : linesFrom current (line ++ rest) = linesFrom (line.reverse ++ current) rest := by
  induction line generalizing current with
  | nil => rfl
  | cons c line ih =>
    have here : isLineBreak c = false := unbroken c List.mem_cons_self
    have later := ih (fun d member => unbroken d (List.mem_cons_of_mem _ member)) (c :: current)
    rw [List.cons_append, linesFrom, if_neg (by simp [here]), later, List.reverse_cons, List.append_assoc]
    · rfl
    · rintro more rfl
      cases here

theorem lines_append_newline {line : List Char} (unbroken : ∀ c ∈ line, isLineBreak c = false)
    (rest : List Char) : lines (line ++ '\n' :: rest) = line :: lines rest := by
  rw [lines, linesFrom_unbroken unbroken, linesFrom, if_pos (by decide)]
  · simp [lines]
  · intro more same
    cases same

theorem lines_unbroken {line : List Char} (unbroken : ∀ c ∈ line, isLineBreak c = false) :
    lines line = if line.isEmpty then [] else [line] := by
  have whole := linesFrom_unbroken unbroken [] []
  rw [List.append_nil] at whole
  rw [lines, whole, linesFrom]
  simp

/-- Joined lines are found again, up to an empty line at the end. -/
theorem lines_intercalate {joined : List (List Char)}
    (unbroken : ∀ line ∈ joined, ∀ c ∈ line, isLineBreak c = false) :
    joined = lines (['\n'].intercalate joined) ∨ joined = lines (['\n'].intercalate joined) ++ [[]] := by
  induction joined with
  | nil => exact .inl rfl
  | cons line rest ih =>
    have here := unbroken line List.mem_cons_self
    cases rest with
    | nil =>
      rw [List.intercalate_singleton, lines_unbroken here]
      cases line with
      | nil => exact .inr rfl
      | cons => exact .inl rfl
    | cons next rest =>
      have later := ih fun other member => unbroken other (List.mem_cons_of_mem _ member)
      rw [List.intercalate_cons_cons, List.append_assoc, List.singleton_append, lines_append_newline here]
      exact later.imp (congrArg (line :: ·)) (congrArg (line :: ·))

end Text

namespace Comment

open Text

/-- The tokens of all styles of comments. Slashes, opening and closing asterisks may be repeated any
number of times. -/
inductive Delimiter where
  | slashes (more : Nat)
  | opening (more : Nat)
  | closing (more : Nat)
  | asterisk
  | number
  deriving DecidableEq, Repr

def Delimiter.chars : Delimiter → List Char
  | slashes more => '/' :: '/' :: List.replicate more '/'
  | opening more => '/' :: '*' :: List.replicate more '*'
  | closing more => '*' :: List.replicate more '*' ++ ['/']
  | asterisk => ['*']
  | number => ['#']

/-- Blanks that end no line. -/
structure Spacing where
  chars : List Char
  blank : ∀ c ∈ chars, isBlank c = true
  unbroken : ∀ c ∈ chars, isLineBreak c = false

/-- A line of prose. It may begin like a delimiter, but not end like a closing one. -/
structure ProseLine where
  chars : List Char
  nonempty : chars ≠ []
  trimmed : Trimmed chars
  unbroken : ∀ c ∈ chars, isLineBreak c = false
  unclosed : ¬['*', '/'] <:+ chars

/-- A line of a comment. A filler is blank or has a delimiter alone. -/
inductive SourceLine where
  | filler (before : Spacing) (delimiter : Option Delimiter) (after : Spacing)
  | prose (indent : Spacing) (delimiter : Delimiter) (text : ProseLine)

namespace SourceLine

def chars : SourceLine → List Char
  | filler before delimiter after => before.chars ++ (delimiter.elim [] Delimiter.chars ++ after.chars)
  | prose indent delimiter text => indent.chars ++ (delimiter.chars ++ ([' '] ++ text.chars))

def proseChars? : SourceLine → Option (List Char)
  | filler _ _ _ => none
  | prose _ _ text => some text.chars

/-- The line as it is written. -/
def text (line : SourceLine) : String :=
  String.ofList line.chars

/-- The prose of the line, if it has any. -/
def prose? (line : SourceLine) : Option String :=
  line.proseChars?.map String.ofList

end SourceLine

namespace Delimiter

variable (delimiter : Delimiter)

theorem chars_ne_nil : delimiter.chars ≠ [] := by
  cases delimiter <;> simp [chars]

theorem mem_chars {c : Char} (member : c ∈ delimiter.chars) : c = '/' ∨ c = '*' ∨ c = '#' := by
  cases delimiter with
  | slashes more =>
    simp only [chars, List.mem_cons, List.mem_replicate] at member
    tauto
  | opening more =>
    simp only [chars, List.mem_cons, List.mem_replicate] at member
    tauto
  | closing more =>
    simp only [chars, List.cons_append, List.mem_cons, List.mem_append, List.mem_replicate,
      List.not_mem_nil] at member
    tauto
  | asterisk => exact .inr (.inl (List.mem_singleton.mp member))
  | number => exact .inr (.inr (List.mem_singleton.mp member))

theorem solid {c : Char} (member : c ∈ delimiter.chars) : isBlank c = false ∧ isLineBreak c = false := by
  rcases delimiter.mem_chars member with rfl | rfl | rfl <;> decide

theorem trimmed_chars : Trimmed delimiter.chars :=
  ⟨fun _ first => (delimiter.solid (List.mem_of_mem_head? first)).1,
    fun _ last => (delimiter.solid (List.mem_of_getLast? last)).1⟩

theorem isDelimiter_chars : isDelimiter delimiter.chars = true := by
  cases delimiter with
  | slashes more => simp [chars, isDelimiter]
  | opening more => simp [chars, isDelimiter]
  | closing more =>
    have closes : (List.replicate more '*' ++ ['/']).dropWhile (· == '*') = ['/'] :=
      (span_append (by simp) (by simp)).2
    rw [chars, List.cons_append, isDelimiter, closes]
    · rfl
    · simp
  | asterisk => rfl
  | number => rfl

/-- A delimiter is taken off where a blank or nothing follows it, and nothing else is. -/
theorem dropDelimiter_append {rest : List Char} (apart : ∀ c, rest.head? = some c → isBlank c = true) :
    dropDelimiter (delimiter.chars ++ rest) = rest := by
  have solid : ∀ c ∈ delimiter.chars, (!isBlank c) = true := fun c member => by
    simp [(delimiter.solid member).1]
  obtain ⟨token, left⟩ := span_append solid fun c first => by simp [apart c first]
  rw [dropDelimiter, token, if_pos delimiter.isDelimiter_chars, left]

end Delimiter

/-- The blanks around a line make no difference. -/
theorem cleanLine_around {before after : List Char} (front : ∀ c ∈ before, isBlank c = true)
    (back : ∀ c ∈ after, isBlank c = true) (line : List Char) :
    cleanLine (before ++ (line ++ after)) = cleanLine line := by
  rw [cleanLine, trim_append_left front, trim_append_right _ back, cleanLine]

theorem cleanLine_delimiter (delimiter : Delimiter) : cleanLine delimiter.chars = [] := by
  have alone : dropDelimiter (delimiter.chars ++ []) = [] := delimiter.dropDelimiter_append (by simp)
  rw [List.append_nil] at alone
  rw [cleanLine, delimiter.trimmed_chars.trim_eq, alone]
  rfl

theorem cleanLine_filler (before : Spacing) (delimiter : Option Delimiter) (after : Spacing) :
    cleanLine (SourceLine.filler before delimiter after).chars = [] := by
  rw [SourceLine.chars, cleanLine_around before.blank after.blank]
  cases delimiter with
  | none => rfl
  | some delimiter => exact cleanLine_delimiter delimiter

/-- Of a line with prose, one delimiter and the blanks around it go. What is left is not looked at again. -/
theorem cleanLine_prose (indent : Spacing) (delimiter : Delimiter) (text : ProseLine) :
    cleanLine (SourceLine.prose indent delimiter text).chars = text.chars := by
  have whole : Trimmed (delimiter.chars ++ ([' '] ++ text.chars)) :=
    delimiter.trimmed_chars.around text.trimmed delimiter.chars_ne_nil text.nonempty [' ']
  have bare : dropDelimiter (delimiter.chars ++ ([' '] ++ text.chars)) = [' '] ++ text.chars :=
    delimiter.dropDelimiter_append (by rintro c ⟨⟩; decide)
  have space : trim ([' '] ++ text.chars) = text.chars := by
    rw [trim_append_left (List.forall_mem_singleton.mpr (by decide)), text.trimmed.trim_eq]
  have unclosed : dropClosing text.chars = text.chars :=
    if_neg (by simpa using text.unclosed)
  rw [SourceLine.chars, cleanLine, trim_append_left indent.blank, whole.trim_eq, bare, space, unclosed]

theorem SourceLine.unbroken (line : SourceLine) : ∀ c ∈ line.chars, isLineBreak c = false := by
  intro c member
  cases line with
  | filler before delimiter after =>
    simp only [chars, List.mem_append] at member
    rcases member with front | token | back
    · exact before.unbroken c front
    · cases delimiter with
      | none => cases token
      | some delimiter => exact (delimiter.solid token).2
    · exact after.unbroken c back
  | prose indent delimiter text =>
    simp only [chars, List.mem_append] at member
    rcases member with front | token | space | inside
    · exact indent.unbroken c front
    · exact (delimiter.solid token).2
    · rw [List.mem_singleton.mp space]
      decide
    · exact text.unbroken c inside

theorem filter_cleanLine (source : List SourceLine) :
    ((source.map SourceLine.chars).map cleanLine).filter (!·.isEmpty) =
      source.filterMap SourceLine.proseChars? := by
  induction source with
  | nil => rfl
  | cons line source ih =>
    rw [List.map_cons, List.map_cons, List.filter_cons, ih]
    cases line with
    | filler before delimiter after =>
      rw [cleanLine_filler]
      rfl
    | prose indent delimiter text =>
      rw [cleanLine_prose, if_pos (by simpa using text.nonempty)]
      rfl

/-- Whether the last line is empty makes no difference, so lines may be joined before they are cleaned. -/
theorem cleanChars_intercalate {joined : List (List Char)}
    (unbroken : ∀ line ∈ joined, ∀ c ∈ line, isLineBreak c = false) :
    cleanChars (['\n'].intercalate joined) =
      [' '].intercalate ((joined.map cleanLine).filter (!·.isEmpty)) := by
  rw [cleanChars]
  rcases lines_intercalate unbroken with same | longer
  · rw [← same]
  · have empty : cleanLine [] = [] := rfl
    conv_rhs => rw [longer]
    simp [empty]

/-- A comment in any styles of delimiters, one chosen for each line, is cleaned to its prose with single
spaces between the lines. -/
theorem clean_undoes_delimiters (source : List SourceLine) :
    clean ("\n".intercalate (source.map SourceLine.text)) =
      " ".intercalate (source.filterMap SourceLine.prose?) := by
  have unbroken : ∀ line ∈ source.map SourceLine.chars, ∀ c ∈ line, isLineBreak c = false := by
    intro line member
    obtain ⟨written, _, rfl⟩ := List.mem_map.mp member
    exact written.unbroken
  have cleaned := cleanChars_intercalate unbroken
  rw [filter_cleanLine] at cleaned
  have written : (source.map SourceLine.text).map String.toList = source.map SourceLine.chars := by
    simp [SourceLine.text]
  have kept : (source.filterMap SourceLine.prose?).map String.toList =
      source.filterMap SourceLine.proseChars? := by
    simp [SourceLine.prose?, List.map_filterMap, Function.comp_def]
  rw [← String.toList_inj, clean, onChars, String.toList_ofList, String.toList_intercalate,
    String.toList_intercalate, written, kept]
  exact cleaned

/-- Lines of prose that begin like delimiters themselves, and a line between them that has no prose. -/
def styledSource : List SourceLine :=
  [.prose ⟨[' '], by simp; decide, by simp; decide⟩ (.slashes 1)
      ⟨"# 1 of".toList, by decide, ⟨by rintro c ⟨⟩; decide, by rintro c ⟨⟩; decide⟩,
        by simp [isLineBreak], by decide⟩,
    .filler ⟨[], by simp, by simp⟩ (some (.closing 2)) ⟨['\t'], by simp; decide, by simp; decide⟩,
    .prose ⟨[], by simp, by simp⟩ (.opening 1)
      ⟨"* two".toList, by decide, ⟨by rintro c ⟨⟩; decide, by rintro c ⟨⟩; decide⟩,
        by simp [isLineBreak], by decide⟩]

theorem clean_undoes_delimiters_styled :
    "\n".intercalate (styledSource.map SourceLine.text) = " /// # 1 of\n***/\t\n/** * two" ∧
      clean " /// # 1 of\n***/\t\n/** * two" = "# 1 of * two" := by
  have written : "\n".intercalate (styledSource.map SourceLine.text) = " /// # 1 of\n***/\t\n/** * two" := by
    decide +kernel
  have prose : " ".intercalate (styledSource.filterMap SourceLine.prose?) = "# 1 of * two" := by
    decide +kernel
  exact ⟨written, by rw [← written, clean_undoes_delimiters, prose]⟩

end Comment

end Subgraph
