import Mathlib.Data.List.Basic
import Subgraph.Yaml.Writer

namespace Subgraph.Yaml

/-- What a character that needs no escape is not. -/
structure SafeFacts (c : Char) : Prop where
  unbroken : isBreak c = false
  notTab : c ≠ '\t'

theorem safeFacts {c : Char} (safe : Writer.isSafe c = true) : SafeFacts c := by
  have other (d : Char) (refused : Writer.isSafe d = false) : c ≠ d := by
    rintro rfl
    rw [safe] at refused
    cases refused
  have feed := other '\n' (by decide)
  have next := other '\u0085' (by decide)
  have line := other '\u2028' (by decide)
  have paragraph := other '\u2029' (by decide)
  exact ⟨by simp [isBreak, feed, next, line, paragraph], other '\t' (by decide)⟩

/-- Spaces and nothing else are gaps among the characters that need no escape. -/
theorem isGap_eq {c : Char} (safe : Writer.isSafe c = true) : isGap c = (c == ' ') := by
  simp [isGap, (safeFacts safe).notTab]

theorem endsWord_cons {c : Char} (safe : Writer.isSafe c = true) (rest : List Char) :
    Cursor.endsWord (c :: rest) = (c == ' ') := by
  rw [Cursor.endsWord, isGap_eq safe, (safeFacts safe).unbroken, Bool.or_false]

/-- An indented line is no document mark. -/
theorem not_isDocumentMark {c : Char} (other : c ≠ '-') (another : c ≠ '.') (rest : List Char) :
    Cursor.isDocumentMark (c :: rest) = false := by
  simp [Cursor.isDocumentMark, Cursor.startsMark, other, another]

theorem blanks_succ (count : Nat) (rest : List Char) :
    Writer.blanks (count + 1) ++ rest = ' ' :: (Writer.blanks count ++ rest) :=
  rfl

/-- Whatever scans spaces into its gap passes over the indentation of a line. -/
theorem blanks_read {α : Type} (scan : Gap → List Char → α)
    (space : ∀ gap rest, scan gap (' ' :: rest) = scan (gap.addBlank ' ') rest) {first : Char} {escaped : Bool}
    {more : List Char} (column count : Nat) (rest : List Char) :
    scan (.breaks first escaped more column) (Writer.blanks count ++ rest) =
      scan (.breaks first escaped more (column + count)) rest := by
  induction count generalizing column with
  | zero => rfl
  | succ count ih =>
    rw [blanks_succ, space]
    exact (ih (column + 1)).trans (by rw [Nat.add_assoc, Nat.add_comm 1 count])

section Plain

variable {indent : Nat} {rest : List Char} {gap : Gap}

/-- What a character of an unquoted text leads to. -/
theorem plain_cons (indent : Nat) (gap : Gap) (c : Char) (rest : List Char) :
    Wrapped.plain false indent gap (c :: rest) =
      if isBreak c then Wrapped.plain false indent (gap.addBreak c) rest
      else if c == ' ' then Wrapped.plain false indent (gap.addBlank c) rest
      else if Wrapped.endsPlain false indent gap c rest then ([], c :: rest)
      else (gap.text ++ c :: (Wrapped.plain false indent .nothing rest).1,
        (Wrapped.plain false indent .nothing rest).2) :=
  rfl

theorem plain_break (rest : List Char) :
    Wrapped.plain false indent gap ('\n' :: rest) = Wrapped.plain false indent (gap.addBreak '\n') rest := by
  rw [plain_cons, if_pos (by decide)]

theorem plain_space (rest : List Char) :
    Wrapped.plain false indent gap (' ' :: rest) = Wrapped.plain false indent (gap.addBlank ' ') rest := by
  rw [plain_cons, if_neg (by decide), if_pos (by decide)]

theorem plain_stop {c : Char} (safe : Writer.isSafe c = true) (solid : c ≠ ' ')
    (ends : Wrapped.endsPlain false indent gap c rest = true) :
    Wrapped.plain false indent gap (c :: rest) = ([], c :: rest) := by
  rw [plain_cons, if_neg (by simp [(safeFacts safe).unbroken]), if_neg (by simpa using solid), if_pos ends]

theorem plain_char {c : Char} (safe : Writer.isSafe c = true) (solid : c ≠ ' ')
    (stays : Wrapped.endsPlain false indent gap c rest = false) {text after : List Char}
    (read : Wrapped.plain false indent .nothing rest = (text, after)) :
    Wrapped.plain false indent gap (c :: rest) = (gap.text ++ c :: text, after) := by
  rw [plain_cons, if_neg (by simp [(safeFacts safe).unbroken]), if_neg (by simpa using solid),
    if_neg (by simp [stays]), read]

/-- The gap behind a character of an unquoted text, in front of what is left of it. -/
inductive PlainGap (indent : Nat) (text : List Char) : Char → Gap → Prop
  | nothing {previous : Char} (solid : previous ≠ ' ') : PlainGap indent text previous .nothing
  | blanks {spaces : List Char} : PlainGap indent text ' ' (.blanks spaces)
  | folded {column : Nat} (inset : 0 < column) (deep : indent ≤ column) (single : text.head? ≠ some ' ') :
    PlainGap indent text ' ' (.breaks '\n' false [] column)

theorem head_plain {folding : Writer.Folding} {afterSpace : Bool} {column : Nat} {c : Char} (solid : c ≠ ' ')
    (rest : List Char) : Writer.plain folding afterSpace column (c :: rest) =
      c :: Writer.plain folding false (column + 1) rest := by
  simp [Writer.plain, beq_eq_false_iff_ne.mpr solid]

theorem hasInnerMark_cons {before c : Char} {rest : List Char}
    (unmarked : Writer.hasInnerMark (before :: c :: rest) = false) :
    (c = ':' → Cursor.endsWord rest = false) ∧ (c = '#' → Cursor.endsWord [before] = false) ∧
      Writer.hasInnerMark (c :: rest) = false := by
  simp only [Writer.hasInnerMark, Bool.or_eq_false_iff, Bool.and_eq_false_iff, beq_eq_false_iff_ne] at unmarked
  obtain ⟨⟨colon, hash⟩, later⟩ := unmarked
  exact ⟨fun same => colon.resolve_left (not_not.mpr same), fun same => hash.resolve_left (not_not.mpr same), later⟩

/-- A character inside of an unquoted text does not end it. -/
theorem endsPlain_eq_false {previous c : Char} {text stop : List Char} {folding : Writer.Folding} {column : Nat}
    (safe : ∀ d ∈ c :: text, Writer.isSafe d = true)
    (unmarked : Writer.hasInnerMark (previous :: c :: text) = false)
    (pending : PlainGap indent (c :: text) previous gap) :
    Wrapped.endsPlain false indent gap c (Writer.plain folding false column text ++ stop) = false := by
  obtain ⟨colon, hash, _⟩ := hasInnerMark_cons unmarked
  have notTab := (safeFacts (safe c List.mem_cons_self)).notTab
  have goesOn : (c == ':' && Cursor.endsWord (Writer.plain folding false column text ++ stop)) = false := by
    rw [Bool.and_eq_false_iff, beq_eq_false_iff_ne]
    by_cases same : c = ':'
    · refine .inr ?_
      have inner := colon same
      cases text with
      | nil => cases inner
      | cons d text =>
        have safe_next := safe d (by simp)
        rw [endsWord_cons safe_next] at inner
        rw [head_plain (by simpa using inner), List.cons_append, endsWord_cons safe_next, inner]
    · exact .inl same
  cases pending with
  | nothing solid => simp [Wrapped.endsPlain, notTab, goesOn]
  | blanks =>
    have noComment : c ≠ '#' := fun same => absurd (hash same) (by decide)
    simp [Wrapped.endsPlain, notTab, goesOn, noComment]
  | folded inset deep _ =>
    have noComment : c ≠ '#' := fun same => absurd (hash same) (by decide)
    simp only [Wrapped.endsPlain, Bool.false_and, Bool.or_false, goesOn]
    simp [notTab, noComment, deep, Nat.ne_of_gt inset]

/-- An unquoted text is read as it was written, up to where it stops. -/
theorem plain_read {folding : Writer.Folding}
    (deep : ∀ column, folding.isBeyond column = true → 0 < folding.indent ∧ indent ≤ folding.indent)
    {stop after : List Char} (ends : Wrapped.plain false indent .nothing stop = ([], after)) {text : List Char}
    {previous : Char} {column : Nat} (safe : ∀ c ∈ text, Writer.isSafe c = true)
    (unmarked : Writer.hasInnerMark (previous :: text) = false) (ended : (previous :: text).getLast? ≠ some ' ')
    (pending : PlainGap indent text previous gap) :
    Wrapped.plain false indent gap (Writer.plain folding (previous == ' ') column text ++ stop) =
      (gap.text ++ text, after) := by
  induction text generalizing previous gap column with
  | nil =>
    have solid : previous ≠ ' ' := by
      rintro rfl
      exact ended rfl
    cases pending with
    | nothing => simpa [Writer.plain, Gap.text] using ends
    | blanks => exact absurd rfl solid
    | folded => exact absurd rfl solid
  | cons c text ih =>
    have later : ∀ d ∈ text, Writer.isSafe d = true := fun d inside => safe d (List.mem_cons_of_mem _ inside)
    have still : (c :: text).getLast? ≠ some ' ' := by simpa using ended
    obtain ⟨_, _, unmarked_later⟩ := hasInnerMark_cons unmarked
    by_cases space : c = ' '
    · subst space
      rw [Writer.plain]
      split
      · rename_i folds
        simp only [beq_self_eq_true, Bool.true_and, Bool.and_eq_true, Bool.not_eq_true', bne_iff_ne] at folds
        obtain ⟨⟨after_other, single⟩, beyond⟩ := folds
        cases pending with
        | nothing solid =>
          obtain ⟨inset, indented⟩ := deep column beyond
          rw [← Nat.zero_add folding.indent] at inset indented
          have follows := @ih _ _ folding.indent later unmarked_later still (.folded inset indented single)
          rw [Writer.Folding.newLine, List.cons_append, List.cons_append, plain_break, List.append_assoc]
          exact (blanks_read (Wrapped.plain false indent) (fun _ => plain_space) 0 folding.indent _).trans follows
        | blanks => cases after_other
        | folded => cases after_other
      · rw [List.cons_append, plain_space]
        cases pending with
        | nothing solid => exact ih later unmarked_later still .blanks
        | @blanks spaces =>
          have follows := @ih (.blanks (spaces ++ [' '])) ' ' (column + 1) later unmarked_later still .blanks
          simpa [Gap.text, Gap.addBlank] using follows
        | folded _ _ single => exact absurd rfl single
    · have follows := @ih _ _ (column + 1) later unmarked_later still (.nothing space)
      rw [beq_eq_false_iff_ne.mpr space] at follows
      rw [head_plain space, List.cons_append]
      exact plain_char (safe c List.mem_cons_self) space
        (endsPlain_eq_false safe unmarked pending) follows

end Plain

end Subgraph.Yaml
