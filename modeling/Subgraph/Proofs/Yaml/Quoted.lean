import Subgraph.Proofs.Yaml.Scalar

namespace Subgraph.Yaml

theorem Scan.append_ok {read before text after : List Char} {scan : Scan} (same : scan = .ok (read, after))
    (joined : before ++ read = text) : scan.append before = .ok (text, after) := by
  subst same joined
  rfl

section Single

variable {gap : Gap}

/-- What a character leads to, unless it is the first of two quotes. -/
theorem single_cons (gap : Gap) {c : Char} {rest : List Char} (apart : c = '\'' → rest.head? ≠ some '\'') :
    Wrapped.singleQuoted gap (c :: rest) =
      if c == '\'' then .ok (gap.text, rest)
      else if isBreak c then
        if Cursor.isDocumentMark rest then .error (.quoteDivided, rest)
        else Wrapped.singleQuoted (gap.addBreak c) rest
      else if isGap c then Wrapped.singleQuoted (gap.addBlank c) rest
      else (Wrapped.singleQuoted .nothing rest).append (gap.text ++ [c]) := by
  rw [Wrapped.singleQuoted]
  rintro _ same rfl
  exact apart same rfl

theorem single_close {rest : List Char} (apart : rest.head? ≠ some '\'') :
    Wrapped.singleQuoted gap ('\'' :: rest) = .ok (gap.text, rest) := by
  rw [single_cons gap fun _ => apart, if_pos (by decide)]

theorem single_quote (rest : List Char) : Wrapped.singleQuoted gap ('\'' :: '\'' :: rest) =
    (Wrapped.singleQuoted .nothing rest).append (gap.text ++ ['\'']) :=
  rfl

theorem single_break {rest : List Char} (unmarked : Cursor.isDocumentMark rest = false) :
    Wrapped.singleQuoted gap ('\n' :: rest) = Wrapped.singleQuoted (gap.addBreak '\n') rest := by
  rw [single_cons gap (fun quote => absurd quote (by decide)), if_neg (by decide), if_pos (by decide),
    if_neg (by simp [unmarked])]

theorem single_space (rest : List Char) :
    Wrapped.singleQuoted gap (' ' :: rest) = Wrapped.singleQuoted (gap.addBlank ' ') rest := by
  rw [single_cons gap (fun quote => absurd quote (by decide)), if_neg (by decide), if_neg (by decide),
    if_pos (by decide)]

theorem single_char {c : Char} (safe : Writer.isSafe c = true) (solid : c ≠ ' ') (unquoted : c ≠ '\'')
    (rest : List Char) :
    Wrapped.singleQuoted gap (c :: rest) = (Wrapped.singleQuoted .nothing rest).append (gap.text ++ [c]) := by
  rw [single_cons gap (fun quote => absurd quote unquoted), if_neg (by simpa using unquoted),
    if_neg (by simp [(safeFacts safe).unbroken]), if_neg (by simpa [isGap_eq safe] using solid)]

theorem text_lines {more : List Char} (several : more ≠ []) (column : Nat) :
    (Gap.breaks '\n' false more column).text = more := by
  simp [Gap.text, several]

/-- The gap behind a character of a text in single quotes, in front of what is left of it. -/
inductive SingleGap (text : List Char) : Writer.Previous → Gap → Prop
  | start : SingleGap text .start .nothing
  | other : SingleGap text .other .nothing
  | spaces {spaces : List Char} (unbroken : text.head? ≠ some '\n') : SingleGap text .space (.blanks spaces)
  | folded {column : Nat} (single : text.head? ≠ some ' ') (unbroken : text.head? ≠ some '\n') :
    SingleGap text .space (.breaks '\n' false [] column)
  | lines {more : List Char} {column : Nat} (several : more ≠ []) (single : text.head? ≠ some ' ') :
    SingleGap text .lineBreak (.breaks '\n' false more column)

/-- A line break is written twice where it is the first of its run. -/
theorem single_lines {text rest : List Char} {previous : Writer.Previous}
    (pending : SingleGap ('\n' :: text) previous gap) (unmarked : Cursor.isDocumentMark rest = false) :
    Wrapped.singleQuoted gap ((if previous = .lineBreak then [] else ['\n']) ++ '\n' :: rest) =
      Wrapped.singleQuoted (.breaks '\n' false (gap.text ++ ['\n']) 0) rest := by
  have twice : Wrapped.singleQuoted .nothing ('\n' :: '\n' :: rest) =
      Wrapped.singleQuoted (.breaks '\n' false ['\n'] 0) rest := by
    rw [single_break (not_isDocumentMark (by decide) (by decide) rest), single_break unmarked]
    rfl
  cases pending with
  | start => exact twice
  | other => exact twice
  | spaces unbroken => exact absurd rfl unbroken
  | folded _ unbroken => exact absurd rfl unbroken
  | lines several _ =>
    rw [text_lines several]
    exact single_break unmarked

theorem hasLooseBreak_cons {c : Char} {text : List Char} (tight : Writer.hasLooseBreak (c :: text) = false) :
    (c = ' ' → text.head? ≠ some '\n') ∧ (c = '\n' → text.head? ≠ some ' ') ∧
      Writer.hasLooseBreak text = false := by
  cases text with
  | nil => simp [Writer.hasLooseBreak]
  | cons next text =>
    simp only [Writer.hasLooseBreak, Bool.or_eq_false_iff, Bool.and_eq_false_iff, beq_eq_false_iff_ne] at tight
    obtain ⟨⟨space, feed⟩, later⟩ := tight
    refine ⟨fun same => ?_, fun same => ?_, later⟩
    · simpa using space.resolve_left (not_not.mpr same)
    · simpa using feed.resolve_left (not_not.mpr same)

theorem indented_unmarked {folding : Writer.Folding} (positive : 0 < folding.indent) (rest : List Char) :
    Cursor.isDocumentMark (Writer.blanks folding.indent ++ rest) = false := by
  obtain ⟨count, indent⟩ := Nat.exists_eq_succ_of_ne_zero (Nat.ne_of_gt positive)
  rw [indent, blanks_succ]
  exact not_isDocumentMark (by decide) (by decide) _

theorem single_unmarked {folding : Writer.Folding} {text : List Char} (again : text.head? = some '\n')
    (rest : List Char) : Cursor.isDocumentMark (Writer.single folding .lineBreak 0 text ++ rest) = false := by
  cases text with
  | nil => cases again
  | cons c text =>
    cases again
    rw [Writer.single, if_pos (by decide)]
    dsimp only
    split <;> exact not_isDocumentMark (by decide) (by decide) _

/-- A text in single quotes is read as it was written. -/
theorem single_read {folding : Writer.Folding} (positive : 0 < folding.indent) {after : List Char}
    (apart : after.head? ≠ some '\'') {text : List Char} {previous : Writer.Previous} {column : Nat}
    (safe : ∀ c ∈ text, c = '\n' ∨ Writer.isSafe c = true) (tight : Writer.hasLooseBreak text = false)
    (pending : SingleGap text previous gap) :
    Wrapped.singleQuoted gap (Writer.single folding previous column text ++ after) =
      .ok (gap.text ++ text, after) := by
  induction text generalizing previous gap column with
  | nil => simpa [Writer.single] using single_close apart
  | cons c text ih =>
    have later : ∀ d ∈ text, d = '\n' ∨ Writer.isSafe d = true :=
      fun d inside => safe d (List.mem_cons_of_mem _ inside)
    obtain ⟨space_next, feed_next, tight_later⟩ := hasLooseBreak_cons tight
    by_cases feed : c = '\n'
    · subst feed
      have run (column reached : Nat) := @ih (.breaks '\n' false (gap.text ++ ['\n']) reached) .lineBreak column
        later tight_later (.lines (by simp) (feed_next rfl))
      simp only [text_lines (show gap.text ++ ['\n'] ≠ [] by simp), List.append_assoc, List.singleton_append] at run
      rw [Writer.single, if_pos (by decide)]
      dsimp only
      split
      · rename_i again
        rw [List.append_assoc, List.cons_append,
          single_lines pending (single_unmarked (by simpa using again) after)]
        exact run 0 0
      · rw [Writer.Folding.newLine, List.append_assoc, List.append_assoc, List.cons_append,
          single_lines pending (indented_unmarked positive _),
          blanks_read Wrapped.singleQuoted fun _ => single_space]
        exact run folding.indent _
    have solid_safe : Writer.isSafe c = true := (safe c List.mem_cons_self).resolve_left feed
    by_cases quote : c = '\''
    · subst quote
      rw [Writer.single, if_neg (by decide), if_pos (by decide), List.cons_append, List.cons_append, single_quote]
      exact Scan.append_ok (@ih _ _ (column + 2) later tight_later .other) (by simp [Gap.text])
    by_cases space : c = ' '
    · subst space
      rw [Writer.single, if_neg (by decide), if_neg (by decide), if_pos (by decide)]
      split
      · rename_i folds
        simp only [Bool.and_eq_true, decide_eq_true_eq, bne_iff_ne] at folds
        obtain ⟨⟨⟨rfl, -⟩, single⟩, -⟩ := folds
        cases pending
        have follows := @ih (.breaks '\n' false [] (0 + folding.indent)) .space folding.indent later tight_later
          (.folded single (space_next rfl))
        rw [Writer.Folding.newLine, List.cons_append, List.cons_append, List.append_assoc,
          single_break (indented_unmarked positive _)]
        exact (blanks_read Wrapped.singleQuoted (fun _ => single_space) 0 folding.indent _).trans follows
      · rw [List.cons_append, single_space]
        have follows (spaces : List Char) := @ih (.blanks (spaces ++ [' '])) .space (column + 1) later tight_later
          (.spaces (space_next rfl))
        simp only [Gap.text, List.append_assoc, List.singleton_append] at follows
        cases pending with
        | start => exact follows []
        | other => exact follows []
        | @spaces spaces => exact follows spaces
        | folded single _ => exact absurd rfl single
        | lines _ single => exact absurd rfl single
    · rw [Writer.single, if_neg (by simpa using feed), if_neg (by simpa using quote), if_neg (by simpa using space),
        List.cons_append, single_char solid_safe space quote]
      exact Scan.append_ok (@ih _ _ (column + 1) later tight_later .other) (by simp [Gap.text])

end Single

end Subgraph.Yaml
