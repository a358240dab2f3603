import Subgraph.Proofs.Yaml.Atom

namespace Subgraph.Yaml

/-- Line breaks and the characters that need no escape. -/
def IsWritten (c : Char) : Prop :=
  c = '\n' ∨ Writer.isSafe c = true

theorem IsWritten.code {c : Char} (written : IsWritten c) :
    c.toNat = 0x0A ∨ (0x20 ≤ c.toNat ∧ c.toNat ≤ 0x7E) := by
  rcases written with rfl | safe
  · exact .inl rfl
  · rw [Writer.isSafe, Bool.and_eq_true, decide_eq_true_eq, decide_eq_true_eq] at safe
    exact .inr safe

theorem written_blanks (count : Nat) : ∀ c ∈ Writer.blanks count, IsWritten c := by
  intro c inside
  rw [List.eq_of_mem_replicate inside]
  exact .inr (by decide)

theorem written_newLine (folding : Writer.Folding) : ∀ c ∈ folding.newLine, IsWritten c :=
  List.forall_mem_cons.mpr ⟨.inl rfl, written_blanks _⟩

section Scalars

variable {folding : Writer.Folding} {text : List Char}

theorem written_plain (kept : ∀ c ∈ text, IsWritten c) (afterSpace : Bool) (column : Nat) :
    ∀ c ∈ Writer.plain folding afterSpace column text, IsWritten c := by
  induction text generalizing afterSpace column with
  | nil => exact List.forall_mem_nil _
  | cons c text ih =>
    obtain ⟨first, later⟩ := List.forall_mem_cons.mp kept
    rw [Writer.plain]
    split
    · exact List.forall_mem_append.mpr ⟨written_newLine folding, ih later _ _⟩
    · exact List.forall_mem_cons.mpr ⟨first, ih later _ _⟩

theorem written_single (kept : ∀ c ∈ text, IsWritten c) (previous : Writer.Previous) (column : Nat) :
    ∀ c ∈ Writer.single folding previous column text, IsWritten c := by
  have quote : IsWritten '\'' := .inr (by decide)
  induction text generalizing previous column with
  | nil => exact List.forall_mem_singleton.mpr quote
  | cons c text ih =>
    obtain ⟨first, later⟩ := List.forall_mem_cons.mp kept
    have feed : ∀ d ∈ (if previous = .lineBreak then [] else ['\n']), IsWritten d := by
      split
      · exact List.forall_mem_nil _
      · exact List.forall_mem_singleton.mpr (.inl rfl)
    rw [Writer.single]
    dsimp only
    split
    · split
      · exact List.forall_mem_append.mpr ⟨feed, List.forall_mem_cons.mpr ⟨.inl rfl, ih later _ _⟩⟩
      · exact List.forall_mem_append.mpr
          ⟨List.forall_mem_append.mpr ⟨feed, written_newLine folding⟩, ih later _ _⟩
    split
    · exact List.forall_mem_cons.mpr ⟨quote, List.forall_mem_cons.mpr ⟨quote, ih later _ _⟩⟩
    split
    · split
      · exact List.forall_mem_append.mpr ⟨written_newLine folding, ih later _ _⟩
      · exact List.forall_mem_cons.mpr ⟨first, ih later _ _⟩
    · exact List.forall_mem_cons.mpr ⟨first, ih later _ _⟩

theorem written_digit {c : Char} (digit : (Text.hexValue? c).isSome = true) : IsWritten c := by
  have between {low high : Char} (least : ' ' ≤ low) (most : high ≤ '~') (range : low ≤ c ∧ c ≤ high) :
      IsWritten c := by
    refine .inr ?_
    rw [Writer.isSafe, Bool.and_eq_true, decide_eq_true_eq, decide_eq_true_eq]
    exact ⟨Char.le_trans least range.1, Char.le_trans range.2 most⟩
  rw [Text.hexValue?] at digit
  split at digit
  · rename_i decimal
    rw [Char.isDigit, Bool.and_eq_true, decide_eq_true_eq, decide_eq_true_eq] at decimal
    exact between (show ' ' ≤ '0' by decide) (show '9' ≤ '~' by decide) decimal
  split at digit
  · rename_i lower
    rw [Bool.and_eq_true, decide_eq_true_eq, decide_eq_true_eq] at lower
    exact between (by decide) (by decide) lower
  split at digit
  · rename_i upper
    rw [Bool.and_eq_true, decide_eq_true_eq, decide_eq_true_eq] at upper
    exact between (by decide) (by decide) upper
  · cases digit

theorem written_escape {c : Char} {escape : List Char} (escaped : Writer.escape? c = some escape) :
    ∀ d ∈ escape, IsWritten d := by
  have backslash : IsWritten '\\' := .inr (by decide)
  have digits (letter : Char) (safe : Writer.isSafe letter = true) (width : Nat) :
      ∀ d ∈ '\\' :: letter :: Text.hexDigitsUpper width c.toNat, IsWritten d :=
    List.forall_mem_cons.mpr ⟨backslash, List.forall_mem_cons.mpr
      ⟨.inr safe, fun d inside => written_digit (Text.hexDigitsUpper_digit inside)⟩⟩
  have letters : (Writer.letterEscapes.all fun entry => Writer.isSafe entry.2) = true := by decide
  rw [Writer.escape?] at escaped
  split at escaped
  · rename_i letter found
    cases escaped
    obtain ⟨front, back, shape, -⟩ := List.lookup_eq_some_iff.mp found
    have safe := List.all_eq_true.mp letters (c, letter) (by simp [shape])
    exact List.forall_mem_cons.mpr ⟨backslash, List.forall_mem_singleton.mpr (.inr safe)⟩
  · split at escaped
    · cases escaped
    split at escaped
    · cases escaped
      exact digits 'x' (by decide) 2
    split at escaped
    · cases escaped
      exact digits 'u' (by decide) 4
    · cases escaped
      exact digits 'U' (by decide) 8

theorem written_escapedLine (next : Option Char) : ∀ c ∈ (folding.escapedLine next).1, IsWritten c := by
  have backslash : IsWritten '\\' := .inr (by decide)
  have line : ∀ c ∈ '\\' :: folding.newLine, IsWritten c :=
    List.forall_mem_cons.mpr ⟨backslash, written_newLine folding⟩
  rw [Writer.Folding.escapedLine]
  split
  · exact List.forall_mem_append.mpr ⟨line, List.forall_mem_singleton.mpr backslash⟩
  · exact line

theorem written_double (text : List Char) (first afterEscape : Bool) (column : Nat) :
    ∀ c ∈ Writer.double folding first afterEscape column text, IsWritten c := by
  induction text generalizing first afterEscape column with
  | nil => exact List.forall_mem_singleton.mpr (.inr (by decide))
  | cons c text ih =>
    rw [Writer.double]
    dsimp only
    split
    · rename_i escape escaped
      split
      · exact List.forall_mem_append.mpr
          ⟨List.forall_mem_append.mpr ⟨written_escape escaped, written_escapedLine _⟩, ih _ _ _⟩
      · exact List.forall_mem_append.mpr ⟨written_escape escaped, ih _ _ _⟩
    · rename_i bare
      have kept : IsWritten c := .inr (escape?_eq_none bare).1
      split
      · exact List.forall_mem_append.mpr ⟨written_escapedLine _, List.forall_mem_cons.mpr ⟨kept, ih _ _ _⟩⟩
      · exact List.forall_mem_cons.mpr ⟨kept, ih _ _ _⟩

theorem Form.written {column : Nat} {value : Scalar} {written : List Char}
    (form : Form folding column value written) : ∀ c ∈ written, IsWritten c := by
  cases form with
  | @plain content _ _ allowed _ =>
    exact written_plain (fun c inside => .inr (safe_of_allowsPlain allowed c inside)) false column
  | @single content allowed =>
    simp only [Writer.allowsSingle, Bool.and_eq_true, List.all_eq_true, Bool.or_eq_true, beq_iff_eq] at allowed
    exact List.forall_mem_cons.mpr ⟨.inr (by decide), written_single allowed.1 .start (column + 1)⟩
  | @double content =>
    exact List.forall_mem_cons.mpr ⟨.inr (by decide), written_double content true false (column + 1)⟩

end Scalars

end Subgraph.Yaml
