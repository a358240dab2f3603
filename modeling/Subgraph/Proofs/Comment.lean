import Subgraph.Comment
import Subgraph.Proofs.Trim

namespace Subgraph

namespace Text

/-- Lines end where a line break stands, and hold none. -/
theorem isLineBreak_of_mem_linesFrom {current text line : List Char} {c : Char}
    (begun : ∀ d ∈ current, isLineBreak d = false) (member : line ∈ linesFrom current text)
    (inside : c ∈ line) : isLineBreak c = false := by
  fun_induction linesFrom current text with
  | case1 => simp at member
  | case2 current _ =>
    rw [List.mem_singleton.mp member, List.mem_reverse] at inside
    exact begun c inside
  | case3 current rest ih =>
    rcases List.mem_cons.mp member with rfl | later
    · exact begun c (List.mem_reverse.mp inside)
    · exact ih (by simp) later
  | case4 current d rest _ _ ih =>
    rcases List.mem_cons.mp member with rfl | later
    · exact begun c (List.mem_reverse.mp inside)
    · exact ih (by simp) later
  | case5 current d rest _ unbroken ih =>
    exact ih (List.forall_mem_cons.mpr ⟨by simpa using unbroken, begun⟩) member

end Text

namespace Comment

open Text

theorem dropDelimiter_sublist (line : List Char) : (dropDelimiter line).Sublist line := by
  unfold dropDelimiter
  split
  · exact List.dropWhile_sublist _
  · exact .refl _

theorem dropClosing_sublist (line : List Char) : (dropClosing line).Sublist line := by
  unfold dropClosing
  split
  · exact (dropEndWhile_isPrefix ..).sublist.trans (List.take_sublist ..)
  · exact .refl _

theorem trimmed_dropClosing {line : List Char} (trimmed : Trimmed line) : Trimmed (dropClosing line) := by
  unfold dropClosing
  split
  · exact trimmed_dropEndWhile fun c head => trimmed.1 c (head?_of_isPrefix (List.take_prefix ..) head)
  · exact trimmed

theorem trimmed_cleanLine (line : List Char) : Trimmed (cleanLine line) :=
  trimmed_dropClosing (trimmed_trim _)

theorem cleanLine_sublist (line : List Char) : (cleanLine line).Sublist line :=
  (dropClosing_sublist _).trans ((trim_sublist _).trans ((dropDelimiter_sublist _).trans (trim_sublist _)))

theorem intercalate_eq_nil {lines : List (List Char)} (filled : ∀ line ∈ lines, line ≠ []) :
    [' '].intercalate lines = [] ↔ lines = [] := by
  cases lines with
  | nil => simp
  | cons line rest =>
    have first := filled line List.mem_cons_self
    cases rest with
    | nil => simpa using first
    | cons => simp [List.intercalate_cons_cons, first]

/-- Lines without blanks at their ends make a text without blanks at its ends. -/
theorem trimmed_intercalate {lines : List (List Char)} (trimmed : ∀ line ∈ lines, Trimmed line)
    (nonempty : ∀ line ∈ lines, line ≠ []) : Trimmed ([' '].intercalate lines) := by
  induction lines with
  | nil => exact ⟨by simp, by simp⟩
  | cons line rest ih =>
    cases rest with
    | nil => simpa using trimmed line
    | cons next rest =>
      have here := trimmed line List.mem_cons_self
      have filled := nonempty line List.mem_cons_self
      have others := ih (fun l member => trimmed l (List.mem_cons_of_mem _ member))
        (fun l member => nonempty l (List.mem_cons_of_mem _ member))
      have more : [' '].intercalate (next :: rest) ≠ [] := by
        simpa using intercalate_eq_nil fun l member => nonempty l (List.mem_cons_of_mem _ member)
      rw [List.intercalate_cons_cons, List.append_assoc]
      exact here.around others filled more [' ']

theorem mem_intercalate {separator c : Char} {lines : List (List Char)}
    (member : c ∈ [separator].intercalate lines) : c = separator ∨ ∃ line ∈ lines, c ∈ line := by
  induction lines with
  | nil => simp at member
  | cons line rest ih =>
    cases rest with
    | nil => exact .inr ⟨line, List.mem_cons_self, by simpa using member⟩
    | cons next rest =>
      rw [List.intercalate_cons_cons, List.mem_append, List.mem_append] at member
      rcases member with (here | space) | later
      · exact .inr ⟨line, List.mem_cons_self, here⟩
      · exact .inl (List.mem_singleton.mp space)
      · rcases ih later with space | ⟨other, listed, inside⟩
        · exact .inl space
        · exact .inr ⟨other, List.mem_cons_of_mem _ listed, inside⟩

/-- A cleaned comment has no blank at either end. -/
theorem trimmed_clean (comment : String) : Trimmed (clean comment).toList := by
  rw [clean, onChars, String.toList_ofList]
  refine trimmed_intercalate (fun line member => ?_) fun line member => ?_
  · obtain ⟨source, _, rfl⟩ := List.mem_map.mp (List.mem_of_mem_filter member)
    exact trimmed_cleanLine source
  · simpa using List.of_mem_filter member

/-- A cleaned comment is a single line. -/
theorem isLineBreak_of_mem_clean {comment : String} {c : Char} (member : c ∈ (clean comment).toList) :
    isLineBreak c = false := by
  rw [clean, onChars, String.toList_ofList] at member
  rcases mem_intercalate member with rfl | ⟨line, listed, inside⟩
  · decide
  · obtain ⟨source, original, rfl⟩ := List.mem_map.mp (List.mem_of_mem_filter listed)
    exact isLineBreak_of_mem_linesFrom (by simp) original ((cleanLine_sublist source).subset inside)

end Comment

end Subgraph
