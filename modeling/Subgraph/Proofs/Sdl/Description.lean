import Subgraph.Proofs.Sdl.Outline

namespace Subgraph.Sdl

/-- Reads a block string from its opening quotes on: its raw content and what follows its closing
quotes. -/
def readBlockString : List Char → Option (List Char × List Char)
  | '"' :: '"' :: '"' :: rest => readBlock rest
  | _ => none

/-- The characters are one block string with this raw content. Reading ends with the last of them,
whatever follows. -/
def IsBlockString (token content : List Char) : Prop :=
  ∀ rest, readBlockString (token ++ rest) = some (content, rest)

/-- The block string of a text on a line of its own. -/
def blockString (text indent : List Char) : List Char :=
  '"' :: '"' :: '"' :: '\n' :: indent ++ guardQuotes text ++ '\n' :: indent ++ ['"', '"', '"']

/-- What stands between the quotes of a block string of a text. -/
def blockContent (text indent : List Char) : List Char :=
  '\n' :: (indent ++ text ++ '\n' :: indent)

theorem isBlockString_blockString (text : List Char) {indent : List Char}
    (spaces : ∀ c ∈ indent, isSpace c = true) :
    IsBlockString (blockString text indent) (blockContent text indent) := by
  intro rest
  have read := readBlock_indented text rest spaces
  simpa [blockString, readBlockString, blockContent] using read

theorem toList_description {comment : String} (filled : comment ≠ "") (indent : String) :
    (description comment indent).toList =
      indent.toList ++ blockString (Text.trim comment.toList) indent.toList ++ ['\n'] := by
  simp [description, filled, blockString, Text.onChars]

theorem isIndent_of_spaces {indent : String} (spaces : ∀ c ∈ indent.toList, c = ' ') : IsIndent indent := by
  intro c member
  rw [spaces c member]
  decide

/-- The block string of a comment on a single line stands for that comment. -/
theorem blockValue_prose {comment indent : String} (prose : Prose comment) (filled : comment ≠ "")
    (spaces : IsIndent indent) :
    blockValue (blockContent (Text.trim comment.toList) indent.toList) = comment.toList := by
  have described := described?_of_prose prose spaces
  have nonempty : ¬comment.isEmpty = true := by simpa using filled
  rw [described?, describe, if_neg nonempty, if_neg nonempty, Option.some.injEq] at described
  have value := congrArg String.toList described
  rwa [String.toList_ofList] at value

/-- A description is an indented block string on lines of its own, which ends at the last quotes of the
description and holds the comment without the blanks at its ends. What it stands for is the comment
itself, if that is the prose of a source comment. -/
theorem description_contained (indent : String) (spaces : ∀ c ∈ indent.toList, c = ' ') :
    (∀ comment, comment ≠ "" → ∃ token,
      (description comment indent).toList = indent.toList ++ token ++ ['\n'] ∧
        IsBlockString token
          ('\n' :: (indent.toList ++ Text.trim comment.toList ++ '\n' :: indent.toList))) ∧
      ∀ source, Comment.clean source ≠ "" → ∃ token content,
        (description (Comment.clean source) indent).toList = indent.toList ++ token ++ ['\n'] ∧
          IsBlockString token content ∧ blockValue content = (Comment.clean source).toList := by
  have indents := isIndent_of_spaces spaces
  constructor
  · intro comment filled
    exact ⟨_, toList_description filled indent, isBlockString_blockString _ indents⟩
  · intro source filled
    exact ⟨_, _, toList_description filled indent, isBlockString_blockString _ indents,
      blockValue_prose (prose_clean source) filled indents⟩

/-- A source comment with five quotes in a row, three quotes that are guarded already and a backslash at
its end. -/
def quotedComment : String :=
  " * Five \"\"\"\"\" or\n * three \\\"\"\" and \\\n"

theorem description_contained_quoted :
    (∀ c ∈ "  ".toList, c = ' ') ∧
      Comment.clean quotedComment = "Five \"\"\"\"\" or three \\\"\"\" and \\" ∧
      (∃ token, (description quotedComment "  ").toList = "  ".toList ++ token ++ ['\n'] ∧
        IsBlockString token ('\n' :: ("  ".toList ++ Text.trim quotedComment.toList ++ '\n' :: "  ".toList))) ∧
      ∃ token content, (description (Comment.clean quotedComment) "  ").toList = "  ".toList ++ token ++ ['\n'] ∧
        IsBlockString token content ∧ blockValue content = (Comment.clean quotedComment).toList := by
  have spaces : ∀ c ∈ "  ".toList, c = ' ' := by simp
  have prose : Comment.clean quotedComment = "Five \"\"\"\"\" or three \\\"\"\" and \\" := by decide +kernel
  obtain ⟨contained, kept⟩ := description_contained "  " spaces
  exact ⟨spaces, prose, contained quotedComment (by decide), kept quotedComment (by rw [prose]; decide)⟩

end Subgraph.Sdl
