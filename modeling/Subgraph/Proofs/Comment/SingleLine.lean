import Subgraph.Proofs.Comment.Delimiters
import Subgraph.Proofs.Sdl.Service

namespace Subgraph

namespace Text

/-- The codes of the characters that end a line. -/
def lineBreaks : List Nat :=
  [0x0A, 0x0B, 0x0C, 0x0D, 0x1C, 0x1D, 0x1E, 0x85, 0x2028, 0x2029]

theorem isLineBreak_iff {c : Char} : isLineBreak c = true ↔ c.toNat ∈ lineBreaks := by
  simp only [isLineBreak, lineBreaks, Bool.or_eq_true, Bool.and_eq_true, decide_eq_true_eq, beq_iff_eq,
    List.mem_cons, List.not_mem_nil, or_false]
  omega

/-- A stretch of a text with no line break in it, between line breaks or the ends of the text. -/
structure IsLine (text line : List Char) : Prop where
  unbroken : ∀ c ∈ line, isLineBreak c = false
  between : ∃ front back, text = front ++ (line ++ back) ∧
    (∀ c, front.getLast? = some c → isLineBreak c = true) ∧ ∀ c, back.head? = some c → isLineBreak c = true

/-- The characters up to the first line break are determined by the text. -/
theorem takeWhile_unbroken {line back : List Char} (unbroken : ∀ c ∈ line, isLineBreak c = false)
    (stop : ∀ c, back.head? = some c → isLineBreak c = true) :
    (line ++ back).takeWhile (!isLineBreak ·) = line :=
  (span_append (fun c inside => by simp [unbroken c inside]) fun c first => by simp [stop c first]).1

theorem isLine_of_unbroken {text line : List Char} (unbroken : ∀ c ∈ text, isLineBreak c = false) :
    IsLine text line ↔ line = text := by
  constructor
  · rintro ⟨_, front, back, rfl, before, after⟩
    have start : front = [] := by
      rw [← List.getLast?_eq_none_iff, Option.eq_none_iff_forall_ne_some]
      intro c last
      simpa [before c last] using unbroken c (List.mem_append_left _ (List.mem_of_getLast? last))
    have stop : back = [] := by
      rw [← List.head?_eq_none_iff, Option.eq_none_iff_forall_ne_some]
      intro c first
      simpa [after c first] using unbroken c (by simp [List.mem_of_mem_head? first])
    simp [start, stop]
  · rintro rfl
    exact ⟨unbroken, [], [], by simp, by simp, by simp⟩

/-- A line break ends one line, and the other lines are those of the text behind it. -/
theorem isLine_append_break {front rest line : List Char} {c : Char}
    (unbroken : ∀ d ∈ front, isLineBreak d = false) (breaks : isLineBreak c = true) :
    IsLine (front ++ c :: rest) line ↔ line = front ∨ IsLine rest line := by
  constructor
  · rintro ⟨inside, before, after, shape, start, stop⟩
    rcases List.eq_nil_or_concat' before with rfl | ⟨early, d, rfl⟩
    · left
      have first : (front ++ c :: rest).takeWhile (!isLineBreak ·) = front :=
        takeWhile_unbroken unbroken (by simp [breaks])
      rw [← first, shape]
      exact (takeWhile_unbroken inside stop).symm
    · right
      have ends : isLineBreak d = true := start d (by simp)
      have outside : d ∉ front := fun member => by simp [unbroken d member] at ends
      rcases List.append_eq_append_iff.mp shape with ⟨more, longer, left⟩ | ⟨more, shorter, _⟩
      · cases more with
        | nil =>
          rw [List.append_nil] at longer
          exact absurd (longer ▸ List.mem_append_right early List.mem_cons_self) outside
        | cons other more =>
          obtain ⟨rfl, rfl⟩ := List.cons.inj left
          refine ⟨inside, more, after, rfl, fun e last => start e ?_, stop⟩
          rw [longer, List.getLast?_append_of_ne_nil _ (by simp), List.getLast?_cons, last]
          rfl
      · exact absurd (by simp [shorter]) outside
  · rintro (rfl | ⟨inside, before, after, rfl, start, stop⟩)
    · exact ⟨unbroken, [], c :: rest, rfl, by simp, by simp [breaks]⟩
    · refine ⟨inside, front ++ c :: before, after, by simp, fun e last => ?_, stop⟩
      rw [List.getLast?_append_of_ne_nil _ (by simp), List.getLast?_cons] at last
      cases final : before.getLast? with
      | none =>
        rw [final] at last
        exact Option.some.inj last ▸ breaks
      | some d =>
        rw [final] at last
        exact Option.some.inj last ▸ start d final

/-- Exactly the lines of a text are listed, apart from empty ones. These are left out at the end of the text
and between a carriage return and its line feed. -/
theorem isLine_iff_mem_linesFrom {current text : List Char} (begun : ∀ c ∈ current, isLineBreak c = false)
    {line : List Char} (filled : line ≠ []) :
    IsLine (current.reverse ++ text) line ↔ line ∈ linesFrom current text := by
  have reversed : ∀ {front : List Char}, (∀ c ∈ front, isLineBreak c = false) →
      ∀ c ∈ front.reverse, isLineBreak c = false := fun inside c member => inside c (List.mem_reverse.mp member)
  fun_induction linesFrom current text with
  | case1 current empty =>
    rw [List.append_nil, isLine_of_unbroken (reversed begun), List.isEmpty_iff.mp empty]
    simp [filled]
  | case2 current _ => rw [List.append_nil, isLine_of_unbroken (reversed begun), List.mem_singleton]
  | case3 current rest ih =>
    have later : IsLine rest line ↔ line ∈ linesFrom [] rest := ih (by simp)
    have inner : IsLine ([] ++ '\n' :: rest) line ↔ line = [] ∨ IsLine rest line :=
      isLine_append_break (by simp) (by decide)
    rw [List.nil_append] at inner
    rw [isLine_append_break (reversed begun) (by decide), inner, later, List.mem_cons]
    simp [filled]
  | case4 current c rest _ breaks ih =>
    have later : IsLine rest line ↔ line ∈ linesFrom [] rest := ih (by simp)
    rw [isLine_append_break (reversed begun) breaks, later, List.mem_cons]
  | case5 current c rest _ inside ih =>
    have later : IsLine ((c :: current).reverse ++ rest) line ↔ line ∈ linesFrom (c :: current) rest :=
      ih (List.forall_mem_cons.mpr ⟨by simpa using inside, begun⟩)
    rwa [List.reverse_cons, List.append_assoc] at later

/-- What holds of the empty line holds of all lines if it holds of those listed. -/
theorem forall_isLine_iff {text : List Char} {P : List Char → Prop} (empty : P []) :
    (∀ line, IsLine text line → P line) ↔ ∀ line ∈ lines text, P line := by
  have listed {line : List Char} (filled : line ≠ []) : IsLine text line ↔ line ∈ lines text :=
    isLine_iff_mem_linesFrom (List.forall_mem_nil _) filled
  refine forall_congr' fun line => ?_
  by_cases filled : line = []
  · simp [filled, empty]
  · rw [listed filled]

end Text

namespace Comment

open Text

/-- A line without prose: blanks alone, or a delimiter that stands as a word of its own and then nothing, or
nothing but the end of a comment. -/
inductive Bare : List Char → Prop
  | blank {line : List Char} (spaces : ∀ c ∈ line, isBlank c = true) : Bare line
  | delimiter {before after : List Char} (token : Delimiter) (front : ∀ c ∈ before, isBlank c = true)
      (back : ∀ c ∈ after, isBlank c = true) : Bare (before ++ (token.chars ++ after))
  | closed {before gap after : List Char} (token : Delimiter) (front : ∀ c ∈ before, isBlank c = true)
      (apart : gap ≠ []) (space : ∀ c ∈ gap, isBlank c = true) (back : ∀ c ∈ after, isBlank c = true) :
      Bare (before ++ (token.chars ++ (gap ++ ['*', '/']) ++ after))

theorem exists_delimiter {token : List Char} (known : isDelimiter token = true) :
    ∃ delimiter : Delimiter, delimiter.chars = token := by
  unfold isDelimiter at known
  split at known
  · exact ⟨.asterisk, rfl⟩
  · exact ⟨.number, rfl⟩
  · rename_i slashes
    have same : slashes = List.replicate slashes.length '/' :=
      List.eq_replicate_iff.mpr ⟨rfl, by simpa using known⟩
    exact ⟨.slashes slashes.length, by rw [Delimiter.chars, ← same]⟩
  · rename_i stars
    have same : stars = List.replicate stars.length '*' :=
      List.eq_replicate_iff.mpr ⟨rfl, by simpa using known⟩
    exact ⟨.opening stars.length, by rw [Delimiter.chars, ← same]⟩
  · rename_i rest _
    have stars : rest.takeWhile (· == '*') = List.replicate (rest.takeWhile (· == '*')).length '*' :=
      List.eq_replicate_iff.mpr ⟨rfl, fun c member => by simpa using List.mem_takeWhile_imp member⟩
    refine ⟨.closing (rest.takeWhile (· == '*')).length, ?_⟩
    rw [Delimiter.chars, ← stars, List.cons_append, ← eq_of_beq known, List.takeWhile_append_dropWhile]
  · cases known

theorem dropClosing_eq_nil {line : List Char} (trimmed : Trimmed line) :
    dropClosing line = [] ↔ line = [] ∨ line = ['*', '/'] := by
  constructor
  · intro empty
    unfold dropClosing at empty
    split at empty
    · rename_i closed
      obtain ⟨front, rfl⟩ := List.isSuffixOf_iff_suffix.mp closed
      have cut : (front ++ ['*', '/']).take ((front ++ ['*', '/']).length - 2) = front := by simp
      rw [cut] at empty
      have spaces : ∀ c ∈ front, isBlank c = true := List.rdropWhile_eq_nil_iff.mp empty
      cases front with
      | nil => exact .inr rfl
      | cons c front =>
        have solid : isBlank c = false := trimmed.1 c rfl
        simp [spaces c List.mem_cons_self] at solid
    · exact .inl empty
  · rintro (rfl | rfl) <;> rfl

theorem Bare.cleanLine_eq {line : List Char} (bare : Bare line) : cleanLine line = [] := by
  cases bare with
  | blank spaces =>
    have nothing : trim line = [] := dropEnds_eq_nil.mpr spaces
    rw [cleanLine, nothing]
    rfl
  | delimiter token front back => rw [cleanLine_around front back, cleanLine_delimiter]
  | closed token front apart space back =>
    rename_i before gap after
    have closing : Trimmed ['*', '/'] := ⟨by rintro c ⟨⟩; decide, by rintro c ⟨⟩; decide⟩
    have whole : Trimmed (token.chars ++ (gap ++ ['*', '/'])) :=
      token.trimmed_chars.around closing token.chars_ne_nil (by simp) gap
    have bare : dropDelimiter (token.chars ++ (gap ++ ['*', '/'])) = gap ++ ['*', '/'] :=
      token.dropDelimiter_append fun c first => by
        rw [List.head?_append_of_ne_nil _ apart] at first
        exact space c (List.mem_of_mem_head? first)
    rw [cleanLine_around front back, cleanLine, whole.trim_eq, bare, trim_append_left space, closing.trim_eq]
    rfl

theorem bare_of_cleanLine {line : List Char} (empty : cleanLine line = []) : Bare line := by
  obtain ⟨before, after, front, back, shape⟩ := exists_blanks_around line
  have left := (dropClosing_eq_nil (trimmed_trim _)).mp empty
  rw [dropDelimiter] at left
  split at left
  · rename_i known
    obtain ⟨token, word⟩ := exists_delimiter known
    have parts : token.chars ++ (trim line).dropWhile (!isBlank ·) = trim line := by
      rw [word, List.takeWhile_append_dropWhile]
    have stop := List.head?_dropWhile_not (!isBlank ·) (trim line)
    generalize (trim line).dropWhile (!isBlank ·) = rest at left parts stop
    rcases left with nothing | closing
    · rw [shape, ← parts, List.append_assoc, List.append_assoc]
      refine .delimiter token front fun c member => ?_
      exact (List.mem_append.mp member).elim (dropEnds_eq_nil.mp nothing c) (back c)
    · obtain ⟨gap, more, space, further, whole⟩ := exists_blanks_around rest
      rw [closing] at whole
      have apart : gap ≠ [] := by
        rintro rfl
        rw [whole] at stop
        exact absurd stop (by simp [show isBlank '*' = false by decide])
      have spread : line = before ++ (token.chars ++ (gap ++ ['*', '/']) ++ (more ++ after)) := by
        rw [shape, ← parts, whole]
        simp
      rw [spread]
      exact .closed token front apart space fun c member =>
        (List.mem_append.mp member).elim (further c) (back c)
  · rename_i other
    rw [(trimmed_trim line).trim_eq] at left
    rcases left with nothing | closing
    · exact .blank (dropEnds_eq_nil.mp nothing)
    · rw [closing] at other
      exact absurd rfl other

/-- Nothing is left of a line exactly if it has no prose. -/
theorem cleanLine_eq_nil {line : List Char} : cleanLine line = [] ↔ Bare line :=
  ⟨bare_of_cleanLine, Bare.cleanLine_eq⟩

/-- Nothing is left of a comment exactly if none of its lines has prose. -/
theorem clean_eq_empty {comment : String} :
    clean comment = "" ↔ ∀ line, IsLine comment.toList line → Bare line := by
  have nonempty : ∀ line ∈ ((lines comment.toList).map cleanLine).filter (!·.isEmpty), line ≠ [] :=
    fun line kept => by simpa using List.of_mem_filter kept
  have empty : Bare [] := .blank (List.forall_mem_nil _)
  rw [← String.toList_inj, clean, onChars, String.toList_ofList, String.toList_empty, cleanChars,
    intercalate_eq_nil nonempty, List.filter_eq_nil_iff, List.forall_mem_map, forall_isLine_iff empty]
  simp only [← cleanLine_eq_nil, Bool.not_eq_true, Bool.not_eq_false', List.isEmpty_iff]

end Comment

namespace Sdl

/-- The comment of a schema is in one place of its document, and nothing else depends on it. -/
theorem document_comment (schema : Schema) : ∃ rest, ∀ comment,
    document { schema with comment } =
      "# Code generated by protoc-gen-graphql. DO NOT EDIT.\n" ++ ("# source: " ++ schema.source ++ "\n") ++
        ("# service: " ++ schema.service ++ "\n") ++ commentLine comment ++ rest := by
  apply Exists.intro
  intro comment
  have links : link { schema with comment } = link schema := rfl
  have headed : header { schema with comment } =
      "# Code generated by protoc-gen-graphql. DO NOT EDIT.\n" ++ ("# source: " ++ schema.source ++ "\n") ++
        ("# service: " ++ schema.service ++ "\n") ++ commentLine comment := rfl
  rw [← headed, document, links]
  simp only [String.append_assoc]
  rfl

end Sdl

namespace Build

open Descriptor

theorem value_addMethod_comment (pool : Pool) (schema : Schema) (comment : String) (method : Method) :
    (addMethod pool { schema with comment } method).value =
      { (addMethod pool schema method).value with comment } := by
  cases resolved : output? pool method with
  | none => rw [addMethod_value_unresolved resolved, addMethod_value_unresolved resolved]
  | some entry =>
    rw [addMethod_value_resolved resolved, addMethod_value_resolved resolved]
    cases request? pool method <;> cases classify method.name <;> rfl

theorem value_addMethods_comment (pool : Pool) (service : String) (schema : Schema) (comment : String)
    (methods : List (Option Method)) :
    (addMethods pool service { schema with comment } methods).value =
      { (addMethods pool service schema methods).value with comment } := by
  induction methods generalizing schema with
  | nil => rfl
  | cons method? rest ih =>
    cases method? with
    | none => exact ih schema
    | some method =>
      simp only [addMethods, Logged.value_bind, value_addMethod_comment]
      exact ih _

theorem value_build_comment (pool : Pool) (service : Service) (comment : String) :
    (build pool { service with comment }).value =
      { (build pool service).value with comment := Comment.clean comment } :=
  value_addMethods_comment pool service.fullName (emptySchema service) (Comment.clean comment) service.methods

end Build

namespace Comment

open Descriptor Text

/-- Whatever a comment holds, one line without blanks at its ends is left of it, and nothing exactly if none
of its lines has prose. So the comment of a service takes one line of the document, or none, that GraphQL
skips, and changes nothing else there. -/
theorem cleaned_on_one_line :
    (∀ comment : String,
      (∀ c ∈ (clean comment).toList, c.toNat ∉ lineBreaks) ∧ Trimmed (clean comment).toList ∧
        (clean comment = "" ↔ ∀ line, IsLine comment.toList line → Bare line)) ∧
      ∀ (pool : Pool) (service : Service), ∃ rest, ∀ comment,
        Layout.standard.render (Build.build pool { service with comment }).value =
            .ok ("# Code generated by protoc-gen-graphql. DO NOT EDIT.\n" ++
              ("# source: " ++ service.source ++ "\n") ++ ("# service: " ++ service.fullName ++ "\n") ++
              Sdl.commentLine (clean comment) ++ rest) ∧
          Sdl.SingleLine (clean comment) ∧ Sdl.Scans (Sdl.commentLine (clean comment)) [] := by
  refine ⟨fun comment => ⟨fun c member => ?_, trimmed_clean comment, clean_eq_empty⟩, fun pool service => ?_⟩
  · rw [← isLineBreak_iff, isLineBreak_of_mem_clean member]
    decide
  · have heading := Build.heading_build pool service
    simp only [Build.heading, Prod.mk.injEq] at heading
    obtain ⟨fullName, source, _⟩ := heading
    obtain ⟨rest, written⟩ := Sdl.document_comment (Build.build pool service).value
    refine ⟨rest, fun comment => ?_⟩
    have single := (Sdl.prose_clean comment).2
    have document := (congrArg Sdl.document (Build.value_build_comment pool service comment)).trans
      (written (clean comment))
    rw [fullName, source] at document
    exact ⟨congrArg Except.ok document, single, .commentLine single⟩

/-- The lines of the first comment end in four different ways, and the second has no prose. -/
theorem cleaned_on_one_line_mixed :
    clean "/**\u2028 * Ships\x0bparcels */\r\n#" = "Ships parcels" ∧ 'p'.toNat ∉ lineBreaks ∧
      Bare " * */ ".toList ∧ clean " /** */\r\n\x1c * */ " = "" ∧
      ∃ rest, Layout.standard.render (Build.build Build.parcelPool
          { Build.parcelService with comment := "/**\u2028 * Ships\x0bparcels */\r\n#" }).value =
        .ok ("# Code generated by protoc-gen-graphql. DO NOT EDIT.\n" ++
          "# source: post \"quoted\".proto\n# service: post.Post\n# Ships parcels\n" ++ rest) := by
  have cleaned : clean "/**\u2028 * Ships\x0bparcels */\r\n#" = "Ships parcels" := by decide +kernel
  have emptied : clean " /** */\r\n\x1c * */ " = "" := by decide +kernel
  obtain ⟨each, documents⟩ := cleaned_on_one_line
  refine ⟨cleaned, (each _).1 'p' (by rw [cleaned]; decide), ?_, emptied, ?_⟩
  · have line : IsLine " /** */\r\n\x1c * */ ".toList " * */ ".toList :=
      ⟨by simp [isLineBreak], " /** */\r\n\x1c".toList, [], by decide, by rintro c ⟨⟩; decide, by simp⟩
    exact (each _).2.2.mp emptied _ line
  · obtain ⟨rest, written⟩ := documents Build.parcelPool Build.parcelService
    have document := (written "/**\u2028 * Ships\x0bparcels */\r\n#").1
    rw [cleaned] at document
    exact ⟨rest, document⟩

end Comment

end Subgraph
