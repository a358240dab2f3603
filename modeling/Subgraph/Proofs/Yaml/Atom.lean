import Subgraph.Proofs.Yaml.Escaped
import Subgraph.Yaml.Reader

namespace Subgraph.Yaml

/-- How a line or a scalar starts whose first character has no meaning of its own. -/
structure PlainStart (c : Char) (rest : List Char) : Prop where
  safe : Writer.isSafe c = true
  solid : c ≠ ' '
  unmarked : c ∉ Writer.leadingMarks
  goesOn : c ∈ Writer.leadingSigns → Cursor.endsWord rest = false

theorem safe_of_allowsPlain {text : List Char} (allowed : Writer.allowsPlain text = true) :
    ∀ c ∈ text, Writer.isSafe c = true := by
  simp only [Writer.allowsPlain, Bool.and_eq_true, List.all_eq_true] at allowed
  exact allowed.1.1.1

theorem allowsPlain_cons {c : Char} {text : List Char} (allowed : Writer.allowsPlain (c :: text) = true) :
    (∀ d ∈ c :: text, Writer.isSafe d = true) ∧ c ≠ ' ' ∧ (c :: text).getLast? ≠ some ' ' ∧
      Writer.hasMark (c :: text) = false := by
  simpa [Writer.allowsPlain, and_assoc] using allowed

section Start

variable {c : Char} {text : List Char}

theorem hasMark_cons (unmarked : Writer.hasMark (c :: text) = false) :
    c ∉ Writer.leadingMarks ∧ (c ∈ Writer.leadingSigns → Cursor.endsWord text = false) ∧
      Writer.hasInnerMark (c :: text) = false := by
  simp only [Writer.hasMark, Bool.or_eq_false_iff, Bool.and_eq_false_iff, List.contains_eq_mem,
    decide_eq_false_iff_not] at unmarked
  obtain ⟨⟨⟨-, mark⟩, sign⟩, inner⟩ := unmarked
  exact ⟨mark, fun same => sign.resolve_left (not_not.mpr same), inner⟩

theorem innerMark_letter (unmarked : Writer.hasMark (c :: text) = false) :
    Writer.hasInnerMark ('a' :: c :: text) = false := by
  obtain ⟨-, sign, inner⟩ := hasMark_cons unmarked
  have letter : Cursor.endsWord ['a'] = false := by decide
  have colon : (c == ':' && Cursor.endsWord text) = false := by
    rw [Bool.and_eq_false_iff]
    by_cases same : c = ':'
    · exact .inr (sign (by simp [same, Writer.leadingSigns]))
    · exact .inl (by simpa using same)
  rw [Writer.hasInnerMark, colon, letter, inner, Bool.and_false]
  rfl

theorem plainStart (allowed : Writer.allowsPlain (c :: text) = true) (folding : Writer.Folding) (column : Nat)
    (stop : List Char) : PlainStart c (Writer.plain folding false column text ++ stop) := by
  obtain ⟨safe, solid, -, unmarked⟩ := allowsPlain_cons allowed
  obtain ⟨mark, sign, -⟩ := hasMark_cons unmarked
  refine ⟨safe c List.mem_cons_self, solid, mark, fun same => ?_⟩
  have goesOn := sign same
  cases text with
  | nil => cases goesOn
  | cons d text =>
    have safe_next := safe d (by simp)
    rw [endsWord_cons safe_next] at goesOn
    rw [head_plain (by simpa using goesOn), List.cons_append, endsWord_cons safe_next, goesOn]

variable {rest : List Char} (start : PlainStart c rest)

include start

theorem PlainStart.ne_mark {d : Char} (mark : d ∈ Writer.leadingMarks) : c ≠ d := by
  rintro rfl
  exact start.unmarked mark

theorem PlainStart.dropFiller : Cursor.dropFiller false (c :: rest) = c :: rest := by
  have comment := start.ne_mark (show '#' ∈ Writer.leadingMarks by decide)
  simp [Cursor.dropFiller, (safeFacts start.safe).unbroken, start.solid, comment]

theorem PlainStart.not_atSign {sign : Char} (listed : sign ∈ Writer.leadingSigns) :
    (((c :: rest).head? == some sign) && Cursor.endsWord ((c :: rest).drop 1)) = false := by
  rw [Bool.and_eq_false_iff]
  by_cases same : c = sign
  · subst same
    exact .inr (start.goesOn listed)
  · exact .inl (by simpa using same)

theorem PlainStart.startsPlain : Wrapped.startsPlain false (c :: rest) = true := by
  have marks : (Wrapped.indicators.all fun d => Writer.leadingMarks.contains d || Writer.leadingSigns.contains d) =
      true := by decide
  rw [Wrapped.startsPlain, isGap_eq start.safe, (safeFacts start.safe).unbroken]
  by_cases indicator : c ∈ Wrapped.indicators
  · have sign : c ∈ Writer.leadingSigns := by
      have either := List.all_eq_true.mp marks c indicator
      simpa [start.unmarked] using either
    have one : c = '?' ∨ c = ':' ∨ c = '-' := by simpa [Writer.leadingSigns] using sign
    rw [start.goesOn sign]
    rcases one with rfl | rfl | rfl <;> simp
  · simp [indicator, start.solid]

end Start

namespace Cursor

theorem moveTo_append (before front rest : List Char) :
    moveTo ⟨before, front ++ rest⟩ rest = ⟨front.reverse ++ before, rest⟩ := by
  simp [moveTo, advance]

theorem moveTo_self (cursor : Cursor) : cursor.moveTo cursor.rest = cursor := by
  simp [moveTo, advance]

theorem skipSpaces_cons {c : Char} (solid : c ≠ ' ') (before rest : List Char) :
    skipSpaces ⟨before, c :: rest⟩ = ⟨before, c :: rest⟩ := by
  have kept : (c :: rest).dropWhile (· == ' ') = c :: rest := by simp [solid]
  rw [skipSpaces, kept]
  exact moveTo_self _

end Cursor

/-- What may follow a line: nothing, or a line that starts plainly. -/
inductive LineStart : List Char → Prop
  | done : LineStart []
  | line {c : Char} {rest : List Char} (start : PlainStart c rest)
    (unmarked : Cursor.isDocumentMark (c :: rest) = false) : LineStart (c :: rest)

theorem LineStart.dropFiller {following : List Char} (start : LineStart following) :
    Cursor.dropFiller false following = following := by
  cases start with
  | done => rfl
  | line start _ => exact start.dropFiller

theorem LineStart.plain_ends {following : List Char} (start : LineStart following) (indent : Nat) :
    Wrapped.plain false (indent + 1) .nothing ('\n' :: following) = ([], following) := by
  rw [plain_break]
  cases start with
  | done => rfl
  | @line c rest start _ =>
    have ends : Wrapped.endsPlain false (indent + 1) (Gap.addBreak '\n' .nothing) c rest = true := by
      simp [Wrapped.endsPlain, Gap.addBreak]
    exact plain_stop start.safe start.solid ends

/-- An unquoted scalar, up to where it stops. -/
theorem atom_plain {folding : Writer.Folding} {indent : Nat}
    (deep : ∀ column, folding.isBeyond column = true → 0 < folding.indent ∧ indent ≤ folding.indent)
    {content stop after : List Char} (several : content ≠ []) (allowed : Writer.allowsPlain content = true)
    (ends : Wrapped.plain false indent .nothing stop = ([], after)) {value : Scalar}
    (means : Scalar.ofPlain? (String.ofList content) = some value) {before : List Char} {column : Nat}
    (inside : Cursor.atEnd ⟨before, Writer.plain folding false column content ++ stop⟩ = false) (fuel : Nat) :
    Reader.atom false indent (fuel + 1) ⟨before, Writer.plain folding false column content ++ stop⟩ =
      .ok (.value (.scalar value),
        Cursor.moveTo ⟨before, Writer.plain folding false column content ++ stop⟩ after) := by
  cases content with
  | nil => exact absurd rfl several
  | cons c text =>
    obtain ⟨safe, solid, ended, unmarked⟩ := allowsPlain_cons allowed
    have start := plainStart allowed folding (column + 1) stop
    have read : Wrapped.plain false indent .nothing (Writer.plain folding false column (c :: text) ++ stop) =
        (c :: text, after) :=
      @plain_read indent .nothing folding deep stop after ends (c :: text) 'a' column safe
        (innerMark_letter unmarked) (by simpa using ended) (.nothing (by decide))
    have written : Writer.plain folding false column (c :: text) ++ stop =
        c :: (Writer.plain folding false (column + 1) text ++ stop) := by
      rw [head_plain solid, List.cons_append]
    have unopened {d : Char} (mark : d ∈ Writer.leadingMarks) :
        ¬ Cursor.isAt ⟨before, Writer.plain folding false column (c :: text) ++ stop⟩ d = true := by
      rw [written]
      simpa [Cursor.isAt] using start.ne_mark mark
    rw [Reader.atom, if_neg (Bool.eq_false_iff.mp inside), if_neg (unopened (by decide)),
      if_neg (unopened (by decide)), if_neg (unopened (by decide)), if_neg (unopened (by decide)),
      if_pos (by rw [written]; exact start.startsPlain), Reader.plain]
    dsimp only
    rw [read]
    dsimp only
    rw [means]

/-- A text without spaces is not folded, nor is one without a limit. -/
theorem plain_unfolded {folding : Writer.Folding} {text : List Char}
    (kept : ' ' ∈ text → ∀ column, folding.isBeyond column = false) (afterSpace : Bool) (column : Nat) :
    Writer.plain folding afterSpace column text = text := by
  induction text generalizing afterSpace column with
  | nil => rfl
  | cons c text ih =>
    have stays : ¬ (c == ' ' && !afterSpace && text.head? != some ' ' && folding.isBeyond column) = true := by
      by_cases space : c = ' '
      · simp [kept (by simp [space])]
      · simp [space]
    rw [Writer.plain, if_neg stays, ih fun later => kept (List.mem_cons_of_mem _ later)]

/-- How null and texts are written. -/
inductive Form (folding : Writer.Folding) (column : Nat) : Scalar → List Char → Prop
  | plain {content : List Char} {value : Scalar} (several : content ≠ [])
    (allowed : Writer.allowsPlain content = true) (means : Scalar.ofPlain? (String.ofList content) = some value) :
    Form folding column value (Writer.plain folding false column content)
  | single {content : List Char} (allowed : Writer.allowsSingle content = true) :
    Form folding column (.text (String.ofList content)) ('\'' :: Writer.single folding .start (column + 1) content)
  | double {content : List Char} :
    Form folding column (.text (String.ofList content))
      ('"' :: Writer.double folding true false (column + 1) content)

section Form

variable {folding : Writer.Folding} {column : Nat}

theorem form_null : Form folding column .null (Writer.scalar folding column .null) := by
  have unfolded := @plain_unfolded folding "null".toList (fun space => absurd space (by decide)) false column
  change Form folding column .null "null".toList
  rw [← unfolded]
  exact .plain (by decide) (by decide) (by decide +kernel)

theorem readsBack_means {content : List Char} (back : Writer.readsBack content = true) :
    content ≠ [] ∧ Scalar.ofPlain? (String.ofList content) = some (.text (String.ofList content)) := by
  refine ⟨?_, eq_of_beq back⟩
  rintro rfl
  exact absurd back (by decide +kernel)

theorem style_eq_plain {content : List Char} (plain : Writer.style content = .plain) :
    Writer.allowsPlain content = true ∧ Writer.readsBack content = true := by
  rw [Writer.style] at plain
  split at plain
  · rename_i both
    exact Bool.and_eq_true_iff.mp both
  · split at plain <;> cases plain

theorem style_eq_single {content : List Char} (single : Writer.style content = .single) :
    Writer.allowsSingle content = true := by
  rw [Writer.style] at single
  split at single
  · cases single
  · split at single
    · assumption
    · cases single

theorem form_text (text : String) :
    Form folding column (.text text) (Writer.scalar folding column (.text text)) := by
  change Form folding column (.text text) (Writer.text folding column text.toList)
  have form (content : List Char) :
      Form folding column (.text (String.ofList content)) (Writer.text folding column content) := by
    rw [Writer.text]
    split
    · rename_i plain
      obtain ⟨allowed, back⟩ := style_eq_plain plain
      obtain ⟨several, means⟩ := readsBack_means back
      exact .plain several allowed means
    · rename_i single
      exact .single (style_eq_single single)
    · exact .double
  simpa using form text.toList

/-- The first character of a scalar starts nothing else. -/
theorem Form.start {value : Scalar} {written : List Char} (form : Form folding column value written)
    (stop : List Char) : ∃ c rest, written ++ stop = c :: rest ∧ Cursor.dropFiller false (c :: rest) = c :: rest ∧
      ∀ before, Cursor.atDash ⟨before, c :: rest⟩ = false := by
  cases form with
  | @plain content _ several allowed _ =>
    cases content with
    | nil => exact absurd rfl several
    | cons c text =>
      have start := plainStart allowed folding (column + 1) stop
      rw [head_plain (allowsPlain_cons allowed).2.1, List.cons_append]
      exact ⟨c, _, rfl, start.dropFiller, fun _ => start.not_atSign (by decide)⟩
  | single => exact ⟨_, _, rfl, rfl, fun _ => rfl⟩
  | double => exact ⟨_, _, rfl, rfl, fun _ => rfl⟩

/-- A scalar in quotes, at a place inside of a line. -/
theorem atom_quoted {before body content stop : List Char} {quote : Char} {scan : List Char → Scan}
    (inside : Cursor.atEnd ⟨before, (quote :: body) ++ stop⟩ = false)
    (kind : (quote = '\'' ∧ scan = Wrapped.singleQuoted .nothing) ∨
      (quote = '"' ∧ scan = Wrapped.doubleQuoted .nothing .none))
    (read : scan (body ++ stop) = .ok (content, stop)) (indent fuel : Nat) :
    Reader.atom false indent (fuel + 1) ⟨before, (quote :: body) ++ stop⟩ =
      .ok (.value (.text (String.ofList content)), ⟨(quote :: body).reverse ++ before, stop⟩) := by
  have found : Reader.quoted ⟨before, (quote :: body) ++ stop⟩ scan =
      .ok (.value (.text (String.ofList content)), ⟨(quote :: body).reverse ++ before, stop⟩) := by
    have drop : ((quote :: body) ++ stop).drop 1 = body ++ stop := rfl
    rw [Reader.quoted, drop, read, ← Cursor.moveTo_append before (quote :: body) stop]
  rw [Reader.atom, if_neg (Bool.eq_false_iff.mp inside)]
  rcases kind with ⟨rfl, rfl⟩ | ⟨rfl, rfl⟩
  · rw [if_neg (by simp [Cursor.isAt]), if_neg (by simp [Cursor.isAt]), if_pos (by simp [Cursor.isAt]), found]
  · rw [if_neg (by simp [Cursor.isAt]), if_neg (by simp [Cursor.isAt]), if_neg (by simp [Cursor.isAt]),
      if_pos (by simp [Cursor.isAt]), found]

/-- The place behind a scalar ends its line. -/
structure EndsLine (before following : List Char) (after : Cursor) : Prop where
  noColon : after.skipSpaces.atColon = false
  skip : after.skip = ⟨'\n' :: before, following⟩

section Line

variable {before following : List Char} (start : LineStart following)

include start

theorem endsLine_break : EndsLine before following ⟨before, '\n' :: following⟩ := by
  constructor
  · rw [Cursor.skipSpaces_cons (by decide)]
    rfl
  · have filler : Cursor.dropFiller false ('\n' :: following) = following := start.dropFiller
    rw [Cursor.skip, filler]
    exact Cursor.moveTo_append before ['\n'] following

theorem endsLine_next : EndsLine before following ⟨'\n' :: before, following⟩ := by
  constructor
  · cases start with
    | done => rfl
    | line start _ =>
      rw [Cursor.skipSpaces_cons start.solid]
      exact start.not_atSign (by decide)
  · rw [Cursor.skip, start.dropFiller]
    exact Cursor.moveTo_self _

end Line

/-- A scalar is read up to the end of its line. -/
theorem Form.read {value : Scalar} {written before following : List Char} {indent : Nat}
    (form : Form folding column value written) (deep : indent < folding.indent)
    (near : folding.isBeyond (folding.indent + 1) = false) (start : LineStart following)
    (inside : Cursor.atEnd ⟨before, written ++ '\n' :: following⟩ = false) (fuel : Nat) :
    ∃ after, Reader.atom false (indent + 1) (fuel + 1) ⟨before, written ++ '\n' :: following⟩ =
      .ok (.value (.scalar value), after) ∧ EndsLine (written.reverse ++ before) following after := by
  have positive : 0 < folding.indent := Nat.zero_lt_of_lt deep
  cases form with
  | @plain content _ several allowed means =>
    refine ⟨_, atom_plain (fun _ _ => ⟨positive, deep⟩) several allowed (start.plain_ends indent) means inside
      fuel, ?_⟩
    have line := Cursor.moveTo_append before (Writer.plain folding false column content ++ ['\n']) following
    rw [List.append_assoc, List.singleton_append] at line
    rw [line, List.reverse_append]
    exact endsLine_next start
  | @single content allowed =>
    obtain ⟨safe, tight⟩ : (∀ c ∈ content, c = '\n' ∨ Writer.isSafe c = true) ∧
        Writer.hasLooseBreak content = false := by simpa [Writer.allowsSingle] using allowed
    have read := @single_read .nothing folding positive ('\n' :: following) (by simp) content .start
      (column + 1) safe tight .start
    exact ⟨_, atom_quoted inside (.inl ⟨rfl, rfl⟩) read (indent + 1) fuel, endsLine_break start⟩
  | @double content =>
    have read := @double_read folding positive near ('\n' :: following) content .nothing .none (column + 1)
      true false .nothing
    exact ⟨_, atom_quoted inside (.inr ⟨rfl, rfl⟩) read (indent + 1) fuel, endsLine_break start⟩

end Form

end Subgraph.Yaml
