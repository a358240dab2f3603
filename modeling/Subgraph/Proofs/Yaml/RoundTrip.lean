import Subgraph.Proofs.Registry
import Subgraph.Proofs.Yaml.Written

namespace Subgraph.Yaml

theorem startsMark_key {sign c : Char} {text : List Char} (other : sign ≠ ':')
    (unmarked : (c :: text).take 3 ≠ [sign, sign, sign]) (rest : List Char) :
    Cursor.startsMark sign (c :: (text ++ ':' :: rest)) = false := by
  have three : (c :: (text ++ ':' :: rest)).take 3 ≠ [sign, sign, sign] := by
    match text with
    | [] => simp [other.symm]
    | [d] => simp [other.symm]
    | d :: e :: text => simpa using unmarked
  rw [Cursor.startsMark, beq_eq_false_iff_ne.mpr three, Bool.false_and]

/-- A text that may stand without quotes is not taken for a document mark. -/
theorem not_isDocumentMark_key {c : Char} {text : List Char} (unmarked : Writer.hasMark (c :: text) = false)
    (rest : List Char) : Cursor.isDocumentMark (c :: (text ++ ':' :: rest)) = false := by
  simp only [Writer.hasMark, Bool.or_eq_false_iff, beq_eq_false_iff_ne] at unmarked
  obtain ⟨⟨⟨⟨dashes, dots⟩, -⟩, -⟩, -⟩ := unmarked
  rw [Cursor.isDocumentMark, startsMark_key (by decide) dashes, startsMark_key (by decide) dots]
  rfl

section Key

variable {name : String} (style : Writer.style name.toList = .plain)

include style

theorem key_eq : Writer.key (.text name) = name.toList := by
  have written : Writer.key (.text name) = Writer.plain ⟨none, 0⟩ false 0 name.toList := by
    change Writer.text ⟨none, 0⟩ 0 name.toList = _
    rw [Writer.text, style]
  rw [written, plain_unfolded fun _ _ => rfl]

/-- A line that starts with a key. -/
theorem key_start (rest : List Char) : LineStart (name.toList ++ ':' :: rest) := by
  obtain ⟨allowed, back⟩ := style_eq_plain style
  obtain ⟨several, -⟩ := readsBack_means back
  cases shape : name.toList with
  | nil => exact absurd shape several
  | cons c text =>
    rw [shape] at allowed
    have start := plainStart allowed ⟨none, 0⟩ 0 (':' :: rest)
    rw [plain_unfolded fun _ _ => rfl] at start
    exact .line start (not_isDocumentMark_key (allowsPlain_cons allowed).2.2.2 rest)

theorem key_unbroken : name.toList.countP isBreak = 0 := by
  obtain ⟨allowed, -⟩ := style_eq_plain style
  rw [List.countP_eq_zero]
  intro c inside
  simp [(safeFacts (safe_of_allowsPlain allowed c inside)).unbroken]

/-- A key is read up to its colon. -/
theorem key_read (before rest : List Char) (indent fuel : Nat)
    (inside : Cursor.atEnd ⟨before, name.toList ++ ':' :: ' ' :: rest⟩ = false) :
    Reader.atom false indent (fuel + 1) ⟨before, name.toList ++ ':' :: ' ' :: rest⟩ =
      .ok (.value (.text name), ⟨name.toList.reverse ++ before, ':' :: ' ' :: rest⟩) := by
  obtain ⟨allowed, back⟩ := style_eq_plain style
  obtain ⟨several, means⟩ := readsBack_means back
  have ends : Wrapped.plain false indent .nothing (':' :: ' ' :: rest) = ([], ':' :: ' ' :: rest) :=
    plain_stop (by decide) (by decide) rfl
  have unlimited (column : Nat) (beyond : Writer.Folding.isBeyond ⟨none, 0⟩ column = true) :
      0 < (0 : Nat) ∧ indent ≤ 0 := by cases beyond
  have unfolded := @plain_unfolded ⟨none, 0⟩ name.toList (fun _ _ => rfl) false 0
  have read := @atom_plain ⟨none, 0⟩ indent unlimited name.toList _ _ several allowed ends _ means before 0
  rw [unfolded, String.ofList_toList, Cursor.moveTo_append] at read
  exact read inside fuel

end Key

theorem LineStart.inside {following : List Char} (start : LineStart following) (several : following ≠ [])
    (before : List Char) : Cursor.atEnd ⟨before, following⟩ = false := by
  cases start with
  | done => exact absurd rfl several
  | line _ unmarked =>
    rw [Cursor.isDocumentMark, Bool.or_eq_false_iff] at unmarked
    simp [Cursor.atEnd, Cursor.atDocumentStart, Cursor.atDocumentEnd, unmarked]

theorem LineStart.not_atDash {following : List Char} (start : LineStart following) (before : List Char) :
    Cursor.atDash ⟨before, following⟩ = false := by
  cases start with
  | done => rfl
  | line start _ => exact start.not_atSign (by decide)

section Entry

variable {name : String} (style : Writer.style name.toList = .plain) {before rest : List Char}

include style

/-- The place behind a key is that of its colon, in the same line. -/
theorem key_ends : Reader.endsKey ⟨before, name.toList ++ ':' :: ' ' :: rest⟩
    ⟨name.toList.reverse ++ before, ':' :: ' ' :: rest⟩ = true := by
  rw [Reader.endsKey, Cursor.skipSpaces_cons (by decide)]
  simp [Cursor.atColon, Cursor.endsWord, isGap, Cursor.line, key_unbroken style]

theorem blockKey_read (start : Cursor) (fuel : Nat) :
    Reader.blockKey start (fuel + 1) ⟨before, name.toList ++ ':' :: ' ' :: rest⟩ =
      .ok (.value (.text name), ⟨name.toList.reverse ++ before, ':' :: ' ' :: rest⟩) := by
  have inside := (key_start style (' ' :: rest)).inside (by simp) before
  rw [Reader.blockKey, key_read style before rest _ fuel inside]
  dsimp only
  rw [if_pos (key_ends style), Cursor.skipSpaces_cons (by decide)]

end Entry

/-- The value of an entry is read up to the end of its line. -/
theorem blockValue_read {folding : Writer.Folding} {column : Nat} {value : Scalar}
    {written before following : List Char} (form : Form folding column value written)
    (positive : 0 < folding.indent) (near : folding.isBeyond (folding.indent + 1) = false)
    (start : LineStart following) (fuel : Nat) :
    ∃ after, Reader.blockValue 0 (fuel + 3) ⟨before, ' ' :: (written ++ '\n' :: following)⟩ =
      .ok (.scalar value, after) ∧ EndsLine (written.reverse ++ ' ' :: before) following after := by
  obtain ⟨c, rest, shape, unfilled, noDash⟩ := form.start ('\n' :: following)
  rw [← shape] at unfilled noDash
  have content : Cursor.skip ⟨before, ' ' :: (written ++ '\n' :: following)⟩ =
      ⟨' ' :: before, written ++ '\n' :: following⟩ := by
    have filler : Cursor.dropFiller false (' ' :: (written ++ '\n' :: following)) = written ++ '\n' :: following :=
      unfilled
    rw [Cursor.skip, filler]
    exact Cursor.moveTo_append before [' '] _
  have inset : Cursor.column ⟨' ' :: before, written ++ '\n' :: following⟩ ≠ 0 := by
    simp [Cursor.column, isBreak]
  have inside : Cursor.atEnd ⟨' ' :: before, written ++ '\n' :: following⟩ = false := by
    simp [Cursor.atEnd, Cursor.atDocumentStart, Cursor.atDocumentEnd, inset]
  obtain ⟨after, read, ends⟩ := form.read positive near start inside fuel
  refine ⟨after, ?_, ends⟩
  rw [Reader.blockValue]
  dsimp only
  rw [content, if_neg (Bool.eq_false_iff.mp inside), if_neg (by simp [inset]), if_neg (by omega), Reader.block,
    if_neg (Bool.eq_false_iff.mp (noDash _)), read]
  change (if !after.skipSpaces.atColon then _ else _) = _
  rw [ends.noColon]
  rfl

/-- An entry leads from the start of its line to the start of the next. -/
theorem blockEntries_step {name : String} (style : Writer.style name.toList = .plain) {folding : Writer.Folding}
    {column : Nat} {value : Scalar} {written following : List Char} (form : Form folding column value written)
    (positive : 0 < folding.indent) (near : folding.isBeyond (folding.indent + 1) = false)
    (line : LineStart following) {start : Cursor} (leftmost : start.column = 0) (entries : Entries)
    (before : List Char) (fuel : Nat) :
    ∃ passed, Reader.blockEntries start entries (fuel + 4)
      ⟨before, name.toList ++ ':' :: ' ' :: (written ++ '\n' :: following)⟩ =
        if following = [] then .ok (entries.put (.text name) (.scalar value), ⟨'\n' :: passed, following⟩)
        else Reader.blockEntries start (entries.put (.text name) (.scalar value)) (fuel + 3)
          ⟨'\n' :: passed, following⟩ := by
  have key := @blockKey_read name style before (written ++ '\n' :: following) start (fuel + 2)
  obtain ⟨after, read, ends⟩ := @blockValue_read folding column value written
    (':' :: (name.toList.reverse ++ before)) following form positive near line fuel
  refine ⟨written.reverse ++ ' ' :: ':' :: (name.toList.reverse ++ before), ?_⟩
  have noDash := (key_start style (' ' :: (written ++ '\n' :: following))).not_atDash before
  have advanced : Cursor.advance ⟨name.toList.reverse ++ before, ':' :: ' ' :: (written ++ '\n' :: following)⟩ 1 =
      ⟨':' :: (name.toList.reverse ++ before), ' ' :: (written ++ '\n' :: following)⟩ := rfl
  rw [Reader.blockEntries, if_neg (Bool.eq_false_iff.mp noDash), key]
  simp only [bind, Except.bind, pure, Except.pure, Reader.Node.asKey, leftmost, advanced, read, ends.skip]
  by_cases last : following = []
  · rw [if_pos last, if_pos (by simp [Cursor.atEnd, last])]
  · have inside := line.inside last ('\n' :: (written.reverse ++ ' ' :: ':' :: (name.toList.reverse ++ before)))
    have column (passed : List Char) : Cursor.column ⟨'\n' :: passed, following⟩ = 0 := rfl
    rw [if_neg last, if_neg (by simp [inside]), if_pos (column _)]

/-- Entries that take a line each: nothing or a text, below keys that need no quotes, each of them once. -/
structure Lined (entries : Entries) : Prop where
  distinct : (entries.map (·.1)).Nodup
  key : ∀ entry ∈ entries, ∃ name, entry.1 = .text name ∧ Writer.style name.toList = .plain
  value : ∀ entry ∈ entries, entry.2 = .null ∨ ∃ text, entry.2 = .text text

theorem Lined.tail {entry : Scalar × Value} {entries : Entries} (lined : Lined (entry :: entries)) :
    Lined entries where
  distinct := (List.nodup_cons.mp lined.distinct).2
  key := fun other member => lined.key other (List.mem_cons_of_mem _ member)
  value := fun other member => lined.value other (List.mem_cons_of_mem _ member)

/-- The first of several entries: its key, its value as it is written, and the lines after it. -/
theorem Lined.first {entry : Scalar × Value} {entries : Entries} (lined : Lined (entry :: entries)) :
    ∃ name value written column, entry = (.text name, .scalar value) ∧ Writer.style name.toList = .plain ∧
      Form ⟨some Writer.width, Writer.step⟩ column value written ∧
      Writer.entries 0 false (entry :: entries) =
        name.toList ++ ':' :: ' ' :: (written ++ '\n' :: Writer.entries 0 false entries) := by
  obtain ⟨key, content⟩ := entry
  obtain ⟨name, rfl, style⟩ := lined.key _ List.mem_cons_self
  obtain ⟨value, rfl, form⟩ : ∃ value, content = .scalar value ∧ ∀ folding column,
      Form folding column value (Writer.scalar folding column value) := by
    rcases lined.value _ List.mem_cons_self with null | ⟨text, same⟩
    · exact ⟨.null, null, fun _ _ => form_null⟩
    · exact ⟨.text text, same, fun _ _ => form_text text⟩
  refine ⟨name, value, _, _, rfl, style, form _ (0 + name.toList.length + 1 + 1), ?_⟩
  rw [Writer.entries, key_eq style, Writer.entry]
  simp [Writer.blanks]

theorem Lined.start {entries : Entries} (lined : Lined entries) : LineStart (Writer.entries 0 false entries) := by
  cases entries with
  | nil =>
    rw [Writer.entries]
    exact .done
  | cons entry entries =>
    obtain ⟨name, _, _, _, -, style, -, shape⟩ := lined.first
    rw [shape]
    exact key_start style _

theorem Lined.length_le {entries : Entries} (lined : Lined entries) :
    entries.length ≤ (Writer.entries 0 false entries).length := by
  induction entries with
  | nil => exact Nat.zero_le _
  | cons entry entries ih =>
    obtain ⟨name, value, written, column, -, -, -, shape⟩ := lined.first
    have shorter := ih lined.tail
    rw [shape]
    simp only [List.length_append, List.length_cons]
    omega

theorem Lined.entries_ne_nil {entries : Entries} (lined : Lined entries) (several : entries ≠ []) :
    Writer.entries 0 false entries ≠ [] := by
  have longer := lined.length_le
  have positive := List.length_pos_of_ne_nil several
  exact List.ne_nil_of_length_pos (Nat.lt_of_lt_of_le positive longer)

/-- Entries are read one after another. -/
theorem blockEntries_read {entries read : Entries} (lined : Lined entries) (several : entries ≠ [])
    (fresh : ∀ key ∈ entries.map (·.1), key ∉ read.map (·.1)) {start : Cursor} (leftmost : start.column = 0)
    (before : List Char) {fuel : Nat} (enough : entries.length + 3 ≤ fuel) :
    ∃ passed, Reader.blockEntries start read fuel ⟨before, Writer.entries 0 false entries⟩ =
      .ok (read ++ entries, ⟨passed, []⟩) := by
  induction entries generalizing read before fuel with
  | nil => exact absurd rfl several
  | cons entry entries ih =>
    obtain ⟨fuel, rfl⟩ : ∃ less, fuel = less + 4 := ⟨fuel - 4, by simp only [List.length_cons] at enough; omega⟩
    obtain ⟨name, value, written, column, rfl, style, form, shape⟩ := lined.first
    obtain ⟨passed, step⟩ := blockEntries_step style form (by decide) (by decide) lined.tail.start leftmost read
      before fuel
    rw [shape, step, Registry.put_of_not_mem (fresh _ (by simp))]
    cases entries with
    | nil =>
      have last : Writer.entries 0 false [] = [] := by rw [Writer.entries]
      rw [if_pos last, last]
      exact ⟨_, rfl⟩
    | cons next entries =>
      have goesOn := lined.tail.entries_ne_nil (List.cons_ne_nil _ _)
      have later : ∀ key ∈ (next :: entries).map (·.1),
          key ∉ (read ++ [(Scalar.text name, Value.scalar value)]).map (·.1) := by
        intro key member
        have unread := fresh key (List.mem_cons_of_mem _ member)
        have other : key ≠ .text name := ne_of_mem_of_not_mem member (List.nodup_cons.mp lined.distinct).1
        rw [List.map_append, List.mem_append, List.map_singleton, List.mem_singleton]
        exact not_or.mpr ⟨unread, other⟩
      obtain ⟨reached, rest⟩ := ih lined.tail (by simp) later ('\n' :: passed)
        (show (next :: entries).length + 3 ≤ fuel + 3 by simp only [List.length_cons] at enough ⊢; omega)
      rw [if_neg goesOn, rest, List.append_assoc]
      exact ⟨reached, rfl⟩

/-- A map of several entries is a document. -/
theorem document_read {entries : Entries} (lined : Lined entries) (several : entries ≠ []) {fuel : Nat}
    (enough : entries.length + 4 ≤ fuel) :
    ∃ passed, Reader.document fuel ⟨[], Writer.entries 0 false entries⟩ true =
      .ok (.map entries, ⟨passed, []⟩) := by
  cases entries with
  | nil => exact absurd rfl several
  | cons entry entries =>
    obtain ⟨fuel, rfl⟩ : ∃ less, fuel = less + 2 := ⟨fuel - 2, by omega⟩
    obtain ⟨name, value, written, column, -, style, -, shape⟩ := lined.first
    obtain ⟨passed, read⟩ := @blockEntries_read _ [] lined several (by simp)
      ⟨[], Writer.entries 0 false (entry :: entries)⟩ rfl [] (fuel + 1) (by omega)
    refine ⟨passed, ?_⟩
    have inside := lined.start.inside (lined.entries_ne_nil several) []
    have noDash := lined.start.not_atDash []
    rw [shape] at read inside noDash ⊢
    have key := key_read style [] (written ++ '\n' :: Writer.entries 0 false entries) 0 fuel inside
    have ends := @key_ends name style [] (written ++ '\n' :: Writer.entries 0 false entries)
    rw [Reader.endsKey, Bool.and_eq_true, beq_iff_eq] at ends
    rw [Reader.document, if_neg (Bool.eq_false_iff.mp inside), Reader.block,
      if_neg (Bool.eq_false_iff.mp noDash), key]
    simp only [bind, Except.bind, pure, Except.pure, ends.1, ends.2, read]
    rfl

theorem Lined.written {entries : Entries} (lined : Lined entries) :
    ∀ c ∈ Writer.entries 0 false entries, IsWritten c := by
  induction entries with
  | nil =>
    rw [Writer.entries]
    exact List.forall_mem_nil _
  | cons entry entries ih =>
    obtain ⟨name, value, written, column, -, style, form, shape⟩ := lined.first
    obtain ⟨allowed, -⟩ := style_eq_plain style
    have key : ∀ c ∈ name.toList, IsWritten c := fun c inside => .inr (safe_of_allowsPlain allowed c inside)
    have value : ∀ c ∈ written ++ '\n' :: Writer.entries 0 false entries, IsWritten c :=
      List.forall_mem_append.mpr ⟨form.written, List.forall_mem_cons.mpr ⟨.inl rfl, ih lined.tail⟩⟩
    rw [shape]
    exact List.forall_mem_append.mpr ⟨key, List.forall_mem_cons.mpr
      ⟨.inr (by decide), List.forall_mem_cons.mpr ⟨.inr (by decide), value⟩⟩⟩

theorem IsWritten.printable {c : Char} (written : IsWritten c) : Reader.printableRanges.contains c = true := by
  rw [Text.Ranges.contains, List.any_eq_true]
  rcases written.code with feed | ⟨least, most⟩
  · exact ⟨(0x09, 0x0A), by decide, by simp [feed]⟩
  · exact ⟨(0x20, 0x7E), by decide, by simp [least, most]⟩

theorem finish_end (start : Cursor) (fuel : Nat) (passed : List Char) :
    Reader.finish start fuel ⟨passed, []⟩ = .ok () := by
  have still : Cursor.skip ⟨passed, []⟩ = ⟨passed, []⟩ := Cursor.moveTo_self _
  have noMark : Cursor.atDocumentEnd ⟨passed, []⟩ = false := Bool.and_false _
  rw [Reader.finish, still]
  dsimp only
  rw [noMark]
  rfl

theorem toList_write {entries : Entries} (several : entries ≠ []) :
    (write entries).toList = Writer.entries 0 false entries := by
  rw [write, if_neg (by simpa using several), String.toList_ofList]

/-- What is written is what is read. -/
theorem read_write {entries : Entries} (lined : Lined entries) (several : entries ≠ []) :
    read (write entries) = .ok (.map entries) := by
  have text := toList_write several
  have printable : (write entries).toList.findIdx? (!Reader.printableRanges.contains ·) = none := by
    rw [text, List.findIdx?_eq_none_iff]
    intro c inside
    simp [(lined.written c inside).printable]
  have start : Cursor.skip ⟨[], Writer.entries 0 false entries⟩ = ⟨[], Writer.entries 0 false entries⟩ := by
    rw [Cursor.skip, lined.start.dropFiller]
    exact Cursor.moveTo_self _
  have enough : entries.length + 4 ≤ 4 * (write entries).length + 8 := by
    have shorter := lined.length_le
    rw [← String.length_toList, text]
    omega
  obtain ⟨passed, document⟩ := document_read lined several enough
  have unmarked : ((Writer.entries 0 false entries).head? == some '\ufeff') = false := by
    rw [beq_eq_false_iff_ne]
    intro marked
    have code := (lined.written _ (List.mem_of_head? marked)).code
    exact absurd code (by decide)
  have noDocument : Cursor.atDocumentStart ⟨[], Writer.entries 0 false entries⟩ = false := by
    have inside := lined.start.inside (lined.entries_ne_nil several) []
    simp only [Cursor.atEnd, Bool.or_eq_false_iff] at inside
    exact inside.1.2
  rw [read, printable]
  dsimp only
  simp only [text, unmarked, Bool.false_eq_true, if_false, start, noDocument, Bool.not_false, Bool.true_or,
    document, bind, Except.bind, finish_end]
  rfl

end Subgraph.Yaml
