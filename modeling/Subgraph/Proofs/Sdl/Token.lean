import Subgraph.Proofs.Sdl.Literal
import Subgraph.Proofs.Trim

namespace Subgraph.Sdl

open Words

/-- Both kinds of strings are given by the text that they stand for. Numbers do not occur in a schema
document, so a text with numbers is not read. -/
inductive Token where
  | mark (sign : Char)
  | name (text : String)
  | text (value : String)
  deriving DecidableEq, Repr

/-- Blanks, line ends, commas and the byte order mark stand between tokens. -/
def isIgnored (c : Char) : Bool :=
  isSpace c || isLineEnd c || c == ',' || c == '\uFEFF'

def marks : List Char :=
  ['!', '$', '&', '(', ')', ':', '=', '@', '[', ']', '\x7b', '|', '\x7d']

def isNameStart (c : Char) : Bool :=
  isNameChar c && !c.isDigit

/-- The tokens of a text, each as long as it can be. A number sign hides the rest of its line. -/
def scan (text : List Char) : Option (List Token) :=
  match text with
  | [] => some []
  | '"' :: '"' :: '"' :: rest =>
    match _read : readBlock rest with
    | some (content, rest) => (scan rest).map (.text (String.ofList (blockValue content)) :: ·)
    | none => none
  | '"' :: rest =>
    match _read : readText rest with
    | some (value, rest) => (scan rest).map (.text (String.ofList value) :: ·)
    | none => none
  | c :: rest =>
    if isIgnored c then scan rest
    else if c = '#' then scan (rest.dropWhile (!isLineEnd ·))
    else if marks.contains c then (scan rest).map (.mark c :: ·)
    else if isNameStart c then
      (scan (rest.dropWhile isNameChar)).map
        (.name (String.ofList (c :: rest.takeWhile isNameChar)) :: ·)
    else none
termination_by text.length
decreasing_by
  · have shorter := length_readBlock_lt (by assumption)
    simp only [List.length_cons]
    omega
  · exact Nat.lt_succ_of_lt (length_readText_lt (by assumption))
  · exact Nat.lt_succ_self _
  · exact Nat.lt_succ_of_le (Text.length_dropWhile_le ..)
  · exact Nat.lt_succ_self _
  · exact Nat.lt_succ_of_le (Text.length_dropWhile_le ..)

theorem scan_block {text content rest : List Char} (read : readBlock text = some (content, rest)) :
    scan ('"' :: '"' :: '"' :: text) =
      (scan rest).map (.text (String.ofList (blockValue content)) :: ·) := by
  rw [scan]
  split
  · rename_i found
    rw [read] at found
    cases Option.some.inj found
    rfl
  · rename_i missing
    rw [read] at missing
    cases missing

theorem scan_text {text value rest : List Char} (single : ∀ more, text ≠ '"' :: '"' :: more)
    (read : readText text = some (value, rest)) :
    scan ('"' :: text) = (scan rest).map (.text (String.ofList value) :: ·) := by
  rw [scan]
  · split
    · rename_i found
      rw [read] at found
      cases Option.some.inj found
      rfl
    · rename_i missing
      rw [read] at missing
      cases missing
  · exact single

/-- The rules for all characters but quotes. -/
theorem scan_char {c : Char} (unquoted : c ≠ '"') (rest : List Char) :
    scan (c :: rest) =
      if isIgnored c then scan rest
      else if c = '#' then scan (rest.dropWhile (!isLineEnd ·))
      else if marks.contains c then (scan rest).map (.mark c :: ·)
      else if isNameStart c then
        (scan (rest.dropWhile isNameChar)).map
          (.name (String.ofList (c :: rest.takeWhile isNameChar)) :: ·)
      else none := by
  rw [scan]
  · exact fun _ same _ => unquoted same
  · exact unquoted

/-- A name is one token up to a character that cannot be part of it. -/
theorem scan_name {name rest : List Char} (named : IsName name)
    (boundary : ∀ c, rest.head? = some c → isNameChar c = false) :
    scan (name ++ rest) = (scan rest).map (.name (String.ofList name) :: ·) := by
  obtain ⟨nonempty, start, allowed⟩ := named
  obtain ⟨first, others, rfl⟩ := List.exists_cons_of_ne_nil nonempty
  have starts := allowed first List.mem_cons_self
  have inside : ∀ c ∈ others, isNameChar c = true := fun c member =>
    allowed c (List.mem_cons_of_mem _ member)
  have plain := forall_isNameChar
    (fun c => c ≠ '"' ∧ isIgnored c = false ∧ c ≠ '#' ∧ marks.contains c = false) (by decide +kernel) starts
  obtain ⟨unquoted, counted, visible, unmarked⟩ := plain
  have begins : isNameStart first = true := by simp [isNameStart, starts, start first rfl]
  obtain ⟨taken, left⟩ := Text.span_append inside boundary
  rw [List.cons_append, scan_char unquoted, if_neg (by simp [counted]), if_neg visible,
    if_neg (by rw [unmarked]; decide), if_pos begins, taken, left]

/-- The text has no line ends. -/
def SingleLine (text : String) : Prop :=
  ∀ c ∈ text.toList, isLineEnd c = false

instance (text : String) : Decidable (SingleLine text) :=
  decidable_of_iff (text.toList.all (!isLineEnd ·) = true) (by simp [SingleLine])

/-- The text makes these tokens, whatever follows it. -/
def Scans (text : String) (tokens : List Token) : Prop :=
  ∀ rest, scan (text.toList ++ rest) = (scan rest).map (tokens ++ ·)

/-- The text begins with a character that ends a name. -/
def endsName (text : String) : Bool :=
  text.toList.head?.any (!isNameChar ·)

theorem endsName_append {text : String} (ends : endsName text = true) (more : String) :
    endsName (text ++ more) = true := by
  obtain ⟨c, first, _⟩ := (Option.any_eq_true ..).mp ends
  have nonempty : text.toList ≠ [] := fun empty => by simp [empty] at first
  rwa [endsName, String.toList_append, List.head?_append_of_ne_nil _ nonempty]

/-- The text ends a name and consists of these marks, with nothing but ignored characters between
them. -/
def Signs (text : String) (found : List Token) : Prop :=
  endsName text = true ∧ text.toList.all (fun c => isIgnored c || marks.contains c) = true ∧
    (text.toList.filter marks.contains).map .mark = found

instance (text : String) (found : List Token) : Decidable (Signs text found) :=
  inferInstanceAs (Decidable (_ ∧ _ ∧ _))

namespace Scans

theorem empty : Scans "" [] := fun rest => by simp

theorem append {first second : String} {tokens more : List Token} (head : Scans first tokens)
    (tail : Scans second more) : Scans (first ++ second) (tokens ++ more) := by
  intro rest
  rw [String.toList_append, List.append_assoc, head, tail, Option.map_map]
  simp [Function.comp_def]

theorem join {α : Type} {print : α → String} {tokens : α → List Token} {items : List α}
    (each : ∀ item ∈ items, Scans (print item) (tokens item)) :
    Scans (String.join (items.map print)) (items.flatMap tokens) := by
  induction items with
  | nil => exact empty
  | cons item items ih =>
    rw [List.map_cons, String.join_cons, List.flatMap_cons]
    exact (each item List.mem_cons_self).append (ih fun i later => each i (List.mem_cons_of_mem _ later))

/-- Marks count, whatever stands between them does not. -/
theorem punctuation {text : String}
    (each : text.toList.all (fun c => isIgnored c || marks.contains c) = true) :
    Scans text ((text.toList.filter marks.contains).map .mark) := by
  have apart : marks.all (fun sign => sign != '"' && !isIgnored sign && sign != '#') = true := by decide
  simp only [List.all_eq_true, Bool.and_eq_true, bne_iff_ne, Bool.not_eq_true'] at apart
  simp only [List.all_eq_true, Bool.or_eq_true, List.contains_iff_mem] at each
  intro rest
  generalize text.toList = text at each
  induction text with
  | nil => simp
  | cons c text ih =>
    have others := ih fun d later => each d (List.mem_cons_of_mem _ later)
    rcases each c List.mem_cons_self with skip | known
    · have unquoted : c ≠ '"' := by
        rintro rfl
        exact absurd skip (by decide)
      have unmarked : c ∉ marks := fun known => by simp [(apart c known).1.2] at skip
      rw [List.cons_append, scan_char unquoted, if_pos skip, others]
      simp [unmarked]
    · obtain ⟨⟨unquoted, counted⟩, visible⟩ := apart c known
      rw [List.cons_append, scan_char unquoted, if_neg (by simp [counted]), if_neg visible,
        if_pos (by simpa using known), others, Option.map_map]
      simp [known, Function.comp_def]

theorem signs {text : String} {found : List Token} (signs : Signs text found) : Scans text found :=
  signs.2.2 ▸ punctuation signs.2.1

/-- A comment ends with its line. -/
theorem comment {label text : String} (marked : label.toList.head? = some '#') (short : SingleLine label)
    (single : SingleLine text) : Scans (label ++ text ++ "\n") [] := by
  intro rest
  obtain ⟨chars, begins⟩ := List.head?_eq_some_iff.mp marked
  have inside : ∀ c ∈ chars ++ text.toList, (!isLineEnd c) = true := fun c member => by
    have early (front : c ∈ chars) : isLineEnd c = false := short c (begins ▸ List.mem_cons_of_mem _ front)
    rw [(List.mem_append.mp member).elim early (single c)]
    rfl
  have hidden : (chars ++ text.toList ++ '\n' :: rest).dropWhile (!isLineEnd ·) = '\n' :: rest := by
    rw [List.dropWhile_append_of_pos inside]
    rfl
  have line_end : Scans "\n" [] := signs (by decide)
  have shape : (label ++ text ++ "\n").toList ++ rest = '#' :: (chars ++ text.toList ++ '\n' :: rest) := by
    simp [begins]
  rw [shape, scan_char (by decide), if_neg (by decide), if_pos rfl, hidden]
  exact line_end rest

/-- A name ends before a character that cannot be part of it. -/
theorem name {name after : String} {tokens : List Token} (named : IsName name.toList)
    (ends : endsName after = true) (later : Scans after tokens) :
    Scans (name ++ after) (.name name :: tokens) := by
  intro rest
  obtain ⟨stop, first, barred⟩ := (Option.any_eq_true ..).mp ends
  obtain ⟨tail, shape⟩ := List.head?_eq_some_iff.mp first
  have boundary : ∀ c, (after.toList ++ rest).head? = some c → isNameChar c = false := by
    rintro c front
    rw [shape, List.cons_append, List.head?_cons, Option.some.injEq] at front
    simpa [front] using barred
  rw [String.toList_append, List.append_assoc, scan_name named boundary, later, Option.map_map,
    String.ofList_toList]
  rfl

/-- A literal is one token. An empty one might be taken for the start of a block string. -/
theorem quoted {text : String} (nonempty : text ≠ "") : Scans (quote text) [.text text] := by
  intro rest
  have read := readText_quote text.toList rest
  have single : ∀ more, text.toList.flatMap escape ++ '"' :: rest ≠ '"' :: '"' :: more := by
    intro more same
    rw [same, readText] at read
    have empty : [] = text.toList := (Prod.mk.inj (Option.some.inj read)).1
    exact nonempty (String.toList_eq_nil_iff.mp empty.symm)
  have shape : (quote text).toList ++ rest = '"' :: (text.toList.flatMap escape ++ '"' :: rest) := by
    simp [quote, Text.onChars]
  rw [shape, scan_text single read, String.ofList_toList]
  rfl

end Scans

end Subgraph.Sdl
