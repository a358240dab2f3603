import Subgraph.Parameter
import Subgraph.Proofs.Isolation
import Subgraph.Proofs.TypeExpr

namespace Subgraph

namespace Text

/-- A trimmed text does not end with a blank. -/
theorem not_isBlank_getLast {text : List Char} (trimmed : trim text = text) {c : Char}
    (last : text.getLast? = some c) : isBlank c = false := by
  have ends := trimmed_trim text
  rw [trimmed] at ends
  exact ends.2 c last

section Equals

variable {key : List Char} (plain : '=' ∉ key) (value : List Char)

include plain

theorem span_equals : (key ++ '=' :: value).takeWhile (· != '=') = key ∧
    (key ++ '=' :: value).dropWhile (· != '=') = '=' :: value :=
  span_append (fun _ member => by simpa using ne_of_mem_of_not_mem member plain) (by simp)

end Equals

end Text

namespace Parameter

def writeItem (option : String × String) : String :=
  option.1 ++ "=" ++ option.2

/-- Options as one text. -/
def write (options : Registry String) : String :=
  ",".intercalate (options.map writeItem)

/-- Options that a text can carry: known keys, each at most once, with values that have neither commas
nor blanks around them. -/
structure Writable (options : Registry String) : Prop where
  distinct : options.names.Nodup
  known : ∀ name ∈ options.names, name ∈ keys
  noComma : ∀ option ∈ options, ',' ∉ option.2.toList
  trimmed : ∀ option ∈ options, Text.trim option.2.toList = option.2.toList

theorem toList_writeItem (option : String × String) :
    (writeItem option).toList = option.1.toList ++ '=' :: option.2.toList := by
  simp [writeItem]

/-- Keys are words of their own. -/
theorem key_plain : ∀ key ∈ keys, ',' ∉ key.toList ∧ '=' ∉ key.toList ∧ Text.trim key.toList = key.toList ∧
    key.toList.head?.any (!Text.isBlank ·) = true := by
  decide

section Item

variable {option : String × String} (known : option.1 ∈ keys)

include known

theorem trim_writeItem (trimmed : Text.trim option.2.toList = option.2.toList) :
    Text.trim (writeItem option).toList = (writeItem option).toList := by
  obtain ⟨_, _, _, start⟩ := key_plain option.1 known
  rw [toList_writeItem]
  refine Text.trim_eq_self (fun c first => ?_) fun c last => ?_
  · cases key : option.1.toList with
    | nil => simp [key] at start
    | cons d rest =>
      simp only [key, List.cons_append, List.head?_cons, Option.some.injEq] at first start
      simpa [← first] using start
  · rw [List.getLast?_append_cons] at last
    cases value : option.2.toList with
    | nil =>
      rw [value] at last
      cases last
      decide
    | cons d rest =>
      rw [value, List.getLast?_cons_cons, ← value] at last
      exact Text.not_isBlank_getLast trimmed last

theorem readItem_writeItem (trimmed : Text.trim option.2.toList = option.2.toList) :
    readItem (writeItem option).toList = .ok option := by
  obtain ⟨_, noEquals, plain, _⟩ := key_plain option.1 known
  obtain ⟨key, rest⟩ := Text.span_equals noEquals option.2.toList
  rw [readItem, toList_writeItem, key, rest]
  simp [plain, trimmed, known]

theorem comma_not_mem_writeItem (noComma : ',' ∉ option.2.toList) : ',' ∉ (writeItem option).toList := by
  obtain ⟨plain, _⟩ := key_plain option.1 known
  simp [toList_writeItem, plain, noComma]

end Item

theorem Writable.key_mem {options : Registry String} (writable : Writable options) {option : String × String}
    (member : option ∈ options) : option.1 ∈ keys :=
  writable.known _ (List.mem_map_of_mem member)

theorem Writable.tail {option : String × String} {options : Registry String}
    (writable : Writable (option :: options)) : Writable options where
  distinct := (List.nodup_cons.mp writable.distinct).2
  known := fun name member => writable.known name (List.mem_cons_of_mem _ member)
  noComma := fun option member => writable.noComma option (List.mem_cons_of_mem _ member)
  trimmed := fun option member => writable.trimmed option (List.mem_cons_of_mem _ member)

theorem items_write {options : Registry String} (writable : Writable options) :
    items (write options) = options.map fun option => (writeItem option).toList := by
  cases options with
  | nil => decide
  | cons first rest =>
    have apart : ∀ item ∈ (first :: rest).map (fun option => (writeItem option).toList), ',' ∉ item := by
      rintro _ listed
      obtain ⟨option, member, rfl⟩ := List.mem_map.mp listed
      exact comma_not_mem_writeItem (writable.key_mem member) (writable.noComma option member)
    have split : (write (first :: rest)).toList.splitOn ',' =
        (first :: rest).map fun option => (writeItem option).toList := by
      rw [write, String.toList_intercalate, List.map_map]
      exact List.splitOn_intercalate ',' apart (by simp)
    have trimmed : ((first :: rest).map fun option => (writeItem option).toList).map Text.trim =
        (first :: rest).map fun option => (writeItem option).toList := by
      rw [List.map_map]
      exact List.map_congr_left fun option member =>
        trim_writeItem (writable.key_mem member) (writable.trimmed option member)
    rw [items, split, trimmed, List.filter_eq_self]
    rintro _ listed
    obtain ⟨option, _, rfl⟩ := List.mem_map.mp listed
    simp [toList_writeItem]

/-- Options read back one after another. -/
theorem foldlM_writeItem {options known : Registry String} (writable : Writable options)
    (fresh : ∀ name ∈ options.names, name ∉ known.names) :
    (options.map fun option => (writeItem option).toList).foldlM
      (fun values item => (readItem item).map fun (key, value) => values.put key value) known =
        Except.ok (known ++ options) := by
  induction options generalizing known with
  | nil => exact congrArg Except.ok (List.append_nil known).symm
  | cons option rest ih =>
    obtain ⟨new, distinct⟩ := List.nodup_cons.mp writable.distinct
    have first : option.1 ∉ known.names := fresh option.1 (List.mem_cons_self ..)
    have later : ∀ name ∈ Registry.names rest, name ∉ Registry.names (known ++ [option]) := by
      intro name member
      have unknown := fresh name (List.mem_cons_of_mem _ member)
      have other : name ≠ option.1 := ne_of_mem_of_not_mem member new
      simp_all [Registry.names]
    have member : option ∈ option :: rest := List.mem_cons_self ..
    rw [List.map_cons, List.foldlM_cons,
      readItem_writeItem (writable.key_mem member) (writable.trimmed _ member)]
    change List.foldlM _ (known.put option.1 option.2) _ = _
    rw [Registry.put_of_not_mem first, ih writable.tail later, List.append_assoc]
    rfl

theorem parse_write {options : Registry String} (writable : Writable options) :
    parse (write options) = .ok options := by
  rw [parse, items_write writable]
  exact foldlM_writeItem writable (by simp [Registry.names])

end Parameter

end Subgraph
