import Subgraph.Proofs.Names
import Subgraph.Proofs.Parameter

namespace Subgraph

namespace Text

/-- A character that is no blank shields what stands before it from the end. -/
theorem dropEndWhile_append_cons {p : Char → Bool} {c : Char} (stop : p c = false) (front rest : List Char) :
    dropEndWhile p (front ++ c :: rest) = front ++ c :: dropEndWhile p rest := by
  have back : (rest.reverse ++ c :: front.reverse).dropWhile p =
      rest.reverse.dropWhile p ++ c :: front.reverse := by
    rw [List.dropWhile_append]
    split
    · rename_i empty
      rw [List.isEmpty_iff.mp empty, List.dropWhile_cons_of_neg (by simp [stop]), List.nil_append]
    · rfl
  simp [dropEndWhile, back]

theorem trim_dropEndWhile (text : List Char) : trim (dropEndWhile isBlank text) = trim text := by
  have whole : text = dropEndWhile isBlank text ++ text.rtakeWhile isBlank :=
    List.rdropWhile_append_rtakeWhile.symm
  conv_rhs => rw [whole]
  exact (trim_append_right _ fun c member => List.mem_rtakeWhile_imp member).symm

end Text

namespace Parameter

/-- What the items of a text say, one after another. -/
def entries (text : String) : Except Fault (Registry String) :=
  (items text).mapM readItem

theorem foldlM_readItem (known : Registry String) (texts : List (List Char)) :
    texts.foldlM (fun values item => (readItem item).map fun (key, value) => values.put key value) known =
      (texts.mapM readItem).map known.update := by
  induction texts generalizing known with
  | nil => rfl
  | cons text texts ih =>
    rw [List.foldlM_cons, List.mapM_cons]
    cases readItem text with
    | error fault => rfl
    | ok option =>
      change texts.foldlM _ (known.put option.1 option.2) = _
      rw [ih]
      cases texts.mapM readItem <;> rfl

/-- All items are read before any value counts. -/
theorem parse_eq (text : String) : parse text = (entries text).map (Registry.update []) :=
  foldlM_readItem [] (items text)

theorem items_append (first second : String) : items (first ++ "," ++ second) = items first ++ items second := by
  have split : (first ++ "," ++ second).toList.splitOn ',' =
      first.toList.splitOn ',' ++ second.toList.splitOn ',' := by
    have whole : (first ++ "," ++ second).toList = first.toList ++ ',' :: second.toList := by simp
    rw [whole, List.splitOn_eq_splitOnP]
    exact List.splitOnP_append_cons _ _ (by simp)
  rw [items, split, List.map_append, List.filter_append]
  rfl

/-- Of two texts in a row the first one is read first, and the second one counts where both say something. -/
theorem parse_append (first second : String) :
    parse (first ++ "," ++ second) = do
      let known ← parse first
      let more ← parse second
      return known.update more := by
  rw [parse_eq, parse_eq, parse_eq, entries, items_append, List.mapM_append]
  change (do let front ← entries first; let back ← entries second; return front ++ back).map _ = _
  cases entries first with
  | error fault => rfl
  | ok front =>
    cases entries second with
    | error fault => rfl
    | ok back =>
      have joined : Registry.update [] (front ++ back) =
          (Registry.update [] front).update (Registry.update [] back) := by
        rw [Registry.update_append, Registry.update_update_nil]
      exact congrArg Except.ok joined

def Blanks (text : List Char) : Prop :=
  ∀ c ∈ text, Text.isBlank c = true

/-- An option as it may be written, with blanks around its key and around its value. -/
inductive Item (option : String × String) : List Char → Prop
  | spaced {before after ahead behind : List Char} (blankBefore : Blanks before) (blankAfter : Blanks after)
      (blankAhead : Blanks ahead) (blankBehind : Blanks behind) :
    Item option (before ++ (option.1.toList ++ after ++ '=' :: (ahead ++ option.2.toList ++ behind)))

/-- Options as they may be written one after another, with blank items among them. -/
inductive Spelled : List (String × String) → List (List Char) → Prop
  | nil : Spelled [] []
  | blank {options : List (String × String)} {texts : List (List Char)} {text : List Char} (blank : Blanks text)
      (rest : Spelled options texts) : Spelled options (text :: texts)
  | item {option : String × String} {options : List (String × String)} {texts : List (List Char)}
      {text : List Char} (item : Item option text) (rest : Spelled options texts) :
    Spelled (option :: options) (text :: texts)

/-- Options that a text can carry, with any number of values for a key. A value may be empty, and it may have
equals signs. -/
def Carried (options : List (String × String)) : Prop :=
  ∀ option ∈ options, option.1 ∈ keys ∧ ',' ∉ option.2.toList ∧ Text.trim option.2.toList = option.2.toList

theorem Blanks.not_mem {text : List Char} (blank : Blanks text) {c : Char} (solid : Text.isBlank c = false) :
    c ∉ text := by
  intro member
  rw [blank c member] at solid
  cases solid

theorem Item.comma_not_mem {option : String × String} {text : List Char} (item : Item option text)
    (known : option.1 ∈ keys) (noComma : ',' ∉ option.2.toList) : ',' ∉ text := by
  obtain ⟨plain, _⟩ := key_plain option.1 known
  have solid : Text.isBlank ',' = false := by decide
  obtain ⟨blankBefore, blankAfter, blankAhead, blankBehind⟩ := item
  simp [blankBefore.not_mem solid, blankAfter.not_mem solid, blankAhead.not_mem solid, blankBehind.not_mem solid,
    plain, noComma]

/-- What is left of an item without the blanks around it is read as the option. -/
theorem Item.readItem_trim {option : String × String} {text : List Char} (item : Item option text)
    (known : option.1 ∈ keys) (trimmed : Text.trim option.2.toList = option.2.toList) :
    readItem (Text.trim text) = .ok option := by
  obtain ⟨_, noEquals, plain, start⟩ := key_plain option.1 known
  have equals : Text.isBlank '=' = false := by decide
  obtain @⟨before, after, ahead, behind, blankBefore, blankAfter, blankAhead, blankBehind⟩ := item
  have kept : Text.trim (option.1.toList ++ after ++ '=' :: (ahead ++ option.2.toList ++ behind)) =
      option.1.toList ++ after ++ '=' :: Text.dropEndWhile Text.isBlank (ahead ++ option.2.toList ++ behind) := by
    cases key : option.1.toList with
    | nil => simp [key] at start
    | cons c rest =>
      have solid : Text.isBlank c = false := by simpa [key] using start
      rw [Text.trim, List.cons_append, List.cons_append, Text.dropEnds_cons solid,
        Text.dropEndWhile_append_cons equals]
      rfl
  have apart : '=' ∉ option.1.toList ++ after := by simp [noEquals, blankAfter.not_mem equals]
  obtain ⟨front, back⟩ := Text.span_equals apart
    (Text.dropEndWhile Text.isBlank (ahead ++ option.2.toList ++ behind))
  have key : Text.trim (option.1.toList ++ after) = option.1.toList := by
    rw [Text.trim_append_right _ blankAfter, plain]
  have value : Text.trim (Text.dropEndWhile Text.isBlank (ahead ++ option.2.toList ++ behind)) =
      option.2.toList := by
    rw [Text.trim_dropEndWhile, Text.trim_append_right _ blankBehind, Text.trim_append_left blankAhead, trimmed]
  rw [Text.trim_append_left blankBefore, kept, readItem, front, back]
  dsimp only
  rw [key, value, String.ofList_toList, String.ofList_toList, if_pos (by simpa using known)]

/-- Blank items leave nothing, and every other one its option. -/
theorem Spelled.mapM_readItem {options : List (String × String)} {texts : List (List Char)}
    (spelled : Spelled options texts) (carried : Carried options) :
    ((texts.map Text.trim).filter (!·.isEmpty)).mapM readItem = .ok options := by
  induction spelled with
  | nil => rfl
  | blank blank rest ih =>
    have gone : Text.trim _ = [] := Text.dropEnds_eq_nil.mpr blank
    rw [List.map_cons, gone, List.filter_cons_of_neg (by simp)]
    exact ih carried
  | @item option options texts text item rest ih =>
    obtain ⟨⟨known, noComma, trimmed⟩, others⟩ := List.forall_mem_cons.mp carried
    have read := item.readItem_trim known trimmed
    have filled : Text.trim text ≠ [] := by
      intro empty
      rw [empty] at read
      cases read
    rw [List.map_cons, List.filter_cons_of_pos (by simpa using filled), List.mapM_cons, read, ih others]
    rfl

theorem Spelled.comma_not_mem {options : List (String × String)} {texts : List (List Char)}
    (spelled : Spelled options texts) (carried : Carried options) : ∀ text ∈ texts, ',' ∉ text := by
  have solid : Text.isBlank ',' = false := by decide
  induction spelled with
  | nil => exact nofun
  | blank blank rest ih => exact List.forall_mem_cons.mpr ⟨blank.not_mem solid, ih carried⟩
  | item item rest ih =>
    obtain ⟨⟨known, noComma, _⟩, others⟩ := List.forall_mem_cons.mp carried
    exact List.forall_mem_cons.mpr ⟨item.comma_not_mem known noComma, ih others⟩

/-- A text that spells options is read as what these come to one after another. -/
theorem Spelled.parse_eq {options : List (String × String)} {texts : List (List Char)}
    (spelled : Spelled options texts) (carried : Carried options) :
    parse (String.ofList ([','].intercalate texts)) = .ok (Registry.update [] options) := by
  have read : entries (String.ofList ([','].intercalate texts)) = .ok options := by
    rw [entries, items, String.toList_ofList]
    cases texts with
    | nil =>
      cases spelled
      rfl
    | cons text texts =>
      rw [List.splitOn_intercalate ',' (spelled.comma_not_mem carried) (by simp)]
      exact spelled.mapM_readItem carried
  rw [Parameter.parse_eq, read]
  rfl

/-- Options are read from left to right. Of two texts in a row, the first one fails first and the second one
counts where both say something. However options are spelled, each key is left with the last value that was
given for it. -/
theorem parse_folds :
    (∀ first second : String, parse (first ++ "," ++ second) = do
        let known ← parse first
        let more ← parse second
        return known.update more) ∧
      ∀ options texts, Spelled options texts → Carried options →
        ∃ values : Registry String, parse (String.ofList ([','].intercalate texts)) = .ok values ∧
          values.names.Nodup ∧ ∀ key, values.get? key = options.reverse.lookup key := by
  refine ⟨parse_append, fun options texts spelled carried => ?_⟩
  refine ⟨_, spelled.parse_eq carried, ?_, fun key => ?_⟩
  · apply Registry.nodup_names_update
    exact List.nodup_nil
  · exact (Registry.get?_update [] options key).trans Option.or_none

theorem parse_folds_repeated :
    Spelled [("template_path", "a=b"), ("log_level", ""), ("log_level", "debug")]
        [" template_path = a=b\t".toList, " ".toList, "log_level=".toList, "log_level=\u3000debug".toList] ∧
      Carried [("template_path", "a=b"), ("log_level", ""), ("log_level", "debug")] ∧
      ∃ values : Registry String,
        parse " template_path = a=b\t, ,log_level=,log_level=\u3000debug" = .ok values ∧
          values.get? "template_path" = some "a=b" ∧ values.get? "log_level" = some "debug" := by
  have none : Blanks [] := nofun
  have space : Blanks [' '] := List.forall_mem_singleton.mpr (by decide)
  have tab : Blanks ['\t'] := List.forall_mem_singleton.mpr (by decide)
  have wide : Blanks ['\u3000'] := List.forall_mem_singleton.mpr (by decide)
  have spelled : Spelled [("template_path", "a=b"), ("log_level", ""), ("log_level", "debug")]
      [" template_path = a=b\t".toList, " ".toList, "log_level=".toList, "log_level=\u3000debug".toList] :=
    .item (.spaced space space space tab) (.blank space (.item (.spaced none none none none)
      (.item (.spaced none none wide none) .nil)))
  have carried : Carried [("template_path", "a=b"), ("log_level", ""), ("log_level", "debug")] := by
    simp only [Carried, List.forall_mem_cons]
    decide
  obtain ⟨values, parsed, -, last⟩ := parse_folds.2 _ _ spelled carried
  exact ⟨spelled, carried, values, parsed, last "template_path", last "log_level"⟩

end Parameter

end Subgraph
