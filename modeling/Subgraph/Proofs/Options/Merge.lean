import Subgraph.Options
import Subgraph.Proofs.Wire

namespace Subgraph

namespace Proto

/-- Entries that are read one by one come each from one field. -/
theorem exists_of_mem_mapM {read : Wire.Field → Except Fault (List Entry)} {fields : List Wire.Field}
    {parts : List (List Entry)} (mapped : fields.mapM read = .ok parts) {part : List Entry}
    (member : part ∈ parts) : ∃ field ∈ fields, read field = .ok part := by
  induction fields generalizing parts with
  | nil =>
    cases mapped
    cases member
  | cons field fields ih =>
    rw [List.mapM_cons] at mapped
    cases first : read field with
    | error fault =>
      rw [first] at mapped
      cases mapped
    | ok here =>
      cases others : fields.mapM read with
      | error fault =>
        rw [first, others] at mapped
        cases mapped
      | ok later =>
        rw [first, others] at mapped
        cases mapped
        rcases List.mem_cons.mp member with rfl | below
        · exact ⟨field, List.mem_cons_self, first⟩
        · obtain ⟨source, listed, found⟩ := ih others below
          exact ⟨source, List.mem_cons_of_mem _ listed, found⟩

theorem mem_unknownFields {field : Wire.Field} {entries : List Entry} :
    field ∈ unknownFields entries ↔ .unknown field ∈ entries := by
  rw [unknownFields, List.mem_filterMap]
  constructor
  · rintro ⟨entry, member, same⟩
    cases entry <;> cases same
    exact member
  · intro member
    exact ⟨_, member, rfl⟩

def Entry.number : Entry → Nat
  | integer number _ | text number _ | part number _ => number
  | unknown field => field.number

theorem number_chosen (number first last value : Nat) : (chosen number first last value).number = number := by
  unfold chosen
  dsimp only
  split <;> rfl

/-- Whatever a field holds, its entries have its number. -/
theorem number_of_readEntry {part : MessageType → List UInt8 → Except Fault (List Entry)} {type : MessageType}
    {field : Wire.Field} {entries : List Entry} (read : readEntry part type field = .ok entries) :
    ∀ entry ∈ entries, entry.number = field.number := by
  have single {only : Entry} (numbered : only.number = field.number) :
      ∀ entry ∈ [only], entry.number = field.number := List.forall_mem_singleton.mpr numbered
  have mapped {make : Nat → Entry} (values : List Nat) (numbered : ∀ value, (make value).number = field.number) :
      ∀ entry ∈ values.map make, entry.number = field.number :=
    List.forall_mem_map.mpr fun value _ => numbered value
  unfold readEntry at read
  split at read
  case h_1 | h_2 | h_7 | h_8 | h_10 =>
    cases read
    exact single rfl
  case h_3 | h_4 =>
    cases read
    exact single (number_chosen ..)
  case h_5 =>
    split at read <;> cases read
    exact mapped _ fun _ => rfl
  case h_6 =>
    split at read <;> cases read
    exact mapped _ fun _ => number_chosen ..
  case h_9 inner content _ _ =>
    cases found : part inner content with
    | error fault =>
      rw [found] at read
      cases read
    | ok below =>
      rw [found] at read
      cases read
      exact single rfl

end Proto

namespace OptionSet

open Proto (MessageType)

/-- The number occurs among the options. -/
def Gives (options : OptionSet) (number : Nat) : Prop :=
  ∃ field ∈ options.fields, field.number = number

/-- Looking the number up comes to the same in both sets: whether it is given, as a truth value and as a
text, with the same faults. -/
structure Agree (number : Nat) (first second : OptionSet) : Prop where
  has : first.has number = second.has number
  bool : first.bool? number = second.bool? number
  text : first.text? number = second.text? number

/-- All lookups are made through the last payload of a number. -/
theorem agree_of_last? {number : Nat} {first second : OptionSet}
    (same : first.last? number = second.last? number) : Agree number first second where
  has := by rw [has, has, same]
  bool := by rw [bool?, bool?, same]
  text := by rw [text?, text?, same]

theorem last?_eq_none {options : OptionSet} {number : Nat} :
    options.last? number = none ↔ ¬options.Gives number := by
  rw [last?, Option.map_eq_none_iff, List.find?_eq_none, Gives]
  simp

/-- What is given later counts before what was given first. -/
theorem last?_append (first second : List Wire.Field) (number : Nat) :
    last? ⟨first ++ second⟩ number = (last? ⟨second⟩ number).or (last? ⟨first⟩ number) := by
  rw [last?, List.reverse_append, List.find?_append, Option.map_or]
  rfl

theorem decode_eq_ok {type : MessageType} {bytes : List UInt8} {options : OptionSet} :
    decode type bytes = .ok options ↔
      ∃ entries, Proto.decode type bytes = .ok entries ∧ ofEntries entries = options := by
  rw [decode]
  cases Proto.decode type bytes with
  | error fault =>
    constructor
    · intro read
      cases read
    · rintro ⟨entries, read, -⟩
      cases read
  | ok entries =>
    constructor
    · intro read
      exact ⟨entries, rfl, Except.ok.inj read⟩
    · rintro ⟨others, same, rfl⟩
      cases same
      rfl

/-- Options after options are read as the options of both, in order. -/
theorem decode_append {type : MessageType} {a b : List UInt8} {first second : OptionSet}
    (front : decode type a = .ok first) (back : decode type b = .ok second) :
    decode type (a ++ b) = .ok ⟨first.fields ++ second.fields⟩ := by
  obtain ⟨entries, read, rfl⟩ := decode_eq_ok.mp front
  obtain ⟨more, read_too, rfl⟩ := decode_eq_ok.mp back
  refine decode_eq_ok.mpr ⟨entries ++ more, Proto.decode_append read read_too, ?_⟩
  rw [ofEntries, Proto.unknownFields_append]
  rfl

theorem decode_nil (type : MessageType) : decode type [] = .ok ⟨[]⟩ := by
  have empty : Wire.content Proto.maxDepth [] = ⟨[], true⟩ := by rw [Wire.content]; rfl
  refine decode_eq_ok.mpr ⟨[], Proto.decodeAt_eq_ok.mpr ?_, rfl⟩
  rw [empty]
  exact ⟨rfl, [], rfl, rfl⟩

/-- The message knows the field by its number and its form, and leaves nothing of it unknown. -/
def Known (type : MessageType) (field : Wire.Field) : Prop :=
  ∀ entries, Proto.readEntry (Proto.readPart Proto.maxDepth) type field = .ok entries →
    Proto.unknownFields entries = []

/-- An option that is given stands on the wire under its number, in a field that the message does not know. -/
theorem Gives.exists_field {type : MessageType} {bytes : List UInt8} {options : OptionSet} {number : Nat}
    (given : options.Gives number) (read : decode type bytes = .ok options) :
    ∃ field ∈ (Wire.content Proto.maxDepth bytes).fields, field.number = number ∧ ¬Known type field := by
  obtain ⟨entries, decoded, rfl⟩ := decode_eq_ok.mp read
  obtain ⟨-, parts, mapped, rfl⟩ := Proto.decodeAt_eq_ok.mp decoded
  obtain ⟨unknown, member, rfl⟩ := given
  obtain ⟨part, listed, inside⟩ := List.mem_flatten.mp (Proto.mem_unknownFields.mp member)
  obtain ⟨field, on_wire, entered⟩ := Proto.exists_of_mem_mapM mapped listed
  refine ⟨field, on_wire, (Proto.number_of_readEntry entered _ inside).symm, fun known => ?_⟩
  have left : unknown ∈ Proto.unknownFields part := Proto.mem_unknownFields.mpr inside
  rw [known part entered] at left
  cases left

/-- Both encodings have the same pieces in the same order, but for further ones in between of which each
field has another number or is known to the message. -/
inductive Interspersed (type : MessageType) (number : Nat) : (bytes mixed : List UInt8) → Prop
  | nil : Interspersed type number [] []
  | shared {piece bytes mixed : List UInt8} {options : OptionSet} (readable : decode type piece = .ok options)
      (others : Interspersed type number bytes mixed) :
      Interspersed type number (piece ++ bytes) (piece ++ mixed)
  | further {piece bytes mixed : List UInt8} {options : OptionSet} (readable : decode type piece = .ok options)
      (beside : ∀ field ∈ (Wire.content Proto.maxDepth piece).fields, field.number ≠ number ∨ Known type field)
      (others : Interspersed type number bytes mixed) : Interspersed type number bytes (piece ++ mixed)

/-- What stands in between takes no part in looking the number up. -/
theorem Interspersed.last?_eq {type : MessageType} {number : Nat} {bytes mixed : List UInt8}
    (interspersed : Interspersed type number bytes mixed) :
    ∃ plain rich, decode type bytes = .ok plain ∧ decode type mixed = .ok rich ∧
      rich.last? number = plain.last? number := by
  induction interspersed with
  | nil => exact ⟨_, _, decode_nil type, decode_nil type, rfl⟩
  | shared readable _ ih =>
    obtain ⟨plain, rich, read, read_too, same⟩ := ih
    refine ⟨_, _, decode_append readable read, decode_append readable read_too, ?_⟩
    rw [last?_append, last?_append, same]
  | further readable beside _ ih =>
    obtain ⟨plain, rich, read, read_too, same⟩ := ih
    refine ⟨_, _, read, decode_append readable read_too, ?_⟩
    have silent : last? _ number = none := last?_eq_none.mpr fun given => by
      obtain ⟨field, on_wire, numbered, unknown⟩ := given.exists_field readable
      exact (beside field on_wire).elim (· numbered) unknown
    rw [last?_append, silent, Option.or_none, same]

/-- Of options in two encodings one after another, those of the second count, and those of the first where
the second does not give the number. Fields of other numbers and known fields make no difference, wherever
they stand. -/
theorem lookups_right_biased (type : MessageType) (number : Nat) :
    (∀ a b first second, decode type a = .ok first → decode type b = .ok second →
      ∃ merged, decode type (a ++ b) = .ok merged ∧
        (second.Gives number → Agree number merged second) ∧
          (¬second.Gives number → Agree number merged first)) ∧
      ∀ bytes mixed, Interspersed type number bytes mixed →
        ∃ plain rich, decode type bytes = .ok plain ∧ decode type mixed = .ok rich ∧ Agree number rich plain := by
  constructor
  · intro a b first second front back
    refine ⟨_, decode_append front back, fun given => agree_of_last? ?_, fun absent => agree_of_last? ?_⟩
    · obtain ⟨payload, found⟩ := Option.ne_none_iff_exists'.mp (mt last?_eq_none.mp (not_not.mpr given))
      rw [last?_append, found, Option.some_or]
    · rw [last?_append, last?_eq_none.mpr absent, Option.none_or]
  · intro bytes mixed interspersed
    obtain ⟨plain, rich, read, read_too, same⟩ := interspersed.last?_eq
    exact ⟨plain, rich, read, read_too, agree_of_last? same⟩

/-- Option 50001 as a truth value in a longer form than needed. -/
def keyTruth : List UInt8 := [0x88, 0xb5, 0x18, 0x81, 0x00]

/-- Option 50001 as a text. -/
def keyText : List UInt8 := [0x8a, 0xb5, 0x18, 0x02, 0x6e, 0x6f]

/-- A text under number 3, where field options know a truth value. -/
def misplacedText : List UInt8 := [0x1a, 0x02, 0x6e, 0x6f]

/-- The truth value under number 3, then option 50002 as a group around a field with number 3. -/
def besides : List UInt8 := [0x18, 0x01, 0x93, 0xb5, 0x18, 0x18, 0x00, 0x94, 0xb5, 0x18]

theorem lookups_right_biased_key :
    (∃ merged, decode .fieldOptions (keyTruth ++ keyText) = .ok merged ∧
        merged.bool? 50001 = .error ⟨50001, .notVarint 2⟩ ∧ merged.text? 50001 = .ok (some "no")) ∧
      ∃ rich, decode .fieldOptions (besides ++ (misplacedText ++ (besides ++ []))) = .ok rich ∧
        rich.text? 3 = .ok (some "no") := by
  constructor
  · have truth : decode .fieldOptions keyTruth = .ok ⟨[⟨50001, .varint 1⟩]⟩ := by with_unfolding_all rfl
    have text : decode .fieldOptions keyText = .ok ⟨[⟨50001, .bytes [0x6e, 0x6f]⟩]⟩ := by with_unfolding_all rfl
    obtain ⟨merged, read, later, -⟩ := (lookups_right_biased .fieldOptions 50001).1 _ _ _ _ truth text
    have agree := later ⟨_, List.mem_singleton_self _, rfl⟩
    exact ⟨merged, read, agree.bool.trans rfl, agree.text.trans (by decide +kernel)⟩
  · have text : decode .fieldOptions misplacedText = .ok ⟨[⟨3, .bytes [0x6e, 0x6f]⟩]⟩ := by with_unfolding_all rfl
    have group : decode .fieldOptions besides = .ok ⟨[⟨50002, .group⟩]⟩ := by with_unfolding_all rfl
    have fields : (Wire.content Proto.maxDepth besides).fields = [⟨3, .varint 1⟩, ⟨50002, .group⟩] := by
      with_unfolding_all rfl
    have beside : ∀ field ∈ (Wire.content Proto.maxDepth besides).fields,
        field.number ≠ 3 ∨ Known .fieldOptions field := by
      rw [fields]
      refine List.forall_mem_cons.mpr
        ⟨.inr fun entries read => ?_, List.forall_mem_singleton.mpr (.inl (by decide))⟩
      cases read
      rfl
    obtain ⟨plain, rich, read, read_too, agree⟩ := (lookups_right_biased .fieldOptions 3).2 _ _
      (.further group beside (.shared text (.further group beside .nil)))
    rw [List.append_nil, text] at read
    cases read
    exact ⟨rich, read_too, agree.text.trans (by decide +kernel)⟩

end OptionSet

end Subgraph
