import Mathlib.Data.List.Basic
import Subgraph.Proto.Decoded

namespace Subgraph

namespace Wire

/-- What is read does not depend on the bytes that are left. -/
structure Local {α : Type} (read : List UInt8 → Option (α × List UInt8)) : Prop where
  append : ∀ {bytes value rest}, read bytes = some (value, rest) →
    ∀ more, read (bytes ++ more) = some (value, rest ++ more)

namespace Local

variable {α β : Type} {read : List UInt8 → Option (α × List UInt8)}

theorem map (reads : Local read) (image : α → β) :
    Local fun bytes => (read bytes).map fun found => (image found.1, found.2) := by
  refine ⟨fun {bytes value rest} found more => ?_⟩
  obtain ⟨⟨first, left⟩, front, same⟩ := Option.map_eq_some_iff.mp found
  cases same
  simp only [reads.append front more, Option.map_some]

theorem filter (reads : Local read) (keep : α → Bool) :
    Local fun bytes => (read bytes).filter fun found => keep found.1 := by
  refine ⟨fun {bytes value rest} found more => ?_⟩
  obtain ⟨front, kept⟩ := Option.filter_eq_some_iff.mp found
  exact Option.filter_eq_some_iff.mpr ⟨reads.append front more, kept⟩

theorem bind {next : α → List UInt8 → Option (β × List UInt8)} (reads : Local read)
    (goes_on : ∀ value, Local (next value)) :
    Local fun bytes => (read bytes).bind fun found => next found.1 found.2 := by
  refine ⟨fun {bytes value rest} found more => ?_⟩
  obtain ⟨⟨first, left⟩, front, back⟩ := Option.bind_eq_some_iff.mp found
  exact Option.bind_eq_some_iff.mpr ⟨_, reads.append front more, (goes_on first).append back more⟩

end Local

theorem local_readVarint (room : Nat) : Local (readVarint room) := by
  induction room with
  | zero => exact ⟨fun found => by cases found⟩
  | succ room ih =>
    refine ⟨fun {bytes value rest} found more => ?_⟩
    cases bytes with
    | nil => cases found
    | cons byte bytes =>
      rw [List.cons_append, readVarint]
      rw [readVarint] at found
      split at found
      · rename_i last
        cases found
        rw [if_pos last]
      · rename_i going_on
        rw [if_neg going_on]
        exact (ih.map (byte.toNat - 128 + 128 * ·)).append found more

theorem local_readValue : Local readValue :=
  (local_readVarint valueRoom).map (· % Nat.pow 2 64)

theorem local_readTag : Local readTag :=
  (local_readVarint headRoom).filter (· < Nat.pow 2 32)

theorem local_readLength : Local readLength :=
  (local_readVarint headRoom).filter (· < Nat.pow 2 31)

theorem local_takeBytes (size : Nat) : Local (takeBytes size) := by
  refine ⟨fun {bytes value rest} found more => ?_⟩
  unfold takeBytes at found ⊢
  split at found
  · rename_i enough
    cases found
    rw [if_pos (by simp only [List.length_append]; omega), List.take_append_of_le_length enough,
      List.drop_append_of_le_length enough]
  · cases found

theorem local_readBody (number wireType : Nat) : Local (readBody number wireType) := by
  match wireType with
  | 0 => exact local_readValue.map fun value => Token.field ⟨number, .varint value⟩
  | 1 => exact (local_takeBytes 8).map fun content => Token.field ⟨number, .fixed64 content⟩
  | 2 => exact local_readLength.bind fun size =>
      (local_takeBytes size).map fun content => Token.field ⟨number, .bytes content⟩
  | 3 | 4 =>
    refine ⟨fun found more => ?_⟩
    cases found
    rfl
  | 5 => exact (local_takeBytes 4).map fun content => Token.field ⟨number, .fixed32 content⟩
  | _ + 6 => exact ⟨fun found => by cases found⟩

theorem local_readToken : Local readToken :=
  local_readTag.bind fun tag => local_readBody (tag / 8) (tag % 8)

/-- The groups that are open end at the same place, whatever follows. -/
theorem skipGroups_append {room : Nat} {opened : List Nat} {bytes rest : List UInt8}
    (skipped : skipGroups room opened bytes = some rest) (more : List UInt8) :
    skipGroups room opened (bytes ++ more) = some (rest ++ more) := by
  fun_induction skipGroups room opened bytes with
  | case1 room bytes =>
    cases skipped
    rw [skipGroups]
  | case2 => cases skipped
  | case3 room bytes innermost outer field left read ih =>
    rw [skipGroups, local_readToken.append read more]
    exact ih skipped
  | case4 => cases skipped
  | case5 room bytes innermost outer number left read roomy ih =>
    rw [skipGroups, local_readToken.append read more]
    simp only [if_neg roomy]
    exact ih skipped
  | case6 room bytes outer number left read ih =>
    rw [skipGroups, local_readToken.append read more]
    simp only [if_pos]
    exact ih skipped
  | case7 => cases skipped

theorem local_readField (depth : Nat) : Local (readField depth) := by
  refine ⟨fun {bytes field rest} found more => ?_⟩
  unfold readField at found ⊢
  cases read : readToken bytes with
  | none => rw [read] at found; cases found
  | some piece =>
    obtain ⟨token, left⟩ := piece
    rw [read] at found
    rw [local_readToken.append read more]
    cases token with
    | field first =>
      dsimp only at found ⊢
      split at found
      · cases found
      · rename_i numbered
        cases found
        rw [if_neg numbered]
    | opening number =>
      dsimp only at found ⊢
      split at found
      · cases found
      · rename_i allowed
        obtain ⟨after, skipped, same⟩ := Option.map_eq_some_iff.mp found
        cases same
        rw [if_neg allowed, skipGroups_append skipped more]
        rfl
    | closing number => cases found

theorem content_of_readField {depth : Nat} {bytes rest : List UInt8} {field : Field}
    (read : readField depth bytes = some (field, rest)) :
    content depth bytes = ⟨field :: (content depth rest).fields, (content depth rest).intact⟩ := by
  have nonempty : ¬bytes.isEmpty = true := by
    intro empty
    rw [List.isEmpty_iff.mp empty] at read
    exact absurd (length_readField_lt read) (Nat.not_lt_zero _)
  rw [content, if_neg nonempty]
  split
  · rename_i missing
    rw [read] at missing
    cases missing
  · rename_i found
    rw [read] at found
    cases found
    rfl

/-- After an intact message the fields of the next one follow. -/
theorem content_append {depth : Nat} {first : List UInt8} (intact : (content depth first).intact = true)
    (second : List UInt8) :
    content depth (first ++ second) =
      ⟨(content depth first).fields ++ (content depth second).fields, (content depth second).intact⟩ := by
  fun_induction content depth first with
  | case1 bytes empty => rw [List.isEmpty_iff.mp empty]; rfl
  | case2 => cases intact
  | case3 bytes _ field rest read _ ih =>
    rw [content_of_readField ((local_readField depth).append read second), ih intact]
    rfl

end Wire

namespace Proto

/-- Reads the content of a part of a message in which parts may be nested `depth` deep. -/
def readPart (depth : Nat) (type : MessageType) (bytes : List UInt8) : Except Fault (List Entry) :=
  match depth with
  | 0 => .error .tooDeep
  | depth + 1 => decodeAt depth type bytes

theorem decodeAt_eq (depth : Nat) (type : MessageType) (bytes : List UInt8) :
    decodeAt depth type bytes =
      ((Wire.content depth bytes).fields.mapM (readEntry (readPart depth) type)).bind fun parts =>
        if (Wire.content depth bytes).intact then .ok parts.flatten else .error .corrupt := by
  cases depth <;> rfl

/-- A message can be read if it is intact and each of its fields can be read. -/
theorem decodeAt_eq_ok {depth : Nat} {type : MessageType} {bytes : List UInt8} {entries : List Entry} :
    decodeAt depth type bytes = .ok entries ↔
      (Wire.content depth bytes).intact = true ∧
        ∃ parts, (Wire.content depth bytes).fields.mapM (readEntry (readPart depth) type) = .ok parts ∧
          parts.flatten = entries := by
  rw [decodeAt_eq]
  cases (Wire.content depth bytes).fields.mapM (readEntry (readPart depth) type) with
  | error fault =>
    constructor
    · intro read
      cases read
    · rintro ⟨-, parts, read, -⟩
      cases read
  | ok parts =>
    cases (Wire.content depth bytes).intact with
    | false =>
      constructor
      · intro read
        cases read
      · rintro ⟨intact, -⟩
        cases intact
    | true =>
      constructor
      · intro read
        exact ⟨rfl, parts, rfl, Except.ok.inj read⟩
      · rintro ⟨-, others, same, rfl⟩
        cases same
        rfl

/-- Two messages in a row are read as one message with the entries of both. -/
theorem decode_append {type : MessageType} {first second : List UInt8} {entries more : List Entry}
    (front : decode type first = .ok entries) (back : decode type second = .ok more) :
    decode type (first ++ second) = .ok (entries ++ more) := by
  obtain ⟨intact, parts, read, rfl⟩ := decodeAt_eq_ok.mp front
  obtain ⟨intact_too, others, read_too, rfl⟩ := decodeAt_eq_ok.mp back
  rw [decode, decodeAt_eq_ok, Wire.content_append intact]
  refine ⟨intact_too, parts ++ others, ?_, List.flatten_append⟩
  rw [List.mapM_append, read, read_too]
  rfl

theorem unknownFields_append (entries more : List Entry) :
    unknownFields (entries ++ more) = unknownFields entries ++ unknownFields more :=
  List.filterMap_append

end Proto

end Subgraph
