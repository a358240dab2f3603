import Subgraph.Wire.Varint

namespace Subgraph.Wire

/-- The value that a field carries. The content of a group is checked and not kept. -/
inductive Payload where
  | varint (value : Nat)
  | fixed64 (content : List UInt8)
  | bytes (content : List UInt8)
  | group
  | fixed32 (content : List UInt8)
  deriving DecidableEq, Repr

/-- The number that names the form of a payload on the wire. -/
def Payload.wireType : Payload → Nat
  | varint _ => 0
  | fixed64 _ => 1
  | bytes _ => 2
  | group => 3
  | fixed32 _ => 5

structure Field where
  number : Nat
  payload : Payload
  deriving DecidableEq, Repr

/-- One piece of a wire message: a field, or an end of a group. -/
inductive Token where
  | field (field : Field)
  | opening (number : Nat)
  | closing (number : Nat)
  deriving DecidableEq, Repr

/-- The first `size` bytes and the others. -/
def takeBytes (size : Nat) (bytes : List UInt8) : Option (List UInt8 × List UInt8) :=
  if size ≤ bytes.length then some (bytes.take size, bytes.drop size) else none

theorem length_takeBytes_le {size : Nat} {bytes content rest : List UInt8}
    (taken : takeBytes size bytes = some (content, rest)) : rest.length ≤ bytes.length := by
  simp only [takeBytes] at taken
  split at taken <;> simp_all only [Option.some.injEq, Prod.mk.injEq, reduceCtorEq]
  rw [← taken.2, List.length_drop]
  omega

/-- What stands after a tag. Wire types 6 and 7 do not exist. -/
def readBody (number wireType : Nat) (bytes : List UInt8) : Option (Token × List UInt8) :=
  match wireType with
  | 0 => (readValue bytes).map fun (n, rest) => (.field ⟨number, .varint n⟩, rest)
  | 1 => (takeBytes 8 bytes).map fun (content, rest) => (.field ⟨number, .fixed64 content⟩, rest)
  | 2 => (readLength bytes).bind fun (size, rest) =>
      (takeBytes size rest).map fun (content, rest) => (.field ⟨number, .bytes content⟩, rest)
  | 3 => some (.opening number, bytes)
  | 4 => some (.closing number, bytes)
  | 5 => (takeBytes 4 bytes).map fun (content, rest) => (.field ⟨number, .fixed32 content⟩, rest)
  | _ => none

/-- Reads a tag and what belongs to it. -/
def readToken (bytes : List UInt8) : Option (Token × List UInt8) :=
  (readTag bytes).bind fun (tag, rest) => readBody (tag / 8) (tag % 8) rest

theorem length_readBody_le {number wireType : Nat} {token : Token} {bytes rest : List UInt8}
    (read : readBody number wireType bytes = some (token, rest)) : rest.length ≤ bytes.length := by
  unfold readBody at read
  split at read
  · obtain ⟨⟨n, after⟩, value, same⟩ := Option.map_eq_some_iff.mp read
    simp only [Prod.mk.injEq] at same
    obtain ⟨_, rfl⟩ := same
    exact Nat.le_of_lt (length_readValue_lt value)
  · obtain ⟨⟨content, after⟩, taken, same⟩ := Option.map_eq_some_iff.mp read
    simp only [Prod.mk.injEq] at same
    obtain ⟨_, rfl⟩ := same
    exact length_takeBytes_le taken
  · obtain ⟨⟨size, after⟩, sized, read⟩ := Option.bind_eq_some_iff.mp read
    obtain ⟨⟨content, after'⟩, taken, same⟩ := Option.map_eq_some_iff.mp read
    simp only [Prod.mk.injEq] at same
    obtain ⟨_, rfl⟩ := same
    exact Nat.le_trans (length_takeBytes_le taken) (Nat.le_of_lt (length_readLength_lt sized))
  · simp_all
  · simp_all
  · obtain ⟨⟨content, after⟩, taken, same⟩ := Option.map_eq_some_iff.mp read
    simp only [Prod.mk.injEq] at same
    obtain ⟨_, rfl⟩ := same
    exact length_takeBytes_le taken
  · simp at read

theorem length_readToken_lt {token : Token} {bytes rest : List UInt8}
    (read : readToken bytes = some (token, rest)) : rest.length < bytes.length := by
  obtain ⟨⟨tag, after⟩, tagged, read⟩ := Option.bind_eq_some_iff.mp read
  exact Nat.lt_of_le_of_lt (length_readBody_le read) (length_readTag_lt tagged)

/-- What stands after the groups that are open, innermost first. Inside of them `room` more groups may
be opened. The pieces of a group may have any number, only its two ends have to agree. -/
def skipGroups (room : Nat) (opened : List Nat) (bytes : List UInt8) : Option (List UInt8) :=
  match opened with
  | [] => some bytes
  | innermost :: outer =>
    match _read : readToken bytes with
    | none => none
    | some (.field _, rest) => skipGroups room opened rest
    | some (.opening number, rest) => if room = 0 then none else skipGroups (room - 1) (number :: opened) rest
    | some (.closing number, rest) => if number = innermost then skipGroups (room + 1) outer rest else none
termination_by bytes.length
decreasing_by all_goals exact length_readToken_lt (by assumption)

theorem length_skipGroups_le {room : Nat} {opened : List Nat} {bytes rest : List UInt8}
    (skipped : skipGroups room opened bytes = some rest) : rest.length ≤ bytes.length := by
  fun_induction skipGroups room opened bytes with
  | case1 => simp_all
  | case2 => simp at skipped
  | case3 _ _ _ _ _ _ read ih => exact Nat.le_trans (ih skipped) (Nat.le_of_lt (length_readToken_lt read))
  | case4 => simp at skipped
  | case5 _ _ _ _ _ _ read _ ih => exact Nat.le_trans (ih skipped) (Nat.le_of_lt (length_readToken_lt read))
  | case6 _ _ _ _ _ read ih => exact Nat.le_trans (ih skipped) (Nat.le_of_lt (length_readToken_lt read))
  | case7 => simp at skipped

/-- Reads a field, where groups may be nested `depth` deep. There is no field number 0. -/
def readField (depth : Nat) (bytes : List UInt8) : Option (Field × List UInt8) :=
  match readToken bytes with
  | some (.field field, rest) => if field.number = 0 then none else some (field, rest)
  | some (.opening number, rest) =>
    if number = 0 ∨ depth = 0 then none
    else (skipGroups (depth - 1) [number] rest).map (⟨number, .group⟩, ·)
  | _ => none

theorem length_readField_lt {depth : Nat} {field : Field} {bytes rest : List UInt8}
    (read : readField depth bytes = some (field, rest)) : rest.length < bytes.length := by
  unfold readField at read
  split at read
  · rename_i token
    split at read
    · simp at read
    · simp only [Option.some.injEq, Prod.mk.injEq] at read
      exact read.2 ▸ length_readToken_lt token
  · rename_i token
    split at read
    · simp at read
    · obtain ⟨after, skipped, same⟩ := Option.map_eq_some_iff.mp read
      simp only [Prod.mk.injEq] at same
      obtain ⟨_, rfl⟩ := same
      exact Nat.lt_of_le_of_lt (length_skipGroups_le skipped) (length_readToken_lt token)
  · simp at read

/-- The fields of a message in wire order. If the message is not intact, they are those in front of the
place where the bytes stop making sense. -/
structure Content where
  fields : List Field
  intact : Bool
  deriving DecidableEq, Repr

def content (depth : Nat) (bytes : List UInt8) : Content :=
  if bytes.isEmpty then ⟨[], true⟩
  else
    match _read : readField depth bytes with
    | none => ⟨[], false⟩
    | some (field, rest) =>
      let others := content depth rest
      ⟨field :: others.fields, others.intact⟩
termination_by bytes.length
decreasing_by exact length_readField_lt (by assumption)

/-- The integers of a packed sequence. -/
def packed (bytes : List UInt8) : Option (List Nat) :=
  if bytes.isEmpty then some []
  else
    match _read : readValue bytes with
    | none => none
    | some (n, rest) => (packed rest).map (n :: ·)
termination_by bytes.length
decreasing_by exact length_readValue_lt (by assumption)

/-- The bytes of a field. A group is written empty. -/
def Field.encode (field : Field) : List UInt8 :=
  writeVarint (field.number * 8 + field.payload.wireType) ++
    match field.payload with
    | .varint value => writeVarint value
    | .fixed64 content => content
    | .bytes content => writeVarint content.length ++ content
    | .group => writeVarint (field.number * 8 + 4)
    | .fixed32 content => content

end Subgraph.Wire
