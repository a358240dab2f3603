namespace Subgraph.Wire

/-- Reads a variable-length integer of at most `room` bytes, seven bits a byte, lowest first. The
encoding need not be the shortest. -/
def readVarint : Nat → List UInt8 → Option (Nat × List UInt8)
  | 0, _ => none
  | _ + 1, [] => none
  | room + 1, byte :: rest =>
    if byte < 128 then some (byte.toNat, rest)
    else (readVarint room rest).map fun (high, rest) => (byte.toNat - 128 + 128 * high, rest)

def writeVarint (n : Nat) : List UInt8 :=
  if n < 128 then [n.toUInt8] else (n % 128 + 128).toUInt8 :: writeVarint (n / 128)

theorem length_readVarint_lt {room n : Nat} {bytes rest : List UInt8}
    (read : readVarint room bytes = some (n, rest)) : rest.length < bytes.length := by
  induction room generalizing bytes n with
  | zero => simp [readVarint] at read
  | succ room ih =>
    cases bytes with
    | nil => simp [readVarint] at read
    | cons byte tail =>
      simp only [readVarint] at read
      split at read
      · simp_all
      · obtain ⟨⟨high, rest'⟩, readTail, same⟩ := Option.map_eq_some_iff.mp read
        simp only [Prod.mk.injEq] at same
        obtain ⟨_, rfl⟩ := same
        have shorter := ih readTail
        simp only [List.length_cons]
        omega

/-- The largest encodings: ten bytes for a value, five for a tag or a length. -/
def valueRoom : Nat := 10

def headRoom : Nat := 5

/-- A value of 64 bits; higher bits of the last byte are dropped. -/
def readValue (bytes : List UInt8) : Option (Nat × List UInt8) :=
  (readVarint valueRoom bytes).map fun (n, rest) => (n % Nat.pow 2 64, rest)

/-- A field number with its wire type, in 32 bits. -/
def readTag (bytes : List UInt8) : Option (Nat × List UInt8) :=
  (readVarint headRoom bytes).filter fun (n, _) => n < Nat.pow 2 32

/-- A length, in 31 bits. -/
def readLength (bytes : List UInt8) : Option (Nat × List UInt8) :=
  (readVarint headRoom bytes).filter fun (n, _) => n < Nat.pow 2 31

theorem length_readTag_lt {n : Nat} {bytes rest : List UInt8}
    (read : readTag bytes = some (n, rest)) : rest.length < bytes.length := by
  simp only [readTag, Option.filter_eq_some_iff] at read
  exact length_readVarint_lt read.1

theorem length_readLength_lt {n : Nat} {bytes rest : List UInt8}
    (read : readLength bytes = some (n, rest)) : rest.length < bytes.length := by
  simp only [readLength, Option.filter_eq_some_iff] at read
  exact length_readVarint_lt read.1

theorem length_readValue_lt {n : Nat} {bytes rest : List UInt8}
    (read : readValue bytes = some (n, rest)) : rest.length < bytes.length := by
  obtain ⟨⟨m, rest'⟩, readRaw, same⟩ := Option.map_eq_some_iff.mp read
  simp only [Prod.mk.injEq] at same
  obtain ⟨_, rfl⟩ := same
  exact length_readVarint_lt readRaw

end Subgraph.Wire
