import Subgraph.Text.Chars

namespace Subgraph.Utf8

inductive Reason where
  | invalidStart
  | invalidContinuation
  | unexpectedEnd
  deriving DecidableEq, Repr

def Reason.message : Reason → String
  | invalidStart => "invalid start byte"
  | invalidContinuation => "invalid continuation byte"
  | unexpectedEnd => "unexpected end of data"

/-- The bytes that cannot be read, from `position` on. -/
structure Fault where
  position : Nat
  bad : List UInt8
  reason : Reason
  deriving DecidableEq, Repr

def Fault.message (fault : Fault) : String :=
  match fault.bad with
  | [byte] =>
    let code := String.ofList (Text.hexDigits 2 byte.toNat)
    s!"'utf-8' codec can't decode byte 0x{code} in position {fault.position}: {fault.reason.message}"
  | bad =>
    let last := fault.position + bad.length - 1
    s!"'utf-8' codec can't decode bytes in position {fault.position}-{last}: {fault.reason.message}"

/-- How a character goes on after its first byte. -/
structure Lead where
  /-- Continuation bytes still to come. -/
  more : Nat
  /-- The bits of the first byte that belong to the code point. -/
  bits : Nat
  /-- Bounds of the second byte, which leave out over-long forms and surrogates. -/
  low : UInt8 := 0x80
  high : UInt8 := 0xBF

def lead? (byte : UInt8) : Option Lead :=
  let n := byte.toNat
  if n < 0x80 then some ⟨0, n, 0x80, 0xBF⟩
  else if n < 0xC2 then none
  else if n < 0xE0 then some ⟨1, n - 0xC0, 0x80, 0xBF⟩
  else if n < 0xF0 then
    some ⟨2, n - 0xE0, if n = 0xE0 then 0xA0 else 0x80, if n = 0xED then 0x9F else 0xBF⟩
  else if n < 0xF5 then
    some ⟨3, n - 0xF0, if n = 0xF0 then 0x90 else 0x80, if n = 0xF4 then 0x8F else 0xBF⟩
  else none

/-- The code point and the bytes after it, or the number of continuation bytes that were good and
the reason to stop. -/
def readRest? : (more bits : Nat) → (low high : UInt8) → (good : Nat) → List UInt8 →
    Except (Nat × Reason) (Nat × List UInt8)
  | 0, bits, _, _, _, rest => .ok (bits, rest)
  | _ + 1, _, _, _, good, [] => .error (good, .unexpectedEnd)
  | more + 1, bits, low, high, good, byte :: rest =>
    if low ≤ byte && byte ≤ high then
      readRest? more (bits * 64 + (byte.toNat - 0x80)) 0x80 0xBF (good + 1) rest
    else .error (good, .invalidContinuation)

theorem length_readRest_le {more bits good code : Nat} {low high : UInt8} {bytes rest : List UInt8}
    (read : readRest? more bits low high good bytes = .ok (code, rest)) : rest.length ≤ bytes.length := by
  induction more generalizing bits low high good bytes with
  | zero => simp_all [readRest?]
  | succ more ih =>
    cases bytes with
    | nil => simp [readRest?] at read
    | cons byte tail =>
      simp only [readRest?] at read
      split at read
      · have shorter := ih read
        simp only [List.length_cons]
        omega
      · simp at read

/-- Reads bytes of which the first stands at `position`. -/
def decodeFrom (position : Nat) (bytes : List UInt8) : Except Fault (List Char) :=
  match bytes with
  | [] => .ok []
  | byte :: rest =>
    match lead? byte with
    | none => .error ⟨position, [byte], .invalidStart⟩
    | some lead =>
      match _read : readRest? lead.more lead.bits lead.low lead.high 0 rest with
      | .error (good, reason) => .error ⟨position, byte :: rest.take good, reason⟩
      | .ok (code, after) =>
        (decodeFrom (position + lead.more + 1) after).map (Char.ofNat code :: ·)
termination_by bytes.length
decreasing_by
  have shorter := length_readRest_le (by assumption)
  simp only [List.length_cons]
  omega

def decode (bytes : List UInt8) : Except Fault String :=
  (decodeFrom 0 bytes).map String.ofList

def encode (text : String) : List UInt8 :=
  text.toList.flatMap String.utf8EncodeChar

end Subgraph.Utf8
