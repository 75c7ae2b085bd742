/-!
# UTF-8

Texts as bytes. Encoding and the test for validity are the ones of `String`; what this module adds
is the place of the first fault, by which a failure to decode is reported: an ill-formed sequence of
some bytes, or a sequence that the end of the input cuts off.

`decode_encode` says that every text can be decoded from its bytes, `encode_of_decode` that a text is
decoded from no other bytes.
-/

namespace ParamFile.Text.Utf8

/-- Why some bytes are not a text. -/
inductive Fault where
  /-- `length` bytes at `index` begin no character. -/
  | illFormed (length index : Nat)
  /-- The character that begins at `index` is cut off. -/
  | incomplete (index : Nat)
  deriving DecidableEq, Repr

def Fault.message : Fault → String
  | .illFormed length index => s!"invalid utf-8 sequence of {length} bytes from index {index}"
  | .incomplete index => s!"incomplete utf-8 byte sequence from index {index}"

def encode (s : String) : List UInt8 := s.toUTF8.data.toList

/-- The range of the second byte after the first byte `b`, and how many bytes follow `b`. -/
def lead? (b : UInt8) : Option (Nat × UInt8 × UInt8) :=
  if b < 0x80 then some (0, 0, 0)
  else if 0xC2 ≤ b ∧ b ≤ 0xDF then some (1, 0x80, 0xBF)
  else if b = 0xE0 then some (2, 0xA0, 0xBF)
  else if b = 0xED then some (2, 0x80, 0x9F)
  else if 0xE1 ≤ b ∧ b ≤ 0xEF then some (2, 0x80, 0xBF)
  else if b = 0xF0 then some (3, 0x90, 0xBF)
  else if 0xF1 ≤ b ∧ b ≤ 0xF3 then some (3, 0x80, 0xBF)
  else if b = 0xF4 then some (3, 0x80, 0x8F)
  else none

/-- The fault of the continuation bytes of a character that begins at `start`. -/
def tailFault? (start : Nat) : List UInt8 → (count seen : Nat) → (low high : UInt8) → Option Fault
  | _, 0, _, _, _ => none
  | [], _ + 1, _, _, _ => some (.incomplete start)
  | b :: rest, count + 1, seen, low, high =>
    if low ≤ b ∧ b ≤ high then tailFault? start rest count (seen + 1) 0x80 0xBF
    else some (.illFormed seen start)

/-- The first fault of some bytes, of which `start` come before. -/
def fault? : List UInt8 → (start : Nat) → Option Fault
  | [], _ => none
  | b :: rest, start =>
    match lead? b with
    | none => some (.illFormed 1 start)
    | some (count, low, high) =>
      match tailFault? start rest count 1 low high with
      | some fault => some fault
      | none => fault? (rest.drop count) (start + 1 + count)
termination_by bytes => bytes.length
decreasing_by simp only [List.length_drop, List.length_cons]; omega

def decode (bytes : List UInt8) : Except Fault String :=
  match String.fromUTF8? ⟨bytes.toArray⟩ with
  | some s => .ok s
  | none => .error ((fault? bytes 0).getD (.incomplete bytes.length))

theorem decode_encode (s : String) : decode (encode s) = .ok s := by
  have bytes : (⟨(encode s).toArray⟩ : ByteArray) = s.toByteArray := rfl
  simp only [decode, bytes, String.fromUTF8?, s.isValidUTF8, dite_true]
  rfl

/-- A text is decoded from its own bytes only. -/
theorem encode_of_decode {bytes : List UInt8} {s : String} (h : decode bytes = .ok s) :
    encode s = bytes := by
  simp only [decode, String.fromUTF8?] at h
  split at h
  · next t found =>
    split at found
    · simp only [Option.some.injEq] at found
      simp only [Except.ok.injEq] at h
      subst h; subst found; rfl
    · simp at found
  · simp at h

end ParamFile.Text.Utf8
