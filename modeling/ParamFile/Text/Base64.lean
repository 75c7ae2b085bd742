/-!
# Base64

The padded form of the standard alphabet. Three bytes are written as four symbols; a last group of
one or two bytes is completed by `=`. Reading accepts exactly what writing produces: no symbol from
outside the alphabet, no missing or misplaced padding, no bits that stand for nothing.

Reading reports the first fault it meets, in this order: a last symbol that hangs over on its own and
is no symbol at all, then the groups from left to right, then the last group.
-/

namespace ParamFile.Text.Base64

/-! ## Alphabet -/

/-- The symbol of a six-bit value, as a byte. -/
def symbol (v : Nat) : UInt8 :=
  if v < 26 then UInt8.ofNat (65 + v)
  else if v < 52 then UInt8.ofNat (71 + v)
  else if v < 62 then UInt8.ofNat (v - 4)
  else if v = 62 then 43 else 47

def value? (b : UInt8) : Option Nat :=
  let n := b.toNat
  if 65 ≤ n ∧ n ≤ 90 then some (n - 65)
  else if 97 ≤ n ∧ n ≤ 122 then some (n - 71)
  else if 48 ≤ n ∧ n ≤ 57 then some (n + 4)
  else if n = 43 then some 62
  else if n = 47 then some 63
  else none

/-- The byte that completes a last group. -/
def pad : UInt8 := 61

theorem value?_symbol : ∀ v < 64, value? (symbol v) = some v := by decide

/-! ## Writing -/

/-- The symbols of some bytes. -/
def encode : List UInt8 → List UInt8
  | a :: b :: c :: rest =>
    symbol (a.toNat / 4) :: symbol (a.toNat % 4 * 16 + b.toNat / 16) ::
      symbol (b.toNat % 16 * 4 + c.toNat / 64) :: symbol (c.toNat % 64) :: encode rest
  | [a, b] =>
    [symbol (a.toNat / 4), symbol (a.toNat % 4 * 16 + b.toNat / 16), symbol (b.toNat % 16 * 4), pad]
  | [a] => [symbol (a.toNat / 4), symbol (a.toNat % 4 * 16), pad, pad]
  | [] => []

/-! ## Reading -/

/-- Why some bytes are not base64. -/
inductive Fault where
  /-- The byte at `index` does not belong there. -/
  | badSymbol (byte : UInt8) (index : Nat)
  /-- A group ends after a single symbol. -/
  | badLength (length : Nat)
  /-- The last symbol, at `index`, has bits that stand for nothing. -/
  | badLastSymbol (byte : UInt8) (index : Nat)
  /-- The last group is not completed as it should be. -/
  | badPadding
  deriving DecidableEq, Repr

def Fault.message : Fault → String
  | .badSymbol byte index => s!"Invalid symbol {byte.toNat}, offset {index}."
  | .badLength length => s!"Invalid input length: {length}"
  | .badLastSymbol byte index => s!"Invalid last symbol {byte.toNat}, offset {index}."
  | .badPadding => "Invalid padding"

/-- The value of the symbol at `index`. -/
def valueAt (byte : UInt8) (index : Nat) : Except Fault Nat :=
  match value? byte with
  | some v => .ok v
  | none => .error (.badSymbol byte index)

/-- The three bytes of four six-bit values. -/
def bytesOf (w x y z : Nat) : List UInt8 :=
  [UInt8.ofNat (w * 4 + x / 16), UInt8.ofNat (x % 16 * 16 + y / 4), UInt8.ofNat (y % 4 * 64 + z)]

/-- What is read of a last group: its symbols with their values, and its padding. -/
structure LastGroup where
  symbols : List (UInt8 × Nat)
  pads : Nat
  deriving Repr

/-- Reads a last group that begins at `start`; `seen` bytes of it have been read. Padding after fewer
than two symbols is out of place, and so is padding with a symbol behind it. -/
def lastGroup (start : Nat) : List UInt8 → (seen : Nat) → LastGroup → Except Fault LastGroup
  | [], _, group => .ok group
  | b :: rest, seen, group =>
    if b = pad then
      if seen < 2 then .error (.badSymbol b (start + seen))
      else lastGroup start rest (seen + 1) { group with pads := group.pads + 1 }
    else if 0 < group.pads then .error (.badSymbol pad (start + group.symbols.length))
    else do
      let v ← valueAt b (start + seen)
      lastGroup start rest (seen + 1) { group with symbols := group.symbols ++ [(b, v)] }

/-- The bytes of a last group that begins at `start`. -/
def LastGroup.bytes (start : Nat) (group : LastGroup) : Except Fault (List UInt8) :=
  match group.symbols with
  | [] => if group.pads = 0 then .ok [] else .error (.badLength start)
  | [_] => .error (.badLength (start + 1))
  | symbols =>
    if (group.pads + symbols.length) % 4 ≠ 0 then .error .badPadding
    else
      match symbols with
      | [(_, w), (last, x)] =>
        if x % 16 ≠ 0 then .error (.badLastSymbol last (start + 1))
        else .ok ((bytesOf w x 0 0).take 1)
      | [(_, w), (_, x), (last, y)] =>
        if y % 4 ≠ 0 then .error (.badLastSymbol last (start + 2))
        else .ok ((bytesOf w x y 0).take 2)
      | [(_, w), (_, x), (_, y), (_, z)] => .ok (bytesOf w x y z)
      | _ => .error .badPadding

/-- Reads the groups that begin at `start`. -/
def groups : List UInt8 → (start : Nat) → Except Fault (List UInt8)
  | a :: b :: c :: d :: e :: rest, start => do
    let w ← valueAt a start
    let x ← valueAt b (start + 1)
    let y ← valueAt c (start + 2)
    let z ← valueAt d (start + 3)
    let following ← groups (e :: rest) (start + 4)
    return bytesOf w x y z ++ following
  | last, start => do (← lastGroup start last 0 ⟨[], 0⟩).bytes start

/-- The fault of a last byte that hangs over on its own and is no symbol at all. -/
def hangingFault? (input : List UInt8) : Option Fault :=
  match input.getLast? with
  | some b =>
    if input.length % 4 = 1 ∧ b ≠ pad ∧ value? b = none then
      some (.badSymbol b (input.length - 1))
    else none
  | none => none

def decode (input : List UInt8) : Except Fault (List UInt8) :=
  match hangingFault? input with
  | some fault => .error fault
  | none => groups input 0

end ParamFile.Text.Base64
