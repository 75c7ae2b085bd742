import ParamFile.Store.Query
import ParamFile.Text.Case

/-!
# Backends

A backend is a parameter store with the local cipher. It keeps a log of the calls it gets, and some
calls can be made to fail: such a call is logged, and reaches neither store nor cipher
(`call_of_failing`).
-/

namespace ParamFile

/-- A store with a cipher, the calls that fail and the calls made so far. -/
structure Backend where
  store : Store := {}
  /-- The calls that are made to fail. -/
  failing : List Call := []
  /-- The calls made so far, the last one first. -/
  log : List Call := []
  deriving Inhabited

namespace Backend

def storeName : String := "memory"

def cipherName : String := "local"

def count (b : Backend) (c : Call) : Nat := b.log.count c

/-- Makes a call on the store; the cipher needs no state. -/
def call {α : Type} (c : Call) (f : Store → Except Failure α × Store) (b : Backend) :
    Except Failure α × Backend :=
  let logged := { b with log := c :: b.log }
  if b.failing.contains c then (.error (.injected c), logged)
  else
    let (r, store) := f b.store
    (r, { logged with store })

theorem call_of_failing {α : Type} {c : Call} {f : Store → Except Failure α × Store} {b : Backend}
    (h : c ∈ b.failing) : call c f b = (.error (.injected c), { b with log := c :: b.log }) := by
  simp [call, h]

theorem call_of_not_failing {α : Type} {c : Call} {f : Store → Except Failure α × Store}
    {b : Backend} (h : c ∉ b.failing) :
    call c f b = ((f b.store).1, { b with log := c :: b.log, store := (f b.store).2 }) := by
  simp [call, h]

/-- The backend with this name, in any case. -/
def named (name : String) : Except Failure Backend :=
  match Text.Case.lower name with
  | "memory" => .ok {}
  | "aws" => .error .awsUnavailable
  | other => .error (.unknownBackend other)

end Backend

end ParamFile
