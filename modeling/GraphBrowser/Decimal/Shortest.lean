set_option autoImplicit false

namespace GraphBrowser

structure Decimal where
  digits : Nat
  exponent : Int
deriving DecidableEq, Repr

-- A positive number `mantissa * 2 ^ exponent` of a binary format. Below a power of two the next number
-- is only half as far away as above it.
structure Binary where
  mantissa : Nat
  exponent : Int
  powerOfTwo : Bool

inductive Tie where
  | up
  | even
deriving DecidableEq

namespace Binary

def ofBits (bits : UInt64) : Binary :=
  let fraction := (bits &&& 0xfffffffffffff).toNat
  let field := ((bits >>> 52) &&& 0x7ff).toNat
  if field = 0 then ⟨fraction, -1074, false⟩
  else ⟨0x10000000000000 + fraction, (field : Int) - 1075, fraction == 0 && field > 1⟩

def ceiling (b : Binary) : Int := ((Nat.log2 b.mantissa : Int) + 1 + b.exponent) * 30103 / 100000 + 1

-- The multiple of `10 ^ place` that is nearest to the number, if a multiple of it reads back. The
-- number, its neighbourhood and the multiples are compared as whole multiples of one unit.
def onGrid? (tie : Tie) (b : Binary) (place : Int) : Option Decimal :=
  let wide := Nat.pow 2 (b.exponent - 2).toNat * Nat.pow 10 (-place).toNat
  let value := 4 * b.mantissa * wide
  let low := value - (if b.powerOfTwo then wide else 2 * wide)
  let high := value + 2 * wide
  let step := Nat.pow 2 (2 - b.exponent).toNat * Nat.pow 10 place.toNat
  let below := value / step
  let rest := value % step
  let closed := b.mantissa % 2 == 0
  let fits (n : Nat) := (low < n && n < high) || (closed && (n == low || n == high))
  let nearerUp := step < 2 * rest ||
    (step == 2 * rest && (tie == .up || below % 2 == 1))
  match fits (below * step), fits ((below + 1) * step) with
  | true, true => some ⟨if nearerUp then below + 1 else below, place⟩
  | true, false => some ⟨below, place⟩
  | false, true => some ⟨below + 1, place⟩
  | false, false => none

-- Seventeen digits always read back.
def shortest (tie : Tie) (b : Binary) : Decimal :=
  ((List.range 20).findSome? fun (i : Nat) => b.onGrid? tie (b.ceiling - i)).getD ⟨b.mantissa, 0⟩

end Binary

end GraphBrowser
