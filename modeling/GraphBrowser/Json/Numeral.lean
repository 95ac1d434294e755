import GraphBrowser.Json.Error

set_option autoImplicit false

namespace GraphBrowser.Json

inductive NumeralPhase where
  | minus
  -- Behind a leading zero, which no digit may follow.
  | zero
  | whole
  | point
  | fraction
  | exponent
  | exponentSign
  | exponentDigits
deriving DecidableEq

def NumeralPhase.isComplete : NumeralPhase → Bool
  | .zero | .whole | .fraction | .exponentDigits => true
  | .minus | .point | .exponent | .exponentSign => false

inductive NumeralStep where
  | more (phase : NumeralPhase)
  | ended
  | broken

namespace NumeralPhase

def first? (c : Char) : Option NumeralPhase :=
  if c = '-' then some .minus
  else if c = '0' then some .zero
  else if c.isDigit then some .whole
  else none

def isExponentMark (c : Char) : Bool := c == 'e' || c == 'E'

def step (phase : NumeralPhase) (c : Char) : NumeralStep :=
  match phase with
  | .minus => if c = '0' then .more .zero else if c.isDigit then .more .whole else .broken
  | .zero =>
      if c.isDigit then .broken
      else if c = '.' then .more .point
      else if isExponentMark c then .more .exponent
      else .ended
  | .whole =>
      if c.isDigit then .more .whole
      else if c = '.' then .more .point
      else if isExponentMark c then .more .exponent
      else .ended
  | .point => if c.isDigit then .more .fraction else .broken
  | .fraction =>
      if c.isDigit then .more .fraction
      else if isExponentMark c then .more .exponent
      else .ended
  | .exponent =>
      if c.isDigit then .more .exponentDigits
      else if c = '+' ∨ c = '-' then .more .exponentSign
      else .broken
  | .exponentSign => if c.isDigit then .more .exponentDigits else .broken
  | .exponentDigits => if c.isDigit then .more .exponentDigits else .ended

end NumeralPhase

structure Numeral where
  negative : Bool
  whole : List Char
  fraction : List Char
  hasFraction : Bool
  exponent : Option (Bool × List Char)

namespace Numeral

def parts (s : List Char) : Numeral :=
  let negative := s.head? == some '-'
  let s := if negative then s.drop 1 else s
  let whole := s.takeWhile Char.isDigit
  let s := s.dropWhile Char.isDigit
  let hasFraction := s.head? == some '.'
  let s := if hasFraction then s.drop 1 else s
  let fraction := s.takeWhile Char.isDigit
  let exponent :=
    match s.dropWhile Char.isDigit with
    | _ :: '-' :: digits => some (true, digits)
    | _ :: '+' :: digits => some (false, digits)
    | _ :: digits => some (false, digits)
    | [] => none
  { negative, whole, fraction, hasFraction, exponent }

def wordLimit : Nat := UInt64.size

def absorb (significand : Nat) : List Char → Nat × List Char
  | [] => (significand, [])
  | c :: rest =>
      let next := 10 * significand + (c.toNat - '0'.toNat)
      if next < wordLimit then absorb next rest else (significand, c :: rest)

-- Digits of the fraction that find no room are dropped, digits before the point count as powers of ten.
def scaled (n : Numeral) : Nat × Int :=
  let (significand, beyond) := absorb 0 n.whole
  let (significand, dropped) := absorb significand n.fraction
  (significand, (beyond.length : Int) - ((n.fraction.length - dropped.length : Nat) : Int))

def isInteger (n : Numeral) : Bool :=
  !n.hasFraction && n.exponent.isNone && (absorb 0 n.whole).2.isEmpty

def powerLimit : Nat := 308

def power (n : Nat) : Float := Float.ofScientific 1 false n

-- A number with a decimal exponent that is too small for one step is brought nearer to zero until it is
-- near enough or has vanished.
def shrink : Nat → Float → Nat → Float
  | 0, f, _ => f
  | fuel + 1, f, e =>
      if e ≤ powerLimit then f / power e
      else if f == 0.0 then f
      else shrink fuel (f / power powerLimit) (e - powerLimit)

def magnitude? (significand : Nat) (exponent : Int) : Option Float :=
  let f := Float.ofNat significand
  if exponent < 0 then some (shrink (exponent.natAbs + 1) f exponent.natAbs)
  else if exponent.toNat ≤ powerLimit then
    let g := f * power exponent.toNat
    if g.isInf then none else some g
  else if f == 0.0 then some f
  else none

def exponentLimit : Nat := 0x80000000

def decimal (digits : List Char) : Nat :=
  digits.foldl (fun n c => 10 * n + (c.toNat - '0'.toNat)) 0

def beyondLimit (exponent : Nat) : List Char → Nat
  | [] => 0
  | c :: rest =>
      let next := 10 * exponent + (c.toNat - '0'.toNat)
      if next < exponentLimit then beyondLimit next rest else rest.length

def surplus (n : Numeral) : Nat :=
  match n.exponent with
  | none => 0
  | some (_, digits) => beyondLimit 0 digits

def clampExponent (e : Int) : Int := max (-exponentLimit) (min e (exponentLimit - 1))

def float? (n : Numeral) : Option Float :=
  let (significand, shift) := n.scaled
  let positive :=
    match n.exponent with
    | none => magnitude? significand shift
    | some (down, digits) =>
        let e := decimal digits
        if e < exponentLimit then
          magnitude? significand (clampExponent (if down then shift - e else shift + e))
        else if significand = 0 ∨ down then some 0.0
        else none
  positive.map fun f => if n.negative then -f else f

-- An integer that fits into a word is one, with a sign if it has 63 bits; any other number is a
-- fraction. Minus zero is a fraction.
def value (n : Numeral) : Except DecodeError Found :=
  let integer := decimal n.whole
  if n.isInteger ∧ ¬n.negative then .ok (.integer integer)
  else if n.isInteger ∧ 0 < integer ∧ 2 * integer ≤ wordLimit then .ok (.integer (-integer))
  else
    match n.float? with
    | some f => .ok (.fractional f)
    | none => .error .numberOutOfRange

end Numeral

end GraphBrowser.Json
