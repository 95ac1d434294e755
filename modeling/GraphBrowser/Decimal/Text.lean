import GraphBrowser.Decimal.Shortest

set_option autoImplicit false

namespace GraphBrowser

namespace Decimal

def digitChars (d : Decimal) : List Char := (toString d.digits).toList

def point (d : Decimal) : Int := d.digitChars.length + d.exponent

def split (d : Decimal) : List Char × List Char :=
  let digits := d.digitChars
  if d.point ≤ 0 then (['0'], List.replicate (-d.point).toNat '0' ++ digits)
  else if 0 ≤ d.exponent then (digits ++ List.replicate d.exponent.toNat '0', [])
  else (digits.take d.point.toNat, digits.drop d.point.toNat)

def positional (whole : String) (d : Decimal) : String :=
  match d.split with
  | (front, []) => String.ofList front ++ whole
  | (front, back) => String.ofList front ++ "." ++ String.ofList back

def scientific (d : Decimal) : String :=
  let exponent := d.point - 1
  let power := (if exponent < 0 then "e" else "e+") ++ toString exponent
  match d.digitChars with
  | first :: rest@(_ :: _) => String.ofList (first :: '.' :: rest) ++ power
  | digits => String.ofList digits ++ power

end Decimal

structure NumberFormat where
  tie : Tie
  whole : String
  isPositional : Decimal → Bool

namespace NumberFormat

def plain : NumberFormat := ⟨.up, "", fun _ => true⟩

-- A fraction always; an exponent once the point is more than sixteen places after the first digit or
-- more than four zeros stand between the point and the first digit.
def fractional : NumberFormat :=
  ⟨.even, ".0", fun d => decide (-5 < d.point) && decide (d.point ≤ 16)⟩

def write (f : NumberFormat) (x : Float) : String :=
  if x.isNaN then "NaN"
  else
    let sign := if x.toBits >>> 63 == 1 then "-" else ""
    if x.isInf then sign ++ "inf"
    else if x == 0.0 then sign ++ "0" ++ f.whole
    else
      let d := (Binary.ofBits x.toBits).shortest f.tie
      sign ++ if f.isPositional d then d.positional f.whole else d.scientific

end NumberFormat

end GraphBrowser
