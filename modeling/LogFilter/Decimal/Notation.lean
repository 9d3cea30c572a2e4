import LogFilter.Decimal.Shortest

/-!
# How a Decimal is Written

The digits of a decimal are written with a point among them, or with an exponent.

## Main definitions

* `Decimal.positional`: all places of the number, with a point where one is needed.
* `Decimal.scientific`: one digit, the others after a point, and an exponent.
* `jsonDouble`: a double in a JSON text.
* `plainDouble`: a double in a message or a setting.
-/

namespace LogFilter

namespace Decimal

/-- The place of the first digit: `0` for a number from one to below ten. -/
def place (d : Decimal) : Int :=
  d.exponent + d.digits.repr.length - 1

/-- **All places of the number**; a number without a fractional part ends in `wholeEnd`. -/
def positional (d : Decimal) (wholeEnd : String) : String :=
  let digits := d.digits.repr.toList
  if 0 ≤ d.exponent then
    String.ofList (digits ++ List.replicate d.exponent.toNat '0') ++ wholeEnd
  else
    let fractional := (-d.exponent).toNat
    let padded := List.replicate (fractional + 1 - digits.length) '0' ++ digits
    let whole := padded.length - fractional
    String.ofList (padded.take whole ++ '.' :: padded.drop whole)

/-- **One digit**, the others after a point, and the exponent with its sign. -/
def scientific (d : Decimal) : String :=
  let place := d.place
  let sign := if place < 0 then "-" else "+"
  let mantissa := match d.digits.repr.toList with
    | [] => []
    | [digit] => [digit]
    | digit :: rest => digit :: '.' :: rest
  String.ofList mantissa ++ "e" ++ sign ++ place.natAbs.repr

end Decimal

/-- The minus sign of a negative number. -/
def signText (negative : Bool) : String :=
  if negative then "-" else ""

/-- A double in a JSON text: positional from the fifth place after the point to the
sixteenth before it, and marked as no integer by a point or an exponent. A double that is no
number has no JSON text of its own and is written as `null`. -/
def jsonDouble (bits : UInt64) : String :=
  match FloatParts.ofBits bits with
  | .nan | .infinite _ => "null"
  | .zero negative => signText negative ++ "0.0"
  | .finite negative magnitude =>
      let decimal := magnitude.shortest
      signText negative ++
        if -5 ≤ decimal.place ∧ decimal.place < 16 then decimal.positional ".0"
        else decimal.scientific

/-- A double as plain text: positional whatever its size, without a point where none is
needed. -/
def plainDouble (bits : UInt64) : String :=
  match FloatParts.ofBits bits with
  | .nan => "NaN"
  | .infinite negative => signText negative ++ "inf"
  | .zero negative => signText negative ++ "0"
  | .finite negative magnitude => signText negative ++ magnitude.shortest.positional ""

end LogFilter
