import Formula.Numeric.Shortest

/-!
# The text of a number

A number is written with the digits of the shortest decimal that reads back as
it.  A style says what is done with them: where the point goes, and when a power
of ten is written instead.
-/

namespace Formula.Numeric

structure Style where
  /-- Written after a number without a fraction. -/
  afterWhole : String
  /-- Is a number written with a power of ten, by the exponent of its first digit? -/
  scientific : Int → Bool

namespace Style

/-- All digits, however many zeros that takes, and a point only before a fraction. -/
def plain : Style where
  afterWhole := ""
  scientific _ := false

/-- A fraction in every positional number, and a power of ten below `10 ^ (-4)`
and from `10 ^ 16` on. -/
def marked : Style where
  afterWhole := ".0"
  scientific exponent := exponent < -4 ∨ 16 ≤ exponent

def zero (style : Style) : String :=
  "0" ++ style.afterWhole

def zeros (n : Nat) : String :=
  String.ofList (List.replicate n '0')

/-- Digits with the point at a place that is counted from before the first one. -/
def positional (style : Style) (digits : List Char) (point : Int) : String :=
  let shown := String.ofList digits
  if point ≤ 0 then
    "0." ++ zeros (-point).toNat ++ shown
  else if digits.length ≤ point.toNat then
    shown ++ zeros (point.toNat - digits.length) ++ style.afterWhole
  else
    String.ofList (digits.take point.toNat) ++ "." ++ String.ofList (digits.drop point.toNat)

/-- Digits with the point after the first one, and a power of ten. -/
def powerOfTen (digits : List Char) (exponent : Int) : String :=
  let fraction := digits.drop 1
  String.ofList (digits.take 1)
    ++ (if fraction = [] then "" else "." ++ String.ofList fraction)
    ++ "e" ++ toString exponent

def decimal (style : Style) (x : Decimal) : String :=
  let digits := Nat.toDigits 10 x.digits
  let point := digits.length + x.exponent
  if style.scientific (point - 1) then powerOfTen digits (point - 1)
  else style.positional digits point

/-- The text of a number; zero has a sign too, and what is no number has none. -/
def render (style : Style) (x : Float) : String :=
  match Binary64.ofFloat x with
  | .nan => "NaN"
  | .infinite negative => (if negative then "-" else "") ++ "inf"
  | .finite negative magnitude =>
      (if negative then "-" else "")
        ++ (if magnitude.significand = 0 then style.zero else style.decimal magnitude.shortest)

end Style

end Formula.Numeric
