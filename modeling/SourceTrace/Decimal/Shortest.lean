/-!
# The shortest decimal of a binary fraction

A binary floating-point number stands for all reals that round to it. Of the decimals in that
interval this module finds the one with the fewest digits, and of several with that many the one
nearest to the number; a tie goes to the even last digit. Everything is exact arithmetic on natural
numbers.
-/
namespace SourceTrace.Decimal

/-- The number `mantissa * 2 ^ exponent`. `narrowBelow` tells that the next smaller number is only
half as far away as the next larger one. -/
structure Binary where
  mantissa : Nat
  exponent : Int
  narrowBelow : Bool
  deriving DecidableEq, Repr

/-- The decimal `digits * 10 ^ exponent`. -/
structure Value where
  digits : Nat
  exponent : Int
  deriving DecidableEq, Repr

/-- The numerator and denominator of `n * 2 ^ twos * 10 ^ tens`. -/
def fraction (n : Nat) (twos tens : Int) : Nat × Nat :=
  (n * Nat.pow 2 twos.toNat * Nat.pow 10 tens.toNat,
    Nat.pow 2 (-twos).toNat * Nat.pow 10 (-tens).toNat)

/-- Whether the first fraction is below the second one. -/
def below (left right : Nat × Nat) : Bool := left.1 * right.2 < right.1 * left.2

/-- Whether a decimal lies in the interval of reals that round to a binary number. The ends belong
to it if the mantissa is even. -/
def rounds (b : Binary) (d : Value) : Bool :=
  let low := fraction (4 * b.mantissa - if b.narrowBelow then 1 else 2) (b.exponent - 2) 0
  let high := fraction (4 * b.mantissa + 2) (b.exponent - 2) 0
  let value := fraction d.digits 0 d.exponent
  if b.mantissa % 2 = 0 then !below value low && !below high value
  else below low value && below value high

/-- The decimal exponent of the first digit, found upwards from `guess`. -/
def magnitude (b : Binary) : Nat → Int → Int
  | 0, guess => guess
  | fuel + 1, guess =>
    if below (fraction b.mantissa b.exponent 0) (fraction 1 0 (guess + 1)) then guess
    else magnitude b fuel (guess + 1)

/-- The nearest decimal of so many digits that rounds to the number, if one does. Of two that are
equally near it is the one with the even last digit. -/
def candidate? (b : Binary) (first : Int) (count : Nat) : Option Value :=
  let exponent := first - count + 1
  let value := fraction b.mantissa b.exponent (-exponent)
  let floor := value.1 / value.2
  let lower : Value := ⟨floor, exponent⟩
  let upper : Value := ⟨floor + 1, exponent⟩
  match rounds b lower, rounds b upper with
  | true, true =>
    let twice := 2 * (value.1 % value.2)
    if twice < value.2 || (twice = value.2 && floor % 2 = 0) then some lower else some upper
  | true, false => some lower
  | false, true => some upper
  | false, false => none

/-- The shortest decimal of a positive binary number of double precision, for which seventeen digits
always suffice. -/
def shortest (b : Binary) : Value :=
  let first := magnitude b 700 (-330)
  ((List.range' 1 17).findSome? (candidate? b first)).getD ⟨b.mantissa, 0⟩

/-- Drops the zeros at the end of the digits; each of them is one more in the exponent. -/
def stripZeros : Nat → Value → Value
  | 0, d => d
  | fuel + 1, d =>
    if d.digits ≠ 0 ∧ d.digits % 10 = 0 then stripZeros fuel ⟨d.digits / 10, d.exponent + 1⟩ else d

/-- The decimal exponents that are written positionally: from `least` up to and without `most`. -/
structure Format where
  least : Int
  most : Int

/-- A decimal as text. Positional texts have at least one digit behind the point; in the others the
point follows the first digit and the exponent has a sign. -/
def text (format : Format) (d : Value) : String :=
  let d := stripZeros 400 d
  let digits := Nat.toDigits 10 d.digits
  let first := d.exponent + digits.length - 1
  if format.least ≤ first ∧ first < format.most then
    let padded := if first < 0 then List.replicate (-first).toNat '0' ++ digits else digits
    let whole := (first + 1).toNat.max 1
    let filled := padded ++ List.replicate (whole + 1 - padded.length) '0'
    String.ofList (filled.take whole ++ ['.'] ++ filled.drop whole)
  else
    let mantissa :=
      match digits with
      | [] => "0"
      | [c] => String.ofList [c]
      | c :: rest => String.ofList (c :: '.' :: rest)
    let sign := if first < 0 then "-" else "+"
    s!"{mantissa}e{sign}{first.natAbs}"

end SourceTrace.Decimal
