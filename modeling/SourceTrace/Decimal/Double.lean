import SourceTrace.Decimal.Shortest

/-!
# Numbers of double precision

Reading the digits of a number literal into double precision, and the text of the result. The
reading keeps as many leading digits as fit into 64 bits and scales them by a power of ten once, so
the last bit may differ from the nearest number to the literal; the text then shows the number that
was read.
-/
namespace SourceTrace.Decimal

/-- The leading digits of a literal as one number below 2 ^ 64, and the power of ten it is to be
scaled by. -/
structure Significand where
  value : Nat
  exponent : Int
  deriving DecidableEq, Repr

/-- Whether a digit still fits behind the number. -/
def fits (value digit : Nat) : Bool := value * 10 + digit < Nat.pow 2 64

/-- Reads the digits in front of the point. From the first one that does not fit, every digit only
raises the exponent. -/
def readWhole (value : Nat) : List Nat → Significand
  | [] => ⟨value, 0⟩
  | d :: rest => if fits value d then readWhole (value * 10 + d) rest else ⟨value, rest.length + 1⟩

/-- Reads the digits behind the point. From the first one that does not fit, digits are ignored. -/
def readFraction (s : Significand) : List Nat → Significand
  | [] => s
  | d :: rest =>
    if fits s.value d then readFraction ⟨s.value * 10 + d, s.exponent - 1⟩ rest else s

def maxExponent : Int := 2147483647

/-- An exponent kept within 32 bits. -/
def clamp (n : Int) : Int := max (-maxExponent - 1) (min maxExponent n)

/-- A power of ten up to 308, correctly rounded. -/
def powerOfTen (n : Nat) : Float := Float.ofScientific 1 false n

/-- Scales a number by a power of ten; `none` if the result is out of range. -/
def scale? : Nat → Float → Int → Option Float
  | 0, f, _ => some f
  | fuel + 1, f, exponent =>
    if exponent.natAbs ≤ 308 then
      if 0 ≤ exponent then
        let scaled := f * powerOfTen exponent.natAbs
        if scaled.isInf then none else some scaled
      else some (f / powerOfTen exponent.natAbs)
    else if f == 0 then some f
    else if 0 ≤ exponent then none
    else scale? fuel (f / powerOfTen 308) (exponent + 308)

/-- The number of double precision that a literal without its sign is read as: the digits in front
of the point, those behind it, and the exponent if there is one. `none` if it is out of range. -/
def readDouble? (whole fraction : List Nat) (exponent : Option Int) : Option Float :=
  let s := readFraction (readWhole 0 whole) fraction
  match exponent with
  | none => scale? 8 (Float.ofNat s.value) s.exponent
  | some e =>
    if e.natAbs ≤ maxExponent then scale? 8 (Float.ofNat s.value) (clamp (s.exponent + e))
    else if s.value ≠ 0 ∧ 0 ≤ e then none
    else some 0

/-- The parts of a positive finite number of double precision. -/
def Binary.ofFloat (f : Float) : Binary :=
  let bits := f.toBits.toNat
  let low : Nat := bits % Nat.pow 2 52
  let high : Nat := bits / Nat.pow 2 52 % Nat.pow 2 11
  if high = 0 then ⟨low, -1074, false⟩
  else ⟨low + Nat.pow 2 52, (high : Int) - 1075, low = 0 ∧ 1 < high⟩

/-- Doubles are written positionally from 0.00001 up to below ten to the sixteenth. -/
def doubleFormat : Format := ⟨-5, 16⟩

/-- The text of a number of double precision that is not negative. -/
def doubleText (f : Float) : String :=
  if f == 0 then "0.0" else text doubleFormat (shortest (Binary.ofFloat f))

end SourceTrace.Decimal
