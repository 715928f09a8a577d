/-!
# Decimals that identify a floating-point number

A finite binary64 number is `mantissa * 2 ^ exponent`. The reals that round to it form an
interval, and the decimal chosen for it is the one in that interval with the fewest digits, the
nearest of those, with an even last digit on a tie. All comparisons are exact.
-/
namespace Blueprint.Decimal

/-- A positive binary64 number. -/
structure Binary where
  mantissa : Nat
  exponent : Int
  /-- The gap to the number below is half the gap to the number above. -/
  narrowBelow : Bool

/-- The magnitude that sixty-four bits stand for, when they stand for a finite number. -/
def Binary.ofBits (bits : UInt64) : Binary :=
  let biased := ((bits >>> 52) &&& 0x7FF).toNat
  let fraction := (bits &&& 0xFFFFFFFFFFFFF).toNat
  if biased = 0 then ⟨fraction, -1074, false⟩
  else
    ⟨0x10000000000000 + fraction, (biased : Int) - 1075,
      decide (fraction = 0) && decide (1 < biased)⟩

/-- The decimal `digits * 10 ^ exponent`. -/
structure Digits where
  digits : Nat
  exponent : Int

/-- Two to a power, where a negative exponent counts as zero. -/
def twos (n : Int) : Nat := Nat.pow 2 n.toNat

/-- Ten to a power, where a negative exponent counts as zero. -/
def tens (n : Int) : Nat := Nat.pow 10 n.toNat

/-- Compares `a * 10 ^ i` with `b * 2 ^ j`. -/
def compareScaled (a : Nat) (i : Int) (b : Nat) (j : Int) : Ordering :=
  compare (a * tens i * twos (-j)) (b * twos j * tens (-i))

/-- The decimal lies among the reals that round to the number; the ends of the interval belong to
an even mantissa. -/
def Binary.readsBack (x : Binary) (d : Digits) : Bool :=
  let low := 4 * x.mantissa - if x.narrowBelow then 1 else 2
  let ends := x.mantissa % 2 == 0
  let fromBelow := compareScaled d.digits d.exponent low (x.exponent - 2)
  let fromAbove := compareScaled d.digits d.exponent (4 * x.mantissa + 2) (x.exponent - 2)
  (fromBelow == .gt || (ends && fromBelow == .eq)) &&
    (fromAbove == .lt || (ends && fromAbove == .eq))

/-- The number in units of `10 ^ unit`, rounded down. -/
def Binary.floorIn (x : Binary) (unit : Int) : Nat :=
  (x.mantissa * twos x.exponent * tens (-unit)) / (twos (-x.exponent) * tens unit)

/-- The least power of ten above the number, found upwards from an exponent below it. -/
def Binary.magnitude (x : Binary) : Nat → Int → Int
  | 0, k => k
  | steps + 1, k =>
    if compareScaled 1 k x.mantissa x.exponent == .gt then k else x.magnitude steps (k + 1)

/-- The better of the two neighbours of the number on the grid `10 ^ unit`, if one reads back. -/
def Binary.onGrid (x : Binary) (unit : Int) : Option Digits :=
  let below : Digits := ⟨x.floorIn unit, unit⟩
  let above : Digits := ⟨x.floorIn unit + 1, unit⟩
  match x.readsBack below, x.readsBack above with
  | false, false => none
  | true, false => some below
  | false, true => some above
  | true, true =>
    match compareScaled (below.digits + above.digits) unit x.mantissa (x.exponent + 1) with
    | .gt => some below
    | .lt => some above
    | .eq => if below.digits % 2 = 0 then some below else some above

/-- Zeros at the end of the digits move into the exponent. -/
def Digits.stripped : Nat → Digits → Digits
  | 0, d => d
  | steps + 1, d =>
    if d.digits ≠ 0 ∧ d.digits % 10 = 0 then stripped steps ⟨d.digits / 10, d.exponent + 1⟩ else d

/-- The decimal chosen for a positive number: seventeen digits always suffice. -/
def Binary.shortest (x : Binary) : Digits :=
  let top := x.magnitude 700 (-330)
  let found := (List.range 17).findSome? fun n => x.onGrid (top - (n + 1 : Nat))
  (found.getD ⟨x.floorIn (top - 17), top - 17⟩).stripped 20

def zeros (n : Nat) : List Char := List.replicate n '0'

/-- Numbers from 10^-5 up to 10^16 are written positionally and with a point, all others with an
exponent that has a sign and no padding. -/
def Digits.text (d : Digits) : List Char :=
  let ds := Nat.toDigits 10 d.digits
  let point : Int := ds.length + d.exponent
  if 0 ≤ d.exponent ∧ point ≤ 16 then ds ++ zeros d.exponent.toNat ++ ['.', '0']
  else if 0 < point ∧ point ≤ 16 then ds.take point.toNat ++ '.' :: ds.drop point.toNat
  else if -5 < point ∧ point ≤ 0 then ['0', '.'] ++ zeros (-point).toNat ++ ds
  else
    let fraction := if ds.length = 1 then [] else '.' :: ds.drop 1
    let sign := if point - 1 < 0 then '-' else '+'
    ds.take 1 ++ fraction ++ 'e' :: sign :: Nat.toDigits 10 (point - 1).natAbs

/-- A finite number in decimal. -/
def text (x : Float) : String :=
  let negative := x.toBits >>> 63 == 1
  let magnitude := Binary.ofBits (x.toBits &&& 0x7FFFFFFFFFFFFFFF)
  let body := if magnitude.mantissa = 0 then ['0', '.', '0'] else magnitude.shortest.text
  String.ofList (if negative then '-' :: body else body)

end Blueprint.Decimal
