import DownloadClient.Number.Binary64

/-! The fewest decimal digits that name a double: of the decimals of that many digits in the
interval of reals that round to it, the nearest to it. -/

namespace DownloadClient.Number

open DownloadClient.Text

structure Decimal where
  digits : Nat
  exponent : Int
  deriving DecidableEq

/-- The reals that round to a double, as numerators over one denominator. -/
structure Interval where
  low : Nat
  value : Nat
  high : Nat
  denominator : Nat
  closed : Bool

def Binary64.interval (v : Binary64) : Interval :=
  let up := Nat.pow 2 (v.exponent - 2).toNat
  let below := if v.mantissa = Nat.pow 2 52 ∧ -1074 < v.exponent then 1 else 2
  { low := (4 * v.mantissa - below) * up
    value := 4 * v.mantissa * up
    high := (4 * v.mantissa + 2) * up
    denominator := Nat.pow 2 (2 - v.exponent).toNat
    closed := v.mantissa % 2 = 0 }

def Interval.contains (i : Interval) (n d : Nat) : Bool :=
  let (l, x, h) := (i.low * d, n * i.denominator, i.high * d)
  if i.closed then decide (l ≤ x) && decide (x ≤ h) else decide (l < x) && decide (x < h)

def leadingExponent (n d : Nat) : Nat → Int → Int
  | 0, e => e
  | k + 1, e =>
    if d * Nat.pow 10 e.toNat ≤ n * Nat.pow 10 (-e).toNat then e else leadingExponent n d k (e - 1)

/-- The neighbour on the grid of multiples of `10 ^ e` that lies in the interval, the nearer one
if both do. -/
def Interval.onGrid? (i : Interval) (e : Int) : Option Decimal :=
  let up := Nat.pow 10 e.toNat
  let down := Nat.pow 10 (-e).toNat
  let c := i.value * down / (i.denominator * up)
  let below := i.contains (c * up) down
  let above := i.contains ((c + 1) * up) down
  let nearer := 2 * (i.value * down) < (2 * c + 1) * (i.denominator * up)
  let tie := 2 * (i.value * down) = (2 * c + 1) * (i.denominator * up)
  match below, above with
  | true, true => some ⟨if nearer ∨ (tie ∧ c % 2 = 0) then c else c + 1, e⟩
  | true, false => some ⟨c, e⟩
  | false, true => some ⟨c + 1, e⟩
  | false, false => none

def Interval.search (i : Interval) (first : Int) : Nat → Decimal
  | 0 => ⟨i.value / i.denominator, 0⟩
  | n + 1 =>
    match i.onGrid? (first - (17 - (n + 1) : Nat)) with
    | some d => d
    | none => i.search first n

def Binary64.shortest (v : Binary64) : Decimal :=
  let i := v.interval
  i.search (leadingExponent i.value i.denominator 700 310) 17

def Decimal.significant (d : Decimal) : List Char × Int :=
  let ds := decimal d.digits
  ((ds.reverse.dropWhile (· == '0')).reverse, d.exponent + ds.length - 1)

/-- How a program writes its doubles: positional while the exponent of the first digit is between
two bounds, with a digit after the point in every case, and with a signed exponent beyond. -/
structure FloatFormat where
  least : Int
  greatest : Int

def FloatFormat.magnitude (f : FloatFormat) (d : Decimal) : List Char :=
  let (ds, e) := d.significant
  if f.least ≤ e ∧ e ≤ f.greatest then
    if e < 0 then '0' :: '.' :: (List.replicate (-e - 1).toNat '0' ++ ds)
    else
      let whole := ds.take (e.toNat + 1)
      let rest := ds.drop (e.toNat + 1)
      whole ++ List.replicate (e.toNat + 1 - whole.length) '0'
        ++ '.' :: (if rest.isEmpty then ['0'] else rest)
  else
    let point := if ds.length ≤ 1 then [] else '.' :: ds.drop 1
    ds.take 1 ++ point ++ 'e' :: (if e < 0 then '-' else '+') :: decimal e.natAbs

def FloatFormat.text? (f : FloatFormat) (x : Float) : Option (List Char) :=
  match FloatClass.of x with
  | .finite v =>
    let magnitude := if v.mantissa = 0 then "0.0".toList else f.magnitude v.shortest
    some (if v.negative then '-' :: magnitude else magnitude)
  | _ => none

end DownloadClient.Number
