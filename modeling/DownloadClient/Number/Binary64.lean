import DownloadClient.Number.Rounding

/-! The value of a finite double, `± mantissa · 2 ^ exponent`, read off its 64 bits. -/

namespace DownloadClient.Number

structure Binary64 where
  negative : Bool
  mantissa : Nat
  exponent : Int
  deriving DecidableEq

inductive FloatClass
  | finite (v : Binary64)
  | infinite (negative : Bool)
  | nan
  deriving DecidableEq

def FloatClass.ofBits (bits : Nat) : FloatClass :=
  let negative := decide (Nat.pow 2 63 ≤ bits)
  let e : Nat := bits / Nat.pow 2 52 % 2048
  let f := bits % Nat.pow 2 52
  if e = 2047 then if f = 0 then .infinite negative else .nan
  else if e = 0 then .finite ⟨negative, f, -1074⟩
  else .finite ⟨negative, Nat.pow 2 52 + f, (e : Int) - 1075⟩

def FloatClass.of (x : Float) : FloatClass := .ofBits x.toBits.toNat

def Binary64.fraction (v : Binary64) : Nat × Nat :=
  (v.mantissa * Nat.pow 2 v.exponent.toNat, Nat.pow 2 (-v.exponent).toNat)

def Binary64.fixed (places : Nat) (v : Binary64) : List Char :=
  let text := Number.fixed places v.fraction.1 v.fraction.2
  if v.negative then '-' :: text else text

end DownloadClient.Number
