import DownloadClient.Text.Digits

/-! Rounding to nearest, a tie going to the even neighbour: of a quotient, to a number of binary
digits, and to a number of decimal places. -/

namespace DownloadClient.Number

open DownloadClient.Text

/-- The natural number nearest to `n / d`, the even one of two that are equally near. -/
def roundQuotient (n d : Nat) : Nat :=
  let q := n / d
  let r := n % d
  if 2 * r < d then q
  else if 2 * r = d then q + q % 2
  else q + 1

/-- The nearest number that `bits` significant binary digits can hold. -/
def roundBits (bits n : Nat) : Nat :=
  let unit := Nat.pow 2 (n.log2 + 1 - bits)
  roundQuotient n unit * unit

def placed (places h : Nat) : List Char :=
  let fraction := decimal (h % Nat.pow 10 places)
  match places with
  | 0 => decimal h
  | _ + 1 => decimal (h / Nat.pow 10 places)
      ++ '.' :: (List.replicate (places - fraction.length) '0' ++ fraction)

def fixed (places n d : Nat) : List Char := placed places (roundQuotient (n * Nat.pow 10 places) d)

theorem roundQuotient_mul (q : Nat) {d : Nat} (hd : 0 < d) : roundQuotient (q * d) d = q := by
  simp [roundQuotient, Nat.mul_div_cancel q hd, hd]

theorem roundQuotient_near (n : Nat) {d : Nat} (hd : 0 < d) :
    2 * (roundQuotient n d * d) ≤ 2 * n + d ∧ 2 * n ≤ 2 * (roundQuotient n d * d) + d := by
  have hm := Nat.div_add_mod n d
  have hr := Nat.mod_lt n hd
  rw [Nat.mul_comm] at hm
  simp only [roundQuotient]
  split
  · omega
  · split
    · rcases Nat.mod_two_eq_zero_or_one (n / d) with h | h <;>
        simp only [h, Nat.add_zero, Nat.add_mul] <;> omega
    · simp only [Nat.add_mul]; omega

end DownloadClient.Number
