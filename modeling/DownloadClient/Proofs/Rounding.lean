import Mathlib
import DownloadClient.Number.Rounding

/-! Rounding as an order: what is rounded to more than a number, and that rounding keeps the order,
whether to whole numbers or to a number of binary digits. -/

namespace DownloadClient.Number

theorem lt_roundQuotient_iff {n d k : Nat} (hd : 0 < d) : k < roundQuotient n d ↔
    (2 * k + 1) * d < 2 * n ∨ (2 * k + 1) * d = 2 * n ∧ k % 2 = 1 := by
  have whole := Nat.div_add_mod n d
  have rest := Nat.mod_lt n hd
  rw [Nat.mul_comm] at whole
  have step : (2 * k + 1) * d = 2 * (k * d) + d := by ring
  rw [step]
  simp only [roundQuotient]
  rcases lt_trichotomy k (n / d) with h | rfl | h
  · have := Nat.mul_le_mul_right d (Nat.succ_le_of_lt h)
    rw [Nat.succ_mul] at this
    refine iff_of_true ?_ (.inl (by omega))
    split
    · exact h
    · split <;> omega
  · split
    · omega
    · split <;> omega
  · have := Nat.mul_le_mul_right d (Nat.succ_le_of_lt h)
    rw [Nat.succ_mul] at this
    refine iff_of_false ?_ (by omega)
    split
    · omega
    · split <;> omega

theorem roundQuotient_mono {m n : Nat} (h : m ≤ n) {d : Nat} (hd : 0 < d) :
    roundQuotient m d ≤ roundQuotient n d := by
  refine le_of_forall_lt fun k hk => ?_
  rw [lt_roundQuotient_iff hd] at hk ⊢
  omega

theorem le_roundQuotient {k n d : Nat} (hd : 0 < d) (h : k * d ≤ n) : k ≤ roundQuotient n d := by
  rw [← roundQuotient_mul k hd]
  exact roundQuotient_mono h hd

theorem roundQuotient_le {k n d : Nat} (hd : 0 < d) (h : n ≤ k * d) : roundQuotient n d ≤ k := by
  rw [← roundQuotient_mul k hd]
  exact roundQuotient_mono h hd

theorem roundQuotient_nearest (n k : Nat) {d : Nat} (hd : 0 < d) :
    Nat.dist n (roundQuotient n d * d) ≤ Nat.dist n (k * d) := by
  obtain ⟨above, below⟩ := roundQuotient_near n hd
  simp only [Nat.dist]
  rcases lt_trichotomy k (roundQuotient n d) with h | rfl | h
  · have := Nat.mul_le_mul_right d (Nat.succ_le_of_lt h)
    rw [Nat.succ_mul] at this
    omega
  · exact le_rfl
  · have := Nat.mul_le_mul_right d (Nat.succ_le_of_lt h)
    rw [Nat.succ_mul] at this
    omega

section Bits

variable {bits : Nat}

def Holds (bits x : Nat) : Prop := ∃ m e, m < 2 ^ bits ∧ x = m * 2 ^ e

/-- Of the numbers with so many significant binary digits none is nearer. -/
structure Nearest (bits n v : Nat) : Prop where
  holds : Holds bits v
  near : ∀ x, Holds bits x → Nat.dist n v ≤ Nat.dist n x

def unitIn (bits n : Nat) : Nat := 2 ^ (n.log2 + 1 - bits)

theorem unitIn_pos (bits n : Nat) : 0 < unitIn bits n := Nat.two_pow_pos _

theorem roundBits_eq (bits n : Nat) :
    roundBits bits n = roundQuotient n (unitIn bits n) * unitIn bits n := rfl

theorem roundBits_of_lt (hb : 0 < bits) {n : Nat} (h : n < 2 ^ bits) : roundBits bits n = n := by
  have short : n.log2 < bits := by
    rcases Nat.eq_zero_or_pos n with rfl | hn
    · exact hb
    · exact (Nat.log2_lt hn.ne').2 h
  have unit : unitIn bits n = 1 := by
    rw [unitIn, Nat.sub_eq_zero_of_le short, pow_zero]
  have whole := roundQuotient_mul n one_pos
  rw [mul_one] at whole
  rw [roundBits_eq, unit, whole, mul_one]

theorem exists_mul_unitIn (hb : 0 < bits) (n : Nat) : ∃ k, k * unitIn bits n = 2 ^ n.log2 :=
  ⟨2 ^ (n.log2 - (n.log2 + 1 - bits)), by rw [unitIn, ← pow_add]; congr 1; omega⟩

theorem roundBits_bounds (hb : 0 < bits) {n : Nat} (hn : n ≠ 0) :
    2 ^ n.log2 ≤ roundBits bits n ∧ roundBits bits n ≤ 2 ^ (n.log2 + 1) := by
  obtain ⟨k, hk⟩ := exists_mul_unitIn hb n
  have twice : (2 * k) * unitIn bits n = 2 ^ (n.log2 + 1) := by
    rw [Nat.mul_assoc, hk, pow_succ']
  have low := Nat.log2_self_le hn
  have high := Nat.lt_log2_self (n := n)
  rw [← hk] at low
  rw [← twice] at high
  rw [roundBits_eq, ← hk, ← twice]
  exact ⟨Nat.mul_le_mul_right _ (le_roundQuotient (unitIn_pos _ _) low),
    Nat.mul_le_mul_right _ (roundQuotient_le (unitIn_pos _ _) high.le)⟩

theorem log2_mono {m n : Nat} (h : m ≤ n) : m.log2 ≤ n.log2 := by
  rw [Nat.log2_eq_log_two, Nat.log2_eq_log_two]
  exact Nat.log_mono_right h

theorem roundBits_mono (hb : 0 < bits) {m n : Nat} (h : m ≤ n) :
    roundBits bits m ≤ roundBits bits n := by
  rcases (log2_mono h).eq_or_lt with same | less
  · have unit : unitIn bits m = unitIn bits n := by rw [unitIn, unitIn, same]
    rw [roundBits_eq, roundBits_eq, unit]
    exact Nat.mul_le_mul_right _ (roundQuotient_mono h (unitIn_pos _ _))
  · rcases Nat.eq_zero_or_pos m with rfl | hm
    · simp [roundBits_of_lt hb (Nat.two_pow_pos bits)]
    · calc roundBits bits m
          ≤ 2 ^ (m.log2 + 1) := (roundBits_bounds hb hm.ne').2
        _ ≤ 2 ^ n.log2 := Nat.pow_le_pow_right two_pos less
        _ ≤ roundBits bits n := (roundBits_bounds hb (hm.trans_le h).ne').1

theorem holds_roundBits (hb : 0 < bits) (n : Nat) : Holds bits (roundBits bits n) := by
  have limit : roundQuotient n (unitIn bits n) ≤ 2 ^ bits := by
    refine roundQuotient_le (unitIn_pos _ _) ?_
    calc n ≤ 2 ^ (n.log2 + 1) := Nat.lt_log2_self.le
      _ ≤ 2 ^ (bits + (n.log2 + 1 - bits)) := Nat.pow_le_pow_right two_pos (by omega)
      _ = 2 ^ bits * unitIn bits n := pow_add 2 _ _
  rcases limit.lt_or_eq with h | h
  · exact ⟨_, _, h, rfl⟩
  · -- all digits are ones but for the rounding, which leaves a power of two
    refine ⟨1, bits + (n.log2 + 1 - bits), Nat.one_lt_two_pow hb.ne', ?_⟩
    rw [roundBits_eq, h, unitIn, one_mul, pow_add]

theorem roundBits_nearest (hb : 0 < bits) (n : Nat) : Nearest bits n (roundBits bits n) where
  holds := holds_roundBits hb n
  near := by
    rintro _ ⟨m, e, hm, rfl⟩
    rw [roundBits_eq]
    by_cases he : n.log2 + 1 - bits ≤ e
    · have multiple : m * 2 ^ e = m * 2 ^ (e - (n.log2 + 1 - bits)) * unitIn bits n := by
        rw [unitIn, Nat.mul_assoc, ← pow_add, Nat.sub_add_cancel he]
      rw [multiple]
      exact roundQuotient_nearest n _ (unitIn_pos _ _)
    · -- finer numbers all lie below the power of two that `n` has reached
      obtain ⟨k, hk⟩ := exists_mul_unitIn hb n
      have nearest := roundQuotient_nearest n k (unitIn_pos bits n)
      have reached := Nat.log2_self_le (n := n) (by rintro rfl; simp at he; omega)
      have below : m * 2 ^ e ≤ 2 ^ n.log2 := by
        calc m * 2 ^ e ≤ 2 ^ bits * 2 ^ e := Nat.mul_le_mul_right _ hm.le
          _ = 2 ^ (bits + e) := (pow_add 2 _ _).symm
          _ ≤ 2 ^ n.log2 := Nat.pow_le_pow_right two_pos (by omega)
      rw [hk] at nearest
      simp only [Nat.dist] at nearest ⊢
      omega

end Bits

end DownloadClient.Number
