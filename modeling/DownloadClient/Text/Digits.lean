/-! Numerals: decimal and hexadecimal digits, and the number a run of digits stands for. -/

namespace DownloadClient.Text

def digitChar (d : Nat) : Char := Char.ofNat ('0'.toNat + d)

def isDigit (c : Char) : Bool := decide ('0' ≤ c) && decide (c ≤ '9')

def digitValue (c : Char) : Nat := c.toNat - '0'.toNat

def decimal (n : Nat) : List Char :=
  if n < 10 then [digitChar n] else decimal (n / 10) ++ [digitChar (n % 10)]

def ofDecimal (s : List Char) : Nat := s.foldl (fun n c => n * 10 + digitValue c) 0

def signedDecimal : Int → List Char
  | .ofNat n => decimal n
  | .negSucc n => '-' :: decimal (n + 1)

def hexChar (d : Nat) : Char :=
  if d < 10 then Char.ofNat ('0'.toNat + d) else Char.ofNat ('a'.toNat + d - 10)

def upperHexChar (d : Nat) : Char :=
  if d < 10 then Char.ofNat ('0'.toNat + d) else Char.ofNat ('A'.toNat + d - 10)

def hexValue? (c : Char) : Option Nat :=
  if '0' ≤ c ∧ c ≤ '9' then some (c.toNat - '0'.toNat)
  else if 'a' ≤ c ∧ c ≤ 'f' then some (c.toNat - 'a'.toNat + 10)
  else if 'A' ≤ c ∧ c ≤ 'F' then some (c.toNat - 'A'.toNat + 10)
  else none

def hexadecimal (n : Nat) : List Char :=
  if n < 16 then [hexChar n] else hexadecimal (n / 16) ++ [hexChar (n % 16)]

def ofHexadecimal (s : List Char) : Nat := s.foldl (fun n c => n * 16 + (hexValue? c).getD 0) 0

theorem digitChar_mem {d : Nat} (h : d < 10) :
    isDigit (digitChar d) = true ∧ digitValue (digitChar d) = d := by
  have all : ∀ e ∈ List.range 10, isDigit (digitChar e) = true ∧ digitValue (digitChar e) = e := by
    decide
  exact all d (List.mem_range.2 h)

@[simp] theorem ofDecimal_append (s : List Char) (c : Char) :
    ofDecimal (s ++ [c]) = ofDecimal s * 10 + digitValue c := by
  simp [ofDecimal]

@[simp] theorem ofDecimal_decimal (n : Nat) : ofDecimal (decimal n) = n := by
  induction n using Nat.strongRecOn with
  | _ n ih =>
    rw [decimal]
    split
    · next h => simpa [ofDecimal] using (digitChar_mem h).2
    · next h =>
      rw [ofDecimal_append, ih (n / 10) (by omega), (digitChar_mem (Nat.mod_lt n (by omega))).2]
      omega

theorem isDigit_of_mem_decimal (n : Nat) : ∀ c ∈ decimal n, isDigit c = true := by
  induction n using Nat.strongRecOn with
  | _ n ih =>
    rw [decimal]
    split
    · next h =>
      intro c hc
      rw [List.mem_singleton.1 hc]
      exact (digitChar_mem h).1
    · next h =>
      intro c hc
      obtain hc | hc := List.mem_append.1 hc
      · exact ih (n / 10) (by omega) c hc
      · rw [List.mem_singleton.1 hc]
        exact (digitChar_mem (Nat.mod_lt n (by omega))).1

theorem decimal_ne_nil (n : Nat) : decimal n ≠ [] := by
  rw [decimal]
  split <;> simp

theorem decimal_ne_zero_cons (n : Nat) (c : Char) (s : List Char) : decimal n ≠ '0' :: c :: s := by
  induction n using Nat.strongRecOn generalizing c s with
  | _ n ih =>
    rw [decimal]
    split
    · simp
    · next h =>
      intro e
      cases hs : decimal (n / 10) with
      | nil => exact decimal_ne_nil _ hs
      | cons d ds =>
        rw [hs] at e
        obtain ⟨rfl, e⟩ := List.cons.inj e
        cases ds with
        | nil =>
          -- the number without its last digit would be zero, and it is at least one
          have := ofDecimal_decimal (n / 10)
          rw [hs] at this
          have zero : ofDecimal ['0'] = 0 := by decide
          omega
        | cons d' ds => exact ih (n / 10) (by omega) d' ds hs

@[simp] theorem ofDecimal_cons_zero (s : List Char) : ofDecimal ('0' :: s) = ofDecimal s := rfl

theorem ofDecimal_replicate_zero (n : Nat) (s : List Char) :
    ofDecimal (List.replicate n '0' ++ s) = ofDecimal s := by
  induction n with
  | zero => rfl
  | succ n ih => rw [List.replicate_succ, List.cons_append, ofDecimal_cons_zero, ih]

theorem length_decimal_le {n k : Nat} (h : n < Nat.pow 10 (k + 1)) :
    (decimal n).length ≤ k + 1 := by
  induction k generalizing n with
  | zero =>
    rw [decimal, if_pos h]
    exact Nat.le_refl 1
  | succ k ih =>
    rw [decimal]
    split
    · simp
    · have := ih (n := n / 10) (Nat.div_lt_of_lt_mul (Nat.mul_comm 10 _ ▸ h))
      rw [List.length_append, List.length_singleton]
      omega

end DownloadClient.Text
