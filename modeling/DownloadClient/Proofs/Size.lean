import Mathlib
import DownloadClient.Display.Size
import DownloadClient.Proofs.Rounding
import DownloadClient.Text.Split

/-! Sizes as they are shown: what is read off the text of a size, how far that is from the size, and
in which order the texts of two sizes stand. The unit is chosen before the number is rounded, so
just below a unit the text holds a thousand and twenty-four of the one before. -/

namespace DownloadClient.Display

open DownloadClient.Number DownloadClient.Text

/-- What the text of a size says: a number, given to so many places, of units of so many bytes. -/
structure Quantity where
  number : ℚ
  places : ℕ
  unit : ℕ
  deriving DecidableEq

def isNumeral (s : List Char) : Bool := !s.isEmpty && s.all isDigit

def number? (s : List Char) : Option (ℚ × ℕ) :=
  match cut? '.' s with
  | none => if isNumeral s then some (ofDecimal s, 0) else none
  | some (whole, places) =>
    if isNumeral whole && isNumeral places then
      some (ofDecimal whole + ofDecimal places / 10 ^ places.length, places.length)
    else none

def unit? (name : List Char) : Option ℕ :=
  match String.ofList name with
  | "B" => some 1
  | "KiB" => some 1024
  | "MiB" => some (1024 ^ 2)
  | "GiB" => some (1024 ^ 3)
  | "TiB" => some (1024 ^ 4)
  | _ => none

namespace Quantity

def of? (s : String) : Option Quantity := do
  let (number, name) ← cut? ' ' s.toList
  let (x, places) ← number? number
  return ⟨x, places, ← unit? name⟩

def bytes (q : Quantity) : ℚ := q.number * q.unit

end Quantity

theorem isNumeral_decimal (n : Nat) : isNumeral (decimal n) = true := by
  simpa [isNumeral, decimal_ne_nil] using isDigit_of_mem_decimal n

theorem not_mem_of_isNumeral {s : List Char} (h : isNumeral s = true) {c : Char}
    (hc : isDigit c = false) : c ∉ s := by
  intro hm
  rw [isNumeral, Bool.and_eq_true, List.all_eq_true] at h
  exact Bool.false_ne_true (hc.symm.trans (h.2 c hm))

theorem number?_decimal (n : Nat) : number? (decimal n) = some ((n : ℚ), 0) := by
  have whole := isNumeral_decimal n
  rw [number?, cut?_eq_none_iff.2 (not_mem_of_isNumeral whole (by decide))]
  simp [whole]

theorem places_placed (h : Nat) : ∃ places, placed 2 h = decimal (h / 100) ++ '.' :: places ∧
    isNumeral places = true ∧ places.length = 2 ∧ ofDecimal places = h % 100 := by
  have length : (decimal (h % 100)).length ≤ 2 :=
    length_decimal_le (k := 1) (Nat.mod_lt h (by decide))
  refine ⟨List.replicate (2 - (decimal (h % 100)).length) '0' ++ decimal (h % 100), rfl, ?_, ?_, ?_⟩
  · have zero : isDigit '0' = true := by decide
    simpa [isNumeral, decimal_ne_nil, zero] using isDigit_of_mem_decimal (h % 100)
  · rw [List.length_append, List.length_replicate]
    omega
  · rw [ofDecimal_replicate_zero, ofDecimal_decimal]

theorem number?_placed (h : Nat) : number? (placed 2 h) = some ((h : ℚ) / 100, 2) := by
  obtain ⟨places, text, numeral, length, value⟩ := places_placed h
  have whole := isNumeral_decimal (h / 100)
  have sum : ((h / 100 : Nat) : ℚ) + ((h % 100 : Nat) : ℚ) / 10 ^ 2 = (h : ℚ) / 100 := by
    have := congrArg (Nat.cast (R := ℚ)) (Nat.div_add_mod h 100)
    push_cast at this
    linarith
  rw [text, number?, cut?_append (not_mem_of_isNumeral whole (by decide))]
  simp only [whole, numeral, length, value, ofDecimal_decimal, Bool.and_self, if_true, sum]

theorem not_mem_decimal {c : Char} (digit : isDigit c = false) (n : Nat) : c ∉ decimal n :=
  not_mem_of_isNumeral (isNumeral_decimal n) digit

theorem not_mem_placed {c : Char} (digit : isDigit c = false) (point : c ≠ '.')
    (places h : Nat) : c ∉ placed places h := by
  have zero : c ≠ '0' := by
    rintro rfl
    exact absurd digit (by decide)
  cases places <;> simp [placed, not_mem_decimal digit, point, zero]

theorem unit?_name (u : SizeUnit) : unit? u.name.toList = some u.bytes := by
  cases u <;> rfl

namespace SizeUnit

theorem bytes_pos (u : SizeUnit) : 0 < u.bytes := by
  cases u <;> decide

theorem le_bytes (u : SizeUnit) : 1024 ≤ u.bytes := by
  cases u <;> decide

inductive Fills (n d : Nat) : SizeUnit → Prop
  | kibi (below : n < d * 1048576) : Fills n d .kibi
  | mebi (reached : d * 1048576 ≤ n) (below : n < d * 1073741824) : Fills n d .mebi
  | gibi (reached : d * 1073741824 ≤ n) (below : n < d * 1099511627776) : Fills n d .gibi
  | tebi (reached : d * 1099511627776 ≤ n) : Fills n d .tebi

variable {m n d : Nat}

theorem fills_of (n d : Nat) : Fills n d (of n d) := by
  unfold of
  split
  · next below => exact .kibi below
  · next reached =>
    split
    · next below => exact .mebi (Nat.le_of_not_lt reached) below
    · next reached =>
      split
      · next below => exact .gibi (Nat.le_of_not_lt reached) below
      · next reached => exact .tebi (Nat.le_of_not_lt reached)

theorem Fills.mul_bytes_le {u : SizeUnit} (h : Fills n d u) (least : d * 1024 ≤ n) :
    d * u.bytes ≤ n := by
  cases h with
  | kibi below => exact least
  | mebi reached below => exact reached
  | gibi reached below => exact reached
  | tebi reached => exact reached

theorem Fills.lt_mul_bytes {u : SizeUnit} (h : Fills n d u) (hu : u ≠ .tebi) :
    n < d * (1024 * u.bytes) := by
  cases h with
  | kibi below => exact below
  | mebi reached below => exact below
  | gibi reached below => exact below
  | tebi reached => exact absurd rfl hu

theorem Fills.of_bounds {u : SizeUnit} (hu : u ≠ .tebi) (reached : d * u.bytes ≤ n)
    (below : n < d * (1024 * u.bytes)) : Fills n d u := by
  cases u with
  | kibi => exact .kibi below
  | mebi => exact .mebi reached below
  | gibi => exact .gibi reached below
  | tebi => exact absurd rfl hu

theorem Fills.unique {u v : SizeUnit} (hu : Fills n d u) (hv : Fills n d v) : u = v := by
  cases hu <;> cases hv <;> first | rfl | omega

theorem Fills.eq_or_le {u v : SizeUnit} (hu : Fills m d u) (hv : Fills n d v) (h : m ≤ n) :
    u = v ∨ 1024 * u.bytes ≤ v.bytes := by
  cases hu <;> cases hv <;> first | exact .inl rfl | exact .inr (by decide) | omega

end SizeUnit

namespace Amount

variable {m n d : Nat}

theorem fills (n d : Nat) : SizeUnit.Fills n d (of n d).sizeUnit := SizeUnit.fills_of n d

theorem hundredths_of (n d : Nat) : (of n d).hundredths =
    roundQuotient (n * 100) (d * (of n d).sizeUnit.bytes) := rfl

theorem unit_pos (hd : 0 < d) (n : Nat) : 0 < d * (of n d).sizeUnit.bytes :=
  Nat.mul_pos hd (SizeUnit.bytes_pos _)

theorem hundred_le_hundredths (hd : 0 < d) (h : d * 1024 ≤ n) : 100 ≤ (of n d).hundredths := by
  have filled := (fills n d).mul_bytes_le h
  rw [hundredths_of]
  exact le_roundQuotient (unit_pos hd n) (by omega)

theorem hundredths_le (hd : 0 < d) (h : (of n d).sizeUnit ≠ .tebi) :
    (of n d).hundredths ≤ 102400 := by
  have below := (fills n d).lt_mul_bytes h
  rw [Nat.mul_left_comm] at below
  rw [hundredths_of]
  exact roundQuotient_le (unit_pos hd n) (by omega)

theorem lt_hundredths_iff (hd : 0 < d) (n : Nat) : 102399 < (of n d).hundredths ↔
    204799 * (d * (of n d).sizeUnit.bytes) ≤ 200 * n := by
  rw [hundredths_of, lt_roundQuotient_iff (unit_pos hd n)]
  omega

theorem overfull_iff (hd : 0 < d) (n : Nat) :
    (of n d).sizeUnit ≠ .tebi ∧ 102399 < (of n d).hundredths ↔
      ∃ u ≠ SizeUnit.tebi, 204799 * (d * u.bytes) ≤ 200 * n ∧ n < d * (1024 * u.bytes) := by
  constructor
  · rintro ⟨notLast, overfull⟩
    exact ⟨_, notLast, (lt_hundredths_iff hd n).1 overfull, (fills n d).lt_mul_bytes notLast⟩
  · rintro ⟨u, notLast, close, below⟩
    obtain rfl := (fills n d).unique (.of_bounds notLast (by omega) below)
    exact ⟨notLast, (lt_hundredths_iff hd n).2 close⟩

def shown (a : Amount) : Nat := a.hundredths * a.sizeUnit.bytes

theorem le_shown (hd : 0 < d) (h : d * 1024 ≤ n) : 102400 ≤ (of n d).shown :=
  calc 102400 = 100 * 1024 := rfl
    _ ≤ (of n d).shown :=
      Nat.mul_le_mul (hundred_le_hundredths hd h) (SizeUnit.le_bytes _)

theorem shown_mono (hd : 0 < d) (hm : d * 1024 ≤ m) (h : m ≤ n) :
    (of m d).shown ≤ (of n d).shown := by
  rcases (fills m d).eq_or_le (fills n d) h with same | next
  · have unit := unit_pos hd n
    rw [shown, shown, hundredths_of, hundredths_of, same]
    exact Nat.mul_le_mul_right _ (roundQuotient_mono (Nat.mul_le_mul_right 100 h) unit)
  · have notLast : (of m d).sizeUnit ≠ .tebi := by
      intro last
      rw [last] at next
      generalize (of n d).sizeUnit = u at next
      cases u <;> exact absurd next (by decide)
    calc (of m d).shown
        ≤ 102400 * (of m d).sizeUnit.bytes := Nat.mul_le_mul_right _ (hundredths_le hd notLast)
      _ ≤ 100 * (of n d).sizeUnit.bytes := by omega
      _ ≤ (of n d).shown := Nat.mul_le_mul_right _ (hundred_le_hundredths hd (hm.trans h))

def quantity (a : Amount) : Quantity := ⟨a.hundredths / 100, 2, a.sizeUnit.bytes⟩

theorem quantity_text (a : Amount) : Quantity.of? (String.ofList a.text) = some a.quantity := by
  rw [Quantity.of?, String.toList_ofList, text,
    cut?_append (not_mem_placed (by decide) (by decide) 2 _)]
  simp [number?_placed, unit?_name, quantity]

theorem bytes_quantity (a : Amount) : a.quantity.bytes = a.shown / 100 := by
  simp only [quantity, Quantity.bytes, shown, Nat.cast_mul]
  ring

end Amount

def valueOf (n : UInt64) : Nat := roundBits sizeBits n.toNat

theorem valueOf_nearest (n : UInt64) : Nearest sizeBits n.toNat (valueOf n) :=
  roundBits_nearest (by decide) _

theorem valueOf_mono {a b : UInt64} (h : a ≤ b) : valueOf a ≤ valueOf b :=
  roundBits_mono (by decide) (UInt64.le_iff_toNat_le.1 h)

theorem le_valueOf {n : UInt64} (h : 1024 ≤ n) : 1024 ≤ valueOf n := by
  have := valueOf_mono h
  rwa [valueOf, roundBits_of_lt (by decide) (by decide)] at this

theorem formatBytes_of_lt {n : UInt64} (h : n < 1024) :
    Quantity.of? (formatBytes n) = some ⟨n.toNat, 0, 1⟩ := by
  have blank : ' ' ∉ decimal n.toNat := not_mem_decimal (by decide) _
  have text : formatBytes n = String.ofList (decimal n.toNat ++ ' ' :: ['B']) :=
    congrArg String.ofList (if_pos (UInt64.lt_iff_toNat_lt.1 h))
  rw [Quantity.of?, text, String.toList_ofList, cut?_append blank]
  simp [number?_decimal, unit?]

theorem formatBytes_of_le {n : UInt64} (h : 1024 ≤ n) :
    Quantity.of? (formatBytes n) = some (Amount.of (valueOf n) 1).quantity := by
  have text : formatBytes n = String.ofList (Amount.of (valueOf n) 1).text :=
    congrArg String.ofList (if_neg (Nat.not_lt.2 (UInt64.le_iff_toNat_le.1 h)))
  rw [text, Amount.quantity_text]

/-- A number to two places with a unit, at least one of it, and as near to a value as two places
can be. -/
structure Shows (s : String) (v : ℕ) (q : Quantity) (u : SizeUnit) : Prop where
  reads : Quantity.of? s = some q
  places : q.places = 2
  unit : q.unit = u.bytes
  least : 1 ≤ q.number
  near : |q.number * u.bytes - v| ≤ (u.bytes : ℚ) / 200

theorem shows_formatBytes {n : UInt64} (h : 1024 ≤ n) : Shows (formatBytes n) (valueOf n)
    (Amount.of (valueOf n) 1).quantity (Amount.of (valueOf n) 1).sizeUnit where
  reads := formatBytes_of_le h
  places := rfl
  unit := rfl
  least := by
    have := Amount.hundred_le_hundredths one_pos (by simpa using le_valueOf h)
    rw [Amount.quantity, one_le_div (by norm_num)]
    exact_mod_cast this
  near := by
    have unit := Amount.unit_pos one_pos (valueOf n)
    obtain ⟨above, below⟩ := roundQuotient_near (valueOf n * 100) unit
    rw [← Amount.hundredths_of, Nat.one_mul] at above below
    have above := Nat.cast_le (α := ℚ).2 above
    have below := Nat.cast_le (α := ℚ).2 below
    push_cast at above below
    rw [Amount.quantity, abs_le]
    constructor <;> linarith

/-- The number is too large for its unit where the value falls short of the next unit by no more
than half a hundredth of its own, and there only. -/
theorem overfull_iff_near_next {n : UInt64} (h : 1024 ≤ n) :
    Nearest sizeBits n.toNat (valueOf n) ∧ ∃ q u, Shows (formatBytes n) (valueOf n) q u ∧
      (u ≠ .tebi → q.number ≤ 1023.99 ∨ q.number = 1024) ∧
      (u ≠ .tebi ∧ 1023.99 < q.number ↔ ∃ w ≠ SizeUnit.tebi,
        (1024 - 1 / 200) * (w.bytes : ℚ) ≤ valueOf n ∧ valueOf n < 1024 * w.bytes) := by
  have number_lt (a : Amount) : 1023.99 < a.quantity.number ↔ 102399 < a.hundredths := by
    rw [Amount.quantity, lt_div_iff₀ (by norm_num), ← Nat.cast_lt (α := ℚ)]
    norm_num
  have near_next (w v : ℕ) : (1024 - 1 / 200) * (w : ℚ) ≤ v ↔ 204799 * w ≤ 200 * v := by
    rw [← Nat.cast_le (α := ℚ)]
    push_cast
    constructor <;> intro <;> linarith
  refine ⟨valueOf_nearest n, _, _, shows_formatBytes h, fun notLast => ?_, ?_⟩
  · rw [← not_lt, number_lt, or_iff_not_imp_left, not_not]
    intro overfull
    have full := (Amount.hundredths_le one_pos notLast).antisymm overfull
    rw [Amount.quantity, full]
    norm_num
  · simpa only [number_lt, near_next, Nat.one_mul] using
      Amount.overfull_iff one_pos (valueOf n)

theorem kibibytes_overfull : formatBytes 1048575 = "1024.00 KiB" ∧
    ∃ q u, Shows (formatBytes 1048575) 1048575 q u ∧ u ≠ .tebi ∧ 1023.99 < q.number := by
  have value : valueOf 1048575 = 1048575 := roundBits_of_lt (by decide) (by decide)
  obtain ⟨-, q, u, shows, -, overfull⟩ := overfull_iff_near_next (n := 1048575) (by decide)
  rw [value] at shows overfull
  have close : (1024 - 1 / 200) * (SizeUnit.kibi.bytes : ℚ) ≤ (1048575 : ℕ) := by
    norm_num [SizeUnit.bytes]
  refine ⟨by decide +kernel, q, u, shows, overfull.2 ⟨.kibi, by decide, close, ?_⟩⟩
  simp [SizeUnit.bytes]

theorem formatBytes_mono {a b : UInt64} (h : a ≤ b) :
    ∃ x y, Quantity.of? (formatBytes a) = some x ∧ Quantity.of? (formatBytes b) = some y ∧
      x.bytes ≤ y.bytes := by
  by_cases hb : b < 1024
  · have ha : a < 1024 := UInt64.lt_of_le_of_lt h hb
    have whole : (a.toNat : ℚ) ≤ b.toNat := Nat.cast_le.2 (UInt64.le_iff_toNat_le.1 h)
    exact ⟨_, _, formatBytes_of_lt ha, formatBytes_of_lt hb, by simpa [Quantity.bytes] using whole⟩
  have hb : 1024 ≤ b := UInt64.not_lt.1 hb
  by_cases ha : a < 1024
  · refine ⟨_, _, formatBytes_of_lt ha, formatBytes_of_le hb, ?_⟩
    have whole : (a.toNat : ℚ) ≤ 1024 := by exact_mod_cast (UInt64.lt_iff_toNat_lt.1 ha).le
    have shown := Amount.le_shown one_pos (by simpa using le_valueOf hb)
    have shown : (102400 : ℚ) ≤ (Amount.of (valueOf b) 1).shown := by exact_mod_cast shown
    rw [Amount.bytes_quantity, Quantity.bytes]
    push_cast
    linarith
  · have ha : 1024 ≤ a := UInt64.not_lt.1 ha
    refine ⟨_, _, formatBytes_of_le ha, formatBytes_of_le hb, ?_⟩
    have shown := Amount.shown_mono one_pos (by simpa using le_valueOf ha) (valueOf_mono h)
    rw [Amount.bytes_quantity, Amount.bytes_quantity]
    exact div_le_div_of_nonneg_right (Nat.cast_le.2 shown) (by norm_num)

theorem mebibyte_not_less : (1048575 : UInt64) ≤ 1048576 ∧
    formatBytes 1048575 = "1024.00 KiB" ∧ formatBytes 1048576 = "1.00 MiB" ∧
    ∃ x y, Quantity.of? (formatBytes 1048575) = some x ∧
      Quantity.of? (formatBytes 1048576) = some y ∧ x.bytes ≤ y.bytes :=
  ⟨by decide, by decide +kernel, by decide +kernel, formatBytes_mono (by decide)⟩

end DownloadClient.Display
