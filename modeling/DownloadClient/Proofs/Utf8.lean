import Mathlib
import DownloadClient.Text.Utf8

/-! Texts as bytes. A byte of ASCII is a character, and no part of another one: texts may be cut at
such bytes, and bytes that are no text stay so, with the same fault, whatever such bytes follow. -/

namespace DownloadClient.Text

def encoded (s : String) : List UInt8 := s.toUTF8.data.toList

theorem toByteArray_encoded (s : String) : (encoded s).toByteArray = s.toUTF8 := by
  apply ByteArray.ext
  simp [encoded]

theorem encoded_eq (s : String) : encoded s = s.toList.flatMap String.utf8EncodeChar := by
  rw [encoded, String.toUTF8, ← String.utf8Encode_toList, List.utf8Encode]
  simp

@[simp] theorem encoded_empty : encoded "" = [] := by
  simp [encoded_eq]

@[simp] theorem encoded_append (s t : String) : encoded (s ++ t) = encoded s ++ encoded t := by
  simp [encoded_eq]

theorem encoded_injective : Function.Injective encoded := by
  intro s t h
  have bytes := congrArg List.toByteArray h
  rwa [toByteArray_encoded, toByteArray_encoded, String.toUTF8, String.toUTF8,
    String.toByteArray_inj] at bytes

theorem fromUTF8?_eq_some_iff {bytes : List UInt8} {s : String} :
    String.fromUTF8? bytes.toByteArray = some s ↔ bytes = encoded s := by
  unfold String.fromUTF8?
  constructor
  · intro h
    split at h
    · cases h
      exact List.toList_data_toByteArray.symm
    · cases h
  · rintro rfl
    have valid : (encoded s).toByteArray.IsValidUTF8 := toByteArray_encoded s ▸ s.isValidUTF8
    rw [dif_pos valid, Option.some.injEq, ← String.toByteArray_inj]
    exact toByteArray_encoded s

theorem fromUTF8?_eq_none_iff {bytes : List UInt8} :
    String.fromUTF8? bytes.toByteArray = none ↔ ∀ s, bytes ≠ encoded s := by
  rw [Option.eq_none_iff_forall_ne_some]
  exact forall_congr' fun s => not_congr fromUTF8?_eq_some_iff

theorem utf8EncodeChar_of_mem {c : Char} {b : UInt8} (h : b ∈ String.utf8EncodeChar c)
    (hb : b < 128) : String.utf8EncodeChar c = [b] ∧ c.toNat = b.toNat := by
  have hc : c.toNat = c.val.toNat := rfl
  rw [hc]
  simp only [String.utf8EncodeChar] at h ⊢
  generalize c.val.toNat = n at h ⊢
  rw [UInt8.lt_iff_toNat_lt] at hb
  by_cases h1 : n ≤ 127
  · simp only [h1, if_true, List.mem_singleton] at h ⊢
    subst h
    simp
    omega
  · have high (m : Nat) (hm : 128 ≤ m) (hm' : m < 256) : b ≠ UInt8.ofNat m := by
      rintro rfl
      simp at hb
      omega
    simp only [h1, if_false] at h
    split at h
    · simp (disch := omega) only [List.mem_cons, high, List.not_mem_nil, or_self] at h
    · split at h <;>
        simp (disch := omega) only [List.mem_cons, high, List.not_mem_nil, or_self] at h

theorem exists_of_encoded_eq {s : String} {front back : List UInt8} {b : UInt8} (hb : b < 128)
    (h : encoded s = front ++ b :: back) : ∃ x c y, s.toList = x ++ c :: y ∧ c.toNat = b.toNat ∧
      front = encoded (.ofList x) ∧ back = encoded (.ofList y) := by
  simp only [encoded_eq, String.toList_ofList] at h ⊢
  generalize s.toList = cs at h ⊢
  induction cs generalizing front with
  | nil => simp at h
  | cons c cs ih =>
    rw [List.flatMap_cons, List.append_eq_append_iff] at h
    -- The cut is behind the first character, or else at a byte of it, and then it is all of it.
    obtain ⟨front', rfl, h⟩ | ⟨t, hc, ht⟩ := h
    · obtain ⟨x, d, y, rfl, hd, rfl, rfl⟩ := ih h
      exact ⟨c :: x, d, y, rfl, hd, rfl, rfl⟩
    · cases t with
      | nil =>
        obtain ⟨x, d, y, rfl, hd, hx, rfl⟩ := @ih [] (by simpa using ht.symm)
        exact ⟨c :: x, d, y, rfl, hd, by simpa [← hx] using hc.symm, rfl⟩
      | cons b' t =>
        obtain ⟨rfl, rfl⟩ := List.cons_eq_cons.1 ht
        obtain ⟨alone, hn⟩ := utf8EncodeChar_of_mem (c := c) (b := b) (by simp [hc]) hb
        have single := hc.symm.trans alone
        obtain ⟨rfl, rfl⟩ : front = [] ∧ t = [] := by
          simpa [List.append_eq_singleton_iff] using single
        exact ⟨[], c, cs, rfl, hn, rfl, rfl⟩

theorem utf8DecodeChar?_eq_some_iff {bytes : List UInt8} {i : Nat} {c : Char} :
    bytes.toByteArray.utf8DecodeChar? i = some c ↔ String.utf8EncodeChar c <+: bytes.drop i := by
  have drop : bytes.toByteArray.extract i bytes.toByteArray.size = (bytes.drop i).toByteArray := by
    apply ByteArray.ext
    simp
  rw [ByteArray.utf8DecodeChar?_eq_utf8DecodeChar?_extract, drop]
  constructor
  · intro h
    obtain ⟨rest, hr⟩ := ByteArray.exists_of_utf8DecodeChar?_eq_some h
    refine ⟨rest.data.toList, ?_⟩
    have := congrArg (·.data.toList) hr
    simpa using this.symm
  · rintro ⟨rest, hr⟩
    rw [← hr, List.toByteArray_append]
    exact ByteArray.utf8DecodeChar?_utf8EncodeChar_append

theorem utf8DecodeChar?_append {bytes : List UInt8} {i : Nat} (hi : i < bytes.length) {b : UInt8}
    (hb : b < 128) (rest : List UInt8) : (bytes ++ b :: rest).toByteArray.utf8DecodeChar? i =
      bytes.toByteArray.utf8DecodeChar? i := by
  ext c
  rw [utf8DecodeChar?_eq_some_iff, utf8DecodeChar?_eq_some_iff,
    List.drop_append_of_le_length hi.le]
  refine ⟨fun h => ?_, fun h => h.trans (List.prefix_append _ _)⟩
  -- A character that reached over the end would have the byte of ASCII in it.
  obtain h | ⟨t, ht⟩ := List.prefix_or_prefix_of_prefix h (List.prefix_append _ _)
  · exact h
  · rw [← ht, List.prefix_append_right_inj] at h
    cases t with
    | nil => simp [← ht]
    | cons x t =>
      obtain ⟨rfl, -⟩ := List.cons_prefix_cons.1 h
      obtain ⟨alone, -⟩ := utf8EncodeChar_of_mem (c := c) (b := x) (by simp [← ht]) hb
      have := congrArg List.length (ht.trans alone)
      simp at this
      omega

theorem symbolsFrom_of_some {b : ByteArray} {i : Nat} {c : Char}
    (h : b.utf8DecodeChar? i = some c) :
    symbolsFrom b i = some c :: symbolsFrom b (i + c.utf8Size) := by
  have hi := ByteArray.lt_size_of_isSome_utf8DecodeChar? (Option.isSome_of_eq_some h)
  rw [symbolsFrom, if_pos hi, h]

theorem symbolsFrom_of_none {b : ByteArray} {i : Nat} (hi : i < b.size)
    (h : b.utf8DecodeChar? i = none) : symbolsFrom b i = none :: symbolsFrom b (i + 1) := by
  rw [symbolsFrom, if_pos hi, h]

theorem exists_drop_eq_encoded {bytes : List UInt8} {i : Nat}
    (h : none ∉ symbolsFrom bytes.toByteArray i) : ∃ s, bytes.drop i = encoded s := by
  induction i using symbolsFrom.induct bytes.toByteArray with
  | case1 i hi c hc ih =>
    rw [symbolsFrom_of_some hc, List.mem_cons, not_or] at h
    obtain ⟨s, hs⟩ := ih h.2
    obtain ⟨rest, hr⟩ := utf8DecodeChar?_eq_some_iff.1 hc
    have back := congrArg (List.drop c.utf8Size) hr
    rw [List.drop_drop, hs, List.drop_left' (String.length_utf8EncodeChar c)] at back
    refine ⟨String.ofList (c :: s.toList), ?_⟩
    rw [← hr, back]
    simp [encoded_eq]
  | case2 i hi hc ih =>
    rw [symbolsFrom_of_none hi hc] at h
    exact absurd (List.mem_cons_self ..) h
  | case3 i hi =>
    refine ⟨"", ?_⟩
    rw [encoded_empty, List.drop_eq_nil_iff]
    simpa using hi

theorem none_mem_symbols {bytes : List UInt8} (h : ∀ s, bytes ≠ encoded s) :
    none ∈ symbols bytes.toByteArray := by
  by_contra hn
  obtain ⟨s, hs⟩ := exists_drop_eq_encoded hn
  exact h s hs

/-- Bytes of ASCII behind a fault neither repair nor move it. -/
theorem soundLength_append {bytes : List UInt8} {i : Nat}
    (h : none ∈ symbolsFrom bytes.toByteArray i) {b : UInt8} (hb : b < 128) (rest : List UInt8) :
    soundLength (symbolsFrom (bytes ++ b :: rest).toByteArray i) =
        soundLength (symbolsFrom bytes.toByteArray i) ∧
      i + soundLength (symbolsFrom bytes.toByteArray i) < bytes.length := by
  induction i using symbolsFrom.induct bytes.toByteArray with
  | case1 i hi c hc ih =>
    have hl : i < bytes.length := by simpa using hi
    rw [symbolsFrom_of_some hc, List.mem_cons] at h
    obtain ⟨same, lt⟩ := ih (h.resolve_left (by simp))
    have hc' := (utf8DecodeChar?_append hl hb rest).trans hc
    rw [symbolsFrom_of_some hc, symbolsFrom_of_some hc']
    simp only [soundLength, same, true_and]
    omega
  | case2 i hi hc ih =>
    have hl : i < bytes.length := by simpa using hi
    have hc' := (utf8DecodeChar?_append hl hb rest).trans hc
    rw [symbolsFrom_of_none hi hc, symbolsFrom_of_none (by simp; omega) hc']
    exact ⟨rfl, hl⟩
  | case3 i hi =>
    rw [symbolsFrom, if_neg hi] at h
    cases h

theorem continues_of_ascii {b : UInt8} (hb : b < 128) : continues b = false := by
  have all : ∀ n < 128, continues (UInt8.ofNat n) = false := by decide
  simpa using all b.toNat (UInt8.lt_iff_toNat_lt.1 hb)

theorem faultLength_append {front : List UInt8} (ne : front ≠ []) {b b' : UInt8} (hb : b < 128)
    (hb' : b' < 128) (rest rest' : List UInt8) :
    faultLength (front ++ b :: rest) = faultLength (front ++ b' :: rest') := by
  have stop := continues_of_ascii hb
  have stop' := continues_of_ascii hb'
  match front, ne with
  | [x], _ => simp [faultLength, follows, stop, stop']
  | [x, y], _ => simp [faultLength, stop, stop']
  | x :: y :: z :: r, _ => simp [faultLength]

theorem faultOf_append {bytes : List UInt8} (h : ∀ s, bytes ≠ encoded s) {b b' : UInt8}
    (hb : b < 128) (hb' : b' < 128) (rest rest' : List UInt8) :
    faultOf (bytes ++ b :: rest) = faultOf (bytes ++ b' :: rest') := by
  have stray := none_mem_symbols h
  obtain ⟨same, lt⟩ := soundLength_append stray hb rest
  obtain ⟨same', -⟩ := soundLength_append stray hb' rest'
  simp only [faultOf, symbols, same, same', Fault.mk.injEq, true_and]
  rw [List.drop_append_of_le_length (by omega), List.drop_append_of_le_length (by omega)]
  exact faultLength_append (by simp; omega) hb hb' rest rest'

end DownloadClient.Text
