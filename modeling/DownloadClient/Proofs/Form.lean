import DownloadClient.Proofs.Utf8
import DownloadClient.Web.Form

/-! Form encoding is undone by decoding: the pair that is put behind a query is its last pair, and
the pairs before it are those of the query. -/

namespace DownloadClient.Web

open DownloadClient.Text

theorem hexValue?_upperHexChar {d : Nat} (h : d < 16) : hexValue? (upperHexChar d) = some d := by
  have all : ∀ e ∈ List.range 16, hexValue? (upperHexChar e) = some e := by decide
  exact all d (List.mem_range.2 h)

theorem isAlphanum_upperHexChar {d : Nat} (h : d < 16) : (upperHexChar d).isAlphanum = true := by
  have all : ∀ e ∈ List.range 16, (upperHexChar e).isAlphanum = true := by decide
  exact all d (List.mem_range.2 h)

theorem percentDecode_percentByte (b : UInt8) (rest : List Char) :
    percentDecode (percentByte b ++ rest) = b :: percentDecode rest := by
  have bound := b.toNat_lt
  have high := hexValue?_upperHexChar (d := b.toNat / 16) (by omega)
  have low := hexValue?_upperHexChar (d := b.toNat % 16) (by omega)
  simp [percentByte, percentDecode, high, low, Nat.div_add_mod]

theorem percentDecode_flatMap_percentByte (bytes : List UInt8) (rest : List Char) :
    percentDecode (bytes.flatMap percentByte ++ rest) = bytes ++ percentDecode rest := by
  induction bytes with
  | nil => rfl
  | cons b bytes ih =>
    rw [List.flatMap_cons, List.append_assoc, percentDecode_percentByte, ih, List.cons_append]

theorem percentDecode_cons {c : Char} (h : c ≠ '%') (rest : List Char) :
    percentDecode (c :: rest) = String.utf8EncodeChar c ++ percentDecode rest := by
  rw [percentDecode]
  simp [h]

namespace Form

def isEncoded (c : Char) : Bool := unreserved c || c == '+' || c == '%'

theorem isEncoded_of_isAlphanum {c : Char} (h : c.isAlphanum = true) : isEncoded c = true := by
  simp [isEncoded, unreserved, h]

theorem isAlphanum_of_mem_percentByte {b : UInt8} {c : Char} (h : c ∈ percentByte b)
    (hc : c ≠ '%') : c.isAlphanum = true := by
  have bound := b.toNat_lt
  simp only [percentByte, List.mem_cons, List.not_mem_nil, or_false, hc, false_or] at h
  obtain rfl | rfl := h
  · exact isAlphanum_upperHexChar (by omega)
  · exact isAlphanum_upperHexChar (by omega)

theorem isEncoded_of_mem_encodeChar {c x : Char} (h : x ∈ encodeChar c) : isEncoded x = true := by
  unfold encodeChar at h
  split at h
  · simp_all [isEncoded]
  · split at h
    · simp_all [isEncoded]
    · obtain ⟨b, -, hx⟩ := List.mem_flatMap.1 h
      by_cases hp : x = '%'
      · simp [isEncoded, hp]
      · exact isEncoded_of_isAlphanum (isAlphanum_of_mem_percentByte hx hp)

theorem isEncoded_of_mem_encode {s : List Char} {x : Char} (h : x ∈ encode s) :
    isEncoded x = true := by
  obtain ⟨c, -, hx⟩ := List.mem_flatMap.1 h
  exact isEncoded_of_mem_encodeChar hx

theorem not_mem_encode {x : Char} (h : isEncoded x = false) (s : List Char) : x ∉ encode s :=
  fun hx => by simp [isEncoded_of_mem_encode hx] at h

theorem decodeBytes_cons (c : Char) (s : List Char) :
    decodeBytes (c :: s) = percentDecode ((if c = '+' then ' ' else c) ::
      s.map fun c => if c = '+' then ' ' else c) := rfl

theorem map_plus_percentBytes (bytes : List UInt8) :
    (bytes.flatMap percentByte).map (fun c => if c = '+' then ' ' else c) =
      bytes.flatMap percentByte := by
  refine (List.map_congr_left fun c hc => if_neg ?_).trans (List.map_id' _)
  rintro rfl
  obtain ⟨b, -, hb⟩ := List.mem_flatMap.1 hc
  exact absurd (isAlphanum_of_mem_percentByte hb (by decide)) (by decide)

theorem decodeBytes_encodeChar (c : Char) (rest : List Char) :
    decodeBytes (encodeChar c ++ rest) = String.utf8EncodeChar c ++ decodeBytes rest := by
  unfold encodeChar
  split
  · next space =>
    subst space
    exact percentDecode_cons (by decide) _
  · split
    · next plain =>
      have plus : c ≠ '+' := fun e => by simp [e, unreserved] at plain
      have percent : c ≠ '%' := fun e => by simp [e, unreserved] at plain
      rw [List.singleton_append, decodeBytes_cons, if_neg plus, percentDecode_cons percent]
      rfl
    · rw [decodeBytes, List.map_append, map_plus_percentBytes, percentDecode_flatMap_percentByte]
      rfl

theorem decodeBytes_encode (s : List Char) :
    decodeBytes (encode s) = s.flatMap String.utf8EncodeChar := by
  induction s with
  | nil => rfl
  | cons c s ih => rw [encode, List.flatMap_cons, decodeBytes_encodeChar, ← encode, ih,
      List.flatMap_cons]

theorem decodePair_encodePair (name value : String) :
    decodePair (encodePair name.toList value.toList) = (encoded name, encoded value) := by
  have cut : cut? '=' (encodePair name.toList value.toList) =
      some (encode name.toList, encode value.toList) :=
    cut?_append (not_mem_encode (by decide) _) _
  rw [decodePair, cut]
  simp only [decodeBytes_encode, encoded_eq]

def added (query : Option (List Char)) (name value : List Char) : List Char :=
  if query.getD [] = [] then encodePair name value else '&' :: encodePair name value

theorem append_eq (query : Option (List Char)) (name value : List Char) :
    append query name value = query.getD [] ++ added query name value := by
  match query with
  | none => rfl
  | some [] => rfl
  | some (c :: q) => simp [append, added]

theorem pairs_append_encodePair (query : Option (List Char)) (name value : String) :
    pairs (append query name.toList value.toList) =
      pairs (query.getD []) ++ [(encoded name, encoded value)] := by
  have whole : splitWhen (· == '&') (encodePair name.toList value.toList) =
      [encodePair name.toList value.toList] := by
    refine splitWhen_of_all fun c hc => ?_
    simp only [encodePair, List.mem_append, List.mem_cons] at hc
    rw [beq_eq_false_iff_ne]
    rintro rfl
    obtain hc | hc | hc := hc
    · exact not_mem_encode (by decide) _ hc
    · cases hc
    · exact not_mem_encode (by decide) _ hc
  have some : encodePair name.toList value.toList ≠ [] := by simp [encodePair]
  rw [append_eq, added]
  split
  · next empty => simp [empty, pairs, whole, some, splitWhen, decodePair_encodePair]
  · rw [pairs, splitWhen_append_cons (by rfl), whole]
    simp [pairs, some, decodePair_encodePair]

theorem mem_added {query : Option (List Char)} {name value : List Char} {c : Char}
    (h : c ∈ added query name value) : isEncoded c = true ∨ c = '&' ∨ c = '=' := by
  have pair (h : c ∈ encodePair name value) : isEncoded c = true ∨ c = '=' := by
    simp only [encodePair, List.mem_append, List.mem_cons] at h
    obtain h | rfl | h := h
    · exact .inl (isEncoded_of_mem_encode h)
    · exact .inr rfl
    · exact .inl (isEncoded_of_mem_encode h)
  unfold added at h
  split at h
  · obtain h | h := pair h <;> simp [h]
  · obtain rfl | h := List.mem_cons.1 h
    · simp
    · obtain h | h := pair h <;> simp [h]

theorem length_le_encode (s : List Char) : s.length ≤ (encode s).length := by
  have char (c : Char) : 1 ≤ (encodeChar c).length := by
    unfold encodeChar
    split
    · simp
    · split
      · simp
      · have := c.utf8Size_pos
        simp only [List.length_flatMap, percentByte, List.length_cons, List.length_nil,
          List.map_const', List.sum_replicate, String.length_utf8EncodeChar, smul_eq_mul]
        omega
  induction s with
  | nil => simp
  | cons c s ih =>
    have := char c
    simp only [encode, List.flatMap_cons, List.length_append, List.length_cons] at ih ⊢
    omega

theorem length_le_append (query : Option (List Char)) (name value : List Char) :
    value.length ≤ (append query name value).length := by
  have := length_le_encode value
  rw [append_eq, added]
  split <;> simp [encodePair] <;> omega

end Form
end DownloadClient.Web
