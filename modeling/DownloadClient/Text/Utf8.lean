import DownloadClient.Text.Digits

/-! Bytes read as UTF-8. A symbol is a character, or a byte that belongs to no character. -/

namespace DownloadClient.Text

abbrev Symbol := Option Char

def Symbol.size : Symbol → Nat
  | some c => c.utf8Size
  | none => 1

def byteCount : List Symbol → Nat
  | [] => 0
  | x :: r => x.size + byteCount r

def symbolsFrom (b : ByteArray) (i : Nat) : List Symbol :=
  if i < b.size then
    match b.utf8DecodeChar? i with
    | some c => some c :: symbolsFrom b (i + c.utf8Size)
    | none => none :: symbolsFrom b (i + 1)
  else []
termination_by b.size - i
decreasing_by
  · have := c.utf8Size_pos
    omega
  · omega

def symbols (b : ByteArray) : List Symbol := symbolsFrom b 0

def ofChars (s : List Char) : List Symbol := s.map some

def chars? (s : List Symbol) : Option (List Char) := s.mapM id

structure Fault where
  index : Nat
  length : Option Nat
  deriving DecidableEq, Repr

def continues (b : UInt8) : Bool := b &&& 0xC0 == 0x80

def follows (first second : UInt8) : Bool :=
  continues second &&
    match first with
    | 0xE0 => decide (0xA0 ≤ second)
    | 0xED => decide (second ≤ 0x9F)
    | 0xF0 => decide (0x90 ≤ second)
    | 0xF4 => decide (second ≤ 0x8F)
    | _ => true

/-- The length of the fault at the start of bytes. -/
def faultLength : List UInt8 → Option Nat
  | [] => none
  | [b] => if decide (0xC2 ≤ b) && decide (b ≤ 0xF4) then none else some 1
  | b :: c :: r =>
    if decide (b < 0xE0) || decide (0xF4 < b) || !follows b c then some 1
    else
      match r with
      | [] => none
      | d :: r =>
        if decide (b < 0xF0) || !continues d then some 2
        else if r.isEmpty then none
        else some 3

def soundLength : List Symbol → Nat
  | some c :: r => c.utf8Size + soundLength r
  | _ => 0

def faultOf (b : List UInt8) : Fault :=
  let index := soundLength (symbols b.toByteArray)
  ⟨index, faultLength (b.drop index)⟩

def Fault.message (f : Fault) : String :=
  match f.length with
  | some n =>
    "invalid utf-8 sequence of " ++ String.ofList (decimal n) ++ " bytes from index "
      ++ String.ofList (decimal f.index)
  | none => "incomplete utf-8 byte sequence from index " ++ String.ofList (decimal f.index)

@[simp] theorem chars?_ofChars (s : List Char) : chars? (ofChars s) = some s := by
  induction s with
  | nil => rfl
  | cons c s ih => simp_all [chars?, ofChars]

theorem symbolsFrom_append (front : ByteArray) (s : List Char) :
    symbolsFrom (front ++ s.utf8Encode) front.size = ofChars s := by
  induction s generalizing front with
  | nil =>
    rw [symbolsFrom]
    simp [ofChars]
  | cons c s ih =>
    have e : (c :: s).utf8Encode = (String.utf8EncodeChar c).toByteArray ++ s.utf8Encode := by
      rw [List.utf8Encode_cons, List.utf8Encode_singleton]
    have hd : (front ++ (c :: s).utf8Encode).utf8DecodeChar? front.size = some c := by
      rw [ByteArray.utf8DecodeChar?_eq_utf8DecodeChar?_extract,
        ByteArray.extract_append_eq_right rfl ByteArray.size_append, e]
      exact ByteArray.utf8DecodeChar?_utf8EncodeChar_append
    have hs : front.size < (front ++ (c :: s).utf8Encode).size := by
      have := c.utf8Size_pos
      simp only [e, ByteArray.size_append, List.size_toByteArray, String.length_utf8EncodeChar]
      omega
    have := ih (front ++ (String.utf8EncodeChar c).toByteArray)
    rw [symbolsFrom, if_pos hs, hd]
    simp only [ByteArray.size_append, List.size_toByteArray, String.length_utf8EncodeChar,
      ByteArray.append_assoc] at this
    simp only [e, this, ofChars, List.map_cons]

@[simp] theorem symbols_utf8Encode (s : List Char) : symbols s.utf8Encode = ofChars s := by
  have := symbolsFrom_append .empty s
  simpa [symbols] using this

@[simp] theorem symbols_toUTF8 (s : String) : symbols s.toUTF8 = ofChars s.toList := by
  have := symbols_utf8Encode s.toList
  rwa [String.utf8Encode_toList] at this

end DownloadClient.Text
