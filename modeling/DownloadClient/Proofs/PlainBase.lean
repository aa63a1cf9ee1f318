import DownloadClient.Proofs.Address
import DownloadClient.Proofs.Form

/-! Plain bases: URLs with a host of lower-case names, maybe a port, and segments that stand for
themselves. Reading changes nothing about them: what is read is written again as it was. -/

namespace DownloadClient.Web

open DownloadClient.Text

def isSegmentChar (c : Char) : Bool := c.isAlphanum || ['-', '.', '_', '~'].contains c

theorem lt_of_isAlphanum {c : Char} (h : c.isAlphanum = true) : c.toNat < 128 := by
  simp only [Char.isAlphanum, Char.isAlpha, Char.isUpper, Char.isLower, Char.isDigit,
    Bool.or_eq_true, Bool.and_eq_true, decide_eq_true_eq, UInt32.le_iff_toNat_le] at h
  change c.val.toNat < 128
  obtain (h | h) | h := h
  · exact lt_of_le_of_lt h.2 (by decide)
  · exact lt_of_le_of_lt h.2 (by decide)
  · exact lt_of_le_of_lt h.2 (by decide)

theorem lt_of_isSegmentChar {c : Char} (h : isSegmentChar c = true) : c.toNat < 128 := by
  simp only [isSegmentChar, Bool.or_eq_true, List.contains_iff_mem, List.mem_cons,
    List.not_mem_nil, or_false] at h
  obtain h | rfl | rfl | rfl | rfl := h
  · exact lt_of_isAlphanum h
  all_goals decide

theorem isSegmentChar_of_isDigit {c : Char} (h : isDigit c = true) : isSegmentChar c = true := by
  have digit : c.isDigit = true := by
    simpa [isDigit, Char.isDigit, Char.le_def] using h
  simp [isSegmentChar, Char.isAlphanum, digit]

theorem of_isSegmentChar {P : Char → Prop}
    (all : ∀ n ∈ List.range 128, isSegmentChar (Char.ofNat n) = true → P (Char.ofNat n))
    (c : Char) (h : isSegmentChar c = true) : P c := by
  have this := all c.toNat (List.mem_range.2 (lt_of_isSegmentChar h))
  rw [Char.ofNat_toNat] at this
  exact this h

/-- A character that means nothing to a reader of addresses. -/
structure Inert (c : Char) : Prop where
  visible : Address.isControlOrSpace c = false
  inside : Address.Kind.special.endsAuthority c = false
  unmarked : c ∉ ['@', ':', '[', ']', '%']
  path : pathSet c = false
  domain : Domain.forbidden c = false
  ascii : Punycode.isAscii c = true

theorem inert_of_isSegmentChar {c : Char} (h : isSegmentChar c = true) : Inert c := by
  have all : ∀ c, isSegmentChar c = true → Address.isControlOrSpace c = false ∧
      Address.Kind.special.endsAuthority c = false ∧ c ∉ ['@', ':', '[', ']', '%'] ∧
      pathSet c = false ∧ Domain.forbidden c = false ∧ Punycode.isAscii c = true :=
    of_isSegmentChar (by decide +kernel)
  obtain ⟨visible, inside, unmarked, path, domain, ascii⟩ := all c h
  exact ⟨visible, inside, unmarked, path, domain, ascii⟩

theorem isSegmentChar_of_isLower {c : Char} (h : c.isLower = true) : isSegmentChar c = true := by
  simp [isSegmentChar, Char.isAlphanum, Char.isAlpha, h]

structure Letter (c : Char) : Prop where
  lower : c.toLower = c
  dot : c ≠ '.'
  digit : isDigit c = false
  value : ∀ d ∈ hexValue? c, 10 ≤ d

theorem letter_of_isLower {c : Char} (h : c.isLower = true) : Letter c := by
  have all : ∀ c, isSegmentChar c = true → c.isLower = true →
      c.toLower = c ∧ c ≠ '.' ∧ isDigit c = false ∧ ∀ d ∈ hexValue? c, 10 ≤ d :=
    of_isSegmentChar (by decide +kernel)
  obtain ⟨lower, dot, digit, value⟩ := all c (isSegmentChar_of_isLower h) h
  exact ⟨lower, dot, digit, value⟩

theorem ipv4Part?_of_isLower {c : Char} (h : c.isLower = true) (s : List Char) :
    Host.ipv4Part? (c :: s) = none := by
  have zero : c ≠ '0' := by
    rintro rfl
    exact absurd h (by decide)
  have radix : Host.radix (c :: s) = (10, c :: s) := by
    unfold Host.radix
    split <;> simp_all
  have digits : Host.digits? 10 (c :: s) = none := by
    rw [Host.digits?, List.mapM_cons]
    cases hc : hexValue? c with
    | none => rfl
    | some d => simp [(letter_of_isLower h).value d hc]
  rw [Host.ipv4Part?, radix]
  simp [digits]

theorem percentDecode_of_not_mem {s : List Char} (h : '%' ∉ s) :
    percentDecode s = s.flatMap String.utf8EncodeChar := by
  induction s with
  | nil => rfl
  | cons c s ih =>
    obtain ⟨hc, hs⟩ := List.ne_and_not_mem_of_not_mem_cons h
    rw [percentDecode_cons hc.symm, ih hs, List.flatMap_cons]

/-- A segment that stands for itself. -/
structure Segment (s : List Char) : Prop where
  chars : ∀ c ∈ s, isSegmentChar c = true
  nonempty : s ≠ []
  dot : s ≠ ['.']
  dots : s ≠ ['.', '.']

structure PlainBase where
  labels : List (List Char)
  port : Option Nat
  segments : List (List Char)
  named : labels ≠ []
  lower : ∀ l ∈ labels, l ≠ [] ∧ ∀ c ∈ l, c.isLower = true
  numbered : ∀ n ∈ port, 1 ≤ n ∧ n ≤ 65535 ∧ n ≠ 80
  plain : ∀ s ∈ segments, Segment s

namespace PlainBase

variable (b : PlainBase)

def host : List Char := List.intercalate ['.'] b.labels

def portText : List Char :=
  match b.port with
  | none => []
  | some n => ':' :: decimal n

def place : List Char := b.host ++ b.portText

def path : List Char := b.segments.flatMap ('/' :: ·)

def root : List Char := "http".toList ++ ':' :: '/' :: '/' :: (b.place ++ b.path)

def text (slashes : Nat) : String := String.ofList (b.root ++ List.replicate slashes '/')

def address : Address :=
  ⟨"http".toList, some ⟨[], none, .domain b.host, b.port⟩, .segments b.segments, none, none⟩

theorem text_address : b.address.text = b.root := by
  cases hp : b.port <;>
    simp [address, Address.text, Address.hierarchy, Address.tail, Authority.text,
      Authority.credentials, Authority.hostPort, Host.text, Path.text, root, place, portText, path,
      hp]

theorem labels_host : Domain.labels b.host = b.labels := by
  refine splitWhen_intercalate (by decide) b.named fun l hl c hc => ?_
  simpa using (letter_of_isLower ((b.lower l hl).2 c hc)).dot

theorem isLower_of_mem_host {c : Char} (h : c ∈ b.host) : c = '.' ∨ c.isLower = true := by
  have whole : c ∈ b.labels.flatMap ('.' :: ·) := by
    rw [flatMap_cons_eq b.named]
    exact List.mem_cons_of_mem _ h
  obtain ⟨l, hl, hc⟩ := List.mem_flatMap.1 whole
  exact (List.mem_cons.1 hc).imp_right ((b.lower l hl).2 c)

theorem isSegmentChar_of_mem_host {c : Char} (h : c ∈ b.host) : isSegmentChar c = true := by
  obtain rfl | lower := b.isLower_of_mem_host h
  · decide
  · exact isSegmentChar_of_isLower lower

theorem inert_of_mem_host {c : Char} (h : c ∈ b.host) : Inert c :=
  inert_of_isSegmentChar (b.isSegmentChar_of_mem_host h)

theorem host_ne_nil : b.host ≠ [] := by
  intro e
  have labels := b.labels_host
  rw [e] at labels
  have none : [] ∈ b.labels := labels ▸ List.mem_singleton_self _
  exact (b.lower [] none).1 rfl

theorem isPlain_host : Domain.isPlain b.host = true := by
  rw [Domain.isPlain, b.labels_host, Bool.and_eq_true, List.all_eq_true, List.all_eq_true]
  refine ⟨fun c hc => (b.inert_of_mem_host hc).ascii, fun l hl => ?_⟩
  unfold Domain.encoded?
  split
  · next r =>
    have dash := (b.lower _ hl).2 '-' (by simp)
    exact absurd dash (by decide)
  · rfl

theorem toAscii?_host : Domain.toAscii? (percentDecode b.host) = some b.host := by
  have bytes : percentDecode b.host = encoded (String.ofList b.host) := by
    rw [encoded_eq, String.toList_ofList]
    refine percentDecode_of_not_mem fun h => ?_
    exact absurd (b.inert_of_mem_host h).unmarked (by decide)
  have lower : b.host.map Char.toLower = b.host := by
    refine (List.map_congr_left fun c hc => ?_).trans (List.map_id' _)
    obtain rfl | lower := b.isLower_of_mem_host hc
    · rfl
    · exact (letter_of_isLower lower).lower
  have allowed : b.host.any Domain.forbidden = false := by
    rw [List.any_eq_false]
    exact fun c hc => by simp [(b.inert_of_mem_host hc).domain]
  rw [bytes, Domain.toAscii?, toByteArray_encoded, symbols_toUTF8, chars?_ofChars,
    String.toList_ofList, Option.bind_eq_bind, Option.bind_some, lower, if_pos b.isPlain_host,
    Option.bind_some]
  exact if_neg (by simp [allowed])

theorem endsInNumber_host : Host.endsInNumber b.host = false := by
  have parts : splitWhen (· == '.') b.host = b.labels := b.labels_host
  have last {l : List Char} (h : b.labels.getLast? = some l) : l ∈ b.labels :=
    List.mem_of_getLast? h
  have dotted : Host.dotted b.host = b.labels := by
    rw [Host.dotted, parts]
    exact if_neg fun h => (b.lower [] (last h.1)).1 rfl
  unfold Host.endsInNumber
  rw [dotted]
  split
  · next l hl =>
    obtain ⟨ne, lower⟩ := b.lower l (last hl)
    obtain ⟨c, r, rfl⟩ := List.exists_cons_of_ne_nil ne
    have letter := lower c List.mem_cons_self
    simp [ipv4Part?_of_isLower letter, (letter_of_isLower letter).digit]
  · rfl

theorem parse_host : Host.parse b.host = .ok (.domain b.host) := by
  unfold Host.parse
  have bare : Host.bracketed? b.host = none := by
    unfold Host.bracketed?
    split
    · next r e =>
      have bracket := b.inert_of_mem_host (c := '[') (by simp [e])
      exact absurd bracket.unmarked (by decide)
    · rfl
  rw [bare, b.toAscii?_host]
  obtain ⟨c, r, e⟩ := List.exists_cons_of_ne_nil b.host_ne_nil
  have number := b.endsInNumber_host
  rw [e] at number ⊢
  simp [number]

theorem forall_mem_portText {P : Char → Prop} (colon : P ':')
    (digit : ∀ c, isDigit c = true → P c) : ∀ c ∈ b.portText, P c := by
  unfold portText
  split
  · exact fun _ h => absurd h List.not_mem_nil
  · next n hn =>
    exact List.forall_mem_cons.2 ⟨colon, fun c hc => digit c (isDigit_of_mem_decimal n c hc)⟩

theorem endsAuthority_place :
    ∀ c ∈ b.place, Address.Kind.special.endsAuthority c = false := by
  refine List.forall_mem_append.2 ⟨fun c hc => (b.inert_of_mem_host hc).inside, ?_⟩
  exact b.forall_mem_portText (by decide) fun c hc =>
    (inert_of_isSegmentChar (isSegmentChar_of_isDigit hc)).inside

theorem at_not_mem_place : '@' ∉ b.place := by
  have host : ∀ c ∈ b.host, c ≠ '@' := by
    rintro c hc rfl
    exact absurd (b.inert_of_mem_host hc).unmarked (by decide)
  have port : ∀ c ∈ b.portText, c ≠ '@' := by
    refine b.forall_mem_portText (by decide) ?_
    rintro _ digit rfl
    exact absurd digit (by decide)
  exact fun h => List.forall_mem_append.2 ⟨host, port⟩ '@' h rfl

theorem splitHost_place : Address.splitHost false b.place = (b.host, b.portText) := by
  have stop : Address.splitHost false b.portText = ([], b.portText) := by
    unfold portText
    split <;> simp [Address.splitHost]
  have inert : ∀ c ∈ b.host, c ∉ ['@', ':', '[', ']', '%'] := fun c hc =>
    (b.inert_of_mem_host hc).unmarked
  unfold place
  generalize b.host = s at inert
  induction s with
  | nil => exact stop
  | cons c s ih =>
    obtain ⟨hc, hs⟩ := List.forall_mem_cons.1 inert
    simp only [List.mem_cons, List.not_mem_nil, or_false, not_or] at hc
    simp [Address.splitHost, hc, ih hs]

theorem portOf_portText {n : Nat} (h : b.port = some n) :
    Address.portOf "http".toList (decimal n) = .ok (some n, []) := by
  obtain ⟨-, least, other⟩ := b.numbered n h
  have all : ∀ c ∈ decimal n, isDigit c = true := isDigit_of_mem_decimal n
  have digits : (decimal n).takeWhile isDigit = decimal n := List.takeWhile_eq_self_iff.2 all
  have rest : (decimal n).dropWhile isDigit = [] := List.dropWhile_eq_nil_iff.2 all
  have own : Address.defaultPort? "http".toList = some 80 := by decide
  simp only [Address.portOf, digits, rest, ofDecimal_decimal, own]
  simp [decimal_ne_nil, Nat.not_lt.2 least, Ne.symm other]

theorem authorityOf_place :
    Address.authorityOf "http".toList .special b.place true =
      .ok (⟨[], none, .domain b.host, b.port⟩, []) := by
  have anonymous : cutLast? '@' b.place = none := by
    cases h : cutLast? '@' b.place with
    | none => rfl
    | some p =>
      have whole := eq_of_cutLast? h
      exact absurd (by simp [whole]) b.at_not_mem_place
  have front : b.place.head? ≠ some '@' := fun h =>
    b.at_not_mem_place (List.mem_of_mem_head? h)
  have host : Address.hostOf .special b.host = .ok (.domain b.host) := by
    rw [Address.hostOf, if_neg (by simpa using b.host_ne_nil)]
    · exact b.parse_host
    · nofun
  have nobody : Address.credentials [] = ([], none) := by decide
  unfold Address.authorityOf
  simp only [anonymous, Option.getD_none, front, false_and, and_false, if_false, nobody,
    b.splitHost_place, host]
  cases hp : b.port with
  | none => simp [portText, hp, bind, Except.bind]
  | some n =>
    simp only [portText, hp, b.portOf_portText hp]
    simp [bind, Except.bind]

theorem isDot_of_segment {s : List Char} (h : Segment s) :
    Address.isDot s = false ∧ Address.isDotDot s = false := by
  have percent : '%' ∉ s := fun hm => absurd (h.chars _ hm) (by decide)
  constructor
  · unfold Address.isDot
    split
    · exact absurd rfl h.dot
    · simp at percent
    · simp at percent
    · rfl
  · unfold Address.isDotDot
    split
    · next r =>
      unfold Address.isDot
      split
      · exact absurd rfl h.dots
      · simp at percent
      · simp at percent
      · rfl
    · simp at percent
    · simp at percent
    · rfl

theorem resolve_of_segments {parts : List (List Char)} (taken : List (List Char))
    (ne : parts ≠ []) (h : ∀ s ∈ parts, Segment s) :
    Address.resolve .special taken parts = taken.reverse ++ parts := by
  have enter (taken : List (List Char)) (s : List Char) :
      Address.enter .special taken s = s :: taken := rfl
  induction parts generalizing taken with
  | nil => exact absurd rfl ne
  | cons s parts ih =>
    obtain ⟨hs, rest⟩ := List.forall_mem_cons.1 h
    obtain ⟨dot, dots⟩ := isDot_of_segment hs
    cases parts with
    | nil => simp [Address.resolve, dot, dots, enter]
    | cons t parts =>
      rw [Address.resolve, dots, dot]
      · simpa [enter] using ih (s :: taken) nofun rest
      · nofun

theorem rooted_of_segments {parts : List (List Char)} (ne : parts ≠ [])
    (h : ∀ s ∈ parts, Segment s) :
    Address.rooted .special (parts.flatMap ('/' :: ·)) = .segments parts := by
  have inert : ∀ s ∈ parts, ∀ c ∈ s, Inert c := fun s hs c hc =>
    inert_of_isSegmentChar ((h s hs).chars c hc)
  have split : splitWhen Address.Kind.special.isSlash (List.intercalate ['/'] parts) = parts := by
    refine splitWhen_intercalate (by decide) ne fun s hs c hc => ?_
    have inside := (inert s hs c hc).inside
    simp only [Address.Kind.endsAuthority, Bool.or_eq_false_iff] at inside
    exact inside.1.1
  have encode : parts.map (percentEncode pathSet) = parts := by
    refine (List.map_congr_left fun s hs => ?_).trans (List.map_id' _)
    exact percentEncode_of_all fun c hc => (inert s hs c hc).path
  have slash : Address.Kind.special.isSlash '/' = true := by decide
  rw [flatMap_cons_eq ne, Address.rooted, if_pos slash, Address.segments, split, encode,
    resolve_of_segments [] ne h, List.reverse_nil, List.nil_append]
  · exact fun other _ => absurd other (by decide)
  · exact fun other => absurd other (by decide)

theorem forall_mem_root {P : Char → Prop} (slash : P '/') (colon : P ':')
    (segment : ∀ c, isSegmentChar c = true → P c) : ∀ c ∈ b.root, P c := by
  have scheme : ∀ c ∈ "http".toList, isSegmentChar c = true := by
    simp [isSegmentChar, Char.isAlphanum, Char.isAlpha, Char.isLower]
  have path : ∀ c ∈ b.path, P c := by
    intro c hc
    obtain ⟨s, hs, hc⟩ := List.mem_flatMap.1 hc
    obtain rfl | hc := List.mem_cons.1 hc
    · exact slash
    · exact segment c ((b.plain s hs).chars c hc)
  have port := b.forall_mem_portText colon fun c hc => segment c (isSegmentChar_of_isDigit hc)
  simp only [root, place, List.forall_mem_append, List.forall_mem_cons]
  exact ⟨fun c hc => segment c (scheme c hc), colon, slash, slash,
    ⟨fun c hc => segment c (b.isSegmentChar_of_mem_host hc), port⟩, path⟩

theorem visible_root : Address.Visible b.root :=
  b.forall_mem_root (by decide) (by decide) fun _ hc => (inert_of_isSegmentChar hc).visible

theorem not_marked_root : ¬ Address.Marked b.root := by
  have unmarked : ∀ c ∈ b.root, c ≠ '#' ∧ c ≠ '?' := by
    refine b.forall_mem_root (by decide) (by decide) fun c hc => ?_
    have inside := (inert_of_isSegmentChar hc).inside
    constructor <;>
    · rintro rfl
      exact absurd inside (by decide)
  rintro (h | h)
  · exact (unmarked _ h).1 rfl
  · exact (unmarked _ h).2 rfl

theorem scheme?_root : Address.scheme? (Address.cleaned b.root) =
    some ("http".toList, '/' :: '/' :: (b.place ++ b.path)) := by
  have clean : Address.cleaned b.root = b.root :=
    Address.cleaned_append [] b.visible_root (by simp)
  have name : ∀ d ∈ 'h' :: "ttp".toList, Address.isSchemeChar d = true := by
    simp [Address.isSchemeChar, Char.isAlphanum, Char.isAlpha, Char.isLower]
  rw [clean]
  exact Address.scheme?_eq_some_iff.2 ⟨'h', "ttp".toList, by simp [root], rfl, name, by simp⟩

theorem dropWhile_slashes :
    ('/' :: '/' :: (b.place ++ b.path)).dropWhile Address.Kind.special.isSlash =
      b.place ++ b.path := by
  obtain ⟨c, r, e⟩ := List.exists_cons_of_ne_nil b.host_ne_nil
  have first := b.endsAuthority_place c (by simp [place, e])
  simp only [Address.Kind.endsAuthority, Bool.or_eq_false_iff] at first
  rw [List.dropWhile_cons_of_pos (by decide), List.dropWhile_cons_of_pos (by decide), place, e]
  exact List.dropWhile_cons_of_neg (by simp [first.1.1])

theorem parse_root (ne : b.segments ≠ []) : Address.parse b.root = .ok b.address := by
  have unmarked : ¬ Address.Marked ('/' :: '/' :: (b.place ++ b.path)) := by
    have marked := b.not_marked_root
    simp only [Address.Marked, root, List.mem_append, List.mem_cons] at marked ⊢
    tauto
  have inside : ∀ c ∈ b.place, (! Address.Kind.special.endsAuthority c) = true :=
    fun c hc => by simp [b.endsAuthority_place c hc]
  have path : b.path = '/' :: List.intercalate ['/'] b.segments := flatMap_cons_eq ne
  have rooted : Address.rooted .special b.path = .segments b.segments :=
    rooted_of_segments ne b.plain
  rw [Address.parse_of_scheme b.scheme?_root, Address.hasTail,
    Address.cutTail_of_not_marked unmarked, Address.body_of_special (by decide),
    b.dropWhile_slashes, path, Address.authorityIn_append, ← path,
    List.takeWhile_eq_self_iff.2 inside, List.dropWhile_eq_nil_iff.2 inside, b.authorityOf_place]
  simp only [Except.map, List.nil_append, rooted]
  rfl

theorem getLast?_root : ∀ c ∈ b.root.getLast?, c ≠ '/' := by
  have solid {c : Char} (h : Address.Kind.special.endsAuthority c = false) : c ≠ '/' := by
    rintro rfl
    exact absurd h (by decide)
  obtain ⟨front, back, e, ne, all⟩ : ∃ front back, b.root = front ++ back ∧ back ≠ [] ∧
      ∀ c ∈ back, c ≠ '/' := by
    obtain none | ⟨parts, s, last⟩ := b.segments.eq_nil_or_concat'
    · refine ⟨"http".toList ++ [':', '/', '/'], b.place, by simp [root, path, none], ?_, ?_⟩
      · simp [place, b.host_ne_nil]
      · exact fun c hc => solid (b.endsAuthority_place c hc)
    · have hs := b.plain s (by simp [last])
      refine ⟨"http".toList ++ ':' :: '/' :: '/' :: (b.place ++ parts.flatMap ('/' :: ·) ++ ['/']),
        s, by simp [root, path, last], hs.nonempty, ?_⟩
      exact fun c hc => solid (inert_of_isSegmentChar (hs.chars c hc)).inside
  rw [e, List.getLast?_append_of_ne_nil _ ne]
  exact fun c hc => all c (List.mem_of_getLast? hc)

end PlainBase
end DownloadClient.Web
