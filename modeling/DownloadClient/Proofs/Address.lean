import Mathlib
import DownloadClient.Proofs.Json.Value
import DownloadClient.Web.Address

/-! Addresses with a path put behind their text. A slash ends the authority, so what stands behind
it has no say in whether the text is an address, nor in where the address leads. -/

namespace DownloadClient.Web.Address

open DownloadClient.Text

/-- What cleaning keeps of a text if there is something visible behind it. -/
def frontOf (s : List Char) : List Char :=
  (s.dropWhile isControlOrSpace).filter fun c => c ≠ '\t' && c ≠ '\n' && c ≠ '\r'

def Visible (s : List Char) : Prop := ∀ c ∈ s, isControlOrSpace c = false

theorem dropWhile_of_visible {s : List Char} (h : Visible s) :
    s.dropWhile isControlOrSpace = s := by
  cases s with
  | nil => rfl
  | cons c s => rw [List.dropWhile_cons_of_neg (by simp [h c (by simp)])]

theorem filter_of_visible {s : List Char} (h : Visible s) :
    s.filter (fun c => c ≠ '\t' && c ≠ '\n' && c ≠ '\r') = s := by
  rw [List.filter_eq_self]
  intro c hc
  have visible := h c hc
  simp only [isControlOrSpace, decide_eq_false_iff_not] at visible
  refine Decidable.by_contra fun hn => visible ?_
  simp only [Bool.and_eq_true, decide_eq_true_eq, not_and_or, not_not] at hn
  obtain (rfl | rfl) | rfl := hn <;> decide

theorem cleaned_append (s : List Char) {x : List Char} (h : Visible x) (ne : x ≠ []) :
    cleaned (s ++ x) = frontOf s ++ x := by
  have front : (s ++ x).dropWhile isControlOrSpace = s.dropWhile isControlOrSpace ++ x := by
    rw [List.dropWhile_append]
    split
    · next hs => rw [dropWhile_of_visible h, List.isEmpty_iff.1 hs, List.nil_append]
    · rfl
  have back (t : List Char) :
      ((t ++ x).reverse.dropWhile isControlOrSpace).reverse = t ++ x := by
    rw [List.reverse_append, List.dropWhile_append,
      dropWhile_of_visible fun c hc => h c (List.mem_reverse.1 hc)]
    simp [ne]
  rw [cleaned, front, back, List.filter_append, filter_of_visible h, frontOf]

theorem exists_frontOf_eq (s : List Char) : ∃ z, frontOf s = cleaned s ++ z := by
  obtain ⟨t, ht⟩ : ∃ t, s.dropWhile isControlOrSpace = t := ⟨_, rfl⟩
  refine ⟨(t.reverse.takeWhile isControlOrSpace).reverse.filter
    (fun c => c ≠ '\t' && c ≠ '\n' && c ≠ '\r'), ?_⟩
  rw [frontOf, cleaned, ht, ← List.filter_append, ← List.reverse_append,
    List.takeWhile_append_dropWhile, List.reverse_reverse]

theorem frontOf_eq_cleaned {s : List Char} (h : ∀ c ∈ s.getLast?, isControlOrSpace c = false) :
    frontOf s = cleaned s := by
  obtain rfl | ⟨t, c, rfl⟩ := s.eq_nil_or_concat'
  · rfl
  · have visible : Visible [c] := by simpa [Visible] using h
    rw [cleaned_append t visible (by simp), frontOf, List.dropWhile_append]
    split
    · next ht =>
      rw [dropWhile_of_visible visible, filter_of_visible visible, frontOf, List.isEmpty_iff.1 ht]
      rfl
    · rw [List.filter_append, filter_of_visible visible, frontOf]

theorem scheme?_eq_some_iff {s scheme rest : List Char} : scheme? s = some (scheme, rest) ↔
    ∃ c name, s = c :: name ++ ':' :: rest ∧ c.isAlpha = true ∧
      (∀ d ∈ c :: name, isSchemeChar d = true) ∧ scheme = (c :: name).map Char.toLower := by
  have colon : isSchemeChar ':' = false := by decide
  constructor
  · intro h
    unfold scheme? at h
    split at h
    · cases h
    · next c r =>
      split at h
      · cases h
      · next hc =>
        split at h
        · next rest' hd =>
          cases h
          have alpha : isSchemeChar c = true := by simp_all [isSchemeChar, Char.isAlphanum]
          rw [List.dropWhile_cons_of_pos alpha] at hd
          refine ⟨c, r.takeWhile isSchemeChar, ?_, by simpa using hc, ?_, ?_⟩
          · rw [List.cons_append, ← hd, List.takeWhile_append_dropWhile]
          · exact List.forall_mem_cons.2 ⟨alpha, fun d hd => List.mem_takeWhile_imp hd⟩
          · rw [List.takeWhile_cons_of_pos alpha]
        · cases h
  · rintro ⟨c, name, rfl, hc, all, rfl⟩
    rw [List.cons_append, scheme?]
    simp only [hc, not_true_eq_false, if_false]
    rw [← List.cons_append, List.dropWhile_append_of_pos all, List.takeWhile_append_of_pos all,
      List.dropWhile_cons_of_neg (by simp [colon]), List.takeWhile_cons_of_neg (by simp [colon]),
      List.append_nil]
    rfl

theorem scheme?_append {s scheme rest : List Char} (h : scheme? s = some (scheme, rest))
    (x : List Char) : scheme? (s ++ x) = some (scheme, rest ++ x) := by
  obtain ⟨c, name, rfl, hc, all, rfl⟩ := scheme?_eq_some_iff.1 h
  exact scheme?_eq_some_iff.2 ⟨c, name, by simp, hc, all, rfl⟩

theorem scheme?_of_append {s x scheme rest : List Char}
    (h : scheme? (s ++ '/' :: x) = some (scheme, rest)) :
    ∃ front, scheme? s = some (scheme, front) ∧ rest = front ++ '/' :: x := by
  obtain ⟨c, name, e, hc, all, rfl⟩ := scheme?_eq_some_iff.1 h
  obtain ⟨t, hs, ht⟩ | ⟨t, rfl, ht⟩ := List.append_eq_append_iff.1 e
  · cases t with
    | nil => simp at ht
    | cons d t =>
      obtain ⟨rfl, -⟩ := List.cons_eq_cons.1 ht
      exact absurd (all '/' (by simp [hs])) (by decide)
  · cases t with
    | nil => simp at ht
    | cons d t =>
      obtain ⟨rfl, rfl⟩ := List.cons_eq_cons.1 ht
      exact ⟨t, scheme?_eq_some_iff.2 ⟨c, name, rfl, hc, all, rfl⟩, rfl⟩

def Marked (s : List Char) : Prop := '#' ∈ s ∨ '?' ∈ s

theorem cut?_append_of_some {m : Char} {s a b : List Char} (h : cut? m s = some (a, b))
    (x : List Char) : cut? m (s ++ x) = some (a, b ++ x) := by
  obtain ⟨rfl, hm⟩ := eq_of_cut? h
  rw [List.append_assoc, List.cons_append, cut?_append hm]

theorem cut?_eq_some_of_mem {m : Char} {s : List Char} (h : m ∈ s) :
    ∃ a b, cut? m s = some (a, b) := by
  cases hs : cut? m s with
  | none => exact absurd h (cut?_eq_none_iff.1 hs)
  | some p => exact ⟨p.1, p.2, rfl⟩

theorem not_marked_append {s x : List Char} (h : ¬ Marked s) (hx : ¬ Marked x) :
    ¬ Marked (s ++ x) := by
  simp only [Marked, not_or, List.mem_append] at h hx ⊢
  exact ⟨⟨h.1, hx.1⟩, h.2, hx.2⟩

theorem cutTail_of_not_marked {s : List Char} (h : ¬ Marked s) : cutTail s = (s, none, none) := by
  rw [Marked, not_or] at h
  simp [cutTail, cut?_eq_none_iff.2 h.1, cut?_eq_none_iff.2 h.2]

def hasTail (s : List Char) : Bool := (cutTail s).2.1.isSome || (cutTail s).2.2.isSome

theorem cutTail_of_marked {s : List Char} (h : Marked s) {x : List Char} (hx : ¬ Marked x) :
    (cutTail (s ++ x)).1 = (cutTail s).1 ∧ hasTail (s ++ x) = true ∧ hasTail s = true := by
  rw [Marked, not_or] at hx
  by_cases hash : '#' ∈ s
  · obtain ⟨a, b, ha⟩ := cut?_eq_some_of_mem hash
    simp [hasTail, cutTail, cut?_append_of_some ha, ha]
  · have ask : '?' ∈ s := h.resolve_left hash
    obtain ⟨a, b, ha⟩ := cut?_eq_some_of_mem ask
    have whole : cut? '#' s = none := cut?_eq_none_iff.2 hash
    have whole' : cut? '#' (s ++ x) = none := cut?_eq_none_iff.2 (by simp [hash, hx.1])
    simp [hasTail, cutTail, whole, whole', cut?_append_of_some ha, ha]

theorem exists_bind_eq_ok {ε α β : Type} {x : Except ε α} {f : α → Except ε β}
    (h : ∀ a, ∃ b, f a = .ok b) : (∃ b, (x >>= f) = .ok b) ↔ ∃ a, x = .ok a := by
  simp only [Json.bind_eq_ok]
  constructor
  · rintro ⟨b, a, ha, -⟩
    exact ⟨a, ha⟩
  · rintro ⟨a, ha⟩
    obtain ⟨b, hb⟩ := h a
    exact ⟨b, a, ha, hb⟩

def Readable (scheme rest : List Char) : Prop :=
  ∃ v, body scheme (cutTail rest).1 (hasTail rest) = .ok v

theorem parse_of_scheme {s scheme rest : List Char}
    (h : scheme? (cleaned s) = some (scheme, rest)) :
    parse s = (body scheme (cutTail rest).1 (hasTail rest)).map fun v =>
      ⟨scheme, v.1, v.2, (cutTail rest).2.1.map (queryText (Kind.of scheme)),
        (cutTail rest).2.2.map (percentEncode fragmentSet)⟩ := by
  unfold parse hasTail
  rw [h]
  dsimp only
  cases body scheme (cutTail rest).1
    ((cutTail rest).2.1.isSome || (cutTail rest).2.2.isSome) <;> rfl

theorem exists_scheme_of_parse {s : List Char} {u : Address} (h : parse s = .ok u) :
    ∃ rest, scheme? (cleaned s) = some (u.scheme, rest) := by
  cases hs : scheme? (cleaned s) with
  | none =>
    rw [parse, hs] at h
    cases h
  | some p =>
    obtain ⟨scheme, rest⟩ := p
    rw [parse_of_scheme hs] at h
    obtain ⟨v, -, rfl⟩ := Json.map_eq_ok.1 h
    exact ⟨rest, rfl⟩

theorem exists_parse_iff {s : List Char} : (∃ u, parse s = .ok u) ↔
    ∃ scheme rest, scheme? (cleaned s) = some (scheme, rest) ∧ Readable scheme rest := by
  constructor
  · rintro ⟨u, h⟩
    obtain ⟨rest, hs⟩ := exists_scheme_of_parse h
    rw [parse_of_scheme hs] at h
    obtain ⟨v, hv, -⟩ := Json.map_eq_ok.1 h
    exact ⟨_, rest, hs, v, hv⟩
  · rintro ⟨scheme, rest, hs, v, hv⟩
    rw [parse_of_scheme hs, hv]
    exact ⟨_, rfl⟩

def authorityIn (scheme : List Char) (k : Kind) (s : List Char) (more : Bool) :
    Except AddressError (Option Authority × Path) := do
  let back := s.dropWhile (! k.endsAuthority ·)
  let (au, left) ← authorityOf scheme k (s.takeWhile (! k.endsAuthority ·))
    (more || !back.isEmpty)
  return (some au, rooted k (left ++ back))

theorem body_of_special {scheme : List Char} (h : Kind.of scheme = .special) (s : List Char)
    (more : Bool) : body scheme s more =
      authorityIn scheme .special (s.dropWhile Kind.special.isSlash) more := by
  unfold body
  rw [h]
  rfl

theorem body_of_other {scheme : List Char} (h : Kind.of scheme = .other) (s : List Char)
    (more : Bool) : (∃ v, body scheme s more = .ok v) ↔
      ∀ r, s = '/' :: '/' :: r → ∃ v, authorityIn scheme .other r more = .ok v := by
  unfold body
  rw [h]
  dsimp only
  split
  · next r => simp [authorityIn]
  · next r h => simpa using fun r' e => (h r' (by rw [e])).elim
  · next h h' => simpa using fun r' e => (h r' e).elim

theorem body_of_file {scheme : List Char} (h : Kind.of scheme = .file) (s : List Char)
    (more : Bool) : (∃ v, body scheme s more = .ok v) ↔
      ∀ c d r, s = c :: d :: r → Kind.file.isSlash c = true → Kind.file.isSlash d = true →
        ∃ v, fileBody r = .ok v := by
  unfold body
  rw [h]
  dsimp only
  split
  · next c d r =>
    by_cases slashes : Kind.file.isSlash c = true ∧ Kind.file.isSlash d = true
    · rw [if_pos (by simpa using slashes)]
      refine (exists_bind_eq_ok fun v => ⟨_, rfl⟩).trans ?_
      simp [slashes]
    · rw [if_neg (by simpa using slashes)]
      refine ⟨?_, fun _ => ⟨_, rfl⟩⟩
      rintro - c' d' r' e hc hd
      cases e
      exact absurd ⟨hc, hd⟩ slashes
  · next h =>
    exact ⟨fun _ c d r e => (h c d r e).elim, fun _ => ⟨_, rfl⟩⟩

section Slash

variable {p : Char → Bool} (h : p '/' = false) (s x : List Char)
include h

theorem takeWhile_append_slash : (s ++ '/' :: x).takeWhile p = s.takeWhile p := by
  induction s with
  | nil => simp [h]
  | cons c s ih => simp only [List.cons_append, List.takeWhile_cons, ih]

theorem dropWhile_append_slash : (s ++ '/' :: x).dropWhile p = s.dropWhile p ++ '/' :: x := by
  induction s with
  | nil => simp [h]
  | cons c s ih =>
    simp only [List.cons_append, List.dropWhile_cons, ih]
    split <;> rfl

end Slash

theorem authorityIn_append (scheme : List Char) (k : Kind) (s x : List Char) (more : Bool) :
    authorityIn scheme k (s ++ '/' :: x) more =
      (authorityOf scheme k (s.takeWhile (! k.endsAuthority ·)) true).map fun a =>
        (some a.1, rooted k (a.2 ++ (s.dropWhile (! k.endsAuthority ·) ++ '/' :: x))) := by
  have slash : (! k.endsAuthority '/') = false := by simp [Kind.endsAuthority, Kind.isSlash]
  have more' : (more || !(s.dropWhile (! k.endsAuthority ·) ++ '/' :: x).isEmpty) = true := by simp
  rw [authorityIn, takeWhile_append_slash slash, dropWhile_append_slash slash, more']
  cases authorityOf scheme k (s.takeWhile (! k.endsAuthority ·)) true <;> rfl

theorem exists_authorityIn_append (scheme : List Char) (k : Kind) (s x : List Char) (more : Bool) :
    (∃ v, authorityIn scheme k (s ++ '/' :: x) more = .ok v) ↔
      ∃ v, authorityOf scheme k (s.takeWhile (! k.endsAuthority ·)) true = .ok v := by
  rw [authorityIn_append]
  simp [Json.map_eq_ok]

def FileHost (s : List Char) : Prop := isDrive s = true ∨ s = [] ∨ ∃ h, Host.parse s = .ok h

theorem exists_fileBody_iff (s : List Char) : (∃ v, fileBody s = .ok v) ↔
    FileHost (s.takeWhile (! Kind.file.isSlash ·)) := by
  unfold fileBody FileHost
  generalize s.takeWhile (! Kind.file.isSlash ·) = front
  dsimp only
  split
  · next drive => exact ⟨fun _ => .inl drive, fun _ => ⟨_, rfl⟩⟩
  · next drive =>
    have last (host : Host) (p : Path × Bool) :
        ∃ v, (if p.2 = true ∨ host = .domain "localhost".toList then .ok (.empty, p.1)
          else .ok (host, p.1) : Except AddressError (Host × Path)) = .ok v := by
      split <;> exact ⟨_, rfl⟩
    cases front with
    | nil =>
      exact ⟨fun _ => .inr (.inl rfl), fun _ => last .empty _⟩
    | cons c r =>
      rw [if_neg (by simp)]
      refine (exists_bind_eq_ok fun host => last host _).trans ?_
      exact ⟨fun h => .inr (.inr h), fun h => (h.resolve_left drive).resolve_left (by simp)⟩

theorem exists_fileBody_append (s x : List Char) :
    (∃ v, fileBody (s ++ '/' :: x) = .ok v) ↔ ∃ v, fileBody s = .ok v := by
  rw [exists_fileBody_iff, exists_fileBody_iff, takeWhile_append_slash (by decide)]

/-- What may stand behind the slash: more slashes, or the path of an operation. -/
inductive Tail : List Char → Prop
  | slashes (n : Nat) : Tail (List.replicate n '/')
  | path (w : List Char) (h : ¬ Marked w) (v : Visible w) : Tail ('a' :: 'p' :: 'i' :: '/' :: w)

theorem Tail.not_marked {x : List Char} (h : Tail x) : ¬ Marked ('/' :: x) := by
  cases h with
  | slashes n => simp [Marked, List.mem_replicate]
  | path w h =>
    simp only [Marked, not_or] at h ⊢
    simp [h]

theorem Tail.visible {x : List Char} (h : Tail x) : Visible ('/' :: x) := by
  refine List.forall_mem_cons.2 ⟨by decide, ?_⟩
  cases h with
  | slashes n =>
    intro c hc
    rw [List.eq_of_mem_replicate hc]
    decide
  | path w h v =>
    have api : ∀ c ∈ ['a', 'p', 'i', '/'], isControlOrSpace c = false := by simp [isControlOrSpace]
    exact List.forall_mem_append.2 ⟨api, v⟩

theorem Tail.exists_authorityIn {x : List Char} (h : Tail x) (scheme : List Char) :
    ∃ v, authorityIn scheme .other x false = .ok v := by
  cases h with
  | slashes n =>
    cases n with
    | zero => exact ⟨_, rfl⟩
    | succ n => exact ⟨_, rfl⟩
  | path w h => exact (exists_authorityIn_append scheme .other ['a', 'p', 'i'] w false).2 ⟨_, rfl⟩

theorem Tail.of_slash {c : Char} {x : List Char} (h : Tail (c :: x)) (hc : c ≠ 'a') :
    c = '/' ∧ Tail x := by
  generalize hy : c :: x = y at h
  cases h with
  | slashes n =>
    cases n with
    | zero => cases hy
    | succ n =>
      obtain ⟨rfl, rfl⟩ := List.cons_eq_cons.1 hy
      exact ⟨rfl, .slashes n⟩
  | path w h => exact absurd (List.cons_eq_cons.1 hy).1 hc

theorem Tail.exists_fileBody {x : List Char} (h : Tail x) : ∃ v, fileBody x = .ok v := by
  cases h with
  | slashes n =>
    cases n with
    | zero => exact ⟨_, rfl⟩
    | succ n => exact (exists_fileBody_append [] _).2 ⟨_, rfl⟩
  | path w h =>
    refine (exists_fileBody_append ['a', 'p', 'i'] w).2 ((exists_fileBody_iff _).2 ?_)
    exact .inr (.inr ⟨.domain "api".toList, by cbv⟩)

def Fronted (scheme s : List Char) : Prop :=
  match Kind.of scheme with
  | .special => ∃ v, authorityOf scheme .special
      ((s.dropWhile Kind.special.isSlash).takeWhile (! Kind.special.endsAuthority ·)) true = .ok v
  | .other => ∀ r, s = '/' :: '/' :: r →
      ∃ v, authorityOf scheme .other (r.takeWhile (! Kind.other.endsAuthority ·)) true = .ok v
  | .file => ∀ c d r, s = c :: d :: r → Kind.file.isSlash c = true → Kind.file.isSlash d = true →
      ∃ v, fileBody r = .ok v

def Placed (scheme s : List Char) : Prop :=
  Kind.of scheme = .special → ∃ c ∈ s, Kind.special.isSlash c = false

theorem body_append_of_special {scheme : List Char} (hk : Kind.of scheme = .special)
    {s : List Char} (hs : Placed scheme s) (x : List Char) (more : Bool) :
    body scheme (s ++ '/' :: x) more =
      authorityIn scheme .special (s.dropWhile Kind.special.isSlash ++ '/' :: x) more := by
  obtain ⟨c, hc, solid⟩ := hs hk
  have rest : ¬ (s.dropWhile Kind.special.isSlash).isEmpty = true := by
    rw [List.isEmpty_iff, List.dropWhile_eq_nil_iff]
    exact fun all => Bool.false_ne_true (solid.symm.trans (all c hc))
  rw [body_of_special hk, List.dropWhile_append, if_neg rest]

theorem exists_body_append_of_other {scheme : List Char} (hk : Kind.of scheme = .other)
    (s : List Char) {x : List Char} (hx : Tail x) :
    (∃ v, body scheme (s ++ '/' :: x) false = .ok v) ↔ ∀ r, s = '/' :: '/' :: r →
      ∃ v, authorityOf scheme .other (r.takeWhile (! Kind.other.endsAuthority ·)) true = .ok v := by
  rw [body_of_other hk]
  -- With fewer than two characters before it, the slash may be one of those that begin an
  -- authority, and the tail the rest of it.
  match s with
  | [] =>
    refine iff_of_true (fun r e => ?_) (by simp)
    obtain ⟨-, e⟩ := List.cons_eq_cons.1 e
    exact ((e ▸ hx).of_slash (by decide)).2.exists_authorityIn scheme
  | [c] =>
    refine iff_of_true (fun r e => ?_) (by simp)
    obtain ⟨-, -, rfl⟩ : c = '/' ∧ True ∧ x = r := by simpa using e
    exact hx.exists_authorityIn scheme
  | c :: d :: r =>
    simp only [List.cons_append, List.cons_eq_cons]
    constructor
    · rintro h _ ⟨rfl, rfl, rfl⟩
      exact (exists_authorityIn_append scheme .other r x false).1 (h _ ⟨rfl, rfl, rfl⟩)
    · rintro h _ ⟨rfl, rfl, rfl⟩
      exact (exists_authorityIn_append scheme .other r x false).2 (h _ ⟨rfl, rfl, rfl⟩)

theorem exists_body_append_of_file {scheme : List Char} (hk : Kind.of scheme = .file)
    (s : List Char) {x : List Char} (hx : Tail x) :
    (∃ v, body scheme (s ++ '/' :: x) false = .ok v) ↔ ∃ v, body scheme s false = .ok v := by
  rw [body_of_file hk, body_of_file hk]
  match s with
  | [] =>
    refine iff_of_true (fun c d r e _ hd => ?_) (by simp)
    obtain ⟨-, e⟩ := List.cons_eq_cons.1 e
    have hd : d ≠ 'a' := by
      rintro rfl
      exact absurd hd (by decide)
    exact ((e ▸ hx).of_slash hd).2.exists_fileBody
  | [c] =>
    refine iff_of_true (fun c d r e _ _ => ?_) (by simp)
    obtain ⟨-, e⟩ := List.cons_eq_cons.1 e
    obtain ⟨-, rfl⟩ := List.cons_eq_cons.1 e
    exact hx.exists_fileBody
  | c :: d :: r =>
    simp only [List.cons_append, List.cons_eq_cons]
    constructor
    · rintro h _ _ _ ⟨rfl, rfl, rfl⟩ hc hd
      exact (exists_fileBody_append r x).1 (h _ _ _ ⟨rfl, rfl, rfl⟩ hc hd)
    · rintro h _ _ _ ⟨rfl, rfl, rfl⟩ hc hd
      exact (exists_fileBody_append r x).2 (h _ _ _ ⟨rfl, rfl, rfl⟩ hc hd)

theorem exists_body_append {scheme s x : List Char} (hs : Placed scheme s) (hx : Tail x) :
    (∃ v, body scheme (s ++ '/' :: x) false = .ok v) ↔ Fronted scheme s := by
  unfold Fronted
  split
  · next hk =>
    rw [body_append_of_special hk hs]
    exact exists_authorityIn_append scheme .special _ x false
  · next hk => exact exists_body_append_of_other hk s hx
  · next hk => exact (exists_body_append_of_file hk s hx).trans (body_of_file hk s false)

theorem readable_append_iff {scheme s x y : List Char} (hs : Placed scheme s) (hx : Tail x)
    (hy : Tail y) : Readable scheme (s ++ '/' :: x) ↔ Readable scheme (s ++ '/' :: y) := by
  unfold Readable
  by_cases marked : Marked s
  · obtain ⟨front, tail, -⟩ := cutTail_of_marked marked hx.not_marked
    obtain ⟨front', tail', -⟩ := cutTail_of_marked marked hy.not_marked
    rw [front, tail, front', tail']
  · simp only [hasTail, cutTail_of_not_marked (not_marked_append marked hx.not_marked),
      cutTail_of_not_marked (not_marked_append marked hy.not_marked),
      Option.isSome_none, Bool.or_self, exists_body_append hs hx, exists_body_append hs hy]

theorem placed_of_readable {scheme rest : List Char} (h : Readable scheme rest) :
    Placed scheme rest := by
  intro hk
  by_contra hn
  have all : ∀ c ∈ rest, Kind.special.isSlash c = true := by simpa using hn
  have unmarked : ¬ Marked rest := by
    rintro (m | m) <;> exact absurd (all _ m) (by decide)
  obtain ⟨v, hv⟩ := h
  rw [hasTail, cutTail_of_not_marked unmarked, body_of_special hk,
    List.dropWhile_eq_nil_iff.2 all] at hv
  cases hv

theorem Placed.append {scheme s : List Char} (h : Placed scheme s) (x : List Char) :
    Placed scheme (s ++ x) := by
  intro hk
  obtain ⟨c, hc, solid⟩ := h hk
  exact ⟨c, List.mem_append_left _ hc, solid⟩

theorem Placed.of_append {scheme s x : List Char} (h : Placed scheme (s ++ x))
    (hx : ∀ c ∈ x, c = '/') : Placed scheme s := by
  intro hk
  obtain ⟨c, hc, solid⟩ := h hk
  refine ⟨c, (List.mem_append.1 hc).resolve_right fun hc => ?_, solid⟩
  rw [hx c hc] at solid
  exact absurd solid (by decide)

theorem placed_of_parse {s : List Char} {n : Nat} {u : Address}
    (h : parse (s ++ List.replicate n '/') = .ok u) {scheme rest : List Char}
    (hs : scheme? (frontOf s) = some (scheme, rest)) : Placed scheme rest := by
  obtain ⟨scheme', rest', hs', readable⟩ := exists_parse_iff.1 ⟨u, h⟩
  have placed := placed_of_readable readable
  cases n with
  | zero =>
    obtain ⟨z, hz⟩ := exists_frontOf_eq s
    rw [List.replicate_zero, List.append_nil] at hs'
    rw [hz, scheme?_append hs'] at hs
    cases hs
    exact placed.append z
  | succ n =>
    rw [List.replicate_succ, cleaned_append s (Tail.slashes n).visible (by simp)] at hs'
    obtain ⟨front, hf, rfl⟩ := scheme?_of_append hs'
    rw [hs] at hf
    cases hf
    exact placed.of_append (by simp)

/-- A text that is an address, with slashes at its end or not: whether it goes on as one does not
depend on the tail. -/
theorem exists_parse_append_iff {s : List Char} {n : Nat} {u : Address}
    (h : parse (s ++ List.replicate n '/') = .ok u) {x y : List Char} (hx : Tail x)
    (hy : Tail y) : (∃ v, parse (s ++ '/' :: x) = .ok v) ↔ ∃ v, parse (s ++ '/' :: y) = .ok v := by
  simp only [exists_parse_iff, cleaned_append s hx.visible (List.cons_ne_nil _ _),
    cleaned_append s hy.visible (List.cons_ne_nil _ _)]
  have exchange {x y : List Char} (hx : Tail x) (hy : Tail y) :
      (∃ scheme rest, scheme? (frontOf s ++ '/' :: x) = some (scheme, rest) ∧
        Readable scheme rest) →
      ∃ scheme rest, scheme? (frontOf s ++ '/' :: y) = some (scheme, rest) ∧
        Readable scheme rest := by
    rintro ⟨scheme, rest, hs, readable⟩
    obtain ⟨front, hf, rfl⟩ := scheme?_of_append hs
    exact ⟨scheme, _, scheme?_append hf _,
      (readable_append_iff (placed_of_parse h hf) hx hy).1 readable⟩
  exact ⟨exchange hx hy, exchange hy hx⟩

/-- Nothing but an `@` stands where an authority should. Only schemes that have no use for a host
let this pass, and only at the end of a text. -/
def LoneAt (s : List Char) : Prop :=
  ∃ scheme, scheme? (cleaned s) = some (scheme, "//@".toList) ∧ Kind.of scheme = .other

theorem authorityOf_of_more {scheme : List Char} {k : Kind} {s : List Char} (h : s ≠ ['@']) :
    authorityOf scheme k s true = authorityOf scheme k s false := by
  have lone : ¬ (s.head? = some '@' ∧ ((cutLast? '@' s).getD ([], s)).2.isEmpty = true ∧
      ((cutLast? '@' s).getD ([], s)).1.isEmpty = true) := by
    rintro ⟨head, place, user⟩
    cases hc : cutLast? '@' s with
    | none =>
      rw [hc, Option.getD_none, List.isEmpty_iff] at place
      subst place
      cases head
    | some p =>
      rw [hc, Option.getD_some, List.isEmpty_iff] at place user
      have := eq_of_cutLast? hc
      rw [user, place] at this
      exact h this
  unfold authorityOf
  dsimp only
  rw [if_neg fun h => lone h.2, if_neg fun h => Bool.false_ne_true h.1]

theorem authorityOf_of_authorityIn {scheme : List Char} {k : Kind} {s : List Char} (hs : s ≠ ['@'])
    (h : ∃ v, authorityIn scheme k s false = .ok v) :
    ∃ v, authorityOf scheme k (s.takeWhile (! k.endsAuthority ·)) true = .ok v := by
  obtain ⟨v, hv⟩ := h
  obtain ⟨a, ha, -⟩ := Json.bind_eq_ok.1 hv
  by_cases front : s.takeWhile (! k.endsAuthority ·) = ['@']
  · have back : s.dropWhile (! k.endsAuthority ·) ≠ [] := by
      intro back
      have whole := List.takeWhile_append_dropWhile (p := (! k.endsAuthority ·)) (l := s)
      rw [front, back] at whole
      exact hs whole.symm
    have more : (false || !(s.dropWhile (! k.endsAuthority ·)).isEmpty) = true := by
      simpa using back
    exact ⟨a, more ▸ ha⟩
  · refine ⟨a, ?_⟩
    cases hb : (false || !(s.dropWhile (! k.endsAuthority ·)).isEmpty) with
    | true => rwa [hb] at ha
    | false => rwa [hb, ← authorityOf_of_more front] at ha

theorem fronted_iff {scheme rest : List Char} (h : ∃ v, body scheme rest false = .ok v) :
    Fronted scheme rest ↔ ¬ (rest = "//@".toList ∧ Kind.of scheme = .other) := by
  unfold Fronted
  split
  · next hk =>
    rw [body_of_special hk] at h
    refine iff_of_true (authorityOf_of_authorityIn ?_ h) (by simp [hk])
    intro lone
    obtain ⟨v, hv⟩ := h
    rw [lone] at hv
    cases hv
  · next hk =>
    rw [body_of_other hk] at h
    constructor
    · rintro fronted ⟨rfl, -⟩
      obtain ⟨v, hv⟩ := fronted ['@'] rfl
      cases hv
    · rintro notLone r rfl
      refine authorityOf_of_authorityIn ?_ (h r rfl)
      rintro rfl
      exact notLone ⟨rfl, hk⟩
  · next hk =>
    exact iff_of_true ((body_of_file hk rest false).1 h) (by simp [hk])

theorem exists_parse_slash_iff {s : List Char} (hs : frontOf s = cleaned s) {u : Address}
    (h : parse s = .ok u) : (∃ v, parse (s ++ ['/']) = .ok v) ↔ ¬ LoneAt s := by
  obtain ⟨scheme, rest, hr, readable⟩ := exists_parse_iff.1 ⟨u, h⟩
  have slash : Tail [] := .slashes 0
  have lone : LoneAt s ↔ rest = "//@".toList ∧ Kind.of scheme = .other := by
    simp [LoneAt, hr, ↓existsAndEq, eq_comm]
  have whole : (∃ v, parse (s ++ ['/']) = .ok v) ↔ Readable scheme (rest ++ ['/']) := by
    rw [exists_parse_iff, cleaned_append s slash.visible (by simp), hs, scheme?_append hr]
    simp
  rw [whole, lone]
  by_cases marked : Marked rest
  · obtain ⟨front, tail, tail'⟩ := cutTail_of_marked marked slash.not_marked
    refine iff_of_true ?_ ?_
    · rw [Readable, front, tail, ← tail']
      exact readable
    · rintro ⟨rfl, -⟩
      simp [Marked] at marked
  · have marked' : ¬ Marked (rest ++ ['/']) := by
      simpa [Marked] using marked
    have placed := placed_of_readable readable
    rw [Readable, hasTail, cutTail_of_not_marked marked] at readable
    rw [Readable, hasTail, cutTail_of_not_marked marked']
    exact (exists_body_append placed slash).trans (fronted_iff readable)

theorem exists_body_of_special {scheme s x y : List Char} (hk : Kind.of scheme = .special)
    (hs : Placed scheme s) (hx : ¬ Marked ('/' :: x)) (hy : ¬ Marked ('/' :: y))
    {v : Option Authority × Path}
    (h : body scheme (cutTail (s ++ '/' :: x)).1 (hasTail (s ++ '/' :: x)) = .ok v) :
    ∃ w, body scheme (cutTail (s ++ '/' :: y)).1 (hasTail (s ++ '/' :: y)) = .ok w ∧
      w.1 = v.1 := by
  by_cases marked : Marked s
  · obtain ⟨front, tail, -⟩ := cutTail_of_marked marked hx
    obtain ⟨front', tail', -⟩ := cutTail_of_marked marked hy
    rw [front, tail] at h
    rw [front', tail']
    exact ⟨v, h, rfl⟩
  · rw [hasTail, cutTail_of_not_marked (not_marked_append marked hx),
      body_append_of_special hk hs, authorityIn_append] at h
    rw [hasTail, cutTail_of_not_marked (not_marked_append marked hy),
      body_append_of_special hk hs, authorityIn_append]
    obtain ⟨a, ha, rfl⟩ := Json.map_eq_ok.1 h
    rw [ha]
    exact ⟨_, rfl, rfl⟩

theorem exists_parse_of_special {s w w' : List Char} (hw : Tail ('a' :: 'p' :: 'i' :: '/' :: w))
    (hw' : Tail ('a' :: 'p' :: 'i' :: '/' :: w')) {u : Address}
    (h : parse (s ++ '/' :: 'a' :: 'p' :: 'i' :: '/' :: w) = .ok u)
    (hk : Kind.of u.scheme = .special) :
    ∃ v, parse (s ++ '/' :: 'a' :: 'p' :: 'i' :: '/' :: w') = .ok v ∧ v.scheme = u.scheme ∧
      v.authority = u.authority := by
  obtain ⟨rest, hs⟩ := exists_scheme_of_parse h
  have parsed := parse_of_scheme hs
  rw [cleaned_append s hw.visible (by simp)] at hs
  obtain ⟨front, hf, rfl⟩ := scheme?_of_append hs
  have hs' : scheme? (cleaned (s ++ '/' :: 'a' :: 'p' :: 'i' :: '/' :: w')) =
      some (u.scheme, front ++ '/' :: 'a' :: 'p' :: 'i' :: '/' :: w') := by
    rw [cleaned_append s hw'.visible (by simp), scheme?_append hf]
  -- Taken with `/api` the front has more than slashes in it, whatever it is.
  have placed : Placed u.scheme (front ++ ['/', 'a', 'p', 'i']) :=
    fun _ => ⟨'a', by simp, by decide⟩
  have unmarked {w : List Char} (h : Tail ('a' :: 'p' :: 'i' :: '/' :: w)) :
      ¬ Marked ('/' :: w) := by
    have := h.not_marked
    simp [Marked] at this ⊢
    exact this
  rw [h] at parsed
  obtain ⟨v, hv, hu⟩ := Json.map_eq_ok.1 parsed.symm
  have split (w : List Char) : front ++ '/' :: 'a' :: 'p' :: 'i' :: '/' :: w =
      (front ++ ['/', 'a', 'p', 'i']) ++ '/' :: w := by simp
  rw [split] at hv
  obtain ⟨v', hv', same⟩ := exists_body_of_special hk placed (unmarked hw) (unmarked hw') hv
  rw [parse_of_scheme hs', split, hv']
  refine ⟨_, rfl, rfl, ?_⟩
  rw [← hu]
  exact same

end DownloadClient.Web.Address
