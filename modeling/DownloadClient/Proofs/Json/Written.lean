import Mathlib.Data.List.Forall2
import DownloadClient.Json.Reader

/-! What is read of a value that was written. Its text falls into the tokens of the value, whatever
the layout, and these make up a tree without faults. -/

namespace DownloadClient.Json

open DownloadClient.Text

def pieceOf (c : Char) : Piece :=
  if c < ' ' ∧ c ∉ ['\x08', '\x0c', '\n', '\r', '\t'] then .unit c.toNat else .symbol (some c)

theorem hexValue?_hexChar {d : Nat} (h : d < 16) : hexValue? (hexChar d) = some d := by
  have all : ∀ d ∈ List.range 16, hexValue? (hexChar d) = some d := by decide
  exact all d (List.mem_range.2 h)

theorem toNat_lt_of_lt_space {c : Char} (h : c < ' ') : c.toNat < 32 := h

theorem hexUnit?_control {c : Char} (h : c < ' ') :
    hexUnit? (some '0') (some '0') (some (hexChar (c.toNat / 16)))
      (some (hexChar (c.toNat % 16))) = some c.toNat := by
  have hc := toNat_lt_of_lt_space h
  have zero : hexValue? '0' = some 0 := by decide
  simp only [hexUnit?, zero, hexValue?_hexChar (show c.toNat / 16 < 16 by omega),
    hexValue?_hexChar (show c.toNat % 16 < 16 by omega), Option.bind_eq_bind, Option.bind_some,
    Option.pure_def, Option.some.injEq]
  omega

theorem body_escapedChar (c : Char) (r : List Symbol) :
    body (ofChars (escapedChar c) ++ r) = (body r).push (pieceOf c) := by
  unfold escapedChar
  split
  · rfl
  · rfl
  · rfl
  · rfl
  · rfl
  · rfl
  · rfl
  · next h1 h2 h3 h4 h5 h6 h7 =>
    split
    · next hc =>
      have plain : c ∉ ['\x08', '\x0c', '\n', '\r', '\t'] := by
        simp only [List.mem_cons, not_or, List.not_mem_nil, not_false_eq_true, and_true]
        exact ⟨h3, h4, h5, h6, h7⟩
      simp [ofChars, body, hexUnit?_control hc, pieceOf, hc, plain]
    · next hc =>
      change body (some c :: r) = _
      rw [body, if_neg hc, pieceOf, if_neg fun h => hc h.1]
      all_goals simp_all

theorem ofChars_append (s s' : List Char) : ofChars (s ++ s') = ofChars s ++ ofChars s' :=
  List.map_append

theorem body_flatMap_escapedChar (s : List Char) (r : List Symbol) :
    body (ofChars (s.flatMap escapedChar) ++ some '"' :: r) = ⟨s.map pieceOf, .quote, r⟩ := by
  induction s with
  | nil => rfl
  | cons c s ih =>
    rw [List.flatMap_cons, ofChars_append, List.append_assoc, body_escapedChar, ih]
    rfl

theorem join_map_pieceOf (s : List Char) : join .quote (s.map pieceOf) = .ok (s.map some) := by
  induction s with
  | nil => rfl
  | cons c s ih =>
    rw [List.map_cons, List.map_cons, pieceOf]
    split
    · next hc =>
      -- a control character is no surrogate: it stands for itself
      have hc := toNat_lt_of_lt_space hc.1
      have low : isLowSurrogate c.toNat = false := by simp [isLowSurrogate]; omega
      have high : isHighSurrogate c.toNat = false := by simp [isHighSurrogate]; omega
      rw [join.eq_def]
      simp [low, high, ih, Except.map]
    · simp [join, ih, Except.map]

theorem token_body_literal (s : String) (r : List Symbol) :
    next (some '"') (ofChars (s.toList.flatMap escapedChar) ++ some '"' :: r) =
      (some (.text (.ok s)), r) := by
  have read : Body.read ⟨s.toList.map pieceOf, .quote, r⟩ = .ok s := by
    have chars : chars? (s.toList.map some) = some s.toList := chars?_ofChars s.toList
    simp [Body.read, join_map_pieceOf, chars, bind, Except.bind]
  change (some (body _).token, (body _).rest) = _
  rw [body_flatMap_escapedChar, Body.token, read]
  rfl

theorem tokens_cons_of_none {x : Symbol} {r rest : List Symbol} (h : next x r = (none, rest)) :
    tokens (x :: r) = tokens rest := by
  rw [tokens]
  split <;> simp_all

theorem tokens_cons_of_some {x : Symbol} {r rest : List Symbol} {t : Token}
    (h : next x r = (some t, rest)) : tokens (x :: r) = t :: tokens rest := by
  rw [tokens]
  split <;> simp_all

theorem tokens_literal (s : String) (r : List Symbol) :
    tokens (ofChars (literal s) ++ r) = .text (.ok s) :: tokens r := by
  refine Eq.trans ?_ (tokens_cons_of_some (token_body_literal s r))
  simp [literal, ofChars]

def Boundary (r : List Symbol) : Prop :=
  ∀ c, r.head? = some (some c) → isDigit c = false ∧ c ≠ '.' ∧ c ≠ 'e' ∧ c ≠ 'E'

theorem digits_append {ds : List Char} (hd : ∀ c ∈ ds, isDigit c = true) {r : List Symbol}
    (hr : Boundary r) : digits (ofChars ds ++ r) = (ds, r) := by
  induction ds with
  | nil =>
    cases r with
    | nil => rfl
    | cons x r =>
      cases x with
      | none => rfl
      | some c => simp [ofChars, digits, (hr c rfl).1]
  | cons c ds ih =>
    have ih := ih fun d h => hd d (List.mem_cons_of_mem _ h)
    have hc := hd c List.mem_cons_self
    simp only [ofChars, List.map_cons, List.cons_append] at ih ⊢
    simp [digits, hc, ih]

theorem numberToken_decimal (negative : Bool) (n : Nat) {r : List Symbol} (hr : Boundary r) :
    numberToken negative (decimal n, r) =
      (.number (Written.value ⟨negative, decimal n, none, none⟩), r) := by
  have whole : wholeToken negative (decimal n) r =
      (.number (Written.value ⟨negative, decimal n, none, none⟩), r) := by
    unfold wholeToken fractionToken
    split
    · exact absurd rfl (hr _ rfl).2.1
    · split
      · exact absurd rfl (hr _ rfl).2.2.1
      · exact absurd rfl (hr _ rfl).2.2.2
      · rfl
  unfold numberToken
  split
  · next e => exact absurd (Prod.mk.inj e).1 (decimal_ne_nil n)
  · next e => exact absurd (Prod.mk.inj e).1 (decimal_ne_zero_cons n _ _)
  · next e =>
    obtain ⟨rfl, rfl⟩ := Prod.mk.inj e
    exact whole

theorem value_decimal {n : Nat} (h : n < wordLimit) :
    Written.value ⟨false, decimal n, none, none⟩ = .ok (.integer n) := by
  simp [Written.value, h]

theorem value_negative_decimal {n : Nat} (h : 0 < n) (h' : n ≤ Nat.pow 2 63) :
    Written.value ⟨true, decimal n, none, none⟩ = .ok (.integer (-n)) := by
  simp only [Written.value, ofDecimal_decimal]
  rw [if_neg (by simp), if_pos ⟨trivial, h, h'⟩]

theorem next_digit {c : Char} (h : isDigit c = true) (r : List Symbol) :
    next (some c) r = (numberToken false ((digits r).map (c :: ·) id)).map some id := by
  unfold next
  split
  case h_16 e =>
    cases e
    exact if_pos h
  case h_17 e => cases e
  all_goals
    next e =>
      cases e
      exact absurd h (by decide)

def Readable (n : Numeral) : Prop :=
  ∀ r, Boundary r → tokens (ofChars (numeralText n) ++ r) = .number (.ok n) :: tokens r

theorem readable_ofNat {n : Nat} (h : n < wordLimit) : Readable (.integer n) := by
  intro r hr
  change tokens (ofChars (decimal n) ++ r) = _
  obtain ⟨c, ds, hn⟩ := List.exists_cons_of_ne_nil (decimal_ne_nil n)
  have hd := isDigit_of_mem_decimal n
  rw [hn] at hd
  refine hn ▸ tokens_cons_of_some ?_
  change next (some c) (ofChars ds ++ r) = _
  rw [next_digit (hd c List.mem_cons_self),
    digits_append (fun d hm => hd d (List.mem_cons_of_mem c hm)) hr]
  change (numberToken false (c :: ds, r)).map some id = _
  rw [← hn, numberToken_decimal false n hr, value_decimal h]
  rfl

theorem readable_neg {n : Nat} (h : 0 < n) (h' : n ≤ Nat.pow 2 63) : Readable (.integer (-n)) := by
  intro r hr
  obtain ⟨m, rfl⟩ : ∃ m, n = m + 1 := ⟨n - 1, by omega⟩
  refine tokens_cons_of_some ?_
  change (numberToken true (digits (ofChars (decimal (m + 1)) ++ r))).map some id = _
  rw [digits_append (isDigit_of_mem_decimal _) hr, numberToken_decimal true _ hr,
    value_negative_decimal h h']
  rfl

theorem readable_integer {i : Int} (h : -Nat.pow 2 63 ≤ i) (h' : i < wordLimit) :
    Readable (.integer i) := by
  obtain ⟨n, rfl | rfl⟩ := i.eq_nat_or_neg
  · exact readable_ofNat (Int.ofNat_lt.1 h')
  · cases n with
    | zero => exact readable_ofNat (n := 0) (by decide)
    | succ n => exact readable_neg n.succ_pos (by omega)

def isSpace (c : Char) : Prop := c ∈ [' ', '\t', '\n', '\r']

structure Layout.Plain (l : Layout) : Prop where
  newline : ∀ depth, ∀ c ∈ l.newline depth, isSpace c
  colon : ∃ after, l.colon = ':' :: after ∧ ∀ c ∈ after, isSpace c

theorem Layout.Plain.compact : Layout.compact.Plain where
  newline := by simp [Layout.compact]
  colon := ⟨[], rfl, by simp⟩

theorem Layout.Plain.pretty : Layout.pretty.Plain where
  newline := by
    intro depth c hc
    obtain rfl | hc := List.mem_cons.1 hc
    · simp [isSpace]
    · simp [(List.mem_replicate.1 hc).2, isSpace]
  colon := ⟨[' '], rfl, by simp [isSpace]⟩

theorem tokens_spaces {ws : List Char} (h : ∀ c ∈ ws, isSpace c) (r : List Symbol) :
    tokens (ofChars ws ++ r) = tokens r := by
  induction ws with
  | nil => rfl
  | cons c ws ih =>
    have hc : next (some c) (ofChars ws ++ r) = (none, ofChars ws ++ r) := by
      have := h c List.mem_cons_self
      simp only [isSpace, List.mem_cons, List.not_mem_nil, or_false] at this
      obtain rfl | rfl | rfl | rfl := this <;> rfl
    exact (tokens_cons_of_none hc).trans (ih fun d hd => h d (List.mem_cons_of_mem c hd))

theorem tokens_of_spaces {ws : List Char} (h : ∀ c ∈ ws, isSpace c) : tokens (ofChars ws) = [] := by
  have := tokens_spaces h []
  rwa [List.append_nil, tokens] at this

theorem boundary_cons {c : Char} (h : isSpace c ∨ c ∈ [',', ':', ']', '}']) (r : List Symbol) :
    Boundary (some c :: r) := by
  have all : [' ', '\t', '\n', '\r', ',', ':', ']', '}'].all
      (fun c => !isDigit c && c != '.' && c != 'e' && c != 'E') = true := by
    decide
  have hc := List.all_eq_true.1 all c (by simpa [isSpace, or_assoc] using h)
  intro d hd
  obtain rfl : c = d := by simpa using hd
  simpa [and_assoc] using hc

theorem boundary_spaces {ws : List Char} (h : ∀ c ∈ ws, isSpace c) {r : List Symbol}
    (hr : Boundary r) : Boundary (ofChars ws ++ r) := by
  cases ws with
  | nil => exact hr
  | cons c ws => exact boundary_cons (.inl (h c List.mem_cons_self)) _

mutual
def tree : Json → Tree
  | .null => .null
  | .bool b => .bool b
  | .number n => .number (.ok n)
  | .text s => .text (.ok s)
  | .list items => .list (trees items) .closed
  | .object members => .object (memberTrees members) .closed
def trees : List Json → List Tree
  | [] => []
  | x :: xs => tree x :: trees xs
def memberTrees : List (String × Json) → List (Key × Tree)
  | [] => []
  | m :: ms => memberTree m :: memberTrees ms
def memberTree : String × Json → Key × Tree
  | (k, x) => (.ok k, tree x)
end

mutual
def numerals : Json → List Numeral
  | .number n => [n]
  | .list items => numeralsOfItems items
  | .object members => numeralsOfMembers members
  | _ => []
def numeralsOfItems : List Json → List Numeral
  | [] => []
  | x :: xs => numerals x ++ numeralsOfItems xs
def numeralsOfMembers : List (String × Json) → List Numeral
  | [] => []
  | m :: ms => numeralsOfMember m ++ numeralsOfMembers ms
def numeralsOfMember : String × Json → List Numeral
  | (_, x) => numerals x
end

/-- What a text does to the state before it, whatever stands behind it. -/
def Moves (s : List Char) (a b : State) : Prop :=
  ∀ r, Boundary r → (tokens (ofChars s ++ r)).foldl State.step a = (tokens r).foldl State.step b

namespace Moves

variable {s s' : List Char} {a b c : State}

theorem nil (a : State) : Moves [] a a := fun _ _ => rfl

theorem append (h : Moves s a b) (h' : Moves s' b c)
    (hs : ∀ r, Boundary r → Boundary (ofChars s' ++ r)) : Moves (s ++ s') a c := by
  intro r hr
  rw [ofChars_append, List.append_assoc, h _ (hs r hr), h' r hr]

theorem spaces {ws : List Char} (hw : ∀ c ∈ ws, isSpace c) (h : Moves s a b) :
    Moves (ws ++ s) a b := by
  intro r hr
  rw [ofChars_append, List.append_assoc, tokens_spaces hw, h r hr]

theorem mark {m : Char} {t : Token} (hm : ∀ r, next (some m) r = (some t, r))
    (h : Moves s (a.step t) b) : Moves (m :: s) a b := by
  intro r hr
  change (tokens (some m :: (ofChars s ++ r))).foldl State.step a = _
  rw [tokens_cons_of_some (hm _), List.foldl_cons, h r hr]

theorem key {k : String} (h : Moves s (a.step (.text (.ok k))) b) :
    Moves (literal k ++ s) a b := by
  intro r hr
  rw [ofChars_append, List.append_assoc, tokens_literal, List.foldl_cons, h r hr]

theorem parts {α : Type} {ws : List Char} (hw : ∀ c ∈ ws, isSpace c)
    (before : Bool → List α → State) (after : List α → State)
    (comma : ∀ seen, (after seen).step .comma = before false seen) {ps : List (List Char)}
    {xs : List α} (h : List.Forall₂
      (fun p x => ∀ first seen, Moves p (before first seen) (after (x :: seen))) ps xs)
    (ne : ps ≠ []) (first : Bool) (seen : List α) :
    Moves (List.intercalate [','] (ps.map (ws ++ ·))) (before first seen)
      (after (xs.reverse ++ seen)) := by
  induction h generalizing first seen with
  | nil => exact absurd rfl ne
  | @cons p x ps xs hp h ih =>
    cases h with
    | nil => simpa using spaces hw (hp first seen)
    | @cons p' x' ps xs hp' h =>
      -- behind the comma the induction goes on, no longer at the first part
      have rest := ih (by simp) false (x :: seen)
      rw [← comma] at rest
      have rest := mark (m := ',') (fun _ => rfl) rest
      have := (spaces hw (hp first seen)).append rest fun r _ => boundary_cons (by simp) _
      simpa [List.intercalate_cons_cons] using this

theorem block {α : Type} {l : Layout} (hl : l.Plain) {depth : Nat} {m m' : Char} {t t' : Token}
    (hm : ∀ r, next (some m) r = (some t, r)) (hm' : ∀ r, next (some m') r = (some t', r))
    (closes : m' ∈ [']', '}']) (before : Bool → List α → State) (after : List α → State)
    (whole : List α → State) (first : a.step t = before true [])
    (comma : ∀ seen, (after seen).step .comma = before false seen)
    (empty : (before true []).step t' = whole [])
    (last : ∀ seen, (after seen).step t' = whole seen.reverse) {ps : List (List Char)}
    {xs : List α} (h : List.Forall₂
      (fun p x => ∀ first seen, Moves p (before first seen) (after (x :: seen))) ps xs) :
    Moves (l.block depth m m' ps) a (whole xs) := by
  have close (b : State) : Moves [m'] b (b.step t') := mark hm' (nil _)
  cases h with
  | nil => exact mark hm (first ▸ empty ▸ close _)
  | @cons p x ps xs hp h =>
    have inner := parts (hl.newline (depth + 1)) before after comma (.cons hp h) (by simp) true []
    have outer := spaces (hl.newline depth) (close (after ((x :: xs).reverse ++ [])))
    rw [last, List.append_nil, List.reverse_reverse] at outer
    rw [List.append_nil] at inner
    refine mark hm (first ▸ ?_)
    rw [List.append_assoc]
    refine inner.append outer fun r _ => ?_
    rw [ofChars_append, List.append_assoc]
    refine boundary_spaces (hl.newline depth) (boundary_cons (.inr ?_) r)
    exact List.mem_cons_of_mem _ (List.mem_cons_of_mem _ closes)

end Moves

/-- A value that begins in this state has these frames around it. -/
def Opens (a : State) (around : List Frame) : Prop :=
  ∀ t, t ≠ .listClose → a.step t = .begin around t

theorem opens_value (around : List Frame) : Opens (.value around) around := fun _ _ => rfl

theorem opens_item (first : Bool) (items : List Tree) (around : List Frame) :
    Opens (.item first items around) (.list items :: around) := by
  intro t ht
  cases first <;> cases t <;> first | rfl | exact absurd rfl ht

def Reads (s : List Char) (t : Tree) : Prop :=
  ∀ a around, Opens a around → Moves s a (.accept t around)

def ReadsMember (s : List Char) (m : Key × Tree) : Prop :=
  ∀ first members around, Moves s (.nextKey first members around)
    (.afterMember (m :: members) around)

theorem reads_of_token {s : List Char} {t : Token} {x : Tree}
    (hs : ∀ r, Boundary r → tokens (ofChars s ++ r) = t :: tokens r) (ht : t ≠ .listClose)
    (hx : ∀ around, State.begin around t = .accept x around) : Reads s x := by
  intro a around ha r hr
  rw [hs r hr, List.foldl_cons, ha t ht, hx]

theorem reads_list {l : Layout} (hl : l.Plain) {depth : Nat} {ps : List (List Char)}
    {ts : List Tree} (h : List.Forall₂ Reads ps ts) :
    Reads (l.block depth '[' ']' ps) (.list ts .closed) := by
  intro a around ha
  have first : a.step .listOpen = .item true [] around := ha _ nofun
  refine .block hl (fun _ => rfl) (fun _ => rfl) (by simp) (.item · · around)
    (.afterItem · around) (fun ts => .accept (.list ts .closed) around) first
    (fun _ => rfl) rfl (fun _ => rfl) (h.imp ?_)
  intro p t ht first seen
  exact ht _ _ (opens_item first seen around)

theorem reads_object {l : Layout} (hl : l.Plain) {depth : Nat} {ps : List (List Char)}
    {ms : List (Key × Tree)} (h : List.Forall₂ ReadsMember ps ms) :
    Reads (l.block depth '{' '}' ps) (.object ms .closed) := by
  intro a around ha
  have first : a.step .objectOpen = .nextKey true [] around := ha _ nofun
  refine .block hl (fun _ => rfl) (fun _ => rfl) (by simp) (.nextKey · · around)
    (.afterMember · around) (fun ms => .accept (.object ms .closed) around) first
    (fun _ => rfl) rfl (fun _ => rfl) (h.imp ?_)
  intro p m hm first seen
  exact hm first seen around

theorem reads_member {l : Layout} (hl : l.Plain) (k : String) {s : List Char} {t : Tree}
    (h : Reads s t) : ReadsMember (literal k ++ l.colon ++ s) (.ok k, t) := by
  intro first members around
  obtain ⟨after, hc, ha⟩ := hl.colon
  have key : State.step (.nextKey first members around) (.text (.ok k)) =
      .colon members (.ok k) around := by
    cases first <;> rfl
  rw [List.append_assoc, hc]
  refine .key (.mark (fun _ => rfl) (.spaces ha ?_))
  rw [key]
  exact h _ _ (opens_value _)

mutual
theorem reads_write {l : Layout} (hl : l.Plain) (depth : Nat) :
    (x : Json) → (∀ n ∈ x.numerals, Readable n) → Reads (x.write l depth) x.tree
  | .null, _ => reads_of_token (fun _ _ => tokens_cons_of_some rfl) nofun fun _ => rfl
  | .bool true, _ => reads_of_token (fun _ _ => tokens_cons_of_some rfl) nofun fun _ => rfl
  | .bool false, _ => reads_of_token (fun _ _ => tokens_cons_of_some rfl) nofun fun _ => rfl
  | .number n, h => reads_of_token (h n (List.mem_singleton_self n)) nofun fun _ => rfl
  | .text s, _ => reads_of_token (fun r _ => tokens_literal s r) nofun fun _ => rfl
  | .list items, h => reads_list hl (reads_writeItems hl (depth + 1) items h)
  | .object members, h => reads_object hl (reads_writeMembers hl (depth + 1) members h)
theorem reads_writeItems {l : Layout} (hl : l.Plain) (depth : Nat) :
    (xs : List Json) → (∀ n ∈ numeralsOfItems xs, Readable n) →
      List.Forall₂ Reads (writeItems l depth xs) (trees xs)
  | [], _ => .nil
  | x :: xs, h => .cons (reads_write hl depth x fun n hn => h n (List.mem_append_left _ hn))
      (reads_writeItems hl depth xs fun n hn => h n (List.mem_append_right _ hn))
theorem reads_writeMembers {l : Layout} (hl : l.Plain) (depth : Nat) :
    (ms : List (String × Json)) → (∀ n ∈ numeralsOfMembers ms, Readable n) →
      List.Forall₂ ReadsMember (writeMembers l depth ms) (memberTrees ms)
  | [], _ => .nil
  | m :: ms, h => .cons (reads_writeMember hl depth m fun n hn => h n (List.mem_append_left _ hn))
      (reads_writeMembers hl depth ms fun n hn => h n (List.mem_append_right _ hn))
theorem reads_writeMember {l : Layout} (hl : l.Plain) (depth : Nat) :
    (m : String × Json) → (∀ n ∈ numeralsOfMember m, Readable n) →
      ReadsMember (writeMember l depth m) (memberTree m)
  | (k, x), h => reads_member hl k (reads_write hl depth x h)
end

theorem ofSymbols_write {l : Layout} (hl : l.Plain) (depth : Nat) {x : Json}
    (h : ∀ n ∈ x.numerals, Readable n) {ws : List Char} (hw : ∀ c ∈ ws, isSpace c) :
    State.ofSymbols (ofChars (x.write l depth ++ ws)) = .done x.tree false := by
  have ends : Boundary (ofChars ws) := by
    have := boundary_spaces hw (show Boundary [] by simp [Boundary])
    rwa [List.append_nil] at this
  have := reads_write hl depth x h _ _ (opens_value []) (ofChars ws) ends
  rw [State.ofSymbols, State.run, ofChars_append, this, tokens_of_spaces hw]
  rfl

theorem readBytes_write {α : Type} {l : Layout} (hl : l.Plain) (f : Reader α) (depth : Nat)
    {x : Json} (h : ∀ n ∈ x.numerals, Readable n) :
    f.readBytes (String.ofList (x.write l depth)).toUTF8 = f nestingLimit x.tree := by
  have whole := ofSymbols_write hl depth h (List.forall_mem_nil _)
  rw [List.append_nil] at whole
  rw [Reader.readBytes, symbols_toUTF8, String.toList_ofList, Reader.readSymbols, whole]
  cases hf : f nestingLimit x.tree <;> simp [State.tree, State.extra, hf, bind, Except.bind]

mutual
def depth : Json → Nat
  | .list items => depthOfItems items + 1
  | .object members => depthOfMembers members + 1
  | _ => 0
def depthOfItems : List Json → Nat
  | [] => 0
  | x :: xs => max (depth x) (depthOfItems xs)
def depthOfMembers : List (String × Json) → Nat
  | [] => 0
  | m :: ms => max (depthOfMember m) (depthOfMembers ms)
def depthOfMember : String × Json → Nat
  | (_, x) => depth x
end

mutual
theorem value_tree : (x : Json) → (room : Nat) → x.depth ≤ room → x.tree.value room = .ok x
  | .null, _, _ => by simp [tree, Tree.value]
  | .bool _, _, _ => by simp [tree, Tree.value]
  | .number _, _, _ => by simp [tree, Tree.value, Except.map]
  | .text _, _, _ => by simp [tree, Tree.value, Except.map]
  | .list items, 0, h => absurd h (Nat.not_succ_le_zero _)
  | .list items, room + 1, h => by
    have := values_trees items room (Nat.le_of_succ_le_succ h)
    simp [tree, Tree.value, this, ListStop.read, bind, Except.bind, pure, Except.pure]
  | .object members, 0, h => absurd h (Nat.not_succ_le_zero _)
  | .object members, room + 1, h => by
    have := members_memberTrees members room (Nat.le_of_succ_le_succ h)
    simp [tree, Tree.value, this, ObjectStop.read, bind, Except.bind, pure, Except.pure]
theorem values_trees : (xs : List Json) → (room : Nat) → depthOfItems xs ≤ room →
    Tree.values room (trees xs) = .ok xs
  | [], _, _ => by simp [trees, Tree.values]
  | x :: xs, room, h => by
    have hx := value_tree x room (Nat.le_trans (Nat.le_max_left _ _) h)
    have hxs := values_trees xs room (Nat.le_trans (Nat.le_max_right _ _) h)
    simp [trees, Tree.values, hx, hxs, bind, Except.bind, pure, Except.pure]
theorem members_memberTrees : (ms : List (String × Json)) → (room : Nat) →
    depthOfMembers ms ≤ room → Tree.members room (memberTrees ms) = .ok ms
  | [], _, _ => by simp [memberTrees, Tree.members]
  | m :: ms, room, h => by
    have hm := member_memberTree m room (Nat.le_trans (Nat.le_max_left _ _) h)
    have hms := members_memberTrees ms room (Nat.le_trans (Nat.le_max_right _ _) h)
    simp [memberTrees, Tree.members, hm, hms, bind, Except.bind, pure, Except.pure]
theorem member_memberTree : (m : String × Json) → (room : Nat) → depthOfMember m ≤ room →
    Tree.member room (memberTree m) = .ok m
  | (k, x), room, h => by
    have hx := value_tree x room h
    simp [memberTree, Tree.member, hx, bind, Except.bind, pure, Except.pure]
end

theorem any_readBytes_write {l : Layout} (hl : l.Plain) (depth : Nat) {x : Json}
    (hn : ∀ n ∈ x.numerals, Readable n) (hd : x.depth ≤ nestingLimit) :
    Reader.any.readBytes (String.ofList (x.write l depth)).toUTF8 = .ok x := by
  rw [readBytes_write hl Reader.any depth hn, Reader.any, value_tree x nestingLimit hd]
  rfl

end DownloadClient.Json
