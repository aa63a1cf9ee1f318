import DownloadClient.Proofs.Json.Numeral

/-! A text that has a value, put into another text. None of its tokens breaks off, so they are the
same there as alone; what is read around it stays below what it opens itself. -/

namespace DownloadClient.Json

open DownloadClient.Text

def Token.Whole : Token → Prop
  | .brokenText _ _ | .brokenWord _ _ => False
  | _ => True

section Append

variable {s r rest : List Symbol} {t : Token}

theorem body_escape {c : Char} (hc : c ≠ 'u') (s : List Symbol) :
    body (some '\\' :: some c :: s) =
      match simpleEscape? c with
      | some x => (body s).push (.symbol (some x))
      | none => ⟨[], .escape, []⟩ := by
  rw [body]
  all_goals first | rfl | (intros; contradiction)

theorem body_plain {c : Char} (quote : c ≠ '"') (slash : c ≠ '\\') (s : List Symbol) :
    body (some c :: s) =
      if c < ' ' then ⟨[], .control, []⟩ else (body s).push (.symbol (some c)) := by
  rw [body]
  all_goals
    intros
    contradiction

theorem body_append (h : (body s).ending = .quote) (r : List Symbol) :
    body (s ++ r) = ⟨(body s).pieces, .quote, (body s).rest ++ r⟩ := by
  fun_induction body s with
  | case2 s => rfl
  | case3 a b c d s n hn ih => simp [body, hn, ih h, Body.push]
  | case5 s =>
    simp only at h
    split at h <;> cases h
  | case6 c s _ hc x hx ih =>
    rw [List.cons_append, List.cons_append, body_escape hc, hx]
    simp [ih h, Body.push]
  | case11 c s quote _ _ escape none nil plain ih =>
    have slash : c ≠ '\\' := by
      cases s with
      | nil => exact nil rfl
      | cons x s => cases x <;> [exact none _ rfl; exact escape _ _ rfl]
    rw [List.cons_append, body_plain quote slash, if_neg plain, ih h]
    rfl
  | case12 s ih => simp [body, ih h, Body.push]
  | _ => cases h

theorem ending_of_whole {b : Body} (h : b.token.Whole) : b.ending = .quote := by
  unfold Body.token at h
  split at h
  · next fault _ => cases e : b.ending <;> simp_all [Ending.fault?]
  · exact h.elim
  · exact h.elim

theorem wordToken_append {w : List Char} (h : (wordToken t w s).1.Whole) (r : List Symbol) :
    wordToken t w (s ++ r) = ((wordToken t w s).1, (wordToken t w s).2 ++ r) := by
  fun_induction wordToken t w s with
  | case1 => rfl
  | case2 => exact h.elim
  | case3 c cs s ih => simpa [wordToken] using ih h
  | case4 => exact h.elim

theorem numberToken_number_or_broken (negative : Bool) (d : List Char × List Symbol) :
    (∃ v, (numberToken negative d).1 = .number v) ∨ ¬ (numberToken negative d).1.Whole := by
  have broken (s : List Symbol) : ¬ (brokenNumber s).1.Whole := by cases s <;> exact id
  have exponent (whole fraction s) :
      (∃ v, (exponentToken negative whole fraction s).1 = .number v) ∨
        ¬ (exponentToken negative whole fraction s).1.Whole := by
    unfold exponentToken
    split
    · exact .inr (broken _)
    · exact .inl ⟨_, rfl⟩
  have fraction (whole fraction s) :
      (∃ v, (fractionToken negative whole fraction s).1 = .number v) ∨
        ¬ (fractionToken negative whole fraction s).1.Whole := by
    unfold fractionToken
    split
    · exact exponent _ _ _
    · exact exponent _ _ _
    · exact .inl ⟨_, rfl⟩
  unfold numberToken
  split
  · exact .inr (broken _)
  · exact .inr id
  · unfold wholeToken
    split
    · split
      · exact .inr (broken _)
      · exact fraction _ _ _
    · exact fraction _ _ _

theorem next_append_of_whole {x : Symbol} (h : next x s = (some t, rest)) (whole : t.Whole)
    (hr : Boundary r) : next x (s ++ r) = (some t, rest ++ r) := by
  have number {n : Bool} {d : List Char × List Symbol}
      (e : (numberToken n d).map some id = (some t, rest)) :
      next x (s ++ r) = (some t, rest ++ r) := by
    obtain rfl : (numberToken n d).1 = t := Option.some.inj (congrArg Prod.fst e)
    obtain ⟨v, hv⟩ := (numberToken_number_or_broken n d).resolve_right (· whole)
    rw [hv] at h ⊢
    exact next_append h hr
  have word {u : Token} {w : List Char} (e : (wordToken u w s).map some id = (some t, rest)) :
      (wordToken u w (s ++ r)).map some id = (some t, rest ++ r) := by
    obtain rfl : (wordToken u w s).1 = t := Option.some.inj (congrArg Prod.fst e)
    obtain rfl : (wordToken u w s).2 = rest := congrArg Prod.snd e
    rw [wordToken_append whole]
    rfl
  unfold next at h
  split at h
  case h_11 =>
    obtain rfl : (body s).token = t := Option.some.inj (congrArg Prod.fst h)
    obtain rfl : (body s).rest = rest := congrArg Prod.snd h
    have quote := ending_of_whole whole
    change (some (body (s ++ r)).token, (body (s ++ r)).rest) = _
    rw [body_append quote]
    simp [Body.token, Body.read, quote]
  case h_12 => exact word h
  case h_13 => exact word h
  case h_14 => exact word h
  case h_15 => exact number h
  case h_16 =>
    split at h
    · exact number h
    · next hc =>
      cases h
      unfold next
      split <;> simp_all
  all_goals cases h <;> rfl

theorem tokens_append_of_whole (h : ∀ t ∈ tokens s, t.Whole) (hr : Boundary r) :
    tokens (s ++ r) = tokens s ++ tokens r := by
  fun_induction tokens s with
  | case1 => rfl
  | case2 x s rest hx ih =>
    obtain ⟨c, rfl, hc, rfl⟩ := next_eq_none hx
    have space : ∀ d ∈ [c], isSpace d := by simpa using hc
    exact (tokens_spaces space _).trans (ih h)
  | case3 x s t rest hx ih =>
    obtain ⟨whole, h⟩ := List.forall_mem_cons.1 h
    rw [List.cons_append, tokens_cons_of_some (next_append_of_whole hx whole hr), ih h,
      List.cons_append]

end Append

def Tree.NoValue (t : Tree) : Prop := ∀ room x, t.value room ≠ .ok x

namespace Tree.NoValue

theorem fault (read skip : SyntaxError) : (Tree.fault read skip).NoValue := by
  intro room x h
  cases hasValue_of_value h

theorem brokenWord (read skip : SyntaxError) : (Tree.brokenWord read skip).NoValue := by
  intro room x h
  cases hasValue_of_value h

theorem list {stop : ListStop} (h : stop ≠ .closed) (items : List Tree) :
    (Tree.list items stop).NoValue := by
  intro room x hv
  cases hasValue_of_value hv with
  | list _ hs => cases stop <;> first | exact h rfl | cases hs

theorem object {stop : ObjectStop} (h : stop ≠ .closed) (members : List (Key × Tree)) :
    (Tree.object members stop).NoValue := by
  intro room x hv
  cases hasValue_of_value hv with
  | object _ hs => cases stop <;> first | exact h rfl | cases hs

theorem within {t : Tree} (h : t.NoValue) (around : List Frame) : (t.within around).NoValue := by
  induction around generalizing t with
  | nil => exact h
  | cons frame around ih =>
    cases frame with
    | list items => exact ih (list (by simp) _)
    | member members key => exact ih (object (by simp) _)

end Tree.NoValue

namespace State

def under (around : List Frame) : State → State
  | .value inner => .value (inner ++ around)
  | .item first items inner => .item first items (inner ++ around)
  | .afterItem items inner => .afterItem items (inner ++ around)
  | .nextKey first members inner => .nextKey first members (inner ++ around)
  | .colon members key inner => .colon members key (inner ++ around)
  | .afterMember members inner => .afterMember members (inner ++ around)
  | .done t _ => .accept t around

def Open (s : State) : Prop := ∀ t extra, s ≠ .done t extra

theorem under_accept (t : Tree) (inner around : List Frame) :
    (accept t inner).under around = accept t (inner ++ around) := by
  cases inner with
  | nil => rfl
  | cons frame inner => cases frame <;> rfl

def Fails (s : State) : Prop := ∃ t, t.NoValue ∧ s = .done t false

theorem fails_halt {t : Tree} (h : t.NoValue) (inner : List Frame) : (halt t inner).Fails :=
  ⟨_, h.within inner, rfl⟩

theorem begin_under (inner around : List Frame) (t : Token) :
    (begin inner t).Fails ∨
      t.Whole ∧ (begin inner t).under around = begin (inner ++ around) t := by
  cases t with
  | null | bool | number | text => exact .inr ⟨trivial, under_accept _ _ _⟩
  | listOpen | objectOpen => exact .inr ⟨trivial, rfl⟩
  | brokenWord read skip => exact .inl (fails_halt (.brokenWord read skip) inner)
  | _ => exact .inl (fails_halt (.fault _ _) inner)

/-- A step either fails or does the same whatever stands around. -/
theorem step_under {s : State} (h : s.Open) (around : List Frame) (t : Token) :
    (s.step t).Fails ∨ t.Whole ∧ (s.step t).under around = (s.under around).step t := by
  cases s with
  | value inner => exact begin_under inner around t
  | item first items inner =>
    have other := begin_under (.list items :: inner) around t
    cases t with
    | listClose =>
      cases first with
      | true => exact .inr ⟨trivial, under_accept _ _ _⟩
      | false => exact .inl (fails_halt (.list (by simp) _) inner)
    | _ => cases first <;> exact other
  | afterItem items inner =>
    cases t with
    | comma => exact .inr ⟨trivial, rfl⟩
    | listClose => exact .inr ⟨trivial, under_accept _ _ _⟩
    | _ => exact .inl (fails_halt (.list (by simp) _) inner)
  | nextKey first members inner =>
    cases t with
    | objectClose =>
      cases first with
      | true => exact .inr ⟨trivial, under_accept _ _ _⟩
      | false => exact .inl (fails_halt (.object (by simp) _) inner)
    | text key => cases first <;> exact .inr ⟨trivial, rfl⟩
    | _ => cases first <;> exact .inl (fails_halt (.object (by simp) _) inner)
  | colon members key inner =>
    cases t with
    | colon => exact .inr ⟨trivial, rfl⟩
    | _ => exact .inl (fails_halt (.fault _ _) (.member members key :: inner))
  | afterMember members inner =>
    cases t with
    | comma => exact .inr ⟨trivial, rfl⟩
    | objectClose => exact .inr ⟨trivial, under_accept _ _ _⟩
    | _ => exact .inl (fails_halt (.object (by simp) _) inner)
  | done t extra => exact absurd rfl (h t extra)

theorem noValue_tree {s : State} (h : s.Open) : s.tree.NoValue := by
  cases s with
  | value inner => exact .within (.fault _ _) inner
  | item first items inner => cases first <;> exact .within (.list (by simp) _) inner
  | afterItem items inner => exact .within (.list (by simp) _) inner
  | nextKey first members inner => cases first <;> exact .within (.object (by simp) _) inner
  | colon members key inner => exact .within (.fault _ _) (.member members key :: inner)
  | afterMember members inner => exact .within (.object (by simp) _) inner
  | done t extra => exact absurd rfl (h t extra)

theorem foldl_under {s : State} (h : s.Open) (around : List Frame) {ts : List Token}
    (alone : (ts.foldl step s).extra = false) {room : Nat} {x : Json}
    (value : (ts.foldl step s).tree.value room = .ok x) :
    (∀ t ∈ ts, t.Whole) ∧
      ts.foldl step (s.under around) = .accept (ts.foldl step s).tree around := by
  induction ts generalizing s with
  | nil => exact absurd value (noValue_tree h room x)
  | cons t ts ih =>
    rw [List.foldl_cons] at alone value
    obtain ⟨u, none, e⟩ | ⟨whole, e⟩ := step_under h around t
    · rw [e, foldl_step_done] at value
      exact absurd value (none room x)
    · rw [List.foldl_cons, List.foldl_cons, ← e, List.forall_mem_cons]
      by_cases open' : (s.step t).Open
      · obtain ⟨rest, run⟩ := ih open' alone value
        exact ⟨⟨whole, rest⟩, run⟩
      · -- the value is complete: what would come behind it would be too much
        simp only [Open, not_forall, not_not] at open'
        obtain ⟨u, extra, e⟩ := open'
        rw [e, foldl_step_done] at alone
        obtain ⟨-, rfl⟩ : extra = false ∧ ts = [] := by simpa [State.extra] using alone
        rw [e]
        exact ⟨⟨whole, by simp⟩, rfl⟩

end State

def Accepted (room : Nat) (v : List Char) : Prop :=
  (State.ofSymbols (ofChars v)).extra = false ∧
    ∃ x, (State.ofSymbols (ofChars v)).tree.value room = .ok x

theorem reads_of_accepted {room : Nat} {v : List Char} (h : Accepted room v) :
    ∃ t x, Reads v t ∧ t.value room = .ok x := by
  obtain ⟨alone, x, value⟩ := h
  refine ⟨_, x, fun a around ha r hr => ?_, value⟩
  have start : (State.value []).Open := nofun
  obtain ⟨whole, run⟩ := State.foldl_under start around alone value
  rw [tokens_append_of_whole whole hr, List.foldl_append]
  refine congrArg (List.foldl State.step · (tokens r)) (Eq.trans ?_ run)
  -- what a value begins with is all that the state before it decides
  rw [State.ofSymbols, State.run] at value
  cases ht : tokens (ofChars v) with
  | nil =>
    rw [ht] at value
    exact absurd value (State.noValue_tree start room x)
  | cons t ts =>
    rw [ht, List.foldl_cons] at value
    refine congrArg (List.foldl State.step · ts) (ha t ?_)
    rintro rfl
    change (List.foldl State.step (.done (.fault .value .value) false) ts).tree.value room = _
      at value
    rw [foldl_step_done] at value
    exact Tree.NoValue.fault _ _ room x value

def IsKey (k : String) (s : List Char) : Prop := tokens (ofChars s) = [.text (.ok k)]

theorem IsKey.tokens_append {k : String} {s : List Char} (h : IsKey k s) {r : List Symbol}
    (hr : Boundary r) : tokens (ofChars s ++ r) = .text (.ok k) :: tokens r := by
  rw [IsKey] at h
  have whole : ∀ t ∈ tokens (ofChars s), t.Whole := by
    rw [h]
    exact List.forall_mem_singleton.2 trivial
  rw [tokens_append_of_whole whole hr, h]
  rfl

theorem isKey_literal (k : String) {ws ws' : List Char} (hw : ∀ c ∈ ws, isSpace c)
    (hw' : ∀ c ∈ ws', isSpace c) : IsKey k (ws ++ literal k ++ ws') := by
  rw [IsKey, List.append_assoc, ofChars_append, tokens_spaces hw, ofChars_append, tokens_literal,
    tokens_of_spaces hw']

mutual
theorem skip_of_value : (t : Tree) → {room : Nat} → {x : Json} → t.value room = .ok x →
    t.skip = .ok ()
  | .list items stop, room, x, h => by
    cases hasValue_of_value h with
    | list hi hs =>
      have closed : stop.skip = .ok () := by cases stop <;> first | rfl | cases hs
      rw [Tree.skip, skipItems_of_values items hi]
      exact closed
  | .object members stop, room, x, h => by
    cases hasValue_of_value h with
    | object hm hs =>
      have closed : stop.skip = .ok () := by cases stop <;> first | rfl | cases hs
      rw [Tree.skip, skipMembers_of_members members hm]
      exact closed
  | .null, _, _, _ => by rw [Tree.skip] <;> nofun
  | .bool _, _, _, _ => by rw [Tree.skip] <;> nofun
  | .number _, _, _, _ => by rw [Tree.skip] <;> nofun
  | .text _, _, _, _ => by rw [Tree.skip] <;> nofun
  | .brokenWord read skip, room, x, h => absurd h (Tree.NoValue.brokenWord read skip room x)
  | .fault read skip, room, x, h => absurd h (Tree.NoValue.fault read skip room x)
theorem skipItems_of_values : (ts : List Tree) → {room : Nat} → {xs : List Json} →
    Tree.values room ts = .ok xs → Tree.skipItems ts = .ok ()
  | [], _, _, _ => by rw [Tree.skipItems]
  | t :: ts, room, xs, h => by
    rw [Tree.values] at h
    obtain ⟨x, hx, h⟩ := bind_eq_ok.1 h
    obtain ⟨xs, hxs, -⟩ := bind_eq_ok.1 h
    rw [Tree.skipItems, skip_of_value t hx]
    exact skipItems_of_values ts hxs
theorem skipMembers_of_members : (ms : List (Key × Tree)) → {room : Nat} →
    {xs : List (String × Json)} → Tree.members room ms = .ok xs → Tree.skipMembers ms = .ok ()
  | [], _, _, _ => by rw [Tree.skipMembers]
  | m :: ms, room, xs, h => by
    rw [Tree.members] at h
    obtain ⟨x, hx, h⟩ := bind_eq_ok.1 h
    obtain ⟨xs, hxs, -⟩ := bind_eq_ok.1 h
    rw [Tree.skipMembers, skipMember_of_member m hx]
    exact skipMembers_of_members ms hxs
theorem skipMember_of_member : (m : Key × Tree) → {room : Nat} → {x : String × Json} →
    Tree.member room m = .ok x → Tree.skipMember m = .ok ()
  | (key, t), room, x, h => by
    rw [Tree.member] at h
    obtain ⟨k, -, h⟩ := bind_eq_ok.1 h
    obtain ⟨y, hy, -⟩ := bind_eq_ok.1 h
    rw [Tree.skipMember]
    exact skip_of_value t hy
end

end DownloadClient.Json
