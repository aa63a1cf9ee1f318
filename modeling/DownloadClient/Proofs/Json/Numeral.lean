import DownloadClient.Proofs.Json.Value
import DownloadClient.Proofs.Json.Written

/-! Numbers in a text. What is read as a number where nothing follows is read as the same number
wherever no more of it can follow. -/

namespace DownloadClient.Json

open DownloadClient.Number DownloadClient.Text

section Append

variable {negative : Bool} {whole ds : List Char} {fraction : Option (List Char)}
  {v : Except SyntaxError Numeral} {s rest r : List Symbol}

theorem digits_append_of_boundary (s : List Symbol) (hr : Boundary r) :
    digits (s ++ r) = ((digits s).1, (digits s).2 ++ r) := by
  fun_induction digits s with
  | case1 c s hc ds rest hd ih =>
    rw [hd] at ih
    simp [digits, hc, ih]
  | case2 c s hc => simp [digits, hc]
  | case3 s hs =>
    cases s with
    | nil =>
      have none : ∀ c ∈ ([] : List Char), isDigit c = true := by simp
      exact digits_append none hr
    | cons x s =>
      cases x with
      | none => rfl
      | some c => exact absurd rfl (hs c s)

theorem brokenNumber_ne_number (s : List Symbol) : (brokenNumber s).1 ≠ .number v := by
  cases s <;> exact nofun

theorem exponentToken_append (h : exponentToken negative whole fraction s = (.number v, rest))
    (hr : Boundary r) :
    exponentToken negative whole fraction (s ++ r) = (.number v, rest ++ r) := by
  -- a text that ends before its exponent is no number, so the sign is never taken from behind it
  have sign : exponentSign (s ++ r) = ((exponentSign s).1, (exponentSign s).2 ++ r) := by
    cases s with
    | nil => simp [exponentToken, exponentSign, digits, brokenNumber] at h
    | cons x s =>
      rw [List.cons_append]
      unfold exponentSign
      split <;> simp_all
  rw [exponentToken] at h ⊢
  rw [sign, digits_append_of_boundary _ hr]
  split at h
  · exact absurd (Prod.mk.inj h).1 (brokenNumber_ne_number _)
  · next ds rest' ne hd =>
    obtain ⟨hv, rfl⟩ := Prod.mk.inj h
    cases ds with
    | nil => exact absurd rfl ne
    | cons c ds => simp [hd, hv]

theorem append_ne_cons {x : Symbol} (hs : ∀ t, s = x :: t → False) (hr : r.head? ≠ some x)
    (t : List Symbol) : s ++ r ≠ x :: t := by
  intro e
  cases s with
  | nil => exact hr (by simp_all)
  | cons y s =>
    obtain ⟨rfl, -⟩ := List.cons.inj e
    exact hs s rfl

theorem fractionToken_append (h : fractionToken negative whole fraction s = (.number v, rest))
    (hr : Boundary r) :
    fractionToken negative whole fraction (s ++ r) = (.number v, rest ++ r) := by
  unfold fractionToken at h
  split at h
  · exact exponentToken_append h hr
  · exact exponentToken_append h hr
  · next small large =>
    obtain ⟨hv, rfl⟩ := Prod.mk.inj h
    have small := append_ne_cons small fun e => (hr 'e' e).2.2.1 rfl
    have large := append_ne_cons large fun e => (hr 'E' e).2.2.2 rfl
    unfold fractionToken
    split
    · next e => exact absurd e (small _)
    · next e => exact absurd e (large _)
    · rw [hv]

theorem wholeToken_append (h : wholeToken negative whole s = (.number v, rest))
    (hr : Boundary r) : wholeToken negative whole (s ++ r) = (.number v, rest ++ r) := by
  unfold wholeToken at h
  split at h
  · next s =>
    rw [List.cons_append, wholeToken, digits_append_of_boundary _ hr]
    split at h
    · exact absurd (congrArg Prod.fst h) (brokenNumber_ne_number _)
    · next ds rest' ne hd =>
      cases ds with
      | nil => exact absurd rfl ne
      | cons c ds =>
        rw [hd]
        exact fractionToken_append h hr
  · next point =>
    have point := append_ne_cons point fun e => (hr '.' e).2.1 rfl
    unfold wholeToken
    split
    · next e => exact absurd e (point _)
    · exact fractionToken_append h hr

theorem numberToken_eq (h : (numberToken negative (ds, s)).1 = .number v) (u : List Symbol) :
    numberToken negative (ds, u) = wholeToken negative ds u := by
  unfold numberToken at h ⊢
  split at h
  · exact absurd h (brokenNumber_ne_number _)
  · cases h
  · next few zero e =>
    obtain ⟨rfl, rfl⟩ := Prod.mk.inj e
    split
    · simp_all
    · simp_all
    · next e =>
      obtain ⟨rfl, rfl⟩ := Prod.mk.inj e
      rfl

theorem numberToken_append (h : numberToken negative (ds, s) = (.number v, rest))
    (hr : Boundary r) : numberToken negative (ds, s ++ r) = (.number v, rest ++ r) := by
  have same := numberToken_eq (congrArg Prod.fst h)
  rw [same] at h ⊢
  exact wholeToken_append h hr

theorem wordToken_ne_number {t : Token} (ht : t ≠ .number v) (w : List Char) (s : List Symbol) :
    (wordToken t w s).1 ≠ .number v := by
  fun_induction wordToken t w s with
  | case1 => exact ht
  | case2 => exact Token.noConfusion
  | case3 c cs s ih => exact ih
  | case4 => exact Token.noConfusion

theorem token_ne_number (b : Body) : b.token ≠ .number v := by
  unfold Body.token
  split <;> exact nofun

theorem next_eq_number {x : Symbol} (h : next x s = (some (.number v), rest)) :
    (x = some '-' ∧ numberToken true (digits s) = (.number v, rest)) ∨
      ∃ c, x = some c ∧ isDigit c = true ∧
        numberToken false ((digits s).map (c :: ·) id) = (.number v, rest) := by
  have word {t : Token} (w : List Char) (ht : t ≠ .number v) :
      (wordToken t w s).map some id ≠ (some (.number v), rest) := by
    intro e
    exact wordToken_ne_number ht w s (Option.some.inj (congrArg Prod.fst e))
  have number {p : Token × List Symbol} (e : p.map some id = (some (.number v), rest)) :
      p = (.number v, rest) := by
    cases p
    simpa using e
  unfold next at h
  split at h
  case h_11 => exact absurd (Option.some.inj (congrArg Prod.fst h)) (token_ne_number _)
  case h_12 => exact absurd h (word _ nofun)
  case h_13 => exact absurd h (word _ nofun)
  case h_14 => exact absurd h (word _ nofun)
  case h_15 => exact .inl ⟨rfl, number h⟩
  case h_16 c _ _ _ _ _ _ _ _ _ _ _ _ _ _ _ =>
    split at h
    · next hc => exact .inr ⟨c, rfl, hc, number h⟩
    · cases h
  all_goals cases h

theorem next_append {x : Symbol} (h : next x s = (some (.number v), rest)) (hr : Boundary r) :
    next x (s ++ r) = (some (.number v), rest ++ r) := by
  obtain ⟨rfl, hn⟩ | ⟨c, rfl, hc, hn⟩ := next_eq_number h
  · have := numberToken_append hn hr
    change (numberToken true (digits (s ++ r))).map some id = _
    rw [digits_append_of_boundary s hr, this]
    rfl
  · have := numberToken_append hn hr
    rw [next_digit hc, digits_append_of_boundary s hr]
    change (numberToken false (c :: (digits s).1, id (digits s).2 ++ r)).map some id = _
    rw [this]
    rfl

theorem next_eq_none {x : Symbol} (h : next x s = (none, rest)) :
    ∃ c, x = some c ∧ isSpace c ∧ rest = s := by
  unfold next at h
  split at h
  case h_1 => exact ⟨_, rfl, by simp [isSpace], (Prod.mk.inj h).2.symm⟩
  case h_2 => exact ⟨_, rfl, by simp [isSpace], (Prod.mk.inj h).2.symm⟩
  case h_3 => exact ⟨_, rfl, by simp [isSpace], (Prod.mk.inj h).2.symm⟩
  case h_4 => exact ⟨_, rfl, by simp [isSpace], (Prod.mk.inj h).2.symm⟩
  case h_16 =>
    split at h <;> cases h
  all_goals cases h

theorem spaces_of_tokens_eq_nil (h : tokens s = []) :
    ∃ ws, s = ofChars ws ∧ ∀ c ∈ ws, isSpace c := by
  fun_induction tokens s with
  | case1 => exact ⟨[], rfl, by simp⟩
  | case2 x s rest hx ih =>
    obtain ⟨c, rfl, hc, rfl⟩ := next_eq_none hx
    obtain ⟨ws, rfl, hw⟩ := ih h
    exact ⟨c :: ws, rfl, by simpa using ⟨hc, hw⟩⟩
  | case3 => cases h

theorem tokens_append (h : tokens s = [.number v]) (hr : Boundary r) :
    tokens (s ++ r) = .number v :: tokens r := by
  fun_induction tokens s with
  | case1 => cases h
  | case2 x s rest hx ih =>
    obtain ⟨c, rfl, hc, rfl⟩ := next_eq_none hx
    have space : ∀ d ∈ [c], isSpace d := by simpa using hc
    exact (tokens_spaces space _).trans (ih h)
  | case3 x s t rest hx ih =>
    obtain ⟨rfl, nothing⟩ := List.cons.inj h
    obtain ⟨ws, rfl, hw⟩ := spaces_of_tokens_eq_nil nothing
    exact (tokens_cons_of_some (next_append hx hr)).trans (by rw [tokens_spaces hw])

end Append

section Whole

variable {negative : Bool} {whole ds : List Char} {fraction : Option (List Char)} {i : Int}
  {s rest : List Symbol}

theorem value_ne_integer {w : Written} (h : w.fraction ≠ none ∨ w.exponent ≠ none) :
    w.value ≠ .ok (.integer i) := by
  unfold Written.value
  split
  · simp_all
  · cases w.real <;> exact nofun

theorem exponentToken_ne_integer :
    (exponentToken negative whole fraction s).1 ≠ .number (.ok (.integer i)) := by
  unfold exponentToken
  split
  · exact brokenNumber_ne_number _
  · intro e
    exact value_ne_integer (.inr (Option.some_ne_none _)) (Token.number.inj e)

theorem fractionToken_integer
    (h : fractionToken negative whole fraction s = (.number (.ok (.integer i)), rest)) :
    fraction = none ∧ rest = s := by
  unfold fractionToken at h
  split at h
  · exact absurd (congrArg Prod.fst h) exponentToken_ne_integer
  · exact absurd (congrArg Prod.fst h) exponentToken_ne_integer
  · obtain ⟨hv, rfl⟩ := Prod.mk.inj h
    refine ⟨?_, rfl⟩
    by_contra hf
    exact value_ne_integer (.inl hf) (Token.number.inj hv)

theorem wholeToken_integer
    (h : wholeToken negative whole s = (.number (.ok (.integer i)), rest)) : rest = s := by
  unfold wholeToken at h
  split at h
  · split at h
    · exact absurd (congrArg Prod.fst h) (brokenNumber_ne_number _)
    · exact absurd (fractionToken_integer h).1 (Option.some_ne_none _)
  · exact (fractionToken_integer h).2

theorem numberToken_integer
    (h : numberToken negative (ds, s) = (.number (.ok (.integer i)), rest)) : rest = s := by
  have same := numberToken_eq (congrArg Prod.fst h) s
  exact wholeToken_integer (same ▸ h)

theorem mem_of_digits {x : Symbol} (h : x ∈ s) :
    (∃ c, x = some c ∧ isDigit c = true) ∨ x ∈ (digits s).2 := by
  fun_induction digits s with
  | case1 c s hc ds rest hd ih =>
    rw [hd] at ih
    obtain rfl | h := List.mem_cons.1 h
    · exact .inl ⟨c, rfl, hc⟩
    · exact ih h
  | case2 => exact .inr h
  | case3 => exact .inr h

def InInteger (x : Symbol) : Prop := ∃ c, x = some c ∧ (isDigit c = true ∨ c = '-' ∨ isSpace c)

theorem inInteger_of_tokens (h : tokens s = [.number (.ok (.integer i))]) :
    ∀ x ∈ s, InInteger x := by
  fun_induction tokens s with
  | case1 => cases h
  | case2 x s rest hx ih =>
    obtain ⟨c, rfl, hc, rfl⟩ := next_eq_none hx
    exact List.forall_mem_cons.2 ⟨⟨c, rfl, .inr (.inr hc)⟩, ih h⟩
  | case3 x s t rest hx ih =>
    obtain ⟨rfl, nothing⟩ := List.cons.inj h
    obtain ⟨ws, rfl, hw⟩ := spaces_of_tokens_eq_nil nothing
    have after (y : Symbol) (hy : y ∈ s) (ends : ofChars ws = (digits s).2) : InInteger y := by
      obtain ⟨c, rfl, hc⟩ | hy := mem_of_digits hy
      · exact ⟨c, rfl, .inl hc⟩
      · obtain ⟨c, hc, rfl⟩ := List.mem_map.1 (ends ▸ hy)
        exact ⟨c, rfl, .inr (.inr (hw c hc))⟩
    obtain ⟨rfl, hn⟩ | ⟨c, rfl, hc, hn⟩ := next_eq_number hx
    · have ends := numberToken_integer hn
      exact List.forall_mem_cons.2 ⟨⟨'-', rfl, .inr (.inl rfl)⟩, fun y hy => after y hy ends⟩
    · have ends := numberToken_integer hn
      exact List.forall_mem_cons.2 ⟨⟨c, rfl, .inl hc⟩, fun y hy => after y hy ends⟩

end Whole

theorem point_or_exponent_mem_magnitude (f : FloatFormat) (d : Decimal) :
    ∃ c ∈ f.magnitude d, c = '.' ∨ c = 'e' := by
  simp only [FloatFormat.magnitude]
  split
  · refine ⟨'.', ?_, .inl rfl⟩
    split
    · simp
    · exact List.mem_append_right _ List.mem_cons_self
  · exact ⟨'e', List.mem_append_right _ List.mem_cons_self, .inr rfl⟩

theorem point_or_exponent_mem_text {f : FloatFormat} {x : Float} {s : List Char}
    (h : f.text? x = some s) : ∃ c ∈ s, c = '.' ∨ c = 'e' := by
  unfold FloatFormat.text? at h
  split at h
  · next v _ =>
    have unsigned : ∃ c ∈ (if v.mantissa = 0 then "0.0".toList else f.magnitude v.shortest),
        c = '.' ∨ c = 'e' := by
      split
      · exact ⟨'.', by simp, .inl rfl⟩
      · exact point_or_exponent_mem_magnitude f v.shortest
    obtain ⟨c, hc, is⟩ := unsigned
    refine ⟨c, ?_, is⟩
    rw [← Option.some.inj h]
    split
    · exact List.mem_cons_of_mem _ hc
    · exact hc
  · cases h

theorem not_inInteger {c : Char} (h : c = '.' ∨ c = 'e') : ¬ InInteger (some c) := by
  rintro ⟨d, e, hd⟩
  obtain rfl : c = d := Option.some.inj e
  unfold isSpace at hd
  obtain rfl | rfl := h
  · exact absurd hd (by decide)
  · exact absurd hd (by decide)

def Tree.Nests (t : Tree) : Prop := t.shape = .ok .sequence ∨ t.shape = .ok .map

theorem Tree.nests_list (items : List Tree) (stop : ListStop) : (Tree.list items stop).Nests :=
  .inl rfl

theorem Tree.nests_object (members : List (Key × Tree)) (stop : ObjectStop) :
    (Tree.object members stop).Nests := .inr rfl

theorem Tree.nests_within {t : Tree} {around : List Frame} (h : around ≠ [] ∨ t.Nests) :
    (t.within around).Nests := by
  induction around generalizing t with
  | nil => exact h.resolve_left (fun ne => ne rfl)
  | cons frame around ih =>
    cases frame with
    | list items => exact ih (.inr (nests_list _ _))
    | member members key => exact ih (.inr (nests_object _ _))

def State.Nested : State → Prop
  | .value around => around ≠ []
  | .done t _ => t.Nests
  | _ => True

namespace State.Nested

theorem accept {t : Tree} {around : List Frame} (h : around ≠ [] ∨ t.Nests) :
    (State.accept t around).Nested := by
  cases around with
  | nil => exact h.resolve_left (fun ne => ne rfl)
  | cons frame around => cases frame <;> trivial

theorem halt {t : Tree} {around : List Frame} (h : around ≠ [] ∨ t.Nests) :
    (State.halt t around).Nested := Tree.nests_within h

theorem begin {around : List Frame} (h : around ≠ []) (t : Token) :
    (State.begin around t).Nested := by
  cases t <;> first | exact accept (.inl h) | exact halt (.inl h) | trivial

theorem step {a : State} (h : a.Nested) (t : Token) : (a.step t).Nested := by
  unfold State.step
  -- every step begins a value, closes a list or object, halts in one, or waits for what comes next
  split <;> first
    | exact begin h t
    | exact begin (List.cons_ne_nil _ _) t
    | exact accept (.inr (Tree.nests_list _ _))
    | exact accept (.inr (Tree.nests_object _ _))
    | exact halt (.inr (Tree.nests_list _ _))
    | exact halt (.inr (Tree.nests_object _ _))
    | exact halt (.inl (List.cons_ne_nil _ _))
    | exact List.cons_ne_nil _ _
    | exact h

theorem foldl_step {a : State} (h : a.Nested) (ts : List Token) :
    (ts.foldl State.step a).Nested := by
  induction ts generalizing a with
  | nil => exact h
  | cons t ts ih => exact ih (h.step t)

theorem tree {a : State} (h : a.Nested) : a.tree.Nests := by
  unfold State.tree
  split <;> first
    | exact Tree.nests_within (.inl h)
    | exact Tree.nests_within (.inr (Tree.nests_list _ _))
    | exact Tree.nests_within (.inr (Tree.nests_object _ _))
    | exact Tree.nests_within (.inl (List.cons_ne_nil _ _))
    | exact h

end State.Nested

theorem foldl_step_done (t : Tree) (extra : Bool) (ts : List Token) :
    ts.foldl State.step (.done t extra) = .done t (extra || !ts.isEmpty) := by
  induction ts generalizing extra with
  | nil => simp
  | cons u ts ih => simp [State.step, ih]

theorem tokens_of_number {ts : List Token} {n : Numeral}
    (shape : (State.run ts).tree.shape = .ok (.number n)) (alone : (State.run ts).extra = false) :
    ts = [.number (.ok n)] := by
  cases ts with
  | nil => cases shape
  | cons t ts =>
    have whole {x : Tree} (e : State.step (.value []) t = .done x false) :
        ts = [] ∧ x.shape = .ok (.number n) := by
      rw [State.run, List.foldl_cons, e, foldl_step_done] at shape alone
      exact ⟨by simpa [State.extra] using alone, shape⟩
    have inside (e : (State.step (.value []) t).Nested) : False := by
      have nests := (e.foldl_step ts).tree
      rw [State.run, List.foldl_cons] at shape
      obtain e | e := nests <;> rw [shape] at e <;> cases e
    cases t with
    | number v =>
      obtain ⟨rfl, e⟩ := whole rfl
      obtain ⟨m, rfl, e⟩ := map_eq_ok.1 e
      cases e
      rfl
    | listOpen => exact (inside trivial).elim
    | objectOpen => exact (inside trivial).elim
    | text s =>
      obtain ⟨m, -, e⟩ := map_eq_ok.1 (whole rfl).2
      cases e
    | _ => cases (whole rfl).2

/-- The text of a double is read as that double. -/
def ReadsBack (x : Float) : Prop :=
  Reader.real.readText (String.ofList (numeralText (.real x))) = .ok x

theorem exists_number_of_readText {s : String} {x : Float} (h : Reader.real.readText s = .ok x) :
    ∃ n, tokens (ofChars s.toList) = [.number (.ok n)] ∧ Shape.real (.number n) = .ok x := by
  obtain ⟨y, hy, h⟩ := bind_eq_ok.1 h
  obtain ⟨shape, hs, hy⟩ := bind_eq_ok.1 hy
  cases hx : (State.ofSymbols (ofChars s.toList)).extra with
  | true => simp [hx] at h
  | false =>
    obtain rfl : y = x := by simpa [hx] using h
    cases shape with
    | number n => exact ⟨n, tokens_of_number (malformed_eq_ok.1 hs) hx, hy⟩
    | _ => cases hy

theorem readable_real {x : Float} (h : ReadsBack x) : Readable (.real x) := by
  obtain ⟨n, ht, hn⟩ := exists_number_of_readText h
  rw [String.toList_ofList] at ht
  cases n with
  | real y =>
    obtain rfl : y = x := Except.ok.inj hn
    exact fun r hr => tokens_append ht hr
  | integer i =>
    -- the text of a finite double is not made as that of an integer, and no other has digits
    cases hx : floats.text? x with
    | none =>
      rw [numeralText, hx] at ht
      have first : next (some 'n') (ofChars "ull".toList) = (some .null, []) := rfl
      have null : tokens (ofChars "null".toList) = [.null] :=
        (tokens_cons_of_some first).trans (by rw [tokens])
      cases null.symm.trans ht
    | some s =>
      rw [numeralText, hx] at ht
      obtain ⟨c, hc, point⟩ := point_or_exponent_mem_text hx
      exact absurd (inInteger_of_tokens ht _ (List.mem_map_of_mem hc)) (not_inInteger point)

end DownloadClient.Json
