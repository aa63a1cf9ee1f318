import DownloadClient.Json.Reader

namespace DownloadClient.Json

theorem bind_eq_ok {ε α β : Type} {x : Except ε α} {f : α → Except ε β} {b : β} :
    (x >>= f) = .ok b ↔ ∃ a, x = .ok a ∧ f a = .ok b := by
  cases x with
  | error e => simp [bind, Except.bind]
  | ok a => simp [bind, Except.bind]

theorem bind_eq_error {ε α β : Type} {x : Except ε α} {f : α → Except ε β} {e : ε} :
    (x >>= f) = .error e ↔ x = .error e ∨ ∃ a, x = .ok a ∧ f a = .error e := by
  cases x with
  | error e' => simp [bind, Except.bind]
  | ok a => simp [bind, Except.bind]

theorem map_eq_ok {ε α β : Type} {x : Except ε α} {f : α → β} {b : β} :
    x.map f = .ok b ↔ ∃ a, x = .ok a ∧ f a = b := by
  cases x <;> simp [Except.map]

@[simp] theorem malformed_ok {α : Type} (a : α) : malformed (.ok a) = .ok a := rfl

@[simp] theorem malformed_error {α : Type} (e : SyntaxError) :
    malformed (.error e : Except SyntaxError α) = .error (.malformed e) := rfl

theorem malformed_eq_ok {α : Type} {x : Except SyntaxError α} {a : α} :
    malformed x = .ok a ↔ x = .ok a := by
  cases x <;> simp

/-- The trees that have a value, with as much room as that takes. -/
inductive HasValue : Nat → Tree → Json → Prop
  | null : HasValue room .null .null
  | bool : HasValue room (.bool b) (.bool b)
  | number : HasValue room (.number (.ok n)) (.number n)
  | text : HasValue room (.text (.ok s)) (.text s)
  | list : Tree.values room items = .ok xs → stop.read = .ok () →
      HasValue (room + 1) (.list items stop) (.list xs)
  | object : Tree.members room members = .ok xs → stop.read = .ok () →
      HasValue (room + 1) (.object members stop) (.object xs)

theorem hasValue_of_value {room : Nat} {t : Tree} {x : Json} (h : t.value room = .ok x) :
    HasValue room t x := by
  cases t with
  | null =>
    rw [Tree.value] at h
    cases h
    exact .null
  | bool b =>
    rw [Tree.value] at h
    cases h
    exact .bool
  | number n =>
    rw [Tree.value] at h
    obtain ⟨n, rfl, rfl⟩ := map_eq_ok.1 h
    exact .number
  | text s =>
    rw [Tree.value] at h
    obtain ⟨s, rfl, rfl⟩ := map_eq_ok.1 h
    exact .text
  | list items stop =>
    cases room with
    | zero => cases h
    | succ room =>
      rw [Tree.value] at h
      obtain ⟨xs, hxs, h⟩ := bind_eq_ok.1 h
      obtain ⟨⟨⟩, hs, h⟩ := bind_eq_ok.1 h
      cases h
      exact .list hxs hs
  | object members stop =>
    cases room with
    | zero => cases h
    | succ room =>
      rw [Tree.value] at h
      obtain ⟨xs, hxs, h⟩ := bind_eq_ok.1 h
      obtain ⟨⟨⟩, hs, h⟩ := bind_eq_ok.1 h
      cases h
      exact .object hxs hs
  | brokenWord read skip =>
    rw [Tree.value] at h
    cases h
  | fault read skip =>
    rw [Tree.value] at h
    cases h

theorem members_eq_cons {room : Nat} {ms : List (Key × Tree)} {k : String} {x : Json}
    {xs : List (String × Json)} (h : Tree.members room ms = .ok ((k, x) :: xs)) :
    ∃ t rest, ms = (.ok k, t) :: rest ∧ t.value room = .ok x ∧ Tree.members room rest = .ok xs := by
  cases ms with
  | nil => simp [Tree.members] at h
  | cons m rest =>
    obtain ⟨key, t⟩ := m
    rw [Tree.members] at h
    obtain ⟨y, hy, h⟩ := bind_eq_ok.1 h
    obtain ⟨ys, hys, h⟩ := bind_eq_ok.1 h
    cases h
    rw [Tree.member] at hy
    obtain ⟨k', hk, hy⟩ := bind_eq_ok.1 hy
    obtain ⟨x', hx, hy⟩ := bind_eq_ok.1 hy
    cases hy
    exact ⟨t, rest, by rw [hk], hx, hys⟩

theorem members_eq_nil {room : Nat} {ms : List (Key × Tree)} (h : Tree.members room ms = .ok []) :
    ms = [] := by
  cases ms with
  | nil => rfl
  | cons m rest =>
    rw [Tree.members] at h
    obtain ⟨y, -, h⟩ := bind_eq_ok.1 h
    obtain ⟨ys, -, h⟩ := bind_eq_ok.1 h
    cases h

theorem members_eq_pair {room : Nat} {ms : List (Key × Tree)} {k k' : String} {x x' : Json}
    (h : Tree.members room ms = .ok [(k, x), (k', x')]) :
    ∃ t t', ms = [(.ok k, t), (.ok k', t')] ∧ HasValue room t x ∧ HasValue room t' x' := by
  obtain ⟨t, rest, rfl, ht, h⟩ := members_eq_cons h
  obtain ⟨t', rest, rfl, ht', h⟩ := members_eq_cons h
  obtain rfl := members_eq_nil h
  exact ⟨t, t', rfl, hasValue_of_value ht, hasValue_of_value ht'⟩

theorem exists_tree_of_any {b : ByteArray} {x : Json} (h : Reader.any.readBytes b = .ok x) :
    ∃ t : Tree, t.value nestingLimit = .ok x ∧
      ∀ {α : Type} (r : Reader α), r.readBytes b = r nestingLimit t := by
  obtain ⟨y, hy, h⟩ := bind_eq_ok.1 h
  cases hx : (State.ofSymbols (Text.symbols b)).extra with
  | true => simp [hx] at h
  | false =>
    obtain rfl : y = x := by simpa [hx] using h
    refine ⟨_, malformed_eq_ok.1 hy, fun r => ?_⟩
    rw [Reader.readBytes, Reader.readSymbols]
    cases hr : r nestingLimit (State.ofSymbols (Text.symbols b)).tree <;>
      simp [hx, bind, Except.bind]

theorem scanValues_of_members {known : List Field} {room : Nat} (seen : List String)
    {ms : List (Key × Tree)} {xs : List (String × Json)} (h : Tree.members room ms = .ok xs)
    (unknown : ∀ x ∈ xs, known.find? (·.name == x.1) = none) :
    scanValues known room seen ms = .ok ([], xs) := by
  induction xs generalizing ms with
  | nil =>
    rw [members_eq_nil h]
    rfl
  | cons x xs ih =>
    obtain ⟨k, x⟩ := x
    obtain ⟨t, rest, rfl, ht, hr⟩ := members_eq_cons h
    have ih := ih hr fun y hy => unknown y (List.mem_cons_of_mem _ hy)
    have hk : known.find? (·.name == k) = none := unknown (k, x) List.mem_cons_self
    simp [scanValues, hk, ht, ih, bind, Except.bind, pure, Except.pure]

theorem flattened_of_value {α β γ : Type} (r : Flattened α β γ) {room : Nat} {t : Tree}
    {xs : List (String × Json)} (h : t.value (room + 1) = .ok (.object xs))
    (unknown : ∀ x ∈ xs, r.fields.find? (·.name == x.1) = none) :
    Reader.flattened r (room + 1) t = do
      let own ← r.own room []
      let inner ← r.inner xs
      return r.build own inner := by
  cases hasValue_of_value h with
  | object hm hs =>
    simp [Reader.flattened, enter, scanValues_of_members [] hm unknown, hs, bind,
      Except.bind]

end DownloadClient.Json
