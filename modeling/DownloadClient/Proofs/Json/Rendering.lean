import DownloadClient.Proofs.Json.Embedded

/-! The texts that say the same as the encoding of a value: blanks stand between the tokens, the
members of a record stand in any order with others among them, and some may be missing. -/

namespace DownloadClient.Json

open DownloadClient.Text

def Blank (ws : List Char) : Prop := ∀ c ∈ ws, isSpace c

def Padded (s text : List Char) : Prop := ∃ ws ws', Blank ws ∧ Blank ws' ∧ text = ws ++ s ++ ws'

def Enclosed (first last : Char) (parts : List (List Char)) (text : List Char) : Prop :=
  ∃ ws, Blank ws ∧ Padded (first :: (ws ++ List.intercalate [','] parts ++ [last])) text

inductive Slot
  | own (m : String × Json)
  | other (name : String)

def owns : List Slot → List (String × Json)
  | [] => []
  | .own m :: slots => m :: owns slots
  | .other _ :: slots => owns slots

/-- Members in another order, with some left out and others put in. -/
structure Rearranges (fields : List String) (omittable ms : List (String × Json))
    (slots : List Slot) : Prop where
  own : ∃ left, (owns slots ++ left).Perm ms ∧ ∀ m ∈ left, m ∈ omittable
  other : ∀ name, .other name ∈ slots → name ∉ fields

/-- Where the texts of a value may differ from its encoding. -/
inductive Schema
  | atom
  | list (item : Schema)
  | case (payload : Schema)
  /-- `fields` are the names that no other member may have -/
  | struct (fields : List String) (omittable : List (String × Json)) (part : String → Schema)

def Part (part : String → List Char → Json → Prop) (other : List Char → Prop) :
    Slot → List Char → Prop
  | .own (name, x), p => ∃ key v, IsKey name key ∧ part name v x ∧ p = key ++ ':' :: v
  | .other name, p => ∃ key v, IsKey name key ∧ other v ∧ p = key ++ ':' :: v

def Schema.Renders : Schema → Nat → Json → List Char → Prop
  | .list item, room, .list xs, s =>
    ∃ parts, List.Forall₂ (item.Renders (room - 1)) xs parts ∧ Enclosed '[' ']' parts s
  | .case payload, room, .object [(name, x)], s =>
    ∃ key v, IsKey name key ∧ payload.Renders (room - 1) x v ∧
      Enclosed '{' '}' [key ++ ':' :: v] s
  | .struct fields omittable part, room, .object ms, s =>
    ∃ slots parts, Rearranges fields omittable ms slots ∧
      List.Forall₂ (Part (fun name v x => (part name).Renders (room - 1) x v)
        (Accepted (room - 1))) slots parts ∧
      Enclosed '{' '}' parts s
  | _, _, x, s => ∃ l depth, Layout.Plain l ∧ Padded (x.write l depth) s

theorem padded_self (s : List Char) : Padded s s :=
  ⟨[], [], List.forall_mem_nil _, List.forall_mem_nil _, by simp⟩

theorem enclosed_block (depth : Nat) (first last : Char) (parts : List (List Char)) :
    Enclosed first last parts (Layout.compact.block depth first last parts) := by
  refine ⟨[], List.forall_mem_nil _, ?_⟩
  convert padded_self _ using 1
  cases parts <;> simp [Layout.block, Layout.compact]

theorem isKey_self (k : String) : IsKey k (literal k) := by
  have := isKey_literal k (List.forall_mem_nil _) (List.forall_mem_nil isSpace)
  rwa [List.nil_append, List.append_nil] at this

theorem forall₂_writeItems {R : Json → List Char → Prop} {depth : Nat}
    (h : ∀ x, R x (x.write .compact depth)) (xs : List Json) :
    List.Forall₂ R xs (writeItems .compact depth xs) := by
  induction xs with
  | nil => exact .nil
  | cons x xs ih => exact .cons (h x) ih

theorem forall₂_writeMembers {R : Slot → List Char → Prop} {f : String × Json → Slot}
    {depth : Nat} {ms : List (String × Json)}
    (h : ∀ m ∈ ms, R (f m) (writeMember .compact depth m)) :
    List.Forall₂ R (ms.map f) (writeMembers .compact depth ms) := by
  induction ms with
  | nil => exact .nil
  | cons m ms ih =>
    obtain ⟨hm, h⟩ := List.forall_mem_cons.1 h
    exact .cons hm (ih h)

theorem part_writeMember {part : String → List Char → Json → Prop} {other : List Char → Prop}
    {depth : Nat} {m : String × Json} {e : Slot}
    (h : e = .own m ∧ part m.1 (m.2.write .compact depth) m.2 ∨
      e = .other m.1 ∧ other (m.2.write .compact depth)) :
    Part part other e (writeMember .compact depth m) := by
  obtain ⟨name, x⟩ := m
  have written : writeMember .compact depth (name, x) =
      literal name ++ ':' :: x.write .compact depth := by
    rw [writeMember, List.append_assoc]
    rfl
  obtain ⟨rfl, h⟩ | ⟨rfl, h⟩ := h <;> exact ⟨_, _, isKey_self name, h, written⟩

theorem owns_map_own (ms : List (String × Json)) : owns (ms.map .own) = ms := by
  induction ms with
  | nil => rfl
  | cons m ms ih => rw [List.map_cons, owns, ih]

theorem renders_compact (S : Schema) (room depth : Nat) (j : Json) :
    S.Renders room j (j.write .compact depth) := by
  have written (depth : Nat) (j : Json) :
      ∃ l depth', Layout.Plain l ∧ Padded (j.write l depth') (j.write .compact depth) :=
    ⟨.compact, depth, .compact, padded_self _⟩
  induction S generalizing room depth j with
  | atom => exact written _ _
  | list item ih =>
    cases j with
    | list xs =>
      exact ⟨_, forall₂_writeItems (ih _ _) xs,
        enclosed_block _ _ _ _⟩
    | _ => exact written _ _
  | case payload ih =>
    match j with
    | .object [(name, x)] =>
      refine ⟨_, _, isKey_self name, ih _ (depth + 1) x, ?_⟩
      rw [write, writeMembers, writeMember, writeMembers, List.append_assoc]
      exact enclosed_block _ _ _ _
    | .object [] | .object (_ :: _ :: _) => exact written _ _
    | .null | .bool _ | .number _ | .text _ | .list _ => exact written _ _
  | struct fields omittable part ih =>
    cases j with
    | object ms =>
      refine ⟨ms.map .own, _, ⟨⟨[], ?_, List.forall_mem_nil _⟩, ?_⟩,
        forall₂_writeMembers fun m _ => part_writeMember (.inl ⟨rfl, ih m.1 _ _ m.2⟩),
        enclosed_block _ _ _ _⟩
      · rw [owns_map_own, List.append_nil]
      · simp
    | _ => exact written _ _

theorem accepted_write {l : Layout} (hl : l.Plain) (depth : Nat) {room : Nat} {x : Json}
    (hd : x.depth ≤ room) (hn : ∀ n ∈ x.numerals, Readable n) :
    Accepted room (x.write l depth) := by
  have read := ofSymbols_write hl depth hn (List.forall_mem_nil _)
  rw [List.append_nil] at read
  rw [Accepted, read]
  exact ⟨rfl, x, value_tree x room hd⟩

def slot (fields : List String) (m : String × Json) : Slot :=
  if m.1 ∈ fields then .own m else .other m.1

theorem owns_map_slot (fields : List String) (ms : List (String × Json)) :
    owns (ms.map (slot fields)) = ms.filter (·.1 ∈ fields) := by
  induction ms with
  | nil => rfl
  | cons m ms ih => by_cases h : m.1 ∈ fields <;> simp [slot, h, owns, ih]

theorem not_mem_of_other {fields : List String} {ms : List (String × Json)} {name : String}
    (h : .other name ∈ ms.map (slot fields)) : name ∉ fields := by
  obtain ⟨m, -, e⟩ := List.mem_map.1 h
  rw [slot] at e
  split at e
  · cases e
  · cases e
    assumption

theorem renders_object {fields : List String} {omittable ms ms' left : List (String × Json)}
    {part : String → Schema} {room : Nat}
    (perm : (ms'.filter (·.1 ∈ fields) ++ left).Perm ms) (omitted : ∀ m ∈ left, m ∈ omittable)
    (others : ∀ m ∈ ms', m.1 ∉ fields → m.2.depth ≤ room ∧ ∀ n ∈ m.2.numerals, Readable n)
    (depth : Nat) : (Schema.struct fields omittable part).Renders (room + 1) (.object ms)
      ((Json.object ms').write .compact depth) := by
  rw [← owns_map_slot] at perm
  refine ⟨_, _, ⟨⟨left, perm, omitted⟩, fun name hn => not_mem_of_other hn⟩,
    forall₂_writeMembers fun m hm => part_writeMember ?_, enclosed_block _ _ _ _⟩
  by_cases h : m.1 ∈ fields
  · exact .inl ⟨if_pos h, renders_compact _ _ _ _⟩
  · obtain ⟨deep, readable⟩ := others m hm h
    exact .inr ⟨if_neg h, accepted_write .compact _ deep readable⟩

theorem Reads.unique {s : List Char} {t t' : Tree} (h : Reads s t) (h' : Reads s t') : t = t' := by
  have nothing : Boundary [] := nofun
  have := (h _ _ (opens_value []) [] nothing).symm.trans (h' _ _ (opens_value []) [] nothing)
  rw [tokens] at this
  cases this
  rfl

theorem Reads.padded {s text : List Char} {t : Tree} (h : Reads s t) (hp : Padded s text) :
    Reads text t := by
  obtain ⟨ws, ws', hw, hw', rfl⟩ := hp
  intro a around ha
  have behind : Moves ws' (.accept t around) (.accept t around) := by
    simpa using Moves.spaces hw' (.nil _)
  rw [List.append_assoc]
  exact .spaces hw ((h a around ha).append behind fun _ => boundary_spaces hw')

theorem reads_enclosed {first last : Char} {parts : List (List Char)} {text : List Char} {t : Tree}
    (h : Enclosed first last parts text)
    (empty : parts = [] → ∀ ws, Blank ws → Reads (first :: (ws ++ [last])) t)
    (block : ∀ p ps ws, parts = p :: ps → Blank ws →
      Reads (Layout.compact.block 0 first last ((ws ++ p) :: ps)) t) : Reads text t := by
  obtain ⟨ws, hw, padded⟩ := h
  refine .padded ?_ padded
  cases parts with
  | nil => simpa using empty rfl ws hw
  | cons p ps =>
    have := block p ps ws rfl hw
    cases ps <;>
      simpa [Layout.block, Layout.compact, List.intercalate_cons_cons] using this

theorem reads_enclosed_list {parts : List (List Char)} {ts : List Tree} {text : List Char}
    (h : List.Forall₂ Reads parts ts) (enclosed : Enclosed '[' ']' parts text) :
    Reads text (.list ts .closed) := by
  refine reads_enclosed enclosed ?_ ?_
  · rintro rfl ws hw a around ha
    cases h
    refine .mark (fun _ => rfl) (.spaces hw (.mark (fun _ => rfl) ?_))
    rw [ha .listOpen nofun]
    exact .nil _
  · rintro p ps ws rfl hw
    cases h with
    | cons hp hps =>
      exact reads_list .compact (.cons (fun a around ha => .spaces hw (hp a around ha)) hps)

theorem reads_enclosed_object {parts : List (List Char)} {ms : List (Key × Tree)}
    {text : List Char} (h : List.Forall₂ ReadsMember parts ms)
    (enclosed : Enclosed '{' '}' parts text) : Reads text (.object ms .closed) := by
  refine reads_enclosed enclosed ?_ ?_
  · rintro rfl ws hw a around ha
    cases h
    refine .mark (fun _ => rfl) (.spaces hw (.mark (fun _ => rfl) ?_))
    rw [ha .objectOpen nofun]
    exact .nil _
  · rintro p ps ws rfl hw
    cases h with
    | cons hp hps =>
      refine reads_object .compact (.cons (fun first ms around => ?_) hps)
      exact .spaces hw (hp first ms around)

theorem readsMember_of_isKey {k : String} {key v : List Char} {t : Tree} (hk : IsKey k key)
    (hv : Reads v t) : ReadsMember (key ++ ':' :: v) (.ok k, t) := by
  intro first members around r hr
  have step : State.step (.nextKey first members around) (.text (.ok k)) =
      .colon members (.ok k) around := by
    cases first <;> rfl
  have rest : Moves (':' :: v) (.colon members (.ok k) around)
      (.afterMember ((.ok k, t) :: members) around) :=
    .mark (fun _ => rfl) (hv _ _ (opens_value _))
  have colon : Boundary (ofChars (':' :: v) ++ r) := boundary_cons (.inr (by simp)) _
  rw [ofChars_append, List.append_assoc, hk.tokens_append colon, List.foldl_cons, step]
  exact rest r hr

end DownloadClient.Json
