import DownloadClient.Proofs.Json.Numeral

/-! Readers that give back what was written: those of records, lists and cases do, where those of
their parts do. -/

namespace DownloadClient.Json

open DownloadClient.Text

variable {α β γ : Type}

/-- A reader gives a value back from its text, with room for so many nested lists and objects. -/
structure Returns (r : Reader α) (needs : Nat) (j : Json) (x : α) : Prop where
  readable : ∀ n ∈ j.numerals, Readable n
  read : ∀ room, r (room + needs) j.tree = .ok x

@[simp] theorem forall_mem_numerals_list {P : Numeral → Prop} (items : List Json) :
    (∀ n ∈ (Json.list items).numerals, P n) ↔ ∀ x ∈ items, ∀ n ∈ x.numerals, P n := by
  rw [numerals]
  induction items with
  | nil => simp [numeralsOfItems]
  | cons x items ih => simp [numeralsOfItems, or_imp, forall_and, ih]

@[simp] theorem forall_mem_numerals_object {P : Numeral → Prop} (members : List (String × Json)) :
    (∀ n ∈ (Json.object members).numerals, P n) ↔ ∀ m ∈ members, ∀ n ∈ m.2.numerals, P n := by
  rw [numerals]
  induction members with
  | nil => simp [numeralsOfMembers]
  | cons m members ih =>
    obtain ⟨k, x⟩ := m
    simp only [numeralsOfMembers, numeralsOfMember, List.mem_append, or_imp, forall_and, ih,
      List.mem_cons, forall_eq]

theorem Returns.readText {r : Reader α} {needs : Nat} {j : Json} {x : α}
    (h : Returns r needs j x) (room : needs ≤ nestingLimit) {l : Layout} (hl : l.Plain)
    {ws : List Char} (hw : ∀ c ∈ ws, isSpace c) :
    r.readText (String.ofList (j.write l 0 ++ ws)) = .ok x := by
  have hr := h.read (nestingLimit - needs)
  rw [Nat.sub_add_cancel room] at hr
  rw [Reader.readText, String.toList_ofList, Reader.readSymbols,
    ofSymbols_write hl 0 h.readable hw]
  simp [State.tree, State.extra, hr, bind, Except.bind]

namespace Returns

theorem mono {r : Reader α} {needs more : Nat} {j : Json} {x : α} (h : Returns r needs j x)
    (hm : needs ≤ more) : Returns r more j x where
  readable := h.readable
  read room := by
    have := h.read (room + (more - needs))
    rwa [Nat.add_assoc, Nat.sub_add_cancel hm] at this

@[simp] theorem string_tree (room : Nat) (s : String) :
    Reader.string room (Json.text s).tree = .ok s := rfl

@[simp] theorem flag_tree (room : Nat) (b : Bool) : Reader.flag room (Json.bool b).tree = .ok b :=
  rfl

@[simp] theorem real_tree (room : Nat) (x : Float) :
    Reader.real room (Json.number (.real x)).tree = .ok x := rfl

theorem string (s : String) : Returns Reader.string 0 (.text s) s where
  readable := by simp [numerals]
  read room := string_tree room s

theorem flag (b : Bool) : Returns Reader.flag 0 (.bool b) b where
  readable := by simp [numerals]
  read room := flag_tree room b

theorem number {f : Shape → Except DecodeError α} {n : Numeral} {x : α} (hn : Readable n)
    (hf : f (.number n) = .ok x) : Returns (.ofShape f) 0 (.number n) x where
  readable := by simpa [numerals] using hn
  read _ := hf

theorem real {x : Float} (h : ReadsBack x) : Returns Reader.real 0 (.number (.real x)) x :=
  number (readable_real h) rfl

theorem mapM_trees {f : α → Json} {r : Tree → Except DecodeError α} {xs : List α}
    (h : ∀ x ∈ xs, r (f x).tree = .ok x) : (trees (xs.map f)).mapM r = .ok xs := by
  induction xs with
  | nil => rfl
  | cons x xs ih =>
    have hx := h x List.mem_cons_self
    have hxs := ih fun y hy => h y (List.mem_cons_of_mem x hy)
    rw [List.map_cons, trees, List.mapM_cons, hx, hxs]
    rfl

theorem list {f : α → Json} {r : Reader α} {needs : Nat} {xs : List α}
    (h : ∀ x ∈ xs, Returns r needs (f x) x) :
    Returns (.list r) (needs + 1) (.list (xs.map f)) xs where
  readable := by simpa using fun x hx => (h x hx).readable
  read room := by
    have items := mapM_trees fun x hx => (h x hx).read room
    rw [tree, ← Nat.add_assoc, Reader.list]
    simp [enter, items, ListStop.read, bind, Except.bind, pure, Except.pure]

theorem null (r : Reader α) (needs : Nat) : Returns (.optional r) needs .null none where
  readable := by simp [numerals]
  read _ := rfl

theorem optional {r : Reader α} {needs : Nat} {j : Json} {x : α} (h : Returns r needs j x)
    (hj : j ≠ .null) : Returns (.optional r) needs j (some x) where
  readable := h.readable
  read room := by
    have hx := h.read room
    cases j with
    | null => exact absurd rfl hj
    | _ =>
      simp only [tree] at hx ⊢
      simp [Reader.optional, hx, bind, Except.bind, pure, Except.pure]

theorem bare {c : Cases α} {name : String} {x : α} (known : name ∈ c.known)
    (h : c.bare name = .ok x) : Returns (.cases c) 0 (.text name) x where
  readable := by simp [numerals]
  read _ := by simp [tree, Reader.cases, Cases.check, known, h, bind, Except.bind]

theorem applied {c : Cases α} {name : String} {needs : Nat} {j : Json} {x : α}
    (known : name ∈ c.known) (h : Returns (c.applied name) needs j x) :
    Returns (.cases c) (needs + 1) (.object [(name, j)]) x where
  readable := by simpa using h.readable
  read room := by
    rw [tree, memberTrees, memberTree, memberTrees, ← Nat.add_assoc, Reader.cases]
    simp [enter, Cases.check, known, h.read, bind, Except.bind]

theorem field {r : Reader α} {needs : Nat} {j : Json} {x : α} (name : String)
    (h : Returns r needs j x) : Returns (Field.of name r).check needs j () where
  readable := h.readable
  read room := by simp [Field.of, h.read, bind, Except.bind, pure, Except.pure]

end Returns

def Field.Fits (needs : Nat) (f : Field) (m : String × Json) : Prop :=
  f.name = m.1 ∧ Returns f.check needs m.2 ()

theorem find?_name_of_mem {known : List Field} (h : (known.map Field.name).Nodup) {f : Field}
    (hf : f ∈ known) : known.find? (·.name == f.name) = some f := by
  induction known with
  | nil => cases hf
  | cons g known ih =>
    obtain ⟨hg, hk⟩ := List.nodup_cons.1 h
    obtain rfl | hf := List.mem_cons.1 hf
    · simp
    · have other : g.name ≠ f.name := fun e => hg (e ▸ List.mem_map_of_mem hf)
      rw [List.find?_cons_of_neg (by simpa using other), ih hk hf]

def fieldsOf (ms : List (String × Json)) : Fields := ms.map fun m => (m.1, m.2.tree)

@[simp] theorem get?_fieldsOf_cons (m : String × Json) (ms : List (String × Json))
    (name : String) :
    Fields.get? (fieldsOf (m :: ms)) name =
      if m.1 = name then some m.2.tree else Fields.get? (fieldsOf ms) name := by
  by_cases h : m.1 = name <;> simp [fieldsOf, Fields.get?, h]

theorem scan_memberTrees {known fs : List Field} {needs room : Nat} {ms : List (String × Json)}
    {seen : List String} (h : List.Forall₂ (Field.Fits needs) fs ms)
    (names : (known.map Field.name).Nodup) (among : ∀ f ∈ fs, f ∈ known)
    (fresh : ∀ f ∈ fs, f.name ∉ seen) (distinct : (fs.map Field.name).Nodup) :
    scan known (room + needs) seen (memberTrees ms) = .ok (fieldsOf ms) := by
  induction h generalizing seen with
  | nil => rfl
  | @cons f m fs ms hm h ih =>
    obtain ⟨name, j⟩ := m
    obtain ⟨rfl, check⟩ := hm
    obtain ⟨hf, hfs⟩ := List.nodup_cons.1 distinct
    have found := find?_name_of_mem names (among f List.mem_cons_self)
    have later : ∀ g ∈ fs, g.name ∉ f.name :: seen := by
      intro g hg
      refine List.not_mem_cons_of_ne_of_not_mem (fun e => ?_) (fresh g (List.mem_cons_of_mem f hg))
      exact hf (e ▸ List.mem_map_of_mem hg)
    have rest := ih (fun g hg => among g (List.mem_cons_of_mem f hg)) later hfs
    rw [memberTrees, memberTree, scan]
    simp [found, fresh f List.mem_cons_self, check.read, rest, fieldsOf, bind, Except.bind, pure,
      Except.pure]

theorem readable_of_fits {fs : List Field} {needs : Nat} {ms : List (String × Json)}
    (h : List.Forall₂ (Field.Fits needs) fs ms) : ∀ m ∈ ms, ∀ n ∈ m.2.numerals, Readable n := by
  induction h with
  | nil => simp
  | cons hm h ih => exact List.forall_mem_cons.2 ⟨hm.2.readable, ih⟩

theorem Returns.record {r : Record α} {needs : Nat} {ms : List (String × Json)} {x : α}
    (fields : List.Forall₂ (Field.Fits needs) r.fields ms)
    (names : (r.fields.map Field.name).Nodup)
    (build : ∀ room, r.build (room + needs) (fieldsOf ms) = .ok x) :
    Returns (.record r) (needs + 1) (.object ms) x where
  readable := (forall_mem_numerals_object ms).2 (readable_of_fits fields)
  read room := by
    have scanned : scan r.fields (room + needs) [] (memberTrees ms) = .ok (fieldsOf ms) :=
      scan_memberTrees fields names (fun _ => id) (by simp) names
    rw [tree, ← Nat.add_assoc, Reader.record]
    simp [enter, scanned, ObjectStop.read, build, bind, Except.bind]

theorem fits_texts (ms : List (String × String)) :
    List.Forall₂ (Field.Fits 0) (ms.map fun m => .of m.1 Reader.string)
      (ms.map fun m => (m.1, .text m.2)) := by
  induction ms with
  | nil => exact .nil
  | cons m ms ih => exact .cons ⟨rfl, .field _ (.string _)⟩ ih

theorem Returns.texts {r : Record α} (ms : List (String × String)) {x : α}
    (fields : r.fields = ms.map fun m => .of m.1 Reader.string) (names : (ms.map (·.1)).Nodup)
    (build : ∀ room, r.build room (fieldsOf (ms.map fun m => (m.1, .text m.2))) = .ok x) :
    Returns (.record r) 1 (.object (ms.map fun m => (m.1, .text m.2))) x := by
  have fits : List.Forall₂ (Field.Fits 0) r.fields (ms.map fun m => (m.1, .text m.2)) :=
    fields ▸ fits_texts ms
  refine .record fits ?_ build
  rw [fields, List.map_map]
  exact names

theorem scanValues_memberTrees {f : Field} {needs : Nat} (room : Nat)
    {ms : List (String × Json)} {j : Json} (check : Returns f.check needs j ())
    (others : ∀ m ∈ ms, m.1 ≠ f.name) (flat : ∀ m ∈ ms, m.2.depth ≤ needs) :
    scanValues [f] (room + needs) [] (memberTrees (ms ++ [(f.name, j)])) =
      .ok (fieldsOf [(f.name, j)], ms) := by
  induction ms with
  | nil =>
    rw [List.nil_append, memberTrees, memberTree, memberTrees, scanValues]
    simp [scanValues, check.read, fieldsOf, bind, Except.bind, pure, Except.pure]
  | cons m ms ih =>
    obtain ⟨k, x⟩ := m
    obtain ⟨hk, others⟩ := List.forall_mem_cons.1 others
    obtain ⟨hx, flat⟩ := List.forall_mem_cons.1 flat
    have value := value_tree x (room + needs) (Nat.le_trans hx (Nat.le_add_left _ _))
    have rest := ih others flat
    rw [List.cons_append, memberTrees, memberTree, scanValues]
    simp [Ne.symm hk, value, rest, bind, Except.bind, pure, Except.pure]

theorem Returns.flattened {r : Flattened α β γ} {needs : Nat} {f : Field}
    {ms : List (String × Json)} {j : Json} {x : α} {y : β} (fields : r.fields = [f])
    (check : Returns f.check needs j ()) (others : ∀ m ∈ ms, m.1 ≠ f.name)
    (plain : ∀ m ∈ ms, ∀ n ∈ m.2.numerals, Readable n) (flat : ∀ m ∈ ms, m.2.depth ≤ needs)
    (own : ∀ room, r.own (room + needs) (fieldsOf [(f.name, j)]) = .ok x)
    (inner : r.inner ms = .ok y) :
    Returns (.flattened r) (needs + 1) (.object (ms ++ [(f.name, j)])) (r.build x y) where
  readable := by
    rw [forall_mem_numerals_object, List.forall_mem_append]
    exact ⟨plain, by simpa using check.readable⟩
  read room := by
    have scanned := scanValues_memberTrees room check others flat
    rw [tree, ← Nat.add_assoc, Reader.flattened, fields]
    simp [enter, scanned, ObjectStop.read, own, inner, bind, Except.bind, pure, Except.pure]

end DownloadClient.Json
