import DownloadClient.Proofs.Json.Rendering
import DownloadClient.Proofs.Json.Returned

/-! Readers that give a value back from every text that says the same as its encoding: those of
records, lists and cases do, where those of their parts do. -/

namespace DownloadClient.Json

open DownloadClient.Text

variable {α β γ : Type}

theorem readBytes_toUTF8 (r : Reader α) (s : String) : r.readBytes s.toUTF8 = r.readText s := by
  rw [Reader.readBytes, symbols_toUTF8]
  rfl

/-- A reader gives a value back from all its texts, with room for so many nested lists and
objects. -/
def Recovers (S : Schema) (r : Reader α) (needs : Nat) (j : Json) (x : α) : Prop :=
  ∀ room s, S.Renders (room + needs) j s → ∃ t, Reads s t ∧ r (room + needs) t = .ok x

namespace Recovers

variable {S : Schema} {r : Reader α} {needs : Nat} {j : Json} {x : α}

theorem mono (h : Recovers S r needs j x) {more : Nat} (hm : needs ≤ more) :
    Recovers S r more j x := by
  intro room s hs
  have := h (room + (more - needs)) s
  rw [Nat.add_assoc, Nat.sub_add_cancel hm] at this
  exact this hs

theorem read (h : Recovers S r needs j x) {room : Nat} {s : List Char} {t : Tree}
    (hs : S.Renders (room + needs) j s) (ht : Reads s t) : r (room + needs) t = .ok x := by
  obtain ⟨t', ht', e⟩ := h room s hs
  obtain rfl := ht.unique ht'
  exact e

theorem field (h : Recovers S r needs j x) (name : String) :
    Recovers S (Field.of name r).check needs j () := by
  intro room s hs
  obtain ⟨t, ht, hx⟩ := h room s hs
  exact ⟨t, ht, by simp [Field.of, hx, bind, Except.bind, pure, Except.pure]⟩

theorem readText (h : Recovers S r needs j x) (room : needs ≤ nestingLimit) {s : String}
    (hs : S.Renders nestingLimit j s.toList) : r.readText s = .ok x := by
  have := h (nestingLimit - needs) s.toList
  rw [Nat.sub_add_cancel room] at this
  obtain ⟨t, ht, hx⟩ := this hs
  have run := ht _ _ (opens_value []) [] nofun
  rw [List.append_nil, tokens] at run
  rw [Reader.readText, Reader.readSymbols, State.ofSymbols, State.run, run]
  simp [State.accept, State.tree, State.extra, hx, bind, Except.bind]

theorem of_write (h : Returns r needs j x)
    (hs : ∀ room s, S.Renders room j s → ∃ l depth, Layout.Plain l ∧ Padded (j.write l depth) s) :
    Recovers S r needs j x := by
  intro room s h'
  obtain ⟨l, depth, hl, padded⟩ := hs _ s h'
  exact ⟨j.tree, (reads_write hl depth j h.readable).padded padded, h.read room⟩

theorem atom (h : Returns r needs j x) : Recovers .atom r needs j x := of_write h fun _ _ => id

theorem items {item : Schema} {f : α → Json} {xs : List α} {room : Nat}
    (h : ∀ x ∈ xs, Recovers item r needs (f x) x) {parts : List (List Char)}
    (hp : List.Forall₂ (item.Renders (room + needs)) (xs.map f) parts) :
    ∃ ts, List.Forall₂ Reads parts ts ∧ ts.mapM (r (room + needs)) = .ok xs := by
  induction xs generalizing parts with
  | nil =>
    cases hp
    exact ⟨[], .nil, rfl⟩
  | cons x xs ih =>
    cases hp with
    | cons hp hps =>
      obtain ⟨hx, hxs⟩ := List.forall_mem_cons.1 h
      obtain ⟨t, ht, e⟩ := hx room _ hp
      obtain ⟨ts, hts, es⟩ := ih hxs hps
      refine ⟨t :: ts, .cons ht hts, ?_⟩
      rw [List.mapM_cons, e, es]
      rfl

theorem list {item : Schema} {f : α → Json} {xs : List α}
    (h : ∀ x ∈ xs, Recovers item r needs (f x) x) :
    Recovers (.list item) (.list r) (needs + 1) (.list (xs.map f)) xs := by
  rintro room s ⟨parts, hp, enclosed⟩
  obtain ⟨ts, hts, e⟩ := items h hp
  refine ⟨_, reads_enclosed_list hts enclosed, ?_⟩
  rw [← Nat.add_assoc, Reader.list]
  simp [enter, e, ListStop.read, bind, Except.bind, pure, Except.pure]

theorem optional (h : Recovers S r needs j x) (null : ∀ room, r room .null ≠ .ok x) :
    Recovers S (.optional r) needs j (some x) := by
  intro room s hs
  obtain ⟨t, ht, e⟩ := h room s hs
  refine ⟨t, ht, ?_⟩
  cases t with
  | null => exact absurd e (null _)
  | _ => simp [Reader.optional, e, bind, Except.bind, pure, Except.pure]

theorem applied {payload : Schema} {c : Cases α} {name : String} (known : name ∈ c.known)
    (h : Recovers payload (c.applied name) needs j x) :
    Recovers (.case payload) (.cases c) (needs + 1) (.object [(name, j)]) x := by
  rintro room s ⟨key, v, hk, hv, enclosed⟩
  obtain ⟨t, ht, e⟩ := h room v hv
  refine ⟨_, reads_enclosed_object (.cons (readsMember_of_isKey hk ht) .nil) enclosed, ?_⟩
  rw [← Nat.add_assoc, Reader.cases]
  simp [enter, Cases.check, known, e, bind, Except.bind]

end Recovers

def Stands (part : String → Schema) (room : Nat) (m : String × Json) (t : Tree) : Prop :=
  ∃ s, (part m.1).Renders room m.2 s ∧ Reads s t

def ReadsSlot (part : String → Schema) (room : Nat) : Slot → Key × Tree → Prop
  | .own m, read => read.1 = .ok m.1 ∧ Stands part room m read.2
  | .other name, read => read.1 = .ok name ∧ ∃ x, read.2.value room = .ok x

def Kept (part : String → Schema) (omittable : List (String × Json)) (room : Nat)
    (ms : List (String × Json)) (fs : Fields) : Prop :=
  ∀ m ∈ ms, (∃ t, fs.get? m.1 = some t ∧ Stands part room m t) ∨
    fs.get? m.1 = none ∧ m ∈ omittable

section Records

variable {part : String → Schema} {omittable kept inner : List (String × Json)}
  {known : List Field} {needs room : Nat} {slots : List Slot} {ms : List (Key × Tree)}
  {fs : Fields}

theorem mem_owns {m : String × Json} : m ∈ owns slots ↔ .own m ∈ slots := by
  induction slots with
  | nil => simp [owns]
  | cons e slots ih => cases e <;> simp [owns, ih]

theorem exists_readsSlot {parts : List (List Char)}
    (h : List.Forall₂ (Part (fun name v x => (part name).Renders room x v) (Accepted room))
      slots parts)
    (readable : ∀ m, .own m ∈ slots →
      ∀ s, (part m.1).Renders room m.2 s → ∃ t, Reads s t) :
    ∃ ms, List.Forall₂ ReadsMember parts ms ∧
      List.Forall₂ (ReadsSlot part room) slots ms := by
  induction h with
  | nil => exact ⟨[], .nil, .nil⟩
  | @cons e p slots parts hp h ih =>
    obtain ⟨ms, hr, hm⟩ := ih fun m hm => readable m (List.mem_cons_of_mem _ hm)
    cases e with
    | own m =>
      obtain ⟨key, v, hk, hv, rfl⟩ := hp
      obtain ⟨t, ht⟩ := readable m List.mem_cons_self v hv
      exact ⟨(.ok m.1, t) :: ms, .cons (readsMember_of_isKey hk ht) hr,
        .cons ⟨rfl, v, hv, ht⟩ hm⟩
    | other name =>
      obtain ⟨key, v, hk, hv, rfl⟩ := hp
      obtain ⟨t, x, ht, hx⟩ := reads_of_accepted hv
      exact ⟨(.ok name, t) :: ms, .cons (readsMember_of_isKey hk ht) hr, .cons ⟨rfl, x, hx⟩ hm⟩

/-- How a member is dealt with: a field of the record is checked, one of the inner record is passed
on as a value. -/
def Handled (known : List Field) (names : List String) (part : String → Schema) (needs : Nat)
    (m : String × Json) : Prop :=
  (m.1 ∉ names ∧ ∃ f, known.find? (·.name == m.1) = some f ∧
    Recovers (part m.1) f.check needs m.2 ()) ∨
  (m.1 ∈ names ∧ known.find? (·.name == m.1) = none ∧
    Recovers (part m.1) Reader.any needs m.2 m.2)

theorem Handled.readable {names : List String} {m : String × Json}
    (h : Handled known names part needs m) (s : List Char)
    (hs : (part m.1).Renders (room + needs) m.2 s) : ∃ t, Reads s t := by
  obtain ⟨-, f, -, check⟩ | ⟨-, -, value⟩ := h
  · exact (check room s hs).imp fun _ => And.left
  · exact (value room s hs).imp fun _ => And.left

section Scan

variable {name : String} {t : Tree} {seen : List String} {xs : List (String × Json)}

theorem scanValues_cons_of_field {f : Field} (found : known.find? (·.name == name) = some f)
    (fresh : name ∉ seen) (checked : f.check room t = .ok ())
    (rest : scanValues known room (name :: seen) ms = .ok (fs, xs)) :
    scanValues known room seen ((.ok name, t) :: ms) = .ok ((name, t) :: fs, xs) := by
  simp [scanValues, found, fresh, checked, rest, bind, Except.bind, pure, Except.pure]

theorem scanValues_cons_of_value {x : Json} (unknown : known.find? (·.name == name) = none)
    (value : t.value room = .ok x) (rest : scanValues known room seen ms = .ok (fs, xs)) :
    scanValues known room seen ((.ok name, t) :: ms) = .ok (fs, (name, x) :: xs) := by
  simp [scanValues, unknown, value, rest, bind, Except.bind, pure, Except.pure]

end Scan

theorem scanValues_of_slots {names seen : List String}
    (h : List.Forall₂ (ReadsSlot part (room + needs)) slots ms)
    (own : ∀ m, .own m ∈ slots → Handled known names part needs m ∧ m.1 ∉ seen)
    (other : ∀ name, .other name ∈ slots →
      name ∉ names ∧ known.find? (·.name == name) = none)
    (distinct : ((owns slots).map (·.1)).Nodup) :
    ∃ fs xs, scanValues known (room + needs) seen ms = .ok (fs, xs) ∧
      List.Forall₂ (fun m f => f.1 = m.1 ∧ Stands part (room + needs) m f.2)
        ((owns slots).filter (·.1 ∉ names)) fs ∧
      xs.filter (·.1 ∈ names) = (owns slots).filter (·.1 ∈ names) := by
  induction h generalizing seen with
  | nil => exact ⟨[], [], rfl, .nil, rfl⟩
  | @cons slot read slots ms hm h ih =>
    obtain ⟨key, t⟩ := read
    have others := fun n hn => other n (List.mem_cons_of_mem _ hn)
    cases slot with
    | other name =>
      obtain ⟨rfl, x, hx⟩ := hm
      obtain ⟨hn, unknown⟩ := other name List.mem_cons_self
      have rest := fun m hm => own m (List.mem_cons_of_mem _ hm)
      obtain ⟨fs, xs, scanned, hf, hxs⟩ := ih rest others distinct
      refine ⟨fs, (name, x) :: xs, scanValues_cons_of_value unknown hx scanned, hf, ?_⟩
      simpa [hn, owns] using hxs
    | own m =>
      obtain ⟨name, j⟩ := m
      obtain ⟨rfl, s, hs, ht⟩ := hm
      obtain ⟨new, distinct⟩ := List.nodup_cons.1 distinct
      obtain ⟨handled, fresh⟩ := own _ List.mem_cons_self
      obtain ⟨hn, f, found, check⟩ | ⟨hn, unknown, value⟩ := handled
      · -- what was seen grows by this name, which no later member has
        have rest : ∀ m, .own m ∈ slots → Handled known names part needs m ∧
            m.1 ∉ name :: seen := by
          intro m hm
          obtain ⟨hm', hseen⟩ := own m (List.mem_cons_of_mem _ hm)
          refine ⟨hm', List.not_mem_cons_of_ne_of_not_mem (fun e => new ?_) hseen⟩
          exact List.mem_map.2 ⟨m, mem_owns.2 hm, e⟩
        obtain ⟨fs, xs, scanned, hf, hxs⟩ := ih rest others distinct
        refine ⟨(name, t) :: fs, xs,
          scanValues_cons_of_field found fresh (check.read hs ht) scanned, ?_, ?_⟩
        · simpa [hn, owns] using ⟨⟨s, hs, ht⟩, by simpa using hf⟩
        · simpa [hn, owns] using hxs
      · have rest := fun m hm => own m (List.mem_cons_of_mem _ hm)
        obtain ⟨fs, xs, scanned, hf, hxs⟩ := ih rest others distinct
        have hx : t.value (room + needs) = .ok j := malformed_eq_ok.1 (value.read hs ht)
        refine ⟨fs, (name, j) :: xs, scanValues_cons_of_value unknown hx scanned, ?_, ?_⟩
        · simpa [hn, owns] using hf
        · simpa [hn, owns] using hxs

theorem get?_cons (f : String × Tree) (fs : Fields) (name : String) :
    Fields.get? (f :: fs) name = if f.1 = name then some f.2 else fs.get? name := by
  by_cases h : f.1 = name <;> simp [Fields.get?, h]

section Lookup

variable (h : List.Forall₂ (fun m f => f.1 = m.1 ∧ Stands part room m f.2) kept fs)
include h

theorem get?_eq_none {name : String} (hn : name ∉ kept.map (·.1)) : fs.get? name = none := by
  induction h with
  | nil => rfl
  | @cons m f kept fs hf h ih =>
    obtain ⟨hm, hn⟩ := not_or.1 (mt List.mem_cons.2 hn)
    rw [get?_cons, hf.1, if_neg (Ne.symm hm), ih hn]

theorem exists_get? (distinct : (kept.map (·.1)).Nodup) :
    ∀ m ∈ kept, ∃ t, fs.get? m.1 = some t ∧ Stands part room m t := by
  induction h with
  | nil => nofun
  | @cons m f kept fs hf h ih =>
    obtain ⟨new, distinct⟩ := List.nodup_cons.1 distinct
    intro m' hm
    obtain rfl | hm := List.mem_cons.1 hm
    · exact ⟨f.2, by rw [get?_cons, if_pos hf.1], hf.2⟩
    · have other : m.1 ≠ m'.1 := fun e => new (List.mem_map.2 ⟨m', hm, e.symm⟩)
      rw [get?_cons, hf.1, if_neg other]
      exact ih distinct m' hm

end Lookup

theorem kept_of_rearranges {left : List (String × Json)}
    (perm : (owns slots ++ left).Perm (inner ++ kept)) (omitted : ∀ m ∈ left, m ∈ omittable)
    (distinct : ((inner ++ kept).map (·.1)).Nodup)
    (h : List.Forall₂ (fun m f => f.1 = m.1 ∧ Stands part room m f.2)
      ((owns slots).filter (·.1 ∉ inner.map (·.1))) fs) :
    Kept part omittable room kept fs := by
  have distinct' := ((perm.map (·.1)).nodup_iff).2 distinct
  rw [List.map_append] at distinct distinct'
  have apart := List.nodup_append.1 distinct
  have apart' := List.nodup_append.1 distinct'
  intro m hm
  have outside : m.1 ∉ inner.map (·.1) := fun hi =>
    apart.2.2 m.1 hi m.1 (List.mem_map_of_mem hm) rfl
  obtain own | gone := List.mem_append.1 (perm.mem_iff.2 (List.mem_append_right inner hm))
  · have held : m ∈ (owns slots).filter (·.1 ∉ inner.map (·.1)) :=
      List.mem_filter.2 ⟨own, by simpa using outside⟩
    have sub := (List.filter_sublist (p := (·.1 ∉ inner.map (·.1))) (l := owns slots)).map (·.1)
    exact .inl (exists_get? h (sub.nodup apart'.1) m held)
  · refine .inr ⟨get?_eq_none h fun hn => ?_, omitted m gone⟩
    obtain ⟨m', hm', e⟩ := List.mem_map.1 hn
    refine apart'.2.2 m'.1 (List.mem_map_of_mem (List.mem_filter.1 hm').1) m.1
      (List.mem_map_of_mem gone) e

theorem perm_of_rearranges {left : List (String × Json)}
    (perm : (owns slots ++ left).Perm (inner ++ kept)) (omitted : ∀ m ∈ left, m ∈ omittable)
    (distinct : ((inner ++ kept).map (·.1)).Nodup)
    (needed : ∀ m ∈ omittable, m.1 ∉ inner.map (·.1)) :
    ((owns slots).filter (·.1 ∈ inner.map (·.1))).Perm inner := by
  have apart := List.nodup_append.1 (List.map_append ▸ distinct)
  have none : left.filter (·.1 ∈ inner.map (·.1)) = [] := by
    rw [List.filter_eq_nil_iff]
    intro m hm
    simpa using needed m (omitted m hm)
  have all : inner.filter (·.1 ∈ inner.map (·.1)) = inner := by
    rw [List.filter_eq_self]
    intro m hm
    simpa using ⟨m.2, hm⟩
  have others : kept.filter (·.1 ∈ inner.map (·.1)) = [] := by
    rw [List.filter_eq_nil_iff]
    intro m hm hi
    exact apart.2.2 m.1 (of_decide_eq_true hi) m.1 (List.mem_map_of_mem hm) rfl
  have := perm.filter (·.1 ∈ inner.map (·.1))
  rwa [List.filter_append, List.filter_append, none, all, others, List.append_nil,
    List.append_nil] at this

def Field.Recovers (part : String → Schema) (needs : Nat) (f : Field) (m : String × Json) : Prop :=
  f.name = m.1 ∧ Json.Recovers (part m.1) f.check needs m.2 ()

theorem map_name_of_recovers (h : List.Forall₂ (Field.Recovers part needs) known kept) :
    known.map Field.name = kept.map (·.1) := by
  induction h with
  | nil => rfl
  | cons hf h ih => rw [List.map_cons, List.map_cons, hf.1, ih]

theorem exists_field_of_recovers (h : List.Forall₂ (Field.Recovers part needs) known kept) :
    ∀ m ∈ kept, ∃ f ∈ known, Field.Recovers part needs f m := by
  induction h with
  | nil => nofun
  | @cons f m known kept hf h ih =>
    intro m' hm
    obtain rfl | hm := List.mem_cons.1 hm
    · exact ⟨f, List.mem_cons_self, hf⟩
    · obtain ⟨g, hg, hr⟩ := ih m' hm
      exact ⟨g, List.mem_cons_of_mem _ hg, hr⟩

/-- The members of an outer record and of one inside it, all with names of their own and all
recovered from their texts: those of the inner one as values. -/
structure Splits (known : List Field) (part : String → Schema) (needs : Nat)
    (inner kept : List (String × Json)) : Prop where
  distinct : ((inner ++ kept).map (·.1)).Nodup
  checks : List.Forall₂ (Field.Recovers part needs) known kept
  values : ∀ m ∈ inner, Recovers (part m.1) Reader.any needs m.2 m.2

namespace Splits

variable (h : Splits known part needs inner kept)
include h

theorem unknown {name : String} (hn : name ∉ kept.map (·.1)) :
    known.find? (·.name == name) = none := by
  rw [← map_name_of_recovers h.checks] at hn
  refine List.find?_eq_none.2 fun f hf => ?_
  simpa using fun e => hn (List.mem_map.2 ⟨f, hf, e⟩)

theorem handled {m : String × Json} (hm : m ∈ inner ++ kept) :
    Handled known (inner.map (·.1)) part needs m := by
  have distinct := h.distinct
  rw [List.map_append] at distinct
  obtain ⟨-, distinct, apart⟩ := List.nodup_append.1 distinct
  obtain hi | hk := List.mem_append.1 hm
  · have hn := List.mem_map_of_mem (f := (·.1)) hi
    exact .inr ⟨hn, h.unknown fun hk => apart _ hn _ hk rfl, h.values m hi⟩
  · have hn := List.mem_map_of_mem (f := (·.1)) hk
    obtain ⟨f, hf, e, check⟩ := exists_field_of_recovers h.checks m hk
    have found := find?_name_of_mem (map_name_of_recovers h.checks ▸ distinct) hf
    rw [e] at found
    exact .inl ⟨fun hi => apart _ hi _ hn rfl, f, found, check⟩

theorem exists_scan {fields : List String} {s : List Char}
    (hs : (Schema.struct fields omittable part).Renders (room + (needs + 1))
      (.object (inner ++ kept)) s)
    (names : fields = (inner ++ kept).map (·.1))
    (needed : ∀ m ∈ omittable, m.1 ∉ inner.map (·.1)) :
    ∃ ms fs xs, Reads s (.object ms .closed) ∧
      scanValues known (room + needs) [] ms = .ok (fs, xs) ∧
      Kept part omittable (room + needs) kept fs ∧
      (xs.filter (·.1 ∈ inner.map (·.1))).Perm inner := by
  obtain ⟨slots, parts, ⟨⟨left, perm, omitted⟩, other⟩, hp, enclosed⟩ := hs
  have among : ∀ m, .own m ∈ slots → m ∈ inner ++ kept := fun m hm =>
    perm.mem_iff.1 (List.mem_append_left _ (mem_owns.2 hm))
  have foreign : ∀ name, .other name ∈ slots →
      name ∉ inner.map (·.1) ∧ known.find? (·.name == name) = none := by
    intro name hn
    have := other name hn
    rw [names, List.map_append, List.mem_append, not_or] at this
    exact ⟨this.1, h.unknown this.2⟩
  have own : ((owns slots).map (·.1)).Nodup := by
    have := ((perm.map (·.1)).nodup_iff).2 h.distinct
    rw [List.map_append] at this
    exact (List.nodup_append.1 this).1
  obtain ⟨ms, hr, he⟩ := exists_readsSlot hp fun m hm => (h.handled (among m hm)).readable
  obtain ⟨fs, xs, scanned, hf, hxs⟩ := scanValues_of_slots he
    (fun m hm => ⟨h.handled (among m hm), List.not_mem_nil⟩) foreign own
  exact ⟨ms, fs, xs, reads_enclosed_object hr enclosed, scanned,
    kept_of_rearranges perm omitted h.distinct hf,
    hxs ▸ perm_of_rearranges perm omitted h.distinct needed⟩

end Splits

theorem scan_of_scanValues {seen : List String} {xs : List (String × Json)}
    (h : scanValues known room seen ms = .ok (fs, xs)) : scan known room seen ms = .ok fs := by
  induction ms generalizing seen fs xs with
  | nil =>
    cases h
    rfl
  | cons m ms ih =>
    obtain ⟨key, t⟩ := m
    rw [scanValues] at h
    obtain ⟨name, hn, h⟩ := bind_eq_ok.1 h
    cases found : known.find? (·.name == name) with
    | none =>
      simp only [found] at h
      obtain ⟨x, hx, h⟩ := bind_eq_ok.1 h
      obtain ⟨⟨fs', xs'⟩, hs, h⟩ := bind_eq_ok.1 h
      cases h
      have skipped := skip_of_value t (malformed_eq_ok.1 hx)
      simp [scan, hn, found, skipped, ih hs, bind, Except.bind]
    | some f =>
      simp only [found] at h
      by_cases fresh : name ∈ seen
      · rw [if_pos fresh] at h
        cases h
      · rw [if_neg fresh] at h
        obtain ⟨⟨⟩, checked, h⟩ := bind_eq_ok.1 h
        obtain ⟨⟨fs', xs'⟩, hs, h⟩ := bind_eq_ok.1 h
        cases h
        simp [scan, hn, found, fresh, checked, ih hs, bind, Except.bind, pure, Except.pure]

namespace Kept

variable {p : Reader β} {name : String} {j : Json} {y : β}
  (h : Kept part omittable (room + needs) kept fs) (hm : (name, j) ∈ kept)
  (hy : Recovers (part name) p needs j y)
include h hm hy

theorem required (must : (name, j) ∉ omittable) : fs.required name p (room + needs) = .ok y := by
  obtain ⟨t, ht, s, hs, read⟩ | ⟨-, gone⟩ := h _ hm
  · rw [Fields.required, ht]
    exact hy.read hs read
  · exact absurd gone must

theorem withDefault {default : β} (left : (name, j) ∈ omittable → y = default) :
    fs.withDefault name p default (room + needs) = .ok y := by
  rw [Fields.withDefault]
  obtain ⟨t, ht, s, hs, read⟩ | ⟨ht, gone⟩ := h _ hm
  · rw [ht]
    exact hy.read hs read
  · rw [ht, left gone]

end Kept

namespace Recovers

theorem record {r : Record α} {x : α}
    (checks : List.Forall₂ (Field.Recovers part needs) r.fields kept)
    (distinct : (r.fields.map Field.name).Nodup)
    (build : ∀ room fs, Kept part omittable (room + needs) kept fs →
      r.build (room + needs) fs = .ok x) :
    Recovers (.struct (r.fields.map Field.name) omittable part) (.record r) (needs + 1)
      (.object kept) x := by
  intro room s hs
  have names := map_name_of_recovers checks
  have splits : Splits r.fields part needs [] kept := ⟨names ▸ distinct, checks, nofun⟩
  obtain ⟨ms, fs, xs, read, scanned, held, -⟩ := splits.exists_scan hs names (by simp)
  refine ⟨_, read, ?_⟩
  rw [← Nat.add_assoc, Reader.record]
  simp [enter, scan_of_scanValues scanned, ObjectStop.read, build room fs held, bind, Except.bind]

theorem flattened {r : Flattened α β γ} {x : α} {y : β}
    (splits : Splits r.fields part needs inner kept)
    (needed : ∀ m ∈ omittable, m.1 ∉ inner.map (·.1))
    (own : ∀ room fs, Kept part omittable (room + needs) kept fs →
      r.own (room + needs) fs = .ok x)
    (inner' : ∀ xs, (xs.filter (·.1 ∈ inner.map (·.1))).Perm inner → r.inner xs = .ok y) :
    Recovers (.struct ((inner ++ kept).map (·.1)) omittable part) (.flattened r) (needs + 1)
      (.object (inner ++ kept)) (r.build x y) := by
  intro room s hs
  obtain ⟨ms, fs, xs, read, scanned, held, perm⟩ := splits.exists_scan hs rfl needed
  refine ⟨_, read, ?_⟩
  rw [← Nat.add_assoc, Reader.flattened]
  simp [enter, scanned, ObjectStop.read, own room fs held, inner' xs perm, bind, Except.bind,
    pure, Except.pure]

theorem texts {r : Record α} (ms : List (String × String)) {x : α}
    (fields : r.fields = ms.map fun m => .of m.1 Reader.string) (distinct : (ms.map (·.1)).Nodup)
    (build : ∀ room fs, Kept (fun _ => .atom) omittable room (ms.map fun m => (m.1, .text m.2)) fs →
      r.build room fs = .ok x) :
    Recovers (.struct (r.fields.map Field.name) omittable fun _ => .atom) (.record r) 1
      (.object (ms.map fun m => (m.1, .text m.2))) x := by
  refine .record ?_ ?_ build
  · rw [fields, List.forall₂_map_left_iff, List.forall₂_map_right_iff, List.forall₂_same]
    exact fun m _ => ⟨rfl, (atom (.string m.2)).field m.1⟩
  · rw [fields, List.map_map]
    exact distinct

end Recovers

section Texts

variable {ms : List (String × String)}
  (h : Kept (fun _ => .atom) omittable room (ms.map fun m => (m.1, .text m.2)) fs)
include h

theorem Kept.texts (must : ∀ m ∈ ms, (m.1, .text m.2) ∉ omittable) :
    ∀ m ∈ ms, fs.required m.1 Reader.string room = .ok m.2 := by
  have h : Kept _ _ (room + 0) _ fs := h
  intro m hm
  exact h.required (List.mem_map_of_mem (f := fun m => (m.1, Json.text m.2)) hm)
    (.atom (.string m.2)) (must m hm)

theorem Kept.textsOrEmpty (left : ∀ m ∈ ms, (m.1, .text m.2) ∈ omittable → m.2 = "") :
    ∀ m ∈ ms, fs.withDefault m.1 Reader.string "" room = .ok m.2 := by
  have h : Kept _ _ (room + 0) _ fs := h
  intro m hm
  exact h.withDefault (List.mem_map_of_mem (f := fun m => (m.1, Json.text m.2)) hm)
    (.atom (.string m.2)) (left m hm)

end Texts

end Records

end DownloadClient.Json
