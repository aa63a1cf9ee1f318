/-! Cutting a list at the elements of a kind: the parts between them, one more than there are of
them. -/

namespace DownloadClient.Text

def splitWhen (p : α → Bool) : List α → List (List α)
  | [] => [[]]
  | c :: r =>
    if p c then [] :: splitWhen p r
    else
      match splitWhen p r with
      | [] => [[c]]
      | w :: ws => (c :: w) :: ws

def cut? [DecidableEq α] (x : α) : List α → Option (List α × List α)
  | [] => none
  | c :: r => if c = x then some ([], r) else (cut? x r).map fun (a, b) => (c :: a, b)

def cutLast? [DecidableEq α] (x : α) : List α → Option (List α × List α)
  | [] => none
  | c :: r =>
    match cutLast? x r with
    | some (a, b) => some (c :: a, b)
    | none => if c = x then some ([], r) else none

theorem splitWhen_ne_nil (p : α → Bool) (s : List α) : splitWhen p s ≠ [] := by
  cases s with
  | nil => simp [splitWhen]
  | cons c r =>
    simp only [splitWhen]
    split
    · simp
    · split <;> simp

theorem splitWhen_of_all {p : α → Bool} {s : List α} (h : ∀ c ∈ s, p c = false) :
    splitWhen p s = [s] := by
  induction s with
  | nil => rfl
  | cons c r ih => simp_all [splitWhen]

theorem splitWhen_append_cons {p : α → Bool} {x : α} (hx : p x = true) (s r : List α) :
    splitWhen p (s ++ x :: r) = splitWhen p s ++ splitWhen p r := by
  induction s with
  | nil => simp [splitWhen, hx]
  | cons c s ih =>
    cases h : splitWhen p s with
    | nil => exact absurd h (splitWhen_ne_nil p s)
    | cons w ws => by_cases hc : p c = true <;> simp [splitWhen, ih, h, hc]

theorem splitWhen_append {p : α → Bool} {s : List α} (h : ∀ c ∈ s, p c = false) {x : α}
    (hx : p x = true) (r : List α) : splitWhen p (s ++ x :: r) = s :: splitWhen p r := by
  rw [splitWhen_append_cons hx, splitWhen_of_all h, List.singleton_append]

theorem length_splitWhen [DecidableEq α] (x : α) (s : List α) :
    (splitWhen (· == x) s).length = s.count x + 1 := by
  induction s with
  | nil => rfl
  | cons c r ih =>
    cases h : splitWhen (· == x) r with
    | nil => exact absurd h (splitWhen_ne_nil _ r)
    | cons w ws =>
      rw [h, List.length_cons] at ih
      by_cases hc : c = x <;> simp [splitWhen, h, hc, ih]

theorem splitWhen_intercalate {p : α → Bool} {x : α} {parts : List (List α)} (hx : p x = true)
    (ne : parts ≠ []) (h : ∀ s ∈ parts, ∀ c ∈ s, p c = false) :
    splitWhen p (List.intercalate [x] parts) = parts := by
  induction parts with
  | nil => exact absurd rfl ne
  | cons s parts ih =>
    obtain ⟨hs, rest⟩ := List.forall_mem_cons.1 h
    cases parts with
    | nil => rw [List.intercalate_singleton, splitWhen_of_all hs]
    | cons t parts =>
      rw [List.intercalate_cons_cons, List.append_assoc, List.singleton_append,
        splitWhen_append hs hx, ih nofun rest]

theorem flatMap_cons_eq {x : α} {parts : List (List α)} (ne : parts ≠ []) :
    parts.flatMap (x :: ·) = x :: List.intercalate [x] parts := by
  induction parts with
  | nil => exact absurd rfl ne
  | cons s parts ih =>
    cases parts with
    | nil => simp
    | cons t parts =>
      rw [List.flatMap_cons, ih nofun, List.intercalate_cons_cons]
      simp

theorem intercalate_concat (x : α) (first last : List α) (parts : List (List α)) :
    List.intercalate [x] (first :: (parts ++ [last])) =
      first ++ parts.flatMap (x :: ·) ++ x :: last := by
  have joined : (first :: (parts ++ [last])).flatMap (x :: ·) =
      x :: List.intercalate [x] (first :: (parts ++ [last])) := flatMap_cons_eq nofun
  rw [List.flatMap_cons, List.cons_append] at joined
  rw [← (List.cons.inj joined).2, List.flatMap_append, List.flatMap_singleton, List.append_assoc]

theorem cut?_eq_none_iff [DecidableEq α] {x : α} {s : List α} : cut? x s = none ↔ x ∉ s := by
  induction s with
  | nil => simp [cut?]
  | cons c r ih =>
    by_cases h : c = x
    · simp [cut?, h]
    · simp [cut?, h, ih, Ne.symm h]

theorem eq_of_cut? [DecidableEq α] {x : α} {s a b : List α} (h : cut? x s = some (a, b)) :
    s = a ++ x :: b ∧ x ∉ a := by
  induction s generalizing a with
  | nil => simp [cut?] at h
  | cons c r ih =>
    by_cases e : c = x
    · simp_all [cut?]
    · simp only [cut?, e, if_false, Option.map_eq_some_iff] at h
      obtain ⟨⟨a', b'⟩, h, e'⟩ := h
      cases e'
      obtain ⟨rfl, hx⟩ := ih h
      simp [hx, Ne.symm e]

theorem cut?_append [DecidableEq α] {x : α} {s : List α} (h : x ∉ s) (r : List α) :
    cut? x (s ++ x :: r) = some (s, r) := by
  induction s with
  | nil => simp [cut?]
  | cons c s ih =>
    obtain ⟨hc, hs⟩ := List.ne_and_not_mem_of_not_mem_cons h
    simp [cut?, Ne.symm hc, ih hs]

theorem eq_of_cutLast? [DecidableEq α] {x : α} {s : List α} {p : List α × List α}
    (h : cutLast? x s = some p) : s = p.1 ++ x :: p.2 := by
  induction s generalizing p with
  | nil => simp [cutLast?] at h
  | cons c r ih =>
    cases hr : cutLast? x r with
    | some q =>
      simp only [cutLast?, hr, Option.some.injEq] at h
      subst h
      simp [← ih hr]
    | none =>
      by_cases e : c = x
      · simp only [cutLast?, hr, e, if_true, Option.some.injEq] at h
        simp [← h, e]
      · simp [cutLast?, hr, e] at h

end DownloadClient.Text
