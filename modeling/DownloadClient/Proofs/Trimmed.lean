import Mathlib
import DownloadClient.Text.Blank

namespace DownloadClient.Text

structure Unpadded (s : String) : Prop where
  first : ∀ c ∈ s.toList.head?, isBlank c = false
  last : ∀ c ∈ s.toList.getLast?, isBlank c = false

theorem head?_dropWhile_blank {s : List Char} {c : Char} (h : c ∈ (s.dropWhile isBlank).head?) :
    isBlank c = false := by
  have := List.head?_dropWhile_not isBlank s
  rw [h] at this
  exact this

theorem unpadded_trimmed (s : String) : Unpadded (trimmed s) where
  first := by
    intro c hc
    rw [toList_trimmed] at hc
    have front : trim s.toList <+: trimStart s.toList := List.rdropWhile_prefix ..
    obtain ⟨rest, hr⟩ := front
    refine head?_dropWhile_blank (s := s.toList) ?_
    change c ∈ (trimStart s.toList).head?
    rw [← hr, List.head?_append, hc, Option.some_or, Option.mem_def]
  last := by
    intro c hc
    rw [toList_trimmed, trim, trimEnd, List.getLast?_reverse] at hc
    exact head?_dropWhile_blank hc

theorem trimmed_ne_empty {s : String} (h : blank s = false) : trimmed s ≠ "" := by
  intro e
  have nil : trim s.toList = [] := by rw [← toList_trimmed, e, String.toList_empty]
  have start : ∀ c ∈ trimStart s.toList, isBlank c = true := List.rdropWhile_eq_nil_iff.1 nil
  have none : trimStart s.toList = [] := by
    cases hs : trimStart s.toList with
    | nil => rfl
    | cons c r =>
      have first := head?_dropWhile_blank (s := s.toList) (c := c) (by
        rw [← trimStart, hs, List.head?_cons, Option.mem_def])
      simp [start c (by simp [hs])] at first
  rw [trimStart, List.dropWhile_eq_nil_iff] at none
  simp [blank, List.all_eq_true.2 none] at h

theorem unpadded_append {s t : String} (first : ∃ c ∈ s.toList.head?, isBlank c = false)
    (last : ∃ c ∈ t.toList.getLast?, isBlank c = false) : Unpadded (s ++ t) := by
  obtain ⟨a, ha, first⟩ := first
  obtain ⟨z, hz, last⟩ := last
  constructor
  · intro c hc
    rw [String.toList_append, List.head?_append, ha, Option.some_or] at hc
    exact Option.mem_some.1 hc ▸ first
  · intro c hc
    rw [String.toList_append, List.getLast?_append, hz, Option.some_or] at hc
    exact Option.mem_some.1 hc ▸ last

theorem not_blank_append {s : String} (h : blank s = false) (t : String) :
    blank (s ++ t) = false := by
  rw [blank, String.toList_append, List.all_append, ← blank, h, Bool.false_and]

end DownloadClient.Text
