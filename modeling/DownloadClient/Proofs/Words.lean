import Mathlib
import DownloadClient.Command.Run

/-! What a line of the shell has to look like to be cut into words. A line has words if it is words
between blanks, and then it has no others; every list of texts can be written as a line. -/

namespace DownloadClient.Command

open DownloadClient.Text

/-- A piece of a word with what it stands for: a character that means nothing else, or what stands
between two quotes of a kind. -/
inductive Piece : List Char → List Char → Prop
  | bare {c : Char} (notBlank : isBlank c = false) (double : c ≠ '"') (single : c ≠ '\'') :
      Piece [c] [c]
  | quoted {q : Char} {run : List Char} (hq : q = '"' ∨ q = '\'') (h : q ∉ run) :
      Piece (q :: run ++ [q]) run

inductive Word : List Char → List Char → Prop
  | one {s v} (h : Piece s v) : Word s v
  | more {s v t w} (h : Word s v) (last : Piece t w) : Word (s ++ t) (v ++ w)

def Blanks (s : List Char) : Prop := ∀ c ∈ s, isBlank c = true

theorem blanks_nil : Blanks [] := nofun

inductive Separated : List Char → List (List Char) → Prop
  | nil : Separated [] []
  | last {s v} (h : Word s v) : Separated s [v]
  | more {s v gap t w ws} (h : Word s v) (blanks : Blanks gap) (some : gap ≠ [])
      (rest : Separated t (w :: ws)) : Separated (s ++ gap ++ t) (v :: w :: ws)

inductive Reading : List Char → List (List Char) → Prop
  | mk {front s back ws} (hf : Blanks front) (h : Separated s ws) (hb : Blanks back) :
      Reading (front ++ s ++ back) ws

namespace Reading

theorem blanks {s : List Char} (h : Blanks s) : Reading s [] := by
  simpa using Reading.mk h .nil blanks_nil

theorem last {s v : List Char} (h : Word s v) : Reading s [v] := by
  simpa using Reading.mk blanks_nil (.last h) blanks_nil

theorem cons_blank {c : Char} {s : List Char} {ws : List (List Char)} (hc : isBlank c = true)
    (h : Reading s ws) : Reading (c :: s) ws := by
  cases h with
  | @mk front _ _ _ hf h hb =>
    have front : Blanks (c :: front) := List.forall_mem_cons.2 ⟨hc, hf⟩
    exact .mk front h hb

theorem word_blank {s v : List Char} {c : Char} {t : List Char} {ws : List (List Char)}
    (hw : Word s v) (hc : isBlank c = true) (h : Reading t ws) :
    Reading (s ++ c :: t) (v :: ws) := by
  cases h with
  | @mk front t back _ hf h hb =>
    have gap : Blanks (c :: front) := List.forall_mem_cons.2 ⟨hc, hf⟩
    cases h with
    | nil =>
      have behind : Blanks (c :: front ++ back) := List.forall_mem_append.2 ⟨gap, hb⟩
      simpa using Reading.mk blanks_nil (.last hw) behind
    | last h => simpa using Reading.mk blanks_nil (.more hw gap (by simp) (.last h)) hb
    | more h blanks some rest =>
      simpa using Reading.mk blanks_nil
        (.more hw gap (by simp) (.more h blanks some rest)) hb

end Reading

/-- What stands in front of where a text is read, back to the last blank: nothing, the beginning of
a word, or such and a quote that is still open. -/
inductive Before : List Char → Option Char → Option (List Char) → Prop
  | nothing : Before [] none none
  | word {s v} (h : Word s v) : Before s none (some v.reverse)
  | quote {s w q run} (h : Before s none w) (hq : q = '"' ∨ q = '\'') (hr : q ∉ run) :
      Before (s ++ q :: run) (some q) (some (run.reverse ++ w.getD []))

theorem isQuote_iff (c : Char) : isQuote c = true ↔ c = '"' ∨ c = '\'' := by
  simp [isQuote]

namespace Before

variable {s : List Char} {w : Option (List Char)}

theorem piece (h : Before s none w) {t v : List Char} (ht : Piece t v) :
    Before (s ++ t) none (some (v.reverse ++ w.getD [])) := by
  cases h with
  | nothing => simpa using Before.word (.one ht)
  | word h => simpa using Before.word (.more h ht)

theorem closed {q : Char} (h : Before s (some q) w) : Before (s ++ [q]) none w := by
  cases h with
  | @quote s _ _ run h hq hr => simpa using h.piece (.quoted hq hr)

theorem inside {q c : Char} (h : Before s (some q) w) (hc : c ≠ q) :
    Before (s ++ [c]) (some q) (some (c :: w.getD [])) := by
  cases h with
  | @quote s w _ run h hq hr =>
    have hr' : q ∉ run ++ [c] := by simp [hr, Ne.symm hc]
    simpa using Before.quote h hq hr'

theorem opened {c : Char} (h : Before s none w) (hc : isQuote c = true) :
    Before (s ++ [c]) (some c) (some (w.getD [])) := by
  simpa using Before.quote h ((isQuote_iff c).1 hc) List.not_mem_nil

theorem bare {c : Char} (h : Before s none w) (hb : isBlank c = false) (hq : isQuote c = false) :
    Before (s ++ [c]) none (some (c :: w.getD [])) := by
  obtain ⟨double, single⟩ := not_or.1 (mt (isQuote_iff c).2 (Bool.eq_false_iff.1 hq))
  simpa using h.piece (.bare hb double single)

theorem reading_end (h : Before s none w) : Reading s (w.map List.reverse).toList := by
  cases h with
  | nothing => exact .blanks nofun
  | word h => simpa using Reading.last h

theorem reading_blank (h : Before s none w) {c : Char} (hc : isBlank c = true) {r : List Char}
    {ws : List (List Char)} (hr : Reading r ws) :
    Reading (s ++ c :: r) ((w.map List.reverse).toList ++ ws) := by
  cases h with
  | nothing => exact hr.cons_blank hc
  | word h => simpa using hr.word_blank h hc

end Before

theorem reading_of_wordsFrom {s r : List Char} {q : Option Char} {w : Option (List Char)}
    {ws : List (List Char)} (h : Before s q w) (hw : wordsFrom q w r = some ws) :
    Reading (s ++ r) ws := by
  fun_induction wordsFrom q w r generalizing s ws with
  | case1 q w => cases hw
  | case2 w =>
    cases hw
    simpa using h.reading_end
  | case3 q w r ih => simpa using ih h.closed hw
  | case4 q w c r hc ih => simpa using ih (h.inside hc) hw
  | case5 w c r hq ih => simpa using ih (h.opened hq) hw
  | case6 w c r hq hb ih =>
    obtain ⟨rest, hr, rfl⟩ := Option.map_eq_some_iff.1 hw
    exact h.reading_blank hb (ih .nothing hr)
  | case7 w c r hq hb ih =>
    simpa using ih (h.bare (Bool.eq_false_iff.2 hb) (Bool.eq_false_iff.2 hq)) hw

theorem not_isQuote_of_isBlank {c : Char} (h : isBlank c = true) : isQuote c = false := by
  cases hq : isQuote c with
  | false => rfl
  | true => obtain rfl | rfl := (isQuote_iff c).1 hq <;> exact absurd h (by decide)

theorem wordsFrom_run {q : Char} {run : List Char} (h : q ∉ run) (v r : List Char) :
    wordsFrom (some q) (some v) (run ++ q :: r) = wordsFrom none (some (run.reverse ++ v)) r := by
  induction run generalizing v with
  | nil => simp [wordsFrom]
  | cons c run ih =>
    obtain ⟨hc, hr⟩ := List.ne_and_not_mem_of_not_mem_cons h
    simpa [wordsFrom, hc.symm] using ih hr (c :: v)

theorem wordsFrom_piece {t v : List Char} (h : Piece t v) (w : Option (List Char)) (r : List Char) :
    wordsFrom none w (t ++ r) = wordsFrom none (some (v.reverse ++ w.getD [])) r := by
  cases h with
  | @bare c notBlank double single =>
    have hq : isQuote c = false := Bool.eq_false_iff.2 (by simp [isQuote_iff, double, single])
    simp [wordsFrom, hq, notBlank]
  | @quoted q run hq hr =>
    simpa [wordsFrom, (isQuote_iff q).2 hq] using wordsFrom_run hr (w.getD []) r

theorem wordsFrom_word {s v : List Char} (h : Word s v) (r : List Char) :
    wordsFrom none none (s ++ r) = wordsFrom none (some v.reverse) r := by
  induction h generalizing r with
  | one h => simpa using wordsFrom_piece h none r
  | more h last ih => simpa using (ih _).trans (wordsFrom_piece last (some _) r)

theorem wordsFrom_blanks_append {front : List Char} (h : Blanks front) (r : List Char) :
    wordsFrom none none (front ++ r) = wordsFrom none none r := by
  induction front with
  | nil => rfl
  | cons c front ih =>
    obtain ⟨hc, hf⟩ := List.forall_mem_cons.1 h
    simp [wordsFrom, not_isQuote_of_isBlank hc, hc, ih hf]

theorem wordsFrom_blanks {s : List Char} (h : Blanks s) : wordsFrom none none s = some [] := by
  simpa [wordsFrom] using wordsFrom_blanks_append h []

theorem wordsFrom_word_blanks {s v gap : List Char} (h : Word s v) (blanks : Blanks gap)
    (some : gap ≠ []) (r : List Char) :
    wordsFrom none none (s ++ gap ++ r) = (wordsFrom none none r).map (v :: ·) := by
  obtain ⟨c, gap, rfl⟩ := List.exists_cons_of_ne_nil some
  obtain ⟨hc, hg⟩ := List.forall_mem_cons.1 blanks
  rw [List.append_assoc, wordsFrom_word h]
  simp [wordsFrom, not_isQuote_of_isBlank hc, hc, wordsFrom_blanks_append hg]

theorem wordsFrom_word_end {s v back : List Char} (h : Word s v) (blanks : Blanks back) :
    wordsFrom none none (s ++ back) = some [v] := by
  by_cases hb : back = []
  · rw [hb, wordsFrom_word h]
    simp [wordsFrom]
  · simpa [wordsFrom] using wordsFrom_word_blanks h blanks hb []

theorem wordsFrom_separated {s back : List Char} {ws : List (List Char)} (h : Separated s ws)
    (hb : Blanks back) : wordsFrom none none (s ++ back) = some ws := by
  induction h with
  | nil => simpa using wordsFrom_blanks hb
  | last h => exact wordsFrom_word_end h hb
  | more h blanks some rest ih =>
    rw [List.append_assoc, wordsFrom_word_blanks h blanks some, ih, Option.map_some]

theorem wordsFrom_eq_some_iff {s : List Char} {ws : List (List Char)} :
    wordsFrom none none s = some ws ↔ Reading s ws := by
  constructor
  · exact reading_of_wordsFrom (s := []) .nothing
  · rintro ⟨hf, h, hb⟩
    rw [List.append_assoc, wordsFrom_blanks_append hf, wordsFrom_separated h hb]

theorem Reading.unique {s : List Char} {ws ws' : List (List Char)} (h : Reading s ws)
    (h' : Reading s ws') : ws = ws' :=
  Option.some.inj ((wordsFrom_eq_some_iff.2 h).symm.trans (wordsFrom_eq_some_iff.2 h'))

def written (v : List Char) : List Char :=
  '"' :: '"' :: v.flatMap fun c => if c = '"' then ['\'', c, '\''] else ['"', c, '"']

def writtenLine (ws : List (List Char)) : List Char := List.intercalate [' '] (ws.map written)

theorem word_written (v : List Char) : Word (written v) v := by
  induction v using List.reverseRecOn with
  | nil => exact .one (.quoted (.inl rfl) (List.not_mem_nil))
  | append_singleton v c ih =>
    have piece : Piece (if c = '"' then ['\'', c, '\''] else ['"', c, '"']) [c] := by
      split
      · next hc =>
        have apart : '\'' ∉ [c] := by simp [hc]
        exact .quoted (.inr rfl) apart
      · next hc =>
        have apart : '"' ∉ [c] := by simpa [eq_comm] using hc
        exact .quoted (.inl rfl) apart
    simpa [written] using ih.more piece

theorem separated_writtenLine (ws : List (List Char)) : Separated (writtenLine ws) ws := by
  induction ws with
  | nil => exact .nil
  | cons v ws ih =>
    cases ws with
    | nil => simpa [writtenLine] using Separated.last (word_written v)
    | cons w ws =>
      have gap : Blanks [' '] := by simp [Blanks]; decide
      simpa [writtenLine, List.intercalate] using Separated.more (word_written v) gap (by simp) ih

theorem words?_eq_some_iff {line : String} {ts : List String} :
    words? line = some ts ↔ Reading line.toList (ts.map String.toList) := by
  rw [← wordsFrom_eq_some_iff, words?, Option.map_eq_some_iff]
  constructor
  · rintro ⟨ws, h, rfl⟩
    simpa [Function.comp_def] using h
  · intro h
    exact ⟨_, h, by simp [Function.comp_def]⟩

theorem words?_eq_none_iff {line : String} :
    words? line = none ↔ ¬ ∃ ws, Reading line.toList ws := by
  rw [words?, Option.map_eq_none_iff]
  simp only [Option.eq_none_iff_forall_ne_some, ne_eq, wordsFrom_eq_some_iff, not_exists]

theorem parseLine_openQuote_iff {line : String} :
    parseLine line = .error .openQuote ↔ words? line = none := by
  unfold parseLine
  split
  · next h => simp [h]
  · next h => simp [h]
  · next words _ h =>
    cases parseShellWords words <;> simp [h, Except.mapError, Except.map]

/-- A line has the words that it reads as, and it reads as nothing else; where it reads as nothing,
the complaint is that a quote is open. Every list of texts is what some line has as its words. -/
theorem words_of_reading :
    (∀ line : String,
      (∀ ts, words? line = some ts ↔ Reading line.toList (ts.map String.toList)) ∧
      {ws | Reading line.toList ws}.Subsingleton ∧
      (words? line = none ↔ ¬ ∃ ws, Reading line.toList ws) ∧
      (parseLine line = .error .openQuote ↔ ¬ ∃ ws, Reading line.toList ws)) ∧
    (Refusal.line .openQuote).message = "unterminated quote" ∧
    ∀ ts : List String, ∃ line, words? line = some ts := by
  refine ⟨fun line => ⟨fun ts => words?_eq_some_iff, ?_, words?_eq_none_iff, ?_⟩, rfl, ?_⟩
  · intro ws h ws' h'
    exact h.unique h'
  · rw [parseLine_openQuote_iff, words?_eq_none_iff]
  · intro ts
    refine ⟨.ofList (writtenLine (ts.map String.toList)), words?_eq_some_iff.2 ?_⟩
    simpa using Reading.mk blanks_nil (separated_writtenLine _) blanks_nil

end DownloadClient.Command
