import Mathlib.Data.List.Basic
import Covenant.Proofs.Text.Words
import Covenant.Text.Alphanumeric

/-!
# Texts that are put together

Texts with a separator between them come apart there again: words at blanks, lines at line feeds, and
pieces at any other separator. Blanks around a text that begins and ends without one are trimmed away.
-/

namespace Covenant.Text

variable {isSeparator : Char → Bool} {separator : Char} {text front back word : List Char}
  {words parts lines : List (List Char)}

/-! ## Blanks around a text -/

/-- No letter or digit is a blank. -/
theorem isBlank_of_isAlphanumeric {c : Char} (h : isAlphanumeric c = true) : isBlank c = false := by
  have hall : ∀ range ∈ blankRanges, ∀ n ∈ List.range' range.1 (range.2 + 1 - range.1),
      isAlphanumeric (Char.ofNat n) = false := by decide +kernel
  rw [Bool.eq_false_iff]
  intro hblank
  obtain ⟨range, hrange, hbounds⟩ := List.any_eq_true.mp hblank
  have hmem : c.toNat ∈ List.range' range.1 (range.2 + 1 - range.1) := by
    rw [List.mem_range'_1]
    have hle : range.1 ≤ c.toNat ∧ c.toNat ≤ range.2 := by simpa using hbounds
    omega
  have hnone := hall range hrange c.toNat hmem
  rw [Char.ofNat_toNat, h] at hnone
  cases hnone

/-- The text neither begins nor ends with a blank. -/
structure IsTrimmed (text : List Char) : Prop where
  head : ∀ c ∈ text.head?, isBlank c = false
  last : ∀ c ∈ text.getLast?, isBlank c = false

instance (text : List Char) : Decidable (IsTrimmed text) :=
  have : ∀ c? : Option Char, Decidable (∀ c ∈ c?, isBlank c = false) :=
    Option.decidableForallMem
  decidable_of_iff _ ⟨fun h => ⟨h.1, h.2⟩, fun h => And.intro h.head h.last⟩

theorem isTrimmed_of_solid (h : Solid word) : IsTrimmed word where
  head c hc := h c (List.mem_of_mem_head? hc)
  last c hc := h c (List.mem_of_mem_getLast? hc)

/-- What begins with a trimmed text and ends with one is trimmed. -/
theorem IsTrimmed.append {middle : List Char} (hfront : IsTrimmed front) (hback : IsTrimmed back)
    (hfrontne : front ≠ []) (hbackne : back ≠ []) : IsTrimmed (front ++ (middle ++ back)) where
  head := by
    rw [List.head?_append_of_ne_nil _ hfrontne]
    exact hfront.head
  last := by
    rw [← List.append_assoc, List.getLast?_append_of_ne_nil _ hbackne]
    exact hback.last

theorem dropWhile_append_of_head {p : Char → Bool} (hne : text ≠ [])
    (h : ∀ c ∈ text.head?, p c = false) : (text ++ back).dropWhile p = text ++ back := by
  obtain ⟨c, rest, rfl⟩ := List.exists_cons_of_ne_nil hne
  rw [List.cons_append, List.dropWhile_cons_of_neg (by simp [h c rfl])]

/-- Blanks around a trimmed text are trimmed away. -/
theorem trim_pad (h : IsTrimmed text) (hfront : ∀ c ∈ front, isBlank c = true)
    (hback : ∀ c ∈ back, isBlank c = true) : trim (front ++ (text ++ back)) = text := by
  rw [trim, trimStart, List.dropWhile_append_of_pos hfront]
  by_cases hne : text = []
  · subst hne
    rw [List.nil_append, List.dropWhile_eq_nil_iff.mpr hback]
    rfl
  · have hback' : ∀ c ∈ back.reverse, isBlank c = true :=
      fun c hc => hback c (List.mem_reverse.mp hc)
    have hlast : ∀ c ∈ text.reverse.head?, isBlank c = false := by
      rw [List.head?_reverse]
      exact h.last
    have hstop : (text.reverse ++ []).dropWhile isBlank = text.reverse ++ [] :=
      dropWhile_append_of_head (mt List.reverse_eq_nil_iff.mp hne) hlast
    rw [List.append_nil] at hstop
    rw [dropWhile_append_of_head hne h.head, trimEnd, List.reverse_append,
      List.dropWhile_append_of_pos hback', hstop, List.reverse_reverse]

theorem trim_of_isTrimmed (h : IsTrimmed text) : trim text = text := by
  have hpad := trim_pad h (List.forall_mem_nil _) (List.forall_mem_nil _)
  rwa [List.nil_append, List.append_nil] at hpad

theorem trimEnd_concat {c : Char} (hc : isBlank c = true) (text : List Char) :
    trimEnd (text ++ [c]) = trimEnd text := by
  rw [trimEnd, List.reverse_append, List.reverse_singleton, List.singleton_append,
    List.dropWhile_cons_of_pos hc, trimEnd]

/-- A blank at the end is trimmed away. -/
theorem trim_concat {c : Char} (hc : isBlank c = true) (text : List Char) :
    trim (text ++ [c]) = trim text := by
  rw [trim, trimStart, List.dropWhile_append]
  split
  next hnone =>
    have hall : text.dropWhile isBlank = [] := by simpa using hnone
    rw [trim, trimStart, hall, List.dropWhile_cons_of_pos hc]
    rfl
  next => exact trimEnd_concat hc _

/-! ## Pieces -/

/-- Pieces with a separator between them come apart there. -/
theorem pieces_intercalate (hseparator : isSeparator separator = true) (hne : parts ≠ [])
    (h : ∀ part ∈ parts, ∀ c ∈ part, isSeparator c = false) :
    pieces isSeparator ([separator].intercalate parts) = parts := by
  induction parts with
  | nil => exact absurd rfl hne
  | cons part rest ih =>
    obtain ⟨hpart, hrest⟩ := List.forall_mem_cons.mp h
    cases rest with
    | nil => rw [List.intercalate_singleton, pieces_of_forall hpart]
    | cons next rest =>
      rw [List.intercalate_cons_cons, List.append_assoc, List.singleton_append,
        pieces_append hseparator, pieces_of_forall hpart, ih (List.cons_ne_nil _ _) hrest,
        List.singleton_append]

/-! ## Words -/

/-- The words with a space between any two of them. -/
def joinWords (words : List (List Char)) : List Char :=
  [' '].intercalate words

theorem joinWords_cons (word : List Char) (hne : words ≠ []) :
    joinWords (word :: words) = word ++ ' ' :: joinWords words := by
  obtain ⟨next, rest, rfl⟩ := List.exists_cons_of_ne_nil hne
  rw [joinWords, List.intercalate_cons_cons, List.append_assoc, List.singleton_append]
  rfl

/-- Words without blanks in them are the words of the text that they are joined to. -/
theorem words_joinWords (h : ∀ word ∈ words, word ≠ [] ∧ Solid word) :
    Text.words (joinWords words) = words := by
  induction words with
  | nil => rfl
  | cons word rest ih =>
    obtain ⟨⟨hne, hword⟩, hrest⟩ := List.forall_mem_cons.mp h
    by_cases hnone : rest = []
    · rw [hnone, joinWords, List.intercalate_singleton, words_of_solid hne hword]
    · rw [joinWords_cons word hnone, words_append (by decide), words_of_solid hne hword, ih hrest,
        List.singleton_append]

theorem joinWords_ne_nil (hne : words ≠ []) (h : ∀ word ∈ words, word ≠ []) :
    joinWords words ≠ [] := by
  obtain ⟨word, rest, rfl⟩ := List.exists_cons_of_ne_nil hne
  have hword := h word List.mem_cons_self
  by_cases hnone : rest = []
  · rw [hnone, joinWords, List.intercalate_singleton]
    exact hword
  · rw [joinWords_cons word hnone]
    simp

theorem isTrimmed_joinWords (h : ∀ word ∈ words, word ≠ [] ∧ IsTrimmed word) :
    IsTrimmed (joinWords words) := by
  induction words with
  | nil => exact ⟨nofun, nofun⟩
  | cons word rest ih =>
    obtain ⟨⟨hne, hword⟩, hrest⟩ := List.forall_mem_cons.mp h
    by_cases hnone : rest = []
    · rwa [hnone, joinWords, List.intercalate_singleton]
    · rw [joinWords_cons word hnone]
      have hjoined : IsTrimmed (word ++ ([' '] ++ joinWords rest)) :=
        hword.append (ih hrest) hne
          (joinWords_ne_nil hnone fun word hword => (hrest word hword).1)
      exact hjoined

/-! ## Lines -/

/-- Lines with line feeds between them come apart there; the last one counts only if it is not empty. -/
theorem lines_intercalate (h : ∀ line ∈ lines, '\n' ∉ line) :
    Text.lines (['\n'].intercalate lines) = linesOfPieces lines := by
  by_cases hne : lines = []
  · rw [hne]
    rfl
  · rw [Text.lines, pieces_intercalate (by decide) hne]
    intro line hline c hc
    rw [beq_eq_false_iff_ne]
    rintro rfl
    exact h line hline hc

end Covenant.Text
