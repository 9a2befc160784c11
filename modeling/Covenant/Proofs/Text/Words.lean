import Mathlib.Data.List.Induction
import Mathlib.Data.List.TakeWhile
import Covenant.Text.Blank

/-!
# Words between blanks

A blank cuts the words before it off from the words behind it; all that is said here about words comes
from that. A text that does not end with a blank ends with its last word.
-/

namespace Covenant.Text

variable {isSeparator : Char → Bool} {c : Char} {text front rest word : List Char}

/-- The text holds no blank. -/
def Solid (text : List Char) : Prop :=
  ∀ c ∈ text, isBlank c = false

instance (text : List Char) : Decidable (Solid text) :=
  List.decidableBAll (isBlank · = false) text

theorem pieces_ne_nil (isSeparator : Char → Bool) (text : List Char) :
    pieces isSeparator text ≠ [] := by
  cases text with
  | nil => exact List.cons_ne_nil _ _
  | cons c rest =>
    unfold pieces
    split
    · exact List.cons_ne_nil _ _
    · cases pieces isSeparator rest with
      | nil => exact List.cons_ne_nil _ _
      | cons piece more => exact List.cons_ne_nil _ _

/-- A separator cuts pieces off from each other. -/
theorem pieces_append (hc : isSeparator c = true) (front rest : List Char) :
    pieces isSeparator (front ++ c :: rest) = pieces isSeparator front ++ pieces isSeparator rest := by
  induction front with
  | nil => simp [pieces, hc]
  | cons d front ih =>
    rw [List.cons_append, pieces, pieces, ih]
    split
    · rfl
    · obtain ⟨piece, more, hpieces⟩ := List.exists_cons_of_ne_nil (pieces_ne_nil isSeparator front)
      rw [hpieces]
      rfl

/-- A blank cuts words off from each other. -/
theorem words_append (hc : isBlank c = true) (front rest : List Char) :
    words (front ++ c :: rest) = words front ++ words rest := by
  rw [words, pieces_append hc, List.filter_append]
  rfl

/-- A blank at the end belongs to no word. -/
theorem words_concat (hc : isBlank c = true) (front : List Char) :
    words (front ++ [c]) = words front := by
  rw [words_append hc]
  exact List.append_nil _

/-- A text without separators is one piece. -/
theorem pieces_of_forall (h : ∀ c ∈ word, isSeparator c = false) :
    pieces isSeparator word = [word] := by
  induction word with
  | nil => rfl
  | cons c word ih =>
    obtain ⟨hc, hword⟩ := List.forall_mem_cons.mp h
    rw [pieces, hc, if_neg Bool.false_ne_true, ih hword]
    rfl

/-- A text without blanks is one word. -/
theorem words_of_solid (hne : word ≠ []) (h : Solid word) : words word = [word] := by
  rw [words, pieces_of_forall h]
  simp [hne]

/-- The last blank of a text cuts off what is behind it. -/
theorem exists_append_solid (text : List Char) :
    ∃ front word, text = front ++ word ∧ Solid word ∧
      (front = [] ∨ ∃ before c, front = before ++ [c] ∧ isBlank c = true) := by
  induction text using List.reverseRecOn with
  | nil => exact ⟨[], [], rfl, List.forall_mem_nil _, .inl rfl⟩
  | append_singleton text c ih =>
    cases hc : isBlank c with
    | true => exact ⟨text ++ [c], [], (List.append_nil _).symm, List.forall_mem_nil _,
        .inr ⟨text, c, rfl, hc⟩⟩
    | false =>
      obtain ⟨front, word, rfl, hword, hfront⟩ := ih
      refine ⟨front, word ++ [c], List.append_assoc .., fun d hd => ?_, hfront⟩
      rcases List.mem_append.mp hd with hd | hd
      · exact hword d hd
      · rwa [List.mem_singleton.mp hd]

/-- A text that ends with no blank ends with its last word. -/
theorem exists_last_word (text : List Char) (h : ∀ d ∈ text.getLast?, isBlank d = false) (hne : text ≠ []) :
    ∃ front word, text = front ++ word ∧ word ≠ [] ∧ Solid word ∧
      words text = words front ++ [word] := by
  obtain ⟨front, word, rfl, hword, hfront⟩ := exists_append_solid text
  have hsome : word ≠ [] := by
    rintro rfl
    rcases hfront with rfl | ⟨before, c, rfl, hc⟩
    · exact hne rfl
    · have hlast := h c (by simp)
      rw [hc] at hlast
      cases hlast
  refine ⟨front, word, rfl, hsome, hword, ?_⟩
  rcases hfront with rfl | ⟨before, c, rfl, hc⟩
  · exact words_of_solid hsome hword
  · rw [List.append_assoc, List.singleton_append, words_append hc, words_concat hc,
      words_of_solid hsome hword]

/-- A text without words is blank. -/
theorem isBlank_of_words_eq_nil (h : words text = []) : ∀ c ∈ text, isBlank c = true := by
  induction text using List.reverseRecOn with
  | nil => exact List.forall_mem_nil _
  | append_singleton text c ih =>
    cases hc : isBlank c with
    | true =>
      rw [words_concat hc] at h
      intro d hd
      rcases List.mem_append.mp hd with hd | hd
      · exact ih h d hd
      · rwa [List.mem_singleton.mp hd]
    | false =>
      obtain ⟨front, word, -, -, -, hwords⟩ :=
        exists_last_word (text ++ [c]) (by simpa using hc) (by simp)
      rw [h] at hwords
      simp at hwords

/-! ## Trimming -/

theorem trimEnd_of_solid (h : Solid word) : trimEnd word = word := by
  cases hlast : word.reverse with
  | nil =>
    rw [trimEnd, hlast, List.dropWhile_nil]
    exact (List.reverse_eq_nil_iff.mp hlast).symm
  | cons c rest =>
    have hc : isBlank c = false := h c (List.mem_reverse.mp (hlast ▸ List.mem_cons_self))
    rw [trimEnd, hlast, List.dropWhile_cons_of_neg (by simp [hc]), ← hlast, List.reverse_reverse]

theorem trimStart_of_solid (h : Solid word) : trimStart word = word := by
  cases word with
  | nil => rfl
  | cons c rest =>
    have hc : isBlank c = false := h c List.mem_cons_self
    exact List.dropWhile_cons_of_neg (by simp [hc])

/-- Blanks in front of a word are trimmed away. -/
theorem trim_append (hfront : ∀ c ∈ front, isBlank c = true) (h : Solid word) :
    trim (front ++ word) = word := by
  rw [trim, trimStart, List.dropWhile_append_of_pos hfront]
  exact (congrArg trimEnd (trimStart_of_solid h)).trans (trimEnd_of_solid h)

/-- Trimming leaves what stands between a word and a text that is not blank. -/
theorem mem_trim (hne : word ≠ []) (h : Solid word) (hrest : trim rest ≠ []) :
    c ∈ trim (word ++ c :: rest) := by
  obtain ⟨d, word, rfl⟩ := List.exists_cons_of_ne_nil hne
  have hd : isBlank d = false := h d List.mem_cons_self
  have hkept : rest.reverse.dropWhile isBlank ≠ [] := by
    intro hnone
    refine hrest ?_
    have hblank : ∀ e ∈ rest, isBlank e = true := fun e he =>
      List.dropWhile_eq_nil_iff.mp hnone e (List.mem_reverse.mpr he)
    rw [trim, trimStart, List.dropWhile_eq_nil_iff.mpr hblank]
    rfl
  rw [trim, trimStart, List.cons_append, List.dropWhile_cons_of_neg (by simp [hd]), trimEnd,
    ← List.cons_append, List.reverse_append, List.reverse_cons, List.append_assoc,
    List.dropWhile_append, if_neg (by simpa using hkept)]
  simp

end Covenant.Text
