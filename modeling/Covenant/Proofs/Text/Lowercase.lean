import Covenant.Text.Lowercase

/-!
# Lowercasing twice

Lowercase text has nothing left to lowercase: the small letter of a capital is no capital, so every
character that the mapping gives is one that it leaves alone. That is a fact about the table of
capitals, which is checked run against run.
-/

namespace Covenant.Text

/-! ## The table of capitals -/

/-- The code point of the small letter of a capital in a run. -/
def CapitalRun.small (run : CapitalRun) (n : Nat) : Nat :=
  (n + run.offset).toNat

/-- The small letters of a run all lie outside another run: on one side of it, or between its
capitals where those alternate with small letters. -/
def CapitalRun.landsBeside (run other : CapitalRun) : Bool :=
  Nat.blt (run.small run.last) other.first || Nat.blt other.last (run.small run.first) ||
    (other.stride == 2 && (run.stride == 2 || run.first == run.last) &&
      (run.small run.first + other.first) % 2 == 1)

/-- The small letters of a run are characters, and the dotted capital is none of them. -/
def CapitalRun.landsOnLetters (run : CapitalRun) : Bool :=
  0 ≤ run.first + run.offset &&
    (run.small run.last < 0x130 ||
      (0x130 < run.small run.first && run.small run.last < 0xD800) ||
      (0xDFFF < run.small run.first && run.small run.last < 0x110000))

theorem capitalRuns_landBeside :
    (capitalRuns.all fun run => capitalRuns.all run.landsBeside) = true := by
  decide +kernel

theorem capitalRuns_landOnLetters : capitalRuns.all CapitalRun.landsOnLetters = true := by
  decide +kernel

variable {run other : CapitalRun} {n : Nat}

theorem CapitalRun.contains_iff :
    run.contains n = true ↔
      run.first ≤ n ∧ n ≤ run.last ∧ (n - run.first) % run.stride = 0 := by
  simp [contains, and_assoc]

/-- A run that lands beside another has none of its small letters there. -/
theorem CapitalRun.contains_small (hletters : run.landsOnLetters = true)
    (hbeside : run.landsBeside other = true) (hn : run.contains n = true) :
    other.contains (run.small n) = false := by
  obtain ⟨hfirst, hlast, hstride⟩ := contains_iff.mp hn
  have hstart : 0 ≤ run.first + run.offset := by
    simp only [landsOnLetters, Bool.and_eq_true, decide_eq_true_eq] at hletters
    exact hletters.1
  rw [Bool.eq_false_iff]
  intro hother
  obtain ⟨hfirst', hlast', hstride'⟩ := contains_iff.mp hother
  simp only [landsBeside, Bool.or_eq_true, Bool.and_eq_true, Nat.blt_eq, beq_iff_eq] at hbeside
  unfold small at hbeside hfirst' hlast' hstride'
  rcases hbeside with (hbelow | habove) | ⟨⟨hother2, hrun⟩, hodd⟩
  · omega
  · omega
  · rw [hother2] at hstride'
    rcases hrun with hrun2 | hsingle
    · rw [hrun2] at hstride
      omega
    · omega

/-- A small letter is a character, and not the dotted capital. -/
theorem CapitalRun.toNat_ofNat_small (hletters : run.landsOnLetters = true)
    (hn : run.contains n = true) :
    (Char.ofNat (run.small n)).toNat = run.small n ∧ run.small n ≠ 0x130 := by
  obtain ⟨hfirst, hlast, -⟩ := contains_iff.mp hn
  simp only [landsOnLetters, Bool.or_eq_true, Bool.and_eq_true, decide_eq_true_eq] at hletters
  unfold small at hletters ⊢
  have hvalid : (n + run.offset).toNat.isValidChar := by
    unfold Nat.isValidChar
    omega
  constructor
  · rw [Char.ofNat, dif_pos hvalid]
    rfl
  · omega

/-! ## Small letters -/

/-- Lowercasing leaves the character alone, wherever it stands. -/
structure IsSmall (c : Char) : Prop where
  notDotted : c ≠ 'İ'
  same : smallLetter c = c

instance (c : Char) : Decidable (IsSmall c) :=
  decidable_of_iff (c ≠ 'İ' ∧ smallLetter c = c) ⟨fun h => ⟨h.1, h.2⟩, fun h => ⟨h.1, h.2⟩⟩

theorem IsSmall.notSigma {c : Char} (h : IsSmall c) : c ≠ 'Σ' := by
  rintro rfl
  revert h
  decide +kernel

/-- The small letter of a character is small. -/
theorem isSmall_smallLetter {c : Char} (hc : c ≠ 'İ') : IsSmall (smallLetter c) := by
  cases hfind : capitalRuns.find? (·.contains c.toNat) with
  | none =>
    have hsame : smallLetter c = c := by simp only [smallLetter, hfind]
    rw [hsame]
    exact ⟨hc, hsame⟩
  | some run =>
    have hmem := List.mem_of_find?_eq_some hfind
    have hcontains : run.contains c.toNat = true := by simpa using List.find?_some hfind
    have hletters := List.all_eq_true.mp capitalRuns_landOnLetters run hmem
    have hbeside := List.all_eq_true.mp (List.all_eq_true.mp capitalRuns_landBeside run hmem)
    obtain ⟨hcode, hdotted⟩ := CapitalRun.toNat_ofNat_small hletters hcontains
    have hsmall : smallLetter c = Char.ofNat (run.small c.toNat) := by
      simp only [smallLetter, hfind, CapitalRun.small]
    rw [← hsmall] at hcode
    constructor
    · intro heq
      rw [heq] at hcode
      exact hdotted hcode.symm
    · have hnone : capitalRuns.find? (·.contains (smallLetter c).toNat) = none := by
        rw [List.find?_eq_none]
        intro other hother
        rw [hcode, CapitalRun.contains_small hletters (hbeside other hother) hcontains]
        exact Bool.false_ne_true
      generalize smallLetter c = small at hnone
      simp only [smallLetter, hnone]

/-! ## Lowercase text -/

/-- Lowercasing gives small characters only. -/
theorem isSmall_of_mem_lowercaseAfter {text before : List Char} {d : Char}
    (h : d ∈ lowercaseAfter before text) : IsSmall d := by
  induction text generalizing before with
  | nil => cases h
  | cons c rest ih =>
    rcases List.mem_append.mp h with hhere | hlater
    · split at hhere
      next =>
        split at hhere
        · obtain rfl := List.mem_singleton.mp hhere
          decide +kernel
        · obtain rfl := List.mem_singleton.mp hhere
          decide +kernel
      next =>
        split at hhere
        next =>
          have hpair : d = 'i' ∨ d = '\u0307' := by simpa using hhere
          rcases hpair with rfl | rfl
          · decide +kernel
          · decide +kernel
        next hdotted =>
          obtain rfl := List.mem_singleton.mp hhere
          exact isSmall_smallLetter (by simpa using hdotted)
    · exact ih hlater

/-- Lowercasing leaves small characters alone. -/
theorem lowercaseAfter_of_small {text : List Char} (before : List Char)
    (h : ∀ c ∈ text, IsSmall c) : lowercaseAfter before text = text := by
  induction text generalizing before with
  | nil => rfl
  | cons c rest ih =>
    have hc : IsSmall c := h c List.mem_cons_self
    have hrest := ih (c :: before) fun d hd => h d (List.mem_cons_of_mem _ hd)
    simp only [lowercaseAfter, beq_iff_eq, hc.notSigma, hc.notDotted, if_false, hc.same, hrest,
      List.singleton_append]

/-- Lowercase text stays as it is. -/
theorem lowercase_lowercase (text : String) : lowercase (lowercase text) = lowercase text := by
  unfold lowercase
  rw [String.toList_ofList, lowercaseAfter_of_small _ fun _ => isSmall_of_mem_lowercaseAfter]

end Covenant.Text
