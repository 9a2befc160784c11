import Covenant.Proofs.Script.Headers

/-!
# Full names that can be read in two ways

The full name of a contract does not say where the number of its ecosystem ends. Two contracts have one
full name exactly if one number goes on where the other one ends, with digits that the name begins with
there. So a full name is that of one contract only if nothing can be moved over: the number has a
single digit, and the name, unless a single character is all of it, begins with none.
-/

namespace Covenant

namespace Text

/-- Behind a number other than zero, a digit makes a longer number. -/
theorem toDigits_ten_mul_add {n d : Nat} (hn : 0 < n) (hd : d < 10) :
    Nat.toDigits 10 (10 * n + d) = Nat.toDigits 10 n ++ [d.digitChar] := by
  rw [← Nat.toDigits_append_toDigits (by decide) hn hd, Nat.toDigits_of_lt_base hd]

/-- A digit stands for a number below ten. -/
theorem exists_digitChar {c : Char} (h : c.isDigit = true) : ∃ d < 10, c = d.digitChar := by
  obtain ⟨hfirst, hlast⟩ := Bool.and_eq_true_iff.mp h
  have hfirst : 48 ≤ c.toNat := UInt32.le_iff_toNat_le.mp (of_decide_eq_true hfirst)
  have hlast : c.toNat ≤ 57 := UInt32.le_iff_toNat_le.mp (of_decide_eq_true hlast)
  refine ⟨c.toNat - 48, by omega, Char.toNat_inj.mp ?_⟩
  rw [Nat.toNat_digitChar_of_lt_ten (by omega)]
  omega

/-- A number below ten has one digit. -/
theorem length_toDigits_of_lt {n : Nat} (h : n < 10) : (Nat.toDigits 10 n).length = 1 := by
  rw [Nat.toDigits_of_lt_base h]
  rfl

end Text

namespace ContractName

open Script (IsName beginsWithDigit)

variable {ecosystem other : Int} {name another : String}

/-- The second number is the first one with digits behind it, and these stand in front of the second
name in the first. -/
def RunsInto (ecosystem : Int) (name : String) (other : Int) (another : String) : Prop :=
  ∃ digits, (toString other).toList = (toString ecosystem).toList ++ digits ∧
    name.toList = digits ++ another.toList

/-- The names in their ecosystems can be told apart only by where the number ends, if at all. -/
def Overlap (ecosystem : Int) (name : String) (other : Int) (another : String) : Prop :=
  RunsInto ecosystem name other another ∨ RunsInto other another ecosystem name

/-- Bare names have one full name if they overlap. -/
theorem qualify_eq_iff (hname : name.toList.head? ≠ some '@')
    (hanother : another.toList.head? ≠ some '@') :
    qualify ecosystem name = qualify other another ↔ Overlap ecosystem name other another := by
  rw [← String.toList_inj, qualify_of_bare hname, qualify_of_bare hanother, List.cons.injEq,
    and_iff_right rfl, List.append_eq_append_iff]
  rfl

/-- A name in a header has no `@` in front, and the full name of a contract has. -/
theorem not_isName_qualify (h : IsName name) : ¬IsName (qualify ecosystem name) := by
  intro hfull
  refine hfull.bare ?_
  rw [qualify_of_bare h.bare]
  rfl

/-- There is no digit that the number and the name could share. -/
def IsUnmistakable (ecosystem : Int) (name : String) : Prop :=
  ecosystem < 10 ∧ (ecosystem ≤ 0 ∨ beginsWithDigit name = false ∨ name.length = 1)

instance (ecosystem : Int) (name : String) : Decidable (IsUnmistakable ecosystem name) :=
  inferInstanceAs (Decidable (_ ∧ _))

/-- If no digit is shared, the names are the same. -/
private theorem eq_of_toString_append_nil
    (hnumber : (toString other).toList = (toString ecosystem).toList ++ [])
    (hname : name.toList = [] ++ another.toList) : other = ecosystem ∧ another = name := by
  rw [List.append_nil] at hnumber
  exact ⟨Text.toString_int_inj (String.toList_inj.mp hnumber), (String.toList_inj.mp hname).symm⟩

/-- A number of one digit is not longer than another. -/
theorem RunsInto.eq_of_lt_ten {m n : Nat} (hn : n < 10) (h : RunsInto m another n name) :
    (m : Int) = n ∧ another = name := by
  obtain ⟨digits, hnumber, hname⟩ := h
  cases digits with
  | nil =>
    obtain ⟨hsame, heq⟩ := eq_of_toString_append_nil hnumber hname
    exact ⟨hsame.symm, heq.symm⟩
  | cons d digits =>
    have hlength := congrArg List.length hnumber
    rw [Text.toList_toString_nat, Text.toList_toString_nat, Text.length_toDigits_of_lt hn,
      List.length_append, List.length_cons] at hlength
    have hsome : 0 < (Nat.toDigits 10 m).length := Nat.length_toDigits_pos
    omega

/-- If the number can go on, it is not zero, and the name goes on behind the digit in front of it. -/
theorem RunsInto.eq_or_shared {m n : Nat} (hanother : another ≠ "")
    (h : RunsInto n name m another) :
    (m : Int) = n ∧ another = name ∨ n ≠ 0 ∧ beginsWithDigit name = true ∧ name.length ≠ 1 := by
  obtain ⟨digits, hnumber, hname⟩ := h
  cases digits with
  | nil => exact .inl (eq_of_toString_append_nil hnumber hname)
  | cons d digits =>
    rw [Text.toList_toString_nat, Text.toList_toString_nat] at hnumber
    have hdigit : d.isDigit = true :=
      Text.isDigit_of_mem_toDigits (hnumber ▸ List.mem_append_right _ List.mem_cons_self)
    refine .inr ⟨?_, ?_, ?_⟩
    · rintro rfl
      rw [Nat.toDigits_zero] at hnumber
      rcases Nat.eq_zero_or_pos m with rfl | hpos
      · rw [Nat.toDigits_zero] at hnumber
        cases hnumber
      · obtain ⟨c, rest, hdigits, -, hzero⟩ := Text.head_toDigits hpos
        rw [hdigits] at hnumber
        exact hzero (List.cons.inj hnumber).1
    · rw [beginsWithDigit, hname]
      exact hdigit
    · intro hone
      have hlength := congrArg List.length hname
      rw [String.length_toList, hone, List.length_append, List.length_cons] at hlength
      have hnone : another.toList = [] := List.length_eq_zero_iff.mp (by omega)
      exact hanother (String.toList_eq_nil_iff.mp hnone)

/-- A number with a sign does not overlap with one that has none. -/
theorem not_overlap_of_signed {m n : Nat} : ¬Overlap (.negSucc n) name m another := by
  have hsign : ∀ rest digits, Nat.toDigits 10 m ++ digits ≠ '-' :: rest := by
    intro rest digits hboth
    obtain ⟨c, more, hdigits⟩ := List.exists_cons_of_ne_nil (Nat.toDigits_ne_nil (n := m) (b := 10))
    have hdigit : c.isDigit = true :=
      Text.isDigit_of_mem_toDigits (hdigits ▸ List.mem_cons_self)
    rw [hdigits] at hboth
    obtain rfl := (List.cons.inj hboth).1
    revert hdigit
    decide
  rintro (⟨digits, hnumber, -⟩ | ⟨digits, hnumber, -⟩)
  · rw [Text.toList_toString_negSucc, Text.toList_toString_nat] at hnumber
    refine hsign _ [] ((List.append_nil _).trans hnumber)
  · rw [Text.toList_toString_negSucc, Text.toList_toString_nat] at hnumber
    exact hsign _ _ hnumber.symm

/-- The digits of numbers are among the characters of names. -/
theorem isNameChar_digitChar {d : Nat} (h : d < 10) : Script.isNameChar d.digitChar = true := by
  have hdigit : d.digitChar.isDigit = true := by
    rw [Nat.isDigit_digitChar]
    exact decide_eq_true h
  rw [Script.isNameChar, Text.isAlphanumeric_of_isDigit hdigit, Bool.true_or]

/-- A list of such characters is a name if there is one. -/
theorem isName_ofList {c : Char} {rest : List Char}
    (h : (c :: rest).all Script.isNameChar = true) : IsName (String.ofList (c :: rest)) := by
  refine ⟨fun hempty => ?_, by rwa [String.toList_ofList]⟩
  have hlist := congrArg String.toList hempty
  rw [String.toList_ofList] at hlist
  cases hlist

/-- The last digit of a longer number can be taken for a part of the name. -/
theorem exists_qualify_div_ten {n : Nat} (h : 10 ≤ n) (hname : IsName name) :
    ∃ another, IsName another ∧ qualify (n / 10 : Nat) another = qualify n name := by
  have hanother : IsName (String.ofList ((n % 10).digitChar :: name.toList)) := by
    refine isName_ofList ?_
    rw [List.all_cons, hname.2, isNameChar_digitChar (Nat.mod_lt _ (by decide))]
    rfl
  refine ⟨_, hanother, (qualify_eq_iff hanother.bare hname.bare).mpr (.inl ?_)⟩
  refine ⟨[(n % 10).digitChar], ?_, String.toList_ofList⟩
  rw [Text.toList_toString_nat, Text.toList_toString_nat]
  exact Nat.toDigits_of_base_le (by decide) h

/-- The digit in front of a name can be taken for a part of the number. -/
theorem exists_qualify_ten_mul_add {n : Nat} (hn : 0 < n) (hname : IsName name)
    (hdigit : beginsWithDigit name = true) (hlength : name.length ≠ 1) :
    ∃ d another, IsName another ∧ qualify (10 * n + d : Nat) another = qualify n name := by
  obtain ⟨c, rest, hlist⟩ := List.exists_cons_of_ne_nil
    (fun hempty => hname.1 (String.toList_eq_nil_iff.mp hempty))
  rw [beginsWithDigit, hlist] at hdigit
  obtain ⟨d, hd, rfl⟩ := Text.exists_digitChar hdigit
  have hall := hname.2
  rw [hlist, List.all_cons, Bool.and_eq_true] at hall
  cases rest with
  | nil =>
    rw [← String.length_toList, hlist] at hlength
    exact absurd rfl hlength
  | cons c rest =>
    have hanother := isName_ofList hall.2
    refine ⟨d, _, hanother, (qualify_eq_iff hanother.bare hname.bare).mpr (.inr ?_)⟩
    refine ⟨[d.digitChar], ?_, by rw [hlist, String.toList_ofList]; rfl⟩
    rw [Text.toList_toString_nat, Text.toList_toString_nat, Text.toDigits_ten_mul_add hn hd]

/-- A full name is that of one contract, with a name that a header can have and in an ecosystem without
a sign, exactly if nothing in it can be moved over. -/
theorem isUnmistakable_iff (hname : IsName name) : IsUnmistakable ecosystem name ↔
    ∀ other another, 0 ≤ other → IsName another →
      qualify other another = qualify ecosystem name → other = ecosystem ∧ another = name := by
  constructor
  · rintro ⟨hshort, hshared⟩ other another hother hanother hsame
    obtain ⟨m, rfl⟩ := Int.eq_ofNat_of_zero_le hother
    have hoverlap := (qualify_eq_iff hname.bare hanother.bare).mp hsame.symm
    cases ecosystem with
    | negSucc n => exact absurd hoverlap not_overlap_of_signed
    | ofNat n =>
      have hlt : n < 10 := Int.ofNat_lt.mp hshort
      rcases hoverlap with hruns | hruns
      · refine (hruns.eq_or_shared hanother.1).resolve_right ?_
        rintro ⟨hzero, hdigit, hlength⟩
        rcases hshared with hnone | hnone | hnone
        · exact hzero (Nat.le_zero.mp (Int.ofNat_le.mp hnone))
        · rw [hdigit] at hnone
          cases hnone
        · exact hlength hnone
      · exact hruns.eq_of_lt_ten hlt
  · intro honly
    cases ecosystem with
    | negSucc n =>
      have hsigned := Int.negSucc_lt_zero n
      exact ⟨Int.lt_trans hsigned (by decide), .inl (Int.le_of_lt hsigned)⟩
    | ofNat n =>
      have hother : ∀ {m : Nat} {another : String}, IsName another →
          qualify m another = qualify n name → (m : Int) = n :=
        fun hanother hsame => (honly _ _ (Int.natCast_nonneg _) hanother hsame).1
      refine ⟨Int.not_le.mp fun hlong => ?_, ?_⟩
      · have hlong : 10 ≤ n := Int.ofNat_le.mp hlong
        obtain ⟨another, hanother, hsame⟩ := exists_qualify_div_ten hlong hname
        have heq := hother hanother hsame
        omega
      · refine Decidable.or_iff_not_imp_left.mpr fun hpos =>
          Decidable.or_iff_not_imp_left.mpr fun hdigit => Decidable.byContradiction fun hlength => ?_
        have hn : 0 < n := Nat.pos_of_ne_zero fun hzero => hpos (hzero ▸ Int.le_refl 0)
        obtain ⟨d, another, hanother, hsame⟩ := exists_qualify_ten_mul_add hn hname
          (Bool.not_eq_false _ ▸ hdigit) hlength
        have heq := hother hanother hsame
        omega

end ContractName

end Covenant
