import Covenant.Text.Alphanumeric
import Covenant.Text.Numeral

/-!
# Numerals are read back

The decimal numeral of an integer, as it is written, stands for that integer. So different integers
have different numerals.
-/

namespace Covenant.Text

/-- The digits of a number stand for it. -/
theorem valueOfDigits_toDigits (n : Nat) : valueOfDigits (Nat.toDigits 10 n) = n := by
  have hstep : (fun (m : Nat) c => m * 10 + digitValue c) =
      fun m c => 10 * m + (c.toNat - '0'.toNat) := by
    funext m c
    rw [Nat.mul_comm]
    rfl
  rw [valueOfDigits, hstep, ← Nat.ofDigitChars_eq_foldl, Nat.ofDigitChars_ten_toDigits]

theorem isDigit_of_mem_toDigits {n : Nat} {c : Char} (h : c ∈ Nat.toDigits 10 n) :
    c.isDigit = true :=
  Nat.isDigit_of_mem_toDigits (by decide) (by decide) h

/-- The digits of a number other than zero do not begin with a zero. -/
theorem head_toDigits {n : Nat} (h : 0 < n) :
    ∃ c digits, Nat.toDigits 10 n = c :: digits ∧ c.isDigit = true ∧ c ≠ '0' := by
  induction n using Nat.strongRecOn with
  | ind n ih =>
    rcases Nat.lt_or_ge n 10 with hlt | hge
    · have hdigit : ∀ n < 10, 0 < n → n.digitChar.isDigit = true ∧ n.digitChar ≠ '0' := by decide
      exact ⟨n.digitChar, [], Nat.toDigits_of_lt_base hlt, hdigit n hlt h⟩
    · obtain ⟨c, digits, hdigits, hc⟩ := ih (n / 10) (by omega) (by omega)
      refine ⟨c, digits ++ [(n % 10).digitChar], ?_, hc⟩
      rw [Nat.toDigits_of_base_le (by decide) hge, hdigits, List.cons_append]

/-- Digits are among the characters of words. -/
theorem isAlphanumeric_of_isDigit {c : Char} (h : c.isDigit = true) : isAlphanumeric c = true := by
  have hbounds : '0'.val ≤ c.val ∧ c.val ≤ '9'.val := by simpa [Char.isDigit] using h
  have hascii : c.toNat < 0x80 := Nat.lt_of_le_of_lt hbounds.2 (by decide)
  simp [isAlphanumeric, hascii, Char.isAlphanum, h]

theorem readDigits?_toDigits (n : Nat) : readDigits? (Nat.toDigits 10 n) = some n := by
  have hdigits : (!(Nat.toDigits 10 n).isEmpty && (Nat.toDigits 10 n).all Char.isDigit) = true := by
    simpa using fun c hc => isDigit_of_mem_toDigits hc
  rw [readDigits?, if_pos hdigits, valueOfDigits_toDigits]

/-- The numeral of a natural number consists of its digits. -/
theorem toList_toString_nat (n : Nat) : (toString (n : Int)).toList = Nat.toDigits 10 n := by
  rw [← Nat.toList_repr]
  rfl

/-- The numeral of a negative number has a sign. -/
theorem toList_toString_negSucc (n : Nat) :
    (toString (Int.negSucc n)).toList = '-' :: Nat.toDigits 10 (n + 1) := by
  have hsign : toString (Int.negSucc n) = "-" ++ Nat.repr (n + 1) := rfl
  rw [hsign, String.toList_append, Nat.toList_repr]
  rfl

/-- Digits do not begin with a sign. -/
theorem readSigned?_of_digits {digits : List Char} (h : ∀ c ∈ digits, c.isDigit = true) :
    readSigned? digits = (readDigits? digits).map Int.ofNat := by
  unfold readSigned?
  split
  next => exact absurd (h '-' List.mem_cons_self) (by decide)
  next => exact absurd (h '+' List.mem_cons_self) (by decide)
  next => rfl

/-- The numeral of an integer stands for it. -/
theorem readSigned?_toString (n : Int) : readSigned? (toString n).toList = some n := by
  cases n with
  | ofNat n =>
    change readSigned? (toString (n : Int)).toList = _
    rw [toList_toString_nat, readSigned?_of_digits fun c hc => isDigit_of_mem_toDigits hc,
      readDigits?_toDigits]
    rfl
  | negSucc n =>
    rw [toList_toString_negSucc, readSigned?, readDigits?_toDigits]
    rfl

/-- The numeral of a quantity stands for it. -/
theorem readQuantity?_toString {n : Int} (h : Quantity.InRange n) :
    readQuantity? (toString n).toList = some n := by
  rw [readQuantity?, readSigned?_toString, Option.filter_some, if_pos (decide_eq_true h)]

theorem inRange_of_readQuantity? {text : List Char} {n : Int} (h : readQuantity? text = some n) :
    Quantity.InRange n := by
  have hrange := (Option.filter_eq_some_iff.mp h).2
  exact of_decide_eq_true hrange

/-- The digits of a number of 64 bits stand for it. -/
theorem readUnsigned?_toString {n : Nat} (h : n < 18446744073709551616) :
    readUnsigned? (toString n).toList = some n := by
  have hdigits : (toString n).toList = Nat.toDigits 10 n := Nat.toList_repr
  unfold readUnsigned?
  rw [hdigits]
  dsimp only
  split
  next rest hplus =>
    have hsign := isDigit_of_mem_toDigits (n := n) (c := '+') (hplus ▸ List.mem_cons_self)
    exact absurd hsign (by decide)
  next => rw [readDigits?_toDigits, Option.filter_some, if_pos (decide_eq_true h)]

/-- Different integers have different numerals. -/
theorem toString_int_inj {m n : Int} (h : toString m = toString n) : m = n := by
  have hread := readSigned?_toString m
  rw [h, readSigned?_toString] at hread
  exact (Option.some.inj hread).symm

end Covenant.Text
