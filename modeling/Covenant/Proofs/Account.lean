import Covenant.Account
import Covenant.Text.Numeral
import Mathlib.Algebra.Ring.Nat

/-!
# Account numbers identify keys

An account number shows the twenty digits of a number of 64 bits, four between two dashes. The digits
give that number back, and the number gives back the key id, so different keys have different accounts.
-/

namespace Covenant

namespace Quantity

theorem toUnsigned_lt (n : Int) : toUnsigned n < 18446744073709551616 := by
  unfold toUnsigned
  omega

/-- A quantity is what its 64 bits stand for. -/
theorem ofUnsigned_toUnsigned {n : Int} (h : InRange n) : ofUnsigned (toUnsigned n) = n := by
  obtain ⟨hleast, hgreatest⟩ : (-9223372036854775808 : Int) ≤ n ∧ n ≤ 9223372036854775807 := h
  have hbits : (toUnsigned n : Int) = n % 18446744073709551616 := by
    unfold toUnsigned
    omega
  unfold ofUnsigned
  rw [Int.bmod_def, hbits]
  split
  · omega
  · omega

end Quantity

namespace Account

open Text

variable {n count : Nat} {chars : List Char} {groups : List (List Char)}

/-! ## Digits -/

/-- The digits with which numerals are written are read as what they stand for. -/
theorem digit_of_lt_ten (h : n < 10) :
    (Char.ofNat ('0'.toNat + n)).isDigit = true ∧ digitValue (Char.ofNat ('0'.toNat + n)) = n := by
  have hall : ∀ n < 10, (Char.ofNat ('0'.toNat + n)).isDigit = true ∧
      digitValue (Char.ofNat ('0'.toNat + n)) = n := by decide
  exact hall n h

@[simp]
theorem length_lastDigits (count n : Nat) : (lastDigits count n).length = count := by
  induction count generalizing n with
  | zero => rfl
  | succ count ih => rw [lastDigits, List.length_append, ih, List.length_singleton]

theorem isDigit_of_mem_lastDigits {c : Char} (h : c ∈ lastDigits count n) : c.isDigit = true := by
  induction count generalizing n with
  | zero => cases h
  | succ count ih =>
    rcases List.mem_append.mp h with hmem | hlast
    · exact ih hmem
    · rw [List.mem_singleton.mp hlast]
      exact (digit_of_lt_ten (Nat.mod_lt n (by decide))).1

/-- The last digits of a number stand for its remainder. -/
theorem valueOfDigits_lastDigits (count n : Nat) :
    valueOfDigits (lastDigits count n) = n % 10 ^ count := by
  induction count generalizing n with
  | zero => rw [Nat.pow_zero, Nat.mod_one, lastDigits, valueOfDigits, List.foldl_nil]
  | succ count ih =>
    have hfront : (lastDigits count (n / 10)).foldl (fun n c => n * 10 + digitValue c) 0 =
        n / 10 % 10 ^ count := ih (n / 10)
    rw [lastDigits, valueOfDigits, List.foldl_append, hfront, List.foldl_cons, List.foldl_nil,
      (digit_of_lt_ten (Nat.mod_lt n (by decide))).2, Nat.pow_succ', Nat.mod_mul]
    omega

/-- Digits of a number can be written in two parts. -/
theorem lastDigits_add (front back n : Nat) :
    lastDigits (front + back) n = lastDigits front (n / 10 ^ back) ++ lastDigits back n := by
  induction back generalizing n with
  | zero => simp [lastDigits]
  | succ back ih =>
    rw [← Nat.add_assoc, lastDigits, ih, lastDigits, Nat.div_div_eq_div_mul, ← Nat.pow_succ',
      List.append_assoc]

/-! ## Groups -/

/-- Groups of four are told apart by dashes. -/
theorem dashed_flatten (h : ∀ group ∈ groups, group.length = 4) :
    dashed groups.flatten = ['-'].intercalate groups := by
  induction groups with
  | nil => rfl
  | cons group groups ih =>
    obtain ⟨hgroup, hgroups⟩ := List.forall_mem_cons.mp h
    obtain ⟨a, b, c, d, rfl⟩ : ∃ a b c d, group = [a, b, c, d] := by
      match group, hgroup with
      | [a, b, c, d], _ => exact ⟨a, b, c, d, rfl⟩
    cases groups with
    | nil => rfl
    | cons next groups =>
      have hnext : ∃ e rest, (next :: groups).flatten = e :: rest := by
        cases next with
        | nil => cases (List.forall_mem_cons.mp hgroups).1
        | cons e rest => exact ⟨e, rest ++ groups.flatten, rfl⟩
      obtain ⟨e, rest, hflatten⟩ := hnext
      rw [hflatten] at ih
      rw [List.flatten_cons, hflatten, List.intercalate_cons_cons, ← ih hgroups]
      rfl

/-- Dashes are no digits. -/
theorem filter_dashed (h : ∀ c ∈ chars, c.isDigit = true) :
    (dashed chars).filter Char.isDigit = chars := by
  induction chars using dashed.induct with
  | case1 a b c d e rest ih =>
    have hfront : ∀ x ∈ [a, b, c, d], x.isDigit = true := fun x hx =>
      h x (List.mem_append_left (e :: rest) hx)
    have hback := ih fun x hx => h x (List.mem_append_right [a, b, c, d] hx)
    have hdash : '-'.isDigit = false := rfl
    change (([a, b, c, d] ++ '-' :: dashed (e :: rest)).filter Char.isDigit) = _
    rw [List.filter_append, List.filter_eq_self.mpr hfront, List.filter_cons_of_neg (by simp [hdash]),
      hback]
    rfl
  | case2 short hshort =>
    rw [dashed]
    · exact List.filter_eq_self.mpr h
    · exact hshort

/-! ## Accounts -/

/-- The text consists of five groups of four decimal digits, with a dash between two groups. -/
def IsGrouped (account : String) : Prop :=
  ∃ groups : List (List Char), groups.length = 5 ∧
    (∀ group ∈ groups, group.length = 4 ∧ ∀ c ∈ group, c.isDigit = true) ∧
    account.toList = ['-'].intercalate groups

theorem IsGrouped.length {account : String} (h : IsGrouped account) : account.length = 24 := by
  obtain ⟨groups, hcount, hgroups, haccount⟩ := h
  match groups, hcount with
  | [a, b, c, d, e], _ =>
    have hfour : ∀ group ∈ [a, b, c, d, e], group.length = 4 := fun group hgroup =>
      (hgroups group hgroup).1
    simp only [List.forall_mem_cons] at hfour
    obtain ⟨ha, hb, hc, hd, he, -⟩ := hfour
    rw [← String.length_toList, haccount]
    simp [ha, hb, hc, hd, he]

/-- The number that the digits of an account stand for. -/
def number (account : String) : Nat :=
  valueOfDigits (account.toList.filter Char.isDigit)

theorem number_ofKeyId (keyId : Int) : number (ofKeyId keyId) = Quantity.toUnsigned keyId := by
  rw [number, ofKeyId, String.toList_ofList, filter_dashed fun c => isDigit_of_mem_lastDigits,
    valueOfDigits_lastDigits, Nat.mod_eq_of_lt]
  exact Nat.lt_trans (Quantity.toUnsigned_lt keyId) (by decide)

theorem isGrouped_ofKeyId (keyId : Int) : IsGrouped (ofKeyId keyId) := by
  generalize hbits : Quantity.toUnsigned keyId = bits
  let group (behind : Nat) : List Char := lastDigits 4 (bits / 10 ^ behind)
  have hgroup : ∀ behind, (group behind).length = 4 ∧ ∀ c ∈ group behind, c.isDigit = true :=
    fun behind => ⟨length_lastDigits 4 _, fun c => isDigit_of_mem_lastDigits⟩
  have hall : ∀ g ∈ [16, 12, 8, 4, 0].map group,
      g.length = 4 ∧ ∀ c ∈ g, c.isDigit = true := by
    intro g hg
    obtain ⟨behind, -, rfl⟩ := List.mem_map.mp hg
    exact hgroup behind
  refine ⟨[16, 12, 8, 4, 0].map group, rfl, hall, ?_⟩
  have hdigits : lastDigits 20 bits = ([16, 12, 8, 4, 0].map group).flatten := by
    rw [lastDigits_add 4 16, lastDigits_add 4 12, lastDigits_add 4 8, lastDigits_add 4 4]
    simp [group]
  rw [ofKeyId, String.toList_ofList, hbits, hdigits, dashed_flatten fun g hg => (hall g hg).1]

/-- The account of a key id has five groups of four digits. They are those of an unsigned number of 64
bits, which gives back the key id as the signed number with the same bits; so no other key id has that
account. -/
theorem ofKeyId_identifies {keyId : Int} (h : Quantity.InRange keyId) :
    IsGrouped (ofKeyId keyId) ∧ (ofKeyId keyId).length = 24 ∧
      number (ofKeyId keyId) < 18446744073709551616 ∧
      Quantity.ofUnsigned (number (ofKeyId keyId)) = keyId ∧
      ∀ other, Quantity.InRange other → ofKeyId other = ofKeyId keyId → other = keyId := by
  have hback : ∀ {id : Int}, Quantity.InRange id →
      Quantity.ofUnsigned (number (ofKeyId id)) = id := by
    intro id hid
    rw [number_ofKeyId, Quantity.ofUnsigned_toUnsigned hid]
  refine ⟨isGrouped_ofKeyId keyId, (isGrouped_ofKeyId keyId).length, ?_, hback h, ?_⟩
  · rw [number_ofKeyId]
    exact Quantity.toUnsigned_lt keyId
  · intro other hother hsame
    rw [← hback hother, hsame, hback h]

/-- The id with all bits set has the account of the greatest number of 64 bits, and no other key id
has it. -/
theorem ofKeyId_identifies_sample :
    ofKeyId (-1) = "1844-6744-0737-0955-1615" ∧
      Quantity.ofUnsigned (number "1844-6744-0737-0955-1615") = -1 ∧
      ∀ other, Quantity.InRange other → ofKeyId other = "1844-6744-0737-0955-1615" →
        other = -1 := by
  have haccount : ofKeyId (-1) = "1844-6744-0737-0955-1615" := by decide
  obtain ⟨-, -, -, hback, honly⟩ := ofKeyId_identifies (by decide : Quantity.InRange (-1))
  rw [haccount] at hback honly
  exact ⟨haccount, hback, honly⟩

end Account

end Covenant
