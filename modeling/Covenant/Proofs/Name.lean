import Covenant.Name
import Covenant.Proofs.Text.Lowercase
import Covenant.Proofs.Text.Numeral

/-!
# Full names and normal forms

The full name of a contract has nothing between the number of the ecosystem and the bare name, so it
falls apart where it was put together only if the bare name does not begin like a number. It means the
same in all ecosystems, unless the number has a sign.

The number of an ecosystem holds no underscore, so the full name of a table falls apart where it was
put together. A full name is therefore its own full name, except in an ecosystem whose number has a
sign: there it gets the number once more, and becomes the name of no table with a plain number. The
columns that are their own normal form are told by their characters alone.
-/

namespace Covenant

namespace Text

variable {separator : Char} {text front rest : List Char}

/-- A text is split at the first separator. -/
theorem splitFirst?_append (h : separator ∉ front) :
    splitFirst? separator (front ++ separator :: rest) = some (front, rest) := by
  have hfront : ∀ c ∈ front, (c != separator) = true := by
    intro c hc
    rw [bne_iff_ne]
    rintro rfl
    exact h hc
  unfold splitFirst?
  rw [List.dropWhile_append_of_pos hfront, List.takeWhile_append_of_pos hfront]
  simp

/-- The numeral of an integer ends where a character comes that none can have. -/
theorem takeWhile_toString_append (n : Int)
    (h : ∀ c ∈ rest.head?, c.isDigit = false ∧ c ≠ '-') :
    ((toString n).toList ++ rest).takeWhile (fun c => c.isDigit || c == '-') =
      (toString n).toList := by
  have hnumeral : ∀ c ∈ (toString n).toList, (c.isDigit || c == '-') = true := by
    intro c hc
    cases n with
    | ofNat n =>
      change c ∈ (toString (n : Int)).toList at hc
      rw [toList_toString_nat] at hc
      rw [isDigit_of_mem_toDigits hc]
      rfl
    | negSucc n =>
      rw [toList_toString_negSucc] at hc
      rcases List.mem_cons.mp hc with rfl | hdigit
      · rfl
      · rw [isDigit_of_mem_toDigits hdigit]
        rfl
  have hnone : rest.takeWhile (fun c => c.isDigit || c == '-') = [] := by
    cases rest with
    | nil => rfl
    | cons c rest =>
      obtain ⟨hdigit, hsign⟩ := h c rfl
      rw [List.takeWhile_cons_of_neg]
      simp [hdigit, hsign]
  rw [List.takeWhile_append_of_pos hnumeral, hnone, List.append_nil]

end Text

namespace ContractName

variable {name another : String} {ecosystem other : Int}

/-- A name without `@` in front gets the number of the ecosystem. -/
theorem qualify_of_bare (h : name.toList.head? ≠ some '@') (ecosystem : Int) :
    (qualify ecosystem name).toList = '@' :: ((toString ecosystem).toList ++ name.toList) := by
  unfold qualify
  split
  next hat =>
    rw [hat] at h
    exact absurd rfl h
  next => simp

/-- Bare names have different full names in one ecosystem. -/
theorem qualify_inj (hname : name.toList.head? ≠ some '@')
    (hanother : another.toList.head? ≠ some '@')
    (h : qualify ecosystem name = qualify ecosystem another) : name = another := by
  have hlist := congrArg String.toList h
  rw [qualify_of_bare hname, qualify_of_bare hanother] at hlist
  exact String.toList_inj.mp (List.append_cancel_left (List.cons.inj hlist).2)

/-- The name begins like no number, and has no `@` in front. -/
def IsPlain (name : String) : Prop :=
  ∀ c ∈ name.toList.head?, c.isDigit = false ∧ c ≠ '-' ∧ c ≠ '@'

theorem IsPlain.bare (h : IsPlain name) : name.toList.head? ≠ some '@' :=
  fun hat => (h '@' hat).2.2 rfl

/-- Names that do not begin like numbers have different full names in all ecosystems. -/
theorem IsPlain.qualify_inj (hname : IsPlain name) (hanother : IsPlain another)
    (h : qualify ecosystem name = qualify other another) : ecosystem = other ∧ name = another := by
  have hlist := congrArg String.toList h
  rw [qualify_of_bare hname.bare, qualify_of_bare hanother.bare] at hlist
  have htail := (List.cons.inj hlist).2
  have hnumeral := congrArg (List.takeWhile fun c => c.isDigit || c == '-') htail
  rw [Text.takeWhile_toString_append _ fun c hc => ⟨(hname c hc).1, (hname c hc).2.1⟩,
    Text.takeWhile_toString_append _ fun c hc => ⟨(hanother c hc).1, (hanother c hc).2.1⟩] at hnumeral
  rw [hnumeral] at htail
  exact ⟨Text.toString_int_inj (String.toList_inj.mp hnumeral),
    String.toList_inj.mp (List.append_cancel_left htail)⟩

/-- The name is full already: a digit stands behind its `@`. -/
def IsFull (name : String) : Prop :=
  ∃ c rest, name.toList = '@' :: c :: rest ∧ c.isDigit = true

theorem qualify_of_isFull (h : IsFull name) (ecosystem : Int) : qualify ecosystem name = name := by
  obtain ⟨c, rest, hname, hdigit⟩ := h
  unfold qualify
  rw [hname]
  exact if_pos hdigit

/-- The names that contracts get in ecosystems whose number has no sign are full. -/
theorem isFull_qualify (hecosystem : 0 ≤ ecosystem) (name : String) :
    IsFull (qualify ecosystem name) := by
  unfold qualify
  split
  next rest hname =>
    split
    next c rest =>
      split
      next hdigit => exact ⟨c, rest, hname, hdigit⟩
      next => exact ⟨'1', c :: rest, by simp, by decide⟩
    next => exact ⟨'1', [], by decide, by decide⟩
  next =>
    obtain ⟨n, rfl⟩ := Int.eq_ofNat_of_zero_le hecosystem
    have hdigits : (toString (n : Int)).toList = Nat.toDigits 10 n := Text.toList_toString_nat n
    cases hlist : Nat.toDigits 10 n with
    | nil => exact absurd hlist Nat.toDigits_ne_nil
    | cons c rest =>
      refine ⟨c, rest ++ name.toList, ?_, Text.isDigit_of_mem_toDigits (hlist ▸ List.mem_cons_self)⟩
      rw [String.ofList_toList, String.toList_append, String.toList_append, hdigits, hlist]
      rfl

end ContractName

namespace TableName

variable {number bare name table : String} {ecosystem : Int}

/-- The text is a number as it stands in front of a table's name. -/
def IsNumber (text : String) : Prop :=
  text.toList ≠ [] ∧ ∀ c ∈ text.toList, c.isDigit = true

instance (text : String) : Decidable (IsNumber text) :=
  inferInstanceAs (Decidable (_ ∧ _))

theorem IsNumber.noUnderscore (h : IsNumber number) : '_' ∉ number.toList := by
  intro hmem
  have hdigit := h.2 _ hmem
  revert hdigit
  decide

/-- The numeral of an integer has no underscore. -/
theorem noUnderscore_toString (n : Int) : '_' ∉ (toString n).toList := by
  have hnat : ∀ m : Nat, '_' ∉ (toString m).toList := by
    intro m
    rw [Nat.toString_eq_ofList_toDigits, String.toList_ofList]
    exact Nat.underscore_not_in_toDigits
  cases n with
  | ofNat m => exact hnat m
  | negSucc m =>
    have hminus : toString (Int.negSucc m) = "-" ++ toString (m + 1) := rfl
    rw [hminus, String.toList_append]
    intro hmem
    rcases List.mem_append.mp hmem with hsign | hdigits
    · revert hsign
      decide
    · exact hnat _ hdigits

theorem toList_fullName (front name : String) :
    (front ++ "_" ++ name).toList = front.toList ++ '_' :: name.toList := by
  simp [String.toList_append]

/-- Full names are equal only if their numbers are. -/
theorem front_inj {front other : String} (hfront : '_' ∉ front.toList)
    (hother : '_' ∉ other.toList) (h : front ++ "_" ++ name = other ++ "_" ++ bare) :
    front = other := by
  have hlist := congrArg String.toList h
  rw [toList_fullName, toList_fullName] at hlist
  have hsplit := congrArg (Text.splitFirst? '_') hlist
  rw [Text.splitFirst?_append hfront, Text.splitFirst?_append hother] at hsplit
  exact String.toList_inj.mp (Prod.mk.inj (Option.some.inj hsplit)).1

/-! ## Taking names apart -/

/-- A name with a number in front falls apart there. -/
theorem split_of_number (h : IsNumber number) (name : String) :
    split (number ++ "_" ++ name) = (some number, Text.lowercase name) := by
  have hdigits : (!number.toList.isEmpty && number.toList.all Char.isDigit) = true := by
    simpa [IsNumber] using h
  unfold split
  rw [toList_fullName, Text.splitFirst?_append h.noUnderscore]
  simp only [hdigits, if_true, String.ofList_toList]

/-- A name with anything else in front has no number. -/
theorem split_of_not_number {front : String} (hfront : '_' ∉ front.toList) (h : ¬IsNumber front)
    (name : String) :
    split (front ++ "_" ++ name) = (none, Text.lowercase (front ++ "_" ++ name)) := by
  have hdigits : ¬(!front.toList.isEmpty && front.toList.all Char.isDigit) = true := by
    intro hnumber
    exact h (by simpa [IsNumber] using hnumber)
  unfold split
  rw [toList_fullName, Text.splitFirst?_append hfront]
  exact if_neg hdigits

/-- What is taken for a number is one. -/
theorem isNumber_of_split (h : split table = (some number, name)) : IsNumber number := by
  unfold split at h
  split at h
  next front rest _ =>
    split at h
    next hnumber =>
      obtain rfl := Option.some.inj (Prod.mk.inj h).1
      simpa [IsNumber] using hnumber
    next => cases h
  next => cases h

/-- The name behind the number is lowercase. -/
theorem lowercase_of_split {found : Option String} (h : split table = (found, name)) :
    Text.lowercase name = name := by
  unfold split at h
  split at h
  next =>
    split at h
    next => rw [← (Prod.mk.inj h).2, Text.lowercase_lowercase]
    next => rw [← (Prod.mk.inj h).2, Text.lowercase_lowercase]
  next => rw [← (Prod.mk.inj h).2, Text.lowercase_lowercase]

/-! ## Full names -/

/-- A full name is the number of the name, or else that of the ecosystem, before a lowercase name. -/
theorem qualify_eq (table : String) (ecosystem : Int) :
    ∃ front name, qualify table ecosystem = front ++ "_" ++ name ∧ Text.lowercase name = name ∧
      (IsNumber front ∨ front = toString ecosystem) := by
  unfold qualify
  rcases hsplit : split table with ⟨_ | number, name⟩
  · exact ⟨_, _, rfl, lowercase_of_split hsplit, .inr rfl⟩
  · exact ⟨_, _, rfl, lowercase_of_split hsplit, .inl (isNumber_of_split hsplit)⟩

/-- The numeral of an integer without a sign is a number. -/
theorem isNumber_toString (h : 0 ≤ ecosystem) : IsNumber (toString ecosystem) := by
  obtain ⟨n, rfl⟩ := Int.eq_ofNat_of_zero_le h
  unfold IsNumber
  rw [Text.toList_toString_nat]
  exact ⟨Nat.toDigits_ne_nil, fun c hc => Text.isDigit_of_mem_toDigits hc⟩

/-- Unless the number of the ecosystem has a sign, a full name is a number before a lowercase name. -/
theorem exists_number_qualify (hecosystem : 0 ≤ ecosystem) (table : String) :
    ∃ number name, IsNumber number ∧ Text.lowercase name = name ∧
      qualify table ecosystem = number ++ "_" ++ name := by
  obtain ⟨front, name, hfull, hlower, hnumber | rfl⟩ := qualify_eq table ecosystem
  · exact ⟨front, name, hnumber, hlower, hfull⟩
  · exact ⟨_, name, isNumber_toString hecosystem, hlower, hfull⟩

/-- A number before a lowercase name is its own full name in every ecosystem. -/
theorem qualify_of_number (h : IsNumber number) (hlower : Text.lowercase name = name)
    (ecosystem : Int) : qualify (number ++ "_" ++ name) ecosystem = number ++ "_" ++ name := by
  rw [qualify, split_of_number h, hlower]

/-- What has a plain number after it was made full twice had that name the first time. -/
theorem qualify_of_qualify (hnumber : IsNumber number)
    (h : qualify (qualify table ecosystem) ecosystem = number ++ "_" ++ bare) :
    qualify table ecosystem = number ++ "_" ++ bare := by
  obtain ⟨front, name, hfull, hlower, hfront⟩ := qualify_eq table ecosystem
  have hclean : '_' ∉ front.toList := by
    rcases hfront with hdigits | rfl
    · exact hdigits.noUnderscore
    · exact noUnderscore_toString ecosystem
  rw [hfull] at h ⊢
  by_cases hdigits : IsNumber front
  · rw [qualify, split_of_number hdigits, hlower] at h
    exact h
  · have hsign : front = toString ecosystem := hfront.resolve_left hdigits
    rw [qualify, split_of_not_number hclean hdigits] at h
    have hsame := front_inj (noUnderscore_toString ecosystem) hnumber.noUnderscore h
    rw [hsign, hsame] at hdigits
    exact absurd hnumber hdigits

end TableName

namespace ColumnName

/-- The character stays in a normal form: it is a small letter, a digit, an underscore or a star. -/
def isPlain (c : Char) : Bool :=
  c.isLower || c.isDigit || c == '_' || c == '*'

/-- A capital becomes a small letter. -/
theorem isLower_toLower {c : Char} (h : c.isUpper = true) : c.toLower.isLower = true := by
  have hrange : 'A'.val ≤ c.val ∧ c.val ≤ 'Z'.val := of_decide_eq_true h
  have hfirst : 65 ≤ c.val.toNat := UInt32.le_iff_toNat_le.mp hrange.1
  have hlast : c.val.toNat ≤ 90 := UInt32.le_iff_toNat_le.mp hrange.2
  have hsum : (c.val + ('a'.val - 'A'.val)).toNat = c.val.toNat + 32 := by
    rw [UInt32.toNat_add, Nat.mod_eq_of_lt]
    · rfl
    · change c.val.toNat + 32 < 2 ^ 32
      omega
  unfold Char.toLower
  rw [dif_pos hrange]
  refine Bool.and_eq_true_iff.mpr ⟨?_, ?_⟩
  · refine decide_eq_true (UInt32.le_iff_toNat_le.mpr ?_)
    rw [hsum]
    change 97 ≤ _
    omega
  · refine decide_eq_true (UInt32.le_iff_toNat_le.mpr ?_)
    rw [hsum]
    change _ ≤ 122
    omega

/-- Only capitals have another small form. -/
theorem toLower_of_not_isUpper {c : Char} (h : c.isUpper = false) : c.toLower = c :=
  dif_neg (of_decide_eq_false h)

variable {c : Char} {column : String} {text : List Char}

/-- What is kept besides plain characters are capitals and arrows. -/
theorem isKept_iff : isKept c = true ↔ c.isUpper = true ∨ isPlain c = true ∨ c = '-' ∨ c = '>' := by
  change (c.isUpper || c.isLower || c.isDigit || c == '_' || c == '*' || c == '-' || c == '>') =
    true ↔ _
  simp only [isPlain, Bool.or_eq_true, beq_iff_eq, or_assoc]

/-- The small form of a character that is kept is plain or belongs to an arrow. -/
theorem isPlain_toLower (h : isKept c = true) (hdash : c.toLower ≠ '-') (hhead : c.toLower ≠ '>') :
    isPlain c.toLower = true := by
  cases hupper : c.isUpper with
  | true => simp [isPlain, isLower_toLower hupper]
  | false =>
    rw [toLower_of_not_isUpper hupper] at hdash hhead ⊢
    rcases isKept_iff.mp h with hcapital | hplain | hc | hc
    · rw [hupper] at hcapital
      cases hcapital
    · exact hplain
    · exact absurd hc hdash
    · exact absurd hc hhead

/-- What stands before the first arrow is part of the text. -/
theorem beforeArrow_subset (text : List Char) : beforeArrow text ⊆ text := by
  fun_induction beforeArrow text with
  | case1 => exact List.Subset.refl _
  | case2 => exact List.nil_subset _
  | case3 c rest _ ih => exact List.cons_subset_cons c ih

/-- A text without dashes has no arrow. -/
theorem beforeArrow_of_notMem (h : '-' ∉ text) : beforeArrow text = text := by
  fun_induction beforeArrow text with
  | case1 => rfl
  | case2 => exact absurd List.mem_cons_self h
  | case3 c rest _ ih => rw [ih fun hmem => h (List.mem_cons_of_mem c hmem)]

/-- A normal form consists of plain characters. -/
theorem isPlain_of_mem_normalize (h : c ∈ (normalize column).toList) : isPlain c = true := by
  unfold normalize at h
  rw [String.toList_ofList] at h
  obtain ⟨hbefore, hnotArrow⟩ := List.mem_filter.mp h
  obtain ⟨letter, hletter, rfl⟩ := List.mem_map.mp (beforeArrow_subset _ hbefore)
  have hkept := (List.mem_filter.mp hletter).2
  simp only [Bool.and_eq_true, bne_iff_ne] at hnotArrow
  exact isPlain_toLower hkept hnotArrow.1 hnotArrow.2

theorem not_isUpper_of_isPlain (h : isPlain c = true) : c.isUpper = false := by
  have hcode : ∀ d : Char, d.isLower = true ∨ d.isDigit = true → d.isUpper = false := by
    intro d hd
    have hbounds : 97 ≤ d.val.toNat ∧ d.val.toNat ≤ 122 ∨ 48 ≤ d.val.toNat ∧ d.val.toNat ≤ 57 := by
      rcases hd with hletter | hdigit
      · obtain ⟨hfirst, hlast⟩ := Bool.and_eq_true_iff.mp hletter
        exact .inl ⟨UInt32.le_iff_toNat_le.mp (of_decide_eq_true hfirst),
          UInt32.le_iff_toNat_le.mp (of_decide_eq_true hlast)⟩
      · obtain ⟨hfirst, hlast⟩ := Bool.and_eq_true_iff.mp hdigit
        exact .inr ⟨UInt32.le_iff_toNat_le.mp (of_decide_eq_true hfirst),
          UInt32.le_iff_toNat_le.mp (of_decide_eq_true hlast)⟩
    refine decide_eq_false fun hrange => ?_
    have hfirst : 65 ≤ d.val.toNat := UInt32.le_iff_toNat_le.mp hrange.1
    have hlast : d.val.toNat ≤ 90 := UInt32.le_iff_toNat_le.mp hrange.2
    omega
  simp only [isPlain, Bool.or_eq_true, beq_iff_eq] at h
  rcases h with ((hletter | hdigit) | rfl) | rfl
  · exact hcode c (.inl hletter)
  · exact hcode c (.inr hdigit)
  · rfl
  · rfl

/-- A column of plain characters is its own normal form. -/
theorem normalize_of_isPlain (h : ∀ c ∈ column.toList, isPlain c = true) :
    normalize column = column := by
  have hkept : column.toList.filter isKept = column.toList :=
    List.filter_eq_self.mpr fun c hc => isKept_iff.mpr (.inr (.inl (h c hc)))
  have hsmall : column.toList.map Char.toLower = column.toList := by
    refine (List.map_congr_left fun c hc => ?_).trans (List.map_id _)
    exact toLower_of_not_isUpper (not_isUpper_of_isPlain (h c hc))
  have hdash : '-' ∉ column.toList := by
    intro hmem
    have hplain := h _ hmem
    revert hplain
    decide
  unfold normalize
  dsimp only
  rw [hkept, hsmall, beforeArrow_of_notMem hdash, List.filter_eq_self.mpr, String.ofList_toList]
  intro c hc
  have hplain := h c hc
  simp only [Bool.and_eq_true, bne_iff_ne]
  constructor
  · rintro rfl
    exact hdash hc
  · rintro rfl
    revert hplain
    decide

/-- Columns in normal form are those of plain characters. -/
theorem normalize_eq_self_iff : normalize column = column ↔ ∀ c ∈ column.toList, isPlain c = true :=
  ⟨fun h _ hc => isPlain_of_mem_normalize (h.symm ▸ hc), normalize_of_isPlain⟩

end ColumnName

end Covenant
