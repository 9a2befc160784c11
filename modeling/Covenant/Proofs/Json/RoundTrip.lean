import Covenant.Json.Reader
import Covenant.Json.Writer
import Covenant.Proofs.Text.Hex
import Covenant.Proofs.Text.Numeral

/-!
# What is written is read back

A tree whose numerals are 64-bit integers, and in which nothing was left out, is written so that the
reader gives the same tree. The statements are about a written text with anything behind it that could
follow it in a larger text, so those for lists and objects are built from those for what is in them.
-/

namespace Covenant.Json

/-! ## Strings -/

/-- Two hexadecimal digits behind two zeros number a character below 256. -/
theorem hexUnit_hexDigits {n : Nat} (h : n < 256) (rest : List Char) :
    hexUnit ('0' :: '0' :: Text.hexDigit (n / 16) :: Text.hexDigit (n % 16) :: rest) =
      .ok (n, rest) := by
  have hzero : Text.hexValue? '0' = some 0 := rfl
  have hvalue : ((0 * 16 + 0) * 16 + n / 16) * 16 + n % 16 = n := by omega
  simp only [hexUnit, hzero, Text.hexValue?_hexDigit (by omega : n / 16 < 16),
    Text.hexValue?_hexDigit (by omega : n % 16 < 16), hvalue]

/-- A control character is read from its number. -/
theorem escape_numbered {c : Char} (h : c.toNat < 0x20) (rest : List Char) :
    escape ('u' :: '0' :: '0' :: Text.hexDigit (c.toNat / 16) :: Text.hexDigit (c.toNat % 16) ::
      rest) = .ok (c, rest) := by
  have hlow : isLowSurrogate c.toNat = false := by
    simp [isLowSurrogate]
    omega
  have hhigh : isHighSurrogate c.toNat = false := by
    simp [isHighSurrogate]
    omega
  change numberedEscape _ = _
  rw [numberedEscape, hexUnit_hexDigits (by omega)]
  change (if isLowSurrogate c.toNat = true then _ else if isHighSurrogate c.toNat = true then _
    else Except.ok (Char.ofNat c.toNat, rest)) = _
  rw [hlow, hhigh, Char.ofNat_toNat]
  rfl

/-- The ways in which a character is written: behind a backslash by a letter, by its number, or as it
is. -/
theorem escapeChar_cases {motive : Char → List Char → Prop}
    (hletter : ∀ c letter, (∀ rest, escape (letter :: rest) = .ok (c, rest)) →
      (∀ rest, skipEscape (letter :: rest) = .ok rest) → motive c ['\\', letter])
    (hnumber : ∀ c : Char, c.toNat < 0x20 → motive c
      ['\\', 'u', '0', '0', Text.hexDigit (c.toNat / 16), Text.hexDigit (c.toNat % 16)])
    (hself : ∀ c : Char, c ≠ '"' → c ≠ '\\' → ¬ c.toNat < 0x20 → motive c [c]) (c : Char) :
    motive c (escapeChar c) := by
  have hknown : ∀ c letter, letter ∈ ['"', '\\', 'b', 'f', 'n', 'r', 't'] →
      (∀ rest, escape (letter :: rest) = .ok (c, rest)) → motive c ['\\', letter] := by
    intro c letter hletters hread
    refine hletter c letter hread fun rest => ?_
    simp only [List.mem_cons, List.not_mem_nil, or_false] at hletters
    rcases hletters with rfl | rfl | rfl | rfl | rfl | rfl | rfl <;> rfl
  unfold escapeChar
  by_cases hquote : c = '"'
  · subst hquote
    exact hknown '"' '"' (by simp) fun _ => rfl
  by_cases hbackslash : c = '\\'
  · subst hbackslash
    exact hknown '\\' '\\' (by simp) fun _ => rfl
  by_cases hbackspace : c = '\x08'
  · subst hbackspace
    exact hknown '\x08' 'b' (by simp) fun _ => rfl
  by_cases hfeed : c = '\x0c'
  · subst hfeed
    exact hknown '\x0c' 'f' (by simp) fun _ => rfl
  by_cases hline : c = '\n'
  · subst hline
    exact hknown '\n' 'n' (by simp) fun _ => rfl
  by_cases hreturn : c = '\r'
  · subst hreturn
    exact hknown '\r' 'r' (by simp) fun _ => rfl
  by_cases htab : c = '\t'
  · subst htab
    exact hknown '\t' 't' (by simp) fun _ => rfl
  simp only [beq_iff_eq, hquote, hbackslash, hbackspace, hfeed, hline, hreturn, htab, if_false]
  split
  next hcontrol => exact hnumber c hcontrol
  next hplain => exact hself c hquote hbackslash hplain

/-- A written character is read. -/
theorem stringBody_escapeChar (c : Char) (fuel : Nat) (rest : List Char) :
    stringBody (fuel + 1) (escapeChar c ++ rest) =
      (stringBody fuel rest).map fun read => (c :: read.1, read.2) := by
  have hread : ∀ (c : Char) (next text : List Char), escape next = .ok (c, text) →
      stringBody (fuel + 1) ('\\' :: next) =
        (stringBody fuel text).map fun read => (c :: read.1, read.2) := by
    intro c next text hescape
    change (escape next >>= fun read => stringBody fuel read.2 >>= fun more =>
      Except.ok (read.1 :: more.1, more.2)) = _
    rw [hescape]
    rfl
  refine escapeChar_cases (motive := fun c written => stringBody (fuel + 1) (written ++ rest) =
    (stringBody fuel rest).map fun read => (c :: read.1, read.2)) ?_ ?_ ?_ c
  · exact fun c letter hescape _ => hread c _ _ (hescape rest)
  · exact fun c hcontrol => hread c _ _ (escape_numbered hcontrol rest)
  · intro c hquote hbackslash hplain
    simp only [List.cons_append, List.nil_append, stringBody, beq_iff_eq, hquote, hbackslash,
      hplain, if_false]
    rfl

/-- A written character is passed over. -/
theorem skipString_escapeChar (c : Char) (fuel : Nat) (rest : List Char) :
    skipString (fuel + 1) (escapeChar c ++ rest) = skipString fuel rest := by
  have hskip : ∀ next text : List Char, skipEscape next = .ok text →
      skipString (fuel + 1) ('\\' :: next) = skipString fuel text := by
    intro next text hescape
    have hbackslash : ('\\' == '"') = false := rfl
    simp only [skipString, hbackslash, hescape]
    rfl
  refine escapeChar_cases (motive := fun c written =>
    skipString (fuel + 1) (written ++ rest) = skipString fuel rest) ?_ ?_ ?_ c
  · exact fun c letter _ hescape => hskip _ _ (hescape rest)
  · intro c hcontrol
    have hunit := hexUnit_hexDigits (n := c.toNat) (by omega) rest
    exact hskip _ _ (congrArg (fun read => read.map Prod.snd) hunit)
  · intro c hquote hbackslash hplain
    simp only [List.cons_append, List.nil_append, skipString, beq_iff_eq, hquote, hbackslash,
      hplain, if_false]

variable {fuel : Nat} {chars : List Char}

theorem stringBody_flatMap (h : chars.length < fuel) (rest : List Char) :
    stringBody fuel (chars.flatMap escapeChar ++ '"' :: rest) = .ok (chars, rest) := by
  induction chars generalizing fuel with
  | nil =>
    obtain ⟨fuel, rfl⟩ := Nat.exists_eq_add_one.mpr h
    rfl
  | cons c chars ih =>
    obtain ⟨fuel, rfl⟩ := Nat.exists_eq_add_one.mpr (Nat.zero_lt_of_lt h)
    rw [List.flatMap_cons, List.append_assoc, stringBody_escapeChar,
      ih (Nat.lt_of_succ_lt_succ h)]
    rfl

theorem skipString_flatMap (h : chars.length < fuel) (rest : List Char) :
    skipString fuel (chars.flatMap escapeChar ++ '"' :: rest) = .ok rest := by
  induction chars generalizing fuel with
  | nil =>
    obtain ⟨fuel, rfl⟩ := Nat.exists_eq_add_one.mpr h
    rfl
  | cons c chars ih =>
    obtain ⟨fuel, rfl⟩ := Nat.exists_eq_add_one.mpr (Nat.zero_lt_of_lt h)
    rw [List.flatMap_cons, List.append_assoc, skipString_escapeChar,
      ih (Nat.lt_of_succ_lt_succ h)]

/-- A character is written by one or more. -/
theorem length_le_flatMap_escapeChar (chars : List Char) :
    chars.length ≤ (chars.flatMap escapeChar).length := by
  induction chars with
  | nil => exact Nat.le_refl 0
  | cons c chars ih =>
    have hone : 1 ≤ (escapeChar c).length :=
      escapeChar_cases (motive := fun _ written => 1 ≤ written.length)
        (fun _ _ _ _ => by simp) (fun _ _ => by simp) (fun _ _ _ _ => by simp) c
    rw [List.flatMap_cons, List.length_append, List.length_cons]
    omega

/-- A written string is read back. The opening quote has been read. -/
theorem formedString_write {text : String} (h : (writeString text).length ≤ fuel)
    (rest : List Char) :
    formedString fuel (text.toList.flatMap escapeChar ++ '"' :: rest) = .ok (some text, rest) := by
  have hlength : text.toList.length < fuel := by
    have hle := length_le_flatMap_escapeChar text.toList
    rw [writeString, List.length_cons, List.length_append] at h
    simp only [List.length_cons, List.length_nil] at h
    omega
  have hread : stringAfterQuote fuel (text.toList.flatMap escapeChar ++ '"' :: rest) =
      .ok (text, rest) := by
    rw [stringAfterQuote, stringBody_flatMap hlength]
    change Except.ok (String.ofList text.toList, rest) = _
    rw [String.ofList_toList]
  rw [formedString, skipString_flatMap hlength, hread]

/-! ## Numerals -/

/-- What follows a value in a text that is written: nothing, or the next part of a list or object. -/
def Follows (rest : List Char) : Prop :=
  rest = [] ∨ ∃ c more, rest = c :: more ∧ (c = ',' ∨ c = ']' ∨ c = '\x7d')

theorem Follows.nil : Follows [] :=
  .inl rfl

theorem Follows.cons {c : Char} (h : c = ',' ∨ c = ']' ∨ c = '\x7d') (more : List Char) :
    Follows (c :: more) :=
  .inr ⟨c, more, rfl, h⟩

variable {rest : List Char}

/-- Digits end where nothing, or another part of the text, follows. -/
theorem Follows.takeWhile (h : Follows rest) : rest.takeWhile Char.isDigit = [] := by
  rcases h with rfl | ⟨c, more, rfl, rfl | rfl | rfl⟩ <;> rfl

theorem Follows.dropWhile (h : Follows rest) : rest.dropWhile Char.isDigit = rest := by
  rcases h with rfl | ⟨c, more, rfl, rfl | rfl | rfl⟩ <;> rfl

theorem Follows.numeralFraction (h : Follows rest) (atEnd : JsonProblem) (negative : Bool)
    (whole : List Char) :
    numeralFraction atEnd negative whole rest = .ok (numeralOf negative whole [] none, rest) := by
  rcases h with rfl | ⟨c, more, rfl, rfl | rfl | rfl⟩ <;> rfl

/-- A number has digits. -/
theorem toDigits_eq_cons (n : Nat) :
    ∃ c digits, Nat.toDigits 10 n = c :: digits ∧ c.isDigit = true := by
  cases h : Nat.toDigits 10 n with
  | nil => exact absurd h Nat.toDigits_ne_nil
  | cons c digits =>
    exact ⟨c, digits, rfl, Text.isDigit_of_mem_toDigits (h ▸ List.mem_cons_self)⟩

/-- The digits of a number are read to their end. -/
theorem unsignedNumeral_toDigits (atEnd : JsonProblem) (negative : Bool) (n : Nat)
    (h : Follows rest) :
    unsignedNumeral atEnd negative (Nat.toDigits 10 n ++ rest) =
      .ok (numeralOf negative (Nat.toDigits 10 n) [] none, rest) := by
  rcases Nat.eq_zero_or_pos n with rfl | hpos
  · rw [Nat.toDigits_zero, ← h.numeralFraction atEnd negative ['0']]
    rcases h with rfl | ⟨c, more, rfl, rfl | rfl | rfl⟩ <;> rfl
  · obtain ⟨c, digits, hdigits, hdigit, hzero⟩ := Text.head_toDigits hpos
    have hall : ∀ d ∈ c :: digits, d.isDigit = true := by
      rw [← hdigits]
      exact fun d hd => Text.isDigit_of_mem_toDigits hd
    have htake : ((c :: digits) ++ rest).takeWhile Char.isDigit = c :: digits := by
      rw [List.takeWhile_append_of_pos hall, h.takeWhile, List.append_nil]
    have hdrop : ((c :: digits) ++ rest).dropWhile Char.isDigit = rest := by
      rw [List.dropWhile_append_of_pos hall, h.dropWhile]
    rw [hdigits, ← h.numeralFraction atEnd negative (c :: digits)]
    rw [List.cons_append] at htake hdrop ⊢
    unfold unsignedNumeral
    split
    next heq => cases heq
    next heq => exact absurd (List.cons.inj heq).1 hzero
    next heq =>
      obtain ⟨rfl, -⟩ := List.cons.inj heq
      rw [if_pos hdigit, htake, hdrop]

/-- An integer of 64 bits, with sign or without. -/
def IsWord (n : Int) : Prop :=
  -9223372036854775808 ≤ n ∧ n < 18446744073709551616

/-- A written integer is read back. -/
theorem numeral_write {n : Int} (hword : IsWord n) (atEnd : JsonProblem) (h : Follows rest) :
    numeral atEnd ((toString n).toList ++ rest) = .ok (.integer n, rest) := by
  cases n with
  | ofNat n =>
    have hlt : n < 18446744073709551616 := Int.ofNat_lt.mp hword.2
    change numeral atEnd ((toString (n : Int)).toList ++ rest) = _
    rw [Text.toList_toString_nat]
    have hread := unsignedNumeral_toDigits atEnd false n h
    obtain ⟨c, digits, hdigits, hdigit⟩ := toDigits_eq_cons n
    have hsign : numeral atEnd (Nat.toDigits 10 n ++ rest) =
        unsignedNumeral atEnd false (Nat.toDigits 10 n ++ rest) := by
      rw [hdigits, List.cons_append]
      unfold numeral
      split
      next heq =>
        obtain ⟨rfl, -⟩ := List.cons.inj heq
        cases hdigit
      next => rfl
    rw [hsign, hread]
    simp only [numeralOf, Text.valueOfDigits_toDigits, List.isEmpty_nil, Bool.not_true,
      Option.isSome_none, Bool.or_self, Bool.false_eq_true, if_false, if_pos hlt]
    rfl
  | negSucc n =>
    have hle : n + 1 ≤ 9223372036854775808 := by
      have := hword.1
      omega
    rw [Text.toList_toString_negSucc, List.cons_append]
    change unsignedNumeral atEnd true (Nat.toDigits 10 (n + 1) ++ rest) = _
    rw [unsignedNumeral_toDigits atEnd true (n + 1) h]
    simp only [numeralOf, Text.valueOfDigits_toDigits, List.isEmpty_nil, Bool.not_true,
      Option.isSome_none, Bool.or_self, Bool.false_eq_true, if_false, if_true]
    rw [if_pos (by simpa using hle)]
    rfl

/-! ## Trees -/

mutual

/-- Nothing of the tree is left out when it is written, and every numeral is a 64-bit integer. -/
def IsPlain : Json → Prop
  | .null | .bool _ | .string _ => True
  | .number (.integer n) => IsWord n
  | .array items => ArePlain items
  | .object members => MembersPlain members
  | .number (.decimal _ _ _ _) | .halfString | .keyless _ | .broken _ => False

/-- All items are plain. -/
def ArePlain : List Json → Prop
  | [] => True
  | j :: rest => IsPlain j ∧ ArePlain rest

/-- All members are plain. -/
def MembersPlain : List (String × Json) → Prop
  | [] => True
  | (_, j) :: rest => IsPlain j ∧ MembersPlain rest

end

/-- The character can be the first of a value. -/
def Begins (c : Char) : Prop :=
  isSpace c = false ∧ c ≠ ']'

theorem begins_of_isDigit {c : Char} (h : c.isDigit = true) : Begins c := by
  constructor
  · simp only [isSpace, Bool.or_eq_false_iff, beq_eq_false_iff_ne]
    refine ⟨⟨⟨?_, ?_⟩, ?_⟩, ?_⟩
    all_goals
      rintro rfl
      cases h
  · rintro rfl
    cases h

/-- The numeral of an integer begins with a sign or a digit. -/
theorem toString_eq_cons (n : Int) :
    ∃ c more, (toString n).toList = c :: more ∧ (c = '-' ∨ c.isDigit = true) := by
  cases n with
  | ofNat n =>
    obtain ⟨c, digits, hdigits, hdigit⟩ := toDigits_eq_cons n
    exact ⟨c, digits, (Text.toList_toString_nat n).trans hdigits, .inr hdigit⟩
  | negSucc n => exact ⟨'-', _, Text.toList_toString_negSucc n, .inl rfl⟩

/-- What is written of a value begins with a character that can be the first of one. -/
theorem write_eq_cons {j : Json} (h : IsPlain j) : ∃ c more, write j = c :: more ∧ Begins c := by
  cases j with
  | null => exact ⟨'n', _, rfl, rfl, by decide⟩
  | bool value =>
    cases value with
    | true => exact ⟨'t', _, rfl, rfl, by decide⟩
    | false => exact ⟨'f', _, rfl, rfl, by decide⟩
  | string text => exact ⟨'"', _, rfl, rfl, by decide⟩
  | array items => exact ⟨_, _, rfl, rfl, by decide⟩
  | object members => exact ⟨_, _, rfl, rfl, by decide⟩
  | number n =>
    cases n with
    | integer n =>
      obtain ⟨c, more, hwritten, rfl | hdigit⟩ := toString_eq_cons n
      · exact ⟨'-', more, hwritten, rfl, by decide⟩
      · exact ⟨c, more, hwritten, begins_of_isDigit hdigit⟩
    | decimal => exact h.elim
  | halfString => exact h.elim
  | keyless j => exact h.elim
  | broken failure => exact h.elim

theorem skipSpace_cons {c : Char} (h : isSpace c = false) (text : List Char) :
    skipSpace (c :: text) = c :: text := by
  rw [skipSpace, List.dropWhile_cons_of_neg (by simp [h])]

/-- A value that begins with a sign or a digit is a numeral. -/
theorem value_of_numeral {c : Char} (h : c = '-' ∨ c.isDigit = true) (fuel : Nat)
    (text : List Char) :
    value (fuel + 1) (c :: text) = leaf .number (numeral .invalidNumber (c :: text)) := by
  have hspace : isSpace c = false := by
    rcases h with rfl | hdigit
    · rfl
    · exact (begins_of_isDigit hdigit).1
  have hnumeral : (c == '-' || c.isDigit) = true := by
    rcases h with rfl | hdigit
    · rfl
    · rw [hdigit, Bool.or_true]
  have hother : ∀ d ∈ ['"', '[', '\x7b', 'n', 't', 'f'], c ≠ d := by
    rintro d hd rfl
    simp only [List.mem_cons, List.not_mem_nil, or_false] at hd
    rcases hd with rfl | rfl | rfl | rfl | rfl | rfl <;> cases hnumeral
  simp only [List.mem_cons, List.not_mem_nil, or_false, forall_eq_or_imp, forall_eq] at hother
  unfold value
  rw [skipSpace_cons hspace]
  dsimp only
  split
  next => exact absurd rfl hother.1
  next => exact absurd rfl hother.2.1
  next => exact absurd rfl hother.2.2.1
  next => exact absurd rfl hother.2.2.2.1
  next => exact absurd rfl hother.2.2.2.2.1
  next => exact absurd rfl hother.2.2.2.2.2
  next => rw [if_pos hnumeral]

variable {text : List Char} {j : Json} {list : List Json} {entries : List (String × Json)}

/-- A value that is followed by further items is the first of them. -/
theorem item_eq (hvalue : value fuel text = (j, some rest)) {more : List Char}
    (hmore : moreItems fuel rest = (list, some more)) :
    item (fuel + 1) text = (j :: list, some more) := by
  rw [item, hvalue]
  dsimp only
  rw [hmore]

/-- A list begins with its first item, if it has one. -/
theorem items_eq {c : Char} (h : Begins c) (fuel : Nat) (text : List Char) :
    items (fuel + 1) (c :: text) = item fuel (c :: text) := by
  rw [items, skipSpace_cons h.1]
  split
  next heq => cases heq
  next heq => exact absurd (List.cons.inj heq).1 h.2
  next => rfl

/-- A string, a colon and a value that is followed by further members are the first of them. -/
theorem member_eq {key : String} (hkey : (writeString key).length ≤ fuel + 1)
    (hvalue : value fuel text = (j, some rest)) {more : List Char}
    (hmore : moreMembers fuel rest = (entries, some more)) :
    member (fuel + 1) (writeString key ++ ':' :: text) = ((key, j) :: entries, some more) := by
  have hread := formedString_write hkey (':' :: text)
  have hquote : writeString key ++ ':' :: text =
      '"' :: (key.toList.flatMap escapeChar ++ '"' :: ':' :: text) := by
    rw [writeString, List.cons_append, List.append_assoc, List.cons_append, List.nil_append]
  rw [hquote, member, skipSpace_cons rfl]
  split
  next heq => cases heq
  next heq =>
    obtain ⟨-, rfl⟩ := List.cons.inj heq
    rw [hread]
    dsimp only
    rw [skipSpace_cons rfl]
    split
    next heq => cases heq
    next heq =>
      obtain ⟨-, rfl⟩ := List.cons.inj heq
      rw [hvalue]
      dsimp only
      rw [hmore]
      rfl
    next hcolon => exact absurd rfl (hcolon _)
  next hquote => exact absurd rfl (hquote _)

/-- What stands behind an item or a member can follow a value. -/
theorem follows_moreItems (list : List Json) (rest : List Char) :
    Follows (writeMoreItems list ++ rest) := by
  cases list with
  | nil => exact .cons (.inr (.inl rfl)) _
  | cons j list => exact .cons (.inl rfl) _

theorem follows_moreMembers (entries : List (String × Json)) (rest : List Char) :
    Follows (writeMoreMembers entries ++ rest) := by
  cases entries with
  | nil => exact .cons (.inr (.inr rfl)) _
  | cons entry entries => exact .cons (.inl rfl) _

mutual

/-- A written value is read back, whatever follows it. The induction is on the tree, and goes on by
the parts of a list or object that are still to come. -/
theorem value_write : ∀ (j : Json), IsPlain j → ∀ (fuel : Nat) (rest : List Char),
    3 * (write j).length ≤ fuel → Follows rest → value fuel (write j ++ rest) = (j, some rest) := by
  intro j hplain fuel rest hfuel hrest
  obtain ⟨fuel, rfl⟩ : ∃ n, fuel = n + 1 := by
    obtain ⟨c, more, hwritten, -⟩ := write_eq_cons hplain
    rw [hwritten, List.length_cons] at hfuel
    exact ⟨fuel - 1, by omega⟩
  cases j with
  | null => rfl
  | bool value => cases value <;> rfl
  | string text =>
    have hlength : (writeString text).length ≤ fuel + 1 := by
      change 3 * (writeString text).length ≤ fuel + 1 at hfuel
      omega
    have hread := formedString_write hlength rest
    change leaf ofString (formedString (fuel + 1)
      ((text.toList.flatMap escapeChar ++ ['"']) ++ rest)) = _
    rw [List.append_assoc]
    change leaf ofString (formedString (fuel + 1)
      (text.toList.flatMap escapeChar ++ '"' :: rest)) = _
    rw [hread]
    rfl
  | number n =>
    cases n with
    | integer n =>
      obtain ⟨c, more, hdigits, hc⟩ := toString_eq_cons n
      have hread := numeral_write hplain .invalidNumber hrest
      change value (fuel + 1) ((toString n).toList ++ rest) = _
      rw [hdigits, List.cons_append] at hread ⊢
      rw [value_of_numeral hc, hread]
      rfl
    | decimal => exact hplain.elim
  | array list =>
    have hitems := items_write list hplain fuel rest (by
      rw [write, List.length_cons] at hfuel
      omega)
    change (match items fuel (writeItems list ++ rest) with
      | (list, rest) => (Json.array list, rest)) = _
    rw [hitems]
  | object entries =>
    have hmembers := members_write entries hplain fuel rest (by
      rw [write, List.length_cons] at hfuel
      omega)
    change (match members fuel (writeMembers entries ++ rest) with
      | (entries, rest) => (Json.object entries, rest)) = _
    rw [hmembers]
  | halfString => exact hplain.elim
  | keyless j => exact hplain.elim
  | broken failure => exact hplain.elim

/-- The items of a written list are read back. -/
theorem items_write : ∀ (list : List Json), ArePlain list → ∀ (fuel : Nat) (rest : List Char),
    3 * (writeItems list).length + 2 ≤ fuel →
    items fuel (writeItems list ++ rest) = (list, some rest) := by
  intro list hplain fuel rest hfuel
  obtain ⟨fuel, rfl⟩ : ∃ n, fuel = n + 2 := ⟨fuel - 2, by omega⟩
  cases list with
  | nil => rfl
  | cons j list =>
    obtain ⟨c, more, hwritten, hbegins⟩ := write_eq_cons hplain.1
    have hlength : (writeItems (j :: list)).length =
        (write j).length + (writeMoreItems list).length := List.length_append
    have hvalue := value_write j hplain.1 fuel (writeMoreItems list ++ rest) (by omega)
      (follows_moreItems list rest)
    have hmore := moreItems_write list hplain.2 fuel rest (by
      rw [hwritten, List.length_cons] at hlength
      omega)
    have hitem := item_eq hvalue hmore
    rw [writeItems, List.append_assoc]
    rw [hwritten, List.cons_append] at hitem ⊢
    rw [items_eq hbegins, hitem]

/-- What stands behind an item of a written list is read back. -/
theorem moreItems_write : ∀ (list : List Json), ArePlain list → ∀ (fuel : Nat) (rest : List Char),
    3 * (writeMoreItems list).length ≤ fuel →
    moreItems fuel (writeMoreItems list ++ rest) = (list, some rest) := by
  intro list hplain fuel rest hfuel
  cases list with
  | nil =>
    obtain ⟨fuel, rfl⟩ : ∃ n, fuel = n + 1 := ⟨fuel - 1, by
      rw [writeMoreItems, List.length_singleton] at hfuel
      omega⟩
    rfl
  | cons j list =>
    have hlength : (writeMoreItems (j :: list)).length =
        1 + (write j).length + (writeMoreItems list).length := by
      rw [writeMoreItems, List.length_cons, List.length_append]
      omega
    obtain ⟨fuel, rfl⟩ : ∃ n, fuel = n + 2 := ⟨fuel - 2, by omega⟩
    have hvalue := value_write j hplain.1 fuel (writeMoreItems list ++ rest) (by omega)
      (follows_moreItems list rest)
    have hmore := moreItems_write list hplain.2 fuel rest (by omega)
    rw [writeMoreItems, List.cons_append, List.append_assoc]
    exact item_eq hvalue hmore

/-- The members of a written object are read back. -/
theorem members_write : ∀ (entries : List (String × Json)), MembersPlain entries →
    ∀ (fuel : Nat) (rest : List Char), 3 * (writeMembers entries).length + 2 ≤ fuel →
    members fuel (writeMembers entries ++ rest) = (entries, some rest) := by
  intro entries hplain fuel rest hfuel
  obtain ⟨fuel, rfl⟩ : ∃ n, fuel = n + 2 := ⟨fuel - 2, by omega⟩
  cases entries with
  | nil => rfl
  | cons entry entries =>
    obtain ⟨key, j⟩ := entry
    have hlength : (writeMembers ((key, j) :: entries)).length =
        (writeString key).length + 1 + (write j).length + (writeMoreMembers entries).length := by
      rw [writeMembers, List.length_append, List.length_cons, List.length_append]
      omega
    have hvalue := value_write j hplain.1 fuel (writeMoreMembers entries ++ rest) (by omega)
      (follows_moreMembers entries rest)
    have hmore := moreMembers_write entries hplain.2 fuel rest (by omega)
    have hkey : (writeString key).length ≤ fuel + 1 := by omega
    have hmember := member_eq hkey hvalue hmore
    rw [writeMembers, List.append_assoc, List.cons_append, List.append_assoc, ← hmember]
    rfl

/-- What stands behind a member of a written object is read back. -/
theorem moreMembers_write : ∀ (entries : List (String × Json)), MembersPlain entries →
    ∀ (fuel : Nat) (rest : List Char), 3 * (writeMoreMembers entries).length ≤ fuel →
    moreMembers fuel (writeMoreMembers entries ++ rest) = (entries, some rest) := by
  intro entries hplain fuel rest hfuel
  cases entries with
  | nil =>
    obtain ⟨fuel, rfl⟩ : ∃ n, fuel = n + 1 := ⟨fuel - 1, by
      rw [writeMoreMembers, List.length_singleton] at hfuel
      omega⟩
    rfl
  | cons entry entries =>
    obtain ⟨key, j⟩ := entry
    have hlength : (writeMoreMembers ((key, j) :: entries)).length =
        1 + (writeString key).length + 1 + (write j).length +
          (writeMoreMembers entries).length := by
      rw [writeMoreMembers, List.length_cons, List.length_append, List.length_cons,
        List.length_append]
      omega
    obtain ⟨fuel, rfl⟩ : ∃ n, fuel = n + 2 := ⟨fuel - 2, by omega⟩
    have hvalue := value_write j hplain.1 fuel (writeMoreMembers entries ++ rest) (by omega)
      (follows_moreMembers entries rest)
    have hmore := moreMembers_write entries hplain.2 fuel rest (by omega)
    have hkey : (writeString key).length ≤ fuel + 1 := by omega
    have hmember := member_eq hkey hvalue hmore
    rw [writeMoreMembers, List.cons_append, List.append_assoc, List.cons_append,
      List.append_assoc]
    exact hmember

end

/-- A written tree is the value of its text. -/
theorem readValue_render {j : Json} (h : IsPlain j) :
    readValue (render j).toList = (j, some []) := by
  have hread := value_write j h (fuelFor (write j)) [] (by
    rw [fuelFor]
    omega) .nil
  rw [List.append_nil] at hread
  rw [render, String.toList_ofList, readValue, hread]

end Covenant.Json
