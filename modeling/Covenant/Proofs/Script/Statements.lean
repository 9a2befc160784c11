import Covenant.Proofs.Script.Printing

/-!
# Statements are read back

A printed statement is read as itself, but that a call names its contract in full. The keyword ends at
the first space, the words behind it come apart at theirs, and free text is what is left. A requirement
without a text is the only statement that is not read back.
-/

namespace Covenant.Script

variable {ecosystem : Int} {statement : Statement} {operand : Operand} {pair : String × Operand}
  {pairs : List (String × Operand)} {keyword : String} {words : List (List Char)}

/-! ## Keywords and arguments -/

theorem splitFirst?_of_not_mem {separator : Char} {text : List Char} (h : separator ∉ text) :
    Text.splitFirst? separator text = none := by
  have hall : ∀ c ∈ text, (c != separator) = true := by
    intro c hc
    rw [bne_iff_ne]
    rintro rfl
    exact h hc
  rw [Text.splitFirst?, List.dropWhile_eq_nil_iff.mpr hall]

/-- The keyword comes apart from what stands behind it. -/
theorem splitKeyword_joinWords {first : List Char} (hfirst : ' ' ∉ first)
    (hwords : Text.IsTrimmed (Text.joinWords words)) :
    splitKeyword (Text.joinWords (first :: words)) = (first, Text.joinWords words) := by
  by_cases hnone : words = []
  · rw [hnone, Text.joinWords, List.intercalate_singleton, splitKeyword, splitFirst?_of_not_mem hfirst]
    rfl
  · rw [Text.joinWords_cons first hnone, splitKeyword, Text.splitFirst?_append hfirst]
    exact congrArg (first, ·) (Text.trim_of_isTrimmed hwords)

theorem IsToken.noSpace {text : List Char} (h : IsToken text) : ' ' ∉ text :=
  fun hmem => absurd (h.solid ' ' hmem) (by decide)

theorem splitKeyword_print (h : statement.IsPrintable) :
    splitKeyword statement.print = (statement.keyword.toList, Text.joinWords statement.arguments) :=
  splitKeyword_joinWords (isToken_keyword statement).noSpace
    (Text.isTrimmed_joinWords fun word hword =>
      ⟨(clean_arguments h word hword).1, (clean_arguments h word hword).2.trimmed⟩)

theorem words_of_tokens (h : ∀ word ∈ words, IsToken word) :
    Text.words (Text.joinWords words) = words :=
  Text.words_joinWords fun word hword => ⟨(h word hword).nonempty, (h word hword).solid⟩

theorem argument_zero (keyword : String) (word : List Char) (words : List (List Char)) :
    argument keyword (word :: words) 0 = .ok word :=
  rfl

theorem argument_one (keyword : String) (word next : List Char) (words : List (List Char)) :
    argument keyword (word :: next :: words) 1 = .ok next :=
  rfl

theorem argument_two (keyword : String) (word next last : List Char) (words : List (List Char)) :
    argument keyword (word :: next :: last :: words) 2 = .ok last :=
  rfl

/-! ## Operands -/

/-- An operand is read back. -/
theorem readOperand_print (h : operand.IsPrintable) : readOperand operand.print = operand := by
  cases operand with
  | «variable» name => rw [Operand.print, readOperand, String.ofList_toList]
  | int n =>
    rw [Operand.print, readOperand, Text.readQuantity?_toString h]
    -- A numeral does not begin like a slot, for such a text is no numeral.
    intro name hslot
    have hread := Text.readQuantity?_toString h
    rw [hslot] at hread
    simp [Text.readQuantity?, Text.readSigned?, Text.readDigits?] at hread
  | text s =>
    rw [Operand.print, readOperand, h.2.2, String.ofList_toList]
    intro name hslot
    refine h.2.1 ?_
    rw [hslot]
    rfl

/-- A named operand is read back. -/
theorem readPair_print (h : IsPrintablePair pair) : readPair (printPair pair) = .ok pair := by
  rw [readPair, printPair, Text.splitFirst?_append h.noSign]
  dsimp only
  rw [String.ofList_toList, h.lowercase, readOperand_print h.operand]

theorem readPairs_print (h : ∀ pair ∈ pairs, IsPrintablePair pair) :
    readPairs (pairs.map printPair) = .ok pairs := by
  induction pairs with
  | nil => rfl
  | cons pair rest ih =>
    obtain ⟨hpair, hrest⟩ := List.forall_mem_cons.mp h
    have hread : List.mapM readPair (rest.map printPair) = .ok rest := ih hrest
    rw [readPairs, List.map_cons, List.mapM_cons, readPair_print hpair, ok_bind, hread]
    rfl

theorem pieces_columns {columns : List String} (hne : columns ≠ [])
    (h : ∀ column ∈ columns, IsToken column.toList ∧ ',' ∉ column.toList) :
    (Text.pieces (· == ',') ([','].intercalate (columns.map String.toList))).map String.ofList =
      columns := by
  rw [Text.pieces_intercalate (by decide) (by simpa using hne), List.map_map]
  · have hid : String.ofList ∘ String.toList = id := funext fun _ => String.ofList_toList
    rw [hid, List.map_id]
  · intro part hpart c hc
    obtain ⟨column, hcolumn, rfl⟩ := List.mem_map.mp hpart
    rw [beq_eq_false_iff_ne]
    rintro rfl
    exact (h column hcolumn).2 hc

/-! ## Statements -/

/-- A statement without free text is read back. -/
theorem readStatement_words (h : statement.IsPrintable) (htext : takesText statement = false) :
    readStatement ecosystem statement.print = .ok (statement.qualify ecosystem) := by
  have hwords := words_of_tokens (isToken_arguments h htext)
  unfold readStatement
  rw [splitKeyword_print h]
  dsimp only
  rw [hwords, String.ofList_toList]
  cases statement with
  | charge amount =>
    simp only [Statement.keyword]
    rw [Statement.arguments, argument_zero, ok_bind, Text.readQuantity?_toString h]
    rfl
  | set name value =>
    simp only [Statement.keyword]
    rw [Statement.arguments, argument_zero, ok_bind, argument_one, ok_bind, String.ofList_toList,
      readOperand_print h.2]
    rfl
  | call target fields =>
    simp only [Statement.keyword]
    rw [Statement.arguments, argument_zero, ok_bind, String.ofList_toList, List.drop_one, List.tail_cons,
      readPairs_print h.2]
    rfl
  | insert table values =>
    simp only [Statement.keyword]
    rw [Statement.arguments, argument_zero, ok_bind, String.ofList_toList, List.drop_one, List.tail_cons,
      readPairs_print h.2]
    rfl
  | update table id values =>
    simp only [Statement.keyword]
    rw [Statement.arguments, argument_zero, ok_bind, argument_one, ok_bind, String.ofList_toList,
      readOperand_print h.2.1, List.drop_succ_cons, List.drop_one, List.tail_cons, readPairs_print h.2.2]
    rfl
  | select table id columns =>
    simp only [Statement.keyword]
    rw [Statement.arguments, argument_zero, ok_bind, argument_one, ok_bind, String.ofList_toList,
      readOperand_print h.2.1]
    by_cases hnone : columns = []
    · subst hnone
      rfl
    · rw [if_neg hnone]
      exact congrArg (fun columns => Except.ok (Statement.select table id columns))
        (pieces_columns hnone h.2.2)
  | condition param useConditions =>
    simp only [Statement.keyword]
    rw [Statement.arguments, argument_zero, ok_bind, String.ofList_toList]
    cases useConditions with
    | true => rfl
    | false => rfl
  | activate tableId ecosystem active =>
    simp only [Statement.keyword]
    rw [Statement.arguments, argument_zero, ok_bind, argument_one, ok_bind, argument_two, ok_bind,
      readOperand_print h.1, readOperand_print h.2]
    cases active with
    | true => rfl
    | false => rfl
  | wallet tableId ecosystem owner =>
    simp only [Statement.keyword]
    rw [Statement.arguments, argument_zero, ok_bind, argument_one, ok_bind, argument_two, ok_bind,
      readOperand_print h.1, readOperand_print h.2.1, readOperand_print h.2.2]
    rfl
  | result value =>
    simp only [Statement.keyword]
    rw [Statement.arguments]
    dsimp only
    rw [readOperand_print h]
    rfl
  | resultBytes bytes =>
    simp only [Statement.keyword]
    rw [Statement.arguments, argument_zero, ok_bind, String.ofList_toList, Text.bytesOfHex_hexOfBytes]
    rfl
  | spin milliseconds =>
    simp only [Statement.keyword]
    rw [Statement.arguments, argument_zero, ok_bind, Text.readUnsigned?_toString h]
    rfl
  | require _ | notify _ _ | fail _ => cases htext

theorem joinWords_freeWords (text : String) : Text.joinWords (freeWords text) = text.toList := by
  unfold freeWords
  split
  next hempty =>
    rw [hempty]
    rfl
  next => exact List.intercalate_singleton

/-- A statement with free text is read back, if it is no requirement without one. -/
theorem readStatement_text (h : statement.IsPrintable) (htext : takesText statement = true)
    (hrequire : statement ≠ .require "") :
    readStatement ecosystem statement.print = .ok (statement.qualify ecosystem) := by
  unfold readStatement
  rw [splitKeyword_print h]
  dsimp only
  rw [String.ofList_toList]
  cases statement with
  | require expression =>
    have hsome : expression.toList.isEmpty = false := by
      rw [List.isEmpty_eq_false_iff]
      intro hnil
      exact hrequire (congrArg Statement.require (String.toList_inj.mp hnil))
    simp only [Statement.keyword]
    rw [Statement.arguments, joinWords_freeWords, hsome, String.ofList_toList]
    rfl
  | notify key payload =>
    have hpayload : Text.IsTrimmed (Text.joinWords (freeWords payload)) := by
      rw [joinWords_freeWords]
      exact h.2.trimmed
    simp only [Statement.keyword]
    rw [Statement.arguments, splitKeyword_joinWords (isToken_operand h.1).noSpace hpayload,
      joinWords_freeWords, readOperand_print h.1, String.ofList_toList]
    rfl
  | fail text =>
    simp only [Statement.keyword]
    rw [Statement.arguments, joinWords_freeWords, String.ofList_toList]
    rfl
  | _ => cases htext

/-- A statement is read back, with the full name of the contract that it calls. -/
theorem readStatement_print (h : statement.IsPrintable) (hrequire : statement ≠ .require "") :
    readStatement ecosystem statement.print = .ok (statement.qualify ecosystem) := by
  cases htext : takesText statement with
  | true => exact readStatement_text h htext hrequire
  | false => exact readStatement_words h htext

end Covenant.Script
