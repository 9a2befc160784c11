import Covenant.Proofs.Script.Layout
import Covenant.Proofs.Text.Hex
import Covenant.Proofs.Text.Numeral

/-!
# Printing programs

Units as they are written down: a contract is a list of data blocks and methods in any order, a function
is one list of statements. Each construct is printed on one line, with single spaces between its words,
and what a printable program prints is text that a line can show.
-/

namespace Covenant

/-! ## Programs as they are written -/

namespace Script

/-- A part of a contract: a block that declares inputs, or a method. -/
inductive Section where
  | data (fields : List FieldDeclaration)
  | method (name : String) (statements : List Statement)
  deriving DecidableEq, Repr

/-- A unit as it is written. -/
inductive Declaration where
  | contract (name : String) (sections : List Section)
  | function (name : String) (body : List Statement)
  deriving DecidableEq, Repr

/-- A word of a statement: not empty, without blanks, and without a comment. -/
structure IsToken (text : List Char) : Prop where
  nonempty : text ≠ []
  solid : Text.Solid text
  uncommented : Uncommented text

instance (text : List Char) : Decidable (IsToken text) :=
  decidable_of_iff (text ≠ [] ∧ Text.Solid text ∧ Uncommented text)
    ⟨fun h => ⟨h.1, h.2.1, h.2.2⟩, fun h => ⟨h.nonempty, h.solid, h.uncommented⟩⟩

/-- The words of free text, which counts as one word, if any. -/
def freeWords (text : String) : List (List Char) :=
  if text = "" then [] else [text.toList]

end Script

open Script

/-- An operand as it is printed. -/
def Operand.print : Operand → List Char
  | .variable name => '$' :: name.toList
  | .int n => (toString n).toList
  | .text s => s.toList

/-- A text is no operand of another kind. -/
def Operand.IsPrintable : Operand → Prop
  | .variable name => IsToken ('$' :: name.toList)
  | .int n => Quantity.InRange n
  | .text s => IsToken s.toList ∧ s.toList.head? ≠ some '$' ∧ Text.readQuantity? s.toList = none

instance (operand : Operand) : Decidable operand.IsPrintable :=
  match operand with
  | .variable _ => inferInstanceAs (Decidable (IsToken _))
  | .int n => inferInstanceAs (Decidable (Quantity.InRange n))
  | .text _ => inferInstanceAs (Decidable (_ ∧ _))

namespace Script

/-- A named operand as it is printed. -/
def printPair (pair : String × Operand) : List Char :=
  pair.1.toList ++ '=' :: pair.2.print

/-- The name is in lower case and ends where the equals sign stands. -/
structure IsPrintablePair (pair : String × Operand) : Prop where
  token : IsToken pair.1.toList
  noSign : '=' ∉ pair.1.toList
  lowercase : Text.lowercase pair.1 = pair.1
  operand : pair.2.IsPrintable

instance (pair : String × Operand) : Decidable (IsPrintablePair pair) :=
  decidable_of_iff (IsToken pair.1.toList ∧ '=' ∉ pair.1.toList ∧
      Text.lowercase pair.1 = pair.1 ∧ pair.2.IsPrintable)
    ⟨fun h => ⟨h.1, h.2.1, h.2.2.1, h.2.2.2⟩,
      fun h => ⟨h.token, h.noSign, h.lowercase, h.operand⟩⟩

end Script

namespace Statement

/-- The keyword of a statement. -/
def keyword : Statement → String
  | .charge _ => "charge"
  | .set _ _ => "set"
  | .call _ _ => "call"
  | .insert _ _ => "insert"
  | .update _ _ _ => "update"
  | .select _ _ _ => "select"
  | .require _ => "require"
  | .condition _ _ => "condition"
  | .activate _ _ _ => "activate"
  | .wallet _ _ _ => "wallet"
  | .notify _ _ => "notify"
  | .result _ => "result"
  | .resultBytes _ => "result_hex"
  | .fail _ => "fail"
  | .spin _ => "spin"

/-- The words behind the keyword of a statement. -/
def arguments : Statement → List (List Char)
  | .charge amount => [(toString amount).toList]
  | .set name value => [name.toList, value.print]
  | .call target fields => target.toList :: fields.map printPair
  | .insert table values => table.toList :: values.map printPair
  | .update table id values => table.toList :: id.print :: values.map printPair
  | .select table id columns => table.toList :: id.print ::
      if columns = [] then [] else [[','].intercalate (columns.map String.toList)]
  | .require expression => freeWords expression
  | .condition param useConditions =>
    param.toList :: if useConditions then ["conditions".toList] else []
  | .activate tableId ecosystem active =>
    [tableId.print, ecosystem.print, (if active then "true" else "false").toList]
  | .wallet tableId ecosystem owner => [tableId.print, ecosystem.print, owner.print]
  | .notify key payload => key.print :: freeWords payload
  | .result value => [value.print]
  | .resultBytes bytes => [(Text.hexOfBytes bytes).toList]
  | .fail text => freeWords text
  | .spin milliseconds => [(toString milliseconds).toList]

/-- A statement as it is printed. -/
def print (statement : Statement) : List Char :=
  Text.joinWords (statement.keyword.toList :: statement.arguments)

/-- The words of the statement can be told apart, and free text stays on its line. -/
def IsPrintable : Statement → Prop
  | .charge amount => Quantity.InRange amount
  | .set name value => IsToken name.toList ∧ value.IsPrintable
  | .call name pairs | .insert name pairs => IsToken name.toList ∧ ∀ pair ∈ pairs, IsPrintablePair pair
  | .update table id values =>
    IsToken table.toList ∧ id.IsPrintable ∧ ∀ pair ∈ values, IsPrintablePair pair
  | .select table id columns => IsToken table.toList ∧ id.IsPrintable ∧
      ∀ column ∈ columns, IsToken column.toList ∧ ',' ∉ column.toList
  | .require text | .fail text => Clean text.toList
  | .condition param _ => IsToken param.toList
  | .activate tableId ecosystem _ => tableId.IsPrintable ∧ ecosystem.IsPrintable
  | .wallet tableId ecosystem owner => tableId.IsPrintable ∧ ecosystem.IsPrintable ∧ owner.IsPrintable
  | .notify key payload => key.IsPrintable ∧ Clean payload.toList
  | .result value => value.IsPrintable
  | .resultBytes bytes => bytes ≠ []
  | .spin milliseconds => milliseconds < 18446744073709551616

instance (statement : Statement) : Decidable statement.IsPrintable :=
  match statement with
  | .charge amount => inferInstanceAs (Decidable (Quantity.InRange amount))
  | .set _ _ | .call _ _ | .insert _ _ | .update _ _ _ | .select _ _ _ | .activate _ _ _
  | .wallet _ _ _ | .notify _ _ => inferInstanceAs (Decidable (_ ∧ _))
  | .require _ | .fail _ => inferInstanceAs (Decidable (Clean _))
  | .condition _ _ => inferInstanceAs (Decidable (IsToken _))
  | .result value => inferInstanceAs (Decidable value.IsPrintable)
  | .resultBytes _ => inferInstanceAs (Decidable (_ ≠ _))
  | .spin _ => inferInstanceAs (Decidable (_ < _))

/-- The statement calls its contract by the full name. -/
def qualify (ecosystem : Int) : Statement → Statement
  | .call target fields => .call (ContractName.qualify ecosystem target) fields
  | statement => statement

end Statement

/-- The words of a declared input. -/
def FieldDeclaration.words (field : FieldDeclaration) : List (List Char) :=
  field.name.toList :: field.typeName.toList :: if field.optional then ["optional".toList] else []

/-- A declared input as it is printed. -/
def FieldDeclaration.print (field : FieldDeclaration) : List Char :=
  Text.joinWords field.words

/-- The name and the type of the input are words. -/
def FieldDeclaration.IsPrintable (field : FieldDeclaration) : Prop :=
  IsToken field.name.toList ∧ IsToken field.typeName.toList

instance (field : FieldDeclaration) : Decidable field.IsPrintable :=
  inferInstanceAs (Decidable (_ ∧ _))

namespace Script

/-- The line that opens a block. -/
def opening (words : List String) : List Char :=
  Text.joinWords (words.map String.toList ++ [['\x7b']])

/-- The line that closes a block. -/
def closing : List Char := ['\x7d']

/-- The lines of a part of a contract. -/
def Section.print : Section → List (List Char)
  | .data fields => opening ["data"] :: (fields.map FieldDeclaration.print ++ [closing])
  | .method name statements => opening [name] :: (statements.map Statement.print ++ [closing])

/-- The lines of a unit. -/
def Declaration.print : Declaration → List (List Char)
  | .contract name sections =>
    opening ["contract", name] :: (sections.flatMap Section.print ++ [closing])
  | .function name body => opening ["func", name] :: (body.map Statement.print ++ [closing])

/-- The inputs of a part of a contract, or the statements of a method and its name, are printable. -/
def Section.IsPrintable : Section → Prop
  | .data fields => ∀ field ∈ fields, field.IsPrintable
  | .method name statements =>
    IsName name ∧ name ≠ "data" ∧ ∀ statement ∈ statements, statement.IsPrintable

instance (part : Section) : Decidable part.IsPrintable :=
  match part with
  | .data fields => inferInstanceAs (Decidable (∀ field ∈ fields, field.IsPrintable))
  | .method _ _ => inferInstanceAs (Decidable (_ ∧ _))

/-- The inputs that a part of a contract declares. -/
def Section.fields : Section → List FieldDeclaration
  | .data fields => fields
  | .method _ _ => []

/-- The method that a part of a contract is, if it is one, with its statements. -/
def Section.methods : Section → List (String × List Statement)
  | .data _ => []
  | .method name statements => [(name, statements)]

namespace Declaration

/-- The name of a unit. -/
def name : Declaration → String
  | .contract name _ | .function name _ => name

/-- The kind of a unit. -/
def kind : Declaration → UnitKind
  | .contract _ _ => .contract
  | .function _ _ => .function

/-- The inputs of a unit, from all of its data blocks. -/
def fields : Declaration → List FieldDeclaration
  | .contract _ sections => sections.flatMap Section.fields
  | .function _ _ => []

/-- The methods of a unit and their statements. -/
def methods : Declaration → List (String × List Statement)
  | .contract _ sections => sections.flatMap Section.methods
  | .function _ body => [("body", body)]

/-- The unit has a name, and so have its methods, all of them different. -/
def IsPrintable : Declaration → Prop
  | .contract name sections => IsName name ∧ (∀ part ∈ sections, part.IsPrintable) ∧
      ((sections.flatMap Section.methods).map Prod.fst).Nodup
  | .function name body => IsName name ∧ ∀ statement ∈ body, statement.IsPrintable

instance (declaration : Declaration) : Decidable declaration.IsPrintable :=
  match declaration with
  | .contract _ _ | .function _ _ => inferInstanceAs (Decidable (_ ∧ _))

end Declaration

/-! ## What is printed is clean -/

variable {text : List Char} {words parts : List (List Char)} {operand : Operand}
  {pair : String × Operand} {statement : Statement} {name : String} {field : FieldDeclaration}

theorem isToken_of_forall (hne : text ≠ []) (h : ∀ c ∈ text, Text.isBlank c = false ∧ c ≠ '/') :
    IsToken text where
  nonempty := hne
  solid c hc := (h c hc).1
  uncommented hslashes := (h '/' (hslashes.subset List.mem_cons_self)).2 rfl

/-- A test for words that do not even hold a slash. -/
theorem isToken_of_all (h : (!text.isEmpty && text.all fun c => !Text.isBlank c && c != '/') = true) :
    IsToken text := by
  simp only [Bool.and_eq_true, Bool.not_eq_true', List.isEmpty_eq_false_iff, List.all_eq_true,
    bne_iff_ne] at h
  exact isToken_of_forall h.1 h.2

theorem IsToken.clean (h : IsToken text) : Clean text where
  trimmed := Text.isTrimmed_of_solid h.solid
  uncommented := h.uncommented
  single hmem := absurd (h.solid '\n' hmem) (by decide)

theorem IsToken.append {front back : List Char} {c : Char} (hfront : IsToken front)
    (hback : IsToken back) (hblank : Text.isBlank c = false) (hc : c ≠ '/') :
    IsToken (front ++ c :: back) where
  nonempty := by simp
  solid := List.forall_mem_append.mpr ⟨hfront.solid, List.forall_mem_cons.mpr ⟨hblank, hback.solid⟩⟩
  uncommented := hfront.uncommented.append hback.uncommented hc

theorem clean_joinWords (h : ∀ word ∈ words, word ≠ [] ∧ Clean word) :
    Clean (Text.joinWords words) := by
  induction words with
  | nil => exact clean_nil
  | cons word rest ih =>
    obtain ⟨⟨hne, hword⟩, hrest⟩ := List.forall_mem_cons.mp h
    have htrimmed : ∀ part ∈ word :: rest, part ≠ [] ∧ Text.IsTrimmed part :=
      fun part hpart => ⟨(h part hpart).1, (h part hpart).2.trimmed⟩
    by_cases hnone : rest = []
    · rwa [hnone, Text.joinWords, List.intercalate_singleton]
    · refine ⟨Text.isTrimmed_joinWords htrimmed, ?_, ?_⟩
      · rw [Text.joinWords_cons word hnone]
        exact hword.uncommented.append (ih hrest).uncommented (by decide)
      · rw [Text.joinWords_cons word hnone]
        simp [hword.single, (ih hrest).single]

theorem isToken_of_isName (h : IsName name) : IsToken name.toList := by
  refine isToken_of_forall (fun hnil => h.1 (String.toList_inj.mp hnil)) fun c hc => ?_
  have hname := List.all_eq_true.mp h.2 c hc
  refine ⟨?_, ?_⟩
  · have heither : Text.isAlphanumeric c = true ∨ c = '_' := by simpa [isNameChar] using hname
    rcases heither with halpha | rfl
    · exact Text.isBlank_of_isAlphanumeric halpha
    · decide
  · rintro rfl
    exact absurd hname (by decide)

theorem plain_of_isDigit {c : Char} (h : c.isDigit = true) : Text.isBlank c = false ∧ c ≠ '/' := by
  refine ⟨Text.isBlank_of_isAlphanumeric (Text.isAlphanumeric_of_isDigit h), ?_⟩
  rintro rfl
  exact absurd h (by decide)

theorem isToken_nat (n : Nat) : IsToken (toString n).toList := by
  have hdigits : (toString n).toList = Nat.toDigits 10 n := Nat.toList_repr
  rw [hdigits]
  exact isToken_of_forall Nat.toDigits_ne_nil fun c hc =>
    plain_of_isDigit (Text.isDigit_of_mem_toDigits hc)

theorem isToken_int (n : Int) : IsToken (toString n).toList := by
  cases n with
  | ofNat n => exact isToken_nat n
  | negSucc n =>
    rw [Text.toList_toString_negSucc]
    refine isToken_of_forall (List.cons_ne_nil _ _) (List.forall_mem_cons.mpr ⟨by decide, ?_⟩)
    exact fun c hc => plain_of_isDigit (Text.isDigit_of_mem_toDigits hc)

theorem isToken_operand (h : operand.IsPrintable) : IsToken operand.print := by
  cases operand with
  | «variable» name => exact h
  | int n => exact isToken_int n
  | text s => exact h.1

theorem IsPrintablePair.isToken (h : IsPrintablePair pair) : IsToken (printPair pair) :=
  h.token.append (isToken_operand h.operand) (by decide) (by decide)

theorem isToken_intercalate (hne : parts ≠ []) (h : ∀ part ∈ parts, IsToken part) :
    IsToken ([','].intercalate parts) := by
  induction parts with
  | nil => exact absurd rfl hne
  | cons part rest ih =>
    obtain ⟨hpart, hrest⟩ := List.forall_mem_cons.mp h
    cases rest with
    | nil => rwa [List.intercalate_singleton]
    | cons next rest =>
      rw [List.intercalate_cons_cons, List.append_assoc, List.singleton_append]
      exact hpart.append (ih (List.cons_ne_nil _ _) hrest) (by decide) (by decide)

theorem isToken_hex {bytes : List UInt8} (hne : bytes ≠ []) :
    IsToken (Text.hexOfBytes bytes).toList := by
  refine isToken_of_forall (Text.hexOfBytes_ne_nil hne) fun c hc => ?_
  obtain ⟨n, hn, rfl⟩ := Text.exists_hexDigit_of_mem hc
  have hall : ∀ n < 16, Text.isBlank (Text.hexDigit n) = false ∧ Text.hexDigit n ≠ '/' := by decide
  exact hall n hn

/-- The statement ends with free text. -/
def takesText : Statement → Bool
  | .require _ | .notify _ _ | .fail _ => true
  | _ => false

/-- What stands behind the keyword of a statement are words, but for free text. -/
theorem isToken_arguments (h : statement.IsPrintable) (htext : takesText statement = false) :
    ∀ word ∈ statement.arguments, IsToken word := by
  have hpairs : ∀ {pairs : List (String × Operand)}, (∀ pair ∈ pairs, IsPrintablePair pair) →
      ∀ word ∈ pairs.map printPair, IsToken word := by
    intro pairs hpairs word hword
    obtain ⟨pair, hpair, rfl⟩ := List.mem_map.mp hword
    exact (hpairs pair hpair).isToken
  cases statement with
  | charge amount => exact List.forall_mem_singleton.mpr (isToken_int amount)
  | set name value => simpa [Statement.arguments] using ⟨h.1, isToken_operand h.2⟩
  | call target fields => exact List.forall_mem_cons.mpr ⟨h.1, hpairs h.2⟩
  | insert table values => exact List.forall_mem_cons.mpr ⟨h.1, hpairs h.2⟩
  | update table id values =>
    exact List.forall_mem_cons.mpr ⟨h.1, List.forall_mem_cons.mpr ⟨isToken_operand h.2.1, hpairs h.2.2⟩⟩
  | select table id columns =>
    refine List.forall_mem_cons.mpr ⟨h.1, List.forall_mem_cons.mpr ⟨isToken_operand h.2.1, ?_⟩⟩
    split
    next => exact List.forall_mem_nil _
    next hne =>
      have hcolumns : columns.map String.toList ≠ [] := by simpa using hne
      refine List.forall_mem_singleton.mpr (isToken_intercalate hcolumns fun part hpart => ?_)
      obtain ⟨column, hcolumn, rfl⟩ := List.mem_map.mp hpart
      exact (h.2.2 column hcolumn).1
  | condition param useConditions =>
    refine List.forall_mem_cons.mpr ⟨h, ?_⟩
    split
    next => exact List.forall_mem_singleton.mpr (isToken_of_all (by decide))
    next => exact List.forall_mem_nil _
  | activate tableId ecosystem active =>
    simp only [Statement.arguments, List.forall_mem_cons]
    refine ⟨isToken_operand h.1, isToken_operand h.2, ?_, List.forall_mem_nil _⟩
    cases active with
    | true => exact isToken_of_all (by decide)
    | false => exact isToken_of_all (by decide)
  | wallet tableId ecosystem owner =>
    simpa [Statement.arguments] using
      ⟨isToken_operand h.1, isToken_operand h.2.1, isToken_operand h.2.2⟩
  | result value => exact List.forall_mem_singleton.mpr (isToken_operand h)
  | resultBytes bytes => exact List.forall_mem_singleton.mpr (isToken_hex h)
  | spin milliseconds => exact List.forall_mem_singleton.mpr (isToken_nat milliseconds)
  | require _ | notify _ _ | fail _ => cases htext

theorem clean_freeWords {text : String} (h : Clean text.toList) :
    ∀ word ∈ freeWords text, word ≠ [] ∧ Clean word := by
  unfold freeWords
  split
  next => exact List.forall_mem_nil _
  next hne =>
    refine List.forall_mem_singleton.mpr ⟨fun hnil => hne (String.toList_inj.mp hnil), h⟩

/-- What stands behind the keyword of a statement is clean. -/
theorem clean_arguments (h : statement.IsPrintable) :
    ∀ word ∈ statement.arguments, word ≠ [] ∧ Clean word := by
  cases htext : takesText statement with
  | false =>
    intro word hword
    have htoken := isToken_arguments h htext word hword
    exact ⟨htoken.nonempty, htoken.clean⟩
  | true =>
    cases statement with
    | require text | fail text => exact clean_freeWords h
    | notify key payload =>
      have hkey := isToken_operand h.1
      exact List.forall_mem_cons.mpr ⟨⟨hkey.nonempty, hkey.clean⟩, clean_freeWords h.2⟩
    | _ => cases htext

theorem isToken_keyword (statement : Statement) : IsToken statement.keyword.toList := by
  cases statement <;> (rw [Statement.keyword]; exact isToken_of_all (by decide))

/-- A printed statement is clean. -/
theorem clean_statement (h : statement.IsPrintable) : Clean statement.print := by
  have hkeyword := isToken_keyword statement
  exact clean_joinWords
    (List.forall_mem_cons.mpr ⟨⟨hkeyword.nonempty, hkeyword.clean⟩, clean_arguments h⟩)

theorem isToken_fieldWords (h : field.IsPrintable) : ∀ word ∈ field.words, IsToken word := by
  refine List.forall_mem_cons.mpr ⟨h.1, List.forall_mem_cons.mpr ⟨h.2, ?_⟩⟩
  split
  next => exact List.forall_mem_singleton.mpr (isToken_of_all (by decide))
  next => exact List.forall_mem_nil _

theorem clean_of_tokens (h : ∀ word ∈ words, IsToken word) : Clean (Text.joinWords words) :=
  clean_joinWords fun word hword => ⟨(h word hword).nonempty, (h word hword).clean⟩

theorem isToken_opening {names : List String} (h : ∀ name ∈ names, IsToken name.toList) :
    ∀ word ∈ names.map String.toList ++ [['\x7b']], IsToken word := by
  refine List.forall_mem_append.mpr ⟨fun word hword => ?_, ?_⟩
  · obtain ⟨name, hname, rfl⟩ := List.mem_map.mp hword
    exact h name hname
  · exact List.forall_mem_singleton.mpr (isToken_of_all (by decide))

theorem clean_closing : Clean closing := by
  have hbrace : IsToken closing := isToken_of_all (by decide)
  exact hbrace.clean

/-- A block is clean if what stands in it is. -/
theorem clean_block {names : List String} {lines : List (List Char)}
    (hnames : ∀ name ∈ names, IsToken name.toList) (hlines : ∀ line ∈ lines, Clean line) :
    ∀ line ∈ opening names :: (lines ++ [closing]), Clean line := by
  refine List.forall_mem_cons.mpr ⟨clean_of_tokens (isToken_opening hnames), ?_⟩
  exact List.forall_mem_append.mpr ⟨hlines, List.forall_mem_singleton.mpr clean_closing⟩

theorem clean_statements {statements : List Statement}
    (h : ∀ statement ∈ statements, statement.IsPrintable) :
    ∀ line ∈ statements.map Statement.print, Clean line := by
  intro line hline
  obtain ⟨statement, hstatement, rfl⟩ := List.mem_map.mp hline
  exact clean_statement (h statement hstatement)

theorem clean_section {part : Section} (h : part.IsPrintable) : ∀ line ∈ part.print, Clean line := by
  cases part with
  | data fields =>
    refine clean_block (List.forall_mem_singleton.mpr ?_) fun line hline => ?_
    · exact isToken_of_all (by decide)
    · obtain ⟨field, hfield, rfl⟩ := List.mem_map.mp hline
      exact clean_of_tokens (isToken_fieldWords (h field hfield))
  | method name statements =>
    exact clean_block (List.forall_mem_singleton.mpr (isToken_of_isName h.1)) (clean_statements h.2.2)

/-- All lines of a printable unit are clean. -/
theorem clean_declaration {declaration : Declaration} (h : declaration.IsPrintable) :
    ∀ line ∈ declaration.print, Clean line := by
  have hkeyword : IsToken "contract".toList ∧ IsToken "func".toList :=
    ⟨isToken_of_all (by decide), isToken_of_all (by decide)⟩
  cases declaration with
  | contract name sections =>
    refine clean_block ?_ fun line hline => ?_
    · simpa using ⟨hkeyword.1, isToken_of_isName h.1⟩
    · obtain ⟨part, hpart, hline⟩ := List.mem_flatMap.mp hline
      exact clean_section (h.2.1 part hpart) line hline
  | function name body =>
    refine clean_block ?_ (clean_statements h.2)
    simpa using ⟨hkeyword.2, isToken_of_isName h.1⟩

end Script

end Covenant
