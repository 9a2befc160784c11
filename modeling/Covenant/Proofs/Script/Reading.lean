import Covenant.Proofs.Dict
import Covenant.Proofs.Script.Statements

/-!
# Printed programs are read

The lines of a program lead the reader from one unit to the next. A line that opens a block is read by
its name; inputs and statements go into the unit that is open, one by one, up to the brace that closes
their block. So a part of a contract adds to the open unit what stands in it, and at the end of a unit no
block is open.
-/

namespace Covenant

namespace Script

variable {ecosystem : Int} {number : Nat} {name : String} {unit : SourceUnit} {units : List SourceUnit}
  {field : FieldDeclaration} {statement : Statement} {statements : List Statement}

/-! ## Lines -/

theorem opening_singleton (name : String) :
    opening [name] = name.toList ++ [' ', '\x7b'] := by
  simp [opening, Text.joinWords, List.intercalate_cons_cons, List.intercalate_singleton]

theorem opening_pair (keyword name : String) :
    opening [keyword, name] = (keyword ++ " ").toList ++ opening [name] := by
  simp [opening, Text.joinWords, List.intercalate_cons_cons, List.intercalate_singleton]

/-- A name is read from the line that it opens a block with. -/
theorem headerName_opening (h : IsName name) :
    headerName number (opening [name]) = .ok name := by
  have htoken := isToken_of_isName h
  have hblank : ∀ c ∈ [' '], Text.isBlank c = true := List.forall_mem_singleton.mpr (by decide)
  have hpad : Text.trim ([] ++ (name.toList ++ [' '])) = name.toList :=
    Text.trim_pad (Text.isTrimmed_of_solid htoken.solid) (List.forall_mem_nil _) hblank
  have hdrop : (name.toList ++ [' ', '\x7b']).dropLast = name.toList ++ [' '] := by
    rw [List.append_cons, List.dropLast_concat]
  have hlast : (name.toList ++ [' ', '\x7b']).getLast? = some '\x7b' := by simp
  have hsome : name.toList.isEmpty = false := List.isEmpty_eq_false_iff.mpr htoken.nonempty
  unfold headerName
  rw [opening_singleton, hdrop, ← List.nil_append (name.toList ++ [' ']), hpad, hlast]
  dsimp only
  rw [hsome, h.2, String.ofList_toList]
  rfl

/-- A line with a text on it is read in the block that is open. -/
theorem readLine_of_ne_nil {text : List Char} (hne : text ≠ []) (progress : Progress) :
    readLine ecosystem number text progress =
      match progress.block with
      | .top => readTop number text progress
      | .contract => readInContract number text progress
      | .data => readInData number text progress
      | .method name => readInMethod ecosystem name number text progress := by
  have hfull : ¬text.isEmpty = true := by simpa using hne
  unfold readLine
  exact if_neg hfull

theorem readLine_contract_opening (h : IsName name) :
    readLine ecosystem number (opening ["contract", name]) ⟨units, .top⟩ =
      .ok ⟨emptyUnit name .contract :: units, .contract⟩ := by
  have hstart : Text.afterStart? "contract ".toList (opening ["contract", name]) =
      some (opening [name]) := by
    rw [opening_pair]
    exact afterStart?_append _ _
  rw [readLine_of_ne_nil (by rw [opening_pair]; exact List.cons_ne_nil _ _)]
  dsimp only
  rw [readTop, hstart]
  dsimp only
  rw [headerName_opening h]
  rfl

theorem readLine_function_opening (h : IsName name) :
    readLine ecosystem number (opening ["func", name]) ⟨units, .top⟩ =
      .ok ⟨emptyUnit name .function :: units, .method "body"⟩ := by
  have hnone : Text.afterStart? "contract ".toList (opening ["func", name]) = none := by
    rw [opening_pair]
    rfl
  have hstart : Text.afterStart? "func ".toList (opening ["func", name]) =
      some (opening [name]) := by
    rw [opening_pair]
    exact afterStart?_append _ _
  rw [readLine_of_ne_nil (by rw [opening_pair]; exact List.cons_ne_nil _ _)]
  dsimp only
  rw [readTop, hnone, hstart]
  dsimp only
  rw [headerName_opening h]
  rfl

theorem readLine_data_opening :
    readLine ecosystem number (opening ["data"]) ⟨units, .contract⟩ = .ok ⟨units, .data⟩ :=
  rfl

/-- The line opens a method of the contract that is open. -/
theorem readLine_method_opening (h : IsName name) (hdata : name ≠ "data")
    (hnew : Dict.has name unit.methods = false) :
    readLine ecosystem number (opening [name]) ⟨unit :: units, .contract⟩ =
      .ok ⟨{ unit with methods := openMethod name unit.methods } :: units, .method name⟩ := by
  have hclosing : ¬(opening [name] == ['\x7d']) = true := by
    rw [beq_iff_eq, opening_singleton]
    intro hsame
    have hlast := congrArg List.getLast? hsame
    simp at hlast
  have hopening : ¬(opening [name] == "data \x7b".toList) = true := by
    rw [beq_iff_eq, opening_singleton]
    intro hsame
    have hname : name.toList = "data".toList := List.append_cancel_right hsame
    exact hdata (String.toList_inj.mp hname)
  rw [readLine_of_ne_nil (by rw [opening_singleton]; simp)]
  dsimp only
  rw [readInContract, if_neg hclosing, if_neg hopening, headerName_opening h, ok_bind]
  dsimp only
  rw [List.head?_cons, Option.any_some, hnew, if_neg Bool.false_ne_true]
  rfl

/-- An input is read back. -/
theorem readField_print (h : field.IsPrintable) : readField number field.print = .ok field := by
  have hwords : Text.words field.print = field.words := words_of_tokens (isToken_fieldWords h)
  obtain ⟨name, typeName, optional⟩ := field
  have hlist : (FieldDeclaration.words ⟨name, typeName, optional⟩).map String.ofList =
      name :: typeName :: if optional then ["optional"] else [] := by
    rw [FieldDeclaration.words, List.map_cons, List.map_cons, String.ofList_toList,
      String.ofList_toList]
    cases optional with
    | true => rfl
    | false => rfl
  unfold readField
  rw [hwords, hlist]
  cases optional with
  | true => rfl
  | false => rfl

theorem readLine_field (h : field.IsPrintable) :
    readLine ecosystem number field.print ⟨unit :: units, .data⟩ =
      .ok ⟨{ unit with fields := unit.fields ++ [field] } :: units, .data⟩ := by
  have hwords : Text.words field.print = field.words := words_of_tokens (isToken_fieldWords h)
  have hlength : 2 ≤ (Text.words field.print).length := by
    rw [hwords, FieldDeclaration.words, List.length_cons, List.length_cons]
    omega
  have hne : field.print ≠ [] := by
    intro hnil
    rw [hnil] at hlength
    exact absurd hlength (by decide)
  have hclosing : ¬(field.print == ['\x7d']) = true := by
    rw [beq_iff_eq]
    intro hsame
    rw [hsame] at hlength
    exact absurd hlength (by decide)
  rw [readLine_of_ne_nil hne]
  dsimp only
  rw [readInData, if_neg hclosing, readField_print h]
  rfl

theorem readLine_statement (h : statement.IsPrintable) (hrequire : statement ≠ .require "") :
    readLine ecosystem number statement.print ⟨unit :: units, .method name⟩ =
      .ok ⟨{ unit with
        methods := addStatement name (statement.qualify ecosystem) unit.methods
        used := addUsed (statement.qualify ecosystem) unit.used } :: units, .method name⟩ := by
  have hsplit := splitKeyword_print h
  have hkeyword : statement.keyword.toList ≠ [] ∧ statement.keyword.toList ≠ ['\x7d'] := by
    cases statement <;> simp [Statement.keyword]
  have hne : statement.print ≠ [] := by
    intro hnil
    rw [hnil] at hsplit
    exact hkeyword.1 (congrArg Prod.fst hsplit).symm
  have hclosing : ¬(statement.print == ['\x7d']) = true := by
    rw [beq_iff_eq]
    intro hsame
    rw [hsame] at hsplit
    exact hkeyword.2 (congrArg Prod.fst hsplit).symm
  rw [readLine_of_ne_nil hne]
  dsimp only
  rw [readInMethod, if_neg hclosing, readStatement_print h hrequire]
  rfl

/-! ## Units -/

/-- A unit with more inputs. -/
def addInputs (fields : List FieldDeclaration) (unit : SourceUnit) : SourceUnit :=
  { unit with fields := unit.fields ++ fields }

/-- A unit with more statements in a method. -/
def addMethod (ecosystem : Int) (name : String) (statements : List Statement) (unit : SourceUnit) :
    SourceUnit :=
  { unit with
    methods := Dict.insert name ((Dict.find? name unit.methods).getD [] ++
      statements.map (Statement.qualify ecosystem)) unit.methods
    used := statements.foldl (fun used statement => addUsed (statement.qualify ecosystem) used)
      unit.used }

/-- A unit with one more part. -/
def addSection (ecosystem : Int) (unit : SourceUnit) : Section → SourceUnit
  | .data fields => addInputs fields unit
  | .method name statements => addMethod ecosystem name statements unit

/-- What a unit compiles to. -/
def compiled (ecosystem : Int) : Declaration → SourceUnit
  | .contract name sections => sections.foldl (addSection ecosystem) (emptyUnit name .contract)
  | .function name body => addMethod ecosystem "body" body (emptyUnit name .function)

theorem find?_addMethod (ecosystem : Int) (method name : String) (statements : List Statement)
    (unit : SourceUnit) : Dict.find? method (addMethod ecosystem name statements unit).methods =
      if name = method then some ((Dict.find? name unit.methods).getD [] ++
        statements.map (Statement.qualify ecosystem)) else Dict.find? method unit.methods := by
  rw [addMethod, Dict.find?_insert]

/-- It makes no difference to a method whether it was open. -/
theorem addMethod_openMethod (name : String) (statements : List Statement) (unit : SourceUnit) :
    addMethod ecosystem name statements { unit with methods := openMethod name unit.methods } =
      addMethod ecosystem name statements unit := by
  simp only [addMethod, openMethod, Dict.find?_insert, if_true, Option.getD_some, Dict.insert_insert]

/-- Statements are added one by one. -/
theorem addMethod_addStatement (name : String) (statement : Statement) (statements : List Statement)
    (unit : SourceUnit) :
    addMethod ecosystem name statements
        { unit with
          methods := addStatement name (statement.qualify ecosystem) unit.methods
          used := addUsed (statement.qualify ecosystem) unit.used } =
      addMethod ecosystem name (statement :: statements) unit := by
  simp only [addMethod, addStatement, Dict.find?_insert, if_true, Option.getD_some,
    Dict.insert_insert, List.append_assoc, List.map_cons, List.foldl_cons, List.singleton_append]

/-- The block behind the methods of a unit. -/
def blockBehind : UnitKind → Block
  | .contract => .contract
  | .function => .top

/-- Inputs up to the end of their block are read into the open unit. -/
theorem readsTo_fields {fields : List FieldDeclaration} (h : ∀ field ∈ fields, field.IsPrintable) :
    ReadsTo ecosystem (fields.map FieldDeclaration.print ++ [closing]) ⟨unit :: units, .data⟩
      ⟨addInputs fields unit :: units, .contract⟩ := by
  induction fields generalizing unit with
  | nil =>
    have hunit : addInputs [] unit = unit := by rw [addInputs, List.append_nil]
    rw [hunit]
    exact .cons (fun number => rfl) (.nil _)
  | cons field rest ih =>
    obtain ⟨hfield, hrest⟩ := List.forall_mem_cons.mp h
    have hunit : addInputs rest { unit with fields := unit.fields ++ [field] } =
        addInputs (field :: rest) unit := by
      simp only [addInputs, List.append_assoc, List.singleton_append]
    rw [← hunit]
    exact .cons (fun number => readLine_field hfield) (ih hrest)

/-- Statements up to the end of their method are read into the open unit. -/
theorem readsTo_statements (h : ∀ statement ∈ statements, statement.IsPrintable)
    (hrequire : .require "" ∉ statements) :
    ReadsTo ecosystem (statements.map Statement.print ++ [closing]) ⟨unit :: units, .method name⟩
      ⟨addMethod ecosystem name statements unit :: units, blockBehind unit.kind⟩ := by
  induction statements generalizing unit with
  | nil =>
    have hunit : addMethod ecosystem name [] unit =
        { unit with methods := openMethod name unit.methods } := by
      simp only [addMethod, openMethod, List.map_nil, List.append_nil, List.foldl_nil]
    rw [hunit]
    -- The brace leaves a method behind that has no statement, and it ends a function.
    obtain ⟨unitName, kind, fields, methods, used⟩ := unit
    cases kind with
    | contract => exact .cons (fun number => rfl) (.nil _)
    | function => exact .cons (fun number => rfl) (.nil _)
  | cons statement rest ih =>
    obtain ⟨hstatement, hrest⟩ := List.forall_mem_cons.mp h
    have hne : statement ≠ .require "" := fun heq => hrequire (heq ▸ List.mem_cons_self)
    rw [← addMethod_addStatement]
    exact .cons (fun number => readLine_statement hstatement hne)
      (ih hrest fun hmem => hrequire (List.mem_cons_of_mem _ hmem))

/-- A part of a contract is read into it. -/
theorem readsTo_section {part : Section} (h : part.IsPrintable)
    (hrequire : ∀ method ∈ part.methods, Statement.require "" ∉ method.2)
    (hkind : unit.kind = .contract)
    (hnew : ∀ method ∈ part.methods, Dict.has method.1 unit.methods = false) :
    ReadsTo ecosystem part.print ⟨unit :: units, .contract⟩
      ⟨addSection ecosystem unit part :: units, .contract⟩ := by
  cases part with
  | data fields => exact .cons (fun number => readLine_data_opening) (readsTo_fields h)
  | method name statements =>
    have hname := hnew (name, statements) List.mem_cons_self
    refine .cons (fun number => readLine_method_opening h.1 h.2.1 hname) ?_
    have hblock : blockBehind unit.kind = .contract := by
      rw [hkind]
      rfl
    rw [addSection, ← addMethod_openMethod, ← hblock]
    exact readsTo_statements h.2.2 (hrequire (name, statements) List.mem_cons_self)

/-- A method that is new in the open contract is new there until it is read. -/
theorem has_addSection {part : Section} {method : String}
    (hnew : Dict.has method unit.methods = false)
    (hother : ∀ other ∈ part.methods, other.1 ≠ method) :
    Dict.has method (addSection ecosystem unit part).methods = false := by
  cases part with
  | data fields => exact hnew
  | method name statements =>
    rw [Dict.has, addSection, find?_addMethod, if_neg (hother (name, statements) List.mem_cons_self)]
    exact hnew

/-- The parts of a contract are read into it one by one. -/
theorem readsTo_sections {sections : List Section} (h : ∀ part ∈ sections, part.IsPrintable)
    (hrequire : ∀ method ∈ sections.flatMap Section.methods, Statement.require "" ∉ method.2)
    (hkind : unit.kind = .contract)
    (hnames : ((sections.flatMap Section.methods).map Prod.fst).Nodup)
    (hnew : ∀ method ∈ sections.flatMap Section.methods, Dict.has method.1 unit.methods = false) :
    ReadsTo ecosystem (sections.flatMap Section.print) ⟨unit :: units, .contract⟩
      ⟨sections.foldl (addSection ecosystem) unit :: units, .contract⟩ := by
  induction sections generalizing unit with
  | nil => exact .nil _
  | cons part rest ih =>
    obtain ⟨hpart, hrest⟩ := List.forall_mem_cons.mp h
    rw [List.flatMap_cons] at hrequire hnames hnew
    rw [List.map_append] at hnames
    obtain ⟨hrequirePart, hrequireRest⟩ := List.forall_mem_append.mp hrequire
    obtain ⟨hnewPart, hnewRest⟩ := List.forall_mem_append.mp hnew
    obtain ⟨-, hnamesRest, hdisjoint⟩ := List.nodup_append.mp hnames
    have hkind' : (addSection ecosystem unit part).kind = .contract := by
      cases part <;> exact hkind
    refine (readsTo_section hpart hrequirePart hkind hnewPart).append ?_
    refine ih hrest hrequireRest hkind' hnamesRest fun method hmethod => ?_
    refine has_addSection (hnewRest method hmethod) fun other hother => ?_
    exact hdisjoint _ (List.mem_map_of_mem hother) _ (List.mem_map_of_mem hmethod)

/-- A unit is read where none is open. -/
theorem readsTo_declaration {declaration : Declaration} (h : declaration.IsPrintable)
    (hrequire : ∀ method ∈ declaration.methods, Statement.require "" ∉ method.2) :
    ReadsTo ecosystem declaration.print ⟨units, .top⟩
      ⟨compiled ecosystem declaration :: units, .top⟩ := by
  cases declaration with
  | contract name sections =>
    refine .cons (fun number => readLine_contract_opening h.1) ?_
    refine (readsTo_sections h.2.1 hrequire rfl h.2.2 fun _ _ => rfl).append ?_
    exact .cons (fun number => rfl) (.nil _)
  | function name body =>
    refine .cons (fun number => readLine_function_opening h.1) ?_
    exact readsTo_statements h.2 (hrequire ("body", body) List.mem_cons_self)

/-- The units of a program are read in order. -/
theorem readsTo_program {program : List Declaration}
    (h : ∀ declaration ∈ program, declaration.IsPrintable)
    (hrequire : ∀ declaration ∈ program, ∀ method ∈ declaration.methods,
      Statement.require "" ∉ method.2) :
    ReadsTo ecosystem (program.flatMap Declaration.print) ⟨units, .top⟩
      ⟨(program.map (compiled ecosystem)).reverse ++ units, .top⟩ := by
  induction program generalizing units with
  | nil => exact .nil _
  | cons declaration rest ih =>
    obtain ⟨hdeclaration, hrest⟩ := List.forall_mem_cons.mp h
    obtain ⟨hfirst, hmore⟩ := List.forall_mem_cons.mp hrequire
    rw [List.map_cons, List.reverse_cons, List.append_assoc]
    exact (readsTo_declaration hdeclaration hfirst).append (ih hrest hmore)

end Script

end Covenant
