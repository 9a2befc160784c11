import Mathlib.Data.List.Forall2
import Covenant.Proofs.Script.Links
import Covenant.Proofs.Script.Reading

/-!
# Programs are recovered

A source that presents the lines of a program compiles to that program. The units come in its order,
with their names and kinds, with the inputs of all data blocks in order, and with the statements of each
method under its name; a unit uses the contracts that its statements call. What is in a unit follows part
by part from what was in it before.
-/

namespace Covenant

namespace Script

variable {ecosystem : Int} {isKnown : String → Bool} {name : String} {unit : SourceUnit}
  {fields : List FieldDeclaration} {methods : List (String × List Statement)}
  {statements : List Statement} {program : List Declaration} {source : String}

/-! ## What is in a unit -/

/-- The contract of this full name is called in the unit. -/
def Declaration.Calls (ecosystem : Int) (declaration : Declaration) (target : String) : Prop :=
  ∃ method ∈ declaration.methods, ∃ name fields,
    Statement.call name fields ∈ method.2 ∧ target = ContractName.qualify ecosystem name

/-- The unit has exactly these inputs and these methods. -/
structure Holds (ecosystem : Int) (fields : List FieldDeclaration)
    (methods : List (String × List Statement)) (unit : SourceUnit) : Prop where
  fields_eq : unit.fields = fields
  ascending : Dict.Ascending unit.methods
  find?_iff : ∀ method statements, Dict.find? method unit.methods = some statements ↔
    ∃ written, (method, written) ∈ methods ∧ statements = written.map (Statement.qualify ecosystem)
  sorted : unit.used.Pairwise fun a b => compare a b = .lt

/-- The unit is the one that is declared: it has the name, the kind, the inputs and the methods, and it
uses the contracts that are called, each of which it lists once. -/
structure Recovers (ecosystem : Int) (declaration : Declaration) (unit : SourceUnit) : Prop extends
    Holds ecosystem declaration.fields declaration.methods unit where
  name_eq : unit.name = declaration.name
  kind_eq : unit.kind = declaration.kind
  mem_used_iff : ∀ target, target ∈ unit.used ↔ declaration.Calls ecosystem target

theorem holds_emptyUnit (ecosystem : Int) (name : String) (kind : UnitKind) :
    Holds ecosystem [] [] (emptyUnit name kind) where
  fields_eq := rfl
  ascending := Dict.ascending_nil
  find?_iff _ _ := by simp [emptyUnit, Dict.find?]
  sorted := .nil

theorem Holds.addInputs (h : Holds ecosystem fields methods unit) (more : List FieldDeclaration) :
    Holds ecosystem (fields ++ more) methods (addInputs more unit) where
  fields_eq := congrArg (· ++ more) h.fields_eq
  ascending := h.ascending
  find?_iff := h.find?_iff
  sorted := h.sorted

theorem pairwise_addUsed {used : List String} (h : used.Pairwise fun a b => compare a b = .lt)
    (statement : Statement) : (addUsed statement used).Pairwise fun a b => compare a b = .lt := by
  unfold addUsed
  split
  next target _ => exact Dict.pairwise_insertKey h target
  next => exact h

theorem sorted_of_readLines {line : Nat} {lines : List (List Char)} {progress next : Progress}
    (h : readLines ecosystem line lines progress = .ok next)
    (hunits : ∀ unit ∈ progress.units, unit.used.Pairwise fun a b => compare a b = .lt) :
    ∀ unit ∈ next.units, unit.used.Pairwise fun a b => compare a b = .lt := by
  induction lines generalizing line progress with
  | nil =>
    rw [← Except.ok.inj h]
    exact hunits
  | cons text lines ih =>
    unfold readLines at h
    split at h
    next => cases h
    next after hread =>
      refine ih h ?_
      cases readLine_step hread with
      | skips | closesContract | opensData | closesData => exact hunits
      | heads => exact List.forall_mem_cons.mpr ⟨.nil, hunits⟩
      | opensMethod | closesMethod | declares => exact forall_updateUnit hunits fun _ hunit => hunit
      | adds => exact forall_updateUnit hunits fun _ hunit => pairwise_addUsed hunit _

/-- Every unit of a source keeps the contracts that it uses sorted. -/
theorem sorted_of_parse {units : List SourceUnit} (h : parse ecosystem source = .ok units)
    (hunit : unit ∈ units) : unit.used.Pairwise fun a b => compare a b = .lt := by
  obtain ⟨progress, hread, rfl⟩ := parse_eq_ok h
  exact sorted_of_readLines hread (List.forall_mem_nil _) unit (List.mem_reverse.mp hunit)

/-- The contracts in use stay sorted, call by call. -/
theorem pairwise_foldl_addUsed {used : List String}
    (h : used.Pairwise fun a b => compare a b = .lt) :
    (statements.foldl (fun used statement => addUsed (statement.qualify ecosystem) used)
      used).Pairwise fun a b => compare a b = .lt := by
  induction statements generalizing used with
  | nil => exact h
  | cons statement rest ih => exact ih (pairwise_addUsed h _)

theorem Holds.find?_eq_none (h : Holds ecosystem fields methods unit)
    (hnew : name ∉ methods.map Prod.fst) : Dict.find? name unit.methods = none := by
  by_contra hsome
  obtain ⟨before, hbefore⟩ := Option.ne_none_iff_exists'.mp hsome
  obtain ⟨written, hwritten, -⟩ := (h.find?_iff name before).mp hbefore
  exact hnew (List.mem_map_of_mem hwritten)

/-- A method with a new name comes to the others. -/
theorem Holds.addMethod (h : Holds ecosystem fields methods unit)
    (hnew : name ∉ methods.map Prod.fst) (statements : List Statement) :
    Holds ecosystem fields (methods ++ [(name, statements)])
      (addMethod ecosystem name statements unit) where
  fields_eq := h.fields_eq
  ascending := h.ascending.insert _ _
  find?_iff method found := by
    -- Nothing stands under the name yet, so the method has these statements only.
    rw [find?_addMethod, h.find?_eq_none hnew, Option.getD_none, List.nil_append]
    by_cases hname : name = method
    · subst hname
      have hfirst : ∀ written, (name, written) ∉ methods :=
        fun written hwritten => hnew (List.mem_map_of_mem hwritten)
      simp [hfirst, eq_comm]
    · rw [if_neg hname, h.find?_iff]
      simp [Ne.symm hname]
  sorted := pairwise_foldl_addUsed h.sorted

/-- A part of a contract adds what stands in it. -/
theorem Holds.addSection {part : Section} (h : Holds ecosystem fields methods unit)
    (hnew : ∀ method ∈ part.methods, method.1 ∉ methods.map Prod.fst) :
    Holds ecosystem (fields ++ part.fields) (methods ++ part.methods)
      (addSection ecosystem unit part) := by
  cases part with
  | data more =>
    rw [Section.methods, List.append_nil]
    exact h.addInputs more
  | method name statements =>
    rw [Section.fields, List.append_nil]
    exact h.addMethod (hnew (name, statements) List.mem_cons_self) statements

theorem Holds.addSections {sections : List Section} (h : Holds ecosystem fields methods unit)
    (hnames : ((methods ++ sections.flatMap Section.methods).map Prod.fst).Nodup) :
    Holds ecosystem (fields ++ sections.flatMap Section.fields)
      (methods ++ sections.flatMap Section.methods)
      (sections.foldl (Script.addSection ecosystem) unit) := by
  induction sections generalizing unit fields methods with
  | nil => simpa using h
  | cons part rest ih =>
    rw [List.flatMap_cons, List.flatMap_cons, ← List.append_assoc, ← List.append_assoc]
    rw [List.flatMap_cons, ← List.append_assoc] at hnames
    refine ih (h.addSection fun method hmethod hbefore => ?_) hnames
    rw [List.map_append, List.map_append] at hnames
    have hdisjoint := (List.nodup_append.mp (List.nodup_append.mp hnames).1).2.2
    exact hdisjoint _ hbefore _ (List.mem_map_of_mem hmethod) rfl

theorem name_addSections (sections : List Section) (unit : SourceUnit) :
    (sections.foldl (addSection ecosystem) unit).name = unit.name ∧
      (sections.foldl (addSection ecosystem) unit).kind = unit.kind := by
  induction sections generalizing unit with
  | nil => exact ⟨rfl, rfl⟩
  | cons part rest ih =>
    have hsame : (addSection ecosystem unit part).name = unit.name ∧
        (addSection ecosystem unit part).kind = unit.kind := by
      cases part <;> exact ⟨rfl, rfl⟩
    obtain ⟨hname, hkind⟩ := ih (addSection ecosystem unit part)
    exact ⟨hname.trans hsame.1, hkind.trans hsame.2⟩

theorem holds_compiled {declaration : Declaration} (h : declaration.IsPrintable) :
    Holds ecosystem declaration.fields declaration.methods (compiled ecosystem declaration) := by
  cases declaration with
  | contract name sections => exact (holds_emptyUnit ecosystem name .contract).addSections h.2.2
  | function name body =>
    exact (holds_emptyUnit ecosystem name .function).addMethod List.not_mem_nil body

theorem name_compiled (ecosystem : Int) (declaration : Declaration) :
    (compiled ecosystem declaration).name = declaration.name ∧
      (compiled ecosystem declaration).kind = declaration.kind := by
  cases declaration with
  | contract name sections => exact name_addSections sections _
  | function name body => exact ⟨rfl, rfl⟩

theorem call_mem_map_qualify {target : String} {pairs : List (String × Operand)} :
    Statement.call target pairs ∈ statements.map (Statement.qualify ecosystem) ↔
      ∃ name, .call name pairs ∈ statements ∧ target = ContractName.qualify ecosystem name := by
  rw [List.mem_map]
  constructor
  · rintro ⟨statement, hmem, hcall⟩
    cases statement with
    | call name fields =>
      obtain ⟨rfl, rfl⟩ := Statement.call.inj hcall
      exact ⟨name, hmem, rfl⟩
    | _ => cases hcall
  · rintro ⟨name, hmem, rfl⟩
    exact ⟨_, hmem, rfl⟩

/-- A unit with what is declared in it calls what is called there. -/
theorem Holds.calls_iff {declaration : Declaration} {target : String}
    (h : Holds ecosystem declaration.fields declaration.methods unit) :
    Calls unit.methods target ↔ declaration.Calls ecosystem target := by
  constructor
  · rintro ⟨method, found, pairs, hfind, hcall⟩
    obtain ⟨written, hwritten, rfl⟩ := (h.find?_iff method found).mp hfind
    obtain ⟨name, hmem, htarget⟩ := call_mem_map_qualify.mp hcall
    exact ⟨(method, written), hwritten, name, pairs, hmem, htarget⟩
  · rintro ⟨⟨method, written⟩, hwritten, name, pairs, hmem, htarget⟩
    have hfind := (h.find?_iff method _).mpr ⟨written, hwritten, rfl⟩
    exact ⟨method, _, pairs, hfind, call_mem_map_qualify.mpr ⟨name, hmem, htarget⟩⟩

/-! ## Programs -/

/-- Units with different names that can be printed, and that call contracts of each other or known
ones. -/
structure IsProgram (ecosystem : Int) (isKnown : String → Bool) (program : List Declaration) :
    Prop where
  printable : ∀ declaration ∈ program, declaration.IsPrintable
  nodup : (program.map Declaration.name).Nodup
  linked : ∀ declaration ∈ program, ∀ target, declaration.Calls ecosystem target →
    isKnown target = true ∨ ∃ other ∈ program,
      other.kind = .contract ∧ ContractName.qualify ecosystem other.name = target

/-- The program that a source presents is what the source is read as. -/
theorem parse_program (h : ∀ declaration ∈ program, declaration.IsPrintable)
    (hrequire : ∀ declaration ∈ program, ∀ method ∈ declaration.methods,
      Statement.require "" ∉ method.2)
    (hsource : Presents ShowsApart (program.flatMap Declaration.print) source) :
    parse ecosystem source = .ok (program.map (compiled ecosystem)) := by
  have hclean : ∀ line ∈ program.flatMap Declaration.print, Clean line := by
    intro line hline
    obtain ⟨declaration, hdeclaration, hline⟩ := List.mem_flatMap.mp hline
    exact clean_declaration (h declaration hdeclaration) line hline
  have hread : ReadsTo ecosystem (program.flatMap Declaration.print) ⟨[], .top⟩
      ⟨(program.map (compiled ecosystem)).reverse ++ [], .top⟩ := readsTo_program h hrequire
  rw [parse_of_presents hsource hclean hread, List.append_nil, List.reverse_reverse]

theorem recovers_compiled {declaration : Declaration} (h : declaration.IsPrintable)
    (hlinked : Linked ecosystem (compiled ecosystem declaration)) :
    Recovers ecosystem declaration (compiled ecosystem declaration) where
  toHolds := holds_compiled h
  name_eq := (name_compiled ecosystem declaration).1
  kind_eq := (name_compiled ecosystem declaration).2
  mem_used_iff target := (hlinked.called target).trans (holds_compiled h).calls_iff

/-- The units of a program pass the check. -/
theorem checkUnits_program (h : IsProgram ecosystem isKnown program)
    (hrecovers : ∀ declaration ∈ program,
      Recovers ecosystem declaration (compiled ecosystem declaration)) :
    checkUnits (fun name =>
      (declaredNames ecosystem (program.map (compiled ecosystem))).contains name || isKnown name) []
      (program.map (compiled ecosystem)) = .ok () := by
  rw [checkUnits_eq_ok_iff]
  refine ⟨?_, fun _ _ => List.not_mem_nil, ?_⟩
  · have hnames : SourceUnit.name ∘ compiled ecosystem = Declaration.name :=
      funext fun declaration => (name_compiled ecosystem declaration).1
    rw [List.map_map, hnames]
    exact h.nodup
  · intro unit hunit target htarget
    obtain ⟨declaration, hdeclaration, rfl⟩ := List.mem_map.mp hunit
    have hcalls := ((hrecovers declaration hdeclaration).mem_used_iff target).mp htarget
    rw [Bool.or_eq_true, List.contains_iff_mem]
    -- What is called is known, or it is one of the compiled contracts.
    rcases h.linked declaration hdeclaration target hcalls with hknown | ⟨other, hother, hkind, rfl⟩
    · exact .inr hknown
    · refine .inl (mem_declaredNames.mpr ⟨compiled ecosystem other, List.mem_map_of_mem hother, ?_⟩)
      obtain ⟨hname, hsame⟩ := name_compiled ecosystem other
      rw [hname, hsame]
      exact ⟨hkind, rfl⟩

/-- A program is recovered from every source that presents it, if all of its requirements have a text and
no comment directly follows a slash. -/
theorem compile_recovers (h : IsProgram ecosystem isKnown program)
    (hrequire : ∀ declaration ∈ program, ∀ method ∈ declaration.methods,
      Statement.require "" ∉ method.2)
    (hsource : Presents ShowsApart (program.flatMap Declaration.print) source) :
    ∃ units, compile ecosystem isKnown source = .ok units ∧
      List.Forall₂ (Recovers ecosystem) program units := by
  have hparse : parse ecosystem source = .ok (program.map (compiled ecosystem)) :=
    parse_program h.printable hrequire hsource
  have hrecovers : ∀ declaration ∈ program,
      Recovers ecosystem declaration (compiled ecosystem declaration) := fun declaration hmem =>
    recovers_compiled (h.printable declaration hmem)
      (linked_of_parse hparse (List.mem_map_of_mem hmem))
  refine ⟨program.map (compiled ecosystem), ?_, ?_⟩
  · rw [compile, hparse]
    dsimp only
    rw [checkUnits_program h hrecovers]
  · rw [List.forall₂_map_right_iff, List.forall₂_same]
    exact hrecovers

/-- A contract with inputs that calls another contract of the program and a known one, and a function. -/
def paymentProgram : List Declaration :=
  [.contract "Pay" [.data [⟨"Amount", "int", false⟩, ⟨"Comment", "string", true⟩],
      .method "action" [.require "$amount > 0", .call "Audit" [("amount", .variable "amount")],
        .call "@2Log" [], .result (.text "done")]],
    .contract "Audit" [],
    .function "helper" [.charge 1]]

/-- The program with a comment, an empty line and blanks in front of most lines. -/
def paymentSource : String :=
  "contract Pay \x7b // pays\n\n data \x7b\n Amount int\n Comment string optional\n \x7d\n" ++
    " action \x7b\n require $amount > 0\n call Audit amount=$amount\n call @2Log\n" ++
    " result done\n \x7d\n \x7d\n contract Audit \x7b\n \x7d\n func helper \x7b\n charge 1\n \x7d"

theorem compile_recovers_sample :
    ∃ units, compile 1 (· == "@2Log") paymentSource = .ok units ∧
      List.Forall₂ (Recovers 1) paymentProgram units := by
  have hprogram : IsProgram 1 (· == "@2Log") paymentProgram := by
    refine ⟨by decide +kernel, by decide, ?_⟩
    rintro declaration hmem target ⟨method, hmethod, name, fields, hcall, rfl⟩
    simp only [paymentProgram, List.mem_cons, List.not_mem_nil, or_false] at hmem
    rcases hmem with rfl | rfl | rfl
    · obtain rfl : method = ("action", _) := List.mem_singleton.mp hmethod
      have hname : name = "Audit" ∨ name = "@2Log" := by
        simp only [List.mem_cons, reduceCtorEq, Statement.call.injEq, List.not_mem_nil, or_false,
          false_or] at hcall
        exact hcall.imp And.left And.left
      rcases hname with rfl | rfl
      · exact .inr ⟨.contract "Audit" [], by decide +kernel, rfl, rfl⟩
      · exact .inl (by decide +kernel)
    · cases hmethod
    · obtain rfl : method = ("body", _) := List.mem_singleton.mp hmethod
      simp at hcall
  have hblank : ∀ c ∈ [' '], Text.isBlank c = true := List.forall_mem_singleton.mpr (by decide)
  have hlines : LaidOut ShowsApart (paymentProgram.flatMap Declaration.print)
      ("contract Pay \x7b // pays".toList :: [] ::
        ((paymentProgram.flatMap Declaration.print).drop 1).map ([' '] ++ ·)) := by
    refine .line ⟨[], " // pays".toList, ⟨by decide +kernel, nofun, ?_, by decide⟩, by decide +kernel⟩
      (.blank ?_ ?_)
    · exact .comment hblank
    · exact showsApart_indent (List.forall_mem_nil _) List.not_mem_nil
    · exact laidOut_map fun text _ => showsApart_indent hblank (by decide)
  exact compile_recovers hprogram (by decide +kernel) ⟨_, hlines, by decide +kernel⟩

/-- A contract with a requirement that has no text. -/
def silentProgram : List Declaration :=
  [.contract "A" [.method "action" [.require ""]]]

/-- The contract, one line for each construct. -/
def silentSource : String :=
  "contract A \x7b\naction \x7b\nrequire\n\x7d\n\x7d"

/-- A contract with an input whose type ends with a slash. -/
def slashProgram : List Declaration :=
  [.contract "A" [.data [⟨"x", "int/", false⟩]]]

/-- The contract with a comment directly behind the slash. -/
def slashSource : String :=
  "contract A \x7b\ndata \x7b\nx int///c\n\x7d\n\x7d"

/-- A requirement without a text is not read, and where a comment directly follows a slash, the comment
that is read begins with that slash. -/
theorem not_compile_recovers :
    (IsProgram 1 (fun _ => false) silentProgram ∧
      Presents Shows (silentProgram.flatMap Declaration.print) silentSource ∧
      ∀ units, compile 1 (fun _ => false) silentSource ≠ .ok units) ∧
    (IsProgram 1 (fun _ => false) slashProgram ∧
      Presents Shows (slashProgram.flatMap Declaration.print) slashSource ∧
      ∃ units, compile 1 (fun _ => false) slashSource = .ok units ∧
        ¬List.Forall₂ (Recovers 1) slashProgram units) := by
  refine ⟨⟨⟨by decide +kernel, by decide, ?_⟩, ?_, ?_⟩, ⟨by decide +kernel, by decide, ?_⟩, ?_, ?_⟩
  · rintro declaration hmem target ⟨method, hmethod, name, fields, hcall, -⟩
    obtain rfl := List.mem_singleton.mp hmem
    obtain rfl := List.mem_singleton.mp hmethod
    cases List.mem_singleton.mp hcall
  · exact ⟨_, laidOut_self _, by decide +kernel⟩
  · intro units hunits
    have hnone : (compile 1 (fun _ => false) silentSource).toOption = none := by decide +kernel
    rw [toOption_eq_some.mpr hunits] at hnone
    cases hnone
  · rintro declaration hmem target ⟨method, hmethod, -⟩
    obtain rfl := List.mem_singleton.mp hmem
    cases hmethod
  · have hcomment : Shows "x int/".toList "x int///c".toList := by
      have hnone : ∀ c ∈ ([] : List Char), Text.isBlank c = true := List.forall_mem_nil _
      exact ⟨[], "//c".toList, by decide, hnone, .comment hnone, by decide⟩
    have hlines : LaidOut Shows (slashProgram.flatMap Declaration.print)
        ("contract A \x7b".toList :: "data \x7b".toList :: "x int///c".toList ::
          [['\x7d'], ['\x7d']]) :=
      .line (shows_self _) (.line (shows_self _) (.line hcomment (laidOut_self _)))
    exact ⟨_, hlines, by decide +kernel⟩
  · have hfields : ((compile 1 (fun _ => false) slashSource).toOption.map
        (List.map SourceUnit.fields)) = some [[⟨"x", "int", false⟩]] := by decide +kernel
    obtain ⟨units, hunits, hread⟩ := Option.map_eq_some_iff.mp hfields
    refine ⟨units, toOption_eq_some.mp hunits, fun hrecovers => ?_⟩
    cases hrecovers with
    | cons hunit _ =>
      have hsame := hunit.fields_eq.symm.trans (List.cons.inj hread).1
      revert hsame
      decide

end Script

end Covenant
