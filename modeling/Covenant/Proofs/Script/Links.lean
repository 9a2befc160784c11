import Covenant.Proofs.Dict
import Covenant.Proofs.Script.Headers
import Covenant.Proofs.Text.Words

/-!
# Contracts that a source calls

The contracts that a unit uses are those that its statements call, and all of them are declared in the
source or known otherwise. What is known from other sources is what looks like a header in them. Where
a contract can begin, such a line is one; in a data block it declares an input named `contract`, and
everywhere else it keeps the source from being read. So a name that is found without being declared is
the type of such an input.
-/

namespace Covenant

/-- The input spells the header of a contract with this full name: its name is `contract`, and its type
is the name of the contract with an opening brace behind it. -/
def FieldDeclaration.Announces (field : FieldDeclaration) (ecosystem : Int) (target : String) : Prop :=
  field.name = "contract" ∧ ∃ name, Script.IsName name ∧ field.typeName = name ++ "\x7b" ∧
    target = ContractName.qualify ecosystem name

namespace Script

/-- A contract among the units has an input that spells the header of a contract with this name. -/
def Announced (ecosystem : Int) (units : List SourceUnit) (target : String) : Prop :=
  ∃ unit ∈ units, unit.kind = .contract ∧ ∃ field ∈ unit.fields, field.Announces ecosystem target

/-! ## Lines that look like headers -/

variable {ecosystem : Int} {line : Nat} {text header : List Char} {progress next : Progress}
  {name method target : String} {field : FieldDeclaration} {statement : Statement}

theorem eq_append_of_afterStart? {start rest : List Char}
    (h : Text.afterStart? start text = some rest) : text = start ++ rest := by
  induction start generalizing text with
  | nil => exact (Option.some.inj h)
  | cons s start ih =>
    cases text with
    | nil => cases h
    | cons c text =>
      unfold Text.afterStart? at h
      split at h
      next hsame => rw [eq_of_beq hsame, List.cons_append, ← ih h]
      next => cases h

/-- A header is a name, which may have blanks around it, with a brace behind it. -/
theorem headerName_eq_ok (h : headerName line header = .ok name) :
    header = header.dropLast ++ ['\x7b'] ∧ Text.trim header.dropLast = name.toList ∧
      IsName name := by
  have hname := isName_of_headerName h
  unfold headerName at h
  dsimp only at h
  split at h
  next hheader =>
    obtain rfl := Except.ok.inj h
    simp only [Bool.and_eq_true] at hheader
    obtain ⟨front, rfl⟩ := List.getLast?_eq_some_iff.mp (eq_of_beq hheader.1.1)
    exact ⟨by rw [List.dropLast_concat], String.toList_ofList.symm, hname⟩
  next => cases h

theorem solid_contract : Text.Solid "contract".toList := by
  intro c hc
  have hall : "contract".toList.all (fun c => !Text.isBlank c) = true := by decide
  simpa using List.all_eq_true.mp hall c hc

/-- The header of a contract is the keyword, a blank, and a name with a brace behind it. -/
theorem Heads.eq_append (h : Heads line text name .contract) :
    ∃ header, text = "contract".toList ++ ' ' :: header ∧ headerName line header = .ok name := by
  obtain ⟨header, hheader, hname⟩ := h
  exact ⟨header, by rw [eq_append_of_afterStart? hheader]; rfl, hname⟩

/-- The header of a contract opens no method, since there is a blank in it. -/
theorem headerName_ne_ok_of_heads (h : Heads line text name .contract) :
    headerName line text ≠ .ok method := by
  intro hmethod
  obtain ⟨header, rfl, hname⟩ := h.eq_append
  obtain ⟨hheader, htrim, hname⟩ := headerName_eq_ok hname
  obtain ⟨-, hmethod, hall⟩ := headerName_eq_ok hmethod
  have hsome : Text.trim header.dropLast ≠ [] := by
    rw [htrim]
    exact fun hnil => hname.1 (String.toList_inj.mp hnil)
  have hblank : ' ' ∈ Text.trim ("contract".toList ++ ' ' :: header.dropLast) :=
    Text.mem_trim (by decide) solid_contract hsome
  have hdrop : ("contract".toList ++ ' ' :: header).dropLast =
      "contract".toList ++ ' ' :: header.dropLast := by
    rw [hheader, List.dropLast_concat, ← List.cons_append, ← List.append_assoc,
      List.dropLast_concat]
  rw [← hdrop, hmethod] at hblank
  exact absurd (List.all_eq_true.mp hall.2 ' ' hblank) (by decide)

/-- The header of a contract is no statement. -/
theorem readStatement_ne_ok_of_heads (h : Heads line text name .contract) :
    readStatement ecosystem text ≠ .ok statement := by
  obtain ⟨header, rfl, -⟩ := h.eq_append
  have hsplit : splitKeyword ("contract".toList ++ ' ' :: header) =
      ("contract".toList, Text.trim header) := by
    rw [splitKeyword, Text.splitFirst?_append (by decide)]
  unfold readStatement
  rw [hsplit]
  nofun

/-- The header of a contract declares an input only if no blank stands in front of the brace. -/
theorem readField_of_heads (h : Heads line text name .contract)
    (hfield : readField line text = .ok field) :
    field.name = "contract" ∧ field.typeName = name ++ "\x7b" := by
  obtain ⟨header, rfl, hname⟩ := h.eq_append
  obtain ⟨hheader, htrim, -⟩ := headerName_eq_ok hname
  obtain ⟨front, word, hsplit, hsome, hword, hwords⟩ :=
    Text.exists_last_word header (by rw [hheader]; simp; decide) (by rw [hheader]; simp)
  have hlast : word.getLast? = some '\x7b' := by
    have hends := congrArg List.getLast? (hsplit.symm.trans hheader)
    obtain ⟨start, c, rfl⟩ := (List.eq_nil_or_concat word).resolve_left hsome
    simpa using hends
  unfold readField at hfield
  rw [Text.words_append (by decide), Text.words_of_solid (by decide) solid_contract, hwords] at hfield
  cases hfront : Text.words front with
  | nil =>
    rw [hfront] at hfield
    obtain rfl := Except.ok.inj hfield
    have hblank := Text.isBlank_of_words_eq_nil hfront
    obtain ⟨start, rfl⟩ := List.getLast?_eq_some_iff.mp hlast
    have hstart : Text.trim header.dropLast = start := by
      rw [hsplit, ← List.append_assoc, List.dropLast_concat]
      exact Text.trim_append hblank fun c hc => hword c (List.mem_append_left _ hc)
    refine ⟨rfl, String.toList_inj.mp ?_⟩
    rw [String.toList_append, ← htrim, hstart]
    exact String.toList_ofList
  | cons second more =>
    -- A third word could only be `optional`, which does not end with a brace.
    rw [hfront] at hfield
    cases more with
    | nil =>
      simp only [List.map_cons, List.map_nil, List.cons_append, List.nil_append] at hfield
      split at hfield
      next heq => simp at heq
      next heq =>
        obtain ⟨-, -, hoptional⟩ : _ ∧ _ ∧ String.ofList word = "optional" := by simpa using heq
        rw [← String.toList_inj, String.toList_ofList] at hoptional
        rw [hoptional] at hlast
        cases hlast
      next => cases hfield
    | cons third more => simp at hfield

/-! ## Names that are found -/

/-- Every open block stands in a unit, and nothing but a method stands in a function. -/
def Progress.IsOpen (progress : Progress) : Prop :=
  progress.block = .top ∨ ∃ unit rest, progress.units = unit :: rest ∧
    (unit.kind = .contract ∨ ∃ method, progress.block = .method method)

theorem Progress.units_updateUnit {unit : SourceUnit} {rest : List SourceUnit}
    (h : progress.units = unit :: rest) (f : SourceUnit → SourceUnit) :
    (progress.updateUnit f).units = f unit :: rest := by
  rw [Progress.updateUnit, h]

theorem Progress.block_updateUnit (progress : Progress) (f : SourceUnit → SourceUnit) :
    (progress.updateUnit f).block = progress.block := by
  unfold Progress.updateUnit
  split
  next => rfl
  next => rfl

/-- Outside of methods, what is open is a contract. -/
theorem Progress.IsOpen.exists_contract (h : progress.IsOpen)
    (hblock : progress.block = .contract ∨ progress.block = .data) :
    ∃ unit rest, progress.units = unit :: rest ∧ unit.kind = .contract := by
  rcases h with htop | ⟨unit, rest, hunits, hkind | ⟨method, hmethod⟩⟩
  · rcases hblock with hblock | hblock <;> rw [htop] at hblock <;> cases hblock
  · exact ⟨unit, rest, hunits, hkind⟩
  · rcases hblock with hblock | hblock <;> rw [hmethod] at hblock <;> cases hblock

/-- Blocks are opened and closed in units. -/
theorem Step.isOpen (hstep : Step ecosystem line text progress next) (h : progress.IsOpen) :
    next.IsOpen := by
  cases hstep with
  | skips => exact h
  | @heads name kind =>
    cases kind with
    | contract => exact .inr ⟨_, _, rfl, .inl rfl⟩
    | function => exact .inr ⟨_, _, rfl, .inr ⟨"body", rfl⟩⟩
  | closesContract => exact .inl rfl
  | opensData hblock | closesData hblock =>
    obtain ⟨unit, rest, hunits, hkind⟩ := h.exists_contract (by simp [hblock])
    exact .inr ⟨unit, rest, hunits, .inl hkind⟩
  | opensMethod hblock =>
    obtain ⟨unit, rest, hunits, hkind⟩ := h.exists_contract (.inl hblock)
    exact .inr ⟨_, rest, Progress.units_updateUnit hunits _, .inl hkind⟩
  | declares hblock =>
    obtain ⟨unit, rest, hunits, hkind⟩ := h.exists_contract (.inr hblock)
    exact .inr ⟨_, rest, Progress.units_updateUnit hunits _, .inl hkind⟩
  | closesMethod hblock =>
    rcases h with htop | ⟨unit, rest, hunits, -⟩
    · rw [htop] at hblock
      cases hblock
    · obtain ⟨name, kind, fields, methods, used⟩ := unit
      cases kind with
      | contract => exact .inr ⟨_, rest, Progress.units_updateUnit hunits _, .inl rfl⟩
      | function => exact .inl (by simp only [blockAfterMethod, hunits])
  | @adds method _ hblock =>
    rcases h with htop | ⟨unit, rest, hunits, -⟩
    · rw [htop] at hblock
      cases hblock
    · refine .inr ⟨_, rest, Progress.units_updateUnit hunits _, .inr ⟨method, ?_⟩⟩
      rw [Progress.block_updateUnit, hblock]

/-- The name of a contract among the units, or one that an input of a contract spells. -/
def Found (ecosystem : Int) (units : List SourceUnit) (target : String) : Prop :=
  target ∈ declaredNames ecosystem units ∨ Announced ecosystem units target

theorem mem_declaredNames {units : List SourceUnit} : target ∈ declaredNames ecosystem units ↔
    ∃ unit ∈ units, unit.kind = .contract ∧ ContractName.qualify ecosystem unit.name = target := by
  simp only [declaredNames, List.mem_map, List.mem_filter, decide_eq_true_eq, and_assoc]

/-- What is found among units is found among them with more inputs in them. -/
theorem Found.updateUnit {f : SourceUnit → SourceUnit}
    (hf : ∀ unit, (f unit).name = unit.name ∧ (f unit).kind = unit.kind ∧
      unit.fields ⊆ (f unit).fields)
    (h : Found ecosystem progress.units target) :
    Found ecosystem (progress.updateUnit f).units target := by
  cases hunits : progress.units with
  | nil => rwa [Progress.updateUnit, hunits]
  | cons first rest =>
    obtain ⟨hname, hkind, hfields⟩ := hf first
    rw [Progress.units_updateUnit hunits]
    rw [hunits] at h
    rcases h with hdeclared | ⟨unit, hunit, hcontract, field, hfield, hannounces⟩
    · obtain ⟨unit, hunit, hcontract, hfull⟩ := mem_declaredNames.mp hdeclared
      refine .inl (mem_declaredNames.mpr ?_)
      rcases List.mem_cons.mp hunit with rfl | hunit
      · exact ⟨_, List.mem_cons_self, hkind.trans hcontract, by rw [hname, hfull]⟩
      · exact ⟨unit, List.mem_cons_of_mem _ hunit, hcontract, hfull⟩
    · rcases List.mem_cons.mp hunit with rfl | hunit
      · exact .inr ⟨_, List.mem_cons_self, hkind.trans hcontract, field, hfields hfield, hannounces⟩
      · exact .inr ⟨unit, List.mem_cons_of_mem _ hunit, hcontract, field, hfield, hannounces⟩

/-- What has been found stays so. -/
theorem Step.found_of_found (hstep : Step ecosystem line text progress next)
    (h : Found ecosystem progress.units target) : Found ecosystem next.units target := by
  cases hstep with
  | skips | closesContract | opensData | closesData => exact h
  | heads =>
    rcases h with hdeclared | ⟨unit, hunit, hannounced⟩
    · obtain ⟨unit, hunit, hfull⟩ := mem_declaredNames.mp hdeclared
      exact .inl (mem_declaredNames.mpr ⟨unit, List.mem_cons_of_mem _ hunit, hfull⟩)
    · exact .inr ⟨unit, List.mem_cons_of_mem _ hunit, hannounced⟩
  | opensMethod | closesMethod | adds =>
    exact h.updateUnit fun _ => ⟨rfl, rfl, List.Subset.refl _⟩
  | declares => exact h.updateUnit fun _ => ⟨rfl, rfl, List.subset_append_left _ _⟩

/-- A line that looks like the header of a contract begins one, or spells it as an input. -/
theorem Step.found_of_heads (hstep : Step ecosystem line text progress next)
    (hopen : progress.IsOpen) (h : Heads line text name .contract) :
    Found ecosystem next.units (ContractName.qualify ecosystem name) := by
  obtain ⟨header, happend, hheader⟩ := h.eq_append
  cases hstep with
  | skips hempty => simp [happend] at hempty
  | closesContract _ hclose | closesData _ hclose | closesMethod _ hclose =>
    rw [happend] at hclose
    cases hclose
  | opensData _ hdata =>
    rw [happend] at hdata
    cases hdata
  | @heads other kind _ hheads =>
    obtain ⟨_, hstart, hother⟩ := hheads
    rw [happend] at hstart
    cases kind with
    | contract =>
      obtain rfl : _ = header := (Option.some.inj hstart).symm
      obtain rfl := Except.ok.inj (hheader.symm.trans hother)
      exact .inl (mem_declaredNames.mpr ⟨_, List.mem_cons_self, rfl, rfl⟩)
    | function => cases hstart
  | opensMethod _ hmethod => exact absurd hmethod (headerName_ne_ok_of_heads h)
  | adds _ hstatement => exact absurd hstatement (readStatement_ne_ok_of_heads h)
  | @declares field hblock hfield =>
    obtain ⟨unit, rest, hunits, hkind⟩ := hopen.exists_contract (.inr hblock)
    obtain ⟨hname, htype⟩ := readField_of_heads h hfield
    rw [Progress.units_updateUnit hunits]
    exact .inr ⟨_, List.mem_cons_self, hkind, field,
      List.mem_append_right _ (List.mem_singleton.mpr rfl), hname, name,
      isName_of_headerName hheader, htype, rfl⟩

/-- What has been found stays so when more lines are read. -/
theorem found_of_readLines {lines : List (List Char)}
    (h : readLines ecosystem line lines progress = .ok next)
    (hfound : Found ecosystem progress.units target) : Found ecosystem next.units target := by
  induction lines generalizing line progress with
  | nil =>
    rw [← Except.ok.inj h]
    exact hfound
  | cons text lines ih =>
    unfold readLines at h
    split at h
    next => cases h
    next after hread => exact ih h ((readLine_step hread).found_of_found hfound)

/-- The names in lines that look like headers are found among the units. -/
theorem found_of_namesInLines {lines : List (List Char)} {names : List String}
    (h : readLines ecosystem line lines progress = .ok next) (hopen : progress.IsOpen)
    (hnames : namesInLines ecosystem line lines = .ok names) (htarget : target ∈ names) :
    Found ecosystem next.units target := by
  induction lines generalizing line progress names with
  | nil =>
    rw [← Except.ok.inj hnames] at htarget
    cases htarget
  | cons text lines ih =>
    unfold readLines at h
    split at h
    next => cases h
    next after hread =>
      have hstep := readLine_step hread
      unfold namesInLines at hnames
      split at hnames
      next => exact ih h (hstep.isOpen hopen) hnames htarget
      next header hheader =>
        split at hnames
        next => cases hnames
        next name hname =>
          obtain ⟨more, hmore, rfl⟩ := map_eq_ok.mp hnames
          rcases List.mem_cons.mp htarget with rfl | htarget
          · exact found_of_readLines h (hstep.found_of_heads hopen ⟨header, hheader, hname⟩)
          · exact ih h (hstep.isOpen hopen) hmore htarget

/-- Names that are found in a source without reading it are declared in it, or spelled by an input. -/
theorem found_of_contractNames {source : String} {units : List SourceUnit} {names : List String}
    (h : parse ecosystem source = .ok units) (hnames : contractNames ecosystem source = .ok names)
    (htarget : target ∈ names) : Found ecosystem units target := by
  obtain ⟨progress, hread, rfl⟩ := parse_eq_ok h
  rcases found_of_namesInLines hread (.inl rfl) hnames htarget with
    hdeclared | ⟨unit, hunit, hannounced⟩
  · obtain ⟨unit, hunit, hfull⟩ := mem_declaredNames.mp hdeclared
    exact .inl (mem_declaredNames.mpr ⟨unit, List.mem_reverse.mpr hunit, hfull⟩)
  · exact .inr ⟨unit, List.mem_reverse.mpr hunit, hannounced⟩

/-! ## Contracts that are used -/

/-- A statement of the program calls the contract with this full name. -/
def Calls (program : Program) (target : String) : Prop :=
  ∃ method statements fields, Dict.find? method program = some statements ∧
    Statement.call target fields ∈ statements

/-- The contracts that the unit uses are those that it calls, under their full names. -/
structure Linked (ecosystem : Int) (unit : SourceUnit) : Prop where
  called : ∀ target, target ∈ unit.used ↔ Calls unit.methods target
  qualified : ∀ target ∈ unit.used, ∃ name, target = ContractName.qualify ecosystem name

/-- Statements that a method gets add the calls among them. -/
theorem calls_insert {program : Program} {more : List Statement} :
    Calls (Dict.insert method ((Dict.find? method program).getD [] ++ more) program) target ↔
      Calls program target ∨ ∃ fields, Statement.call target fields ∈ more := by
  constructor
  · rintro ⟨other, statements, fields, hfind, hcall⟩
    rw [Dict.find?_insert] at hfind
    split at hfind
    next =>
      rw [← Option.some.inj hfind] at hcall
      rcases List.mem_append.mp hcall with hbefore | hmore
      · cases hmethod : Dict.find? method program with
        | none =>
          rw [hmethod] at hbefore
          cases hbefore
        | some before =>
          rw [hmethod] at hbefore
          exact .inl ⟨method, before, fields, hmethod, hbefore⟩
      · exact .inr ⟨fields, hmore⟩
    next => exact .inl ⟨other, statements, fields, hfind, hcall⟩
  · rintro (⟨other, statements, fields, hfind, hcall⟩ | ⟨fields, hmore⟩)
    · by_cases hsame : method = other
      · subst hsame
        refine ⟨method, statements ++ more, fields, ?_, List.mem_append_left _ hcall⟩
        rw [Dict.find?_insert, if_pos rfl, hfind]
        rfl
      · refine ⟨other, statements, fields, ?_, hcall⟩
        rw [Dict.find?_insert, if_neg hsame, hfind]
    · exact ⟨method, _, fields, by rw [Dict.find?_insert, if_pos rfl],
        List.mem_append_right _ hmore⟩

/-- Opening a method adds no call. -/
theorem calls_openMethod {program : Program} :
    Calls (openMethod method program) target ↔ Calls program target := by
  have hnone : Calls (Dict.insert method ((Dict.find? method program).getD [] ++ []) program)
      target ↔ _ := calls_insert
  rw [List.append_nil] at hnone
  exact hnone.trans (or_iff_left nofun)

/-- A statement adds the contract that it calls. -/
theorem mem_addUsed {used : List String} :
    target ∈ addUsed statement used ↔ target ∈ used ∨ ∃ fields, .call target fields ∈ [statement] := by
  simp only [List.mem_singleton]
  unfold addUsed
  split
  next called fields =>
    rw [Dict.mem_insertKey, or_comm]
    simp
  next hnone =>
    refine (or_iff_left ?_).symm
    rintro ⟨fields, rfl⟩
    exact hnone target fields rfl

/-- A statement calls a contract by its full name. -/
theorem target_of_readStatement {fields : List (String × Operand)}
    (h : readStatement ecosystem text = .ok (.call target fields)) :
    ∃ name, target = ContractName.qualify ecosystem name := by
  unfold readStatement at h
  dsimp only at h
  split at h
  case h_3 =>
    obtain ⟨name, -, h⟩ := bind_eq_ok.mp h
    obtain ⟨pairs, -, h⟩ := bind_eq_ok.mp h
    exact ⟨_, (Statement.call.inj (Except.ok.inj h)).1.symm⟩
  -- No other keyword makes a call.
  case h_1 | h_12 | h_14 =>
    obtain ⟨_, -, h⟩ := bind_eq_ok.mp h
    split at h <;> cases h
  case h_11 | h_15 => split at h <;> cases h
  all_goals simp [bind_eq_ok] at h

theorem Linked.openMethod {unit : SourceUnit} (h : Linked ecosystem unit) :
    Linked ecosystem { unit with methods := openMethod method unit.methods } :=
  ⟨fun target => (h.called target).trans calls_openMethod.symm, h.qualified⟩

theorem Linked.addStatement {unit : SourceUnit} (h : Linked ecosystem unit)
    (hstatement : readStatement ecosystem text = .ok statement) :
    Linked ecosystem
      { unit with
        methods := addStatement method statement unit.methods
        used := addUsed statement unit.used } where
  called target := mem_addUsed.trans ((or_congr_left (h.called target)).trans calls_insert.symm)
  qualified target htarget := by
    rcases mem_addUsed.mp htarget with hused | ⟨fields, hcall⟩
    · exact h.qualified target hused
    · rw [← List.mem_singleton.mp hcall] at hstatement
      exact target_of_readStatement hstatement

/-- A unit that is read into has what it had, or what is read into the open unit. -/
theorem forall_updateUnit {P : SourceUnit → Prop} {f : SourceUnit → SourceUnit}
    (h : ∀ unit ∈ progress.units, P unit) (hf : ∀ unit, P unit → P (f unit)) :
    ∀ unit ∈ (progress.updateUnit f).units, P unit := by
  cases hunits : progress.units with
  | nil => rwa [Progress.updateUnit, hunits]
  | cons first rest =>
    rw [hunits] at h
    rw [Progress.units_updateUnit hunits]
    obtain ⟨hfirst, hrest⟩ := List.forall_mem_cons.mp h
    exact List.forall_mem_cons.mpr ⟨hf first hfirst, hrest⟩

/-- Units are linked while they are read. -/
theorem Step.linked (hstep : Step ecosystem line text progress next)
    (h : ∀ unit ∈ progress.units, Linked ecosystem unit) :
    ∀ unit ∈ next.units, Linked ecosystem unit := by
  cases hstep with
  | skips | closesContract | opensData | closesData => exact h
  | heads =>
    refine List.forall_mem_cons.mpr ⟨⟨fun target => iff_of_false List.not_mem_nil ?_, nofun⟩, h⟩
    rintro ⟨_, _, _, hfind, -⟩
    cases hfind
  | opensMethod | closesMethod => exact forall_updateUnit h fun _ hunit => hunit.openMethod
  | declares => exact forall_updateUnit h fun _ hunit => ⟨hunit.called, hunit.qualified⟩
  | adds _ hstatement => exact forall_updateUnit h fun _ hunit => hunit.addStatement hstatement

theorem linked_of_readLines {lines : List (List Char)}
    (h : readLines ecosystem line lines progress = .ok next)
    (hunits : ∀ unit ∈ progress.units, Linked ecosystem unit) :
    ∀ unit ∈ next.units, Linked ecosystem unit := by
  induction lines generalizing line progress with
  | nil =>
    rw [← Except.ok.inj h]
    exact hunits
  | cons text lines ih =>
    unfold readLines at h
    split at h
    next => cases h
    next after hread => exact ih h ((readLine_step hread).linked hunits)

/-- All units of a source are linked. -/
theorem linked_of_parse {source : String} {units : List SourceUnit}
    (h : parse ecosystem source = .ok units) {unit : SourceUnit} (hunit : unit ∈ units) :
    Linked ecosystem unit := by
  obtain ⟨progress, hread, rfl⟩ := parse_eq_ok h
  exact linked_of_readLines hread (List.forall_mem_nil _) unit (List.mem_reverse.mp hunit)

/-- The contracts that are used in a source are declared in it, or known otherwise. -/
theorem known_of_compile {isKnown : String → Bool} {source : String} {units : List SourceUnit}
    (h : compile ecosystem isKnown source = .ok units) {unit : SourceUnit} (hunit : unit ∈ units)
    (htarget : target ∈ unit.used) :
    target ∈ declaredNames ecosystem units ∨ isKnown target = true := by
  have hknown := (checkUnits_eq_ok_iff.mp (compile_eq_ok h).2).2.2 unit hunit target htarget
  rwa [Bool.or_eq_true, List.contains_iff_mem] at hknown

end Script

end Covenant
