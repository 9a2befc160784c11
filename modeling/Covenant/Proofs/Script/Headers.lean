import Covenant.Proofs.Name
import Covenant.Proofs.Result
import Covenant.Script.Source

/-!
# Contracts and their headers

The contracts of a source can be found without reading it, by the lines that look like headers. Such a
line may also stand where no contract can begin, but every contract of a source that compiles is among
those that are found. The names in headers are made of letters, digits and underscores, so none of them
has an `@` or a sign in front.
-/

namespace Covenant

namespace Script

/-- The text can be the name of a unit. -/
def IsName (name : String) : Prop :=
  name ≠ "" ∧ name.toList.all isNameChar = true

instance (name : String) : Decidable (IsName name) :=
  inferInstanceAs (Decidable (_ ∧ _))

/-- The name begins like a number. -/
def beginsWithDigit (name : String) : Bool :=
  name.toList.head?.any Char.isDigit

section Names

variable {name : String}

/-- A header has a name in it. -/
theorem isName_of_headerName {line : Nat} {header : List Char}
    (h : headerName line header = .ok name) : IsName name := by
  unfold headerName at h
  dsimp only at h
  split at h
  next hname =>
    obtain rfl := Except.ok.inj h
    simp only [Bool.and_eq_true, Bool.not_eq_true'] at hname
    obtain ⟨⟨-, hsome⟩, hall⟩ := hname
    refine ⟨fun hempty => ?_, by rwa [String.toList_ofList]⟩
    have hnone := congrArg String.toList hempty
    rw [String.toList_ofList] at hnone
    rw [hnone] at hsome
    cases hsome
  next => cases h

private theorem IsName.ne_of_head (h : IsName name) {c d : Char} (hc : c ∈ name.toList.head?)
    (hd : isNameChar d = false) : c ≠ d := by
  rintro rfl
  rw [List.all_eq_true.mp h.2 c (List.mem_of_mem_head? hc)] at hd
  cases hd

/-- Names are bare. -/
theorem IsName.bare (h : IsName name) : name.toList.head? ≠ some '@' :=
  fun hat => h.ne_of_head hat (by decide) rfl

/-- A name does not begin like a number if it does not begin with a digit. -/
theorem IsName.isPlain (h : IsName name) (hdigit : beginsWithDigit name = false) :
    ContractName.IsPlain name := by
  intro c hc
  refine ⟨?_, h.ne_of_head hc (by decide), h.ne_of_head hc (by decide)⟩
  unfold beginsWithDigit at hdigit
  rw [Option.mem_def.mp hc] at hdigit
  exact hdigit

end Names

theorem afterStart?_append (start rest : List Char) :
    Text.afterStart? start (start ++ rest) = some rest := by
  induction start with
  | nil => rfl
  | cons s start ih => simpa [Text.afterStart?] using ih

/-- The names and kinds of units, as they stand in their headers. -/
def headers (units : List SourceUnit) : List (String × UnitKind) :=
  units.map fun unit => (unit.name, unit.kind)

/-- The names of the contracts among units. -/
def contractsAmong (units : List SourceUnit) : List String :=
  (units.filter (·.kind = .contract)).map SourceUnit.name

theorem declaredNames_eq (ecosystem : Int) (units : List SourceUnit) :
    declaredNames ecosystem units = (contractsAmong units).map (ContractName.qualify ecosystem) := by
  rw [declaredNames, contractsAmong, List.map_map]
  rfl

theorem mem_contractsAmong {name : String} {units : List SourceUnit} :
    name ∈ contractsAmong units ↔ (name, .contract) ∈ headers units := by
  simp only [contractsAmong, headers, List.mem_map, List.mem_filter, decide_eq_true_eq,
    Prod.mk.injEq, and_assoc, and_comm]

/-- What stands before the name in the header of a unit. -/
def keyword : UnitKind → List Char
  | .contract => "contract ".toList
  | .function => "func ".toList

/-- A line is the header of a unit. -/
def Heads (line : Nat) (text : List Char) (name : String) (kind : UnitKind) : Prop :=
  ∃ header, Text.afterStart? (keyword kind) text = some header ∧
    headerName line header = .ok name

/-- The block that the header of a unit opens. -/
def blockOf : UnitKind → Block
  | .contract => .contract
  | .function => .method "body"

/-- What a line can do to what has been read before. -/
inductive Step (ecosystem : Int) (line : Nat) (text : List Char) (progress : Progress) :
    Progress → Prop
  | skips : text = [] → Step ecosystem line text progress progress
  | heads {name : String} {kind : UnitKind} : progress.block = .top → Heads line text name kind →
      Step ecosystem line text progress ⟨emptyUnit name kind :: progress.units, blockOf kind⟩
  | closesContract : progress.block = .contract → text = ['\x7d'] →
      Step ecosystem line text progress { progress with block := .top }
  | opensData : progress.block = .contract → text = "data \x7b".toList →
      Step ecosystem line text progress { progress with block := .data }
  | opensMethod {name : String} : progress.block = .contract → headerName line text = .ok name →
      Step ecosystem line text progress
        { progress.updateUnit fun unit => { unit with methods := openMethod name unit.methods }
          with block := .method name }
  | closesData : progress.block = .data → text = ['\x7d'] →
      Step ecosystem line text progress { progress with block := .contract }
  | declares {field : FieldDeclaration} : progress.block = .data → readField line text = .ok field →
      Step ecosystem line text progress
        (progress.updateUnit fun unit => { unit with fields := unit.fields ++ [field] })
  | closesMethod {method : String} : progress.block = .method method → text = ['\x7d'] →
      Step ecosystem line text progress
        { progress.updateUnit fun unit => { unit with methods := openMethod method unit.methods }
          with block := blockAfterMethod progress }
  | adds {method : String} {statement : Statement} : progress.block = .method method →
      readStatement ecosystem text = .ok statement →
      Step ecosystem line text progress
        (progress.updateUnit fun unit =>
          { unit with
            methods := addStatement method statement unit.methods
            used := addUsed statement unit.used })

variable {ecosystem : Int} {line : Nat} {text : List Char} {progress next : Progress}
  {name : String}

theorem readTop_step (hblock : progress.block = .top)
    (h : readTop line text progress = .ok next) : Step ecosystem line text progress next := by
  unfold readTop at h
  split at h
  next header hheader =>
    obtain ⟨name, hname, h⟩ := bind_eq_ok.mp h
    rw [← Except.ok.inj h]
    exact .heads hblock ⟨header, hheader, hname⟩
  next =>
    split at h
    next header hheader =>
      obtain ⟨name, hname, h⟩ := bind_eq_ok.mp h
      rw [← Except.ok.inj h]
      exact .heads hblock ⟨header, hheader, hname⟩
    next => cases h

theorem readInContract_step (hblock : progress.block = .contract)
    (h : readInContract line text progress = .ok next) :
    Step ecosystem line text progress next := by
  unfold readInContract at h
  split at h
  next hclose =>
    rw [← Except.ok.inj h]
    exact .closesContract hblock (eq_of_beq hclose)
  next =>
    split at h
    next hdata =>
      rw [← Except.ok.inj h]
      exact .opensData hblock (eq_of_beq hdata)
    next =>
      obtain ⟨name, hname, h⟩ := bind_eq_ok.mp h
      dsimp only at h
      split at h
      next => cases h
      next =>
        rw [← Except.ok.inj h]
        exact .opensMethod hblock hname

theorem readInData_step (hblock : progress.block = .data)
    (h : readInData line text progress = .ok next) : Step ecosystem line text progress next := by
  unfold readInData at h
  split at h
  next hclose =>
    rw [← Except.ok.inj h]
    exact .closesData hblock (eq_of_beq hclose)
  next =>
    obtain ⟨field, hfield, h⟩ := bind_eq_ok.mp h
    rw [← Except.ok.inj h]
    exact .declares hblock hfield

theorem readInMethod_step {method : String} (hblock : progress.block = .method method)
    (h : readInMethod ecosystem method line text progress = .ok next) :
    Step ecosystem line text progress next := by
  unfold readInMethod at h
  split at h
  next hclose =>
    rw [← Except.ok.inj h]
    exact .closesMethod hblock (eq_of_beq hclose)
  next =>
    split at h
    next => cases h
    next statement hstatement =>
      rw [← Except.ok.inj h]
      exact .adds hblock hstatement

/-- A line that is read does one of these things. -/
theorem readLine_step (h : readLine ecosystem line text progress = .ok next) :
    Step ecosystem line text progress next := by
  unfold readLine at h
  split at h
  next hempty =>
    rw [← Except.ok.inj h]
    exact .skips (List.isEmpty_iff.mp hempty)
  next =>
    split at h
    next hblock => exact readTop_step hblock h
    next hblock => exact readInContract_step hblock h
    next hblock => exact readInData_step hblock h
    next method hblock => exact readInMethod_step hblock h

/-- Whatever is read into the open unit, the units keep their names and kinds. -/
theorem headers_updateUnit {f : SourceUnit → SourceUnit}
    (hf : ∀ unit, (f unit).name = unit.name ∧ (f unit).kind = unit.kind) :
    headers (progress.updateUnit f).units = headers progress.units := by
  unfold Progress.updateUnit
  split
  next hunits => rw [hunits]
  next unit rest hunits =>
    obtain ⟨hname, hkind⟩ := hf unit
    rw [hunits, headers, headers, List.map_cons, List.map_cons, hname, hkind]

/-- A line that is read begins a unit if it is a header, and none otherwise. -/
theorem readLine_headers (h : readLine ecosystem line text progress = .ok next) :
    headers next.units = headers progress.units ∨
      ∃ name kind, Heads line text name kind ∧
        headers next.units = (name, kind) :: headers progress.units := by
  cases readLine_step h with
  | heads _ hheads => exact .inr ⟨_, _, hheads, rfl⟩
  | skips | closesContract | opensData | closesData => exact .inl rfl
  | opensMethod | declares | closesMethod | adds =>
    exact .inl (headers_updateUnit fun _ => ⟨rfl, rfl⟩)

/-- All units that are read have names. -/
theorem readLines_isName {lines : List (List Char)}
    (h : readLines ecosystem line lines progress = .ok next)
    (hprogress : ∀ header ∈ headers progress.units, IsName header.1) :
    ∀ header ∈ headers next.units, IsName header.1 := by
  induction lines generalizing line progress with
  | nil =>
    rw [← Except.ok.inj h]
    exact hprogress
  | cons text lines ih =>
    unfold readLines at h
    split at h
    next => cases h
    next after hread =>
      refine ih h ?_
      rcases readLine_headers hread with hsame | ⟨name, kind, ⟨_, -, hname⟩, hnew⟩
      · rwa [hsame]
      · rw [hnew]
        exact List.forall_mem_cons.mpr ⟨isName_of_headerName hname, hprogress⟩

theorem readLine_contracts (h : readLine ecosystem line text progress = .ok next)
    (hname : name ∈ contractsAmong next.units) :
    name ∈ contractsAmong progress.units ∨ Heads line text name .contract := by
  rw [mem_contractsAmong] at hname ⊢
  rcases readLine_headers h with hsame | ⟨found, kind, hheads, hnew⟩
  · exact .inl (hsame ▸ hname)
  · rw [hnew] at hname
    rcases List.mem_cons.mp hname with heq | hold
    · obtain ⟨rfl, rfl⟩ := Prod.mk.inj heq
      exact .inr hheads
    · exact .inl hold

/-- The contracts that are read from lines are among those that are found in them. -/
theorem readLines_contracts {lines : List (List Char)} {names : List String}
    (h : readLines ecosystem line lines progress = .ok next)
    (hnames : namesInLines ecosystem line lines = .ok names)
    (hname : name ∈ contractsAmong next.units) :
    name ∈ contractsAmong progress.units ∨ ContractName.qualify ecosystem name ∈ names := by
  induction lines generalizing line progress names with
  | nil =>
    rw [← Except.ok.inj h] at hname
    exact .inl hname
  | cons text lines ih =>
    unfold readLines at h
    split at h
    next => cases h
    next after hread =>
      unfold namesInLines at hnames
      split at hnames
      next hnone =>
        refine (ih h hnames).imp_left fun hafter => ?_
        refine (readLine_contracts hread hafter).resolve_right ?_
        rintro ⟨header, hheader, -⟩
        cases hnone.symm.trans hheader
      next header hheader =>
        split at hnames
        next => cases hnames
        next found hfound =>
          cases hmore : namesInLines ecosystem (line + 1) lines with
          | error e =>
            rw [hmore] at hnames
            cases hnames
          | ok more =>
            rw [hmore] at hnames
            obtain rfl : _ :: more = names := Except.ok.inj hnames
            rcases ih h hmore with hafter | hmem
            · rcases readLine_contracts hread hafter with hold | ⟨other, hother, hsame⟩
              · exact .inl hold
              · obtain rfl := Option.some.inj (hheader.symm.trans hother)
                obtain rfl := Except.ok.inj (hfound.symm.trans hsame)
                exact .inr List.mem_cons_self
            · exact .inr (List.mem_cons_of_mem _ hmem)

/-- The units of a source are those that are read from its lines, in order. -/
theorem parse_eq_ok {source : String} {units : List SourceUnit}
    (h : parse ecosystem source = .ok units) :
    ∃ progress, readLines ecosystem 1 (Text.lines source.toList) ⟨[], .top⟩ = .ok progress ∧
      progress.units.reverse = units := by
  unfold parse at h
  dsimp only at h
  split at h
  next => cases h
  next progress hread =>
    split at h
    next => exact ⟨progress, hread, Except.ok.inj h⟩
    next => cases h

/-- A source compiles if it can be read and its units pass the check. -/
theorem compile_eq_ok {isKnown : String → Bool} {source : String} {units : List SourceUnit}
    (h : compile ecosystem isKnown source = .ok units) :
    parse ecosystem source = .ok units ∧
      checkUnits (fun name => (declaredNames ecosystem units).contains name || isKnown name) []
        units = .ok () := by
  unfold compile at h
  split at h
  next => cases h
  next found hparse =>
    dsimp only at h
    split at h
    next => cases h
    next hcheck =>
      obtain rfl := Except.ok.inj h
      exact ⟨hparse, hcheck⟩

/-- Units pass the check if and only if their names are new and different, and all contracts are known
that they use. -/
theorem checkUnits_eq_ok_iff {known : String → Bool} {seen : List String}
    {units : List SourceUnit} :
    checkUnits known seen units = .ok () ↔
      (units.map SourceUnit.name).Nodup ∧ (∀ unit ∈ units, unit.name ∉ seen) ∧
        ∀ unit ∈ units, ∀ target ∈ unit.used, known target = true := by
  induction units generalizing seen with
  | nil => simp [checkUnits]
  | cons unit rest ih =>
    unfold checkUnits
    by_cases hseen : unit.name ∈ seen
    · rw [if_pos (List.contains_iff_mem.mpr hseen)]
      exact iff_of_false nofun fun h => h.2.1 unit List.mem_cons_self hseen
    · rw [if_neg (by simpa using hseen)]
      cases hfind : unit.used.find? (!known ·) with
      | some target =>
        refine iff_of_false nofun fun h => ?_
        have hknown := h.2.2 unit List.mem_cons_self target (List.mem_of_find?_eq_some hfind)
        have hunknown := List.find?_some hfind
        simp [hknown] at hunknown
      | none =>
        have hknown : ∀ target ∈ unit.used, known target = true := by
          simpa using List.find?_eq_none.mp hfind
        dsimp only
        rw [ih]
        simp only [List.map_cons, List.nodup_cons, List.mem_map, List.mem_cons]
        grind

/-- The contracts of a source that compiles are among those that are found by their headers. -/
theorem declaredNames_subset {isKnown : String → Bool} {source : String}
    {units : List SourceUnit} {names : List String}
    (h : compile ecosystem isKnown source = .ok units)
    (hnames : contractNames ecosystem source = .ok names) :
    declaredNames ecosystem units ⊆ names := by
  intro full hfull
  rw [declaredNames_eq] at hfull
  obtain ⟨name, hname, rfl⟩ := List.mem_map.mp hfull
  obtain ⟨progress, hread, rfl⟩ := parse_eq_ok (compile_eq_ok h).1
  have hread' : name ∈ contractsAmong progress.units := by
    simpa [contractsAmong, List.filter_reverse] using hname
  refine (readLines_contracts hread hnames hread').resolve_left ?_
  exact List.not_mem_nil

/-- The units of a source that compiles have names. -/
theorem isName_of_compile {isKnown : String → Bool} {source : String} {units : List SourceUnit}
    (h : compile ecosystem isKnown source = .ok units) {unit : SourceUnit} (hunit : unit ∈ units) :
    IsName unit.name := by
  obtain ⟨progress, hread, rfl⟩ := parse_eq_ok (compile_eq_ok h).1
  refine readLines_isName hread (List.forall_mem_nil _) (unit.name, unit.kind) ?_
  exact List.mem_map_of_mem (List.mem_reverse.mp hunit)

end Script

end Covenant
