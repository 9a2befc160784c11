import Covenant.Proofs.Script.Links

/-!
# Headers out of place

The names of contracts are found by looking at each line for itself, wherever it stands, while a source
is read with the block in mind that is open. A line that begins like the header of a contract is one
where no unit is open. In a source that compiles it can also stand in a contract, where it declares an
input or opens a method with the name `contract`: then the search fails, or finds a name too many.
Without such lines both ways of reading agree on every source.
-/

namespace Covenant.Script

variable {ecosystem : Int} {line : Nat} {text header : List Char} {lines : List (List Char)}
  {progress next : Progress} {names : List String}

/-- A line that begins like the header of a contract stands inside of a unit. Which block a line stands
in is what has come out of reading the lines before it. -/
inductive Misplaced (ecosystem : Int) : (line : Nat) → List (List Char) → Progress → Prop
  | here {line : Nat} {text : List Char} {rest : List (List Char)} {progress : Progress} :
      progress.block ≠ .top → "contract ".toList <+: content text →
      Misplaced ecosystem line (text :: rest) progress
  | later {line : Nat} {text : List Char} {rest : List (List Char)} {progress next : Progress} :
      readLine ecosystem line (content text) progress = .ok next →
      Misplaced ecosystem (line + 1) rest next → Misplaced ecosystem line (text :: rest) progress

/-- A line of a source begins like the header of a contract, but stands inside of a unit. -/
def HasMisplaced (ecosystem : Int) (source : String) : Prop :=
  Misplaced ecosystem 1 (Text.lines source.toList) ⟨[], .top⟩

/-! ## Lines one by one -/

/-- What begins like the header of a contract is what the search looks at. -/
theorem prefix_iff_afterStart? {start : List Char} :
    start <+: text ↔ ∃ rest, Text.afterStart? start text = some rest := by
  constructor
  · rintro ⟨rest, rfl⟩
    exact ⟨rest, afterStart?_append start rest⟩
  · rintro ⟨rest, hrest⟩
    exact ⟨rest, (eq_append_of_afterStart? hrest).symm⟩

theorem contractsAmong_congr {units others : List SourceUnit} (h : headers units = headers others) :
    contractsAmong units = contractsAmong others := by
  have hheaders : ∀ units : List SourceUnit,
      contractsAmong units = ((headers units).filter (·.2 = .contract)).map Prod.fst := by
    intro units
    simp only [contractsAmong, headers, List.filter_map, List.map_map]
    rfl
  rw [hheaders, hheaders, h]

/-- A line that is read where no unit is open begins a contract if it looks like that, and no other line
begins one. -/
theorem readLine_contract (h : readLine ecosystem line text progress = .ok next) :
    (progress.block = .top ∧ ∃ name, Heads line text name .contract ∧
        contractsAmong next.units = name :: contractsAmong progress.units) ∨
      contractsAmong next.units = contractsAmong progress.units ∧
        (progress.block = .top → ¬"contract ".toList <+: text) := by
  have hinside : ∀ {block : Block}, progress.block = block → block ≠ .top →
      progress.block = .top → ¬"contract ".toList <+: text := by
    intro block hblock hne htop
    exact absurd (hblock.symm.trans htop) hne
  cases readLine_step h with
  | skips hempty =>
    right
    refine ⟨rfl, fun _ hprefix => ?_⟩
    rw [hempty] at hprefix
    simp at hprefix
  | @heads name kind htop hheads =>
    cases kind with
    | contract => exact .inl ⟨htop, name, hheads, rfl⟩
    | function =>
      right
      refine ⟨rfl, fun _ hprefix => ?_⟩
      obtain ⟨header, hheader, -⟩ := hheads
      obtain ⟨rest, hrest⟩ := hprefix
      rw [eq_append_of_afterStart? hheader] at hrest
      cases hrest
  | closesContract hblock => exact .inr ⟨rfl, hinside hblock (by simp)⟩
  | opensData hblock => exact .inr ⟨rfl, hinside hblock (by simp)⟩
  | closesData hblock => exact .inr ⟨rfl, hinside hblock (by simp)⟩
  | opensMethod hblock =>
    exact .inr ⟨contractsAmong_congr (headers_updateUnit fun _ => ⟨rfl, rfl⟩),
      hinside hblock (by simp)⟩
  | declares hblock =>
    exact .inr ⟨contractsAmong_congr (headers_updateUnit fun _ => ⟨rfl, rfl⟩),
      hinside hblock (by simp)⟩
  | closesMethod hblock =>
    exact .inr ⟨contractsAmong_congr (headers_updateUnit fun _ => ⟨rfl, rfl⟩),
      hinside hblock (by simp)⟩
  | adds hblock =>
    exact .inr ⟨contractsAmong_congr (headers_updateUnit fun _ => ⟨rfl, rfl⟩),
      hinside hblock (by simp)⟩

/-- The search passes over a line that does not begin like the header of a contract. -/
theorem namesInLines_of_not_heading (h : ¬"contract ".toList <+: content text) :
    namesInLines ecosystem line (text :: lines) = namesInLines ecosystem (line + 1) lines := by
  have hnone : Text.afterStart? "contract ".toList (content text) = none := by
    rw [Option.eq_none_iff_forall_ne_some]
    intro rest hrest
    exact h (prefix_iff_afterStart?.mpr ⟨rest, hrest⟩)
  rw [namesInLines, hnone]

/-- A line that begins like the header of a contract has to have a name in it, which is found. -/
theorem namesInLines_of_heading
    (hheader : Text.afterStart? "contract ".toList (content text) = some header) :
    namesInLines ecosystem line (text :: lines) = .ok names ↔
      ∃ name more, headerName line header = .ok name ∧
        namesInLines ecosystem (line + 1) lines = .ok more ∧
        names = ContractName.qualify ecosystem name :: more := by
  rw [namesInLines, hheader]
  dsimp only
  cases headerName line header with
  | error e => simp
  | ok name =>
    rw [map_eq_ok]
    constructor
    · rintro ⟨more, hmore, rfl⟩
      exact ⟨name, more, rfl, hmore, rfl⟩
    · rintro ⟨_, more, ⟨⟩, hmore, rfl⟩
      exact ⟨more, hmore, rfl⟩

/-! ## All lines -/

/-- The search finds at least as many names as there are contracts. -/
theorem length_contracts_le (h : readLines ecosystem line lines progress = .ok next)
    (hnames : namesInLines ecosystem line lines = .ok names) :
    (contractsAmong next.units).length ≤ (contractsAmong progress.units).length + names.length := by
  induction lines generalizing line progress names with
  | nil =>
    rw [← Except.ok.inj h]
    omega
  | cons text lines ih =>
    unfold readLines at h
    split at h
    next => cases h
    next after hread =>
      by_cases hprefix : "contract ".toList <+: content text
      · obtain ⟨header, hheader⟩ := prefix_iff_afterStart?.mp hprefix
        obtain ⟨name, more, -, hmore, rfl⟩ := (namesInLines_of_heading hheader).mp hnames
        have hrest := ih h hmore
        have hfirst : (contractsAmong after.units).length ≤
            (contractsAmong progress.units).length + 1 := by
          rcases readLine_contract hread with ⟨-, _, -, hnew⟩ | ⟨hsame, -⟩
          · rw [hnew, List.length_cons]
          · rw [hsame]
            omega
        rw [List.length_cons]
        omega
      · rw [namesInLines_of_not_heading hprefix] at hnames
        rcases readLine_contract hread with ⟨-, _, ⟨header, hheader, -⟩, -⟩ | ⟨hsame, -⟩
        · exact absurd (prefix_iff_afterStart?.mpr ⟨header, hheader⟩) hprefix
        · rw [← hsame]
          exact ih h hnames

/-- The full names of the contracts among units that are kept newest first. -/
def namesOldestFirst (ecosystem : Int) (progress : Progress) : List String :=
  (contractsAmong progress.units).reverse.map (ContractName.qualify ecosystem)

/-- The search finds the contracts that lines begin, in their order, if and only if no line among them
is misplaced. -/
theorem namesInLines_iff (h : readLines ecosystem line lines progress = .ok next) :
    (∃ names, namesInLines ecosystem line lines = .ok names ∧
        namesOldestFirst ecosystem next = namesOldestFirst ecosystem progress ++ names) ↔
      ¬Misplaced ecosystem line lines progress := by
  induction lines generalizing line progress with
  | nil =>
    obtain rfl := Except.ok.inj h
    exact iff_of_true ⟨[], rfl, by simp⟩ nofun
  | cons text lines ih =>
    unfold readLines at h
    split at h
    next => cases h
    next after hread =>
      have hlater : ¬(progress.block ≠ .top ∧ "contract ".toList <+: content text) →
          (¬Misplaced ecosystem line (text :: lines) progress ↔
            ¬Misplaced ecosystem (line + 1) lines after) := by
        intro hplaced
        refine not_congr ⟨fun hmisplaced => ?_, .later hread⟩
        cases hmisplaced with
        | here hblock hprefix => exact absurd ⟨hblock, hprefix⟩ hplaced
        | later hread' hrest =>
          obtain rfl := Except.ok.inj (hread.symm.trans hread')
          exact hrest
      by_cases hprefix : "contract ".toList <+: content text
      · obtain ⟨header, hheader⟩ := prefix_iff_afterStart?.mp hprefix
        rcases readLine_contract hread with ⟨htop, name, ⟨other, hother, hname⟩, hnew⟩ | ⟨hsame, hnone⟩
        · -- The line begins a contract, and the search finds the same name.
          obtain rfl := Option.some.inj (hheader.symm.trans hother)
          have hafter : namesOldestFirst ecosystem after =
              namesOldestFirst ecosystem progress ++ [ContractName.qualify ecosystem name] := by
            simp [namesOldestFirst, hnew]
          rw [hlater fun hinside => hinside.1 htop, ← ih h]
          constructor
          · rintro ⟨names, hnames, hnext⟩
            obtain ⟨found, more, hfound, hmore, rfl⟩ := (namesInLines_of_heading hheader).mp hnames
            obtain rfl := Except.ok.inj (hname.symm.trans hfound)
            exact ⟨more, hmore, by rw [hnext, hafter, List.append_assoc, List.singleton_append]⟩
          · rintro ⟨more, hmore, hnext⟩
            refine ⟨_, (namesInLines_of_heading hheader).mpr ⟨name, more, hname, hmore, rfl⟩, ?_⟩
            rw [hnext, hafter, List.append_assoc, List.singleton_append]
        · -- The line begins nothing, so what the search finds in it is a name too many.
          have hblock : progress.block ≠ .top := fun htop => hnone htop hprefix
          refine iff_of_false ?_ fun hplaced => hplaced (.here hblock hprefix)
          rintro ⟨names, hnames, hnext⟩
          obtain ⟨found, more, -, hmore, rfl⟩ := (namesInLines_of_heading hheader).mp hnames
          have hle := length_contracts_le h hmore
          have hlength := congrArg List.length hnext
          simp only [namesOldestFirst, List.length_map, List.length_reverse, List.length_append,
            List.length_cons] at hlength
          rw [hsame] at hle
          omega
      · rw [namesInLines_of_not_heading hprefix, hlater fun hinside => hprefix hinside.2, ← ih h]
        rcases readLine_contract hread with ⟨-, _, ⟨header, hheader, -⟩, -⟩ | ⟨hsame, -⟩
        · exact absurd (prefix_iff_afterStart?.mpr ⟨header, hheader⟩) hprefix
        · simp only [namesOldestFirst, hsame]

/-! ## Sources -/

/-- In a source that compiles, the contracts that are found by their headers are those that it
declares, in their order, if and only if no line of it is misplaced. -/
theorem contractNames_eq_declaredNames_iff {isKnown : String → Bool} {source : String}
    {units : List SourceUnit} (h : compile ecosystem isKnown source = .ok units) :
    contractNames ecosystem source = .ok (declaredNames ecosystem units) ↔
      ¬HasMisplaced ecosystem source := by
  obtain ⟨progress, hread, rfl⟩ := parse_eq_ok (compile_eq_ok h).1
  have hdeclared : declaredNames ecosystem progress.units.reverse =
      namesOldestFirst ecosystem progress := by
    rw [declaredNames_eq, namesOldestFirst, contractsAmong, contractsAmong, List.filter_reverse,
      List.map_reverse]
  rw [HasMisplaced, ← namesInLines_iff hread, hdeclared]
  constructor
  · intro hnames
    exact ⟨_, hnames, rfl⟩
  · rintro ⟨names, hnames, hsame⟩
    rw [hsame]
    exact hnames

/-- A source with two contracts, one of which has an input and a method, and a function. -/
def orderlySource : String :=
  "contract A \x7b\n data \x7b\n  Contract int\n \x7d\n action \x7b\n  charge 1\n \x7d\n\x7d\n" ++
    "func f \x7b\n\x7d\ncontract B \x7b\n\x7d\n"

theorem contractNames_eq_declaredNames_iff_sample :
    ∃ units, compile 1 (fun _ => false) orderlySource = .ok units ∧
      declaredNames 1 units = ["@1A", "@1B"] ∧
      contractNames 1 orderlySource = .ok ["@1A", "@1B"] ∧ ¬HasMisplaced 1 orderlySource := by
  have hunits : ((compile 1 (fun _ => false) orderlySource).toOption.map (declaredNames 1)) =
      some ["@1A", "@1B"] := by decide +kernel
  have hfound : (contractNames 1 orderlySource).toOption = some ["@1A", "@1B"] := by
    decide +kernel
  obtain ⟨units, hunits, hdeclared⟩ := Option.map_eq_some_iff.mp hunits
  have hcompiled := toOption_eq_some.mp hunits
  have hnames := toOption_eq_some.mp hfound
  refine ⟨units, hcompiled, hdeclared, hnames, ?_⟩
  apply (contractNames_eq_declaredNames_iff hcompiled).mp
  rw [hdeclared, hnames]

/-- A contract with an input named `contract`. -/
def inputSource : String :=
  "contract A \x7b\n data \x7b\n  contract int\n \x7d\n\x7d\n"

/-- A contract with an input named `contract`, whose type ends with a brace. -/
def spellingSource : String :=
  "contract A \x7b\n data \x7b\n  contract B\x7b\n \x7d\n\x7d\n"

/-- Both sources compile to one contract, but in the first the search finds no names at all, and in the
second it finds one that nothing declares. -/
theorem not_contractNames_eq_declaredNames :
    (∃ units, compile 1 (fun _ => false) inputSource = .ok units ∧
        declaredNames 1 units = ["@1A"]) ∧
      (∃ e, contractNames 1 inputSource = .error e) ∧
      (∃ units, compile 1 (fun _ => false) spellingSource = .ok units ∧
        declaredNames 1 units = ["@1A"]) ∧
      contractNames 1 spellingSource = .ok ["@1A", "@1B"] := by
  have hinput : ((compile 1 (fun _ => false) inputSource).toOption.map (declaredNames 1)) =
      some ["@1A"] := by decide +kernel
  have hspelling : ((compile 1 (fun _ => false) spellingSource).toOption.map (declaredNames 1)) =
      some ["@1A"] := by decide +kernel
  have hnone : (contractNames 1 inputSource).toOption = none := by decide +kernel
  have hmore : (contractNames 1 spellingSource).toOption = some ["@1A", "@1B"] := by
    decide +kernel
  refine ⟨?_, ?_, ?_, toOption_eq_some.mp hmore⟩
  · obtain ⟨units, hunits, hdeclared⟩ := Option.map_eq_some_iff.mp hinput
    exact ⟨units, toOption_eq_some.mp hunits, hdeclared⟩
  · cases hnames : contractNames 1 inputSource with
    | error e => exact ⟨e, rfl⟩
    | ok names =>
      rw [hnames] at hnone
      cases hnone
  · obtain ⟨units, hunits, hdeclared⟩ := Option.map_eq_some_iff.mp hspelling
    exact ⟨units, toOption_eq_some.mp hunits, hdeclared⟩

end Covenant.Script
