import Covenant.Proofs.Registry.Links
import Covenant.Proofs.Script.Recovery
import Covenant.Registry.Used
import Mathlib.Data.Finset.Card

/-!
# Contracts that a contract leads to

A name leads on to the contract that is found for it, and from there to the names that this contract
uses. The walk over calls keeps apart which names are listed and which are expanded, since the contract
that it starts from is expanded at once but listed only if it is called. Every name that a step expands
was not expanded before, so the walk comes to an end. At the end the contracts of all expanded names
have had all their calls listed and expanded: what is listed is what can be reached.
-/

namespace Covenant

namespace Registry

variable {registry : Registry} {ecosystem : Int} {name target : String} {root c d : Contract}
  {used : List String} {walk after last : CallWalk} {children stack waiting : List Contract}

/-! ## Names that lead to names -/

/-- The contract that is found for the name uses the target. -/
def CallsOn (registry : Registry) (ecosystem : Int) (name target : String) : Prop :=
  ∃ c, registry.lookupByName name ecosystem = some c ∧ target ∈ c.used

/-- A chain of calls that begins with the contract comes back to its name. -/
def OnCycle (registry : Registry) (ecosystem : Int) (root : Contract) : Prop :=
  ∃ used ∈ root.used, Relation.ReflTransGen (registry.CallsOn ecosystem) used root.name

/-- What is found for a name leads on as the name does. -/
theorem callsOn_iff (hroot : registry.lookupByName name ecosystem = some root) :
    registry.CallsOn ecosystem name target ↔ target ∈ root.used := by
  constructor
  · rintro ⟨c, hc, htarget⟩
    rw [hroot] at hc
    obtain rfl := Option.some.inj hc
    exact htarget
  · exact fun htarget => ⟨root, hroot, htarget⟩

/-- The contract that is found for a name is on a cycle if the name leads to the contract's own. -/
theorem transGen_name_iff (hroot : registry.lookupByName name ecosystem = some root) :
    Relation.TransGen (registry.CallsOn ecosystem) name root.name ↔
      registry.OnCycle ecosystem root := by
  rw [Relation.TransGen.head'_iff]
  simp only [callsOn_iff hroot]
  rfl

/-! ## Finding a contract by its own name -/

/-- Contracts with one name are the same. -/
theorem WellFormed.eq_of_name_eq (h : registry.WellFormed) (hc : c ∈ registry.contracts)
    (hd : d ∈ registry.contracts) (hname : c.name = d.name) : c = d := by
  obtain ⟨i, hi⟩ := List.mem_iff_getElem?.mp (mem_contracts_iff.mp hc)
  obtain ⟨j, hj⟩ := List.mem_iff_getElem?.mp (mem_contracts_iff.mp hd)
  have hfirst := (h.byName c.name i).mpr ⟨_, hi, rfl⟩
  have hsecond := (h.byName c.name j).mpr ⟨_, hj, hname.symm⟩
  rw [hfirst] at hsecond
  obtain rfl := Option.some.inj hsecond
  rw [hi] at hj
  exact RegistryObject.contract.inj (Option.some.inj hj)

/-- A name with a sign is taken for one of ecosystem 1, and no contract has such a name. -/
theorem qualify_signed_ne {signed other : Int} {bare declared : String} (hsigned : signed < 0)
    (hbare : Script.IsName bare) (hdeclared : Script.IsName declared) :
    ContractName.qualify ecosystem (ContractName.qualify signed bare) ≠
      ContractName.qualify other declared := by
  obtain ⟨n, rfl⟩ := Int.eq_negSucc_of_lt_zero hsigned
  have hinner := ContractName.qualify_of_bare hbare.bare (.negSucc n)
  rw [Text.toList_toString_negSucc] at hinner
  have houter : (ContractName.qualify ecosystem (ContractName.qualify (.negSucc n) bare)).toList =
      '@' :: '1' :: '-' :: (Nat.toDigits 10 (n + 1) ++ bare.toList) := by
    rw [ContractName.qualify, hinner]
    simp
  intro h
  have hlist := congrArg String.toList h
  rw [houter, ContractName.qualify_of_bare hdeclared.bare] at hlist
  have htail := (List.cons.inj hlist).2
  cases other with
  | ofNat k =>
    have hdash : '-' ∈ (toString (k : Int)).toList ++ declared.toList := by
      change '-' ∈ (toString (Int.ofNat k)).toList ++ declared.toList
      rw [← htail]
      simp
    rw [Text.toList_toString_nat] at hdash
    rcases List.mem_append.mp hdash with hdigit | hletter
    · exact absurd (Text.isDigit_of_mem_toDigits hdigit) (by decide)
    · exact absurd (List.all_eq_true.mp hdeclared.2 _ hletter) (by decide)
  | negSucc k =>
    rw [Text.toList_toString_negSucc] at htail
    exact absurd (List.cons.inj htail).1 (by decide)

/-- If something is found for the name of a contract, it is this contract. -/
theorem Reachable.eq_of_lookupByName_name (h : registry.Reachable) (hc : c ∈ registry.contracts)
    (hfound : registry.lookupByName c.name ecosystem = some d) : d = c := by
  have hwell := h.wellFormed
  obtain ⟨hd, hname⟩ := hwell.lookupByName_eq_some_iff.mp hfound
  have hsourced := h.reachableFrom.sourced
  obtain ⟨record, unit, -, hfrom⟩ := hsourced.exists_comesFrom (mem_contracts_iff.mp hc)
  by_cases hunsigned : 0 ≤ record.ecosystemId
  · have hfull : ContractName.IsFull c.name := by
      rw [hfrom.name]
      exact ContractName.isFull_qualify hunsigned unit.name
    rw [ContractName.qualify_of_isFull hfull] at hname
    exact hwell.eq_of_name_eq hd hc hname
  · obtain ⟨record', unit', -, hfrom'⟩ := hsourced.exists_comesFrom (mem_contracts_iff.mp hd)
    rw [hfrom.name, hfrom'.name] at hname
    exact absurd hname.symm
      (qualify_signed_ne (by omega) hfrom.declared.isName hfrom'.declared.isName)

/-! ## One step of the walk -/

/-- The walk with a name listed. -/
def CallWalk.noting (walk : CallWalk) (name : String) : CallWalk :=
  if walk.listed.contains name then walk else { walk with listed := name :: walk.listed }

/-- Listing a name expands none. -/
@[simp] theorem CallWalk.expanded_noting (walk : CallWalk) (name : String) :
    (walk.noting name).expanded = walk.expanded := by
  unfold noting
  split <;> rfl

@[simp] theorem CallWalk.mem_listed_noting {other : String} :
    other ∈ (walk.noting name).listed ↔ other = name ∨ other ∈ walk.listed := by
  unfold noting
  by_cases hlisted : walk.listed.contains name
  · rw [if_pos hlisted]
    have hmem : name ∈ walk.listed := List.contains_iff_mem.mp hlisted
    constructor
    · exact .inr
    · rintro (rfl | hother)
      · exact hmem
      · exact hother
  · rw [if_neg hlisted, List.mem_cons]

/-- A name is listed once. -/
theorem CallWalk.nodup_noting (h : walk.listed.Nodup) (name : String) :
    (walk.noting name).listed.Nodup := by
  unfold noting
  by_cases hlisted : walk.listed.contains name
  · rwa [if_pos hlisted]
  · rw [if_neg hlisted, List.nodup_cons]
    have hnew : name ∉ walk.listed := fun hmem => hlisted (List.contains_iff_mem.mpr hmem)
    exact ⟨hnew, h⟩

/-- The walk with a name expanded. -/
def CallWalk.expanding (walk : CallWalk) (name : String) : CallWalk :=
  { walk with expanded := name :: walk.expanded }

@[simp] theorem CallWalk.listed_expanding (walk : CallWalk) (name : String) :
    (walk.expanding name).listed = walk.listed := rfl

@[simp] theorem CallWalk.expanded_expanding (walk : CallWalk) (name : String) :
    (walk.expanding name).expanded = name :: walk.expanded := rfl

/-- A name that was expanded before is not expanded again. -/
theorem expandCalls_cons_of_expanded (h : name ∈ walk.expanded) :
    expandCalls registry ecosystem true (name :: used) walk =
      expandCalls registry ecosystem true used (walk.noting name) := by
  have hexpanded : (walk.noting name).expanded.contains name = true := by simpa using h
  rw [expandCalls]
  change (if (true && !(walk.noting name).expanded.contains name) = true then _ else _) = _
  rw [hexpanded]
  rfl

/-- A name that was not expanded before is, and its contract is to be followed. -/
theorem expandCalls_cons_of_fresh (h : name ∉ walk.expanded) :
    expandCalls registry ecosystem true (name :: used) walk =
      ((expandCalls registry ecosystem true used ((walk.noting name).expanding name)).1,
        (registry.lookupByName name ecosystem).toList ++
          (expandCalls registry ecosystem true used ((walk.noting name).expanding name)).2) := by
  have hfresh : (walk.noting name).expanded.contains name = false := by simpa using h
  rw [expandCalls]
  change (if (true && !(walk.noting name).expanded.contains name) = true then _ else _) = _
  rw [hfresh]
  cases registry.lookupByName name ecosystem <;> rfl

/-- What looking at some names does to a walk: all of them are listed and expanded, and the contracts
of those that had not been expanded are to be followed. -/
structure Expands (registry : Registry) (ecosystem : Int) (used : List String)
    (walk after : CallWalk) (children : List Contract) : Prop where
  listed : ∀ name, name ∈ after.listed ↔ name ∈ used ∨ name ∈ walk.listed
  nodup : walk.listed.Nodup → after.listed.Nodup
  expanded : ∀ name, name ∈ after.expanded ↔ name ∈ used ∨ name ∈ walk.expanded
  children : ∀ child, child ∈ children ↔ ∃ name ∈ used, name ∉ walk.expanded ∧
    registry.lookupByName name ecosystem = some child

theorem expandCalls_expands (registry : Registry) (ecosystem : Int) (used : List String)
    (walk : CallWalk) :
    Expands registry ecosystem used walk (expandCalls registry ecosystem true used walk).1
      (expandCalls registry ecosystem true used walk).2 := by
  induction used generalizing walk with
  | nil => constructor <;> simp [expandCalls]
  | cons name rest ih =>
    by_cases hexpanded : name ∈ walk.expanded
    · rw [expandCalls_cons_of_expanded hexpanded]
      have hrest := ih (walk.noting name)
      constructor
      · intro other
        rw [hrest.listed, CallWalk.mem_listed_noting, List.mem_cons]
        tauto
      · exact fun hnodup => hrest.nodup (CallWalk.nodup_noting hnodup name)
      · intro other
        rw [hrest.expanded, CallWalk.expanded_noting, List.mem_cons]
        constructor
        · tauto
        · rintro ((rfl | hother) | hother)
          · exact .inr hexpanded
          · exact .inl hother
          · exact .inr hother
      · intro child
        rw [hrest.children, CallWalk.expanded_noting]
        constructor
        · rintro ⟨other, hother, hfresh, hfound⟩
          exact ⟨other, List.mem_cons_of_mem name hother, hfresh, hfound⟩
        · rintro ⟨other, hother, hfresh, hfound⟩
          rcases List.mem_cons.mp hother with rfl | hother
          · exact absurd hexpanded hfresh
          · exact ⟨other, hother, hfresh, hfound⟩
    · rw [expandCalls_cons_of_fresh hexpanded]
      have hrest := ih ((walk.noting name).expanding name)
      constructor
      · intro other
        rw [hrest.listed, CallWalk.listed_expanding, CallWalk.mem_listed_noting, List.mem_cons]
        tauto
      · exact fun hnodup => hrest.nodup (CallWalk.nodup_noting hnodup name)
      · intro other
        rw [hrest.expanded, CallWalk.expanded_expanding, CallWalk.expanded_noting, List.mem_cons,
          List.mem_cons]
        tauto
      · intro child
        rw [List.mem_append, Option.mem_toList, hrest.children, CallWalk.expanded_expanding,
          CallWalk.expanded_noting]
        constructor
        · rintro (hfound | ⟨other, hother, hfresh, hfound⟩)
          · exact ⟨name, List.mem_cons_self, hexpanded, hfound⟩
          · exact ⟨other, List.mem_cons_of_mem name hother,
              fun hmem => hfresh (List.mem_cons_of_mem name hmem), hfound⟩
        · rintro ⟨other, hother, hfresh, hfound⟩
          by_cases hsame : other = name
          · subst hsame
            exact .inl hfound
          · refine .inr ⟨other, ?_, ?_, hfound⟩
            · exact (List.mem_cons.mp hother).resolve_left hsame
            · intro hmem
              exact hfresh ((List.mem_cons.mp hmem).resolve_left hsame)

/-! ## The walk comes to an end -/

/-- The names that are used somewhere. -/
def callNames (registry : Registry) : Finset String :=
  (registry.contracts.flatMap (·.used)).toFinset

/-- The names that are used somewhere and have not been expanded. -/
def unexpanded (registry : Registry) (walk : CallWalk) : Finset String :=
  registry.callNames \ walk.expanded.toFinset

/-- Every contract that a step wants followed uses up a name. -/
theorem length_children_le (hused : ∀ name ∈ used, name ∈ registry.callNames) (ecosystem : Int)
    (walk : CallWalk) :
    (expandCalls registry ecosystem true used walk).2.length +
        (registry.unexpanded (expandCalls registry ecosystem true used walk).1).card ≤
      (registry.unexpanded walk).card := by
  induction used generalizing walk with
  | nil => simp [expandCalls]
  | cons name rest ih =>
    obtain ⟨hname, hrest⟩ := List.forall_mem_cons.mp hused
    by_cases hexpanded : name ∈ walk.expanded
    · rw [expandCalls_cons_of_expanded hexpanded]
      have hstep := ih hrest (walk.noting name)
      have hsame : registry.unexpanded (walk.noting name) = registry.unexpanded walk := by
        simp [unexpanded]
      rwa [hsame] at hstep
    · rw [expandCalls_cons_of_fresh hexpanded]
      have hstep := ih hrest ((walk.noting name).expanding name)
      have hmem : name ∈ registry.unexpanded walk := by
        simp [unexpanded, hname, hexpanded]
      have herase : registry.unexpanded ((walk.noting name).expanding name) =
          (registry.unexpanded walk).erase name := by
        simp [unexpanded, Finset.sdiff_insert]
      have hcard := Finset.card_erase_add_one hmem
      have hchild : (registry.lookupByName name ecosystem).toList.length ≤ 1 := by
        cases registry.lookupByName name ecosystem <;> simp
      rw [herase] at hstep
      dsimp only
      rw [List.length_append]
      omega

/-- The walk over the contracts on a stack, from the first one on, and the walk at its end. -/
inductive Walks (registry : Registry) (ecosystem : Int) :
    List Contract → CallWalk → CallWalk → Prop
  | done (walk : CallWalk) : Walks registry ecosystem [] walk walk
  | next {c : Contract} {waiting : List Contract} {walk last : CallWalk} :
      Walks registry ecosystem
        ((expandCalls registry ecosystem true c.used walk).2 ++ waiting)
        (expandCalls registry ecosystem true c.used walk).1 last →
      Walks registry ecosystem (c :: waiting) walk last

/-- With fuel for every contract on the stack and every name that is left, the end is reached. -/
theorem walks_followCalls (ecosystem : Int) {fuel : Nat}
    (hstack : ∀ c ∈ stack, c ∈ registry.contracts)
    (hfuel : stack.length + (registry.unexpanded walk).card ≤ fuel) :
    Walks registry ecosystem stack walk
      (followCalls registry ecosystem true fuel stack walk) := by
  induction fuel generalizing stack walk with
  | zero =>
    have hempty : stack = [] := List.length_eq_zero_iff.mp (by omega)
    subst hempty
    exact .done walk
  | succ fuel ih =>
    cases stack with
    | nil => exact .done walk
    | cons c waiting =>
      obtain ⟨hc, hwaiting⟩ := List.forall_mem_cons.mp hstack
      have hused : ∀ name ∈ c.used, name ∈ registry.callNames := by
        intro name hname
        rw [callNames, List.mem_toFinset, List.mem_flatMap]
        exact ⟨c, hc, hname⟩
      have hlength := length_children_le hused ecosystem walk
      refine .next (ih ?_ ?_)
      · intro d hd
        rcases List.mem_append.mp hd with hchild | hd
        · obtain ⟨name, -, -, hfound⟩ :=
            ((expandCalls_expands registry ecosystem c.used walk).children d).mp hchild
          exact mem_contracts_of_lookupByName hfound
        · exact hwaiting d hd
      · rw [List.length_append]
        rw [List.length_cons] at hfuel
        omega

/-! ## What is listed in the end -/

/-- All names that the contract uses are listed and expanded. -/
def Done (walk : CallWalk) (c : Contract) : Prop :=
  ∀ used ∈ c.used, used ∈ walk.listed ∧ used ∈ walk.expanded

theorem Walks.subset (h : Walks registry ecosystem stack walk last) :
    walk.listed ⊆ last.listed ∧ walk.expanded ⊆ last.expanded := by
  induction h with
  | done walk => exact ⟨List.Subset.refl _, List.Subset.refl _⟩
  | @next c waiting walk last _ ih =>
    have hstep := expandCalls_expands registry ecosystem c.used walk
    refine ⟨fun name hname => ih.1 ?_, fun name hname => ih.2 ?_⟩
    · exact (hstep.listed name).mpr (.inr hname)
    · exact (hstep.expanded name).mpr (.inr hname)

theorem Walks.nodup (h : Walks registry ecosystem stack walk last) (hnodup : walk.listed.Nodup) :
    last.listed.Nodup := by
  induction h with
  | done walk => exact hnodup
  | @next c waiting walk last _ ih =>
    exact ih ((expandCalls_expands registry ecosystem c.used walk).nodup hnodup)

/-- In the end the contracts of the stack are done, and so are those of all names that have been
expanded on the way. -/
theorem Walks.done_of_mem (h : Walks registry ecosystem stack walk last) :
    (∀ c ∈ stack, Done last c) ∧
      ∀ name ∈ last.expanded, name ∈ walk.expanded ∨
        ∀ d, registry.lookupByName name ecosystem = some d → Done last d := by
  induction h with
  | done walk => exact ⟨List.forall_mem_nil _, fun name hname => .inl hname⟩
  | @next c waiting walk last hrest ih =>
    obtain ⟨hstack, hexpanded⟩ := ih
    have hstep := expandCalls_expands registry ecosystem c.used walk
    obtain ⟨hlisted, hkept⟩ := hrest.subset
    constructor
    · intro d hd
      rcases List.mem_cons.mp hd with rfl | hd
      · intro used hused
        exact ⟨hlisted ((hstep.listed used).mpr (.inl hused)),
          hkept ((hstep.expanded used).mpr (.inl hused))⟩
      · exact hstack d (List.mem_append_right _ hd)
    · intro name hname
      by_cases hbefore : name ∈ walk.expanded
      · exact .inl hbefore
      rcases hexpanded name hname with hafter | hdone
      · have hused := ((hstep.expanded name).mp hafter).resolve_right hbefore
        refine .inr fun d hfound => hstack d (List.mem_append_left _ ?_)
        exact (hstep.children d).mpr ⟨name, hused, hbefore, hfound⟩
      · exact .inr hdone

/-- Whatever is listed in the end was listed before, or is called by a contract to which a name on the
stack leads. -/
theorem Walks.sound (h : Walks registry ecosystem stack walk last)
    (hstack : ∀ c ∈ stack, ∃ used, Relation.ReflTransGen (registry.CallsOn ecosystem) name used ∧
      registry.lookupByName used ecosystem = some c)
    (hlisted : ∀ target ∈ walk.listed,
      Relation.TransGen (registry.CallsOn ecosystem) name target) :
    ∀ target ∈ last.listed, Relation.TransGen (registry.CallsOn ecosystem) name target := by
  induction h with
  | done walk => exact hlisted
  | @next c waiting walk last _ ih =>
    have hstep := expandCalls_expands registry ecosystem c.used walk
    obtain ⟨⟨caller, hreached, hcaller⟩, hwaiting⟩ := List.forall_mem_cons.mp hstack
    have hcalled : ∀ target ∈ c.used,
        Relation.TransGen (registry.CallsOn ecosystem) name target := fun target htarget =>
      Relation.TransGen.tail' hreached ((callsOn_iff hcaller).mpr htarget)
    apply ih
    · intro d hd
      rcases List.mem_append.mp hd with hchild | hd
      · obtain ⟨used, hused, -, hfound⟩ := (hstep.children d).mp hchild
        exact ⟨used, (hcalled used hused).to_reflTransGen, hfound⟩
      · exact hwaiting d hd
    · intro target htarget
      rcases (hstep.listed target).mp htarget with hused | hbefore
      · exact hcalled target hused
      · exact hlisted target hbefore

/-! ## The names that a contract leads to -/

/-- A contract lists every name that it uses once. -/
theorem Reachable.nodup_used (h : registry.Reachable) (hc : c ∈ registry.contracts) :
    c.used.Nodup := by
  obtain ⟨record, unit, -, hfrom⟩ := h.reachableFrom.sourced.exists_comesFrom
    (mem_contracts_iff.mp hc)
  obtain ⟨_, units, hcompile, hunit⟩ := hfrom.declared
  have hsorted := Script.sorted_of_parse (Script.compile_eq_ok hcompile).1 hunit
  rw [hfrom.used]
  refine hsorted.imp fun {a b} hless => ?_
  rintro rfl
  simp at hless

/-- If contracts are not followed, the walk lists what is used. -/
theorem expandCalls_direct (hnodup : used.Nodup) (hnew : ∀ name ∈ used, name ∉ walk.listed) :
    expandCalls registry ecosystem false used walk =
      ({ walk with listed := used.reverse ++ walk.listed }, []) := by
  induction used generalizing walk with
  | nil => rfl
  | cons name rest ih =>
    obtain ⟨hname, hnodup⟩ := List.nodup_cons.mp hnodup
    obtain ⟨hfirst, hnew⟩ := List.forall_mem_cons.mp hnew
    have hfresh : walk.listed.contains name = false := by simpa using hfirst
    have hrest : expandCalls registry ecosystem false rest
        { walk with listed := name :: walk.listed } =
          (⟨rest.reverse ++ name :: walk.listed, walk.expanded⟩, []) := by
      apply ih hnodup
      intro other hother hlisted
      rcases List.mem_cons.mp hlisted with rfl | hlisted
      · exact hname hother
      · exact hnew other hother hlisted
    rw [expandCalls, hfresh]
    simp only [Bool.false_eq_true, if_false, Bool.false_and, hrest, List.reverse_cons,
      List.append_assoc, List.singleton_append]

/-- In the end everything is listed to which the name leads, if the name of the contract that is found
for it leads to nothing else. -/
theorem Walks.complete (hroot : registry.lookupByName name ecosystem = some root)
    (hown : ∀ d, registry.lookupByName root.name ecosystem = some d → d = root)
    (h : Walks registry ecosystem [root] ⟨[], [root.name]⟩ last)
    (hreached : Relation.TransGen (registry.CallsOn ecosystem) name target) :
    target ∈ last.listed := by
  obtain ⟨hstack, hexpanded⟩ := h.done_of_mem
  have hrootDone : Done last root := hstack root List.mem_cons_self
  have hdone : ∀ used ∈ last.expanded, ∀ d, registry.lookupByName used ecosystem = some d →
      Done last d := by
    intro used hused d hd
    rcases hexpanded used hused with hbefore | hafter
    · obtain rfl := List.mem_singleton.mp hbefore
      rw [hown d hd]
      exact hrootDone
    · exact hafter d hd
  -- Along a chain of calls every name is expanded, so that the next one is listed and expanded.
  have hmem : target ∈ last.listed ∧ target ∈ last.expanded := by
    induction hreached with
    | single hcall => exact hrootDone _ ((callsOn_iff hroot).mp hcall)
    | tail _ hcall ih =>
      obtain ⟨d, hd, hused⟩ := hcall
      exact hdone _ ih.2 d hd _ hused
  exact hmem.1

/-- The walk from a contract comes to an end. It has listed, each of them once, exactly the names that
can be reached by one call or more; the contract's own name is among them if and only if the contract is
on a cycle. Without following contracts, exactly the names that the contract uses are listed. -/
theorem usedContracts_reached (h : registry.Reachable)
    (hroot : registry.lookupByName name ecosystem = some root) :
    (∃ last, Walks registry ecosystem [root] ⟨[], [root.name]⟩ last ∧
        registry.usedContracts name ecosystem true = last.listed.reverse) ∧
      (registry.usedContracts name ecosystem true).Nodup ∧
      (∀ target, target ∈ registry.usedContracts name ecosystem true ↔
        Relation.TransGen (registry.CallsOn ecosystem) name target) ∧
      (root.name ∈ registry.usedContracts name ecosystem true ↔
        registry.OnCycle ecosystem root) ∧
      registry.usedContracts name ecosystem false = root.used := by
  have hmem := mem_contracts_of_lookupByName hroot
  have hfuel : [root].length + (registry.unexpanded ⟨[], [root.name]⟩).card ≤
      registry.callCount + 1 := by
    have hsubset : (registry.unexpanded ⟨[], [root.name]⟩).card ≤ registry.callNames.card :=
      Finset.card_le_card Finset.sdiff_subset
    have hcount : registry.callNames.card ≤ registry.callCount := List.toFinset_card_le _
    rw [List.length_singleton]
    omega
  have hwalks := walks_followCalls ecosystem (List.forall_mem_singleton.mpr hmem) hfuel
  have htransitive : registry.usedContracts name ecosystem true =
      (followCalls registry ecosystem true (registry.callCount + 1) [root]
        ⟨[], [root.name]⟩).listed.reverse := by
    rw [usedContracts, hroot]
  have hreached : ∀ target, target ∈ registry.usedContracts name ecosystem true ↔
      Relation.TransGen (registry.CallsOn ecosystem) name target := by
    intro target
    rw [htransitive, List.mem_reverse]
    constructor
    · apply hwalks.sound
      · intro c hc
        obtain rfl := List.mem_singleton.mp hc
        exact ⟨name, .refl, hroot⟩
      · exact List.forall_mem_nil _
    · exact hwalks.complete hroot fun d hd => h.eq_of_lookupByName_name hmem hd
  refine ⟨⟨_, hwalks, htransitive⟩, ?_, hreached, ?_, ?_⟩
  · rw [htransitive, List.nodup_reverse]
    exact hwalks.nodup List.nodup_nil
  · exact (hreached root.name).trans (transGen_name_iff hroot)
  · have hdirect : expandCalls registry ecosystem false root.used ⟨[], [root.name]⟩ =
        (⟨root.used.reverse ++ [], [root.name]⟩, []) :=
      expandCalls_direct (h.nodup_used hmem) fun _ _ => List.not_mem_nil
    rw [usedContracts, hroot]
    dsimp only
    rw [followCalls, hdirect]
    cases registry.callCount <;> simp [followCalls]

/-- Four contracts of one record, which call each other in a circle. -/
def circleDatabase : Database :=
  { Database.empty with
    contracts := [
      (1, ⟨1, 1,
        "contract A \x7b\n action \x7b\n  call B\n  call C\n \x7d\n\x7d\n" ++
        "contract B \x7b\n action \x7b\n  call D\n \x7d\n\x7d\n" ++
        "contract C \x7b\n action \x7b\n  call A\n \x7d\n\x7d\n" ++
        "contract D \x7b\n action \x7b\n  call B\n \x7d\n\x7d\n",
        3, 1, true, "", 1⟩)] }

/-- The walk from a contract of the circle lists the three others and the contract itself. -/
theorem usedContracts_reached_sample :
    ∃ (registry : Registry) (root : Contract), registry.Reachable ∧
      registry.lookupByName "A" 1 = some root ∧
      registry.usedContracts "A" 1 true = ["@1B", "@1C", "@1D", "@1A"] ∧
      registry.OnCycle 1 root ∧ root.used = ["@1B", "@1C"] := by
  have hdb : circleDatabase.Keyed := ⟨by decide, by simp [circleDatabase]⟩
  let registry := ((Loading.all ⟨1, ""⟩ circleDatabase).run ⟨.empty, .none⟩).2.registry
  have hreachable : registry.Reachable := .loadAll ⟨1, ""⟩ hdb .none .empty
  have hlisted : (registry.lookupByName "A" 1).map (·.name) = some "@1A" ∧
      registry.usedContracts "A" 1 true = ["@1B", "@1C", "@1D", "@1A"] ∧
      registry.usedContracts "A" 1 false = ["@1B", "@1C"] := by
    decide +kernel
  obtain ⟨hname, htransitive, hdirect⟩ := hlisted
  obtain ⟨root, hroot, hname⟩ := Option.map_eq_some_iff.mp hname
  obtain ⟨-, -, -, hcycle, hused⟩ := usedContracts_reached hreachable hroot
  refine ⟨registry, root, hreachable, hroot, htransitive, hcycle.mp ?_, hused.symm.trans hdirect⟩
  rw [hname, htransitive]
  simp

end Registry

end Covenant
