import Covenant.Proofs.Auth
import Covenant.Proofs.Execution.Fuel
import Covenant.Proofs.Execution.Nesting
import Covenant.Proofs.Value

/-!
# Proper values

Where values stand that a run may come upon: in the slots of its environment, in rows, and as literals
in programs. They are proper at the beginning if those of the world and of the request are, and what
contract code makes of proper values is proper again.
-/

namespace Covenant

open Stage

/-! ## Programs and rows -/

/-- Literals are in range. -/
def Operand.IsProper : Operand → Prop
  | .int n => Quantity.InRange n
  | .variable _ | .text _ => True

/-- The operands of a statement. -/
def Statement.operands : Statement → List Operand
  | .set _ operand | .result operand | .notify operand _ | .select _ operand _ => [operand]
  | .call _ fields | .insert _ fields => fields.map Prod.snd
  | .update _ id values => id :: values.map Prod.snd
  | .activate tableId ecosystem _ => [tableId, ecosystem]
  | .wallet tableId ecosystem owner => [tableId, ecosystem, owner]
  | .charge _ | .require _ | .condition _ _ | .resultBytes _ | .fail _ | .spin _ => []

/-- The literals of a statement are in range. -/
def Statement.IsProper (statement : Statement) : Prop :=
  ∀ operand ∈ statement.operands, operand.IsProper

/-- The literals of a program are in range. -/
def Program.IsProper (program : Program) : Prop :=
  ∀ method ∈ program, ∀ statement ∈ method.2, statement.IsProper

/-- The literals of all contracts are in range. -/
def Registry.IsProper (registry : Registry) : Prop :=
  ∀ program ∈ registry.contracts.map Contract.program, program.IsProper

instance (operand : Operand) : Decidable operand.IsProper :=
  match operand with
  | .int n => inferInstanceAs (Decidable (Quantity.InRange n))
  | .variable _ => .isTrue trivial
  | .text _ => .isTrue trivial

instance (statement : Statement) : Decidable statement.IsProper :=
  inferInstanceAs (Decidable (∀ operand ∈ statement.operands, operand.IsProper))

instance (program : Program) : Decidable program.IsProper :=
  inferInstanceAs (Decidable (∀ method ∈ program, ∀ statement ∈ method.2, statement.IsProper))

instance (registry : Registry) : Decidable registry.IsProper :=
  inferInstanceAs
    (Decidable (∀ program ∈ registry.contracts.map Contract.program, program.IsProper))

/-- All rows are proper. -/
def Database.IsProper (db : Database) : Prop :=
  ∀ table id row, db.row? table id = some row → (Value.map row).IsProper

/-- The values in all slots are proper. -/
def Environment.IsProper (env : Environment) : Prop :=
  ∀ key value, env.get? key = some value → value.IsProper

theorem Registry.IsProper.program {registry : Registry} (h : registry.IsProper)
    {contract : Contract} (hcontract : contract ∈ registry.contracts) :
    contract.program.IsProper :=
  h _ (List.mem_map_of_mem hcontract)

theorem Database.isProper_of_rows {db : Database}
    (h : ∀ table ∈ db.rows, ∀ entry ∈ table.2, (Value.map entry.2).IsProper) : db.IsProper := by
  intro name id row hrow
  unfold row? table at hrow
  cases htable : Dict.find? name db.rows with
  | none =>
    rw [htable] at hrow
    cases hrow
  | some rows =>
    rw [htable] at hrow
    exact h _ (Dict.mem_of_find? htable) _ (Dict.mem_of_find? hrow)

theorem Database.IsProper.setRow {db : Database} (h : db.IsProper) {row : Row}
    (hrow : (Value.map row).IsProper) (table : String) (id : Int) :
    (db.setRow table id row).IsProper := by
  intro other key found hfound
  rw [row?_setRow] at hfound
  split at hfound
  next =>
    obtain rfl := Option.some.inj hfound
    exact hrow
  next => exact h other key found hfound

namespace Environment

variable {env : Environment} {value : Value}

theorem isProper_empty : Environment.empty.IsProper :=
  fun _ _ h => by cases h

theorem IsProper.set (h : env.IsProper) (key : EnvKey) (hvalue : value.IsProper) :
    (env.set key value).IsProper := by
  intro other found hfound
  by_cases hkey : other = key
  · subst hkey
    rw [get?_set_self] at hfound
    obtain rfl := Option.some.inj hfound
    exact hvalue
  · rw [get?_set_of_ne _ hkey] at hfound
    exact h other found hfound

theorem IsProper.remove (h : env.IsProper) (key : EnvKey) : (env.remove key).IsProper := by
  intro other found hfound
  rw [get?_remove] at hfound
  split at hfound
  next => cases hfound
  next => exact h other found hfound

theorem IsProper.addFields (h : env.IsProper) {fields : List (String × Value)}
    (hfields : ∀ field ∈ fields, field.2.IsProper) : (env.addFields fields).IsProper := by
  unfold Environment.addFields
  induction fields generalizing env with
  | nil => exact h
  | cons field rest ih =>
    obtain ⟨hfield, hrest⟩ := List.forall_mem_cons.mp hfields
    rw [List.foldl_cons]
    refine ih ?_ hrest
    unfold addField
    dsimp only
    split
    next => exact h
    next => exact h.set _ hfield

/-- The fuel in a proper environment is in range. -/
theorem IsProper.fuel_inRange (h : env.IsProper) : Quantity.InRange env.fuel := by
  unfold Environment.fuel
  cases hslot : env.get? .txCost with
  | none => exact (by decide : Quantity.InRange 0)
  | some value =>
    rw [Option.bind_some]
    cases hint : value.asInt? with
    | none => exact (by decide : Quantity.InRange 0)
    | some n => exact Value.asInt?_inRange (h _ _ hslot) hint

theorem IsProper.setFuel (h : env.IsProper) {fuel : Int} (hfuel : Quantity.InRange fuel) :
    (env.setFuel fuel).IsProper :=
  h.set _ hfuel

theorem IsProper.charge (h : env.IsProper) (amount : Int) : (env.charge amount).IsProper :=
  h.setFuel (Quantity.sub_inRange _ _)

theorem IsProper.result (h : env.IsProper) : env.result.IsProper := by
  unfold Environment.result
  cases hslot : env.get? .result with
  | none => exact trivial
  | some value => exact h _ _ hslot

theorem IsProper.calleeEnv (h : env.IsProper) (name : String) {fields : Row}
    (hfields : (Value.map fields).IsProper) : (Run.calleeEnv env name fields).IsProper := by
  have hthis : ((env.get? .thisContract).getD .null).IsProper := by
    cases hslot : env.get? .thisContract with
    | none => exact trivial
    | some value => exact h _ _ hslot
  have hname : (Value.text name).IsProper := trivial
  exact (((h.set .parentContract hthis).set .thisContract hname).remove .result).addFields
    (Value.map_isProper_iff.mp hfields).2

/-- The slot for the call stack holds texts. -/
theorem IsProper.stack (h : env.IsProper) (names : List String) :
    (env.set .stack (.list (names.map .text))).IsProper := by
  refine h.set _ (Value.areProper_iff.mpr fun value hvalue => ?_)
  obtain ⟨name, -, rfl⟩ := List.mem_map.mp hvalue
  trivial

end Environment

namespace Run

variable {env : Environment} {value : Value}

theorem resolve_isProper (h : env.IsProper) {operand : Operand} (hoperand : operand.IsProper)
    (hvalue : resolve env operand = .ok value) : value.IsProper := by
  unfold resolve at hvalue
  split at hvalue
  next =>
    obtain rfl := Except.ok.inj hvalue
    exact hoperand
  next =>
    obtain rfl := Except.ok.inj hvalue
    trivial
  next =>
    split at hvalue
    next hslot =>
      obtain rfl := Except.ok.inj hvalue
      exact h _ _ hslot
    next => cases hvalue

theorem resolvePairs_isProper (h : env.IsProper) {pairs : List (String × Operand)}
    (hpairs : ∀ operand ∈ pairs.map Prod.snd, operand.IsProper) {values : List (String × Value)}
    (hvalues : resolvePairs env pairs = .ok values) : ∀ cell ∈ values, cell.2.IsProper := by
  induction pairs generalizing values with
  | nil =>
    obtain rfl := Except.ok.inj hvalues
    exact fun cell hcell => by cases hcell
  | cons pair rest ih =>
    obtain ⟨name, operand⟩ := pair
    obtain ⟨hoperand, hrest⟩ := List.forall_mem_cons.mp hpairs
    unfold resolvePairs at hvalues
    cases hvalue : resolve env operand with
    | error e =>
      rw [hvalue] at hvalues
      cases hvalues
    | ok value =>
      rw [hvalue] at hvalues
      cases hmore : resolvePairs env rest with
      | error e =>
        rw [hmore] at hvalues
        cases hvalues
      | ok more =>
        rw [hmore] at hvalues
        obtain rfl := Except.ok.inj hvalues
        exact List.forall_mem_cons.mpr ⟨resolve_isProper h hoperand hvalue, ih hrest hmore⟩

/-- The statements that a call runs are those of the program. -/
theorem entryStatements_isProper {program : Program} (h : program.IsProper) :
    ∀ statement ∈ entryStatements program, statement.IsProper := by
  intro statement hstatement
  obtain ⟨method, -, hmem⟩ := List.mem_flatMap.mp hstatement
  cases hfound : Dict.find? method program with
  | none =>
    rw [hfound] at hmem
    cases hmem
  | some statements =>
    rw [hfound] at hmem
    exact h _ (Dict.mem_of_find? hfound) statement hmem

end Run

/-- All values that a run may come upon are proper. -/
structure RunState.IsProper (s : RunState) : Prop where
  env : s.ctx.env.IsProper
  rows : s.world.data.IsProper
  programs : s.world.registry.IsProper

/-! ## Where a run begins -/

/-- The rows that are stored and the literals of the contracts are proper. -/
structure World.IsProper (world : World) : Prop where
  rows : world.data.IsProper
  programs : world.registry.IsProper

namespace ExecutionRequest

/-- The numbers of a request that contract code sees. -/
def numbers (request : ExecutionRequest) : List Int :=
  [request.tx.contractId, request.tx.ecosystemId, request.tx.keyId, request.tx.time,
    request.block.nodePosition, request.block.blockId, request.block.keyId,
    request.block.timestamp] ++ request.tx.signedBy.toList

/-- The values that contract code sees of a request are proper. -/
structure IsProper (request : ExecutionRequest) : Prop where
  numbers : ∀ n ∈ request.numbers, Quantity.InRange n
  fields : (Value.map request.tx.fields).IsProper

end ExecutionRequest

namespace Environment

/-- Slots that are set to proper values leave the environment proper. -/
theorem IsProper.foldl_set {env : Environment} (h : env.IsProper)
    {slots : List (EnvKey × Value)} (hslots : ∀ slot ∈ slots, slot.2.IsProper) :
    (slots.foldl (fun env slot => env.set slot.1 slot.2) env).IsProper := by
  induction slots generalizing env with
  | nil => exact h
  | cons slot rest ih =>
    obtain ⟨hslot, hrest⟩ := List.forall_mem_cons.mp hslots
    exact ih (h.set _ hslot) hrest

theorem IsProper.addKnownAccounts {env : Environment} (h : env.IsProper) :
    env.addKnownAccounts.IsProper := by
  have hguest : (Value.int guestKey).IsProper := (by decide : Quantity.InRange guestKey)
  have hblack : (Value.int blackHoleKey).IsProper := (by decide : Quantity.InRange blackHoleKey)
  have hwhite : (Value.int whiteHoleKey).IsProper := (by decide : Quantity.InRange whiteHoleKey)
  have htext (s : String) : (Value.text s).IsProper := trivial
  exact (((((h.set _ hguest).set _ (htext _)).set _ hblack).set _ (htext _)).set _ hwhite).set _
    (htext _)

end Environment

namespace Preparing

variable {node : Node} {request : ExecutionRequest} {world w : World} {ctx : ExecutionContext}

/-- The contract of a prepared execution finds proper values in its slots. -/
theorem environment_isProper (hrequest : request.IsProper) (htx : ctx.tx = request.tx)
    (hblock : ctx.block = request.block) (hsigner : Quantity.InRange ctx.signerId) {limit : Int}
    (hlimit : Quantity.InRange limit) : (environment node ctx limit).IsProper := by
  obtain ⟨hnumbers, hfields⟩ := hrequest
  unfold environment
  rw [htx, hblock]
  refine ((Environment.isProper_empty.foldl_set ?_).addKnownAccounts).addFields
    (Value.map_isProper_iff.mp hfields).2
  have htime : Quantity.InRange (min (node.params.timeLimit : Int) Quantity.greatest) := by
    unfold Quantity.InRange Quantity.least Quantity.greatest
    omega
  simp [ExecutionRequest.numbers] at hnumbers
  simp [Value.IsProper, hnumbers, hsigner, hlimit, htime]

/-- All values that the run of a prepared execution may come upon are proper. -/
theorem prepare_isProper (hworld : world.IsProper) (hrequest : request.IsProper)
    (hmax : Quantity.InRange node.params.maxCost)
    (h : (prepare node request).run world = (.ok ctx, w)) :
    (⟨ctx, w⟩ : RunState).IsProper ∧ ctx.contract.program.IsProper := by
  have hprepared := prepare_ok h
  obtain ⟨contract, signer, key, reserved, hcontract, hsigned, rfl⟩ := prepare_signed h
  have hsigner : Quantity.InRange signer := by
    obtain ⟨_, _, hresolved, -⟩ := hsigned
    refine hrequest.numbers signer ?_
    rcases Auth.resolveSigner_eq_ok hresolved with rfl | hnamed
    · simp [ExecutionRequest.numbers]
    · simp [ExecutionRequest.numbers, hnamed]
  refine ⟨⟨?_, ?_, ?_⟩,
    hworld.programs.program (Registry.mem_contracts_of_lookupById hcontract)⟩
  · exact environment_isProper hrequest rfl rfl hsigner (Node.limitFor_inRange _ hmax)
  · rw [hprepared.same.data]
    exact hworld.rows
  · rw [hprepared.same.registry]
    exact hworld.programs

end Preparing

end Covenant
