import Covenant.Proofs.Execution.Effect
import Covenant.Proofs.Execution.Ending

/-!
# Who may change a contract

The registry switches contracts on and off and gives them other wallets for whoever asks, and leaves it
to the run to find out whether the transaction may do that. The run does not: the two changes look at
the record's contracts and at nothing else. So where a transaction is denied every update of an
ecosystem's table of contracts, its contracts are changed all the same, and only a record without
contracts is safe.
-/

namespace Covenant

open Stage

/-- The check of tables denies the run an update of an ecosystem's table of contracts. -/
def RunState.IsDenied (params : SystemParameters) (s : RunState) (ecosystem : Int) : Prop :=
  ∃ e, ((Access.checkTable params s.ctx (TableName.qualify "contracts" ecosystem) .update).run
    s.world.connection).1 = .error e ∧ e.isDenied = true

/-- The run fails, and leaves the registry and the list of registry changes as they are. -/
def RunState.HoldsBack (s : RunState) (x : Run Unit) : Prop :=
  ∃ e t, x.run s = (.error e, t) ∧ t.world.registry = s.world.registry ∧ t.ctx.flush = s.ctx.flush

/-- A change of ownership finds nothing exactly if the record has no contracts in the ecosystem. -/
theorem Registry.changeOwner_fst_eq_none_iff {registry : Registry} {tableId ecosystem : Int}
    {change : Ownership → Ownership} :
    (registry.changeOwner tableId ecosystem change).1 = none ↔
      registry.contractsOfRecord tableId ecosystem = [] := by
  unfold changeOwner
  split
  next hnone => exact iff_of_true rfl (List.head?_eq_none_iff.mp hnone)
  next first hfirst =>
    refine iff_of_false (Option.some_ne_none _) fun hnil => ?_
    rw [hnil] at hfirst
    cases hfirst

/-- Beside an empty database every update is denied: no table has a record, and no ecosystem has a
founder. -/
theorem Access.checkTable_empty {params : SystemParameters} {ctx : ExecutionContext}
    (haccess : ctx.flags.fullAccess = false) (table : String) :
    ∃ e, ((checkTable params ctx table .update).run ⟨.begin .empty, .none⟩).1 = .error e ∧
      e.isDenied = true := by
  have hfounder : ∃ c, (isFounder ctx).run ⟨.begin .empty, .none⟩ = (.ok false, c) := ⟨_, rfl⟩
  have hrecord : ∃ c, (recordOf table).run ⟨.begin .empty, .none⟩ = (.ok none, c) := by
    unfold recordOf
    rcases TableName.split table with ⟨_ | number, name⟩
    · exact ⟨_, rfl⟩
    · exact ⟨_, rfl⟩
  unfold checkTable tablePermissions
  rw [haccess, if_neg Bool.false_ne_true]
  cases isPrivileged ctx table with
  | true =>
    obtain ⟨c, hc⟩ := hfounder
    refine ⟨.accessDenied .system, ?_, rfl⟩
    exact congrArg Prod.fst (run_bind_of_error ((run_bind_of_ok hc).trans rfl))
  | false =>
    obtain ⟨c, hc⟩ := hrecord
    refine ⟨.notCustomTable table, ?_, rfl⟩
    exact congrArg Prod.fst (run_bind_of_error ((run_bind_of_ok hc).trans rfl))

namespace Run

variable {tableId ecosystem : Int} {s : RunState}

section Contracts

variable {α : Type} {change : Registry → Option α × Registry} {undo : α → FlushChange}

/-- A change that finds no contract fails, and nothing has moved. -/
theorem run_changeContracts_of_none {registry : Registry}
    (h : change s.world.registry = (none, registry)) :
    (changeContracts tableId ecosystem change undo).run s =
      (.error (.unknownContract (toString ecosystem ++ ":" ++ toString tableId)), s) := by
  have hregistry : Run.registry.run s = (.ok s.world.registry, s) := rfl
  rw [changeContracts, run_bind_of_ok hregistry, h]
  rfl

/-- A change that finds contracts is made, and the value before it is remembered. -/
theorem run_changeContracts_of_some {registry : Registry} {previous : α}
    (h : change s.world.registry = (some previous, registry)) :
    (changeContracts tableId ecosystem change undo).run s =
      (.ok (), { ctx := { s.ctx with flush := s.ctx.flush ++ [⟨tableId, ecosystem, undo previous⟩] }
                 world := { s.world with registry } }) := by
  have hregistry : Run.registry.run s = (.ok s.world.registry, s) := rfl
  rw [changeContracts, run_bind_of_ok hregistry, h]
  rfl

end Contracts

/-- The contracts of a record are guarded: a run that is denied updates of the table of contracts can
neither switch them on or off nor give them another wallet. -/
def Guarded (registry : Registry) (tableId ecosystem : Int) : Prop :=
  ∀ (params : SystemParameters) (s : RunState), s.world.registry = registry →
    s.ctx.flags.fullAccess = false → s.IsDenied params ecosystem →
      (∀ active, s.HoldsBack (activate tableId ecosystem active)) ∧
        ∀ wallet, s.HoldsBack (setWallet tableId ecosystem wallet)

/-- A record without contracts gives a run nothing to change. -/
theorem guarded_of_contractsOfRecord {registry : Registry}
    (h : registry.contractsOfRecord tableId ecosystem = []) : Guarded registry tableId ecosystem := by
  rintro params s rfl - -
  have hnone (change : Ownership → Ownership) :
      (s.world.registry.changeOwner tableId ecosystem change).1 = none :=
    Registry.changeOwner_fst_eq_none_iff.mpr h
  refine ⟨fun active => ?_, fun wallet => ?_⟩
  · exact ⟨_, s, run_changeContracts_of_none
      (Prod.ext (congrArg (Option.map Ownership.active) (hnone _)) rfl), rfl, rfl⟩
  · exact ⟨_, s, run_changeContracts_of_none
      (Prod.ext (congrArg (Option.map Ownership.walletId) (hnone _)) rfl), rfl, rfl⟩

/-- Where the record has contracts, they get the wallet, whatever any check says. -/
theorem run_setWallet_of_ne_nil (h : s.world.registry.contractsOfRecord tableId ecosystem ≠ [])
    (wallet : Int) :
    ∃ previous, (setWallet tableId ecosystem wallet).run s =
      (.ok (), { ctx := { s.ctx with
                   flush := s.ctx.flush ++ [⟨tableId, ecosystem, .wallet previous⟩] }
                 world := { s.world with
                   registry := (s.world.registry.reassignWallet tableId ecosystem wallet).2 } }) := by
  obtain ⟨owner, howner⟩ := Option.ne_none_iff_exists'.mp
    (mt Registry.changeOwner_fst_eq_none_iff.mp h : (s.world.registry.changeOwner tableId ecosystem
      fun owner => { owner with walletId := wallet }).1 ≠ none)
  exact ⟨owner.walletId, run_changeContracts_of_some
    (Prod.ext (congrArg (Option.map Ownership.walletId) howner) rfl)⟩

end Run

/-! ## A run that is denied everything -/

namespace Sample

/-- A run beside an empty database, with a registry. -/
def unrecorded (registry : Registry) : RunState :=
  let block := (request 0).block
  { ctx := .new (request 0).tx ⟨0, "@1Move", .none, [], [], []⟩ block block .none
    world := ⟨⟨.begin .empty, .none⟩, registry, 0⟩ }

theorem isDenied_unrecorded (registry : Registry) (ecosystem : Int) :
    (unrecorded registry).IsDenied .default ecosystem :=
  Access.checkTable_empty rfl _

/-- A contract gives its own record another wallet, beside a table of contracts that nobody may
update. -/
def forbidding : World :=
  running
    { database with tables := [(("1", "contracts"), ⟨"contracts", [("update", "false")], []⟩)] }
    "contract Move \x7b\n action \x7b\n  wallet 1 1 8\n \x7d\n\x7d\n"

end Sample

namespace Run

/-- A run that is denied everything changes the contracts of a record all the same, if there are any. -/
theorem contractsOfRecord_of_guarded {registry : Registry} {tableId ecosystem : Int}
    (h : Guarded registry tableId ecosystem) : registry.contractsOfRecord tableId ecosystem = [] := by
  refine Classical.byContradiction fun hcontracts => ?_
  obtain ⟨-, hwallet⟩ := h .default (Sample.unrecorded registry) rfl rfl
    (Sample.isDenied_unrecorded registry ecosystem)
  obtain ⟨e, t, hfails, -⟩ := hwallet 0
  obtain ⟨previous, hruns⟩ :=
    run_setWallet_of_ne_nil (s := Sample.unrecorded registry) hcontracts 0
  rw [hruns] at hfails
  cases hfails

/-- The contracts of a record are guarded exactly if there are none. -/
theorem guarded_iff (registry : Registry) (tableId ecosystem : Int) :
    Guarded registry tableId ecosystem ↔ registry.contractsOfRecord tableId ecosystem = [] :=
  ⟨contractsOfRecord_of_guarded, guarded_of_contractsOfRecord⟩

/-- The record of the running contract is not guarded: its transaction is denied updates of the table of
contracts, and is committed with the new wallet. -/
theorem not_guarded :
    ∃ s, Sample.start? Sample.forbidding = some s ∧ s.ctx.flags.fullAccess = false ∧
      ((Access.checkTable Sample.node.params s.ctx "1_contracts" .update).run
        s.world.connection).1 = .error (.accessDenied .table) ∧
      ¬ Guarded s.world.registry 1 1 ∧
      ∃ outcome w, Sample.node.execute (Sample.request 0) Sample.forbidding = (.ok outcome, w) ∧
        outcome.status = .committed ∧
        s.world.registry.contracts.map (·.owner.walletId) = [3] ∧
        w.registry.contracts.map (·.owner.walletId) = [8] := by
  have hstart : (Sample.start? Sample.forbidding).map (fun s => (s.ctx.flags.fullAccess,
      ((Access.checkTable Sample.node.params s.ctx "1_contracts" .update).run
        s.world.connection).1, s.world.registry.contracts.map (·.owner.walletId),
      (s.world.registry.contractsOfRecord 1 1).isEmpty)) =
        some (false, .error (.accessDenied .table), [3], false) := by decide +kernel
  obtain ⟨s, hs, hfound⟩ := Option.map_eq_some_iff.mp hstart
  obtain ⟨haccess, hdenied, hbefore, hcontracts⟩ := by simpa only [Prod.mk.injEq] using hfound
  have hends : ((Sample.node.execute (Sample.request 0) Sample.forbidding).1.toOption.map
      (·.status), (Sample.node.execute (Sample.request 0) Sample.forbidding).2.registry.contracts.map
        (·.owner.walletId)) = (some .committed, [8]) := by decide +kernel
  obtain ⟨hcommitted, hafter⟩ := Prod.mk.inj hends
  rcases hrun : Sample.node.execute (Sample.request 0) Sample.forbidding with ⟨e | outcome, w⟩
  · rw [hrun] at hcommitted
    cases hcommitted
  · rw [hrun] at hcommitted hafter
    refine ⟨s, hs, haccess, hdenied, fun hguarded => ?_, outcome, w, rfl,
      Option.some.inj hcommitted, hbefore, hafter⟩
    rw [contractsOfRecord_of_guarded hguarded] at hcontracts
    cases hcontracts

end Run

end Covenant
