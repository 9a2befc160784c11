import Covenant.Proofs.Execution.Frame

/-!
# Before the contract runs

A transaction is authenticated and its payer looked up before anything is written. Up to the point
where the savepoint is open, nothing that is stored changes, and the savepoint holds what was stored
then.
-/

namespace Covenant

open Stage

/-- The two worlds hold the same data and statements, the same registry and the same failures to
come. -/
structure World.SameData (v w : World) : Prop where
  registry : w.registry = v.registry
  data : w.data = v.data
  log : w.connection.session.log = v.connection.session.log
  schedule : w.connection.failures.schedule = v.connection.failures.schedule

instance : IsPreorder World World.SameData where
  refl _ := ⟨rfl, rfl, rfl, rfl⟩
  trans _ _ _ h k :=
    ⟨k.registry.trans h.registry, k.data.trans h.data, k.log.trans h.log,
      k.schedule.trans h.schedule⟩

/-- The two sessions hold the same data and statements. -/
structure Session.SameData (s t : Session) : Prop where
  working : t.working = s.working
  log : t.log = s.log

instance : IsPreorder Session Session.SameData where
  refl _ := ⟨rfl, rfl⟩
  trans _ _ _ h k := ⟨k.working.trans h.working, k.log.trans h.log⟩

/-- A fee is due for a transaction with these flags. -/
def FeeSchedule.isDueFor (schedule : FeeSchedule) (flags : ExecutionFlags) : Bool :=
  !schedule.privateChain && !flags.localSimulation && !flags.fullAccess

namespace Preparing

variable {ε α : Type}

/-- A computation with storage runs on the connection alone. -/
theorem run_storing (toError : ε → ExecutionError) (x : Storing ε α) (w : World) :
    (storing toError x).run w =
      ((x.run w.connection).1.mapError toError,
        { w with connection := (x.run w.connection).2 }) :=
  rfl

/-- The computation leaves the data of the world as it is, and does not notice whether savepoints can
be closed. -/
structure Calm (x : Preparing α) : Prop where
  keeps : Keeps World.SameData x
  ignores : Ignores (fun w => w.without .release) x

theorem Calm.pure (a : α) : Calm (Pure.pure a : Preparing α) :=
  ⟨.pure a, .pure a⟩

theorem Calm.bind {β : Type} {x : Preparing α} {f : α → Preparing β} (hx : Calm x)
    (hf : ∀ a, Calm (f a)) : Calm (x >>= f) :=
  ⟨hx.keeps.bind fun a => (hf a).keeps, hx.ignores.bind fun a => (hf a).ignores⟩

/-- Storage calls are calm if they leave the data and statements of the session as they are and close
no savepoint. -/
theorem Calm.storing {x : Storing ε α} (hkeeps : Keeps (Connection.Moves Session.SameData) x)
    (hignores : Ignores (fun c => c.without .release) x) (toError : ε → ExecutionError) :
    Calm (storing toError x) where
  keeps w := by
    have hmoves := hkeeps w.connection
    rw [run_storing]
    exact ⟨rfl, hmoves.session.working, hmoves.session.log, hmoves.schedule⟩
  ignores w := by
    have hsame := hignores w.connection
    rw [run_storing, run_storing]
    change (Except.mapError toError (x.run (w.connection.without .release)).1,
      ({ w.without .release with
        connection := (x.run (w.connection.without .release)).2 } : World)) = _
    rw [hsame]
    rfl

/-- Looking around is calm. -/
theorem Calm.looking {x : Storing ε α} (hx : x.Looks) (toError : ε → ExecutionError) :
    Calm (Preparing.storing toError x) :=
  .storing hx.leaves.keeps hx.ignores toError

/-- The contract of a transaction is the one that its id means. -/
theorem run_findContract (tx : Transaction) (w : World) :
    (findContract tx).run w =
      match w.registry.lookupById tx.contractId with
      | some contract => (.ok contract, w)
      | none => (.error (.contractNotFound (toString tx.contractId)), w) := by
  have hread : registry.run w = (.ok w.registry, w) := rfl
  rw [findContract, run_bind_of_ok hread]
  cases w.registry.lookupById tx.contractId with
  | some contract => rfl
  | none => rfl

theorem findContract_calm (tx : Transaction) : Calm (findContract tx) where
  keeps w := by
    rw [run_findContract]
    split
    · exact Std.Refl.refl _
    · exact Std.Refl.refl _
  ignores w := by
    rw [run_findContract, run_findContract]
    change (match w.registry.lookupById tx.contractId with | some _ => _ | none => _) = _
    cases w.registry.lookupById tx.contractId with
    | some contract => rfl
    | none => rfl

theorem authenticate_calm (node : Node) (ctx : ExecutionContext) : Calm (authenticate node ctx) :=
  (Calm.looking (Auth.resolveSigner_looks _ _ _ _) _).bind fun _ =>
    (Calm.looking (Auth.verifySignature_looks _ _ _) _).bind fun _ => .pure _

theorem reserve_calm (node : Node) (ctx : ExecutionContext) : Calm (reserve node ctx) := by
  unfold reserve
  split
  · exact (Calm.looking (Payment.prepare_looks _ _) _).bind fun _ => .pure _
  · exact .pure _

/-- Nothing that is stored changes before the contract runs. -/
theorem prepare_calm (node : Node) (request : ExecutionRequest) : Calm (prepare node request) := by
  have hsavepoint : Calm
      (storing ExecutionError.storage (Storing.createSavepoint request.savepoint)) :=
    .storing (Storing.call_keeps fun _ => ⟨rfl, rfl⟩) (Storing.call_ignores (by decide) _) _
  exact (findContract_calm _).bind fun _ => (authenticate_calm node _).bind fun _ =>
    (reserve_calm node _).bind fun _ => hsavepoint.bind fun _ => .pure _

/-! ## The context of a prepared execution -/

/-- What the contract of a prepared execution finds: the transaction and its contract, nothing done
yet, and a savepoint that holds the data as it is. -/
structure Prepared (request : ExecutionRequest) (world : World) (s : RunState) : Prop where
  tx : s.ctx.tx = request.tx
  block : s.ctx.block = request.block
  contract : world.registry.lookupById request.tx.contractId = some s.ctx.contract
  flush : s.ctx.flush = []
  consumed : s.ctx.fuel.consumed = 0
  same : world.SameData s.world
  savepoint : ∃ older, s.world.connection.session.savepoints =
    older ++ [(request.savepoint, world.data)]

variable {node : Node} {ctx ctx' : ExecutionContext} {w w' : World}

private theorem run_storing_eq_ok {toError : ε → ExecutionError} {x : Storing ε α} {a : α}
    (h : (storing toError x).run w = (.ok a, w')) : x.run w.connection = (.ok a, w'.connection) := by
  rw [run_storing] at h
  rcases hrun : x.run w.connection with ⟨e | b, c⟩
  · rw [hrun] at h
    cases h
  · rw [hrun] at h
    obtain ⟨hresult, rfl⟩ := Prod.mk.inj h
    rw [Except.ok.inj hresult]

/-- Who is found to have to sign a transaction, and has signed it with their key. -/
def SignedBy (node : Node) (tx : Transaction) (contract : String) (c : Connection) (signer : Int)
    (key : KeyRecord) : Prop :=
  ∃ c' d, (Auth.resolveSigner node.crypto node.params tx contract).run c = (.ok signer, c') ∧
    (Auth.verifySignature node.crypto tx signer).run c' = (.ok key, d)

private theorem authenticate_ok (h : (authenticate node ctx).run w = (.ok ctx', w')) :
    ∃ signer key, SignedBy node ctx.tx ctx.contract.name w.connection signer key ∧
      ctx' = { ctx with key := some key, signerId := signer, state := .authenticated } := by
  obtain ⟨signer, v, hsigner, h⟩ := run_bind_eq_ok h
  obtain ⟨key, u, hkey, h⟩ := run_bind_eq_ok h
  exact ⟨signer, key, ⟨_, _, run_storing_eq_ok hsigner, run_storing_eq_ok hkey⟩,
    (Except.ok.inj (Prod.mk.inj h).1).symm⟩

private theorem reserve_ok (h : (reserve node ctx).run w = (.ok ctx', w')) :
    ctx' = { ctx with
      paymentReserved := node.fees.isDue ctx || ctx.paymentReserved, state := .paymentReserved } := by
  unfold reserve at h
  split at h
  next hdue =>
    obtain ⟨_, v, -, h⟩ := run_bind_eq_ok h
    rw [hdue]
    exact (Except.ok.inj (Prod.mk.inj h).1).symm
  next hfree =>
    rw [Bool.eq_false_iff.mpr hfree]
    exact (Except.ok.inj (Prod.mk.inj h).1).symm

/-- Opening a savepoint puts the data as it is behind the savepoints that are open. -/
private theorem createSavepoint_ok {name : String} {u : Unit}
    (h : (storing ExecutionError.storage (Storing.createSavepoint name)).run w = (.ok u, w')) :
    w'.connection.session.savepoints =
      w.connection.session.savepoints ++ [(name, w.data)] := by
  rw [run_storing] at h
  cases hnext : w.connection.failures.next .createSavepoint with
  | some e =>
    rw [Storing.createSavepoint, Storing.run_call_of_some hnext] at h
    cases h
  | none =>
    rw [Storing.createSavepoint, Storing.run_call_of_none hnext] at h
    obtain rfl := (Prod.mk.inj h).2
    rfl

/-- A prepared execution is about to run the contract of its transaction. -/
theorem prepare_ok {request : ExecutionRequest}
    (h : (prepare node request).run w = (.ok ctx, w')) : Prepared request w ⟨ctx, w'⟩ := by
  have hworld : w.SameData w' := (prepare_calm node request).keeps.run h
  obtain ⟨contract, w₁, h₁, hrest⟩ := run_bind_eq_ok h
  obtain ⟨ctx₂, w₂, h₂, hrest⟩ := run_bind_eq_ok hrest
  obtain ⟨ctx₃, w₃, h₃, hrest⟩ := run_bind_eq_ok hrest
  obtain ⟨u, w₄, h₄, hrest⟩ := run_bind_eq_ok hrest
  have hcontract : w.registry.lookupById request.tx.contractId = some contract ∧ w₁ = w := by
    rw [run_findContract] at h₁
    split at h₁
    next found hfound =>
      obtain ⟨hsame, rfl⟩ := Prod.mk.inj h₁
      exact ⟨hfound.trans (congrArg some (Except.ok.inj hsame)), rfl⟩
    next => cases h₁
  obtain ⟨hfound, rfl⟩ := hcontract
  have hauthenticated := (authenticate_calm node _).keeps.run h₂
  have hreserved := (reserve_calm node ctx₂).keeps.run h₃
  have hsavepoint := createSavepoint_ok h₄
  rw [hreserved.data, hauthenticated.data] at hsavepoint
  obtain ⟨signer, key, -, rfl⟩ := authenticate_ok h₂
  obtain rfl := reserve_ok h₃
  obtain ⟨hctx, rfl⟩ := Prod.mk.inj hrest
  obtain rfl := Except.ok.inj hctx
  exact ⟨rfl, rfl, hfound, rfl, rfl, hworld, _, hsavepoint⟩

/-- What is settled about the context of a prepared execution but whether a fee is due. -/
theorem prepare_signed {request : ExecutionRequest}
    (h : (prepare node request).run w = (.ok ctx, w')) :
    ∃ contract signer key reserved,
      w.registry.lookupById request.tx.contractId = some contract ∧
      SignedBy node request.tx contract.name w.connection signer key ∧
      ctx = equip node
        { ExecutionContext.new request.tx contract request.block request.prevBlock request.flags with
          key := some key, signerId := signer, paymentReserved := reserved,
          state := .paymentReserved } := by
  obtain ⟨contract, w₁, h₁, hrest⟩ := run_bind_eq_ok h
  obtain ⟨ctx₂, w₂, h₂, hrest⟩ := run_bind_eq_ok hrest
  obtain ⟨ctx₃, w₃, h₃, hrest⟩ := run_bind_eq_ok hrest
  obtain ⟨u, w₄, -, hrest⟩ := run_bind_eq_ok hrest
  rw [run_findContract] at h₁
  split at h₁
  next found hfound =>
    obtain ⟨hsame, rfl⟩ := Prod.mk.inj h₁
    obtain rfl := Except.ok.inj hsame
    obtain ⟨signer, key, hsigned, rfl⟩ := authenticate_ok h₂
    obtain rfl := reserve_ok h₃
    exact ⟨found, signer, key, _, hfound, hsigned,
      (Except.ok.inj (Prod.mk.inj hrest).1).symm⟩
  next => cases h₁

/-- What is settled about the context of a prepared execution but who has signed and whether a fee
is due. -/
theorem prepare_context {request : ExecutionRequest}
    (h : (prepare node request).run w = (.ok ctx, w')) :
    ∃ contract key signer reserved,
      ctx = equip node
        { ExecutionContext.new request.tx contract request.block request.prevBlock request.flags with
          key, signerId := signer, paymentReserved := reserved, state := .paymentReserved } := by
  obtain ⟨contract, signer, key, reserved, -, -, hctx⟩ := prepare_signed h
  exact ⟨contract, some key, signer, reserved, hctx⟩

theorem prepare_flags {request : ExecutionRequest}
    (h : (prepare node request).run w = (.ok ctx, w')) : ctx.flags = request.flags := by
  obtain ⟨_, _, _, _, rfl⟩ := prepare_context h
  rfl

/-- A fee is reserved if and only if it is due. -/
theorem prepare_reserved {request : ExecutionRequest}
    (h : (prepare node request).run w = (.ok ctx, w')) :
    ctx.paymentReserved = node.fees.isDueFor request.flags := by
  obtain ⟨contract, w₁, -, hrest⟩ := run_bind_eq_ok h
  obtain ⟨ctx₂, w₂, h₂, hrest⟩ := run_bind_eq_ok hrest
  obtain ⟨ctx₃, w₃, h₃, hrest⟩ := run_bind_eq_ok hrest
  obtain ⟨u, w₄, -, hrest⟩ := run_bind_eq_ok hrest
  obtain ⟨signer, key, -, rfl⟩ := authenticate_ok h₂
  obtain rfl := reserve_ok h₃
  obtain rfl := Except.ok.inj (Prod.mk.inj hrest).1
  exact Bool.or_false _

end Preparing

end Covenant
