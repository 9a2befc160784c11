import Covenant.Proofs.Execution.Metering

/-!
# What contract code reads

The slots with a meaning of their own are set before the contract of a transaction runs, and by calls.
Fields and statements reach only slots of contract code and the result, so a contract finds in all
others what the transaction and its place among the active contracts put there: some are the same
throughout the run, two name the contract and its caller, one lists the call stack and one holds the
fuel. A contract that waits has its slots put aside, and a call gives them back as they were.
-/

namespace Covenant

open Stage

/-- The slot is set before the contract of a transaction runs, and never again. -/
def EnvKey.isFixed : EnvKey → Bool
  | .parentContract | .txCost | .thisContract | .stack | .result | .field _ => false
  | _ => true

theorem EnvKey.isWellKnown_of_isFixed {key : EnvKey} (h : key.isFixed = true) :
    key.isWellKnown = true := by
  cases key with
  | field name => cases h
  | _ => rfl

namespace Environment

/-- The environment is that of a contract by this name, called by the last of `outer`, in a run that
began with the environment `first`. -/
structure Belongs (env first : Environment) (outer : List String) (name : String) : Prop where
  fixed : ∀ key : EnvKey, key.isFixed = true → env.get? key = first.get? key
  this : env.get? .thisContract = some (.text name)
  parent : env.get? .parentContract = some (.text (outer.getLast?.getD ""))

variable {first env next : Environment} {outer : List String} {name : String}

/-- The slots for the fuel, the call stack and the result may be set, and those of contract code. -/
theorem Belongs.of_slots (h : env.Belongs first outer name)
    (hslots : ∀ key : EnvKey, key.isWellKnown = true → key ≠ .result → key ≠ .txCost →
      key ≠ .stack → next.get? key = env.get? key) : next.Belongs first outer name where
  fixed key hfixed := by
    rw [hslots key (EnvKey.isWellKnown_of_isFixed hfixed), h.fixed key hfixed]
    all_goals
      rintro rfl
      cases hfixed
  this := by
    rw [hslots .thisContract rfl (by decide) (by decide) (by decide)]
    exact h.this
  parent := by
    rw [hslots .parentContract rfl (by decide) (by decide) (by decide)]
    exact h.parent

/-- A called contract finds its own name and that of its caller, and all else as the caller. -/
theorem Belongs.calleeEnv (h : env.Belongs first outer name) (callee : String) (fields : Row) :
    (Run.calleeEnv env callee fields).Belongs first (outer ++ [name]) callee where
  fixed key hfixed := by
    have hknown := EnvKey.isWellKnown_of_isFixed hfixed
    unfold Run.calleeEnv
    dsimp only
    rw [get?_addFields _ hknown, get?_remove_of_ne, get?_set_of_ne, get?_set_of_ne,
      h.fixed key hfixed]
    all_goals
      rintro rfl
      cases hfixed
  this := by
    unfold Run.calleeEnv
    dsimp only
    rw [get?_addFields _ rfl, get?_remove_of_ne _ (by decide), get?_set_self]
  parent := by
    unfold Run.calleeEnv
    dsimp only
    rw [get?_addFields _ rfl, get?_remove_of_ne _ (by decide), get?_set_of_ne _ (by decide),
      get?_set_self, h.this, List.getLast?_concat]
    rfl

/-- What a call does not set, a called contract finds as its caller left it. -/
theorem get?_calleeEnv {key : EnvKey} (hknown : key.isWellKnown = true) (hresult : key ≠ .result)
    (hthis : key ≠ .thisContract) (hparent : key ≠ .parentContract) (callee : String)
    (fields : Row) : (Run.calleeEnv env callee fields).get? key = env.get? key := by
  unfold Run.calleeEnv
  dsimp only
  rw [get?_addFields _ hknown, get?_remove_of_ne _ hresult, get?_set_of_ne _ hthis,
    get?_set_of_ne _ hparent]

end Environment

namespace Run

open RunState

/-- The environment is that of the innermost contract, and those that are put aside are those of the
contracts that wait. -/
def Framed (first : Environment) (outermost : String) : List Frame → Environment → Prop
  | [], env => env.Belongs first [] outermost
  | frame :: frames, env =>
    env.Belongs first (active outermost frames) frame.callee ∧
      Framed first outermost frames frame.caller

variable {first env next : Environment} {outermost : String} {frame : Frame} {frames : List Frame}

theorem Framed.belongs (h : Framed first outermost frames env) :
    ∃ outer name, active outermost frames = outer ++ [name] ∧ env.Belongs first outer name := by
  cases frames with
  | nil => exact ⟨[], outermost, rfl, h⟩
  | cons frame frames => exact ⟨_, _, active_cons _ _ _, h.1⟩

theorem Framed.of_slots (h : Framed first outermost frames env)
    (hslots : ∀ key : EnvKey, key.isWellKnown = true → key ≠ .result → key ≠ .txCost →
      key ≠ .stack → next.get? key = env.get? key) : Framed first outermost frames next := by
  cases frames with
  | nil => exact Environment.Belongs.of_slots h hslots
  | cons frame frames => exact ⟨h.1.of_slots hslots, h.2⟩

theorem Framed.call (h : Framed first outermost frames frame.caller) (fields : Row) :
    Framed first outermost (frame :: frames) (calleeEnv frame.caller frame.callee fields) := by
  refine ⟨?_, h⟩
  obtain ⟨outer, name, hactive, hbelongs⟩ := h.belongs
  rw [hactive]
  exact hbelongs.calleeEnv frame.callee fields

end Run

namespace RunState

open Run

/-- The environment goes with the contracts that wait, the call stack and some amount of fuel. -/
structure Furnished (first : Environment) (outermost : String) (frames : List Frame)
    (s : RunState) : Prop where
  framed : Framed first outermost frames s.ctx.env
  stack : s.ctx.env.get? .stack = some (.list (s.ctx.callStack.names.map .text))
  fuel : ∃ amount, s.ctx.env.get? .txCost = some (.int amount)

variable {first : Environment} {outermost : String} {frames : List Frame} {s t : RunState}

theorem Furnished.of_slots (h : s.Furnished first outermost frames)
    (hslots : ∀ key : EnvKey, key.isWellKnown = true → key ≠ .result →
      t.ctx.env.get? key = s.ctx.env.get? key)
    (hstack : t.ctx.callStack = s.ctx.callStack) : t.Furnished first outermost frames := by
  refine ⟨h.framed.of_slots fun key hknown hresult _ _ => hslots key hknown hresult, ?_, ?_⟩
  · rw [hslots .stack rfl (by decide), hstack]
    exact h.stack
  · rw [hslots .txCost rfl (by decide)]
    exact h.fuel

theorem Furnished.charged (h : s.Furnished first outermost frames) (amount : Int) :
    (s.charged amount).Furnished first outermost frames := by
  refine ⟨h.framed.of_slots fun key _ _ hcost _ => ?_, ?_, ?_⟩
  · exact Environment.get?_set_of_ne _ hcost _
  · exact (Environment.get?_set_of_ne _ (by decide) _).trans h.stack
  · exact ⟨_, Environment.get?_set_self _ _ _⟩

/-- A contract sets slots of its own. -/
theorem Furnished.setField (h : s.Furnished first outermost frames) (name : String) (value : Value) :
    (s.withEnv (s.ctx.env.set (.field name) value)).Furnished first outermost frames := by
  refine h.of_slots (fun key hknown _ => Environment.get?_set_of_ne _ ?_ _) rfl
  rintro rfl
  cases hknown

theorem Furnished.stacked {callStack : CallStack} (h : Framed first outermost frames s.ctx.env)
    (hfuel : ∃ amount, s.ctx.env.get? .txCost = some (.int amount)) :
    (s.stacked callStack).Furnished first outermost frames := by
  refine ⟨h.of_slots fun key _ _ _ hstack => ?_, ?_, ?_⟩
  · exact Environment.get?_set_of_ne _ hstack _
  · exact Environment.get?_set_self _ _ _
  · obtain ⟨amount, hamount⟩ := hfuel
    exact ⟨amount, (Environment.get?_set_of_ne _ (by decide) _).trans hamount⟩

/-- A contract that is called finds its environment furnished. -/
theorem Furnished.call {frame : Frame} {callStack : CallStack}
    (h : s.Furnished first outermost frames)
    (hcaller : frame.caller = (s.stacked callStack).ctx.env) (fields : Row) :
    ((s.stacked callStack).withEnv (calleeEnv frame.caller frame.callee fields)).Furnished first
      outermost (frame :: frames) := by
  have hstacked : (s.stacked callStack).Furnished first outermost frames := .stacked h.framed h.fuel
  have hframed := hstacked.framed
  rw [← hcaller] at hframed
  refine ⟨hframed.call fields, ?_, ?_⟩
  · change (calleeEnv frame.caller frame.callee fields).get? .stack = _
    rw [Environment.get?_calleeEnv rfl (by decide) (by decide) (by decide), hcaller]
    exact hstacked.stack
  · change ∃ amount, (calleeEnv frame.caller frame.callee fields).get? .txCost = _
    rw [Environment.get?_calleeEnv rfl (by decide) (by decide) (by decide), hcaller]
    exact hstacked.fuel

/-- A contract that a call gives its environment back finds it furnished. -/
theorem Furnished.closed {frame : Frame} (h : s.Furnished first outermost (frame :: frames)) :
    ((closeCall frame.callee frame.caller).run s).2.Furnished first outermost frames := by
  rw [run_closeCall]
  -- The caller's own environment comes back, but for the fuel, which is what the callee has left.
  refine .stacked (h.framed.2.of_slots fun key _ _ hcost _ => ?_) ⟨_, Environment.get?_set_self _ _ _⟩
  exact Environment.get?_set_of_ne _ hcost _

end RunState

namespace Run

open RunState

variable {params : SystemParameters} {call : Call} {timer : Timer} {node : Node}
  {first : Environment} {outermost : String} {frames : List Frame} {s t : RunState}

/-- Statements reach slots of contract code and the result only, but for charges and calls. -/
theorem get?_exec {statement : Statement} (hcharge : ∀ amount, statement ≠ .charge amount)
    (hcall : ∀ target fields, statement ≠ .call target fields) {key : EnvKey}
    (hknown : key.isWellKnown = true) (hresult : key ≠ .result) (s : RunState) :
    ((exec params call timer statement).run s).2.ctx.env.get? key = s.ctx.env.get? key := by
  cases statement with
  | charge amount => exact absurd rfl (hcharge amount)
  | call target fields => exact absurd rfl (hcall target fields)
  | insert table pairs => exact slots_of_mediated (exec_insert_mediated table pairs s) key hknown
  | update table id pairs =>
    exact slots_of_mediated (exec_update_mediated table id pairs s) key hknown
  | _ => exact (exec_aside rfl s).slots key hknown hresult

/-- Whatever a statement other than a call does, it leaves the environment furnished. -/
theorem exec_furnished {statement : Statement}
    (hscripted : Scripted params (exec params call timer statement))
    (hcall : ∀ target fields, statement ≠ .call target fields)
    (h : s.Furnished first outermost frames) :
    ((exec params call timer statement).run s).2.Furnished first outermost frames := by
  by_cases hcharge : ∃ amount, statement = .charge amount
  · obtain ⟨amount, rfl⟩ := hcharge
    rw [exec, state_charge]
    exact h.charged amount
  · have hslots : ∀ key : EnvKey, key.isWellKnown = true → key ≠ .result →
        ((exec params call timer statement).run s).2.ctx.env.get? key = s.ctx.env.get? key :=
      fun key hknown hresult => get?_exec (fun amount hamount => hcharge ⟨amount, hamount⟩) hcall
        hknown hresult s
    exact h.of_slots hslots (hscripted.level s).callStack

/-- Paying for a statement leaves the environment furnished. -/
theorem pay_furnished (timer : Timer) (h : s.Furnished first outermost frames) :
    (((do checkTime timer; charge 1 : Run Unit)).run s).2.Furnished first outermost frames := by
  obtain ⟨e, htime⟩ := run_checkTime timer s
  cases hup : timer.isUp s.world.clock with
  | true =>
    rw [hup, if_pos rfl] at htime
    rw [run_bind_of_error htime]
    exact h
  | false =>
    rw [hup, if_neg Bool.false_ne_true] at htime
    rw [run_bind_of_ok htime, state_charge]
    exact h.charged 1

namespace Moment

variable {m : Moment}

/-- Until the run is over, the environments go with the contracts that are active. -/
def Furnished (first : Environment) (outermost : String) : Moment → Prop
  | opening s =>
    s.ctx.env.Belongs first [] outermost ∧ ∃ amount, s.ctx.env.get? .txCost = some (.int amount)
  | entered s => s.Furnished first outermost []
  | ready place _ s | paid place _ _ s => s.Furnished first outermost place.frames
  | failing frames _ s => s.Furnished first outermost frames
  | ended _ _ => True

/-- A computation that leaves the environment furnished leads on, or makes the contract fail. -/
theorem furnished_after {α : Type} {x : Run α} {next : α → RunState → Moment}
    (hx : (x.run s).2.Furnished first outermost frames)
    (hnext : ∀ a t, x.run s = (.ok a, t) → t.Furnished first outermost frames →
      (next a t).Furnished first outermost) :
    (after x s (failing frames) next).Furnished first outermost := by
  refine after_cases (fun e t hrun => ?_) fun a t hrun => ?_
  · rw [hrun] at hx
    exact hx
  · rw [hrun] at hx
    exact hnext a t hrun hx

/-- The end of a run is not held to anything. -/
theorem furnished_conclude (outcome : Except RuntimeError Unit) (s : RunState) :
    (conclude outcome s).Furnished first outermost := by
  unfold conclude
  exact after_cases (fun _ _ _ => trivial) fun _ _ _ => trivial

/-- Each step leaves the environments in line with the contracts that are active. -/
theorem furnished_next (h : m.Furnished first outermost) :
    (m.next node).Furnished first outermost := by
  cases m with
  | opening s =>
    obtain ⟨hbelongs, hfuel⟩ := h
    rw [next]
    refine after_cases (fun _ _ _ => trivial) fun u t hrun => ?_
    obtain ⟨_, s', henter, hadvance⟩ := run_bind_eq_ok hrun
    obtain rfl := (Prod.mk.inj hadvance).2
    rw [run_enter] at henter
    split at henter
    next => cases henter
    next callStack _ =>
      obtain rfl := (Prod.mk.inj henter).2
      have hstacked : (s.stacked callStack).Furnished first outermost [] :=
        .stacked hbelongs hfuel
      exact hstacked.of_slots (fun _ _ _ => rfl) rfl
  | entered s =>
    rw [next]
    refine furnished_after ?_ fun timer t _ ht => ht
    rw [state_bind_startTimer, state_charge]
    exact RunState.Furnished.charged h _
  | ready place todo s =>
    obtain ⟨frames, depth, timer⟩ := place
    cases todo with
    | cons statement rest =>
      rw [next]
      exact furnished_after (pay_furnished timer h) fun _ t _ ht => ht
    | nil =>
      cases frames with
      | nil =>
        rw [next]
        exact furnished_conclude _ s
      | cons frame frames =>
        rw [next]
        have hclosed := RunState.Furnished.closed h
        exact furnished_after (hclosed.setField "ret" s.ctx.env.result) fun _ t _ ht => ht
  | paid place statement rest s =>
    rcases call_or_other statement with ⟨target, fields, rfl⟩ | hother
    · rw [next]
      refine after_cases (fun e t hrun => ?_) fun opened t hrun => ?_
      · obtain rfl := startCall_eq_error hrun
        exact h
      · obtain ⟨values, callStack, -, -, -, hcaller, rfl⟩ := startCall_eq_ok hrun
        exact RunState.Furnished.call h hcaller _
    · rw [next_paid hother]
      have hscripted : Scripted node.params
          (exec node.params (callContract node.params 0) place.timer statement) :=
        exec_scripted (fun target fields => callContract_scripted 0 target fields) statement
      exact furnished_after (exec_furnished hscripted hother h) fun _ t _ ht => ht
  | failing frames e s =>
    cases frames with
    | nil =>
      rw [next]
      exact furnished_conclude _ s
    | cons frame frames =>
      rw [next]
      exact furnished_after (RunState.Furnished.closed h) fun _ t _ ht => ht
  | ended result s => trivial

/-- The contract of the transaction stays the same. -/
theorem contract_next (node : Node) (m : Moment) :
    (m.next node).state.ctx.contract = m.state.ctx.contract := by
  have heffect := next_effect node m
  generalize (m.next node).state = t at heffect
  cases heffect with
  | charge => rfl
  | write _ _ hwrites _ => rw [hwrites.ctx]
  | turn hturns _ => rw [hturns.ctx]
  | aside haside _ => rw [haside.ctx]

theorem contract_nth (node : Node) (s : RunState) (k : Nat) :
    (nth node s k).state.ctx.contract = s.ctx.contract :=
  nth_invariant (motive := fun m => m.state.ctx.contract = s.ctx.contract) rfl
    (fun m ih => (contract_next node m).trans ih) k

theorem furnished_nth (h : (opening s).Furnished first outermost) (k : Nat) :
    (nth node s k).Furnished first outermost :=
  nth_invariant (motive := Moment.Furnished first outermost) h (fun _ => furnished_next) k

/-- Where a contract is running. -/
def place? : Moment → Option Place
  | ready place _ _ | paid place _ _ _ => some place
  | _ => none

theorem furnished_nested_of_place? {place : Place} {names : List String}
    (hplace : m.place? = some place) (hfurnished : m.Furnished first outermost)
    (hnested : m.Nested names) :
    m.state.Furnished first outermost place.frames ∧ m.state.Nested names place.frames := by
  cases m with
  | ready other todo s =>
    obtain rfl := Option.some.inj hplace
    exact ⟨hfurnished, hnested.1⟩
  | paid other statement rest s =>
    obtain rfl := Option.some.inj hplace
    exact ⟨hfurnished, hnested.1⟩
  | _ => cases hplace

end Moment

end Run

/-! ## The slots at first -/

namespace EnvKey

/-- Contract code means a slot with a meaning of its own by that slot's name. -/
theorem ofName_name {key : EnvKey} (h : key.isWellKnown = true) : ofName key.name = key := by
  cases key with
  | field name => cases h
  | _ => decide

end EnvKey

namespace Environment

variable {slots : List (EnvKey × Value)} {key : EnvKey} {value : Value}

/-- Setting other slots leaves a slot as it was. -/
theorem get?_foldl_set_of_notMem (h : key ∉ slots.map Prod.fst) (env : Environment) :
    (slots.foldl (fun env slot => env.set slot.1 slot.2) env).get? key = env.get? key := by
  induction slots generalizing env with
  | nil => rfl
  | cons slot rest ih =>
    obtain ⟨hne, hrest⟩ := not_or.mp (List.mem_cons.not.mp h)
    rw [List.foldl_cons, ih hrest, get?_set_of_ne _ hne]

/-- Slots that are set one after the other hold their values, if none is set twice. -/
theorem get?_foldl_set (hnodup : (slots.map Prod.fst).Nodup) (hmem : (key, value) ∈ slots)
    (env : Environment) :
    (slots.foldl (fun env slot => env.set slot.1 slot.2) env).get? key = some value := by
  induction slots generalizing env with
  | nil => cases hmem
  | cons slot rest ih =>
    obtain ⟨hnone, hrest⟩ := List.nodup_cons.mp hnodup
    rw [List.foldl_cons]
    rcases List.mem_cons.mp hmem with rfl | hmem
    · rw [get?_foldl_set_of_notMem hnone, get?_set_self]
    · exact ih hrest hmem _

end Environment

namespace Preparing

open Run Run.Moment

variable {node : Node} {request : ExecutionRequest} {world w : World} {ctx : ExecutionContext}

/-- The slots that are set before the contract of a transaction runs, for a signer with this
account. -/
def firstSlots (node : Node) (request : ExecutionRequest) (contract : String) (signer : Int)
    (account : String) : List (EnvKey × Value) :=
  [(.type, .int request.tx.contractId), (.time, .int request.tx.time),
    (.ecosystemId, .int request.tx.ecosystemId), (.nodePosition, .int request.block.nodePosition),
    (.block, .int request.block.blockId), (.keyId, .int signer), (.accountId, .text account),
    (.blockKeyId, .int request.block.keyId), (.parentContract, .text ""),
    (.txCost, .int (Fuel.limitFor request.tx.maxSum node.params.maxCost)),
    (.txHash, .text request.tx.hash.hex), (.contract, .text contract),
    (.blockTime, .int request.block.timestamp), (.outermostContract, .text contract),
    (.thisContract, .text contract), (.preBlockDataHash, .text request.prevBlock.hash.hex),
    (.genBlock, .bool request.flags.blockGeneration),
    (.timeLimit, .int (min (node.params.timeLimit : Int) Quantity.greatest)),
    (.guestKey, .int Environment.guestKey),
    (.guestAccount, .text (Account.ofKeyId Environment.guestKey)),
    (.blackHoleKey, .int Environment.blackHoleKey),
    (.blackHoleAccount, .text (Account.ofKeyId Environment.blackHoleKey)),
    (.whiteHoleKey, .int Environment.whiteHoleKey),
    (.whiteHoleAccount, .text (Account.ofKeyId Environment.whiteHoleKey))]

/-- A prepared execution has the first slots set for its verified signer, and the fields of the
transaction do not reach them. -/
theorem prepare_slots (h : (prepare node request).run world = (.ok ctx, w)) :
    ∃ signer key, world.registry.lookupById request.tx.contractId = some ctx.contract ∧
      SignedBy node request.tx ctx.contract.name world.connection signer key ∧
      ∀ slot ∈ firstSlots node request ctx.contract.name signer key.account,
        ctx.env.get? slot.1 = some slot.2 := by
  obtain ⟨contract, signer, key, reserved, hcontract, hsigned, rfl⟩ := prepare_signed h
  refine ⟨signer, key, hcontract, hsigned, fun slot hmem => ?_⟩
  change slot ∈ firstSlots node request contract.name signer key.account at hmem
  have hnodup : ((firstSlots node request contract.name signer key.account).map
      Prod.fst).Nodup := by
    simp [firstSlots]
  have hknown : ∀ slot ∈ firstSlots node request contract.name signer key.account,
      slot.1.isWellKnown = true := by
    simp [firstSlots, EnvKey.isWellKnown]
  have hset := Environment.get?_foldl_set hnodup hmem Environment.empty
  exact (Environment.get?_addFields _ (hknown slot hmem) _).trans hset

end Preparing

/-! ## Reading by name -/

/-- What contract code reads: the fixed slots as they were set, the active contracts, the one that runs
and the one that called it, and the fuel that is left. -/
structure Environment.Reads (env : Environment) (slots : List (EnvKey × Value))
    (names : List String) (fuel : Int) : Prop where
  fixed : ∀ slot ∈ slots, slot.1.isFixed = true → env.lookup? slot.1.name = some slot.2
  stack : env.lookup? "stack" = some (.list (names.map .text))
  this : env.lookup? "this_contract" = names.getLast?.map .text
  parent : env.lookup? "parent_contract" = some (.text (names.dropLast.getLast?.getD ""))
  fuel : env.lookup? "txcost" = some (.int fuel)

/-- A furnished environment reads as it should. -/
theorem RunState.Furnished.reads {s : RunState} {first : Environment} {outermost : String}
    {frames : List Run.Frame} {slots : List (EnvKey × Value)}
    (h : s.Furnished first outermost frames)
    (hslots : ∀ slot ∈ slots, first.get? slot.1 = some slot.2)
    (hnames : s.ctx.callStack.names = Run.active outermost frames) :
    s.ctx.env.Reads slots s.ctx.callStack.names s.ctx.env.fuel := by
  obtain ⟨outer, name, hactive, hbelongs⟩ := h.framed.belongs
  rw [hactive] at hnames
  have hread : ∀ key : EnvKey, key.isWellKnown = true →
      s.ctx.env.lookup? key.name = s.ctx.env.get? key := by
    intro key hknown
    rw [Environment.lookup?, EnvKey.ofName_name hknown]
  refine ⟨fun slot hmem hfixed => ?_, ?_, ?_, ?_, ?_⟩
  · rw [hread _ (EnvKey.isWellKnown_of_isFixed hfixed), hbelongs.fixed _ hfixed, hslots slot hmem]
  · exact (hread .stack rfl).trans h.stack
  · rw [hnames, List.getLast?_concat]
    exact (hread .thisContract rfl).trans hbelongs.this
  · rw [hnames, List.dropLast_concat]
    exact (hread .parentContract rfl).trans hbelongs.parent
  · obtain ⟨amount, hamount⟩ := h.fuel
    have hfuel : s.ctx.env.fuel = amount := by
      rw [Environment.fuel, hamount]
      rfl
    rw [hfuel]
    exact (hread .txCost rfl).trans hamount

namespace Sample

/-- A contract and one that it calls set slots by the names of others. -/
def disguised : World :=
  running database
    ("contract Mask \x7b\n action \x7b\n  set key_id 5\n  call Face key_id=6\n \x7d\n\x7d\n" ++
      "contract Face \x7b\n action \x7b\n  set parent_contract me\n  result $key_id\n \x7d\n\x7d\n")

end Sample

namespace Node

open Preparing Run Run.Moment

variable {node : Node} {request : ExecutionRequest} {world w : World} {ctx : ExecutionContext}

/-- Wherever a contract runs, nested calls included, it reads the fixed slots as they were set for the
request and its verified signer, the call stack, its own name and its caller's, and as fuel what the
charges so far have left of the limit. -/
theorem environment_reads (h : (prepare node request).run world = (.ok ctx, w)) :
    ∃ signer key,
      world.registry.lookupById request.tx.contractId = some ctx.contract ∧
      SignedBy node request.tx ctx.contract.name world.connection signer key ∧
      (∃ k, nth node ⟨ctx, w⟩ k =
        ended ((invoke node).run ⟨ctx, w⟩).1 ((invoke node).run ⟨ctx, w⟩).2) ∧
      ∀ k place, (nth node ⟨ctx, w⟩ k).place? = some place →
        (nth node ⟨ctx, w⟩ k).state.ctx.callStack.names =
          active ctx.contract.name place.frames ∧
        (nth node ⟨ctx, w⟩ k).state.ctx.env.Reads
          (firstSlots node request ctx.contract.name signer key.account)
          (active ctx.contract.name place.frames)
          ((charges node ⟨ctx, w⟩ k).foldl Quantity.sub
            (Fuel.limitFor request.tx.maxSum node.params.maxCost)) := by
  obtain ⟨signer, key, hcontract, hsigned, hslots⟩ := prepare_slots h
  refine ⟨signer, key, hcontract, hsigned, exists_nth_eq_ended node _, ?_⟩
  intro k place hplace
  have hopening : (opening ⟨ctx, w⟩).Furnished ctx.env ctx.contract.name := by
    refine ⟨⟨fun _ _ => rfl, ?_, ?_⟩, Fuel.limitFor request.tx.maxSum node.params.maxCost, ?_⟩
    · exact hslots (.thisContract, _) (by simp [firstSlots])
    · exact hslots (.parentContract, _) (by simp [firstSlots])
    · exact hslots (.txCost, _) (by simp [firstSlots])
  obtain ⟨hfurnished, hnested⟩ :=
    furnished_nested_of_place? hplace (furnished_nth hopening k) (nth_nested h k)
  have hnames : (nth node ⟨ctx, w⟩ k).state.ctx.callStack.names =
      active ctx.contract.name place.frames := by
    rw [hnested.callStack, contract_nth]
  have hfuel := fuel_nth node ⟨ctx, w⟩ k
  rw [(prepare_fuel h).2] at hfuel
  have hreads := hfurnished.reads hslots hnames
  rw [hnames] at hreads
  rw [← hfuel]
  exact ⟨hnames, hreads⟩

/-- The called contract reads the key that has signed and the contract that called it, whatever was set
under their names. -/
theorem environment_reads_sample :
    ∃ s : RunState, (prepare Sample.node (Sample.request 0)).run Sample.disguised =
        (.ok s.ctx, s.world) ∧
      (nth Sample.node s 9).state.ctx.env.lookup? "key_id" = some (.int 7) ∧
      (nth Sample.node s 9).state.ctx.env.lookup? "parent_contract" = some (.text "@1Mask") := by
  have hruns : (Sample.start? Sample.disguised).map (fun s =>
      ((nth Sample.node s 9).place?.isSome,
        (nth Sample.node s 9).state.ctx.callStack.names)) =
      some (true, ["@1Mask", "@1Face"]) := by decide +kernel
  obtain ⟨s, hstart, hruns⟩ := Option.map_eq_some_iff.mp hruns
  obtain ⟨hplace, hnames⟩ := Prod.mk.inj hruns
  obtain ⟨place, hplace⟩ := Option.isSome_iff_exists.mp hplace
  have hprepare := Sample.prepare_of_start? hstart
  obtain ⟨signer, key, -, ⟨c, d, hsigner, -⟩, -, hreads⟩ := environment_reads hprepare
  obtain ⟨hactive, hreads⟩ := hreads 9 place hplace
  rw [← hactive, hnames] at hreads
  obtain rfl : 7 = signer := Except.ok.inj (Prod.mk.inj hsigner).1
  exact ⟨s, hprepare, hreads.fixed (.keyId, .int 7) (by simp [firstSlots]) rfl, hreads.parent⟩

end Node

end Covenant
