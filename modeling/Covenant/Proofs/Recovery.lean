import Covenant.Proofs.Execution.Undo
import Covenant.Proofs.Kinds
import Covenant.Service.Message

/-!
# What is recovered from records and messages

The record of a row write holds the row as it was as a text, and a message with a request holds the
inputs of its transaction. Either is recovered if and only if its values come back from their JSON
forms; all other parts of a message come back in any case. Inside a message, values stand three levels
deep.
-/

namespace Covenant

open Json

/-! ## Messages as they occur -/

/-- The numbers of the block are in range. -/
structure BlockHeader.IsProper (block : BlockHeader) : Prop where
  blockId : Quantity.InRange block.blockId
  keyId : Quantity.InRange block.keyId
  timestamp : Quantity.InRange block.timestamp
  nodePosition : Quantity.InRange block.nodePosition

/-- The numbers of the transaction are in range, and its inputs are proper. -/
structure Transaction.IsProper (tx : Transaction) : Prop where
  contractId : Quantity.InRange tx.contractId
  ecosystemId : Quantity.InRange tx.ecosystemId
  keyId : Quantity.InRange tx.keyId
  signedBy : ∀ n ∈ tx.signedBy, Quantity.InRange n
  time : Quantity.InRange tx.time
  size : Quantity.InRange tx.size
  fields : (Value.map tx.fields).IsProper

/-- The transaction and the two blocks are proper. -/
structure ExecutionMessage.IsProper (message : ExecutionMessage) : Prop where
  tx : message.tx.IsProper
  block : message.block.IsProper
  prevBlock : message.prevBlock.IsProper

/-! ## Writing and reading messages -/

theorem Hash.toJson_isPlain (hash : Hash) : hash.toJson.IsPlain :=
  Value.arePlain_byteItems hash.bytes

namespace BlockHeader

variable {block : BlockHeader}

theorem toJson_isPlain (h : block.IsProper) : block.toJson.IsPlain :=
  ⟨Value.isWord_of_inRange h.blockId, Value.isWord_of_inRange h.keyId,
    Value.isWord_of_inRange h.timestamp, Value.isWord_of_inRange h.nodePosition,
    block.hash.toJson_isPlain, trivial⟩

theorem read_toJson (h : block.IsProper) : read block.toJson = .ok block := by
  rw [read, toJson, collect_of_fits ?names ?fits, ok_bind]
  case names => decide
  case fits =>
    exact .needed (readInt_int h.blockId) <| .needed (readInt_int h.keyId) <|
      .needed (readInt_int h.timestamp) <| .needed (readInt_int h.nodePosition) <|
        .needed (Hash.read_toJson block.hash) .nil
  simp only [bind_eq_ok]
  exact ⟨_, readInt_int h.blockId, _, readInt_int h.keyId, _, readInt_int h.timestamp,
    _, readInt_int h.nodePosition, _, Hash.read_toJson _, rfl⟩

end BlockHeader

namespace ExecutionFlags

theorem read_toJson (flags : ExecutionFlags) : read flags.toJson = .ok flags := by
  rw [read, toJson, collect_of_fits ?names ?fits, ok_bind]
  case names => decide
  case fits => exact .needed rfl <| .needed rfl <| .needed rfl .nil
  rfl

end ExecutionFlags

namespace Transaction

variable {tx : Transaction}

theorem toJson_isPlain (h : tx.IsProper) : tx.toJson.IsPlain :=
  ⟨Value.isWord_of_inRange h.contractId, Value.isWord_of_inRange h.ecosystemId,
    Value.isWord_of_inRange h.keyId,
    Json.ofOption_isPlain fun n hn => Value.isWord_of_inRange (h.signedBy n hn), trivial, trivial,
    Json.ofOption_isPlain fun _ _ => trivial, tx.hash.toJson_isPlain,
    Value.isWord_of_inRange h.time, Value.isWord_of_inRange h.size,
    Value.toJson_isPlain h.fields, trivial⟩

/-- A transaction is read back if and only if its inputs are. -/
theorem read_toJson_iff (h : tx.IsProper) (outer : Nat) :
    read outer tx.toJson = .ok tx ↔ ∀ cell ∈ tx.fields, cell.2.Returns (outer + 2) := by
  rw [← Value.readDict_toJson_iff h.fields]
  constructor
  · intro hread
    rw [read, toJson] at hread
    simp only [bind_eq_ok] at hread
    obtain ⟨found, hfound, _, -, _, -, _, -, _, -, _, -, _, -, _, -, _, -, _, -, _, -, fields, hfields,
      htx⟩ := hread
    obtain rfl : fields = tx.fields := congrArg Transaction.fields (Except.ok.inj htx)
    obtain ⟨j, hj, hfields⟩ := exists_member_of_fieldOf hfound hfields
    obtain rfl : j = (Value.map tx.fields).toJson := by simpa using hj
    exact hfields
  · intro hfields
    have hsigned : readOption readInt (ofOption .int tx.signedBy) = .ok tx.signedBy :=
      readOption_ofOption nofun fun n hn => readInt_int (h.signedBy n hn)
    have hmax : readOption readText (ofOption .string tx.maxSum) = .ok tx.maxSum :=
      readOption_ofOption nofun fun _ _ => rfl
    rw [read, toJson, collect_of_fits ?names ?fits, ok_bind]
    case names => simp [Field.needed, Field.maybe]
    case fits =>
      exact .needed (readInt_int h.contractId) <| .needed (readInt_int h.ecosystemId) <|
        .needed (readInt_int h.keyId) <| .maybe hsigned <| .needed (readHex_hexOfBytes _) <|
          .needed (readHex_hexOfBytes _) <| .maybe hmax <| .needed (Hash.read_toJson tx.hash) <|
            .needed (readInt_int h.time) <| .needed (readInt_int h.size) <| .needed hfields .nil
    simp only [bind_eq_ok]
    exact ⟨_, readInt_int h.contractId, _, readInt_int h.ecosystemId, _, readInt_int h.keyId,
      _, hsigned, _, readHex_hexOfBytes _, _, readHex_hexOfBytes _, _, hmax, _, Hash.read_toJson _,
      _, readInt_int h.time, _, readInt_int h.size, _, hfields, rfl⟩

end Transaction

namespace ExecutionMessage

variable {message : ExecutionMessage}

theorem toJson_isPlain (h : message.IsProper) : message.toJson.IsPlain :=
  ⟨Transaction.toJson_isPlain h.tx, BlockHeader.toJson_isPlain h.block,
    BlockHeader.toJson_isPlain h.prevBlock, ⟨trivial, trivial, trivial, trivial⟩,
    Json.ofOption_isPlain fun _ _ => trivial, trivial⟩

/-- A message is read back from its text if and only if the inputs of its transaction are. -/
theorem decode_render_iff (h : message.IsProper) :
    decode read message.toJson.render = .ok message ↔
      ∀ cell ∈ message.tx.fields, cell.2.Returns 3 := by
  rw [decode_render (toJson_isPlain h), ← Transaction.read_toJson_iff h.tx 1]
  constructor
  · intro hread
    rw [read, toJson] at hread
    simp only [bind_eq_ok] at hread
    obtain ⟨found, hfound, tx, htx, _, -, _, -, _, -, _, -, hmessage⟩ := hread
    obtain rfl : tx = message.tx := congrArg ExecutionMessage.tx (Except.ok.inj hmessage)
    obtain ⟨j, hj, htx⟩ := exists_member_of_fieldOf hfound htx
    obtain rfl : j = message.tx.toJson := by simpa using hj
    exact htx
  · intro htx
    have hsavepoint : readOption readText (ofOption .string message.savepoint) =
        .ok message.savepoint := readOption_ofOption nofun fun _ _ => rfl
    rw [read, toJson, collect_of_fits ?names ?fits, ok_bind]
    case names => simp [Field.needed, Field.defaulted]
    case fits =>
      exact .needed htx <| .needed (BlockHeader.read_toJson h.block) <|
        .needed (BlockHeader.read_toJson h.prevBlock) <|
          .defaulted (ExecutionFlags.read_toJson message.flags) <| .defaulted hsavepoint .nil
    simp only [bind_eq_ok]
    exact ⟨_, htx, _, BlockHeader.read_toJson h.block, _, BlockHeader.read_toJson h.prevBlock,
      _, ExecutionFlags.read_toJson message.flags, _, hsavepoint, rfl⟩

end ExecutionMessage

/-! ## Records of row writes -/

namespace Run

open Stage

variable {params : SystemParameters} {table : String} {id : Int} {cells : Row} {s t : RunState}

/-- An update that succeeds has found the row, and keeps a record of it as it was. -/
theorem updateRow_remembers (h : (updateRow params table id cells).run s = (.ok (), t)) :
    ∃ previous,
      s.world.data.row? (TableName.qualify table s.ctx.ecosystemId) id = some previous ∧
      t.ctx.rollback = s.ctx.rollback ++
        [⟨TableName.qualify table s.ctx.ecosystemId, id, (Value.map previous).jsonText⟩] := by
  obtain ⟨ctx, s₁, hcontext, h⟩ := run_bind_eq_ok h
  obtain ⟨rfl, rfl⟩ : s.ctx = ctx ∧ s = s₁ := by
    obtain ⟨hctx, hstate⟩ := Prod.mk.inj hcontext
    exact ⟨Except.ok.inj hctx, hstate⟩
  obtain ⟨_, s₂, hcheck, h⟩ := run_bind_eq_ok h
  have hsame := (checkWrite_untouched _ _ _).run hcheck
  obtain ⟨previous, s₃, hupdate, hremember⟩ := run_bind_eq_ok h
  obtain ⟨hupdate, hctx⟩ := run_storing_eq_ok hupdate
  obtain ⟨hrow, -⟩ := Storing.run_updateRow_eq_ok hupdate
  obtain rfl := (Prod.mk.inj hremember).2
  refine ⟨previous, ?_, ?_⟩
  · rw [hsame.session] at hrow
    exact hrow
  · rw [← hsame.rollback, ← hctx]

end Run

namespace Sample

/-- A list of truth values and bytes, under a key. -/
def mixed : Value :=
  .map [("a", .list [.bool true, .bytes [1, 2]])]

/-- A row with such a value is there, and nothing is checked. -/
def keeping (v : Value) : RunState :=
  let block := (request 0).block
  { ctx := .new (request 0).tx ⟨0, "@1Keep", .none, [], [], []⟩ block block ⟨true, false, false⟩
    world := ⟨⟨.begin (database.setRow "1_t" 1 [("a", v)]), .none⟩, .empty, 0⟩ }

/-- A message with such an input. -/
def carrying (v : Value) : ExecutionMessage :=
  { tx := { (request 0).tx with fields := [("a", v)] }, block := (request 0).block,
    prevBlock := (request 0).block, flags := .none, savepoint := none }

theorem mixed_isProper : mixed.IsProper :=
  ⟨List.pairwise_singleton .., ⟨trivial, trivial, trivial⟩, trivial⟩

/-- The list holds a value that is no number, and there is enough depth left for three levels. -/
theorem mixed_returns {outer : Nat} (h : outer ≤ 124) : mixed.Returns outer := by
  constructor
  · simp only [mixed, Value.nesting, Value.entriesNesting, Value.itemsNesting, Value.nestingLimit]
    omega
  · exact ⟨⟨⟨.bool true, List.mem_cons_self, id⟩, trivial, trivial, trivial⟩, trivial⟩

theorem cell_isProper {v : Value} (h : v.IsProper) : (Value.map [("a", v)]).IsProper :=
  ⟨List.pairwise_singleton .., h, trivial⟩

theorem keeping_isProper {v : Value} (h : v.IsProper) : (keeping v).world.data.IsProper :=
  database_isProper.setRow (cell_isProper h) "1_t" 1

theorem row?_keeping (v : Value) : (keeping v).world.data.row? "1_t" 1 = some [("a", v)] := by
  change (database.setRow "1_t" 1 [("a", v)]).row? "1_t" 1 = _
  rw [Database.row?_setRow, if_pos ⟨rfl, rfl⟩]

theorem block_isProper : (request 0).block.IsProper :=
  ⟨by decide, by decide, by decide, by decide⟩

theorem carrying_isProper {v : Value} (h : v.IsProper) : (carrying v).IsProper where
  tx := ⟨(by decide : Quantity.InRange 0), (by decide : Quantity.InRange 1),
    (by decide : Quantity.InRange 7), nofun, (by decide : Quantity.InRange 0),
    (by decide : Quantity.InRange 0), cell_isProper h⟩
  block := block_isProper
  prevBlock := block_isProper

end Sample

namespace Value

/-- What comes back. Every value comes back from its text if and only if no list in it is taken for
bytes and it does not nest too deep. The same decides whether the row as it was is recovered from the
record of an update, and whether a message is recovered whole, which depends on the inputs alone. -/
theorem recovered_iff (v : Value) (message : ExecutionMessage) (params : SystemParameters)
    (table : String) (id : Int) (cells : Row) (s : RunState) :
    (v.IsProper → (ofJsonText v.jsonText = .ok v ↔ v.Returns 0)) ∧
    (s.world.data.IsProper →
      ∀ t, (Run.updateRow params table id cells).run s = (.ok (), t) →
        ∃ previous data,
          s.world.data.row? (TableName.qualify table s.ctx.ecosystemId) id = some previous ∧
          t.ctx.rollback =
            s.ctx.rollback ++ [⟨TableName.qualify table s.ctx.ecosystemId, id, data⟩] ∧
          (ofJsonText data = .ok (.map previous) ↔ (Value.map previous).Returns 0)) ∧
    (message.IsProper →
      (Json.decode ExecutionMessage.read message.toJson.render = .ok message ↔
        ∀ cell ∈ message.tx.fields, cell.2.Returns 3)) := by
  refine ⟨ofJsonText_jsonText_iff, fun hrows t hupdate => ?_, ExecutionMessage.decode_render_iff⟩
  obtain ⟨previous, hrow, hrollback⟩ := Run.updateRow_remembers hupdate
  exact ⟨previous, _, hrow, hrollback, ofJsonText_jsonText_iff (hrows _ _ _ hrow)⟩

/-- A list of mixed values and a message with one come back; a row with an empty list is not recovered
from the record of its update. -/
theorem recovered_iff_sample :
    ofJsonText Sample.mixed.jsonText = .ok Sample.mixed ∧
    (∃ t data, (Run.updateRow .default "t" 1 [("b", .int 2)]).run (Sample.keeping (.list [])) =
        (.ok (), t) ∧ t.ctx.rollback = [⟨"1_t", 1, data⟩] ∧
        ofJsonText data ≠ .ok (.map [("a", .list [])])) ∧
    Json.decode ExecutionMessage.read (Sample.carrying Sample.mixed).toJson.render =
      .ok (Sample.carrying Sample.mixed) := by
  obtain ⟨hvalues, hrecords, hmessages⟩ := recovered_iff Sample.mixed
    (Sample.carrying Sample.mixed) .default "t" 1 [("b", .int 2)] (Sample.keeping (.list []))
  refine ⟨(hvalues Sample.mixed_isProper).mpr (Sample.mixed_returns (by decide)), ?_,
    (hmessages (Sample.carrying_isProper Sample.mixed_isProper)).mpr ?_⟩
  · have hupdate : ((Run.updateRow .default "t" 1 [("b", .int 2)]).run
        (Sample.keeping (.list []))).1.toOption = some () := by decide +kernel
    have hrun := Stage.run_of_toOption hupdate
    have hproper : (Sample.keeping (.list [])).world.data.IsProper :=
      Sample.keeping_isProper (v := .list []) trivial
    obtain ⟨previous, data, hrow, hrollback, hdata⟩ := hrecords hproper _ hrun
    have hname : TableName.qualify "t" (Sample.keeping (.list [])).ctx.ecosystemId = "1_t" := by
      change TableName.qualify "t" 1 = "1_t"
      decide
    rw [hname] at hrow hrollback
    obtain rfl := Option.some.inj ((Sample.row?_keeping (.list [])).symm.trans hrow)
    refine ⟨_, data, hrun, hrollback, fun hcomes => ?_⟩
    obtain ⟨-, hunmistakable, -⟩ := hdata.mp hcomes
    obtain ⟨item, hitem, -⟩ := hunmistakable.1
    cases hitem
  · intro cell hcell
    obtain rfl := List.mem_singleton.mp hcell
    exact Sample.mixed_returns (by decide)

/-- The empty list does not come back, since its text is that of no bytes. -/
theorem not_recovered : ¬ ∀ v : Value, v.IsProper → ofJsonText v.jsonText = .ok v := by
  intro hclaim
  have hproper : (Value.list []).IsProper := trivial
  obtain ⟨-, ⟨item, hitem, -⟩, -⟩ := (ofJsonText_jsonText_iff hproper).mp (hclaim _ hproper)
  cases hitem

end Value

end Covenant
