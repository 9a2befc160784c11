import Covenant.Proofs.Execution.Effect
import Covenant.Proofs.Execution.Ending

/-!
# Mediated writes

Contract code has no way to the rows but the two statements that write, and both ask first. So at
every moment of a run, calls inside calls included, a row that changes is one that the transaction
may write just then, and a write that is refused leaves nothing behind.
-/

namespace Covenant

/-- Rows stay as they are, and no record of a row write is kept. -/
def RunState.Spares (s t : RunState) : Prop :=
  t.world.data = s.world.data ∧ t.ctx.rollback = s.ctx.rollback

namespace Run.Moment

open RunState

variable {node : Node} {m : Moment}

/-- Some contract has failed, and those that wait for it are still to fail. -/
def isFailing : Moment → Bool
  | failing .. => true
  | _ => false

/-- The next step writes a row, which the statement names and the transaction may write. -/
def WritesByRight (params : SystemParameters) (tx : Transaction) (m : Moment) (t : RunState) :
    Prop :=
  ∃ table action pairs values, m.write? = some (table, action, pairs) ∧
    resolvePairs m.state.ctx.env pairs = .ok values ∧
    m.state.Writes t table (Dict.keys (Dict.ofList values)) ∧
    Access.MayWrite params tx m.state.ctx.env m.state.world.data table action
      (Dict.keys (Dict.ofList values))

variable {s : RunState} {table : String} {action : TableAction} {pairs : List (String × Operand)}

/-- A write statement that makes its contract fail has moved nothing. -/
theorem unmoved_after {params : SystemParameters} {x : Run Unit} {place : Place}
    {rest : List Statement} (hx : MediatedValues params s table action pairs (x.run s)) :
    (after x s (failing place.frames) fun _ => ready place rest).isFailing = true →
      s.Unmoved (after x s (failing place.frames) fun _ => ready place rest).state := by
  refine after_cases (motive := fun m => m.isFailing = true → s.Unmoved m.state)
    (fun e t hrun _ => ?_) fun _ _ _ hready => nomatch hready
  rw [hrun] at hx
  exact hx

/-- A write that fails has moved nothing. -/
theorem unmoved_of_isFailing {write : String × TableAction × List (String × Operand)}
    (hwrite : m.write? = some write) (h : (m.next node).isFailing = true) :
    m.state.Unmoved (m.next node).state := by
  cases m with
  | paid place statement rest s =>
    cases statement with
    | insert table pairs =>
      rw [next_paid (by simp)] at h ⊢
      exact unmoved_after (exec_insert_mediated table pairs s) h
    | update table id pairs =>
      rw [next_paid (by simp)] at h ⊢
      exact unmoved_after (exec_update_mediated table id pairs s) h
    | _ => cases hwrite
  | _ => cases hwrite

/-- What does not spare the rows is a write that may be made. -/
theorem Effect.spares_or_writes {t : RunState} (h : m.Effect node t)
    (haccess : m.state.ctx.flags.fullAccess = false) :
    m.state.Spares t ∨ m.WritesByRight node.params m.state.ctx.tx t := by
  cases h with
  | charge => exact .inl ⟨rfl, rfl⟩
  | write hwrite hvalues hwrites hmay =>
    exact .inr ⟨_, _, _, _, hwrite, hvalues, hwrites, hmay haccess⟩
  | turn hturns _ => exact .inl ⟨hturns.data, by rw [hturns.ctx]⟩
  | aside haside _ => exact .inl ⟨haside.data, by rw [haside.ctx]⟩

/-- A step spares the rows, or it is a write that succeeds and that may be made. -/
theorem next_mediated (node : Node) (haccess : m.state.ctx.flags.fullAccess = false) :
    m.state.Spares (m.next node).state ∨ (m.next node).isFailing = false ∧
      m.WritesByRight node.params m.state.ctx.tx (m.next node).state := by
  rcases (next_effect node m).spares_or_writes haccess with hspares | hwrites
  · exact .inl hspares
  · obtain ⟨_, _, _, _, hwrite, -⟩ := id hwrites
    cases hfails : (m.next node).isFailing with
    | true =>
      have hunmoved := unmoved_of_isFailing hwrite hfails
      exact .inl ⟨hunmoved.data, by rw [hunmoved.ctx]⟩
    | false => exact .inr ⟨rfl, hwrites⟩

end Run.Moment

namespace Sample

/-- A contract calls another one, which adds a row to a table that lets key 7 do so. -/
def mediating : World :=
  running
    { database with tables := [(("1", "t"), ⟨"t", [("insert", "$key_id == 7")], [("a", "true")]⟩)] }
    ("contract Ask \x7b\n action \x7b\n  call Add\n \x7d\n\x7d\n" ++
      "contract Add \x7b\n action \x7b\n  insert t a=1\n \x7d\n\x7d\n")

end Sample

namespace Node

open Preparing Run.Moment

variable {node : Node} {request : ExecutionRequest} {world w : World} {ctx : ExecutionContext}

/-- At every moment of a run without full access, calls inside calls included, the next step spares
the rows, or it is a write that succeeds and that the transaction may make just then. -/
theorem writes_mediated (haccess : request.flags.fullAccess = false)
    (h : (prepare node request).run world = (.ok ctx, w)) :
    (∃ k, nth node ⟨ctx, w⟩ k =
        ended ((Run.invoke node).run ⟨ctx, w⟩).1 ((Run.invoke node).run ⟨ctx, w⟩).2) ∧
      ∀ k, (nth node ⟨ctx, w⟩ k).state.Spares (nth node ⟨ctx, w⟩ (k + 1)).state ∨
        (nth node ⟨ctx, w⟩ (k + 1)).isFailing = false ∧
          (nth node ⟨ctx, w⟩ k).WritesByRight node.params request.tx
            (nth node ⟨ctx, w⟩ (k + 1)).state := by
  refine ⟨exists_nth_eq_ended node _, fun k => ?_⟩
  have hprepared : ctx.tx = request.tx ∧ ctx.flags = request.flags := by
    obtain ⟨_, _, _, _, rfl⟩ := prepare_context h
    exact ⟨rfl, rfl⟩
  obtain ⟨htx, hflags, -⟩ := nth_settled node ⟨ctx, w⟩ k
  have hmoment : (nth node ⟨ctx, w⟩ k).state.ctx.flags.fullAccess = false := by
    rw [hflags, hprepared.2, haccess]
  have hmediated := next_mediated node hmoment
  rw [htx, hprepared.1, ← nth_succ] at hmediated
  exact hmediated

/-- The called contract writes its row, and may: the table's condition and the column's rule hold. -/
theorem writes_mediated_sample :
    ∃ s : RunState, (prepare Sample.node (Sample.request 0)).run Sample.mediating =
        (.ok s.ctx, s.world) ∧
      (nth Sample.node s 5).WritesByRight Sample.node.params (Sample.request 0).tx
        (nth Sample.node s 6).state := by
  obtain ⟨s, hstart⟩ : ∃ s, Sample.start? Sample.mediating = some s :=
    Option.isSome_iff_exists.mp (by decide +kernel)
  have hgrown : (Sample.start? Sample.mediating).map (fun s =>
      ((nth Sample.node s 5).state.world.data.rows.length,
        (nth Sample.node s 6).state.world.data.rows.length)) = some (1, 2) := by decide +kernel
  rw [hstart] at hgrown
  obtain ⟨hbefore, hafter⟩ := Prod.mk.inj (Option.some.inj hgrown)
  have hprepare := Sample.prepare_of_start? hstart
  rcases (writes_mediated rfl hprepare).2 5 with hspares | ⟨-, hwrites⟩
  · rw [hspares.1, hbefore] at hafter
    cases hafter
  · exact ⟨s, hprepare, hwrites⟩

end Node

end Covenant
