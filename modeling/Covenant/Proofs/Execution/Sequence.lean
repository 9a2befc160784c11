import Covenant.Proofs.Execution.Session
import Covenant.Proofs.Execution.Undo

/-!
# Executions on one session

Executions follow one another on a session. Each of them opens a savepoint and closes it again, and
these are found by name; nevertheless the savepoints that were open before are open after all of them,
with the same data, whatever names the requests give.
-/

namespace Covenant

/-- An execution: a request, the node that executes it, and the world in which it does so. -/
structure Execution where
  node : Node
  request : ExecutionRequest
  before : World

namespace Execution

/-- What comes of the execution. -/
def result (x : Execution) : Except ExecutionError ExecutionOutcome :=
  (x.node.execute x.request x.before).1

/-- The world after the execution. -/
def after (x : Execution) : World :=
  (x.node.execute x.request x.before).2

theorem left (x : Execution) (hnever : x.before.connection.failures.Never) :
    x.node.Left x.request x.before x.result x.after.connection.session :=
  Node.execute_left hnever rfl

end Execution

/-- Each execution finds the session that the one before it has left, and no call fails in any of them.
All else may change in between. -/
inductive Session.Executes : Session → List Execution → Session → Prop
  | nil {s : Session} : Executes s [] s
  | cons {x : Execution} {xs : List Execution} {t : Session} :
      x.before.connection.failures.Never → Executes x.after.connection.session xs t →
      Executes x.before.connection.session (x :: xs) t

namespace Sample

/-- A contract adds a row, and another one does so too and fails. -/
def adding : String :=
  "contract Add \x7b\n action \x7b\n  insert t a=1\n \x7d\n\x7d\n" ++
    "contract Stop \x7b\n action \x7b\n  insert t a=2\n  fail no\n \x7d\n\x7d\n"

/-- The session before the first execution, in which a savepoint of the requests' name is opened. -/
def outer : Session :=
  (running database adding).connection.session

/-- An execution on a session in which no call fails. -/
def execution (session : Session) (request : ExecutionRequest) : Execution :=
  ⟨node, request, { running database adding with connection := ⟨session, .none⟩ }⟩

theorem session_execution (session : Session) (request : ExecutionRequest) :
    (execution session request).before.connection.session = session :=
  rfl

/-- A row is added. -/
def adds : Execution :=
  execution (outer.createSavepoint "sp") unpaid

/-- Another row is added and taken back, at no cost. -/
def fails : Execution :=
  execution adds.after.connection.session { request 1 with flags := unpaid.flags }

/-- Another row is added and taken back, and the fee for the failure is paid. -/
def pays : Execution :=
  execution fails.after.connection.session (request 1)

theorem executes_execution {session t : Session} {request : ExecutionRequest} {xs : List Execution}
    (h : (execution session request).after.connection.session.Executes xs t) :
    session.Executes (execution session request :: xs) t :=
  .cons (x := execution session request) (fun _ _ => rfl) h

theorem executes :
    (outer.createSavepoint "sp").Executes [adds, fails, pays] pays.after.connection.session := by
  unfold pays fails adds
  exact executes_execution (executes_execution (executes_execution .nil))

/-- How the three executions end, and the statement log after each of them. -/
theorem ends : [adds, fails, pays].map (fun x =>
    (x.result.toOption.map ExecutionOutcome.status, x.after.connection.session.log)) =
      [(some .committed, ["INSERT 1_t 1"]), (none, []),
        (some .feeCharged, ["UPDATE 1_keys 7", "UPDATE 1_keys 3", "INSERT 1_history 1"])] := by
  decide +kernel

end Sample

/-- An execution closes its own savepoint and no other. -/
theorem Node.Left.savepoints {node : Node} {request : ExecutionRequest} {world : World}
    {r : Except ExecutionError ExecutionOutcome} {t : Session} (h : Left node request world r t) :
    t.savepoints = world.connection.session.savepoints := by
  cases h with
  | refused _ => rfl
  | rejected _ => rfl
  | charged _ _ _ _ _ _ => rfl
  | committed _ _ _ _ _ => rfl

namespace Session

/-- A savepoint is the latest of its name if none of the newer ones has that name. -/
theorem savepointsUpTo?_of_not_mem {older newer : List (String × Database)} {name : String}
    {data : Database} (hnewer : name ∉ newer.map Prod.fst) :
    savepointsUpTo? name (older ++ (name, data) :: newer) = some (older, data) := by
  have hall : ∀ savepoint ∈ newer.reverse, (savepoint.1 != name) = true := by
    intro savepoint hmem
    have hne : savepoint.1 ≠ name :=
      fun h => hnewer (h ▸ List.mem_map_of_mem (List.mem_reverse.mp hmem))
    simpa using hne
  rw [savepointsUpTo?, List.reverse_append, List.reverse_cons, List.append_assoc,
    List.dropWhile_append_of_pos hall]
  simp

/-- Going back to the latest savepoint of a name gives the session in which it was opened, but for the
log. -/
theorem rollbackTo_of_createSavepoint {session opened : Session} {name : String}
    {newer : List (String × Database)}
    (h : session.savepoints = (opened.createSavepoint name).savepoints ++ newer)
    (hnewer : name ∉ newer.map Prod.fst) :
    session.rollbackTo name = .ok { opened.createSavepoint name with log := session.log } := by
  have hstack : session.savepoints =
      opened.savepoints ++ (name, opened.working) :: newer := by
    rw [h, createSavepoint, List.append_assoc]
    rfl
  simp only [rollbackTo, hstack, savepointsUpTo?_of_not_mem hnewer]
  rfl

variable {s t : Session} {xs : List Execution}

theorem Executes.savepoints (h : s.Executes xs t) : t.savepoints = s.savepoints := by
  induction h with
  | nil => rfl
  | cons hnever _ ih => exact ih.trans (Execution.left _ hnever).savepoints

/-- Executions on a session leave its savepoints as they were, so whoever goes back to one that was
opened before finds the data as they were then, whatever the executions have done. -/
theorem savepoints_of_executes (h : s.Executes xs t) :
    t.savepoints = s.savepoints ∧
      ∀ (opened : Session) (name : String) (newer : List (String × Database)),
        s.savepoints = (opened.createSavepoint name).savepoints ++ newer →
        name ∉ newer.map Prod.fst →
        t.rollbackTo name = .ok { opened.createSavepoint name with log := t.log } := by
  refine ⟨h.savepoints, fun opened name newer hopened hnewer => ?_⟩
  exact rollbackTo_of_createSavepoint (h.savepoints.trans hopened) hnewer

/-- The requests' savepoints have the name of the one that was open before. One execution is committed,
one is rejected and one is charged for, and going back takes all of that back. -/
theorem savepoints_of_executes_sample :
    ∃ xs t, (Sample.outer.createSavepoint "sp").Executes xs t ∧
      xs.map (fun x => x.result.toOption.map ExecutionOutcome.status) =
        [some .committed, none, some .feeCharged] ∧
      xs.map (fun x => x.request.savepoint) = ["sp", "sp", "sp"] ∧
      t.rollbackTo "sp" = .ok { Sample.outer.createSavepoint "sp" with log := t.log } := by
  refine ⟨_, _, Sample.executes, ?_, rfl, ?_⟩
  · simpa only [List.map_cons, List.map_nil] using congrArg (List.map Prod.fst) Sample.ends
  · exact (savepoints_of_executes Sample.executes).2 Sample.outer _ [] (List.append_nil _).symm
      List.not_mem_nil

end Session

end Covenant
