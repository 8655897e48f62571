import Kore.Foundation.Movers
import Kore.Proofs.TransactionAbort

/-! `EXEC` runs its check and its queued commands one by one and takes no lock, so that the
commands of other connections may fall between them. It is isolated when those that do
could as well have run before the steps taken so far, or after the steps still to come. -/

namespace Kore.Proofs.TransactionIsolation
open Foundation Foundation.Turn Protocol Cache Commands TransactionAbort Function Node List

variable {W κ : Type}
variable {node : Node W} {answer : Answer}

inductive Phase where
  | waiting
  | replaying (queue : List Queued) (results : List RespValue)
  | done (answer : Answer)

/-- One connection that executes its transaction, the other connections, and what those were answered. -/
structure Exchange (W κ : Type) where
  world : W
  me : Client
  phase : Phase
  clients : κ → Client
  log : List (κ × RespValue × Answer)

namespace Exchange

def settle (exchange : Exchange W κ) : Exchange W κ :=
  match exchange.phase with
  | .replaying [] results => { exchange with me := execEnd exchange.me, phase := .done (.ok (.array results)) }
  | _ => exchange

/-- One step of `EXEC`: the check, or one queued command. -/
def execute (node : Node W) (exchange : Exchange W κ) : Exchange W κ :=
  match exchange.phase with
  | .waiting =>
    match node.execBegin exchange.me exchange.world with
    | (me, .finished answer) => { exchange with me, phase := .done answer }
    | (me, .replaying queue) => ({ exchange with me, phase := .replaying queue [] } : Exchange W κ).settle
  | .replaying (command :: queue) results =>
    let (me, world, results) := node.execStep (exchange.me, exchange.world, results) command
    ({ exchange with me, world, phase := .replaying queue results } : Exchange W κ).settle
  | .replaying [] _ | .done _ => exchange

variable [DecidableEq κ]

def serve (node : Node W) (exchange : Exchange W κ) (event : κ × RespValue) : Exchange W κ :=
  let (client, world, answer) := node.handle (exchange.clients event.1) exchange.world event.2
  { exchange with world, clients := update exchange.clients event.1 client, log := exchange.log ++ [(event.1, event.2, answer)] }

def executeAll (node : Node W) (exchange : Exchange W κ) : Exchange W κ :=
  let (me, world, answer) := node.handleExec exchange.me exchange.world
  { exchange with me, world, phase := .done answer }

/-- The same state, and the same answers to the same requests in some order. -/
structure Agrees (exchange other : Exchange W κ) : Prop where
  world : exchange.world = other.world
  me : exchange.me = other.me
  phase : exchange.phase = other.phase
  clients : exchange.clients = other.clients
  log : exchange.log.Perm other.log

/-- Some order of the other connections' commands with the whole of `EXEC` at one point has the outcome of the schedule. -/
def Isolated (node : Node W) (start : Exchange W κ) (turns : List (Turn (κ × RespValue))) : Prop :=
  ∃ before after, (before ++ after).Perm (others turns) ∧
    Agrees (run (serve node) (executeAll node (run (serve node) start before)) after) (interleave (execute node) (serve node) start turns)

end Exchange

open Exchange

variable [DecidableEq κ]

variable {exchange : Exchange W κ}

omit [DecidableEq κ] in
private theorem execute_done (finished : exchange.phase = .done answer) :
    execute node exchange = exchange := by
  unfold execute
  rw [finished]

omit [DecidableEq κ] in
private theorem execute_iterate_done (finished : exchange.phase = .done answer)
    (count : Nat) : (execute node)^[count] exchange = exchange :=
  iterate_fixed (execute_done finished) count

omit [DecidableEq κ] in
private theorem replay_steps (queue : List Queued) (command : Queued) {results : List RespValue}
    (replaying : exchange.phase = .replaying (command :: queue) results) :
    (execute node)^[queue.length + 1] exchange =
      let final := (command :: queue).foldl node.execStep (exchange.me, exchange.world, results)
      { exchange with me := execEnd final.1, world := final.2.1, phase := .done (.ok (.array final.2.2)) } := by
  induction queue generalizing exchange results command with
  | nil =>
    rw [length_nil, zero_add, iterate_one, execute, replaying]
    rfl
  | cons next queue ih =>
    rw [length_cons, iterate_succ_apply, foldl_cons]
    have stepped : execute node exchange =
        let (me, world, results) := node.execStep (exchange.me, exchange.world, results) command
        { exchange with me, world, phase := .replaying (next :: queue) results } := by
      rw [execute, replaying]
      rfl
    rw [stepped]
    exact ih next rfl

private theorem execBegin_queue {client me : Client} {world : W} {queue : List Queued}
    (begun : node.execBegin client world = (me, .replaying queue)) : queue = client.multiQueue := by
  unfold execBegin at begun
  split at begun
  · cases begun
  · split at begun
    · cases begun
    · split at begun <;> cases begun
      rfl

omit [DecidableEq κ] in
private theorem execute_all (waiting : exchange.phase = .waiting) :
    (execute node)^[exchange.me.multiQueue.length + 1] exchange = executeAll node exchange := by
  rw [iterate_succ_apply]
  have whole : executeAll node exchange =
      let (me, world, answer) := node.handleExec exchange.me exchange.world
      { exchange with me, world, phase := .done answer } := rfl
  cases begun : node.execBegin exchange.me exchange.world with
  | mk me phase =>
    cases phase with
    | finished answer =>
      have first : execute node exchange = { exchange with me, phase := .done answer } := by
        simp [execute, waiting, begun]
      rw [first, execute_iterate_done rfl, whole]
      simp [handleExec, begun]
    | replaying queue =>
      have first : execute node exchange = ({ exchange with me, phase := .replaying queue [] } : Exchange W κ).settle := by
        simp [execute, waiting, begun]
      rw [first, whole, ← execBegin_queue begun]
      simp only [handleExec, begun]
      cases queue with
      | nil => rfl
      | cons command queue => exact replay_steps queue command rfl

omit [DecidableEq κ] in
private theorem execute_finished (waiting : exchange.phase = .waiting) {count : Nat}
    (finished : ((execute node)^[count] exchange).phase = .done answer) :
    (execute node)^[count] exchange = executeAll node exchange := by
  rw [← execute_all waiting]
  rcases le_total count (exchange.me.multiQueue.length + 1) with short | long
  · obtain ⟨more, enough⟩ := Nat.exists_eq_add_of_le' short
    rw [enough, iterate_add_apply, execute_iterate_done finished]
  · obtain ⟨more, rfl⟩ := Nat.exists_eq_add_of_le' long
    rw [iterate_add_apply, execute_all waiting]
    exact execute_iterate_done rfl more

private theorem serve_phase (events : List (κ × RespValue)) : (run (serve node) exchange events).phase = exchange.phase :=
  @run_invariant _ _ (serve node) _ (fun later => later.phase = exchange.phase) (fun _ _ same => same) rfl events

/-- An execution of `EXEC` is isolated if every command of another connection that falls into
it commutes with the steps before it, up to some point, and with the steps after it from there on. -/
theorem exec_isolated (node : Node W) {start : Exchange W κ} (waiting : start.phase = .waiting)
    {first second : List (Turn (κ × RespValue))} (left : MovesLeft (execute node) (serve node) start 0 first)
    (right : MovesRight (execute node) (serve node) (interleave (execute node) (serve node) start first) second)
    (complete : ∃ answer, (interleave (execute node) (serve node) start (first ++ second)).phase = .done answer) :
    Isolated node start (first ++ second) := by
  obtain ⟨answer, finished⟩ := complete
  have reduced := interleave_reduction left right
  rw [reduced, serve_phase] at finished
  rw [execute_finished ((serve_phase (others first)).trans waiting) finished] at reduced
  refine ⟨others first, others second, ?_, ?_⟩
  · rw [others_append]
  · rw [reduced]
    exact ⟨rfl, rfl, rfl, rfl, .refl _⟩

/-! Two reads in a transaction, and a write of another connection between them. -/

def openSetup : Setup Int := denyingSetup "NOTHING"

def storedWorld : World Int :=
  ⟨[⟨Finmap.singleton (ascii "k") ⟨none, .string (ascii "old")⟩, ∅⟩], 1000, false, false, true⟩

def readingTwice (words : List String) : Exchange (World Int) Unit :=
  ⟨storedWorld, afterMulti openSetup [words, words], .waiting, fun _ => plainClient, []⟩

def Phase.answered : Phase → Option Bytes
  | .done (.ok reply) => some reply.serialize
  | _ => none

def writesBetween (key : String) : List (Turn (Unit × RespValue)) :=
  [.own, .own, .other ((), request ["SET", key, "new"]), .own]

/-- The two reads of one transaction see the key before and after a write of somebody else. -/
theorem write_between_reads : ¬Isolated openSetup.node (readingTwice ["GET", "k"]) (writesBetween "k") := by
  rintro ⟨before, after, order, agrees⟩
  have answers := congrArg Phase.answered agrees.phase
  have one : before ++ after = [((), request ["SET", "k", "new"])] := perm_singleton.mp order
  rcases append_eq_singleton_iff.mp one with ⟨rfl, rfl⟩ | ⟨rfl, rfl⟩
  · revert answers
    decide +kernel
  · revert answers
    decide +kernel

theorem write_elsewhere_isolated : Isolated openSetup.node (readingTwice ["GET", "k"]) (writesBetween "other" ++ []) := by
  refine exec_isolated openSetup.node rfl ⟨?_, trivial⟩ trivial ⟨_, rfl⟩
  rfl

end Kore.Proofs.TransactionIsolation
