import Kore.Foundation.Runs
import Kore.Commands.World
import Kore.Proofs.Repetition

/-! What `EXEC` answers after a request was refused inside the transaction. Only the queue
marks the transaction as aborted; a request that a gate turns away leaves no trace. The
world may change in any way between the requests of a session. -/

namespace Kore.Proofs.TransactionAbort
open Foundation Protocol Cache Commands Node Client

variable {W : Type}

def isError : Answer → Bool
  | .error _ | .ok (.error _) => true
  | .ok _ => false

@[simp] theorem isError_failure (text : String) : isError (failure text) = true := rfl

variable {denial : Denial}

@[simp] theorem isError_denial : isError denial.answer = true := rfl

variable (node : Node W) (client : Client) (event : W × RespValue)

def advance : Client := (node.handle client event.1 event.2).1

def answer : Answer := (node.handle client event.1 event.2).2.2

/-- The queue itself refuses the request: it has passed every gate. -/
def barred : Bool :=
  match parseRequest event.2 with
  | .error _ => false
  | .ok (name, args) =>
    CommandClass.ofName name == .plain && (node.gate client event.1 name args).2.isNone &&
      (node.writeDenial event.1 name args).isNone && forbiddenInMulti.contains name

/-- The request is refused before it reaches the queue. -/
def turnedAway : Bool :=
  match parseRequest event.2 with
  | .error _ => true
  | .ok (name, args) =>
    match CommandClass.ofName name with
    | .handshake => isError (node.handshake event.1 client name args).2.2
    | .control control => (node.gate client event.1 name args).2.isSome || control == .multi || control == .watch
    | .plain => (node.gate client event.1 name args).2.isSome || (node.writeDenial event.1 name args).isSome

/-- Inside `MULTI`, with no replay going on. -/
structure Queuing (client : Client) : Prop where
  inMulti : client.inMulti = true
  waiting : client.executingMulti = false

private theorem gate_fields (world : W) (name : Bytes) (args : List RespValue) :
    (node.gate client world name args).1.inMulti = client.inMulti ∧
      (node.gate client world name args).1.executingMulti = client.executingMulti ∧
      (node.gate client world name args).1.multiAborted = client.multiAborted := by
  unfold gate
  split
  · exact ⟨rfl, rfl, rfl⟩
  · split
    · exact ⟨rfl, rfl, rfl⟩
    · split <;> exact ⟨rfl, rfl, rfl⟩

private theorem handlePlain_closed {client : Client} (outside : client.inMulti = false) (world : W)
    (command : Queued) : (node.handlePlain client world command).1.inMulti = false := by
  have kept := (gate_fields node client world command.name command.args).1
  unfold handlePlain
  split
  next admitted denial seen =>
    rw [seen] at kept
    exact kept.trans outside
  next admitted seen =>
    rw [seen] at kept
    have still := kept.trans outside
    unfold handleAdmitted
    split
    · exact still
    · rw [still]
      exact node.closed _ _ _ _ still

private theorem replay_closed (queue : List Queued) {state : Client × W × List RespValue}
    (outside : state.1.inMulti = false) : (queue.foldl node.execStep state).1.inMulti = false := by
  induction queue generalizing state with
  | nil => exact outside
  | cons command queue ih => exact ih (handlePlain_closed node outside state.2.1 command)

private theorem handleExec_leaves (world : W) : (node.handleExec client world).1.inMulti = false := by
  have begun : (node.execBegin client world).1.inMulti = false := by
    unfold execBegin
    split
    next outside => simpa using outside
    next => split <;> [rfl; split <;> rfl]
  unfold handleExec
  split
  next left answer seen =>
    rw [seen] at begun
    exact begun
  next left queue seen =>
    rw [seen] at begun
    exact replay_closed node queue begun

/-- What one request does to an open transaction that it leaves open. -/
private structure StepFacts (node : Node W) (client : Client) (event : W × RespValue) : Prop where
  waiting : (advance node client event).executingMulti = false
  marks : (advance node client event).multiAborted = true ↔ client.multiAborted = true ∨ barred node client event = true
  errs : isError (answer node client event) = true ↔ turnedAway node client event = true ∨ barred node client event = true

/-- A request that the queue does not see, or accepts, leaves the mark as it is. -/
private theorem StepFacts.unmarked {node : Node W} {client after : Client} {world rest : W} {request : RespValue} {reply : Answer}
    (handled : node.handle client world request = (after, rest, reply)) (waiting : after.executingMulti = false)
    (kept : after.multiAborted = client.multiAborted) (clear : barred node client (world, request) = false)
    (errs : isError reply = turnedAway node client (world, request)) : StepFacts node client (world, request) := by
  refine ⟨?_, ?_, ?_⟩
  · rw [advance, handled]
    exact waiting
  · rw [advance, handled, clear]
    simp [kept]
  · rw [answer, handled, clear, errs]
    simp

private theorem step_facts {node : Node W} {client : Client} {event : W × RespValue} (queuing : Queuing client)
    (stays : (advance node client event).inMulti = true) : StepFacts node client event := by
  obtain ⟨world, request⟩ := event
  obtain ⟨inMulti, waiting⟩ := queuing
  cases parsed : parseRequest request with
  | error text =>
    refine .unmarked (handle_malformed parsed) waiting rfl ?_ ?_
    · simp [barred, parsed]
    · simp [turnedAway, parsed, isError_failure]
  | ok command =>
    obtain ⟨name, args⟩ := command
    obtain ⟨left, denial, admitted⟩ : ∃ left denial, node.gate client world name args = (left, denial) := ⟨_, _, rfl⟩
    obtain ⟨leftMulti, leftWaiting, leftAborted⟩ := gate_fields node client world name args
    rw [admitted] at leftMulti leftWaiting leftAborted
    dsimp only at leftMulti leftWaiting leftAborted
    rw [inMulti] at leftMulti
    rw [waiting] at leftWaiting
    cases kind : CommandClass.ofName name with
    | handshake =>
      refine .unmarked (handle_handshake parsed kind) waiting rfl ?_ ?_
      · simp [barred, parsed, kind]
      · simp [turnedAway, parsed, kind]
    | control control =>
      have clear : barred node client (world, request) = false := by simp [barred, parsed, kind]
      have handled := @handle_control W node client world request name args parsed control kind
      rw [admitted] at handled
      cases denial with
      | some denial =>
        refine .unmarked handled leftWaiting leftAborted clear ?_
        simp [turnedAway, parsed, kind, admitted]
      | none =>
        have refused : turnedAway node client (world, request) = (control == .multi || control == .watch) := by
          simp [turnedAway, parsed, kind, admitted]
        rw [advance, handled] at stays
        cases control with
        | multi =>
          have nested : left.handleMulti = (left, failure "ERR MULTI calls can not be nested") := if_pos leftMulti
          simp only [handleControl, nested] at handled
          exact .unmarked handled leftWaiting leftAborted clear (by rw [refused, isError_failure]; rfl)
        | exec => exact absurd (handleExec_leaves node left world) (by simpa [handleControl] using stays)
        | discard =>
          exact absurd stays (by simp [handleControl, handleDiscard, leftMulti, clearWatches, leaveMulti])
        | watch =>
          have nested : node.handleWatch left world args = (left, world, failure "ERR WATCH inside MULTI is not allowed") :=
            if_pos leftMulti
          simp only [handleControl, nested] at handled
          exact .unmarked handled leftWaiting leftAborted clear (by rw [refused, isError_failure]; rfl)
        | unwatch =>
          refine .unmarked handled leftWaiting leftAborted clear ?_
          rw [refused]
          rfl
    | plain =>
      have handled := @handle_plain W node client world request name args parsed kind
      rw [handlePlain, admitted] at handled
      cases denial with
      | some denial =>
        refine .unmarked handled leftWaiting leftAborted ?_ ?_
        · simp [barred, parsed, admitted]
        · simp [turnedAway, parsed, kind, admitted]
      | none =>
        cases denied : node.writeDenial world name args with
        | some denial =>
          simp only [handleAdmitted, denied] at handled
          refine .unmarked handled leftWaiting leftAborted ?_ ?_
          · simp [barred, parsed, denied]
          · simp [turnedAway, parsed, kind, admitted, denied]
        | none =>
          have away : turnedAway node client (world, request) = false := by simp [turnedAway, parsed, kind, admitted, denied]
          have bars : barred node client (world, request) = forbiddenInMulti.contains name := by
            simp [barred, parsed, kind, admitted, denied]
          have queues : (left.inMulti && !left.executingMulti) = true := by rw [leftMulti, leftWaiting]; rfl
          simp only [handleAdmitted, denied, queues, queueMultiCommand] at handled
          by_cases forbidden : name ∈ forbiddenInMulti
          · simp only [forbidden] at handled
            have bar : barred node client (world, request) = true := by rw [bars]; simpa using forbidden
            refine ⟨?_, ?_, ?_⟩
            · rw [advance, handled]
              exact leftWaiting
            · rw [advance, handled, bar]
              simp
            · rw [answer, handled, bar]
              simp [isError]
          · simp only [forbidden] at handled
            refine .unmarked handled leftWaiting leftAborted ?_ ?_
            · rw [bars]
              simpa using forbidden
            · rw [away]
              rfl

def execAdmitted (world : W) (args : List RespValue) : Bool :=
  (node.gate client world (ascii "EXEC") args).2.isNone

private def denialHead : Denial → String
  | .noAuth | .aclCommand _ | .aclKey | .aclChannel | .noReplicas => "NO"
  | .loading => "LO"
  | .databaseInCluster _ => "ER"
  | .crossSlot => "CR"
  | .clusterDown | .notServed _ => "CL"
  | .moved _ _ => "MO"
  | .ask _ _ => "AS"
  | .readonly => "RE"

private theorem denial_not_abort : denial.answer ≠ execAbort := by
  intro same
  have texts : denial.text = ascii "EXECABORT Transaction discarded because of previous errors." := by
    simpa [Denial.answer, execAbort, Commands.failure] using same
  have head : denial.text.take 2 = ascii (denialHead denial) := by
    cases denial <;> simp only [Denial.text, denialHead, List.append_assoc] <;>
      first | decide +kernel | (rw [List.take_append_of_le_length (by decide)]; decide +kernel)
  rw [texts] at head
  revert head
  cases denial <;> (dsimp only [denialHead]; decide +kernel)

private theorem exec_answer {node : Node W} {client : Client} {world : W} {request : RespValue} {args : List RespValue}
    (exec : parseRequest request = .ok (ascii "EXEC", args)) (inside : client.inMulti = true) :
    (node.handle client world request).2 = (world, execAbort) ↔
      execAdmitted node client world args = true ∧ client.multiAborted = true := by
  have kind : CommandClass.ofName (ascii "EXEC") = .control .exec := by decide
  obtain ⟨left, denial, admitted⟩ : ∃ left denial, node.gate client world (ascii "EXEC") args = (left, denial) := ⟨_, _, rfl⟩
  obtain ⟨leftMulti, _, leftAborted⟩ := gate_fields node client world (ascii "EXEC") args
  rw [admitted] at leftMulti leftAborted
  rw [handle_control exec kind, execAdmitted, admitted, ← leftAborted]
  cases denial with
  | some denial => simp [denial_not_abort]
  | none =>
    have opened : ¬(!left.inMulti) = true := by rw [leftMulti, inside]; decide
    dsimp only [handleControl, handleExec, execBegin]
    rw [if_neg opened]
    by_cases aborted : left.multiAborted = true
    · simp [aborted]
    · rw [if_neg aborted]
      have goes : ¬((none : Option Denial).isNone = true ∧ left.multiAborted = true) := fun both => aborted both.2
      refine iff_of_false ?_ goes
      split
      next seen =>
        split at seen <;> cases seen
        simp [execAbort, Commands.failure, RespValue.nil]
      next => simp [execAbort, Commands.failure]

/-- A session in which some request is answered with an error makes `EXEC` abort just when
the queue itself has refused a request and `EXEC` is let through, or no request was refused. -/
theorem exec_aborts_iff (node : Node W) {client : Client} (outside : client.inMulti = false) (waiting : client.executingMulti = false)
    {events : List (W × RespValue)} (world : W) {request : RespValue} {args : List RespValue}
    (stays : Guarded (advance node) (fun client event => (advance node client event).inMulti = true) client.handleMulti.1 events)
    (exec : parseRequest request = .ok (ascii "EXEC", args)) :
    ((∃ visit ∈ visits (advance node) client.handleMulti.1 events, isError (answer node visit.1 visit.2) = true) →
        (node.handle (run (advance node) client.handleMulti.1 events) world request).2 = (world, execAbort)) ↔
      (∀ visit ∈ visits (advance node) client.handleMulti.1 events,
          turnedAway node visit.1 visit.2 = false ∧ barred node visit.1 visit.2 = false) ∨
        (∃ visit ∈ visits (advance node) client.handleMulti.1 events, barred node visit.1 visit.2 = true) ∧
          execAdmitted node (run (advance node) client.handleMulti.1 events) world args = true := by
  have opened : client.handleMulti.1 = { client with inMulti := true, multiAborted := false, multiQueue := [] } := by
    rw [handleMulti, outside]
    rfl
  have start : Queuing client.handleMulti.1 := by rw [opened]; exact ⟨rfl, waiting⟩
  have keeps : ∀ state event, Queuing state → (advance node state event).inMulti = true →
      Queuing (advance node state event) ∧ StepFacts node state event := fun state event queuing inside =>
    ⟨⟨inside, (step_facts queuing inside).waiting⟩, step_facts queuing inside⟩
  have facts := stays.forall_visits keeps start
  have queuing : Queuing (run (advance node) client.handleMulti.1 events) :=
    stays.invariant (fun state event queuing inside => (keeps state event queuing inside).1) start
  have aborted : (run (advance node) client.handleMulti.1 events).multiAborted = true ↔
      ∃ visit ∈ visits (advance node) client.handleMulti.1 events, barred node visit.1 visit.2 = true := by
    have marked := @Guarded.marked_iff _ _ _ _ _ Queuing _ multiAborted (fun state event => barred node state event = true)
      (fun state event queuing inside => ⟨(keeps state event queuing inside).1, (keeps state event queuing inside).2.marks⟩) stays start
    rw [marked]
    simp [opened]
  rw [exec_answer exec queuing.inMulti, aborted]
  constructor
  · intro aborts
    by_cases refused : ∃ visit ∈ visits (advance node) client.handleMulti.1 events, isError (answer node visit.1 visit.2) = true
    · exact .inr (aborts refused).symm
    · refine .inl fun visit member => ?_
      have fine := mt (facts visit member).errs.mpr fun error => refused ⟨visit, member, error⟩
      simpa using fine
  · rintro (none | both)
    · rintro ⟨visit, member, error⟩
      have refused := (facts visit member).errs.mp error
      simp [none visit member] at refused
    · exact fun _ => both.symm

/-! Concrete sessions. -/

def request (words : List String) : RespValue := .array (words.map fun word => .bulkString (some (ascii word)))

/-- A server with open gates, except that its users may not run one command. -/
def denyingSetup (denied : String) : Setup Int where
  server := Repetition.plainServer
  clusterEnabled := false
  handshake world _ _ _ := (world, true, .ok .ok)
  checkAclPermission _ _ name _ := if name = ascii denied then some (.aclCommand name) else none
  checkClusterRedirect _ _ _ _ _ := none
  others client world _ _ := (client, world, failure "ERR unknown command")
  closed _ _ _ _ outside := outside

def plainClient : Client := ⟨0, true, false, false, false, false, [], ∅⟩

def emptyWorld : World Int := ⟨[⟨∅, ∅⟩], 1000, false, false, true⟩

def afterMulti (setup : Setup Int) (requests : List (List String)) : Client :=
  run (advance setup.node) plainClient.handleMulti.1 (requests.map fun words => (emptyWorld, request words))

/-- `MULTI`, `SET k v`, then `DEL k`, which the user may not run: `EXEC` stores the key. -/
theorem denied_command_ignored :
    isError (answer (denyingSetup "DEL").node (afterMulti (denyingSetup "DEL") [["SET", "k", "v"]])
        (emptyWorld, request ["DEL", "k"])) = true ∧
      isError ((denyingSetup "DEL").node.handle (afterMulti (denyingSetup "DEL") [["SET", "k", "v"], ["DEL", "k"]]) emptyWorld
        (request ["EXEC"])).2.2 = false ∧
      (((denyingSetup "DEL").node.handle (afterMulti (denyingSetup "DEL") [["SET", "k", "v"], ["DEL", "k"]]) emptyWorld
        (request ["EXEC"])).2.1.keyspace 0).lookup (ascii "k") = some ⟨none, .string (ascii "v")⟩ := by
  decide +kernel

theorem subscribing_session_aborts :
    ((denyingSetup "DEL").node.handle (afterMulti (denyingSetup "DEL") [["SET", "k", "v"], ["DEL", "k"], ["SUBSCRIBE", "c"]]) emptyWorld
      (request ["EXEC"])).2 = (emptyWorld, execAbort) := by
  refine (exec_aborts_iff (denyingSetup "DEL").node rfl rfl emptyWorld ?_ rfl).mpr (.inr ⟨?_, ?_⟩) ?_ <;> decide +kernel

end Kore.Proofs.TransactionAbort
