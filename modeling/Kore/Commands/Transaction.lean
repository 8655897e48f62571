import Kore.Commands.Dispatch

/-! One connection's way through the dispatcher: the gates in the order in which they are
asked, the transaction commands, and the queue that `EXEC` replays. What lies behind the
gates is a parameter, so that the same connection can be run against any server state. -/

namespace Kore.Commands
open Foundation Protocol Cache

/-- Commands that the dispatcher treats itself, before or after its gates. -/
inductive Control where
  | multi | exec | discard | watch | unwatch
  deriving DecidableEq

inductive CommandClass where
  | handshake
  | control (control : Control)
  | plain
  deriving DecidableEq

def CommandClass.table : List (Bytes × CommandClass) :=
  [(ascii "AUTH", .handshake), (ascii "HELLO", .handshake), (ascii "MULTI", .control .multi), (ascii "EXEC", .control .exec),
    (ascii "DISCARD", .control .discard), (ascii "WATCH", .control .watch), (ascii "UNWATCH", .control .unwatch)]

def CommandClass.ofName (name : Bytes) : CommandClass := (CommandClass.table.lookup name).getD .plain

/-- A command waiting for `EXEC`: control commands and handshakes are never queued. -/
structure Queued where
  name : Bytes
  args : List RespValue
  plain : CommandClass.ofName name = .plain

structure Client where
  selectedDb : Nat
  authenticated : Bool
  asking : Bool
  inMulti : Bool
  executingMulti : Bool
  multiAborted : Bool
  multiQueue : List Queued
  watched : FiniteMap Bytes Nat

/-- Why a gate refuses a command. -/
inductive Denial where
  | noAuth
  | loading
  | aclCommand (name : Bytes)
  | aclKey
  | aclChannel
  | databaseInCluster (name : Bytes)
  | crossSlot
  | clusterDown
  | moved (slot : Nat) (address : Bytes)
  | notServed (slot : Nat)
  | ask (slot : Nat) (address : Bytes)
  | readonly
  | noReplicas

def Denial.text : Denial → Bytes
  | noAuth => ascii "NOAUTH Authentication required"
  | loading => ascii "LOADING Redis is loading the dataset in memory"
  | aclCommand name => ascii "NOPERM this user has no permissions to run the '" ++ lower name ++ ascii "' command"
  | aclKey => ascii "NOPERM this user has no permissions to access one of the keys used as arguments"
  | aclChannel => ascii "NOPERM this user has no permissions to access one of the channels used as arguments"
  | databaseInCluster name => ascii "ERR " ++ name ++ ascii " is not allowed in cluster mode"
  | crossSlot => ascii "CROSSSLOT Keys in request don't hash to the same slot"
  | clusterDown => ascii "CLUSTERDOWN The cluster is down"
  | moved slot address => ascii "MOVED " ++ decimal slot ++ ascii " " ++ address
  | notServed slot => ascii "CLUSTERDOWN Hash slot not served (" ++ decimal slot ++ ascii ")"
  | ask slot address => ascii "ASK " ++ decimal slot ++ ascii " " ++ address
  | readonly => ascii "READONLY You can't write against a read only replica."
  | noReplicas => ascii "NOREPLICAS Not enough good replicas to write."

def Denial.answer (denial : Denial) : Answer := .ok (.error denial.text)

/-- What a connection finds behind it: the checks of its gates, the counters of `WATCH` and
the handlers of all other commands. No handler opens a transaction. -/
structure Node (W : Type) where
  handshake : W → Client → Bytes → List RespValue → W × Bool × Answer
  loading : W → Bool
  checkAclPermission : W → Client → Bytes → List RespValue → Option Denial
  checkClusterRedirect : W → Client → Bytes → List RespValue → Bool → Option Denial
  readonly : W → Bool
  writesAllowed : W → Bool
  watchGeneration : Nat → Bytes → W → W × Nat
  dispatch : Client → W → Bytes → List RespValue → Client × W × Answer
  closed : ∀ client world name args, client.inMulti = false → (dispatch client world name args).1.inMulti = false

def parseRequest : RespValue → Except String (Bytes × List RespValue)
  | .array (head :: args) =>
    match head.asBulkString with
    | some name => .ok (upper name, args)
    | none => .error "ERR invalid command"
  | .array [] => .error "ERR empty command"
  | _ => .error "ERR invalid command format"

def allowedWhileLoading : List Bytes :=
  [ascii "AUTH", ascii "HELLO", ascii "PING", ascii "ECHO", ascii "QUIT", ascii "RESET", ascii "INFO", ascii "COMMAND",
    ascii "ROLE", ascii "REPLCONF", ascii "CLIENT", ascii "CONFIG", ascii "MODULE"]

/-- Words that follow an option of `SORT`, the option included. -/
def sortOptionWidth (option : Bytes) : Nat :=
  if option = ascii "BY" ∨ option = ascii "GET" then 2 else if option = ascii "LIMIT" then 3 else 1

def sortScan : Nat → List RespValue → Bool
  | 0, _ => false
  | _, [] => false
  | fuel + 1, word :: rest =>
    match word.asBulkString with
    | none => sortScan fuel rest
    | some option =>
      if upper option = ascii "STORE" then true
      else sortScan fuel ((word :: rest).drop (sortOptionWidth (upper option)))

def sortHasStore (args : List RespValue) : Bool := sortScan args.length args.tail

def isWrite (name : Bytes) (args : List RespValue) : Bool :=
  WriteId.all.any (fun id => ascii id.name == name) || (name == ascii "SORT" && sortHasStore args)

def forbiddenInMulti : List Bytes :=
  [ascii "MULTI", ascii "WATCH", ascii "SUBSCRIBE", ascii "UNSUBSCRIBE", ascii "PSUBSCRIBE", ascii "PUNSUBSCRIBE",
    ascii "SSUBSCRIBE", ascii "SUNSUBSCRIBE"]

def execAbort : Answer := failure "EXECABORT Transaction discarded because of previous errors."

def errorDisplay : Error → Bytes
  | .wrongType => ascii "WRONGTYPE Operation against a key holding the wrong kind of value"
  | .entryTooLarge => ascii "Entry too large"
  | .invalidArgument text => ascii "Invalid argument: " ++ text

def execResult : Answer → RespValue
  | .ok reply => reply
  | .error error => .error (ascii "ERR " ++ errorDisplay error)

namespace Client

def clearWatches (client : Client) : Client := { client with watched := ∅ }

def leaveMulti (client : Client) : Client := { client with inMulti := false, multiAborted := false, multiQueue := [] }

def handleMulti (client : Client) : Client × Answer :=
  if client.inMulti then (client, failure "ERR MULTI calls can not be nested")
  else ({ client with inMulti := true, multiAborted := false, multiQueue := [] }, .ok .ok)

def handleDiscard (client : Client) : Client × Answer :=
  if client.inMulti then (client.leaveMulti.clearWatches, .ok .ok)
  else (client, failure "ERR DISCARD without MULTI")

def queueMultiCommand (client : Client) (command : Queued) : Client × Answer :=
  if command.name ∈ forbiddenInMulti then
    ({ client with multiAborted := true },
      .ok (.error (ascii "ERR command '" ++ command.name ++ ascii "' cannot be used inside MULTI")))
  else ({ client with multiQueue := client.multiQueue ++ [command] }, .ok (.simpleString (ascii "QUEUED")))

end Client

/-- How `EXEC` goes on once it has looked at the transaction: it answers, or it replays the queue. -/
inductive ExecPhase where
  | finished (answer : Answer)
  | replaying (queue : List Queued)

namespace Node
variable {W : Type} (node : Node W)

def gate (client : Client) (world : W) (name : Bytes) (args : List RespValue) : Client × Option Denial :=
  if !client.authenticated then (client, some .noAuth)
  else if node.loading world && !allowedWhileLoading.contains name then (client, some .loading)
  else match node.checkAclPermission world client name args with
    | some denial => (client, some denial)
    | none =>
      -- the flag serves one command, which `ASKING` itself does not use up
      let cleared := { client with asking := client.asking && name == ascii "ASKING" }
      (cleared, node.checkClusterRedirect world cleared name args client.asking)

def writeDenial (world : W) (name : Bytes) (args : List RespValue) : Option Denial :=
  if isWrite name args then
    if node.readonly world then some .readonly
    else if !node.writesAllowed world then some .noReplicas
    else none
  else none

variable (client : Client) (world : W)

/-- A command that is no control command and has passed the first gates. -/
def handleAdmitted (command : Queued) : Client × W × Answer :=
  match node.writeDenial world command.name command.args with
  | some denial => (client, world, denial.answer)
  | none =>
    if client.inMulti && !client.executingMulti then
      let (client, answer) := client.queueMultiCommand command
      (client, world, answer)
    else node.dispatch client world command.name command.args

def handlePlain (command : Queued) : Client × W × Answer :=
  match node.gate client world command.name command.args with
  | (client, some denial) => (client, world, denial.answer)
  | (client, none) => node.handleAdmitted client world command

def watchAll (client : Client) (world : W) : List RespValue → Client × W × Answer
  | [] => (client, world, .ok .ok)
  | arg :: args =>
    match arg.asBulkString with
    | none => (client, world, failure "ERR invalid key")
    | some key =>
      let (world, generation) := node.watchGeneration client.selectedDb key world
      let watched := if client.watched.lookup key = none then client.watched.insert key generation else client.watched
      watchAll { client with watched } world args

def handleWatch (args : List RespValue) : Client × W × Answer :=
  if client.inMulti then (client, world, failure "ERR WATCH inside MULTI is not allowed")
  else if args.isEmpty then (client, world, failure "ERR wrong number of arguments for 'watch' command")
  else node.watchAll client world args

def isWatchDirty : Prop :=
  ∃ key generation, client.watched.lookup key = some generation ∧
    (node.watchGeneration client.selectedDb key world).2 ≠ generation

instance : Decidable (node.isWatchDirty client world) :=
  decidable_of_iff (∃ key ∈ client.watched.keys,
      (client.watched.lookup key).any fun generation => (node.watchGeneration client.selectedDb key world).2 ≠ generation) <| by
    simp only [isWatchDirty, Option.any_eq_true, decide_eq_true_eq, Finmap.mem_keys, Finmap.mem_iff]
    exact ⟨fun ⟨key, _, generation, found, differs⟩ => ⟨key, generation, found, differs⟩,
      fun ⟨key, generation, found, differs⟩ => ⟨key, ⟨generation, found⟩, generation, found, differs⟩⟩

def execBegin (client : Client) (world : W) : Client × ExecPhase :=
  if !client.inMulti then (client, .finished (failure "ERR EXEC without MULTI"))
  else if client.multiAborted then (client.leaveMulti.clearWatches, .finished execAbort)
  else if node.isWatchDirty client.leaveMulti world then (client.leaveMulti.clearWatches, .finished (.ok .nil))
  else ({ client.leaveMulti with executingMulti := true }, .replaying client.multiQueue)

def execStep (state : Client × W × List RespValue) (command : Queued) : Client × W × List RespValue :=
  let (client, world, answer) := node.handlePlain state.1 state.2.1 command
  (client, world, state.2.2 ++ [execResult answer])

def execEnd (client : Client) : Client := ({ client with executingMulti := false } : Client).clearWatches

def handleExec (client : Client) (world : W) : Client × W × Answer :=
  match node.execBegin client world with
  | (client, .finished answer) => (client, world, answer)
  | (client, .replaying queue) =>
    let (client, world, results) := queue.foldl node.execStep (client, world, [])
    (execEnd client, world, .ok (.array results))

def handleControl (client : Client) (world : W) (args : List RespValue) : Control → Client × W × Answer
  | .multi => (client.handleMulti.1, world, client.handleMulti.2)
  | .exec => node.handleExec client world
  | .discard => (client.handleDiscard.1, world, client.handleDiscard.2)
  | .watch => node.handleWatch client world args
  | .unwatch => (client.clearWatches, world, .ok .ok)

def handle (client : Client) (world : W) (request : RespValue) : Client × W × Answer :=
  match parseRequest request with
  | .error text => (client, world, failure text)
  | .ok (name, args) =>
    match kind : CommandClass.ofName name with
    | .handshake =>
      let (world, authenticated, answer) := node.handshake world client name args
      ({ client with authenticated }, world, answer)
    | .control control =>
      match node.gate client world name args with
      | (client, some denial) => (client, world, denial.answer)
      | (client, none) => node.handleControl client world args control
    | .plain => node.handlePlain client world ⟨name, args, kind⟩

variable {node} {client : Client} {world : W} {request : RespValue} {name : Bytes} {args : List RespValue}

theorem handle_malformed {text : String} (parsed : parseRequest request = .error text) :
    node.handle client world request = (client, world, failure text) := by
  unfold handle
  rw [parsed]

section
variable (parsed : parseRequest request = .ok (name, args))
include parsed

theorem handle_handshake (kind : CommandClass.ofName name = .handshake) : node.handle client world request =
      ({ client with authenticated := (node.handshake world client name args).2.1 }, (node.handshake world client name args).1,
        (node.handshake world client name args).2.2) := by
  unfold handle
  rw [parsed]
  dsimp only
  split <;> rename_i seen <;> first | rfl | (rw [kind] at seen; cases seen)

theorem handle_control {control : Control} (kind : CommandClass.ofName name = .control control) :
    node.handle client world request =
      match node.gate client world name args with
      | (client, some denial) => (client, world, denial.answer)
      | (client, none) => node.handleControl client world args control := by
  unfold handle
  rw [parsed]
  dsimp only
  split <;> rename_i seen <;> rw [kind] at seen <;> cases seen
  rfl

theorem handle_plain (kind : CommandClass.ofName name = .plain) :
    node.handle client world request = node.handlePlain client world ⟨name, args, kind⟩ := by
  unfold handle
  rw [parsed]
  dsimp only
  split <;> rename_i seen <;> first | rfl | (rw [kind] at seen; cases seen)

end

end Node
end Kore.Commands
