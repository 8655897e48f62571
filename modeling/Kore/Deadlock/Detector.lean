import Kore.Foundation.DepthFirst
import Kore.Foundation.Iteration
import Kore.Foundation.Text

/-! The deadlock detector of the distributed locks: what it records of locks held and waits,
how it looks for a cycle of waits, how it chooses a victim, and how processes exchange their
graphs. An instant is a number of milliseconds. Hash tables are walked in an arbitrary order. -/

namespace Kore.Deadlock
open Foundation FiniteMap

structure LockInfo where
  resource : String
  clientId : Bytes
  timestamp : Nat
  ttlMs : Nat
  deriving DecidableEq

variable (now : Nat) (held : FiniteMap String LockInfo) (graph : List WaitEdge)

def LockInfo.isExpired (info : LockInfo) : Bool := info.ttlMs < now - info.timestamp

structure WaitEdge where
  waiter : Bytes
  holder : Bytes
  resource : String
  timestamp : Nat
  deriving DecidableEq

def WaitEdge.key (edge : WaitEdge) : Bytes × String × Bytes := (edge.waiter, edge.resource, edge.holder)

inductive DeadlockStatus where
  | noDeadlock
  | deadlock (cycle : List Bytes) (resources : List String)
  deriving DecidableEq

inductive VictimSelectionStrategy where
  | youngest | oldest | fewestLocks
  deriving DecidableEq

structure DeadlockDetector where
  heldLocks : FiniteMap String LockInfo
  waitingFor : FiniteMap Bytes (List LockInfo)
  waitGraph : List WaitEdge
  maxWaitTimeMs : Nat
  autoResolve : Bool
  victimStrategy : VictimSelectionStrategy

def DeadlockDetector.new (maxWaitTimeMs : Nat) (autoResolve : Bool) (victimStrategy : VictimSelectionStrategy) : DeadlockDetector :=
  { heldLocks := ∅, waitingFor := ∅, waitGraph := [], maxWaitTimeMs, autoResolve, victimStrategy }

variable (allClients : Iteration Bytes (List (Bytes × String)))

section Detection

abbrev Adjacency := FiniteMap Bytes (List (Bytes × String))

def addEdge (adjacency : Adjacency) (edge : WaitEdge) : Adjacency :=
  adjacency.insert edge.waiter ((adjacency.lookup edge.waiter).getD [] ++ [(edge.holder, edge.resource)])

def adjacencyOf : Adjacency := graph.foldl addEdge ∅

def neighbors (adjacency : Adjacency) (client : Bytes) : List (Bytes × String) := (adjacency.lookup client).getD []

/-- The recursion of the source has no bound of its own; here `depth` bounds it, and running into the bound is no result. -/
def dfsVisit (depth : Nat) (adjacency : Adjacency) (node : Bytes) (search : DepthFirst.Search Bytes String) :
    Option (Bool × DepthFirst.Search Bytes String) :=
  DepthFirst.visit (neighbors adjacency) depth node search

def findCycleDfs (depth : Nat) (start : Bytes) (adjacency : Adjacency) : Option (Option (List Bytes × List String)) :=
  match dfsVisit depth adjacency start ⟨∅, ∅, [], []⟩ with
  | none => none
  | some (true, search) =>
    match search.path.findIdx? (· == start) with
    | some cycleStart => some (some (search.path.drop cycleStart, search.labels.drop cycleStart))
    | none => some none
  | some (false, _) => some none

def firstCycle (depth : Nat) (adjacency : Adjacency) : List Bytes → Option DeadlockStatus
  | [] => some .noDeadlock
  | start :: rest =>
    match findCycleDfs depth start adjacency with
    | none => none
    | some (some (cycle, resources)) => some (.deadlock cycle resources)
    | some none => firstCycle depth adjacency rest

def detectFromGraph (graph : List WaitEdge) : Option DeadlockStatus :=
  firstCycle (graph.length + 1) (adjacencyOf graph) (allClients.keys (adjacencyOf graph))

end Detection

variable (walk : Iteration Bytes (List LockInfo))

variable (detector : DeadlockDetector)

variable (resource : String)

namespace DeadlockDetector

def cleanupExpiredInto : DeadlockDetector :=
  let expired (resource : String) : Bool :=
    match detector.heldLocks.lookup resource with
    | some info => info.isExpired now
    | none => false
  { detector with
    heldLocks := retain (fun _ info => if info.isExpired now then none else some info) detector.heldLocks
    waitGraph := detector.waitGraph.filter fun edge =>
      !expired edge.resource && decide (now - edge.timestamp < detector.maxWaitTimeMs)
    waitingFor := retain (fun _ waitList =>
      match waitList.filter fun info => !info.isExpired now && !expired info.resource with
      | [] => none
      | kept => some kept) detector.waitingFor }

def detectDeadlock (now : Nat) (detector : DeadlockDetector) : Option DeadlockStatus :=
  detectFromGraph allClients (detector.cleanupExpiredInto now).waitGraph

section Recording

def pushUnseen (state : Finset (Bytes × String × Bytes) × List WaitEdge) (edge : WaitEdge) :
    Finset (Bytes × String × Bytes) × List WaitEdge :=
  if edge.key ∈ state.1 then state else (insert edge.key state.1, state.2 ++ [edge])

def recordLockAcquired (now : Nat) (resource : String) (clientId : Bytes) (ttlMs : Nat)
    (detector : DeadlockDetector) : DeadlockDetector :=
  let waiting :=
    match detector.waitingFor.lookup clientId with
    | none => detector.waitingFor
    | some waitList =>
      match waitList.filter (·.resource ≠ resource) with
      | [] => detector.waitingFor.erase clientId
      | kept => detector.waitingFor.insert clientId kept
  let rewritten := detector.waitGraph.filterMap fun edge =>
    if edge.resource = resource then if edge.waiter = clientId then none else some { edge with holder := clientId }
    else some edge
  let relinked := (walk.entries waiting).flatMap fun (waiter, waitList) =>
    if waiter = clientId then []
    else (waitList.filter (·.resource = resource)).map fun info => ⟨waiter, clientId, resource, info.timestamp⟩
  { detector with
    heldLocks := detector.heldLocks.insert resource ⟨resource, clientId, now, ttlMs⟩
    waitingFor := waiting
    waitGraph := ((rewritten ++ relinked).foldl pushUnseen (∅, [])).2 }

variable (clientId : Bytes)

def recordLockReleased (detector : DeadlockDetector) : DeadlockDetector :=
  match detector.heldLocks.lookup resource with
  | some info =>
    if info.clientId = clientId then
      { detector with
        heldLocks := detector.heldLocks.erase resource
        waitGraph := detector.waitGraph.filter fun edge => !(edge.resource == resource && edge.holder == clientId) }
    else detector
  | none => detector

def recordLockWait (ttlMs : Nat) (detector : DeadlockDetector) : DeadlockDetector :=
  let waiting := detector.waitingFor.insert clientId
    ((detector.waitingFor.lookup clientId).getD [] ++ [⟨resource, clientId, now, ttlMs⟩])
  match detector.heldLocks.lookup resource with
  | some holderInfo =>
    { detector with
      waitingFor := waiting
      waitGraph := detector.waitGraph ++ [⟨clientId, holderInfo.clientId, resource, now⟩] }
  | none => { detector with waitingFor := waiting }

def removeFromWaiting (detector : DeadlockDetector) : DeadlockDetector :=
  { detector with
    waitingFor := detector.waitingFor.erase clientId
    waitGraph := detector.waitGraph.filter (·.waiter ≠ clientId) }

def releaseClientLocks (walk : Iteration String LockInfo) (clientId : Bytes) (detector : DeadlockDetector) :
    List String × DeadlockDetector :=
  let released := ((walk.entries detector.heldLocks).filter (·.2.clientId = clientId)).map Prod.fst
  (released,
    { detector with
      heldLocks := retain (fun _ info => if info.clientId = clientId then none else some info) detector.heldLocks
      waitGraph := detector.waitGraph.filter fun edge =>
        edge.waiter ≠ clientId && edge.holder ≠ clientId && edge.resource ∉ released
      waitingFor := retain (fun _ waitList =>
        match waitList.filter (·.resource ∉ released) with
        | [] => none
        | kept => some kept) (detector.waitingFor.erase clientId) })

end Recording

section Victim

/-- A client of the cycle with the number of its locks and the first and the last time it got one. -/
structure Candidate where
  client : Bytes
  count : Nat
  earliest : Nat
  latest : Nat

def candidate (held : List LockInfo) (client : Bytes) : Option Candidate :=
  match held.filter (·.clientId = client) with
  | [] => none
  | first :: rest =>
    some ⟨client, rest.length + 1, rest.foldl (fun time info => min time info.timestamp) first.timestamp,
      rest.foldl (fun time info => max time info.timestamp) first.timestamp⟩

/-- Keeps the first of the best candidates, or the last one if `prefers` holds between equals. -/
def best (prefers : Candidate → Candidate → Bool) : List Candidate → Option Candidate
  | [] => none
  | first :: rest => some (rest.foldl (fun chosen next => if prefers next chosen then next else chosen) first)

def resolveDeadlock (walk : Iteration String LockInfo) (cycle : List Bytes) (detector : DeadlockDetector) : Option Bytes :=
  if cycle.isEmpty || !detector.autoResolve then none
  else
    let candidates := cycle.filterMap (candidate ((walk.entries detector.heldLocks).map Prod.snd))
    let chosen :=
      match detector.victimStrategy with
      | .youngest => best (fun next chosen => chosen.latest ≤ next.latest) candidates
      | .oldest => best (fun next chosen => next.earliest < chosen.earliest) candidates
      | .fewestLocks => best (fun next chosen =>
          next.count < chosen.count || (next.count == chosen.count && chosen.latest < next.latest)) candidates
    chosen.map (·.client)

end Victim

end DeadlockDetector

section Exchange

structure HeldLockSnapshot where
  resource : String
  clientId : Bytes
  ttlMs : Nat
  heldForMs : Nat
  deriving DecidableEq

structure WaitEdgeSnapshot where
  waiter : Bytes
  holder : Bytes
  resource : String
  waitElapsedMs : Nat
  deriving DecidableEq

structure OrphanWaitSnapshot where
  waiter : Bytes
  resource : String
  waitElapsedMs : Nat
  deriving DecidableEq

/-- Client ids in a snapshot are texts, given here by their bytes. -/
structure DeadlockGraphSnapshot where
  held : List HeldLockSnapshot
  waits : List WaitEdgeSnapshot
  orphanWaits : List OrphanWaitSnapshot
  deriving DecidableEq

def clientIdToString (id : Bytes) : Bytes := lossy id

namespace DeadlockDetector

def exportFromMaps (heldWalk : Iteration String LockInfo) (waitingWalk : Iteration Bytes (List LockInfo)) (now : Nat)
    (detector : DeadlockDetector) : DeadlockGraphSnapshot where
  held := (heldWalk.entries detector.heldLocks).map fun (_, info) =>
    ⟨info.resource, clientIdToString info.clientId, info.ttlMs, now - info.timestamp⟩
  waits := detector.waitGraph.map fun edge =>
    ⟨clientIdToString edge.waiter, clientIdToString edge.holder, edge.resource, now - edge.timestamp⟩
  orphanWaits := (waitingWalk.entries detector.waitingFor).flatMap fun (waiter, waitList) =>
    (waitList.filter fun info => !detector.waitGraph.any fun edge => edge.waiter == waiter && edge.resource == info.resource).map
      fun info => ⟨clientIdToString waiter, info.resource, now - info.timestamp⟩

/-- Local ownership wins; what has run out at export is not revived. -/
def mergeHold (remote : HeldLockSnapshot) : FiniteMap String LockInfo :=
  if remote.resource ∈ held then held
  else if remote.ttlMs - remote.heldForMs = 0 then held
  else held.insert remote.resource ⟨remote.resource, remote.clientId, now, remote.ttlMs - remote.heldForMs⟩

/-- The holder of the resource as far as it is known, else the holder that the edge names. -/
def knownHolder (named : Bytes) : Bytes :=
  match held.lookup resource with
  | some info => info.clientId
  | none => named

def reconcile : List WaitEdge :=
  ((graph.filterMap fun edge =>
    let holder := knownHolder held edge.resource edge.holder
    if holder = edge.waiter then none else some { edge with holder }).foldl pushUnseen (∅, [])).2

def ensureWaiting (maxWaitMs : Nat) (waiter : Bytes) (resource : String) (timestamp : Nat)
    (waiting : FiniteMap Bytes (List LockInfo)) : FiniteMap Bytes (List LockInfo) :=
  if ((waiting.lookup waiter).getD []).any (·.resource == resource) then waiting
  else waiting.insert waiter ((waiting.lookup waiter).getD [] ++ [⟨resource, waiter, timestamp, maxWaitMs⟩])

def edgeExists (waiter holder : Bytes) (resource : String) : Bool :=
  graph.any fun edge => edge.waiter == waiter && edge.holder == holder && edge.resource == resource

/-- An instant in the past, or now where the clock does not reach back so far. -/
def since (elapsed : Nat) : Nat := if elapsed ≤ now then now - elapsed else now

/-- Records a wait on a known holder, unless it is a wait on oneself or already there. -/
def linkWait (waiter holder : Bytes) (resource : String) (elapsed : Nat) (detector : DeadlockDetector) : DeadlockDetector :=
  if holder = waiter then detector
  else if edgeExists detector.waitGraph waiter holder resource then detector
  else
    { detector with
      waitingFor := ensureWaiting detector.maxWaitTimeMs waiter resource (since now elapsed) detector.waitingFor
      waitGraph := detector.waitGraph ++ [⟨waiter, holder, resource, since now elapsed⟩] }

def mergeWait (remote : WaitEdgeSnapshot) : DeadlockDetector :=
  linkWait now remote.waiter (knownHolder detector.heldLocks remote.resource remote.holder) remote.resource remote.waitElapsedMs detector

def mergeOrphan (orphan : OrphanWaitSnapshot) : DeadlockDetector :=
  match detector.heldLocks.lookup orphan.resource with
  | none =>
    { detector with
      waitingFor :=
        ensureWaiting detector.maxWaitTimeMs orphan.waiter orphan.resource (since now orphan.waitElapsedMs) detector.waitingFor }
  | some holderInfo => linkWait now orphan.waiter holderInfo.clientId orphan.resource orphan.waitElapsedMs detector

/-- The edge that a recorded wait asks for and that is in neither list yet. -/
def relinkWait (waiter : Bytes) (relink : List WaitEdge) (info : LockInfo) :
    List WaitEdge :=
  match held.lookup info.resource with
  | none => relink
  | some holderInfo =>
    if holderInfo.clientId = waiter then relink
    else if edgeExists graph waiter holderInfo.clientId info.resource || edgeExists relink waiter holderInfo.clientId info.resource then
      relink
    else relink ++ [⟨waiter, holderInfo.clientId, info.resource, info.timestamp⟩]

def relinkWaiting : DeadlockDetector :=
  { detector with
    waitGraph := detector.waitGraph ++ (walk.entries detector.waitingFor).foldl (fun relink (waiter, waitList) =>
      waitList.foldl (relinkWait detector.heldLocks detector.waitGraph waiter) relink) [] }

def mergeSnapshot (now : Nat) (remote : DeadlockGraphSnapshot) (detector : DeadlockDetector) : DeadlockDetector :=
  let held := remote.held.foldl (mergeHold now) detector.heldLocks
  let reconciled := { detector with heldLocks := held, waitGraph := reconcile held detector.waitGraph }
  let united := remote.waits.foldl (mergeWait now) reconciled
  let linked := remote.orphanWaits.foldl (mergeOrphan now) united
  relinkWaiting walk linked

end DeadlockDetector

end Exchange

end Kore.Deadlock
