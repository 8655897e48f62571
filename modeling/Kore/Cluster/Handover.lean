import Kore.Foundation.Exchanges
import Kore.Cluster.Operations

/-! The handover of a slot at both ends: votes at the source and the destination, the commit
at the destination and then at the source, and what is undone when that fails. The calls go
over the peer bus and, when that is down, over the client protocol; what becomes of each call
and what the clocks show is an input. -/

set_option linter.dupNamespace false

namespace Kore.Cluster
open Foundation

/-- A text in which an older peer refuses a subcommand that it does not know. -/
def unknownSubcommand (text : String) : Bool := decide ("UNKNOWN SUBCOMMAND".toList <:+: text.toList.map Char.toUpper)

def containsText (text part : String) : Bool := decide (part.toList <:+: text.toList)

/-- The error of a connection. Its text tells what failed, so it is neither the word of a
success nor that of a peer. -/
structure IoFailure where
  text : String
  failure : text ≠ "ok"
  ours : unknownSubcommand text = false

/-- What a process has at hand when it handles a request: two readings of the clock, the save
within the operation and the one of the command handler. -/
structure Handling where
  now : Nat
  later : Nat
  save : Save
  dir : String
  autosave : Save

structure Call where
  fate : Fate IoFailure
  handling : Handling

/-! Requests at the destination. -/

inductive Setslot where
  | migrating (nodeId : String)
  | importing (nodeId : String)
  | stable
  | node (nodeId : String)
  | prepare (nodeId : String)
  | abortPrepare
  | checkPrepare (nodeId : String)
  | commitPrepare (nodeId : String)

variable (network : Network) (cluster : Cluster) (slot : Nat) (handling : Handling) (destNodeId : String)

namespace Cluster

def tryAutosaveNodesConf : Cluster :=
  { cluster with nodesConfDir := (some handling.dir).filter (· ≠ "") }.saveNodesConf handling.autosave

def setslotOperation : Setslot → Cluster × Except String Unit
  | .migrating nodeId => cluster.settled (cluster.setMigrating slot nodeId)
  | .importing nodeId => cluster.settled (cluster.setImporting slot nodeId)
  | .stable => cluster.settled (cluster.setStable slot)
  | .node nodeId => cluster.setNode slot nodeId
  | .prepare nodeId => cluster.setPrepareNode handling.now slot nodeId handling.save
  | .abortPrepare => cluster.abortPrepareNode slot handling.save
  | .checkPrepare nodeId => cluster.checkPrepareValid handling.now handling.later slot nodeId
  | .commitPrepare nodeId => cluster.commitPrepareNode handling.now handling.later slot nodeId handling.save

def handleClusterSetslot (command : Setslot) : Cluster × Except String Unit :=
  if slotCount ≤ slot then (cluster, .error "ERR Invalid or out of range slot")
  else match cluster.setslotOperation slot handling command, command with
    | (cluster, .error text), _ => (cluster, .error s!"ERR {text}")
    | (cluster, .ok ()), .checkPrepare _ => (cluster, .ok ())
    | (cluster, .ok ()), _ => (cluster.tryAutosaveNodesConf handling, .ok ())

def handlePrepare (target : String) (handling : Handling) : Cluster × Except String Unit :=
  cluster.setPrepareNode handling.now slot target handling.save

def handleCommit (target : String) (handling : Handling) : Cluster × Except String Unit :=
  cluster.commitPrepareNode handling.now handling.later slot target handling.save

def handleAbort : Cluster × Except String Unit :=
  cluster.abortPrepareNode slot handling.save

end Cluster

inductive BusRpcError where
  | transport
  | remote (text : String)

def busRpc (call : Call) (handle : Cluster → Handling → Cluster × Except String Unit) (dest : Cluster) :
    Cluster × Except BusRpcError Unit :=
  match exchange call.fate (fun dest => handle dest call.handling) dest with
  | (dest, .failed _) => (dest, .error .transport)
  | (dest, .answered (.error text)) => (dest, .error (.remote text))
  | (dest, .answered (.ok ())) => (dest, .ok ())

def destSetslot (call : Call) (slot : Nat) (command : Setslot) (dest : Cluster) : Cluster × Except String Unit :=
  match exchange call.fate (fun dest => dest.handleClusterSetslot slot call.handling command) dest with
  | (dest, .failed failure) => (dest, .error failure.text)
  | (dest, .answered answer) => (dest, answer)

def ask {α : Type} (fate : Fate IoFailure) (answer : α) : Except String α :=
  match fate with
  | .requestLost failure => .error failure.text
  | .replyLost failure => .error failure.text
  | .delivered => .ok answer

def connectDest (failure : Option IoFailure) : Except String Unit :=
  match failure with
  | some failure => .error failure.text
  | none => .ok ()

def remoteClusterMyid (fate : Fate IoFailure) (dest : Cluster) : Except String String := ask fate dest.myId

/-- The owner that `CLUSTER SLOTS` of the destination shows. -/
def remoteSlotOwnerId (fate : Fate IoFailure) (dest : Cluster) (slot : Nat) : Except String String :=
  match ask fate (dest.ownerOf slot) with
  | .error text => .error text
  | .ok none => .error s!"slot {slot} missing from CLUSTER SLOTS"
  | .ok (some node) => .ok node.id

def verifyRemoteSlotOwner (fate : Fate IoFailure) (dest : Cluster) (slot : Nat) (nodeId : String) : Except String Unit :=
  match remoteSlotOwnerId fate dest slot with
  | .error text => .error text
  | .ok owner => if owner = nodeId then .ok () else .error s!"remote owner is {owner} want {nodeId}"

def stripErrPrefix (text : String) : String :=
  if "ERR ".toList <+: text.toList then String.ofList (text.toList.drop 4) else text

def Cluster.sourceOwnsAs (nodeId : String) : Bool := (cluster.ownerOf slot).any fun node => node.id == nodeId

/-! The votes. -/

structure PrepareCalls where
  injected : Bool
  bus : Call
  connect : Option IoFailure
  myid : Fate IoFailure
  slots : Fate IoFailure
  prepare : Call

def prepareDestVote (calls : PrepareCalls) (slot : Nat) (destNodeId sourceId : String) (dest : Cluster) : Cluster × Except String Unit :=
  if calls.injected then (dest, .error "injected dest PREPARE failure")
  else match busRpc calls.bus (·.handlePrepare slot destNodeId) dest with
    | (dest, .ok ()) => (dest, .ok ())
    | (dest, .error (.remote text)) => (dest, .error s!"dest prepare:{stripErrPrefix text}")
    | (dest, .error .transport) =>
      match connectDest calls.connect with
      | .error text => (dest, .error s!"dest {text}")
      | .ok () =>
        match remoteClusterMyid calls.myid dest with
        | .error text => (dest, .error text)
        | .ok remoteId =>
          if remoteId ≠ destNodeId then (dest, .error s!"dest MYID is {remoteId} want {destNodeId}")
          else
            -- A slot that the destination does not show may still be on its way there.
            let refused := match remoteSlotOwnerId calls.slots dest slot with
              | .ok owner =>
                if owner = destNodeId ∨ owner = sourceId then none
                else some s!"dest reports unexpected owner {owner} for slot {slot} (want source or dest)"
              | .error text => if containsText text "missing" || containsText text "unbound" then none else some s!"dest slots:{text}"
            match refused with
            | some text => (dest, .error text)
            | none =>
              match destSetslot calls.prepare slot (.prepare destNodeId) dest with
              | (dest, .ok ()) => (dest, .ok ())
              | (dest, .error text) => (dest, .error s!"dest prepare:{stripErrPrefix text}")

structure AbortCalls where
  bus : Call
  connect : Option IoFailure
  abort : Call

/-- The callers do not look at the outcome. -/
def abortDestPrepare (calls : AbortCalls) (slot : Nat) (dest : Cluster) : Cluster × Except String Unit :=
  match busRpc calls.bus (·.handleAbort slot) dest with
  | (dest, .ok ()) => (dest, .ok ())
  | (dest, .error (.remote text)) => (dest, .error text)
  | (dest, .error .transport) =>
    match connectDest calls.connect with
    | .error text => (dest, .error text)
    | .ok () =>
      match destSetslot calls.abort slot .abortPrepare dest with
      | (dest, .ok ()) => (dest, .ok ())
      | (dest, .error text) => (dest, .error (stripErrPrefix text))

def abortBoth (save : Save) (calls : AbortCalls) (slot : Nat) (source dest : Cluster) : Cluster × Cluster :=
  ((source.abortPrepareNode slot save).1, (abortDestPrepare calls slot dest).1)

structure RecheckCalls where
  now : Nat
  later : Nat
  connect : Option IoFailure
  myid : Fate IoFailure

/-! The commits. -/

structure CommitTry where
  injected : Bool
  bus : Call
  connect : Option IoFailure
  commit : Call
  node : Call
  verify : Fate IoFailure

section
variable (calls : CommitTry) (slot : Nat) (destNodeId : String) (dest : Cluster)

/-- `COMMITPREPARE`, or `NODE` for a peer that does not know it. -/
def commitOverResp : Cluster × Except String Unit :=
  match destSetslot calls.commit slot (.commitPrepare destNodeId) dest with
  | (dest, .ok ()) => (dest, .ok ())
  | (dest, .error text) =>
    if unknownSubcommand text then destSetslot calls.node slot (.node destNodeId) dest else (dest, .error text)

/-- The fallback of an attempt when the bus is down. -/
def applyDestOverResp : Cluster × Option String :=
  match connectDest calls.connect with
  | .error text => (dest, some s!"connect:{text}")
  | .ok () =>
    match commitOverResp calls slot destNodeId dest with
    | (dest, .error text) => (dest, some text)
    | (dest, .ok ()) =>
      match verifyRemoteSlotOwner calls.verify dest slot destNodeId with
      | .ok () => (dest, none)
      | .error text => (dest, some s!"verify:{text}")

def applyDestNode : Cluster × Option String :=
  if calls.injected then (dest, some "injected dest NODE failure")
  else match busRpc calls.bus (·.handleCommit slot destNodeId) dest with
    | (dest, .ok ()) => (dest, none)
    | (dest, .error (.remote text)) => (dest, some text)
    | (dest, .error .transport) => applyDestOverResp calls slot destNodeId dest

end

def applyDestNodeWithRetry (slot : Nat) (destNodeId : String) : String → List CommitTry → Cluster → Cluster × String
  | lastErr, [], dest => (dest, lastErr)
  | _, calls :: attempts, dest =>
    match applyDestNode calls slot destNodeId dest with
    | (dest, none) => (dest, "ok")
    | (dest, some text) => applyDestNodeWithRetry slot destNodeId text attempts dest

def applySourceNodeWithRetry (slot : Nat) (destNodeId : String) : String → List Handling → Cluster → Cluster × String
  | lastErr, [], source => (source, lastErr)
  | _, handling :: attempts, source =>
    match source.commitPrepareNode handling.now handling.later slot destNodeId handling.save with
    | (source, .ok ()) =>
      if source.sourceOwnsAs slot destNodeId then (source, "ok")
      else applySourceNodeWithRetry slot destNodeId "verify: local owner is not dest after COMMITPREPARE" attempts source
    | (source, .error text) => applySourceNodeWithRetry slot destNodeId text attempts source

structure RollbackTry where
  connect : Option IoFailure
  node : Call
  verify : Fate IoFailure
  importing : Call

/-- One attempt to hand the slot back: `none` is a success. -/
def rollbackDest (calls : RollbackTry) (slot : Nat) (sourceId : String) (dest : Cluster) : Cluster × Option String :=
  match connectDest calls.connect with
  | .error text => (dest, some s!"connect:{text}")
  | .ok () =>
    match destSetslot calls.node slot (.node sourceId) dest with
    | (dest, .error text) => (dest, some text)
    | (dest, .ok ()) =>
      match verifyRemoteSlotOwner calls.verify dest slot sourceId with
      | .error text => (dest, some s!"verify:{text}")
      | .ok () => ((destSetslot calls.importing slot (.importing sourceId) dest).1, none)

def rollbackDestOwnershipToSource (slot : Nat) (sourceId : String) : String → List RollbackTry → Cluster → Cluster × Except String Unit
  | lastErr, [], dest => (dest, .error lastErr)
  | _, calls :: attempts, dest =>
    match rollbackDest calls slot sourceId dest with
    | (dest, none) => (dest, .ok ())
    | (dest, some text) => rollbackDestOwnershipToSource slot sourceId text attempts dest

def summarizeDualEndStatus (sourceNode destNode : String) : String :=
  if sourceNode = "ok" then if destNode = "ok" then "complete" else "partial_dest_node"
  else if destNode = "ok" then "partial_source_node"
  else if "skipped:".toList <+: sourceNode.toList then "partial_dest_node"
  else "partial_both_node"

def nodeSetAttempts : Nat := 3

/-- Everything that the network and the clocks do during one handover. -/
structure Network where
  connect : Option IoFailure
  owner : Fate IoFailure
  clear : Save
  vote : Handling
  prepare : PrepareCalls
  abortPrepare : Save
  abortDest : AbortCalls
  recheck : RecheckCalls
  commits : Vector CommitTry nodeSetAttempts
  sourceCommits : Vector Handling nodeSetAttempts
  rollbacks : Vector RollbackTry nodeSetAttempts
  finalConnect : Option IoFailure
  finalOwner : Fate IoFailure

structure HandoverReport where
  sourceNode : String
  destNode : String
  status : String
  warning : Option String

/-- The votes of both ends; without both there is none. -/
def prepareDualEndNode (source dest : Cluster) :
    (Cluster × Cluster) × Except String Unit :=
  match source.setPrepareNode network.vote.now slot destNodeId network.vote.save with
  | (source, .error text) => ((source, dest), .error s!"source {text}")
  | (source, .ok ()) =>
    match prepareDestVote network.prepare slot destNodeId source.myId dest with
    | (dest, .error text) => (abortBoth network.abortPrepare network.abortDest slot source dest, .error text)
    | (dest, .ok ()) => ((source, dest), .ok ())

def recheckPrepareBeforeCommit (calls : RecheckCalls) (slot : Nat) (destNodeId : String) (source dest : Cluster) :
    Cluster × Except String Unit :=
  match source.checkPrepareValid calls.now calls.later slot destNodeId with
  | (source, .error text) => (source, .error s!"source {text}")
  | (source, .ok ()) =>
    match connectDest calls.connect with
    | .error text => (source, .error s!"dest {text}")
    | .ok () =>
      match remoteClusterMyid calls.myid dest with
      | .error text => (source, .error text)
      | .ok remoteId =>
        if remoteId ≠ destNodeId then (source, .error s!"dest MYID is {remoteId} want {destNodeId} (commit re-check)")
        else (source, .ok ())

variable (source dest : Cluster)

def postCommitVerifyDualEnd : Option String :=
  if !source.sourceOwnsAs slot destNodeId then some "local owner is not dest after dual NODE"
  else match connectDest network.finalConnect with
    | .error text => some s!"remote connect {text}"
    | .ok () =>
      match verifyRemoteSlotOwner network.finalOwner dest slot destNodeId with
      | .ok () => none
      | .error text => some s!"remote {text}"

/-- The source could not commit although the destination has: clients are asked on, and the destination is to hand the slot back. -/
def compensate (report : HandoverReport) : (Cluster × Cluster) × HandoverReport :=
  let (source, warning) := match source.settled (source.setMigrating slot destNodeId) with
    | (source, .ok ()) => (source, s!"source NODE failed after dest owned slot {slot}; left MIGRATING→{destNodeId} for ASK")
    | (source, .error text) => (source, s!"source NODE failed; could not re-assert MIGRATING: {text}")
  match rollbackDestOwnershipToSource slot source.myId "dest rollback not attempted" network.rollbacks.toList dest with
  | (dest, .ok ()) =>
    ((source, dest), { report with
      destNode := "rolled_back"
      status := "rolled_back"
      warning := some (s!"source NODE failed for slot {slot}; dest ownership rolled back to source + IMPORTING — " ++
        "retry CLUSTER RESHARD or FINISH") })
  | (dest, .error text) =>
    ((source, dest), { report with
      warning := some s!"{warning}; dest rollback failed: {text} — run CLUSTER RESHARD FINISH or SETSLOT NODE" })

def commitDualEnd : (Cluster × Cluster) × HandoverReport :=
  let (dest, destNode) := applyDestNodeWithRetry slot destNodeId "dest NODE not attempted" network.commits.toList dest
  let (source, sourceNode) :=
    if destNode = "ok" then applySourceNodeWithRetry slot destNodeId "source NODE not attempted" network.sourceCommits.toList source
    else (source, "skipped:dest NODE incomplete")
  let report := ⟨sourceNode, destNode, summarizeDualEndStatus sourceNode destNode, none⟩
  if destNode = "ok" ∧ sourceNode ≠ "ok" ∧ source.ownsSlot slot = true then compensate network slot destNodeId source dest report
  else ((source, dest), report)

/-- Votes that are left over are cleared, and a success is looked at once more. -/
def closeDualEnd (report : HandoverReport) : (Cluster × Cluster) × HandoverReport :=
  let source := (source.abortPrepareNode slot network.abortPrepare).1
  if report.status ≠ "complete" then ((source, (abortDestPrepare network.abortDest slot dest).1), report)
  else match postCommitVerifyDualEnd network slot destNodeId source dest with
    | none => ((source, dest), report)
    | some reason =>
      ((source, dest),
        { sourceNode := if !source.sourceOwnsAs slot destNodeId then s!"verify:{reason}" else report.sourceNode
          destNode := s!"verify:{reason}"
          status := "partial_verify"
          warning := some (s!"post-commit ownership verify failed for slot {slot}: {reason} — " ++
            "run CLUSTER RESHARD FINISH or SETSLOT NODE") })

def alreadyComplete : Bool :=
  source.sourceOwnsAs slot destNodeId && (connectDest network.connect).isOk &&
    (verifyRemoteSlotOwner network.owner dest slot destNodeId).isOk

def dualEndSetslotNode : (Cluster × Cluster) × HandoverReport :=
  if alreadyComplete network slot destNodeId source dest then
    (((source.abortPrepareNode slot network.clear).1, dest), ⟨"ok", "ok", "complete", none⟩)
  else match prepareDualEndNode network slot destNodeId source dest with
    | (ends, .error text) =>
      (ends, ⟨s!"prepare:{text}", "n/a", s!"failed_prepare:{text}",
        some s!"dual-end NODE prepare failed for slot {slot}: {text} — fix topology then RESHARD FINISH"⟩)
    | ((source, dest), .ok ()) =>
      match recheckPrepareBeforeCommit network.recheck slot destNodeId source dest with
      | (source, .error text) =>
        (abortBoth network.abortPrepare network.abortDest slot source dest,
          ⟨s!"recheck:{text}", "n/a", s!"failed_prepare:recheck:{text}",
            some s!"dual-end NODE commit re-check failed for slot {slot}: {text} — fix topology then RESHARD FINISH"⟩)
      | (source, .ok ()) =>
        let ((source, dest), report) := commitDualEnd network slot destNodeId source dest
        closeDualEnd network slot destNodeId source dest report

end Kore.Cluster
