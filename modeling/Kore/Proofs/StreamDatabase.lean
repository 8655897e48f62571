import Kore.Foundation.Runs
import Kore.Proofs.LinkScript
import Kore.Proofs.StreamPublish

/-! On which database a replica executes the commands of the stream. The primary writes
a `SELECT` only when the stream's database changes, while every link starts on database
zero, so what matters is the stream's cursor at the point where the replica attaches. -/

namespace Kore.Proofs.StreamDatabase
open Foundation Protocol Commands Persistence List ReplicationManager
open BacklogWindow CursorLog LinkScript ReplicaHandshake ReplicaLink RespFraming StreamFrames StreamPublish

abbrev StreamItem := CursorItem UInt64 LoggedCommand

def itemArgv : StreamItem → Argv
  | .select db => selectArgv db
  | .entry command => command.argv

def encodeItems (items : List StreamItem) : Bytes := encodeAll (items.map itemArgv)

/-- A primary with the history of its stream: the items it wrote to it, and the writes it
published with the database on which it executed each of them. -/
structure Publisher where
  manager : ReplicationManager
  stream : Bytes
  items : List StreamItem
  executed : List (UInt64 × LoggedCommand)

inductive PublisherOp (databases : Nat) where
  | write (db : UInt64) (served : db.toNat < databases) (command : LoggedCommand)
  | register (host : Option String) (port : Option Nat)
  | release (channel : Nat)

namespace Publisher
variable {databases : Nat}

def new (replid : ReplId) (capacity : Nat) : Publisher := ⟨.new replid capacity, [], [], []⟩

def write (publisher : Publisher) (db : UInt64) (command : LoggedCommand) : Publisher :=
  if publisher.manager.needsStreamPublish then
    { manager := publisher.manager.propagateWrite db.toNat command.argv.args
      stream := publisher.stream ++ publisher.manager.payload db.toNat (encodeCommand command.argv.args)
      items := publisher.items ++
        if ReplBacklog.emitsSelect publisher.manager.backlog.selectedDb db.toNat then [.select db, .entry command]
        else [.entry command]
      executed := publisher.executed ++ [(db, command)] }
  else { publisher with manager := publisher.manager.propagateWrite db.toNat command.argv.args }

def step (publisher : Publisher) : PublisherOp databases → Publisher
  | .write db _ command => publisher.write db command
  | .register host port => { publisher with manager := publisher.manager.registerReplicaAnnounced host port }
  | .release channel =>
    { publisher with manager := { publisher.manager with
        channels := fun other =>
          if other = channel then { publisher.manager.channels other with receiving := false }
          else publisher.manager.channels other } }

end Publisher

/-- Where a replica attaches: with a snapshot of the present, or at a command boundary
that the backlog still covers, before the offsets saturate. -/
inductive AttachPoint (publisher : Publisher) where
  | full (rdb : Bytes) (small : rdb.length ≤ maxBulkLength)
  | resume (front back : List StreamItem) (boundary : publisher.items = front ++ back)
      (covered : publisher.manager.backlog.canPartial (encodeItems front).length = true)
      (small : publisher.stream.length ≤ u64Max)

namespace AttachPoint
variable {publisher : Publisher}

def skipped : AttachPoint publisher → List StreamItem
  | full _ _ => publisher.items
  | resume front _ _ _ _ => front

def response : AttachPoint publisher → Bytes
  | full rdb _ => publisher.manager.psyncResponse (ascii "?") (-1) rdb
  | resume front _ _ _ _ => publisher.manager.psyncResponse publisher.manager.replid.text (encodeItems front).length []

end AttachPoint

/-- Commands executed since the link was opened or its snapshot installed. -/
abbrev Trace := List (Nat × List Bytes)

def record (trace : Trace) (db : Nat) (argv : List Bytes) : Option Trace := some (trace ++ [(db, argv)])

def emptySnapshot (_ : Bytes) : Option Trace := some []

/-- The trace of a replica that attaches and reads everything the primary sends. -/
def executedBy (databases : Nat) (chunks : List Bytes) : Trace :=
  (feedAll databases record emptySnapshot ⟨[], 0, []⟩ (some .start) chunks).1.dataset

def traceOf (executed : List (UInt64 × LoggedCommand)) : Trace :=
  executed.map fun write => (write.1.toNat, write.2.argv.args)

def isEntry : StreamItem → Bool
  | .entry _ => true
  | .select _ => false

/-- The history of a publisher agrees with its backlog and its selected database. -/
structure Recorded (databases : Nat) (publisher : Publisher) (remembered : Option UInt64) : Prop where
  stream : publisher.stream = encodeItems publisher.items
  window : publisher.stream.length ≤ u64Max → Window publisher.stream publisher.manager.backlog
  bounded : publisher.manager.backlog.endOffset ≤ u64Max
  offset : publisher.manager.masterReplOffset = publisher.manager.backlog.endOffset
  counted : publisher.manager.connectedReplicas = publisher.manager.replicas.length
  selected : publisher.manager.backlog.selectedDb = remembered.map UInt64.toNat
  cursor : ∀ db ∈ remembered, cursorAfter 0 publisher.items = db
  untouched : remembered = none → publisher.items = []
  attributed : replay 0 publisher.items = publisher.executed
  served : ∀ db, .select db ∈ publisher.items → db.toNat < databases
  populated : publisher.items ≠ [] → 0 < databases

section publisher
variable {databases : Nat} {publisher : Publisher} {remembered : Option UInt64}

theorem Recorded.write (recorded : Recorded databases publisher remembered) {db : UInt64} (served : db.toNat < databases)
    (command : LoggedCommand) : ∃ after, Recorded databases (publisher.write db command) after := by
  unfold Publisher.write
  cases armed : publisher.manager.needsStreamPublish with
  | false =>
    refine ⟨remembered, ?_⟩
    rw [propagateWrite_cold _ _ _ armed]
    exact recorded
  | true =>
    have step := propagateWrite_published publisher.manager db command armed recorded.counted
    have emitted : (if ReplBacklog.emitsSelect publisher.manager.backlog.selectedDb db.toNat
        then [CursorItem.select db, .entry command] else [.entry command]) = emit remembered 0 db command := by
      rw [recorded.selected, emitsSelect_eq]
      rfl
    have payload : encodeAll (published publisher.manager.backlog.selectedDb db command) =
        encodeItems (emit remembered 0 db command) := by
      rw [← emitted]
      unfold published
      split <;> rfl
    have unknown : remembered = none → db = 0 → cursorAfter 0 publisher.items = 0 := by
      intro unknown _
      rw [recorded.untouched unknown]
      rfl
    obtain ⟨attributed, cursor⟩ := @replay_emit _ _ _ remembered 0 _ db command recorded.cursor unknown
    refine ⟨some db, ?_⟩
    simp only [if_true, emitted]
    rw [payload] at step
    constructor
    · simp only [recorded.stream, payload_eq, payload, encodeItems, map_append, encodeAll_append]
    · intro small
      simp only [payload_eq, payload] at small ⊢
      have window := recorded.window (by rw [length_append] at small; omega)
      rw [step.backlog]
      exact (window.select (some db.toNat)).append small
    · rw [step.backlog]
      exact @append_endOffset { publisher.manager.backlog with selectedDb := some db.toNat } recorded.bounded _
    · exact step.offset
    · exact step.counted
    · rw [step.backlog, append_selectedDb]
      rfl
    · intro last same
      cases same
      rw [cursorAfter_append, cursor]
    · intro absurd
      cases absurd
    · rw [replay_append, recorded.attributed, attributed]
    · intro other member
      rcases mem_append.mp member with earlier | new
      · exact recorded.served other earlier
      · unfold emit at new
        split at new <;> simp at new
        rw [new]
        exact served
    · intro _
      omega

theorem Recorded.step (recorded : Recorded databases publisher remembered) (op : PublisherOp databases) :
    ∃ after, Recorded databases (publisher.step op) after := by
  cases op with
  | write db served command => exact recorded.write served command
  | register host port =>
    refine ⟨remembered, { recorded with counted := ?_ }⟩
    simp [Publisher.step, registerReplicaAnnounced, recorded.counted]
  | release channel => exact ⟨remembered, { recorded with }⟩

theorem Recorded.new (databases : Nat) (replid : ReplId) (capacity : Nat) :
    Recorded databases (Publisher.new replid capacity) none where
  stream := rfl
  window _ := .new capacity
  bounded := Nat.zero_le _
  offset := rfl
  counted := rfl
  selected := rfl
  cursor := by
    intro db member
    cases member
  untouched _ := rfl
  attributed := rfl
  served := by
    intro db member
    cases member
  populated nonempty := (nonempty rfl).elim

variable {ops : List (PublisherOp databases)}

theorem run_recorded (replid : ReplId) (capacity : Nat) :
    ∃ remembered, Recorded databases (run Publisher.step (Publisher.new replid capacity) ops) remembered := by
  refine run_invariant (fun publisher => ∃ remembered, Recorded databases publisher remembered) ?_
    ⟨none, .new databases replid capacity⟩ ops
  rintro publisher op ⟨remembered, recorded⟩
  exact recorded.step op

theorem run_extends : publisher.items <+: (run Publisher.step publisher ops).items := by
  refine run_invariant (fun current : Publisher => publisher.items <+: current.items) ?_ prefix_rfl ops
  intro current op grown
  cases op with
  | write db served command =>
    simp only [Publisher.step, Publisher.write]
    split
    · exact grown.trans (prefix_append _ _)
    · exact grown
  | register host port | release channel => exact grown

end publisher

theorem applyArgv_command {δ : Type} {databases currentDb : Nat} {run : δ → Nat → List Bytes → Option δ} (inside : currentDb < databases)
    (dataset : δ) (command : LoggedCommand) :
    applyArgv databases run dataset currentDb command.argv.args =
      (run dataset currentDb command.argv.args).map fun after => (after, currentDb) := by
  have other : upper (command.argv.args.headD []) ≠ ascii "SELECT" := fun same =>
    command.id.name_not_reserved (mem_cons.mpr (.inl same))
  simp only [applyArgv, other, if_false, inside, or_true, if_true]

theorem applyArgv_entry {databases currentDb : Nat} (inside : currentDb < databases) (trace : Trace) (command : LoggedCommand) :
    applyArgv databases record trace currentDb command.argv.args =
      some (trace ++ [(currentDb, command.argv.args)], currentDb) := applyArgv_command inside trace command

theorem applyArgv_select {δ : Type} {databases : Nat} {run : δ → Nat → List Bytes → Option δ} {db : UInt64}
    (served : db.toNat < databases) (dataset : δ) (currentDb : Nat) :
    applyArgv databases run dataset currentDb (selectArgv db).args = some (dataset, db.toNat) := by
  have select : upper ((selectArgv db).args.headD []) = ascii "SELECT" := by
    change upper (ascii "SELECT") = ascii "SELECT"
    decide
  simp only [applyArgv, select, if_true, selectDb_served served]

section replica
variable {databases : Nat}

/-- A streaming link attributes the commands of the stream as a reader of the items that
starts from the link's database, whatever probes come in between. -/
theorem settle_frames {replica : Replica Trace} (link : ReplicaLink) (cursor : UInt64) {frames : List Argv}
    {items : List StreamItem} (streaming : link.phase = .streaming) (current : link.currentDb = cursor.toNat)
    (inside : items ≠ [] → cursor.toNat < databases) (served : ∀ db, .select db ∈ items → db.toNat < databases)
    (carried : payloads frames = items.map itemArgv) :
    settle databases record emptySnapshot replica link (frames.map Frame.command) =
      some (replica.dataset ++ traceOf (replay cursor items)) := by
  induction frames generalizing replica link cursor items with
  | nil =>
    have empty : items = [] := map_eq_nil_iff.mp carried.symm
    subst empty
    simp [settle, replay, traceOf]
  | cons argv frames ih =>
    rw [map_cons, settle]
    by_cases probe : argv.args = getackArgs
    · have same : argv = getackArgv := Argv.ext probe
      subst same
      simp only [Frame.command, accept_probe replica link streaming]
      exact ih link cursor streaming current inside served (by simpa [payloads, probe] using carried)
    · have head : payloads (argv :: frames) = argv :: payloads frames := by simp [payloads, probe]
      rw [head] at carried
      obtain ⟨item, items, rfl, rfl, later⟩ := map_eq_cons_iff.mp carried.symm
      have remaining : ∀ db, .select db ∈ items → db.toNat < databases := fun db member =>
        served db (mem_cons_of_mem _ member)
      cases item with
      | select db =>
        have target := served db mem_cons_self
        simp only [Frame.command, itemArgv, accept_streamed replica link streaming (select_streamed db), applyArgv_select target]
        exact ih { link with currentDb := db.toNat } db streaming rfl (fun _ => target) remaining later.symm
      | entry command =>
        have target := inside (cons_ne_nil _ _)
        simp only [Frame.command, itemArgv, accept_streamed replica link streaming (logged_streamed command), current,
          applyArgv_entry target]
        rw [ih { link with currentDb := cursor.toNat } cursor streaming rfl (fun _ => target) remaining later.symm]
        simp [replay, traceOf]

theorem codes_command (commands : List Argv) : codes (commands.map Frame.command) = encodeAll commands := by
  simp [codes, encodeAll, Frame.command, Function.comp_def]

theorem itemArgv_streamed (item : StreamItem) : Streamed (itemArgv item) := by
  cases item with
  | select db => exact select_streamed db
  | entry command => exact logged_streamed command

variable {items : List StreamItem}

theorem itemArgv_payloads : payloads (items.map itemArgv) = items.map itemArgv := by
  apply payloads_streamed
  intro argv member
  obtain ⟨item, -, rfl⟩ := mem_map.mp member
  exact itemArgv_streamed item

/-- The frames with which a primary answers `PSYNC` before its stream goes on. -/
def AttachPoint.script {publisher : Publisher} : AttachPoint publisher → List Frame
  | full rdb small => [.line (resyncLine publisher.manager.replid publisher.manager.masterReplOffset) (resyncLine_plain _ _),
      .bulk rdb small]
  | resume .. => [.line (ascii "CONTINUE") (List.all_iff_forall_prop.mp rfl)]

def AttachPoint.backlog {publisher : Publisher} : AttachPoint publisher → List StreamItem
  | full .. => []
  | resume _ back _ _ _ => back

section attach
variable {publisher : Publisher} {remembered : Option UInt64}

variable {attach : AttachPoint publisher}

theorem skipped_backlog : publisher.items = attach.skipped ++ attach.backlog := by
  cases attach with
  | full rdb small => exact (append_nil _).symm
  | resume front back boundary covered small => exact boundary

theorem response_script (recorded : Recorded databases publisher remembered) :
    attach.response = codes attach.script ++ encodeItems attach.backlog := by
  cases attach with
  | full rdb small =>
    simp [AttachPoint.response, psyncResponse, partialHistory, AttachPoint.script,
      AttachPoint.backlog, codes, Frame.line, Frame.bulk, simpleLine, resyncLine, fullresyncHeader,
      encodeItems]
  | resume front back boundary covered small =>
    have named : publisher.manager.replid.text ≠ ascii "?" := by
      intro same
      have length := publisher.manager.replid.length
      rw [same] at length
      exact absurd length (by decide)
    have split : publisher.stream = encodeItems front ++ encodeItems back := by
      rw [recorded.stream, boundary]
      simp [encodeItems]
    obtain ⟨-, history⟩ := (recorded.window small).getFrom covered
    rw [split, drop_left] at history
    have served : publisher.manager.partialHistory publisher.manager.replid.text (encodeItems front).length =
        some (encodeItems back) := by
      simp only [partialHistory, Int.toNat_natCast, covered, if_true, history]
      rw [if_neg (by simp [named])]
    simp only [AttachPoint.response, psyncResponse, served]
    simp [AttachPoint.script, AttachPoint.backlog, codes, Frame.line, simpleLine_continue]

theorem settle_script (recorded : Recorded databases publisher remembered) (attach : AttachPoint publisher)
    {frames : List Argv} {items : List StreamItem} (inside : items ≠ [] → 0 < databases)
    (served : ∀ db, .select db ∈ items → db.toNat < databases) (carried : payloads frames = items.map itemArgv) :
    settle databases record emptySnapshot ⟨[], 0, []⟩ .start (attach.script ++ frames.map Frame.command) =
      some (traceOf (replay 0 items)) := by
  have streams (replica : Replica Trace) (fresh : replica.dataset = []) :
      settle databases record emptySnapshot replica ⟨.streaming, [], 0⟩ (frames.map Frame.command) =
        some (traceOf (replay 0 items)) := by
    rw [settle_frames ⟨.streaming, [], 0⟩ 0 rfl rfl inside served carried, fresh, nil_append]
  cases attach with
  | full rdb small =>
    have bounded : publisher.manager.masterReplOffset ≤ u64Max := recorded.offset ▸ recorded.bounded
    have loaded : emptySnapshot rdb = some [] := rfl
    simp only [AttachPoint.script, cons_append, nil_append, settle, Frame.line, Frame.bulk]
    rw [accept_resync _ .start rfl _ bounded]
    simp only
    rw [accept_rdb _ ⟨.awaitRdb, _, _⟩ rfl loaded]
    exact streams _ rfl
  | resume front back boundary covered small =>
    simp only [AttachPoint.script, cons_append, nil_append, settle, Frame.line]
    rw [accept_continue _ .start rfl]
    exact streams _ rfl

end attach

theorem length_replay (cursor : UInt64) : (replay cursor items).length = items.countP isEntry := by
  induction items generalizing cursor with
  | nil => rfl
  | cons item items ih =>
    cases item with
    | select next => simp [replay, ih, isEntry]
    | entry command => rw [replay, length_cons, ih, countP_cons_of_pos rfl]

theorem traceOf_replay_iff {first second : UInt64} {items : List StreamItem} :
    traceOf (replay first items) = traceOf (replay second items) ↔
      first = second ∨ ∀ command rest, items ≠ .entry command :: rest := by
  constructor
  · intro same
    by_cases free : ∀ command rest, items ≠ .entry command :: rest
    · exact .inr free
    · simp only [not_forall, not_not] at free
      obtain ⟨command, rest, rfl⟩ := free
      exact .inl (UInt64.toNat_inj.mp (congrArg Prod.fst (head_eq_of_cons_eq same)))
  · intro agree
    exact congrArg traceOf (replay_eq_iff.mpr agree)

variable (replid : ReplId) (capacity : Nat) (before after : List (PublisherOp databases)) (host : Option String) (port : Option Nat)

/-- The primary's state when a replica attaches, and after the operations that follow. -/
def attachState : Publisher :=
  run Publisher.step (Publisher.new replid capacity) before

def finalState : Publisher :=
  run Publisher.step (attachState replid capacity before) (.register host port :: after)

/-- A replica executes every command that follows its attach point on the primary's
database exactly when the stream was on database zero there, or goes on with a `SELECT`. -/
theorem attached_databases_iff (attach : AttachPoint (attachState replid capacity before)) (frames : List Argv) (chunks : List Bytes)
    (published : payloads frames = ((finalState replid capacity before after host port).items.drop
      (attachState replid capacity before).items.length).map itemArgv)
    (received : chunks.flatten = attach.response ++ encodeAll frames) :
    executedBy databases chunks =
        traceOf ((finalState replid capacity before after host port).executed.drop (attach.skipped.countP isEntry)) ↔
      cursorAfter 0 attach.skipped = 0 ∨ ∀ command rest,
        (finalState replid capacity before after host port).items.drop attach.skipped.length ≠ .entry command :: rest := by
  set whole := finalState replid capacity before after host port
  obtain ⟨_, recorded⟩ := run_recorded replid capacity
  change Recorded databases (attachState replid capacity before) _ at recorded
  obtain ⟨_, final⟩ := run_recorded replid capacity
  have split : run Publisher.step (Publisher.new replid capacity) (before ++ .register host port :: after) = whole := foldl_append
  rw [split] at final
  obtain ⟨later, grown⟩ := run_extends
  change _ = whole.items at grown
  rw [← grown, drop_left] at published
  have items : whole.items = attach.skipped ++ (attach.backlog ++ later) := by
    rw [← grown, skipped_backlog, append_assoc]
  have expected : whole.executed.drop (attach.skipped.countP isEntry) =
      replay (cursorAfter 0 attach.skipped) (attach.backlog ++ later) := by
    rw [← final.attributed, items, replay_append, ← length_replay 0, drop_left]
  have actual : executedBy databases chunks = traceOf (replay 0 (attach.backlog ++ later)) := by
    have carried : payloads (attach.backlog.map itemArgv ++ frames) = (attach.backlog ++ later).map itemArgv := by
      rw [payloads_append, itemArgv_payloads, published, map_append]
    refine feedAll_script (attach.script ++ (attach.backlog.map itemArgv ++ frames).map Frame.command) ?_
      (settle_script recorded attach ?_ ?_ carried)
    · rw [received, response_script recorded, codes_append, codes_command, encodeAll_append, encodeItems, append_assoc]
    · intro nonempty
      exact final.populated (by rw [items]; simp [nonempty])
    · intro db member
      exact final.served db (by rw [items]; exact mem_append_right _ member)
  rw [expected, actual, items, drop_left, traceOf_replay_iff, eq_comm]

end replica

def writeOn (db : UInt64) (served : db.toNat < 16) (value : String) (short : value.utf8ByteSize ≤ 9) : PublisherOp 16 :=
  .write db served (setCommand "k" value (show 1 ≤ 9 ∧ _ from ⟨by decide, short⟩))

def busyPrimary (db : UInt64) (served : db.toNat < 16) : List (PublisherOp 16) :=
  [.register none none, writeOn db served "v" (show 1 ≤ 9 by decide)]

def fullAttach (publisher : Publisher) : AttachPoint publisher := .full [] (by decide)

/-- What a replica reads that attaches with a snapshot before one more write to `db`. -/
def bytesAfterFull (db : UInt64) (served : db.toNat < 16) : Bytes :=
  (fullAttach (attachState zeroReplid 1024 (busyPrimary db served))).response ++
    encodeItems ((finalState zeroReplid 1024 (busyPrimary db served) [writeOn db served "w" (show 1 ≤ 9 by decide)] none none).items.drop
      (attachState zeroReplid 1024 (busyPrimary db served)).items.length)

/-- The second of two writes to database one carries no `SELECT`, so a replica whose
snapshot was taken between them executes it on database zero. -/
theorem write_after_snapshot_misplaced :
    executedBy 16 [bytesAfterFull 1 (by decide)] = [(0, (setCommand "k" "w" (by decide)).argv.args)] ∧
      traceOf ((finalState zeroReplid 1024 (busyPrimary 1 (by decide)) [writeOn 1 (by decide) "w" (by decide)] none
        none).executed.drop 1) = [(1, (setCommand "k" "w" (by decide)).argv.args)] := by
  decide +kernel

/-- On database zero the same run is faithful. -/
theorem write_after_snapshot_on_zero :
    executedBy 16 [bytesAfterFull 0 (by decide)] =
      traceOf ((finalState zeroReplid 1024 (busyPrimary 0 (by decide)) [writeOn 0 (by decide) "w" (by decide)] none
        none).executed.drop 1) :=
  (attached_databases_iff zeroReplid 1024 (busyPrimary 0 (by decide)) [writeOn 0 (by decide) "w" (by decide)] none none
    (fullAttach _) _ _ (itemArgv_payloads) (append_nil _)).mpr (.inl (by decide +kernel))

end Kore.Proofs.StreamDatabase
