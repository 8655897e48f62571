import Kore.Persistence.ReplicationSystem
import Kore.Proofs.ReplicaHandshake
import Kore.Proofs.StreamPublish

/-! Offsets of one primary and one replica over whole runs: writes, probes, reads cut at
any byte, lost connections and resyncs. The replica's offset counts exactly the stream
bytes that its dataset reflects, as long as no probe is read off the link and every full
resync is read together with its snapshot. -/

namespace Kore.Proofs.ReplicationOffsets
open Foundation Protocol Commands Persistence List ReplicationSystem ReplicaLink ReplicationManager RespValue Channel
open BacklogWindow ReplicaHandshake RespFraming StreamFrames StreamPublish

variable {δ : Type} {databases : Nat} {apply : δ → Nat → List Bytes → Option δ} {load : Bytes → Option δ}
variable {before after : ReplicationManager} {channel count : Nat} {frames left finished reflected rest : List Argv}
  {system : ReplicationSystem δ} {connection : Connection} {replica : Replica δ} {future rdb : Bytes}

/-- The replica's offset is the number of stream bytes that its dataset reflects, nothing
beyond them was acknowledged, and a partial resync would resume at the first other byte. -/
structure OffsetsExact (system : ReplicationSystem δ) : Prop where
  bounded : system.replica.replicaOffset ≤ system.primary.masterReplOffset
  exact : system.replica.replicaOffset = system.applied.length
  reflected : system.applied <+: system.stream
  acknowledged : ∀ offset ∈ system.acknowledged, offset ≤ system.applied.length
  resumes : ∀ history, system.primary.partialHistory (psyncRequest system.replica).1
    (psyncRequest system.replica).2 = some history → system.stream = system.applied ++ history

/-- The buffered bytes complete a snapshot, and it loads. -/
def completesSnapshot (load : Bytes → Option δ) (buffer : Bytes) : Bool :=
  match parseWithConsumed buffer with
  | .value (.bulkString (some data)) _ _ => (load data).isSome
  | _ => false

/-- If the buffered bytes complete the header of a full resync, they also complete its
snapshot, and the snapshot loads. -/
def completesResync (load : Bytes → Option δ) (phase : LinkPhase) (buffer : Bytes) : Bool :=
  match phase, parseWithConsumed buffer with
  | .awaitReply, .value (.simpleString line) _ rest =>
    if ascii "FULLRESYNC " <+: line then
      match parseWithConsumed rest with
      | .value (.bulkString (some data)) _ _ => (load data).isSome
      | _ => false
    else true
  | _, _ => true

/-- The stream stays below 64-bit offsets; a read completes no probe, and completes no
full resync by halves. -/
def Undisturbed (databases : Nat) (apply : δ → Nat → List Bytes → Option δ) (load : Bytes → Option δ)
    (system : ReplicationSystem δ) : ReplicationEvent → Prop
  | .write db command => (system.write db.toNat command).stream.length ≤ u64Max
  | .read count =>
    ∀ connection ∈ system.connection,
      completesResync load connection.link.phase (connection.link.buffer ++ connection.wire.take count) = true ∧
        ∀ handled ∈ (feed databases apply load system.replica connection.link (connection.wire.take count)).2.2,
          ackOffset handled = none
  | _ => True

/-- The frames that a feed still carries are the commands to come, up to a possible loss
of the feed, with probes in between. -/
structure Follows (primary : ReplicationManager) (channel : Nat) (frames left : List Argv) : Prop where
  known : ∀ argv ∈ frames, Streamed argv ∨ argv = getackArgv
  order : payloads frames <+: left
  whole : Registered primary channel → payloads frames = left

def pending (primary : ReplicationManager) (connection : Connection) (channel : Nat) : Bytes :=
  connection.link.buffer ++ (connection.wire ++ (primary.channels channel).queue.flatten)

/-- The stages of a connection to a replica that reflects `finished` of `finished ++ left`. -/
inductive Conveys (system : ReplicationSystem δ) (finished left : List Argv) (connection : Connection) : Prop
  | unserved (unregistered : connection.channel = none) (fresh : connection.link = .start) (silent : connection.wire = [])
      (request : connection.request = psyncRequest system.replica)
  | continuing (channel : Nat) (frames : List Argv) (served : connection.channel = some channel)
      (issued : channel < system.primary.nextChannel) (phase : connection.link.phase = .awaitReply)
      (bytes : pending system.primary connection channel = simpleLine (ascii "CONTINUE") ++ encodeAll frames)
      (follows : Follows system.primary channel frames left)
  | resyncing (channel : Nat) (frames reflected rest : List Argv) (rdb : Bytes) (served : connection.channel = some channel)
      (issued : channel < system.primary.nextChannel) (phase : connection.link.phase = .awaitReply)
      (bytes : pending system.primary connection channel =
        simpleLine (resyncLine system.primary.replid (encodeAll reflected).length) ++ (bulk rdb ++ encodeAll frames))
      (same : finished ++ left = reflected ++ rest) (snapshot : connection.snapshot = encodeAll reflected)
      (follows : Follows system.primary channel frames rest)
  | streaming (channel : Nat) (frames : List Argv) (served : connection.channel = some channel)
      (issued : channel < system.primary.nextChannel) (phase : connection.link.phase = .streaming)
      (bytes : pending system.primary connection channel = encodeAll frames)
      (follows : Follows system.primary channel frames left)

/-- The stream is `finished ++ left`, of which the replica reflects `finished`. -/
structure History (finished left : List Argv) (system : ReplicationSystem δ) : Prop where
  streamed : ∀ argv ∈ finished ++ left, Streamed argv
  stream : system.stream = encodeAll (finished ++ left)
  applied : system.applied = encodeAll finished
  window : Window system.stream system.primary.backlog
  offset : system.primary.masterReplOffset = system.stream.length
  small : system.stream.length ≤ u64Max
  counted : system.primary.connectedReplicas = system.primary.replicas.length
  issued : ∀ feed ∈ system.primary.replicas, feed.channel < system.primary.nextChannel
  exact : system.replica.replicaOffset = system.applied.length
  replid : system.replica.cachedMasterReplid = [] ∨ system.replica.cachedMasterReplid = system.primary.replid.text
  unacknowledged : system.acknowledged = []
  conveys : ∀ connection, system.connection = some connection → Conveys system finished left connection

/-- What a step of the primary appends to a feed: nothing, probes only, or the commands
that it also appends to the stream. -/
structure Extends (before after : ReplicationManager) (channel : Nat) (more extra : List Argv) : Prop where
  known : ∀ argv ∈ more, Streamed argv ∨ argv = getackArgv
  carried : payloads more = [] ∨ Registered before channel ∧ payloads more = extra
  whole : Registered after channel → Registered before channel ∧ payloads more = extra

variable {extra : List Argv}

theorem Follows.extend {more : List Argv}
    (follows : Follows before channel frames left) (extended : Extends before after channel more extra) :
    Follows after channel (frames ++ more) (left ++ extra) where
  known argv member := by
    rcases mem_append.mp member with front | back
    · exact follows.known argv front
    · exact extended.known argv back
  order := by
    rw [payloads_append]
    rcases extended.carried with nothing | ⟨registered, all⟩
    · rw [nothing, append_nil]
      exact follows.order.trans (prefix_append _ _)
    · rw [follows.whole registered, all]
  whole registered := by
    obtain ⟨earlier, all⟩ := extended.whole registered
    rw [payloads_append, follows.whole earlier, all]

variable {next : Connection}

theorem Conveys.extend {after : ReplicationSystem δ}
    (conveys : Conveys system finished left connection) (replica : after.replica = system.replica)
    (replid : after.primary.replid = system.primary.replid)
    (issued : system.primary.nextChannel ≤ after.primary.nextChannel)
    (link : next.link = connection.link) (channel : next.channel = connection.channel)
    (request : next.request = connection.request) (snapshot : next.snapshot = connection.snapshot)
    (silent : connection.channel = none → next.wire = connection.wire)
    (grown : ∀ channel, connection.channel = some channel → ∃ more, Extends system.primary after.primary channel more extra ∧
      pending after.primary next channel = pending system.primary connection channel ++ encodeAll more) :
    Conveys after finished (left ++ extra) next := by
  cases conveys with
  | unserved unregistered fresh quiet asked =>
    exact .unserved (channel.trans unregistered) (link.trans fresh) ((silent unregistered).trans quiet)
      (by rw [request, asked, replica])
  | continuing number frames served known phase bytes follows =>
    obtain ⟨more, extended, added⟩ := grown number served
    refine .continuing number (frames ++ more) (channel.trans served) (known.trans_le issued) (by rw [link, phase]) ?_
      (follows.extend extended)
    rw [added, bytes, encodeAll_append, append_assoc]
  | resyncing number frames reflected rest rdb served known phase bytes same taken follows =>
    obtain ⟨more, extended, added⟩ := grown number served
    refine .resyncing number (frames ++ more) reflected (rest ++ extra) rdb (channel.trans served) (known.trans_le issued)
      (by rw [link, phase]) ?_ (by rw [← append_assoc, same, append_assoc]) (snapshot.trans taken)
      (follows.extend extended)
    rw [added, bytes, encodeAll_append]
    simp only [resyncLine, replid, append_assoc]
  | streaming number frames served known phase bytes follows =>
    obtain ⟨more, extended, added⟩ := grown number served
    refine .streaming number (frames ++ more) (channel.trans served) (known.trans_le issued) (by rw [link, phase]) ?_
      (follows.extend extended)
    rw [added, bytes, encodeAll_append]

theorem Conveys.keep {after : ReplicationSystem δ}
    (conveys : Conveys system finished left connection) (replica : after.replica = system.replica)
    (replid : after.primary.replid = system.primary.replid) (replicas : after.primary.replicas = system.primary.replicas)
    (issued : after.primary.nextChannel = system.primary.nextChannel)
    (link : next.link = connection.link) (channel : next.channel = connection.channel)
    (request : next.request = connection.request) (snapshot : next.snapshot = connection.snapshot)
    (silent : connection.channel = none → next.wire = connection.wire)
    (grown : ∀ channel, connection.channel = some channel → ∃ more, more ⊆ [getackArgv] ∧
      pending after.primary next channel = pending system.primary connection channel ++ encodeAll more) :
    Conveys after finished left next := by
  rw [← append_nil left]
  refine conveys.extend replica replid issued.ge link channel request snapshot silent ?_
  intro number served
  obtain ⟨more, probes, added⟩ := grown number served
  have only (argv : Argv) (member : argv ∈ more) : argv = getackArgv := mem_singleton.mp (probes member)
  have none_ : payloads more = [] := by
    apply filter_eq_nil_iff.mpr
    intro argv member
    rw [only argv member]
    decide
  refine ⟨more, ⟨fun argv member => .inr (only argv member), .inl none_, ?_⟩, added⟩
  rintro ⟨feed, member, same⟩
  exact ⟨⟨feed, replicas ▸ member, same⟩, none_⟩

private theorem pending_send {data : Bytes}
    (sent : after.channels channel = (before.channels channel).send data) :
    pending after connection channel = pending before connection channel ++ data := by
  simp [pending, sent, send]

private theorem pending_same
    (same : (after.channels channel).queue = (before.channels channel).queue) :
    pending after connection channel = pending before connection channel := by
  simp only [pending, same]

theorem write_cold (db : Nat) (command : LoggedCommand) (cold : system.primary.needsStreamPublish = false) :
    system.write db command = system := by
  simp [write, propagateWrite_cold, cold]

theorem write_stream (db : UInt64) (command : LoggedCommand) (armed : system.primary.needsStreamPublish) :
    (system.write db.toNat command).stream = system.stream ++ encodeAll (published system.primary.backlog.selectedDb db command) := by
  simp only [write, armed, if_true, payload_eq]

/-- Each feed gets what is appended to the stream, or is dropped. -/
theorem published_extends {db : Nat} {news : List Argv} (step : Published before after db (encodeAll news))
    (streamed : ∀ argv ∈ news, Streamed argv) :
    ∃ more, Extends before after channel more news ∧ pending after connection channel = pending before connection channel ++ encodeAll more := by
  rcases step.channels channel with ⟨registered, sent⟩ | ⟨dropped, same⟩
  · obtain ⟨feed, member, number⟩ := registered
    have earlier : Registered before channel := ⟨feed, step.kept feed member, number⟩
    exact ⟨news, ⟨fun argv member => .inl (streamed argv member), .inr ⟨earlier, payloads_streamed streamed⟩,
      fun _ => ⟨earlier, payloads_streamed streamed⟩⟩, pending_send sent⟩
  · refine ⟨[], ⟨fun _ missing => absurd missing not_mem_nil, .inl rfl, fun registered => (dropped registered).elim⟩, ?_⟩
    rw [encodeAll_nil, append_nil]
    exact pending_same (congrArg queue same)

theorem History.write (history : History finished left system)
    (db : UInt64) (command : LoggedCommand) (armed : system.primary.needsStreamPublish)
    (small : (system.write db.toNat command).stream.length ≤ u64Max) :
    History finished (left ++ published system.primary.backlog.selectedDb db command) (system.write db.toNat command) := by
  have step := propagateWrite_published system.primary db command armed history.counted
  have grown := write_stream db command armed
  rw [grown] at small
  have window := (history.window.select (some db.toNat)).append small
  have streamed : ∀ argv ∈ published system.primary.backlog.selectedDb db command, Streamed argv := fun argv => published_streamed
  constructor
  · intro argv member
    rw [← append_assoc] at member
    rcases mem_append.mp member with earlier | later
    · exact history.streamed argv earlier
    · exact streamed argv later
  · simp only [grown, history.stream, encodeAll_append, append_assoc]
  · exact history.applied
  · rw [grown]
    exact step.backlog ▸ window
  · rw [grown]
    exact step.offset.trans (step.backlog ▸ window.ends)
  · rwa [grown]
  · exact step.counted
  · intro feed member
    exact step.nextChannel.symm ▸ history.issued feed (step.kept feed member)
  · exact history.exact
  · exact history.replid.imp_right (·.trans (congrArg ReplId.text step.replid.symm))
  · exact history.unacknowledged
  · intro connection open_
    refine (history.conveys connection open_).extend rfl step.replid step.nextChannel.ge rfl rfl rfl rfl (fun _ => rfl) ?_
    exact fun channel _ => published_extends step streamed

/-- A step that leaves the stream, the replica and the feeds' registration alone. -/
private theorem History.quiet {after : ReplicationSystem δ}
    (history : History finished left system) (channels : Nat → Channel)
    (primary : after.primary = { system.primary with channels := channels }) (replica : after.replica = system.replica)
    (stream : after.stream = system.stream) (applied : after.applied = system.applied)
    (acknowledged : after.acknowledged = system.acknowledged)
    (conveys : ∀ connection, after.connection = some connection → Conveys after finished left connection) :
    History finished left after where
  streamed := history.streamed
  stream := stream.trans history.stream
  applied := applied.trans history.applied
  window := by rw [stream, primary]; exact history.window
  offset := by rw [stream, primary]; exact history.offset
  small := by rw [stream]; exact history.small
  counted := by rw [primary]; exact history.counted
  issued := by rw [primary]; exact history.issued
  exact := by rw [replica, applied]; exact history.exact
  replid := by rw [replica, primary]; exact history.replid
  unacknowledged := acknowledged.trans history.unacknowledged
  conveys := conveys

private theorem getack_encoded : (commandValue getackArgs).serialize = encodeAll [getackArgv] := by
  decide

namespace History
variable (history : History finished left system)
include history

theorem probe (host : Option String) (port : Option Nat) :
    History finished left { system with primary := system.primary.sendGetackProbeToFeeds host port } := by
  refine history.quiet _ rfl rfl rfl rfl rfl ?_
  intro connection open_
  refine (history.conveys connection open_).keep rfl rfl rfl rfl rfl rfl rfl rfl (fun _ => rfl) ?_
  intro channel _
  by_cases hit : ((system.primary.replicas.any fun feed => feed.channel == channel &&
      probeMatches host port feed) && (system.primary.channels channel).accepts) = true
  · refine ⟨[getackArgv], List.Subset.refl _, ?_⟩
    rw [← getack_encoded]
    exact pending_send (if_pos hit)
  · refine ⟨[], nil_subset _, ?_⟩
    rw [encodeAll_nil, append_nil]
    exact pending_same (congrArg queue (if_neg hit))

theorem release (channels : Nat → Channel) (same : ∀ channel, (channels channel).queue = (system.primary.channels channel).queue) :
    History finished left { system with primary := { system.primary with channels := channels } } := by
  refine history.quiet _ rfl rfl rfl rfl rfl ?_
  intro connection open_
  refine (history.conveys connection open_).keep rfl rfl rfl rfl rfl rfl rfl rfl (fun _ => rfl) ?_
  intro channel _
  refine ⟨[], nil_subset _, ?_⟩
  rw [encodeAll_nil, append_nil]
  exact pending_same (same channel)

theorem deliver :
    History finished left system.deliver := by
  unfold ReplicationSystem.deliver
  split
  next request channel wire link snapshot open_ =>
    split
    · exact history
    next data rest queued =>
      refine history.quiet _ rfl rfl rfl rfl rfl ?_
      intro next same
      cases same
      refine (history.conveys _ open_).keep rfl rfl rfl rfl rfl rfl rfl rfl (fun absent => by cases absent) ?_
      intro other served
      cases served
      exact ⟨[], nil_subset _, by simp [pending, queued]⟩
  · exact history

theorem connect :
    History finished left system.connect := by
  unfold ReplicationSystem.connect
  split
  · exact history
  · refine history.quiet _ rfl rfl rfl rfl rfl ?_
    intro connection same
    cases same
    exact .unserved rfl rfl rfl rfl

theorem disconnect :
    History finished left { system with connection := none } := by
  refine history.quiet _ rfl rfl rfl rfl rfl ?_
  intro connection same
  cases same

/-- A partial resync continues with exactly the commands that the replica lacks. -/
theorem partial_eq {past : Bytes} (found : system.primary.partialHistory (psyncRequest system.replica).1
      (psyncRequest system.replica).2 = some past) : past = encodeAll left := by
  have small : system.replica.replicaOffset ≤ u64Max := by
    refine le_trans ?_ history.small
    rw [history.exact, history.applied, history.stream, encodeAll_append, length_append]
    exact Nat.le_add_right _ _
  unfold partialHistory at found
  split at found
  · cases found
  next wanted =>
    simp only [not_or, not_lt] at wanted
    obtain ⟨identified, nonnegative, -⟩ := wanted
    unfold psyncRequest at found identified nonnegative
    split at found
    next unknown => simp [unknown] at identified
    next known =>
      simp only [known, if_false] at nonnegative
      have requested : (if system.replica.replicaOffset ≤ i64Max then (system.replica.replicaOffset : Int)
          else system.replica.replicaOffset - 2 ^ 64).toNat = system.replica.replicaOffset := by
        unfold u64Max at small
        split at nonnegative
        next fits =>
          rw [if_pos fits]
          rfl
        next wraps => omega
      simp only [requested] at found
      split at found
      next covered =>
        obtain ⟨-, read⟩ := history.window.getFrom covered
        rw [read, Option.some.injEq] at found
        rw [← found, history.exact, history.stream, history.applied, encodeAll_append, drop_left]
      · cases found

theorem serve (rdb : Bytes) (host : Option String) (port : Option Nat) : History finished left (system.serve rdb host port) := by
  unfold ReplicationSystem.serve
  split
  next request wire link past open_ =>
    have stage := history.conveys _ open_
    refine ⟨history.streamed, history.stream, history.applied, history.window, history.offset, history.small, ?_, ?_,
      history.exact, history.replid, history.unacknowledged, ?_⟩
    · simp [registerReplicaAnnounced, history.counted]
    · intro feed member
      rcases mem_append.mp member with earlier | new
      · exact Nat.lt_succ_of_lt (history.issued feed earlier)
      · rw [mem_singleton.mp new]
        exact Nat.lt_succ_self _
    · intro connection same
      cases same
      cases stage with
      | continuing _ _ served | resyncing _ _ _ _ _ served | streaming _ _ served => cases served
      | unserved _ fresh silent asked =>
        subst fresh silent asked
        unfold psyncResponse
        cases resumed : system.primary.partialHistory (psyncRequest system.replica).1
            (psyncRequest system.replica).2 with
        | some past =>
          have all : ∀ argv ∈ left, Streamed argv := fun argv member => history.streamed argv (mem_append_right _ member)
          refine .continuing _ left rfl (Nat.lt_succ_self _) rfl ?_
            ⟨fun argv member => .inl (all argv member), by rw [payloads_streamed all], fun _ => payloads_streamed all⟩
          simp [pending, start, history.partial_eq resumed, simpleLine_continue, Channel.open_,
            registerReplicaAnnounced]
        | none =>
          refine .resyncing _ [] (finished ++ left) [] rdb rfl (Nat.lt_succ_self _) rfl ?_ (append_nil _).symm
            history.stream ⟨by simp, nil_prefix, fun _ => rfl⟩
          simp [pending, start, simpleLine, resyncLine, fullresyncHeader, Channel.open_,
            history.offset, history.stream, registerReplicaAnnounced]
  · exact history

end History

/-- The effect of draining a streaming link: some of the commands to come are applied. -/
structure Settled (primary : ReplicationManager) (channel : Nat) (reflected rest : List Argv) (replica : Replica δ)
    (future : Bytes) (newly later : List Argv) (after : Replica δ × Option ReplicaLink × List Handled) : Prop where
  split : rest = newly ++ later
  offset : after.1.replicaOffset = (encodeAll (reflected ++ newly)).length
  replid : after.1.cachedMasterReplid = replica.cachedMasterReplid
  applied : ∀ snapshot applied,
    after.2.2.foldl (reflect snapshot) applied = applied ++ encodeAll newly
  silent : after.2.2.filterMap ackOffset = []
  linked : ∀ next, after.2.1 = some next → next.phase = .streaming ∧
    ∃ remaining, next.buffer ++ future = encodeAll remaining ∧ Follows primary channel remaining later

private theorem foldl_reflect (snapshot applied : Bytes) (commands : List Argv) :
    (commands.map fun argv => Handled.applied (encodeCommand argv.args)).foldl (reflect snapshot) applied =
      applied ++ encodeAll commands := by
  induction commands generalizing applied with
  | nil => simp
  | cons argv commands ih => simp [ih, reflect]

variable {primary : ReplicationManager} {rounds : Nat} {link : ReplicaLink}

private theorem drain_settled (streaming : link.phase = .streaming)
    (small : (encodeAll (reflected ++ rest)).length ≤ u64Max) (base : replica.replicaOffset = (encodeAll reflected).length)
    (follows : Follows primary channel frames rest) (stream : link.buffer ++ future = encodeAll frames)
    (enough : link.buffer.length ≤ rounds)
    (unprobed : ∀ handled ∈ (drain databases apply load rounds replica link).2.2,
      ackOffset handled = none) :
    ∃ newly later, Settled primary channel reflected rest replica future newly later
      (drain databases apply load rounds replica link) := by
  have below : replica.replicaOffset < 2 ^ 64 := by
    rw [encodeAll_append, length_append] at small
    unfold u64Max at small
    omega
  obtain ⟨newly, left, drained⟩ := drain_streaming streaming below follows.known stream enough
    (fun frame offset member => by cases unprobed _ member)
  have commands : payloads frames = newly ++ payloads left := by
    rw [drained.split, payloads_append, payloads_streamed drained.streamed]
  obtain ⟨later, continued⟩ : newly <+: rest := (prefix_append _ _).trans (commands ▸ follows.order)
  have order := follows.order
  rw [commands, ← continued, prefix_append_right_inj] at order
  refine ⟨newly, later, continued.symm, ?_, drained.replid, ?_, ?_, ?_⟩
  · rw [drained.offset, base, encodeAll_append, length_append]
    apply Nat.mod_eq_of_lt
    rw [← continued, encodeAll_append, encodeAll_append, length_append, length_append] at small
    unfold u64Max at small
    omega
  · intro snapshot applied
    rw [drained.handled, foldl_reflect]
  · rw [drained.handled, filterMap_eq_nil_iff]
    intro handled member
    obtain ⟨argv, -, rfl⟩ := mem_map.mp member
    rfl
  · intro next same
    obtain ⟨phase, buffered⟩ := drained.linked next same
    refine ⟨phase, left, buffered, ?_, order, ?_⟩
    · intro argv member
      exact follows.known argv (drained.split ▸ mem_append_right _ member)
    · intro registered
      have whole := follows.whole registered
      rw [commands, ← continued] at whole
      exact append_cancel_left whole

/-- The system after a read whose outcome is `after`. -/
def outcomeOf (system : ReplicationSystem δ) (connection : Connection) (count : Nat)
    (after : Replica δ × Option ReplicaLink × List Handled) : ReplicationSystem δ :=
  { system with
    replica := after.1
    connection := after.2.1.map fun link => { connection with link := link, wire := connection.wire.drop count }
    applied := after.2.2.foldl (reflect connection.snapshot) system.applied
    acknowledged := system.acknowledged ++ after.2.2.filterMap ackOffset }

theorem pending_fed (primary : ReplicationManager) :
    pending primary connection channel = (connection.link.buffer ++ connection.wire.take count) ++
      (connection.wire.drop count ++ (primary.channels channel).queue.flatten) := by
  conv_lhs => rw [pending, ← take_append_drop count connection.wire]
  simp only [append_assoc]

section
variable (history : History finished left system)
include history

private theorem History.of_outcome {after : Replica δ × Option ReplicaLink × List Handled}
    (same : finished ++ left = reflected ++ rest)
    (replid : after.1.cachedMasterReplid = [] ∨ after.1.cachedMasterReplid = system.primary.replid.text)
    (offset : after.1.replicaOffset = (encodeAll reflected).length)
    (applied : after.2.2.foldl (reflect connection.snapshot) system.applied = encodeAll reflected)
    (silent : after.2.2.filterMap ackOffset = [])
    (linked : ∀ next, after.2.1 = some next →
      Conveys (outcomeOf system connection count after) reflected rest { connection with link := next, wire := connection.wire.drop count }) :
    History reflected rest (outcomeOf system connection count after) where
  streamed := same ▸ history.streamed
  stream := same ▸ history.stream
  applied := applied
  window := history.window
  offset := history.offset
  small := history.small
  counted := history.counted
  issued := history.issued
  exact := offset.trans (congrArg length applied).symm
  replid := replid
  unacknowledged := by
    change system.acknowledged ++ _ = []
    rw [history.unacknowledged, silent]
    rfl
  conveys := by
    intro next found
    obtain ⟨link, some_, rfl⟩ := Option.map_eq_some_iff.mp found
    exact linked link some_

theorem History.waits {fed : ReplicaLink}
    (stage : Conveys (outcomeOf system connection count (system.replica, some fed, [])) finished left
      { connection with link := fed, wire := connection.wire.drop count }) :
    History finished left (outcomeOf system connection count (system.replica, some fed, [])) := by
  refine history.of_outcome rfl history.replid (history.exact.trans (congrArg length history.applied)) history.applied rfl ?_
  intro next same
  cases same
  exact stage

private theorem History.settled {newly later : List Argv} {after : Replica δ × Option ReplicaLink × List Handled} (first : List Handled)
    (same : finished ++ left = reflected ++ rest) (served : connection.channel = some channel)
    (issued : channel < system.primary.nextChannel)
    (replid : replica.cachedMasterReplid = [] ∨ replica.cachedMasterReplid = system.primary.replid.text)
    (installed : first.foldl (reflect connection.snapshot) system.applied = encodeAll reflected)
    (silent : first.filterMap ackOffset = [])
    (settled : Settled system.primary channel reflected rest replica
      (connection.wire.drop count ++ (system.primary.channels channel).queue.flatten) newly later after) :
    History (reflected ++ newly) later (outcomeOf system connection count (after.1, after.2.1, first ++ after.2.2)) := by
  refine history.of_outcome (by rw [same, settled.split, append_assoc]) (settled.replid.symm ▸ replid) settled.offset ?_ ?_ ?_
  · rw [foldl_append, installed, settled.applied, encodeAll_append]
  · rw [filterMap_append, silent, settled.silent, append_nil]
  · intro next linked
    obtain ⟨phase, remaining, buffered, follows⟩ := settled.linked next linked
    exact .streaming channel remaining served issued phase buffered follows

end

private theorem snapshot_loads {buffer tail : Bytes} (stream : buffer ++ future = bulk rdb ++ tail)
    (complete : completesSnapshot load buffer) :
    ∃ dataset rest, load rdb = some dataset ∧ rest ++ future = tail ∧ buffer = bulk rdb ++ rest ∧
      parseWithConsumed buffer = .value (.bulkString (some rdb)) (bulk rdb).length rest := by
  unfold completesSnapshot at complete
  split at complete
  next data taken rest read =>
    obtain ⟨same, remaining⟩ := parse_bulk stream read
    cases same
    obtain ⟨dataset, loaded⟩ := Option.isSome_iff_exists.mp complete
    have whole : buffer = bulk rdb ++ rest := append_cancel_right (by rw [stream, append_assoc, remaining])
    have length := parse_consumed read
    rw [whole, length_append, Nat.add_sub_cancel] at length
    exact ⟨dataset, rest, loaded, remaining, whole, length ▸ read⟩
  · cases complete

private theorem drain_snapshot (phase : link.phase = .awaitRdb)
    (small : (encodeAll (reflected ++ rest)).length ≤ u64Max) (base : replica.replicaOffset = (encodeAll reflected).length)
    (follows : Follows primary channel frames rest) (stream : link.buffer ++ future = bulk rdb ++ encodeAll frames)
    (enough : link.buffer.length ≤ rounds) (complete : completesSnapshot load link.buffer)
    (unprobed : ∀ handled ∈ (drain databases apply load rounds replica link).2.2,
      ackOffset handled = none) :
    ∃ dataset newly later after,
      drain databases apply load rounds replica link = (after.1, after.2.1, [.installed] ++ after.2.2) ∧
      Settled primary channel reflected rest { replica with dataset := dataset } future newly later after := by
  obtain ⟨dataset, tail, loaded, remaining, whole, read⟩ := snapshot_loads stream complete
  obtain ⟨fewer, bounded, drained⟩ := drain_value replica link whole (cons_ne_nil _ _) read enough
    (accept_rdb replica { link with buffer := tail } phase loaded _)
  rw [drained] at unprobed
  have offset : ({ replica with dataset := dataset } : Replica δ).replicaOffset = (encodeAll reflected).length := base
  obtain ⟨newly, later, settled⟩ := drain_settled rfl small offset follows remaining bounded
    (fun handled member => unprobed handled (mem_append_right _ member))
  exact ⟨dataset, newly, later, _, drained, settled⟩

section stages
variable {finished left : List Argv} {system : ReplicationSystem δ} {connection : Connection} {channel count : Nat}
variable (history : History finished left system) (served : connection.channel = some channel)
variable (issued : channel < system.primary.nextChannel) (fed : ReplicaLink)
variable (unprobed : ∀ handled ∈ (drain databases apply load fed.buffer.length system.replica fed).2.2,
  ackOffset handled = none)
include history served issued unprobed

theorem History.read_streaming (phase : fed.phase = .streaming)
    (bytes : fed.buffer ++ (connection.wire.drop count ++ (system.primary.channels channel).queue.flatten) = encodeAll frames)
    (follows : Follows system.primary channel frames left) :
    ∃ reflected rest, History reflected rest
      (outcomeOf system connection count (drain databases apply load fed.buffer.length system.replica fed)) := by
  obtain ⟨newly, later, settled⟩ := drain_settled phase (history.stream ▸ history.small)
    (history.exact.trans (congrArg length history.applied)) follows bytes (le_rfl) unprobed
  exact ⟨_, _, history.settled [] rfl served issued history.replid history.applied rfl settled⟩

theorem History.read_continuing (phase : fed.phase = .awaitReply)
    (bytes : fed.buffer ++ (connection.wire.drop count ++ (system.primary.channels channel).queue.flatten) =
      simpleLine (ascii "CONTINUE") ++ encodeAll frames)
    (follows : Follows system.primary channel frames left) :
    ∃ reflected rest, History reflected rest
      (outcomeOf system connection count (drain databases apply load fed.buffer.length system.replica fed)) := by
  have plain : ∀ byte ∈ ascii "CONTINUE", byte ≠ 13 := all_iff_forall_prop.mp rfl
  rcases parse_simpleLine plain bytes with ⟨rest, holds, later, parsed⟩ | ⟨-, -, -, -, parsed⟩
  · obtain ⟨fewer, enough, drained⟩ := drain_value system.replica fed holds (cons_ne_nil _ _) parsed (le_rfl)
      (accept_continue system.replica { fed with buffer := rest } phase _)
    rw [drained] at unprobed ⊢
    obtain ⟨newly, remaining, settled⟩ := drain_settled rfl (history.stream ▸ history.small)
      (history.exact.trans (congrArg length history.applied)) follows later enough unprobed
    exact ⟨_, _, history.settled [] rfl served issued history.replid history.applied rfl settled⟩
  · rw [drain_waits parsed]
    exact ⟨_, _, history.waits (.continuing channel frames served issued phase bytes follows)⟩

theorem History.read_resyncing (phase : fed.phase = .awaitReply)
    (bytes : fed.buffer ++ (connection.wire.drop count ++ (system.primary.channels channel).queue.flatten) =
      simpleLine (resyncLine system.primary.replid (encodeAll reflected).length) ++ (bulk rdb ++ encodeAll frames))
    (same : finished ++ left = reflected ++ rest) (snapshot : connection.snapshot = encodeAll reflected)
    (follows : Follows system.primary channel frames rest)
    (resync : completesResync load fed.phase fed.buffer) :
    ∃ reflected rest, History reflected rest
      (outcomeOf system connection count (drain databases apply load fed.buffer.length system.replica fed)) := by
  have small : (encodeAll (reflected ++ rest)).length ≤ u64Max := same ▸ history.stream ▸ history.small
  have fits : (encodeAll reflected).length ≤ u64Max := by
    rw [encodeAll_append, length_append] at small
    omega
  rcases parse_simpleLine (resyncLine_plain _ _) bytes with ⟨after, holds, later, parsed⟩ | ⟨-, -, -, -, parsed⟩
  · obtain ⟨fewer, enough, begun⟩ := drain_value system.replica fed holds (cons_ne_nil _ _) parsed (le_rfl)
      (accept_resync system.replica { fed with buffer := after } phase system.primary.replid fits _)
    have complete : completesSnapshot load after := by
      simp only [completesResync, phase, parsed, resyncLine_header] at resync
      exact resync
    rw [begun] at unprobed ⊢
    have offset : ({ system.replica with
        cachedMasterReplid := system.primary.replid.text, replicaOffset := (encodeAll reflected).length } : Replica δ).replicaOffset =
          (encodeAll reflected).length := rfl
    have waiting : ({ fed with phase := .awaitRdb, buffer := after } : ReplicaLink).phase = .awaitRdb := rfl
    obtain ⟨dataset, newly, final, last, drained, settled⟩ := drain_snapshot waiting small offset follows later enough complete
      (fun handled member => unprobed handled (mem_append_right _ member))
    have result := history.settled [.installed] same served issued (.inr rfl) snapshot rfl settled
    rw [drained]
    exact ⟨_, _, result⟩
  · rw [drain_waits parsed]
    exact ⟨_, _, history.waits (.resyncing channel frames reflected rest rdb served issued phase bytes same snapshot follows)⟩

end stages

section
variable (history : History finished left system)
include history

theorem History.read (count : Nat) (undisturbed : Undisturbed databases apply load system (.read count)) :
    ∃ reflected rest, History reflected rest (system.read databases apply load count) := by
  cases open_ : system.connection with
  | none => exact ⟨finished, left, by simpa only [ReplicationSystem.read, open_] using history⟩
  | some connection =>
    obtain ⟨resync, unprobed⟩ := undisturbed connection open_
    have step : system.read databases apply load count = outcomeOf system connection count
        (feed databases apply load system.replica connection.link (connection.wire.take count)) := by
      simp only [ReplicationSystem.read, open_, outcomeOf]
    rw [step]
    cases history.conveys connection open_ with
    | unserved unregistered fresh silent request =>
      refine ⟨finished, left, ?_⟩
      rw [fresh, silent, take_nil]
      exact history.waits (.unserved unregistered rfl (by rw [silent, drop_nil]) request)
    | streaming channel frames served issued phase bytes follows =>
      exact history.read_streaming served issued _ unprobed phase (pending_fed _ ▸ bytes) follows
    | continuing channel frames served issued phase bytes follows =>
      exact history.read_continuing served issued _ unprobed phase (pending_fed _ ▸ bytes) follows
    | resyncing channel frames reflected rest rdb served issued phase bytes same snapshot follows =>
      exact history.read_resyncing served issued _ unprobed phase (pending_fed _ ▸ bytes) same snapshot follows resync

theorem History.offsetsExact : OffsetsExact system where
  bounded := by
    rw [history.exact, history.offset, history.applied, history.stream, encodeAll_append, length_append]
    exact Nat.le_add_right _ _
  exact := history.exact
  reflected := by
    rw [history.applied, history.stream, encodeAll_append]
    exact prefix_append _ _
  acknowledged := by
    intro offset member
    rw [history.unacknowledged] at member
    cases member
  resumes := by
    intro past found
    rw [history.partial_eq found, history.applied, history.stream, encodeAll_append]

theorem History.step (event : ReplicationEvent) (undisturbed : Undisturbed databases apply load system event) :
    ∃ reflected rest, History reflected rest (system.step databases apply load event) := by
  cases event with
  | write db command =>
    cases armed : system.primary.needsStreamPublish with
    | false =>
      rw [ReplicationSystem.step, write_cold db.toNat command armed]
      exact ⟨finished, left, history⟩
    | true => exact ⟨finished, _, history.write db command armed undisturbed⟩
  | probe host port => exact ⟨finished, left, history.probe host port⟩
  | connect => exact ⟨finished, left, history.connect⟩
  | serve rdb host port => exact ⟨finished, left, history.serve rdb host port⟩
  | deliver => exact ⟨finished, left, history.deliver⟩
  | read count => exact history.read count undisturbed
  | disconnect => exact ⟨finished, left, history.disconnect⟩
  | release channel =>
    refine ⟨finished, left, history.release _ ?_⟩
    intro other
    split <;> rfl

end

theorem History.initial (replid : ReplId) (capacity : Nat) (dataset : δ) :
    History [] [] (initial replid capacity dataset) where
  streamed := by simp
  stream := rfl
  applied := rfl
  window := .new capacity
  offset := rfl
  small := Nat.zero_le _
  counted := rfl
  issued := by
    intro feed member
    cases member
  exact := rfl
  replid := .inl rfl
  unacknowledged := rfl
  conveys := by
    intro connection open_
    cases open_

/-- In every run in which no probe is read off the link and no full resync is read by
halves, the offsets are exact in every state. -/
theorem run_offsets_exact (databases : Nat) (apply : δ → Nat → List Bytes → Option δ) (load : Bytes → Option δ)
    (replid : ReplId) (capacity : Nat) (dataset : δ) (events : List ReplicationEvent)
    (undisturbed : Guarded (step databases apply load) (Undisturbed databases apply load)
      (initial replid capacity dataset) events) :
    OffsetsExact (run (step databases apply load) (initial replid capacity dataset) events) := by
  have keeps (system : ReplicationSystem δ) (event : ReplicationEvent) :
      (∃ finished left, History finished left system) → Undisturbed databases apply load system event →
        ∃ finished left, History finished left (system.step databases apply load event) := by
    rintro ⟨finished, left, history⟩ allowed
    exact history.step event allowed
  obtain ⟨finished, left, history⟩ := undisturbed.invariant keeps ⟨[], [], .initial replid capacity dataset⟩
  exact history.offsetsExact

instance (system : ReplicationSystem δ) : ∀ event, Decidable (Undisturbed databases apply load system event)
  | .write db command => inferInstanceAs (Decidable ((system.write db.toNat command).stream.length ≤ u64Max))
  | .read count => inferInstanceAs (Decidable (∀ connection ∈ system.connection,
      completesResync load connection.link.phase (connection.link.buffer ++ connection.wire.take count) = true ∧
        ∀ handled ∈ (feed databases apply load system.replica connection.link (connection.wire.take count)).2.2,
          ackOffset handled = none))
  | .probe .. | .connect | .serve .. | .deliver | .disconnect | .release _ => inferInstanceAs (Decidable True)

/-- A primary with an empty dataset and a replica that accepts everything. -/
def smallSystem : ReplicationSystem Unit :=
  .initial zeroReplid 1024 ()

def smallStep : ReplicationSystem Unit → ReplicationEvent → ReplicationSystem Unit :=
  step 16 (fun _ _ _ => some ()) fun _ => some ()

/-- One probe on an idle link moves the replica past everything the primary ever wrote. -/
theorem probe_overtakes_primary :
    ¬ OffsetsExact (run smallStep smallSystem
      [.connect, .serve [] none none, .read 1000, .probe none none, .deliver, .read 1000]) := by
  intro exact_
  exact absurd exact_.bounded (by decide +kernel)

/-- A link that is cut in the middle of a command and resumed. -/
theorem resumed_link_exact :
    OffsetsExact (run smallStep smallSystem
      [.connect, .serve [] none none, .read 1000, .write 3 (setCommand "k" "v" (by decide)), .deliver, .read 30,
        .disconnect, .write 3 (setCommand "k" "w" (by decide)), .connect, .serve [] none none, .read 20, .read 1000]) :=
  run_offsets_exact 16 _ _ _ 1024 () _ (by decide +kernel)

end Kore.Proofs.ReplicationOffsets
