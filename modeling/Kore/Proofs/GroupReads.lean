import Kore.Proofs.Effects

/-! One pass of a group read over the streams of its request: it stops at the first read that
is refused, with a reply that does not look like success, and goes on after any other. -/

namespace Kore.Proofs.GroupReads
open Foundation Protocol Cache Commands Repetition Effects Option Keyspace Except

variable {F : Type} {setting : Setting} {group consumer : Bytes} {opts : ReadOptions} {keyspace : Keyspace F} {read : Bytes × Bytes}
  {reads : List (Bytes × Bytes)} {stream changed : RedisStream} {ids : List StreamId} {words : List Bytes}

section
variable (setting : Setting) (group consumer : Bytes) (opts : ReadOptions) (keyspace : Keyspace F)

/-- What a read of the request makes of a stream of this keyspace. -/
structure Takes (read : Bytes × Bytes) (stream changed : RedisStream) (ids : List StreamId) : Prop where
  held : (keyspace.purgeIfExpired setting.now read.1).get streams read.1 = some stream
  done : stream.xreadgroupOpts setting.now group consumer read.2 opts.count opts.noack = .ok (changed, ids)

/-- A read without a live stream, without a group or with an id that cannot be read. -/
def Refused (read : Bytes × Bytes) : Prop :=
  ∀ stream changed ids, ¬Takes setting group consumer opts keyspace read stream changed ids

end

variable {rest : List (Bytes × Bytes)}

section
variable (takes : Takes setting group consumer opts keyspace read stream changed ids)
include takes

theorem Takes.purge :
    keyspace.purgeIfExpired setting.now read.1 = keyspace := by
  rcases purge_cases setting.now keyspace read.1 with gone | same
  · have held := takes.held
    rw [Keyspace.get, gone] at held
    cases held
  · exact same

theorem Takes.slot :
    ∃ slot, keyspace.lookup read.1 = some slot ∧ slot.isExpired setting.now = false ∧ slot.value = .stream stream := by
  have held := takes.held
  obtain ⟨slot, found, content⟩ := bind_eq_some_iff.mp held
  refine ⟨slot, takes.purge ▸ found, live_of_purged found, ?_⟩
  exact (streams_lawful.wrap_unwrap content).symm

theorem once_takes :
    ∃ reply, xreadgroupOnce setting group consumer opts keyspace (read :: rest) =
      ((xreadgroupOnce setting group consumer opts (keyspace.write streams read.1 changed) rest).1,
        (xreadgroupOnce setting group consumer opts (keyspace.write streams read.1 changed) rest).2.map fun replies =>
          if ids = [] then replies else reply :: replies) := by
  obtain ⟨slot, found, live, content⟩ := takes.slot
  have type : keyspace.keyType setting.now read.1 = some .stream := by
    rw [keyType, getKeyValue, takes.purge, found, map_some, content]
    rfl
  have held := takes.held
  rw [takes.purge] at held
  refine ⟨.array [.bulkString (some read.1), .array (ids.map (entryReply changed))], ?_⟩
  obtain ⟨key, idSpec⟩ := read
  rw [xreadgroupOnce]
  simp [type, takes.purge, held, takes.done]

end

theorem once_refused (refused : Refused setting group consumer opts keyspace read) :
    ∃ reply, responseIndicatesSuccess reply = false ∧
      xreadgroupOnce setting group consumer opts keyspace (read :: rest) = (keyspace.purgeIfExpired setting.now read.1, .error reply) := by
  unfold xreadgroupOnce
  dsimp only
  split
  · exact ⟨_, rfl, rfl⟩
  split
  · exact ⟨_, rfl, rfl⟩
  split
  next => exact ⟨_, rfl, rfl⟩
  next stream held =>
    split
    next text _ =>
      refine ⟨_, ?_, rfl⟩
      unfold streamError
      split <;> rfl
    next changed ids done => exact absurd ⟨held, done⟩ (refused stream changed ids)

/-- A pass stops at a read that is refused and goes on after any other. -/
theorem once_cases : (Refused setting group consumer opts keyspace read ∧ ∃ reply, responseIndicatesSuccess reply = false ∧
      xreadgroupOnce setting group consumer opts keyspace (read :: rest) =
        (keyspace.purgeIfExpired setting.now read.1, .error reply)) ∨
      ∃ stream changed ids reply, Takes setting group consumer opts keyspace read stream changed ids ∧
        xreadgroupOnce setting group consumer opts keyspace (read :: rest) =
          ((xreadgroupOnce setting group consumer opts (keyspace.write streams read.1 changed) rest).1,
            (xreadgroupOnce setting group consumer opts (keyspace.write streams read.1 changed) rest).2.map fun replies =>
              if ids = [] then replies else reply :: replies) := by
  by_cases refused : Refused setting group consumer opts keyspace read
  · exact .inl ⟨refused, once_refused refused⟩
  · simp only [Refused, not_forall, not_not] at refused
    obtain ⟨stream, changed, ids, takes⟩ := refused
    obtain ⟨reply, shape⟩ := once_takes takes
    exact .inr ⟨stream, changed, ids, reply, takes, shape⟩

/-! What the reply says. -/

theorem once_error_fails {reply : RespValue} (failed : (xreadgroupOnce setting group consumer opts keyspace reads).2 = .error reply) :
    responseIndicatesSuccess reply = false := by
  induction reads generalizing keyspace with
  | nil => cases failed
  | cons read rest ih =>
    rcases once_cases with ⟨_, reply, fails, shape⟩ | ⟨stream, changed, ids, reply, takes, shape⟩
    · rw [shape] at failed
      exact error.inj failed ▸ fails
    · rw [shape] at failed
      cases later : (xreadgroupOnce setting group consumer opts (keyspace.write streams read.1 changed) rest).2 with
      | error inner =>
        rw [later] at failed
        obtain rfl : inner = _ := error.inj failed
        exact ih later
      | ok replies =>
        rw [later] at failed
        cases failed

end Kore.Proofs.GroupReads
