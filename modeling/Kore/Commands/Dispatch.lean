import Kore.Commands.CmdId
import Kore.Commands.Streams

/-! Dispatch of the write commands to their handlers, and the test on the reply that
decides whether a write is logged. Handlers that no replayer knows are a parameter. -/

namespace Kore.Commands
open Foundation Protocol Cache

variable {F : Type}

/-- Handlers of the commands that are not modelled one by one. -/
abbrev OtherHandlers (F : Type) := WriteId → Keyspace F → List Bytes → Handled F

/-- One server: its clock and limits, how it walks the consumers of a group, and its other handlers. -/
structure Server (F : Type) where
  setting : Setting
  walk : Walk
  others : OtherHandlers F

def Server.handle [Double F] (server : Server F) (keyspace : Keyspace F) (id : WriteId) (args : List Bytes) : Handled F :=
  match id with
  | .set => handleSet server.setting keyspace args
  | .del => handleDel keyspace args
  | .unlink => handleUnlink keyspace args
  | .append => handleAppend server.setting keyspace args
  | .incr => handleIncr server.setting keyspace args
  | .decr => handleDecr server.setting keyspace args
  | .incrby => handleIncrby server.setting keyspace args
  | .decrby => handleDecrby server.setting keyspace args
  | .expire => handleExpire server.setting keyspace args
  | .pexpire => handlePexpire server.setting keyspace args
  | .expireat => handleExpireat server.setting keyspace args
  | .pexpireat => handlePexpireat server.setting keyspace args
  | .persist => handlePersist keyspace args
  | .flushdb => handleFlush keyspace args
  | .flushall => handleFlush keyspace args
  | .lpush => handleLpush server.setting keyspace args
  | .rpush => handleRpush server.setting keyspace args
  | .lpop => handleLpop server.setting keyspace args
  | .rpop => handleRpop server.setting keyspace args
  | .sadd => handleSadd server.setting keyspace args
  | .srem => handleSrem server.setting keyspace args
  | .hset => handleHset server.setting keyspace args
  | .hdel => handleHdel server.setting keyspace args
  | .zadd => handleZadd server.setting keyspace args
  | .zrem => handleZrem server.setting keyspace args
  | .geoadd => handleGeoadd server.setting keyspace args
  | .xadd => handleXadd server.setting server.walk keyspace args
  | .xdel => handleXdel server.setting keyspace args
  | .xtrim => handleXtrim server.setting server.walk keyspace args
  | .xgroup => handleXgroup server.setting keyspace args
  | .xreadgroup => handleXreadgroup server.setting keyspace args
  | .xack => handleXack server.setting keyspace args
  | .xclaim => handleXclaim server.setting keyspace args
  | .xsetid => handleXsetid server.setting keyspace args
  | id => server.others id keyspace args

/-- The commands that are executed on the selected database alone by one of these handlers. -/
def localIds : List WriteId :=
  [.set, .del, .unlink, .append, .incr, .decr, .incrby, .decrby, .expire, .pexpire, .expireat, .pexpireat, .persist, .flushdb,
    .lpush, .rpush, .lpop, .rpop, .sadd, .srem, .hset, .hdel, .zadd, .zrem, .geoadd, .xadd, .xdel, .xtrim, .xgroup,
    .xreadgroup, .xack, .xclaim, .xsetid]

def responseIndicatesSuccess : RespValue → Bool
  | .error _ => false
  | .bulkString none => false
  | _ => true

/-- A write is logged when its handler returned a reply that looks like success. -/
def answerSucceeds : Answer → Bool
  | .ok reply => responseIndicatesSuccess reply
  | .error _ => false

end Kore.Commands
