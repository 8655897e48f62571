import Mathlib.Data.List.Lex
import Mathlib.Data.UInt
import Kore.Protocol.Resp

/-! Identifiers of the commands that the server treats as writes, and the argument
vectors under which such commands are logged. -/

namespace Kore.Commands
open Foundation Protocol List

/-- The command identifiers for which `is_write` answers true. -/
inductive WriteId where
  | append | bitfield | bitop | blmove | blmpop | blpop | brpop | brpoplpush | bzmpop | bzpopmax
  | bzpopmin | copyCmd | decr | decrby | del | eval | evalsha | expire | expireat | fcall | flushall
  | flushdb | ftAliasadd | ftAliasdel | ftAliasupdate | ftCreate | ftDropindex | function | geoadd
  | georadius | georadiusbymember | geosearchstore | getdel | getex | getset | hdel | hgetdel | hincrby
  | hincrbyfloat | hmset | hset | hsetnx | incr | incrby | incrbyfloat | linsert | lmove | lmpop | lpop
  | lpush | lpushx | lrem | lset | ltrim | migrate | moveCmd | mset | msetnx | persist | pexpire
  | pexpireat | pfadd | pfmerge | psetex | rename | renamenx | restore | rpop | rpoplpush | rpush
  | rpushx | sadd | sdiffstore | set | setbit | setex | setnx | setrange | sinterstore | smove | spop
  | srem | sunionstore | swapdb | touch | unlink | xack | xadd | xautoclaim | xclaim | xdel | xgroup
  | xreadgroup | xsetid | xtrim | zadd | zdiffstore | zincrby | zinterstore | zmpop | zpopmax | zpopmin
  | zrangestore | zrem | zremrangebylex | zremrangebyrank | zremrangebyscore | zunionstore
  deriving DecidableEq

def WriteId.name : WriteId → String
  | .append => "APPEND"
  | .bitfield => "BITFIELD"
  | .bitop => "BITOP"
  | .blmove => "BLMOVE"
  | .blmpop => "BLMPOP"
  | .blpop => "BLPOP"
  | .brpop => "BRPOP"
  | .brpoplpush => "BRPOPLPUSH"
  | .bzmpop => "BZMPOP"
  | .bzpopmax => "BZPOPMAX"
  | .bzpopmin => "BZPOPMIN"
  | .copyCmd => "COPY"
  | .decr => "DECR"
  | .decrby => "DECRBY"
  | .del => "DEL"
  | .eval => "EVAL"
  | .evalsha => "EVALSHA"
  | .expire => "EXPIRE"
  | .expireat => "EXPIREAT"
  | .fcall => "FCALL"
  | .flushall => "FLUSHALL"
  | .flushdb => "FLUSHDB"
  | .ftAliasadd => "FT.ALIASADD"
  | .ftAliasdel => "FT.ALIASDEL"
  | .ftAliasupdate => "FT.ALIASUPDATE"
  | .ftCreate => "FT.CREATE"
  | .ftDropindex => "FT.DROPINDEX"
  | .function => "FUNCTION"
  | .geoadd => "GEOADD"
  | .georadius => "GEORADIUS"
  | .georadiusbymember => "GEORADIUSBYMEMBER"
  | .geosearchstore => "GEOSEARCHSTORE"
  | .getdel => "GETDEL"
  | .getex => "GETEX"
  | .getset => "GETSET"
  | .hdel => "HDEL"
  | .hgetdel => "HGETDEL"
  | .hincrby => "HINCRBY"
  | .hincrbyfloat => "HINCRBYFLOAT"
  | .hmset => "HMSET"
  | .hset => "HSET"
  | .hsetnx => "HSETNX"
  | .incr => "INCR"
  | .incrby => "INCRBY"
  | .incrbyfloat => "INCRBYFLOAT"
  | .linsert => "LINSERT"
  | .lmove => "LMOVE"
  | .lmpop => "LMPOP"
  | .lpop => "LPOP"
  | .lpush => "LPUSH"
  | .lpushx => "LPUSHX"
  | .lrem => "LREM"
  | .lset => "LSET"
  | .ltrim => "LTRIM"
  | .migrate => "MIGRATE"
  | .moveCmd => "MOVE"
  | .mset => "MSET"
  | .msetnx => "MSETNX"
  | .persist => "PERSIST"
  | .pexpire => "PEXPIRE"
  | .pexpireat => "PEXPIREAT"
  | .pfadd => "PFADD"
  | .pfmerge => "PFMERGE"
  | .psetex => "PSETEX"
  | .rename => "RENAME"
  | .renamenx => "RENAMENX"
  | .restore => "RESTORE"
  | .rpop => "RPOP"
  | .rpoplpush => "RPOPLPUSH"
  | .rpush => "RPUSH"
  | .rpushx => "RPUSHX"
  | .sadd => "SADD"
  | .sdiffstore => "SDIFFSTORE"
  | .set => "SET"
  | .setbit => "SETBIT"
  | .setex => "SETEX"
  | .setnx => "SETNX"
  | .setrange => "SETRANGE"
  | .sinterstore => "SINTERSTORE"
  | .smove => "SMOVE"
  | .spop => "SPOP"
  | .srem => "SREM"
  | .sunionstore => "SUNIONSTORE"
  | .swapdb => "SWAPDB"
  | .touch => "TOUCH"
  | .unlink => "UNLINK"
  | .xack => "XACK"
  | .xadd => "XADD"
  | .xautoclaim => "XAUTOCLAIM"
  | .xclaim => "XCLAIM"
  | .xdel => "XDEL"
  | .xgroup => "XGROUP"
  | .xreadgroup => "XREADGROUP"
  | .xsetid => "XSETID"
  | .xtrim => "XTRIM"
  | .zadd => "ZADD"
  | .zdiffstore => "ZDIFFSTORE"
  | .zincrby => "ZINCRBY"
  | .zinterstore => "ZINTERSTORE"
  | .zmpop => "ZMPOP"
  | .zpopmax => "ZPOPMAX"
  | .zpopmin => "ZPOPMIN"
  | .zrangestore => "ZRANGESTORE"
  | .zrem => "ZREM"
  | .zremrangebylex => "ZREMRANGEBYLEX"
  | .zremrangebyrank => "ZREMRANGEBYRANK"
  | .zremrangebyscore => "ZREMRANGEBYSCORE"
  | .zunionstore => "ZUNIONSTORE"

variable (id : WriteId)

namespace WriteId

/-- The identifiers in the alphabetical order of their names. -/
def all : List WriteId :=
  [.append, .bitfield, .bitop, .blmove, .blmpop, .blpop, .brpop, .brpoplpush, .bzmpop, .bzpopmax, .bzpopmin, .copyCmd,
    .decr, .decrby, .del, .eval, .evalsha, .expire, .expireat, .fcall, .flushall, .flushdb, .ftAliasadd, .ftAliasdel,
    .ftAliasupdate, .ftCreate, .ftDropindex, .function, .geoadd, .georadius, .georadiusbymember, .geosearchstore,
    .getdel, .getex, .getset, .hdel, .hgetdel, .hincrby, .hincrbyfloat, .hmset, .hset, .hsetnx, .incr, .incrby,
    .incrbyfloat, .linsert, .lmove, .lmpop, .lpop, .lpush, .lpushx, .lrem, .lset, .ltrim, .migrate, .moveCmd, .mset,
    .msetnx, .persist, .pexpire, .pexpireat, .pfadd, .pfmerge, .psetex, .rename, .renamenx, .restore, .rpop,
    .rpoplpush, .rpush, .rpushx, .sadd, .sdiffstore, .set, .setbit, .setex, .setnx, .setrange, .sinterstore, .smove,
    .spop, .srem, .sunionstore, .swapdb, .touch, .unlink, .xack, .xadd, .xautoclaim, .xclaim, .xdel, .xgroup,
    .xreadgroup, .xsetid, .xtrim, .zadd, .zdiffstore, .zincrby, .zinterstore, .zmpop, .zpopmax, .zpopmin, .zrangestore,
    .zrem, .zremrangebylex, .zremrangebyrank, .zremrangebyscore, .zunionstore]

theorem mem_all : id ∈ all := by cases id <;> decide

private theorem names_ascend : (all.map fun id => ascii id.name).IsChain (· < ·) := by decide +kernel

theorem name_injective {id other : WriteId} (same : ascii id.name = ascii other.name) : id = other := by
  have distinct : (all.map fun id => ascii id.name).Nodup := by
    apply names_ascend.pairwise.imp
    intro first second ascends same
    exact List.lt_irrefl first (same ▸ ascends)
  exact List.inj_on_of_nodup_map distinct (mem_all id) (mem_all other) same

end WriteId

/-- A write as it is handed to the log: its upper-case name and the arguments that the
client's parser delivered. -/
structure LoggedCommand where
  id : WriteId
  args : List Bytes
  short : args.length + 1 ≤ maxArrayLength
  small : ∀ arg ∈ args, arg.length ≤ maxBulkLength

def reservedHeads : List Bytes := [ascii "SELECT", ascii "REPLCONF", ascii "REPLICAOF", ascii "SLAVEOF"]

private theorem reservedHeads_eq : reservedHeads = [[83, 69, 76, 69, 67, 84], [82, 69, 80, 76, 67, 79, 78, 70],
    [82, 69, 80, 76, 73, 67, 65, 79, 70], [83, 76, 65, 86, 69, 79, 70]] := by decide

private def plainName (name : Bytes) : Bool :=
  decide (name.length ≤ 17) && decide (upper name = name) && !([[83, 69, 76, 69, 67, 84], [82, 69, 80, 76, 67, 79, 78, 70],
    [82, 69, 80, 76, 73, 67, 65, 79, 70], [83, 76, 65, 86, 69, 79, 70]] : List Bytes).contains (upper name)

private theorem plainName_name : plainName (ascii id.name) := by
  cases id <;> decide +kernel

theorem WriteId.name_not_reserved : upper (ascii id.name) ∉ reservedHeads := by
  have plain := plainName_name id
  simp only [plainName, Bool.and_eq_true, Bool.not_eq_true', contains_eq_mem, decide_eq_false_iff_not] at plain
  rw [reservedHeads_eq]
  exact plain.2

theorem WriteId.upper_name : upper (ascii id.name) = ascii id.name := by
  have plain := plainName_name id
  simp only [plainName, Bool.and_eq_true, decide_eq_true_eq] at plain
  exact plain.1.2

namespace LoggedCommand

def argv (command : LoggedCommand) : Argv where
  args := ascii command.id.name :: command.args
  nonempty := cons_ne_nil _ _
  short := command.short
  small := by
    intro arg member
    rcases mem_cons.mp member with rfl | later
    · have plain := plainName_name command.id
      simp only [plainName, Bool.and_eq_true, decide_eq_true_eq] at plain
      exact plain.1.1.trans (by decide)
    · exact command.small arg later

end LoggedCommand
end Kore.Commands
