import Kore.Commands.Collections

/-! Handlers of the stream commands that change a stream. A blocking read is the single
pass that a lone client gets: with nothing to read it answers nil. -/

namespace Kore.Commands
open Foundation Protocol Cache StreamId

variable {F : Type}

def outOfRange : String := "ERR value is not an integer or out of range"

variable (text : Bytes)

def nonNegative : Option Nat :=
  (i64OfText text).bind fun value => if 0 ≤ value then some value.toNat else none

def noGroupFor (key : Bytes) : RespValue := .error (ascii "NOGROUP No such key '" ++ key ++ ascii "' or consumer group")

/-- A stream operation's own error, with the key put into the one about a missing group. -/
def streamError (key text : Bytes) : RespValue :=
  if (ascii "NOGROUP").isPrefixOf text then noGroupFor key else .error text

def entryReply (stream : RedisStream) (id : StreamId) : RespValue :=
  let fields := (stream.entries.lookup id).getD []
  .array [.bulkString (some id.toText),
    .array (fields.flatMap fun field => [.bulkString (some field.1), .bulkString (some field.2)])]

structure XaddOptions where
  nomkstream : Bool
  maxlen : Option Nat
  minid : Option StreamId
  limit : Option Nat

inductive XaddToken where
  | nomkstream | maxlen | minid | limit

def XaddToken.table : List (Bytes × XaddToken) :=
  [(ascii "NOMKSTREAM", .nomkstream), (ascii "MAXLEN", .maxlen), (ascii "MINID", .minid), (ascii "LIMIT", .limit)]

def XaddToken.ofText : Option XaddToken := XaddToken.table.lookup (upper text)

def skipApprox : List Bytes → List Bytes
  | [] => []
  | word :: rest => if word = ascii "~" ∨ word = ascii "=" then rest else word :: rest

def xaddWrongArguments : String := "ERR wrong number of arguments for 'xadd' command"

/-- One option of `XADD` with its argument; answers the words after it. -/
def XaddToken.read (opts : XaddOptions) (words : List Bytes) : XaddToken → Except String (XaddOptions × List Bytes)
  | nomkstream => .ok ({ opts with nomkstream := true }, words)
  | maxlen =>
    if opts.minid.isSome then .error "ERR syntax error"
    else match skipApprox words with
      | [] => .error xaddWrongArguments
      | number :: rest =>
        match nonNegative number with
        | some count => .ok ({ opts with maxlen := some count }, rest)
        | none => .error outOfRange
  | minid =>
    if opts.maxlen.isSome then .error "ERR syntax error"
    else match skipApprox words with
      | [] => .error xaddWrongArguments
      | text :: rest =>
        match StreamId.ofText text with
        | some id => .ok ({ opts with minid := some id }, rest)
        | none => .error "ERR Invalid stream ID specified as stream command argument"
  | limit =>
    match words with
    | [] => .error xaddWrongArguments
    | number :: rest =>
      match nonNegative number with
      | some count => .ok ({ opts with limit := some count }, rest)
      | none => .error outOfRange

/-- Options in any order before the id; the fuel is the number of words. -/
def xaddOptions : Nat → XaddOptions → List Bytes → Except String (XaddOptions × List Bytes)
  | fuel + 1, opts, text :: rest =>
    match XaddToken.ofText text with
    | some token => do
      let (opts, rest) ← token.read opts rest
      xaddOptions fuel opts rest
    | none => .ok (opts, text :: rest)
  | _, opts, words => .ok (opts, words)

def pairFields (words : List Bytes) : Option (List (Bytes × Bytes)) :=
  if words = [] ∨ words.length % 2 = 1 then none else some (pairs words)

variable (setting : Setting) (walk : Walk) (keyspace : Keyspace F)

/-- A refused entry leaves behind the stream that was created for it. -/
def addEntry (opts : XaddOptions) (idSpec : Bytes) (fields : List (Bytes × Bytes))
    (key : Bytes) (keyspace : Keyspace F) (stream : RedisStream) : Handled F :=
  if opts.limit.isSome && opts.maxlen.isNone && opts.minid.isNone then (keyspace, failure "ERR syntax error")
  else match stream.xaddWithTrim setting.now walk idSpec fields opts.maxlen opts.minid opts.limit with
    | .error text => (keyspace, .ok (.error text))
    | .ok (stream, id) => (keyspace.write streams key stream, .ok (.bulkString (some id.toText)))

def handleXadd : List Bytes → Handled F
  | key :: first :: second :: rest =>
    match xaddOptions (rest.length + 2) ⟨false, none, none, none⟩ (first :: second :: rest) with
    | .error text => (keyspace, failure text)
    | .ok (_, []) => (keyspace, failure xaddWrongArguments)
    | .ok (opts, idSpec :: words) =>
      match pairFields words with
      | none => (keyspace, failure xaddWrongArguments)
      | some fields =>
        if opts.nomkstream then
          guardType streams setting keyspace key fun keyspace =>
            match keyspace.get streams key with
            | none => (keyspace, .ok .nil)
            | some stream => addEntry setting walk opts idSpec fields key keyspace stream
        else match keyspace.getOrCreate streams setting.now key with
          | .error error => (keyspace, refusal error)
          | .ok (keyspace, stream) => addEntry setting walk opts idSpec fields key keyspace stream
  | _ => (keyspace, failure xaddWrongArguments)

def onStream (key : Bytes) (missing : RespValue)
    (operation : RedisStream → Except Bytes (RedisStream × RespValue)) : Handled F :=
  guardType streams setting keyspace key fun keyspace =>
    match keyspace.get streams key with
    | none => (keyspace, .ok missing)
    | some stream =>
      match operation stream with
      | .error text => (keyspace, .ok (streamError key text))
      | .ok (stream, reply) => (keyspace.write streams key stream, .ok reply)

def handleXdel : List Bytes → Handled F
  | key :: first :: rest =>
    match (first :: rest).mapM ofText with
    | none => (keyspace, .ok (.error invalidStreamId))
    | some ids =>
      onStream setting keyspace key (.integer 0) fun stream =>
        let (stream, count) := stream.xdel ids
        .ok (stream, .integer count)
  | _ => (keyspace, failure "ERR wrong number of arguments for 'xdel' command")

inductive TrimKind where
  | maxlen (count : Nat)
  | minid (id : StreamId)

def TrimKind.trim (limit : Option Nat) (stream : RedisStream) : TrimKind → RedisStream × Nat
  | maxlen count => stream.trimMaxlenLimit walk count limit
  | minid id => stream.trimMinidLimit walk id limit

def trimKind (strategy : Bytes) (threshold : Option Bytes) : Except Bytes TrimKind :=
  let syntaxError := ascii "ERR syntax error"
  if upperText strategy = ascii "MAXLEN" then
    match threshold with
    | none => .error syntaxError
    | some text =>
      match nonNegative text with
      | some count => .ok (.maxlen count)
      | none => .error (ascii outOfRange)
  else if upperText strategy = ascii "MINID" then
    match threshold with
    | none => .error syntaxError
    | some text =>
      match ofText text with
      | some id => .ok (.minid id)
      | none => .error invalidStreamId
  else .error syntaxError

def trimLimit : List Bytes → Except String (Option Nat)
  | [] => .ok none
  | word :: rest =>
    if upper word = ascii "LIMIT" then
      match rest with
      | [number] =>
        match nonNegative number with
        | some count => .ok (some count)
        | none => .error outOfRange
      | number :: _ :: _ => if (nonNegative number).isSome then .error "ERR syntax error" else .error outOfRange
      | [] => .error "ERR syntax error"
    else .error "ERR syntax error"

def handleXtrim : List Bytes → Handled F
  | key :: strategy :: first :: rest =>
    let words := skipApprox (first :: rest)
    match trimKind strategy words.head? with
    | .error text => (keyspace, .ok (.error text))
    | .ok kind =>
      match trimLimit words.tail with
      | .error text => (keyspace, failure text)
      | .ok limit =>
        onStream setting keyspace key (.integer 0) fun stream =>
          let (stream, count) := kind.trim walk limit stream
          .ok (stream, .integer count)
  | _ => (keyspace, failure "ERR wrong number of arguments for 'xtrim' command")

structure GroupOptions where
  mkstream : Bool
  entriesRead : Option Nat

/-- Trailing flags of `XGROUP CREATE` and `SETID`; only the former knows `MKSTREAM`. -/
def groupOptions (create : Bool) (opts : GroupOptions) : List Bytes → Except String GroupOptions
  | [] => .ok opts
  | word :: rest =>
    if create ∧ upper word = ascii "MKSTREAM" then groupOptions create { opts with mkstream := true } rest
    else if upper word = ascii "ENTRIESREAD" then
      match rest with
      | [] => .error "ERR syntax error"
      | number :: rest =>
        match nonNegative number with
        | some count => groupOptions create { opts with entriesRead := some count } rest
        | none => .error outOfRange
    else .error "ERR syntax error"

def groupStart (idSpec : Bytes) (last : StreamId) : Option StreamId :=
  if idSpec = ascii "$" then some last
  else if idSpec = ascii "0" ∨ idSpec = ascii "0-0" then some .zero
  else ofText idSpec

def groupKeyMissing : String := "ERR The XGROUP subcommand requires the key to exist. " ++
  "Note that for CREATE you may want to use the MKSTREAM option to create an empty stream automatically."

def createGroup (key name idSpec : Bytes) (entriesRead : Option Nat) (keyspace : Keyspace F) : Handled F :=
  match keyspace.get streams key with
  | none => (keyspace, failure "ERR no such key")
  | some stream =>
    match groupStart idSpec stream.lastId with
    | none => (keyspace, .ok (.error invalidStreamId))
    | some id =>
      match stream.groupCreate name id entriesRead with
      | .error text => (keyspace, .ok (.error text))
      | .ok stream => (keyspace.write streams key stream, .ok .ok)

def handleXgroupCreate : List Bytes → Handled F
  | key :: name :: idSpec :: options =>
    match groupOptions true ⟨false, none⟩ options with
    | .error text => (keyspace, failure text)
    | .ok opts =>
      match keyspace.get streams key with
      | none =>
        if opts.mkstream then
          match keyspace.getOrCreate streams setting.now key with
          | .error error => (keyspace, refusal error)
          | .ok (keyspace, _) => createGroup key name idSpec opts.entriesRead keyspace
        else (keyspace, failure groupKeyMissing)
      | some _ =>
        guardType streams setting keyspace key fun keyspace =>
          if keyspace.lookup key = none then (keyspace, refusal .wrongType)
          else createGroup key name idSpec opts.entriesRead keyspace
  | _ => (keyspace, failure "ERR wrong number of arguments for 'xgroup|create' command")

def handleXgroupDestroy : List Bytes → Handled F
  | [key, name] =>
    onStream setting keyspace key (.integer 0) fun stream =>
      let (stream, existed) := stream.groupDestroy name
      .ok (stream, .integer (if existed then 1 else 0))
  | _ => (keyspace, failure "ERR wrong number of arguments for 'xgroup|destroy' command")

def handleXgroupSetid : List Bytes → Handled F
  | key :: name :: idSpec :: options =>
    match groupOptions false ⟨false, none⟩ options with
    | .error text => (keyspace, failure text)
    | .ok opts =>
      onStream setting keyspace key (noGroupFor key) fun stream =>
        match groupStart idSpec stream.lastId with
        | none => .error invalidStreamId
        | some id => (stream.groupSetid name id opts.entriesRead).map fun (stream, _) => (stream, .ok)
  | _ => (keyspace, failure "ERR wrong number of arguments for 'xgroup|setid' command")

def handleXgroupCreateconsumer : List Bytes → Handled F
  | [key, name, consumer] =>
    onStream setting keyspace key (noGroupFor key) fun stream =>
      (stream.groupCreateConsumer setting.now name consumer).map fun (stream, created) =>
        (stream, .integer (if created then 1 else 0))
  | _ => (keyspace, failure "ERR wrong number of arguments for 'xgroup|createconsumer' command")

def handleXgroupDelconsumer : List Bytes → Handled F
  | [key, name, consumer] =>
    onStream setting keyspace key (noGroupFor key) fun stream =>
      (stream.groupDelConsumer name consumer).map fun (stream, count) => (stream, .integer count)
  | _ => (keyspace, failure "ERR wrong number of arguments for 'xgroup|delconsumer' command")

def xgroupHelp : List String :=
  ["XGROUP <subcommand> [<arg> ...]. Subcommands are:", "CREATE <key> <groupname> <id|$> [MKSTREAM] [ENTRIESREAD <n>]",
    "DESTROY <key> <groupname>", "CREATECONSUMER <key> <groupname> <consumername>",
    "DELCONSUMER <key> <groupname> <consumername>", "SETID <key> <groupname> <id|$> [ENTRIESREAD <n>]",
    "HELP -- print this help"]

inductive XgroupSub where
  | create | destroy | setid | createconsumer | delconsumer | help
  deriving DecidableEq

def XgroupSub.table : List (Bytes × XgroupSub) :=
  [(ascii "CREATE", .create), (ascii "DESTROY", .destroy), (ascii "SETID", .setid),
    (ascii "CREATECONSUMER", .createconsumer), (ascii "DELCONSUMER", .delconsumer), (ascii "HELP", .help)]

def XgroupSub.ofText : Option XgroupSub := XgroupSub.table.lookup (upperText text)

def handleXgroup : List Bytes → Handled F
  | sub :: args =>
    match XgroupSub.ofText sub with
    | some .create => handleXgroupCreate setting keyspace args
    | some .destroy => handleXgroupDestroy setting keyspace args
    | some .setid => handleXgroupSetid setting keyspace args
    | some .createconsumer => handleXgroupCreateconsumer setting keyspace args
    | some .delconsumer => handleXgroupDelconsumer setting keyspace args
    | some .help => (keyspace, .ok (.array (xgroupHelp.map fun line => .bulkString (some (ascii line)))))
    | none =>
      (keyspace, .ok (.error (ascii "ERR unknown subcommand '" ++ upperText sub ++ ascii "'. Try XGROUP HELP.")))
  | [] => (keyspace, failure "ERR wrong number of arguments for 'xgroup' command")

structure ReadOptions where
  count : Option Nat
  noack : Bool

inductive ReadToken where
  | count | block | noack | streams

def ReadToken.table : List (Bytes × ReadToken) :=
  [(ascii "COUNT", .count), (ascii "BLOCK", .block), (ascii "NOACK", .noack), (ascii "STREAMS", .streams)]

def ReadToken.ofText : Option ReadToken := ReadToken.table.lookup (upperText text)

def readOptions (opts : ReadOptions) : List Bytes → Except String (ReadOptions × List Bytes)
  | [] => .ok (opts, [])
  | word :: rest =>
    match ReadToken.ofText word with
    | none => .error "ERR syntax error"
    | some .streams => .ok (opts, rest)
    | some .noack => readOptions { opts with noack := true } rest
    | some .count =>
      match rest with
      | [] => .error "ERR syntax error"
      | number :: rest =>
        match nonNegative number with
        | some count => readOptions { opts with count := some count } rest
        | none => .error outOfRange
    | some .block =>
      match rest with
      | [] => .error "ERR syntax error"
      | number :: rest =>
        match i64OfText number with
        | some ms => if 0 ≤ ms then readOptions opts rest else .error "ERR timeout is negative"
        | none => .error "ERR timeout is not an integer or out of range"

/-- One pass over the streams of a group read; a failure keeps what was read before it. -/
def xreadgroupOnce (setting : Setting) (group consumer : Bytes) (opts : ReadOptions) :
    Keyspace F → List (Bytes × Bytes) → Keyspace F × Except RespValue (List RespValue)
  | keyspace, [] => (keyspace, .ok [])
  | keyspace, (key, idSpec) :: rest =>
    let purged := keyspace.purgeIfExpired setting.now key
    match keyspace.keyType setting.now key with
    | none => (purged, .error (noGroupFor key))
    | some type =>
      if type ≠ .stream then (purged, .error (.error Error.wrongType.toRespString))
      else match purged.get streams key with
        | none => (purged, .error (noGroupFor key))
        | some stream =>
          match stream.xreadgroupOpts setting.now group consumer idSpec opts.count opts.noack with
          | .error text => (purged, .error (streamError key text))
          | .ok (stream, ids) =>
            let (keyspace, replies) := xreadgroupOnce setting group consumer opts (purged.write streams key stream) rest
            let reply := RespValue.array [.bulkString (some key), .array (ids.map (entryReply stream))]
            (keyspace, replies.map fun replies => if ids = [] then replies else reply :: replies)

def handleXreadgroup (args : List Bytes) : Handled F :=
  match args with
  | groupWord :: group :: consumer :: options =>
    if options.length < 3 then (keyspace, failure "ERR wrong number of arguments for 'xreadgroup' command")
    else if upperText groupWord ≠ ascii "GROUP" then (keyspace, failure "ERR syntax error")
    else match readOptions ⟨none, false⟩ options with
      | .error text => (keyspace, failure text)
      | .ok (opts, words) =>
        if words.length < 2 ∨ words.length % 2 = 1 then
          (keyspace, failure
            "ERR Unbalanced XREADGROUP list of streams: for each stream key one ID must be specified.")
        else
          let half := words.length / 2
          match xreadgroupOnce setting group consumer opts keyspace ((words.take half).zip (words.drop half)) with
          | (keyspace, .error reply) => (keyspace, .ok reply)
          | (keyspace, .ok []) => (keyspace, .ok .nil)
          | (keyspace, .ok (reply :: replies)) => (keyspace, .ok (.array (reply :: replies)))
  | _ => (keyspace, failure "ERR wrong number of arguments for 'xreadgroup' command")

def handleXack : List Bytes → Handled F
  | key :: group :: first :: rest =>
    match (first :: rest).mapM ofText with
    | none => (keyspace, .ok (.error invalidStreamId))
    | some ids =>
      guardType streams setting keyspace key fun keyspace =>
        match keyspace.get streams key with
        | none => (keyspace, .ok (.integer 0))
        | some stream =>
          match stream.xack group ids with
          | .error text => (keyspace, .ok (.error text))
          | .ok (stream, count) => (keyspace.write streams key stream, .ok (.integer count))
  | _ => (keyspace, failure "ERR wrong number of arguments for 'xack' command")

inductive ClaimToken where
  | force | justid | idle | time | retrycount | lastid
  deriving DecidableEq

def ClaimToken.table : List (Bytes × ClaimToken) :=
  [(ascii "FORCE", .force), (ascii "JUSTID", .justid), (ascii "IDLE", .idle), (ascii "TIME", .time),
    (ascii "RETRYCOUNT", .retrycount), (ascii "LASTID", .lastid)]

def ClaimToken.ofText : Option ClaimToken := ClaimToken.table.lookup (upper text)

def ClaimToken.apply (value : Nat) (opts : XClaimOpts) : ClaimToken → XClaimOpts
  | idle => { opts with idleMs := some value }
  | time => { opts with timeMs := some value }
  | retrycount => { opts with retrycount := some value }
  | _ => opts

def claimWords (opts : XClaimOpts) (ids : List StreamId) : List Bytes → Except Bytes (XClaimOpts × List StreamId)
  | [] => .ok (opts, ids)
  | word :: rest =>
    match ClaimToken.ofText word with
    | some .force => claimWords { opts with force := true } ids rest
    | some .justid => claimWords { opts with justId := true } ids rest
    | some .lastid =>
      match rest with
      | [] => .ok (opts, ids)
      | _ :: rest => claimWords opts ids rest
    | some token =>
      match rest with
      | [] => .error (ascii "ERR syntax error")
      | number :: rest =>
        match nonNegative number with
        | some value => claimWords (token.apply value opts) ids rest
        | none => .error (ascii outOfRange)
    | none =>
      match ofText word with
      | some id => claimWords opts (ids ++ [id]) rest
      | none => .error invalidStreamId

def handleXclaim : List Bytes → Handled F
  | key :: group :: consumer :: minIdle :: first :: rest =>
    match nonNegative minIdle with
    | none => (keyspace, failure outOfRange)
    | some minIdleMs =>
      match claimWords ⟨minIdleMs, false, none, none, none, false⟩ [] (first :: rest) with
      | .error text => (keyspace, .ok (.error text))
      | .ok (_, []) => (keyspace, failure "ERR wrong number of arguments for 'xclaim' command")
      | .ok (opts, id :: ids) =>
        onStream setting keyspace key (noGroupFor key) fun stream =>
          (stream.xclaim setting.now group consumer (id :: ids) opts).map fun (stream, claimed) =>
            (stream, .array (if opts.justId then claimed.map fun id => .bulkString (some id.toText)
              else (claimed.filter fun id => (stream.entries.lookup id).isSome).map (entryReply stream)))
  | _ => (keyspace, failure "ERR wrong number of arguments for 'xclaim' command")

structure SetidOptions where
  entriesAdded : Option Nat
  maxDeleted : Option StreamId

def setidOptions (opts : SetidOptions) : List Bytes → Except Bytes SetidOptions
  | [] => .ok opts
  | word :: rest =>
    if upper word = ascii "ENTRIESADDED" then
      match rest with
      | [] => .error (ascii "ERR syntax error")
      | number :: rest =>
        match nonNegative number with
        | some count => setidOptions { opts with entriesAdded := some count } rest
        | none => .error (ascii outOfRange)
    else if upper word = ascii "MAXDELETEDID" then
      match rest with
      | [] => .error (ascii "ERR syntax error")
      | text :: rest =>
        match ofText text with
        | some id => setidOptions { opts with maxDeleted := some id } rest
        | none => .error invalidStreamId
    else .error (ascii "ERR syntax error")

def handleXsetid : List Bytes → Handled F
  | key :: idSpec :: options =>
    match ofText idSpec with
    | none => (keyspace, .ok (.error invalidStreamId))
    | some id =>
      match setidOptions ⟨none, none⟩ options with
      | .error text => (keyspace, .ok (.error text))
      | .ok opts =>
        onStream setting keyspace key (.error (ascii "ERR no such key")) fun stream =>
          (stream.xsetid id opts.entriesAdded opts.maxDeleted).map fun stream => (stream, .ok)
  | _ => (keyspace, failure "ERR wrong number of arguments for 'xsetid' command")

end Kore.Commands
