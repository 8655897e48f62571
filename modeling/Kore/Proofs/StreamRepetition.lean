import Mathlib.Data.List.TakeWhile
import Kore.Proofs.GroupReads

/-! Stream commands that the loader of the append-only file executes a second time. It
knows fewer options than the handlers do, and another process visits the consumers of a
group in another order. -/

namespace Kore.Proofs.StreamRepetition
open Foundation Protocol Cache Commands Persistence Repetition GroupReads List Except StreamId RedisStream Bool Prod

variable {F α : Type}
variable {text key idSpec name group consumer : Bytes} {byte : UInt8} {id : StreamId} {now count : Nat} {keyspace : Keyspace F}
  {setting : Setting} {args words rest : List Bytes} {stream : RedisStream} {ids : List StreamId} {opts : ReadOptions}

/-! Identifiers are ASCII texts. -/

private theorem splitOnce_eq {separator : UInt8} {front back : Bytes}
    (split : splitOnce separator text = some (front, back)) : text = front ++ separator :: back := by
  induction text generalizing front with
  | nil => cases split
  | cons byte rest ih =>
    unfold splitOnce at split
    split at split
    next same =>
      cases split
      rw [same, nil_append]
    next =>
      obtain ⟨⟨inner, after⟩, later, same⟩ := Option.map_eq_some_iff.mp split
      cases same
      rw [ih later, cons_append]

private theorem isUtf8_spaces {front : List Bytes} (known : ∀ word ∈ front, word ∈ spaces) : isUtf8 front.flatten = true := by
  have valid : ∀ word ∈ spaces, isUtf8 word = true := by decide +kernel
  induction front with
  | nil => rfl
  | cons word front ih =>
    obtain ⟨space, later⟩ := forall_mem_cons.mp known
    rw [flatten_cons, isUtf8_append (valid word space), ih later]

private theorem trim_eq (text : Bytes) : ∃ front back : List Bytes, text = front.flatten ++ (trim text ++ back.flatten) ∧
    (∀ word ∈ front, word ∈ spaces) ∧ ∀ word ∈ back, word ∈ spaces := by
  obtain ⟨front, before, known⟩ := trimStart_eq spaces text.length text
  obtain ⟨back, after, others⟩ := trimStart_eq (spaces.map reverse) (trimStart spaces text.length text).length
    (trimStart spaces text.length text).reverse
  refine ⟨front, (back.map reverse).reverse, ?_, known, fun word member => ?_⟩
  · rw [trim, ← reverse_flatten, ← reverse_append, ← after, reverse_reverse]
    exact before
  · obtain ⟨turned, there, rfl⟩ := mem_map.mp (mem_reverse.mp member)
    obtain ⟨space, listed, rfl⟩ := mem_map.mp (others turned there)
    rwa [reverse_reverse]

private theorem component_ascii {value : UInt64} (read : component text = some value) :
    ∀ byte ∈ text, byte < 128 := by
  obtain ⟨number, unsigned, _⟩ := Option.map_eq_some_iff.mp read
  exact unsignedOfText_ascii unsigned

private theorem components_ascii {ms seq : Bytes} {first second : UInt64} (split : splitOnce 45 text = some (ms, seq))
    (front : component ms = some first) (back : component seq = some second) :
    ∀ byte ∈ text, byte < 128 := by
  rw [splitOnce_eq split]
  intro byte member
  rcases mem_append.mp member with early | late
  · exact component_ascii front byte early
  · rcases mem_cons.mp late with rfl | later
    · decide
    · exact component_ascii back byte later

private theorem parseExplicit_ascii (read : parseExplicit text = some id) :
    ∀ byte ∈ trim text, byte < 128 := by
  obtain ⟨⟨ms, seq⟩, split, rest⟩ := Option.bind_eq_some_iff.mp read
  obtain ⟨first, front, rest⟩ := Option.bind_eq_some_iff.mp rest
  obtain ⟨second, back, _⟩ := Option.bind_eq_some_iff.mp rest
  exact components_ascii split front back

private theorem parse_ascii (read : parse text = some id) :
    ∀ byte ∈ trim text, byte < 128 := by
  unfold parse at read
  dsimp only at read
  split at read
  · cases read
  split at read
  next dash => rw [dash]; exact all_iff_forall_prop.mp rfl
  split at read
  next plus => rw [plus]; exact all_iff_forall_prop.mp rfl
  split at read
  · cases read
  split at read
  next ms seq split =>
    obtain ⟨first, front, rest⟩ := Option.bind_eq_some_iff.mp read
    obtain ⟨second, back, _⟩ := Option.bind_eq_some_iff.mp rest
    exact components_ascii split front back
  next =>
    obtain ⟨ms, whole, _⟩ := Option.map_eq_some_iff.mp read
    exact component_ascii whole

private theorem isUtf8_of_trim (small : ∀ byte ∈ trim text, byte < 128) : isUtf8 text = true := by
  obtain ⟨front, back, same, before, after⟩ := trim_eq text
  rw [same, isUtf8_append (isUtf8_spaces before), isUtf8_append (isUtf8_of_ascii small), isUtf8_spaces after]

theorem parseExplicit_utf8 (read : parseExplicit text = some id) : isUtf8 text = true :=
  isUtf8_of_trim (parseExplicit_ascii read)

theorem ofText_utf8 (read : ofText text = some id) : isUtf8 text = true := by
  rcases Option.or_eq_some_iff.mp read with explicit | ⟨_, other⟩
  · exact parseExplicit_utf8 explicit
  · exact isUtf8_of_trim (parse_ascii other)

/-! Operations on one stream. -/

theorem purge_of_held {container : Container F α} {value : α}
    (held : (keyspace.purgeIfExpired now key).get container key = some value) : keyspace.purgeIfExpired now key = keyspace := by
  rcases purge_cases now keyspace key with absent | same
  · rw [Keyspace.get, absent] at held
    cases held
  · exact same

private theorem not_succeeds_streamError : answerSucceeds (.ok (streamError key text)) = false := by
  unfold streamError
  split <;> rfl

theorem onStream_repeats {missing : RespValue}
    {operation : RedisStream → Except Bytes (RedisStream × RespValue)} {again : RedisStream → Except Bytes (RedisStream × α)}
    (present : fresh setting keyspace key = true ∨ answerSucceeds (.ok missing) = false)
    (same : ∀ {stream result}, keyspace.get streams key = some stream → operation stream = .ok result →
      (again stream).map fst = .ok result.1) :
    Repeats (Aof.onStream keyspace key again) (onStream setting keyspace key missing operation) := by
  intro success
  unfold onStream at success ⊢
  rw [guardType_of_succeeds success]
  rw [guardType_of_succeeds success] at success
  cases held : (keyspace.purgeIfExpired setting.now key).get streams key with
  | none =>
    rw [held] at success
    rcases present with unexpired | refused
    · rw [purge_of_fresh unexpired] at held ⊢
      rw [Aof.onStream, held]
    · exact absurd success (by rw [refused]; exact nofun)
  | some stream =>
    have unchanged := purge_of_held held
    rw [unchanged] at success held ⊢
    rw [Aof.onStream, held]
    cases result : operation stream with
    | error text => simp only [held, result, not_succeeds_streamError] at success; cases success
    | ok pair =>
      have agreed := same held result
      cases repeated : again stream with
      | error text => rw [repeated] at agreed; cases agreed
      | ok other =>
        rw [repeated] at agreed
        have streams : other.1 = pair.1 := ok.inj agreed
        simp [repeated, result, streams]

theorem xdel_repeats
    (unexpired : freshHead setting keyspace args = true) : Repeats (Aof.applyXdel keyspace args) (handleXdel setting keyspace args) := by
  intro success
  rcases args with _ | ⟨key, _ | ⟨first, rest⟩⟩
  · cases success
  · cases success
  unfold handleXdel at success ⊢
  cases read : (first :: rest).mapM ofText with
  | none => simp only [read] at success; cases success
  | some ids =>
    simp only [read] at success ⊢
    rw [Aof.applyXdel, filterMap_of_mapM read]
    refine onStream_repeats (.inl unexpired) ?_ success
    intro stream result held done
    rw [← ok.inj done]
    rfl

theorem xack_repeats
    (unexpired : freshHead setting keyspace args = true) : Repeats (Aof.applyXack keyspace args) (handleXack setting keyspace args) := by
  intro success
  rcases args with _ | ⟨key, _ | ⟨group, _ | ⟨first, rest⟩⟩⟩
  · cases success
  · cases success
  · cases success
  unfold handleXack at success ⊢
  cases read : (first :: rest).mapM ofText with
  | none => simp only [read] at success; cases success
  | some ids =>
    simp only [read] at success ⊢
    rw [guardType_of_succeeds success, purge_of_fresh unexpired, Aof.applyXack, filterMap_of_mapM read, Aof.onStream]
    rw [guardType_of_succeeds success, purge_of_fresh unexpired] at success
    cases held : keyspace.get streams key with
    | none => rfl
    | some stream =>
      cases result : stream.xack group ids with
      | error text => simp only [held, result] at success; cases success
      | ok pair => simp [result]

/-! Additions. -/

/-- No option stands between the key and the id. -/
def plainEntry : List Bytes → Bool
  | _ :: word :: _ => (XaddToken.ofText word).isNone
  | _ => true

variable {fields : List (Bytes × Bytes)}

private theorem xadd_utf8 {result : RedisStream × StreamId} (added : stream.xadd now idSpec fields = .ok result) :
    (if isUtf8 idSpec then idSpec else ascii "*") = idSpec := by
  unfold xadd at added
  split at added
  · cases added
  split at added
  next auto => rw [auto]; rfl
  split at added
  next => cases added
  next id explicit => rw [if_pos (parseExplicit_utf8 explicit)]

private theorem xaddWithTrim_untrimmed (walk : Walk) (fields : List (Bytes × Bytes)) :
    stream.xaddWithTrim now walk idSpec fields none none none = stream.xadd now idSpec fields := by
  unfold xaddWithTrim
  cases stream.xadd now idSpec fields <;> rfl

private theorem pairFields_eq_some (paired : pairFields words = some fields) :
    fields = pairs words ∧ ∃ field value rest, words = field :: value :: rest := by
  unfold pairFields at paired
  split at paired
  next => cases paired
  next even =>
    refine ⟨(Option.some.inj paired).symm, ?_⟩
    rcases words with _ | ⟨field, _ | ⟨value, rest⟩⟩
    · exact absurd (.inl rfl) even
    · exact absurd (.inr rfl) even
    · exact ⟨field, value, rest, rfl⟩

variable {walk : Walk}

theorem xadd_repeats (plain : plainEntry args = true) :
    RepeatsOk (Aof.applyXadd setting keyspace args) (handleXadd setting walk keyspace args) := by
  intro success
  rcases args with _ | ⟨key, _ | ⟨idSpec, _ | ⟨second, rest⟩⟩⟩
  · cases success
  · cases success
  · cases success
  have options : xaddOptions (rest.length + 2) ⟨false, none, none, none⟩ (idSpec :: second :: rest) =
      .ok (⟨false, none, none, none⟩, idSpec :: second :: rest) := by
    simp [xaddOptions, Option.isNone_iff_eq_none.mp plain]
  unfold handleXadd at success ⊢
  simp only [options] at success ⊢
  cases paired : pairFields (second :: rest) with
  | none => simp only [paired] at success; cases success
  | some fields =>
    obtain ⟨rfl, field, value, more, words⟩ := pairFields_eq_some paired
    obtain ⟨rfl, rfl⟩ := cons.inj words
    simp only [paired] at success ⊢
    unfold Aof.applyXadd applyInto
    cases created : keyspace.getOrCreate streams setting.now key with
    | error error => simp only [created] at success; cases success
    | ok made =>
      simp only [created, addEntry, Option.isSome_none, Bool.false_and, Bool.false_eq_true, if_false,
        xaddWithTrim_untrimmed] at success ⊢
      cases added : made.2.xadd setting.now idSpec (pairs (second :: value :: more)) with
      | error text => simp only [added] at success; cases success
      | ok result => simp [Except.map, xadd_utf8 added, added]

/-! Trims. -/

/-- No group still waits for one of the entries. -/
def unclaimed (stream : RedisStream) (ids : List StreamId) : Bool :=
  decide (∀ name ∈ stream.groups.keys, ∀ id ∈ ids,
    ((stream.groups.lookup name).bind fun group => group.pending.lookup id) = none)

/-- `MAXLEN` with at most a tilde, and a bound that trims no entry some group waits for; another
strategy may trim nothing at all. -/
def trimRepeats [DecidableEq F] (setting : Setting) (walk : Walk) (keyspace : Keyspace F) : List Bytes → Bool
  | key :: strategy :: first :: rest =>
    if upperText strategy = ascii "MAXLEN" then
      fresh setting keyspace key && match if first = ascii "~" then rest else first :: rest with
        | [text] =>
          match nonNegative text, keyspace.get streams key with
          | some most, some stream => unclaimed stream (stream.entries.keys.take (stream.entries.size - most))
          | _, _ => true
        | _ => false
    else decide ((handleXtrim setting walk keyspace (key :: strategy :: first :: rest)).1 = keyspace)
  | _ => true

private theorem pending_of_unclaimed (calm : unclaimed stream ids = true)
    {group : ConsumerGroup} (known : stream.groups.lookup name = some group) (member : id ∈ ids) :
    group.pending.lookup id = none := by
  have nowhere := of_decide_eq_true calm name (Finmap.mem_keys.mpr (Finmap.mem_of_lookup_eq_some known)) id member
  rwa [known, Option.bind_some] at nowhere

private theorem removeEntry_of_unclaimed (walk : Walk)
    (calm : unclaimed stream [id] = true) :
    removeEntryAndPel walk stream id =
      match stream.entries.lookup id with
      | some _ => { stream with
          entries := stream.entries.erase id, maxDeletedEntryId := max stream.maxDeletedEntryId id }
      | none => stream := by
  have fixed : stream.groups.mapValues (ConsumerGroup.releaseTrimmed walk id) = stream.groups := by
    apply FiniteMap.mapValues_eq_self
    intro name group known
    rw [ConsumerGroup.releaseTrimmed, pending_of_unclaimed calm known mem_cons_self]
  unfold removeEntryAndPel
  cases stream.entries.lookup id with
  | none => exact congrArg (fun groups => { stream with groups := groups }) fixed
  | some fields =>
    exact congrArg (fun groups => { stream with
      groups := groups, entries := stream.entries.erase id, maxDeletedEntryId := max stream.maxDeletedEntryId id }) fixed

private theorem removeEntries_of_unclaimed (walk other : Walk)
    (calm : unclaimed stream ids = true) :
    ids.foldl (removeEntryAndPel walk) stream = ids.foldl (removeEntryAndPel other) stream := by
  induction ids generalizing stream with
  | nil => rfl
  | cons id ids ih =>
    have split : unclaimed stream [id] = true ∧ unclaimed stream ids = true := by
      have all := of_decide_eq_true calm
      refine ⟨decide_eq_true fun name known other member => ?_, decide_eq_true fun name known other member => ?_⟩
      · exact all name known other (by rw [mem_singleton.mp member]; exact mem_cons_self)
      · exact all name known other (mem_cons_of_mem _ member)
    rw [foldl_cons, foldl_cons, removeEntry_of_unclaimed walk split.1, removeEntry_of_unclaimed other split.1]
    apply ih
    cases stream.entries.lookup id <;> exact split.2

private theorem nonNegative_eq_some (read : nonNegative text = some count) :
    ∃ value : Int, i64OfText text = some value ∧ 0 ≤ value ∧ value.toNat = count := by
  obtain ⟨value, found, positive⟩ := Option.bind_eq_some_iff.mp read
  split at positive
  next nonnegative => exact ⟨value, found, nonnegative, Option.some.inj positive⟩
  next => cases positive

private theorem unsigned_of_nonNegative (read : nonNegative text = some count) :
    (unsignedOfText u64Max text).getD 0 = count := by
  obtain ⟨value, found, positive, rfl⟩ := nonNegative_eq_some read
  exact unsignedOfText_of_i64 found positive

variable {strategy : Bytes}

private theorem trimKind_maxlen {kind : TrimKind} (maxlen : upperText strategy = ascii "MAXLEN")
    (read : trimKind strategy (some text) = .ok kind) : ∃ most, nonNegative text = some most ∧ kind = .maxlen most := by
  simp only [trimKind, maxlen, if_true] at read
  split at read
  next most found => exact ⟨most, found, (ok.inj read).symm⟩
  next => cases read

private theorem maxlen_repeats {other : Walk} (maxlen : upperText strategy = ascii "MAXLEN") (unexpired : fresh setting keyspace key = true)
    (calm : ∀ {most stream}, nonNegative text = some most → keyspace.get streams key = some stream →
      unclaimed stream (stream.entries.keys.take (stream.entries.size - most)) = true)
    (skipped : skipApprox words = [text]) (nonempty : words ≠ []) : Repeats (Aof.onStream keyspace key (fun stream =>
        .ok (stream.trimMaxlenLimit other ((unsignedOfText u64Max text).getD 0) none)))
      (handleXtrim setting walk keyspace (key :: strategy :: words)) := by
  intro success
  obtain ⟨first, rest, rfl⟩ := exists_cons_of_ne_nil nonempty
  unfold handleXtrim at success ⊢
  simp only [skipped, head?_cons, tail_cons, trimLimit] at success ⊢
  cases kinds : trimKind strategy (some text) with
  | error message => simp only [kinds] at success; cases success
  | ok kind =>
    obtain ⟨most, bound, rfl⟩ := trimKind_maxlen maxlen kinds
    simp only [kinds] at success ⊢
    refine onStream_repeats (.inl unexpired) ?_ success
    intro stream result held done
    rw [unsigned_of_nonNegative bound, ← ok.inj done]
    exact congrArg ok (removeEntries_of_unclaimed other walk (calm bound held))

theorem xtrim_repeats [DecidableEq F] {other : Walk} (repeats : trimRepeats setting walk keyspace args = true) :
    Repeats (Aof.applyXtrim other keyspace args) (handleXtrim setting walk keyspace args) := by
  intro success
  rcases args with _ | ⟨key, _ | ⟨strategy, _ | ⟨first, rest⟩⟩⟩
  · cases success
  · cases success
  · cases success
  unfold trimRepeats at repeats
  unfold Aof.applyXtrim
  by_cases maxlen : upperText strategy = ascii "MAXLEN"
  · simp only [maxlen, if_true, and_eq_true] at repeats ⊢
    obtain ⟨unexpired, plain⟩ := repeats
    split at plain
    next text words =>
      have calm : ∀ {most stream}, nonNegative text = some most → keyspace.get streams key = some stream →
          unclaimed stream (stream.entries.keys.take (stream.entries.size - most)) = true := by
        intro most stream bound held
        simpa only [bound, held] using plain
      simp only [words]
      by_cases tilde : first = ascii "~"
      · rw [if_pos tilde] at words
        refine maxlen_repeats maxlen unexpired calm ?_ (cons_ne_nil _ _) success
        rw [skipApprox, if_pos (.inl tilde), words]
      · rw [if_neg tilde] at words
        obtain ⟨rfl, rfl⟩ := cons.inj words
        by_cases equals : first = ascii "="
        · subst equals
          simp [handleXtrim, skipApprox, trimKind, maxlen, answerSucceeds, responseIndicatesSuccess] at success
        · refine maxlen_repeats maxlen unexpired calm ?_ (cons_ne_nil _ _) success
          rw [skipApprox, if_neg (not_or.mpr ⟨tilde, equals⟩)]
    next => cases plain
  · simp only [if_neg maxlen] at repeats ⊢
    exact (of_decide_eq_true repeats).symm

/-! Positions and groups. -/

private theorem map_fst_reply (result : Except Bytes RedisStream) (reply : α) :
    (result.map fun stream => (stream, reply)).map fst = result := by
  cases result <;> rfl

def plainPosition (args : List Bytes) : Bool := decide (args.length ≤ 2)

theorem xsetid_repeats (plain : plainPosition args = true) :
    Repeats (Aof.applyXsetid keyspace args) (handleXsetid setting keyspace args) := by
  intro success
  rcases args with _ | ⟨key, _ | ⟨idSpec, _ | ⟨option, rest⟩⟩⟩
  · cases success
  · cases success
  · unfold handleXsetid at success ⊢
    cases read : ofText idSpec with
    | none => simp only [read] at success; cases success
    | some id =>
      have unset : setidOptions ⟨none, none⟩ [] = .ok ⟨none, none⟩ := rfl
      simp only [read, unset] at success ⊢
      rw [Aof.applyXsetid, read]
      refine onStream_repeats (.inr ?_) ?_ success
      · rfl
      intro stream result held done
      rw [map_fst_reply, Option.getD_some, ← map_fst_reply (stream.xsetid id none none) RespValue.ok, done]
      rfl
  · exact absurd (of_decide_eq_true plain) (by simp)

/-- Subcommands and options that the loader knows; of the others, those that changed nothing. -/
def groupRepeats [DecidableEq F] (setting : Setting) (keyspace : Keyspace F) (args : List Bytes) : Bool :=
  match args with
  | sub :: key :: rest =>
    match XgroupSub.ofText sub with
    | some .create => (rest.drop 2).all fun word => decide (upper word ≠ ascii "ENTRIESREAD")
    | some .destroy => fresh setting keyspace key
    | some .setid => decide (rest.length ≤ 2) && decide (rest[1]? ≠ some (ascii "$"))
    | some .createconsumer | some .delconsumer => decide ((handleXgroup setting keyspace args).1 = keyspace)
    | some .help | none => true
  | _ => true

variable {last : StreamId}

private theorem groupStart_ofText (explicit : idSpec ≠ ascii "$")
    (start : groupStart idSpec last = some id) : ofText idSpec = some id := by
  rw [groupStart, if_neg explicit] at start
  split at start
  next zero =>
    obtain rfl := Option.some.inj start
    rcases zero with rfl | rfl <;> decide +kernel
  next => exact start

private theorem groupStart_utf8 (start : groupStart idSpec last = some id) : isUtf8 idSpec = true := by
  by_cases newest : idSpec = ascii "$"
  · subst newest
    rfl
  · exact ofText_utf8 (groupStart_ofText newest start)

variable {options : List Bytes}

private theorem groupOptions_plain {opts result : GroupOptions}
    (plain : options.all (fun word => decide (upper word ≠ ascii "ENTRIESREAD")) = true)
    (read : groupOptions true opts options = .ok result) :
    result = ⟨opts.mkstream || options.any (fun word => decide (upper word = ascii "MKSTREAM")), opts.entriesRead⟩ := by
  induction options generalizing opts with
  | nil =>
    obtain rfl := ok.inj read
    simp
  | cons word rest ih =>
    obtain ⟨other, later⟩ := (and_eq_true ..).mp plain
    unfold groupOptions at read
    split at read
    next make =>
      rw [ih later read]
      simp [make.2]
    next =>
      rw [if_neg (of_decide_eq_true other)] at read
      cases read

private theorem createGroup_repeats
    (held : keyspace.get streams key = some stream) : Repeats (Aof.onStream keyspace key (fun other => (other.groupCreate name
        ((groupStart (if isUtf8 idSpec then idSpec else ascii "0") stream.lastId).getD .zero) none).map fun stream => (stream, ())))
      (createGroup key name idSpec none keyspace) := by
  intro success
  unfold createGroup at success ⊢
  simp only [held] at success ⊢
  cases start : groupStart idSpec stream.lastId with
  | none => simp only [start] at success; cases success
  | some id =>
    simp only [start] at success ⊢
    rw [if_pos (groupStart_utf8 start), start, Option.getD_some, Aof.onStream, held]
    cases created : stream.groupCreate name id none with
    | error text => simp only [created] at success; cases success
    | ok result => simp [created, Except.map]

private theorem get_of_created {created : Keyspace F}
    (absent : keyspace.get streams key = none) (made : keyspace.getOrCreate streams setting.now key = .ok (created, stream)) :
    created.get streams key = some new := by
  unfold Keyspace.getOrCreate at made
  cases found : (keyspace.purgeIfExpired setting.now key).lookup key with
  | none =>
    simp only [found] at made
    obtain ⟨rfl, rfl⟩ := mk.inj (ok.inj made)
    rw [Keyspace.get, Finmap.lookup_insert]
    rfl
  | some slot =>
    rcases purge_cases setting.now keyspace key with gone | same
    · rw [gone] at found
      cases found
    · rw [same] at found
      rw [Keyspace.get, found, Option.bind_some] at absent
      simp only [same, found, absent] at made
      cases made

private theorem create_repeats
    (plain : (rest.drop 2).all (fun word => decide (upper word ≠ ascii "ENTRIESREAD")) = true) :
    RepeatsOk (Aof.applyXgroupCreate setting keyspace (key :: rest)) (handleXgroupCreate setting keyspace (key :: rest)) := by
  intro success
  rcases rest with _ | ⟨name, _ | ⟨idSpec, options⟩⟩
  · cases success
  · cases success
  change options.all (fun word => decide (upper word ≠ ascii "ENTRIESREAD")) = true at plain
  unfold handleXgroupCreate at success ⊢
  unfold Aof.applyXgroupCreate
  cases read : groupOptions true ⟨false, none⟩ options with
  | error text => simp only [read] at success; cases success
  | ok opts =>
    obtain rfl := groupOptions_plain plain read
    simp only [read, Bool.false_or] at success ⊢
    cases held : keyspace.get streams key with
    | none =>
      simp only [held] at success ⊢
      by_cases make : options.any (fun word => decide (upper word = ascii "MKSTREAM")) = true
      · simp only [make] at success ⊢
        cases made : keyspace.getOrCreate streams setting.now key with
        | error error => simp only [made] at success; cases success
        | ok pair =>
          simp only [made] at success ⊢
          have same := createGroup_repeats (get_of_created held made) success
          exact congrArg ok same
      · simp only [if_neg make] at success
        cases success
    | some stream =>
      simp only [held] at success ⊢
      rw [guardType_of_succeeds success]
      rw [guardType_of_succeeds success] at success
      rcases purge_cases setting.now keyspace key with gone | same
      · simp only [gone] at success
        cases success
      · rw [same] at success ⊢
        split at success
        next => cases success
        next found =>
          rw [if_neg found]
          exact congrArg ok (createGroup_repeats held success)

private theorem destroy_repeats
    (unexpired : fresh setting keyspace key = true)
    (success : answerSucceeds (handleXgroupDestroy setting keyspace (key :: rest)).2 = true) :
    ∃ name, rest = [name] ∧ Aof.onStream keyspace key (fun stream => .ok (stream.groupDestroy name)) =
      (handleXgroupDestroy setting keyspace (key :: rest)).1 := by
  rcases rest with _ | ⟨name, _ | ⟨extra, rest⟩⟩
  · cases success
  · refine ⟨name, rfl, onStream_repeats (.inl unexpired) ?_ success⟩
    intro stream result held done
    rw [← ok.inj done]
    rfl
  · cases success

private theorem setid_repeats
    (short : rest.length ≤ 2) (explicit : rest[1]? ≠ some (ascii "$"))
    (success : answerSucceeds (handleXgroupSetid setting keyspace (key :: rest)).2 = true) :
    ∃ name idSpec, rest = [name, idSpec] ∧ Aof.onStream keyspace key (fun stream =>
        stream.groupSetid name ((ofText idSpec).getD .zero) none) =
      (handleXgroupSetid setting keyspace (key :: rest)).1 := by
  rcases rest with _ | ⟨name, _ | ⟨idSpec, _ | ⟨option, rest⟩⟩⟩
  · cases success
  · cases success
  · refine ⟨name, idSpec, rfl, ?_⟩
    have newest : idSpec ≠ ascii "$" := fun same => explicit (congrArg some same)
    have unset : groupOptions false ⟨false, none⟩ [] = .ok ⟨false, none⟩ := rfl
    unfold handleXgroupSetid at success ⊢
    refine onStream_repeats (.inr ?_) ?_ success
    · rfl
    intro stream result held done
    cases start : groupStart idSpec stream.lastId with
    | none => simp only [start] at done; cases done
    | some id =>
      simp only [start] at done
      rw [groupStart_ofText newest start, Option.getD_some]
      cases set : stream.groupSetid name id none with
      | error text => rw [set] at done; cases done
      | ok pair =>
        rw [set] at done
        rw [← ok.inj done]
        rfl
  · exact absurd short (by simp)

theorem xgroup_repeats [DecidableEq F]
    (repeats : groupRepeats setting keyspace args = true) :
    RepeatsOk (Aof.applyXgroup setting keyspace args) (handleXgroup setting keyspace args) := by
  intro success
  rcases args with _ | ⟨sub, _ | ⟨key, rest⟩⟩
  · cases success
  · unfold handleXgroup at success ⊢
    cases known : XgroupSub.ofText sub with
    | none => simp only [known] at success; cases success
    | some word =>
      cases word with
      | help => simp only [known]; rfl
      | _ => simp only [known] at success; cases success
  · unfold groupRepeats at repeats
    unfold Aof.applyXgroup
    cases known : XgroupSub.ofText sub with
    | none => simp only [handleXgroup, known] at success; cases success
    | some word =>
      cases word with
      | create =>
        simp only [handleXgroup, known] at repeats success ⊢
        exact create_repeats repeats success
      | destroy =>
        simp only [handleXgroup, known] at repeats success ⊢
        obtain ⟨name, rfl, same⟩ := destroy_repeats repeats success
        exact congrArg ok same
      | setid =>
        simp only [handleXgroup, known, and_eq_true, decide_eq_true_eq] at repeats success ⊢
        obtain ⟨name, idSpec, rfl, same⟩ := setid_repeats repeats.1 repeats.2 success
        exact congrArg ok same
      | createconsumer | delconsumer =>
        simp only [known, decide_eq_true_eq] at repeats ⊢
        rw [repeats]
      | help => simp [handleXgroup, known]

/-! Claims. -/

/-- No `LASTID`, and no sign before the numbers that the loader reads as unsigned ones. -/
def plainClaim : List Bytes → Bool
  | [] => true
  | word :: rest =>
    match ClaimToken.ofText word with
    | some .lastid => false
    | some .time | some .retrycount =>
      match rest with
      | [] => true
      | text :: rest => decide (text.head? ≠ some 45) && plainClaim rest
    | some .idle =>
      match rest with
      | [] => true
      | _ :: rest => plainClaim rest
    | some .force | some .justid | none => plainClaim rest

/-- The form that a rewritten log uses, or a claim without `FORCE` that changed nothing. -/
def claimRepeats [DecidableEq F] (setting : Setting) (keyspace : Keyspace F) (args : List Bytes) : Bool :=
  match args with
  | _ :: _ :: _ :: minIdle :: words =>
    plainClaim words && match nonNegative minIdle with
      | none => true
      | some least =>
        match claimWords ⟨least, false, none, none, none, false⟩ [] words with
        | .error _ => true
        | .ok (opts, _) =>
          if opts.force then
            least == 0 && (opts.timeMs.isSome || opts.idleMs.isNone) && (opts.retrycount.isSome || !opts.justId)
          else decide ((handleXclaim setting keyspace args).1 = keyspace)
  | _ => true

/-- What the two readings of the words of a claim have in common. -/
private structure SameClaim (least : Nat) (opts : XClaimOpts) (ids : List StreamId) (words : Aof.ClaimWords) : Prop where
  least : opts.minIdleMs = least
  force : words.force = opts.force
  time : words.timeMs = opts.timeMs
  retry : words.retry = opts.retrycount
  ids : words.ids = ids

private theorem unsigned_of_unsigned (plain : text.head? ≠ some 45)
    (read : nonNegative text = some count) : unsignedOfText u64Max text = some count := by
  obtain ⟨value, found, _, rfl⟩ := nonNegative_eq_some read
  exact unsignedOfText_of_i64_unsigned found plain

private theorem claimWords_same {least : Nat} {opts : XClaimOpts}
    {state : Aof.ClaimWords} {result : XClaimOpts × List StreamId} (plain : plainClaim words = true)
    (same : SameClaim least opts ids state) (read : claimWords opts ids words = .ok result) :
    SameClaim least result.1 result.2 (Aof.claimWords state words) := by
  fun_induction claimWords opts ids words generalizing state with
  | case1 opts ids =>
    rw [← ok.inj read]
    exact same
  | case2 opts ids word rest known ih =>
    unfold plainClaim at plain
    unfold Aof.claimWords
    simp only [known] at plain ⊢
    exact ih plain ⟨same.least, rfl, same.time, same.retry, same.ids⟩ read
  | case3 opts ids word rest known ih =>
    unfold plainClaim at plain
    unfold Aof.claimWords
    simp only [known] at plain ⊢
    exact ih plain ⟨same.least, same.force, same.time, same.retry, same.ids⟩ read
  | case4 opts ids word known | case5 opts ids word known =>
    simp only [plainClaim, known] at plain
    cases plain
  | case6 | case8 | case10 => cases read
  | case7 opts ids word token force justid lastid known number rest count found ih =>
    cases token with
    | force => exact absurd rfl force
    | justid => exact absurd rfl justid
    | lastid => exact absurd rfl lastid
    | idle =>
      simp only [plainClaim, Aof.claimWords, known] at plain ⊢
      exact ih plain ⟨same.least, same.force, same.time, same.retry, same.ids⟩ read
    | time =>
      simp only [plainClaim, Aof.claimWords, known, and_eq_true, decide_eq_true_eq] at plain ⊢
      exact ih plain.2 ⟨same.least, same.force, unsigned_of_unsigned plain.1 found, same.retry, same.ids⟩ read
    | retrycount =>
      simp only [plainClaim, Aof.claimWords, known, and_eq_true, decide_eq_true_eq] at plain ⊢
      exact ih plain.2 ⟨same.least, same.force, same.time, unsigned_of_unsigned plain.1 found, same.ids⟩ read
  | case9 opts ids word rest known id found ih =>
    unfold plainClaim at plain
    unfold Aof.claimWords
    simp only [known, found] at plain ⊢
    exact ih plain ⟨same.least, same.force, same.time, same.retry, by rw [same.ids]; rfl⟩ read

private theorem claim_congr {time : Nat} {first second : XClaimOpts} {group : ConsumerGroup}
    (least : first.minIdleMs = second.minIdleMs) (force : first.force = second.force)
    (retry : first.retrycount = second.retrycount) (justId : first.retrycount.isSome = true ∨ first.justId = second.justId) :
    group.claim now time name first id = group.claim now time name second id := by
  unfold ConsumerGroup.claim
  rw [least, force, retry]
  rw [retry] at justId
  cases retries : second.retrycount with
  | some count => rfl
  | none =>
    rcases justId with given | same
    · rw [retries] at given
      cases given
    · rw [same]

/-- With a delivery time or no idle time, a forced claim is the one that a rewritten log asks for. -/
private theorem xclaim_forced {opts : XClaimOpts}
    (least : opts.minIdleMs = 0) (force : opts.force = true) (timed : opts.timeMs.isSome = true ∨ opts.idleMs = none)
    (counted : opts.retrycount.isSome = true ∨ opts.justId = false) :
    stream.xclaimForce now group consumer ids opts.timeMs opts.retrycount = stream.xclaim now group consumer ids opts := by
  have claims : ∀ time id (member : ConsumerGroup),
      member.claim now time consumer ⟨0, true, opts.timeMs, none, opts.retrycount, false⟩ id = member.claim now time consumer opts id :=
    fun time id member => claim_congr least.symm force.symm rfl (counted.imp_right Eq.symm)
  unfold xclaimForce xclaim claimId
  simp only [claims]
  cases time : opts.timeMs with
  | some time => rfl
  | none =>
    rcases timed with given | unset
    · rw [time] at given
      cases given
    · rw [unset]

theorem xclaim_repeats [DecidableEq F]
    (repeats : claimRepeats setting keyspace args = true) :
    Repeats (Aof.applyXclaim setting keyspace args) (handleXclaim setting keyspace args) := by
  intro success
  rcases args with _ | ⟨key, _ | ⟨group, _ | ⟨consumer, _ | ⟨minIdle, _ | ⟨first, rest⟩⟩⟩⟩⟩
  · cases success
  · cases success
  · cases success
  · cases success
  · cases success
  unfold claimRepeats at repeats
  cases least : nonNegative minIdle with
  | none => simp only [handleXclaim, least] at success; cases success
  | some count =>
    cases read : claimWords ⟨count, false, none, none, none, false⟩ [] (first :: rest) with
    | error text => simp only [handleXclaim, least, read] at success; cases success
    | ok result =>
      obtain ⟨opts, ids⟩ := result
      simp only [least, read, Bool.and_eq_true] at repeats
      obtain ⟨plain, form⟩ := repeats
      have start : SameClaim count ⟨count, false, none, none, none, false⟩ [] ⟨false, none, none, []⟩ := ⟨rfl, rfl, rfl, rfl, rfl⟩
      have same := claimWords_same plain start read
      unfold Aof.applyXclaim
      simp only [same.force, same.ids, same.time, same.retry]
      by_cases force : opts.force = true
      · simp only [force, if_true, Bool.and_eq_true, beq_iff_eq, Bool.or_eq_true, Option.isNone_iff_eq_none,
          Bool.not_eq_true'] at form
        obtain ⟨⟨zero, timed⟩, counted⟩ := form
        unfold handleXclaim at success ⊢
        simp only [least, read] at success ⊢
        rcases ids with _ | ⟨id, ids⟩
        · cases success
        simp only [force, Bool.not_true, isEmpty_cons, Bool.or_self] at success ⊢
        refine onStream_repeats (.inr ?_) ?_ success
        · rfl
        intro stream result held done
        rw [xclaim_forced (same.least.trans zero) force timed counted]
        cases claimed : stream.xclaim setting.now group consumer (id :: ids) opts with
        | error text => rw [claimed] at done; cases done
        | ok pair =>
          rw [claimed] at done
          rw [← ok.inj done]
          rfl
      · rw [if_neg force, decide_eq_true_eq] at form
        simp [force, form]

/-! Group reads. -/

/-- New entries only, all of them to be acknowledged, and no sign before the count. -/
def plainRead : List Bytes → Bool
  | [] => true
  | word :: rest =>
    match ReadToken.ofText word with
    | none => true
    | some .noack => false
    | some .count =>
      match rest with
      | [] => true
      | text :: rest => decide (text.head? ≠ some 45) && plainRead rest
    | some .block =>
      match rest with
      | [] => true
      | _ :: rest => plainRead rest
    | some .streams => (rest.drop (rest.length / 2)).all fun idSpec => decide (idSpec = ascii ">")

/-- The options follow the three words that name the group and the consumer. -/
def readRepeats (args : List Bytes) : Bool := plainRead (args.drop 3)

private theorem not_group {word : Bytes} {token : ReadToken} (known : ReadToken.ofText word = some token) :
    upperText word ≠ ascii "GROUP" := by
  intro same
  rw [ReadToken.ofText, same] at known
  have missing : ReadToken.table.lookup (ascii "GROUP") = none := by decide +kernel
  cases known

private theorem readWords_same (group : Option (Bytes × Bytes))
    {result : ReadOptions × List Bytes} (plain : plainRead options = true) (acked : opts.noack = false)
    (read : readOptions opts options = .ok result) :
    Aof.readWords ⟨group, opts.count⟩ options = (⟨group, result.1.count⟩, result.2) ∧ result.1.noack = false ∧
      ∀ idSpec ∈ result.2.drop (result.2.length / 2), idSpec = ascii ">" := by
  fun_induction readOptions opts options with
  | case1 opts =>
    rw [← ok.inj read]
    exact ⟨rfl, acked, by simp⟩
  | case2 | case5 | case7 | case8 | case10 | case11 => cases read
  | case3 opts word rest known =>
    unfold plainRead at plain
    unfold Aof.readWords
    simp only [known, all_eq_true, decide_eq_true_eq] at plain
    rw [← ok.inj read]
    simp only [if_neg (not_group known), known]
    exact ⟨trivial, acked, plain⟩
  | case4 opts word rest known ih =>
    unfold plainRead at plain
    simp only [known] at plain
    cases plain
  | case6 opts word known number rest count found ih =>
    unfold plainRead at plain
    unfold Aof.readWords
    simp only [known, and_eq_true, decide_eq_true_eq] at plain
    simp only [if_neg (not_group known), known, unsigned_of_unsigned plain.1 found]
    exact ih plain.2 acked read
  | case9 opts word known number rest ms found positive ih =>
    unfold plainRead at plain
    unfold Aof.readWords
    simp only [known] at plain
    simp only [if_neg (not_group known), known]
    exact ih plain acked read

private theorem reads_repeat
    {pairs : List (Bytes × Bytes)} {replies : List RespValue} (acked : opts.noack = false)
    (new : ∀ pair ∈ pairs, pair.2 = ascii ">")
    (done : (xreadgroupOnce setting group consumer opts keyspace pairs).2 = .ok replies) :
    pairs.foldl (Aof.readAgain setting group consumer opts.count) keyspace =
      (xreadgroupOnce setting group consumer opts keyspace pairs).1 := by
  induction pairs generalizing keyspace replies with
  | nil => rfl
  | cons pair pairs ih =>
    rcases once_cases with ⟨_, reply, _, shape⟩ | ⟨stream, changed, ids, reply, takes, shape⟩
    · rw [shape] at done
      cases done
    · obtain ⟨key, idSpec⟩ := pair
      obtain rfl : idSpec = ascii ">" := new _ mem_cons_self
      have held := takes.held
      rw [takes.purge] at held
      have same : stream.xreadgroup setting.now group consumer (ascii ">") opts.count = .ok (changed, ids) := by
        rw [← takes.done, acked]
        rfl
      rw [shape] at done ⊢
      simp only [foldl_cons, Aof.readAgain, ite_self, Aof.onStream, held, same]
      cases later : (xreadgroupOnce setting group consumer opts (keyspace.write streams key changed) pairs).2 with
      | error reply => rw [later] at done; cases done
      | ok more => exact ih (fun pair member => new pair (mem_cons_of_mem _ member)) later

theorem xreadgroup_repeats (repeats : readRepeats args = true) :
    Repeats (Aof.applyXreadgroup setting keyspace args) (handleXreadgroup setting keyspace args) := by
  intro success
  rcases args with _ | ⟨word, _ | ⟨group, _ | ⟨consumer, options⟩⟩⟩
  · cases success
  · cases success
  · cases success
  unfold handleXreadgroup at success ⊢
  dsimp only at success ⊢
  split at success
  · cases success
  next enough =>
    split at success
    · cases success
    next groupWord =>
      cases read : readOptions ⟨none, false⟩ options with
      | error text => simp only [read] at success; cases success
      | ok result =>
        obtain ⟨opts, words⟩ := result
        obtain ⟨scanned, acked, new⟩ := readWords_same (some (group, consumer)) repeats rfl read
        have start : Aof.readWords ⟨none, none⟩ (word :: group :: consumer :: options) =
            (⟨some (group, consumer), opts.count⟩, words) := by
          rw [Aof.readWords, if_pos (not_not.mp groupWord)]
          exact scanned
        unfold Aof.applyXreadgroup
        simp only [if_neg enough, if_neg groupWord, read, start] at success ⊢
        split at success
        · cases success
        next balanced =>
          rw [if_neg balanced, if_neg balanced]
          have fresh : ∀ pair ∈ (words.take (words.length / 2)).zip (words.drop (words.length / 2)), pair.2 = ascii ">" :=
            fun pair member => new pair.2 (of_mem_zip member).2
          cases once : xreadgroupOnce setting group consumer opts keyspace
              ((words.take (words.length / 2)).zip (words.drop (words.length / 2))) with
          | mk after answer =>
            cases answer with
            | error reply =>
              have refused : answerSucceeds (.ok reply) = false := once_error_fails (congrArg snd once)
              simp only [once, refused] at success
              cases success
            | ok replies =>
              rw [reads_repeat acked fresh (congrArg snd once), once]
              cases replies <;> rfl

end Kore.Proofs.StreamRepetition
