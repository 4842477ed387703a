import KeyValueClient.Command.Shape

/-!
# The command catalog

The protocol has a fixed set of commands.  Each has a name, the shape of its
request and the shape of its reply.  Names are looked up without regard to the
case of ASCII letters.

Main results:

- Theorem `Command.mem_all`: the catalog lists every command.
- Theorem `Command.ofName?_name`: every command is found under its own name, so no
  two commands share one.
-/

namespace KeyValueClient

/-- The commands of the protocol. -/
inductive Command where
  -- Commands on the connection and the server
  | ping | quit | auth | select | echo | flushDb | flushAll | dbSize | save | bgSave
  | bgRewriteAof | lastSave | shutdown | info
  -- Commands on keys
  | existsKey | del | type | keys | randomKey | rename | renameNx | expire | expireAt | ttl
  | move
  -- Commands on strings
  | set | get | getSet | setNx | mGet | mSet | mSetNx | incr | incrBy | decr | decrBy | append
  | substr
  -- Commands on lists
  | rPush | lPush | lLen | lRange | lTrim | lIndex | lSet | lRem | lPop | rPop | rPopLPush
  -- Commands on sets
  | sAdd | sRem | sPop | sMove | sCard | sIsMember | sInter | sInterStore | sUnion | sUnionStore
  | sDiff | sDiffStore | sMembers | sRandMember
  -- Commands on sorted sets
  | zAdd | zRem | zIncrBy | zRange | zRevRange | zRemRangeByRank | zCard | zScore
  -- Commands on hashes
  | hSet | hGet | hDel | hExists | hLen | hKeys | hVals | hGetAll
  -- Commands on transactions
  | multi | exec | discard
deriving DecidableEq, Repr

/-- A catalog entry. -/
structure CommandSpec where
  name : String
  request : RequestShape
  reply : ReplyShape
deriving DecidableEq, Repr

namespace Command

/-- Every command, in catalog order. -/
def all : List Command :=
  [.ping, .quit, .auth, .select, .echo, .flushDb, .flushAll, .dbSize, .save, .bgSave,
   .bgRewriteAof, .lastSave, .shutdown, .info, .existsKey, .del, .type, .keys, .randomKey,
   .rename, .renameNx, .expire, .expireAt, .ttl, .move, .set, .get, .getSet, .setNx, .mGet,
   .mSet, .mSetNx, .incr, .incrBy, .decr, .decrBy, .append, .substr, .rPush, .lPush, .lLen,
   .lRange, .lTrim, .lIndex, .lSet, .lRem, .lPop, .rPop, .rPopLPush, .sAdd, .sRem, .sPop, .sMove,
   .sCard, .sIsMember, .sInter, .sInterStore, .sUnion, .sUnionStore, .sDiff, .sDiffStore,
   .sMembers, .sRandMember, .zAdd, .zRem, .zIncrBy, .zRange, .zRevRange, .zRemRangeByRank,
   .zCard, .zScore, .hSet, .hGet, .hDel, .hExists, .hLen, .hKeys, .hVals, .hGetAll, .multi,
   .exec, .discard]

/-- The catalog entry of a command. -/
def spec : Command → CommandSpec
  | ping => ⟨"PING", .bare, .status⟩
  | quit => ⟨"QUIT", .bare, .status⟩
  | auth => ⟨"AUTH", .key, .status⟩
  | select => ⟨"SELECT", .number, .status⟩
  | echo => ⟨"ECHO", .value, .bulk⟩
  | flushDb => ⟨"FLUSHDB", .bare, .status⟩
  | flushAll => ⟨"FLUSHALL", .bare, .status⟩
  | dbSize => ⟨"DBSIZE", .bare, .value .number⟩
  | save => ⟨"SAVE", .bare, .status⟩
  | bgSave => ⟨"BGSAVE", .bare, .status⟩
  | bgRewriteAof => ⟨"BGREWRITEAOF", .bare, .status⟩
  | lastSave => ⟨"LASTSAVE", .bare, .value .number⟩
  | shutdown => ⟨"SHUTDOWN", .bare, .status⟩
  | info => ⟨"INFO", .bare, .bulk⟩
  | existsKey => ⟨"EXISTS", .key, .value .boolean⟩
  | del => ⟨"DEL", .key, .value .number⟩
  | type => ⟨"TYPE", .key, .value .text⟩
  | keys => ⟨"KEYS", .key, .multiBulk⟩
  | randomKey => ⟨"RANDOMKEY", .bare, .bulk⟩
  | rename => ⟨"RENAME", .keyKey, .status⟩
  | renameNx => ⟨"RENAMENX", .keyKey, .value .boolean⟩
  | expire => ⟨"EXPIRE", .keyNumber, .value .boolean⟩
  | expireAt => ⟨"EXPIREAT", .keyNumber, .value .boolean⟩
  | ttl => ⟨"TTL", .key, .value .number⟩
  | move => ⟨"MOVE", .keyNumber, .value .boolean⟩
  | set => ⟨"SET", .keyValue, .status⟩
  | get => ⟨"GET", .key, .bulk⟩
  | getSet => ⟨"GETSET", .keyValue, .bulk⟩
  | setNx => ⟨"SETNX", .keyValue, .value .boolean⟩
  | mGet => ⟨"MGET", .keys, .multiBulk⟩
  | mSet => ⟨"MSET", .pairs, .status⟩
  | mSetNx => ⟨"MSETNX", .pairs, .value .boolean⟩
  | incr => ⟨"INCR", .key, .value .number⟩
  | incrBy => ⟨"INCRBY", .keyNumber, .value .number⟩
  | decr => ⟨"DECR", .key, .value .number⟩
  | decrBy => ⟨"DECRBY", .keyNumber, .value .number⟩
  | append => ⟨"APPEND", .keyValue, .value .number⟩
  | substr => ⟨"SUBSTR", .keyNumberNumber, .bulk⟩
  | rPush => ⟨"RPUSH", .keyValue, .value .number⟩
  | lPush => ⟨"LPUSH", .keyValue, .value .number⟩
  | lLen => ⟨"LLEN", .key, .value .number⟩
  | lRange => ⟨"LRANGE", .keyNumberNumber, .multiBulk⟩
  | lTrim => ⟨"LTRIM", .keyNumberNumber, .status⟩
  | lIndex => ⟨"LINDEX", .keyNumber, .bulk⟩
  | lSet => ⟨"LSET", .keyNumberValue, .status⟩
  | lRem => ⟨"LREM", .keyNumberValue, .value .number⟩
  | lPop => ⟨"LPOP", .key, .bulk⟩
  | rPop => ⟨"RPOP", .key, .bulk⟩
  | rPopLPush => ⟨"RPOPLPUSH", .keyKey, .bulk⟩
  | sAdd => ⟨"SADD", .keyValue, .value .boolean⟩
  | sRem => ⟨"SREM", .keyValue, .value .boolean⟩
  | sPop => ⟨"SPOP", .key, .bulk⟩
  | sMove => ⟨"SMOVE", .keyKeyValue, .value .boolean⟩
  | sCard => ⟨"SCARD", .key, .value .number⟩
  | sIsMember => ⟨"SISMEMBER", .keyValue, .value .boolean⟩
  | sInter => ⟨"SINTER", .keys, .multiBulk⟩
  | sInterStore => ⟨"SINTERSTORE", .keys, .value .number⟩
  | sUnion => ⟨"SUNION", .keys, .multiBulk⟩
  | sUnionStore => ⟨"SUNIONSTORE", .keys, .value .number⟩
  | sDiff => ⟨"SDIFF", .keys, .multiBulk⟩
  | sDiffStore => ⟨"SDIFFSTORE", .keys, .value .number⟩
  | sMembers => ⟨"SMEMBERS", .key, .multiBulk⟩
  | sRandMember => ⟨"SRANDMEMBER", .key, .bulk⟩
  | zAdd => ⟨"ZADD", .keyScoreValue, .value .boolean⟩
  | zRem => ⟨"ZREM", .keyValue, .value .boolean⟩
  | zIncrBy => ⟨"ZINCRBY", .keyScoreValue, .bulk⟩
  | zRange => ⟨"ZRANGE", .keyNumberNumber, .multiBulk⟩
  | zRevRange => ⟨"ZREVRANGE", .keyNumberNumber, .multiBulk⟩
  | zRemRangeByRank => ⟨"ZREMRANGEBYRANK", .keyNumberNumber, .value .number⟩
  | zCard => ⟨"ZCARD", .key, .value .number⟩
  | zScore => ⟨"ZSCORE", .keyValue, .bulk⟩
  | hSet => ⟨"HSET", .keyKeyValue, .value .boolean⟩
  | hGet => ⟨"HGET", .keyKey, .bulk⟩
  | hDel => ⟨"HDEL", .keyKey, .value .boolean⟩
  | hExists => ⟨"HEXISTS", .keyKey, .value .boolean⟩
  | hLen => ⟨"HLEN", .key, .value .number⟩
  | hKeys => ⟨"HKEYS", .key, .multiBulk⟩
  | hVals => ⟨"HVALS", .key, .multiBulk⟩
  | hGetAll => ⟨"HGETALL", .key, .multiBulk⟩
  | multi => ⟨"MULTI", .bare, .status⟩
  | exec => ⟨"EXEC", .bare, .aggregate⟩
  | discard => ⟨"DISCARD", .bare, .status⟩

/-- The name of a command, as it is sent. -/
def name (c : Command) : String :=
  c.spec.name

/-- How the arguments of a command are laid out. -/
def requestShape (c : Command) : RequestShape :=
  c.spec.request

/-- What the reply to a command looks like. -/
def replyShape (c : Command) : ReplyShape :=
  c.spec.reply

/-- The server closes the connection after this command. -/
def isTerminal : Command → Bool
  | quit | shutdown => true
  | _ => false

/-- Two texts agree up to the case of ASCII letters. -/
def sameName (a b : String) : Bool :=
  a.toList.map Char.toUpper == b.toList.map Char.toUpper

/-- The command of this name, in any ASCII case. -/
def ofName? (s : String) : Option Command :=
  all.find? fun c => sameName c.name s

/-- The catalog lists every command. -/
theorem mem_all (c : Command) : c ∈ all := by
  have h : all.contains c = true := by cases c <;> rfl
  exact List.contains_iff_mem.1 h

/-- Every command is found under its own name. -/
theorem ofName?_name (c : Command) : ofName? c.name = some c := by
  have h : ∀ c ∈ all, ofName? c.name = some c := by decide +kernel
  exact h c (mem_all c)

end Command

end KeyValueClient
