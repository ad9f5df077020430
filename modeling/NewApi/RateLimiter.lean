import NewApi.Windows

/-! # Request rate limits

`ModelRequestRateLimit` limits the requests of a user in one of two ways.  Without Redis,
`InMemoryRateLimiter` keeps the times of the last requests in a queue per key.  With Redis, a script
keeps a bucket of tokens per key.  Times are in seconds, as both read their clocks. -/
namespace NewApi

/-! ## The limiter in memory -/

/-- `InMemoryRateLimiter`: the queues, oldest first, and the longest window of each key. -/
structure InMemoryRateLimiter where
  store : String → Option (List Int) := fun _ => none
  windows : String → Int := fun _ => 0

namespace InMemoryRateLimiter

/-- The window of a key grows to the longest that is asked for. -/
def widen (key : String) (duration : Int) (l : InMemoryRateLimiter) : InMemoryRateLimiter :=
  if l.windows key < duration then
    { l with windows := Function.update l.windows key duration }
  else l

/-- The key's queue is replaced. -/
def setQueue (key : String) (queue : List Int) (l : InMemoryRateLimiter) : InMemoryRateLimiter :=
  { l with store := Function.update l.store key (some queue) }

def request (key : String) (maxRequestNum : Nat) (duration now : Int) (l : InMemoryRateLimiter) :
    Bool × InMemoryRateLimiter :=
  let l := l.widen key duration
  match l.store key with
  | none => (true, l.setQueue key [now])
  | some queue =>
      if queue.length < maxRequestNum then (true, l.setQueue key (queue ++ [now]))
      else
        match queue with
        | [] => (false, l)  -- no queue is empty
        | first :: rest =>
            if now - first ≥ duration then (true, l.setQueue key (rest ++ [now]))
            else (false, l)

def check (key : String) (maxRequestNum : Nat) (duration now : Int) (l : InMemoryRateLimiter) :
    Bool × InMemoryRateLimiter :=
  if maxRequestNum = 0 then (false, l)
  else
    match l.store key with
    | none => (true, l)
    | some queue =>
        (queue.length < maxRequestNum || queue.head?.all fun first => now - first ≥ duration,
          l.widen key duration)

/-- The key has not been used for its window. -/
def expired (now : Int) (key : String) (l : InMemoryRateLimiter) : Bool :=
  (l.store key).any fun queue => queue.getLast?.all fun last => now - last ≥ l.windows key

/-- One round of `clearExpiredItems`. -/
def clearExpiredItems (now : Int) (l : InMemoryRateLimiter) : InMemoryRateLimiter where
  store key := if l.expired now key then none else l.store key
  windows key := if l.expired now key then 0 else l.windows key

end InMemoryRateLimiter

/-! ## The token bucket -/

/-- The bucket of a key in Redis. -/
structure TokenBucket where
  tokens : Int
  lastTime : Int
deriving DecidableEq, Repr

/-- The tokens that are there at `now`. -/
def TokenBucket.refill (rate capacity now : Int) : Option TokenBucket → Int
  | none => capacity
  | some bucket => min capacity (bucket.tokens + (now - bucket.lastTime) * rate)

/-- `rate_limit.lua`. -/
def TokenBucket.allow (requested rate capacity now : Int) (bucket : Option TokenBucket) :
    Bool × TokenBucket :=
  let tokens := refill rate capacity now bucket
  if tokens ≥ requested then (true, ⟨tokens - requested, now⟩) else (false, ⟨tokens, now⟩)

/-! ## The middleware -/

/-- The arguments of the handlers. -/
structure RateLimits where
  duration : Nat
  totalMaxCount : Nat
  successMaxCount : Nat := 0
deriving DecidableEq, Repr

namespace RateLimits

/-- The key of a user's requests in memory. -/
def totalKey (userId : Int) : String := "MRRL" ++ toString userId

/-- The key of a user's successes in memory. -/
def successKey (userId : Int) : String := "MRRLS" ++ toString userId

/-- The key of a user's requests in Redis. -/
def redisKey (userId : Int) : String := "rateLimit:" ++ toString userId

/-- `memoryRateLimitHandler` up to `c.Next`: whether the request is served. -/
def memoryAdmits (cfg : RateLimits) (userId now : Int) (l : InMemoryRateLimiter) :
    Bool × InMemoryRateLimiter :=
  let checked :=
    if cfg.successMaxCount = 0 then (true, l)
    else l.check (successKey userId) cfg.successMaxCount cfg.duration now
  if checked.1 = false then checked
  else if cfg.totalMaxCount = 0 then checked
  else checked.2.request (totalKey userId) cfg.totalMaxCount cfg.duration now

/-- `memoryRateLimitHandler` after `c.Next`. -/
def memoryFinishes (cfg : RateLimits) (userId now : Int) (succeeded : Bool)
    (l : InMemoryRateLimiter) : InMemoryRateLimiter :=
  if cfg.successMaxCount ≠ 0 ∧ succeeded then
    (l.request (successKey userId) cfg.successMaxCount cfg.duration now).2
  else l

/-- The total limit of `redisRateLimitHandler`: a bucket of `totalMaxCount` requests, each worth
`duration` tokens, that gains `totalMaxCount` tokens a second. -/
def redisAdmits (cfg : RateLimits) (userId now : Int) (buckets : String → Option TokenBucket) :
    Bool × (String → Option TokenBucket) :=
  if cfg.totalMaxCount = 0 then (true, buckets)
  else
    let (allowed, bucket) := TokenBucket.allow cfg.duration cfg.totalMaxCount
      (cfg.totalMaxCount * cfg.duration) now (buckets (redisKey userId))
    (allowed, Function.update buckets (redisKey userId) (some bucket))

end RateLimits

/-! ## Sequences of requests -/

/-- What reaches the limits: requests, their ends, and rounds of the cleanup. -/
inductive LimitEvent where
  | arrives (userId now : Int)
  | finishes (userId now : Int) (succeeded : Bool)
  | clears (now : Int)
deriving DecidableEq, Repr

/-- When it happens. -/
def LimitEvent.now : LimitEvent → Int
  | .arrives _ now | .finishes _ now _ | .clears now => now

/-- The times of a user's requests, given all that were served. -/
def timesOf (userId : Int) (admitted : List (Int × Int)) : List Int :=
  (admitted.filter fun p => p.1 = userId).map Prod.snd

/-- The memory mode: the limiter, and the requests that were served with their times. -/
structure MemoryMode where
  limiter : InMemoryRateLimiter := {}
  admitted : List (Int × Int) := []

/-- One event in memory mode. -/
def MemoryMode.step (cfg : RateLimits) (m : MemoryMode) : LimitEvent → MemoryMode
  | .arrives userId now =>
      let (served, limiter) := cfg.memoryAdmits userId now m.limiter
      { limiter := limiter, admitted := m.admitted ++ if served then [(userId, now)] else [] }
  | .finishes userId now succeeded =>
      { m with limiter := cfg.memoryFinishes userId now succeeded m.limiter }
  | .clears now => { m with limiter := m.limiter.clearExpiredItems now }

/-- The Redis mode with the success limit off: the buckets, and the requests that were served. -/
structure RedisMode where
  buckets : String → Option TokenBucket := fun _ => none
  admitted : List (Int × Int) := []

/-- One event in Redis mode. -/
def RedisMode.step (cfg : RateLimits) (m : RedisMode) : LimitEvent → RedisMode
  | .arrives userId now =>
      let (served, buckets) := cfg.redisAdmits userId now m.buckets
      { buckets := buckets, admitted := m.admitted ++ if served then [(userId, now)] else [] }
  | .finishes _ _ _ | .clears _ => m

/-- The times at which a user's requests are served in memory mode. -/
def RateLimits.servedInMemory (cfg : RateLimits) (userId : Int) (es : List LimitEvent) : List Int :=
  timesOf userId (es.foldl (MemoryMode.step cfg) {}).admitted

/-- The times at which a user's requests are served in Redis mode. -/
def RateLimits.servedInRedis (cfg : RateLimits) (userId : Int) (es : List LimitEvent) : List Int :=
  timesOf userId (es.foldl (RedisMode.step cfg) {}).admitted

end NewApi
