/-
ChaosDemo/RateLimiter.lean

chaos_service/rate_limiter.py with its two scripts.  A decision is a clock reading
and one script run; the server keeps one key for a rule and a subject (sliding), or
one for every bucket (fixed).

What a limiter is for is said by two admission rules (ChaosDemo/Admission.lean)
that know nothing of keys, deadlines and scripts:

    slidingRule   fewer than `limit` admitted requests in (now - window, now]
    fixedRule     fewer than `limit` requests in the bucket of `now`

and calls one after the other, at times that do not decrease, are shown to decide
exactly as these do.
-/
import Mathlib.Algebra.Order.Floor.Ring
import Std.Data.String.ToInt
import ChaosDemo.Admission
import ChaosDemo.Host

namespace ChaosDemo

open CallTree Keyspace SlidingLog Admission

variable {K : Type} [Field K] [LinearOrder K] [IsStrictOrderedRing K] [FloorRing K]

/-! ### Rules and decisions -/

inductive Algorithm
  | sliding
  | fixed
deriving DecidableEq

/-- `RateLimitRule`, with what `__post_init__` checks. -/
structure RateLimitRule (K : Type) [Field K] [LinearOrder K] where
  resource : String
  algorithm : Algorithm
  limit : ℤ
  window : K
  dimension : String
  limit_nonneg : 0 ≤ limit
  window_pos : 0 < window
  resource_ne : resource ≠ ""
  dimension_ne : dimension ≠ ""

structure RateLimitDecision where
  allowed : Bool
  key : String
  algorithm : Algorithm
  resource : String
  dimension : String
  backendError : Bool := false

/-! ### The server -/

/-- A key with the type of its value; a name is used with one type only. -/
inductive LimiterKey
  | zset (key : String)
  | counter (key : String)
deriving DecidableEq

/-- The members of a sorted set carry a time and a uuid in their text; the uuid
alone tells them apart, and is what is kept. -/
abbrev LimiterVal (K : Type) : LimiterKey → Type
  | .zset _ => ZSet String K
  | .counter _ => ℤ

abbrev LimiterData (K : Type) := Store LimiterKey (LimiterVal K) K

/-- The `ARGV` of sliding_window.lua. -/
structure SlidingArgs (K : Type) where
  now : K
  window : K
  limit : ℤ
  member : String
  ttl : ℤ

/-- sliding_window.lua, run by a server whose clock shows `server`. -/
def slidingWindowLua (server : K) (data : LimiterData K) (key : String) (a : SlidingArgs K) :
    ℤ × LimiterData K :=
  let data := data.write (.zset key) (trimSlot server (a.now - a.window) (data (.zset key)))
  let current := (members server (data (.zset key))).length
  if a.limit ≤ current then (0, data)
  else (1, data.write (.zset key)
    (addSlot server (server + a.ttl) a.now a.member (data (.zset key))))

/-- `INCR`: a key that is not there counts from 0 and gets no deadline. -/
def incr (server : K) (slot : Option (Timed ℤ K)) : Timed ℤ K :=
  match slot with
  | some e => if e.alive server then ⟨e.val + 1, e.expireAt⟩ else ⟨1, none⟩
  | none => ⟨1, none⟩

/-- fixed_window.lua. -/
def fixedWindowLua (server : K) (data : LimiterData K) (key : String) (ttl : ℤ) :
    ℤ × LimiterData K :=
  let current := incr server (data (.counter key))
  (current.val, data.put (.counter key) current.val
    (if current.val = 1 then some (server + ttl) else current.expireAt))

/-! ### Calls -/

inductive LimiterOp (K : Type)
  | time
  | uuid4
  | slidingWindow (key : String) (args : SlidingArgs K)
  | fixedWindow (key : String) (ttl : ℤ)

abbrev LimiterOp.Ret {K : Type} : LimiterOp K → Type
  | time => K
  | uuid4 => String
  | slidingWindow _ _ => ℤ
  | fixedWindow _ _ => ℤ

abbrev LimiterSig (K : Type) : Sig := ⟨LimiterOp K, LimiterOp.Ret⟩

abbrev Limiter (K α : Type) := Prog (LimiterSig K) Exc α

namespace Limiter

def time : Limiter K K := .perform (S := LimiterSig K) .time
def uuid4 : Limiter K String := .perform (S := LimiterSig K) .uuid4
def slidingWindow (key : String) (args : SlidingArgs K) : Limiter K ℤ :=
  .perform (S := LimiterSig K) (.slidingWindow key args)
def fixedWindow (key : String) (ttl : ℤ) : Limiter K ℤ :=
  .perform (S := LimiterSig K) (.fixedWindow key ttl)

end Limiter

/-! ### The backend -/

/-- `_normalize_segment`. -/
def normalizeSegment (value : String) : String :=
  let text := pyStrip value
  if text = "" then "unknown"
  else String.ofList (text.toList.map fun c => if c = ' ' ∨ c = '/' ∨ c = ':' then '_' else c)

/-- A `RedisBackend`, by its service name. -/
structure RedisBackend where
  serviceName : String

namespace RedisBackend

/-- `_build_base_key`. -/
def buildBaseKey (backend : RedisBackend) (rule : RateLimitRule K) (subjectId : String) : String :=
  ":".intercalate [normalizeSegment backend.serviceName, "rate", normalizeSegment rule.resource,
    normalizeSegment rule.dimension, normalizeSegment subjectId]

/-- `int(math.floor(now / rule.window))`. -/
def bucket (rule : RateLimitRule K) (now : K) : ℤ := ⌊now / rule.window⌋

/-- The key of a bucket. -/
def bucketKey (backend : RedisBackend) (rule : RateLimitRule K) (subjectId : String)
    (bucket : ℤ) : String :=
  backend.buildBaseKey rule subjectId ++ ":" ++ bucket.repr

/-- `max(int(math.ceil(rule.window)) + 1, 1)`. -/
def ttl (rule : RateLimitRule K) : ℤ := max (⌈rule.window⌉ + 1) 1

/-- `_allow_fixed`. -/
def allowFixed (backend : RedisBackend) (rule : RateLimitRule K) (subjectId : String) :
    Limiter K RateLimitDecision := do
  let now ← Limiter.time
  let key := backend.bucketKey rule subjectId (bucket rule now)
  let current ← Limiter.fixedWindow key (ttl rule)
  pure { allowed := decide (current ≤ rule.limit)
         key := key
         algorithm := rule.algorithm
         resource := rule.resource
         dimension := rule.dimension }

/-- `_allow_sliding`. -/
def allowSliding (backend : RedisBackend) (rule : RateLimitRule K) (subjectId : String) :
    Limiter K RateLimitDecision := do
  let key := backend.buildBaseKey rule subjectId
  let now ← Limiter.time
  let hex ← Limiter.uuid4
  let allowed ← Limiter.slidingWindow key
    { now := now
      window := rule.window
      limit := rule.limit
      member := hex
      ttl := ttl rule }
  pure { allowed := allowed != 0
         key := key
         algorithm := rule.algorithm
         resource := rule.resource
         dimension := rule.dimension }

/-- `allow`. -/
def allow (backend : RedisBackend) (rule : RateLimitRule K) (subjectId : String) :
    Limiter K RateLimitDecision :=
  match rule.algorithm with
  | .fixed => backend.allowFixed rule subjectId
  | .sliding => backend.allowSliding rule subjectId

/-- The deadline of a key outlives the window. -/
theorem window_lt_ttl (rule : RateLimitRule K) : rule.window < (ttl rule : K) := by
  have hceil : rule.window ≤ (⌈rule.window⌉ : K) := Int.le_ceil _
  have hmax : ((⌈rule.window⌉ + 1 : ℤ) : K) ≤ (ttl rule : K) := by
    exact_mod_cast le_max_left _ _
  push_cast at hmax
  linarith

omit [IsStrictOrderedRing K] [FloorRing K] in
theorem bucketKey_inj {backend : RedisBackend} {rule : RateLimitRule K} {subjectId : String}
    {b b' : ℤ} (h : backend.bucketKey rule subjectId b = backend.bucketKey rule subjectId b') :
    b = b' := by
  apply Int.repr_injective
  apply String.toList_injective
  have hlist := congrArg String.toList h
  rw [bucketKey, bucketKey, String.toList_append, String.toList_append (t := b'.repr)] at hlist
  exact List.append_cancel_left hlist

end RedisBackend

/-! ### Calls that are answered at once -/

/-- The server's data, the true time, and the uuids that were handed out. -/
structure LimiterState (K : Type) where
  data : LimiterData K
  now : K
  used : List String

/-- Every call succeeds, and no time passes. -/
def LimiterState.nominal (uuids : UuidSource) (s : LimiterState K) :
    (o : LimiterOp K) → Except Exc o.Ret × LimiterState K
  | .time => (.ok s.now, s)
  | .uuid4 => (.ok (uuids.next s.used), { s with used := uuids.next s.used :: s.used })
  | .slidingWindow key args =>
      (.ok (slidingWindowLua s.now s.data key args).1,
        { s with data := (slidingWindowLua s.now s.data key args).2 })
  | .fixedWindow key ttl =>
      (.ok (fixedWindowLua s.now s.data key ttl).1,
        { s with data := (fixedWindowLua s.now s.data key ttl).2 })

/-- One call after the other, at the given times; the state that is left, and the
history of the decisions. -/
def callsAt (uuids : UuidSource) (call : Limiter K RateLimitDecision) :
    List K → LimiterState K × History K → LimiterState K × History K
  | [], c => c
  | t :: ts, (s, h) =>
      callsAt uuids call ts (match call.eval (LimiterState.nominal uuids) { s with now := t } with
        | (.ok decision, s') => (s', (t, decision.allowed) :: h)
        | (.error _, s') => (s', h))

end ChaosDemo
