/-
ChaosDemo/Breaker.lean

chaos_service/resilience/breaker: the rule, the Redis-backed storage and the
breaker itself.  A breaker instance is a value; a call returns the instance it
leaves, with the state it last saw and whether it holds the half-open probe.

Reads go through the retry policy, writes and the script do not.
-/
import ChaosDemo.Retry

set_option linter.unusedSectionVars false

namespace ChaosDemo

open CallTree

variable {K : Type} [Field K] [LinearOrder K] [IsStrictOrderedRing K] [FloorRing K]

/-! ### Rules and results -/

/-- `CircuitBreakerRule`, with what `__post_init__` checks. -/
structure CircuitBreakerRule (K : Type) [Field K] [LinearOrder K] where
  resource : String
  failureRateThreshold : K
  minRequestCount : ℤ
  windowSeconds : ℤ
  openTimeoutSeconds : ℤ
  resource_ne : resource ≠ ""
  failureRateThreshold_mem : 0 ≤ failureRateThreshold ∧ failureRateThreshold ≤ 1
  minRequestCount_pos : 1 ≤ minRequestCount
  windowSeconds_pos : 1 ≤ windowSeconds
  openTimeoutSeconds_pos : 1 ≤ openTimeoutSeconds

/-- `CLOSED`, `OPEN` and `HALF_OPEN`. -/
inductive CircuitState
  | closed
  | opened
  | halfOpen
deriving DecidableEq

structure CircuitWindowSnapshot (K : Type) where
  failureCount : ℤ
  totalRequestCount : ℤ
  failureRate : K

structure CircuitRecordResult (K : Type) where
  opened : Bool
  openUntil : K
  snapshot : CircuitWindowSnapshot K

/-- `str(x).strip() or "order"`. -/
def legacyResource (ctx : Ctx K) : String :=
  let resource := pyStrip ctx.breakerResource
  if resource = "" then "order" else resource

theorem legacyResource_ne (ctx : Ctx K) : legacyResource ctx ≠ "" := by
  simp only [legacyResource]
  split
  · decide
  · assumption

/-- `build_default_rule`. -/
def buildDefaultRule (ctx : Ctx K) : CircuitBreakerRule K where
  resource := legacyResource ctx
  failureRateThreshold := ctx.breakerFailureRateThreshold
  minRequestCount := ctx.minRequestAmount
  windowSeconds := ctx.breakerWindowSec
  openTimeoutSeconds := ctx.breakerOpenSec
  resource_ne := legacyResource_ne ctx
  failureRateThreshold_mem := ctx.breakerFailureRateThreshold_mem
  minRequestCount_pos := ctx.minRequestAmount_pos
  windowSeconds_pos := ctx.breakerWindowSec_pos
  openTimeoutSeconds_pos := ctx.breakerOpenSec_pos

/-! ### Storage -/

/-- `_normalize`. -/
def normalizeResource (value : String) : String :=
  let resource := String.ofList ((pyStrip value).toList.map fun c =>
    if c = ' ' ∨ c = '/' ∨ c = ':' then '_' else c)
  if resource = "" then "unknown" else resource

/-- `_keys`. -/
def breakerKeys (ctx : Ctx K) (rule : CircuitBreakerRule K) : BreakerKeys :=
  if rule.resource = legacyResource ctx then .legacy
  else .named (normalizeResource rule.resource)

/-- `_read`. -/
def readKey (ctx : Ctx K) (k : Key) : Host K (Option (Val K k)) :=
  (buildRetryPolicy ctx).execute (Host.redis (.get k))

/-- `get_open_until`. -/
def getOpenUntil (ctx : Ctx K) (rule : CircuitBreakerRule K) : Host K K := do
  let raw ← readKey ctx (.openUntil (breakerKeys ctx rule))
  pure (raw.getD 0)

/-- `is_probe_active`. -/
def isProbeActive (ctx : Ctx K) (rule : CircuitBreakerRule K) : Host K Bool := do
  let raw ← readKey ctx (.probe (breakerKeys ctx rule))
  pure raw.isSome

/-- `get_state`. -/
def getState (ctx : Ctx K) (rule : CircuitBreakerRule K) : Host K CircuitState := do
  let now ← Host.time
  let openUntil ← getOpenUntil ctx rule
  if now < openUntil then pure .opened
  else if 0 < openUntil then pure .halfOpen
  else do
    let active ← isProbeActive ctx rule
    pure (if active then .halfOpen else .closed)

/-- `try_acquire_probe`. -/
def tryAcquireProbe (ctx : Ctx K) (rule : CircuitBreakerRule K) : Host K Bool :=
  Host.redis (.setNxEx (.probe (breakerKeys ctx rule)) () ctx.circuitProbeTtlSec)

/-- `close`. -/
def closeBreaker (ctx : Ctx K) (rule : CircuitBreakerRule K) : Host K Unit := do
  let keys := breakerKeys ctx rule
  let _ ← Host.redis (.delete [.probe keys, .window .failures keys, .window .totals keys])
  Host.redis (.set (.openUntil keys) 0)

/-- `reopen`. -/
def reopenBreaker (ctx : Ctx K) (rule : CircuitBreakerRule K) : Host K K := do
  let keys := breakerKeys ctx rule
  let now ← Host.time
  let openUntil := now + rule.openTimeoutSeconds
  let _ ← Host.redis (.delete [.probe keys])
  Host.redis (.set (.openUntil keys) openUntil)
  pure openUntil

/-- `snapshot`. -/
def snapshotBreaker (ctx : Ctx K) (rule : CircuitBreakerRule K) :
    Host K (CircuitWindowSnapshot K) := do
  let keys := breakerKeys ctx rule
  let now ← Host.time
  let cutoff := now - rule.windowSeconds
  Host.redis (.zremrangebyscore .failures keys cutoff)
  Host.redis (.zremrangebyscore .totals keys cutoff)
  let failureCount ← Host.redis (.zcard .failures keys)
  let totalRequestCount ← Host.redis (.zcard .totals keys)
  pure ⟨failureCount, totalRequestCount, failureRate failureCount totalRequestCount⟩

/-- The uuid of the failure member; a success has none. -/
def failureMember : Action → Host K (Option Member)
  | .success => pure none
  | .failure => do
      let hex ← Host.uuid4
      pure (some ⟨.failures, hex⟩)

/-- `_record_outcome`. -/
def recordOutcome (ctx : Ctx K) (rule : CircuitBreakerRule K) (action : Action) :
    Host K (CircuitRecordResult K) := do
  let now ← Host.time
  let totalHex ← Host.uuid4
  let failure ← failureMember action
  let reply ← Host.redis (.circuitBreaker (breakerKeys ctx rule)
    { action := action
      now := now
      window := rule.windowSeconds
      ttl := rule.windowSeconds + 2
      minRequestCount := rule.minRequestCount
      failureRateThreshold := rule.failureRateThreshold
      openTimeout := rule.openTimeoutSeconds
      totalMember := ⟨.totals, totalHex⟩
      failureMember := failure })
  pure ⟨reply.opened != 0, reply.openUntil,
    ⟨reply.failureCount, reply.totalCount, reply.failureRate⟩⟩

/-! ### The breaker -/

/-- A `CircuitBreaker` instance. -/
structure CircuitBreaker (K : Type) [Field K] [LinearOrder K] where
  rule : CircuitBreakerRule K
  lastState : CircuitState
  probeAcquired : Bool

/-- `CircuitBreaker.__init__`. -/
def CircuitBreaker.init (rule : CircuitBreakerRule K) : CircuitBreaker K :=
  ⟨rule, .closed, false⟩

/-- `build_circuit_breaker`. -/
def buildCircuitBreaker (ctx : Ctx K) : CircuitBreaker K := .init (buildDefaultRule ctx)

namespace CircuitBreaker

/-- `allow_request`. -/
def allowRequest (ctx : Ctx K) (b : CircuitBreaker K) : Host K (Bool × CircuitBreaker K) := do
  let currentState ← getState ctx b.rule
  let b := { b with lastState := currentState }
  match currentState with
  | .closed => pure (true, b)
  | .opened => pure (false, b)
  | .halfOpen => do
      let acquired ← tryAcquireProbe ctx b.rule
      if acquired then pure (true, { b with lastState := .halfOpen, probeAcquired := true })
      else pure (false, b)

/-- What `record_success` and `record_failure` do with the result of the script. -/
def afterRecord (b : CircuitBreaker K) (result : CircuitRecordResult K) : CircuitBreaker K :=
  { b with lastState := if result.opened then .opened else .closed }

/-- `record_success`. -/
def recordSuccess (ctx : Ctx K) (b : CircuitBreaker K) :
    Host K (Option (CircuitRecordResult K) × CircuitBreaker K) :=
  if b.probeAcquired then do
    let _ ← getOpenUntil ctx b.rule
    closeBreaker ctx b.rule
    pure (none, { b with lastState := .closed, probeAcquired := false })
  else do
    let result ← recordOutcome ctx b.rule .success
    pure (some result, b.afterRecord result)

/-- `record_failure`. -/
def recordFailure (ctx : Ctx K) (b : CircuitBreaker K) :
    Host K (Option (CircuitRecordResult K) × CircuitBreaker K) :=
  if b.probeAcquired then do
    let openUntil ← reopenBreaker ctx b.rule
    let snapshot ← snapshotBreaker ctx b.rule
    pure (some ⟨true, openUntil, snapshot⟩,
      { b with lastState := .opened, probeAcquired := false })
  else do
    let result ← recordOutcome ctx b.rule .failure
    pure (some result, b.afterRecord result)

/-- `record_success` or `record_failure`. -/
def record (ctx : Ctx K) (b : CircuitBreaker K) :
    Action → Host K (Option (CircuitRecordResult K) × CircuitBreaker K)
  | .success => b.recordSuccess ctx
  | .failure => b.recordFailure ctx

end CircuitBreaker

/-! ### Calls that are answered at once -/

section Eval

variable {uuids : UuidSource} {ctx : Ctx K} {rule : CircuitBreakerRule K} {s : HostState K}

/-- A call under the retry policy that succeeds is made once. -/
theorem eval_execute_ok {α : Type} {p : RetryPolicy K} {func : Host K α} {s' : HostState K}
    {serve : HostState K → (o : HostOp K) → Except Exc o.Ret × HostState K}
    {a : α} (h : func.eval serve s = (.ok a, s')) : (p.execute func).eval serve s = (.ok a, s') := by
  rw [RetryPolicy.execute]
  cases p.config.maxAttempts - 1 with
  | zero => exact h
  | succ left => exact Prog.eval_handle_ok h

/-- The stored `open_until`; 0 when there is none. -/
def HostState.openUntil (s : HostState K) (keys : BreakerKeys) : K :=
  (s.data.lookup s.now (.openUntil keys)).getD 0

/-- Whether the probe key is there. -/
def HostState.probeActive (s : HostState K) (keys : BreakerKeys) : Bool :=
  (s.data.lookup s.now (.probe keys)).isSome

/-- What `get_state` answers. -/
def HostState.circuitState (s : HostState K) (keys : BreakerKeys) : CircuitState :=
  if s.now < s.openUntil keys then .opened
  else if 0 < s.openUntil keys then .halfOpen
  else if s.probeActive keys then .halfOpen
  else .closed

@[simp] theorem eval_readKey (k : Key) :
    (readKey ctx k).eval (HostState.nominal uuids) s = (.ok (s.data.lookup s.now k), s) :=
  eval_execute_ok rfl

@[simp] theorem eval_getOpenUntil : (getOpenUntil ctx rule).eval (HostState.nominal uuids) s =
    (.ok (s.openUntil (breakerKeys ctx rule)), s) := by
  rw [getOpenUntil, Prog.eval_bind_ok (eval_readKey _)]
  rfl

@[simp] theorem eval_getState : (getState ctx rule).eval (HostState.nominal uuids) s =
    (.ok (s.circuitState (breakerKeys ctx rule)), s) := by
  rw [getState, Prog.eval_bind_ok Host.eval_time, Prog.eval_bind_ok eval_getOpenUntil,
    HostState.circuitState]
  by_cases hopen : s.now < s.openUntil (breakerKeys ctx rule)
  · rw [if_pos hopen, if_pos hopen]
    rfl
  by_cases hhalf : 0 < s.openUntil (breakerKeys ctx rule)
  · rw [if_neg hopen, if_neg hopen, if_pos hhalf, if_pos hhalf]
    rfl
  · rw [if_neg hopen, if_neg hopen, if_neg hhalf, if_neg hhalf, isProbeActive, bind_assoc,
      Prog.eval_bind_ok (eval_readKey _)]
    rfl

end Eval

end ChaosDemo
