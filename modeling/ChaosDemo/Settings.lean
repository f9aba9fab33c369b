/-
ChaosDemo/Settings.lean

The settings of the runtime.  A runtime is built only after
`validate_resilience_config` has accepted its settings, so what that function
checks is carried by the structure.
-/
import Mathlib.Algebra.Order.Field.Basic
import Mathlib.Algebra.Order.Field.Rat
import Mathlib.Tactic.NormNum

namespace ChaosDemo

/-- The settings the modelled functions read, with what
`validate_resilience_config` guarantees of them. -/
structure Settings (K : Type) [Field K] [LinearOrder K] where
  enableResilience : Bool
  businessTimeoutMs : ℤ
  inventoryBusyProb : K
  orderTtlSec : ℤ
  idemTtlSec : ℤ
  idemPendingTtlSec : ℤ
  idemWaitTimeoutMs : ℤ
  idemWaitPollMs : ℤ
  retryMaxAttempts : ℕ
  retryBaseDelayMs : K
  retryMaxDelayMs : K
  breakerResource : String
  breakerFailureRateThreshold : K
  minRequestAmount : ℤ
  breakerWindowSec : ℤ
  breakerOpenSec : ℤ
  circuitProbeTtlSec : ℤ
  businessTimeoutMs_nonneg : 0 ≤ businessTimeoutMs
  inventoryBusyProb_mem : 0 ≤ inventoryBusyProb ∧ inventoryBusyProb ≤ 1
  orderTtlSec_le : 60 ≤ orderTtlSec
  idemTtlSec_pos : 1 ≤ idemTtlSec
  idemPendingTtlSec_pos : 1 ≤ idemPendingTtlSec
  idemWaitTimeoutMs_nonneg : 0 ≤ idemWaitTimeoutMs
  idemWaitPollMs_pos : 1 ≤ idemWaitPollMs
  retryMaxAttempts_pos : 1 ≤ retryMaxAttempts
  retryBaseDelayMs_nonneg : 0 ≤ retryBaseDelayMs
  retryMaxDelayMs_nonneg : 0 ≤ retryMaxDelayMs
  breakerFailureRateThreshold_mem :
    0 ≤ breakerFailureRateThreshold ∧ breakerFailureRateThreshold ≤ 1
  minRequestAmount_pos : 1 ≤ minRequestAmount
  breakerWindowSec_pos : 1 ≤ breakerWindowSec
  breakerOpenSec_pos : 1 ≤ breakerOpenSec
  circuitProbeTtlSec_pos : 1 ≤ circuitProbeTtlSec

/-- What the functions called `ctx` see: the settings and, inside a request,
the request's `_start_time`.  `maxPolls` is the model's own: it bounds the
rounds of the polling loop, and no result depends on its value. -/
structure Ctx (K : Type) [Field K] [LinearOrder K] extends Settings K where
  requestStart : Option K
  maxPolls : ℕ

/-- The settings of an environment without variables. -/
def defaultSettings : Settings ℚ where
  enableResilience := true
  businessTimeoutMs := 45
  inventoryBusyProb := 3 / 100
  orderTtlSec := 604800
  idemTtlSec := 300
  idemPendingTtlSec := 15
  idemWaitTimeoutMs := 120
  idemWaitPollMs := 10
  retryMaxAttempts := 3
  retryBaseDelayMs := 5
  retryMaxDelayMs := 50
  breakerResource := "order"
  breakerFailureRateThreshold := 1 / 2
  minRequestAmount := 100
  breakerWindowSec := 10
  breakerOpenSec := 8
  circuitProbeTtlSec := 30
  businessTimeoutMs_nonneg := by decide
  inventoryBusyProb_mem := by norm_num
  orderTtlSec_le := by decide
  idemTtlSec_pos := by decide
  idemPendingTtlSec_pos := by decide
  idemWaitTimeoutMs_nonneg := by decide
  idemWaitPollMs_pos := by decide
  retryMaxAttempts_pos := by decide
  retryBaseDelayMs_nonneg := by norm_num
  retryMaxDelayMs_nonneg := by norm_num
  breakerFailureRateThreshold_mem := by norm_num
  minRequestAmount_pos := by decide
  breakerWindowSec_pos := by decide
  breakerOpenSec_pos := by decide
  circuitProbeTtlSec_pos := by decide

/-- The default settings outside a request. -/
def defaultCtx : Ctx ℚ :=
  { defaultSettings with
    requestStart := none
    maxPolls := 0 }

end ChaosDemo
