/-
ChaosDemo/Retry.lean

`RetryPolicy.execute`: the function is called again after a retryable
exception, up to `max_attempts` times and only while the request's deadline
leaves room for the drawn delay.

The rule `executeFrom_obeys` is how every caller reasons about it.  A caller
names an invariant `I` of the histories in which an attempt may start and a
condition `F e` of the histories in which an attempt has just failed with `e`;
what the policy does between two attempts (draw a delay, look at the clock,
sleep) only has to leave both alone (`Undisturbed`).
-/
import ChaosDemo.Host
import ChaosDemo.Settings

namespace ChaosDemo

open CallTree

variable {K : Type} [Field K] [LinearOrder K] [IsStrictOrderedRing K] [FloorRing K]

/-! ### The policy -/

structure RetryConfig (K : Type) [Field K] [LinearOrder K] where
  maxAttempts : ℕ
  baseDelayS : K
  maxDelayS : K
  maxAttempts_pos : 1 ≤ maxAttempts
  baseDelayS_nonneg : 0 ≤ baseDelayS
  maxDelayS_nonneg : 0 ≤ maxDelayS

/-- A policy; its deadline is `RetryDeadline.deadline_at`. -/
structure RetryPolicy (K : Type) [Field K] [LinearOrder K] where
  config : RetryConfig K
  deadline : Option K

namespace RetryPolicy

variable {α : Type}

/-- `RetryDeadline.can_wait`; without a deadline there is always time. -/
def canWait (p : RetryPolicy K) (delayS : K) : Host K Bool :=
  match p.deadline with
  | none => pure true
  | some deadlineAt => do
      let now ← Host.time
      pure (decide (max delayS 0 < max (deadlineAt - now) 0))

/-- `_compute_delay_cap`. -/
def computeDelayCap (p : RetryPolicy K) (attempt : ℕ) : K :=
  min p.config.maxDelayS (p.config.baseDelayS * 2 ^ (attempt - 1))

/-- Attempt number `attempt` of `func` with `left` more attempts to go. -/
def executeFrom (p : RetryPolicy K) (func : Host K α) : (left attempt : ℕ) → Host K α
  | 0, _ => func
  | left + 1, attempt => func.handle fun e =>
      if e.isRetryable then do
        let sleepS ← Host.uniform 0 (p.computeDelayCap attempt)
        let fits ← p.canWait sleepS
        if fits then do
          Host.sleep sleepS
          executeFrom p func left (attempt + 1)
        else throw e
      else throw e

/-- `RetryPolicy.execute`. -/
def execute (p : RetryPolicy K) (func : Host K α) : Host K α :=
  p.executeFrom func (p.config.maxAttempts - 1) 1

end RetryPolicy

/-- `build_request_deadline`. -/
def buildRequestDeadline (ctx : Ctx K) : Option K :=
  if ctx.businessTimeoutMs ≤ 0 then none
  else ctx.requestStart.map fun startedAt => startedAt + ctx.businessTimeoutMs / 1000

/-- `build_retry_policy`. -/
def buildRetryPolicy (ctx : Ctx K) : RetryPolicy K where
  config :=
    { maxAttempts := ctx.retryMaxAttempts
      baseDelayS := ctx.retryBaseDelayMs / 1000
      maxDelayS := ctx.retryMaxDelayMs / 1000
      maxAttempts_pos := ctx.retryMaxAttempts_pos
      baseDelayS_nonneg := div_nonneg ctx.retryBaseDelayMs_nonneg (by norm_num)
      maxDelayS_nonneg := div_nonneg ctx.retryMaxDelayMs_nonneg (by norm_num) }
  deadline := buildRequestDeadline ctx

/-! ### What the host answers -/

/-- The replies a host call can get at all: only Redis and the chaos hooks
raise. -/
def HostReply : (o : HostOp K) → Except Exc o.Ret → Prop
  | .redis _, r => ∀ e, r = .error e → e.fromServer = true
  | .beforeServiceOperation _, _ => True
  | .beforeStoreOperation _, _ => True
  | _, r => ∃ v, r = .ok v

theorem hostReply_of_serve {s s' : HostState K} {o : HostOp K} {x : HostChoice K}
    {r : Except Exc o.Ret} (h : (hostWorld K).serve s o x = some (r, s')) :
    HostReply o r := by
  cases o with
  | redis c =>
      rintro e rfl
      rcases serve_redis h with ⟨hr, -⟩ | ⟨e', hr, he, -⟩
      · cases hr
      · cases hr
        exact he
  | beforeServiceOperation stage => trivial
  | beforeStoreOperation operation => trivial
  | uuid4 =>
      cases x <;> simp [hostWorld, HostState.serve] at h
      exact ⟨_, h.2.1.symm⟩
  | _ =>
      cases x <;> simp [hostWorld, HostState.serve] at h
      exact ⟨_, h.1.symm⟩

/-- A protocol that only expects replies the host can give. -/
def Hosted (P : Protocol (HostSig K) Exc) : Prop :=
  ∀ h o r, P.mayReply h o r → HostReply o r

/-- The calls with which a program only looks around or waits. -/
def HostOp.idle : HostOp K → Bool
  | .time => true
  | .uniform _ _ => true
  | .sleep _ => true
  | .beforeStoreOperation _ => true
  | _ => false

/-- Idle calls are allowed where `I` holds and keep it. -/
def Undisturbed (P : Protocol (HostSig K) Exc) (I : History (HostSig K) Exc → Prop) :
    Prop :=
  ∀ h o, I h → o.idle = true →
    P.mayCall h o ∧ ∀ r, P.mayReply h o r → I (⟨o, r⟩ :: h)

section Rules

omit [Field K] [LinearOrder K] [IsStrictOrderedRing K] [FloorRing K]

variable {P : Protocol (HostSig K) Exc} {I J : History (HostSig K) Exc → Prop}
  {α : Type}

theorem Undisturbed.and (hI : Undisturbed P I) (hJ : Undisturbed P J) :
    Undisturbed P fun h => I h ∧ J h :=
  fun h o hh ho => ⟨(hI h o hh.1 ho).1,
    fun r hr => ⟨(hI h o hh.1 ho).2 r hr, (hJ h o hh.2 ho).2 r hr⟩⟩

theorem time_obeys (hP : Hosted P) (hI : Undisturbed P I) {h : History (HostSig K) Exc}
    (hh : I h) : Obeys P Host.time
      (fun res h' => ∃ t, res = .ok t ∧ h' = ⟨.time, .ok t⟩ :: h ∧ I h') h := by
  obtain ⟨hcall, hkeep⟩ := hI h .time hh rfl
  refine .perform hcall fun r hr => ?_
  obtain ⟨t, rfl⟩ := hP _ _ _ hr
  exact ⟨t, rfl, rfl, hkeep _ hr⟩

/-- The calls between two attempts. -/
theorem idle_obeys (hP : Hosted P) (hI : Undisturbed P I) {o : HostOp K}
    (ho : o.idle = true) (hraise : ∀ operation, o ≠ .beforeStoreOperation operation)
    {h : History (HostSig K) Exc} (hh : I h) :
    Obeys P (.perform (S := HostSig K) o) (fun res h' => (∃ v, res = .ok v) ∧ I h') h := by
  obtain ⟨hcall, hkeep⟩ := hI h o hh ho
  refine .perform hcall fun r hr => ⟨?_, hkeep r hr⟩
  cases o with
  | beforeStoreOperation operation => exact absurd rfl (hraise operation)
  | time => exact hP _ _ _ hr
  | uniform lo hi => exact hP _ _ _ hr
  | sleep s => exact hP _ _ _ hr
  | _ => cases ho

end Rules

section Policy

variable {P : Protocol (HostSig K) Exc} {I : History (HostSig K) Exc → Prop} {α : Type}

omit [IsStrictOrderedRing K] [FloorRing K] in
theorem canWait_obeys (hP : Hosted P) (hI : Undisturbed P I) (p : RetryPolicy K)
    (delayS : K) {h : History (HostSig K) Exc} (hh : I h) :
    Obeys P (p.canWait delayS) (fun res h' => (∃ b, res = .ok b) ∧ I h') h := by
  rw [RetryPolicy.canWait]
  split
  · exact ⟨⟨true, rfl⟩, hh⟩
  · apply (time_obeys hP hI hh).bind
    · rintro t h' ⟨-, -, -, hI'⟩
      exact ⟨⟨_, rfl⟩, hI'⟩
    · rintro e h' ⟨t, ht, -⟩
      cases ht

omit [IsStrictOrderedRing K] [FloorRing K] in
/-- **The rule for the retry policy.**  Every attempt starts in `I`; it either
ends in `Q` or fails with some `e` in `F e`, from where another attempt may
start or `e` may be raised. -/
theorem RetryPolicy.executeFrom_obeys (hP : Hosted P) (p : RetryPolicy K)
    {func : Host K α} {F : Exc → History (HostSig K) Exc → Prop}
    {Q : Post (HostSig K) Exc α} (hF : ∀ e, Undisturbed P (F e))
    (hfunc : ∀ h, I h → Obeys P func (fun res h' => match res with
      | .ok a => Q (.ok a) h'
      | .error e => F e h') h)
    (hagain : ∀ e h, F e h → I h) (hraise : ∀ e h, F e h → Q (.error e) h)
    (left attempt : ℕ) {h : History (HostSig K) Exc} (hh : I h) :
    Obeys P (p.executeFrom func left attempt) Q h := by
  induction left generalizing attempt h with
  | zero =>
      refine (hfunc h hh).mono fun res h' hres => ?_
      cases res with
      | ok a => exact hres
      | error e => exact hraise e h' hres
  | succ left ih =>
      rw [executeFrom]
      refine (hfunc h hh).handle (fun a h' hres => hres) fun e h₁ he => ?_
      by_cases hre : e.isRetryable
      · rw [if_pos hre]
        have hdraw := idle_obeys hP (hF e)
          (o := .uniform 0 (p.computeDelayCap attempt)) rfl (by simp) he
        apply hdraw.bind
        · rintro sleepS h₂ ⟨-, h₂F⟩
          apply (canWait_obeys hP (hF e) p sleepS h₂F).bind
          · rintro fits h₃ ⟨-, h₃F⟩
            cases fits with
            | false => exact hraise e h₃ h₃F
            | true =>
                have hsleep := idle_obeys hP (hF e) (o := .sleep sleepS) rfl (by simp) h₃F
                apply hsleep.bind
                · rintro u h₄ ⟨-, h₄F⟩
                  exact ih (attempt + 1) (hagain e h₄ h₄F)
                · rintro e' h₄ ⟨⟨v, hv⟩, -⟩
                  cases hv
          · rintro e' h₃ ⟨⟨v, hv⟩, -⟩
            cases hv
        · rintro e' h₂ ⟨⟨v, hv⟩, -⟩
          cases hv
      · rw [if_neg hre]
        exact hraise e h₁ he

omit [IsStrictOrderedRing K] [FloorRing K] in
/-- A policy raises nothing of its own. -/
theorem RetryPolicy.execute_unfailing (p : RetryPolicy K) {func : Host K α}
    (hfunc : func.Unfailing) : (p.execute func).Unfailing := by
  rw [RetryPolicy.execute]
  cases p.config.maxAttempts - 1 with
  | zero => exact hfunc
  | succ left => exact hfunc.handle _

end Policy

end ChaosDemo
