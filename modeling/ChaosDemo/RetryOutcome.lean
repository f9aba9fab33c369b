/-
ChaosDemo/RetryOutcome.lean

What `RetryPolicy.execute` comes to.  `func`, the random source and the clock answer as an
environment says, each call in turn, and a tally counts the calls and the metrics.

    attempts_ends :  from attempt i on, the loop makes k - i calls, where k is the first
                     attempt from i on that does not continue, and ends as call k did

The induction is on the attempts that are left.  The tally ties the number of the attempt
to the numbers of the draws and of the looks at the clock, of which an attempt that
continues makes one and two.
-/
import ChaosDemo.RetryLoop

namespace ChaosDemo

open CallTree

variable {K ε α : Type} [Field K] [LinearOrder K]

/-! ### Environments -/

/-- The answers of `func`, of the random source and of the clock, in the order of the
calls. -/
structure RetryEnv (K ε α : Type) where
  outcome : ℕ → Except ε α
  draw : ℕ → K → K → K
  clock : ℕ → K

/-- What has been called and recorded. -/
structure RetryTally where
  calls : ℕ := 0
  draws : ℕ := 0
  readings : ℕ := 0
  attempts : ℕ := 0
  successes : ℕ := 0
  failures : ℕ := 0

/-- `RetryMetrics`; the log is not counted. -/
def RetryTally.note (s : RetryTally) : RetryNote K ε → RetryTally
  | .attempt => { s with attempts := s.attempts + 1 }
  | .success => { s with successes := s.successes + 1 }
  | .failure _ => { s with failures := s.failures + 1 }
  | .logAttempt _ _ _ _ => s
  | .logExhausted _ _ _ _ _ => s

def RetryEnv.serve (env : RetryEnv K ε α) (s : RetryTally) :
    (o : (RetrySig K ε α).Op) → Except ε ((RetrySig K ε α).Ret o) × RetryTally
  | .func => (.ok (env.outcome s.calls), { s with calls := s.calls + 1 })
  | .uniform lo hi => (.ok (env.draw s.draws lo hi), { s with draws := s.draws + 1 })
  | .clock => (.ok (env.clock s.readings), { s with readings := s.readings + 1 })
  | .logClock => (.ok (env.clock s.readings), { s with readings := s.readings + 1 })
  | .sleep _ => (.ok (), s)
  | .note n => (.ok (), s.note n)

namespace RetryPolicy

/-- Whether the deadline accommodates the delay that is drawn after attempt `i`, counted
from 0.  Every attempt before it looked at the clock twice. -/
def roomAfter (p : RetryPolicy K) (env : RetryEnv K ε α) (i : ℕ) : Bool :=
  match p.deadline with
  | none => true
  | some deadlineAt =>
      max (env.draw i 0 (p.computeDelayCap (i + 1))) 0 < max (deadlineAt - env.clock (2 * i)) 0

/-- Attempt `i`, counted from 0, is followed by another one. -/
def continues (p : RetryPolicy K) (env : RetryEnv K ε α) (retryable : ε → Bool) (i : ℕ) : Bool :=
  match env.outcome i with
  | .ok _ => false
  | .error e => retryable e && decide (i + 1 < p.config.maxAttempts) && p.roomAfter env i

/-- The `k`-th call is the last: it is the first that returns, raises a non-retryable
exception, is the `max_attempts`-th, or leaves no room for the delay after it. -/
def IsLastCall (p : RetryPolicy K) (env : RetryEnv K ε α) (retryable : ε → Bool) (k : ℕ) : Prop :=
  1 ≤ k ∧ (∀ i < k - 1, p.continues env retryable i = true) ∧
    p.continues env retryable (k - 1) = false

/-- How a run ends from the tally `s` on that was taken before attempt `i`: its outcome is
that of call `k`, and it recorded one attempt for each call and one more metric. -/
structure Ends (env : RetryEnv K ε α) (s : RetryTally) (i k : ℕ) (res : Except ε α)
    (s' : RetryTally) : Prop where
  outcome : res = env.outcome (k - 1)
  calls : s'.calls = k
  attempts : s'.attempts + i = s.attempts + k
  successes : s'.successes = s.successes + if res.isOk then 1 else 0
  failures : s'.failures = s.failures + if res.isOk then 0 else 1

section Steps

variable (p : RetryPolicy K) (env : RetryEnv K ε α) (s : RetryTally)

theorem eval_giveUp (attempt : ℕ) (e : ε) (reason : ExhaustedReason) (nextDelay : Option K) :
    ∃ readings, (p.giveUp attempt e reason nextDelay : RetryProg K ε α α).eval env.serve s =
      (.error e, { s with readings := readings, failures := s.failures + 1 }) := by
  unfold giveUp remainingSeconds
  rcases p.deadline with - | deadlineAt
  · exact ⟨s.readings, rfl⟩
  · exact ⟨s.readings + 1, rfl⟩

theorem eval_remainingSeconds {β : Type} (f : Option K → RetryProg K ε α β) :
    ∃ r, (p.remainingSeconds >>= f).eval env.serve s =
      (f r).eval env.serve { s with readings := s.readings + if p.deadline.isSome then 1 else 0 } := by
  unfold remainingSeconds
  rcases p.deadline with - | deadlineAt
  · exact ⟨none, rfl⟩
  · exact ⟨_, rfl⟩

theorem eval_fits {β : Type} {i : ℕ} (hreadings : p.deadline.isSome → s.readings = 2 * i)
    (f : Bool → RetryProg K ε α β) :
    (p.fits (env.draw i 0 (p.computeDelayCap (i + 1))) >>= f).eval env.serve s =
      (f (p.roomAfter env i)).eval env.serve
        { s with readings := s.readings + if p.deadline.isSome then 1 else 0 } := by
  unfold fits roomAfter
  rcases hdeadline : p.deadline with - | deadlineAt
  · rfl
  · have hi : s.readings = 2 * i := hreadings (by rw [hdeadline]; rfl)
    rw [← hi]
    rfl

/-- **One attempt.**  It returns, raises, or leads to the next one. -/
theorem eval_onFailure (retryable : ε → Bool) (again : RetryProg K ε α α) {i : ℕ} {e : ε}
    (hout : env.outcome i = .error e) (hdraws : s.draws = i)
    (hreadings : p.deadline.isSome → s.readings = 2 * i) :
    if p.continues env retryable i then
      (p.onFailure retryable again (i + 1) e).eval env.serve s =
        again.eval env.serve
          { s with
            draws := i + 1
            readings := s.readings + if p.deadline.isSome then 2 else 0 }
    else ∃ draws readings, (p.onFailure retryable again (i + 1) e).eval env.serve s =
        (.error e, { s with draws := draws, readings := readings, failures := s.failures + 1 }) := by
  subst hdraws
  unfold onFailure
  by_cases hre : retryable e
  · rw [if_pos hre]
    by_cases hlast : p.config.maxAttempts ≤ s.draws + 1
    · have hstop : p.continues env retryable s.draws = false := by
        simp [continues, hout, hlast]
      rw [hstop, if_pos hlast]
      obtain ⟨readings, hgive⟩ := eval_giveUp p env s (s.draws + 1) e
        .maxAttempts none
      exact ⟨s.draws, readings, hgive⟩
    · rw [if_neg hlast]
      let sleepS := env.draw s.draws 0 (p.computeDelayCap (s.draws + 1))
      let s₁ : RetryTally := { s with draws := s.draws + 1 }
      let s₂ : RetryTally :=
        { s₁ with readings := s₁.readings + if p.deadline.isSome then 1 else 0 }
      have hfits : ∀ f : Bool → RetryProg K ε α α, (p.fits sleepS >>= f).eval env.serve s₁ =
          (f (p.roomAfter env s.draws)).eval env.serve s₂ := eval_fits p env s₁ hreadings
      show if p.continues env retryable s.draws then
          (p.fits sleepS >>= _ : RetryProg K ε α α).eval env.serve s₁ = _
        else ∃ draws readings, (p.fits sleepS >>= _ : RetryProg K ε α α).eval env.serve s₁ = _
      rw [hfits]
      rcases hroom : p.roomAfter env s.draws with - | -
      · have hstop : p.continues env retryable s.draws = false := by
          simp [continues, hout, hroom]
        rw [hstop]
        obtain ⟨readings, hgive⟩ := eval_giveUp p env s₂ (s.draws + 1) e
          .deadline (some sleepS)
        exact ⟨s.draws + 1, readings, hgive⟩
      · have hgo : p.continues env retryable s.draws = true := by
          simp only [continues, hout, hroom, hre, Bool.and_true, Bool.true_and, decide_eq_true_eq]
          omega
        rw [hgo, if_pos rfl]
        obtain ⟨r, hlog⟩ := eval_remainingSeconds p env s₂
          fun remaining => note (.logAttempt (s.draws + 1) e sleepS remaining) >>= fun _ =>
            sleep sleepS >>= fun _ => again
        refine hlog.trans ?_
        show again.eval env.serve _ = _
        congr 1
        cases hsome : p.deadline.isSome <;> simp [s₁, s₂, hsome] <;> rfl
  · have hstop : p.continues env retryable s.draws = false := by
      simp [continues, hout, hre]
    rw [hstop, if_neg hre]
    exact ⟨s.draws, s.readings, rfl⟩

end Steps

/-- The round of the loop for attempt `i`, counted from 0. -/
theorem eval_attempts (p : RetryPolicy K) (env : RetryEnv K ε α) (retryable : ε → Bool)
    (runtimeError : ε) (left i : ℕ) (s : RetryTally) (hcalls : s.calls = i) :
    (p.attempts retryable runtimeError (left + 1) (i + 1)).eval env.serve s =
      match env.outcome i with
      | .ok a =>
          (.ok a, { s with
            calls := i + 1, attempts := s.attempts + 1, successes := s.successes + 1 })
      | .error e =>
          (p.onFailure retryable (p.attempts retryable runtimeError left (i + 2)) (i + 1) e).eval
            env.serve { s with calls := i + 1, attempts := s.attempts + 1 } := by
  subst hcalls
  rw [attempts]
  show (Prog.eval env.serve (match env.outcome s.calls with | .ok _ => _ | .error _ => _)) _ = _
  rcases env.outcome s.calls with e | a
  · rfl
  · rfl

/-- The last call. -/
theorem attempts_last (p : RetryPolicy K) (env : RetryEnv K ε α) (retryable : ε → Bool)
    (runtimeError : ε) (left i : ℕ) (s : RetryTally) (hcalls : s.calls = i) (hdraws : s.draws = i)
    (hreadings : p.deadline.isSome → s.readings = 2 * i)
    (hstop : p.continues env retryable i = false) :
    ∃ s', (p.attempts retryable runtimeError (left + 1) (i + 1)).eval env.serve s =
        (env.outcome i, s') ∧ Ends env s i (i + 1) (env.outcome i) s' := by
  rw [eval_attempts p env retryable runtimeError left i s hcalls]
  rcases hout : env.outcome i with e | a
  · have hfail := eval_onFailure p env { s with calls := i + 1, attempts := s.attempts + 1 }
      retryable (p.attempts retryable runtimeError left (i + 2)) hout hdraws hreadings
    rw [hstop] at hfail
    obtain ⟨draws, readings, hrun⟩ := hfail
    exact ⟨_, hrun, hout.symm, rfl, by show s.attempts + 1 + i = _; omega, rfl, rfl⟩
  · exact ⟨_, rfl, hout.symm, rfl, by show s.attempts + 1 + i = _; omega, rfl, rfl⟩

/-- **The loop.**  From attempt `i` on it makes its calls up to the first that does not
continue. -/
theorem attempts_ends (p : RetryPolicy K) (env : RetryEnv K ε α) (retryable : ε → Bool)
    (runtimeError : ε) (left i : ℕ) (s : RetryTally)
    (hleft : i + (left + 1) = p.config.maxAttempts) (hcalls : s.calls = i) (hdraws : s.draws = i)
    (hreadings : p.deadline.isSome → s.readings = 2 * i) :
    ∃ k s', (p.attempts retryable runtimeError (left + 1) (i + 1)).eval env.serve s =
        (env.outcome (k - 1), s') ∧
      i < k ∧ k ≤ p.config.maxAttempts ∧
      (∀ j, i ≤ j → j < k - 1 → p.continues env retryable j = true) ∧
      p.continues env retryable (k - 1) = false ∧
      Ends env s i k (env.outcome (k - 1)) s' := by
  induction left generalizing i s with
  | zero =>
      have hstop : p.continues env retryable i = false := by
        unfold continues
        split
        · rfl
        · simp only [Bool.and_eq_false_iff, decide_eq_false_iff_not]
          exact .inl (.inr (by omega))
      obtain ⟨s', hrun, hends⟩ :=
        attempts_last p env retryable runtimeError 0 i s hcalls hdraws hreadings hstop
      exact ⟨i + 1, s', hrun, by omega, by omega, fun j hj hlt => absurd hlt (by omega), hstop,
        hends⟩
  | succ left ih =>
      rcases hgo : p.continues env retryable i with - | -
      · obtain ⟨s', hrun, hends⟩ :=
          attempts_last p env retryable runtimeError (left + 1) i s hcalls hdraws hreadings hgo
        exact ⟨i + 1, s', hrun, by omega, by omega, fun j hj hlt => absurd hlt (by omega), hgo,
          hends⟩
      · -- attempt `i` failed, and the loop goes on with the next one
        obtain ⟨e, hout⟩ : ∃ e, env.outcome i = .error e := by
          unfold continues at hgo
          split at hgo
          · cases hgo
          · exact ⟨_, ‹_›⟩
        have hfail := eval_onFailure p env { s with calls := i + 1, attempts := s.attempts + 1 }
          retryable (p.attempts retryable runtimeError (left + 1) (i + 2)) hout hdraws hreadings
        rw [hgo, if_pos rfl] at hfail
        obtain ⟨k, s', hrun, hlt, hle, hbefore, hstop, hends⟩ := ih (i + 1)
          { s with
            calls := i + 1
            attempts := s.attempts + 1
            draws := i + 1
            readings := s.readings + if p.deadline.isSome then 2 else 0 }
          (by omega) rfl rfl (by
            intro hsome
            simp only [hsome, if_true, hreadings hsome]
            omega)
        refine ⟨k, s', ?_, by omega, hle, ?_, hstop, ?_⟩
        · rw [eval_attempts p env retryable runtimeError (left + 1) i s hcalls, hout]
          exact hfail.trans hrun
        · intro j hj hjk
          rcases Nat.eq_or_lt_of_le hj with rfl | hij
          · exact hgo
          · exact hbefore j hij hjk
        · refine ⟨hends.outcome, hends.calls, ?_, hends.successes, hends.failures⟩
          have hattempts : s'.attempts + (i + 1) = s.attempts + 1 + k := hends.attempts
          omega

/-! ### The result -/

/-- `execute` in an environment, with the tally of the run. -/
def runIn (p : RetryPolicy K) (env : RetryEnv K ε α) (retryable : ε → Bool) (runtimeError : ε) :
    Except ε α × RetryTally :=
  (p.executeLoop retryable runtimeError).eval env.serve {}

theorem IsLastCall.unique {p : RetryPolicy K} {env : RetryEnv K ε α} {retryable : ε → Bool}
    {k k' : ℕ} (h : p.IsLastCall env retryable k) (h' : p.IsLastCall env retryable k') :
    k = k' := by
  obtain ⟨hk, hbefore, hstop⟩ := h
  obtain ⟨hk', hbefore', hstop'⟩ := h'
  by_contra hne
  rcases Nat.lt_or_gt_of_ne hne with hlt | hlt
  · rw [hbefore' (k - 1) (by omega)] at hstop
    cases hstop
  · rw [hbefore (k' - 1) (by omega)] at hstop'
    cases hstop'

/-- A run ends with its last call. -/
theorem runIn_ends (p : RetryPolicy K) (env : RetryEnv K ε α) (retryable : ε → Bool)
    (runtimeError : ε) :
    ∃ k, p.IsLastCall env retryable k ∧ k ≤ p.config.maxAttempts ∧
      (p.runIn env retryable runtimeError).1 = env.outcome (k - 1) ∧
      Ends env {} 0 k (env.outcome (k - 1)) (p.runIn env retryable runtimeError).2 := by
  obtain ⟨n, hn⟩ : ∃ n, p.config.maxAttempts = n + 1 :=
    ⟨p.config.maxAttempts - 1, (Nat.sub_add_cancel p.config.maxAttempts_pos).symm⟩
  obtain ⟨k, s', hrun, hlt, hle, hbefore, hstop, hends⟩ :=
    attempts_ends p env retryable runtimeError n 0 {} (by omega) rfl rfl fun _ => rfl
  have hrunIn : p.runIn env retryable runtimeError = (env.outcome (k - 1), s') := by
    rw [runIn, executeLoop, hn]
    exact hrun
  rw [hrunIn]
  exact ⟨k, ⟨hlt, fun i hi => hbefore i (Nat.zero_le i) hi, hstop⟩, hle, rfl, hends⟩

/-- **`execute` refines its specification.**  It calls `func` up to the call that decides,
comes to what that call came to, and records one attempt for each call and one success or
failure.  What the loop would raise after its last attempt plays no part. -/
theorem execute_refines (p : RetryPolicy K) (env : RetryEnv K ε α) (retryable : ε → Bool)
    (runtimeError : ε) :
    ∃ k, p.IsLastCall env retryable k ∧ k ≤ p.config.maxAttempts ∧
      (p.runIn env retryable runtimeError).1 = env.outcome (k - 1) ∧
      (p.runIn env retryable runtimeError).2.calls = k ∧
      (p.runIn env retryable runtimeError).2.attempts = k ∧
      (p.runIn env retryable runtimeError).2.successes =
        (if (env.outcome (k - 1)).isOk then 1 else 0) ∧
      (p.runIn env retryable runtimeError).2.failures =
        (if (env.outcome (k - 1)).isOk then 0 else 1) ∧
      ∀ other, (p.runIn env retryable other).1 = (p.runIn env retryable runtimeError).1 := by
  obtain ⟨k, hlast, hle, hres, hends⟩ := p.runIn_ends env retryable runtimeError
  refine ⟨k, hlast, hle, hres, hends.calls, ?_, ?_, ?_, ?_⟩
  · have hattempts := hends.attempts
    simpa using hattempts
  · rw [hends.successes, Nat.zero_add]
  · rw [hends.failures, Nat.zero_add]
  · intro other
    obtain ⟨k', hlast', -, hres', -⟩ := p.runIn_ends env retryable other
    rw [hres, hres', hlast.unique hlast']

end RetryPolicy

end ChaosDemo
