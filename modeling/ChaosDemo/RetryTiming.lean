/-
ChaosDemo/RetryTiming.lean

How long `RetryPolicy.execute` waits.  Time passes in `func`, by what the call takes, and
in `sleep`, by exactly what is slept; the random source keeps to the bounds it is given.

The loop is at one of two places between its calls, and each has its invariant: `Before`
a call of `func`, and `After` one.  The step from `After` to `Before` is the sleep, and
there the strict test of `can_wait` is consumed twice: the next call starts before the
deadline, and all that was slept fits between the first failure and the deadline.
-/
import Mathlib.Algebra.Order.BigOperators.Group.List
import Mathlib.Tactic.Linarith
import ChaosDemo.RetryLoop
import ChaosDemo.Triple

namespace ChaosDemo

open CallTree

variable {K ε α : Type} [Field K] [LinearOrder K] [IsStrictOrderedRing K]

/-! ### Time -/

/-- What `func` comes to and how long each call takes, and what the random source draws. -/
structure TimedEnv (K ε α : Type) [Field K] [LinearOrder K] where
  outcome : ℕ → Except ε α
  duration : ℕ → K
  draw : ℕ → K → K
  duration_nonneg : ∀ i, 0 ≤ duration i
  draw_nonneg : ∀ i hi, 0 ≤ hi → 0 ≤ draw i hi
  draw_le : ∀ i hi, 0 ≤ hi → draw i hi ≤ hi

/-- The clock with the times at which `func` was called, the time at which its first call
ended, and the times slept. -/
structure RetryClock (K : Type) where
  now : K
  starts : List K := []
  firstEnd : Option K := none
  sleeps : List K := []

/-- The clock after a call of `func` that took `d`. -/
def RetryClock.called (s : RetryClock K) (d : K) : RetryClock K :=
  { s with
    now := s.now + d
    starts := s.starts ++ [s.now]
    firstEnd := s.firstEnd.or (some (s.now + d)) }

def RetryClock.slept (s : RetryClock K) (d : K) : RetryClock K :=
  { s with now := s.now + d, sleeps := s.sleeps ++ [d] }

def TimedEnv.serve (env : TimedEnv K ε α) (s : RetryClock K) :
    (o : (RetrySig K ε α).Op) → Except ε ((RetrySig K ε α).Ret o) × RetryClock K
  | .func => (.ok (env.outcome s.starts.length), s.called (env.duration s.starts.length))
  | .uniform _ hi => (.ok (env.draw s.starts.length hi), s)
  | .clock => (.ok s.now, s)
  | .logClock => (.ok s.now, s)
  | .sleep d => (.ok (), s.slept d)
  | .note _ => (.ok (), s)

namespace RetryPolicy

/-! ### The bounds -/

/-- The bounds on what was slept and on when `func` was called. -/
structure Bounded (p : RetryPolicy K) (s : RetryClock K) : Prop where
  capped : ∀ i d, s.sleeps[i]? = some d → d ≤ min p.config.maxDelayS (p.config.baseDelayS * 2 ^ i)
  early : ∀ deadlineAt, p.deadline = some deadlineAt →
    ∀ i t, s.starts[i + 1]? = some t → t < deadlineAt
  total : s.sleeps.sum ≤ s.sleeps.length * p.config.maxDelayS
  short : s.sleeps.length + 1 ≤ p.config.maxAttempts
  room : ∀ deadlineAt, p.deadline = some deadlineAt → s.sleeps ≠ [] →
    ∃ t, s.firstEnd = some t ∧ s.sleeps.sum < deadlineAt - t

/-- Before call `i` of `func`, counted from 0. -/
structure Before (p : RetryPolicy K) (i : ℕ) (s : RetryClock K) : Prop extends Bounded p s where
  calls : s.starts.length = i
  pauses : s.sleeps.length = i
  due : ∀ deadlineAt, p.deadline = some deadlineAt → i ≠ 0 → s.now < deadlineAt
  first : i ≠ 0 → s.firstEnd.isSome = true
  spent : ∀ t, s.firstEnd = some t → t + s.sleeps.sum ≤ s.now

/-- After call `i`. -/
structure After (p : RetryPolicy K) (i : ℕ) (s : RetryClock K) : Prop extends Bounded p s where
  calls : s.starts.length = i + 1
  pauses : s.sleeps.length = i
  first : ∃ t, s.firstEnd = some t ∧ t + s.sleeps.sum ≤ s.now

variable {p : RetryPolicy K} {env : TimedEnv K ε α} {i : ℕ} {s : RetryClock K}

theorem delayCap_nonneg (p : RetryPolicy K) (attempt : ℕ) :
    0 ≤ p.computeDelayCap attempt := by
  refine le_min p.config.maxDelayS_nonneg ?_
  exact mul_nonneg p.config.baseDelayS_nonneg (pow_nonneg zero_le_two _)

omit [Field K] [LinearOrder K] [IsStrictOrderedRing K] in
theorem getElem?_concat {l : List K} {a b : K} {j : ℕ} (h : (l ++ [a])[j]? = some b) :
    l[j]? = some b ∨ j = l.length ∧ b = a := by
  rcases Nat.lt_trichotomy j l.length with hlt | rfl | hgt
  · left
    rwa [List.getElem?_append_left hlt] at h
  · right
    simpa [eq_comm] using h
  · have hlen := (List.getElem?_eq_some_iff.mp h).1
    simp at hlen
    omega

theorem Before.called (h : Before p i s) {d : K} (hd : 0 ≤ d) : After p i (s.called d) where
  capped := h.capped
  early := by
    intro deadlineAt hdeadline j t ht
    rcases getElem?_concat ht with hold | ⟨hj, rfl⟩
    · exact h.early deadlineAt hdeadline j t hold
    · -- the call that has just been made
      have hne : i ≠ 0 := by
        have hcalls := h.calls
        omega
      exact h.due deadlineAt hdeadline hne
  total := h.total
  short := h.short
  room := by
    intro deadlineAt hdeadline hne
    obtain ⟨t, ht, hlt⟩ := h.room deadlineAt hdeadline hne
    refine ⟨t, ?_, hlt⟩
    show s.firstEnd.or _ = some t
    rw [ht, Option.some_or]
  calls := by
    show (s.starts ++ [s.now]).length = i + 1
    rw [List.length_append, h.calls]
    rfl
  pauses := h.pauses
  first := by
    show ∃ t, s.firstEnd.or (some (s.now + d)) = some t ∧ t + s.sleeps.sum ≤ s.now + d
    rcases hfirst : s.firstEnd with - | t
    · -- the first call: nothing has been slept
      have hi : i = 0 := by
        by_contra hne
        have := h.first hne
        simp [hfirst] at this
      have hnil : s.sleeps = [] := List.eq_nil_of_length_eq_zero (h.pauses.trans hi)
      exact ⟨s.now + d, rfl, by rw [hnil]; simp⟩
    · exact ⟨t, rfl, (h.spent t hfirst).trans (le_add_of_nonneg_right hd)⟩

/-- **The sleep.**  The delay is within its cap, and there was room for it. -/
theorem After.slept (h : After p i s) (hmore : i + 1 < p.config.maxAttempts) {d : K} (hd : 0 ≤ d)
    (hcap : d ≤ p.computeDelayCap (i + 1))
    (hroom : ∀ deadlineAt, p.deadline = some deadlineAt → d < deadlineAt - s.now) :
    Before p (i + 1) (s.slept d) := by
  obtain ⟨t, ht, hspent⟩ := h.first
  have hsum : (s.slept d).sleeps.sum = s.sleeps.sum + d := by
    show (s.sleeps ++ [d]).sum = _
    simp
  have hcapped : ∀ j d', (s.slept d).sleeps[j]? = some d' →
      d' ≤ min p.config.maxDelayS (p.config.baseDelayS * 2 ^ j) := by
    intro j d' hd'
    rcases getElem?_concat hd' with hold | ⟨rfl, rfl⟩
    · exact h.capped j d' hold
    · rw [h.pauses]
      simpa [computeDelayCap] using hcap
  have hlen : (s.slept d).sleeps.length = i + 1 := by
    show (s.sleeps ++ [d]).length = i + 1
    rw [List.length_append, h.pauses]
    rfl
  refine ⟨⟨hcapped, h.early, ?_, ?_, ?_⟩, h.calls, hlen, ?_, ?_, ?_⟩
  · have htotal := h.total
    have hmax : d ≤ p.config.maxDelayS := hcap.trans (min_le_left _ _)
    rw [hsum, hlen]
    rw [h.pauses] at htotal
    push_cast
    linarith
  · rw [hlen]
    exact hmore
  · intro deadlineAt hdeadline _
    refine ⟨t, ht, ?_⟩
    have := hroom deadlineAt hdeadline
    rw [hsum]
    linarith
  · intro deadlineAt hdeadline _
    have := hroom deadlineAt hdeadline
    show s.now + d < deadlineAt
    linarith
  · intro _
    show s.firstEnd.isSome = true
    rw [ht]
    rfl
  · intro t' ht'
    have hsame : some t' = some t := ht'.symm.trans ht
    cases hsame
    rw [hsum]
    show t + (s.sleeps.sum + d) ≤ s.now + d
    linarith

/-! ### The loop -/

section Loop

variable {P E : RetryClock K → Prop} {Q : α → RetryClock K → Prop}

omit [IsStrictOrderedRing K] in
theorem note_keeps (n : RetryNote K ε) : Triple env.serve P (note n) (fun _ => P) E :=
  fun _ hs => hs

omit [IsStrictOrderedRing K] in
theorem remainingSeconds_keeps : Triple env.serve P p.remainingSeconds (fun _ => P) E := by
  unfold remainingSeconds
  rcases p.deadline with - | deadlineAt
  · exact fun _ hs => hs
  · exact fun _ hs => hs

omit [IsStrictOrderedRing K] in
theorem giveUp_keeps (attempt : ℕ) (e : ε) (reason : ExhaustedReason) (nextDelay : Option K) :
    Triple env.serve P (p.giveUp attempt e reason nextDelay) Q P := by
  unfold giveUp
  apply remainingSeconds_keeps.bind
  intro remaining
  apply (note_keeps _).bind
  intro _
  apply (note_keeps _).bind
  intro _
  exact .raise fun _ hs => hs

omit [IsStrictOrderedRing K] in
/-- `can_wait` says yes only where the delay ends before the deadline. -/
theorem fits_roomy {d : K} (hd : 0 ≤ d) :
    Triple env.serve P (p.fits d)
      (fun b s => P s ∧ (b = true → ∀ deadlineAt, p.deadline = some deadlineAt →
        d < deadlineAt - s.now)) E := by
  intro s hs
  unfold fits
  rcases hdeadline : p.deadline with - | deadlineAt
  · refine ⟨hs, ?_⟩
    intro _ deadlineAt hsome
    cases hsome
  · refine ⟨hs, ?_⟩
    intro hfits deadlineAt' hsome
    cases hsome
    have hlt : max d 0 < max (deadlineAt - s.now) 0 := of_decide_eq_true hfits
    rw [max_eq_left hd] at hlt
    rcases lt_max_iff.mp hlt with hroom | hneg
    · exact hroom
    · exact absurd hneg (not_lt.mpr hd)

/-- After a call that failed. -/
theorem onFailure_bounded (retryable : ε → Bool) {again : RetryProg K ε α α} {i : ℕ}
    (hagain : i + 1 < p.config.maxAttempts →
      Triple env.serve (p.Before (i + 1)) again (fun _ => p.Bounded) p.Bounded) (e : ε) :
    Triple env.serve (p.After i) (p.onFailure retryable again (i + 1) e) (fun _ => p.Bounded)
      p.Bounded := by
  have hforget : ∀ s, p.After i s → p.Bounded s := fun s hs => hs.toBounded
  unfold onFailure
  apply Triple.ite
  · intro _
    apply Triple.ite
    · intro _
      exact (giveUp_keeps _ _ _ _).conseq hforget fun _ _ hs => hs
    · intro hlast
      have hmore : i + 1 < p.config.maxAttempts := Nat.lt_of_not_le hlast
      have hcap := p.delayCap_nonneg (i + 1)
      have hdraw : Triple env.serve (p.After i) (uniform 0 (p.computeDelayCap (i + 1)))
          (fun d s => (0 ≤ d ∧ d ≤ p.computeDelayCap (i + 1)) ∧ p.After i s) p.Bounded :=
        fun s hs => ⟨⟨env.draw_nonneg _ _ hcap, env.draw_le _ _ hcap⟩, hs⟩
      apply hdraw.bind
      intro d
      by_cases hd : 0 ≤ d ∧ d ≤ p.computeDelayCap (i + 1)
      · apply Triple.bind ((fits_roomy hd.1).conseq (fun s hs => hs.2) fun _ _ hs => hs)
        intro fits
        apply Triple.ite
        · intro hfits
          apply remainingSeconds_keeps.bind
          intro remaining
          apply (note_keeps _).bind
          intro _
          have hsleep : Triple env.serve
              (fun s => p.After i s ∧ (fits = true → ∀ deadlineAt, p.deadline = some deadlineAt →
                d < deadlineAt - s.now)) (sleep d) (fun _ => p.Before (i + 1)) p.Bounded :=
            fun s hs => hs.1.slept hmore hd.1 hd.2 (hs.2 hfits)
          exact hsleep.bind fun _ => hagain hmore
        · intro _
          exact (giveUp_keeps _ _ _ _).conseq (fun s hs => hforget s hs.1) fun _ _ hs => hs
      · intro s hs
        exact absurd hs.1 hd
  · intro _
    apply (note_keeps _).bind
    intro _
    exact .raise hforget

/-- One round of the loop. -/
theorem round_bounded (retryable : ε → Bool) (runtimeError : ε) {left i : ℕ}
    (hagain : i + 1 < p.config.maxAttempts →
      Triple env.serve (p.Before (i + 1)) (p.attempts retryable runtimeError left (i + 2))
        (fun _ => p.Bounded) p.Bounded) :
    Triple env.serve (p.Before i) (p.attempts retryable runtimeError (left + 1) (i + 1))
      (fun _ => p.Bounded) p.Bounded := by
  have hcall : Triple env.serve (p.Before i) callFunc
      (fun _ : Except ε α => p.After i) p.Bounded :=
    fun s hs => hs.called (env.duration_nonneg _)
  rw [attempts]
  apply (note_keeps _).bind
  intro _
  apply hcall.bind
  intro outcome
  rcases outcome with e | result
  · exact onFailure_bounded retryable hagain e
  · apply (note_keeps _).bind
    intro _
    exact .ret fun s hs => hs.toBounded

/-- **The loop**, from before call `i` on. -/
theorem attempts_bounded (retryable : ε → Bool) (runtimeError : ε) (left i : ℕ)
    (hleft : i + (left + 1) = p.config.maxAttempts) :
    Triple env.serve (p.Before i) (p.attempts retryable runtimeError (left + 1) (i + 1))
      (fun _ => p.Bounded) p.Bounded := by
  induction left generalizing i with
  | zero =>
      apply round_bounded
      intro hmore
      omega
  | succ left ih =>
      apply round_bounded
      intro _
      exact ih (i + 1) (by omega)

end Loop

theorem before_start (p : RetryPolicy K) (now : K) : p.Before 0 { now := now } where
  capped := by simp
  early := by simp
  total := by simp
  short := p.config.maxAttempts_pos
  room := by simp
  calls := rfl
  pauses := rfl
  due := by simp
  first := by simp
  spent := by simp

/-- The clock after a run that began at `now`. -/
def clockAfter (p : RetryPolicy K) (env : TimedEnv K ε α) (retryable : ε → Bool)
    (runtimeError : ε) (now : K) : RetryClock K :=
  ((p.executeLoop retryable runtimeError).eval env.serve { now := now }).2

theorem clockAfter_bounded (p : RetryPolicy K) (env : TimedEnv K ε α) (retryable : ε → Bool)
    (runtimeError : ε) (now : K) : p.Bounded (p.clockAfter env retryable runtimeError now) := by
  obtain ⟨n, hn⟩ : ∃ n, p.config.maxAttempts = n + 1 :=
    ⟨p.config.maxAttempts - 1, (Nat.sub_add_cancel p.config.maxAttempts_pos).symm⟩
  have hrun : Triple env.serve (p.Before 0) (p.attempts retryable runtimeError (n + 1) 1)
      (fun _ => p.Bounded) p.Bounded :=
    attempts_bounded retryable runtimeError n 0 (by omega)
  rw [clockAfter, executeLoop, hn]
  exact hrun.run (fun _ _ hs => hs) (fun _ hs => hs) (p.before_start now)

/-- **Retries keep to the backoff cap and to the deadline.**  Sleep `i`, counted from 0,
is within its cap; every call of `func` after the first starts before the deadline; and
what is slept in all is bounded by the attempts, and by the time that the deadline leaves
after the first failure. -/
theorem execute_keeps_deadline (p : RetryPolicy K) (env : TimedEnv K ε α) (retryable : ε → Bool)
    (runtimeError : ε) (now : K) :
    let s := p.clockAfter env retryable runtimeError now
    (∀ i d, s.sleeps[i]? = some d →
      d ≤ min p.config.maxDelayS (p.config.baseDelayS * 2 ^ i)) ∧
    (∀ deadlineAt, p.deadline = some deadlineAt →
      ∀ i t, s.starts[i + 1]? = some t → t < deadlineAt) ∧
    s.sleeps.sum ≤ ((p.config.maxAttempts - 1 : ℕ) : K) * p.config.maxDelayS ∧
    (∀ deadlineAt, p.deadline = some deadlineAt → s.sleeps ≠ [] →
      ∃ firstFailure, s.firstEnd = some firstFailure ∧
        s.sleeps.sum < deadlineAt - firstFailure) := by
  intro s
  have hbounded : p.Bounded s := p.clockAfter_bounded env retryable runtimeError now
  refine ⟨hbounded.capped, hbounded.early, ?_, hbounded.room⟩
  have hshort : s.sleeps.length ≤ p.config.maxAttempts - 1 := by
    have := hbounded.short
    omega
  calc s.sleeps.sum ≤ s.sleeps.length * p.config.maxDelayS := hbounded.total
    _ ≤ ((p.config.maxAttempts - 1 : ℕ) : K) * p.config.maxDelayS := by
      apply mul_le_mul_of_nonneg_right _ p.config.maxDelayS_nonneg
      exact_mod_cast hshort

/-- Three attempts with a deadline one second after the start. -/
def threeAttempts : RetryPolicy ℚ where
  config :=
    { maxAttempts := 3
      baseDelayS := 1 / 10
      maxDelayS := 1
      maxAttempts_pos := by norm_num
      baseDelayS_nonneg := by norm_num
      maxDelayS_nonneg := by norm_num }
  deadline := some 1

/-- A function that always fails after a tenth of a second, and delays as long as they may
be. -/
def alwaysFails : TimedEnv ℚ String Unit where
  outcome _ := .error "timeout"
  duration _ := 1 / 10
  draw _ hi := hi
  duration_nonneg _ := by norm_num
  draw_nonneg _ _ h := h
  draw_le _ _ _ := le_refl _

theorem execute_keeps_deadline_three :
    let s := threeAttempts.clockAfter alwaysFails (fun _ => true) "unexpected" 0
    s.sleeps = [1 / 10, 2 / 10] ∧ ∃ firstFailure, s.firstEnd = some firstFailure ∧
      s.sleeps.sum < 1 - firstFailure := by
  have hsleeps : (threeAttempts.clockAfter alwaysFails (fun _ => true) "unexpected" 0).sleeps =
      [1 / 10, 2 / 10] := by decide +kernel
  have hkeeps := threeAttempts.execute_keeps_deadline alwaysFails (fun _ => true) "unexpected" 0
  exact ⟨hsleeps, hkeeps.2.2.2 1 rfl (by rw [hsleeps]; simp)⟩

end RetryPolicy

end ChaosDemo
