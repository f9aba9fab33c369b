/-
ChaosDemo/RetryLoop.lean

`RetryPolicy.execute` with everything it does between two attempts: the metrics, the log,
the draw of a delay and the looks at the clock.  `RetryPolicy.execute` of ChaosDemo/Retry.lean
is what a caller sees of it (`execute_interp`).

The loop has four ways out.  What decides is one predicate of the attempt,

    Continues i  =  attempt i raises a retryable exception, is not the last one,
                    and the deadline has room for the delay that is drawn after it,

and a run is as long as its first attempt that does not continue (`IsLastCall`).
-/
import ChaosDemo.Retry

namespace ChaosDemo

open CallTree

/-! ### The loop -/

/-- Why a policy gives up. -/
inductive ExhaustedReason
  | maxAttempts
  | deadline
deriving DecidableEq

/-- What `execute` records, in a metric or in the log. -/
inductive RetryNote (K ε : Type)
  | attempt
  | success
  | failure (e : ε)
  | logAttempt (attempt : ℕ) (e : ε) (sleepS : K) (remaining : Option K)
  | logExhausted (attempt : ℕ) (e : ε) (reason : ExhaustedReason) (nextDelay : Option K)
      (remaining : Option K)

/-- What `execute` calls.  `func` answers with a value or with what it raised; `logClock`
is a look at the clock for the log alone. -/
inductive RetryOp (K ε : Type)
  | func
  | uniform (lo hi : K)
  | clock
  | logClock
  | sleep (s : K)
  | note (n : RetryNote K ε)

abbrev RetryOp.Ret (α : Type) {K ε : Type} : RetryOp K ε → Type
  | .func => Except ε α
  | .uniform _ _ => K
  | .clock => K
  | .logClock => K
  | .sleep _ => Unit
  | .note _ => Unit

abbrev RetrySig (K ε α : Type) : Sig := ⟨RetryOp K ε, RetryOp.Ret α⟩

/-- A part of `execute`. -/
abbrev RetryProg (K ε α : Type) := Prog (RetrySig K ε α) ε

variable {K ε α : Type} [Field K] [LinearOrder K]

namespace RetryPolicy

def callFunc : RetryProg K ε α (Except ε α) := .perform (S := RetrySig K ε α) .func
def uniform (lo hi : K) : RetryProg K ε α K := .perform (S := RetrySig K ε α) (.uniform lo hi)
def clock : RetryProg K ε α K := .perform (S := RetrySig K ε α) .clock
def logClock : RetryProg K ε α K := .perform (S := RetrySig K ε α) .logClock
def sleep (s : K) : RetryProg K ε α Unit := .perform (S := RetrySig K ε α) (.sleep s)
def note (n : RetryNote K ε) : RetryProg K ε α Unit := .perform (S := RetrySig K ε α) (.note n)

/-- `RetryDeadline.remaining_seconds` for the log, `None` without a deadline. -/
def remainingSeconds (p : RetryPolicy K) : RetryProg K ε α (Option K) :=
  match p.deadline with
  | none => pure none
  | some deadlineAt => do
      let now ← logClock
      pure (some (max (deadlineAt - now) 0))

/-- `self._deadline is None or self._deadline.can_wait(delay_s)`. -/
def fits (p : RetryPolicy K) (delayS : K) : RetryProg K ε α Bool :=
  match p.deadline with
  | none => pure true
  | some deadlineAt => do
      let now ← clock
      pure (decide (max delayS 0 < max (deadlineAt - now) 0))

/-- `_log_exhausted`, `record_failure` and the `raise` that follows. -/
def giveUp (p : RetryPolicy K) (attempt : ℕ) (e : ε) (reason : ExhaustedReason)
    (nextDelay : Option K) : RetryProg K ε α α := do
  let remaining ← p.remainingSeconds
  note (.logExhausted attempt e reason nextDelay remaining)
  note (.failure e)
  throw e

/-- The `except` blocks of an attempt; `again` is the next round of the loop. -/
def onFailure (p : RetryPolicy K) (retryable : ε → Bool) (again : RetryProg K ε α α)
    (attempt : ℕ) (e : ε) : RetryProg K ε α α :=
  if retryable e then
    if p.config.maxAttempts ≤ attempt then p.giveUp attempt e .maxAttempts none
    else do
      let sleepS ← uniform 0 (p.computeDelayCap attempt)
      let fits ← p.fits sleepS
      if fits then do
        let remaining ← p.remainingSeconds
        note (.logAttempt attempt e sleepS remaining)
        sleep sleepS
        again
      else p.giveUp attempt e .deadline (some sleepS)
  else do
    note (.failure e)
    throw e

/-- The attempts from number `attempt` on; `left` of them are to go. -/
def attempts (p : RetryPolicy K) (retryable : ε → Bool) (runtimeError : ε) :
    (left attempt : ℕ) → RetryProg K ε α α
  | 0, _ => throw runtimeError
  | left + 1, attempt => do
      note .attempt
      let outcome ← callFunc
      match outcome with
      | .ok result => do
          note .success
          pure result
      | .error e =>
          p.onFailure retryable (attempts p retryable runtimeError left (attempt + 1)) attempt e

/-- `RetryPolicy.execute`; `runtimeError` is what it raises after its loop. -/
def executeLoop (p : RetryPolicy K) (retryable : ε → Bool) (runtimeError : ε) :
    RetryProg K ε α α :=
  p.attempts retryable runtimeError p.config.maxAttempts 1

end RetryPolicy

/-! ### What a caller sees -/

/-- The calls of the loop as a caller sees them: what is recorded is nothing, and what the
log says of the deadline is not looked up. -/
def RetryOp.seen (func : Host K α) : (o : RetryOp K Exc) → Host K (o.Ret α)
  | .func => func.attempt
  | .uniform lo hi => Host.uniform lo hi
  | .clock => Host.time
  | .logClock => pure 0
  | .sleep s => Host.sleep s
  | .note _ => pure ()

section Seen

variable {func : Host K α} {β : Type}

theorem attempt_perform {S : Sig} {ε β : Type} (o : S.Op) (f : Except ε (S.Ret o) → Prog S ε β) :
    (Prog.perform o : Prog S ε (S.Ret o)).attempt >>= f = .call o f := by
  show Prog.call o _ = _
  congr 1
  funext r
  cases r <;> rfl

omit [LinearOrder K] in
/-- A call that the caller sees as another one. -/
theorem interp_perform (o : RetryOp K Exc) (f : o.Ret α → RetryProg K Exc α β) :
    (Prog.perform (S := RetrySig K Exc α) o >>= f).interp (RetryOp.seen func) =
      RetryOp.seen func o >>= fun a => (f a).interp (RetryOp.seen func) := by
  rw [Prog.interp_bind]
  congr 1
  show (RetryOp.seen func o).attempt >>= _ = _
  generalize RetryOp.seen func o = q
  induction q with
  | ret a => rfl
  | raise e => rfl
  | call o' k ih =>
      show Prog.call o' _ = _
      congr 1
      funext r
      exact ih r

theorem interp_remainingSeconds (p : RetryPolicy K) (f : Option K → RetryProg K Exc α β)
    (g : Host K β) (hf : ∀ r, (f r).interp (RetryOp.seen func) = g) :
    (p.remainingSeconds >>= f).interp (RetryOp.seen func) = g := by
  unfold RetryPolicy.remainingSeconds
  split
  · exact hf none
  · exact hf _

theorem interp_fits (p : RetryPolicy K) (delayS : K) (f : Bool → RetryProg K Exc α β) :
    (p.fits delayS >>= f).interp (RetryOp.seen func) =
      p.canWait delayS >>= fun b => (f b).interp (RetryOp.seen func) := by
  unfold RetryPolicy.fits RetryPolicy.canWait
  rcases p.deadline with - | deadlineAt
  · rfl
  · show ((RetryPolicy.clock >>= _) >>= f).interp _ = (Host.time >>= _) >>= _
    rw [Prog.bind_assoc, Prog.bind_assoc]
    exact interp_perform .clock _

theorem interp_giveUp (p : RetryPolicy K) (attempt : ℕ) (e : Exc) (reason : ExhaustedReason)
    (nextDelay : Option K) :
    (p.giveUp attempt e reason nextDelay : RetryProg K Exc α α).interp (RetryOp.seen func) =
      .raise e := by
  unfold RetryPolicy.giveUp
  apply interp_remainingSeconds
  intro r
  show (RetryPolicy.note _ >>= _).interp _ = _
  rw [RetryPolicy.note, interp_perform]
  rfl

/-- An outcome that is looked at and passed on. -/
theorem attempt_bind_handle {S : Sig} {ε β : Type} {q : Prog S ε β}
    {f : Except ε β → Prog S ε β} {g : ε → Prog S ε β} (hok : ∀ a, f (.ok a) = .ret a)
    (herror : ∀ e, f (.error e) = g e) : q.attempt >>= f = q.handle g := by
  induction q with
  | ret a => exact hok a
  | raise e => exact herror e
  | call o k ih =>
      show Prog.call o _ = .call o _
      congr 1
      funext r
      exact ih r

theorem handle_raise {S : Sig} {ε β : Type} (q : Prog S ε β) : q.handle .raise = q := by
  induction q with
  | ret a => rfl
  | raise e => rfl
  | call o k ih =>
      show Prog.call o _ = .call o k
      congr 1
      funext r
      exact ih r

/-- The `except` blocks of the last attempt. -/
theorem interp_onFailure_last (p : RetryPolicy K) (again : RetryProg K Exc α α) {attempt : ℕ}
    (hlast : p.config.maxAttempts ≤ attempt) (e : Exc) :
    (p.onFailure Exc.isRetryable again attempt e).interp (RetryOp.seen func) = .raise e := by
  unfold RetryPolicy.onFailure
  split
  · exact interp_giveUp p _ _ _ _
  · rfl

/-- The `except` blocks of an attempt that is not the last. -/
theorem interp_onFailure (p : RetryPolicy K) (again : RetryProg K Exc α α) {attempt : ℕ}
    (hmore : ¬ p.config.maxAttempts ≤ attempt) (e : Exc) :
    (p.onFailure Exc.isRetryable again attempt e).interp (RetryOp.seen func) =
      if e.isRetryable then do
        let sleepS ← Host.uniform 0 (p.computeDelayCap attempt)
        let fits ← p.canWait sleepS
        if fits then do
          Host.sleep sleepS
          again.interp (RetryOp.seen func)
        else throw e
      else throw e := by
  unfold RetryPolicy.onFailure
  by_cases hre : e.isRetryable
  · rw [if_pos hre, if_pos hre, if_neg hmore, RetryPolicy.uniform, interp_perform]
    show Host.uniform _ _ >>= _ = Host.uniform _ _ >>= _
    congr 1
    funext sleepS
    rw [interp_fits]
    congr 1
    funext fits
    cases fits with
    | false => exact interp_giveUp p _ _ _ _
    | true =>
        apply interp_remainingSeconds
        intro r
        show (RetryPolicy.note _ >>= _).interp _ = _
        rw [RetryPolicy.note, interp_perform]
        show (RetryPolicy.sleep _ >>= _).interp _ = _
        rw [RetryPolicy.sleep, interp_perform]
        rfl
  · rw [if_neg hre, if_neg hre]
    rfl

theorem attempts_interp (p : RetryPolicy K) (func : Host K α) (runtimeError : Exc)
    (left attempt : ℕ) (hleft : attempt + left = p.config.maxAttempts) :
    (p.attempts Exc.isRetryable runtimeError (left + 1) attempt).interp (RetryOp.seen func) =
      p.executeFrom func left attempt := by
  induction left generalizing attempt with
  | zero =>
      rw [RetryPolicy.attempts, RetryPolicy.executeFrom, RetryPolicy.note, interp_perform]
      show (RetryPolicy.callFunc >>= _).interp _ = _
      rw [RetryPolicy.callFunc, interp_perform]
      conv => rhs; rw [← handle_raise func]
      exact attempt_bind_handle (fun a => rfl) fun e =>
        interp_onFailure_last p _ (by omega) e
  | succ left ih =>
      rw [RetryPolicy.attempts, RetryPolicy.executeFrom, RetryPolicy.note, interp_perform]
      show (RetryPolicy.callFunc >>= _).interp _ = _
      rw [RetryPolicy.callFunc, interp_perform]
      refine attempt_bind_handle (fun a => rfl) fun e => ?_
      rw [← ih (attempt + 1) (by omega)]
      exact interp_onFailure p _ (by omega) e

/-- The caller of the loop sees `RetryPolicy.execute`, whatever the loop would raise after
its last attempt. -/
theorem execute_interp (p : RetryPolicy K) (func : Host K α) (runtimeError : Exc) :
    (p.executeLoop Exc.isRetryable runtimeError).interp (RetryOp.seen func) = p.execute func := by
  obtain ⟨n, hn⟩ : ∃ n, p.config.maxAttempts = n + 1 :=
    ⟨p.config.maxAttempts - 1, (Nat.sub_add_cancel p.config.maxAttempts_pos).symm⟩
  rw [RetryPolicy.executeLoop, RetryPolicy.execute, hn, Nat.add_sub_cancel]
  exact attempts_interp p func runtimeError n 1 (by omega)

end Seen

end ChaosDemo
