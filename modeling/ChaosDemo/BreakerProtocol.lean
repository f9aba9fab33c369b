/-
ChaosDemo/BreakerProtocol.lean

The breaker's functions as parties of a protocol, one rule for each, in the way
ChaosDemo/StoreProtocol.lean has them for the store.

A record call of a breaker that holds the probe deletes the probe key and only
then does the rest.  `Settling P ctx rule I J F` says what a protocol must allow
for it to run: `I` holds up to the `DEL`, `J` from then on, and a call that
raises `e` leaves `F e`.
-/
import ChaosDemo.Breaker
import ChaosDemo.StoreProtocol

set_option linter.unusedSectionVars false

namespace ChaosDemo

open CallTree

variable {K : Type} [Field K] [LinearOrder K] [IsStrictOrderedRing K] [FloorRing K]

abbrev openUntilEvent (keys : BreakerKeys) (r : Option K) : HostEvent K :=
  ⟨.redis (.get (.openUntil keys)), .ok r⟩

abbrev acquireEvent (keys : BreakerKeys) (ttl : ℤ) (r : Except Exc Bool) : HostEvent K :=
  ⟨.redis (.setNxEx (.probe keys) () ttl), r⟩

variable {P : Protocol (HostSig K) Exc} {I J : HostHistory K → Prop}
  {F : Exc → HostHistory K → Prop}

/-! ### Reading -/

/-- The rule for `_read`. -/
theorem readKey_obeys (hP : Hosted P) (ctx : Ctx K) {k : Key} (hI : Undisturbed P I)
    (hget : ∀ h, I h → P.mayCall h (.redis (.get k)) ∧
      ∀ r, P.mayReply h (.redis (.get k)) r → I (⟨.redis (.get k), r⟩ :: h))
    {h : HostHistory K} (hh : I h) :
    Obeys P (readKey ctx k) (fun res h' => I h' ∧
      ∀ v, res = .ok v → ∃ h₀, h' = ⟨.redis (.get k), .ok v⟩ :: h₀ ∧ I h₀) h := by
  refine RetryPolicy.executeFrom_obeys hP _ (I := I) (F := fun _ => I) (fun _ => hI) ?_
    (fun _ _ hI' => hI') ?_ _ _ hh
  · intro h₁ h₁I
    obtain ⟨hcall, hkeep⟩ := hget h₁ h₁I
    refine .perform hcall fun r hr => ?_
    cases r with
    | ok v =>
        refine ⟨hkeep _ hr, fun v' hv => ?_⟩
        obtain rfl := Except.ok.inj hv
        exact ⟨h₁, rfl, h₁I⟩
    | error e => exact hkeep _ hr
  · intro e h₁ h₁I
    refine ⟨h₁I, fun v hv => ?_⟩
    cases hv

/-! ### Recording -/

/-- A call leaves `J`, or raises and leaves `F`. -/
def Ends {α : Type} (J : HostHistory K → Prop) (F : Exc → HostHistory K → Prop) :
    Post (HostSig K) Exc α
  | .ok _, h => J h
  | .error e, h => F e h

/-- The calls that a record call may make once the probe key is deleted, or that
it makes without holding the probe. -/
def HostOp.records (keys : BreakerKeys) : HostOp K → Prop
  | .time => True
  | .uuid4 => True
  | .redis (.set k _) => k = .openUntil keys
  | .redis (.zremrangebyscore _ keys' _) => keys' = keys
  | .redis (.zcard _ keys') => keys' = keys
  | .redis (.circuitBreaker keys' _) => keys' = keys
  | _ => False

/-- What a record call needs. -/
structure Settling (P : Protocol (HostSig K) Exc) (ctx : Ctx K) (rule : CircuitBreakerRule K)
    (I J : HostHistory K → Prop) (F : Exc → HostHistory K → Prop) : Prop where
  read : ∀ h, I h → Obeys P (readKey ctx (.openUntil (breakerKeys ctx rule))) (Ends I F) h
  time : ∀ h, I h → P.mayCall h .time ∧ ∀ r, P.mayReply h .time r → Ends I F r (⟨.time, r⟩ :: h)
  delete : ∀ h ks, I h → ks.head? = some (.probe (breakerKeys ctx rule)) →
    (∀ k ∈ ks.tail, ∃ w, k = .window w (breakerKeys ctx rule)) →
    P.mayCall h (.redis (.delete ks)) ∧
      ∀ r, P.mayReply h (.redis (.delete ks)) r → Ends J F r (⟨.redis (.delete ks), r⟩ :: h)
  rest : ∀ h o, J h → o.records (breakerKeys ctx rule) →
    P.mayCall h o ∧ ∀ r, P.mayReply h o r → Ends J F r (⟨o, r⟩ :: h)

namespace Settling

variable {ctx : Ctx K} {rule : CircuitBreakerRule K}

theorem perform (hS : Settling P ctx rule I J F) {o : HostOp K}
    (ho : o.records (breakerKeys ctx rule)) {h : HostHistory K} (hh : J h) :
    Obeys P (.perform (S := HostSig K) o) (Ends J F) h :=
  .perform (hS.rest h o hh ho).1 (hS.rest h o hh ho).2

/-- After a step that ends in `J`, the next one. -/
theorem ends_bind {α β : Type} {p : Host K α} {f : α → Host K β} {h : HostHistory K}
    {I J : HostHistory K → Prop} (hp : Obeys P p (Ends I F) h)
    (hf : ∀ a h', I h' → Obeys P (f a) (Ends J F) h') : Obeys P (p >>= f) (Ends J F) h :=
  hp.bind hf fun _ _ he => he

theorem recordOutcome (hS : Settling P ctx rule I J F) (action : Action) {h : HostHistory K}
    (hh : J h) : Obeys P (recordOutcome ctx rule action) (Ends J F) h := by
  rw [ChaosDemo.recordOutcome]
  apply ends_bind (hS.perform (o := .time) trivial hh)
  intro now h₁ h₁J
  apply ends_bind (hS.perform (o := .uuid4) trivial h₁J)
  intro totalHex h₂ h₂J
  have hmember : Obeys P (failureMember action) (Ends J F) h₂ := by
    cases action with
    | success => exact h₂J
    | failure => exact ends_bind (hS.perform (o := .uuid4) trivial h₂J) fun _ _ h₃J => h₃J
  apply ends_bind hmember
  intro member h₃ h₃J
  apply ends_bind (hS.perform (o := .redis (.circuitBreaker _ _)) rfl h₃J)
  exact fun _ _ h₄J => h₄J

theorem closeBreaker (hS : Settling P ctx rule I J F) {h : HostHistory K} (hh : I h) :
    Obeys P (closeBreaker ctx rule) (Ends J F) h := by
  obtain ⟨hcall, hreply⟩ := hS.delete h [.probe (breakerKeys ctx rule),
    .window .failures (breakerKeys ctx rule), .window .totals (breakerKeys ctx rule)] hh rfl
    (by simp)
  apply ends_bind (.perform hcall hreply)
  intro n h₁ h₁J
  exact hS.perform (o := .redis (.set (.openUntil _) 0)) rfl h₁J

theorem reopenBreaker (hS : Settling P ctx rule I J F) {h : HostHistory K} (hh : I h) :
    Obeys P (reopenBreaker ctx rule) (Ends J F) h := by
  rw [ChaosDemo.reopenBreaker]
  apply ends_bind (.perform (hS.time h hh).1 (hS.time h hh).2)
  intro now h₁ h₁I
  obtain ⟨hcall, hreply⟩ := hS.delete h₁ [.probe (breakerKeys ctx rule)] h₁I rfl (by simp)
  apply ends_bind (.perform hcall hreply)
  intro n h₂ h₂J
  apply ends_bind (hS.perform (o := .redis (.set (.openUntil _) _)) rfl h₂J)
  exact fun _ _ h₃J => h₃J

theorem snapshotBreaker (hS : Settling P ctx rule I J F) {h : HostHistory K} (hh : J h) :
    Obeys P (snapshotBreaker ctx rule) (Ends J F) h := by
  rw [ChaosDemo.snapshotBreaker]
  apply ends_bind (hS.perform (o := .time) trivial hh)
  intro now h₁ h₁J
  apply ends_bind (hS.perform (o := .redis (.zremrangebyscore _ _ _)) rfl h₁J)
  intro u h₂ h₂J
  apply ends_bind (hS.perform (o := .redis (.zremrangebyscore _ _ _)) rfl h₂J)
  intro u h₃ h₃J
  apply ends_bind (hS.perform (o := .redis (.zcard _ _)) rfl h₃J)
  intro failureCount h₄ h₄J
  apply ends_bind (hS.perform (o := .redis (.zcard _ _)) rfl h₄J)
  exact fun _ _ h₅J => h₅J

/-- **The rule for `record_success` and `record_failure`.**  They leave an instance
that does not hold the probe. -/
theorem record {b : CircuitBreaker K} (hS : Settling P ctx b.rule I J F) (action : Action)
    {h : HostHistory K} (hI : b.probeAcquired = true → I h)
    (hJ : b.probeAcquired = false → J h) :
    Obeys P (b.record ctx action) (fun res h' => Ends J F res h' ∧
      ∀ result b', res = .ok (result, b') → b'.rule = b.rule ∧ b'.probeAcquired = false) h := by
  cases hprobe : b.probeAcquired with
  | false =>
      have hrecord : b.record ctx action = (ChaosDemo.recordOutcome ctx b.rule action >>=
          fun result => pure (some result, b.afterRecord result)) := by
        cases action <;> simp [CircuitBreaker.record, CircuitBreaker.recordSuccess,
          CircuitBreaker.recordFailure, hprobe]
      rw [hrecord]
      apply (hS.recordOutcome action (hJ hprobe)).bind
      · intro result h₁ h₁J
        refine ⟨h₁J, fun result' b' hres => ?_⟩
        cases hres
        exact ⟨rfl, hprobe⟩
      · intro e h₁ h₁F
        refine ⟨h₁F, fun result' b' hres => ?_⟩
        cases hres
  | true =>
      have hI' : I h := hI hprobe
      cases action with
      | success =>
          rw [CircuitBreaker.record, CircuitBreaker.recordSuccess, if_pos hprobe]
          have hclose : Obeys P (getOpenUntil ctx b.rule >>= fun _ =>
              ChaosDemo.closeBreaker ctx b.rule) (Ends J F) h := by
            have hread : Obeys P (getOpenUntil ctx b.rule) (Ends I F) h :=
              ends_bind (hS.read h hI') fun _ _ h₁I => h₁I
            exact ends_bind hread fun u h₁ h₁I => hS.closeBreaker h₁I
          rw [← bind_assoc]
          apply hclose.bind
          · intro u h₁ h₁J
            refine ⟨h₁J, fun result' b' hres => ?_⟩
            cases hres
            exact ⟨rfl, rfl⟩
          · intro e h₁ h₁F
            refine ⟨h₁F, fun result' b' hres => ?_⟩
            cases hres
      | failure =>
          rw [CircuitBreaker.record, CircuitBreaker.recordFailure, if_pos hprobe]
          apply (hS.reopenBreaker hI').bind
          · intro openUntil h₁ h₁J
            apply (hS.snapshotBreaker h₁J).bind
            · intro snapshot h₂ h₂J
              refine ⟨h₂J, fun result' b' hres => ?_⟩
              cases hres
              exact ⟨rfl, rfl⟩
            · intro e h₂ h₂F
              refine ⟨h₂F, fun result' b' hres => ?_⟩
              cases hres
          · intro e h₁ h₁F
            refine ⟨h₁F, fun result' b' hres => ?_⟩
            cases hres

end Settling

end ChaosDemo
