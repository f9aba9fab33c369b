/-
ChaosDemo/BreakerRecovery.lean

A breaker that is open comes back.  From every state that any number of requests can bring
about, also from one in which the request with the probe never comes back, it is enough that
nobody calls for `open_timeout_seconds` and for the lease of the probe key:

    the next request is admitted,
    as the only probe, where the breaker has not been closed meanwhile,
    and when it succeeds the breaker is closed and admits everybody.

The invariant of ChaosDemo/BreakerInvariant.lean says nothing on how long.  The second one,
`Bounded`, does: `open_until` is never more than a timeout ahead of the clock, and the probe
key has a deadline, never more than a lease ahead.
-/
import ChaosDemo.BreakerInvariant

set_option linter.unusedSectionVars false

namespace ChaosDemo

open CallTree Keyspace SlidingLog

variable {K : Type} [Field K] [LinearOrder K] [IsStrictOrderedRing K] [FloorRing K]

/-! ### No outage without an end -/

/-- The breaker is not open for longer than a timeout, and nobody holds the probe key for
longer than a lease. -/
structure Bounded (ctx : Ctx K) (rule : CircuitBreakerRule K) (s : HostState K) : Prop where
  outage : s.openUntil (breakerKeys ctx rule) ≤ s.now + rule.openTimeoutSeconds
  lease : ∀ e, s.data (.probe (breakerKeys ctx rule)) = some e →
    ∃ t, e.expireAt = some t ∧ t ≤ s.now + ctx.circuitProbeTtlSec

section Store

variable {uuids : UuidSource} {ctx : Ctx K} {rule : CircuitBreakerRule K} {s : HostState K}

/-- Without a probe key there is no lease. -/
theorem lease_of_none {keys : BreakerKeys} {ttl : K} (h : s.data (.probe keys) = none) :
    ∀ e, s.data (.probe keys) = some e → ∃ t, e.expireAt = some t ∧ t ≤ s.now + ttl := by
  intro e he
  rw [h] at he
  cases he

theorem Bounded.tick (h : Bounded ctx rule s) (hinv : BreakerInv rule (breakerKeys ctx rule) s)
    (t : K) : Bounded ctx rule { s with now := max s.now t } := by
  obtain ⟨m, hsim, -, -⟩ := hinv.simulates
  have hnow : s.now ≤ max s.now t := le_max_left _ _
  constructor
  · rw [(hsim.tick t).openUntil_eq, ← hsim.openUntil_eq]
    exact h.outage.trans (by gcongr)
  · intro e he
    obtain ⟨t', hexpire, hle⟩ := h.lease e he
    exact ⟨t', hexpire, hle.trans (by gcongr)⟩

theorem Bounded.close (hnow : 0 < s.now) : Bounded ctx rule (s.closed (breakerKeys ctx rule)) := by
  constructor
  · rw [(closed_closed hnow _).openUntil]
    exact (add_pos hnow (openTimeout_pos rule)).le
  · exact lease_of_none (probe_closed s _)

theorem bounded_reopened (hinv : BreakerInv rule (breakerKeys ctx rule) s) :
    Bounded ctx rule (s.reopened rule (breakerKeys ctx rule)) := by
  obtain ⟨m, hsim, -, -⟩ := hinv.simulates
  constructor
  · exact hsim.reopen.openUntil_eq.le
  · exact lease_of_none (probe_reopened s rule _)

theorem Bounded.snapshot (h : Bounded ctx rule s)
    (hinv : BreakerInv rule (breakerKeys ctx rule) s) :
    Bounded ctx rule (s.trimmed rule (breakerKeys ctx rule)) := by
  obtain ⟨m, hsim, -, -⟩ := hinv.simulates
  constructor
  · rw [hsim.snapshot.2.2.openUntil_eq, ← hsim.openUntil_eq]
    exact h.outage
  · rw [probe_trimmed]
    exact h.lease

/-- The script opens the breaker for one timeout, or leaves `open_until` as it is. -/
theorem Bounded.record (uuids : UuidSource) (h : Bounded ctx rule s)
    (hinv : BreakerInv rule (breakerKeys ctx rule) s) (action : Action) :
    Bounded ctx rule ⟨(circuitBreakerLua s.now s.data (breakerKeys ctx rule)
      ((s.nextRecorded uuids action).args rule)).2, s.now, s.usedBy uuids action⟩ := by
  obtain ⟨m, hsim, -, -⟩ := hinv.simulates
  obtain ⟨-, hsim'⟩ := simulates_record uuids hsim action
  obtain ⟨-, -, -, -, -, hopen⟩ := record_cases rule s.now action m
  have hframe : (circuitBreakerLua s.now s.data (breakerKeys ctx rule)
      ((s.nextRecorded uuids action).args rule)).2 (.probe (breakerKeys ctx rule)) =
        s.data (.probe (breakerKeys ctx rule)) :=
    exec_frame s.now s.data (.circuitBreaker _ ((s.nextRecorded uuids action).args rule))
      (by simp [Cmd.writes])
  constructor
  · rw [hsim'.openUntil_eq]
    rcases hopen with hkept | hset
    · rw [hkept, ← hsim.openUntil_eq]
      exact h.outage
    · exact hset.le
  · show ∀ e, (circuitBreakerLua _ _ _ _).2 _ = some e → _
    rw [hframe]
    exact h.lease

/-- What `SET NX EX` of the probe key leaves when it was free. -/
def HostState.leased (s : HostState K) (ctx : Ctx K) (keys : BreakerKeys) : HostState K :=
  { s with data := s.data.put (.probe keys) () (some (s.now + ctx.circuitProbeTtlSec)) }

theorem openUntil_leased (s : HostState K) (ctx : Ctx K) (keys : BreakerKeys) :
    (s.leased ctx keys).openUntil keys = s.openUntil keys := by
  have hframe : (s.leased ctx keys).data (.openUntil keys) = s.data (.openUntil keys) := by
    rw [HostState.leased]
    dsimp only
    exact Store.put_of_ne (by simp)
  rw [HostState.openUntil, HostState.openUntil, Store.lookup, Store.lookup, hframe]
  rfl

theorem circuitState_leased (ctx : Ctx K) {keys : BreakerKeys} (hnot : ¬ s.now < s.openUntil keys)
    (hpos : 0 < s.openUntil keys) : (s.leased ctx keys).circuitState keys = .halfOpen := by
  rw [HostState.circuitState, openUntil_leased]
  exact (if_neg hnot).trans (if_pos hpos)

/-- The lease has only begun. -/
theorem probeActive_leased (s : HostState K) (ctx : Ctx K) (keys : BreakerKeys) :
    (s.leased ctx keys).probeActive keys = true := by
  have httl : (0 : K) < ctx.circuitProbeTtlSec := by
    exact_mod_cast ctx.circuitProbeTtlSec_pos
  have hlive : live s.now (some (⟨(), some (s.now + ctx.circuitProbeTtlSec)⟩ : Timed Unit K)) =
      some () :=
    live_eq_some.mpr ⟨_, rfl, alive_some.mpr (lt_add_of_pos_right _ httl), rfl⟩
  rw [HostState.probeActive, Store.lookup, HostState.leased]
  dsimp only
  rw [Store.put_self]
  exact Option.isSome_iff_exists.mpr ⟨(), hlive⟩

theorem Bounded.acquire (h : Bounded ctx rule s) :
    Bounded ctx rule (s.leased ctx (breakerKeys ctx rule)) := by
  constructor
  · rw [openUntil_leased]
    exact h.outage
  · intro e he
    obtain rfl : _ = e := Option.some.inj (Store.put_self.symm.trans he)
    exact ⟨_, rfl, le_rfl⟩

theorem bounded_start {ι : Type} [DecidableEq ι] (hnow : 0 < s.now) :
    Bounded ctx rule (Fleet.start (ι := ι) s (breakerKeys ctx rule)).host := by
  have hnone : ∀ k ∈ [Key.openUntil (breakerKeys ctx rule), .probe (breakerKeys ctx rule),
      .window .failures (breakerKeys ctx rule), .window .totals (breakerKeys ctx rule)],
      (Fleet.start (ι := ι) s (breakerKeys ctx rule)).host.data k = none :=
    fun k hk => (Store.foldl_erase _ s.data k).trans (if_pos hk)
  constructor
  · rw [HostState.openUntil, Store.lookup, hnone _ (by simp)]
    exact (add_pos hnow (openTimeout_pos rule)).le
  · exact lease_of_none (hnone _ (by simp))

/-- When nobody has called for a timeout and a lease, the breaker is not open and the probe
key is free. -/
theorem Bounded.over (h : Bounded ctx rule s) (hinv : BreakerInv rule (breakerKeys ctx rule) s)
    {t : K} (hopen : s.now + rule.openTimeoutSeconds ≤ t)
    (hlease : s.now + ctx.circuitProbeTtlSec ≤ t) :
    ¬ t < ({ s with now := max s.now t } : HostState K).openUntil (breakerKeys ctx rule) ∧
      ({ s with now := max s.now t } : HostState K).probeActive (breakerKeys ctx rule) = false := by
  obtain ⟨m, hsim, -, -⟩ := hinv.simulates
  constructor
  · rw [(hsim.tick t).openUntil_eq, ← hsim.openUntil_eq]
    exact not_lt.mpr (h.outage.trans hopen)
  · apply Bool.eq_false_iff.mpr
    intro hactive
    -- a key that is still there has a deadline after `t`
    obtain ⟨u, hu⟩ := Option.isSome_iff_exists.mp hactive
    obtain ⟨⟨v, expireAt⟩, hslot, halive, -⟩ := live_eq_some.mp hu
    obtain ⟨t', hexpire, hle⟩ := h.lease _ hslot
    dsimp only at hexpire
    subst hexpire
    have hlt : max s.now t < t' := alive_some.mp halive
    exact absurd ((le_max_right s.now t).trans_lt hlt) (not_lt.mpr (hle.trans hlease))

end Store

/-! ### The calls -/

section Calls

variable {uuids : UuidSource} {ctx : Ctx K} {rule : CircuitBreakerRule K} {s : HostState K}
  {b : CircuitBreaker K}

theorem eval_allowRequest_closed (h : s.circuitState (breakerKeys ctx rule) = .closed) :
    ((CircuitBreaker.init rule).allowRequest ctx).eval (HostState.nominal uuids) s =
      (.ok (true, ⟨rule, .closed, false⟩), s) := by
  simp only [CircuitBreaker.allowRequest, CircuitBreaker.init]
  rw [Prog.eval_bind_ok eval_getState, h]
  rfl

theorem eval_allowRequest_opened (h : s.circuitState (breakerKeys ctx rule) = .opened) :
    ((CircuitBreaker.init rule).allowRequest ctx).eval (HostState.nominal uuids) s =
      (.ok (false, ⟨rule, .opened, false⟩), s) := by
  simp only [CircuitBreaker.allowRequest, CircuitBreaker.init]
  rw [Prog.eval_bind_ok eval_getState, h]
  rfl

/-- Half open, and another request has the probe. -/
theorem eval_allowRequest_busy (h : s.circuitState (breakerKeys ctx rule) = .halfOpen)
    (hactive : s.probeActive (breakerKeys ctx rule) = true) :
    ((CircuitBreaker.init rule).allowRequest ctx).eval (HostState.nominal uuids) s =
      (.ok (false, ⟨rule, .halfOpen, false⟩), s) := by
  have hexec : exec s.now s.data (.setNxEx (.probe (breakerKeys ctx rule)) ()
      ctx.circuitProbeTtlSec) = (false, s.data) := if_pos hactive
  simp only [CircuitBreaker.allowRequest, CircuitBreaker.init]
  rw [Prog.eval_bind_ok eval_getState, h]
  dsimp only
  rw [tryAcquireProbe, Prog.eval_bind_ok (Host.eval_redis _), hexec]
  rfl

/-- Half open, and nobody has the probe. -/
theorem eval_allowRequest_free (h : s.circuitState (breakerKeys ctx rule) = .halfOpen)
    (hfree : s.probeActive (breakerKeys ctx rule) = false) :
    ((CircuitBreaker.init rule).allowRequest ctx).eval (HostState.nominal uuids) s =
      (.ok (true, ⟨rule, .halfOpen, true⟩), s.leased ctx (breakerKeys ctx rule)) := by
  have hexec : exec s.now s.data (.setNxEx (.probe (breakerKeys ctx rule)) ()
      ctx.circuitProbeTtlSec) = (true, (s.leased ctx (breakerKeys ctx rule)).data) :=
    if_neg (Bool.eq_false_iff.mp hfree)
  simp only [CircuitBreaker.allowRequest, CircuitBreaker.init]
  rw [Prog.eval_bind_ok eval_getState, h]
  dsimp only
  rw [tryAcquireProbe, Prog.eval_bind_ok (Host.eval_redis _), hexec]
  rfl

theorem Bounded.allowRequest (uuids : UuidSource) (h : Bounded ctx rule s) :
    Bounded ctx rule
      (((CircuitBreaker.init rule).allowRequest ctx).eval (HostState.nominal uuids) s).2 := by
  cases hstate : s.circuitState (breakerKeys ctx rule) with
  | closed =>
      rw [eval_allowRequest_closed hstate]
      exact h
  | opened =>
      rw [eval_allowRequest_opened hstate]
      exact h
  | halfOpen =>
      cases hprobe : s.probeActive (breakerKeys ctx rule) with
      | true =>
          rw [eval_allowRequest_busy hstate hprobe]
          exact h
      | false =>
          rw [eval_allowRequest_free hstate hprobe]
          exact h.acquire

theorem Bounded.recordSuccess (uuids : UuidSource) (h : Bounded ctx rule s)
    (hinv : BreakerInv rule (breakerKeys ctx rule) s) (hb : b.rule = rule) :
    Bounded ctx rule ((b.recordSuccess ctx).eval (HostState.nominal uuids) s).2 := by
  subst hb
  rw [CircuitBreaker.recordSuccess]
  split
  · rw [Prog.eval_bind_ok eval_getOpenUntil, Prog.eval_bind_ok eval_closeBreaker]
    exact Bounded.close hinv.now_pos
  · rw [Prog.eval_bind_ok (eval_recordOutcome .success)]
    exact h.record uuids hinv .success

theorem Bounded.recordFailure (uuids : UuidSource) (h : Bounded ctx rule s)
    (hinv : BreakerInv rule (breakerKeys ctx rule) s) (hb : b.rule = rule) :
    Bounded ctx rule ((b.recordFailure ctx).eval (HostState.nominal uuids) s).2 := by
  subst hb
  rw [CircuitBreaker.recordFailure]
  split
  · rw [Prog.eval_bind_ok eval_reopenBreaker, Prog.eval_bind_ok eval_snapshotBreaker]
    exact (bounded_reopened hinv).snapshot hinv.reopen
  · rw [Prog.eval_bind_ok (eval_recordOutcome .failure)]
    exact h.record uuids hinv .failure

/-- A probe that succeeds closes the breaker, whatever it finds. -/
theorem eval_recordSuccess_probe (hb : b.rule = rule) (hprobe : b.probeAcquired = true) :
    (b.recordSuccess ctx).eval (HostState.nominal uuids) s =
      (.ok (none, { b with lastState := .closed, probeAcquired := false }),
        s.closed (breakerKeys ctx rule)) := by
  rw [CircuitBreaker.recordSuccess, if_pos hprobe, hb, Prog.eval_bind_ok eval_getOpenUntil,
    Prog.eval_bind_ok eval_closeBreaker]
  rfl

end Calls

/-! ### Runs -/

variable {ι : Type} [DecidableEq ι]

/-- Whether request `i` is admitted. -/
def Fleet.admits (f : Fleet ι K) (i : ι) : Bool :=
  match f.phase i with
  | .admitted _ => true
  | _ => false

/-- Whether request `i` has not asked yet. -/
def Fleet.waits (f : Fleet ι K) (i : ι) : Bool :=
  match f.phase i with
  | .idle => true
  | _ => false

section Runs

variable {uuids : UuidSource} {ctx : Ctx K} {rule : CircuitBreakerRule K} {f : Fleet ι K}
  {i : ι} {b : CircuitBreaker K} {s : HostState K}

theorem Fleet.phase_of_waits (h : f.waits i = true) : f.phase i = .idle := by
  rw [Fleet.waits] at h
  cases hphase : f.phase i with
  | idle => rfl
  | admitted b =>
      rw [hphase] at h
      cases h
  | done =>
      rw [hphase] at h
      cases h

theorem Fleet.settle_host (f : Fleet ι K) (i : ι)
    (out : Except Exc (Option (CircuitRecordResult K) × CircuitBreaker K) × HostState K) :
    (f.settle i out).host = out.2 := by
  rcases out with ⟨e | ⟨result, b'⟩, s⟩
  · rfl
  · rfl

/-- A request that is let in. -/
theorem Fleet.step_admit (hidle : f.phase i = .idle)
    (heval : ((CircuitBreaker.init rule).allowRequest ctx).eval (HostState.nominal uuids) f.host =
      (.ok (true, b), s)) :
    f.step ctx rule uuids (.allowRequest i) =
      ⟨s, Function.update f.phase i (.admitted b), f.results⟩ := by
  rw [Fleet.step, hidle]
  dsimp only
  rw [heval]

/-- A request that is turned away. -/
theorem Fleet.step_reject (hidle : f.phase i = .idle)
    (heval : ((CircuitBreaker.init rule).allowRequest ctx).eval (HostState.nominal uuids) f.host =
      (.ok (false, b), s)) :
    f.step ctx rule uuids (.allowRequest i) =
      ⟨s, Function.update f.phase i .done, f.results⟩ := by
  rw [Fleet.step, hidle]
  dsimp only
  rw [heval]

/-- An instance is admitted or turned away, with the store of its call. -/
theorem Fleet.step_allow_host (hidle : f.phase i = .idle) :
    (f.step ctx rule uuids (.allowRequest i)).host =
      (((CircuitBreaker.init rule).allowRequest ctx).eval (HostState.nominal uuids) f.host).2 := by
  rw [Fleet.step, hidle]
  dsimp only
  split
  · next heval => rw [heval]
  · next heval => rw [heval]

theorem Bounded.step (h : Bounded ctx rule f.host)
    (hinv : FleetInv rule (breakerKeys ctx rule) f) (m : FleetMove ι K) :
    Bounded ctx rule (f.step ctx rule uuids m).host := by
  cases m with
  | tick t => exact h.tick hinv.host t
  | allowRequest i =>
      cases hphase : f.phase i with
      | idle =>
          rw [Fleet.step_allow_host hphase]
          exact h.allowRequest uuids
      | admitted b =>
          rw [Fleet.step, hphase]
          exact h
      | done =>
          rw [Fleet.step, hphase]
          exact h
  | recordSuccess i =>
      rw [Fleet.step]
      cases hphase : f.phase i with
      | idle => exact h
      | admitted b =>
          dsimp only
          rw [Fleet.settle_host]
          exact h.recordSuccess uuids hinv.host (hinv.rules i b hphase)
      | done => exact h
  | recordFailure i =>
      rw [Fleet.step]
      cases hphase : f.phase i with
      | idle => exact h
      | admitted b =>
          dsimp only
          rw [Fleet.settle_host]
          exact h.recordFailure uuids hinv.host (hinv.rules i b hphase)
      | done => exact h

theorem Bounded.run (h : Bounded ctx rule f.host)
    (hinv : FleetInv rule (breakerKeys ctx rule) f) (ms : List (FleetMove ι K)) :
    Bounded ctx rule (Fleet.run ctx rule uuids ms f).host := by
  induction ms generalizing f with
  | nil => exact h
  | cons m ms ih => exact ih (h.step hinv m) (hinv.step m)

/-- A closed breaker admits everybody. -/
theorem Fleet.admits_closed (h : f.host.circuitState (breakerKeys ctx rule) = .closed)
    (hidle : f.phase i = .idle) : (f.step ctx rule uuids (.allowRequest i)).admits i = true := by
  rw [Fleet.step_admit hidle (eval_allowRequest_closed h), Fleet.admits]
  dsimp only
  rw [Function.update_self]

/-- While the probe is out nobody else is admitted. -/
theorem Fleet.admits_busy (h : f.host.circuitState (breakerKeys ctx rule) = .halfOpen)
    (hactive : f.host.probeActive (breakerKeys ctx rule) = true) (hidle : f.phase i = .idle) :
    (f.step ctx rule uuids (.allowRequest i)).admits i = false := by
  rw [Fleet.step_reject hidle (eval_allowRequest_busy h hactive), Fleet.admits]
  dsimp only
  rw [Function.update_self]

/-- The probe succeeds, whenever it does. -/
theorem FleetInv.success_closes (hinv : FleetInv rule (breakerKeys ctx rule) f)
    (hphase : f.phase i = .admitted b) (hprobe : b.probeAcquired = true) :
    Closed (breakerKeys ctx rule) (f.step ctx rule uuids (.recordSuccess i)).host := by
  rw [Fleet.step, hphase]
  dsimp only
  rw [Fleet.settle_host, eval_recordSuccess_probe (hinv.rules i b hphase) hprobe]
  exact closed_closed hinv.host.now_pos _

end Runs

/-- What request `i` and those after it can rely on in the state `f`. -/
structure Recovers (ctx : Ctx K) (rule : CircuitBreakerRule K) (uuids : UuidSource)
    (f : Fleet ι K) (i : ι) : Prop where
  /-- It is admitted. -/
  admits : (f.step ctx rule uuids (.allowRequest i)).admits i = true
  /-- Where it is no probe, the breaker is closed. -/
  free : (f.step ctx rule uuids (.allowRequest i)).probing i = false →
    f.host.circuitState (breakerKeys ctx rule) = .closed
  /-- Where it is the probe, no other request is admitted beside it. -/
  alone : (f.step ctx rule uuids (.allowRequest i)).probing i = true →
    ∀ j, j ≠ i → f.phase j = .idle →
      ((f.step ctx rule uuids (.allowRequest i)).step ctx rule uuids
        (.allowRequest j)).admits j = false
  /-- When the probe succeeds, whatever others have done since, the breaker is closed and
  admits everybody. -/
  closes : (f.step ctx rule uuids (.allowRequest i)).probing i = true →
    ∀ since : List (FleetMove ι K), (∀ m ∈ since, m.settles i = false) →
      let g := (Fleet.run ctx rule uuids since
        (f.step ctx rule uuids (.allowRequest i))).step ctx rule uuids (.recordSuccess i)
      Closed (breakerKeys ctx rule) g.host ∧
        ∀ j, g.phase j = .idle → (g.step ctx rule uuids (.allowRequest j)).admits j = true

section Recovery

variable {uuids : UuidSource} {ctx : Ctx K} {rule : CircuitBreakerRule K} {f : Fleet ι K} {i : ι}

/-- A breaker that is not open, with a probe key that is free. -/
theorem recovers_of_over (hinv : FleetInv rule (breakerKeys ctx rule) f)
    (hnot : ¬ f.host.now < f.host.openUntil (breakerKeys ctx rule))
    (hfree : f.host.probeActive (breakerKeys ctx rule) = false) (hidle : f.phase i = .idle) :
    Recovers ctx rule uuids f i := by
  by_cases hpos : 0 < f.host.openUntil (breakerKeys ctx rule)
  · -- nobody has closed it: the request gets the free probe key
    have hstate : f.host.circuitState (breakerKeys ctx rule) = .halfOpen := by
      rw [HostState.circuitState, if_neg hnot, if_pos hpos]
    have hinv' : FleetInv rule (breakerKeys ctx rule) (f.step ctx rule uuids (.allowRequest i)) :=
      hinv.step (.allowRequest i)
    have hstep : f.step ctx rule uuids (.allowRequest i) =
        ⟨f.host.leased ctx (breakerKeys ctx rule),
          Function.update f.phase i (.admitted ⟨rule, .halfOpen, true⟩), f.results⟩ :=
      Fleet.step_admit hidle (eval_allowRequest_free hstate hfree)
    have hphase : (f.step ctx rule uuids (.allowRequest i)).phase i =
        .admitted ⟨rule, .halfOpen, true⟩ := by
      rw [hstep]
      exact Function.update_self ..
    have hprobing : (f.step ctx rule uuids (.allowRequest i)).probing i = true := by
      rw [Fleet.probing, hphase]
    refine ⟨?_, fun hno => ?_, fun _ j hj hidle' => ?_, fun _ since hsince => ?_⟩
    · rw [Fleet.admits, hphase]
    · rw [hprobing] at hno
      cases hno
    · apply Fleet.admits_busy
      · rw [hstep]
        exact circuitState_leased ctx hnot hpos
      · rw [hstep]
        exact probeActive_leased f.host ctx _
      · rw [hstep]
        exact (Function.update_of_ne hj ..).trans hidle'
    · have hclosed : Closed (breakerKeys ctx rule) ((Fleet.run ctx rule uuids since
          (f.step ctx rule uuids (.allowRequest i))).step ctx rule uuids (.recordSuccess i)).host :=
        (hinv'.run since).success_closes (Fleet.run_phase ctx rule uuids hphase hsince) rfl
      exact ⟨hclosed, fun j hj => Fleet.admits_closed hclosed.state hj⟩
  · -- `open_until` is 0 and the probe key is free, so the state is CLOSED
    have hstate : f.host.circuitState (breakerKeys ctx rule) = .closed := by
      rw [HostState.circuitState, if_neg hnot, if_neg hpos, hfree]
      rfl
    have hstep : f.step ctx rule uuids (.allowRequest i) = ⟨f.host,
        Function.update f.phase i (.admitted ⟨rule, .closed, false⟩), f.results⟩ :=
      Fleet.step_admit hidle (eval_allowRequest_closed hstate)
    have hprobing : (f.step ctx rule uuids (.allowRequest i)).probing i = false := by
      rw [hstep, Fleet.probing]
      dsimp only
      rw [Function.update_self]
    refine ⟨Fleet.admits_closed hstate hidle, fun _ => hstate, fun hyes => ?_, fun hyes => ?_⟩
    · rw [hprobing] at hyes
      cases hyes
    · rw [hprobing] at hyes
      cases hyes

end Recovery

/-- **The breaker comes back from every state**, when nobody has called for a timeout and a
lease. -/
theorem breaker_recovers (ctx : Ctx K) (rule : CircuitBreakerRule K) (uuids : UuidSource)
    (s : HostState K) (hnow : 0 < s.now) (ms : List (FleetMove ι K)) (t : K) (i : ι)
    (hopen : (Fleet.run ctx rule uuids ms (.start s (breakerKeys ctx rule))).host.now +
      rule.openTimeoutSeconds ≤ t)
    (hlease : (Fleet.run ctx rule uuids ms (.start s (breakerKeys ctx rule))).host.now +
      ctx.circuitProbeTtlSec ≤ t)
    (hidle : (Fleet.run ctx rule uuids ms (.start s (breakerKeys ctx rule))).phase i = .idle) :
    Recovers ctx rule uuids ((Fleet.run ctx rule uuids ms
      (.start s (breakerKeys ctx rule))).step ctx rule uuids (.tick t)) i := by
  have hstart : FleetInv rule (breakerKeys ctx rule)
      (Fleet.start (ι := ι) s (breakerKeys ctx rule)) :=
    ⟨breakerInv_start hnow _, by simp [Fleet.start], by simp [Fleet.start]⟩
  have hinv : FleetInv rule (breakerKeys ctx rule) (Fleet.run ctx rule uuids ms
      (.start s (breakerKeys ctx rule))) := hstart.run ms
  have hbounded : Bounded ctx rule (Fleet.run ctx rule uuids ms
      (.start s (breakerKeys ctx rule))).host := (bounded_start hnow).run hstart ms
  generalize Fleet.run ctx rule uuids ms _ = f at hopen hlease hidle hinv hbounded ⊢
  obtain ⟨hnot, hfree⟩ := hbounded.over hinv.host hopen hlease
  refine recovers_of_over (hinv.step (.tick t)) (fun hlt => hnot ?_) hfree hidle
  exact (le_max_right f.host.now t).trans_lt hlt

/-- Two requests open the breaker, it runs out, and the request that gets the probe does not
come back. -/
def lostProbe : Fleet ℕ ℚ :=
  Fleet.run defaultCtx halfRule .unary
    [.allowRequest 0, .allowRequest 1, .recordSuccess 1, .recordFailure 0, .tick 20,
      .allowRequest 2, .allowRequest 3]
    (.start ⟨fun _ => none, 1, []⟩ (breakerKeys defaultCtx halfRule))

theorem breaker_recovers_lostProbe : lostProbe.probing 2 = true ∧ lostProbe.admits 3 = false ∧
    Recovers defaultCtx halfRule .unary
      (lostProbe.step defaultCtx halfRule .unary (.tick 50)) 4 := by
  have hnow : lostProbe.host.now = 20 := by decide +kernel
  have hwaits : lostProbe.waits 4 = true := by decide +kernel
  refine ⟨by decide +kernel, by decide +kernel, ?_⟩
  refine breaker_recovers defaultCtx halfRule .unary ⟨fun _ => none, 1, []⟩ (by norm_num) _ 50 4
    ?_ ?_ ?_
  · show lostProbe.host.now + _ ≤ 50
    rw [hnow]
    decide +kernel
  · show lostProbe.host.now + _ ≤ 50
    rw [hnow]
    decide +kernel
  · exact Fleet.phase_of_waits hwaits

end ChaosDemo
