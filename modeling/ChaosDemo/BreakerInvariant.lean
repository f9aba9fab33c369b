/-
ChaosDemo/BreakerInvariant.lean

Any number of requests against one circuit breaker.  Each request has its own
`CircuitBreaker` instance, asks once, and if it was admitted records at most one
outcome, whenever it likes: outcomes of requests that were admitted before the
breaker opened come late, a probe may outlive the lease of its key, another
request may then take the probe, and both may settle.

The invariant that is kept is small.  The store stands for some sliding breaker
(ChaosDemo/SlidingBreaker.lean) whose `open_until` is not negative, and it is
positive while somebody holds the probe key: the key is only set in the state
HALF_OPEN, and whoever sets `open_until` to 0 removes the key in the same call.
Which requests believe that they hold the probe does not matter.
-/
import ChaosDemo.SlidingBreaker

set_option linter.unusedSectionVars false

namespace ChaosDemo

open CallTree Keyspace SlidingLog

variable {K : Type} [Field K] [LinearOrder K] [IsStrictOrderedRing K] [FloorRing K]

/-! ### Requests -/

/-- How far a request is. -/
inductive Phase (K : Type) [Field K] [LinearOrder K]
  | idle
  | admitted (b : CircuitBreaker K)
  | done

/-- The store, the requests, and the record results so far. -/
structure Fleet (ι K : Type) [Field K] [LinearOrder K] where
  host : HostState K
  phase : ι → Phase K
  results : List (CircuitRecordResult K)

inductive FleetMove (ι K : Type)
  | allowRequest (i : ι)
  | recordSuccess (i : ι)
  | recordFailure (i : ι)
  | tick (t : K)

variable {ι : Type} [DecidableEq ι]

namespace Fleet

/-- Request `i` is done, with what its record call gave. -/
def settle (f : Fleet ι K) (i : ι) :
    Except Exc (Option (CircuitRecordResult K) × CircuitBreaker K) × HostState K → Fleet ι K
  | (.ok (result, _), s) =>
      ⟨s, Function.update f.phase i .done, result.toList ++ f.results⟩
  | (.error _, s) => ⟨s, Function.update f.phase i .done, f.results⟩

/-- One move.  A call is one atomic step, and a request that is not where the
call needs it to be makes no call. -/
def step (ctx : Ctx K) (rule : CircuitBreakerRule K) (uuids : UuidSource) (f : Fleet ι K) :
    FleetMove ι K → Fleet ι K
  | .allowRequest i =>
      match f.phase i with
      | .idle =>
          match ((CircuitBreaker.init rule).allowRequest ctx).eval
              (HostState.nominal uuids) f.host with
          | (.ok (true, b), s) => ⟨s, Function.update f.phase i (.admitted b), f.results⟩
          | (_, s) => ⟨s, Function.update f.phase i .done, f.results⟩
      | _ => f
  | .recordSuccess i =>
      match f.phase i with
      | .admitted b => f.settle i ((b.recordSuccess ctx).eval (HostState.nominal uuids) f.host)
      | _ => f
  | .recordFailure i =>
      match f.phase i with
      | .admitted b => f.settle i ((b.recordFailure ctx).eval (HostState.nominal uuids) f.host)
      | _ => f
  | .tick t => { f with host := { f.host with now := max f.host.now t } }

def run (ctx : Ctx K) (rule : CircuitBreakerRule K) (uuids : UuidSource) :
    List (FleetMove ι K) → Fleet ι K → Fleet ι K
  | [], f => f
  | m :: ms, f => run ctx rule uuids ms (f.step ctx rule uuids m)

/-- A breaker that nobody has used yet. -/
def start (s : HostState K) (keys : BreakerKeys) : Fleet ι K :=
  ⟨{ s with
      data := [Key.openUntil keys, .probe keys, .window .failures keys,
        .window .totals keys].foldl Store.erase s.data }, fun _ => .idle, []⟩

end Fleet

/-- No more failures than requests. -/
def CircuitWindowSnapshot.Sound (s : CircuitWindowSnapshot K) : Prop :=
  s.failureCount ≤ s.totalRequestCount

/-- What a breaker can rely on at any time. -/
structure BreakerSound (ctx : Ctx K) (rule : CircuitBreakerRule K) (uuids : UuidSource)
    (f : Fleet ι K) : Prop where
  /-- If the probe key exists, then `open_until` is positive. -/
  probe : f.host.probeActive (breakerKeys ctx rule) = true →
    0 < f.host.openUntil (breakerKeys ctx rule)
  /-- The state is what `open_until` says. -/
  state : ∃ st, (getState ctx rule).eval (HostState.nominal uuids) f.host = (.ok st, f.host) ∧
    (st = .closed ↔ f.host.openUntil (breakerKeys ctx rule) = 0) ∧
    (st = .opened ↔ f.host.now < f.host.openUntil (breakerKeys ctx rule)) ∧
    (st = .halfOpen ↔ 0 < f.host.openUntil (breakerKeys ctx rule) ∧
      f.host.openUntil (breakerKeys ctx rule) ≤ f.host.now)
  /-- A snapshot shows no more failures than requests. -/
  snapshot : ∃ snapshot s', (snapshotBreaker ctx rule).eval (HostState.nominal uuids) f.host =
    (.ok snapshot, s') ∧ snapshot.Sound
  /-- Neither does any record result. -/
  results : ∀ r ∈ f.results, r.snapshot.Sound

/-! ### The invariant of the store -/

/-- The store stands for a sliding breaker, and a probe is only out while it is
not closed. -/
structure BreakerInv (rule : CircuitBreakerRule K) (keys : BreakerKeys) (s : HostState K) :
    Prop where
  now_pos : 0 < s.now
  simulates : ∃ m, Simulates rule keys s m ∧ 0 ≤ m.openUntil ∧
    (s.probeActive keys = true → 0 < m.openUntil)

section Store

variable {uuids : UuidSource} {ctx : Ctx K} {rule : CircuitBreakerRule K} {s : HostState K}
  {keys : BreakerKeys} {m : SlidingBreaker K}

/-- The sliding breaker counts failures among requests. -/
theorem failureCount_le_totalCount (rule : CircuitBreakerRule K) (now : K)
    (m : SlidingBreaker K) : m.failureCount rule now ≤ m.totalCount rule now := by
  refine List.countP_mono_left fun o _ ho => ?_
  simp only [decide_eq_true_eq] at ho ⊢
  exact ho.2

/-- What recording an outcome shows, and what it does to `open_until`. -/
theorem record_cases (rule : CircuitBreakerRule K) (now : K) (action : Action)
    (m : SlidingBreaker K) : ∃ opened failures totals,
      (m.record rule now action).1 = .recorded opened failures totals ∧ failures ≤ totals ∧
        ((m.record rule now action).2.openUntil = m.openUntil ∨
          (m.record rule now action).2.openUntil = now + rule.openTimeoutSeconds) := by
  have hle := failureCount_le_totalCount rule now
    { m with outcomes := (action, now) :: m.outcomes }
  rw [SlidingBreaker.record]
  dsimp only
  split
  · exact ⟨true, _, _, rfl, by exact_mod_cast hle, .inr rfl⟩
  · exact ⟨false, _, _, rfl, by exact_mod_cast hle, .inl rfl⟩

theorem openTimeout_pos (rule : CircuitBreakerRule K) : (0 : K) < rule.openTimeoutSeconds := by
  exact_mod_cast rule.openTimeoutSeconds_pos

/-- Where there is no probe key nobody holds it. -/
theorem probeActive_of_none (h : s.data (.probe keys) = none) : s.probeActive keys = false := by
  rw [HostState.probeActive, Store.lookup, h]
  rfl

/-- Where the slot of the probe is the same, so is the probe. -/
theorem probeActive_congr {s s' : HostState K} (hnow : s'.now = s.now)
    (hframe : s'.data (.probe keys) = s.data (.probe keys)) :
    s'.probeActive keys = s.probeActive keys := by
  rw [HostState.probeActive, HostState.probeActive, Store.lookup, Store.lookup, hframe, hnow]

theorem probe_closed (s : HostState K) (keys : BreakerKeys) :
    (s.closed keys).data (.probe keys) = none := by
  rw [HostState.closed]
  dsimp only
  rw [Store.put_of_ne (by simp), Store.foldl_erase]
  exact if_pos (by simp)

theorem probe_reopened (s : HostState K) (rule : CircuitBreakerRule K) (keys : BreakerKeys) :
    (s.reopened rule keys).data (.probe keys) = none := by
  rw [HostState.reopened]
  dsimp only
  rw [Store.put_of_ne (by simp), Store.erase_self]

theorem probe_trimmed (s : HostState K) (rule : CircuitBreakerRule K) (keys : BreakerKeys) :
    (s.trimmed rule keys).data (.probe keys) = s.data (.probe keys) := by
  rw [HostState.trimmed, HostState.trim, HostState.trim]
  dsimp only
  rw [Store.write_of_ne (by simp), Store.write_of_ne (by simp)]

theorem BreakerInv.tick (h : BreakerInv rule keys s) (t : K) :
    BreakerInv rule keys { s with now := max s.now t } := by
  obtain ⟨m, hsim, hnonneg, hprobe⟩ := h.simulates
  have hle : s.now ≤ max s.now t := le_max_left _ _
  refine ⟨lt_of_lt_of_le h.now_pos hle, m, hsim.tick t, hnonneg, fun hactive => ?_⟩
  -- a key that is still there was there before
  apply hprobe
  obtain ⟨u, hu⟩ := Option.isSome_iff_exists.mp hactive
  exact Option.isSome_iff_exists.mpr ⟨u, live_mono hle hu⟩

theorem BreakerInv.close (h : BreakerInv rule keys s) :
    BreakerInv rule keys (s.closed keys) := by
  refine ⟨h.now_pos, ⟨[], 0⟩, simulates_closed, le_rfl, fun hactive => ?_⟩
  rw [probeActive_of_none (probe_closed s keys)] at hactive
  cases hactive

theorem BreakerInv.reopen (h : BreakerInv rule keys s) :
    BreakerInv rule keys (s.reopened rule keys) := by
  obtain ⟨m, hsim, hnonneg, hprobe⟩ := h.simulates
  have hpos : 0 < s.now + rule.openTimeoutSeconds :=
    add_pos h.now_pos (openTimeout_pos rule)
  exact ⟨h.now_pos, _, hsim.reopen, hpos.le, fun _ => hpos⟩

/-- A snapshot is sound, and leaves the invariant. -/
theorem BreakerInv.snapshot (h : BreakerInv rule keys s) :
    (windowSnapshot s.now (windowsOf (s.trimmed rule keys).data keys)).Sound ∧
      BreakerInv rule keys (s.trimmed rule keys) := by
  obtain ⟨m, hsim, hnonneg, hprobe⟩ := h.simulates
  obtain ⟨hfailures, htotals, hsim'⟩ := hsim.snapshot
  constructor
  · rw [CircuitWindowSnapshot.Sound, hfailures, htotals]
    exact_mod_cast failureCount_le_totalCount rule s.now m
  · refine ⟨h.now_pos, m, hsim', hnonneg, fun hactive => hprobe ?_⟩
    exact (probeActive_congr rfl (probe_trimmed s rule keys)).symm.trans hactive

/-- So is the result of the script. -/
theorem BreakerInv.record (uuids : UuidSource) (h : BreakerInv rule keys s) (action : Action) :
    let out := circuitBreakerLua s.now s.data keys ((s.nextRecorded uuids action).args rule)
    (out.1.result : CircuitRecordResult K).snapshot.Sound ∧
      BreakerInv rule keys ⟨out.2, s.now, s.usedBy uuids action⟩ := by
  intro out
  obtain ⟨m, hsim, hnonneg, hprobe⟩ := h.simulates
  obtain ⟨hseen, hsim'⟩ := simulates_record uuids hsim action
  obtain ⟨opened, failures, totals, hrecord, hle, hopen⟩ := record_cases rule s.now action m
  have hframe : out.2 (.probe keys) = s.data (.probe keys) :=
    exec_frame s.now s.data (.circuitBreaker keys ((s.nextRecorded uuids action).args rule))
      (by simp [Cmd.writes])
  constructor
  · rw [hrecord] at hseen
    obtain ⟨-, hfailures, htotals⟩ := Seen.recorded.inj hseen
    rw [CircuitWindowSnapshot.Sound, hfailures, htotals]
    exact hle
  · refine ⟨h.now_pos, _, hsim', ?_⟩
    rcases hopen with hkept | hset
    · rw [hkept]
      have hsame : HostState.probeActive ⟨out.2, s.now, s.usedBy uuids action⟩ keys =
          s.probeActive keys := probeActive_congr rfl hframe
      exact ⟨hnonneg, fun hactive => hprobe (hsame ▸ hactive)⟩
    · rw [hset]
      have hpos : 0 < s.now + rule.openTimeoutSeconds :=
        add_pos h.now_pos (openTimeout_pos rule)
      exact ⟨hpos.le, fun _ => hpos⟩

/-- In the state HALF_OPEN the probe key may be set. -/
theorem BreakerInv.acquire (h : BreakerInv rule keys s)
    (hstate : s.circuitState keys = .halfOpen) (ex : ℤ) :
    BreakerInv rule keys
      { s with data := (exec s.now s.data (.setNxEx (.probe keys) () ex)).2 } := by
  obtain ⟨m, hsim, hnonneg, hprobe⟩ := h.simulates
  have hpos : 0 < m.openUntil := by
    rw [HostState.circuitState] at hstate
    split at hstate
    · cases hstate
    split at hstate
    · next hhalf => exact hsim.openUntil_eq ▸ hhalf
    split at hstate
    · next hactive => exact hprobe hactive
    · cases hstate
  have hframe : ∀ k, k ≠ Key.probe keys →
      (exec s.now s.data (.setNxEx (.probe keys) () ex)).2 k = s.data k :=
    fun k hk => exec_frame s.now s.data _ (by simpa [Cmd.writes] using hk)
  have hwindows : windowsOf (exec s.now s.data (.setNxEx (.probe keys) () ex)).2 keys =
      windowsOf s.data keys := by
    funext w
    rw [windowsOf, hframe _ (by simp), windowsOf]
  obtain ⟨recs, hw, hm⟩ := hsim.windows
  obtain ⟨o, hslot, ho⟩ := hsim.openUntil
  refine ⟨h.now_pos, m, ⟨⟨recs, ?_, hm⟩, o, ?_, ho⟩, hnonneg, fun _ => hpos⟩
  · dsimp only
    rw [hwindows]
    exact hw
  · exact (hframe _ (by simp)).trans hslot

/-- A new breaker. -/
theorem breakerInv_start (hnow : 0 < s.now) (keys : BreakerKeys) :
    BreakerInv rule keys (Fleet.start (ι := ι) s keys).host := by
  have hnone : ∀ k ∈ [Key.openUntil keys, .probe keys, .window .failures keys,
      .window .totals keys], (Fleet.start (ι := ι) s keys).host.data k = none :=
    fun k hk => (Store.foldl_erase _ s.data k).trans (if_pos hk)
  have hwindows : windowsOf (Fleet.start (ι := ι) s keys).host.data keys = fun _ => none := by
    funext w
    exact hnone _ (by cases w <;> simp)
  refine ⟨hnow, ⟨[], 0⟩, ⟨⟨[], ?_, rfl⟩, none, hnone _ (by simp), rfl⟩, le_rfl, ?_⟩
  · rw [hwindows]
    exact .empty
  · intro hactive
    rw [probeActive_of_none (hnone _ (by simp))] at hactive
    cases hactive

end Store

/-! ### The calls of a breaker -/

section Calls

variable {ctx : Ctx K} {rule : CircuitBreakerRule K} {s : HostState K} {b : CircuitBreaker K}

theorem BreakerInv.allowRequest (uuids : UuidSource)
    (h : BreakerInv rule (breakerKeys ctx rule) s) (hb : b.rule = rule) : ∃ admitted b' s',
      (b.allowRequest ctx).eval (HostState.nominal uuids) s = (.ok (admitted, b'), s') ∧
        b'.rule = rule ∧ BreakerInv rule (breakerKeys ctx rule) s' := by
  subst hb
  simp only [CircuitBreaker.allowRequest]
  rw [Prog.eval_bind_ok eval_getState]
  cases hstate : s.circuitState (breakerKeys ctx b.rule) with
  | closed => exact ⟨true, _, s, rfl, rfl, h⟩
  | opened => exact ⟨false, _, s, rfl, rfl, h⟩
  | halfOpen =>
      dsimp only
      rw [tryAcquireProbe, Prog.eval_bind_ok (Host.eval_redis _)]
      split
      · exact ⟨true, _, _, rfl, rfl, h.acquire hstate _⟩
      · exact ⟨false, _, _, rfl, rfl, h.acquire hstate _⟩

theorem BreakerInv.recordSuccess (uuids : UuidSource)
    (h : BreakerInv rule (breakerKeys ctx rule) s) (hb : b.rule = rule) : ∃ result b' s',
      (b.recordSuccess ctx).eval (HostState.nominal uuids) s = (.ok (result, b'), s') ∧
        (∀ r ∈ result, r.snapshot.Sound) ∧ BreakerInv rule (breakerKeys ctx rule) s' := by
  subst hb
  rw [CircuitBreaker.recordSuccess]
  split
  · rw [Prog.eval_bind_ok eval_getOpenUntil, Prog.eval_bind_ok eval_closeBreaker]
    exact ⟨none, _, _, rfl, by simp, h.close⟩
  · obtain ⟨hsound, hinv⟩ := h.record uuids .success
    rw [Prog.eval_bind_ok (eval_recordOutcome .success)]
    exact ⟨some _, _, _, rfl, by simpa using hsound, hinv⟩

theorem BreakerInv.recordFailure (uuids : UuidSource)
    (h : BreakerInv rule (breakerKeys ctx rule) s) (hb : b.rule = rule) : ∃ result b' s',
      (b.recordFailure ctx).eval (HostState.nominal uuids) s = (.ok (result, b'), s') ∧
        (∀ r ∈ result, r.snapshot.Sound) ∧ BreakerInv rule (breakerKeys ctx rule) s' := by
  subst hb
  rw [CircuitBreaker.recordFailure]
  split
  · obtain ⟨hsound, hinv⟩ := h.reopen.snapshot
    rw [Prog.eval_bind_ok eval_reopenBreaker, Prog.eval_bind_ok eval_snapshotBreaker]
    exact ⟨some _, _, _, rfl, by simpa using hsound, hinv⟩
  · obtain ⟨hsound, hinv⟩ := h.record uuids .failure
    rw [Prog.eval_bind_ok (eval_recordOutcome .failure)]
    exact ⟨some _, _, _, rfl, by simpa using hsound, hinv⟩

end Calls

/-! ### Runs -/

/-- The invariant of the store, of the admitted instances and of the results. -/
structure FleetInv (rule : CircuitBreakerRule K) (keys : BreakerKeys) (f : Fleet ι K) :
    Prop where
  host : BreakerInv rule keys f.host
  rules : ∀ i b, f.phase i = .admitted b → b.rule = rule
  results : ∀ r ∈ f.results, r.snapshot.Sound

section Runs

variable {uuids : UuidSource} {ctx : Ctx K} {rule : CircuitBreakerRule K} {f : Fleet ι K}
  {keys : BreakerKeys}

/-- Changing the phase of one request. -/
theorem FleetInv.rules_update (h : FleetInv rule keys f) (i : ι) {p : Phase K}
    (hp : ∀ b, p = .admitted b → b.rule = rule) :
    ∀ j b, Function.update f.phase i p j = .admitted b → b.rule = rule := by
  intro j b hj
  by_cases hij : j = i
  · subst hij
    rw [Function.update_self] at hj
    exact hp b hj
  · rw [Function.update_of_ne hij] at hj
    exact h.rules j b hj

/-- A record call of an admitted request keeps the invariant. -/
theorem FleetInv.settle (h : FleetInv rule keys f) (i : ι)
    {result : Option (CircuitRecordResult K)} {b' : CircuitBreaker K} {s' : HostState K}
    (hsound : ∀ r ∈ result, r.snapshot.Sound) (hinv : BreakerInv rule keys s') :
    FleetInv rule keys (f.settle i (.ok (result, b'), s')) := by
  refine ⟨hinv, h.rules_update i (by simp), fun r hr => ?_⟩
  rcases List.mem_append.mp hr with hnew | hold
  · exact hsound r (Option.mem_toList.mp hnew)
  · exact h.results r hold

theorem FleetInv.step (h : FleetInv rule (breakerKeys ctx rule) f) (m : FleetMove ι K) :
    FleetInv rule (breakerKeys ctx rule) (f.step ctx rule uuids m) := by
  cases m with
  | tick t => exact ⟨h.host.tick t, h.rules, h.results⟩
  | allowRequest i =>
      rw [Fleet.step]
      cases f.phase i with
      | idle =>
          obtain ⟨admitted, b', s', heval, hrule, hinv⟩ :=
            h.host.allowRequest uuids (b := .init rule) rfl
          dsimp only
          rw [heval]
          cases admitted with
          | true =>
              exact ⟨hinv, h.rules_update i fun b hb => by cases hb; exact hrule, h.results⟩
          | false => exact ⟨hinv, h.rules_update i (by simp), h.results⟩
      | admitted b => exact h
      | done => exact h
  | recordSuccess i =>
      rw [Fleet.step]
      cases hphase : f.phase i with
      | idle => exact h
      | admitted b =>
          obtain ⟨result, b', s', heval, hsound, hinv⟩ :=
            h.host.recordSuccess uuids (h.rules i b hphase)
          dsimp only
          rw [heval]
          exact h.settle i hsound hinv
      | done => exact h
  | recordFailure i =>
      rw [Fleet.step]
      cases hphase : f.phase i with
      | idle => exact h
      | admitted b =>
          obtain ⟨result, b', s', heval, hsound, hinv⟩ :=
            h.host.recordFailure uuids (h.rules i b hphase)
          dsimp only
          rw [heval]
          exact h.settle i hsound hinv
      | done => exact h

theorem FleetInv.run (h : FleetInv rule (breakerKeys ctx rule) f) (ms : List (FleetMove ι K)) :
    FleetInv rule (breakerKeys ctx rule) (Fleet.run ctx rule uuids ms f) := by
  induction ms generalizing f with
  | nil => exact h
  | cons m ms ih => exact ih (h.step m)

/-- The invariant gives what a breaker can rely on. -/
theorem FleetInv.sound (h : FleetInv rule (breakerKeys ctx rule) f) :
    BreakerSound ctx rule uuids f := by
  obtain ⟨m, hsim, hnonneg, hprobe⟩ := h.host.simulates
  refine ⟨?_, ⟨_, eval_getState, ?_⟩, ⟨_, _, eval_snapshotBreaker, h.host.snapshot.1⟩,
    h.results⟩
  · intro hactive
    rw [hsim.openUntil_eq]
    exact hprobe hactive
  · have hnow := h.host.now_pos
    rw [HostState.circuitState, hsim.openUntil_eq]
    by_cases hopen : f.host.now < m.openUntil
    · have hpos : 0 < m.openUntil := hnow.trans hopen
      simp [hopen, hpos.ne']
    by_cases hhalf : 0 < m.openUntil
    · simp [hopen, hhalf, hhalf.ne', not_lt.mp hopen]
    · have hzero : m.openUntil = 0 := le_antisymm (not_lt.mp hhalf) hnonneg
      have hinactive : f.host.probeActive (breakerKeys ctx rule) = false :=
        Bool.eq_false_iff.mpr fun hactive => hhalf (hprobe hactive)
      simp [hzero, hinactive, hnow.not_gt]

/-- **Any number of requests, in any order**: a probe key only exists while
`open_until` is positive, the state is what `open_until` says, and no count of
failures exceeds the count of requests. -/
theorem breakerSound_run (ctx : Ctx K) (rule : CircuitBreakerRule K) (uuids : UuidSource)
    (s : HostState K) (hnow : 0 < s.now) (ms : List (FleetMove ι K)) :
    BreakerSound ctx rule uuids
      (Fleet.run ctx rule uuids ms (.start s (breakerKeys ctx rule))) := by
  have hstart : FleetInv rule (breakerKeys ctx rule)
      (Fleet.start (ι := ι) s (breakerKeys ctx rule)) :=
    ⟨breakerInv_start hnow _, by simp [Fleet.start], by simp [Fleet.start]⟩
  exact (hstart.run ms).sound

end Runs

/-- A failure opens the breaker, a request is admitted as the probe, and when its
lease has run out another one is; both settle. -/
theorem breakerSound_late : BreakerSound defaultCtx halfRule .unary
    (Fleet.run defaultCtx halfRule .unary
      [.allowRequest 0, .allowRequest 1, .recordSuccess 1, .recordFailure 0, .tick 20,
        .allowRequest 2, .tick 60, .allowRequest 3, .recordFailure 2, .recordSuccess 3]
      (Fleet.start (ι := ℕ) ⟨fun _ => none, 1, []⟩ (breakerKeys defaultCtx halfRule))) :=
  breakerSound_run defaultCtx halfRule .unary ⟨fun _ => none, 1, []⟩ (by norm_num) _

/-! ### The success of a probe -/

/-- Request `i` records an outcome. -/
def FleetMove.settles (i : ι) : FleetMove ι K → Bool
  | .recordSuccess j => decide (j = i)
  | .recordFailure j => decide (j = i)
  | _ => false

/-- A breaker that is closed: nothing is left of the requests before. -/
structure Closed (keys : BreakerKeys) (s : HostState K) : Prop where
  openUntil : s.openUntil keys = 0
  windows : ∀ w, members s.now (s.data (.window w keys)) = []
  probe : s.probeActive keys = false
  state : s.circuitState keys = .closed

theorem closed_closed {s : HostState K} (hnow : 0 < s.now) (keys : BreakerKeys) :
    Closed keys (s.closed keys) := by
  have hopen : (s.closed keys).openUntil keys = 0 := by
    show ((Store.put _ (Key.openUntil keys) 0 none).lookup s.now (.openUntil keys)).getD 0 = 0
    rw [Store.lookup, Store.put_self]
    rfl
  have hprobe : (s.closed keys).probeActive keys = false :=
    probeActive_of_none (probe_closed s keys)
  refine ⟨hopen, fun w => ?_, hprobe, ?_⟩
  · have hnone : (s.closed keys).data (.window w keys) = none :=
      congrFun (windowsOf_closed (s := s) keys) w
    rw [hnone]
    rfl
  · have hnot : ¬ (s.closed keys).now < 0 := not_lt.mpr hnow.le
    rw [HostState.circuitState, hopen, hprobe, if_neg hnot, if_neg (lt_irrefl _)]
    rfl

section Probe

variable {uuids : UuidSource} {ctx : Ctx K} {rule : CircuitBreakerRule K} {f : Fleet ι K}
  {i : ι} {b : CircuitBreaker K}

theorem Fleet.settle_phase_of_ne {j : ι} (hne : i ≠ j)
    (out : Except Exc (Option (CircuitRecordResult K) × CircuitBreaker K) × HostState K) :
    (f.settle j out).phase i = f.phase i := by
  rcases out with ⟨e | ⟨result, b'⟩, s⟩
  · exact Function.update_of_ne hne ..
  · exact Function.update_of_ne hne ..

/-- What others do leaves an admitted request where it is. -/
theorem Fleet.step_phase (hphase : f.phase i = .admitted b) {m : FleetMove ι K}
    (hm : m.settles i = false) : (f.step ctx rule uuids m).phase i = .admitted b := by
  rw [Fleet.step.eq_def]
  cases m with
  | tick t => exact hphase
  | allowRequest j =>
      dsimp only
      cases hj : f.phase j with
      | idle =>
          have hne : i ≠ j := by
            rintro rfl
            rw [hphase] at hj
            cases hj
          dsimp only
          split
          · exact (Function.update_of_ne hne ..).trans hphase
          · exact (Function.update_of_ne hne ..).trans hphase
      | admitted b' => exact hphase
      | done => exact hphase
  | recordSuccess j =>
      have hne : i ≠ j := Ne.symm (of_decide_eq_false hm)
      dsimp only
      cases f.phase j with
      | admitted b' => exact (Fleet.settle_phase_of_ne hne _).trans hphase
      | idle => exact hphase
      | done => exact hphase
  | recordFailure j =>
      have hne : i ≠ j := Ne.symm (of_decide_eq_false hm)
      dsimp only
      cases f.phase j with
      | admitted b' => exact (Fleet.settle_phase_of_ne hne _).trans hphase
      | idle => exact hphase
      | done => exact hphase

theorem Fleet.run_phase (ctx : Ctx K) (rule : CircuitBreakerRule K) (uuids : UuidSource)
    (hphase : f.phase i = .admitted b) {ms : List (FleetMove ι K)}
    (hms : ∀ m ∈ ms, m.settles i = false) :
    (Fleet.run ctx rule uuids ms f).phase i = .admitted b := by
  induction ms generalizing f with
  | nil => exact hphase
  | cons m ms ih =>
      apply ih
      · exact Fleet.step_phase hphase (hms m List.mem_cons_self)
      · exact fun m' hm' => hms m' (List.mem_cons_of_mem m hm')

end Probe

/-- **A probe that succeeds closes the breaker**, whatever the other requests have
made of open_until since it was admitted. -/
theorem probe_success_closes (ctx : Ctx K) (rule : CircuitBreakerRule K) (uuids : UuidSource)
    (s : HostState K) (hnow : 0 < s.now) (before since : List (FleetMove ι K)) (i : ι)
    (b : CircuitBreaker K)
    (hphase : ((Fleet.run ctx rule uuids before (.start s (breakerKeys ctx rule))).step ctx rule
      uuids (.allowRequest i)).phase i = .admitted b)
    (hprobe : b.probeAcquired = true) (hsince : ∀ m ∈ since, m.settles i = false) :
    Closed (breakerKeys ctx rule) (Fleet.step ctx rule uuids
      (Fleet.run ctx rule uuids since ((Fleet.run ctx rule uuids before
        (.start s (breakerKeys ctx rule))).step ctx rule uuids (.allowRequest i)))
      (.recordSuccess i)).host := by
  have hstart : FleetInv rule (breakerKeys ctx rule)
      (Fleet.start (ι := ι) s (breakerKeys ctx rule)) :=
    ⟨breakerInv_start hnow _, by simp [Fleet.start], by simp [Fleet.start]⟩
  have hinv : FleetInv rule (breakerKeys ctx rule) (Fleet.run ctx rule uuids since
      ((Fleet.run ctx rule uuids before (.start s (breakerKeys ctx rule))).step ctx rule uuids
        (.allowRequest i))) :=
    ((hstart.run before).step (.allowRequest i)).run since
  have hkept := Fleet.run_phase ctx rule uuids hphase hsince
  generalize Fleet.run ctx rule uuids since _ = f at hinv hkept ⊢
  have hrule : b.rule = rule := hinv.rules i b hkept
  have heval : (b.recordSuccess ctx).eval (HostState.nominal uuids) f.host =
      (.ok (none, { b with lastState := .closed, probeAcquired := false }),
        f.host.closed (breakerKeys ctx rule)) := by
    rw [CircuitBreaker.recordSuccess, if_pos hprobe, hrule,
      Prog.eval_bind_ok eval_getOpenUntil, Prog.eval_bind_ok eval_closeBreaker]
    rfl
  rw [Fleet.step.eq_def]
  dsimp only
  rw [hkept]
  dsimp only
  rw [heval]
  exact closed_closed hinv.host.now_pos _

/-- Four requests are admitted, two of them open the breaker, and it runs out. -/
def expiredFleet : Fleet ℕ ℚ :=
  Fleet.run defaultCtx halfRule .unary
    [.allowRequest 4, .allowRequest 5, .allowRequest 0, .allowRequest 1, .recordSuccess 1,
      .recordFailure 0, .tick 20]
    (.start ⟨fun _ => none, 1, []⟩ (breakerKeys defaultCtx halfRule))

/-- Request 2 is admitted as the probe, then the first two requests fail. -/
def reopenedFleet : Fleet ℕ ℚ :=
  Fleet.run defaultCtx halfRule .unary [.recordFailure 4, .recordFailure 5]
    (expiredFleet.step defaultCtx halfRule .unary (.allowRequest 2))

/-- Whether request `i` is admitted and holds the probe. -/
def Fleet.probing (f : Fleet ι K) (i : ι) : Bool :=
  match f.phase i with
  | .admitted b => b.probeAcquired
  | _ => false

/-- **The probe closes a half-open period that it was not admitted in**: it was
admitted at `open_until` 9, finds 28 and two failures, and leaves 0 and none. -/
theorem probe_closes_reopened :
    expiredFleet.host.openUntil .legacy = 9 ∧
    (expiredFleet.step defaultCtx halfRule .unary (.allowRequest 2)).probing 2 = true ∧
    reopenedFleet.host.openUntil .legacy = 28 ∧
    (members reopenedFleet.host.now
      (reopenedFleet.host.data (.window .failures .legacy))).length = 2 ∧
    (reopenedFleet.step defaultCtx halfRule .unary (.recordSuccess 2)).host.openUntil .legacy = 0 ∧
    (reopenedFleet.step defaultCtx halfRule .unary (.recordSuccess 2)).host.data
      (.window .failures .legacy) = none := by
  decide +kernel

theorem probe_success_closes_reopened : Closed (breakerKeys defaultCtx halfRule)
    (reopenedFleet.step defaultCtx halfRule .unary (.recordSuccess 2)).host := by
  have hprobing : (expiredFleet.step defaultCtx halfRule .unary (.allowRequest 2)).probing 2 =
      true := by
    decide +kernel
  rw [Fleet.probing] at hprobing
  cases hphase : (expiredFleet.step defaultCtx halfRule .unary (.allowRequest 2)).phase 2 with
  | idle => simp [hphase] at hprobing
  | done => simp [hphase] at hprobing
  | admitted b =>
      rw [hphase] at hprobing
      exact probe_success_closes defaultCtx halfRule .unary ⟨fun _ => none, 1, []⟩ (by norm_num)
        _ _ 2 b hphase hprobing (by decide)

end ChaosDemo
