/-
ChaosDemo/SlidingBreaker.lean

What the breaker's storage is for, and that it does it.  The abstract breaker
remembers every outcome since it was last closed, with its time, and
`open_until`.  It counts the outcomes in the window `(now - window, now]`, and
it opens when the counts say so and it is not open already.

The storage keeps two sorted sets instead, which are trimmed by whoever comes
by and expire as a whole.  `Windows` ties each of them to the part of the
recorded outcomes that goes into it (ChaosDemo/SlidingLog.lean), one lemma says
what each storage call makes of that, and `runStorage_eq` compares the runs.
-/
import ChaosDemo.Breaker

set_option linter.unusedSectionVars false

namespace ChaosDemo

open CallTree Keyspace SlidingLog

variable {K : Type} [Field K] [LinearOrder K] [IsStrictOrderedRing K] [FloorRing K]

/-! ### The abstract breaker -/

/-- The outcomes since the breaker was last closed, the latest first, and the
time until which it is open. -/
structure SlidingBreaker (K : Type) where
  outcomes : List (Action × K)
  openUntil : K

/-- What a call of the storage shows, besides `open_until`. -/
inductive Seen
  | recorded (opened : Bool) (failures totals : ℤ)
  | closed
  | reopened
  | counted (failures totals : ℤ)
deriving DecidableEq

/-- What a call of the storage shows, and the `open_until` it leaves. -/
structure Observation (K : Type) where
  seen : Seen
  openUntil : K
deriving DecidableEq

/-- The calls of the storage that change or count something. -/
inductive StorageCall
  | record (action : Action)
  | close
  | reopen
  | snapshot

namespace SlidingBreaker

/-- Failures in the window `(now - window, now]`. -/
def failureCount (rule : CircuitBreakerRule K) (now : K) (m : SlidingBreaker K) : ℕ :=
  m.outcomes.countP fun o => o.1 = .failure ∧ now - rule.windowSeconds < o.2 ∧ o.2 ≤ now

/-- Outcomes in the window `(now - window, now]`. -/
def totalCount (rule : CircuitBreakerRule K) (now : K) (m : SlidingBreaker K) : ℕ :=
  m.outcomes.countP fun o => now - rule.windowSeconds < o.2 ∧ o.2 ≤ now

/-- The outcome is remembered; the breaker opens when the window now calls for it
and it is not open. -/
def record (rule : CircuitBreakerRule K) (now : K) (action : Action) (m : SlidingBreaker K) :
    Seen × SlidingBreaker K :=
  let m' := { m with outcomes := (action, now) :: m.outcomes }
  let failures : ℕ := m'.failureCount rule now
  let totals : ℕ := m'.totalCount rule now
  if rule.minRequestCount ≤ totals ∧
      rule.failureRateThreshold ≤ failureRate failures totals ∧ m.openUntil ≤ now then
    (.recorded true failures totals, { m' with openUntil := now + rule.openTimeoutSeconds })
  else (.recorded false failures totals, m')

/-- One call at time `now`. -/
def step (rule : CircuitBreakerRule K) (now : K) (m : SlidingBreaker K) :
    StorageCall → Seen × SlidingBreaker K
  | .record action => m.record rule now action
  | .close => (.closed, ⟨[], 0⟩)
  | .reopen => (.reopened, { m with openUntil := now + rule.openTimeoutSeconds })
  | .snapshot => (.counted (m.failureCount rule now) (m.totalCount rule now), m)

end SlidingBreaker

/-- A call, or the clock moving on to `t` (it never goes back). -/
inductive StorageMove (K : Type)
  | call (c : StorageCall)
  | tick (t : K)

/-- The observations of a run of the abstract breaker. -/
def SlidingBreaker.run (rule : CircuitBreakerRule K) :
    List (StorageMove K) → K → SlidingBreaker K → List (Observation K)
  | [], _, _ => []
  | .tick t :: ms, now, m => run rule ms (max now t) m
  | .call c :: ms, now, m =>
      ⟨(m.step rule now c).1, (m.step rule now c).2.openUntil⟩ ::
        run rule ms now (m.step rule now c).2

/-! ### The storage -/

/-- What a storage call returns. -/
inductive StorageReply (K : Type)
  | recorded (result : CircuitRecordResult K)
  | closed
  | reopened (openUntil : K)
  | counted (snapshot : CircuitWindowSnapshot K)

def StorageReply.seen : StorageReply K → Seen
  | recorded r => .recorded r.opened r.snapshot.failureCount r.snapshot.totalRequestCount
  | closed => .closed
  | reopened _ => .reopened
  | counted s => .counted s.failureCount s.totalRequestCount

def StorageCall.run (ctx : Ctx K) (rule : CircuitBreakerRule K) :
    StorageCall → Host K (StorageReply K)
  | record action => do
      let result ← recordOutcome ctx rule action
      pure (.recorded result)
  | close => do
      closeBreaker ctx rule
      pure .closed
  | reopen => do
      let openUntil ← reopenBreaker ctx rule
      pure (.reopened openUntil)
  | snapshot => do
      let snapshot ← snapshotBreaker ctx rule
      pure (.counted snapshot)

/-- The observations of a run of the storage.  A call that raised would show
nothing. -/
def runStorage (ctx : Ctx K) (rule : CircuitBreakerRule K) (uuids : UuidSource) :
    List (StorageMove K) → HostState K → List (Observation K)
  | [], _ => []
  | .tick t :: ms, s => runStorage ctx rule uuids ms { s with now := max s.now t }
  | .call c :: ms, s =>
      match (c.run ctx rule).eval (HostState.nominal uuids) s with
      | (.ok reply, s') =>
          ⟨reply.seen, s'.openUntil (breakerKeys ctx rule)⟩ :: runStorage ctx rule uuids ms s'
      | (.error _, s') => runStorage ctx rule uuids ms s'

/-- Both windows empty, and `open_until` as given. -/
def HostState.reset (s : HostState K) (keys : BreakerKeys) (openUntil : Option K) :
    HostState K :=
  { s with
    data := ((s.data.erase (.window .failures keys)).erase (.window .totals keys)).write
      (.openUntil keys) (openUntil.map (⟨·, none⟩)) }

/-! ### What the two sorted sets hold -/

/-- An outcome as the script recorded it, with the uuids of its members. -/
structure Recorded (K : Type) where
  action : Action
  time : K
  totalHex : String
  failureHex : String

/-- The entries of the totals set. -/
def totalsOf (recs : List (Recorded K)) : ZSet Member K :=
  recs.map fun r => (⟨.totals, r.totalHex⟩, r.time)

/-- The entries of the failures set. -/
def failuresOf (recs : List (Recorded K)) : ZSet Member K :=
  (recs.filter (·.action = .failure)).map fun r => (⟨.failures, r.failureHex⟩, r.time)

/-- The slots of the two windows. -/
def windowsOf (data : Data K) (keys : BreakerKeys) (w : Window) :
    Option (Timed (ZSet Member K) K) := data (.window w keys)

/-- The slots of the two windows stand for the recorded outcomes, and their
members carry uuids that were handed out. -/
structure Windows (rule : CircuitBreakerRule K) (now : K) (used : List String)
    (slot : Window → Option (Timed (ZSet Member K) K)) (recs : List (Recorded K)) : Prop where
  failures : Represents (rule.windowSeconds : K) now (slot .failures) (failuresOf recs)
  totals : Represents (rule.windowSeconds : K) now (slot .totals) (totalsOf recs)
  issued : ∀ w, Among (fun m => m.hex ∈ used) (slot w)

section Slots

variable {rule : CircuitBreakerRule K} {now : K} {used : List String}
  {slot : Window → Option (Timed (ZSet Member K) K)} {recs : List (Recorded K)}

theorem window_pos (rule : CircuitBreakerRule K) : (0 : K) < rule.windowSeconds := by
  exact_mod_cast rule.windowSeconds_pos

theorem Windows.past (h : Windows rule now used slot recs) {r : Recorded K} (hr : r ∈ recs) :
    r.time ≤ now :=
  h.totals.past (⟨.totals, r.totalHex⟩, r.time) (List.mem_map_of_mem hr)

/-- Empty windows stand for no outcomes. -/
theorem Windows.empty : Windows rule now used (fun _ => none) [] :=
  ⟨.empty, .empty, fun _ => .none⟩

theorem Windows.mono (h : Windows rule now used slot recs) {now' : K} (hle : now ≤ now') :
    Windows rule now' used slot recs :=
  ⟨h.failures.mono hle, h.totals.mono hle, h.issued⟩

theorem Windows.trim (h : Windows rule now used slot recs) :
    Windows rule now used (fun w => trimSlot now (now - rule.windowSeconds) (slot w)) recs :=
  ⟨h.failures.trimSlot, h.totals.trimSlot, fun w => (h.issued w).trimSlot _⟩

/-- A uuid that was not handed out is on no member. -/
theorem Windows.fresh (h : Windows rule now used slot recs) {w : Window} {hex : String}
    (hhex : hex ∉ used) {p : Window} : ∀ x ∈ members now (slot w), x.1 ≠ ⟨p, hex⟩ := by
  rintro x hx heq
  have hmem := (h.issued w).members hx
  rw [heq] at hmem
  exact hhex hmem

/-- The slots after the script has added an outcome at time `now`. -/
def addedSlots (rule : CircuitBreakerRule K) (now : K)
    (slot : Window → Option (Timed (ZSet Member K) K)) (r : Recorded K) :
    Window → Option (Timed (ZSet Member K) K)
  | .totals => addSlot now (now + ((rule.windowSeconds + 2 : ℤ) : K)) now ⟨.totals, r.totalHex⟩
      (trimSlot now (now - rule.windowSeconds) (slot .totals))
  | .failures =>
      if r.action = .failure then
        addSlot now (now + ((rule.windowSeconds + 2 : ℤ) : K)) now ⟨.failures, r.failureHex⟩
          (trimSlot now (now - rule.windowSeconds) (slot .failures))
      else trimSlot now (now - rule.windowSeconds) (slot .failures)

/-- The deadline of a window key is longer than the window. -/
theorem window_le_ttl (rule : CircuitBreakerRule K) :
    (rule.windowSeconds : K) ≤ ((rule.windowSeconds + 2 : ℤ) : K) := by
  exact_mod_cast (by omega : rule.windowSeconds ≤ rule.windowSeconds + 2)

variable {r : Recorded K}

theorem failuresOf_cons (r : Recorded K) (recs : List (Recorded K)) :
    failuresOf (r :: recs) = if r.action = .failure then
      (⟨.failures, r.failureHex⟩, r.time) :: failuresOf recs else failuresOf recs := by
  by_cases h : r.action = .failure <;> simp [failuresOf, h]

theorem totalsOf_cons (r : Recorded K) (recs : List (Recorded K)) :
    totalsOf (r :: recs) = (⟨.totals, r.totalHex⟩, r.time) :: totalsOf recs := rfl

/-- **The script refines the log.**  The slots it leaves stand for the log with
the new outcome. -/
theorem Windows.add (h : Windows rule now used slot recs) (hnow : r.time = now)
    (htotal : r.totalHex ∉ used) (hfailure : r.action = .failure → r.failureHex ∉ used)
    {used' : List String} (hused : ∀ hex ∈ used, hex ∈ used')
    (htotal' : r.totalHex ∈ used') (hfailure' : r.action = .failure → r.failureHex ∈ used') :
    Windows rule now used' (addedSlots rule now slot r) (r :: recs) := by
  have ht := h.trim
  refine ⟨?_, ?_, fun w => ?_⟩
  · rw [failuresOf_cons, addedSlots]
    by_cases hact : r.action = .failure
    · rw [if_pos hact, if_pos hact, hnow]
      exact ht.failures.add (window_le_ttl rule) (ht.fresh (w := .failures) (hfailure hact))
    · rw [if_neg hact, if_neg hact]
      exact ht.failures
  · rw [totalsOf_cons, addedSlots, hnow]
    exact ht.totals.add (window_le_ttl rule) (ht.fresh (w := .totals) htotal)
  · have hmono : ∀ w, Among (fun m => m.hex ∈ used')
        (trimSlot now (now - rule.windowSeconds) (slot w)) :=
      fun w => (ht.issued w).mono fun m hm => hused _ hm
    cases w with
    | totals => exact (hmono .totals).addSlot htotal' _ _
    | failures =>
        rw [addedSlots]
        by_cases hact : r.action = .failure
        · rw [if_pos hact]
          exact (hmono .failures).addSlot (hfailure' hact) _ _
        · rw [if_neg hact]
          exact hmono .failures

/-- What is in the slots the script leaves is the current window of the log. -/
theorem Windows.members_added (h : Windows rule now used slot recs) (hnow : r.time = now)
    (htotal : r.totalHex ∉ used) (hfailure : r.action = .failure → r.failureHex ∉ used) :
    members now (addedSlots rule now slot r .failures) =
        SlidingLog.trim (now - (rule.windowSeconds : K)) (failuresOf (r :: recs)) ∧
      members now (addedSlots rule now slot r .totals) =
        SlidingLog.trim (now - (rule.windowSeconds : K)) (totalsOf (r :: recs)) := by
  have ht := h.trim
  have httl : (0 : K) < ((rule.windowSeconds + 2 : ℤ) : K) :=
    lt_of_lt_of_le (window_pos rule) (window_le_ttl rule)
  constructor
  · rw [failuresOf_cons, addedSlots]
    by_cases hact : r.action = .failure
    · rw [if_pos hact, if_pos hact, hnow]
      exact members_addSlot_of_trimmed h.failures.members_trimSlot (window_pos rule) httl
        (ht.fresh (w := .failures) (hfailure hact))
    · rw [if_neg hact, if_neg hact]
      exact h.failures.members_trimSlot
  · rw [totalsOf_cons, addedSlots, hnow]
    exact members_addSlot_of_trimmed h.totals.members_trimSlot (window_pos rule) httl
      (ht.fresh (w := .totals) htotal)

end Slots

/-! ### Counting -/

/-- Outcomes later than `c`, counted in the totals set. -/
theorem length_trim_totalsOf (c : K) (recs : List (Recorded K)) :
    (trim c (totalsOf recs)).length = recs.countP fun r => c < r.time := by
  rw [trim, totalsOf, List.filter_map, List.length_map, ← List.countP_eq_length_filter]
  rfl

/-- Failures later than `c`, counted in the failures set. -/
theorem length_trim_failuresOf (c : K) (recs : List (Recorded K)) :
    (trim c (failuresOf recs)).length =
      recs.countP fun r => r.action = .failure ∧ c < r.time := by
  rw [trim, failuresOf, List.filter_map, List.length_map, List.filter_filter,
    ← List.countP_eq_length_filter]
  refine List.countP_congr fun r _ => ?_
  simp [and_comm]

/-! ### What the calls do to the store -/

section Calls

variable {uuids : UuidSource} {ctx : Ctx K} {rule : CircuitBreakerRule K} {s : HostState K}

/-- What `close` leaves. -/
def HostState.closed (s : HostState K) (keys : BreakerKeys) : HostState K :=
  { s with
    data := Store.put
      ([Key.probe keys, .window .failures keys, .window .totals keys].foldl Store.erase s.data)
      (.openUntil keys) 0 none }

theorem eval_closeBreaker : (closeBreaker ctx rule).eval (HostState.nominal uuids) s =
    (.ok (), s.closed (breakerKeys ctx rule)) := rfl

theorem windowsOf_closed (keys : BreakerKeys) :
    windowsOf (s.closed keys).data keys = fun _ => none := by
  funext w
  rw [windowsOf, HostState.closed]
  dsimp only
  rw [Store.put_of_ne (by simp), Store.foldl_erase]
  exact if_pos (by cases w <;> simp)

/-- What `reopen` leaves. -/
def HostState.reopened (s : HostState K) (rule : CircuitBreakerRule K) (keys : BreakerKeys) :
    HostState K :=
  { s with
    data := Store.put (Store.erase s.data (.probe keys)) (.openUntil keys)
      (s.now + rule.openTimeoutSeconds) none }

theorem eval_reopenBreaker : (reopenBreaker ctx rule).eval (HostState.nominal uuids) s =
    (.ok (s.now + rule.openTimeoutSeconds), s.reopened rule (breakerKeys ctx rule)) := rfl

theorem windowsOf_reopened (keys : BreakerKeys) :
    windowsOf (s.reopened rule keys).data keys = windowsOf s.data keys := by
  funext w
  rw [windowsOf, HostState.reopened]
  dsimp only
  rw [Store.put_of_ne (by simp), Store.erase_of_ne (by simp), windowsOf]

/-- One window trimmed. -/
def HostState.trim (s : HostState K) (w : Window) (keys : BreakerKeys) (cutoff : K) :
    HostState K :=
  { s with
    data := s.data.write (.window w keys) (trimSlot s.now cutoff (s.data (.window w keys))) }

theorem eval_zremrangebyscore (w : Window) (keys : BreakerKeys) (cutoff : K) :
    (Host.redis (.zremrangebyscore w keys cutoff)).eval (HostState.nominal uuids) s =
      (.ok (), s.trim w keys cutoff) := rfl

theorem eval_zcard (w : Window) (keys : BreakerKeys) :
    (Host.redis (.zcard w keys)).eval (HostState.nominal uuids) s =
      (.ok (members s.now (windowsOf s.data keys w)).length, s) := rfl

/-- What `snapshot` leaves. -/
def HostState.trimmed (s : HostState K) (rule : CircuitBreakerRule K) (keys : BreakerKeys) :
    HostState K :=
  (s.trim .failures keys (s.now - rule.windowSeconds)).trim .totals keys
    (s.now - rule.windowSeconds)

theorem windowsOf_trimmed (keys : BreakerKeys) : windowsOf (s.trimmed rule keys).data keys =
    fun w => trimSlot s.now (s.now - rule.windowSeconds) (windowsOf s.data keys w) := by
  funext w
  rw [windowsOf, HostState.trimmed, HostState.trim, HostState.trim]
  dsimp only
  cases w with
  | failures => rw [Store.write_of_ne (by simp), Store.write_self, windowsOf]
  | totals => rw [Store.write_self, Store.write_of_ne (by simp), windowsOf]

/-- The counts that two slots show. -/
def windowSnapshot (now : K) (slot : Window → Option (Timed (ZSet Member K) K)) :
    CircuitWindowSnapshot K :=
  let failureCount := (members now (slot .failures)).length
  let totalCount := (members now (slot .totals)).length
  ⟨failureCount, totalCount, failureRate failureCount totalCount⟩

theorem eval_snapshotBreaker : (snapshotBreaker ctx rule).eval (HostState.nominal uuids) s =
    (.ok (windowSnapshot s.now (windowsOf (s.trimmed rule (breakerKeys ctx rule)).data
      (breakerKeys ctx rule))), s.trimmed rule (breakerKeys ctx rule)) := by
  simp only [snapshotBreaker]
  rw [Prog.eval_bind_ok Host.eval_time, Prog.eval_bind_ok (eval_zremrangebyscore _ _ _),
    Prog.eval_bind_ok (eval_zremrangebyscore _ _ _), Prog.eval_bind_ok (eval_zcard _ _),
    Prog.eval_bind_ok (eval_zcard _ _)]
  rfl

/-- The outcome `_record_outcome` records in state `s`. -/
def HostState.nextRecorded (s : HostState K) (uuids : UuidSource) (action : Action) :
    Recorded K where
  action := action
  time := s.now
  totalHex := uuids.next s.used
  failureHex := uuids.next (uuids.next s.used :: s.used)

/-- The uuids handed out after it. -/
def HostState.usedBy (s : HostState K) (uuids : UuidSource) : Action → List String
  | .success => uuids.next s.used :: s.used
  | .failure => uuids.next (uuids.next s.used :: s.used) :: uuids.next s.used :: s.used

/-- The arguments of the script for an outcome. -/
def Recorded.args (rule : CircuitBreakerRule K) (r : Recorded K) : ScriptArgs K where
  action := r.action
  now := r.time
  window := rule.windowSeconds
  ttl := rule.windowSeconds + 2
  minRequestCount := rule.minRequestCount
  failureRateThreshold := rule.failureRateThreshold
  openTimeout := rule.openTimeoutSeconds
  totalMember := ⟨.totals, r.totalHex⟩
  failureMember := match r.action with
    | .success => none
    | .failure => some ⟨.failures, r.failureHex⟩

/-- What `_record_outcome` makes of the script's reply. -/
def ScriptReply.result (reply : ScriptReply) : CircuitRecordResult K :=
  ⟨reply.opened != 0, reply.openUntil, ⟨reply.failureCount, reply.totalCount, reply.failureRate⟩⟩

theorem eval_recordOutcome (action : Action) :
    (recordOutcome ctx rule action).eval (HostState.nominal uuids) s =
      (.ok (circuitBreakerLua s.now s.data (breakerKeys ctx rule)
          ((s.nextRecorded uuids action).args rule)).1.result,
        { data := (circuitBreakerLua s.now s.data (breakerKeys ctx rule)
            ((s.nextRecorded uuids action).args rule)).2
          now := s.now
          used := s.usedBy uuids action }) := by
  simp only [recordOutcome]
  rw [Prog.eval_bind_ok Host.eval_time, Prog.eval_bind_ok Host.eval_uuid4]
  cases action with
  | success => rfl
  | failure => rfl

theorem windowsOf_addOutcome (data : Data K) (keys : BreakerKeys) (r : Recorded K) :
    windowsOf (addOutcome r.time data keys (r.args rule)) keys =
      addedSlots rule r.time (windowsOf data keys) r := by
  funext w
  cases w with
  | totals => rw [windowsOf, addOutcome, Store.write_self]; rfl
  | failures =>
      rw [windowsOf, addOutcome, Store.write_of_ne (by simp), Store.write_self]
      rcases r with ⟨action, time, totalHex, failureHex⟩
      cases action <;> rfl

end Calls

/-! ### The simulation -/

/-- The store stands for the abstract breaker: the windows hold its outcomes, and
`open_until` is stored without a deadline or not at all. -/
structure Simulates (rule : CircuitBreakerRule K) (keys : BreakerKeys) (s : HostState K)
    (m : SlidingBreaker K) : Prop where
  windows : ∃ recs, Windows rule s.now s.used (windowsOf s.data keys) recs ∧
    m.outcomes = recs.map fun r => (r.action, r.time)
  openUntil : ∃ o : Option K, s.data (.openUntil keys) = o.map (⟨·, none⟩) ∧
    m.openUntil = o.getD 0

section Simulation

variable {ctx : Ctx K} {rule : CircuitBreakerRule K} {s : HostState K}
  {keys : BreakerKeys} {m : SlidingBreaker K} {recs : List (Recorded K)}

/-- The stored `open_until` is the abstract one. -/
theorem Simulates.openUntil_eq (h : Simulates rule keys s m) :
    s.openUntil keys = m.openUntil := by
  obtain ⟨o, hslot, hm⟩ := h.openUntil
  rw [HostState.openUntil, Store.lookup, hslot, hm]
  cases o <;> rfl

theorem failureCount_eq {now : K} (hm : m.outcomes = recs.map fun r => (r.action, r.time))
    (hpast : ∀ r ∈ recs, r.time ≤ now) : m.failureCount rule now =
      (SlidingLog.trim (now - (rule.windowSeconds : K)) (failuresOf recs)).length := by
  rw [SlidingBreaker.failureCount, hm, List.countP_map, length_trim_failuresOf]
  refine List.countP_congr fun r hr => ?_
  simp [hpast r hr]

theorem totalCount_eq {now : K} (hm : m.outcomes = recs.map fun r => (r.action, r.time))
    (hpast : ∀ r ∈ recs, r.time ≤ now) : m.totalCount rule now =
      (SlidingLog.trim (now - (rule.windowSeconds : K)) (totalsOf recs)).length := by
  rw [SlidingBreaker.totalCount, hm, List.countP_map, length_trim_totalsOf]
  refine List.countP_congr fun r hr => ?_
  simp [hpast r hr]

/-- Time goes on. -/
theorem Simulates.tick (h : Simulates rule keys s m) (t : K) :
    Simulates rule keys { s with now := max s.now t } m := by
  obtain ⟨recs, hw, hm⟩ := h.windows
  exact ⟨⟨recs, hw.mono (le_max_left _ _), hm⟩, h.openUntil⟩

theorem simulates_closed : Simulates rule keys (s.closed keys) ⟨[], 0⟩ := by
  refine ⟨⟨[], ?_, rfl⟩, some 0, Store.put_self, rfl⟩
  rw [windowsOf_closed]
  exact .empty

theorem Simulates.reopen (h : Simulates rule keys s m) :
    Simulates rule keys (s.reopened rule keys)
      { m with openUntil := s.now + rule.openTimeoutSeconds } := by
  obtain ⟨recs, hw, hm⟩ := h.windows
  refine ⟨⟨recs, ?_, hm⟩, some _, Store.put_self, rfl⟩
  rw [windowsOf_reopened]
  exact hw

/-- `snapshot` counts what is in the window, and nobody sees that it trimmed. -/
theorem Simulates.snapshot (h : Simulates rule keys s m) :
    (windowSnapshot s.now (windowsOf (s.trimmed rule keys).data keys)).failureCount =
        m.failureCount rule s.now ∧
      (windowSnapshot s.now (windowsOf (s.trimmed rule keys).data keys)).totalRequestCount =
        m.totalCount rule s.now ∧
      Simulates rule keys (s.trimmed rule keys) m := by
  obtain ⟨recs, hw, hm⟩ := h.windows
  have hpast : ∀ r ∈ recs, r.time ≤ s.now := fun r hr => hw.past hr
  rw [windowsOf_trimmed, failureCount_eq hm hpast, totalCount_eq hm hpast]
  refine ⟨?_, ?_, ⟨recs, ?_, hm⟩, ?_⟩
  · rw [windowSnapshot, hw.failures.members_trimSlot]
  · rw [windowSnapshot, hw.totals.members_trimSlot]
  · rw [windowsOf_trimmed]
    exact hw.trim
  · obtain ⟨o, hslot, ho⟩ := h.openUntil
    refine ⟨o, ?_, ho⟩
    rw [← hslot, HostState.trimmed, HostState.trim, HostState.trim]
    dsimp only
    rw [Store.write_of_ne (by simp), Store.write_of_ne (by simp)]

theorem addOutcome_openUntil (server : K) (data : Data K) (keys : BreakerKeys)
    (a : ScriptArgs K) :
    addOutcome server data keys a (.openUntil keys) = data (.openUntil keys) := by
  rw [addOutcome, Store.write_of_ne (by simp), Store.write_of_ne (by simp)]

/-- `open_until` is set. -/
theorem Simulates.setOpenUntil (h : Simulates rule keys s m) (x : K) :
    Simulates rule keys { s with data := Store.put s.data (.openUntil keys) x none }
      { m with openUntil := x } := by
  obtain ⟨recs, hw, hm⟩ := h.windows
  have hframe : windowsOf (Store.put s.data (.openUntil keys) x none) keys =
      windowsOf s.data keys := by
    funext w
    rw [windowsOf, Store.put_of_ne (by simp), windowsOf]
  refine ⟨⟨recs, ?_, hm⟩, some x, Store.put_self, rfl⟩
  dsimp only
  rw [hframe]
  exact hw

/-- What the script counts, and that what it adds is the new outcome. -/
theorem simulates_addOutcome (uuids : UuidSource) (h : Simulates rule keys s m) (action : Action) :
    let r := s.nextRecorded uuids action
    let data := addOutcome s.now s.data keys (r.args rule)
    let m' := { m with outcomes := (action, s.now) :: m.outcomes }
    (members s.now (data (.window .failures keys))).length = m'.failureCount rule s.now ∧
      (members s.now (data (.window .totals keys))).length = m'.totalCount rule s.now ∧
      Simulates rule keys ⟨data, s.now, s.usedBy uuids action⟩ m' := by
  intro r data m'
  obtain ⟨recs, hw, hm⟩ := h.windows
  have hm' : m'.outcomes = (r :: recs).map fun r => (r.action, r.time) := by
    simp only [m', hm]
    rfl
  have hwindows : windowsOf data keys = addedSlots rule s.now (windowsOf s.data keys) r :=
    windowsOf_addOutcome s.data keys r
  have htotal : r.totalHex ∉ s.used := uuids.fresh s.used
  have hfailure : r.action = .failure → r.failureHex ∉ s.used :=
    fun _ hmem => uuids.fresh (uuids.next s.used :: s.used) (List.mem_cons_of_mem _ hmem)
  have hadd : Windows rule s.now (s.usedBy uuids action)
      (addedSlots rule s.now (windowsOf s.data keys) r) (r :: recs) := by
    refine hw.add rfl htotal hfailure ?_ ?_ ?_
    · intro hex hhex
      cases action <;> simp [HostState.usedBy, hhex]
    · cases action <;> simp [HostState.usedBy, r, HostState.nextRecorded]
    · rintro hact
      change action = .failure at hact
      subst hact
      exact List.mem_cons_self
  have hpast : ∀ r' ∈ r :: recs, r'.time ≤ s.now := fun r' hr' => hadd.past hr'
  obtain ⟨hfailures, htotals⟩ := hw.members_added rfl htotal hfailure
  refine ⟨?_, ?_, ⟨r :: recs, ?_, hm'⟩, ?_⟩
  · rw [failureCount_eq hm' hpast, ← hfailures, ← hwindows, windowsOf]
  · rw [totalCount_eq hm' hpast, ← htotals, ← hwindows, windowsOf]
  · rw [hwindows]
    exact hadd
  · obtain ⟨o, hslot, ho⟩ := h.openUntil
    exact ⟨o, (addOutcome_openUntil s.now s.data keys (r.args rule)).trans hslot, ho⟩

/-- **`_record_outcome` refines the abstract one**: it shows the same, and it
opens when the abstract breaker does. -/
theorem simulates_record (uuids : UuidSource) (h : Simulates rule keys s m) (action : Action) :
    let out := circuitBreakerLua s.now s.data keys ((s.nextRecorded uuids action).args rule)
    (StorageReply.recorded (out.1.result : CircuitRecordResult K)).seen =
        (m.record rule s.now action).1 ∧
      Simulates rule keys ⟨out.2, s.now, s.usedBy uuids action⟩
        (m.record rule s.now action).2 := by
  intro out
  obtain ⟨hfailures, htotals, hsim⟩ := simulates_addOutcome uuids h action
  have hopen : (Store.lookup (addOutcome s.now s.data keys
      ((s.nextRecorded uuids action).args rule)) s.now (.openUntil keys)).getD 0 =
      m.openUntil := hsim.openUntil_eq
  simp only [out, circuitBreakerLua, SlidingBreaker.record, hfailures, htotals, hopen]
  split
  · next hcond =>
    rw [if_pos (by simpa [Recorded.args, HostState.nextRecorded] using hcond)]
    exact ⟨by simp [StorageReply.seen, ScriptReply.result], hsim.setOpenUntil _⟩
  · next hcond =>
    rw [if_neg (by simpa [Recorded.args, HostState.nextRecorded] using hcond)]
    exact ⟨by simp [StorageReply.seen, ScriptReply.result], hsim⟩

/-- One call: it succeeds, shows what the abstract call shows, and keeps the
simulation. -/
theorem simulates_step (uuids : UuidSource) (h : Simulates rule (breakerKeys ctx rule) s m)
    (c : StorageCall) : ∃ reply s', (c.run ctx rule).eval (HostState.nominal uuids) s =
        (.ok reply, s') ∧ s'.now = s.now ∧ reply.seen = (m.step rule s.now c).1 ∧
      Simulates rule (breakerKeys ctx rule) s' (m.step rule s.now c).2 := by
  cases c with
  | record action =>
      obtain ⟨hseen, hsim⟩ := simulates_record uuids h action
      refine ⟨_, ⟨_, s.now, s.usedBy uuids action⟩, ?_, rfl, hseen, hsim⟩
      rw [StorageCall.run, Prog.eval_bind_ok (eval_recordOutcome action)]
      rfl
  | close =>
      refine ⟨.closed, s.closed (breakerKeys ctx rule), ?_, rfl, rfl, simulates_closed⟩
      rw [StorageCall.run, Prog.eval_bind_ok eval_closeBreaker]
      rfl
  | reopen =>
      refine ⟨.reopened (s.now + rule.openTimeoutSeconds),
        s.reopened rule (breakerKeys ctx rule), ?_, rfl, rfl, h.reopen⟩
      rw [StorageCall.run, Prog.eval_bind_ok eval_reopenBreaker]
      rfl
  | snapshot =>
      obtain ⟨hfailures, htotals, hsim⟩ := h.snapshot
      refine ⟨.counted (windowSnapshot s.now (windowsOf
        (s.trimmed rule (breakerKeys ctx rule)).data (breakerKeys ctx rule))),
        s.trimmed rule (breakerKeys ctx rule), ?_, rfl, ?_, hsim⟩
      · rw [StorageCall.run, Prog.eval_bind_ok eval_snapshotBreaker]
        rfl
      · rw [StorageReply.seen, hfailures, htotals, SlidingBreaker.step]

theorem simulates_reset (s : HostState K) (openUntil : Option K) :
    Simulates rule keys (s.reset keys openUntil) ⟨[], openUntil.getD 0⟩ := by
  refine ⟨⟨[], ?_, rfl⟩, openUntil, Store.write_self, rfl⟩
  have hempty : windowsOf (s.reset keys openUntil).data keys = fun _ => none := by
    funext w
    rw [windowsOf, HostState.reset]
    dsimp only
    rw [Store.write_of_ne (by simp)]
    cases w with
    | failures => rw [Store.erase_of_ne (by simp), Store.erase_self]
    | totals => rw [Store.erase_self]
  rw [hempty]
  exact .empty

/-- A run of the storage shows what the run of a breaker that it stands for shows. -/
theorem runStorage_of_simulates (uuids : UuidSource) (ms : List (StorageMove K))
    (h : Simulates rule (breakerKeys ctx rule) s m) :
    runStorage ctx rule uuids ms s = SlidingBreaker.run rule ms s.now m := by
  induction ms generalizing s m with
  | nil => rfl
  | cons move ms ih =>
      cases move with
      | tick t =>
          rw [runStorage, SlidingBreaker.run]
          exact ih (h.tick t)
      | call c =>
          obtain ⟨reply, s', heval, hnow, hseen, hsim⟩ := simulates_step uuids h c
          rw [runStorage, heval, SlidingBreaker.run]
          dsimp only
          rw [hseen, hsim.openUntil_eq, ih hsim, hnow]

/-- **The stored windows are a sliding log.**  From empty windows on, in every
run, the storage shows the counts and the openings of the breaker that
remembers every outcome. -/
theorem runStorage_eq (ctx : Ctx K) (rule : CircuitBreakerRule K) (uuids : UuidSource)
    (ms : List (StorageMove K)) (s : HostState K) (openUntil : Option K) :
    runStorage ctx rule uuids ms (s.reset (breakerKeys ctx rule) openUntil) =
      SlidingBreaker.run rule ms s.now ⟨[], openUntil.getD 0⟩ :=
  runStorage_of_simulates uuids ms (simulates_reset s openUntil)

end Simulation

theorem orderBreaker_ne : "order" ≠ "" := by decide

/-- A breaker that opens at one failure in two requests. -/
def halfRule : CircuitBreakerRule ℚ where
  resource := "order"
  failureRateThreshold := 1 / 2
  minRequestCount := 2
  windowSeconds := 10
  openTimeoutSeconds := 8
  resource_ne := orderBreaker_ne
  failureRateThreshold_mem := defaultSettings.breakerFailureRateThreshold_mem
  minRequestCount_pos := by decide
  windowSeconds_pos := defaultSettings.breakerWindowSec_pos
  openTimeoutSeconds_pos := defaultSettings.breakerOpenSec_pos

/-- It opens at the second request, and at 10 s the outcome of 0 s is not in the
window any more. -/
theorem runStorage_halfRule :
    runStorage defaultCtx halfRule .unary
        [.call (.record .success), .tick 4, .call (.record .failure), .tick 10,
          .call .snapshot, .call .close]
        (HostState.reset ⟨fun _ => none, 0, []⟩ (breakerKeys defaultCtx halfRule) none) =
      [⟨.recorded false 0 1, 0⟩, ⟨.recorded true 1 2, 12⟩, ⟨.counted 1 1, 12⟩, ⟨.closed, 0⟩] :=
  (runStorage_eq defaultCtx halfRule .unary _ ⟨fun _ => none, 0, []⟩ none).trans
    (by decide +kernel)

end ChaosDemo
