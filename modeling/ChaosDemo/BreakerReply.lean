/-
ChaosDemo/BreakerReply.lean

What `_record_outcome` says about the state it leaves.  The script computes the counts of
the window, the failure rate and `open_until`, and returns all of them; `snapshot` and
`get_open_until` compute or read the same numbers a second time.  The two agree on the
counts.  The rate and `open_until` go through a script's reply, and Redis turns every
number of a reply into an integer:

    reply.failure_rate = trunc (snapshot().failure_rate)
    reply.open_until   = trunc (get_open_until())

So they agree where the two are whole numbers (`recordOutcome_agrees_iff`): the requests
in the window divide the failures among them, and so does the second at which the breaker
opens, or until which it was open before.

Nothing is assumed of the windows.  The clock of the caller may differ from the server's,
which decides what has expired.
-/
import Mathlib.Tactic.FieldSimp
import ChaosDemo.SlidingBreaker

set_option linter.unusedSectionVars false

namespace ChaosDemo

open CallTree Keyspace SlidingLog

variable {K : Type} [Field K] [LinearOrder K] [IsStrictOrderedRing K] [FloorRing K]

/-! ### A caller whose clock shows `now` -/

/-- Every call succeeds at its first attempt, and the clock shows `now`. -/
def HostState.clocked (now : K) (uuids : UuidSource) (s : HostState K) :
    (o : HostOp K) → Except Exc o.Ret × HostState K
  | .time => (.ok now, s)
  | o => s.nominal uuids o

/-- The result says what `snapshot` and `get_open_until` say in the state `s`, at the same
time. -/
def Agrees (ctx : Ctx K) (rule : CircuitBreakerRule K) (uuids : UuidSource) (now : K)
    (s : HostState K) (result : CircuitRecordResult K) : Prop :=
  ((snapshotBreaker ctx rule).eval (HostState.clocked now uuids) s).1 = .ok result.snapshot ∧
    ((getOpenUntil ctx rule).eval (HostState.clocked now uuids) s).1 = .ok result.openUntil

/-- A whole number. -/
def Whole (x : K) : Prop := ∃ n : ℤ, x = n

theorem whole_iff {x : K} : Whole x ↔ ((pyInt x : ℤ) : K) = x := by
  constructor
  · rintro ⟨n, rfl⟩
    rw [pyInt_intCast]
  · intro h
    exact ⟨pyInt x, h.symm⟩

/-- A rate is a whole number when the total divides the failures. -/
theorem whole_failureRate {failures totals : ℕ} (h : 0 < totals) :
    Whole (failureRate failures totals : K) ↔ totals ∣ failures := by
  have hne : (totals : K) ≠ 0 := by
    exact_mod_cast h.ne'
  rw [failureRate, if_pos h]
  constructor
  · rintro ⟨n, hn⟩
    rw [div_eq_iff hne] at hn
    have hint : (failures : ℤ) = n * totals := by exact_mod_cast hn
    exact Int.natCast_dvd_natCast.mp ⟨n, by rw [hint, mul_comm]⟩
  · rintro ⟨m, rfl⟩
    refine ⟨m, ?_⟩
    push_cast
    rw [mul_div_cancel_left₀ _ hne]

/-! ### The windows before the call -/

/-- What a window shows at time `now`. -/
def HostState.shown (s : HostState K) (rule : CircuitBreakerRule K) (keys : BreakerKeys) (now : K)
    (w : Window) : ZSet Member K :=
  SlidingLog.trim (now - (rule.windowSeconds : K)) (members s.now (s.data (.window w keys)))

/-- How many members it shows besides the one with this uuid. -/
def HostState.others (s : HostState K) (rule : CircuitBreakerRule K) (keys : BreakerKeys) (now : K)
    (w : Window) (hex : String) : ℕ :=
  ((s.shown rule keys now w).filter fun x => x.1 ≠ ⟨w, hex⟩).length

/-- The requests in the window, with the one that is being recorded. -/
def HostState.requestsWith (s : HostState K) (rule : CircuitBreakerRule K) (keys : BreakerKeys)
    (now : K) (uuids : UuidSource) : ℕ :=
  s.others rule keys now .totals (uuids.next s.used) + 1

/-- The failures among them. -/
def HostState.failuresWith (s : HostState K) (rule : CircuitBreakerRule K) (keys : BreakerKeys)
    (now : K) (uuids : UuidSource) : Action → ℕ
  | .success => (s.shown rule keys now .failures).length
  | .failure =>
      s.others rule keys now .failures (uuids.next (uuids.next s.used :: s.used)) + 1

/-- Whether this outcome opens the breaker: there are enough requests, enough of them have
failed, and it is not open. -/
def HostState.opens (s : HostState K) (rule : CircuitBreakerRule K) (keys : BreakerKeys) (now : K)
    (uuids : UuidSource) (action : Action) : Prop :=
  rule.minRequestCount ≤ s.requestsWith rule keys now uuids ∧
    rule.failureRateThreshold ≤ failureRate (s.failuresWith rule keys now uuids action)
      (s.requestsWith rule keys now uuids) ∧
    s.openUntil keys ≤ now

instance (s : HostState K) (rule : CircuitBreakerRule K) (keys : BreakerKeys) (now : K)
    (uuids : UuidSource) (action : Action) : Decidable (s.opens rule keys now uuids action) :=
  inferInstanceAs (Decidable (_ ∧ _ ∧ _))

/-- No fraction is lost in the reply. -/
structure Integral (s : HostState K) (rule : CircuitBreakerRule K) (keys : BreakerKeys) (now : K)
    (uuids : UuidSource) (action : Action) : Prop where
  rate : s.requestsWith rule keys now uuids ∣ s.failuresWith rule keys now uuids action
  opening : s.opens rule keys now uuids action → Whole now
  standing : ¬ s.opens rule keys now uuids action → Whole (s.openUntil keys)

/-! ### What the calls do -/

section Calls

variable {ctx : Ctx K} {rule : CircuitBreakerRule K} {keys : BreakerKeys} {uuids : UuidSource}
  {now : K} {s : HostState K} {action : Action}

/-- The outcome `_record_outcome` records in state `s` when its clock shows `now`. -/
def HostState.recordedAt (s : HostState K) (now : K) (uuids : UuidSource) (action : Action) :
    Recorded K :=
  { s.nextRecorded uuids action with time := now }

theorem eval_recordOutcome_clocked (action : Action) :
    (recordOutcome ctx rule action).eval (HostState.clocked now uuids) s =
      (.ok (circuitBreakerLua s.now s.data (breakerKeys ctx rule)
          ((s.recordedAt now uuids action).args rule)).1.result,
        { data := (circuitBreakerLua s.now s.data (breakerKeys ctx rule)
            ((s.recordedAt now uuids action).args rule)).2
          now := s.now
          used := s.usedBy uuids action }) := by
  cases action with
  | success => rfl
  | failure => rfl

theorem eval_getOpenUntil_clocked :
    (getOpenUntil ctx rule).eval (HostState.clocked now uuids) s =
      (.ok (s.openUntil (breakerKeys ctx rule)), s) := by
  rw [getOpenUntil, readKey, Prog.eval_bind_ok (eval_execute_ok rfl)]
  rfl

/-- What `snapshot` leaves when its clock shows `now`. -/
def HostState.trimmedAt (s : HostState K) (rule : CircuitBreakerRule K) (keys : BreakerKeys)
    (now : K) : HostState K :=
  (s.trim .failures keys (now - rule.windowSeconds)).trim .totals keys (now - rule.windowSeconds)

/-- A snapshot counts what the windows show. -/
theorem members_trimmedAt (w : Window) :
    members s.now (windowsOf (s.trimmedAt rule keys now).data keys w) =
      s.shown rule keys now w := by
  rw [HostState.shown, ← members_trimSlot, windowsOf, HostState.trimmedAt, HostState.trim,
    HostState.trim]
  dsimp only
  cases w with
  | failures => rw [Store.write_of_ne (by simp), Store.write_self]
  | totals => rw [Store.write_self, Store.write_of_ne (by simp)]

/-- The counts and the rate that a state shows. -/
def HostState.counts (s : HostState K) (rule : CircuitBreakerRule K) (keys : BreakerKeys)
    (now : K) : CircuitWindowSnapshot K :=
  windowSnapshot s.now (windowsOf (s.trimmedAt rule keys now).data keys)

theorem eval_snapshotBreaker_clocked :
    ((snapshotBreaker ctx rule).eval (HostState.clocked now uuids) s).1 =
      .ok (s.counts rule (breakerKeys ctx rule) now) := by
  have htime : (Host.time : Host K K).eval (HostState.clocked now uuids) s = (.ok now, s) := rfl
  have htrim : ∀ (s : HostState K) (w : Window) (cutoff : K),
      (Host.redis (.zremrangebyscore w (breakerKeys ctx rule) cutoff)).eval
        (HostState.clocked now uuids) s = (.ok (), s.trim w (breakerKeys ctx rule) cutoff) :=
    fun _ _ _ => rfl
  have hcard : ∀ (s : HostState K) (w : Window),
      (Host.redis (.zcard w (breakerKeys ctx rule))).eval (HostState.clocked now uuids) s =
        (.ok (members s.now (windowsOf s.data (breakerKeys ctx rule) w)).length, s) :=
    fun _ _ => rfl
  simp only [snapshotBreaker]
  rw [Prog.eval_bind_ok htime, Prog.eval_bind_ok (htrim _ _ _), Prog.eval_bind_ok (htrim _ _ _),
    Prog.eval_bind_ok (hcard _ _), Prog.eval_bind_ok (hcard _ _)]
  rfl

/-! ### What the script leaves -/

/-- What the windows show once the outcome is in. -/
def HostState.shownWith (s : HostState K) (rule : CircuitBreakerRule K) (keys : BreakerKeys)
    (r : Recorded K) : Window → ZSet Member K
  | .totals => add r.time ⟨.totals, r.totalHex⟩ (s.shown rule keys r.time .totals)
  | .failures =>
      match r.action with
      | .success => s.shown rule keys r.time .failures
      | .failure => add r.time ⟨.failures, r.failureHex⟩ (s.shown rule keys r.time .failures)

/-- A slot that was just written is there. -/
theorem members_addSlot (rule : CircuitBreakerRule K) (score : K) (m : Member)
    (slot : Option (Timed (ZSet Member K) K)) :
    members s.now (addSlot s.now (s.now + ((rule.windowSeconds + 2 : ℤ) : K)) score m slot) =
      add score m (members s.now slot) := by
  have httl : (0 : K) < ((rule.windowSeconds + 2 : ℤ) : K) :=
    lt_of_lt_of_le (window_pos rule) (window_le_ttl rule)
  rw [addSlot, members_some, if_pos (alive_some.mpr (lt_add_of_pos_right _ httl))]

theorem members_addOutcome (r : Recorded K) (w : Window) :
    members s.now (addOutcome s.now s.data keys (r.args rule) (.window w keys)) =
      s.shownWith rule keys r w := by
  rcases r with ⟨action, time, totalHex, failureHex⟩
  cases w with
  | totals =>
      rw [addOutcome, Store.write_self, HostState.shownWith, HostState.shown, ← members_trimSlot,
        ← members_addSlot rule]
      rfl
  | failures =>
      rw [addOutcome, Store.write_of_ne (by simp), Store.write_self]
      cases action with
      | success => exact members_trimSlot
      | failure =>
          show members s.now (addSlot s.now (s.now + ((rule.windowSeconds + 2 : ℤ) : K)) time
            ⟨.failures, failureHex⟩ (trimSlot s.now (time - rule.windowSeconds)
              (s.data (.window .failures keys)))) = _
          rw [members_addSlot, members_trimSlot]
          rfl

/-- Trimming again at the same time drops nothing. -/
theorem trim_shownWith (r : Recorded K) (w : Window) :
    SlidingLog.trim (r.time - (rule.windowSeconds : K)) (s.shownWith rule keys r w) =
      s.shownWith rule keys r w := by
  have hshown : ∀ w, SlidingLog.trim (r.time - (rule.windowSeconds : K))
      (s.shown rule keys r.time w) = s.shown rule keys r.time w :=
    fun w => trim_trim le_rfl _
  have hadd : ∀ (m : Member) (w : Window), SlidingLog.trim (r.time - (rule.windowSeconds : K))
      (add r.time m (s.shown rule keys r.time w)) = add r.time m (s.shown rule keys r.time w) := by
    intro m w
    rw [add, trim_cons, if_pos (sub_lt_self _ (window_pos rule)), SlidingLog.trim,
      List.filter_comm]
    exact congrArg (fun z => (m, r.time) :: z.filter fun x => x.1 ≠ m) (hshown w)
  rw [HostState.shownWith.eq_def]
  split
  · exact hadd _ _
  · split
    · exact hshown _
    · exact hadd _ _

/-- The state after the script. -/
def HostState.recorded (s : HostState K) (rule : CircuitBreakerRule K) (keys : BreakerKeys)
    (now : K) (uuids : UuidSource) (action : Action) : HostState K where
  data := (circuitBreakerLua s.now s.data keys ((s.recordedAt now uuids action).args rule)).2
  now := s.now
  used := s.usedBy uuids action

/-- What the script computes, before anything is made an integer. -/
theorem circuitBreakerLua_recorded :
    circuitBreakerLua s.now s.data keys ((s.recordedAt now uuids action).args rule) =
      if s.opens rule keys now uuids action then
        (⟨1, s.failuresWith rule keys now uuids action, s.requestsWith rule keys now uuids,
            pyInt (failureRate (s.failuresWith rule keys now uuids action)
              (s.requestsWith rule keys now uuids) : K),
            pyInt (now + (rule.openTimeoutSeconds : K))⟩,
          Store.put (addOutcome s.now s.data keys ((s.recordedAt now uuids action).args rule))
            (.openUntil keys) (now + (rule.openTimeoutSeconds : K)) none)
      else
        (⟨0, s.failuresWith rule keys now uuids action, s.requestsWith rule keys now uuids,
            pyInt (failureRate (s.failuresWith rule keys now uuids action)
              (s.requestsWith rule keys now uuids) : K), pyInt (s.openUntil keys)⟩,
          addOutcome s.now s.data keys ((s.recordedAt now uuids action).args rule)) := by
  have htotals : (members s.now (addOutcome s.now s.data keys
      ((s.recordedAt now uuids action).args rule) (.window .totals keys))).length =
        s.requestsWith rule keys now uuids := by
    rw [members_addOutcome]
    rfl
  have hfailures : (members s.now (addOutcome s.now s.data keys
      ((s.recordedAt now uuids action).args rule) (.window .failures keys))).length =
        s.failuresWith rule keys now uuids action := by
    rw [members_addOutcome]
    cases action <;> rfl
  have hopen : (Store.lookup (addOutcome s.now s.data keys
      ((s.recordedAt now uuids action).args rule)) s.now (.openUntil keys)).getD 0 =
        s.openUntil keys := by
    rw [Store.lookup, addOutcome_openUntil]
    rfl
  rw [circuitBreakerLua]
  dsimp only
  rw [hfailures, htotals, hopen]
  rfl

/-- `open_until` after the script. -/
theorem openUntil_recorded : (s.recorded rule keys now uuids action).openUntil keys =
    if s.opens rule keys now uuids action then now + (rule.openTimeoutSeconds : K)
    else s.openUntil keys := by
  rw [HostState.openUntil, HostState.recorded, circuitBreakerLua_recorded, Store.lookup]
  split
  · dsimp only
    rw [Store.put_self]
    rfl
  · dsimp only
    rw [addOutcome_openUntil]
    rfl

/-- The windows after the script, seen at the same time. -/
theorem shown_recorded (w : Window) :
    (s.recorded rule keys now uuids action).shown rule keys now w =
      s.shownWith rule keys (s.recordedAt now uuids action) w := by
  have hwindow : (s.recorded rule keys now uuids action).data (.window w keys) =
      addOutcome s.now s.data keys ((s.recordedAt now uuids action).args rule)
        (.window w keys) := by
    rw [HostState.recorded, circuitBreakerLua_recorded]
    split
    · dsimp only
      rw [Store.put_of_ne (by simp)]
    · rfl
  rw [HostState.shown, hwindow]
  show SlidingLog.trim _ (members s.now _) = _
  rw [members_addOutcome]
  exact trim_shownWith (s.recordedAt now uuids action) w

/-- The counts after the script are those it has counted. -/
theorem counts_recorded : (s.recorded rule keys now uuids action).counts rule keys now =
    ⟨s.failuresWith rule keys now uuids action, s.requestsWith rule keys now uuids,
      failureRate (s.failuresWith rule keys now uuids action)
        (s.requestsWith rule keys now uuids)⟩ := by
  have htotals : (members (s.recorded rule keys now uuids action).now (windowsOf
      ((s.recorded rule keys now uuids action).trimmedAt rule keys now).data keys
      .totals)).length = s.requestsWith rule keys now uuids := by
    rw [members_trimmedAt, shown_recorded]
    rfl
  have hfailures : (members (s.recorded rule keys now uuids action).now (windowsOf
      ((s.recorded rule keys now uuids action).trimmedAt rule keys now).data keys
      .failures)).length = s.failuresWith rule keys now uuids action := by
    rw [members_trimmedAt, shown_recorded]
    cases action <;> rfl
  rw [HostState.counts, windowSnapshot, hfailures, htotals]

/-- **What the result says**: the counts that the state shows, the rest without its
fraction. -/
theorem recordOutcome_result (ctx : Ctx K) (rule : CircuitBreakerRule K) (uuids : UuidSource)
    (now : K) (s : HostState K) (action : Action) :
    let s' := s.recorded rule (breakerKeys ctx rule) now uuids action
    let counts := s'.counts rule (breakerKeys ctx rule) now
    (recordOutcome ctx rule action).eval (HostState.clocked now uuids) s =
      (.ok ⟨s.opens rule (breakerKeys ctx rule) now uuids action,
        (pyInt (s'.openUntil (breakerKeys ctx rule)) : ℤ),
        { counts with failureRate := (pyInt counts.failureRate : ℤ) }⟩, s') := by
  intro s' counts
  rw [eval_recordOutcome_clocked]
  refine Prod.ext ?_ rfl
  show Except.ok (ScriptReply.result _) = Except.ok _
  rw [circuitBreakerLua_recorded, show counts = _ from counts_recorded,
    show s'.openUntil (breakerKeys ctx rule) = _ from openUntil_recorded]
  by_cases hopens : s.opens rule (breakerKeys ctx rule) now uuids action
  · rw [if_pos hopens, if_pos hopens]
    simp [ScriptReply.result, hopens]
  · rw [if_neg hopens, if_neg hopens]
    simp [ScriptReply.result, hopens]

/-- The result agrees with the state it leaves just when no fraction is lost. -/
theorem agrees_iff_whole (ctx : Ctx K) (rule : CircuitBreakerRule K) (uuids : UuidSource)
    (now : K) (s : HostState K) (opened : Bool) :
    Agrees ctx rule uuids now s ⟨opened, (pyInt (s.openUntil (breakerKeys ctx rule)) : ℤ),
        { s.counts rule (breakerKeys ctx rule) now with
          failureRate := (pyInt (s.counts rule (breakerKeys ctx rule) now).failureRate : ℤ) }⟩ ↔
      Whole (s.counts rule (breakerKeys ctx rule) now).failureRate ∧
        Whole (s.openUntil (breakerKeys ctx rule)) := by
  rw [Agrees, eval_snapshotBreaker_clocked, eval_getOpenUntil_clocked, whole_iff, whole_iff]
  generalize s.counts rule (breakerKeys ctx rule) now = counts
  rcases counts with ⟨failures, requests, rate⟩
  constructor
  · rintro ⟨hsnapshot, hopen⟩
    have hrate := congrArg CircuitWindowSnapshot.failureRate (Except.ok.inj hsnapshot)
    exact ⟨hrate.symm, (Except.ok.inj hopen).symm⟩
  · rintro ⟨hrate, hopen⟩
    dsimp only at hrate ⊢
    rw [hrate, hopen]
    exact ⟨rfl, rfl⟩

/-- **Exactly when the result agrees with the snapshot and the stored state**: when no
fraction is lost in the reply of the script. -/
theorem recordOutcome_agrees_iff (ctx : Ctx K) (rule : CircuitBreakerRule K) (uuids : UuidSource)
    (now : K) (s : HostState K) (action : Action) :
    ∃ result s', (recordOutcome ctx rule action).eval (HostState.clocked now uuids) s =
        (.ok result, s') ∧
      (Agrees ctx rule uuids now s' result ↔
        Integral s rule (breakerKeys ctx rule) now uuids action) := by
  refine ⟨_, _, recordOutcome_result ctx rule uuids now s action, ?_⟩
  have hpos : 0 < s.requestsWith rule (breakerKeys ctx rule) now uuids := Nat.succ_pos _
  rw [agrees_iff_whole, counts_recorded, openUntil_recorded]
  dsimp only
  rw [whole_failureRate hpos]
  constructor
  · rintro ⟨hrate, hopen⟩
    refine ⟨hrate, fun hopens => ?_, fun hopens => ?_⟩
    · -- the time out is a number of seconds
      rw [if_pos hopens] at hopen
      obtain ⟨n, hn⟩ := hopen
      exact ⟨n - rule.openTimeoutSeconds, by rw [Int.cast_sub, ← hn, add_sub_cancel_right]⟩
    · rwa [if_neg hopens] at hopen
  · rintro ⟨hrate, hopening, hstanding⟩
    refine ⟨hrate, ?_⟩
    split
    · next hopens =>
        obtain ⟨n, hn⟩ := hopening hopens
        exact ⟨n + rule.openTimeoutSeconds, by rw [Int.cast_add, hn]⟩
    · next hopens => exact hstanding hopens

end Calls

/-! ### One failure of two -/

/-- One request succeeded a second ago. -/
def oneSuccess : HostState ℚ where
  data := Store.put (fun _ => none) (.window .totals .legacy) [(⟨.totals, "u"⟩, 99)] (some 200)
  now := 100
  used := ["u"]

/-- The next one succeeds too: none of two is a whole rate. -/
theorem recordOutcome_agrees_success :
    ∃ result s', (recordOutcome defaultCtx (buildDefaultRule defaultCtx) .success).eval
        (HostState.clocked 100 .unary) oneSuccess = (.ok result, s') ∧
      Agrees defaultCtx (buildDefaultRule defaultCtx) .unary 100 s' result := by
  obtain ⟨result, s', heval, hagrees⟩ := recordOutcome_agrees_iff defaultCtx
    (buildDefaultRule defaultCtx) .unary 100 oneSuccess .success
  have hkeys : breakerKeys defaultCtx (buildDefaultRule defaultCtx) = .legacy := by decide +kernel
  refine ⟨result, s', heval, hagrees.mpr ?_⟩
  rw [hkeys]
  refine ⟨by decide +kernel, fun _ => ⟨100, by norm_num⟩, fun _ => ⟨0, by decide +kernel⟩⟩

/-- The next one fails: half of the requests have failed, and the result says that none has. -/
theorem not_agrees_half : ¬ ∀ (ctx : Ctx ℚ) (rule : CircuitBreakerRule ℚ) (uuids : UuidSource)
    (now : ℚ) (s : HostState ℚ) (action : Action), ∃ result s',
      (recordOutcome ctx rule action).eval (HostState.clocked now uuids) s = (.ok result, s') ∧
        Agrees ctx rule uuids now s' result := by
  intro hall
  obtain ⟨result, s', heval, hagrees⟩ :=
    hall defaultCtx (buildDefaultRule defaultCtx) .unary 100 oneSuccess .failure
  have hkeys : breakerKeys defaultCtx (buildDefaultRule defaultCtx) = .legacy := by decide +kernel
  rw [recordOutcome_result] at heval
  obtain ⟨hresult, rfl⟩ := Prod.ext_iff.mp heval
  obtain rfl := Except.ok.inj hresult
  obtain ⟨hrate, -⟩ := (agrees_iff_whole ..).mp hagrees
  rw [counts_recorded, hkeys] at hrate
  have hrequests : oneSuccess.requestsWith (buildDefaultRule defaultCtx) .legacy 100 .unary = 2 := by
    decide +kernel
  have hfailures :
      oneSuccess.failuresWith (buildDefaultRule defaultCtx) .legacy 100 .unary .failure = 1 := by
    decide +kernel
  dsimp only at hrate
  rw [hrequests, hfailures, whole_failureRate two_pos] at hrate
  revert hrate
  decide

end ChaosDemo
