/-
ChaosDemo/RateDecisions.lean

Calls of one limiter one after the other: the decisions are those of the admission
rule, and what the rule says about any interval follows.

For the sliding window the sorted set represents the log of the admitted requests
(`Represents`, ChaosDemo/SlidingLog.lean).  For the fixed window every bucket's
counter holds the number of its requests under a deadline past its end, so the key
of a bucket cannot expire while a request can still fall into it.
-/
import ChaosDemo.RateLimiter

set_option linter.unusedSectionVars false

namespace ChaosDemo

open CallTree Keyspace SlidingLog Admission RedisBackend

variable {K : Type} [Field K] [LinearOrder K] [IsStrictOrderedRing K] [FloorRing K]

/-! ### The admission rules -/

/-- Fewer than `limit` admitted requests have a time in `(now - window, now]`. -/
def slidingRule (limit : ℤ) (window : K) (h : History K) (now : K) : Bool :=
  decide (((h.countP fun c => c.2 && decide (now - window < c.1 ∧ c.1 ≤ now) : ℕ) : ℤ) < limit)

/-- Fewer than `limit` requests fell into the bucket of `now`. -/
def fixedRule (rule : RateLimitRule K) (h : History K) (now : K) : Bool :=
  decide (((h.countP fun c => decide (bucket rule c.1 = bucket rule now) : ℕ) : ℤ) < rule.limit)

theorem slidingRule_ignoresRejected (limit : ℤ) (window : K) :
    IgnoresRejected (slidingRule limit window) := by
  intro newer t older
  funext now
  rw [slidingRule, slidingRule, List.countP_append, List.countP_append,
    List.countP_cons_of_neg (by simp)]

/-! ### The sliding window -/

/-- The set of the key represents the log of the admitted requests, under uuids that
were handed out. -/
structure SlidingInv (rule : RateLimitRule K) (key : String) (s : LimiterState K) (h : History K) :
    Prop where
  represents : ∃ log : ZSet String K, Represents rule.window s.now (s.data (.zset key)) log ∧
    log.map Prod.snd = (h.filter fun c => c.2).map Prod.fst
  issued : Among (fun m => m ∈ s.used) (s.data (.zset key))

section Sliding

variable {uuids : UuidSource} {backend : RedisBackend} {rule : RateLimitRule K}
  {subjectId key : String} {s : LimiterState K} {h : History K} {t : K}

/-- What the rule counts is what a trim leaves of the log. -/
theorem slidingRule_eq (limit : ℤ) {window now : K} {slot : Option (Timed (ZSet String K) K)}
    {log : ZSet String K} (hrep : Represents window now slot log)
    (hlog : log.map Prod.snd = (h.filter fun c => c.2).map Prod.fst) :
    slidingRule limit window h now =
      decide (((trim (now - window) log).length : ℤ) < limit) := by
  have hcount : (h.countP fun c => c.2 && decide (now - window < c.1 ∧ c.1 ≤ now)) =
      (trim (now - window) log).length := by
    calc (h.countP fun c => c.2 && decide (now - window < c.1 ∧ c.1 ≤ now))
        = ((h.filter fun c => c.2).map Prod.fst).countP
            fun u => decide (now - window < u ∧ u ≤ now) := by
          rw [List.countP_map, List.countP_filter]
          refine List.countP_congr fun c _ => ?_
          simp [and_comm]
      _ = log.countP fun x => decide (now - window < x.2 ∧ x.2 ≤ now) := by
          rw [← hlog, List.countP_map]
          rfl
      _ = log.countP fun x => decide (now - window < x.2) := by
          refine List.countP_congr fun x hx => ?_
          simp [hrep.past x hx]
      _ = (trim (now - window) log).length := List.countP_eq_length_filter
  rw [slidingRule, hcount]

theorem SlidingInv.tick (hinv : SlidingInv rule key s h) (hle : s.now ≤ t) :
    SlidingInv rule key { s with now := t } h := by
  obtain ⟨log, hrep, hlog⟩ := hinv.represents
  exact ⟨⟨log, hrep.mono hle, hlog⟩, hinv.issued⟩

/-- One call decides as the rule does. -/
theorem SlidingInv.call (uuids : UuidSource)
    (hinv : SlidingInv rule (backend.buildBaseKey rule subjectId) s h) : ∃ decision s',
      (backend.allowSliding rule subjectId).eval (LimiterState.nominal uuids) s =
        (.ok decision, s') ∧
      decision.allowed = slidingRule rule.limit rule.window h s.now ∧ s'.now = s.now ∧
      SlidingInv rule (backend.buildBaseKey rule subjectId) s' ((s.now, decision.allowed) :: h) := by
  obtain ⟨log, hrep, hlog⟩ := hinv.represents
  generalize hkey : backend.buildBaseKey rule subjectId = key at *
  have hmembers := hrep.members_trimSlot
  have htrimmed := hrep.trimSlot
  have hissued : Among (fun m => m ∈ s.used)
      (trimSlot s.now (s.now - rule.window) (s.data (.zset key))) := hinv.issued.trimSlot _
  have hrule := slidingRule_eq rule.limit hrep hlog
  have heval : (backend.allowSliding rule subjectId).eval (LimiterState.nominal uuids) s =
      (let out := slidingWindowLua s.now s.data key
        ⟨s.now, rule.window, rule.limit, uuids.next s.used, ttl rule⟩
      (.ok ⟨out.1 != 0, key, rule.algorithm, rule.resource, rule.dimension, false⟩,
        ⟨out.2, s.now, uuids.next s.used :: s.used⟩)) := by
    rw [allowSliding, hkey]
    rfl
  rw [heval, slidingWindowLua]
  dsimp only
  rw [Store.write_self, hmembers]
  by_cases hfull : rule.limit ≤ ((trim (s.now - rule.window) log).length : ℤ)
  · rw [if_pos hfull]
    have hno : slidingRule rule.limit rule.window h s.now = false := by
      rw [hrule, decide_eq_false (not_lt.mpr hfull)]
    refine ⟨_, _, rfl, hno.symm, rfl, ⟨log, ?_, hlog⟩, ?_⟩
    · dsimp only
      rw [Store.write_self]
      exact htrimmed
    · dsimp only
      rw [Store.write_self]
      exact hissued.mono fun m hm => List.mem_cons_of_mem _ hm
  · rw [if_neg hfull]
    have hyes : slidingRule rule.limit rule.window h s.now = true := by
      rw [hrule, decide_eq_true (not_le.mp hfull)]
    have hfresh : ∀ x ∈ members s.now (trimSlot s.now (s.now - rule.window) (s.data (.zset key))),
        x.1 ≠ uuids.next s.used := by
      intro x hx heq
      exact uuids.fresh s.used (heq ▸ hissued.members hx)
    refine ⟨_, _, rfl, hyes.symm, rfl, ⟨(uuids.next s.used, s.now) :: log, ?_, ?_⟩, ?_⟩
    · dsimp only
      rw [Store.write_self]
      exact htrimmed.add (window_lt_ttl rule).le hfresh
    · show s.now :: log.map Prod.snd = s.now :: (h.filter fun c => c.2).map Prod.fst
      rw [hlog]
    · dsimp only
      rw [Store.write_self]
      exact (hissued.mono fun m hm => List.mem_cons_of_mem _ hm).addSlot List.mem_cons_self _ _

/-- The history of calls at times that do not decrease is the rule's. -/
theorem callsAt_sliding (uuids : UuidSource) {ts : List K} (hsorted : ts.Pairwise (· ≤ ·))
    (hnow : ∀ t ∈ ts, s.now ≤ t)
    (hinv : SlidingInv rule (backend.buildBaseKey rule subjectId) s h) :
    (callsAt uuids (backend.allowSliding rule subjectId) ts (s, h)).2 =
      run (slidingRule rule.limit rule.window) ts h := by
  induction ts generalizing s h with
  | nil => rfl
  | cons t ts ih =>
      obtain ⟨hfirst, hrest⟩ := List.pairwise_cons.mp hsorted
      obtain ⟨decision, s', heval, hdecision, hs', hinv'⟩ :=
        (hinv.tick (hnow t List.mem_cons_self)).call uuids
      rw [callsAt, heval, run_cons]
      dsimp only at hdecision hs' hinv' ⊢
      rw [← hdecision]
      apply ih hrest
      · intro t' ht'
        rw [hs']
        exact hfirst t' ht'
      · exact hinv'

end Sliding

/-- What a sliding window promises of a history. -/
structure SlidingExact (limit : ℤ) (window : K) (h : History K) : Prop where
  /-- A call is allowed exactly if fewer than `limit` earlier allowed calls have a
  time in `(now - window, now]`. -/
  exact : ∀ newer now allowed older, h = newer ++ (now, allowed) :: older →
    (allowed = true ↔
      ((older.countP fun c => c.2 && decide (now - window < c.1 ∧ c.1 ≤ now) : ℕ) : ℤ) < limit)
  /-- An interval `(a, a + window]` holds at most `limit` allowed calls. -/
  upper : ∀ a, ((h.countP fun c => c.2 && decide (a < c.1 ∧ c.1 ≤ a + window) : ℕ) : ℤ) ≤ limit
  /-- So does an interval `[a, a + window)`. -/
  lower : ∀ a, ((h.countP fun c => c.2 && decide (a ≤ c.1 ∧ c.1 < a + window) : ℕ) : ℤ) ≤ limit

/-- A history of the rule, at times that do not decrease, keeps the promise. -/
theorem slidingExact_of_ruled {limit : ℤ} {window : K} {h : History K} (hlimit : 0 ≤ limit)
    (hruled : Ruled (slidingRule limit window) h)
    (hsorted : (h.map Prod.fst).Pairwise (· ≥ ·)) : SlidingExact limit window h := by
  have hexact : ∀ newer now allowed older, h = newer ++ (now, allowed) :: older →
      (allowed = true ↔
        ((older.countP fun c => c.2 && decide (now - window < c.1 ∧ c.1 ≤ now) : ℕ) : ℤ) <
          limit) := by
    intro newer now allowed older hsplit
    rw [hruled newer now allowed older hsplit, slidingRule, decide_eq_true_iff]
  -- the last allowed call of an interval has all the others in its window
  have hbound : ∀ p : K → Bool, (∀ x y, p x = true → p y = true → y - window < x) →
      ((h.countP fun c => c.2 && p c.1 : ℕ) : ℤ) ≤ limit := by
    intro p hp
    apply countP_le hlimit
    rintro newer ⟨now, allowed⟩ older hsplit hc
    obtain ⟨rfl, hnow⟩ : allowed = true ∧ p now = true := by simpa using hc
    have hlt := (hexact newer now true older hsplit).mp rfl
    have hpast : ∀ c ∈ older, c.1 ≤ now := by
      intro c hc
      rw [hsplit, List.map_append, List.map_cons] at hsorted
      have hcons := (List.pairwise_append.mp hsorted).2.1
      exact (List.pairwise_cons.mp hcons).1 c.1 (List.mem_map_of_mem hc)
    have hle : (older.countP fun c => c.2 && p c.1) ≤
        older.countP fun c => c.2 && decide (now - window < c.1 ∧ c.1 ≤ now) := by
      refine List.countP_mono_left fun c hc hboth => ?_
      obtain ⟨hallowed, hin⟩ : c.2 = true ∧ p c.1 = true := by simpa using hboth
      simp [hallowed, hp c.1 now hin hnow, hpast c hc]
    omega
  refine ⟨hexact, fun a => ?_, fun a => ?_⟩
  · apply hbound fun x => decide (a < x ∧ x ≤ a + window)
    intro x y hx hy
    have hx' := of_decide_eq_true hx
    have hy' := of_decide_eq_true hy
    linarith [hx'.1, hy'.2]
  · apply hbound fun x => decide (a ≤ x ∧ x < a + window)
    intro x y hx hy
    have hx' := of_decide_eq_true hx
    have hy' := of_decide_eq_true hy
    linarith [hx'.1, hy'.2]

/-- **The sliding window is exact.**  For every rule, every subject and every
sequence of calls at times that do not decrease; and a call that is rejected
changes no later decision. -/
theorem slidingExact_calls (uuids : UuidSource) (backend : RedisBackend) (rule : RateLimitRule K)
    (subjectId : String) (s : LimiterState K)
    (hempty : s.data (.zset (backend.buildBaseKey rule subjectId)) = none)
    (times : List K) (hsorted : times.Pairwise (· ≤ ·)) :
    SlidingExact rule.limit rule.window
        (callsAt uuids (backend.allowSliding rule subjectId) times (s, [])).2 ∧
      ∀ before now after, times = before ++ now :: after →
        (callsAt uuids (backend.allowSliding rule subjectId) (before ++ [now]) (s, [])).2 =
          (now, false) ::
            (callsAt uuids (backend.allowSliding rule subjectId) before (s, [])).2 →
        ∃ later,
          (callsAt uuids (backend.allowSliding rule subjectId) times (s, [])).2 =
            later ++ (now, false) ::
              (callsAt uuids (backend.allowSliding rule subjectId) before (s, [])).2 ∧
          (callsAt uuids (backend.allowSliding rule subjectId) (before ++ after) (s, [])).2 =
            later ++ (callsAt uuids (backend.allowSliding rule subjectId) before (s, [])).2 := by
  -- the time of the start does not matter, as every call brings its own
  have hcalls : ∀ ts : List K, ts.Pairwise (· ≤ ·) →
      (callsAt uuids (backend.allowSliding rule subjectId) ts (s, [])).2 =
        run (slidingRule rule.limit rule.window) ts [] := by
    intro ts hts
    cases ts with
    | nil => rfl
    | cons t ts =>
        have hinv : SlidingInv rule (backend.buildBaseKey rule subjectId) { s with now := t } [] := by
          refine ⟨⟨[], ?_, rfl⟩, ?_⟩
          · show Represents rule.window t (s.data (.zset _)) []
            rw [hempty]
            exact .empty
          · show Among _ (s.data (.zset _))
            rw [hempty]
            exact .none
        apply callsAt_sliding (s := { s with now := t }) uuids hts _ hinv
        intro t' ht'
        rcases List.mem_cons.mp ht' with rfl | hmem
        · exact le_rfl
        · exact (List.pairwise_cons.mp hts).1 t' hmem
  refine ⟨?_, ?_⟩
  · rw [hcalls times hsorted]
    apply slidingExact_of_ruled rule.limit_nonneg (Ruled.nil.run times)
    rw [run_times, List.map_nil, List.append_nil, List.pairwise_reverse]
    exact hsorted
  · rintro before now after rfl hrejected
    obtain ⟨hbefore, hcons, hcross⟩ := List.pairwise_append.mp hsorted
    have hsub : (before ++ after).Pairwise (· ≤ ·) :=
      List.Pairwise.sublist (List.Sublist.append_left (List.sublist_cons_self now after) before)
        hsorted
    have hsnoc : (before ++ [now]).Pairwise (· ≤ ·) := by
      refine List.Pairwise.sublist ?_ hsorted
      apply List.Sublist.append_left
      exact List.singleton_sublist.mpr List.mem_cons_self
    rw [hcalls _ hsorted, hcalls _ hsub, hcalls _ hbefore]
    rw [hcalls _ hsnoc, hcalls _ hbefore, run_append] at hrejected
    have hfalse : slidingRule rule.limit rule.window
        (run (slidingRule rule.limit rule.window) before []) now = false :=
      (Prod.mk.inj (List.cons.inj hrejected).1).2
    rw [run_append, run_append, run_cons, hfalse]
    exact (slidingRule_ignoresRejected rule.limit rule.window).run now _ after []

/-- At most two in ten seconds. -/
def slidingTwo : RateLimitRule ℚ where
  resource := "order"
  algorithm := .sliding
  limit := 2
  window := 10
  dimension := "client_ip"
  limit_nonneg := by decide
  window_pos := by norm_num
  resource_ne := by decide
  dimension_ne := by decide

/-- The third call comes too early, the fourth when the first has just left the
window. -/
theorem slidingExact_slidingTwo :
    SlidingExact 2 10 (callsAt .unary
      ((⟨"chaos-demo"⟩ : RedisBackend).allowSliding slidingTwo "1.2.3.4") [1, 2, 5, 11, 12]
      (⟨fun _ => none, 0, []⟩, [])).2 ∧
    (callsAt .unary ((⟨"chaos-demo"⟩ : RedisBackend).allowSliding slidingTwo "1.2.3.4")
      [1, 2, 5, 11, 12] (⟨fun _ => none, 0, []⟩, [])).2 =
        [(12, true), (11, true), (5, false), (2, true), (1, true)] :=
  ⟨(slidingExact_calls .unary ⟨"chaos-demo"⟩ slidingTwo "1.2.3.4" ⟨fun _ => none, 0, []⟩ rfl
    [1, 2, 5, 11, 12] (by decide)).1, by decide +kernel⟩

/-! ### The fixed window -/

/-- The number of requests that fell into bucket `b`. -/
def bucketCount (rule : RateLimitRule K) (b : ℤ) (h : History K) : ℕ :=
  h.countP fun c => decide (bucket rule c.1 = b)

/-- A time lies in its bucket. -/
theorem mem_bucket (rule : RateLimitRule K) (t : K) :
    (bucket rule t : K) * rule.window ≤ t ∧ t < ((bucket rule t : K) + 1) * rule.window := by
  have hpos := rule.window_pos
  constructor
  · exact (le_div_iff₀ hpos).mp (Int.floor_le _)
  · exact (div_lt_iff₀ hpos).mp (Int.lt_floor_add_one _)

/-- Every bucket's counter is the number of its requests, under a deadline past the
end of the bucket. -/
def FixedInv (backend : RedisBackend) (rule : RateLimitRule K) (subjectId : String)
    (s : LimiterState K) (h : History K) : Prop :=
  ∀ b, (bucketCount rule b h = 0 → s.data (.counter (backend.bucketKey rule subjectId b)) = none) ∧
    (bucketCount rule b h ≠ 0 → ∃ d,
      s.data (.counter (backend.bucketKey rule subjectId b)) =
        some ⟨(bucketCount rule b h : ℤ), some d⟩ ∧ ((b : K) + 1) * rule.window ≤ d)

section Fixed

variable {uuids : UuidSource} {backend : RedisBackend} {rule : RateLimitRule K}
  {subjectId : String} {s : LimiterState K} {h : History K} {t : K}

/-- While a bucket lasts its counter is there. -/
theorem FixedInv.lookup (hinv : FixedInv backend rule subjectId s h) (t : K) :
    s.data.lookup t (.counter (backend.bucketKey rule subjectId (bucket rule t))) =
      if bucketCount rule (bucket rule t) h = 0 then none
      else some (bucketCount rule (bucket rule t) h : ℤ) := by
  obtain ⟨hnone, hsome⟩ := hinv (bucket rule t)
  by_cases hzero : bucketCount rule (bucket rule t) h = 0
  · rw [if_pos hzero, Store.lookup, hnone hzero]
    rfl
  · obtain ⟨d, hslot, hd⟩ := hsome hzero
    have halive : t < d := lt_of_lt_of_le (mem_bucket rule t).2 hd
    rw [if_neg hzero, Store.lookup, hslot, live_some, if_pos (alive_some.mpr halive)]

/-- One call decides as the rule does. -/
theorem FixedInv.call (uuids : UuidSource) (hinv : FixedInv backend rule subjectId s h) :
    ∃ decision s', (backend.allowFixed rule subjectId).eval (LimiterState.nominal uuids) s =
        (.ok decision, s') ∧ decision.allowed = fixedRule rule h s.now ∧
      FixedInv backend rule subjectId s' ((s.now, decision.allowed) :: h) := by
  set b := bucket rule s.now with hb
  set key := backend.bucketKey rule subjectId b with hkey
  set n := bucketCount rule b h with hn
  -- the counter shows one more than the requests of the bucket so far
  have hincr : (incr s.now (s.data (.counter key))).val = n + 1 ∧
      ∃ d, (if (incr s.now (s.data (.counter key))).val = 1 then some (s.now + (ttl rule : K))
        else (incr s.now (s.data (.counter key))).expireAt) = some d ∧
          ((b : K) + 1) * rule.window ≤ d := by
    obtain ⟨hlow, hhigh⟩ := mem_bucket rule s.now
    rw [← hb] at hlow hhigh
    obtain ⟨hnone, hsome⟩ := hinv b
    rw [← hn, ← hkey] at hnone hsome
    by_cases hzero : n = 0
    · have hcount : incr s.now (s.data (.counter key)) = ⟨1, none⟩ := by
        rw [hnone hzero]
        rfl
      rw [hcount, hzero]
      refine ⟨rfl, _, if_pos rfl, ?_⟩
      have httl := window_lt_ttl rule
      linarith
    · obtain ⟨d, hslot, hd⟩ := hsome hzero
      have halive : Timed.alive s.now (⟨(n : ℤ), some d⟩ : Timed ℤ K) = true :=
        alive_some.mpr (lt_of_lt_of_le hhigh hd)
      have hcount : incr s.now (s.data (.counter key)) = ⟨(n : ℤ) + 1, some d⟩ := by
        rw [hslot, incr, if_pos halive]
      have hone : ¬ ((n : ℤ) + 1 = 1) := by omega
      rw [hcount]
      exact ⟨rfl, d, if_neg hone, hd⟩
  obtain ⟨hval, d, hdeadline, hd⟩ := hincr
  have heval : (backend.allowFixed rule subjectId).eval (LimiterState.nominal uuids) s =
      (let out := fixedWindowLua s.now s.data key (ttl rule)
      (.ok ⟨decide (out.1 ≤ rule.limit), key, rule.algorithm, rule.resource, rule.dimension, false⟩,
        ⟨out.2, s.now, s.used⟩)) := by
    rw [allowFixed]
    rfl
  rw [heval, fixedWindowLua]
  dsimp only
  rw [hdeadline, hval]
  refine ⟨_, _, rfl, ?_, ?_⟩
  · show decide ((n : ℤ) + 1 ≤ rule.limit) = decide ((n : ℤ) < rule.limit)
    rfl
  · intro b'
    have hcount : ∀ admitted, bucketCount rule b' ((s.now, admitted) :: h) =
        bucketCount rule b' h + if b' = b then 1 else 0 := by
      intro admitted
      rw [bucketCount, List.countP_cons]
      congr 1
      by_cases heq : b' = b
      · rw [if_pos heq, if_pos (decide_eq_true (heq ▸ rfl))]
      · have hne : ¬ bucket rule s.now = b' := fun h => heq h.symm
        rw [if_neg heq, decide_eq_false hne]
        rfl
    dsimp only
    rw [hcount]
    by_cases heq : b' = b
    · subst heq
      rw [if_pos rfl]
      refine ⟨fun hzero => by omega, fun _ => ⟨d, ?_, hd⟩⟩
      rw [Store.put_self]
      push_cast
      rfl
    · rw [if_neg heq, Nat.add_zero, Store.put_of_ne]
      · exact hinv b'
      · intro hkeys
        exact heq (bucketKey_inj (LimiterKey.counter.inj hkeys))

theorem callsAt_fixed (uuids : UuidSource) (ts : List K)
    (hinv : FixedInv backend rule subjectId s h) :
    (callsAt uuids (backend.allowFixed rule subjectId) ts (s, h)).2 = run (fixedRule rule) ts h ∧
      FixedInv backend rule subjectId
        (callsAt uuids (backend.allowFixed rule subjectId) ts (s, h)).1
        (callsAt uuids (backend.allowFixed rule subjectId) ts (s, h)).2 := by
  induction ts generalizing s h with
  | nil => exact ⟨rfl, hinv⟩
  | cons t ts ih =>
      have htick : FixedInv backend rule subjectId { s with now := t } h := hinv
      obtain ⟨decision, s', heval, hdecision, hinv'⟩ := htick.call uuids
      rw [callsAt, heval, run_cons]
      dsimp only at hdecision hinv' ⊢
      rw [← hdecision]
      exact ih hinv'

end Fixed

/-- What a fixed window promises of a history. -/
structure FixedExact (rule : RateLimitRule K) (h : History K) : Prop where
  /-- A call is allowed exactly if fewer than `limit` calls came before it in its
  bucket. -/
  exact : ∀ newer now allowed older, h = newer ++ (now, allowed) :: older →
    (allowed = true ↔ (bucketCount rule (bucket rule now) older : ℤ) < rule.limit)
  /-- Of the calls of a bucket the first `min limit n` are allowed. -/
  allowed : ∀ b, ((h.countP fun c => c.2 && decide (bucket rule c.1 = b) : ℕ) : ℤ) =
    min rule.limit (bucketCount rule b h)
  /-- An interval that is no longer than the window holds at most `2 * limit`
  allowed calls. -/
  interval : ∀ x y, y - x ≤ rule.window →
    ((h.countP fun c => c.2 && decide (x ≤ c.1 ∧ c.1 ≤ y) : ℕ) : ℤ) ≤ 2 * rule.limit

/-- A history of the rule keeps the promise. -/
theorem fixedExact_of_ruled {rule : RateLimitRule K} {h : History K}
    (hruled : Ruled (fixedRule rule) h) : FixedExact rule h := by
  have hexact : ∀ newer now allowed older, h = newer ++ (now, allowed) :: older →
      (allowed = true ↔ (bucketCount rule (bucket rule now) older : ℤ) < rule.limit) := by
    intro newer now allowed older hsplit
    rw [hruled newer now allowed older hsplit, fixedRule, decide_eq_true_iff]
    rfl
  have hallowed : ∀ b, ((h.countP fun c => c.2 && decide (bucket rule c.1 = b) : ℕ) : ℤ) =
      min rule.limit (bucketCount rule b h) := by
    intro b
    apply countP_eq_min (p := fun t => decide (bucket rule t = b)) rule.limit_nonneg
    intro newer t admitted older hsplit ht
    obtain rfl := of_decide_eq_true ht
    exact hexact newer t admitted older hsplit
  refine ⟨hexact, hallowed, fun x y hxy => ?_⟩
  -- the interval meets the bucket of `x` and the next one only
  have hsplit : (h.countP fun c => c.2 && decide (x ≤ c.1 ∧ c.1 ≤ y)) ≤
      (h.countP fun c => c.2 && decide (bucket rule c.1 = bucket rule x)) +
        h.countP fun c => c.2 && decide (bucket rule c.1 = bucket rule x + 1) := by
    have htwo : ∀ t, x ≤ t → t ≤ y →
        bucket rule t = bucket rule x ∨ bucket rule t = bucket rule x + 1 := by
      intro t hxt hty
      have hlow : bucket rule x ≤ bucket rule t :=
        Int.floor_le_floor (div_le_div_of_nonneg_right hxt rule.window_pos.le)
      have hhigh : bucket rule t ≤ bucket rule x + 1 := by
        have hle : t / rule.window ≤ x / rule.window + 1 := by
          rw [div_add_one rule.window_pos.ne']
          exact div_le_div_of_nonneg_right (by linarith) rule.window_pos.le
        calc bucket rule t ≤ ⌊x / rule.window + 1⌋ := Int.floor_le_floor hle
          _ = bucket rule x + 1 := Int.floor_add_one _
      omega
    apply countP_le_add
    intro c _ hc
    obtain ⟨hin, hx, hy⟩ : c.2 = true ∧ x ≤ c.1 ∧ c.1 ≤ y := by simpa using hc
    rcases htwo c.1 hx hy with heq | heq
    · left
      simp [hin, heq]
    · right
      simp [hin, heq]
  have hfirst := hallowed (bucket rule x)
  have hsecond := hallowed (bucket rule x + 1)
  omega

/-- **The fixed window is exact.**  For every rule, every subject and every sequence
of calls; and the counter of a bucket never restarts in it: at any time the key of
the bucket shows the number of its calls. -/
theorem fixedExact_calls (uuids : UuidSource) (backend : RedisBackend) (rule : RateLimitRule K)
    (subjectId : String) (s : LimiterState K)
    (hempty : ∀ b, s.data (.counter (backend.bucketKey rule subjectId b)) = none)
    (times : List K) :
    FixedExact rule (callsAt uuids (backend.allowFixed rule subjectId) times (s, [])).2 ∧
      ∀ t, (callsAt uuids (backend.allowFixed rule subjectId) times (s, [])).1.data.lookup t
          (.counter (backend.bucketKey rule subjectId (bucket rule t))) =
        let n := bucketCount rule (bucket rule t)
          (callsAt uuids (backend.allowFixed rule subjectId) times (s, [])).2
        if n = 0 then none else some (n : ℤ) := by
  have hstart : FixedInv backend rule subjectId s [] := by
    intro b
    exact ⟨fun _ => hempty b, fun hne => absurd rfl hne⟩
  obtain ⟨hcalls, hinv⟩ := callsAt_fixed uuids times hstart
  refine ⟨?_, fun t => hinv.lookup t⟩
  rw [hcalls]
  exact fixedExact_of_ruled (Ruled.nil.run times)

/-- At most two in a bucket of three halves of a second. -/
def fixedTwo : RateLimitRule ℚ where
  resource := "order"
  algorithm := .fixed
  limit := 2
  window := 3 / 2
  dimension := "client_ip"
  limit_nonneg := by decide
  window_pos := by norm_num
  resource_ne := by decide
  dimension_ne := by decide

/-- Three calls in the first bucket, and one at the start of the next. -/
theorem fixedExact_fixedTwo :
    FixedExact fixedTwo (callsAt .unary
      ((⟨"chaos-demo"⟩ : RedisBackend).allowFixed fixedTwo "1.2.3.4") [0, 1, 1, 3 / 2]
      (⟨fun _ => none, 0, []⟩, [])).2 ∧
    (callsAt .unary ((⟨"chaos-demo"⟩ : RedisBackend).allowFixed fixedTwo "1.2.3.4")
      [0, 1, 1, 3 / 2] (⟨fun _ => none, 0, []⟩, [])).2 =
        [(3 / 2, true), (1, false), (1, true), (0, true)] :=
  ⟨(fixedExact_calls .unary ⟨"chaos-demo"⟩ fixedTwo "1.2.3.4" ⟨fun _ => none, 0, []⟩
    (fun _ => rfl) [0, 1, 1, 3 / 2]).1, by decide +kernel⟩

end ChaosDemo
