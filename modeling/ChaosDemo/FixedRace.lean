/-
ChaosDemo/FixedRace.lean

Requests that come to the limiter at the same time (`RateLimiter.allow` and
`rate_limit_request`), counted in fixed windows.  A request reads the clock and runs the
script in two steps, and Redis may fail at either end of the script.

The script counts under a key that names the bucket of the reading, and only the first
run gives the key its deadline.  A run that comes long after its reading can find the key
gone and start again at 1; one that comes within a second cannot, since

    t < (b + 1) * window   and   b * window + window + 1 ≤ b * window + ttl ≤ deadline.

So the answers under one key are different numbers, at most as many as the script ran.
-/
import ChaosDemo.ClientIp
import ChaosDemo.RateKeys
import ChaosDemo.RateRace

set_option linter.unusedSectionVars false

namespace ChaosDemo

open CallTree Keyspace RedisBackend

variable {K : Type} [Field K] [LinearOrder K] [IsStrictOrderedRing K] [FloorRing K]
variable {ι : Type}

/-! ### The source -/

/-- `RateLimiter.allow`: without Redis every request passes. -/
def RateLimiter.allow (backend : RedisBackend) (rule : RateLimitRule K) (subjectId : String) :
    Limiter K RateLimitDecision :=
  (backend.allow rule subjectId).handle fun e =>
    if e.isRedisError then
      pure { allowed := true
             key := ""
             algorithm := rule.algorithm
             resource := rule.resource
             dimension := rule.dimension
             backendError := true }
    else throw e

/-- The settings of the limiter. -/
structure LimiterSettings (K : Type) [Field K] [LinearOrder K] where
  enableResilience : Bool
  proxies : ProxyEnv
  backend : RedisBackend
  rule : RateLimitRule K

/-- What the limiter reads of a request. -/
structure HttpCall where
  method : String
  path : String
  client : ClientRequest

/-- The answer to a request that is turned down. -/
def rateLimited : Dict × ℤ := ([("error", .str "rate limit exceeded")], 429)

/-- `rate_limit_request`. -/
def rateLimitRequest (ctx : LimiterSettings K) (request : HttpCall) :
    Limiter K (Option (Dict × ℤ)) :=
  if ctx.enableResilience = false then pure none
  else if request.method ≠ "POST" ∨ request.path ≠ "/order" then pure none
  else do
    let subjectId := resolveSubjectId ctx.proxies request.client ctx.rule.dimension
    let decision ← RateLimiter.allow ctx.backend ctx.rule subjectId
    pure (if decision.allowed then none else some rateLimited)

/-- Any number of requests at the same time. -/
def requestsAt (ctx : LimiterSettings K) (request : ι → HttpCall) (s : LimiterState K) :
    Config (LimiterSig K) Exc (Option (Dict × ℤ)) (LimiterState K) ι :=
  ⟨s, fun i => rateLimitRequest ctx (request i), []⟩

/-! ### One request -/

/-- The script is run once, right after the clock was read, for the bucket of the reading. -/
def fixedClient (backend : RedisBackend) (rule : RateLimitRule K) : Protocol (LimiterSig K) Exc where
  mayCall h o := match o with
    | .time => True
    | .fixedWindow key ttl => ∃ t old subjectId, h = readingEvent t :: old ∧
        key = backend.bucketKey rule subjectId (bucket rule t) ∧ ttl = RedisBackend.ttl rule
    | _ => False
  mayReply _ o r := match o with
    | .time => ∃ v, r = .ok v
    | _ => True

/-- What the outcome says of the last answer of the script. -/
def FixedVerdict (rule : RateLimitRule K) :
    Post (LimiterSig K) Exc (Option (Dict × ℤ))
  | .ok none, h => h = [] ∨ (∃ key n old, h = ⟨.fixedWindow key (ttl rule), .ok n⟩ :: old ∧
      n ≤ rule.limit) ∨ ∃ key e old, h = ⟨.fixedWindow key (ttl rule), .error e⟩ :: old ∧
        e.isRedisError = true
  | .ok (some response), h => response = rateLimited ∧
      ∃ key n old, h = ⟨.fixedWindow key (ttl rule), .ok n⟩ :: old ∧ rule.limit < n
  | .error e, h => e.isRedisError = false ∧
      ∃ key old, h = ⟨.fixedWindow key (ttl rule), .error e⟩ :: old

theorem rateLimitRequest_obeys {ctx : LimiterSettings K} (hfixed : ctx.rule.algorithm = .fixed)
    (request : HttpCall) :
    Obeys (fixedClient ctx.backend ctx.rule) (rateLimitRequest ctx request)
      (FixedVerdict ctx.rule) [] := by
  rw [rateLimitRequest]
  split
  · exact .inl rfl
  split
  · exact .inl rfl
  simp only [RateLimiter.allow, RedisBackend.allow, hfixed]
  refine ⟨trivial, fun r hr => ?_⟩
  obtain ⟨t, rfl⟩ := hr
  refine ⟨⟨t, [], _, rfl, rfl, rfl⟩, fun r _ => ?_⟩
  cases r with
  | ok n =>
      by_cases hn : n ≤ ctx.rule.limit
      · show FixedVerdict ctx.rule (.ok (if decide (n ≤ ctx.rule.limit) then none
          else some rateLimited)) _
        rw [decide_eq_true hn, if_pos rfl]
        exact .inr (.inl ⟨_, n, _, rfl, hn⟩)
      · show FixedVerdict ctx.rule (.ok (if decide (n ≤ ctx.rule.limit) then none
          else some rateLimited)) _
        rw [decide_eq_false hn, if_neg Bool.false_ne_true]
        exact ⟨rfl, _, n, _, rfl, not_le.mp hn⟩
  | error e =>
      cases hredis : e.isRedisError with
      | true =>
          show Obeys _ ((if e.isRedisError then _ else _ : Limiter K RateLimitDecision) >>= _) _ _
          rw [hredis, if_pos rfl]
          exact .inr (.inr ⟨_, e, _, rfl, hredis⟩)
      | false =>
          show Obeys _ ((if e.isRedisError then _ else _ : Limiter K RateLimitDecision) >>= _) _ _
          rw [hredis, if_neg Bool.false_ne_true]
          exact ⟨hredis, _, _, rfl⟩

/-! ### Descending numbers -/

/-- Descending numbers in `(lo, hi]` are at most `hi - lo` many. -/
theorem length_le_of_descending (lo hi : ℤ) {l : List ℤ} (hdesc : l.Pairwise (· > ·))
    (hlo : ∀ n ∈ l, lo < n) (hle : lo ≤ hi) (hhi : ∀ n ∈ l, n ≤ hi) :
    (l.length : ℤ) ≤ hi - lo := by
  induction l generalizing hi with
  | nil =>
      rw [List.length_nil]
      omega
  | cons n l ih =>
      obtain ⟨hhead, htail⟩ := List.pairwise_cons.mp hdesc
      have hn : lo < n := hlo n List.mem_cons_self
      have hbelow : ∀ m ∈ l, m ≤ n - 1 := fun m hm => Int.le_sub_one_of_lt (hhead m hm)
      have hrest := ih (n - 1) htail (fun m hm => hlo m (List.mem_cons_of_mem _ hm)) (by omega) hbelow
      have htop : n ≤ hi := hhi n List.mem_cons_self
      rw [List.length_cons]
      omega

/-- Of descending numbers in `[1, n]` at most `limit` lie up to `limit`, and `n` of them would
fill it. -/
theorem countP_le_limit {limit n : ℤ} (hlimit : 0 ≤ limit) {l : List ℤ}
    (hdesc : l.Pairwise (· > ·)) (hrange : ∀ m ∈ l, 1 ≤ m ∧ m ≤ n) :
    ((l.countP fun m => decide (m ≤ limit) : ℕ) : ℤ) ≤ limit ∧
      (limit ≤ n → (l.length : ℤ) - (n - limit) ≤ (l.countP fun m => decide (m ≤ limit) : ℕ)) := by
  have hsub : ∀ p : ℤ → Bool, (l.filter p).Pairwise (· > ·) := fun p =>
    hdesc.sublist List.filter_sublist
  constructor
  · rw [List.countP_eq_length_filter]
    have hle := length_le_of_descending 0 limit (hsub fun m => decide (m ≤ limit))
      (fun m hm => by have := (hrange m (List.mem_of_mem_filter hm)).1; omega) hlimit
      fun m hm => of_decide_eq_true (List.mem_filter.mp hm).2
    omega
  · intro hle
    have hover := length_le_of_descending limit n (hsub fun m => !decide (m ≤ limit))
      (fun m hm => by simpa using (List.mem_filter.mp hm).2) hle
      fun m hm => (hrange m (List.mem_of_mem_filter hm)).2
    have hsplit := List.length_eq_length_filter_add (l := l) fun m => decide (m ≤ limit)
    rw [List.countP_eq_length_filter]
    omega

/-! ### What is counted -/

abbrev scriptEvent (key : String) (ttl : ℤ) (r : Except Exc ℤ) : Event (LimiterSig K) Exc :=
  ⟨.fixedWindow key ttl, r⟩

/-- What the script answered under the key. -/
def answerUnder (key : String) (e : LimiterEntry K ι) : Option ℤ :=
  match e.event with
  | ⟨.fixedWindow k _, .ok n⟩ => if k = key then some n else none
  | _ => none

/-- The answers under the key, the latest first. -/
def answersUnder (key : String) (l : LimiterLog K ι) : List ℤ := l.filterMap (answerUnder key)

/-- The script failed under the key: it did not run, or its answer was lost. -/
def failedUnder (key : String) (e : LimiterEntry K ι) : Bool :=
  match e.event with
  | ⟨.fixedWindow k _, .error _⟩ => k = key
  | _ => false

/-- The reading with which a call ended. -/
def lastReading : LimiterHistory K → Option K
  | ⟨.time, .ok t⟩ :: _ => some t
  | _ => none

/-- A script run that comes within a second of its reading. -/
def PromptAt [DecidableEq ι] (e : LimiterEntry K ι) (old : LimiterLog K ι) : Prop :=
  ∀ t ∈ lastReading (own e.who old), e.before.now ≤ t + 1

/-- So is every one. -/
def Prompt [DecidableEq ι] : LimiterLog K ι → Prop
  | [] => True
  | e :: old => PromptAt e old ∧ Prompt old

variable [DecidableEq ι]

theorem Prompt.of_append {new l : LimiterLog K ι} (h : Prompt (new ++ l)) : Prompt l := by
  induction new with
  | nil => exact h
  | cons e new ih => exact ih h.2

instance (e : LimiterEntry K ι) (old : LimiterLog K ι) : Decidable (PromptAt e old) :=
  inferInstanceAs (Decidable (∀ t ∈ lastReading (own e.who old), e.before.now ≤ t + 1))

instance decidablePrompt : (l : LimiterLog K ι) → Decidable (Prompt l)
  | [] => isTrue trivial
  | e :: old =>
      have := decidablePrompt old
      inferInstanceAs (Decidable (PromptAt e old ∧ Prompt old))

/-! ### The invariant -/

/-- The counter under the key of bucket `b`: the answers are different numbers up to its value,
what was not answered has failed, and the key lasts for a second after the bucket. -/
structure CounterOf (rule : RateLimitRule K) (b : ℤ) (answers : List ℤ) (failed : ℕ)
    (e : Timed ℤ K) : Prop where
  deadline : ∃ d, e.expireAt = some d ∧ (b : K) * rule.window + ttl rule ≤ d
  pos : 1 ≤ e.val
  descending : answers.Pairwise (· > ·)
  range : ∀ n ∈ answers, 1 ≤ n ∧ n ≤ e.val
  few : e.val ≤ answers.length + failed

/-- Readings are past, and the counter of every key is one of those. -/
structure CounterInv (backend : RedisBackend) (rule : RateLimitRule K) (s : LimiterState K)
    (l : LimiterLog K ι) : Prop where
  past : ∀ i t old, own i l = readingEvent t :: old → t ≤ s.now
  counter : ∀ key, (s.data (.counter key) = none ∧ answersUnder key l = []) ∨
    ∃ subjectId b, ∃ e : Timed ℤ K, key = backend.bucketKey rule subjectId b ∧ s.data (.counter key) = some e ∧
      CounterOf rule b (answersUnder key l) (l.countP (failedUnder key)) e

section Invariant

variable {backend : RedisBackend} {rule : RateLimitRule K} {s s' : LimiterState K}
  {l : LimiterLog K ι} {i : ι}

/-- A second after a reading the key of its bucket is still there. -/
theorem CounterOf.alive {answers : List ℤ} {failed : ℕ} {e : Timed ℤ K} {t now : K}
    (h : CounterOf rule (bucket rule t) answers failed e) (hnow : now ≤ t + 1) :
    e.alive now = true := by
  obtain ⟨n, expireAt⟩ := e
  obtain ⟨d, rfl, hd⟩ := h.deadline
  refine alive_some.mpr (lt_of_lt_of_le ?_ hd)
  have hceil : rule.window ≤ (⌈rule.window⌉ : K) := Int.le_ceil _
  have hmax : ((⌈rule.window⌉ + 1 : ℤ) : K) ≤ (ttl rule : K) := by
    exact_mod_cast le_max_left _ _
  push_cast at hmax
  calc now ≤ t + 1 := hnow
    _ < ((bucket rule t : K) + 1) * rule.window + 1 := by linarith [(mem_bucket rule t).2]
    _ ≤ (bucket rule t : K) * rule.window + ttl rule := by linarith

/-- What a run of the script answers and leaves, under a key that is absent or alive. -/
theorem CounterInv.run (hinv : CounterInv backend rule s l) {t : K} {old : LimiterHistory K}
    (hown : own i l = readingEvent t :: old) (hprompt : s.now ≤ t + 1) (subjectId : String) :
    ∃ (n : ℤ) (d : K), (fixedWindowLua s.now s.data (backend.bucketKey rule subjectId (bucket rule t))
        (ttl rule)) = (n, s.data.put (.counter (backend.bucketKey rule subjectId (bucket rule t)))
          n (some d)) ∧
      (bucket rule t : K) * rule.window + ttl rule ≤ d ∧ 1 ≤ n ∧
      (answersUnder (backend.bucketKey rule subjectId (bucket rule t)) l).Pairwise (· > ·) ∧
      (∀ m ∈ answersUnder (backend.bucketKey rule subjectId (bucket rule t)) l, 1 ≤ m ∧ m < n) ∧
      n ≤ (answersUnder (backend.bucketKey rule subjectId (bucket rule t)) l).length +
        l.countP (failedUnder (backend.bucketKey rule subjectId (bucket rule t))) + 1 := by
  set key := backend.bucketKey rule subjectId (bucket rule t) with hkey
  rcases hinv.counter key with ⟨hnone, hanswers⟩ | ⟨subjectId', b, e, hkey', hslot, hcounter⟩
  · have hincr : incr s.now (s.data (.counter key)) = ⟨1, none⟩ := by
      rw [hnone]
      rfl
    refine ⟨1, s.now + ttl rule, ?_, ?_, le_rfl, ?_, ?_, ?_⟩
    · rw [fixedWindowLua, hincr]
      rfl
    · linarith [(mem_bucket rule t).1, hinv.past i t old hown]
    · rw [hanswers]
      exact List.Pairwise.nil
    · rw [hanswers]
      exact fun m hm => absurd hm List.not_mem_nil
    · omega
  · -- the key names its bucket
    obtain rfl : b = bucket rule t := (bucketKey_eq_iff.mp (hkey'.symm.trans hkey)).2
    have halive := hcounter.alive hprompt
    obtain ⟨n, expireAt⟩ := e
    obtain ⟨d, rfl, hd⟩ := hcounter.deadline
    have hincr : incr s.now (s.data (.counter key)) = ⟨n + 1, some d⟩ := by
      rw [hslot, incr, if_pos halive]
    have hpos : 1 ≤ n := hcounter.pos
    have hone : ¬ n + 1 = 1 := by omega
    refine ⟨n + 1, d, ?_, hd, by omega, hcounter.descending, ?_, ?_⟩
    · rw [fixedWindowLua, hincr, if_neg hone]
    · intro m hm
      have hrange := hcounter.range m hm
      exact ⟨hrange.1, by have : m ≤ n := hrange.2; omega⟩
    · have hfew : n ≤ _ := hcounter.few
      omega

/-- A reading of the clock. -/
theorem CounterInv.reading (hinv : CounterInv backend rule s l) :
    CounterInv backend rule s (⟨i, readingEvent s.now, s, s⟩ :: l) := by
  constructor
  · intro j t old hown
    by_cases hij : i = j
    · subst hij
      rw [own_cons_self (⟨i, readingEvent s.now, s, s⟩ : LimiterEntry K ι) l] at hown
      cases (List.cons.inj hown).1
      exact le_rfl
    · rw [own_cons_of_ne (e := (⟨i, readingEvent s.now, s, s⟩ : LimiterEntry K ι)) hij] at hown
      exact hinv.past j t old hown
  · exact hinv.counter

/-- A run of the script is no reading. -/
theorem CounterInv.past_script (hinv : CounterInv backend rule s l) (key : String) (ttl : ℤ)
    (r : Except Exc ℤ) (hnow : s'.now = s.now) (j : ι) (t : K) (old : LimiterHistory K)
    (hown : own j (⟨i, scriptEvent key ttl r, s, s'⟩ :: l) = readingEvent t :: old) :
    t ≤ s'.now := by
  rw [hnow]
  by_cases hij : i = j
  · subst hij
    rw [own_cons_self (⟨i, scriptEvent key ttl r, s, s'⟩ : LimiterEntry K ι) l] at hown
    cases (List.cons.inj hown).1
  · rw [own_cons_of_ne (e := (⟨i, scriptEvent key ttl r, s, s'⟩ : LimiterEntry K ι)) hij] at hown
    exact hinv.past j t old hown

omit [DecidableEq ι] in
theorem answersUnder_ok (key key' : String) (ttl n : ℤ) :
    answersUnder key' ((⟨i, scriptEvent key ttl (.ok n), s, s'⟩ : LimiterEntry K ι) :: l) =
      if key = key' then n :: answersUnder key' l else answersUnder key' l := by
  have hanswer : answerUnder key' (⟨i, scriptEvent key ttl (.ok n), s, s'⟩ : LimiterEntry K ι) =
      if key = key' then some n else none := rfl
  by_cases hkey : key = key'
  · rw [if_pos hkey] at hanswer ⊢
    exact List.filterMap_cons_some hanswer
  · rw [if_neg hkey] at hanswer ⊢
    exact List.filterMap_cons_none hanswer

/-- The script did not run. -/
theorem CounterInv.dropped (hinv : CounterInv backend rule s l) (key : String) (ttl : ℤ)
    (e : Exc) : CounterInv backend rule s (⟨i, scriptEvent key ttl (.error e), s, s⟩ :: l) := by
  refine ⟨hinv.past_script key ttl _ rfl, fun key' => ?_⟩
  rcases hinv.counter key' with hnone | ⟨subjectId, b, c, hkey, hslot, hcounter⟩
  · exact .inl hnone
  · refine .inr ⟨subjectId, b, c, hkey, hslot, ?_⟩
    refine ⟨hcounter.deadline, hcounter.pos, hcounter.descending, hcounter.range, ?_⟩
    have hmore : l.countP (failedUnder key') ≤
        (⟨i, scriptEvent key ttl (.error e), s, s⟩ :: l : LimiterLog K ι).countP
          (failedUnder key') := by
      rw [List.countP_cons]
      exact Nat.le_add_right _ _
    have hfew : c.val ≤ ((answersUnder key' l).length : ℤ) + l.countP (failedUnder key') :=
      hcounter.few
    show c.val ≤ ((answersUnder key' l).length : ℤ) + _
    omega

/-- The script ran; its answer has arrived or is lost. -/
theorem CounterInv.ran (hinv : CounterInv backend rule s l) {t : K} {old : LimiterHistory K}
    (hown : own i l = readingEvent t :: old) (hprompt : s.now ≤ t + 1) {subjectId key : String}
    (hkey : key = backend.bucketKey rule subjectId (bucket rule t)) {r : Except Exc ℤ}
    (hr : r = .ok (fixedWindowLua s.now s.data key (ttl rule)).1 ∨ ∃ e, r = .error e)
    (hnow : s'.now = s.now) (hdata : s'.data = (fixedWindowLua s.now s.data key (ttl rule)).2) :
    CounterInv backend rule s' (⟨i, scriptEvent key (ttl rule) r, s, s'⟩ :: l) := by
  obtain ⟨n, d, hrun, hd, hpos, hdesc, hrange, hfew⟩ := hinv.run hown hprompt subjectId
  rw [← hkey] at hrun hdesc hrange hfew
  rw [hrun] at hr hdata
  dsimp only at hr hdata
  refine ⟨hinv.past_script key (ttl rule) r hnow, fun key' => ?_⟩
  rw [hdata]
  by_cases hsame : key = key'
  · subst hsame
    refine .inr ⟨subjectId, bucket rule t, ⟨n, some d⟩, hkey, Store.put_self .., ?_⟩
    rcases hr with rfl | ⟨e, rfl⟩
    · have hanswers : answersUnder key ((⟨i, scriptEvent key (ttl rule) (.ok n), s, s'⟩ :
          LimiterEntry K ι) :: l) = n :: answersUnder key l := by
        rw [answersUnder_ok, if_pos rfl]
      rw [hanswers]
      refine ⟨⟨d, rfl, hd⟩, hpos, ?_, ?_, ?_⟩
      · exact List.pairwise_cons.mpr ⟨fun m hm => (hrange m hm).2, hdesc⟩
      · intro m hm
        rcases List.mem_cons.mp hm with rfl | hold
        · exact ⟨hpos, le_rfl⟩
        · exact ⟨(hrange m hold).1, (hrange m hold).2.le⟩
      · have hfailed : (⟨i, scriptEvent key (ttl rule) (.ok n), s, s'⟩ :: l : LimiterLog K ι).countP
            (failedUnder key) = l.countP (failedUnder key) := rfl
        rw [hfailed, List.length_cons]
        show n ≤ _
        push_cast
        omega
    · refine ⟨⟨d, rfl, hd⟩, hpos, hdesc, fun m hm => ?_, ?_⟩
      · exact ⟨(hrange m hm).1, (hrange m hm).2.le⟩
      · have hone : failedUnder key (⟨i, scriptEvent key (ttl rule) (.error e), s, s'⟩ :
            LimiterEntry K ι) = true := decide_eq_true rfl
        rw [List.countP_cons_of_pos hone]
        show n ≤ ((answersUnder key l).length : ℤ) + _
        push_cast
        omega
  · -- the other keys are left alone
    have hslot : (s.data.put (.counter key) n (some d)) (.counter key') = s.data (.counter key') :=
      Store.put_of_ne fun h => hsame (LimiterKey.counter.inj h).symm
    have hanswers : answersUnder key' ((⟨i, scriptEvent key (ttl rule) r, s, s'⟩ :
        LimiterEntry K ι) :: l) = answersUnder key' l := by
      rcases hr with rfl | ⟨e, rfl⟩
      · rw [answersUnder_ok, if_neg hsame]
      · rfl
    have hfailed : (⟨i, scriptEvent key (ttl rule) r, s, s'⟩ :: l : LimiterLog K ι).countP
        (failedUnder key') = l.countP (failedUnder key') := by
      rcases hr with rfl | ⟨e, rfl⟩
      · rfl
      · exact List.countP_cons_of_neg fun h => hsame (of_decide_eq_true h)
    rw [hanswers, hfailed, hslot]
    exact hinv.counter key'

end Invariant

theorem limiterWorld_serves_fixed (P : LimiterState K → LimiterLog K ι → Prop)
    (backend : RedisBackend) (rule : RateLimitRule K) :
    Serves (limiterWorld K) P fun _ => fixedClient backend rule := by
  intro i s l o x r s' hs _
  cases o with
  | time =>
      cases x with
      | done =>
          obtain ⟨rfl, -⟩ : Except.ok s.now = r ∧ s = s' := by
            simpa [limiterWorld, LimiterState.serve] using hs
          exact ⟨_, rfl⟩
      | _ => simp [limiterWorld, LimiterState.serve, LimiterState.runScript] at hs
  | _ => trivial

/-- What can become of a run of fixed_window.lua. -/
theorem serve_fixedWindow {s s' : LimiterState K} {key : String} {ttl : ℤ} {x : LimiterChoice}
    {r : Except Exc ℤ} (h : (limiterWorld K).serve s (.fixedWindow key ttl) x = some (r, s')) :
    (∃ e, r = .error e ∧ s' = s) ∨
      (r = .ok (fixedWindowLua s.now s.data key ttl).1 ∨ ∃ e, r = .error e) ∧
        s' = { s with data := (fixedWindowLua s.now s.data key ttl).2 } := by
  cases x with
  | done =>
      obtain ⟨rfl, rfl⟩ : Except.ok (fixedWindowLua s.now s.data key ttl).1 = r ∧ _ = s' := by
        simpa [limiterWorld, LimiterState.serve, LimiterState.runScript] using h
      exact .inr ⟨.inl rfl, rfl⟩
  | dropped e =>
      obtain ⟨-, rfl, rfl⟩ : e.fromServer = true ∧ Except.error e = r ∧ s = s' := by
        simpa [limiterWorld, LimiterState.serve, LimiterState.runScript] using h
      exact .inl ⟨e, rfl, rfl⟩
  | lost e =>
      obtain ⟨-, rfl, rfl⟩ : e.fromServer = true ∧ Except.error e = r ∧ _ = s' := by
        simpa [limiterWorld, LimiterState.serve, LimiterState.runScript] using h
      exact .inr ⟨.inr ⟨e, rfl⟩, rfl⟩
  | fresh hex => simp [limiterWorld, LimiterState.serve] at h

/-- What a fixed window promises of requests at the same time: under every key it lets through
no more than `limit`, and no fewer unless the script failed; and who is turned down was counted
beyond `limit`. -/
structure FixedFair (rule : RateLimitRule K)
    (c : Config (LimiterSig K) Exc (Option (Dict × ℤ)) (LimiterState K) ι) : Prop where
  atMost : ∀ key, (((answersUnder key c.log).countP fun n => decide (n ≤ rule.limit) : ℕ) : ℤ) ≤
    rule.limit
  atLeast : ∀ key, min rule.limit (answersUnder key c.log).length ≤
    (((answersUnder key c.log).countP fun n => decide (n ≤ rule.limit) : ℕ) : ℤ) +
      c.log.countP (failedUnder key)
  verdict : ∀ i res, c.thread i = .ofExcept res → FixedVerdict rule res (own i c.log)

/-- **Fixed windows under concurrency.**  Any number of requests, from any addresses, in any
order of their steps, where Redis may fail: as long as every script runs within a second of the
reading that it is for. -/
theorem fixedWindow_fair (ctx : LimiterSettings K) (hfixed : ctx.rule.algorithm = .fixed)
    (request : ι → HttpCall) (s₀ : LimiterState K) (hempty : ∀ key, s₀.data (.counter key) = none)
    {c : Config (LimiterSig K) Exc (Option (Dict × ℤ)) (LimiterState K) ι}
    (hreach : Reach (limiterWorld K) (fun _ => Prompt) (requestsAt ctx request s₀) c) :
    FixedFair ctx.rule c := by
  have hserve := limiterWorld_serves_fixed (ι := ι) (fun _ => Prompt) ctx.backend ctx.rule
  have hobeys : ∀ i, Obeys (fixedClient ctx.backend ctx.rule)
      ((requestsAt ctx request s₀).thread i) (FixedVerdict ctx.rule) [] := fun i =>
    rateLimitRequest_obeys hfixed (request i)
  have hinv : CounterInv ctx.backend ctx.rule c.state c.log := by
    refine hreach.invariant hserve rfl hobeys (fun _ => ?_) ?_ ?_
    · exact ⟨fun i t old hown => absurd hown (by simp), fun key => .inl ⟨hempty key, rfl⟩⟩
    · intro s l t s' hinv _ _ hd
      obtain ⟨hle, rfl⟩ : s.now ≤ t ∧ { s with now := t } = s' := by simpa [limiterWorld] using hd
      exact ⟨fun i t' old hown => (hinv.past i t' old hown).trans hle, hinv.counter⟩
    · intro s l i o x r s' hinv _ hprompt hcall hs
      cases o with
      | time =>
          cases x with
          | done =>
              obtain ⟨rfl, rfl⟩ : Except.ok s.now = r ∧ s = s' := by
                simpa [limiterWorld, LimiterState.serve] using hs
              exact hinv.reading
          | _ => simp [limiterWorld, LimiterState.serve, LimiterState.runScript] at hs
      | fixedWindow key ttl =>
          obtain ⟨t, old, subjectId, hown, hkey, rfl⟩ := hcall
          rcases serve_fixedWindow hs with ⟨e, rfl, rfl⟩ | ⟨hr, rfl⟩
          · exact hinv.dropped key _ e
          · refine hinv.ran hown (hprompt.1 t ?_) hkey hr rfl rfl
            show lastReading (own i l) = some t
            rw [hown]
            rfl
      | uuid4 => exact hcall.elim
      | slidingWindow key args => exact hcall.elim
  have hcount : ∀ key, ∃ n : ℤ, (answersUnder key c.log).Pairwise (· > ·) ∧
      (∀ m ∈ answersUnder key c.log, 1 ≤ m ∧ m ≤ n) ∧ 0 ≤ n ∧
      n ≤ (answersUnder key c.log).length + c.log.countP (failedUnder key) := by
    intro key
    rcases hinv.counter key with ⟨-, hno⟩ | ⟨_, _, e, -, -, hcounter⟩
    · rw [hno]
      exact ⟨0, List.Pairwise.nil, fun m hm => absurd hm List.not_mem_nil, le_rfl, by omega⟩
    · exact ⟨e.val, hcounter.descending, hcounter.range, by have := hcounter.pos; omega,
        hcounter.few⟩
  have hlimit := ctx.rule.limit_nonneg
  refine ⟨fun key => ?_, fun key => ?_, fun i res hres => hreach.post hserve rfl hobeys hres⟩
  · obtain ⟨n, hdesc, hrange, -, -⟩ := hcount key
    exact (countP_le_limit hlimit hdesc hrange).1
  · obtain ⟨n, hdesc, hrange, hn, hfew⟩ := hcount key
    by_cases hle : ctx.rule.limit ≤ n
    · have hlow := (countP_le_limit hlimit hdesc hrange).2 hle
      omega
    · -- every answer is within the limit
      have hall : (answersUnder key c.log).countP (fun m => decide (m ≤ ctx.rule.limit)) =
          (answersUnder key c.log).length :=
        List.countP_eq_length.mpr fun m hm =>
          decide_eq_true (by have := (hrange m hm).2; omega)
      rw [hall]
      omega

/-! ### Four requests -/

/-- Resilience is on, and no proxy is trusted. -/
def fixedCtx : LimiterSettings ℚ := ⟨true, {}, ⟨"chaos-demo"⟩, fixedTwo⟩

/-- Any number of requests of one address. -/
def fourRequests : Config (LimiterSig ℚ) Exc (Option (Dict × ℤ)) (LimiterState ℚ) (ℕ) :=
  requestsAt fixedCtx (fun _ => ⟨"POST", "/order", ⟨some "1.2.3.4", none⟩⟩) ⟨fun _ => none, 1, []⟩

/-- Four of them read the clock before any script runs, and Redis loses the answer to request 1. -/
def fourRequestsRun :
    Option (Config (LimiterSig ℚ) Exc (Option (Dict × ℤ)) (LimiterState ℚ) ℕ) :=
  fourRequests.run (limiterWorld ℚ)
    [.call 0 .done, .call 1 .done, .call 2 .done, .call 3 .done, .drift (2 : ℚ), .call 3 .done,
      .call 1 (.lost .redisTimeout), .call 0 .done, .call 2 .done]

theorem fourRequestsRun_checks : (fourRequestsRun.any fun c =>
    decide (Prompt c.log) && decide (answersUnder
      (fixedCtx.backend.bucketKey fixedTwo "1.2.3.4" 0) c.log = [4, 3, 1])) = true := by
  decide +kernel

theorem fixedWindow_fair_fourRequests :
    ∃ c, fourRequestsRun = some c ∧ FixedFair fixedTwo c ∧
      answersUnder (fixedCtx.backend.bucketKey fixedTwo "1.2.3.4" 0) c.log = [4, 3, 1] := by
  obtain ⟨c, hrun, hchecks⟩ := (Option.any_eq_true _ _).mp fourRequestsRun_checks
  rw [Bool.and_eq_true, decide_eq_true_iff, decide_eq_true_iff] at hchecks
  have hstart : Reach (limiterWorld ℚ) (fun _ => Prompt) fourRequests fourRequests :=
    .start (show Prompt [] from trivial)
  have hreach := Reach.of_run (Q := Prompt) (fun _ _ => Prompt.of_append) hstart hrun hchecks.1
  exact ⟨c, hrun, fixedWindow_fair fixedCtx rfl _ _ (fun _ => rfl) hreach, hchecks.2⟩

end ChaosDemo
