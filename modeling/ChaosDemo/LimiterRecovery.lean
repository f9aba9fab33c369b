/-
ChaosDemo/LimiterRecovery.lean

A sliding window opens again.  Whatever has been counted, in whatever order the scripts ran and
wherever Redis failed: every score in a set is a reading of the clock, and so it is past
(`past_of_reach`).  After a window without a call nothing of it is in the window any more, and
the next request passes, of whatever address it is (`slidingWindow_reopens`).
-/
import ChaosDemo.SlidingFair

set_option linter.unusedSectionVars false

namespace ChaosDemo

open CallTree Keyspace SlidingLog RedisBackend

variable {K : Type} [Field K] [LinearOrder K] [IsStrictOrderedRing K] [FloorRing K]
variable {ι : Type}

/-- Every reading of the clock is past, and so is every score that is stored. -/
structure PastScores (s : LimiterState K) (l : LimiterLog K ι) : Prop where
  readings : ∀ e ∈ l, ∀ t, e.event = readingEvent t → t ≤ s.now
  scores : ∀ key, ∀ x ∈ stored s.data key, x.2 ≤ s.now

namespace PastScores

variable {s s' : LimiterState K} {l : LimiterLog K ι}

/-- A call that stores nothing. -/
theorem quiet (h : PastScores s l) {e : LimiterEntry K ι}
    (he : ∀ t, e.event = readingEvent t → t ≤ s.now) : PastScores s (e :: l) :=
  ⟨List.forall_mem_cons.mpr ⟨he, h.readings⟩, h.scores⟩

/-- A run of the script, with a reading that is past. -/
theorem ran (h : PastScores s l) {e : LimiterEntry K ι} {key : String} {a : SlidingArgs K}
    (he : ∀ t, e.event = readingEvent t → t ≤ s.now) (ha : a.now ≤ s.now) :
    PastScores { s with data := (slidingWindowLua s.now s.data key a).2 } (e :: l) := by
  refine ⟨List.forall_mem_cons.mpr ⟨he, h.readings⟩, fun key' x hx => ?_⟩
  by_cases hsame : key' = key
  · subst hsame
    rcases slidingWindowLua_cases s.now s.data key' a with ⟨-, -, hsub⟩ | ⟨-, z, hsub, -, hstored⟩
    · exact h.scores key' x (hsub.subset hx)
    · have hmem : x ∈ (a.member, a.now) :: z := hstored ▸ hx
      rcases List.mem_cons.mp hmem with rfl | hold
      · exact ha
      · exact h.scores key' x (hsub.subset hold)
  · exact h.scores key' x (stored_of_ne hsame a ▸ hx)

/-- After a window without a call the script lets a run in. -/
theorem opens (h : PastScores s l) {key : String} {a : SlidingArgs K}
    (hquiet : s.now ≤ a.now - a.window) (hlimit : 1 ≤ a.limit) (server : K) :
    (slidingWindowLua server s.data key a).1 = 1 := by
  rcases slidingWindowLua_cases server s.data key a with ⟨-, hfull, -⟩ | ⟨hone, -⟩
  · -- no score is after the start of the window
    have hnone : trim (a.now - a.window) (members server (s.data (.zset key))) = [] := by
      apply List.eq_nil_iff_forall_not_mem.mpr
      intro x hx
      obtain ⟨hmem, hlt⟩ := mem_trim.mp hx
      have hpast := h.scores key x (members_sublist_stored.subset hmem)
      exact absurd hlt (not_lt.mpr (hpast.trans hquiet))
    rw [hnone, List.length_nil] at hfull
    omega
  · exact hone

end PastScores

section Runs

variable [DecidableEq ι] {ctx : LimiterSettings K} {request : ι → HttpCall} {s₀ : LimiterState K}
  {c : Config (LimiterSig K) Exc (Option (Dict × ℤ)) (LimiterState K) ι}

/-- The clocks and the answers are the same for every key. -/
theorem limiterWorld_serves_sliding (P : LimiterState K → LimiterLog K ι → Prop)
    (rule : RateLimitRule K) (key : ι → String) :
    Serves (limiterWorld K) P fun i => slidingClient rule (key i) :=
  fun i s l o x r s' hs hP => limiterWorld_serves P rule (key i) i s l o x r s' hs hP

/-- **Scores are past** in every run of requests, whatever fails. -/
theorem past_of_reach (hsliding : ctx.rule.algorithm = .sliding)
    (hempty : ∀ key, s₀.data (.zset key) = none)
    (hreach : Reach (limiterWorld K) (fun _ _ => True) (requestsAt ctx request s₀) c) :
    PastScores c.state c.log := by
  choose key hobeys using fun i => rateLimitRequest_sliding hsliding (request i)
  refine hreach.invariant (limiterWorld_serves_sliding _ ctx.rule key) rfl hobeys (fun _ => ?_) ?_ ?_
  · refine ⟨fun e he => absurd he List.not_mem_nil, fun key' x hx => ?_⟩
    have hstored : stored s₀.data key' = [] := by rw [stored, hempty]
    exact absurd (hstored ▸ hx : x ∈ []) List.not_mem_nil
  · intro s l t s' hinv _ _ hd
    obtain ⟨hle, rfl⟩ : s.now ≤ t ∧ { s with now := t } = s' := by simpa [limiterWorld] using hd
    exact ⟨fun e he t' hev => (hinv.readings e he t' hev).trans hle,
      fun key' x hx => (hinv.scores key' x hx).trans hle⟩
  · intro s l i o x r s' hinv _ _ hcall hs
    cases o with
    | time =>
        cases x with
        | done =>
            obtain ⟨rfl, rfl⟩ : Except.ok s.now = r ∧ s = s' := by
              simpa [limiterWorld, LimiterState.serve] using hs
            refine hinv.quiet fun t hev => ?_
            cases hev
            exact le_rfl
        | _ => simp [limiterWorld, LimiterState.serve, LimiterState.runScript] at hs
    | uuid4 =>
        cases x <;> simp [limiterWorld, LimiterState.serve, LimiterState.runScript] at hs
        obtain ⟨-, -, rfl⟩ := hs
        refine ⟨List.forall_mem_cons.mpr ⟨fun t hev => ?_, hinv.readings⟩, hinv.scores⟩
        cases hev
    | slidingWindow key' a =>
        obtain ⟨t, hex, old, hown, -, rfl⟩ := hcall
        have hreading : t ≤ s.now := by
          have hmem : readingEvent t ∈ own i l := by
            rw [hown]
            exact List.mem_cons_of_mem _ List.mem_cons_self
          obtain ⟨e, he, -, hev⟩ := mem_own.mp hmem
          exact hinv.readings e he t hev
        -- the answer may be lost, and the script has run all the same
        cases x with
        | done =>
            obtain ⟨-, rfl⟩ : Except.ok (slidingWindowLua s.now s.data key' _).1 = r ∧ _ = s' := by
              simpa [limiterWorld, LimiterState.serve, LimiterState.runScript] using hs
            exact hinv.ran (fun t' hev => by cases hev) hreading
        | dropped e =>
            obtain ⟨-, -, rfl⟩ : e.fromServer = true ∧ Except.error e = r ∧ s = s' := by
              simpa [limiterWorld, LimiterState.serve, LimiterState.runScript] using hs
            exact hinv.quiet fun t' hev => by cases hev
        | lost e =>
            obtain ⟨-, -, rfl⟩ : e.fromServer = true ∧ Except.error e = r ∧ _ = s' := by
              simpa [limiterWorld, LimiterState.serve, LimiterState.runScript] using hs
            exact hinv.ran (fun t' hev => by cases hev) hreading
        | fresh hex' => simp [limiterWorld, LimiterState.serve] at hs
    | fixedWindow key' ttl => exact hcall.elim

theorem eval_allowSliding (backend : RedisBackend) (rule : RateLimitRule K) (uuids : UuidSource)
    (s : LimiterState K) (subjectId : String) :
    let ran := slidingWindowLua s.now s.data (backend.buildBaseKey rule subjectId)
      ⟨s.now, rule.window, rule.limit, uuids.next s.used, ttl rule⟩
    (backend.allowSliding rule subjectId).eval (LimiterState.nominal uuids) s =
      (.ok { allowed := ran.1 != 0
             key := backend.buildBaseKey rule subjectId
             algorithm := rule.algorithm
             resource := rule.resource
             dimension := rule.dimension },
        { data := ran.2, now := s.now, used := uuids.next s.used :: s.used }) := rfl

/-- A request that is answered at once, by a script that lets it in. -/
theorem eval_rateLimitRequest {s : LimiterState K} (uuids : UuidSource)
    (hsliding : ctx.rule.algorithm = .sliding)
    (hopen : ∀ key member, (slidingWindowLua s.now s.data key
      ⟨s.now, ctx.rule.window, ctx.rule.limit, member, ttl ctx.rule⟩).1 = 1) (next : HttpCall) :
    ∃ s', (rateLimitRequest ctx next).eval (LimiterState.nominal uuids) s = (.ok none, s') := by
  rw [rateLimitRequest]
  split
  · exact ⟨s, rfl⟩
  split
  · exact ⟨s, rfl⟩
  · dsimp only
    generalize resolveSubjectId ctx.proxies next.client ctx.rule.dimension = subjectId
    have hsame : ctx.backend.allow ctx.rule subjectId =
        ctx.backend.allowSliding ctx.rule subjectId := by
      rw [RedisBackend.allow, hsliding]
    have hallowed : ((slidingWindowLua s.now s.data (ctx.backend.buildBaseKey ctx.rule subjectId)
        ⟨s.now, ctx.rule.window, ctx.rule.limit, uuids.next s.used, ttl ctx.rule⟩).1 != 0) =
          true := by
      rw [hopen]
      rfl
    rw [RateLimiter.allow, hsame,
      Prog.eval_bind_ok (Prog.eval_handle_ok (eval_allowSliding _ _ uuids s subjectId))]
    dsimp only
    rw [if_pos hallowed]
    exact ⟨_, rfl⟩

/-- **The window opens again**, for every request, when nobody has called for a window. -/
theorem slidingWindow_reopens (hsliding : ctx.rule.algorithm = .sliding)
    (hempty : ∀ key, s₀.data (.zset key) = none)
    (hreach : Reach (limiterWorld K) (fun _ _ => True) (requestsAt ctx request s₀) c)
    (hlimit : 1 ≤ ctx.rule.limit) {t : K} (ht : c.state.now + ctx.rule.window ≤ t)
    (uuids : UuidSource) (next : HttpCall) : ∃ s', (rateLimitRequest ctx next).eval
      (LimiterState.nominal uuids) { c.state with now := t } = (.ok none, s') := by
  have hpast := past_of_reach hsliding hempty hreach
  apply eval_rateLimitRequest uuids hsliding
  intro key member
  show (slidingWindowLua t c.state.data key
    ⟨t, ctx.rule.window, ctx.rule.limit, member, ttl ctx.rule⟩).1 = 1
  exact hpast.opens (le_sub_iff_add_le.mpr ht) hlimit t

end Runs

/-! ### One address, over its limit -/

/-- Two of three requests of one address pass. -/
def fullWindow : Option (Config (LimiterSig ℚ) Exc (Option (Dict × ℤ)) (LimiterState ℚ) ℕ) :=
  (requestsAt slidingCtx (fun _ => ⟨"POST", "/order", ⟨some "1.2.3.4", none⟩⟩)
      ⟨fun _ => none, 1, []⟩).run (limiterWorld ℚ)
    [.call 0 .done, .call 0 (.fresh "a"), .call 0 .done, .call 1 .done, .call 1 (.fresh "b"),
      .call 1 .done, .call 2 .done, .call 2 (.fresh "c"), .call 2 .done]

theorem fullWindow_checks : (fullWindow.any fun c => declined (c.thread 2)) = true := by
  decide +kernel

theorem slidingWindow_reopens_fullWindow : ∃ c response, fullWindow = some c ∧
    c.thread 2 = .ofExcept (.ok (some response)) ∧ ∃ s',
      (rateLimitRequest slidingCtx ⟨"POST", "/order", ⟨some "1.2.3.4", none⟩⟩).eval
        (LimiterState.nominal .unary) { c.state with now := c.state.now + slidingCtx.rule.window } =
          (.ok none, s') := by
  obtain ⟨c, hrun, hchecks⟩ := (Option.any_eq_true _ _).mp fullWindow_checks
  have hreach := Reach.of_run (Q := fun _ => True) (fun _ _ _ => trivial)
    (Reach.start (P := fun _ _ => True) (W := limiterWorld ℚ) trivial) hrun trivial
  obtain ⟨response, hdone⟩ := ofExcept_of_declined hchecks
  exact ⟨c, response, hrun, hdone, slidingWindow_reopens rfl (fun _ => rfl) hreach (by decide)
    le_rfl .unary _⟩

end ChaosDemo
