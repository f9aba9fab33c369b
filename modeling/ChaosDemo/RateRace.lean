/-
ChaosDemo/RateRace.lean

Threads that call `_allow_sliding` for one rule and one subject.  A call reads the
clock and runs the script in two steps, so scripts can run in another order than
their clock readings: a script with a late reading drops what a script with an
earlier reading, run after it, should still have counted.

    Kept        every earlier allowed call within a window's length of a script's
                reading is still in the set when the script runs

is what the script relies on.  `slidingBound_of_kept` says that it is enough for
the bound, and `delayedRun` is a run without it that breaks the bound.
-/
import ChaosDemo.RateDecisions

set_option linter.unusedSectionVars false

namespace ChaosDemo

open CallTree Keyspace SlidingLog RedisBackend

variable {K : Type} [Field K] [LinearOrder K] [IsStrictOrderedRing K] [FloorRing K]
variable {ι : Type}

/-! ### The world -/

/-- The ways a call can be answered. -/
inductive LimiterChoice
  | done
  | dropped (e : Exc)
  | lost (e : Exc)
  | fresh (hex : String)

/-- What a script does. -/
def LimiterState.runScript (s : LimiterState K) :
    (o : LimiterOp K) → Option (o.Ret × LimiterState K)
  | .slidingWindow key args =>
      some ((slidingWindowLua s.now s.data key args).1,
        { s with data := (slidingWindowLua s.now s.data key args).2 })
  | .fixedWindow key ttl =>
      some ((fixedWindowLua s.now s.data key ttl).1,
        { s with data := (fixedWindowLua s.now s.data key ttl).2 })
  | _ => none

/-- One call, answered as the choice says; `none` where it cannot be.  The clock
shows the true time. -/
def LimiterState.serve (s : LimiterState K) (o : LimiterOp K) (x : LimiterChoice) :
    Option (Except Exc o.Ret × LimiterState K) :=
  match o, x with
  | .time, .done => some (.ok s.now, s)
  | .uuid4, .fresh hex =>
      if hex ∈ s.used then none else some (.ok hex, { s with used := hex :: s.used })
  | o, .done => (s.runScript o).map fun out => (.ok out.1, out.2)
  | o, .dropped e => if e.fromServer then (s.runScript o).map fun _ => (.error e, s) else none
  | o, .lost e => if e.fromServer then (s.runScript o).map fun out => (.error e, out.2) else none
  | _, _ => none

/-- The world: calls are served by `LimiterState.serve`, and time goes on. -/
def limiterWorld (K : Type) [Field K] [LinearOrder K] [IsStrictOrderedRing K] [FloorRing K] :
    World (LimiterSig K) Exc (LimiterState K) where
  Choice := LimiterChoice
  Drift := K
  serve s o x := s.serve o x
  drift s t := if s.now ≤ t then some { s with now := t } else none

abbrev LimiterHistory (K : Type) := History (LimiterSig K) Exc

abbrev LimiterEntry (K ι : Type) := Entry (LimiterSig K) Exc (LimiterState K) ι

abbrev LimiterLog (K ι : Type) := Log (LimiterSig K) Exc (LimiterState K) ι

/-- What can become of a script run. -/
theorem serve_slidingWindow {s s' : LimiterState K} {key : String} {args : SlidingArgs K}
    {x : LimiterChoice} {r : Except Exc ℤ}
    (h : (limiterWorld K).serve s (.slidingWindow key args) x = some (r, s')) :
    s'.used = s.used ∧ (r = .ok (slidingWindowLua s.now s.data key args).1 ∨ ∃ e, r = .error e) := by
  cases x with
  | done =>
      obtain ⟨rfl, rfl⟩ : Except.ok (slidingWindowLua s.now s.data key args).1 = r ∧ _ = s' := by
        simpa [limiterWorld, LimiterState.serve, LimiterState.runScript] using h
      exact ⟨rfl, .inl rfl⟩
  | dropped e =>
      simp only [limiterWorld, LimiterState.serve, LimiterState.runScript, Option.map_some,
        Option.ite_none_right_eq_some, Option.some.injEq, Prod.mk.injEq] at h
      obtain ⟨-, rfl, rfl⟩ := h
      exact ⟨rfl, .inr ⟨e, rfl⟩⟩
  | lost e =>
      simp only [limiterWorld, LimiterState.serve, LimiterState.runScript, Option.map_some,
        Option.ite_none_right_eq_some, Option.some.injEq, Prod.mk.injEq] at h
      obtain ⟨-, rfl, rfl⟩ := h
      exact ⟨rfl, .inr ⟨e, rfl⟩⟩
  | fresh hex => simp [limiterWorld, LimiterState.serve] at h

/-! ### Threads -/

/-- A thread that makes `n` calls; one that raises is not the last. -/
def callRepeatedly (call : Limiter K RateLimitDecision) : ℕ → Limiter K Unit
  | 0 => pure ()
  | n + 1 => do
      let _ ← call.attempt
      callRepeatedly call n

/-- Threads that call the limiter for one rule and one subject. -/
def limitersAt (backend : RedisBackend) (rule : RateLimitRule K) (subjectId : String)
    (count : ι → ℕ) (s : LimiterState K) :
    Config (LimiterSig K) Exc Unit (LimiterState K) ι :=
  ⟨s, fun i => callRepeatedly (backend.allowSliding rule subjectId) (count i), []⟩

abbrev readingEvent (t : K) : Event (LimiterSig K) Exc := ⟨.time, .ok t⟩

abbrev ticketEvent (hex : String) : Event (LimiterSig K) Exc := ⟨.uuid4, .ok hex⟩

/-- A thread runs the script with the clock reading and the uuid it has just got. -/
def slidingClient (rule : RateLimitRule K) (key : String) : Protocol (LimiterSig K) Exc where
  mayCall h o := match o with
    | .slidingWindow key' args => ∃ t hex old, h = ticketEvent hex :: readingEvent t :: old ∧
        key' = key ∧ args = ⟨t, rule.window, rule.limit, hex, ttl rule⟩
    | .fixedWindow _ _ => False
    | _ => True
  mayReply _ o r := match o with
    | .time => ∃ v, r = .ok v
    | .uuid4 => ∃ v, r = .ok v
    | _ => True

section Threads

variable {backend : RedisBackend} {rule : RateLimitRule K} {subjectId : String}
  {h : LimiterHistory K}

theorem allowSliding_client (backend : RedisBackend) (rule : RateLimitRule K) (subjectId : String)
    (h : LimiterHistory K) :
    Obeys (slidingClient rule (backend.buildBaseKey rule subjectId))
      (backend.allowSliding rule subjectId) (fun _ _ => True) h := by
  refine ⟨trivial, fun r hr => ?_⟩
  obtain ⟨t, rfl⟩ := hr
  refine ⟨trivial, fun r hr => ?_⟩
  obtain ⟨hex, rfl⟩ := hr
  refine ⟨⟨t, hex, h, rfl, rfl, rfl⟩, fun r _ => ?_⟩
  cases r <;> trivial

theorem callRepeatedly_client (n : ℕ) :
    Obeys (slidingClient rule (backend.buildBaseKey rule subjectId))
      (callRepeatedly (backend.allowSliding rule subjectId) n) (fun _ _ => True) h := by
  induction n generalizing h with
  | zero => trivial
  | succ n ih =>
      rw [callRepeatedly]
      have hcall : Obeys (slidingClient rule (backend.buildBaseKey rule subjectId))
          (backend.allowSliding rule subjectId).attempt (fun _ _ => True) h :=
        (allowSliding_client backend rule subjectId h).attempt fun _ _ _ => trivial
      exact hcall.bind (fun _ _ _ => ih) fun _ _ _ => trivial

end Threads

variable [DecidableEq ι]

theorem limiterWorld_serves (P : LimiterState K → LimiterLog K ι → Prop) (rule : RateLimitRule K)
    (key : String) : Serves (limiterWorld K) P fun _ => slidingClient rule key := by
  intro i s l o x r s' hs _
  cases o with
  | time =>
      cases x with
      | done =>
          obtain ⟨rfl, -⟩ : Except.ok s.now = r ∧ s = s' := by
            simpa [limiterWorld, LimiterState.serve] using hs
          exact ⟨_, rfl⟩
      | _ => simp [limiterWorld, LimiterState.serve, LimiterState.runScript] at hs
  | uuid4 =>
      cases x <;> simp [limiterWorld, LimiterState.serve, LimiterState.runScript] at hs
      exact ⟨_, hs.2.1.symm⟩
  | _ => trivial

/-! ### What is allowed -/

/-- The member and the time of a call that was allowed. -/
def allowedCall (e : LimiterEntry K ι) : Option (String × K) :=
  match e.event with
  | ⟨.slidingWindow _ args, .ok n⟩ => if n = 0 then none else some (args.member, args.now)
  | _ => none

/-- The calls that were allowed, the latest first. -/
def allowedCalls (l : LimiterLog K ι) : List (String × K) := l.filterMap allowedCall

/-- The key and the arguments of a script run. -/
def scriptRun (e : LimiterEntry K ι) : Option (String × SlidingArgs K) :=
  match e.event.op with
  | .slidingWindow key args => some (key, args)
  | _ => none

/-- At the script run `e`, after the calls `old`, every allowed call within a
window's length of its reading is still in the set. -/
def KeptAt (e : LimiterEntry K ι) (old : LimiterLog K ι) : Prop :=
  ∀ script ∈ scriptRun e, ∀ c ∈ allowedCalls old,
    script.2.now - script.2.window < c.2 → c.2 < script.2.now + script.2.window →
      c ∈ members e.before.now (e.before.data (.zset script.1))

/-- So it is at every script run. -/
def Kept : LimiterLog K ι → Prop
  | [] => True
  | e :: old => KeptAt e old ∧ Kept old

theorem Kept.of_append {new l : LimiterLog K ι} (h : Kept (new ++ l)) : Kept l := by
  induction new with
  | nil => exact h
  | cons e new ih => exact ih h.2

instance (e : LimiterEntry K ι) (old : LimiterLog K ι) : Decidable (KeptAt e old) :=
  inferInstanceAs (Decidable (∀ script ∈ scriptRun e, ∀ c ∈ allowedCalls old,
    script.2.now - script.2.window < c.2 → c.2 < script.2.now + script.2.window →
      c ∈ members e.before.now (e.before.data (.zset script.1))))

instance decidableKept : (l : LimiterLog K ι) → Decidable (Kept l)
  | [] => isTrue trivial
  | e :: old =>
      have := decidableKept old
      inferInstanceAs (Decidable (KeptAt e old ∧ Kept old))

/-! ### The invariant -/

/-- Uuids are handed out once, and every interval of the window's length holds at
most `limit` allowed calls. -/
structure BoundInv (rule : RateLimitRule K) (s : LimiterState K) (l : LimiterLog K ι) : Prop where
  used : ∀ e ∈ l, ∀ hex, e.event = ticketEvent hex → hex ∈ s.used
  who : ∀ e₁ ∈ l, ∀ e₂ ∈ l, ∀ hex, e₁.event = ticketEvent hex → e₂.event = ticketEvent hex →
    e₁.who = e₂.who
  allowed : ∀ c ∈ allowedCalls l, c.1 ∈ s.used
  nodup : ((allowedCalls l).map Prod.fst).Nodup
  pending : ∀ i hex old, own i l = ticketEvent hex :: old → ∀ c ∈ allowedCalls l, c.1 ≠ hex
  bound : ∀ a, (((allowedCalls l).countP fun c => decide (a < c.2 ∧ c.2 ≤ a + rule.window) : ℕ) : ℤ)
    ≤ rule.limit

section Invariant

variable {rule : RateLimitRule K} {key : String} {s s' : LimiterState K} {l : LimiterLog K ι}
  {i : ι} {ev : Event (LimiterSig K) Exc}

/-- A call that hands out no uuid and allows nothing. -/
theorem BoundInv.quiet (hinv : BoundInv rule s l) (hused : s'.used = s.used)
    (hev : ∀ hex, ev ≠ ticketEvent hex) (hno : allowedCall (⟨i, ev, s, s'⟩ : LimiterEntry K ι) = none) :
    BoundInv rule s' (⟨i, ev, s, s'⟩ :: l) := by
  have hsame : allowedCalls (⟨i, ev, s, s'⟩ :: l) = allowedCalls l := by
    rw [allowedCalls, List.filterMap_cons_none hno]
    rfl
  refine ⟨?_, ?_, ?_, ?_, ?_, ?_⟩
  · intro e he hex heq
    rcases List.mem_cons.mp he with rfl | hold
    · exact absurd heq (hev hex)
    · rw [hused]
      exact hinv.used e hold hex heq
  · intro e₁ he₁ e₂ he₂ hex heq₁ heq₂
    rcases List.mem_cons.mp he₁ with rfl | hold₁
    · exact absurd heq₁ (hev hex)
    · rcases List.mem_cons.mp he₂ with rfl | hold₂
      · exact absurd heq₂ (hev hex)
      · exact hinv.who e₁ hold₁ e₂ hold₂ hex heq₁ heq₂
  · intro c hc
    rw [hused]
    exact hinv.allowed c (hsame ▸ hc)
  · rw [hsame]
    exact hinv.nodup
  · intro j hex old hown c hc
    rw [hsame] at hc
    by_cases hij : i = j
    · subst hij
      rw [own_cons_self (⟨i, ev, s, s'⟩ : LimiterEntry K ι) l] at hown
      exact absurd (List.cons.inj hown).1 (hev hex)
    · rw [own_cons_of_ne (e := ⟨i, ev, s, s'⟩) hij] at hown
      exact hinv.pending j hex old hown c hc
  · intro a
    rw [hsame]
    exact hinv.bound a

/-- A uuid is handed out. -/
theorem BoundInv.ticket (hinv : BoundInv rule s l) {hex : String} (hfresh : hex ∉ s.used) :
    BoundInv rule { s with used := hex :: s.used }
      (⟨i, ticketEvent hex, s, { s with used := hex :: s.used }⟩ :: l) := by
  have hsame : allowedCalls ((⟨i, ticketEvent hex, s, { s with used := hex :: s.used }⟩ :
      LimiterEntry K ι) :: l) = allowedCalls l := by
    rw [allowedCalls, List.filterMap_cons_none rfl]
    rfl
  refine ⟨?_, ?_, ?_, ?_, ?_, ?_⟩
  · intro e he hex' heq
    rcases List.mem_cons.mp he with rfl | hold
    · cases heq
      exact List.mem_cons_self
    · exact List.mem_cons_of_mem _ (hinv.used e hold hex' heq)
  · intro e₁ he₁ e₂ he₂ hex' heq₁ heq₂
    rcases List.mem_cons.mp he₁ with rfl | hold₁ <;> rcases List.mem_cons.mp he₂ with rfl | hold₂
    · rfl
    · cases heq₁
      exact absurd (hinv.used e₂ hold₂ hex heq₂) hfresh
    · cases heq₂
      exact absurd (hinv.used e₁ hold₁ hex heq₁) hfresh
    · exact hinv.who e₁ hold₁ e₂ hold₂ hex' heq₁ heq₂
  · intro c hc
    exact List.mem_cons_of_mem _ (hinv.allowed c (hsame ▸ hc))
  · rw [hsame]
    exact hinv.nodup
  · intro j hex' old hown c hc
    rw [hsame] at hc
    by_cases hij : i = j
    · subst hij
      rw [own_cons_self (⟨i, ticketEvent hex, s, _⟩ : LimiterEntry K ι) l] at hown
      cases (List.cons.inj hown).1
      -- an allowed call has an older uuid
      rintro rfl
      exact hfresh (hinv.allowed c hc)
    · rw [own_cons_of_ne (e := (⟨i, ticketEvent hex, s, { s with used := hex :: s.used }⟩ :
        LimiterEntry K ι)) hij] at hown
      exact hinv.pending j hex' old hown c hc
  · intro a
    rw [hsame]
    exact hinv.bound a

/-- A script run that allows a call found fewer than `limit` in the set. -/
theorem lt_limit_of_allowed {data : LimiterData K} {server : K} {args : SlidingArgs K}
    (h : (slidingWindowLua server data key args).1 ≠ 0) :
    ((trim (args.now - args.window) (members server (data (.zset key)))).length : ℤ) <
      args.limit := by
  rw [slidingWindowLua, Store.write_self, members_trimSlot] at h
  by_contra hfull
  rw [if_pos (not_lt.mp hfull)] at h
  exact h rfl

/-- A call is allowed. -/
theorem BoundInv.allow (hinv : BoundInv rule s l) (hused : s'.used = s.used) {t : K}
    {hex : String} {old : LimiterHistory K} {n : ℤ} (hn : n ≠ 0)
    (hown : own i l = ticketEvent hex :: old)
    (hlimit : ((trim (t - rule.window) (members s.now (s.data (.zset key)))).length : ℤ) <
      rule.limit)
    (hkept : ∀ c ∈ allowedCalls l, t - rule.window < c.2 → c.2 < t + rule.window →
      c ∈ members s.now (s.data (.zset key))) :
    BoundInv rule s' (⟨i, ⟨.slidingWindow key ⟨t, rule.window, rule.limit, hex, ttl rule⟩, .ok n⟩,
      s, s'⟩ :: l) := by
  have hnew : allowedCalls ((⟨i, ⟨.slidingWindow key ⟨t, rule.window, rule.limit, hex, ttl rule⟩,
      .ok n⟩, s, s'⟩ : LimiterEntry K ι) :: l) = (hex, t) :: allowedCalls l := by
    have hcall : allowedCall (⟨i, ⟨.slidingWindow key ⟨t, rule.window, rule.limit, hex, ttl rule⟩,
        .ok n⟩, s, s'⟩ : LimiterEntry K ι) = some (hex, t) := if_neg hn
    rw [allowedCalls, List.filterMap_cons_some hcall]
    rfl
  have hmine : ∃ e ∈ l, e.who = i ∧ e.event = ticketEvent hex := by
    apply mem_own.mp
    rw [hown]
    exact List.mem_cons_self
  obtain ⟨e₀, he₀, hwho, hevent⟩ := hmine
  refine ⟨?_, ?_, ?_, ?_, ?_, ?_⟩
  · intro e he hex' heq
    rcases List.mem_cons.mp he with rfl | hold
    · cases heq
    · rw [hused]
      exact hinv.used e hold hex' heq
  · intro e₁ he₁ e₂ he₂ hex' heq₁ heq₂
    rcases List.mem_cons.mp he₁ with rfl | hold₁
    · cases heq₁
    · rcases List.mem_cons.mp he₂ with rfl | hold₂
      · cases heq₂
      · exact hinv.who e₁ hold₁ e₂ hold₂ hex' heq₁ heq₂
  · intro c hc
    rw [hnew] at hc
    rw [hused]
    rcases List.mem_cons.mp hc with rfl | hold
    · exact hinv.used e₀ he₀ hex hevent
    · exact hinv.allowed c hold
  · rw [hnew, List.map_cons, List.nodup_cons]
    refine ⟨fun hmem => ?_, hinv.nodup⟩
    obtain ⟨c, hc, heq⟩ := List.mem_map.mp hmem
    exact hinv.pending i hex old hown c hc heq
  · intro j hex' old' hown' c hc
    by_cases hij : i = j
    · subst hij
      rw [own_cons_self (⟨i, ⟨.slidingWindow key _, .ok n⟩, s, s'⟩ : LimiterEntry K ι) l] at hown'
      cases (List.cons.inj hown').1
    · rw [own_cons_of_ne (e := (⟨i, ⟨.slidingWindow key _, .ok n⟩, s, s'⟩ : LimiterEntry K ι))
        hij] at hown'
      rw [hnew] at hc
      rcases List.mem_cons.mp hc with rfl | hold
      · -- two threads have different uuids
        rintro rfl
        have hother : ∃ e ∈ l, e.who = j ∧ e.event = ticketEvent hex := by
          apply mem_own.mp
          rw [hown']
          exact List.mem_cons_self
        obtain ⟨e₁, he₁, hwho₁, hevent₁⟩ := hother
        apply hij
        calc i = e₀.who := hwho.symm
          _ = e₁.who := hinv.who e₀ he₀ e₁ he₁ hex hevent hevent₁
          _ = j := hwho₁
      · exact hinv.pending j hex' old' hown' c hold
  · intro a
    rw [hnew]
    by_cases hin : a < t ∧ t ≤ a + rule.window
    · -- the earlier ones of the interval were all counted
      have hsub : ((allowedCalls l).filter fun c => decide (a < c.2 ∧ c.2 ≤ a + rule.window)) ⊆
          trim (t - rule.window) (members s.now (s.data (.zset key))) := by
        intro c hc
        obtain ⟨hmem, hc'⟩ := List.mem_filter.mp hc
        obtain ⟨hlow, hhigh⟩ := of_decide_eq_true hc'
        have hleft : t - rule.window < c.2 := by linarith [hin.2]
        have hright : c.2 < t + rule.window := by linarith [hin.1]
        exact mem_trim.mpr ⟨hkept c hmem hleft hright, hleft⟩
      have hnodup : ((allowedCalls l).filter fun c =>
          decide (a < c.2 ∧ c.2 ≤ a + rule.window)).Nodup :=
        (List.Nodup.of_map Prod.fst hinv.nodup).filter _
      have hle := (List.subperm_of_subset hnodup hsub).length_le
      rw [List.countP_cons_of_pos (by simpa using hin), List.countP_eq_length_filter]
      push_cast
      omega
    · rw [List.countP_cons_of_neg (by simpa using hin)]
      exact hinv.bound a

end Invariant

/-- **The bound under concurrency.**  In every run of any number of threads in which
every script finds the allowed calls of its window still in the set: an interval of
the window's length holds at most `limit` allowed calls. -/
theorem slidingBound_of_kept (backend : RedisBackend) (rule : RateLimitRule K) (subjectId : String)
    (count : ι → ℕ) (s₀ : LimiterState K)
    {c : Config (LimiterSig K) Exc Unit (LimiterState K) ι}
    (hreach : Reach (limiterWorld K) (fun _ => Kept)
      (limitersAt backend rule subjectId count s₀) c) (a : K) :
    (((allowedCalls c.log).countP fun x => decide (a < x.2 ∧ x.2 ≤ a + rule.window) : ℕ) : ℤ) ≤
      rule.limit := by
  let Inv : LimiterState K → LimiterLog K ι → Prop := BoundInv rule
  have hinv : Inv c.state c.log := by
    refine hreach.invariant
      (limiterWorld_serves (fun _ => Kept) rule (backend.buildBaseKey rule subjectId)) rfl
      (fun i => callRepeatedly_client (count i)) (fun _ => ?_) ?_ ?_
    · exact ⟨by simp, by simp, by simp [allowedCalls], List.nodup_nil, by simp,
        fun a => rule.limit_nonneg⟩
    · intro s l t s' hinv _ _ hd
      obtain ⟨-, rfl⟩ : s.now ≤ t ∧ { s with now := t } = s' := by simpa [limiterWorld] using hd
      exact ⟨hinv.used, hinv.who, hinv.allowed, hinv.nodup, hinv.pending, hinv.bound⟩
    · intro s l i o x r s' hinv _ hkept hcall hs
      cases o with
      | time =>
          have hsame : s'.used = s.used := by
            cases x <;> simp [limiterWorld, LimiterState.serve, LimiterState.runScript] at hs
            obtain ⟨-, rfl⟩ := hs
            rfl
          exact hinv.quiet hsame (by simp) (by cases r <;> rfl)
      | uuid4 =>
          cases x <;> simp [limiterWorld, LimiterState.serve, LimiterState.runScript] at hs
          obtain ⟨hfresh, rfl, rfl⟩ := hs
          exact hinv.ticket hfresh
      | fixedWindow key ttl => exact hcall.elim
      | slidingWindow key args =>
          obtain ⟨t, hex, old, hown, rfl, rfl⟩ := hcall
          obtain ⟨hused, rfl | ⟨e, rfl⟩⟩ := serve_slidingWindow hs
          · by_cases hzero : (slidingWindowLua s.now s.data (backend.buildBaseKey rule subjectId)
                ⟨t, rule.window, rule.limit, hex, ttl rule⟩).1 = 0
            · refine hinv.quiet hused (by simp) ?_
              exact if_pos hzero
            · exact hinv.allow hused hzero hown (lt_limit_of_allowed hzero)
                (hkept.1 _ rfl)
          · exact hinv.quiet hused (by simp) rfl
  exact hinv.bound a

/-! ### A delayed script -/

/-- Four threads that call once each. -/
def fourThreads : Config (LimiterSig ℚ) Exc Unit (LimiterState ℚ) (Fin 4) :=
  limitersAt ⟨"chaos-demo"⟩ slidingTwo "1.2.3.4" (fun _ => 1) ⟨fun _ => none, 1, []⟩

/-- Calls at 1 and 2 are allowed.  Thread 2 reads 5 and is delayed; thread 3 reads
13, and its script drops the first two calls.  Then the script of thread 2 runs. -/
def delayedRun : Option (Config (LimiterSig ℚ) Exc Unit (LimiterState ℚ) (Fin 4)) :=
  fourThreads.run (limiterWorld ℚ)
    [.call 0 .done, .call 0 (.fresh "a"), .call 0 .done, .drift (2 : ℚ),
      .call 1 .done, .call 1 (.fresh "b"), .call 1 .done, .drift (5 : ℚ),
      .call 2 .done, .call 2 (.fresh "c"), .drift (13 : ℚ),
      .call 3 .done, .call 3 (.fresh "d"), .call 3 .done, .call 2 .done]

theorem delayedRun_isSome : delayedRun.isSome = true := by decide +kernel

/-- **Three allowed calls in a window of two**: at 1, 2 and 5, in `(1/2, 21/2]`. -/
theorem delayed_script_exceeds : ∃ c : Config (LimiterSig ℚ) Exc Unit (LimiterState ℚ) (Fin 4),
    Reach (limiterWorld ℚ) (fun _ _ => True)
      (limitersAt ⟨"chaos-demo"⟩ slidingTwo "1.2.3.4" (fun _ => 1) ⟨fun _ => none, 1, []⟩) c ∧
    ¬ ∀ a : ℚ, (((allowedCalls c.log).countP fun x =>
      decide (a < x.2 ∧ x.2 ≤ a + slidingTwo.window) : ℕ) : ℤ) ≤ slidingTwo.limit := by
  have hcount : (allowedCalls (delayedRun.get delayedRun_isSome).log).countP (fun x =>
      decide (1 / 2 < x.2 ∧ x.2 ≤ 1 / 2 + slidingTwo.window)) = 3 := by decide +kernel
  refine ⟨delayedRun.get delayedRun_isSome, ?_, fun hbound => ?_⟩
  · exact Reach.of_run (Q := fun _ => True) (fun _ _ _ => trivial) (.start trivial)
      (Option.some_get delayedRun_isSome).symm trivial
  · have hle := hbound (1 / 2)
    rw [hcount] at hle
    exact absurd hle (by decide)

/-- The same threads in the order of their readings. -/
def orderedRun : Option (Config (LimiterSig ℚ) Exc Unit (LimiterState ℚ) (Fin 4)) :=
  fourThreads.run (limiterWorld ℚ)
    [.call 0 .done, .call 0 (.fresh "a"), .call 1 .done, .call 1 (.fresh "b"), .call 1 .done,
      .call 0 .done, .drift (5 : ℚ), .call 2 .done, .call 2 (.fresh "c"), .call 2 .done,
      .drift (13 : ℚ), .call 3 .done, .call 3 (.fresh "d"), .call 3 .done]

theorem orderedRun_isSome : orderedRun.isSome = true := by decide +kernel

theorem slidingBound_orderedRun :
    (((allowedCalls (orderedRun.get orderedRun_isSome).log).countP fun x =>
      decide (1 / 2 < x.2 ∧ x.2 ≤ 1 / 2 + slidingTwo.window) : ℕ) : ℤ) ≤ 2 ∧
    (allowedCalls (orderedRun.get orderedRun_isSome).log).map Prod.snd = [13, 1, 1] := by
  have hkept : Kept (orderedRun.get orderedRun_isSome).log := by decide +kernel
  have hstart : Reach (limiterWorld ℚ) (fun _ => Kept) fourThreads fourThreads :=
    .start (show Kept [] from trivial)
  have hreach := Reach.of_run (Q := Kept) (fun _ _ => Kept.of_append) hstart
    (Option.some_get orderedRun_isSome).symm hkept
  refine ⟨slidingBound_of_kept ⟨"chaos-demo"⟩ slidingTwo "1.2.3.4" _ _ hreach (1 / 2), ?_⟩
  decide +kernel

end ChaosDemo
