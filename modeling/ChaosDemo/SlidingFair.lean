/-
ChaosDemo/SlidingFair.lean

Who is turned down by a sliding window.  ChaosDemo/RateRace.lean bounds what passes; here
nobody is turned down for nothing, in whatever order the scripts run and wherever Redis
fails:

    a script answers 0  →  `limit` earlier runs under its key entered the set, or failed,
                           with readings after now - window

The set only ever holds what runs of the script put there, each run once.  Late scripts drop
too much from it, never too little.
-/
import ChaosDemo.FixedRace

set_option linter.unusedSectionVars false

namespace ChaosDemo

open CallTree Keyspace SlidingLog RedisBackend

variable {K : Type} [Field K] [LinearOrder K] [IsStrictOrderedRing K] [FloorRing K]
variable {ι : Type}

/-! ### The set -/

/-- The set that is stored under a key, alive or not. -/
def stored (data : LimiterData K) (key : String) : ZSet String K :=
  match data (.zset key) with
  | some e => e.val
  | none => []

/-- The member and the reading of a run that may have entered the set of the key. -/
def enteredRun (key : String) (e : LimiterEntry K ι) : Option (String × K) :=
  match e.event with
  | ⟨.slidingWindow k args, .ok n⟩ =>
      if k = key ∧ n ≠ 0 then some (args.member, args.now) else none
  | ⟨.slidingWindow k args, .error _⟩ => if k = key then some (args.member, args.now) else none
  | _ => none

/-- The runs that may have entered it, the latest first. -/
def enteredRuns (key : String) (l : LimiterLog K ι) : List (String × K) :=
  l.filterMap (enteredRun key)

/-- What is stored are such runs, each once. -/
structure StoredInv (s : LimiterState K) (l : LimiterLog K ι) : Prop where
  nodup : ∀ key, ((stored s.data key).map Prod.fst).Nodup
  entered : ∀ key, stored s.data key ⊆ enteredRuns key l

section Stored

variable {data : LimiterData K} {key : String} {server cutoff : K}

theorem members_sublist_stored : (members server (data (.zset key))).Sublist (stored data key) := by
  rw [stored]
  cases hslot : data (.zset key) with
  | none => exact List.Sublist.refl _
  | some e =>
      rw [members_some]
      split
      · exact List.Sublist.refl _
      · exact List.nil_sublist _

theorem trim_sublist {z : ZSet String K} : (trim cutoff z).Sublist z := List.filter_sublist

/-- Trimming a slot stores less. -/
theorem stored_trimSlot : (stored (data.write (.zset key) (trimSlot server cutoff
    (data (.zset key)))) key).Sublist (stored data key) := by
  have hsub : (trim cutoff (members server (data (.zset key)))).Sublist (stored data key) :=
    List.Sublist.trans trim_sublist members_sublist_stored
  rw [stored, Store.write_self, trimSlot]
  cases hslot : data (.zset key) with
  | none => exact List.nil_sublist _
  | some e =>
      rw [hslot] at hsub
      cases htrim : trim cutoff (members server (some e)) with
      | nil => exact List.nil_sublist _
      | cons x z =>
          rw [htrim] at hsub
          exact hsub

/-- The script leaves less than was there, or adds its own member to it. -/
theorem slidingWindowLua_cases (server : K) (data : LimiterData K) (key : String)
    (a : SlidingArgs K) :
    ((slidingWindowLua server data key a).1 = 0 ∧ a.limit ≤
        ((trim (a.now - a.window) (members server (data (.zset key)))).length : ℤ) ∧
        (stored (slidingWindowLua server data key a).2 key).Sublist (stored data key)) ∨
      ((slidingWindowLua server data key a).1 = 1 ∧
        ∃ z, z.Sublist (stored data key) ∧ (∀ x ∈ z, x.1 ≠ a.member) ∧
          stored (slidingWindowLua server data key a).2 key = (a.member, a.now) :: z) := by
  set trimmed := data.write (.zset key) (trimSlot server (a.now - a.window) (data (.zset key)))
    with htrimmed
  have hsub : (stored trimmed key).Sublist (stored data key) := stored_trimSlot
  have hlua : slidingWindowLua server data key a =
      if a.limit ≤ (members server (trimmed (.zset key))).length then (0, trimmed)
      else (1, trimmed.write (.zset key)
        (addSlot server (server + a.ttl) a.now a.member (trimmed (.zset key)))) := rfl
  by_cases hfull : a.limit ≤ (members server (trimmed (.zset key))).length
  · left
    rw [hlua, if_pos hfull]
    refine ⟨rfl, ?_, hsub⟩
    rw [htrimmed, Store.write_self, members_trimSlot] at hfull
    exact hfull
  · right
    rw [hlua, if_neg hfull]
    refine ⟨rfl, (members server (trimmed (.zset key))).filter fun x => x.1 ≠ a.member,
      ?_, ?_, ?_⟩
    · exact List.Sublist.trans (List.Sublist.trans List.filter_sublist members_sublist_stored) hsub
    · exact fun x hx => of_decide_eq_true (List.mem_filter.mp hx).2
    · show stored (trimmed.write (.zset key) _) key = _
      rw [stored, Store.write_self]
      rfl

/-- The script leaves the other keys alone. -/
theorem stored_of_ne {key' : String} (hne : key' ≠ key) (a : SlidingArgs K) :
    stored (slidingWindowLua server data key a).2 key' = stored data key' := by
  have hkeys : LimiterKey.zset key' ≠ LimiterKey.zset key := fun h => hne (LimiterKey.zset.inj h)
  have hslot : (slidingWindowLua server data key a).2 (.zset key') = data (.zset key') := by
    rw [slidingWindowLua]
    split
    · exact Store.write_of_ne hkeys
    · exact (Store.write_of_ne hkeys).trans (Store.write_of_ne hkeys)
  rw [stored, stored, hslot]

end Stored

/-! ### The invariant -/

section Invariant

variable {s s' : LimiterState K} {l : LimiterLog K ι} {i : ι}

theorem enteredRuns_cons_subset (key : String) (e : LimiterEntry K ι) (l : LimiterLog K ι) :
    enteredRuns key l ⊆ enteredRuns key (e :: l) := by
  intro x hx
  obtain ⟨e', he', hx'⟩ := List.mem_filterMap.mp hx
  exact List.mem_filterMap.mpr ⟨e', List.mem_cons_of_mem _ he', hx'⟩

/-- A call that leaves the sets alone. -/
theorem StoredInv.quiet (hinv : StoredInv s l) (e : LimiterEntry K ι)
    (hdata : ∀ key, stored s'.data key = stored s.data key) : StoredInv s' (e :: l) := by
  refine ⟨fun key => ?_, fun key => ?_⟩
  · rw [hdata]
    exact hinv.nodup key
  · rw [hdata]
    exact List.Subset.trans (hinv.entered key) (enteredRuns_cons_subset key e l)

/-- A run of the script, whose answer has arrived or is lost. -/
theorem StoredInv.ran (hinv : StoredInv s l) {key : String} {a : SlidingArgs K}
    {r : Except Exc ℤ}
    (hr : r = .ok (slidingWindowLua s.now s.data key a).1 ∨ ∃ e, r = .error e)
    (hdata : s'.data = (slidingWindowLua s.now s.data key a).2) :
    StoredInv s' (⟨i, ⟨.slidingWindow key a, r⟩, s, s'⟩ :: l) := by
  have hkey : ((stored s'.data key).map Prod.fst).Nodup ∧
      stored s'.data key ⊆ enteredRuns key (⟨i, ⟨.slidingWindow key a, r⟩, s, s'⟩ :: l) := by
    rw [hdata]
    rcases slidingWindowLua_cases s.now s.data key a with ⟨-, -, hsub⟩ | ⟨hone, z, hz, hfresh, heq⟩
    · exact ⟨(hsub.map Prod.fst).nodup (hinv.nodup key), List.Subset.trans hsub.subset
        (List.Subset.trans (hinv.entered key) (enteredRuns_cons_subset key _ l))⟩
    · rw [heq]
      constructor
      · rw [List.map_cons, List.nodup_cons]
        refine ⟨fun hmem => ?_, (hz.map Prod.fst).nodup (hinv.nodup key)⟩
        obtain ⟨x, hx, hxa⟩ := List.mem_map.mp hmem
        exact hfresh x hx hxa
      · have hnew : enteredRun key (⟨i, ⟨.slidingWindow key a, r⟩, s, s'⟩ : LimiterEntry K ι) =
            some (a.member, a.now) := by
          rcases hr with rfl | ⟨e, rfl⟩
          · rw [hone]
            exact if_pos ⟨rfl, one_ne_zero⟩
          · exact if_pos rfl
        have hcons : enteredRuns key ((⟨i, ⟨.slidingWindow key a, r⟩, s, s'⟩ : LimiterEntry K ι) ::
            l) = (a.member, a.now) :: enteredRuns key l := List.filterMap_cons_some hnew
        rw [hcons]
        exact List.cons_subset_cons _ (List.Subset.trans hz.subset (hinv.entered key))
  refine ⟨fun key' => ?_, fun key' => ?_⟩ <;> by_cases hsame : key' = key
  · rw [hsame]
    exact hkey.1
  · rw [hdata, stored_of_ne hsame]
    exact hinv.nodup key'
  · rw [hsame]
    exact hkey.2
  · rw [hdata, stored_of_ne hsame]
    exact List.Subset.trans (hinv.entered key') (enteredRuns_cons_subset key' _ l)

end Invariant

variable [DecidableEq ι]

/-- What the outcome says of the last answer of the script. -/
def SlidingVerdict (rule : RateLimitRule K) :
    Post (LimiterSig K) Exc (Option (Dict × ℤ))
  | .ok none, h => h = [] ∨ (∃ key args n old, h = ⟨.slidingWindow key args, .ok n⟩ :: old ∧
      n ≠ 0) ∨ ∃ key args e old, h = ⟨.slidingWindow key args, .error e⟩ :: old ∧
        e.isRedisError = true
  | .ok (some response), h => response = rateLimited ∧ ∃ key args old,
      h = ⟨.slidingWindow key args, .ok 0⟩ :: old ∧ args.window = rule.window ∧
        args.limit = rule.limit ∧ readingEvent args.now ∈ old
  | .error e, h => e.isRedisError = false ∧
      ∃ key args old, h = ⟨.slidingWindow key args, .error e⟩ :: old

theorem rateLimitRequest_sliding {ctx : LimiterSettings K} (hsliding : ctx.rule.algorithm = .sliding)
    (request : HttpCall) : ∃ key, Obeys (slidingClient ctx.rule key) (rateLimitRequest ctx request)
      (SlidingVerdict ctx.rule) [] := by
  let subjectId := resolveSubjectId ctx.proxies request.client ctx.rule.dimension
  refine ⟨ctx.backend.buildBaseKey ctx.rule subjectId, ?_⟩
  rw [rateLimitRequest]
  split
  · exact .inl rfl
  split
  · exact .inl rfl
  simp only [RateLimiter.allow, RedisBackend.allow, hsliding]
  refine ⟨trivial, fun r hr => ?_⟩
  obtain ⟨t, rfl⟩ := hr
  refine ⟨trivial, fun r hr => ?_⟩
  obtain ⟨hex, rfl⟩ := hr
  refine ⟨⟨t, hex, [], rfl, rfl, rfl⟩, fun r _ => ?_⟩
  cases r with
  | ok n =>
      show SlidingVerdict ctx.rule (.ok (if n != 0 then none else some rateLimited)) _
      by_cases hn : n = 0
      · rw [hn, bne_self_eq_false, if_neg Bool.false_ne_true]
        exact ⟨rfl, _, _, _, rfl, rfl, rfl, List.mem_cons_of_mem _ List.mem_cons_self⟩
      · rw [if_pos (bne_iff_ne.mpr hn)]
        exact .inr (.inl ⟨_, _, n, _, rfl, hn⟩)
  | error e =>
      show Obeys _ ((if e.isRedisError then _ else _ : Limiter K RateLimitDecision) >>= _) _ _
      cases hredis : e.isRedisError with
      | true =>
          rw [if_pos rfl]
          exact .inr (.inr ⟨_, _, e, _, rfl, hredis⟩)
      | false =>
          rw [if_neg Bool.false_ne_true]
          exact ⟨hredis, _, _, _, rfl⟩

/-- Resilience is on, and no proxy is trusted. -/
def slidingCtx : LimiterSettings ℚ := ⟨true, {}, ⟨"chaos-demo"⟩, slidingTwo⟩

/-- The program has come to its end, and has turned the request down. -/
def declined : Prog (LimiterSig ℚ) Exc (Option (Dict × ℤ)) → Bool
  | .ret (some _) => true
  | _ => false

theorem ofExcept_of_declined {p : Prog (LimiterSig ℚ) Exc (Option (Dict × ℤ))}
    (h : declined p = true) : ∃ response, p = .ofExcept (.ok (some response)) := by
  cases p with
  | ret r =>
      cases r with
      | some response => exact ⟨response, rfl⟩
      | none => cases h
  | _ => cases h

end ChaosDemo
