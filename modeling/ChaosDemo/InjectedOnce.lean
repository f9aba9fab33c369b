/-
ChaosDemo/InjectedOnce.lean

One injection for each request.  The first pass keeps the promise of `OncePerRequest` by
itself: the experiments it looks at have different ids.  The second pass looks at a part
of them again, and `bookkeeping` of ids in the list of active experiments is all that it
does about it.  So the promise is kept exactly where that pass repeats nothing
(`InjectsOnce`).
-/
import ChaosDemo.RequestOnce

set_option linter.unusedSectionVars false

namespace ChaosDemo

open CallTree Keyspace ChaosExperimentStore ChaosObserver

variable {K : Type} [Field K] [LinearOrder K] [IsStrictOrderedRing K]

/-! ### Lists with different ids -/

section Ids

variable {experiments : List (ChaosExperiment K)}

theorem countP_id_le_one (h : (experiments.map ChaosExperiment.id).Nodup) (id : String) :
    experiments.countP (fun e => e.id = id) ≤ 1 := by
  have hcount : experiments.countP (fun e => e.id = id) =
      (experiments.map ChaosExperiment.id).count id := by
    rw [List.count_eq_countP, List.countP_map]
    apply List.countP_congr
    intro e _
    simp
  rw [hcount]
  exact List.nodup_iff_count_le_one.mp h id

theorem countP_id_eq_one (h : (experiments.map ChaosExperiment.id).Nodup)
    {e : ChaosExperiment K} (he : e ∈ experiments) :
    experiments.countP (fun other => other.id = e.id) = 1 := by
  have hpos : 0 < experiments.countP fun other => other.id = e.id :=
    List.countP_pos_iff.mpr ⟨e, he, by simp⟩
  have hle := countP_id_le_one h e.id
  omega

theorem sleptBy_eq (sleeps : List (ChaosExperiment K × K)) (id : String) :
    sleptBy sleeps id = (sleeps.map Prod.fst).countP fun e => e.id = id := by
  rw [sleptBy, List.countP_map]
  rfl

theorem sleeps_sublist (taken : List (ChaosExperiment K)) :
    ((taken.flatMap ChaosExperiment.sleeps).map Prod.fst).Sublist taken := by
  induction taken with
  | nil => exact List.Sublist.refl _
  | cons e taken ih =>
      rw [List.flatMap_cons, List.map_append]
      have hone : (e.sleeps.map Prod.fst).Sublist [e] := by
        rw [ChaosExperiment.sleeps]
        split
        · exact List.Sublist.refl _
        · exact List.nil_sublist _
      exact hone.append ih

theorem latency_of_sleeps {e : ChaosExperiment K} {p : ChaosExperiment K × K}
    (hp : p ∈ e.sleeps) : p.1 = e ∧ p.1.faultType = "latency" := by
  rw [ChaosExperiment.sleeps] at hp
  split at hp
  · rename_i hpos
    rw [List.mem_singleton.mp hp]
    refine ⟨rfl, ?_⟩
    by_contra hne
    rw [ChaosExperiment.latencySeconds, if_neg hne] at hpos
    exact lt_irrefl _ hpos
  · cases hp

theorem latency_of_mem_flatMap {taken : List (ChaosExperiment K)} {p : ChaosExperiment K × K}
    (hp : p ∈ taken.flatMap ChaosExperiment.sleeps) : p.1.faultType = "latency" := by
  obtain ⟨e, -, he⟩ := List.mem_flatMap.mp hp
  exact (latency_of_sleeps he).2

/-- The sleeps of the experiments that have matched are their latencies. -/
theorem sum_sleeps {taken : List (ChaosExperiment K)}
    (hpos : ∀ e ∈ taken, 0 ≤ e.latencySeconds) :
    ((taken.flatMap ChaosExperiment.sleeps).map Prod.snd).sum =
      (taken.map ChaosExperiment.latencySeconds).sum := by
  induction taken with
  | nil => rfl
  | cons e taken ih =>
      have hone : (e.sleeps.map Prod.snd).sum = e.latencySeconds := by
        rw [ChaosExperiment.sleeps]
        split
        · simp
        · rename_i hnot
          exact le_antisymm (hpos e List.mem_cons_self) (not_lt.mp hnot)
      rw [List.flatMap_cons, List.map_append, List.sum_append, hone, List.map_cons,
        List.sum_cons, ih fun e he => hpos e (List.mem_cons_of_mem _ he)]

/-- Members that add nothing may be left out of a sum. -/
theorem sum_dedup_append {f : ChaosExperiment K → K} {taken taken' : List (ChaosExperiment K)}
    (hnodup : taken.Nodup) (hzero : ∀ e ∈ taken', f e = 0) :
    ((taken ++ taken').dedup.map f).sum = (taken.map f).sum := by
  rw [← List.sum_toFinset f (List.nodup_dedup _), ← List.sum_toFinset f hnodup]
  refine (Finset.sum_subset ?_ ?_).symm
  · intro e he
    simp only [List.mem_toFinset, List.mem_dedup, List.mem_append] at he ⊢
    exact .inl he
  · intro e he hnot
    simp only [List.mem_toFinset, List.mem_dedup, List.mem_append] at he hnot
    exact hzero e (he.resolve_left hnot)

end Ids

/-! ### The experiments that run -/

section Running

variable {s s' : FaultState K} {now now' : K} {e : ChaosExperiment K}

theorem mem_runningAt : e ∈ s.runningAt now ↔
    ∃ id, s.chaos.data.lookup now (.experiment id) = some e ∧ e.status = chaosStatusRunning := by
  rw [FaultState.runningAt, ChaosState.listed, List.mem_filterMap]
  constructor
  · rintro ⟨id, -, hid⟩
    obtain ⟨hread, hrunning⟩ := Option.filter_eq_some_iff.mp hid
    exact ⟨id, hread, by simpa using hrunning⟩
  · rintro ⟨id, hread, hrunning⟩
    refine ⟨id, ?_, Option.filter_eq_some_iff.mpr ⟨hread, by simpa using hrunning⟩⟩
    have hkey : ChaosKey.experiment id ∈ s.chaos.data.keys now :=
      Listed.mem_keys.mpr (by rw [hread]; rfl)
    exact (pySorted_perm _).mem_iff.mpr (List.mem_filterMap.mpr ⟨_, hkey, rfl⟩)

/-- What runs later has run before. -/
theorem mem_runningAt_of_le (hnow : now ≤ now') (he : e ∈ s.runningAt now') :
    e ∈ s.runningAt now := by
  obtain ⟨id, hread, hrunning⟩ := mem_runningAt.mp he
  exact mem_runningAt.mpr ⟨id, live_mono hnow hread, hrunning⟩

theorem nodup_runningAt (hnamed : s.Named) (now : K) :
    ((s.runningAt now).map ChaosExperiment.id).Nodup := by
  have hids : (pySorted ((s.chaos.data.keys now).filterMap
      ChaosPattern.experiments.match?)).Nodup := by
    refine (pySorted_perm _).nodup_iff.mpr (Listed.nodup_keys.filterMap ?_)
    intro k k' id hk hk'
    cases k with
    | report other => cases hk
    | experiment other =>
        cases k' with
        | report other' => cases hk'
        | experiment other' =>
            obtain rfl := Option.some.inj hk
            obtain rfl := Option.some.inj hk'
            rfl
  refine List.Nodup.sublist ?_ hids
  rw [FaultState.runningAt, ChaosState.listed]
  -- an experiment has the id it is read under
  induction pySorted ((s.chaos.data.keys now).filterMap ChaosPattern.experiments.match?) with
  | nil => exact List.Sublist.refl _
  | cons id ids ih =>
      rw [List.filterMap_cons]
      split
      · exact ih.cons _
      · rename_i e hread
        obtain ⟨entry, hslot, -, rfl⟩ :=
          Listed.slot_of_lookup (Option.filter_eq_some_iff.mp hread).1
        rw [List.map_cons, hnamed id entry hslot]
        exact ih.cons_cons _

/-- What runs is in the slots of the experiments. -/
theorem Effect.runningAt {c : String → ℕ} (h : Effect c s.chaos s'.chaos) (now : K) :
    s'.runningAt now = s.runningAt now := by
  have hlookup : ∀ id, s'.chaos.data.lookup now (.experiment id) =
      s.chaos.data.lookup now (.experiment id) := by
    intro id
    show live now (s'.chaos.data.slots _) = live now (s.chaos.data.slots _)
    rw [h.slots id]
  have hids : (s'.chaos.data.keys now).filterMap ChaosPattern.experiments.match? =
      (s.chaos.data.keys now).filterMap ChaosPattern.experiments.match? := by
    rw [Listed.keys, Listed.keys, h.names, List.filterMap_filter, List.filterMap_filter]
    apply List.filterMap_congr
    intro k _
    cases k with
    | experiment id => rw [hlookup id]
    | report id => simp [ChaosPattern.match?]
  rw [FaultState.runningAt, FaultState.runningAt, hids, ChaosState.listed, ChaosState.listed]
  apply List.filterMap_congr
  intro id _
  show (s'.chaos.data.lookup now (.experiment id)).filter _ =
    (s.chaos.data.lookup now (.experiment id)).filter _
  rw [hlookup id]

theorem formed_of_running {settings : FaultSettings K} (hs : Admissible settings s)
    (he : e ∈ s.runningAt now) : ∃ injector, e.Formed injector := by
  obtain ⟨id, hread, -⟩ := mem_runningAt.mp he
  obtain ⟨entry, hslot, -, rfl⟩ := Listed.slot_of_lookup hread
  exact exists_formed (hs.valid id entry hslot)

theorem ChaosExperiment.Formed.latencySeconds_nonneg {injector : FaultInjector}
    (h : e.Formed injector) : 0 ≤ e.latencySeconds := by
  have hother : e.faultType ≠ "latency" → 0 ≤ e.latencySeconds := by
    intro hne
    rw [ChaosExperiment.latencySeconds, if_neg hne]
  cases h with
  | latency htype hpos hms =>
      rw [ChaosExperiment.latencySeconds, if_pos htype]
      positivity
  | exception htype => exact hother (by rw [htype]; decide)
  | drop htype hrate => exact hother (by rw [htype]; decide)
  | slowDb htype => exact hother (by rw [htype]; decide)

end Running

/-! ### The promise is kept -/

section Kept

variable {env : FaultEnv K} {request : ChaosRequest}
  {experiments later looked looked' taken taken' : List (ChaosExperiment K)}
  {sleeps : List (ChaosExperiment K × K)} {s s₁ s₂ s₃ s₄ : FaultState K}
  {a₂ a₃ : PhaseAccount K}

/-- A latency is not among the other faults of a later list. -/
theorem disjoint_faults (hnodup : (experiments.map ChaosExperiment.id).Nodup)
    (hsub : ∀ e ∈ later, e ∈ experiments) {e e' : ChaosExperiment K} (he : e ∈ experiments)
    (he' : e' ∈ later) (hid : e'.id = e.id) : e' = e :=
  List.inj_on_of_nodup_map hnodup (hsub e' he') he hid

/-- **A first pass, and a second one that repeats nothing.** -/
theorem once_of_passes (hstart : Counts 0 s.chaos s₁.chaos)
    (hprepared : Prepared request experiments looked taken s₁ {} s₂ a₂)
    (hspared : Spared request later looked' taken' sleeps s₂ a₂ s₃ a₃)
    (hend : Counts 0 s₃.chaos s₄.chaos)
    (hnodup : (experiments.map ChaosExperiment.id).Nodup)
    (hnodup' : (later.map ChaosExperiment.id).Nodup)
    (hsub : ∀ e ∈ later, e ∈ experiments)
    (hpos : ∀ e ∈ experiments, 0 ≤ e.latencySeconds) : OncePerRequest request s s₄ a₃ := by
  have hwalk := hprepared.walked.trans hspared.walked
  have hbegun := hprepared.begun.sublist
  have htaken : taken.Sublist experiments := hprepared.among.trans hbegun
  have hnodupTaken : (taken.map ChaosExperiment.id).Nodup :=
    hnodup.sublist (htaken.map _)
  -- a fault of the second pass belongs to another experiment than a latency
  have hapart : ∀ id, sleptBy (taken.flatMap ChaosExperiment.sleeps) id +
      later.countP (fun e => e.id = id ∧ e.faultType ≠ "latency") ≤ 1 := by
    intro id
    have hfirst : sleptBy (taken.flatMap ChaosExperiment.sleeps) id ≤ 1 := by
      rw [sleptBy_eq]
      exact countP_id_le_one (hnodupTaken.sublist ((sleeps_sublist taken).map _)) id
    have hsecond : later.countP (fun e => e.id = id ∧ e.faultType ≠ "latency") ≤ 1 := by
      refine le_trans (List.countP_mono_left ?_) (countP_id_le_one hnodup' id)
      intro e _ he
      simp only [decide_eq_true_eq] at he ⊢
      exact he.1
    by_contra hmany
    have hone : 0 < sleptBy (taken.flatMap ChaosExperiment.sleeps) id := by omega
    have htwo : 0 < later.countP fun e => e.id = id ∧ e.faultType ≠ "latency" := by omega
    obtain ⟨p, hp, hpid⟩ := List.countP_pos_iff.mp hone
    obtain ⟨e', he', hid'⟩ := List.countP_pos_iff.mp htwo
    simp only [decide_eq_true_eq] at hpid hid'
    have hmem : p.1 ∈ experiments :=
      htaken.subset ((sleeps_sublist taken).subset (List.mem_map_of_mem hp))
    have hsame := disjoint_faults hnodup hsub hmem he' (hid'.1.trans hpid.symm)
    rw [hsame] at hid'
    exact hid'.2 (latency_of_mem_flatMap hp)
  constructor
  · intro id
    rw [hwalk.slept]
    show sleptBy ([] ++ _) id ≤ 1
    rw [List.nil_append, sleptBy_append, Pi.add_apply]
    refine le_trans (Nat.add_le_add_left ?_ _) (hapart id)
    -- the second pass sleeps for other faults only
    rw [sleptBy_eq]
    have hother : (sleeps.map Prod.fst).countP (fun e => e.id = id) =
        (sleeps.map Prod.fst).countP fun e => e.id = id ∧ e.faultType ≠ "latency" := by
      apply List.countP_congr
      intro e he
      obtain ⟨p, hp, rfl⟩ := List.mem_map.mp he
      simp [hspared.other p hp]
    rw [hother]
    exact hspared.once.countP_le
  · intro id report report' hread hread'
    obtain ⟨r, hr, hle⟩ :=
      ((hstart.trans hprepared.effect.counts).trans (hspared.effect.counts.trans hend))
        id report' hread'
    obtain rfl := Option.some.inj (hr.symm.trans hread)
    have hbound := hapart id
    have hcount : (((0 : String → ℕ) + sleptBy (taken.flatMap ChaosExperiment.sleeps) +
        (otherFaults later + 0)) id) ≤ 1 := by
      simpa [otherFaults] using hbound
    have hcast : ((((0 : String → ℕ) + sleptBy (taken.flatMap ChaosExperiment.sleeps) +
        (otherFaults later + 0)) id : ℕ) : ℤ) ≤ 1 := by exact_mod_cast hcount
    omega
  · intro e he hasks
    rw [hwalk.considered] at he
    have hlooked : e ∈ looked := by
      rcases List.mem_append.mp ((List.nil_append _).symm ▸ he) with hfirst | hsecond
      · exact hfirst
      · rw [hspared.unasked e hsecond] at hasks
        cases hasks
    have hnone : looked'.filter (fun e => e.asks request) = [] := by
      rw [List.filter_eq_nil_iff]
      intro e' he'
      simp [hspared.unasked e' he']
    rw [hwalk.sampled, List.filter_append, hnone, List.append_nil]
    show List.countP _ ([] ++ _) = 1
    rw [List.nil_append]
    have hsublist : (looked.filter fun e => e.asks request).Sublist experiments :=
      List.filter_sublist.trans hbegun
    exact countP_id_eq_one (hnodup.sublist (hsublist.map _))
      (List.mem_filter.mpr ⟨hlooked, hasks⟩)
  · rw [PhaseAccount.latency, hwalk.slept, hwalk.matched]
    show (((([] ++ _) : List (ChaosExperiment K × K)).filter _).map Prod.snd).sum =
      ((([] ++ (taken ++ taken')) : List (ChaosExperiment K)).dedup.map _).sum
    rw [List.nil_append, List.nil_append, List.filter_append]
    have hfirst : (taken.flatMap ChaosExperiment.sleeps).filter
        (fun p => p.1.faultType = "latency") = taken.flatMap ChaosExperiment.sleeps := by
      rw [List.filter_eq_self]
      intro p hp
      simpa using latency_of_mem_flatMap hp
    have hsecond : sleeps.filter (fun p => p.1.faultType = "latency") = [] := by
      rw [List.filter_eq_nil_iff]
      intro p hp
      simpa using hspared.other p hp
    rw [hfirst, hsecond, List.append_nil, sum_sleeps fun e he => hpos e (htaken.subset he),
      sum_dedup_append (List.Nodup.of_map _ hnodupTaken) hspared.idle]

end Kept

/-! ### The promise is broken -/

section Broken

variable {request : ChaosRequest} {experiments looked taken : List (ChaosExperiment K)}
  {s s₁ s₂ s' : FaultState K} {a₂ a' : PhaseAccount K} {e : ChaosExperiment K}

/-- An experiment without a percentage is among those that match. -/
theorem mem_matching {draw : ℕ → K} {n : ℕ} (he : e ∈ experiments)
    (hadmits : e.admits request = true) (hasks : e.asks request = false)
    (hrefuses : e.refuses request = false) : e ∈ matching draw request experiments n := by
  induction experiments generalizing n with
  | nil => cases he
  | cons e' experiments ih =>
      rw [matching]
      rcases List.mem_cons.mp he with rfl | hrest
      · rw [ChaosExperiment.taken, verdict_of_not_asks hadmits hasks hrefuses]
        exact List.mem_append_left _ List.mem_cons_self
      · exact List.mem_append_right _ (ih hrest)

/-- **Whoever is repeated was there before.** -/
theorem not_once_of_repeats {draw : ℕ → K}
    (hprepared : Prepared request experiments looked taken s₁ {} s₂ a₂)
    (hpassed : PassedOnce draw request experiments looked taken s₁ s₂) (he : e ∈ experiments)
    (hrefuses : e.refuses request = false) (hrepeat : Repeats request e a₂ a')
    (hextends : a₂.Extends a') : ¬ OncePerRequest request s s' a' := by
  intro honce
  have hlooked : a₂.considered = looked := hprepared.walked.considered
  rcases hrepeat with ⟨hasks, hlt⟩ | ⟨hadmits, hasks, hpos, hlt⟩
  · have hmem : e ∈ a₂.considered := by
      rw [hlooked, hpassed.all_looked]
      exact he
    have hone := honce.sampled e (hextends.considered.subset hmem) hasks
    have hsampled : e ∈ a₂.sampled := by
      have hwalked : a₂.sampled = looked.filter fun e => e.asks request :=
        hprepared.walked.sampled
      rw [hwalked, hpassed.all_looked]
      exact List.mem_filter.mpr ⟨he, hasks⟩
    have hfirst : 0 < a₂.sampled.countP fun other => other.id = e.id :=
      List.countP_pos_iff.mpr ⟨e, hsampled, by simp⟩
    omega
  · have hone := honce.slept e.id
    have hslept : a₂.slept = taken.flatMap ChaosExperiment.sleeps := hprepared.walked.slept
    have htaken : e ∈ taken := by
      rw [hpassed.all_taken]
      exact mem_matching he hadmits hasks hrefuses
    have hsleep : (e, e.latencySeconds) ∈ a₂.slept := by
      rw [hslept, List.mem_flatMap]
      refine ⟨e, htaken, ?_⟩
      rw [ChaosExperiment.sleeps, if_pos hpos]
      exact List.mem_singleton.mpr rfl
    have hfirst : 0 < sleptBy a₂.slept e.id :=
      List.countP_pos_iff.mpr ⟨_, hsleep, by simp⟩
    have hmany : sleptBy a'.slept e.id ≤ 1 := hone
    omega

end Broken

/-! ### The hook -/

section Hook

variable (env : FaultEnv K) {created settings : FaultSettings K} {request : ChaosRequest}
  {s : FaultState K}

/-- A hook that does nothing. -/
theorem once_of_nothing (request : ChaosRequest) (s : FaultState K) :
    OncePerRequest request s s {} := by
  refine ⟨fun id => Nat.zero_le _, ?_, ?_, rfl⟩
  · intro id report report' hread hread'
    obtain rfl := Option.some.inj (hread.symm.trans hread')
    omega
  · intro e he
    cases he

/-- The listing of the hook. -/
theorem list_run (s : FaultState K) (a : PhaseAccount K) :
    (RequestPhase.chaos (ChaosExperimentStore.listExperiments false)).eval (phaseServe env)
      (s, a) = (.ok (s.runningAt s.chaos.now), s, a) := by
  rw [eval_chaos_silent env (storeList_silent false), run_listExperiments]
  rfl

/-- What comes after the second pass. -/
theorem outcome_run (active : List (ChaosExperiment K))
    (applied : Except Exc (Option FaultInjector.Action × List (ChaosExperiment K)))
    (s : FaultState K) (a : PhaseAccount K) :
    ∃ res s', (RequestPhase.plain (RequestPhase.outcome active applied)).eval (phaseServe env)
        (s, a) = (res, s', a) ∧ Counts 0 s.chaos s'.chaos := by
  rw [RequestPhase.plain,
    eval_plain (outcome_silent active applied) fun a o ho => a.enter_silent ho]
  refine ⟨_, _, rfl, ?_⟩
  have hstill := (Quick.refl s.chaos).counts
  rcases applied with e | ⟨- | (- | - | -), active'⟩
  · exact hstill
  · exact hstill
  · exact hstill
  · exact hstill
  · have hget := getFault_counts env "exception" s
    rw [RequestPhase.outcome, Prog.eval_bind_ok (Prog.eval_attempt _ s)]
    revert hget
    generalize (FaultInjection.getFault "exception").eval (FaultState.serve env) s = out
    rcases out with ⟨e | fault, s'⟩ <;> exact id

/-- The first pass of the hook, from the state it finds. -/
theorem prepare_run (hs : Admissible created s) (request : ChaosRequest)
    (henabled : settings.faultInjectionEnabled = true) :
    ∃ s₁ res s₂ a₂ looked taken,
      (RequestPhase.prepareRequestExperiments settings request).eval (phaseServe env) (s, {}) =
        (res, s₂, a₂) ∧ Quick 0 s.chaos s₁.chaos ∧
      Prepared request (s.runningAt s.chaos.now) looked taken s₁ {} s₂ a₂ ∧
      ((∃ e ∈ s.runningAt s.chaos.now, e.refuses request = true) → ∃ x, res = .error x) ∧
      ((∀ e ∈ s.runningAt s.chaos.now, e.refuses request = false) → res = .ok taken ∧
        PassedOnce env.draw request (s.runningAt s.chaos.now) looked taken s₁ s₂) := by
  obtain ⟨chaos, hfinalize, hquick⟩ := finalizeExpiredReports_quick env.toChaosEnv hs.reports
  have hstart := eval_chaos_silent env finalizeExpiredReports_silent s {}
  rw [hfinalize] at hstart
  let s₁ : FaultState K := { s with chaos := chaos }
  have hrunning : s₁.runningAt s₁.chaos.now = s.runningAt s.chaos.now := by
    have hnow : s₁.chaos.now = s.chaos.now := hquick.now_eq
    rw [hnow]
    exact hquick.toEffect.runningAt _
  obtain ⟨res, s₂, a₂, looked, taken, heval, hprepared, herror, hpassed⟩ :=
    prepareEach_run env request
      (fun e (he : e ∈ s.runningAt s.chaos.now) => formed_of_running hs he) s₁ {}
  refine ⟨s₁, res, s₂, a₂, looked, taken, ?_, hquick, hprepared, herror, hpassed⟩
  rw [RequestPhase.prepareRequestExperiments, if_neg (by simp [henabled]),
    Prog.eval_bind_ok hstart, Prog.eval_bind_ok (list_run env s₁ {}), hrunning]
  exact heval

/-- **Each matching experiment is injected at most once for a request exactly when the
second pass of the hook has nothing to do again.** -/
theorem injected_once_iff (hs : Admissible created s) (settings : FaultSettings K)
    (request : ChaosRequest) :
    OncePerRequest request s (RequestPhase.run env settings request s).2.1
      (RequestPhase.run env settings request s).2.2 ↔ InjectsOnce env settings request s := by
  rw [RequestPhase.run, RequestPhase.beforeRequest, InjectsOnce]
  cases hexempt : FaultInjection.exempt request.path with
  | true => exact ⟨fun _ => .inl rfl, fun _ => once_of_nothing request s⟩
  | false =>
  rw [if_neg (by decide)]
  cases henabled : settings.faultInjectionEnabled with
  | false =>
      refine ⟨fun _ => .inr (.inl rfl), fun _ => ?_⟩
      rw [RequestPhase.prepareRequestExperiments, if_pos henabled]
      have happly : ∀ active, RequestPhase.applyFaults settings request active =
          pure (none, active) := fun active => if_pos henabled
      simp only [happly]
      exact once_of_nothing request s
  | true =>
  obtain ⟨s₁, res, s₂, a₂, looked, taken, hprepare, hquick, hprepared, herror, hpassed⟩ :=
    prepare_run env hs request henabled
  have hnodup := nodup_runningAt hs.named s.chaos.now
  have hpos : ∀ e ∈ s.runningAt s.chaos.now, 0 ≤ e.latencySeconds := by
    intro e he
    obtain ⟨injector, hformed⟩ := formed_of_running hs he
    exact hformed.latencySeconds_nonneg
  rw [Prog.eval_bind_ok (show (RequestPhase.prepareRequestExperiments settings request).attempt.eval
    (phaseServe env) (s, {}) = (.ok res, s₂, a₂) by rw [Prog.eval_attempt, hprepare])]
  by_cases hrefused : ∃ e ∈ s.runningAt s.chaos.now, e.refuses request = true
  · obtain ⟨x, rfl⟩ := herror hrefused
    refine ⟨fun _ => .inr (.inr (.inl hrefused)), fun _ => ?_⟩
    exact once_of_passes hquick.counts hprepared (Spared.rest [] s₂ a₂) (Quick.refl s₂.chaos).counts
      hnodup List.nodup_nil (fun e he => absurd he List.not_mem_nil) hpos
  have hsafe : ∀ e ∈ s.runningAt s.chaos.now, e.refuses request = false := by
    intro e he
    cases hrefuses : e.refuses request with
    | false => rfl
    | true => exact absurd ⟨e, he, hrefuses⟩ hrefused
  obtain ⟨rfl, hpass⟩ := hpassed hsafe
  have heffect : Effect (0 + sleptBy (taken.flatMap ChaosExperiment.sleeps)) s.chaos s₂.chaos :=
    hquick.toEffect.trans hprepared.effect
  -- the second listing, in terms of the state before the hook
  let delay := ((matching env.draw request (s.runningAt s.chaos.now) s.chaos.drawn).map
    ChaosExperiment.latencySeconds).sum
  let later := s.runningAt (s.chaos.now + delay)
  have hdelay : (taken.map ChaosExperiment.latencySeconds).sum = delay := by
    rw [hpass.all_taken, hquick.drawn_eq]
  have hnow : s₂.chaos.now = s.chaos.now + delay := by
    rw [hpass.now, hquick.now_eq, hdelay]
  have hlater : s₂.runningAt s₂.chaos.now = later := by
    rw [hnow]
    exact heffect.runningAt _
  have hdrawn : s₂.chaos.drawn = s.chaos.drawn +
      ((s.runningAt s.chaos.now).filter fun e => e.asks request).length := by
    rw [hpass.drawn, hquick.drawn_eq]
  have hsub : ∀ e ∈ later, e ∈ s.runningAt s.chaos.now := by
    intro e he
    refine mem_runningAt_of_le ?_ he
    rw [← hnow]
    exact heffect.now
  have hvalid : ∀ e ∈ later, ∃ injector, e.Formed injector := fun e he => formed_of_running hs he
  have happly : (RequestPhase.applyFaults settings request taken).eval (phaseServe env) (s₂, a₂) =
      (RequestPhase.applyEach request later taken).eval (phaseServe env) (s₂, a₂) := by
    rw [RequestPhase.applyFaults, if_neg (by simp [henabled]),
      Prog.eval_bind_ok (list_run env s₂ a₂), hlater]
  dsimp only
  rw [Prog.eval_bind_ok (Prog.eval_attempt _ _), happly, ← hdrawn]
  cases hspares : spares env.draw request later s₂.chaos.drawn with
  | true =>
      refine ⟨fun _ => .inr (.inr (.inr rfl)), fun _ => ?_⟩
      obtain ⟨res, s₃, a₃, looked', taken', sleeps, heval, hspared⟩ := applyEach_spares hvalid
        (fun e he => hsafe e (hsub e he)) s₂ a₂ taken hspares
      rw [heval]
      obtain ⟨res', s₄, houtcome, hend⟩ := outcome_run env taken (.ok res) s₃ a₃
      rw [houtcome]
      exact once_of_passes hquick.counts hprepared hspared hend hnodup
        (nodup_runningAt hs.named _) hsub hpos
  | false =>
      constructor
      · intro honce
        exfalso
        obtain ⟨e, he, hrepeat⟩ := applyEach_repeats hvalid
          (fun e he => hsafe e (hsub e he)) s₂ a₂ taken hspares
        have hextends := extends_run env
          (RequestPhase.applyEach request later taken) s₂ a₂
        revert honce hrepeat hextends
        generalize (RequestPhase.applyEach request later taken).eval (phaseServe env) (s₂, a₂) = out
        obtain ⟨res, s₃, a₃⟩ := out
        intro honce hrepeat hextends
        obtain ⟨res', s₄, houtcome, -⟩ := outcome_run env taken res s₃ a₃
        dsimp only at honce
        rw [houtcome] at honce
        exact not_once_of_repeats hprepared hpass (hsub e he) (hsafe e (hsub e he)) hrepeat
          hextends honce
      · rintro (h | h | h | h)
        · cases h
        · cases h
        · exact absurd h hrefused
        · cases h

end Hook

/-! ### What the entry points store -/

section Created

variable {settings : FaultSettings K} {s : FaultState K} {e : ChaosExperiment K}

theorem admissible_initial (now : K) : Admissible settings (.initial now) := by
  constructor
  · intro id e hslot
    cases hslot
  · intro id e hslot
    cases hslot
  · intro id r hslot
    cases hslot

/-- An experiment with checked parameters may be stored. -/
theorem Admissible.store (hs : Admissible settings s)
    (hvalid : validateFaultParams settings e.faultType e.params.stored = none) :
    Admissible settings { s with chaos := (s.chaos.store e).announce e } := by
  have hexperiment : ((s.chaos.store e).announce e).data.slots (.experiment e.id) =
      some ⟨e.stored, some (s.chaos.now + e.duration)⟩ :=
    (Listed.put_slots_of_ne (by simp)).trans Listed.put_slots_self
  have hreport : ((s.chaos.store e).announce e).data.slots (.report e.id) =
      some ⟨initialReport e, some (s.chaos.now + reportTtl e.duration)⟩ := Listed.put_slots_self
  have hother : ∀ k, k ≠ .experiment e.id → k ≠ .report e.id →
      ((s.chaos.store e).announce e).data.slots k = s.chaos.data.slots k := fun k hne hne' =>
    (Listed.put_slots_of_ne hne').trans (Listed.put_slots_of_ne hne)
  constructor
  · intro id entry hslot
    by_cases hid : id = e.id
    · subst hid
      obtain rfl := Option.some.inj (hexperiment.symm.trans hslot)
      rfl
    · exact hs.named id entry ((hother _ (by simpa using hid) (by simp)).symm.trans hslot)
  · intro id entry hslot
    by_cases hid : id = e.id
    · subst hid
      obtain rfl := Option.some.inj (hexperiment.symm.trans hslot)
      exact hvalid
    · exact hs.valid id entry ((hother _ (by simpa using hid) (by simp)).symm.trans hslot)
  · intro id r hslot
    by_cases hid : id = e.id
    · subst hid
      obtain rfl := Option.some.inj (hreport.symm.trans hslot)
      rfl
    · exact hs.reports id r ((hother _ (by simp) (by simpa using hid)).symm.trans hslot)

end Created

/-! ### A latency of either kind -/

/-- A latency for every request, of the legacy API or of its own. -/
def slowRequests (legacyApi : Bool) : ChaosExperiment ℚ where
  id := "a"
  name := "legacy_latency"
  hypothesis := "legacy fault injection for latency"
  target := [("endpoint", .str "*"), ("phase", .str "pre_request")]
  faultType := "latency"
  params := [("latency_ms", .int 50)]
  duration := 60
  status := chaosStatusRunning
  createdAt := 0
  updatedAt := 0
  legacyApi := legacyApi

def slowState (legacyApi : Bool) : FaultState ℚ :=
  { (FaultState.initial 0 : FaultState ℚ) with
    chaos := ((ChaosState.initial 0).store (slowRequests legacyApi)).announce
      (slowRequests legacyApi) }

theorem admissible_slowState (legacyApi : Bool) : Admissible chaosSettings (slowState legacyApi) :=
  (admissible_initial 0).store (s := .initial 0) (by cases legacyApi <;> decide +kernel)

def slowRequest : ChaosRequest := ⟨"/orders", "POST"⟩

theorem injected_once_slow :
    OncePerRequest slowRequest (slowState false)
        (RequestPhase.run lowEnv chaosSettings slowRequest (slowState false)).2.1
        (RequestPhase.run lowEnv chaosSettings slowRequest (slowState false)).2.2 ∧
      (RequestPhase.run lowEnv chaosSettings slowRequest (slowState false)).2.2.latency = 1 / 20 :=
  ⟨(injected_once_iff lowEnv (admissible_slowState false) chaosSettings slowRequest).mpr
    (.inr (.inr (.inr (by decide +kernel)))), by decide +kernel⟩

/-- **A legacy latency is slept twice**, and counted twice. -/
theorem legacy_latency_twice : ∃ s, Admissible chaosSettings s ∧
    ¬ OncePerRequest slowRequest s (RequestPhase.run lowEnv chaosSettings slowRequest s).2.1
      (RequestPhase.run lowEnv chaosSettings slowRequest s).2.2 := by
  refine ⟨slowState true, admissible_slowState true, fun honce => ?_⟩
  have htwice : (RequestPhase.run lowEnv chaosSettings slowRequest
      (slowState true)).2.2.slept.countP (fun p => p.1.id = "a") = 2 := by decide +kernel
  have hle := honce.slept "a"
  omega

end ChaosDemo
