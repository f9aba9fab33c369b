/-
ChaosDemo/RequestOnce.lean

The two passes of the request hook.  `prepareEach` looks at every running experiment
once; `applyEach` looks at the legacy ones again, and its injectors forward to the hook
that the first pass has called.  One lemma says what looking at an experiment does
(`match_run`), one what an injector does (`legacyApply_run`), and each pass is an
induction over its list.
-/
import ChaosDemo.PhaseEffects

set_option linter.unusedSectionVars false

namespace ChaosDemo

open CallTree Keyspace ChaosExperimentStore ChaosObserver

variable {K : Type} [Field K] [LinearOrder K] [IsStrictOrderedRing K]

/-! ### Calls that no account looks at -/

/-- The call is no draw and no sleep. -/
def ChaosOp.silent : ChaosOp K → Prop
  | .random => False
  | .sleep _ => False
  | _ => True

def FaultOp.silent : FaultOp K → Prop
  | .chaos o => o.silent
  | _ => True

theorem PhaseAccount.enter_silent (a : PhaseAccount K) {o : FaultOp K} (ho : o.silent) :
    a.enter (.inl o) = a := by
  cases o with
  | chaos o =>
      cases o with
      | random => exact ho.elim
      | sleep seconds => exact ho.elim
      | _ => rfl
  | _ => rfl

section Silent

theorem recordReportRecoveredMetrics_silent (report : Report K) :
    (recordReportRecoveredMetrics report).Only ChaosOp.silent := by
  refine .bind (.perform trivial) fun _ => .bind (.perform trivial) fun _ => ?_
  have hrest : ∀ _ : Unit, (do
      let now ← Chaos.time
      Chaos.metric report.experimentId report.labels
        (.recoveryDuration (max (now - report.createdAt) 0)) : Chaos K Unit).Only
        ChaosOp.silent :=
    fun _ => .bind (.perform trivial) fun _ => .perform trivial
  show (if report.afterErrorCount = 0 then _ else _ : Chaos K Unit).Only ChaosOp.silent
  exact .ite (.bind (.perform trivial) hrest) (.bind (.perform trivial) hrest)

theorem recordInjected_silent (experiment : ChaosExperiment K) (phase : String) :
    (recordInjected experiment phase).Only ChaosOp.silent := by
  refine .bind (.perform trivial) fun _ => .bind (.perform trivial) fun report => ?_
  cases report with
  | none => trivial
  | some report => exact .perform trivial

theorem finalizeExpiredReports_silent :
    (finalizeExpiredReports : Chaos K Unit).Only ChaosOp.silent := by
  refine .bind (.perform trivial) fun now => .bind (.perform trivial) fun ids => ?_
  induction pySorted ids with
  | nil => trivial
  | cons id ids ih =>
      refine .bind (.bind (.perform trivial) fun report => ?_) fun _ => ih
      cases report with
      | none => trivial
      | some report =>
          refine .ite trivial (.ite ?_ trivial)
          exact .bind (recordReportRecoveredMetrics_silent report) fun _ => .perform trivial

theorem listEach_silent (includeStopped : Bool) (ids : List String) :
    (listEach includeStopped ids : Chaos K _).Only ChaosOp.silent := by
  refine (listEach_reads includeStopped ids).mono fun o ho => ?_
  cases o with
  | random => exact ho
  | sleep seconds => exact ho
  | _ => trivial

theorem storeList_silent (includeStopped : Bool) :
    (ChaosExperimentStore.listExperiments includeStopped : Chaos K _).Only ChaosOp.silent :=
  .bind (.perform trivial) fun ids => listEach_silent includeStopped (pySorted ids)

theorem stopExperiment_silent (id : String) :
    (ChaosDemo.stopExperiment id : Chaos K _).Only ChaosOp.silent := by
  refine .bind (.bind (.perform trivial) fun experiment => ?_) fun experiment => ?_
  · cases experiment with
    | none => trivial
    | some experiment =>
        exact .bind (.perform trivial) fun now => .bind (.perform trivial) fun _ => trivial
  · cases experiment with
    | none => trivial
    | some experiment =>
        refine .bind (.bind (.perform trivial) fun report => ?_) fun _ => trivial
        cases report with
        | none => trivial
        | some report =>
            exact .bind (recordReportRecoveredMetrics_silent report) fun _ => .perform trivial

theorem stopEach_silent (experiments : List (ChaosExperiment K)) :
    (stopEach experiments).Only ChaosOp.silent := by
  induction experiments with
  | nil => trivial
  | cons experiment experiments ih =>
      exact .bind (stopExperiment_silent _) fun _ => .bind ih fun _ => trivial

theorem ofChaos_silent {α : Type} {p : Chaos K α} (hp : p.Only ChaosOp.silent) :
    (Faults.ofChaos p).Only FaultOp.silent :=
  hp.interp fun _ ho => .perform ho

theorem getFault_silent (faultType : String) :
    (FaultInjection.getFault faultType : Faults K _).Only FaultOp.silent := by
  refine .bind (.perform trivial) fun raw => ?_
  cases raw with
  | some record => trivial
  | none =>
      refine .bind (ofChaos_silent ?_) fun _ => trivial
      refine .bind (storeList_silent false) fun _ => .ite trivial ?_
      exact .bind (stopEach_silent _) fun _ => trivial

theorem outcome_silent (active : List (ChaosExperiment K))
    (applied : Except Exc (Option FaultInjector.Action × List (ChaosExperiment K))) :
    (RequestPhase.outcome active applied).Only FaultOp.silent := by
  rcases applied with e | ⟨- | (- | - | -), active'⟩
  · trivial
  · trivial
  · trivial
  · trivial
  · refine .bind (getFault_silent "exception").attempt fun fault => ?_
    rcases fault with e | fault <;> trivial

end Silent

/-! ### Runs with an account -/

/-- One call or note, with the account. -/
abbrev phaseServe (env : FaultEnv K) :
    FaultState K × PhaseAccount K → (o : ((FaultSig K).noted (PhaseNote K)).Op) →
      Except Exc (((FaultSig K).noted (PhaseNote K)).Ret o) × (FaultState K × PhaseAccount K) :=
  noted (FaultState.serve env) PhaseAccount.enter

section Runs

variable {env : FaultEnv K} {request : ChaosRequest}

variable (env) in
theorem eval_chaos_silent {α : Type} {p : Chaos K α} (hp : p.Only ChaosOp.silent)
    (s : FaultState K) (a : PhaseAccount K) :
    (RequestPhase.chaos p).eval (phaseServe env) (s, a) =
      ((p.eval (ChaosState.serve env.toChaosEnv) s.chaos).1,
        { s with chaos := (p.eval (ChaosState.serve env.toChaosEnv) s.chaos).2 }, a) := by
  rw [RequestPhase.chaos, RequestPhase.plain,
    eval_plain (ofChaos_silent hp) (fun a o ho => a.enter_silent ho), eval_ofChaos]

theorem plain_bind {α β : Type} (p : Faults K α) (f : α → Faults K β) :
    RequestPhase.plain (p >>= f) =
      RequestPhase.plain p >>= fun x => RequestPhase.plain (f x) :=
  Prog.interp_bind _ _ _

theorem chaos_bind {α β : Type} (p : Chaos K α) (f : α → Chaos K β) :
    RequestPhase.chaos (p >>= f) =
      RequestPhase.chaos p >>= fun x => RequestPhase.chaos (f x) := by
  rw [RequestPhase.chaos, RequestPhase.ofChaos_bind]
  exact plain_bind _ _

/-! ### Looking at an experiment -/

theorem matchRequest_eq (experiment : ChaosExperiment K) (request : ChaosRequest) :
    ChaosDemo.matchRequest experiment request =
      if experiment.admits request = true then percentageMatch experiment.target
      else pure false := by
  rw [ChaosDemo.matchRequest, ChaosExperiment.admits]
  split
  · rename_i h
    simp [h]
  · rename_i h
    split
    · rename_i h'
      simp [h']
    · rename_i h'
      rw [if_pos]
      simp only [Bool.and_eq_true, Bool.not_eq_true', decide_eq_false_iff_not]
      exact ⟨h, h'⟩

theorem percentageMatch_eq (target : Dict) :
    (percentageMatch target : Chaos K Bool) =
      match share target with
      | .error e => .raise e
      | .ok none => .ret true
      | .ok (some p) => Chaos.random >>= fun sample => pure (decide (sample < p)) := by
  rw [percentageMatch, share]
  generalize target.get "percentage" = percentage
  cases percentage with
  | null => rfl
  | _ =>
      dsimp only
      generalize (pyFloat _ : Except Exc K) = value
      cases value <;> rfl

/-- The state once the percentage is sampled, where it is. -/
def FaultState.sampledFor (s : FaultState K) (experiment : ChaosExperiment K)
    (request : ChaosRequest) : FaultState K :=
  if experiment.asks request then
    { s with chaos := { s.chaos with drawn := s.chaos.drawn + 1 } }
  else s

/-- The account once the experiment was looked at. -/
def PhaseAccount.looked (a : PhaseAccount K) (experiment : ChaosExperiment K)
    (request : ChaosRequest) (matched : Bool) : PhaseAccount K where
  current := if matched then some (.matched experiment) else some (.considered experiment)
  considered := a.considered ++ [experiment]
  matched := a.matched ++ if matched then [experiment] else []
  sampled := a.sampled ++ if experiment.asks request then [experiment] else []
  slept := a.slept

/-- **What looking at an experiment does.** -/
theorem match_run (experiment : ChaosExperiment K) (s : FaultState K) (a : PhaseAccount K) :
    (RequestPhase.matchRequest experiment request).eval (phaseServe env) (s, a) =
      (experiment.verdict env.draw request s.chaos.drawn, s.sampledFor experiment request,
        a.looked experiment request
          (favourable (experiment.verdict env.draw request s.chaos.drawn))) := by
  rw [RequestPhase.matchRequest, RequestPhase.note, eval_note_bind, Prog.eval_bind,
    matchRequest_eq, FaultState.sampledFor, PhaseAccount.looked]
  have hverdict := ChaosExperiment.verdict.eq_1 experiment env.draw request s.chaos.drawn
  have hasks := ChaosExperiment.asks.eq_1 experiment request
  cases hadmits : experiment.admits request with
  | false =>
      rw [hadmits, if_pos rfl] at hverdict
      rw [hadmits, Bool.false_and] at hasks
      simp only [hverdict, hasks, favourable, Bool.false_eq_true, if_false, List.append_nil]
      rfl
  | true =>
      rw [hadmits, if_neg (by decide)] at hverdict
      rw [hadmits, Bool.true_and] at hasks
      rw [if_pos rfl, percentageMatch_eq]
      rcases hshare : (share experiment.target : Except Exc (Option K)) with e | - | p
      · rw [hshare] at hverdict hasks
        simp only [hverdict, hasks, favourable, Bool.false_eq_true, if_false, List.append_nil]
        rfl
      · rw [hshare] at hverdict hasks
        simp only [hverdict, hasks, favourable, Bool.false_eq_true, if_false, List.append_nil]
        rfl
      · rw [hshare] at hverdict hasks
        have hdraw : (RequestPhase.chaos (Chaos.random >>= fun sample =>
            pure (decide (sample < p)))).eval (phaseServe env)
            (s, a.enter (.inr (.considered experiment))) =
            (.ok (decide (env.draw s.chaos.drawn < p)),
              { s with chaos := { s.chaos with drawn := s.chaos.drawn + 1 } },
              { a.enter (.inr (.considered experiment)) with
                sampled := a.sampled ++ [experiment] }) := rfl
        simp only [hverdict, hasks, favourable, if_true, hdraw]
        by_cases hlt : env.draw s.chaos.drawn < p
        · simp only [hlt, decide_true]
          rfl
        · simp only [hlt, decide_false, Bool.false_eq_true, if_false, List.append_nil]
          rfl

theorem refuses_iff {experiment : ChaosExperiment K} {draw : ℕ → K} {n : ℕ} :
    experiment.refuses request = true ↔ ∃ e, experiment.verdict draw request n = .error e := by
  rw [ChaosExperiment.refuses, ChaosExperiment.verdict]
  cases experiment.admits request with
  | false => simp
  | true =>
      rcases (share experiment.target : Except Exc (Option K)) with e | - | p <;> simp

variable (request) in
theorem taken_sublist (experiment : ChaosExperiment K) (draw : ℕ → K) (n : ℕ) :
    (experiment.taken draw request n).Sublist [experiment] := by
  rw [ChaosExperiment.taken]
  split
  · exact List.Sublist.refl _
  · exact List.nil_sublist _

end Runs

/-! ### What the account grows by -/

/-- The sleep of an experiment that has matched. -/
def ChaosExperiment.sleeps (experiment : ChaosExperiment K) : List (ChaosExperiment K × K) :=
  if 0 < experiment.latencySeconds then [(experiment, experiment.latencySeconds)] else []

/-- How often an experiment sleeps. -/
def sleptBy (slept : List (ChaosExperiment K × K)) (id : String) : ℕ :=
  slept.countP fun p => p.1.id = id

theorem sleptBy_append (slept slept' : List (ChaosExperiment K × K)) :
    sleptBy (slept ++ slept') = sleptBy slept + sleptBy slept' := by
  funext id
  exact List.countP_append

/-- What was looked at, what has matched, and who has slept. -/
structure Walked (request : ChaosRequest) (looked taken : List (ChaosExperiment K))
    (sleeps : List (ChaosExperiment K × K)) (a a' : PhaseAccount K) : Prop where
  considered : a'.considered = a.considered ++ looked
  matched : a'.matched = a.matched ++ taken
  sampled : a'.sampled = a.sampled ++ looked.filter fun e => e.asks request
  slept : a'.slept = a.slept ++ sleeps

section Passes

variable {env : FaultEnv K} {request : ChaosRequest}
  {looked taken looked' taken' : List (ChaosExperiment K)}
  {sleeps sleeps' : List (ChaosExperiment K × K)} {a a' a'' : PhaseAccount K}

theorem Walked.refl (request : ChaosRequest) (a : PhaseAccount K) :
    Walked request [] [] [] a a :=
  ⟨(List.append_nil _).symm, (List.append_nil _).symm, (List.append_nil _).symm,
    (List.append_nil _).symm⟩

theorem Walked.trans (h : Walked request looked taken sleeps a a')
    (h' : Walked request looked' taken' sleeps' a' a'') :
    Walked request (looked ++ looked') (taken ++ taken') (sleeps ++ sleeps') a a'' := by
  constructor
  · rw [h'.considered, h.considered, List.append_assoc]
  · rw [h'.matched, h.matched, List.append_assoc]
  · rw [h'.sampled, h.sampled, List.append_assoc, List.filter_append]
  · rw [h'.slept, h.slept, List.append_assoc]

variable (request) in
theorem Walked.of_looked (experiment : ChaosExperiment K) (a : PhaseAccount K) (b : Bool) :
    Walked request [experiment] (if b then [experiment] else []) []
      a (a.looked experiment request b) := by
  refine ⟨rfl, rfl, ?_, (List.append_nil _).symm⟩
  rw [PhaseAccount.looked, List.filter_cons, List.filter_nil]

/-! ### The first pass -/

variable (request) in
theorem FaultState.sampledFor_effect (s : FaultState K) (experiment : ChaosExperiment K) :
    Effect 0 s.chaos (s.sampledFor experiment request).chaos ∧
      (s.sampledFor experiment request).chaos.now = s.chaos.now ∧
      (s.sampledFor experiment request).chaos.drawn =
        if experiment.asks request then s.chaos.drawn + 1 else s.chaos.drawn := by
  rw [FaultState.sampledFor]
  split
  · exact ⟨Effect.of_data rfl (le_refl _), rfl, rfl⟩
  · exact ⟨Effect.of_data rfl (le_refl _), rfl, rfl⟩

variable (env) in
/-- **What `before_request` of an injector does.** -/
theorem beforeRequest_run {e : ChaosExperiment K} {injector : FaultInjector}
    (hformed : e.Formed injector) (hcurrent : a.current = some (.matched e)) (s : FaultState K) :
    ∃ s', (RequestPhase.chaos (injector.beforeRequest e)).eval (phaseServe env) (s, a) =
        (.ok (), s', { a with slept := a.slept ++ e.sleeps }) ∧
      Effect (sleptBy e.sleeps) s.chaos s'.chaos ∧
      s'.chaos.now = s.chaos.now + e.latencySeconds ∧ s'.chaos.drawn = s.chaos.drawn := by
  -- an injector without a hook of its own
  have hnothing : e.latencySeconds = 0 → ∃ s',
      (RequestPhase.chaos (pure () : Chaos K Unit)).eval (phaseServe env) (s, a) =
        (.ok (), s', { a with slept := a.slept ++ e.sleeps }) ∧
      Effect (sleptBy e.sleeps) s.chaos s'.chaos ∧
      s'.chaos.now = s.chaos.now + e.latencySeconds ∧ s'.chaos.drawn = s.chaos.drawn := by
    intro hzero
    have hsleeps : e.sleeps = [] := by simp [ChaosExperiment.sleeps, hzero]
    rw [hsleeps, List.append_nil, hzero, add_zero]
    exact ⟨s, rfl, (Quick.refl s.chaos).toEffect, rfl, rfl⟩
  cases hformed with
  | latency htype hpos hms =>
      have hseconds : e.latencySeconds = e.number "latency_ms" / 1000 := if_pos htype
      have hhook : FaultInjector.latency.beforeRequest e =
          if e.number "latency_ms" ≤ 0 then pure ()
          else recordInjected e "before_request" >>= fun _ =>
            Chaos.sleep (e.number "latency_ms" / 1000) := by
        rw [FaultInjector.beforeRequest, hms]
        rfl
      rw [hhook]
      by_cases hzero : e.number "latency_ms" ≤ 0
      · rw [if_pos hzero]
        apply hnothing
        rw [hseconds, le_antisymm hzero hpos, zero_div]
      · rw [if_neg hzero, ← hseconds, chaos_bind]
        have hlt : 0 < e.latencySeconds := by
          have hms : 0 < e.number "latency_ms" := not_le.mp hzero
          rw [hseconds]
          positivity
        have hsleeps : e.sleeps = [(e, e.latencySeconds)] := if_pos hlt
        obtain ⟨s₁, hinjected, hquick⟩ := recordInjected_quick env.toChaosEnv e
          "before_request" s.chaos
        have hinjected' := eval_chaos_silent env
          (recordInjected_silent e "before_request") s a
        rw [hinjected] at hinjected'
        rw [Prog.eval_bind_ok hinjected', hsleeps]
        refine ⟨{ s with chaos := { s₁ with now := s₁.now + e.latencySeconds } }, ?_, ?_, ?_,
          hquick.drawn_eq⟩
        · show (Except.ok (), _, a.enter (.inl (.chaos (.sleep e.latencySeconds)))) = _
          rw [PhaseAccount.enter, hcurrent]
          rfl
        · have hwait : Effect 0 s₁ { s₁ with now := s₁.now + e.latencySeconds } :=
            Effect.of_data rfl (le_add_of_nonneg_right hlt.le)
          refine (hquick.toEffect.trans hwait).mono fun id => ?_
          by_cases hid : id = e.id
          · subst hid
            simp [sleptBy]
          · simp [Pi.single_eq_of_ne hid]
        · show s₁.now + e.latencySeconds = _
          rw [hquick.now_eq]
  | exception htype => exact hnothing (if_neg (by rw [htype]; decide))
  | drop htype hrate => exact hnothing (if_neg (by rw [htype]; decide))
  | slowDb htype => exact hnothing (if_neg (by rw [htype]; decide))

/-- One round of the first pass. -/
def RequestPhase.prepareOne (request : ChaosRequest) (experiment : ChaosExperiment K) :
    PhaseProg K Bool := do
  let matched ← RequestPhase.matchRequest experiment request
  if matched then do
    let injector ← Prog.ofExcept (buildInjector experiment.faultType)
    RequestPhase.chaos (injector.beforeRequest experiment)
    pure true
  else pure false

theorem prepareEach_cons (experiment : ChaosExperiment K)
    (experiments : List (ChaosExperiment K)) :
    RequestPhase.prepareEach request (experiment :: experiments) =
      RequestPhase.prepareOne request experiment >>= fun matched =>
        RequestPhase.prepareEach request experiments >>= fun active =>
          pure (if matched then experiment :: active else active) := by
  rw [RequestPhase.prepareEach, RequestPhase.prepareOne, Prog.bind_assoc]
  congr 1
  funext matched
  cases matched with
  | false => exact (Prog.bind_ret _).symm
  | true =>
      simp only [if_true, Prog.bind_assoc]
      rfl

variable (env) (request) in
theorem prepareOne_run {e : ChaosExperiment K} {injector : FaultInjector}
    (hformed : e.Formed injector) (s : FaultState K) (a : PhaseAccount K) :
    ∃ s' a', (RequestPhase.prepareOne request e).eval (phaseServe env) (s, a) =
        (e.verdict env.draw request s.chaos.drawn, s', a') ∧
      Walked request [e] (e.taken env.draw request s.chaos.drawn)
        ((e.taken env.draw request s.chaos.drawn).flatMap ChaosExperiment.sleeps) a a' ∧
      Effect (sleptBy ((e.taken env.draw request s.chaos.drawn).flatMap ChaosExperiment.sleeps))
        s.chaos s'.chaos ∧
      s'.chaos.now = s.chaos.now +
        ((e.taken env.draw request s.chaos.drawn).map ChaosExperiment.latencySeconds).sum ∧
      s'.chaos.drawn = if e.asks request then s.chaos.drawn + 1 else s.chaos.drawn := by
  obtain ⟨heffect, hnow, hdrawn⟩ := s.sampledFor_effect request e
  have hwalk : ∀ b, Walked request [e] (if b then [e] else []) [] a (a.looked e request b) :=
    Walked.of_looked request e a
  rw [RequestPhase.prepareOne, Prog.eval_bind, match_run, ChaosExperiment.taken]
  rcases hverdict : e.verdict env.draw request s.chaos.drawn with x | - | -
  · exact ⟨_, _, rfl, hwalk false, heffect, by simpa [favourable] using hnow, hdrawn⟩
  · exact ⟨_, _, rfl, hwalk false, heffect, by simpa [favourable] using hnow, hdrawn⟩
  · obtain ⟨s', heval, heffect', hnow', hdrawn'⟩ := beforeRequest_run env hformed
      (a := a.looked e request true) rfl (s.sampledFor e request)
    refine ⟨s', { a.looked e request true with slept := a.slept ++ e.sleeps }, ?_, ?_, ?_, ?_,
      hdrawn'.trans hdrawn⟩
    · show ((Prog.ofExcept (buildInjector e.faultType) >>= fun injector =>
        RequestPhase.chaos (injector.beforeRequest e) >>= fun _ => pure true :
          PhaseProg K Bool)).eval (phaseServe env) _ = _
      rw [hformed.built]
      exact Prog.eval_bind_ok heval
    · have hslept : Walked request [] [] e.sleeps (a.looked e request true)
          { a.looked e request true with slept := a.slept ++ e.sleeps } :=
        ⟨(List.append_nil _).symm, (List.append_nil _).symm, (List.append_nil _).symm, rfl⟩
      simpa [favourable] using (hwalk true).trans hslept
    · have hboth := heffect.trans heffect'
      rw [zero_add] at hboth
      simpa [favourable] using hboth
    · simp only [favourable, if_true, List.map_cons, List.map_nil, List.sum_cons, List.sum_nil,
        add_zero]
      rw [hnow', hnow]

/-- How far the first pass has come. -/
structure Prepared (request : ChaosRequest) (experiments looked taken : List (ChaosExperiment K))
    (s : FaultState K) (a : PhaseAccount K) (s' : FaultState K) (a' : PhaseAccount K) :
    Prop where
  begun : looked <+: experiments
  among : taken.Sublist looked
  walked : Walked request looked taken (taken.flatMap ChaosExperiment.sleeps) a a'
  effect : Effect (sleptBy (taken.flatMap ChaosExperiment.sleeps)) s.chaos s'.chaos

/-- The first pass has come to its end. -/
structure PassedOnce (draw : ℕ → K) (request : ChaosRequest)
    (experiments looked taken : List (ChaosExperiment K)) (s s' : FaultState K) : Prop where
  all_looked : looked = experiments
  all_taken : taken = matching draw request experiments s.chaos.drawn
  now : s'.chaos.now = s.chaos.now + (taken.map ChaosExperiment.latencySeconds).sum
  drawn : s'.chaos.drawn =
    s.chaos.drawn + (experiments.filter fun e => e.asks request).length

variable (env) (request) in
theorem prepareEach_run {experiments : List (ChaosExperiment K)}
    (hvalid : ∀ e ∈ experiments, ∃ injector, e.Formed injector) (s : FaultState K)
    (a : PhaseAccount K) :
    ∃ res s' a' looked taken,
      (RequestPhase.prepareEach request experiments).eval (phaseServe env) (s, a) =
        (res, s', a') ∧
      Prepared request experiments looked taken s a s' a' ∧
      ((∃ e ∈ experiments, e.refuses request = true) → ∃ x, res = .error x) ∧
      ((∀ e ∈ experiments, e.refuses request = false) →
        res = .ok taken ∧ PassedOnce env.draw request experiments looked taken s s') := by
  induction experiments generalizing s a with
  | nil =>
      refine ⟨.ok [], s, a, [], [], rfl, ?_, ?_, ?_⟩
      · exact ⟨List.prefix_refl _, List.Sublist.refl _, Walked.refl request a,
          (Quick.refl s.chaos).toEffect⟩
      · rintro ⟨e, hmem, -⟩
        cases hmem
      · intro _
        exact ⟨rfl, rfl, rfl, (add_zero _).symm, rfl⟩
  | cons e experiments ih =>
      obtain ⟨injector, hformed⟩ := hvalid e List.mem_cons_self
      obtain ⟨s₁, a₁, hone, hwalk, heffect, hnow, hdrawn⟩ :=
        prepareOne_run env request hformed s a
      have htaken := taken_sublist request e env.draw s.chaos.drawn
      rw [prepareEach_cons, Prog.eval_bind, hone]
      rcases hverdict : e.verdict env.draw request s.chaos.drawn with x | matched
      · -- the pass is given up
        have hrefuses : e.refuses request = true := refuses_iff.mpr ⟨x, hverdict⟩
        refine ⟨.error x, s₁, a₁, [e], _, rfl, ⟨⟨experiments, rfl⟩, htaken, hwalk, heffect⟩,
          fun _ => ⟨x, rfl⟩, fun hnone => ?_⟩
        rw [hnone e List.mem_cons_self] at hrefuses
        cases hrefuses
      · have hnot : e.refuses request = false := by
          cases hrefuses : e.refuses request with
          | false => rfl
          | true =>
              obtain ⟨x, hx⟩ := refuses_iff.mp hrefuses
              rw [hverdict] at hx
              cases hx
        obtain ⟨res, s₂, a₂, looked, taken, hrest, hprepared, herror, hpassed⟩ :=
          ih (fun e he => hvalid e (List.mem_cons_of_mem _ he)) s₁ a₁
        refine ⟨res.map fun active => if matched then e :: active else active, s₂, a₂,
          e :: looked, e.taken env.draw request s.chaos.drawn ++ taken, ?_, ?_, ?_, ?_⟩
        · show ((RequestPhase.prepareEach request experiments >>= fun active =>
            pure (if matched then e :: active else active) : PhaseProg K _)).eval (phaseServe env) _ = _
          rw [Prog.eval_bind, hrest]
          cases res <;> rfl
        · refine ⟨List.prefix_cons_inj e |>.mpr hprepared.begun, ?_, ?_, ?_⟩
          · exact htaken.append hprepared.among
          · rw [List.flatMap_append]
            exact hwalk.trans hprepared.walked
          · rw [List.flatMap_append, sleptBy_append]
            exact heffect.trans hprepared.effect
        · rintro ⟨e', hmem, hrefuses⟩
          have hrest' : ∃ e ∈ experiments, e.refuses request = true := by
            rcases List.mem_cons.mp hmem with rfl | hmem
            · rw [hnot] at hrefuses
              cases hrefuses
            · exact ⟨e', hmem, hrefuses⟩
          obtain ⟨x, rfl⟩ := herror hrest'
          exact ⟨x, rfl⟩
        · intro hnone
          obtain ⟨rfl, hpass⟩ := hpassed fun e' he' => hnone e' (List.mem_cons_of_mem _ he')
          refine ⟨?_, ?_, ?_, ?_, ?_⟩
          · rw [ChaosExperiment.taken, hverdict]
            cases matched <;> rfl
          · rw [hpass.all_looked]
          · rw [matching, ← hdrawn, ← hpass.all_taken]
          · rw [hpass.now, hnow, List.map_append, List.sum_append, add_assoc]
          · rw [hpass.drawn, hdrawn, List.filter_cons]
            split
            · rw [List.length_cons]
              omega
            · rfl

/-! ### What `legacy_apply` does -/

variable (env) in
/-- A fault that is injected with a sleep. -/
theorem delay_run {e : ChaosExperiment K} (phase : String) (totalMs : K)
    (hcurrent : a.current = some (.matched e)) (s : FaultState K) :
    ∃ s' sleeps, (RequestPhase.plain (FaultInjector.delay e phase totalMs)).eval (phaseServe env)
        (s, a) = (.ok (), s', { a with slept := a.slept ++ sleeps }) ∧
      (sleeps.map Prod.fst).Sublist [e] ∧ Effect (Pi.single e.id 1) s.chaos s'.chaos ∧
      s'.chaos.drawn = s.chaos.drawn := by
  by_cases hpos : 0 < totalMs
  · obtain ⟨s₁, hinjected, hquick⟩ := recordInjected_quick env.toChaosEnv e phase s.chaos
    have hinjected' := eval_chaos_silent env (recordInjected_silent e phase) s a
    rw [hinjected] at hinjected'
    rw [FaultInjector.delay, if_pos hpos, plain_bind]
    refine ⟨{ s with chaos := { s₁ with now := s₁.now + totalMs / 1000 } },
      [(e, totalMs / 1000)], ?_, List.Sublist.refl _, ?_, hquick.drawn_eq⟩
    · refine (Prog.eval_bind_ok hinjected').trans ?_
      show (Except.ok (), _, a.enter (.inl (.chaos (.sleep (totalMs / 1000))))) = _
      rw [PhaseAccount.enter, hcurrent]
      rfl
    · have hwait : Effect 0 s₁ { s₁ with now := s₁.now + totalMs / 1000 } :=
        Effect.of_data rfl (le_add_of_nonneg_right (by positivity))
      have hboth := hquick.toEffect.trans hwait
      rwa [add_zero] at hboth
  · rw [FaultInjector.delay, if_neg hpos]
    refine ⟨s, [], ?_, List.nil_sublist _, ?_, rfl⟩
    · rw [List.append_nil]
      rfl
    · exact (Quick.refl s.chaos).toEffect.mono fun id => Nat.zero_le _

variable (env) in
/-- A fault that is injected without a sleep. -/
theorem injected_run (e : ChaosExperiment K) (phase : String) (s : FaultState K)
    (a : PhaseAccount K) :
    ∃ s', (RequestPhase.chaos (recordInjected e phase)).eval (phaseServe env) (s, a) =
        (.ok (), s', a) ∧
      Effect (Pi.single e.id 1) s.chaos s'.chaos ∧ s'.chaos.drawn = s.chaos.drawn := by
  obtain ⟨s₁, hinjected, hquick⟩ := recordInjected_quick env.toChaosEnv e phase s.chaos
  have heval := eval_chaos_silent env (recordInjected_silent e phase) s a
  rw [hinjected] at heval
  exact ⟨{ s with chaos := s₁ }, heval, hquick.toEffect, hquick.drawn_eq⟩

variable (env) in
theorem latency_run {e : ChaosExperiment K} (hformed : e.Formed .latency)
    (hcurrent : a.current = some (.matched e)) (s : FaultState K) :
    ∃ s', (RequestPhase.plain (FaultInjector.latency.legacyApply e)).eval (phaseServe env) (s, a) =
        (.ok (some .latency), s', { a with slept := a.slept ++ e.sleeps }) ∧
      Effect (sleptBy e.sleeps) s.chaos s'.chaos ∧ s'.chaos.drawn = s.chaos.drawn := by
  obtain ⟨s', heval, heffect, -, hdrawn⟩ := beforeRequest_run env hformed hcurrent s
  refine ⟨s', ?_, heffect, hdrawn⟩
  rw [FaultInjector.legacyApply, plain_bind]
  exact Prog.eval_bind_ok heval

variable (env) in
theorem exception_run (e : ChaosExperiment K) (s : FaultState K) (a : PhaseAccount K) :
    ∃ s', (RequestPhase.plain (FaultInjector.exception.legacyApply e)).eval (phaseServe env)
        (s, a) = (.ok (some .exception), s', a) ∧
      Effect (Pi.single e.id 1) s.chaos s'.chaos := by
  obtain ⟨s', heval, heffect, -⟩ := injected_run env e "pre_request" s a
  refine ⟨s', ?_, heffect⟩
  rw [FaultInjector.legacyApply, plain_bind]
  exact Prog.eval_bind_ok heval

variable (env) in
/-- A draw of an injector is no sample of a percentage. -/
theorem random_run {e : ChaosExperiment K} (hcurrent : a.current = some (.matched e))
    (s : FaultState K) :
    (RequestPhase.plain (Faults.random : Faults K K)).eval (phaseServe env) (s, a) =
      (.ok (env.draw s.chaos.drawn),
        { s with chaos := { s.chaos with drawn := s.chaos.drawn + 1 } }, a) := by
  show (Except.ok (env.draw s.chaos.drawn), _, a.enter (.inl (.chaos .random))) = _
  rw [PhaseAccount.enter, hcurrent]
  rfl

variable (env) in
theorem drop_run {e : ChaosExperiment K}
    (hrate : pyFloat (Dict.getD e.params "drop_rate" (.num 0)) = .ok (e.number "drop_rate"))
    (hcurrent : a.current = some (.matched e)) (s : FaultState K) :
    ∃ s', (RequestPhase.plain (FaultInjector.drop.legacyApply e)).eval (phaseServe env) (s, a) =
        (.ok (if env.draw s.chaos.drawn < e.number "drop_rate" then some .drop else none), s', a) ∧
      Effect (Pi.single e.id 1) s.chaos s'.chaos ∧ s'.chaos.drawn = s.chaos.drawn + 1 := by
  have hhook : FaultInjector.drop.legacyApply e = Faults.random >>= fun sample =>
      if decide (sample < e.number "drop_rate") = true then
        Faults.ofChaos (recordInjected e "pre_request") >>= fun _ => pure (some .drop)
      else pure none := by
    rw [FaultInjector.legacyApply, FaultInjector.shouldDrop, hrate]
    exact Prog.bind_assoc Faults.random (fun sample => pure (decide (sample < _))) _
  have hdraw : Effect 0 s.chaos { s.chaos with drawn := s.chaos.drawn + 1 } :=
    Effect.of_data rfl (le_refl _)
  rw [hhook, plain_bind, Prog.eval_bind_ok (random_run env hcurrent s)]
  by_cases hlt : env.draw s.chaos.drawn < e.number "drop_rate"
  · rw [if_pos hlt, if_pos (by simpa using hlt), plain_bind]
    obtain ⟨s', heval, heffect, hdrawn⟩ := injected_run env e "pre_request"
      { s with chaos := { s.chaos with drawn := s.chaos.drawn + 1 } } a
    refine ⟨s', Prog.eval_bind_ok heval, ?_, hdrawn⟩
    have hboth := hdraw.trans heffect
    rwa [zero_add] at hboth
  · rw [if_neg hlt, if_neg (by simpa using hlt)]
    exact ⟨_, rfl, hdraw.mono fun id => Nat.zero_le _, rfl⟩

variable (env) in
theorem slowDb_run {e : ChaosExperiment K} (hformed : e.Formed .slowDb)
    (hcurrent : a.current = some (.matched e)) (s : FaultState K) :
    ∃ action s' sleeps, (RequestPhase.plain (FaultInjector.slowDb.legacyApply e)).eval
        (phaseServe env) (s, a) = (.ok action, s', { a with slept := a.slept ++ sleeps }) ∧
      (sleeps.map Prod.fst).Sublist [e] ∧ Effect (Pi.single e.id 1) s.chaos s'.chaos ∧
      s'.chaos.drawn = s.chaos.drawn + 1 ∧
      ((action = some .drop ∨ action = some .exception) ↔
        env.draw s.chaos.drawn < e.number "timeout_rate") := by
  cases hformed with
  | slowDb htype hbase hjitter htimeout =>
      have hhook : FaultInjector.slowDb.legacyApply e =
          FaultInjector.jitter (e.number "jitter_ms") >>= fun spread =>
          FaultInjector.delay e "pre_request" (e.number "base_ms" + spread) >>= fun _ =>
          Faults.random >>= fun sample =>
          if sample < e.number "timeout_rate" then pure (some .drop)
          else pure (if 0 < e.number "base_ms" + spread then some .latency else none) := by
        rw [FaultInjector.legacyApply, hbase, hjitter, htimeout]
        rfl
      have hspread : ∃ spread s₁, (RequestPhase.plain
          (FaultInjector.jitter (e.number "jitter_ms"))).eval (phaseServe env) (s, a) =
            (.ok spread, s₁, a) ∧ s₁.chaos = s.chaos := by
        rw [FaultInjector.jitter]
        split
        · exact ⟨_, _, rfl, rfl⟩
        · exact ⟨_, _, rfl, rfl⟩
      obtain ⟨spread, s₁, hspread, hchaos⟩ := hspread
      obtain ⟨s₂, sleeps, hdelay, hsleeps, heffect, hdrawn⟩ := delay_run env
        "pre_request" (e.number "base_ms" + spread) hcurrent s₁
      rw [hchaos] at heffect hdrawn
      have hrandom := random_run env
        (a := { a with slept := a.slept ++ sleeps }) hcurrent s₂
      rw [hhook, plain_bind, Prog.eval_bind_ok hspread, plain_bind, Prog.eval_bind_ok hdelay,
        plain_bind, Prog.eval_bind_ok hrandom, hdrawn]
      have hdraw : Effect (Pi.single e.id 1) s.chaos
          { s₂.chaos with drawn := s.chaos.drawn + 1 } := by
        have hboth := heffect.trans (Effect.of_data rfl (le_refl _) :
          Effect 0 s₂.chaos { s₂.chaos with drawn := s.chaos.drawn + 1 })
        rwa [add_zero] at hboth
      by_cases hlt : env.draw s.chaos.drawn < e.number "timeout_rate"
      · rw [if_pos hlt]
        exact ⟨_, _, sleeps, rfl, hsleeps, hdraw, rfl, fun _ => hlt, fun _ => .inl rfl⟩
      · rw [if_neg hlt]
        refine ⟨_, _, sleeps, rfl, hsleeps, hdraw, rfl, ?_, fun h => absurd h hlt⟩
        intro haction
        split at haction <;> simp at haction

/-! ### The second pass -/

theorem sampledFor_of_not {s : FaultState K} {e : ChaosExperiment K}
    (hasks : e.asks request = false) : s.sampledFor e request = s := by
  rw [FaultState.sampledFor, if_neg (by simp [hasks])]

theorem asks_of_not_admits {e : ChaosExperiment K} (hadmits : e.admits request = false) :
    e.asks request = false := by
  rw [ChaosExperiment.asks, hadmits, Bool.false_and]

/-- An experiment without a percentage matches whatever is drawn. -/
theorem verdict_of_not_asks {e : ChaosExperiment K} {draw : ℕ → K} {n : ℕ}
    (hadmits : e.admits request = true) (hasks : e.asks request = false)
    (hrefuses : e.refuses request = false) : e.verdict draw request n = .ok true := by
  rw [ChaosExperiment.asks, hadmits, Bool.true_and] at hasks
  rw [ChaosExperiment.refuses, hadmits, Bool.true_and] at hrefuses
  rw [ChaosExperiment.verdict, hadmits, if_neg (by decide)]
  rcases hshare : (share e.target : Except Exc (Option K)) with x | - | p
  · rw [hshare] at hrefuses
    cases hrefuses
  · rfl
  · rw [hshare] at hasks
    cases hasks

section Step

variable {e : ChaosExperiment K} {experiments active : List (ChaosExperiment K)}

theorem applyEach_other (hlegacy : e.legacyApi = false) :
    RequestPhase.applyEach request (e :: experiments) active =
      RequestPhase.applyEach request experiments active := by
  rw [RequestPhase.applyEach, if_pos hlegacy]

theorem applyEach_unadmitted (hlegacy : e.legacyApi = true) (hadmits : e.admits request = false)
    (s : FaultState K) (a : PhaseAccount K) :
    (RequestPhase.applyEach request (e :: experiments) active).eval (phaseServe env) (s, a) =
      (RequestPhase.applyEach request experiments active).eval (phaseServe env)
        (s, a.looked e request false) := by
  have hverdict : e.verdict env.draw request s.chaos.drawn = .ok false := by
    rw [ChaosExperiment.verdict, if_pos hadmits]
  rw [RequestPhase.applyEach, if_neg (by simp [hlegacy]), Prog.eval_bind, match_run, hverdict,
    sampledFor_of_not (asks_of_not_admits hadmits)]
  rfl

theorem applyEach_matched {injector : FaultInjector} (hformed : e.Formed injector)
    (hlegacy : e.legacyApi = true) (hadmits : e.admits request = true)
    (hasks : e.asks request = false) (hrefuses : e.refuses request = false)
    {s s' : FaultState K} {a' : PhaseAccount K} {action : Option FaultInjector.Action}
    (happly : (RequestPhase.plain (injector.legacyApply e)).eval (phaseServe env)
      (s, a.looked e request true) = (.ok action, s', a')) :
    (RequestPhase.applyEach request (e :: experiments) active).eval (phaseServe env) (s, a) =
      (if action = some .drop ∨ action = some .exception then
        pure (action, addActive e active)
      else RequestPhase.applyEach request experiments (addActive e active)).eval
        (phaseServe env) (s', a') := by
  rw [RequestPhase.applyEach, if_neg (by simp [hlegacy]), Prog.eval_bind, match_run,
    verdict_of_not_asks hadmits hasks hrefuses, sampledFor_of_not hasks]
  show ((Prog.ofExcept (buildInjector e.faultType) >>= fun injector =>
    RequestPhase.plain (injector.legacyApply e) >>= fun action =>
      if action = some .drop ∨ action = some .exception then pure (action, addActive e active)
      else RequestPhase.applyEach request experiments (addActive e active) :
        PhaseProg K _)).eval (phaseServe env) (s, a.looked e request true) = _
  rw [hformed.built]
  exact Prog.eval_bind_ok happly

end Step

/-- How often faults other than latencies are injected. -/
def otherFaults (experiments : List (ChaosExperiment K)) (id : String) : ℕ :=
  experiments.countP fun e => e.id = id ∧ e.faultType ≠ "latency"

/-- A part of the second pass that repeats nothing: nothing is sampled, and what sleeps
is no latency. -/
structure Spared (request : ChaosRequest) (experiments looked taken : List (ChaosExperiment K))
    (sleeps : List (ChaosExperiment K × K)) (s : FaultState K) (a : PhaseAccount K)
    (s' : FaultState K) (a' : PhaseAccount K) : Prop where
  among : looked.Sublist experiments
  unasked : ∀ e ∈ looked, e.asks request = false
  matched : taken.Sublist experiments
  idle : ∀ e ∈ taken, e.latencySeconds = 0
  walked : Walked request looked taken sleeps a a'
  once : (sleeps.map Prod.fst).Sublist experiments
  other : ∀ p ∈ sleeps, p.1.faultType ≠ "latency"
  effect : Effect (otherFaults experiments) s.chaos s'.chaos

namespace Spared

variable {experiments experiments' : List (ChaosExperiment K)} {s s' s'' : FaultState K}
  {e : ChaosExperiment K}

theorem append (h : Spared request experiments looked taken sleeps s a s' a')
    (h' : Spared request experiments' looked' taken' sleeps' s' a' s'' a'') :
    Spared request (experiments ++ experiments') (looked ++ looked') (taken ++ taken')
      (sleeps ++ sleeps') s a s'' a'' := by
  refine ⟨h.among.append h'.among, ?_, h.matched.append h'.matched, ?_, h.walked.trans h'.walked,
    ?_, ?_, ?_⟩
  · intro e he
    exact (List.mem_append.mp he).elim (h.unasked e) (h'.unasked e)
  · intro e he
    exact (List.mem_append.mp he).elim (h.idle e) (h'.idle e)
  · rw [List.map_append]
    exact h.once.append h'.once
  · intro p hp
    exact (List.mem_append.mp hp).elim (h.other p) (h'.other p)
  · have hsum : otherFaults (experiments ++ experiments') =
        otherFaults experiments + otherFaults experiments' := by
      funext id
      exact List.countP_append
    rw [hsum]
    exact h.effect.trans h'.effect

/-- Nothing happens at all. -/
theorem rest (experiments : List (ChaosExperiment K)) (s : FaultState K) (a : PhaseAccount K) :
    Spared request experiments [] [] [] s a s a := by
  refine ⟨List.nil_sublist _, ?_, List.nil_sublist _, ?_, Walked.refl request a,
    List.nil_sublist _, ?_, ?_⟩
  · intro e he
    cases he
  · intro e he
    cases he
  · intro p hp
    cases hp
  · exact (Quick.refl s.chaos).toEffect.mono fun id => Nat.zero_le _

theorem unadmitted (hasks : e.asks request = false) (s : FaultState K) (a : PhaseAccount K) :
    Spared request [e] [e] [] [] s a s (a.looked e request false) := by
  refine ⟨List.Sublist.refl _, ?_, List.nil_sublist _, ?_, Walked.of_looked request e a false,
    List.nil_sublist _, ?_, ?_⟩
  · intro e' he
    rwa [List.mem_singleton.mp he]
  · intro e' he
    cases he
  · intro p hp
    cases hp
  · exact (Quick.refl s.chaos).toEffect.mono fun id => Nat.zero_le _

theorem acted (hasks : e.asks request = false) (hidle : e.latencySeconds = 0)
    (hsleeps : (sleeps.map Prod.fst).Sublist [e])
    (hother : ∀ p ∈ sleeps, p.1.faultType ≠ "latency")
    (heffect : Effect (otherFaults [e]) s.chaos s'.chaos) (a : PhaseAccount K) :
    Spared request [e] [e] [e] sleeps s a s'
      { a.looked e request true with slept := a.slept ++ sleeps } := by
  refine ⟨List.Sublist.refl _, ?_, List.Sublist.refl _, ?_, ?_, hsleeps, hother, heffect⟩
  · intro e' he
    rwa [List.mem_singleton.mp he]
  · intro e' he
    rwa [List.mem_singleton.mp he]
  · have hlooked := Walked.of_looked request e a true
    exact ⟨hlooked.considered, hlooked.matched, hlooked.sampled, rfl⟩

/-- The same, where nobody sleeps. -/
theorem acted_awake (hasks : e.asks request = false) (hidle : e.latencySeconds = 0)
    (heffect : Effect (otherFaults [e]) s.chaos s'.chaos) (a : PhaseAccount K) :
    Spared request [e] [e] [e] [] s a s' (a.looked e request true) := by
  have hnobody : (([] : List (ChaosExperiment K × K)).map Prod.fst).Sublist [e] :=
    List.nil_sublist _
  have hacted := acted hasks hidle hnobody (fun p hp => absurd hp List.not_mem_nil) heffect a
  rwa [List.append_nil] at hacted

end Spared

/-- One experiment of the second pass that has matched: it stops the pass, or the pass
goes on with the state it leaves. -/
theorem spared_of_action {e : ChaosExperiment K} {experiments : List (ChaosExperiment K)}
    {stops : Prop} [Decidable stops] {s s₁ : FaultState K} {a₁ : PhaseAccount K}
    {result : Option FaultInjector.Action × List (ChaosExperiment K)}
    {rest : PhaseProg K (Option FaultInjector.Action × List (ChaosExperiment K))}
    (hone : Spared request [e] looked taken sleeps s a s₁ a₁)
    (hrest : ¬ stops → ∃ res s' a' looked taken sleeps,
      rest.eval (phaseServe env) (s₁, a₁) = (.ok res, s', a') ∧
      Spared request experiments looked taken sleeps s₁ a₁ s' a') :
    ∃ res s' a' looked taken sleeps,
      (if stops then pure result else rest).eval (phaseServe env) (s₁, a₁) = (.ok res, s', a') ∧
      Spared request (e :: experiments) looked taken sleeps s a s' a' := by
  by_cases hstops : stops
  · rw [if_pos hstops]
    exact ⟨result, s₁, a₁, _, _, _, rfl, hone.append (Spared.rest experiments s₁ a₁)⟩
  · rw [if_neg hstops]
    obtain ⟨res, s', a', looked', taken', sleeps', heval, hspared⟩ := hrest hstops
    exact ⟨res, s', a', _, _, _, heval, hone.append hspared⟩

theorem single_le_otherFaults {e : ChaosExperiment K} (htype : e.faultType ≠ "latency")
    (id : String) : (Pi.single e.id 1 : String → ℕ) id ≤ otherFaults [e] id := by
  by_cases hid : id = e.id
  · subst hid
    simp [otherFaults, htype]
  · simp [Pi.single_eq_of_ne hid]

/-- **The second pass, where there is nothing to do again.** -/
theorem applyEach_spares {experiments : List (ChaosExperiment K)}
    (hvalid : ∀ e ∈ experiments, ∃ injector, e.Formed injector)
    (hsafe : ∀ e ∈ experiments, e.refuses request = false) (s : FaultState K)
    (a : PhaseAccount K) (active : List (ChaosExperiment K))
    (hspares : spares env.draw request experiments s.chaos.drawn = true) :
    ∃ res s' a' looked taken sleeps,
      (RequestPhase.applyEach request experiments active).eval (phaseServe env) (s, a) =
        (.ok res, s', a') ∧
      Spared request experiments looked taken sleeps s a s' a' := by
  induction experiments generalizing s a active with
  | nil => exact ⟨_, s, a, _, _, _, rfl, Spared.rest [] s a⟩
  | cons e experiments ih =>
      have ih' := ih (fun e he => hvalid e (List.mem_cons_of_mem _ he))
        fun e he => hsafe e (List.mem_cons_of_mem _ he)
      rw [spares] at hspares
      by_cases hlegacy : e.legacyApi = false
      · rw [if_pos (.inl hlegacy)] at hspares
        obtain ⟨res, s', a', looked, taken, sleeps, heval, hspared⟩ := ih' s a active hspares
        rw [applyEach_other hlegacy]
        exact ⟨res, s', a', _, _, _, heval, (Spared.rest [e] s a).append hspared⟩
      have hlegacy' : e.legacyApi = true := by simpa using hlegacy
      cases hadmits : e.admits request with
      | false =>
          rw [if_pos (.inr hadmits)] at hspares
          obtain ⟨res, s', a', looked, taken, sleeps, heval, hspared⟩ :=
            ih' s (a.looked e request false) active hspares
          rw [applyEach_unadmitted hlegacy' hadmits]
          exact ⟨res, s', a', _, _, _, heval,
            (Spared.unadmitted (asks_of_not_admits hadmits) s a).append hspared⟩
      | true =>
          rw [if_neg (by simp [hlegacy', hadmits])] at hspares
          cases hasks : e.asks request with
          | true =>
              rw [hasks] at hspares
              cases hspares
          | false =>
              rw [hasks, if_neg (by decide)] at hspares
              obtain ⟨injector, hformed⟩ := hvalid e List.mem_cons_self
              have hrefuses := hsafe e List.mem_cons_self
              have hcurrent : (a.looked e request true).current = some (.matched e) := rfl
              rw [hformed.built] at hspares
              cases hformed with
              | latency htype hpos hms =>
                  have hformed : e.Formed .latency := .latency htype hpos hms
                  have hboth : decide (e.number "latency_ms" = 0) = true ∧
                      spares env.draw request experiments s.chaos.drawn = true := by
                    simpa using hspares
                  have hidle : e.latencySeconds = 0 := by
                    rw [ChaosExperiment.latencySeconds, if_pos htype, of_decide_eq_true hboth.1,
                      zero_div]
                  have hsleeps : e.sleeps = [] := by simp [ChaosExperiment.sleeps, hidle]
                  obtain ⟨s₁, happly, heffect, hdrawn⟩ := latency_run env hformed
                    hcurrent s
                  rw [hsleeps, List.append_nil] at happly
                  rw [hsleeps] at heffect
                  rw [applyEach_matched hformed hlegacy' hadmits hasks hrefuses happly]
                  refine spared_of_action (Spared.acted_awake hasks hidle
                    (heffect.mono fun id => Nat.zero_le _) a) fun _ => ih' s₁ _ _ ?_
                  rw [hdrawn]
                  exact hboth.2
              | exception htype =>
                  have hne : e.faultType ≠ "latency" := by
                    rw [htype]
                    decide
                  obtain ⟨s₁, happly, heffect⟩ := exception_run env e s
                    (a.looked e request true)
                  rw [applyEach_matched (.exception htype) hlegacy' hadmits hasks hrefuses happly]
                  have hacted := Spared.acted_awake hasks (if_neg hne)
                    (heffect.mono (single_le_otherFaults hne)) a
                  exact spared_of_action hacted fun hstops => absurd (.inr rfl) hstops
              | drop htype hrate =>
                  have hne : e.faultType ≠ "latency" := by
                    rw [htype]
                    decide
                  obtain ⟨s₁, happly, heffect, hdrawn⟩ := drop_run env hrate hcurrent s
                  rw [applyEach_matched (.drop htype hrate) hlegacy' hadmits hasks hrefuses happly]
                  have hacted := Spared.acted_awake hasks (if_neg hne)
                    (heffect.mono (single_le_otherFaults hne)) a
                  refine spared_of_action hacted fun hstops => ih' s₁ _ _ ?_
                  have hover : ¬ env.draw s.chaos.drawn < e.number "drop_rate" := by
                    intro hlt
                    rw [if_pos hlt] at hstops
                    exact hstops (.inl rfl)
                  rw [hdrawn]
                  simpa [hover] using hspares
              | slowDb htype hbase hjitter htimeout =>
                  have hne : e.faultType ≠ "latency" := by
                    rw [htype]
                    decide
                  have hformed : e.Formed .slowDb := .slowDb htype hbase hjitter htimeout
                  obtain ⟨action, s₁, sleeps, happly, hsleeps, heffect, hdrawn, haction⟩ :=
                    slowDb_run env hformed hcurrent s
                  rw [applyEach_matched hformed hlegacy' hadmits hasks hrefuses happly]
                  refine spared_of_action (Spared.acted hasks (if_neg hne) hsleeps ?_
                    (heffect.mono (single_le_otherFaults hne)) a) fun hstops => ih' s₁ _ _ ?_
                  · intro p hp
                    have hmem := hsleeps.subset (List.mem_map_of_mem hp)
                    rwa [List.mem_singleton.mp hmem]
                  · have hover := mt haction.mpr hstops
                    rw [hdrawn]
                    simpa [hover] using hspares

/-! ### What the account shows stays -/

/-- The account has grown. -/
structure PhaseAccount.Extends (a a' : PhaseAccount K) : Prop where
  considered : a.considered <+: a'.considered
  sampled : a.sampled <+: a'.sampled
  slept : a.slept <+: a'.slept

theorem PhaseAccount.Extends.refl (a : PhaseAccount K) : a.Extends a :=
  ⟨List.prefix_refl _, List.prefix_refl _, List.prefix_refl _⟩

theorem PhaseAccount.Extends.trans (h : a.Extends a') (h' : a'.Extends a'') : a.Extends a'' :=
  ⟨h.considered.trans h'.considered, h.sampled.trans h'.sampled, h.slept.trans h'.slept⟩

theorem PhaseAccount.extends_enter (a : PhaseAccount K) (x : FaultOp K ⊕ PhaseNote K) :
    a.Extends (a.enter x) := by
  rcases x with o | n
  · cases o with
    | chaos o =>
        cases o with
        | random =>
            rw [PhaseAccount.enter]
            split
            · exact ⟨List.prefix_refl _, List.prefix_append _ _, List.prefix_refl _⟩
            · exact Extends.refl a
        | sleep seconds =>
            rw [PhaseAccount.enter]
            split
            · exact ⟨List.prefix_refl _, List.prefix_refl _, List.prefix_append _ _⟩
            · exact Extends.refl a
        | _ => exact Extends.refl a
    | _ => exact Extends.refl a
  · cases n with
    | considered e => exact ⟨List.prefix_append _ _, List.prefix_refl _, List.prefix_refl _⟩
    | matched e => exact ⟨List.prefix_refl _, List.prefix_refl _, List.prefix_refl _⟩

variable (env) in
theorem extends_run {α : Type} (p : PhaseProg K α) (s : FaultState K) (a : PhaseAccount K) :
    a.Extends (p.eval (phaseServe env) (s, a)).2.2 :=
  account_keeps (I := a.Extends) (fun _ x h => h.trans (PhaseAccount.extends_enter _ x)) p
    (PhaseAccount.Extends.refl a)

theorem extends_looked (e : ChaosExperiment K) (a : PhaseAccount K) (b : Bool) :
    a.Extends (a.looked e request b) :=
  ⟨List.prefix_append _ _, List.prefix_append _ _, List.prefix_refl _⟩

theorem extends_slept (a : PhaseAccount K) (sleeps : List (ChaosExperiment K × K)) :
    a.Extends { a with slept := a.slept ++ sleeps } :=
  ⟨List.prefix_refl _, List.prefix_refl _, List.prefix_append _ _⟩

/-- An experiment is sampled, or its latency slept, once more. -/
def Repeats (request : ChaosRequest) (e : ChaosExperiment K) (a a' : PhaseAccount K) : Prop :=
  (e.asks request = true ∧ a.sampled.countP (fun other => other.id = e.id) <
      a'.sampled.countP fun other => other.id = e.id) ∨
    (e.admits request = true ∧ e.asks request = false ∧ 0 < e.latencySeconds ∧
      sleptBy a.slept e.id < sleptBy a'.slept e.id)

theorem Repeats.after {e : ChaosExperiment K} (hbefore : a.Extends a')
    (h : Repeats request e a' a'') : Repeats request e a a'' := by
  rcases h with ⟨hasks, hlt⟩ | ⟨hadmits, hasks, hpos, hlt⟩
  · exact .inl ⟨hasks, lt_of_le_of_lt hbefore.sampled.sublist.countP_le hlt⟩
  · exact .inr ⟨hadmits, hasks, hpos, lt_of_le_of_lt hbefore.slept.sublist.countP_le hlt⟩

theorem Repeats.before {e : ChaosExperiment K} (h : Repeats request e a a')
    (hafter : a'.Extends a'') : Repeats request e a a'' := by
  rcases h with ⟨hasks, hlt⟩ | ⟨hadmits, hasks, hpos, hlt⟩
  · exact .inl ⟨hasks, lt_of_lt_of_le hlt hafter.sampled.sublist.countP_le⟩
  · exact .inr ⟨hadmits, hasks, hpos, lt_of_lt_of_le hlt hafter.slept.sublist.countP_le⟩

/-- A second look at a percentage. -/
theorem repeats_of_asks {e : ChaosExperiment K} (hlegacy : e.legacyApi = true)
    (hasks : e.asks request = true) (experiments active : List (ChaosExperiment K))
    (s : FaultState K) (a : PhaseAccount K) :
    Repeats request e a ((RequestPhase.applyEach request (e :: experiments) active).eval
      (phaseServe env) (s, a)).2.2 := by
  have hsampled : ∀ b, Repeats request e a (a.looked e request b) := by
    intro b
    refine .inl ⟨hasks, ?_⟩
    rw [PhaseAccount.looked, if_pos hasks, List.countP_append]
    simp
  rw [RequestPhase.applyEach, if_neg (by simp [hlegacy]), Prog.eval_bind, match_run]
  generalize e.verdict env.draw request s.chaos.drawn = verdict
  cases verdict with
  | error x => exact hsampled _
  | ok matched => exact (hsampled _).before (extends_run env _ _ _)

/-- A second sleep. -/
theorem repeats_of_latency {e : ChaosExperiment K} (hformed : e.Formed .latency)
    (hlegacy : e.legacyApi = true) (hadmits : e.admits request = true)
    (hasks : e.asks request = false) (hrefuses : e.refuses request = false)
    (hpos : 0 < e.latencySeconds) (experiments active : List (ChaosExperiment K))
    (s : FaultState K) (a : PhaseAccount K) :
    Repeats request e a ((RequestPhase.applyEach request (e :: experiments) active).eval
      (phaseServe env) (s, a)).2.2 := by
  obtain ⟨s₁, happly, -, -⟩ := latency_run env hformed (a := a.looked e request true) rfl s
  rw [applyEach_matched hformed hlegacy hadmits hasks hrefuses happly]
  have hslept : Repeats request e a
      { a.looked e request true with slept := a.slept ++ e.sleeps } := by
    refine .inr ⟨hadmits, hasks, hpos, ?_⟩
    rw [ChaosExperiment.sleeps, if_pos hpos, sleptBy_append]
    simp [sleptBy]
  exact hslept.before (extends_run env _ _ _)

/-- **The second pass, where there is something to do again.** -/
theorem applyEach_repeats {experiments : List (ChaosExperiment K)}
    (hvalid : ∀ e ∈ experiments, ∃ injector, e.Formed injector)
    (hsafe : ∀ e ∈ experiments, e.refuses request = false) (s : FaultState K)
    (a : PhaseAccount K) (active : List (ChaosExperiment K))
    (hrepeats : spares env.draw request experiments s.chaos.drawn = false) :
    ∃ e ∈ experiments, Repeats request e a
      ((RequestPhase.applyEach request experiments active).eval (phaseServe env) (s, a)).2.2 := by
  induction experiments generalizing s a active with
  | nil => cases hrepeats
  | cons e experiments ih =>
      have ih' := ih (fun e he => hvalid e (List.mem_cons_of_mem _ he))
        fun e he => hsafe e (List.mem_cons_of_mem _ he)
      rw [spares] at hrepeats
      by_cases hlegacy : e.legacyApi = false
      · rw [if_pos (.inl hlegacy)] at hrepeats
        obtain ⟨e', hmem, hrepeat⟩ := ih' s a active hrepeats
        rw [applyEach_other hlegacy]
        exact ⟨e', List.mem_cons_of_mem _ hmem, hrepeat⟩
      have hlegacy' : e.legacyApi = true := by simpa using hlegacy
      cases hadmits : e.admits request with
      | false =>
          rw [if_pos (.inr hadmits)] at hrepeats
          obtain ⟨e', hmem, hrepeat⟩ := ih' s (a.looked e request false) active hrepeats
          rw [applyEach_unadmitted hlegacy' hadmits]
          exact ⟨e', List.mem_cons_of_mem _ hmem, hrepeat.after (extends_looked e a false)⟩
      | true =>
          rw [if_neg (by simp [hlegacy', hadmits])] at hrepeats
          cases hasks : e.asks request with
          | true =>
              exact ⟨e, List.mem_cons_self, repeats_of_asks hlegacy' hasks experiments active s a⟩
          | false =>
              rw [hasks, if_neg (by decide)] at hrepeats
              obtain ⟨injector, hformed⟩ := hvalid e List.mem_cons_self
              have hrefuses := hsafe e List.mem_cons_self
              have hcurrent : (a.looked e request true).current = some (.matched e) := rfl
              have hlooked : a.Extends (a.looked e request true) := extends_looked e a true
              rw [hformed.built] at hrepeats
              cases hformed with
              | latency htype hpos hms =>
                  have hformed : e.Formed .latency := .latency htype hpos hms
                  by_cases hzero : e.number "latency_ms" = 0
                  · obtain ⟨s₁, happly, -, hdrawn⟩ := latency_run env hformed hcurrent s
                    rw [applyEach_matched hformed hlegacy' hadmits hasks hrefuses happly,
                      if_neg (by simp)]
                    have hrest : spares env.draw request experiments s₁.chaos.drawn = false := by
                      rw [hdrawn]
                      simpa [hzero] using hrepeats
                    obtain ⟨e', hmem, hrepeat⟩ := ih' s₁ _ _ hrest
                    exact ⟨e', List.mem_cons_of_mem _ hmem,
                      hrepeat.after (hlooked.trans (extends_slept _ _))⟩
                  · have hlt : 0 < e.number "latency_ms" := lt_of_le_of_ne hpos (Ne.symm hzero)
                    have hseconds : 0 < e.latencySeconds := by
                      rw [ChaosExperiment.latencySeconds, if_pos htype]
                      positivity
                    exact ⟨e, List.mem_cons_self, repeats_of_latency hformed hlegacy' hadmits
                      hasks hrefuses hseconds experiments active s a⟩
              | exception htype => cases hrepeats
              | drop htype hrate =>
                  obtain ⟨hover, hrest⟩ : env.draw s.chaos.drawn ≥ e.number "drop_rate" ∧
                      spares env.draw request experiments (s.chaos.drawn + 1) = false := by
                    simpa using hrepeats
                  obtain ⟨s₁, happly, -, hdrawn⟩ := drop_run env hrate hcurrent s
                  rw [applyEach_matched (.drop htype hrate) hlegacy' hadmits hasks hrefuses happly,
                    if_neg (not_lt.mpr hover), if_neg (by simp)]
                  rw [← hdrawn] at hrest
                  obtain ⟨e', hmem, hrepeat⟩ := ih' s₁ _ _ hrest
                  exact ⟨e', List.mem_cons_of_mem _ hmem, hrepeat.after hlooked⟩
              | slowDb htype hbase hjitter htimeout =>
                  have hformed : e.Formed .slowDb := .slowDb htype hbase hjitter htimeout
                  obtain ⟨hover, hrest⟩ : env.draw s.chaos.drawn ≥ e.number "timeout_rate" ∧
                      spares env.draw request experiments (s.chaos.drawn + 1) = false := by
                    simpa using hrepeats
                  obtain ⟨action, s₁, sleeps, happly, -, -, hdrawn, haction⟩ :=
                    slowDb_run env hformed hcurrent s
                  rw [applyEach_matched hformed hlegacy' hadmits hasks hrefuses happly,
                    if_neg (mt haction.mp (not_lt.mpr hover))]
                  rw [← hdrawn] at hrest
                  obtain ⟨e', hmem, hrepeat⟩ := ih' s₁ _ _ hrest
                  exact ⟨e', List.mem_cons_of_mem _ hmem,
                    hrepeat.after (hlooked.trans (extends_slept _ _))⟩

end Passes

end ChaosDemo
