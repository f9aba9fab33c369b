/-
ChaosDemo/GateVerdict.lean

What the quality gate says of a batch that went through the evaluation engine, and
what it says of the report itself.

The engine hands the gate the metrics of its evaluators under `name.metric`; the gate
looks for `metric`.  What it finds are the metrics of the evaluators whose name is
empty (`lookup_evaluate`), and a `ScoreEvaluator` has the name `score`.  So the two
verdicts agree exactly where evaluators without a name report metrics with the same
verdict (`sameVerdict_iff`), and never where all have names
(`throughEngine_of_named`): then the gate misses its first metric and raises
`KeyError`.
-/
import ChaosDemo.ScoreEvaluator

namespace ChaosDemo

/-! ### The checks -/

namespace GateCheck

variable {g : Thresholds} {report report' : Dict} {c : GateCheck}

/-- The two numbers that a check compares. -/
def numbers (c : GateCheck) (g : Thresholds) (report : Dict) : Except PyError (ℚ × ℚ) := do
  let v ← c.value report
  let bound ← g.item c.threshold
  let q ← v.numeric
  pure (q, bound)

/-- Both numbers are there, and the first is within the bound. -/
def Within (g : Thresholds) (report : Dict) (c : GateCheck) : Prop :=
  ∃ q bound, c.numbers g report = .ok (q, bound) ∧ c.breaks q bound = false

/-- Both numbers are there, and the first is out of bounds. -/
def Beyond (g : Thresholds) (report : Dict) (c : GateCheck) : Prop :=
  ∃ q bound, c.numbers g report = .ok (q, bound) ∧ c.breaks q bound = true

theorem run_eq (c : GateCheck) (g : Thresholds) (report : Dict) :
    c.run g report = (c.numbers g report >>= fun (q, bound) =>
      if c.breaks q bound then .error (.agentGateError (c.message q bound)) else .ok ()) := by
  unfold run numbers
  cases c.value report with
  | error e => rfl
  | ok v =>
      cases g.item c.threshold with
      | error e => rfl
      | ok bound =>
          show (v.numeric >>= _) = ((v.numeric >>= _) >>= _)
          cases v.numeric <;> rfl

/-- What is missing raises `KeyError` and what is no number `TypeError`. -/
theorem not_gateError_of_numbers {e : PyError} (h : c.numbers g report = .error e) (m : String) :
    e ≠ .agentGateError m := by
  intro he
  subst he
  unfold numbers at h
  cases hv : c.value report with
  | error e =>
      have he : e = .agentGateError m := by simpa [hv, bind, Except.bind] using h
      unfold value at hv
      split at hv
      · cases hv
      · unfold Dict.item at hv
        split at hv <;> simp_all
  | ok v =>
      cases hb : g.item c.threshold with
      | error e =>
          have he : e = .agentGateError m := by simpa [hv, hb, bind, Except.bind] using h
          unfold Thresholds.item at hb
          split at hb <;> simp_all
      | ok bound =>
          cases hq : v.numeric with
          | error e =>
              have he : e = .agentGateError m := by simpa [hv, hb, hq, bind, Except.bind] using h
              unfold Json.numeric at hq
              split at hq <;> simp_all
          | ok q => simp [hv, hb, hq, bind, Except.bind, pure, Except.pure] at h

theorem run_eq_ok_iff : c.run g report = .ok () ↔ c.Within g report := by
  rw [run_eq, Within]
  cases hn : c.numbers g report with
  | error e => simp [bind, Except.bind]
  | ok p =>
      obtain ⟨q, bound⟩ := p
      cases hb : c.breaks q bound <;> simp [bind, Except.bind, hb]

theorem run_gateError_iff :
    (∃ m, c.run g report = .error (.agentGateError m)) ↔ c.Beyond g report := by
  rw [run_eq, Beyond]
  cases hn : c.numbers g report with
  | error e =>
      have hne := not_gateError_of_numbers hn
      simp [bind, Except.bind, hne]
  | ok p =>
      obtain ⟨q, bound⟩ := p
      cases hb : c.breaks q bound <;> simp [bind, Except.bind, hb]

/-- A check reads one metric. -/
theorem run_congr (h : report.lookup c.metric = report'.lookup c.metric) (g : Thresholds) :
    c.run g report = c.run g report' := by
  have hvalue : c.value report = c.value report' := by
    unfold value
    cases c.fallback with
    | none =>
        show report.item c.metric = report'.item c.metric
        unfold Dict.item
        rw [h]
    | some v =>
        show Except.ok (report.getD c.metric v) = Except.ok (report'.getD c.metric v)
        unfold Dict.getD Dict.has Dict.get
        rw [h]
  rw [run, run, hvalue]

theorem not_within_of_missing (hf : c.fallback = none) (h : report.lookup c.metric = none) :
    ¬ c.Within g report ∧ ¬ c.Beyond g report := by
  have hn : c.numbers g report = .error (.keyError c.metric) := by
    simp [numbers, value, hf, Dict.item, h, bind, Except.bind]
  constructor
  · rintro ⟨q, bound, hok, -⟩
    rw [hn] at hok
    cases hok
  · rintro ⟨q, bound, hok, -⟩
    rw [hn] at hok
    cases hok

end GateCheck

/-! ### The verdict -/

section Verdict

variable {g : Thresholds} {report report' : Dict}

/-- All checks are met. -/
def Passing (g : Thresholds) (report : Dict) (checks : List GateCheck) : Prop :=
  ∀ c ∈ checks, c.Within g report

/-- The first check that is not met finds a number out of bounds. -/
def Failing (g : Thresholds) (report : Dict) : List GateCheck → Prop
  | [] => False
  | c :: checks => c.Beyond g report ∨ (c.Within g report ∧ Failing g report checks)

theorem runChecks_ok_iff {checks : List GateCheck} :
    runChecks g report checks = .ok () ↔ Passing g report checks := by
  induction checks with
  | nil => simp [runChecks, Passing]
  | cons c checks ih =>
      have hsplit : Passing g report (c :: checks) ↔
          c.Within g report ∧ Passing g report checks := by
        simp [Passing]
      rw [hsplit, ← GateCheck.run_eq_ok_iff, ← ih, runChecks]
      cases c.run g report <;> simp [bind, Except.bind]

theorem runChecks_gateError_iff {checks : List GateCheck} :
    (∃ m, runChecks g report checks = .error (.agentGateError m)) ↔
      Failing g report checks := by
  induction checks with
  | nil => simp [runChecks, Failing]
  | cons c checks ih =>
      rw [Failing, ← GateCheck.run_eq_ok_iff, ← GateCheck.run_gateError_iff, ← ih, runChecks]
      cases c.run g report <;> simp [bind, Except.bind]

theorem runChecks_congr {checks : List GateCheck}
    (h : ∀ c ∈ checks, report.lookup c.metric = report'.lookup c.metric) :
    runChecks g report checks = runChecks g report' checks := by
  induction checks with
  | nil => rfl
  | cons c checks ih =>
      rw [runChecks, runChecks, GateCheck.run_congr (h c List.mem_cons_self),
        ih fun d hd => h d (List.mem_cons_of_mem c hd)]

/-- A report that has every number passes or fails. -/
theorem passing_or_failing {checks : List GateCheck}
    (h : ∀ c ∈ checks, c.Within g report ∨ c.Beyond g report) :
    Passing g report checks ∨ Failing g report checks := by
  induction checks with
  | nil =>
      left
      intro c hc
      cases hc
  | cons c checks ih =>
      rcases h c List.mem_cons_self with hw | hb
      · rcases ih fun d hd => h d (List.mem_cons_of_mem c hd) with hp | hf
        · left
          intro d hd
          rcases List.mem_cons.mp hd with rfl | hd
          · exact hw
          · exact hp d hd
        · right
          exact Or.inr ⟨hw, hf⟩
      · right
        exact Or.inl hb

end Verdict

/-! ### Through the engine -/

section Engine

variable {Ω : Type} {metadataOf : Ω → Option Dict} {output : AgentOutput Ω}

/-- The metrics of the evaluators without a name, a later one's over an earlier one's. -/
def bareMetrics (output : AgentOutput Ω) : List (Evaluator Ω) → Dict → Dict
  | [], d => d
  | e :: evaluators, d =>
      match e.evaluate output with
      | .ok r => bareMetrics output evaluators (if e.name = "" then d.update r.metrics else d)
      | .error _ => bareMetrics output evaluators d

theorem bareMetrics_of_named {evaluators : List (Evaluator Ω)} (h : ∀ e ∈ evaluators, e.name ≠ "")
    (d : Dict) : bareMetrics output evaluators d = d := by
  induction evaluators with
  | nil => rfl
  | cons e evaluators ih =>
      have hname : e.name ≠ "" := h e List.mem_cons_self
      have hrest := ih fun f hf => h f (List.mem_cons_of_mem e hf)
      rw [bareMetrics]
      cases e.evaluate output <;> simp [hname, hrest]

/-- A prefixed key has a point in it. -/
theorem prefixed_ne {space : String} {d : Dict} {l : String} (hl : '.' ∉ l.toList) :
    ∀ f ∈ Dict.prefixed space d, f.1 ≠ l := by
  intro f hf heq
  obtain ⟨f₀, -, rfl⟩ := List.mem_map.mp hf
  apply hl
  rw [← heq]
  simp

/-- One evaluator's turn, at a key without a point. -/
theorem lookup_merge {a b : EvaluationResult} {d : Dict} {l : String} (hl : '.' ∉ l.toList)
    (h : a.metrics.lookup l = d.lookup l) (name : String) :
    (a.merge b name).metrics.lookup l =
      (if name = "" then d.update b.metrics else d).lookup l := by
  by_cases hname : name = ""
  · simp only [EvaluationResult.merge, hname, ne_eq, not_true_eq_false, if_false, if_true]
    exact Dict.lookup_update_congr h
  · simp only [EvaluationResult.merge, ne_eq, hname, not_false_eq_true, if_true, if_false]
    rw [Dict.lookup_update_of_not_mem (prefixed_ne hl), h]

/-- The loop, at a key without a point. -/
theorem lookup_evaluateEach {evaluators : List (Evaluator Ω)} {l : String}
    (hl : '.' ∉ l.toList) :
    ∀ {combined r : EvaluationResult} {d : Dict}, combined.metrics.lookup l = d.lookup l →
      evaluateEach output evaluators combined = .ok r →
      r.metrics.lookup l = (bareMetrics output evaluators d).lookup l := by
  induction evaluators with
  | nil =>
      intro combined r d h hr
      cases hr
      exact h
  | cons e evaluators ih =>
      intro combined r d h hr
      rw [evaluateEach] at hr
      cases he : e.evaluate output with
      | error err =>
          rw [he] at hr
          cases hr
      | ok result =>
          rw [he] at hr
          rw [bareMetrics, he]
          exact ih (lookup_merge hl h e.name) hr

/-- What the gate finds in the result of the engine. -/
theorem lookup_evaluate {evaluators : List (Evaluator Ω)} {r : EvaluationResult} {l : String}
    (hl : '.' ∉ l.toList) (hsecurity : l ≠ "security_score" ∧ l ≠ "security_assessed")
    (hr : EvaluationEngine.evaluate metadataOf evaluators output = .ok r) :
    r.metrics.lookup l = (bareMetrics output evaluators []).lookup l := by
  unfold EvaluationEngine.evaluate at hr
  cases hloop : evaluateEach output evaluators { success := true } with
  | error err =>
      rw [hloop] at hr
      cases hr
  | ok combined =>
      rw [hloop] at hr
      have hcombined : combined.metrics.lookup l = (bareMetrics output evaluators []).lookup l :=
        lookup_evaluateEach hl rfl hloop
      rw [← hcombined]
      cases hscore : extractSecurityScore metadataOf output with
      | error err =>
          simp only [hscore] at hr
          cases hr
      | ok score =>
          simp only [hscore] at hr
          cases hr
          cases score <;>
            simp [EvaluationResult.assessed, Dict.lookup_set, hsecurity.1, hsecurity.2]

/-- The engine returns on a batch where its evaluators do. -/
theorem evaluate_dict_ok (metadataOf : Ω → Option Dict) {evaluators : List (Evaluator Ω)}
    {batch : Dict} (h : ∀ e ∈ evaluators, ∃ r, e.evaluate (.dict batch) = .ok r) :
    ∃ r, EvaluationEngine.evaluate metadataOf evaluators (.dict batch) = .ok r := by
  have hloop : ∀ combined, ∃ r, evaluateEach (.dict batch) evaluators combined = .ok r := by
    induction evaluators with
    | nil => exact fun combined => ⟨combined, rfl⟩
    | cons e evaluators ih =>
        intro combined
        obtain ⟨result, hresult⟩ := h e List.mem_cons_self
        rw [evaluateEach, hresult]
        exact ih (fun f hf => h f (List.mem_cons_of_mem e hf)) (combined.merge result e.name)
  obtain ⟨combined, hcombined⟩ := hloop { success := true }
  refine ⟨combined.assessed none, ?_⟩
  rw [EvaluationEngine.evaluate, hcombined]
  rfl

end Engine

/-! ### The report itself -/

/-- A report of a `ScoreEvaluator` has all numbers that the gate looks for. -/
theorem ScoreEvaluator.report_numbers {self : ScoreEvaluator} {env : ScoreEnv}
    {batch report : Dict} {total : ℕ} {t : Tally} (h : self.report env batch total t = .ok report) :
    ∀ c ∈ gateChecks, ∃ q, c.value report = .ok (.num q) := by
  simp only [ScoreEvaluator.report, bind_eq_ok_iff] at h
  obtain ⟨taxRatio, -, calls, -, tokens, -, p99, -, estimated, -, rulePass, -, ruleFail, -,
    withRetry, -, noRetry, -, taxMax, -, hreport⟩ := h
  obtain rfl := Except.ok.inj hreport
  intro c hc
  simp only [gateChecks, List.mem_cons, List.not_mem_nil, or_false] at hc
  -- each name is found at its place in the list
  rcases hc with rfl | rfl | rfl | rfl | rfl | rfl <;> exact ⟨_, rfl⟩

theorem ScoreEvaluator.evaluate_numbers {self : ScoreEvaluator} {env : ScoreEnv} {batch : Dict}
    {r : EvaluationResult} (h : self.evaluate env batch = .ok r) :
    ∀ c ∈ gateChecks, ∃ q, c.value r.metrics = .ok (.num q) := by
  simp only [ScoreEvaluator.evaluate, bind_eq_ok_iff] at h
  obtain ⟨cases, -, t, -, report, hreport, deduped, -, hr⟩ := h
  obtain rfl := Except.ok.inj hr
  exact report_numbers hreport

/-- All six thresholds are there. -/
def Thresholds.Complete (g : Thresholds) : Prop :=
  ∀ c ∈ gateChecks, ∃ bound, g.item c.threshold = .ok bound

/-- So the gate has a verdict on it. -/
theorem ScoreEvaluator.passing_or_failing {self : ScoreEvaluator} {env : ScoreEnv} {batch : Dict}
    {r : EvaluationResult} {g : Thresholds} (hg : g.Complete)
    (h : self.evaluate env batch = .ok r) :
    Passing g r.metrics gateChecks ∨ Failing g r.metrics gateChecks := by
  apply ChaosDemo.passing_or_failing
  intro c hc
  obtain ⟨q, hq⟩ := evaluate_numbers h c hc
  obtain ⟨bound, hbound⟩ := hg c hc
  have hnumbers : c.numbers g r.metrics = .ok (q, bound) := by
    rw [GateCheck.numbers, hq, hbound]
    rfl
  cases hb : c.breaks q bound with
  | false => exact .inl ⟨q, bound, hnumbers, hb⟩
  | true => exact .inr ⟨q, bound, hnumbers, hb⟩

/-! ### Two ways to the gate -/

section SameVerdict

variable {Ω : Type} {metadataOf : Ω → Option Dict} {g : Thresholds} {scorer : ScoreEvaluator}
  {env : ScoreEnv} {evaluators : List (Evaluator Ω)} {batch : Dict}

/-- The gate on the result of the engine. -/
def throughEngine (metadataOf : Ω → Option Dict) (g : Thresholds) (evaluators : List (Evaluator Ω))
    (batch : Dict) : Except PyError Dict := do
  let result ← EvaluationEngine.evaluate metadataOf evaluators (.dict batch)
  QualityGate.assertPass g result

/-- The gate on the result of the `ScoreEvaluator`. -/
def direct (g : Thresholds) (scorer : ScoreEvaluator) (env : ScoreEnv) (batch : Dict) :
    Except PyError Dict := do
  let result ← scorer.evaluate env batch
  QualityGate.assertPass g result

/-- Through the engine the gate passes exactly where it passes directly, and otherwise
raises `AgentGateError` and nothing else. -/
structure SameVerdict (metadataOf : Ω → Option Dict) (g : Thresholds) (scorer : ScoreEvaluator)
    (env : ScoreEnv) (evaluators : List (Evaluator Ω)) (batch : Dict) : Prop where
  passes_iff : (∃ report, throughEngine metadataOf g evaluators batch = .ok report) ↔
    ∃ report, direct g scorer env batch = .ok report
  otherwise : ∀ e, throughEngine metadataOf g evaluators batch = .error e →
    ∃ m, e = .agentGateError m

/-- The evaluators without a name, of which there is one, report metrics on which the
verdict is that on the report. -/
def UnnamedAgree (g : Thresholds) (scorer : ScoreEvaluator) (env : ScoreEnv)
    (evaluators : List (Evaluator Ω)) (batch : Dict) : Prop :=
  (∃ e ∈ evaluators, e.name = "") ∧
  ∃ r, scorer.evaluate env batch = .ok r ∧
    let bare := bareMetrics (.dict batch) evaluators []
    (Passing g r.metrics gateChecks ∧ Passing g bare gateChecks) ∨
      (Failing g r.metrics gateChecks ∧ Failing g bare gateChecks)

theorem not_verdict_nil (g : Thresholds) :
    ¬ Passing g [] gateChecks ∧ ¬ Failing g [] gateChecks := by
  -- the first check already misses its metric
  have hfirst : ∀ c, c.fallback = none → ¬ GateCheck.Within g [] c ∧ ¬ GateCheck.Beyond g [] c :=
    fun c hc => GateCheck.not_within_of_missing hc rfl
  constructor
  · intro h
    exact (hfirst _ rfl).1 (h _ List.mem_cons_self)
  · intro h
    rcases h with h | h
    · exact (hfirst _ rfl).2 h
    · exact (hfirst _ rfl).1 h.1

theorem assertPass_ok_iff {result : EvaluationResult} :
    (∃ report, QualityGate.assertPass g result = .ok report) ↔
      Passing g result.metrics gateChecks := by
  rw [← runChecks_ok_iff, QualityGate.assertPass]
  cases runChecks g result.metrics gateChecks <;>
    simp [bind, Except.bind, pure, Except.pure]

theorem assertPass_gateError_iff {result : EvaluationResult} :
    (∃ m, QualityGate.assertPass g result = .error (.agentGateError m)) ↔
      Failing g result.metrics gateChecks := by
  rw [← runChecks_gateError_iff, QualityGate.assertPass]
  cases runChecks g result.metrics gateChecks <;>
    simp [bind, Except.bind, pure, Except.pure]

/-- No gate passes and fails. -/
theorem not_passing_of_failing {report : Dict} {checks : List GateCheck}
    (h : Failing g report checks) : ¬ Passing g report checks := by
  intro hp
  obtain ⟨m, hm⟩ := runChecks_gateError_iff.mpr h
  rw [runChecks_ok_iff.mpr hp] at hm
  cases hm

/-- The gate finds in the engine's result what the evaluators without a name report. -/
theorem runChecks_evaluate {r : EvaluationResult}
    (hr : EvaluationEngine.evaluate metadataOf evaluators (.dict batch) = .ok r) :
    runChecks g r.metrics gateChecks =
      runChecks g (bareMetrics (.dict batch) evaluators []) gateChecks := by
  apply runChecks_congr
  intro c hc
  have hname : '.' ∉ c.metric.toList ∧ c.metric ≠ "security_score" ∧
      c.metric ≠ "security_assessed" := by
    simp only [gateChecks, List.mem_cons, List.not_mem_nil, or_false] at hc
    rcases hc with rfl | rfl | rfl | rfl | rfl | rfl <;> simp
  exact lookup_evaluate hname.1 hname.2 hr

/-- Where every evaluator has a name, the gate raises `KeyError` for its first metric. -/
theorem throughEngine_of_named
    (hrun : ∀ e ∈ evaluators, ∃ r, e.evaluate (.dict batch) = .ok r)
    (hnamed : ∀ e ∈ evaluators, e.name ≠ "") :
    throughEngine metadataOf g evaluators batch =
      .error (.keyError "tool_selection_accuracy") := by
  obtain ⟨r, hr⟩ := evaluate_dict_ok metadataOf hrun
  have hchecks : runChecks g r.metrics gateChecks = runChecks g [] gateChecks := by
    rw [runChecks_evaluate hr, bareMetrics_of_named hnamed]
  have hfirst : runChecks g [] gateChecks = .error (.keyError "tool_selection_accuracy") := rfl
  rw [throughEngine, hr]
  show QualityGate.assertPass g r = _
  rw [QualityGate.assertPass, hchecks, hfirst]
  rfl

/-- **When the two verdicts agree.**  For a `ScoreEvaluator` in a list of evaluators that
all return on the batch. -/
theorem sameVerdict_iff (hg : g.Complete) (hmem : scorer.evaluator env ∈ evaluators)
    (hrun : ∀ e ∈ evaluators, ∃ r, e.evaluate (.dict batch) = .ok r) :
    SameVerdict metadataOf g scorer env evaluators batch ↔
      UnnamedAgree g scorer env evaluators batch := by
  obtain ⟨r, hr⟩ := evaluate_dict_ok metadataOf hrun
  obtain ⟨own, hown⟩ := hrun _ hmem
  replace hown : scorer.evaluate env batch = .ok own := hown
  set bare := bareMetrics (.dict batch) evaluators [] with hbare
  have hchecks : runChecks g r.metrics gateChecks = runChecks g bare gateChecks :=
    runChecks_evaluate hr
  have hpass : Passing g r.metrics gateChecks ↔ Passing g bare gateChecks := by
    rw [← runChecks_ok_iff, hchecks, runChecks_ok_iff]
  have hfail : Failing g r.metrics gateChecks ↔ Failing g bare gateChecks := by
    rw [← runChecks_gateError_iff, hchecks, runChecks_gateError_iff]
  have hengine : throughEngine metadataOf g evaluators batch = QualityGate.assertPass g r := by
    rw [throughEngine, hr]
    rfl
  have hdirect : direct g scorer env batch = QualityGate.assertPass g own := by
    rw [direct, hown]
    rfl
  constructor
  · intro h
    have hiff := h.passes_iff
    rw [hengine, hdirect, assertPass_ok_iff, assertPass_ok_iff, hpass] at hiff
    -- without a pass there is an error, and it is the gate's
    have hverdict : ¬ Passing g bare gateChecks → Failing g bare gateChecks := by
      intro hnot
      rw [← hfail, ← assertPass_gateError_iff]
      cases hres : QualityGate.assertPass g r with
      | ok report => exact absurd (hpass.mp (assertPass_ok_iff.mp ⟨report, hres⟩)) hnot
      | error e =>
          obtain ⟨m, rfl⟩ := h.otherwise e (hengine.trans hres)
          exact ⟨m, rfl⟩
    have hagree : (Passing g own.metrics gateChecks ∧ Passing g bare gateChecks) ∨
        (Failing g own.metrics gateChecks ∧ Failing g bare gateChecks) := by
      rcases scorer.passing_or_failing hg hown with hp | hf
      · exact .inl ⟨hp, hiff.mpr hp⟩
      · exact .inr ⟨hf, hverdict fun hp => not_passing_of_failing hf (hiff.mp hp)⟩
    refine ⟨?_, own, hown, hagree⟩
    by_contra hnamed
    have hnil : bare = [] := by
      apply bareMetrics_of_named
      intro e he hname
      exact hnamed ⟨e, he, hname⟩
    rw [hnil] at hagree
    rcases hagree with ⟨-, hp⟩ | ⟨-, hf⟩
    · exact (not_verdict_nil g).1 hp
    · exact (not_verdict_nil g).2 hf
  · intro h
    obtain ⟨-, own', hown', hagree⟩ := h
    obtain rfl : own' = own := by
      rw [hown] at hown'
      exact (Except.ok.inj hown').symm
    constructor
    · rw [hengine, hdirect, assertPass_ok_iff, assertPass_ok_iff, hpass]
      rcases hagree with ⟨hp, hp'⟩ | ⟨hf, hf'⟩
      · exact ⟨fun _ => hp, fun _ => hp'⟩
      · exact ⟨fun hp => absurd hp (not_passing_of_failing hf'),
          fun hp => absurd hp (not_passing_of_failing hf)⟩
    · intro e he
      rw [hengine] at he
      rcases hagree with ⟨-, hp⟩ | ⟨-, hf⟩
      · obtain ⟨report, hreport⟩ := assertPass_ok_iff.mpr (hpass.mpr hp)
        rw [hreport] at he
        cases he
      · obtain ⟨m, hm⟩ := assertPass_gateError_iff.mpr (hfail.mpr hf)
        rw [hm] at he
        cases he
        exact ⟨m, rfl⟩

end SameVerdict

/-! ### A run -/

/-- The thresholds of `EvaluationConfig`. -/
def defaultThresholds : Thresholds :=
  [("tool_selection_accuracy_min", 7 / 10), ("arg_accuracy_min", 7 / 10),
   ("avg_tool_calls_per_task_max", 10), ("retry_rate_max", 3 / 10),
   ("hallucination_rate_max", 1 / 10), ("planner_invalid_rate_max", 1 / 10)]

/-- An environment that knows the letters and digits of ASCII. -/
def asciiEnv : ScoreEnv where
  unicode := { isAlnum := Char.isAlphanum, isDecimal := Char.isDigit }
  random := fun _ _ => 0
  retryTaxMax := "0.60"

/-- A batch of one case in which the agent did what it should. -/
def perfectBatch : Dict :=
  [("cases", .arr [.obj
    [("id", .str "case-001"), ("category", .str "normal"), ("input", .str "query order A1001"),
     ("expected_tools", .arr [.str "query_order"]), ("called_tools", .arr [.str "query_order"]),
     ("expected_args", .obj [("order_id", .str "A1001")]),
     ("called_args", .obj [("order_id", .str "A1001")]), ("retry_count", .int 0),
     ("tool_calls_count", .int 1), ("token_usage", .int 120), ("final_response", .str "A1001"),
     ("tool_results", .arr [.obj
       [("tool", .str "query_order"), ("result", .obj [("ok", .bool true)])]])]])]

theorem complete_defaultThresholds : defaultThresholds.Complete := by
  intro c hc
  simp only [gateChecks, List.mem_cons, List.not_mem_nil, or_false] at hc
  rcases hc with rfl | rfl | rfl | rfl | rfl | rfl <;> exact ⟨_, rfl⟩

theorem direct_perfectBatch :
    ∃ report, direct defaultThresholds {} asciiEnv perfectBatch = .ok report := by
  apply exists_ok_of_isOk
  decide +kernel

theorem evaluate_perfectBatch :
    ∃ r, ScoreEvaluator.evaluate {} asciiEnv perfectBatch = .ok r := by
  obtain ⟨report, hreport⟩ := direct_perfectBatch
  obtain ⟨r, hr, -⟩ := bind_eq_ok_iff.mp hreport
  exact ⟨r, hr⟩

/-- With the `ScoreEvaluator` and a copy of it that has no name. -/
theorem sameVerdict_unnamedCopy :
    SameVerdict (fun _ : Unit => none) defaultThresholds {} asciiEnv
      [ScoreEvaluator.evaluator {} asciiEnv,
        { ScoreEvaluator.evaluator {} asciiEnv with name := "" }] perfectBatch := by
  obtain ⟨r, hr⟩ := evaluate_perfectBatch
  apply (sameVerdict_iff complete_defaultThresholds List.mem_cons_self ?_).mpr
  · refine ⟨⟨_, List.mem_cons_of_mem _ List.mem_cons_self, rfl⟩, r, hr, Or.inl ⟨?_, ?_⟩⟩
    · obtain ⟨report, hreport⟩ := direct_perfectBatch
      rw [direct, hr] at hreport
      exact assertPass_ok_iff.mp ⟨report, hreport⟩
    · apply runChecks_ok_iff.mp
      decide +kernel
  · intro e he
    simp only [List.mem_cons, List.not_mem_nil, or_false] at he
    rcases he with rfl | rfl <;> exact ⟨r, hr⟩

/-- With the `ScoreEvaluator` alone the report passes and the engine's result raises
`KeyError`. -/
theorem scoreAlone_keyError :
    defaultThresholds.Complete ∧
    (∃ report, direct defaultThresholds {} asciiEnv perfectBatch = .ok report) ∧
    throughEngine (fun _ : Unit => none) defaultThresholds [ScoreEvaluator.evaluator {} asciiEnv]
      perfectBatch = .error (.keyError "tool_selection_accuracy") ∧
    ¬ SameVerdict (fun _ : Unit => none) defaultThresholds {} asciiEnv
      [ScoreEvaluator.evaluator {} asciiEnv] perfectBatch := by
  obtain ⟨r, hr⟩ := evaluate_perfectBatch
  have hkey : throughEngine (fun _ : Unit => none) defaultThresholds
      [ScoreEvaluator.evaluator {} asciiEnv] perfectBatch =
        .error (.keyError "tool_selection_accuracy") := by
    apply throughEngine_of_named
    · intro e he
      obtain rfl := List.mem_singleton.mp he
      exact ⟨r, hr⟩
    · intro e he
      obtain rfl := List.mem_singleton.mp he
      simp [ScoreEvaluator.evaluator]
  refine ⟨complete_defaultThresholds, direct_perfectBatch, hkey, ?_⟩
  intro h
  obtain ⟨m, hm⟩ := h.otherwise _ hkey
  cases hm

end ChaosDemo
