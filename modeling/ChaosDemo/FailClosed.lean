/-
ChaosDemo/FailClosed.lean

When the unified gate is total and fail-closed: it returns a document, passes only where
every report is there, well formed and within its thresholds, and names the check of every
report that is missing or malformed.

A check turns a report down by a `QualityGateError` (an `AgentGateError` for the agent
evaluation), which becomes a reason; any other exception leaves `run_unified`.  The fields
are read with unguarded subscripts, and a comparison with NaN is false, so what decides is
how far a check gets: to a limit that the report exceeds, in a value that the message can
format, or to the end of a report that is well formed.
-/
import ChaosDemo.Guards
import ChaosDemo.UnifiedGate

namespace ChaosDemo

/-! ### Well-formed reports -/

/-- A finite number; a boolean is none. -/
def PyJson.IsFinite : PyJson → Prop
  | .int _ => True
  | .float (.fin _) => True
  | _ => False

/-- The value of a finite number. -/
def PyJson.rat : PyJson → ℚ
  | .int i => i
  | .float (.fin q) => q
  | _ => 0

/-- An integer that a format can turn into a float. -/
def PyJson.InRange : PyJson → Prop
  | .int i => i.natAbs < floatLimit
  | _ => True

/-- What the benchmark check reads. -/
structure BenchmarkValues where
  errorRate : PyJson
  p99 : PyJson
  baselineP95 : PyJson
  p95 : PyJson
  degradedRate : PyJson
  stdev : PyJson

def BenchmarkValues.all (b : BenchmarkValues) : List PyJson :=
  [b.errorRate, b.p99, b.baselineP95, b.p95, b.degradedRate, b.stdev]

/-- An object that may be missing or null. -/
def OptionalObject (v : Option PyJson) (fields : List (String × PyJson)) : Prop :=
  (v = none ∨ v = some .null) ∧ fields = [] ∨ v = some (.obj fields)

/-- A report has these values; the deviation may be missing or null, as may the objects
around it. -/
def ReadsBenchmark (data : PyJson) (b : BenchmarkValues) : Prop :=
  ∃ fields baseline guarded summary perMetric p95Summary, data = .obj fields ∧
    fields.lookup "baseline" = some (.obj baseline) ∧
    fields.lookup "protected" = some (.obj guarded) ∧
    guarded.lookup "error_rate" = some b.errorRate ∧ guarded.lookup "p99_ms" = some b.p99 ∧
    baseline.lookup "p95_ms" = some b.baselineP95 ∧ guarded.lookup "p95_ms" = some b.p95 ∧
    guarded.lookup "degraded_rate" = some b.degradedRate ∧
    OptionalObject (fields.lookup "protected_summary") summary ∧
    OptionalObject (summary.lookup "summary") perMetric ∧
    OptionalObject (perMetric.lookup "p95_ms") p95Summary ∧
    ((p95Summary.lookup "stdev" = none ∨ p95Summary.lookup "stdev" = some .null) ∧
        b.stdev = .float (.fin 0) ∨
      p95Summary.lookup "stdev" = some b.stdev)

/-- The severities of a security report: of each finding its text, or the default. -/
def ReadsFindings (data : PyJson) (severities : List String) : Prop :=
  ∃ fields, data = .obj fields ∧
    (fields.lookup "findings" = none ∧ severities = [] ∨
      ∃ items, fields.lookup "findings" = some (.arr items) ∧
        List.Forall₂ (fun item severity => ∃ finding, item = .obj finding ∧
          (finding.lookup "severity" = none ∧ severity = "low" ∨
            finding.lookup "severity" = some (.str severity))) items severities)

/-- A report of the agent evaluation has this value for a metric. -/
def ReadsMetric (report : PyJson) (c : GateCheck) (v : PyJson) : Prop :=
  ∃ fields, report = .obj fields ∧
    (fields.lookup c.metric = some v ∨
      fields.lookup c.metric = none ∧ c.fallback.isSome = true ∧ v = .int 0)

section Limits

variable (s : GateSettings) (env : GateEnv)

/-- The date is a number, where it is asked for. -/
def Dated (data : PyJson) : Prop :=
  s.checkFreshness = true → ∃ fields v n, data = .obj fields ∧
    fields.lookup "generated_at" = some v ∧ v.toInt = .ok n

/-- The report is neither from the future nor too old. -/
def Fresh (data : PyJson) (now : ℤ) : Prop :=
  s.checkFreshness = true → ∃ fields v n, data = .obj fields ∧
    fields.lookup "generated_at" = some v ∧ v.toInt = .ok n ∧
    0 ≤ now - n ∧ now - n ≤ s.maxReportAgeSec

/-- The values are within the limits of the benchmark. -/
structure BenchmarkWithin (b : BenchmarkValues) : Prop where
  errorRate : b.errorRate.rat ≤ s.errorRateMax
  p99 : b.p99.rat ≤ s.p99MsMax
  p95 : b.p95.rat ≤ b.baselineP95.rat * s.p95RegressionFactorMax
  unstable : b.degradedRate.rat + b.errorRate.rat ≤ s.unstableRateMax
  stdev : 0 < s.p95StdevMax → b.stdev.rat ≤ s.p95StdevMax

/-- No finding is as severe as the level that fails. -/
def FindingsWithin (severities : List String) : Prop :=
  ∀ severity ∈ severities, severityRank env.lower (env.lower severity) <
    severityRank env.lower (env.lower s.failOn)

/-- The metric is within its bound. -/
def MetricWithin (c : GateCheck) (v : PyJson) : Prop :=
  ∃ bound, s.agent.item c.threshold = .ok bound ∧ c.breaks v.rat bound = false

/-- How often a check is run at most. -/
def gateAttempts : ℕ := (max 1 s.retryAttempts).toNat

/-! ### Reports as the gate should see them -/

def BenchmarkFormed (file : ReportFile) : Prop :=
  ∃ data, file = .loaded data ∧ Dated s data ∧
    ∃ b, ReadsBenchmark data b ∧ ∀ v ∈ b.all, v.IsFinite

def BenchmarkGood (file : ReportFile) : Prop :=
  ∃ data, file = .loaded data ∧
    (∃ i, 1 ≤ i ∧ i ≤ gateAttempts s ∧ Fresh s data (env.time "benchmark" i)) ∧
    ∃ b, ReadsBenchmark data b ∧ (∀ v ∈ b.all, v.IsFinite) ∧ BenchmarkWithin s b

def SecurityFormed (file : ReportFile) : Prop :=
  ∃ data, file = .loaded data ∧ Dated s data ∧ ∃ severities, ReadsFindings data severities

def SecurityGood (file : ReportFile) : Prop :=
  ∃ data, file = .loaded data ∧
    (∃ i, 1 ≤ i ∧ i ≤ gateAttempts s ∧ Fresh s data (env.time "security" i)) ∧
    ∃ severities, ReadsFindings data severities ∧ FindingsWithin s env severities

def AgentFormed (file : ReportFile) : Prop :=
  ∃ report, file = .loaded report ∧
    ∀ c ∈ gateChecks, ∃ v, ReadsMetric report c v ∧ v.IsFinite

def AgentGood (file : ReportFile) : Prop :=
  ∃ report, file = .loaded report ∧
    ∀ c ∈ gateChecks, ∃ v, ReadsMetric report c v ∧ v.IsFinite ∧ MetricWithin s c v

/-- A document gives a reason that names the check. -/
def GateDocument.Names (doc : GateDocument) (check : String) : Prop :=
  ∃ reason, check ++ ": " ++ reason ∈ doc.reasons

/-- The gate is total and fail-closed on these reports. -/
def FailClosed (files : Reports) : Prop :=
  ∃ doc, runUnified s env files = .ok doc ∧
    (doc.finalDecision = "PASS" → BenchmarkGood s env files.benchmark ∧
      SecurityGood s env files.security ∧ AgentGood s files.agent) ∧
    (¬ BenchmarkFormed s files.benchmark →
      doc.finalDecision = "FAIL" ∧ doc.Names "benchmark") ∧
    (¬ SecurityFormed s files.security → doc.finalDecision = "FAIL" ∧ doc.Names "security") ∧
    (¬ AgentFormed files.agent → doc.finalDecision = "FAIL" ∧ doc.Names "agent_eval")

/-! ### How far a check gets -/

/-- The value is above the bound, and the message can format it. -/
def Above (v : PyJson) (bound : PyFloat) : Prop :=
  ∃ x, v.number = .ok x ∧ bound.lt x = true ∧ ∃ shown, v.asFloat = .ok shown

/-- The comparison does not find the value above the bound. -/
def NotAbove (v : PyJson) (bound : PyFloat) : Prop :=
  ∃ x, v.number = .ok x ∧ bound.lt x = false

/-- The freshness of the report turns it down: the date is missing, no number, in the
future, or too old by an age that can be written. -/
def Undated (data : PyJson) (now : ℤ) : Prop :=
  s.checkFreshness = true ∧ ∃ fields, data = .obj fields ∧
    (fields.lookup "generated_at" = none ∨ fields.lookup "generated_at" = some .null ∨
      ∃ v, fields.lookup "generated_at" = some v ∧
        (v.toInt = .error .typeError ∨ v.toInt = .error .valueError ∨
          ∃ n, v.toInt = .ok n ∧ (now - n < 0 ∨ 0 ≤ now - n ∧ s.maxReportAgeSec < now - n ∧
            ∃ shown, intRepr (now - n) = .ok shown)))

/-- The benchmark check comes to a limit that the report exceeds. -/
def BenchmarkStops (data : PyJson) : Prop :=
  ∃ baseline, data.item "baseline" = .ok baseline ∧
  ∃ guarded, data.item "protected" = .ok guarded ∧
  ∃ errorRate, guarded.item "error_rate" = .ok errorRate ∧
    (Above errorRate (.fin s.errorRateMax) ∨ NotAbove errorRate (.fin s.errorRateMax) ∧
  ∃ p99, guarded.item "p99_ms" = .ok p99 ∧
    (Above p99 (.fin s.p99MsMax) ∨ NotAbove p99 (.fin s.p99MsMax) ∧
  ∃ baselineP95, baseline.item "p95_ms" = .ok baselineP95 ∧
  ∃ x, baselineP95.asFloat = .ok x ∧
  ∃ p95, guarded.item "p95_ms" = .ok p95 ∧
    (Above p95 (x.scale s.p95RegressionFactorMax) ∨
      NotAbove p95 (x.scale s.p95RegressionFactorMax) ∧
  ∃ degradedRate, guarded.item "degraded_rate" = .ok degradedRate ∧
  ∃ unstable, degradedRate.plus errorRate = .ok unstable ∧
    (Above unstable (.fin s.unstableRateMax) ∨ NotAbove unstable (.fin s.unstableRateMax) ∧
  ∃ stdev, p95Stdev data = .ok stdev ∧
    0 < s.p95StdevMax ∧ (PyFloat.fin s.p95StdevMax).lt stdev = true))))

/-- The security check comes to the end of the findings, and one is severe enough. -/
def SecurityStops (data : PyJson) : Prop :=
  ∃ findings, data.get "findings" = .ok findings ∧
  ∃ items, (findings.getD (.arr [])).iter = .ok items ∧
  ∃ severities, List.Forall₂ (fun item severity => severityOf env item = .ok severity) items
      severities ∧
    ∃ severity ∈ severities,
      severityRank env.lower (env.lower s.failOn) ≤ severityRank env.lower severity

/-- The agent check comes to a metric that is out of bounds, and the message can format
it. -/
def AgentStops (report : PyJson) : Prop :=
  ∃ metrics, report.toDict = .ok metrics ∧
  ∃ before c after, gateChecks = before ++ c :: after ∧
    (∀ c' ∈ before, ∃ v, c'.valueOn metrics = .ok v ∧
      ∃ bound, s.agent.item c'.threshold = .ok bound ∧
      ∃ x, v.number = .ok x ∧ c'.breaksOn x bound = false) ∧
    ∃ v, c.valueOn metrics = .ok v ∧ ∃ bound, s.agent.item c.threshold = .ok bound ∧
      ∃ x, v.number = .ok x ∧ c.breaksOn x bound = true ∧ ∃ shown, v.asFloat = .ok shown

/-- Some attempt gets through, after attempts that turn the report down; or none does. -/
def Decided (stops passes : ℕ → Prop) : Prop :=
  (∀ i, 1 ≤ i → i ≤ gateAttempts s → stops i) ∨
    ∃ i, 1 ≤ i ∧ i ≤ gateAttempts s ∧ (∀ k, 1 ≤ k → k < i → stops k) ∧ passes i

/-- The benchmark report is there, and each attempt turns it down or finds it good. -/
def BenchmarkClosed (file : ReportFile) : Prop :=
  ∃ data, file = .loaded data ∧ Decided s
    (fun i => Undated s data (env.time "benchmark" i) ∨
      Fresh s data (env.time "benchmark" i) ∧ BenchmarkStops s data)
    (fun i => Fresh s data (env.time "benchmark" i) ∧ ∃ b, ReadsBenchmark data b ∧
      (∀ v ∈ b.all, v.IsFinite ∧ v.InRange) ∧ BenchmarkWithin s b)

def SecurityClosed (file : ReportFile) : Prop :=
  file = .absent ∨ ∃ data, file = .loaded data ∧ Decided s
    (fun i => Undated s data (env.time "security" i) ∨
      Fresh s data (env.time "security" i) ∧ SecurityStops s env data)
    (fun i => Fresh s data (env.time "security" i) ∧
      ∃ severities, ReadsFindings data severities ∧ FindingsWithin s env severities)

def AgentClosed (file : ReportFile) : Prop :=
  file = .absent ∨ ∃ report, file = .loaded report ∧ (AgentStops s report ∨
    ∀ c ∈ gateChecks, ∃ v, ReadsMetric report c v ∧ v.IsFinite ∧ MetricWithin s c v)

end Limits

/-! ### Turning a report down -/

/-- A `QualityGateError` is raised. -/
def GateStops {α : Type} (x : Except PyError α) : Prop := ∃ msg, x = gateFail msg

section Stops

variable {α β : Type}

@[simp] theorem stops_gateFail (msg : String) : GateStops (gateFail msg : Except PyError α) :=
  ⟨msg, rfl⟩

@[simp] theorem not_stops_ok {a : α} : ¬ GateStops (.ok a) := by
  intro h
  obtain ⟨msg, h⟩ := h
  cases h

@[simp] theorem not_stops_pure {a : α} : ¬ GateStops (pure a) := not_stops_ok

theorem stops_bind_iff {x : Except PyError α} {f : α → Except PyError β} :
    GateStops (x >>= f) ↔ GateStops x ∨ ∃ a, x = .ok a ∧ GateStops (f a) := by
  constructor
  · intro h
    obtain ⟨msg, h⟩ := h
    rcases bind_eq_error_iff.mp h with h | ⟨a, ha, h⟩
    · exact Or.inl ⟨msg, h⟩
    · exact Or.inr ⟨a, ha, msg, h⟩
  · intro h
    rcases h with ⟨msg, h⟩ | ⟨a, ha, h⟩
    · exact ⟨msg, bind_eq_error_iff.mpr (Or.inl h)⟩
    · rw [ha, ok_bind]
      exact h

@[simp] theorem not_stops_item {v : PyJson} {k : String} : ¬ GateStops (v.item k) := by
  intro h
  obtain ⟨msg, h⟩ := h
  unfold PyJson.item at h
  split at h
  · split at h <;> cases h
  · cases h

@[simp] theorem not_stops_get {v : PyJson} {k : String} : ¬ GateStops (v.get k) := by
  intro h
  obtain ⟨msg, h⟩ := h
  cases v <;> cases h

@[simp] theorem not_stops_number {v : PyJson} : ¬ GateStops v.number := by
  intro h
  obtain ⟨msg, h⟩ := h
  cases v <;> cases h

theorem gateFail_ne_overflow {msg : String} :
    (.error overflowError : Except PyError α) ≠ gateFail msg := by
  intro h
  simp [overflowError, gateFail] at h

@[simp] theorem not_stops_asFloat {v : PyJson} : ¬ GateStops v.asFloat := by
  intro h
  obtain ⟨msg, h⟩ := h
  cases v with
  | int i =>
      rw [PyJson.asFloat, intToFloat] at h
      split at h
      · cases h
      · exact gateFail_ne_overflow h
  | _ => cases h

@[simp] theorem not_stops_plus {v w : PyJson} : ¬ GateStops (v.plus w) := by
  unfold PyJson.plus
  split
  · exact not_stops_ok
  · simp only [stops_bind_iff, not_stops_asFloat, not_stops_pure, and_false, exists_false,
      or_self, not_false_iff]

@[simp] theorem not_stops_toFloat {v : PyJson} : ¬ GateStops v.toFloat := by
  cases v with
  | str t =>
      rw [PyJson.toFloat]
      cases pyFloatText t with
      | none =>
          intro h
          obtain ⟨msg, h⟩ := h
          cases h
      | some x => exact not_stops_ok
  | _ =>
      rw [PyJson.toFloat]
      · exact not_stops_asFloat
      · intro t ht
        cases ht

@[simp] theorem not_stops_p95Stdev {data : PyJson} : ¬ GateStops (p95Stdev data) := by
  simp only [p95Stdev, stops_bind_iff, not_stops_get, not_stops_toFloat, and_false, exists_false,
    or_self, not_false_iff]

@[simp] theorem not_stops_iter {v : PyJson} : ¬ GateStops v.iter := by
  intro h
  obtain ⟨msg, h⟩ := h
  cases v <;> cases h

@[simp] theorem not_stops_intRepr {i : ℤ} : ¬ GateStops (intRepr i) := by
  intro h
  obtain ⟨msg, h⟩ := h
  rw [intRepr] at h
  split at h <;> cases h

theorem not_stops_toInt {v : PyJson} : ¬ GateStops v.toInt := by
  intro h
  obtain ⟨msg, h⟩ := h
  cases v with
  | float x =>
      cases x with
      | inf negative => exact gateFail_ne_overflow h
      | _ => cases h
  | str t =>
      rw [PyJson.toInt] at h
      cases ht : Json.toInt? (.str t) <;> rw [ht] at h <;> cases h
  | _ => cases h

@[simp] theorem not_stops_severityOf {env : GateEnv} {item : PyJson} :
    ¬ GateStops (severityOf env item) := by
  simp only [severityOf, stops_bind_iff, not_stops_get, not_stops_pure, and_false, exists_false,
    or_self, not_false_iff]

theorem stops_failIf {c : Prop} [Decidable c] {msg : String} {x : Except PyError α} :
    GateStops (if c then gateFail msg else x) ↔ c ∨ GateStops x := by
  by_cases hc : c
  · rw [if_pos hc]
    exact iff_of_true (stops_gateFail msg) (Or.inl hc)
  · rw [if_neg hc, or_iff_right hc]

end Stops

/-! ### The comparisons -/

theorem failAbove_eq_ok_iff {v : PyJson} {bound : PyFloat} {message : PyFloat → String}
    {u : Unit} : failAbove v bound message = .ok u ↔ NotAbove v bound := by
  rw [failAbove, bind_eq_ok_iff, NotAbove]
  refine exists_congr fun x => and_congr_right fun _ => ?_
  cases hlt : bound.lt x with
  | true =>
      rw [if_pos rfl]
      refine iff_of_false (fun h => ?_) (by simp)
      obtain ⟨shown, -, h⟩ := bind_eq_ok_iff.mp h
      cases h
  | false =>
      rw [if_neg Bool.false_ne_true]
      exact iff_of_true rfl rfl

theorem stops_failAbove {v : PyJson} {bound : PyFloat} {message : PyFloat → String} :
    GateStops (failAbove v bound message) ↔ Above v bound := by
  rw [failAbove, stops_bind_iff, Above, or_iff_right not_stops_number]
  refine exists_congr fun x => and_congr_right fun _ => ?_
  cases hlt : bound.lt x with
  | true =>
      rw [if_pos rfl, stops_bind_iff, or_iff_right not_stops_asFloat]
      simp
  | false =>
      rw [if_neg Bool.false_ne_true]
      simp

theorem stops_checkBenchmark {s : GateSettings} {data : PyJson} :
    GateStops (checkBenchmark s data) ↔ BenchmarkStops s data := by
  simp only [checkBenchmark, BenchmarkStops, stops_bind_iff, not_stops_item, not_stops_asFloat,
    not_stops_plus, not_stops_p95Stdev, stops_failAbove, failAbove_eq_ok_iff, stops_failIf,
    not_stops_pure, false_or, exists_const, and_false, exists_false, or_false]

/-! ### Finite numbers -/

theorem PyJson.IsFinite.number {v : PyJson} (h : v.IsFinite) : v.number = .ok (.fin v.rat) := by
  cases v with
  | int i => rfl
  | float x =>
      cases x with
      | fin q => rfl
      | _ => exact absurd h id
  | _ => exact absurd h id

theorem PyJson.IsFinite.asFloat_iff {v : PyJson} (h : v.IsFinite) {x : PyFloat} :
    v.asFloat = .ok x ↔ v.InRange ∧ x = .fin v.rat := by
  cases v with
  | int i =>
      rw [PyJson.asFloat, intToFloat, PyJson.InRange]
      split
      · rename_i hrange
        rw [Except.ok.injEq, and_iff_right hrange]
        exact eq_comm
      · rename_i hrange
        exact iff_of_false (fun h => by cases h) fun h => hrange h.1
  | float x =>
      cases x with
      | fin q =>
          show Except.ok (PyFloat.fin q) = .ok x ↔ True ∧ x = .fin q
          rw [Except.ok.injEq, true_and]
          exact eq_comm
      | _ => exact absurd h id
  | _ => exact absurd h id

theorem PyJson.IsFinite.notAbove_iff {v : PyJson} (h : v.IsFinite) {bound : ℚ} :
    NotAbove v (.fin bound) ↔ v.rat ≤ bound := by
  rw [NotAbove, h.number]
  constructor
  · intro h
    obtain ⟨x, hx, hlt⟩ := h
    cases hx
    simpa using hlt
  · intro h
    exact ⟨_, rfl, by simpa using h⟩

/-- The sum of two finite numbers. -/
theorem PyJson.IsFinite.plus {v w u : PyJson} (hv : v.IsFinite) (hw : w.IsFinite)
    (h : v.plus w = .ok u) : u.IsFinite ∧ u.rat = v.rat + w.rat := by
  rw [PyJson.plus] at h
  split at h
  · rename_i i j hi hj
    cases h
    have hvi : v = .int i := by
      cases v with
      | int k => cases hi; rfl
      | bool b => exact absurd hv id
      | _ => cases hi
    have hwj : w = .int j := by
      cases w with
      | int k => cases hj; rfl
      | bool b => exact absurd hw id
      | _ => cases hj
    rw [hvi, hwj]
    exact ⟨trivial, Int.cast_add i j⟩
  · obtain ⟨x, hx, h⟩ := bind_eq_ok_iff.mp h
    obtain ⟨y, hy, h⟩ := bind_eq_ok_iff.mp h
    rw [(hv.asFloat_iff.mp hx).2, (hw.asFloat_iff.mp hy).2] at h
    cases h
    exact ⟨trivial, rfl⟩

theorem PyJson.IsFinite.exists_plus {v w : PyJson} (hv : v.IsFinite) (hw : w.IsFinite)
    (hvr : v.InRange) (hwr : w.InRange) : ∃ u, v.plus w = .ok u := by
  rw [PyJson.plus]
  split
  · exact ⟨_, rfl⟩
  · rw [hv.asFloat_iff.mpr ⟨hvr, rfl⟩, hw.asFloat_iff.mpr ⟨hwr, rfl⟩]
    exact ⟨_, rfl⟩

/-! ### The benchmark -/

theorem OptionalObject.get {v : Option PyJson} {fields : List (String × PyJson)}
    (h : OptionalObject v fields) (k : String) :
    (PyJson.orElse v (.obj [])).get k = .ok (fields.lookup k) := by
  rcases h with ⟨rfl | rfl, rfl⟩ | rfl
  · rfl
  · rfl
  · cases fields <;> rfl

/-- The deviation that the check compares. -/
theorem p95Stdev_of_reads {data : PyJson} {b : BenchmarkValues} (h : ReadsBenchmark data b)
    (hfin : b.stdev.IsFinite) : p95Stdev data = b.stdev.asFloat := by
  obtain ⟨fields, baseline, guarded, summary, perMetric, p95Summary, rfl, -, -, -, -, -, -, -,
    hsummary, hperMetric, hp95, hstdev⟩ := h
  have hdata : (PyJson.obj fields).get "protected_summary" =
      .ok (fields.lookup "protected_summary") := rfl
  simp only [p95Stdev, hdata, ok_bind, hsummary.get, hperMetric.get, hp95.get]
  rcases hstdev with ⟨hnone | hnull, hb⟩ | hsome
  · rw [hnone, hb]
    rfl
  · rw [hnull, hb]
    rfl
  · rw [hsome]
    show (if b.stdev.truthy then b.stdev else .float (.fin 0)).toFloat = _
    cases hv : b.stdev with
    | int i =>
        -- a zero gives way to the default, which is zero
        by_cases hi : i = 0
        · subst hi
          have hzero : (0 : ℤ).natAbs < floatLimit := floatLimit_pos
          show Except.ok (PyFloat.fin 0) = intToFloat 0
          rw [intToFloat, if_pos hzero, Int.cast_zero]
        · rw [if_pos (by simpa [PyJson.truthy] using hi)]
          rfl
    | float x =>
        by_cases hx : x = .fin 0
        · subst hx
          rfl
        · rw [if_pos (by simpa [PyJson.truthy] using hx)]
          rfl
    | _ => rw [hv] at hfin; exact absurd hfin id

/-- On a report that is well formed the check passes exactly within the limits, as long as
every number can be formatted. -/
theorem checkBenchmark_of_reads {s : GateSettings} {data : PyJson} {b : BenchmarkValues}
    (h : ReadsBenchmark data b) (hfin : ∀ v ∈ b.all, v.IsFinite) :
    checkBenchmark s data = .ok () ↔ (∀ v ∈ b.all, v.InRange) ∧ BenchmarkWithin s b := by
  have hstdev := p95Stdev_of_reads h
  obtain ⟨fields, baseline, guarded, summary, perMetric, p95Summary, rfl, hbaseline, hguarded,
    herror, hp99, hbase, hp95, hdegraded, -, -, -, -⟩ := h
  simp only [BenchmarkValues.all, List.forall_mem_cons, List.not_mem_nil, false_imp_iff,
    implies_true, and_true] at hfin ⊢
  obtain ⟨ferror, fp99, fbase, fp95, fdegraded, fstdev⟩ := hfin
  have hitem : ∀ {fields : List (String × PyJson)} {k : String} {v : PyJson},
      fields.lookup k = some v → (PyJson.obj fields).item k = .ok v := by
    intro fields k v hk
    rw [PyJson.item, hk]
  simp only [checkBenchmark, hitem hbaseline, hitem hguarded, hitem herror, hitem hp99,
    hitem hbase, hitem hp95, hitem hdegraded, hstdev fstdev, ok_bind, bind_eq_ok_iff,
    failAbove_eq_ok_iff, ferror.notAbove_iff, fp99.notAbove_iff, fbase.asFloat_iff,
    fstdev.asFloat_iff, exists_const]
  constructor
  · intro h
    obtain ⟨herrorMax, hp99Max, x, ⟨hbaseRange, rfl⟩, hp95Max, u, hu, huMax, y, ⟨hstdevRange, rfl⟩,
      hlast⟩ := h
    obtain ⟨hufin, husum⟩ := fdegraded.plus ferror hu
    split at hlast
    · cases hlast
    rename_i hjitter
    obtain ⟨_, h₁, hlast⟩ := bind_eq_ok_iff.mp hlast
    obtain ⟨_, h₂, hlast⟩ := bind_eq_ok_iff.mp hlast
    obtain ⟨_, h₃, hlast⟩ := bind_eq_ok_iff.mp hlast
    obtain ⟨_, h₄, -⟩ := bind_eq_ok_iff.mp hlast
    refine ⟨⟨(ferror.asFloat_iff.mp h₃).1, (fp99.asFloat_iff.mp h₂).1, hbaseRange,
      (fp95.asFloat_iff.mp h₁).1, (fdegraded.asFloat_iff.mp h₄).1, hstdevRange⟩, ?_⟩
    exact
      { errorRate := herrorMax
        p99 := hp99Max
        p95 := fp95.notAbove_iff.mp hp95Max
        unstable := husum ▸ hufin.notAbove_iff.mp huMax
        stdev := fun hpos => by
          have hnot := not_and.mp hjitter hpos
          simpa using hnot }
  · intro h
    obtain ⟨⟨rerror, rp99, rbase, rp95, rdegraded, rstdev⟩, hwithin⟩ := h
    obtain ⟨u, hu⟩ := fdegraded.exists_plus ferror rdegraded rerror
    obtain ⟨hufin, husum⟩ := fdegraded.plus ferror hu
    refine ⟨hwithin.errorRate, hwithin.p99, _, ⟨rbase, rfl⟩,
      fp95.notAbove_iff.mpr hwithin.p95, u, hu,
      hufin.notAbove_iff.mpr (husum ▸ hwithin.unstable), _, ⟨rstdev, rfl⟩, ?_⟩
    rw [if_neg, fp95.asFloat_iff.mpr ⟨rp95, rfl⟩, fp99.asFloat_iff.mpr ⟨rp99, rfl⟩,
      ferror.asFloat_iff.mpr ⟨rerror, rfl⟩, fdegraded.asFloat_iff.mpr ⟨rdegraded, rfl⟩]
    · rfl
    · intro hjitter
      have hle := hwithin.stdev hjitter.1
      simp only [PyFloat.lt_fin, decide_eq_true_eq] at hjitter
      exact absurd hle (not_le.mpr hjitter.2)

/-! ### The findings -/

/-- The highest rank reaches a level exactly when one of the findings does. -/
theorem le_foldl_max {α : Type} {rank : α → ℕ} {l : List α} {acc level : ℕ} :
    level ≤ l.foldl (fun highest a => max highest (rank a)) acc ↔
      level ≤ acc ∨ ∃ a ∈ l, level ≤ rank a := by
  induction l generalizing acc with
  | nil => simp
  | cons a l ih => rw [List.foldl_cons, ih, le_max_iff, List.exists_mem_cons_iff, or_assoc]

theorem severityRank_pos {lower : String → String} {level : String} :
    0 < severityRank lower level := by
  have hmem : ∀ {l : List (String × ℕ)} {k : String}, (∀ f ∈ l, 0 < f.2) →
      0 < (l.lookup k).getD 2 := by
    intro l k h
    induction l with
    | nil => exact Nat.two_pos
    | cons f l ih =>
        rw [List.lookup_cons]
        split
        · exact h f List.mem_cons_self
        · exact ih fun g hg => h g (List.mem_cons_of_mem _ hg)
  exact hmem (by decide)

section Findings

variable {s : GateSettings} {env : GateEnv} {data : PyJson}

/-- The loop over the findings: the severities it reads and the highest rank. -/
theorem findingsLoop_eq_ok_iff {items : List PyJson} {highest : ℕ} :
    items.foldlM (fun highest item => do
        let sev ← severityOf env item
        pure (max highest (severityRank env.lower sev))) 0 = .ok highest ↔
      ∃ severities, List.Forall₂ (fun item severity => severityOf env item = .ok severity) items
          severities ∧
        highest = severities.foldl (fun h sev => max h (severityRank env.lower sev)) 0 :=
  foldlM_eq_ok_iff

theorem not_stops_findingsLoop {items : List PyJson} :
    ¬ GateStops (items.foldlM (fun highest item => do
        let sev ← severityOf env item
        pure (max highest (severityRank env.lower sev))) 0) := by
  intro h
  obtain ⟨msg, h⟩ := h
  obtain ⟨-, item, -, -, -, hitem⟩ := foldlM_eq_error_iff.mp h
  exact not_stops_severityOf ⟨msg, hitem⟩

theorem stops_checkFindings :
    GateStops (checkFindings s env data) ↔ SecurityStops s env data := by
  simp only [checkFindings, SecurityStops, stops_bind_iff, not_stops_get, not_stops_iter,
    not_stops_findingsLoop, false_or, stops_failIf, not_stops_pure, or_false,
    findingsLoop_eq_ok_iff]
  refine exists_congr fun findings => and_congr_right fun _ => exists_congr fun items =>
    and_congr_right fun _ => ?_
  constructor
  · intro h
    obtain ⟨highest, ⟨severities, hread, rfl⟩, hle⟩ := h
    refine ⟨severities, hread, (le_foldl_max.mp hle).resolve_left ?_⟩
    exact Nat.not_le.mpr severityRank_pos
  · intro h
    obtain ⟨severities, hread, hle⟩ := h
    exact ⟨_, ⟨severities, hread, rfl⟩, le_foldl_max.mpr (Or.inr hle)⟩

theorem checkFindings_eq_ok_iff {u : Unit} :
    checkFindings s env data = .ok u ↔ ∃ findings, data.get "findings" = .ok findings ∧
      ∃ items, (findings.getD (.arr [])).iter = .ok items ∧ ∃ severities,
        List.Forall₂ (fun item severity => severityOf env item = .ok severity) items severities ∧
        ∀ severity ∈ severities,
          severityRank env.lower severity < severityRank env.lower (env.lower s.failOn) := by
  simp only [checkFindings, bind_eq_ok_iff, findingsLoop_eq_ok_iff]
  refine exists_congr fun findings => and_congr_right fun _ => exists_congr fun items =>
    and_congr_right fun _ => ?_
  constructor
  · intro h
    obtain ⟨highest, ⟨severities, hread, rfl⟩, hlast⟩ := h
    split at hlast
    · cases hlast
    · rename_i hbelow
      refine ⟨severities, hread, fun severity hmem => Nat.lt_of_not_le fun hle => hbelow ?_⟩
      exact le_foldl_max.mpr (Or.inr ⟨severity, hmem, hle⟩)
  · intro h
    obtain ⟨severities, hread, hbelow⟩ := h
    refine ⟨_, ⟨severities, hread, rfl⟩, ?_⟩
    rw [if_neg]
    · rfl
    · intro hle
      obtain ⟨severity, hmem, hle⟩ :=
        (le_foldl_max.mp hle).resolve_left (Nat.not_le.mpr severityRank_pos)
      exact absurd hle (Nat.not_le.mpr (hbelow severity hmem))

/-- The findings of a well-formed report are what the check reads. -/
theorem severities_of_reads {severities : List String} (h : ReadsFindings data severities) :
    ∃ findings, data.get "findings" = .ok findings ∧
      ∃ items, (findings.getD (.arr [])).iter = .ok items ∧
        List.Forall₂ (fun item severity => severityOf env item = .ok severity) items
          (severities.map env.lower) := by
  obtain ⟨fields, rfl, h⟩ := h
  rcases h with ⟨hnone, rfl⟩ | ⟨items, hitems, hread⟩
  · exact ⟨none, congrArg Except.ok hnone, [], rfl, List.Forall₂.nil⟩
  · refine ⟨some (.arr items), congrArg Except.ok hitems, items, rfl, ?_⟩
    rw [List.forall₂_map_right_iff]
    refine hread.imp fun item severity hitem => ?_
    obtain ⟨finding, rfl, hsev⟩ := hitem
    rcases hsev with ⟨hnone, rfl⟩ | hsome
    · rw [severityOf, PyJson.get, hnone]
      rfl
    · rw [severityOf, PyJson.get, hsome]
      rfl

theorem checkFindings_of_reads {severities : List String} (h : ReadsFindings data severities) :
    checkFindings s env data = .ok () ↔ FindingsWithin s env severities := by
  obtain ⟨findings, hget, items, hiter, hread⟩ :
      ∃ findings, data.get "findings" = .ok findings ∧
        ∃ items, (findings.getD (.arr [])).iter = .ok items ∧
          List.Forall₂ (fun item severity => severityOf env item = .ok severity) items
            (severities.map env.lower) := severities_of_reads h
  rw [checkFindings_eq_ok_iff]
  constructor
  · intro h severity hmem
    obtain ⟨findings', hget', items', hiter', severities', hread', hbelow⟩ := h
    rw [hget] at hget'
    cases hget'
    rw [hiter] at hiter'
    cases hiter'
    have hsame : severities' = severities.map env.lower := Except.ok.inj
      ((mapM_eq_ok_iff.mpr hread').symm.trans (mapM_eq_ok_iff.mpr hread))
    exact hbelow _ (hsame ▸ List.mem_map_of_mem hmem)
  · intro h
    refine ⟨findings, hget, items, hiter, _, hread, fun severity hmem => ?_⟩
    obtain ⟨text, htext, rfl⟩ := List.mem_map.mp hmem
    exact h text htext

end Findings

/-! ### Freshness -/

section Freshness

variable {s : GateSettings} {env : GateEnv} {data : PyJson} {name : String} {now : ℤ}

theorem checkAge_eq_ok_iff {age : ℤ} :
    checkAge s name age = .ok () ↔ 0 ≤ age ∧ age ≤ s.maxReportAgeSec := by
  rw [checkAge]
  split
  · rename_i hneg
    exact iff_of_false (fun h => by cases h) fun h => absurd h.1 (Int.not_le.mpr hneg)
  · rename_i hpos
    split
    · rename_i hold
      refine iff_of_false (fun h => ?_) fun h => absurd h.2 (Int.not_le.mpr hold)
      obtain ⟨shown, -, h⟩ := bind_eq_ok_iff.mp h
      cases h
    · rename_i hyoung
      exact iff_of_true rfl ⟨Int.not_lt.mp hpos, Int.not_lt.mp hyoung⟩

theorem stops_checkAge {age : ℤ} :
    GateStops (checkAge s name age) ↔ age < 0 ∨
      0 ≤ age ∧ s.maxReportAgeSec < age ∧ ∃ shown, intRepr age = .ok shown := by
  rw [checkAge]
  split
  · rename_i hneg
    exact iff_of_true (stops_gateFail _) (Or.inl hneg)
  · rename_i hpos
    rw [or_iff_right hpos, and_iff_right (Int.not_lt.mp hpos)]
    split
    · rename_i hold
      rw [stops_bind_iff, or_iff_right not_stops_intRepr, and_iff_right hold]
      simp
    · rename_i hyoung
      exact iff_of_false not_stops_pure fun h => hyoung h.1

theorem checkReportFreshness_eq_ok_iff {u : Unit} :
    checkReportFreshness s env data name now = .ok u ↔ Fresh s data now := by
  rw [checkReportFreshness, Fresh]
  cases hcheck : s.checkFreshness with
  | false =>
      rw [if_pos rfl]
      exact iff_of_true rfl fun h => absurd h Bool.false_ne_true
  | true =>
      rw [if_neg (by simp), imp_iff_right rfl, bind_eq_ok_iff]
      constructor
      · intro h
        obtain ⟨v, hget, h⟩ := h
        cases data with
        | obj fields =>
            cases hget
            split at h
            · cases h
            · cases h
            · rename_i v hne hv
              split at h
              · rename_i n hn
                exact ⟨fields, v, n, rfl, hv, hn, checkAge_eq_ok_iff.mp h⟩
              · cases h
              · cases h
              · cases h
        | _ => cases hget
      · intro h
        obtain ⟨fields, v, n, rfl, hv, hn, hage⟩ := h
        refine ⟨some v, congrArg Except.ok hv, ?_⟩
        split
        · rename_i hnone
          cases hnone
        · rename_i hnull
          cases hnull
          cases hn
        · rename_i v' hne hsome
          cases hsome
          rw [hn]
          exact checkAge_eq_ok_iff.mpr hage

theorem stops_checkReportFreshness :
    GateStops (checkReportFreshness s env data name now) ↔ Undated s data now := by
  rw [checkReportFreshness, Undated]
  cases hcheck : s.checkFreshness with
  | false =>
      rw [if_pos rfl]
      exact iff_of_false not_stops_pure fun h => absurd h.1 Bool.false_ne_true
  | true =>
      rw [if_neg (by simp), and_iff_right rfl, stops_bind_iff, or_iff_right not_stops_get]
      constructor
      · intro h
        obtain ⟨v, hget, h⟩ := h
        cases data with
        | obj fields =>
            cases hget
            refine ⟨fields, rfl, ?_⟩
            split at h
            · rename_i hnone
              exact Or.inl hnone
            · rename_i hnull
              exact Or.inr (Or.inl hnull)
            · rename_i v hne hv
              refine Or.inr (Or.inr ⟨v, hv, ?_⟩)
              split at h
              · rename_i n hn
                exact Or.inr (Or.inr ⟨n, hn, stops_checkAge.mp h⟩)
              · rename_i htype
                exact Or.inl htype
              · rename_i hvalue
                exact Or.inr (Or.inl hvalue)
              · rename_i e htype hvalue he
                obtain ⟨msg, hmsg⟩ := h
                exact absurd ⟨msg, he.trans (congrArg Except.error (Except.error.inj hmsg))⟩
                  not_stops_toInt
        | _ => cases hget
      · intro h
        obtain ⟨fields, rfl, h⟩ := h
        refine ⟨fields.lookup "generated_at", rfl, ?_⟩
        rcases h with hnone | hnull | ⟨v, hv, h⟩
        · rw [hnone]
          exact stops_gateFail _
        · rw [hnull]
          exact stops_gateFail _
        · rw [hv]
          split
          · exact stops_gateFail _
          · exact stops_gateFail _
          · rename_i v' hne hsome
            cases hsome
            rcases h with h | h | ⟨n, hn, hage⟩
            · rw [h]
              exact stops_gateFail _
            · rw [h]
              exact stops_gateFail _
            · rw [hn]
              exact stops_checkAge.mpr hage

end Freshness

/-! ### A check on a file -/

section Files

variable {s : GateSettings} {env : GateEnv} {data : PyJson} {now : ℤ}

theorem checkBenchmarkGate_eq_ok_iff :
    checkBenchmarkGate s env (.loaded data) now = .ok () ↔
      Fresh s data now ∧ checkBenchmark s data = .ok () := by
  simp only [checkBenchmarkGate, ReportFile.load, ok_bind, bind_eq_ok_iff,
    checkReportFreshness_eq_ok_iff, exists_const]

theorem stops_checkBenchmarkGate :
    GateStops (checkBenchmarkGate s env (.loaded data) now) ↔
      Undated s data now ∨ Fresh s data now ∧ BenchmarkStops s data := by
  simp only [checkBenchmarkGate, ReportFile.load, ok_bind, stops_bind_iff,
    stops_checkReportFreshness, checkReportFreshness_eq_ok_iff, stops_checkBenchmark, exists_const]

/-- The security check on a report that is there. -/
theorem checkSecurityGate_loaded :
    checkSecurityGate s env (.loaded data) now =
      checkReportFreshness s env data "security" now >>= fun _ =>
        checkFindings s env data >>= fun _ => pure "PASS" := by
  rw [checkSecurityGate]
  · rfl
  · intro h
    cases h

theorem checkSecurityGate_eq_ok_iff {status : String} :
    checkSecurityGate s env (.loaded data) now = .ok status ↔
      Fresh s data now ∧ checkFindings s env data = .ok () ∧ "PASS" = status := by
  simp only [checkSecurityGate_loaded, bind_eq_ok_iff, checkReportFreshness_eq_ok_iff,
    exists_const, pure_eq_ok_iff]
  refine and_congr_right fun _ => ⟨fun h => ?_, fun h => ⟨(), h⟩⟩
  obtain ⟨⟨⟩, h⟩ := h
  exact h

theorem stops_checkSecurityGate :
    GateStops (checkSecurityGate s env (.loaded data) now) ↔
      Undated s data now ∨ Fresh s data now ∧ SecurityStops s env data := by
  simp only [checkSecurityGate_loaded, stops_bind_iff, stops_checkReportFreshness,
    checkReportFreshness_eq_ok_iff, stops_checkFindings, not_stops_pure, and_false, exists_false,
    or_false, exists_const]

/-- A report without a file is a reason for the security check. -/
theorem stops_checkSecurityGate_absent (h : s.requireSecurity = true) :
    GateStops (checkSecurityGate s env .absent now) := by
  rw [checkSecurityGate, if_pos h]
  exact stops_gateFail _

end Files

/-! ### Attempts -/

section Attempts

variable {α : Type} {check : ℕ → Except PyError α}

theorem retryFrom_eq_ok_iff {left i : ℕ} {a : α} :
    retryFrom check left i = .ok a ↔ ∃ j, i ≤ j ∧ j ≤ i + left ∧ check j = .ok a ∧
      ∀ k, i ≤ k → k < j → GateStops (check k) := by
  induction left generalizing i with
  | zero =>
      rw [retryFrom]
      constructor
      · intro h
        exact ⟨i, le_refl i, le_refl i, h, fun k hik hki => absurd hik (Nat.not_le.mpr hki)⟩
      · intro h
        obtain ⟨j, hij, hji, h, -⟩ := h
        rw [Nat.le_antisymm hij hji]
        exact h
  | succ left ih =>
      rw [retryFrom]
      split
      · rename_i msg hmsg
        -- the attempt is turned down, and the rest decides
        rw [ih]
        constructor
        · intro h
          obtain ⟨j, hij, hji, h, hbefore⟩ := h
          refine ⟨j, by omega, by omega, h, fun k hik hkj => ?_⟩
          rcases Nat.eq_or_lt_of_le hik with rfl | hik
          · exact ⟨msg, hmsg⟩
          · exact hbefore k hik hkj
        · intro h
          obtain ⟨j, hij, hji, h, hbefore⟩ := h
          rcases Nat.eq_or_lt_of_le hij with rfl | hij
          · rw [hmsg] at h
            cases h
          · exact ⟨j, hij, by omega, h, fun k hik hkj => hbefore k (by omega) hkj⟩
      · rename_i hnot
        constructor
        · intro h
          exact ⟨i, le_refl i, by omega, h, fun k hik hki => absurd hik (Nat.not_le.mpr hki)⟩
        · intro h
          obtain ⟨j, hij, -, h, hbefore⟩ := h
          rcases Nat.eq_or_lt_of_le hij with rfl | hij
          · exact h
          · obtain ⟨msg, hmsg⟩ := hbefore i (le_refl i) hij
            exact absurd hmsg (hnot msg)

theorem stops_retryFrom_iff {left i : ℕ} :
    GateStops (retryFrom check left i) ↔ ∀ j, i ≤ j → j ≤ i + left → GateStops (check j) := by
  induction left generalizing i with
  | zero =>
      rw [retryFrom]
      constructor
      · intro h j hij hji
        rw [← Nat.le_antisymm hij hji]
        exact h
      · intro h
        exact h i (le_refl i) (le_refl i)
  | succ left ih =>
      rw [retryFrom]
      split
      · rename_i msg hmsg
        rw [ih]
        constructor
        · intro h j hij hji
          rcases Nat.eq_or_lt_of_le hij with rfl | hij
          · exact ⟨msg, hmsg⟩
          · exact h j hij (by omega)
        · intro h j hij hji
          exact h j (by omega) (by omega)
      · rename_i hnot
        constructor
        · intro h
          obtain ⟨msg, hmsg⟩ := h
          exact absurd hmsg (hnot msg)
        · intro h
          exact h i (le_refl i) (by omega)

/-- A check is run from its first attempt to the last. -/
theorem runCheck_eq_ok_iff {s : GateSettings} {a : α} :
    runCheckWithRetries s check = .ok a ↔ ∃ i, 1 ≤ i ∧ i ≤ gateAttempts s ∧
      (∀ k, 1 ≤ k → k < i → GateStops (check k)) ∧ check i = .ok a := by
  have hlast : 1 + ((max 1 s.retryAttempts).toNat - 1) = gateAttempts s := by
    unfold gateAttempts
    omega
  rw [runCheckWithRetries, retryFrom_eq_ok_iff, hlast]
  exact exists_congr fun i => and_congr_right fun _ => and_congr_right fun _ => and_comm

theorem stops_runCheck_iff {s : GateSettings} :
    GateStops (runCheckWithRetries s check) ↔
      ∀ i, 1 ≤ i → i ≤ gateAttempts s → GateStops (check i) := by
  have hlast : 1 + ((max 1 s.retryAttempts).toNat - 1) = gateAttempts s := by
    unfold gateAttempts
    omega
  rw [runCheckWithRetries, stops_retryFrom_iff, hlast]

end Attempts

/-! ### The agent evaluation -/

section Agent

variable {s : GateSettings} {report : PyJson}

theorem runOn_eq_ok_iff {c : GateCheck} {g : Thresholds} {metrics : String → Option PyJson}
    {u : Unit} :
    c.runOn g metrics = .ok u ↔ ∃ v, c.valueOn metrics = .ok v ∧
      ∃ bound, g.item c.threshold = .ok bound ∧
      ∃ x, v.number = .ok x ∧ c.breaksOn x bound = false := by
  simp only [GateCheck.runOn, bind_eq_ok_iff]
  refine exists_congr fun v => and_congr_right fun _ => exists_congr fun bound =>
    and_congr_right fun _ => exists_congr fun x => and_congr_right fun _ => ?_
  cases hbreaks : c.breaksOn x bound with
  | true =>
      rw [if_pos rfl]
      refine iff_of_false (fun h => ?_) (by simp)
      obtain ⟨shown, -, h⟩ := bind_eq_ok_iff.mp h
      cases h
  | false =>
      rw [if_neg Bool.false_ne_true]
      exact iff_of_true rfl rfl

/-- An `AgentGateError` comes of a value that breaks its bound and can be formatted. -/
theorem runOn_gateError_iff {c : GateCheck} {g : Thresholds}
    {metrics : String → Option PyJson} :
    (∃ msg, c.runOn g metrics = .error (.agentGateError msg)) ↔ ∃ v, c.valueOn metrics = .ok v ∧
      ∃ bound, g.item c.threshold = .ok bound ∧
      ∃ x, v.number = .ok x ∧ c.breaksOn x bound = true ∧ ∃ shown, v.asFloat = .ok shown := by
  constructor
  · intro h
    obtain ⟨msg, h⟩ := h
    rcases bind_eq_error_iff.mp h with h | ⟨v, hv, h⟩
    · unfold GateCheck.valueOn at h
      split at h <;> cases h
    rcases bind_eq_error_iff.mp h with h | ⟨bound, hbound, h⟩
    · unfold Thresholds.item at h
      split at h <;> cases h
    rcases bind_eq_error_iff.mp h with h | ⟨x, hx, h⟩
    · cases v <;> cases h
    refine ⟨v, hv, bound, hbound, x, hx, ?_⟩
    split at h
    · rename_i hbreaks
      rcases bind_eq_error_iff.mp h with h | ⟨shown, hshown, -⟩
      · cases v with
        | int i =>
            rw [PyJson.asFloat, intToFloat] at h
            split at h
            · cases h
            · simp [overflowError] at h
        | _ => cases h
      · exact ⟨hbreaks, shown, hshown⟩
    · exact absurd h pure_ne_error
  · intro h
    obtain ⟨v, hv, bound, hbound, x, hx, hbreaks, shown, hshown⟩ := h
    rw [GateCheck.runOn, hv, ok_bind, hbound, ok_bind, hx, ok_bind, if_pos hbreaks, hshown,
      ok_bind]
    exact ⟨_, rfl⟩

theorem toDict_ne_gateError {v : PyJson} {msg : String} :
    v.toDict ≠ .error (.agentGateError msg) := by
  intro h
  have hiter : ∀ w : PyJson, w.iter ≠ .error (.agentGateError msg) := by
    intro w h
    cases w <;> cases h
  have hpair : ∀ w : PyJson, w.pair ≠ .error (.agentGateError msg) := by
    intro w h
    rcases bind_eq_error_iff.mp h with h | ⟨items, -, h⟩
    · exact hiter w h
    · split at h
      · split at h <;> cases h
      · cases h
  have hitems : ∀ {items : List PyJson}, items.mapM PyJson.pair ≠
      .error (.agentGateError msg) := by
    intro items h
    obtain ⟨item, -, hitem⟩ := exists_error_of_mapM h
    exact hpair item hitem
  unfold PyJson.toDict at h
  split at h
  · cases h
  · rcases bind_eq_error_iff.mp h with h | ⟨items, -, h⟩
    · exact hiter v h
    rcases bind_eq_error_iff.mp h with h | ⟨pairs, -, h⟩
    · exact hitems h
    · exact pure_ne_error h

theorem agentStops_iff :
    (∃ msg, checkAgentEvalGate s.agent (.loaded report) = .error (.agentGateError msg)) ↔
      AgentStops s report := by
  constructor
  · intro h
    obtain ⟨msg, h⟩ := h
    rw [checkAgentEvalGate, ReportFile.load, ok_bind] at h
    rcases bind_eq_error_iff.mp h with h | ⟨metrics, hmetrics, h⟩
    · exact absurd h toDict_ne_gateError
    · obtain ⟨before, c, after, hsplit, hbefore, hc⟩ := forM_eq_error_iff.mp h
      exact ⟨metrics, hmetrics, before, c, after, hsplit,
        fun c' hc' => runOn_eq_ok_iff.mp (hbefore c' hc'), runOn_gateError_iff.mp ⟨msg, hc⟩⟩
  · intro h
    obtain ⟨metrics, hmetrics, before, c, after, hsplit, hbefore, hc⟩ := h
    obtain ⟨msg, hmsg⟩ := runOn_gateError_iff.mpr hc
    rw [checkAgentEvalGate, ReportFile.load, ok_bind, hmetrics, ok_bind]
    exact ⟨msg, forM_eq_error_iff.mpr
      ⟨before, c, after, hsplit, fun c' hc' => runOn_eq_ok_iff.mpr (hbefore c' hc'), hmsg⟩⟩

/-- On a well-formed report the check passes exactly within the bounds. -/
theorem checkAgent_of_formed (h : ∀ c ∈ gateChecks, ∃ v, ReadsMetric report c v ∧ v.IsFinite)
    {u : Unit} :
    checkAgentEvalGate s.agent (.loaded report) = .ok u ↔
      ∀ c ∈ gateChecks, ∃ v, ReadsMetric report c v ∧ v.IsFinite ∧ MetricWithin s c v := by
  obtain ⟨fields, rfl⟩ : ∃ fields, report = .obj fields := by
    obtain ⟨v, ⟨fields, hreport, -⟩, -⟩ := h _ List.mem_cons_self
    exact ⟨fields, hreport⟩
  have hvalue : ∀ {c : GateCheck} {v : PyJson}, ReadsMetric (.obj fields) c v →
      c.valueOn (fun k => fields.lookup k) = .ok v := by
    intro c v hread
    obtain ⟨fields', hfields, hread⟩ := hread
    cases hfields
    rcases hread with hsome | ⟨hnone, hfallback, rfl⟩
    · rw [GateCheck.valueOn, hsome]
    · obtain ⟨w, hw⟩ := Option.isSome_iff_exists.mp hfallback
      rw [GateCheck.valueOn, hnone, hw]
  have hbreaks : ∀ (c : GateCheck) (q bound : ℚ), c.breaksOn (.fin q) bound = c.breaks q bound := by
    intro c q bound
    rw [GateCheck.breaksOn, GateCheck.breaks]
    split <;> simp
  rw [checkAgentEvalGate, ReportFile.load, ok_bind, PyJson.toDict, ok_bind, forM_eq_ok_iff]
  refine forall_congr' fun c => imp_congr_right fun hc => ?_
  obtain ⟨v, hread, hfin⟩ := h c hc
  rw [runOn_eq_ok_iff]
  constructor
  · intro h
    obtain ⟨v', hv', bound, hbound, x, hx, hwithin⟩ := h
    rw [hvalue hread] at hv'
    cases hv'
    rw [hfin.number] at hx
    cases hx
    exact ⟨v, hread, hfin, bound, hbound, hbreaks c _ _ ▸ hwithin⟩
  · intro h
    obtain ⟨v', hread', hfin', bound, hbound, hwithin⟩ := h
    exact ⟨v', hvalue hread', bound, hbound, _, hfin'.number, (hbreaks c _ _).trans hwithin⟩

end Agent

/-! ### The checks and their reasons -/

/-- What a check leaves among the reasons: nothing where it returns, one where it turns
its report down. -/
def Leaves {α : Type} (name : String) (result : Except PyError α) (reasons : List String) :
    Prop :=
  (∃ status, result = .ok status) ∧ reasons = [] ∨
    ∃ e, result = gateFail e ∧ reasons = [name ++ ": " ++ e]

/-- The same of the agent evaluation, whose error is an `AgentGateError`. -/
def AgentLeaves (s : GateSettings) (file : ReportFile) (reasons : List String) : Prop :=
  match file with
  | .absent => reasons = ["agent_eval" ++ ": " ++ agentEvalMissing]
  | file => checkAgentEvalGate s.agent file = .ok () ∧ reasons = [] ∨
      ∃ e, checkAgentEvalGate s.agent file = .error (.agentGateError e) ∧
        reasons = ["agent_eval" ++ ": " ++ e]

theorem leaves_map {α β : Type} {name : String} {x : Except PyError α} {f : α → β}
    {reasons : List String} : Leaves name (x.map f) reasons ↔ Leaves name x reasons := by
  cases x with
  | ok a => simp [Leaves, Except.map, gateFail]
  | error e => simp [Leaves, Except.map, gateFail]

theorem GateRun.record_reasons {run run' : GateRun} {name : String}
    {result : Except PyError String} (h : run.record name result = .ok run') :
    ∃ reasons, Leaves name result reasons ∧ run'.reasons = run.reasons ++ reasons := by
  unfold GateRun.record at h
  split at h
  · rename_i status
    cases h
    exact ⟨[], Or.inl ⟨⟨status, rfl⟩, rfl⟩, (List.append_nil _).symm⟩
  · rename_i e
    cases h
    exact ⟨[name ++ ": " ++ e], Or.inr ⟨e, rfl, rfl⟩, rfl⟩
  · cases h

theorem GateRun.record_of_leaves {name : String} {result : Except PyError String}
    {reasons : List String} (h : Leaves name result reasons) (run : GateRun) :
    ∃ run', run.record name result = .ok run' ∧ run'.reasons = run.reasons ++ reasons := by
  rcases h with ⟨⟨status, rfl⟩, rfl⟩ | ⟨e, rfl, rfl⟩
  · exact ⟨_, rfl, (List.append_nil _).symm⟩
  · exact ⟨_, rfl, rfl⟩

theorem GateRun.recordAgent_reasons {run run' : GateRun} {s : GateSettings} {file : ReportFile}
    (hskip : s.skipAgent = false) (h : run.recordAgent s file = .ok run') :
    ∃ reasons, AgentLeaves s file reasons ∧ run'.reasons = run.reasons ++ reasons := by
  unfold GateRun.recordAgent at h
  rw [if_neg (by simp [hskip])] at h
  split at h
  · cases h
    exact ⟨_, rfl, rfl⟩
  · rename_i hfile
    split at h
    · rename_i hcheck
      cases h
      refine ⟨[], ?_, (List.append_nil _).symm⟩
      rw [AgentLeaves]
      · exact Or.inl ⟨hcheck, rfl⟩
      · exact hfile
    · rename_i e hcheck
      cases h
      refine ⟨["agent_eval" ++ ": " ++ e], ?_, rfl⟩
      rw [AgentLeaves]
      · exact Or.inr ⟨e, hcheck, rfl⟩
      · exact hfile
    · cases h

theorem GateRun.recordAgent_of_leaves {s : GateSettings} {file : ReportFile}
    {reasons : List String} (hskip : s.skipAgent = false) (h : AgentLeaves s file reasons)
    (run : GateRun) :
    ∃ run', run.recordAgent s file = .ok run' ∧ run'.reasons = run.reasons ++ reasons := by
  unfold GateRun.recordAgent
  rw [if_neg (by simp [hskip])]
  split
  · cases h
    exact ⟨_, rfl, rfl⟩
  · rename_i hfile
    rw [AgentLeaves] at h
    · rcases h with ⟨hcheck, rfl⟩ | ⟨e, hcheck, rfl⟩
      · rw [hcheck]
        exact ⟨_, rfl, (List.append_nil _).symm⟩
      · rw [hcheck]
        exact ⟨_, rfl, rfl⟩
    · exact hfile

/-- The results of the checks on the files. -/
def benchmarkResult (s : GateSettings) (env : GateEnv) (file : ReportFile) :
    Except PyError Unit :=
  runCheckWithRetries s fun i => checkBenchmarkGate s env file (env.time "benchmark" i)

def securityResult (s : GateSettings) (env : GateEnv) (file : ReportFile) :
    Except PyError String :=
  runCheckWithRetries s fun i => checkSecurityGate s env file (env.time "security" i)

section Unified

variable {s : GateSettings} {env : GateEnv} {files : Reports}

theorem trend_skipped (htrend : s.trendEnabled = false) :
    (runCheckWithRetries s fun i =>
      checkBenchmarkTrendGate s env files.trend (env.time "benchmark_trend" i)) = .ok "SKIPPED" := by
  refine runCheck_eq_ok_iff.mpr ⟨1, le_refl 1, ?_, fun k hk hk' => ?_, ?_⟩
  · unfold gateAttempts
    omega
  · exact absurd hk (Nat.not_le.mpr hk')
  · unfold checkBenchmarkTrendGate
    rw [if_pos htrend]
    rfl

/-- The document has the reasons of the three checks, and passes where there are none. -/
theorem runUnified_reasons (htrend : s.trendEnabled = false) (hskip : s.skipAgent = false)
    {doc : GateDocument} (h : runUnified s env files = .ok doc) :
    ∃ b σ a, Leaves "benchmark" (benchmarkResult s env files.benchmark) b ∧
      Leaves "security" (securityResult s env files.security) σ ∧
      AgentLeaves s files.agent a ∧ doc.reasons = b ++ σ ++ a ∧
      doc.finalDecision = if doc.reasons = [] then "PASS" else "FAIL" := by
  rw [runUnified, trend_skipped htrend] at h
  obtain ⟨run₁, h₁, h⟩ := bind_eq_ok_iff.mp h
  obtain ⟨run₂, h₂, h⟩ := bind_eq_ok_iff.mp h
  obtain ⟨run₃, h₃, h⟩ := bind_eq_ok_iff.mp h
  obtain ⟨run₄, h₄, h⟩ := bind_eq_ok_iff.mp h
  cases h
  obtain ⟨b, hb, hr₁⟩ := GateRun.record_reasons h₁
  obtain ⟨σ, hσ, hr₂⟩ := GateRun.record_reasons h₂
  obtain ⟨a, ha, hr₄⟩ := GateRun.recordAgent_reasons hskip h₄
  cases h₃
  refine ⟨b, σ, a, leaves_map.mp hb, hσ, ha, ?_, rfl⟩
  show run₄.reasons = _
  rw [hr₄, hr₂, hr₁]
  rfl

theorem exists_runUnified (htrend : s.trendEnabled = false) (hskip : s.skipAgent = false)
    {b σ a : List String} (hb : Leaves "benchmark" (benchmarkResult s env files.benchmark) b)
    (hσ : Leaves "security" (securityResult s env files.security) σ)
    (ha : AgentLeaves s files.agent a) :
    ∃ doc, runUnified s env files = .ok doc ∧ doc.reasons = b ++ σ ++ a ∧
      doc.finalDecision = if doc.reasons = [] then "PASS" else "FAIL" := by
  obtain ⟨run₁, h₁, hr₁⟩ := GateRun.record_of_leaves (leaves_map.mpr hb) {}
  obtain ⟨run₂, h₂, hr₂⟩ := GateRun.record_of_leaves hσ run₁
  obtain ⟨run₄, h₄, hr₄⟩ := GateRun.recordAgent_of_leaves hskip ha
    { run₂ with checks := run₂.checks ++ [("benchmark_trend", "SKIPPED")] }
  refine ⟨⟨if run₄.reasons = [] then "PASS" else "FAIL", env.now, run₄.reasons, run₄.checks⟩,
    ?_, ?_, rfl⟩
  · rw [runUnified, trend_skipped htrend]
    exact bind_eq_ok_iff.mpr ⟨run₁, h₁, bind_eq_ok_iff.mpr ⟨run₂, h₂,
      bind_eq_ok_iff.mpr ⟨_, rfl, bind_eq_ok_iff.mpr ⟨run₄, h₄, rfl⟩⟩⟩⟩
  · show run₄.reasons = _
    rw [hr₄]
    show run₂.reasons ++ a = _
    rw [hr₂, hr₁]
    rfl

end Unified

/-! ### Each check on its report -/

section Reports

variable {s : GateSettings} {env : GateEnv} {file : ReportFile}

theorem Fresh.dated {data : PyJson} {now : ℤ} (h : Fresh s data now) : Dated s data := by
  intro hcheck
  obtain ⟨fields, v, n, hdata, hv, hn, -⟩ := h hcheck
  exact ⟨fields, v, n, hdata, hv, hn⟩

theorem one_le_gateAttempts : 1 ≤ gateAttempts s := by
  unfold gateAttempts
  omega

/-- A check that raises another exception at every attempt comes to no result. -/
theorem undecided {α : Type} {check : ℕ → Except PyError α}
    (h : ∀ i, (∃ e, check i = .error e) ∧ ¬ GateStops (check i)) :
    ¬ GateStops (runCheckWithRetries s check) ∧ ∀ a, runCheckWithRetries s check ≠ .ok a := by
  constructor
  · intro hstops
    exact (h 1).2 (stops_runCheck_iff.mp hstops 1 (le_refl 1) one_le_gateAttempts)
  · intro a hok
    obtain ⟨i, -, -, -, hi⟩ := runCheck_eq_ok_iff.mp hok
    obtain ⟨e, he⟩ := (h i).1
    rw [he] at hi
    cases hi

/-- A file that cannot be read raises another exception than a check. -/
theorem load_unread (h : ∀ data, file ≠ .loaded data) :
    (∃ e, file.load = .error e) ∧ ¬ GateStops file.load := by
  cases file with
  | loaded data => exact absurd rfl (h data)
  | absent =>
      refine ⟨⟨_, rfl⟩, fun hstops => ?_⟩
      obtain ⟨msg, hmsg⟩ := hstops
      simp [ReportFile.load, gateFail] at hmsg
  | broken =>
      refine ⟨⟨_, rfl⟩, fun hstops => ?_⟩
      obtain ⟨msg, hmsg⟩ := hstops
      cases hmsg

theorem bind_unread {α β : Type} {x : Except PyError α} {f : α → Except PyError β}
    (h : (∃ e, x = .error e) ∧ ¬ GateStops x) :
    (∃ e, (x >>= f) = .error e) ∧ ¬ GateStops (x >>= f) := by
  obtain ⟨⟨e, rfl⟩, hstops⟩ := h
  refine ⟨⟨e, rfl⟩, fun h => hstops ?_⟩
  obtain ⟨msg, hmsg⟩ := h
  exact ⟨msg, congrArg Except.error (Except.error.inj hmsg)⟩

theorem benchmarkResult_loaded {data : PyJson} :
    (GateStops (benchmarkResult s env (.loaded data)) ↔ ∀ i, 1 ≤ i → i ≤ gateAttempts s →
      (Undated s data (env.time "benchmark" i) ∨
        Fresh s data (env.time "benchmark" i) ∧ BenchmarkStops s data)) ∧
    (benchmarkResult s env (.loaded data) = .ok () ↔ ∃ i, 1 ≤ i ∧ i ≤ gateAttempts s ∧
      (∀ k, 1 ≤ k → k < i → (Undated s data (env.time "benchmark" k) ∨
        Fresh s data (env.time "benchmark" k) ∧ BenchmarkStops s data)) ∧
      Fresh s data (env.time "benchmark" i) ∧ checkBenchmark s data = .ok ()) := by
  simp only [benchmarkResult, stops_runCheck_iff, runCheck_eq_ok_iff, stops_checkBenchmarkGate,
    checkBenchmarkGate_eq_ok_iff, and_self]

theorem benchmarkResult_unread (h : ∀ data, file ≠ .loaded data) :
    ¬ GateStops (benchmarkResult s env file) ∧ ∀ u, benchmarkResult s env file ≠ .ok u :=
  undecided fun _ => bind_unread (load_unread h)

theorem benchmarkClosed_iff :
    BenchmarkClosed s env file ↔ GateStops (benchmarkResult s env file) ∨
      benchmarkResult s env file = .ok () ∧ BenchmarkFormed s file := by
  by_cases hloaded : ∃ data, file = .loaded data
  · obtain ⟨data, rfl⟩ := hloaded
    rw [benchmarkResult_loaded.1, benchmarkResult_loaded.2]
    constructor
    · intro h
      obtain ⟨data', hdata, h⟩ := h
      cases hdata
      rcases h with h | ⟨i, h₁, hi, hbefore, hfresh, b, hread, hvalues, hwithin⟩
      · exact Or.inl h
      · have hfin : ∀ v ∈ b.all, v.IsFinite := fun v hv => (hvalues v hv).1
        exact Or.inr ⟨⟨i, h₁, hi, hbefore, hfresh, (checkBenchmark_of_reads hread hfin).mpr
          ⟨fun v hv => (hvalues v hv).2, hwithin⟩⟩, data, rfl, hfresh.dated, b, hread, hfin⟩
    · intro h
      refine ⟨data, rfl, ?_⟩
      rcases h with h | ⟨⟨i, h₁, hi, hbefore, hfresh, hcheck⟩, data', hdata, -, b, hread, hfin⟩
      · exact Or.inl h
      · cases hdata
        obtain ⟨hrange, hwithin⟩ := (checkBenchmark_of_reads hread hfin).mp hcheck
        exact Or.inr ⟨i, h₁, hi, hbefore, hfresh, b, hread,
          fun v hv => ⟨hfin v hv, hrange v hv⟩, hwithin⟩
  · have hunread : ∀ data, file ≠ .loaded data := fun data hdata => hloaded ⟨data, hdata⟩
    obtain ⟨hstops, hok⟩ : ¬ GateStops (benchmarkResult s env file) ∧ _ :=
      benchmarkResult_unread hunread
    refine iff_of_false (fun h => ?_) fun h => ?_
    · obtain ⟨data, hdata, -⟩ := h
      exact hunread data hdata
    · rcases h with h | ⟨h, -⟩
      · exact hstops h
      · exact hok () h

theorem benchmarkGood_of_ok (h : benchmarkResult s env file = .ok ())
    (hformed : BenchmarkFormed s file) : BenchmarkGood s env file := by
  obtain ⟨data, rfl, -, b, hread, hfin⟩ := hformed
  obtain ⟨i, h₁, hi, -, hfresh, hcheck⟩ := benchmarkResult_loaded.2.mp h
  exact ⟨data, rfl, ⟨i, h₁, hi, hfresh⟩, b, hread, hfin,
    ((checkBenchmark_of_reads hread hfin).mp hcheck).2⟩

theorem securityResult_loaded {data : PyJson} :
    (GateStops (securityResult s env (.loaded data)) ↔ ∀ i, 1 ≤ i → i ≤ gateAttempts s →
      (Undated s data (env.time "security" i) ∨
        Fresh s data (env.time "security" i) ∧ SecurityStops s env data)) ∧
    ((∃ status, securityResult s env (.loaded data) = .ok status) ↔ ∃ i, 1 ≤ i ∧
      i ≤ gateAttempts s ∧ (∀ k, 1 ≤ k → k < i → (Undated s data (env.time "security" k) ∨
        Fresh s data (env.time "security" k) ∧ SecurityStops s env data)) ∧
      Fresh s data (env.time "security" i) ∧ checkFindings s env data = .ok ()) := by
  simp only [securityResult, stops_runCheck_iff, runCheck_eq_ok_iff, stops_checkSecurityGate,
    checkSecurityGate_eq_ok_iff, true_and]
  constructor
  · intro h
    obtain ⟨status, i, h₁, hi, hbefore, hfresh, hcheck, -⟩ := h
    exact ⟨i, h₁, hi, hbefore, hfresh, hcheck⟩
  · intro h
    obtain ⟨i, h₁, hi, hbefore, hfresh, hcheck⟩ := h
    exact ⟨"PASS", i, h₁, hi, hbefore, hfresh, hcheck, rfl⟩

theorem securityClosed_iff (hrequire : s.requireSecurity = true) :
    SecurityClosed s env file ↔ GateStops (securityResult s env file) ∨
      (∃ status, securityResult s env file = .ok status) ∧ SecurityFormed s file := by
  cases file with
  | loaded data =>
      rw [securityResult_loaded.1, securityResult_loaded.2]
      constructor
      · intro h
        rcases h with h | ⟨data', hdata, h⟩
        · cases h
        cases hdata
        rcases h with h | ⟨i, h₁, hi, hbefore, hfresh, severities, hread, hwithin⟩
        · exact Or.inl h
        · exact Or.inr ⟨⟨i, h₁, hi, hbefore, hfresh, (checkFindings_of_reads hread).mpr hwithin⟩,
            data, rfl, hfresh.dated, severities, hread⟩
      · intro h
        refine Or.inr ⟨data, rfl, ?_⟩
        rcases h with h | ⟨⟨i, h₁, hi, hbefore, hfresh, hcheck⟩, data', hdata, -, severities, hread⟩
        · exact Or.inl h
        · cases hdata
          exact Or.inr ⟨i, h₁, hi, hbefore, hfresh, severities, hread,
            (checkFindings_of_reads hread).mp hcheck⟩
  | absent =>
      exact iff_of_true (Or.inl rfl) (Or.inl (stops_runCheck_iff.mpr fun i _ _ =>
        stops_checkSecurityGate_absent hrequire))
  | broken =>
      have hunread : ∀ data, ReportFile.broken ≠ .loaded data := fun data h => by cases h
      obtain ⟨hstops, hok⟩ : ¬ GateStops (securityResult s env .broken) ∧
          ∀ status, securityResult s env .broken ≠ .ok status :=
        undecided fun _ => bind_unread (load_unread hunread)
      refine iff_of_false (fun h => ?_) fun h => ?_
      · rcases h with h | ⟨data, h, -⟩ <;> cases h
      · rcases h with h | ⟨⟨status, h⟩, -⟩
        · exact hstops h
        · exact hok status h

theorem securityGood_of_ok {status : String} (h : securityResult s env file = .ok status)
    (hformed : SecurityFormed s file) : SecurityGood s env file := by
  obtain ⟨data, rfl, -, severities, hread⟩ := hformed
  obtain ⟨i, h₁, hi, -, hfresh, hcheck⟩ := securityResult_loaded.2.mp ⟨status, h⟩
  exact ⟨data, rfl, ⟨i, h₁, hi, hfresh⟩, severities, hread, (checkFindings_of_reads hread).mp hcheck⟩

/-- What the agent evaluation leaves when its report is there. -/
theorem agentLeaves_of_present {reasons : List String} (h : file ≠ .absent) :
    AgentLeaves s file reasons ↔ checkAgentEvalGate s.agent file = .ok () ∧ reasons = [] ∨
      ∃ e, checkAgentEvalGate s.agent file = .error (.agentGateError e) ∧
        reasons = ["agent_eval" ++ ": " ++ e] := by
  rw [AgentLeaves]
  exact h

/-- No reason is left exactly where the check returns. -/
theorem agentLeaves_nil_iff :
    AgentLeaves s file [] ↔ file ≠ .absent ∧ checkAgentEvalGate s.agent file = .ok () := by
  by_cases habsent : file = .absent
  · subst habsent
    exact iff_of_false (fun h => by cases h) fun h => h.1 rfl
  · rw [agentLeaves_of_present habsent, and_iff_right habsent]
    constructor
    · intro h
      rcases h with ⟨h, -⟩ | ⟨e, -, h⟩
      · exact h
      · cases h
    · intro h
      exact Or.inl ⟨h, rfl⟩

theorem agentLeaves_reason_iff (h : file ≠ .absent) :
    (∃ e, AgentLeaves s file ["agent_eval" ++ ": " ++ e]) ↔
      ∃ e, checkAgentEvalGate s.agent file = .error (.agentGateError e) := by
  constructor
  · intro hleaves
    obtain ⟨e, hleaves⟩ := hleaves
    rcases (agentLeaves_of_present h).mp hleaves with ⟨-, hnil⟩ | ⟨e', hcheck, -⟩
    · cases hnil
    · exact ⟨e', hcheck⟩
  · intro hcheck
    obtain ⟨e, hcheck⟩ := hcheck
    exact ⟨e, (agentLeaves_of_present h).mpr (Or.inr ⟨e, hcheck, rfl⟩)⟩

theorem agentClosed_iff :
    AgentClosed s file ↔ (∃ e, AgentLeaves s file ["agent_eval" ++ ": " ++ e]) ∨
      AgentLeaves s file [] ∧ AgentFormed file := by
  cases file with
  | loaded report =>
      have hpresent : ReportFile.loaded report ≠ .absent := fun h => by cases h
      rw [agentLeaves_reason_iff hpresent, agentLeaves_nil_iff, agentStops_iff,
        and_iff_right hpresent]
      constructor
      · intro h
        rcases h with h | ⟨report', hreport, h⟩
        · cases h
        cases hreport
        rcases h with h | h
        · exact Or.inl h
        · have hformed : ∀ c ∈ gateChecks, ∃ v, ReadsMetric report c v ∧ v.IsFinite := by
            intro c hc
            obtain ⟨v, hread, hfin, -⟩ := h c hc
            exact ⟨v, hread, hfin⟩
          exact Or.inr ⟨(checkAgent_of_formed hformed).mpr h, report, rfl, hformed⟩
      · intro h
        refine Or.inr ⟨report, rfl, ?_⟩
        rcases h with h | ⟨hcheck, report', hreport, hformed⟩
        · exact Or.inl h
        · cases hreport
          exact Or.inr ((checkAgent_of_formed hformed).mp hcheck)
  | absent => exact iff_of_true (Or.inl rfl) (Or.inl ⟨agentEvalMissing, rfl⟩)
  | broken =>
      have hpresent : ReportFile.broken ≠ .absent := fun h => by cases h
      rw [agentLeaves_reason_iff hpresent]
      refine iff_of_false (fun h => ?_) fun h => ?_
      · rcases h with h | ⟨data, h, -⟩ <;> cases h
      · rcases h with ⟨e, h⟩ | ⟨-, data, h, -⟩ <;> cases h

theorem agentGood_of_ok (h : AgentLeaves s file []) (hformed : AgentFormed file) :
    AgentGood s file := by
  obtain ⟨report, rfl, hvalues⟩ := hformed
  exact ⟨report, rfl, (checkAgent_of_formed hvalues).mp (agentLeaves_nil_iff.mp h).2⟩

end Reports

/-! ### The gate -/

/-- The texts that two checks begin their reasons with are different. -/
theorem name_of_reason {check name reason : String} {reasons : List String}
    (hreasons : reasons = [] ∨ ∃ e, reasons = [name ++ ": " ++ e])
    (hfirst : check.toList.head? ≠ name.toList.head?) (hcheck : check ≠ "") (hname : name ≠ "") :
    check ++ ": " ++ reason ∉ reasons := by
  intro hmem
  rcases hreasons with rfl | ⟨e, rfl⟩
  · cases hmem
  · have heq := congrArg (fun t : String => t.toList.head?) (List.mem_singleton.mp hmem)
    have hhead : ∀ (a b : String), a ≠ "" → (a ++ ": " ++ b).toList.head? = a.toList.head? := by
      intro a b ha
      have hne : a.toList ≠ [] := fun h => ha (String.toList_eq_nil_iff.mp h)
      rw [String.toList_append, String.toList_append, List.append_assoc,
        List.head?_append_of_ne_nil _ hne]
    exact hfirst ((hhead check reason hcheck).symm.trans (heq.trans (hhead name e hname)))

theorem Leaves.shape {α : Type} {name : String} {result : Except PyError α}
    {reasons : List String} (h : Leaves name result reasons) :
    reasons = [] ∨ ∃ e, reasons = [name ++ ": " ++ e] := by
  rcases h with ⟨-, h⟩ | ⟨e, -, h⟩
  · exact Or.inl h
  · exact Or.inr ⟨e, h⟩

theorem AgentLeaves.shape {s : GateSettings} {file : ReportFile} {reasons : List String}
    (h : AgentLeaves s file reasons) :
    reasons = [] ∨ ∃ e, reasons = ["agent_eval" ++ ": " ++ e] := by
  by_cases habsent : file = .absent
  · subst habsent
    exact Or.inr ⟨agentEvalMissing, h⟩
  · rcases (agentLeaves_of_present habsent).mp h with ⟨-, h⟩ | ⟨e, -, h⟩
    · exact Or.inl h
    · exact Or.inr ⟨e, h⟩

/-- A check that is decided leaves a reason, or nothing of a well-formed report. -/
theorem exists_leaves {α : Type} (name : String) {result : Except PyError α} {Formed : Prop}
    (h : GateStops result ∨ (∃ status, result = .ok status) ∧ Formed) :
    ∃ reasons, Leaves name result reasons ∧
      (reasons = [] → (∃ status, result = .ok status) ∧ Formed) ∧
      (¬ Formed → ∃ e, reasons = [name ++ ": " ++ e]) := by
  rcases h with ⟨e, h⟩ | ⟨hok, hformed⟩
  · exact ⟨[name ++ ": " ++ e], Or.inr ⟨e, h, rfl⟩,
      fun hnil => absurd hnil (List.cons_ne_nil _ _), fun _ => ⟨e, rfl⟩⟩
  · exact ⟨[], Or.inl ⟨hok, rfl⟩, fun _ => ⟨hok, hformed⟩, fun hnot => absurd hformed hnot⟩

/-- A check that leaves nothing, and would be named if its report were malformed, is
decided. -/
theorem decided_of_leaves {α : Type} {name : String} {result : Except PyError α}
    {reasons : List String} {Formed : Prop} (h : Leaves name result reasons)
    (hnamed : reasons = [] → ¬ Formed → False) :
    GateStops result ∨ (∃ status, result = .ok status) ∧ Formed := by
  rcases h with ⟨hok, hnil⟩ | ⟨e, hstops, -⟩
  · exact Or.inr ⟨hok, not_not.mp (hnamed hnil)⟩
  · exact Or.inl ⟨e, hstops⟩

/-- **The unified gate is total and fail-closed** exactly on the reports that each check
turns down or finds well formed and within its limits: the benchmark report is there, what
a report breaks first is a limit, in a value that can be formatted, and a report that
passes has all its fields, of their types and finite. -/
theorem failClosed_iff {s : GateSettings} {env : GateEnv} {files : Reports}
    (htrend : s.trendEnabled = false) (hrequire : s.requireSecurity = true)
    (hskip : s.skipAgent = false) :
    FailClosed s env files ↔ BenchmarkClosed s env files.benchmark ∧
      SecurityClosed s env files.security ∧ AgentClosed s files.agent := by
  rw [benchmarkClosed_iff, securityClosed_iff hrequire, agentClosed_iff]
  constructor
  · intro h
    obtain ⟨doc, hdoc, -, hbenchmark, hsecurity, hagent⟩ := h
    obtain ⟨b, σ, a, hb, hσ, ha, hreasons, -⟩ := runUnified_reasons htrend hskip hdoc
    -- the reason that names a check is the one that this check left
    have hof : ∀ {check reason : String}, check ++ ": " ++ reason ∈ doc.reasons →
        check ++ ": " ++ reason ∈ b ∨ check ++ ": " ++ reason ∈ σ ∨
          check ++ ": " ++ reason ∈ a := by
      intro check reason hmem
      rw [hreasons, List.mem_append, List.mem_append, or_assoc] at hmem
      exact hmem
    refine ⟨?_, decided_of_leaves hσ fun hnil hnot => ?_, ?_⟩
    · have hdecided := decided_of_leaves hb fun hnil hnot => by
        obtain ⟨-, reason, hmem⟩ := hbenchmark hnot
        rcases hof hmem with h | h | h
        · rw [hnil] at h
          cases h
        · exact name_of_reason hσ.shape (by decide) (by decide) (by decide) h
        · exact name_of_reason ha.shape (by decide) (by decide) (by decide) h
      rcases hdecided with h | ⟨⟨⟨⟩, h⟩, hformed⟩
      · exact Or.inl h
      · exact Or.inr ⟨h, hformed⟩
    · obtain ⟨-, reason, hmem⟩ := hsecurity hnot
      rcases hof hmem with h | h | h
      · exact name_of_reason hb.shape (by decide) (by decide) (by decide) h
      · rw [hnil] at h
        cases h
      · exact name_of_reason ha.shape (by decide) (by decide) (by decide) h
    · rcases ha.shape with rfl | ⟨e, rfl⟩
      · refine Or.inr ⟨ha, not_not.mp fun hnot => ?_⟩
        obtain ⟨-, reason, hmem⟩ := hagent hnot
        rcases hof hmem with h | h | h
        · exact name_of_reason hb.shape (by decide) (by decide) (by decide) h
        · exact name_of_reason hσ.shape (by decide) (by decide) (by decide) h
        · cases h
      · exact Or.inl ⟨e, ha⟩
  · intro h
    obtain ⟨hbenchmark, hsecurity, hagent⟩ := h
    have hbenchmark' : GateStops (benchmarkResult s env files.benchmark) ∨
        (∃ u, benchmarkResult s env files.benchmark = .ok u) ∧
          BenchmarkFormed s files.benchmark :=
      hbenchmark.imp_right fun h => ⟨⟨(), h.1⟩, h.2⟩
    obtain ⟨b, hb, hbok, hbnot⟩ := exists_leaves "benchmark" hbenchmark'
    obtain ⟨σ, hσ, hσok, hσnot⟩ := exists_leaves "security" hsecurity
    obtain ⟨a, ha, haok, hanot⟩ : ∃ a, AgentLeaves s files.agent a ∧
        (a = [] → AgentFormed files.agent) ∧
        (¬ AgentFormed files.agent → ∃ e, a = ["agent_eval" ++ ": " ++ e]) := by
      rcases hagent with ⟨e, h⟩ | ⟨h, hformed⟩
      · exact ⟨_, h, fun hnil => absurd hnil (List.cons_ne_nil _ _), fun _ => ⟨e, rfl⟩⟩
      · exact ⟨[], h, fun _ => hformed, fun hnot => absurd hformed hnot⟩
    obtain ⟨doc, hdoc, hreasons, hfinal⟩ := exists_runUnified htrend hskip hb hσ ha
    -- a reason that is there is a reason against the pass
    have hfail : ∀ {check : String}, (∃ e, check ++ ": " ++ e ∈ b ++ σ ++ a) →
        doc.finalDecision = "FAIL" ∧ doc.Names check := by
      intro check h
      obtain ⟨e, hmem⟩ := h
      rw [← hreasons] at hmem
      rw [hfinal, if_neg (List.ne_nil_of_mem hmem)]
      exact ⟨rfl, e, hmem⟩
    refine ⟨doc, hdoc, fun hpass => ?_, fun hnot => ?_, fun hnot => ?_, fun hnot => ?_⟩
    · have hnil : doc.reasons = [] := by
        by_contra hne
        rw [hfinal, if_neg hne] at hpass
        exact absurd hpass (by decide)
      rw [hreasons, List.append_eq_nil_iff, List.append_eq_nil_iff] at hnil
      obtain ⟨⟨rfl, rfl⟩, rfl⟩ := hnil
      obtain ⟨⟨⟨⟩, hok⟩, hformed⟩ := hbok rfl
      obtain ⟨⟨status, hok'⟩, hformed'⟩ := hσok rfl
      exact ⟨benchmarkGood_of_ok hok hformed, securityGood_of_ok hok' hformed',
        agentGood_of_ok ha (haok rfl)⟩
    · obtain ⟨e, rfl⟩ := hbnot hnot
      exact hfail ⟨e, by simp⟩
    · obtain ⟨e, rfl⟩ := hσnot hnot
      exact hfail ⟨e, by simp⟩
    · obtain ⟨e, rfl⟩ := hanot hnot
      exact hfail ⟨e, by simp⟩

/-! ### Two runs -/

/-- A benchmark report with this p99. -/
def benchmarkReport (p99 : PyFloat) : PyJson :=
  .obj [("generated_at", .int 1000), ("baseline", .obj [("p95_ms", .float (.fin 120))]),
    ("protected", .obj
      [("error_rate", .float (.fin (1 / 100))), ("p99_ms", .float p99),
       ("p95_ms", .float (.fin 90)), ("degraded_rate", .float (.fin (1 / 20)))])]

/-- The three reports of a pipeline, a minute old. -/
def minuteOldReports (p99 : PyFloat) : Reports where
  benchmark := .loaded (benchmarkReport p99)
  security := .loaded (.obj
    [("generated_at", .int 1000), ("findings", .arr [.obj [("severity", .str "Low")]])])
  trend := .absent
  agent := .loaded (.obj
    [("tool_selection_accuracy", .float (.fin (9 / 10))), ("arg_accuracy", .float (.fin 1)),
     ("avg_tool_calls_per_task", .int 2), ("retry_rate", .int 0),
     ("hallucination_rate", .float (.fin (1 / 20)))])

/-- The clock of a run, and `str` as far as these reports need it. -/
def minuteLater : GateEnv where
  lower t := String.ofList (t.toList.map Char.toLower)
  str _ := "None"
  time _ _ := 1060
  now := 1061

theorem failClosed_minuteOld : FailClosed {} minuteLater (minuteOldReports (.fin 200)) := by
  have hbefore : ∀ {P : ℕ → Prop} (k : ℕ), 1 ≤ k → k < 1 → P k := fun k hk hk' =>
    absurd hk (Nat.not_le.mpr hk')
  have hlast : 1 ≤ gateAttempts {} := one_le_gateAttempts
  have hfresh : ∀ fields : List (String × PyJson), fields.lookup "generated_at" = some (.int 1000) →
      Fresh {} (.obj fields) 1060 := fun fields hdate _ =>
    ⟨fields, .int 1000, 1000, rfl, hdate, rfl, by decide, by decide⟩
  refine (failClosed_iff rfl rfl rfl).mpr ⟨⟨_, rfl, Or.inr ⟨1, le_refl 1, hlast, hbefore,
    hfresh _ rfl, ⟨.float (.fin (1 / 100)), .float (.fin 200), .float (.fin 120),
      .float (.fin 90), .float (.fin (1 / 20)), .float (.fin 0)⟩, ?_, ?_, ?_⟩⟩,
    Or.inr ⟨_, rfl, Or.inr ⟨1, le_refl 1, hlast, hbefore, hfresh _ rfl, ["Low"], ?_, ?_⟩⟩,
    Or.inr ⟨_, rfl, Or.inr ?_⟩⟩
  · exact ⟨_, _, _, [], [], [], rfl, rfl, rfl, rfl, rfl, rfl, rfl, rfl, Or.inl ⟨Or.inl rfl, rfl⟩,
      Or.inl ⟨Or.inl rfl, rfl⟩, Or.inl ⟨Or.inl rfl, rfl⟩, Or.inl ⟨Or.inl rfl, rfl⟩⟩
  · intro v hv
    simp only [BenchmarkValues.all, List.mem_cons, List.not_mem_nil, or_false] at hv
    rcases hv with rfl | rfl | rfl | rfl | rfl | rfl <;> exact ⟨trivial, trivial⟩
  · constructor <;> simp only [PyJson.rat] <;> norm_num
  · exact ⟨_, rfl, Or.inr ⟨_, rfl, List.Forall₂.cons ⟨_, rfl, Or.inr rfl⟩ List.Forall₂.nil⟩⟩
  · intro severity hmem
    rw [List.mem_singleton.mp hmem]
    decide
  · intro c hc
    simp only [gateChecks, List.mem_cons, List.not_mem_nil, or_false] at hc
    rcases hc with rfl | rfl | rfl | rfl | rfl | rfl
    · exact ⟨_, ⟨_, rfl, Or.inl rfl⟩, trivial, _, rfl, by norm_num [GateCheck.breaks, PyJson.rat]⟩
    · exact ⟨_, ⟨_, rfl, Or.inl rfl⟩, trivial, _, rfl, by norm_num [GateCheck.breaks, PyJson.rat]⟩
    · exact ⟨_, ⟨_, rfl, Or.inl rfl⟩, trivial, _, rfl, by norm_num [GateCheck.breaks, PyJson.rat]⟩
    · exact ⟨_, ⟨_, rfl, Or.inl rfl⟩, trivial, _, rfl, by norm_num [GateCheck.breaks, PyJson.rat]⟩
    · exact ⟨_, ⟨_, rfl, Or.inl rfl⟩, trivial, _, rfl, by norm_num [GateCheck.breaks, PyJson.rat]⟩
    · exact ⟨_, ⟨_, rfl, Or.inr ⟨rfl, rfl, rfl⟩⟩, trivial, _, rfl,
        by norm_num [GateCheck.breaks, PyJson.rat]⟩

/-- With a p99 of NaN the gate passes; without the benchmark report it raises. -/
theorem nan_passes :
    (∃ doc, runUnified {} minuteLater (minuteOldReports .nan) = .ok doc ∧
      doc.finalDecision = "PASS") ∧
    ¬ FailClosed {} minuteLater (minuteOldReports .nan) ∧
    (∃ e, runUnified {} minuteLater
      { minuteOldReports (.fin 200) with benchmark := .absent } = .error e) := by
  have hdecision : (runUnified {} minuteLater (minuteOldReports .nan)).map
      GateDocument.finalDecision = .ok "PASS" := by
    decide +kernel
  obtain ⟨doc, hdoc, hpass⟩ : ∃ doc, runUnified {} minuteLater (minuteOldReports .nan) = .ok doc ∧
      doc.finalDecision = "PASS" := by
    cases hrun : runUnified {} minuteLater (minuteOldReports .nan) with
    | error e =>
        rw [hrun] at hdecision
        cases hdecision
    | ok doc =>
        rw [hrun] at hdecision
        exact ⟨doc, rfl, Except.ok.inj hdecision⟩
  refine ⟨⟨doc, hdoc, hpass⟩, fun h => ?_, _, rfl⟩
  obtain ⟨doc', hdoc', -, hbenchmark, -⟩ := h
  rw [hdoc] at hdoc'
  cases hdoc'
  -- NaN is not a finite number
  have hnot : ¬ BenchmarkFormed {} (.loaded (benchmarkReport .nan)) := by
    intro h
    obtain ⟨data, hdata, -, b, hread, hfin⟩ := h
    cases hdata
    obtain ⟨fields, baseline, guarded, _, _, _, hfields, -, hguarded, -, hp99, -⟩ := hread
    cases hfields
    cases hguarded
    have hvalue : b.p99 = .float .nan := (Option.some.inj hp99).symm
    have hfinite := hfin b.p99 (by simp [BenchmarkValues.all])
    rw [hvalue] at hfinite
    exact hfinite
  have hfail := (hbenchmark hnot).1
  rw [hpass] at hfail
  exact absurd hfail (by decide)

end ChaosDemo
