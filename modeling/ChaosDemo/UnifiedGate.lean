/-
ChaosDemo/UnifiedGate.lean

The quality gate on the reports of a pipeline: quality_gate.py, gate_agent_eval.py of the
agent evaluation, and unified_quality_gate.py, which runs their checks and writes one
document.

The checks print what they find.  Printing is modelled where a format can raise: it turns
an integer into a float, which fails for one that is too large.  The output takes every
text.
-/
import ChaosDemo.Evaluation
import ChaosDemo.Report
import ChaosDemo.Yaml

namespace ChaosDemo

/-- A report: no file, a text that is not JSON, or a value. -/
inductive ReportFile
  | absent
  | broken
  | loaded (data : PyJson)

/-- The files that the gate reads. -/
structure Reports where
  benchmark : ReportFile
  security : ReportFile
  trend : ReportFile
  agent : ReportFile

/-- The settings from the environment, and the thresholds of the agent evaluation. -/
structure GateSettings where
  retryAttempts : ℤ := 1
  checkFreshness : Bool := true
  maxReportAgeSec : ℤ := 3600
  errorRateMax : ℚ := 1 / 20
  p99MsMax : ℚ := 450
  p95RegressionFactorMax : ℚ := 11 / 10
  unstableRateMax : ℚ := 7 / 20
  p95StdevMax : ℚ := 0
  failOn : String := "medium"
  requireSecurity : Bool := true
  trendEnabled : Bool := false
  trendRequireReport : Bool := true
  trendCheckFreshness : Bool := false
  trendP95RatioMax : ℚ := 23 / 20
  skipAgent : Bool := false
  agent : Thresholds :=
    [("tool_selection_accuracy_min", 17 / 20), ("arg_accuracy_min", 4 / 5),
     ("avg_tool_calls_per_task_max", 7 / 2), ("retry_rate_max", 1 / 5),
     ("hallucination_rate_max", 1 / 10), ("planner_invalid_rate_max", 3 / 20)]

/-- What the checks take from Python and from the clock: `str.lower`, `str` of a value
that is not a text, and the time at an attempt of a check and at the end. -/
structure GateEnv where
  lower : String → String
  str : PyJson → String
  time : String → ℕ → ℤ
  now : ℤ

/-- `fail` of quality_gate.py: `raise QualityGateError(msg)`. -/
def gateFail {α : Type} (msg : String) : Except PyError α :=
  .error (.raised "QualityGateError" msg)

/-- `open` and `json.load`. -/
def ReportFile.load : ReportFile → Except PyError PyJson
  | .absent => .error (.raised "FileNotFoundError" "")
  | .broken => .error .valueError
  | .loaded data => .ok data

/-! ### quality_gate.py -/

/-- `severity_rank`. -/
def severityRank (lower : String → String) (level : String) : ℕ :=
  ([("low", 1), ("medium", 2), ("high", 3)].lookup (lower level)).getD 2

section Checks

variable (s : GateSettings) (env : GateEnv)

/-- `str(v)`. -/
def GateEnv.text (v : PyJson) : String :=
  match v with
  | .str t => t
  | v => env.str v

/-- The age of a report at an attempt, once `generated_at` is a number. -/
def checkAge (reportName : String) (age : ℤ) : Except PyError Unit :=
  if age < 0 then gateFail s!"{reportName} report generated_at is in the future"
  else if s.maxReportAgeSec < age then do
    let shown ← intRepr age
    gateFail s!"{reportName} report is stale: age={shown}s > max={s.maxReportAgeSec}s (rerun producer step in this pipeline)"
  else pure ()

/-- `check_report_freshness`, at the time `now`. -/
def checkReportFreshness (data : PyJson) (reportName : String) (now : ℤ) :
    Except PyError Unit :=
  if s.checkFreshness = false then pure ()
  else do
    match ← data.get "generated_at" with
    | none => gateFail s!"{reportName} report missing generated_at"
    | some .null => gateFail s!"{reportName} report missing generated_at"
    | some v =>
        match v.toInt with
        | .ok generatedAt => checkAge s reportName (now - generatedAt)
        | .error .typeError =>
            gateFail s!"{reportName} report has invalid generated_at: {env.text v}"
        | .error .valueError =>
            gateFail s!"{reportName} report has invalid generated_at: {env.text v}"
        | .error e => .error e

/-- `if v > bound: fail(…)`; the message formats the value. -/
def failAbove (v : PyJson) (bound : PyFloat) (message : PyFloat → String) :
    Except PyError Unit := do
  let x ← v.number
  if bound.lt x then do
    let shown ← v.asFloat
    gateFail (message shown)
  else pure ()

/-- The standard deviation of the p95 over the runs, if the report has one. -/
def p95Stdev (data : PyJson) : Except PyError PyFloat := do
  let protectedSummary := PyJson.orElse (← data.get "protected_summary") (.obj [])
  let summary := PyJson.orElse (← protectedSummary.get "summary") (.obj [])
  let p95Summary := PyJson.orElse (← summary.get "p95_ms") (.obj [])
  (PyJson.orElse (← p95Summary.get "stdev") (.float (.fin 0))).toFloat

/-- `check_benchmark_gate` once the report is loaded and fresh. -/
def checkBenchmark (data : PyJson) : Except PyError Unit := do
  let percent := PyFloat.shown pyPercent
  let ms := PyFloat.shown (pyFixedTo 1)
  let baseline ← data.item "baseline"
  let guarded ← data.item "protected"
  let errorRate ← guarded.item "error_rate"
  failAbove errorRate (.fin s.errorRateMax) fun x =>
    s!"protected error_rate too high: {percent x} > {pyPercent s.errorRateMax}"
  let p99 ← guarded.item "p99_ms"
  failAbove p99 (.fin s.p99MsMax) fun x =>
    s!"protected p99 too high: {ms x}ms > {pyFixedTo 1 s.p99MsMax}ms"
  let baselineP95 ← (← baseline.item "p95_ms").asFloat
  let p95Limit := baselineP95.scale s.p95RegressionFactorMax
  let p95 ← guarded.item "p95_ms"
  failAbove p95 p95Limit fun x =>
    s!"protected p95 regressed too much: {ms x}ms > {ms p95Limit}ms (factor={pyFixed s.p95RegressionFactorMax})"
  let degradedRate ← guarded.item "degraded_rate"
  let unstable ← degradedRate.plus errorRate
  failAbove unstable (.fin s.unstableRateMax) fun x =>
    s!"degraded+error too high: {percent x} > {pyPercent s.unstableRateMax}"
  let stdev ← p95Stdev data
  if 0 < s.p95StdevMax ∧ (PyFloat.fin s.p95StdevMax).lt stdev then
    gateFail s!"protected p95 jitter too high: {ms stdev}ms > {pyFixedTo 1 s.p95StdevMax}ms"
  else do
    -- the line that reports the pass formats the four values
    let _ ← p95.asFloat
    let _ ← p99.asFloat
    let _ ← errorRate.asFloat
    let _ ← degradedRate.asFloat
    pure ()

/-- `check_benchmark_gate`. -/
def checkBenchmarkGate (file : ReportFile) (now : ℤ) : Except PyError Unit := do
  let data ← file.load
  checkReportFreshness s env data "benchmark" now
  checkBenchmark s data

/-- The severity of a finding, as text. -/
def severityOf (item : PyJson) : Except PyError String := do
  let severity ← item.get "severity"
  pure (env.lower (env.text (severity.getD (.str "low"))))

/-- `check_security_gate` once the report is loaded and fresh. -/
def checkFindings (data : PyJson) : Except PyError Unit := do
  let findings ← ((← data.get "findings").getD (.arr [])).iter
  let highest ← findings.foldlM (fun highest item => do
    let sev ← severityOf env item
    pure (max highest (severityRank env.lower sev))) 0
  if severityRank env.lower (env.lower s.failOn) ≤ highest then
    gateFail "security findings reached fail threshold"
  else pure ()

/-- `check_security_gate`. -/
def checkSecurityGate (file : ReportFile) (now : ℤ) : Except PyError String :=
  match file with
  | .absent =>
      if s.requireSecurity then
        gateFail "security report missing: reports/security_scan_latest.json (run security_scan.py first)"
      else pure "SKIPPED"
  | file => do
      let data ← file.load
      checkReportFreshness s env data "security" now
      checkFindings s env data
      pure "PASS"

/-- `check_benchmark_trend_gate`. -/
def checkBenchmarkTrendGate (file : ReportFile) (now : ℤ) : Except PyError String :=
  if s.trendEnabled = false then pure "SKIPPED"
  else
    match file with
    | .absent =>
        if s.trendRequireReport then
          gateFail "benchmark trend report missing: reports/benchmark_trend_latest.json (run benchmark_compare.py first)"
        else pure "SKIPPED"
    | file => do
        let data ← file.load
        if s.trendCheckFreshness then checkReportFreshness s env data "benchmark_trend" now
        let prev ← (PyJson.orElse (← data.get "previous_medians") (.obj [])).get "protected_p95_ms"
        let cur ← (PyJson.orElse (← data.get "current") (.obj [])).get "protected_p95_ms"
        match prev, cur with
        | none, _ => pure "SKIPPED"
        | some .null, _ => pure "SKIPPED"
        | _, none => pure "SKIPPED"
        | _, some .null => pure "SKIPPED"
        | some prev, some cur =>
            match prev.toFloat >>= fun x => cur.toFloat.map (Prod.mk x) with
            | .error .typeError => pure "SKIPPED"
            | .error .valueError => pure "SKIPPED"
            | .error e => .error e
            | .ok (prevF, curF) =>
                if prevF = .fin 0 ∨ prevF.lt (.fin 0) then pure "SKIPPED"
                else
                  let ratio := curF.div prevF
                  let ms := PyFloat.shown (pyFixedTo 1)
                  if (PyFloat.fin s.trendP95RatioMax).lt ratio then
                    gateFail s!"protected p95 vs history median ratio too high: {PyFloat.shown (pyFixedTo 3) ratio} > {pyFixedTo 3 s.trendP95RatioMax} (current={ms curF}ms, history_median={ms prevF}ms)"
                  else pure "PASS"

end Checks

/-- The attempts after the one numbered `i`, `left` of them at most. -/
def retryFrom {α : Type} (check : ℕ → Except PyError α) : ℕ → ℕ → Except PyError α
  | 0, i => check i
  | left + 1, i =>
      match check i with
      | .error (.raised "QualityGateError" _) => retryFrom check left (i + 1)
      | r => r

/-- `run_check_with_retries`: only a `QualityGateError` is retried.  (The checks never
exit, so the branch for `SystemExit` is left out.) -/
def runCheckWithRetries {α : Type} (s : GateSettings) (check : ℕ → Except PyError α) :
    Except PyError α :=
  retryFrom check ((max 1 s.retryAttempts).toNat - 1) 1

/-! ### gate_agent_eval.py -/

/-- `report[metric]`, or `report.get(metric, 0)`. -/
def GateCheck.valueOn (c : GateCheck) (metrics : String → Option PyJson) :
    Except PyError PyJson :=
  match metrics c.metric, c.fallback with
  | some v, _ => .ok v
  | none, some _ => .ok (.int 0)
  | none, none => .error (.keyError c.metric)

/-- Whether a value is out of bounds; NaN never is. -/
def GateCheck.breaksOn (c : GateCheck) (x : PyFloat) (bound : ℚ) : Bool :=
  if c.isMax then (PyFloat.fin bound).lt x else x.lt (.fin bound)

/-- One comparison of `_assert` in ai_platform/evaluation/gate.py, on a report that may
have infinities and NaN in it. -/
def GateCheck.runOn (c : GateCheck) (g : Thresholds) (metrics : String → Option PyJson) :
    Except PyError Unit := do
  let v ← c.valueOn metrics
  let bound ← g.item c.threshold
  let x ← v.number
  if c.breaksOn x bound then do
    let shown ← v.asFloat
    .error (.agentGateError (c.metric ++ " too " ++ (if c.isMax then "high" else "low") ++ ": " ++
      shown.shown c.format ++ " (" ++ (if c.isMax then "max " else "min ") ++ c.format bound ++
      ")"))
  else pure ()

/-- `check_agent_eval_gate`. -/
def checkAgentEvalGate (g : Thresholds) (file : ReportFile) : Except PyError Unit := do
  let report ← file.load
  let metrics ← report.toDict
  gateChecks.forM fun c => c.runOn g metrics

/-! ### unified_quality_gate.py -/

/-- The document of the unified gate. -/
structure GateDocument where
  finalDecision : String
  generatedAt : ℤ
  reasons : List String
  checks : List (String × String)

/-- The checks that have run, and the reasons against a pass. -/
structure GateRun where
  checks : List (String × String) := []
  reasons : List String := []

/-- One `try` of `run_unified`: the status that a check returns, or a reason. -/
def GateRun.record (run : GateRun) (name : String) (result : Except PyError String) :
    Except PyError GateRun :=
  match result with
  | .ok status => .ok { run with checks := run.checks ++ [(name, status)] }
  | .error (.raised "QualityGateError" e) =>
      .ok { checks := run.checks ++ [(name, "FAIL")], reasons := run.reasons ++ [s!"{name}: {e}"] }
  | .error e => .error e

/-- The reason against a pass where the agent evaluation has no report. -/
def agentEvalMissing : String :=
  "missing agent-eval/reports/agent_eval_latest.json (run agent-eval score step first)"

/-- The agent evaluation in `run_unified`. -/
def GateRun.recordAgent (run : GateRun) (s : GateSettings) (file : ReportFile) :
    Except PyError GateRun :=
  if s.skipAgent then .ok { run with checks := run.checks ++ [("agent_eval", "SKIPPED")] }
  else
    match file with
    | .absent =>
        .ok { checks := run.checks ++ [("agent_eval", "FAIL")]
              reasons := run.reasons ++ ["agent_eval" ++ ": " ++ agentEvalMissing] }
    | file =>
        match checkAgentEvalGate s.agent file with
        | .ok _ => .ok { run with checks := run.checks ++ [("agent_eval", "PASS")] }
        | .error (.agentGateError e) =>
            .ok { checks := run.checks ++ [("agent_eval", "FAIL")]
                  reasons := run.reasons ++ [s!"agent_eval: {e}"] }
        | .error e => .error e

/-- `run_unified`. -/
def runUnified (s : GateSettings) (env : GateEnv) (files : Reports) :
    Except PyError GateDocument := do
  let run ← GateRun.record {} "benchmark" ((runCheckWithRetries s fun i =>
    checkBenchmarkGate s env files.benchmark (env.time "benchmark" i)).map fun _ => "PASS")
  let run ← run.record "security" (runCheckWithRetries s fun i =>
    checkSecurityGate s env files.security (env.time "security" i))
  let run ← run.record "benchmark_trend" (runCheckWithRetries s fun i =>
    checkBenchmarkTrendGate s env files.trend (env.time "benchmark_trend" i))
  let run ← run.recordAgent s files.agent
  pure
    { finalDecision := if run.reasons = [] then "PASS" else "FAIL"
      generatedAt := env.now
      reasons := run.reasons
      checks := run.checks }

end ChaosDemo
