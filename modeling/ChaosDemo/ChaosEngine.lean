/-
ChaosDemo/ChaosEngine.lean

The chaos package above its store: matcher.py, observer.py, reporter.py,
injector/base.py with injector/latency.py, and the entry points of __init__.py.

Three of the functions take an experiment for recovered, each with a guard of its
own:

    record_recovered           an explicit stop: none
    finalize_expired_reports   the report is not marked, and its time is over
    build_report               the report is not marked, and the experiment is gone

The first two count the recovery in the metrics, the third does not.
-/
import ChaosDemo.ChaosStore

namespace ChaosDemo

open CallTree Keyspace

variable {K : Type} [Field K] [LinearOrder K]

/-! ### Numbers in texts -/

/-- `float(v)`. -/
def pyFloat (v : Json) : Except Exc K :=
  match v with
  | .str text => match floatText text with
    | some q => .ok q
    | none => .error .valueError
  | v => match v.number? with
    | some q => .ok q
    | none => .error .typeError

/-! ### Matching -/

/-- What the matcher reads of a request. -/
structure ChaosRequest where
  path : String
  method : String
deriving DecidableEq

/-- `_percentage_match`. -/
def percentageMatch (target : Dict) : Chaos K Bool :=
  match target.get "percentage" with
  | .null => pure true
  | percentage => do
      let value ← Prog.ofExcept (pyFloat percentage)
      let value : K := if 1 < value then value / 100 else value
      let value := max 0 (min value 1)
      let sample ← Chaos.random
      pure (decide (sample < value))

/-- `match_request`. -/
def matchRequest (experiment : ChaosExperiment K) (request : ChaosRequest) : Chaos K Bool :=
  let endpoint := Dict.get experiment.target "endpoint"
  let method := Dict.get experiment.target "method"
  if endpoint.truthy ∧ endpoint ≠ .str "*" ∧ endpoint ≠ .str request.path then pure false
  else if method.truthy ∧ pyUpper method.pyStr ≠ pyUpper request.method then pure false
  else percentageMatch experiment.target

/-! ### Observation -/

/-- `_target_label`. -/
def targetLabel (target : Dict) : String :=
  pyUpper (target.getD "method" (.str "*")).pyStr ++ ":" ++
    (target.getD "endpoint" (.str "*")).pyStr ++ ":" ++
    (target.getD "percentage" (.str "*")).pyStr

/-- The label is that of the target as it is read back, unless a dictionary or a list in
it is printed. -/
theorem targetLabel_stored {target : Dict} (h : target.Wf)
    (hmethod : (target.get "method").sorted = target.get "method")
    (hendpoint : (target.get "endpoint").sorted = target.get "endpoint")
    (hpercentage : (target.get "percentage").sorted = target.get "percentage") :
    targetLabel target.stored = targetLabel target := by
  simp only [targetLabel, Dict.getD, Dict.has_stored, Dict.get_stored h, hmethod, hendpoint,
    hpercentage]

/-- The labels of an experiment's metrics. -/
def ChaosExperiment.labels (experiment : ChaosExperiment K) : Labels :=
  ⟨experiment.faultType, targetLabel experiment.target⟩

/-- The labels of a report's metrics. -/
def Report.labels (report : Report K) : Labels :=
  ⟨report.faultType, targetLabel report.target⟩

/-- `record_report_recovered_metrics`. -/
def recordReportRecoveredMetrics (report : Report K) : Chaos K Unit := do
  Chaos.metric report.experimentId report.labels .faultRecovered
  Chaos.metric report.experimentId report.labels .activeDec
  if report.afterErrorCount = 0 then
    Chaos.metric report.experimentId report.labels .experimentSuccess
  else
    Chaos.metric report.experimentId report.labels .experimentFailed
  let now ← Chaos.time
  Chaos.metric report.experimentId report.labels
    (.recoveryDuration (max (now - report.createdAt) 0))

/-- What `record_response` reads of a response. -/
structure ChaosResponse (K : Type) where
  statusCode : ℤ
  durationMs : K

namespace ChaosObserver

open ChaosExperimentStore

/-- `record_created`. -/
def recordCreated (experiment : ChaosExperiment K) : Chaos K Unit := do
  Chaos.metric experiment.id experiment.labels .experimentTotal
  Chaos.metric experiment.id experiment.labels .activeInc
  Chaos.metric experiment.id experiment.labels (.experimentDuration (max experiment.duration 0))

/-- The report after one injected fault. -/
def injected (report : Report K) : Report K :=
  { report with faultInjectedCount := report.faultInjectedCount + 1 }

/-- `record_injected`. -/
def recordInjected (experiment : ChaosExperiment K) (phase : String) : Chaos K Unit := do
  Chaos.metric experiment.id experiment.labels (.faultInjected phase)
  let report ← getReport experiment.id
  match report with
  | none => pure ()
  | some report => saveReport experiment.id (injected report)

/-- The report after one response. -/
def responded (response : ChaosResponse K) (report : Report K) : Report K :=
  { report with
    afterRequestCount := report.afterRequestCount + 1
    afterErrorCount :=
      if 500 ≤ response.statusCode then report.afterErrorCount + 1 else report.afterErrorCount
    afterLatencyMs := report.afterLatencyMs + response.durationMs }

/-- `record_response`. -/
def recordResponse (response : ChaosResponse K) : List (ChaosExperiment K) → Chaos K Unit
  | [] => pure ()
  | experiment :: experiments => do
      let report ← getReport experiment.id
      match report with
      | none => recordResponse response experiments
      | some report => do
          saveReport experiment.id (responded response report)
          recordResponse response experiments

/-- The report after one fallback. -/
def fellBack (report : Report K) : Report K :=
  { report with fallbackCount := report.fallbackCount + 1 }

/-- `record_fallback`. -/
def recordFallback : List (ChaosExperiment K) → Chaos K Unit
  | [] => pure ()
  | experiment :: experiments => do
      let report ← getReport experiment.id
      match report with
      | none => recordFallback experiments
      | some report => do
          saveReport experiment.id (fellBack report)
          recordFallback experiments

/-- The report of an experiment that has recovered. -/
def recovered (status : String) (report : Report K) : Report K :=
  { report with
    recovered := true
    status := status }

/-- `record_recovered`. -/
def recordRecovered (experiment : ChaosExperiment K) : Chaos K Unit := do
  let report ← getReport experiment.id
  match report with
  | none => pure ()
  | some report => do
      recordReportRecoveredMetrics report
      saveReport experiment.id (recovered experiment.status report)

end ChaosObserver

/-! ### Reports -/

open ChaosExperimentStore ChaosObserver

/-- What `build_report` answers. -/
structure BuiltReport (K : Type) where
  experiment : String
  experimentId : String
  success : Bool
  beforeErrorRate : K
  afterErrorRate : K
  beforeLatencyMs : K
  afterLatencyMs : K
  faultInjectedCount : ℤ
  fallbackCount : ℤ
  recovered : Bool
  status : String

/-- The answer of `build_report`, from a report and the experiment as it is stored. -/
def builtReport (experimentId : String) (report : Report K)
    (experiment : Option (ChaosExperiment K)) : BuiltReport K where
  experiment := report.experiment
  experimentId := experimentId
  success := report.afterErrorCount = 0
  beforeErrorRate := 0
  afterErrorRate :=
    if report.afterRequestCount ≠ 0 then report.afterErrorCount / report.afterRequestCount else 0
  beforeLatencyMs := report.beforeLatencyMs
  afterLatencyMs :=
    if 0 < report.afterRequestCount then report.afterLatencyMs / report.afterRequestCount else 0
  faultInjectedCount := report.faultInjectedCount
  fallbackCount := report.fallbackCount
  recovered := report.recovered
  status := match experiment with
    | some experiment => experiment.status
    | none => report.status

/-- `build_report`. -/
def buildReport (experimentId : String) : Chaos K (Option (BuiltReport K)) := do
  let report ← getReport experimentId
  let experiment ← getExperiment experimentId
  match report with
  | none => pure none
  | some report =>
      if experiment.isNone && !report.recovered then do
        saveReport experimentId (recovered chaosStatusStopped report)
        pure (some (builtReport experimentId (recovered chaosStatusStopped report) experiment))
      else pure (some (builtReport experimentId report experiment))

/-- `report_key.split(":")[-1]`, on the id in the key. -/
def lastSegment (id : String) : String :=
  String.ofList (id.toList.reverse.takeWhile (· ≠ ':')).reverse

/-- One round of `finalize_expired_reports`. -/
def finalizeReport (now : K) (id : String) : Chaos K Unit := do
  let report ← getReport (lastSegment id)
  match report with
  | none => pure ()
  | some report =>
      if report.recovered then pure ()
      else if report.createdAt + report.duration ≤ now then do
        recordReportRecoveredMetrics report
        saveReport report.experimentId (recovered chaosStatusStopped report)
      else pure ()

/-- The loop of `finalize_expired_reports`. -/
def finalizeEach (now : K) : List String → Chaos K Unit
  | [] => pure ()
  | id :: ids => do
      finalizeReport now id
      finalizeEach now ids

/-- `finalize_expired_reports`. -/
def finalizeExpiredReports : Chaos K Unit := do
  let now ← Chaos.time
  let ids ← Chaos.keys .reports
  finalizeEach now (pySorted ids)

/-! ### Injectors -/

inductive FaultInjector
  | latency
  | exception
  | drop
  | slowDb
deriving DecidableEq

/-- `build_injector`. -/
def buildInjector (faultType : String) : Except Exc FaultInjector :=
  if faultType = "latency" then .ok .latency
  else if faultType = "exception" then .ok .exception
  else if faultType = "drop" then .ok .drop
  else if faultType = "slow_db" then .ok .slowDb
  else .error (.other "KeyError")

/-- `before_request`; only the latency injector has one of its own. -/
def FaultInjector.beforeRequest (experiment : ChaosExperiment K) : FaultInjector → Chaos K Unit
  | .latency => do
      let ms : K ← Prog.ofExcept (pyFloat (Dict.getD experiment.params "latency_ms" (.int 0)))
      if ms ≤ 0 then pure ()
      else do
        recordInjected experiment "before_request"
        Chaos.sleep (ms / 1000)
  | _ => pure ()

/-! ### Entry points -/

/-- `create_experiment`; the empty `experimentId` is falsy like no id at all. -/
def createExperiment (name hypothesis : String) (target : Dict) (faultType : String)
    (params : Dict) (duration : ℤ) (experimentId : Option String)
    (status : String) (legacyApi : Bool) : Chaos K (ChaosExperiment K) := do
  let now ← Chaos.time
  let id ← match experimentId with
    | some id => if id = "" then Chaos.uuid4 else pure id
    | none => Chaos.uuid4
  let experiment : ChaosExperiment K :=
    { id := id
      name := name
      hypothesis := hypothesis
      target := target
      faultType := faultType
      params := params
      duration := duration
      status := status
      createdAt := now
      updatedAt := now
      legacyApi := legacyApi }
  ChaosExperimentStore.createExperiment experiment
  recordCreated experiment
  pure experiment

/-- `build_legacy_experiment`. -/
def buildLegacyExperiment (faultType : String) (params : Dict) (duration : ℤ) :
    Chaos K (ChaosExperiment K) := do
  let now ← Chaos.time
  let id ← Chaos.uuid4
  pure
    { id := id
      name := "legacy_" ++ faultType
      hypothesis := "legacy fault injection for " ++ faultType
      target := [("endpoint", .str "*"), ("phase", .str "pre_request")]
      faultType := faultType
      params := params
      duration := duration
      status := chaosStatusRunning
      createdAt := now
      updatedAt := now
      legacyApi := true }

/-- `create_legacy_experiment`; `faultDefaultTtlSec` is `ctx.FAULT_DEFAULT_TTL_SEC`. -/
def createLegacyExperiment (faultDefaultTtlSec : ℤ) (faultType : String) (params : Dict)
    (ttlSec : Option ℤ) : Chaos K (ChaosExperiment K) := do
  let experiment ← buildLegacyExperiment faultType params (ttlSec.getD faultDefaultTtlSec)
  ChaosExperimentStore.createExperiment experiment
  recordCreated experiment
  pure experiment

/-- `list_experiments`. -/
def listExperiments (includeStopped : Bool) : Chaos K (List (ChaosExperiment K)) := do
  finalizeExpiredReports
  ChaosExperimentStore.listExperiments includeStopped

/-- `get_experiment`. -/
def getExperiment (experimentId : String) : Chaos K (Option (ChaosExperiment K)) := do
  finalizeExpiredReports
  ChaosExperimentStore.getExperiment experimentId

/-- `stop_experiment`. -/
def stopExperiment (experimentId : String) : Chaos K Bool := do
  let experiment ← ChaosExperimentStore.stopExperiment experimentId
  match experiment with
  | none => pure false
  | some experiment => do
      recordRecovered experiment
      pure true

/-- The loop of `stop_all_experiments`: how many were stopped. -/
def stopEach : List (ChaosExperiment K) → Chaos K ℕ
  | [] => pure 0
  | experiment :: experiments => do
      let stopped ← stopExperiment experiment.id
      let rest ← stopEach experiments
      pure (if stopped then rest + 1 else rest)

/-- `stop_all_experiments`. -/
def stopAllExperiments : Chaos K ℕ := do
  let experiments ← ChaosExperimentStore.listExperiments false
  stopEach experiments

/-- `stop_legacy_fault`. -/
def stopLegacyFault (faultType : String) : Chaos K Bool := do
  let experiments ← ChaosExperimentStore.listExperiments false
  let experiments := experiments.filter fun experiment => experiment.faultType = faultType
  if experiments.isEmpty then pure false
  else do
    let _ ← stopEach experiments
    pure true

/-- The loop of `prepare_request_experiments`. -/
def prepareEach (request : ChaosRequest) :
    List (ChaosExperiment K) → Chaos K (List (ChaosExperiment K))
  | [] => pure []
  | experiment :: experiments => do
      let matched ← matchRequest experiment request
      if matched then do
        let injector ← Prog.ofExcept (buildInjector experiment.faultType)
        injector.beforeRequest experiment
        let active ← prepareEach request experiments
        pure (experiment :: active)
      else prepareEach request experiments

/-- `prepare_request_experiments`, with the list it leaves in the request. -/
def prepareRequestExperiments (request : ChaosRequest) : Chaos K (List (ChaosExperiment K)) := do
  finalizeExpiredReports
  let experiments ← ChaosExperimentStore.listExperiments false
  prepareEach request experiments

end ChaosDemo
