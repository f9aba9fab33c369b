/-
ChaosDemo/FaultFacade.lean

fault_injection.py, the hooks of the injectors and the part of app/api/hooks.py that
calls them.  A fault of the legacy API is kept twice:

    chaos:experiment:<id>   a running experiment with `legacy_api` set
    fault:<type>            a record that says which

Both are written with the same time to live, one after the other, and from then on each
has a life of its own.  `FaultSig` adds the commands on the second kind of key to the
calls of the chaos package; a program of the package becomes one of the facade by
`ofChaos`.
-/
import ChaosDemo.ChaosEngine
import ChaosDemo.ReportUpdates

namespace ChaosDemo

open CallTree Keyspace ChaosExperimentStore ChaosObserver

/-! ### Settings and validation -/

/-- The settings of the facade; `maxDropRateText` is the rate as a message shows it. -/
structure FaultSettings (K : Type) where
  faultInjectionEnabled : Bool := true
  faultDefaultTtlSec : ℤ := 60
  faultMaxLatencyMs : ℤ := 5000
  faultMaxDropRate : K
  maxDropRateText : String := "1.0"

variable {K : Type} [Field K] [LinearOrder K]

/-- What is wrong with a parameter that has to be a number from 0 to `bound`. -/
def outOfRange (v : Json) (bound : K) : Bool :=
  match v.number? with
  | some q => !decide ((0 : K) ≤ (q : K) ∧ (q : K) ≤ bound)
  | none => true

/-- What is wrong with a parameter that has to be a number from 0 on. -/
def negative (v : Json) : Bool :=
  match v.number? with
  | some q => decide (q < 0)
  | none => true

/-- `_validate_fault_params`. -/
def validateFaultParams (settings : FaultSettings K) (faultType : String) (params : Dict) :
    Option String :=
  if faultType = "latency" then
    let ms := params.getD "latency_ms" (.int 0)
    if negative ms then some "latency_ms must be >= 0"
    else if outOfRange ms (settings.faultMaxLatencyMs : K) then
      some ("latency_ms exceeds max " ++ toString settings.faultMaxLatencyMs)
    else none
  else if faultType = "exception" then
    match params.getD "error_type" (.str "") with
    | .str errorType => if errorType = "" then some "error_type is required" else none
    | _ => some "error_type is required"
  else if faultType = "drop" then
    if outOfRange (params.getD "drop_rate" (.int 0)) settings.faultMaxDropRate then
      some ("drop_rate must be in [0, " ++ settings.maxDropRateText ++ "]")
    else none
  else if faultType = "slow_db" then
    if negative (params.getD "base_ms" (.int 0)) then some "base_ms must be >= 0"
    else if negative (params.getD "jitter_ms" (.int 0)) then some "jitter_ms must be >= 0"
    else if outOfRange (params.getD "timeout_rate" (.int 0)) (1 : K) then
      some "timeout_rate must be in [0, 1]"
    else none
  else some ("unknown fault type: " ++ faultType)

/-! ### Calls -/

/-- The record under `fault:<type>`. -/
structure FaultRecord (K : Type) where
  type : String
  params : Dict
  injectedAt : K
  ttlSec : ℤ
  experimentId : String

/-- A fault key is given by its fault type. -/
inductive FaultOp (K : Type)
  | chaos (o : ChaosOp K)
  | getFault (faultType : String)
  | setexFault (faultType : String) (ttl : ℤ) (record : FaultRecord K)
  | deleteFaults (faultTypes : List String)
  | keysFaults
  | uniform (lo hi : K)

abbrev FaultOp.Ret {K : Type} : FaultOp K → Type
  | chaos o => o.Ret
  | getFault _ => Option (FaultRecord K)
  | setexFault _ _ _ => Unit
  | deleteFaults _ => ℕ
  | keysFaults => List String
  | uniform _ _ => K

abbrev FaultSig (K : Type) : Sig := ⟨FaultOp K, FaultOp.Ret⟩

/-- A program of the facade. -/
abbrev Faults (K α : Type) := Prog (FaultSig K) Exc α

namespace Faults

/-- A program of the chaos package. -/
def ofChaos {K α : Type} (p : Chaos K α) : Faults K α :=
  p.interp fun o => .perform (S := FaultSig K) (.chaos o)

def getFault {K : Type} (faultType : String) : Faults K (Option (FaultRecord K)) :=
  .perform (S := FaultSig K) (.getFault faultType)
def setexFault {K : Type} (faultType : String) (ttl : ℤ) (record : FaultRecord K) :
    Faults K Unit :=
  .perform (S := FaultSig K) (.setexFault faultType ttl record)
def deleteFaults {K : Type} (faultTypes : List String) : Faults K ℕ :=
  .perform (S := FaultSig K) (.deleteFaults faultTypes)
def keysFaults {K : Type} : Faults K (List String) := .perform (S := FaultSig K) .keysFaults
def uniform {K : Type} (lo hi : K) : Faults K K := .perform (S := FaultSig K) (.uniform lo hi)
def random {K : Type} : Faults K K := .perform (S := FaultSig K) (.chaos .random)
def sleep {K : Type} (seconds : K) : Faults K Unit := .perform (S := FaultSig K) (.chaos (.sleep seconds))

end Faults

/-- The answers of the environment; `spread` is what `random.uniform` draws. -/
structure FaultEnv (K : Type) extends ChaosEnv K where
  spread : ℕ → K → K → K

/-- The state of the chaos package, the fault keys, and how many spreads were drawn. -/
structure FaultState (K : Type) where
  chaos : ChaosState K
  faults : Listed String (fun _ => FaultRecord K) K
  spreads : ℕ

/-- One call. -/
def FaultState.serve (env : FaultEnv K) (s : FaultState K) :
    (o : FaultOp K) → Except Exc o.Ret × FaultState K
  | .chaos o => ((s.chaos.serve env.toChaosEnv o).1,
      { s with chaos := (s.chaos.serve env.toChaosEnv o).2 })
  | .getFault t => (.ok (s.faults.lookup s.chaos.now t), s)
  | .setexFault t ttl record =>
      if 0 < ttl then
        (.ok (), { s with faults := s.faults.put t record (some (s.chaos.now + ttl)) })
      else (.error .redisOther, s)
  | .deleteFaults ts =>
      (.ok (ts.countP fun t => (s.faults.lookup s.chaos.now t).isSome),
        { s with faults := s.faults.erase ts })
  | .keysFaults => (.ok (s.faults.keys s.chaos.now), s)
  | .uniform lo hi => (.ok (env.spread s.spreads lo hi), { s with spreads := s.spreads + 1 })

/-- The world: time goes on between the calls. -/
def faultWorld (env : FaultEnv K) : World (FaultSig K) Exc (FaultState K) where
  Choice := Unit
  Drift := K
  serve s o _ := some (s.serve env o)
  drift s t := if s.chaos.now ≤ t then some { s with chaos := { s.chaos with now := t } } else none

/-! ### Injectors -/

namespace FaultInjector

/-- `_should_drop`. -/
def shouldDrop (experiment : ChaosExperiment K) : Faults K Bool := do
  let rate : K ← Prog.ofExcept (pyFloat (Dict.getD experiment.params "drop_rate" (.num 0)))
  let sample ← Faults.random
  pure (decide (sample < rate))

/-- The jitter of `slow_db`. -/
def jitter (jitterMs : K) : Faults K K :=
  if 0 < jitterMs then Faults.uniform 0 (max jitterMs 0) else pure 0

/-- The delay of `slow_db`, where there is one. -/
def delay (experiment : ChaosExperiment K) (phase : String) (totalMs : K) : Faults K Unit :=
  if 0 < totalMs then do
    Faults.ofChaos (recordInjected experiment phase)
    Faults.sleep (totalMs / 1000)
  else pure ()

/-- What `legacy_apply` answers. -/
inductive Action
  | latency
  | drop
  | exception
deriving DecidableEq

/-- `legacy_apply`. -/
def legacyApply (experiment : ChaosExperiment K) : FaultInjector → Faults K (Option Action)
  | .latency => do
      Faults.ofChaos (FaultInjector.latency.beforeRequest experiment)
      pure (some .latency)
  | .exception => do
      Faults.ofChaos (recordInjected experiment "pre_request")
      pure (some .exception)
  | .drop => do
      let dropped ← shouldDrop experiment
      if dropped then do
        Faults.ofChaos (recordInjected experiment "pre_request")
        pure (some .drop)
      else pure none
  | .slowDb => do
      let baseMs : K ← Prog.ofExcept (pyFloat (Dict.getD experiment.params "base_ms" (.num 0)))
      let jitterMs : K ← Prog.ofExcept (pyFloat (Dict.getD experiment.params "jitter_ms" (.num 0)))
      let spread ← jitter jitterMs
      let totalMs := baseMs + spread
      delay experiment "pre_request" totalMs
      let sample ← Faults.random
      let timeoutRate : K ← Prog.ofExcept
        (pyFloat (Dict.getD experiment.params "timeout_rate" (.num 0)))
      if sample < timeoutRate then pure (some .drop)
      else pure (if 0 < totalMs then some .latency else none)

/-- `before_service`. -/
def beforeService (experiment : ChaosExperiment K) (stage : String) :
    FaultInjector → Faults K Unit
  | .exception =>
      if (Dict.getD experiment.target "phase" (.str "service")).pyStr ≠ stage then pure ()
      else do
        Faults.ofChaos (recordInjected experiment stage)
        throw (.chaosFault ⟨experiment.id, experiment.faultType, 500, "fault injected: " ++
          (Dict.getD experiment.params "error_type" (.str "runtime")).pyStr⟩)
  | .drop =>
      if (Dict.getD experiment.target "phase" (.str "service")).pyStr ≠ stage then pure ()
      else do
        let dropped ← shouldDrop experiment
        if dropped then do
          Faults.ofChaos (recordInjected experiment stage)
          throw (.chaosDrop ⟨experiment.id, experiment.faultType, 503, "fault injected: drop"⟩)
        else pure ()
  | _ => pure ()

/-- `before_store_call`. -/
def beforeStoreCall (experiment : ChaosExperiment K) (operation : String) :
    FaultInjector → Faults K Unit
  | .slowDb =>
      let targetOperation := Dict.get experiment.target "operation"
      if (Dict.getD experiment.target "phase" (.str "store")).pyStr ≠ "store" then pure ()
      else if targetOperation.truthy ∧ targetOperation ≠ .str operation then pure ()
      else do
        let baseMs : K ← Prog.ofExcept (pyFloat (Dict.getD experiment.params "base_ms" (.num 0)))
        let jitterMs : K ← Prog.ofExcept
          (pyFloat (Dict.getD experiment.params "jitter_ms" (.num 0)))
        let timeoutRate : K ← Prog.ofExcept
          (pyFloat (Dict.getD experiment.params "timeout_rate" (.num 0)))
        let spread ← jitter jitterMs
        delay experiment "store" (baseMs + spread)
        let sample ← Faults.random
        if sample < timeoutRate then do
          Faults.ofChaos (recordInjected experiment "store_timeout")
          throw .redisTimeout
        else pure ()
  | _ => pure ()

end FaultInjector

/-! ### Entry points of the chaos package -/

/-- `inject_service_faults`. -/
def injectServiceFaults (stage : String) : List (ChaosExperiment K) → Faults K Unit
  | [] => pure ()
  | experiment :: experiments => do
      let injector ← Prog.ofExcept (buildInjector experiment.faultType)
      injector.beforeService experiment stage
      injectServiceFaults stage experiments

/-- `inject_store_faults`. -/
def injectStoreFaults (operation : String) : List (ChaosExperiment K) → Faults K Unit
  | [] => pure ()
  | experiment :: experiments => do
      let injector ← Prog.ofExcept (buildInjector experiment.faultType)
      injector.beforeStoreCall experiment operation
      injectStoreFaults operation experiments

/-- `active.append`, unless an experiment of this id is there. -/
def addActive (experiment : ChaosExperiment K) (active : List (ChaosExperiment K)) :
    List (ChaosExperiment K) :=
  if active.all fun existing => existing.id ≠ experiment.id then active ++ [experiment] else active

/-- The loop of `apply_legacy_faults`, with the list it leaves in the request. -/
def applyEach (request : ChaosRequest) :
    List (ChaosExperiment K) → List (ChaosExperiment K) →
      Faults K (Option FaultInjector.Action × List (ChaosExperiment K))
  | [], active => pure (if active.isEmpty then none else some .latency, active)
  | experiment :: experiments, active =>
      if experiment.legacyApi = false then applyEach request experiments active
      else do
        let matched ← Faults.ofChaos (matchRequest experiment request)
        if matched then do
          let injector ← Prog.ofExcept (buildInjector experiment.faultType)
          let action ← injector.legacyApply experiment
          if action = some .drop ∨ action = some .exception then
            pure (action, addActive experiment active)
          else applyEach request experiments (addActive experiment active)
        else applyEach request experiments active

/-- `apply_legacy_faults`. -/
def applyLegacyFaults (request : ChaosRequest) (active : List (ChaosExperiment K)) :
    Faults K (Option FaultInjector.Action × List (ChaosExperiment K)) := do
  let experiments ← Faults.ofChaos (ChaosExperimentStore.listExperiments false)
  applyEach request experiments active

/-- What `list_legacy_faults` says of an experiment. -/
structure LegacyFault (K : Type) extends FaultRecord K where
  target : Dict
  status : String

/-- The record of an experiment. -/
def ChaosExperiment.record (experiment : ChaosExperiment K) : FaultRecord K where
  type := experiment.faultType
  params := experiment.params
  injectedAt := experiment.createdAt
  ttlSec := experiment.duration
  experimentId := experiment.id

/-- `list_legacy_faults`. -/
def listLegacyFaults : Chaos K (List (LegacyFault K)) := do
  let experiments ← ChaosExperimentStore.listExperiments false
  pure (experiments.map fun experiment =>
    { experiment.record with
      target := experiment.target
      status := experiment.status })

/-! ### The facade -/

namespace FaultInjection

/-- `inject_fault`. -/
def injectFault (settings : FaultSettings K) (faultType : String) (params : Dict)
    (ttlSec : Option ℤ) : Faults K (FaultRecord K) :=
  match validateFaultParams settings faultType params with
  | some _ => throw .valueError
  | none => do
      let experiment ← Faults.ofChaos
        (createLegacyExperiment settings.faultDefaultTtlSec faultType params ttlSec)
      let record := experiment.record
      Faults.setexFault faultType experiment.duration
        { record with params := record.params.stored }
      pure record

/-- `clear_fault`. -/
def clearFault (faultType : String) : Faults K Bool := do
  let deleted ← Faults.deleteFaults [faultType]
  let stopped ← Faults.ofChaos (stopLegacyFault faultType)
  pure (stopped || deleted != 0)

/-- `clear_all_faults`. -/
def clearAllFaults : Faults K ℕ := do
  let faultTypes ← Faults.keysFaults
  let deleted ← if faultTypes.isEmpty then pure 0 else Faults.deleteFaults faultTypes
  let stopped ← Faults.ofChaos stopAllExperiments
  pure (max deleted stopped)

/-- The loop of `list_faults`. -/
def readEach : List String → Faults K (List (FaultRecord K))
  | [] => pure []
  | faultType :: faultTypes => do
      let raw ← Faults.getFault faultType
      let rest ← readEach faultTypes
      match raw with
      | none => pure rest
      | some record => pure (record :: rest)

/-- `list_faults`: the records, or the running experiments where there is none. -/
def listFaults : Faults K (List (FaultRecord K) ⊕ List (LegacyFault K)) := do
  let faultTypes ← Faults.keysFaults
  let faults ← readEach (pySorted faultTypes)
  if faults.isEmpty then do
    let legacy ← Faults.ofChaos listLegacyFaults
    pure (.inr legacy)
  else pure (.inl faults)

/-- `get_fault`. -/
def getFault (faultType : String) : Faults K (Option (FaultRecord K)) := do
  let raw ← Faults.getFault faultType
  match raw with
  | some record => pure (some record)
  | none => do
      let _ ← Faults.ofChaos (stopLegacyFault faultType)
      pure none

/-- `prepare_request_experiments`. -/
def prepareRequestExperiments (settings : FaultSettings K) (request : ChaosRequest) :
    Faults K (List (ChaosExperiment K)) :=
  if settings.faultInjectionEnabled = false then pure []
  else Faults.ofChaos (ChaosDemo.prepareRequestExperiments request)

/-- `apply_faults`, with the list it leaves in the request. -/
def applyFaults (settings : FaultSettings K) (request : ChaosRequest)
    (active : List (ChaosExperiment K)) :
    Faults K (Option FaultInjector.Action × List (ChaosExperiment K)) :=
  if settings.faultInjectionEnabled = false then pure (none, active)
  else applyLegacyFaults request active

/-- `create_experiment`. -/
def createExperiment (settings : FaultSettings K) (name hypothesis : String) (target : Dict)
    (faultType : String) (params : Dict) (duration : ℤ) : Faults K (ChaosExperiment K) :=
  match validateFaultParams settings faultType params with
  | some _ => throw .valueError
  | none => Faults.ofChaos (ChaosDemo.createExperiment name hypothesis target faultType params
      duration none chaosStatusRunning false)

/-! ### The request hook -/

/-- Whether the hook lets the path pass without a look at the experiments. -/
def exempt (path : String) : Bool :=
  ["/fault", "/chaos", "/healthz", "/live", "/ready", "/metrics"].any fun start =>
    start.toList.isPrefixOf path.toList

/-- What the hook answers: nothing, a response with status 503, or a `RuntimeError`. -/
inductive HookOutcome
  | passed
  | dropped
  | raised (message : String)
deriving DecidableEq

/-- The chaos part of `before_request`, with the list it leaves in the request.  An
exception of the chaos package is logged. -/
def beforeRequest (settings : FaultSettings K) (request : ChaosRequest) :
    Faults K (List (ChaosExperiment K) × HookOutcome) :=
  if exempt request.path then pure ([], .passed)
  else do
    let prepared ← (prepareRequestExperiments settings request).attempt
    match prepared with
    | .error _ => pure ([], .passed)
    | .ok active => do
        let applied ← (applyFaults settings request active).attempt
        match applied with
        | .error _ => pure (active, .passed)
        | .ok (some .drop, active) => pure (active, .dropped)
        | .ok (some .exception, active) => do
            let fault ← (getFault "exception").attempt
            match fault with
            | .error _ => pure (active, .passed)
            | .ok fault =>
                let params := match fault with
                  | some record => record.params
                  | none => []
                pure (active, .raised ("fault injected: " ++
                  (Dict.getD params "error_type" (.str "runtime")).pyStr))
        | .ok (_, active) => pure (active, .passed)

end FaultInjection

end ChaosDemo
