/-
ChaosDemo/PlatformService.lean

The runtime of an agent and the service around it (ai_platform/agent/runtime.py,
ai_platform/core/service.py): the check of the request, the workflow, the evaluation of
the state it leaves, the quality gate, and the result.

The ids of traces are left out.  A run that raises keeps the state it began with; what
the nodes before had written is read by nothing after a failure.
-/
import ChaosDemo.Workflow
import ChaosDemo.Evaluation

namespace ChaosDemo

open CallTree

/-- What the platform takes from outside besides its calls. -/
structure PlatformEnv where
  text : TextEnv
  nodes : NodeEnv := {}

/-! ### The runtime -/

namespace AgentRuntime

/-- `run_state` after the check of the request. -/
def dispatch (env : PlatformEnv) (workflow : Workflow) (state : AgentState) :
    Platform AgentState := do
  let running : AgentState := { state with status := .running }
  let result ← (runNodes env.nodes workflow.ordered running).attempt
  match result with
  | .ok s => pure (if s.status = .failed then s else { s with status := .succeeded })
  | .error e => pure { running.setError e with status := .failed }

/-- The state of a request that the check blocked. -/
def blocked (state : AgentState) (r : SecurityResult) : AgentState :=
  ({ state.setError (.raised "SecurityBlockedError"
      ("Security blocked: " ++ ", ".intercalate r.violations)) with status := .failed } :
    AgentState).setMetadata "security_result" (.obj r.asDict)

/-- `run_state`. -/
def runState (env : PlatformEnv) (security : Option SecurityPolicy) (workflow : Workflow)
    (state : AgentState) : Platform AgentState :=
  match security with
  | none => dispatch env workflow state
  | some policy =>
      if policy.securityEnabled then
        let r := SecurityGuard.checkInput env.text policy state.request
        if r.passed then dispatch env workflow state else pure (blocked state r)
      else dispatch env workflow state

/-- `run`. -/
def run (env : PlatformEnv) (security : Option SecurityPolicy) (workflow : Workflow)
    (request : Json) (metadata : Dict) : Platform AgentState :=
  runState env security workflow { request, metadata := Dict.update [] metadata }

end AgentRuntime

/-! ### The service -/

/-- What `PlatformConfig` says about a run. -/
structure PlatformConfig where
  security : SecurityPolicy := {}
  mode : String := "rule"
  evaluationEnabled : Bool := false
  qualityGateEnabled : Bool := false

/-- `PlatformResult`. -/
structure PlatformResult where
  success : Bool
  answer : Json := .null
  score : Option ℚ := none
  securityScore : Json := .null
  evaluation : Option Dict := none
  gate : Option Dict := none
  error : Json := .null
  errorType : Json := .null
  violations : Json := .arr []
  metadata : Dict := []

/-- A score as a value. -/
def scoreValue : Option ℚ → Json
  | some q => .num q
  | none => .null

/-- `EvaluationResult.as_dict`. -/
def EvaluationResult.asDict (r : EvaluationResult) : Dict :=
  [("success", .bool r.success), ("score", scoreValue r.score), ("metrics", .obj r.metrics),
   ("details", .obj r.details), ("errors", .obj r.errors), ("metadata", .obj r.metadata),
   ("security_score", scoreValue r.securityScore)]

/-- `AIPlatformService`, as the factory puts it together: its runtime has the security
policy of the configuration. -/
structure AIPlatformService where
  config : PlatformConfig
  workflow : Workflow
  evaluation : Option (List (Evaluator AgentState)) := none
  gate : Option Thresholds := none

/-- `create_platform_service`. -/
def createPlatformService (config : PlatformConfig) (workflow : Workflow) (thresholds : Thresholds) :
    AIPlatformService where
  config := config
  workflow := workflow
  evaluation := if config.evaluationEnabled then some [] else none
  gate := if config.qualityGateEnabled then some thresholds else none

namespace AIPlatformService

/-- The result of a run that failed before it was evaluated. -/
def failure (state : AgentState) (mode : String) : PlatformResult :=
  match state.error with
  | some (f :: err) =>
      let err : Dict := f :: err
      if (err.get "type").pyEq (.str "SecurityBlockedError") then
        { success := false
          error := err.getD "message" (.str "Security blocked")
          errorType := .str "SecurityBlocked"
          violations :=
            match state.metadata.getD "security_result" (.obj []) with
            | .obj result => Dict.getD result "violations" (.arr [])
            | _ => .arr []
          securityScore := state.metadata.getD "security_score" (.int 0)
          metadata := [("mode", .str mode)] }
      else
        { success := false
          error := err.getD "message" (.str "Agent execution failed")
          errorType := err.getD "type" (.str "AgentError")
          metadata := [("mode", .str mode)] }
  | _ =>
      { success := false
        error := .str "Agent execution failed"
        errorType := .str "AgentError"
        metadata := [("mode", .str mode)] }

/-- `run` after an evaluation: `raw` is the result that carries nothing of it. -/
def gated (self : AIPlatformService) (raw : PlatformResult) (result : EvaluationResult) :
    PlatformResult :=
  let carried : PlatformResult :=
    { raw with
      score := result.score
      securityScore := scoreValue result.securityScore
      evaluation := some result.asDict }
  match self.gate with
  | none => raw
  | some thresholds =>
      -- without a gate the result of the evaluation is not handed on
      if self.config.qualityGateEnabled = false then raw
      else
        match QualityGate.assertPass thresholds result with
        | .error e =>
            { carried with
              success := false, error := .str e.text, errorType := .str "EvaluationFailed" }
        | .ok report => { carried with gate := some report }

/-- `run` from the evaluation on. -/
def evaluated (self : AIPlatformService) (state : AgentState) (mode : String) : PlatformResult :=
  let raw : PlatformResult :=
    { success := true, answer := state.answer, metadata := [("mode", .str mode)] }
  match self.evaluation with
  | none => raw
  | some evaluators =>
      if self.config.evaluationEnabled = false then raw
      else
        match EvaluationEngine.evaluate (fun s => some s.metadata) evaluators (.object state) with
        | .error e =>
            { raw with
              success := false, error := .str e.text, errorType := .str "EvaluationFailed" }
        | .ok result => self.gated raw result

/-- `effective_mode`. -/
def effectiveMode (self : AIPlatformService) (mode : Option String) : String :=
  match mode with
  | some m => if m ≠ "" then m else self.config.mode
  | none => self.config.mode

/-- `run`. -/
def run (self : AIPlatformService) (env : PlatformEnv) (request : Json) (mode : Option String)
    (metadata : Dict) : Platform PlatformResult := do
  let effectiveMode := self.effectiveMode mode
  let runtimeMetadata := Dict.update [("mode", .str effectiveMode)] metadata
  let result ←
    (AgentRuntime.run env (some self.config.security) self.workflow request runtimeMetadata).attempt
  match result with
  | .error e =>
      pure
        { success := false, error := .str e.text, errorType := .str e.typeName
          metadata := [("mode", .str effectiveMode)] }
  | .ok state =>
      if state.status = .failed then pure (failure state effectiveMode)
      else pure (self.evaluated state effectiveMode)

end AIPlatformService

end ChaosDemo
