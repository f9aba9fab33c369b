/-
ChaosDemo/Evaluation.lean

The evaluation engine and the quality gate (ai_platform/evaluation: result.py,
engine, gate.py).  The engine merges the results of its evaluators one after the
other; `merge` puts each key of a result under the name of its evaluator, unless that
name is empty.  The gate looks six metrics up by their bare names.

The events that both record for the trace are left out.
-/
import ChaosDemo.Builtins

namespace ChaosDemo

/-! ### Results -/

/-- `EvaluationResult`. -/
structure EvaluationResult where
  success : Bool
  score : Option ℚ := none
  metrics : Dict := []
  details : Dict := []
  errors : Dict := []
  metadata : Dict := []
  securityScore : Option ℚ := none

/-- `a`, `b` or `f a b`, whichever there is. -/
def mergeOption (f : ℚ → ℚ → ℚ) : Option ℚ → Option ℚ → Option ℚ
  | a, none => a
  | none, some b => some b
  | some a, some b => some (f a b)

/-- A dictionary's items, their keys behind `namespace.`. -/
def Dict.prefixed (space : String) (d : Dict) : Dict := d.map fun f => (space ++ "." ++ f.1, f.2)

/-- `merge`; an empty name counts as no name. -/
def EvaluationResult.merge (self other : EvaluationResult) (space : String) :
    EvaluationResult where
  success := self.success && other.success
  score := mergeOption (fun a b => (a + b) / 2) self.score other.score
  metrics :=
    if space ≠ "" then Dict.update self.metrics (Dict.prefixed space other.metrics)
    else Dict.update self.metrics other.metrics
  details :=
    if space ≠ "" then Dict.set self.details space (.obj other.details)
    else Dict.update self.details other.details
  errors :=
    if space ≠ "" then
      if other.errors ≠ [] then Dict.set self.errors space (.obj other.errors) else self.errors
    else Dict.update self.errors other.errors
  metadata :=
    if space ≠ "" then Dict.set self.metadata space (.obj other.metadata)
    else Dict.update self.metadata other.metadata
  securityScore := mergeOption min self.securityScore other.securityScore

/-! ### The engine -/

/-- What is evaluated: nothing, a batch as a dictionary, or an object of a class `Ω`. -/
inductive AgentOutput (Ω : Type)
  | none
  | dict (fields : Dict)
  | object (o : Ω)

/-- A `BaseEvaluator`. -/
structure Evaluator (Ω : Type) where
  name : String
  evaluate : AgentOutput Ω → Except PyError EvaluationResult

/-- `_RISK_SCORES`. -/
def riskScores : List (String × ℚ) :=
  [("none", 100), ("low", 85), ("medium", 60), ("high", 30), ("critical", 0)]

/-- `_risk_to_score`. -/
def riskToScore (passed riskLevel : Json) : Except PyError ℚ :=
  if passed.truthy then .ok 100
  else
    match riskLevel with
    | .str level => .ok ((riskScores.lookup level).getD 50)
    | level => if level.hashable then .ok 50 else .error .typeError

section Engine

-- `o.metadata`, where the object has one that is a dictionary
variable {Ω : Type} (metadataOf : Ω → Option Dict)

/-- `_extract_security_score`. -/
def extractSecurityScore : AgentOutput Ω → Except PyError (Option ℚ)
  | .object o =>
      match metadataOf o with
      | some metadata =>
          match metadata.get "security_result" with
          | .obj (f :: fs) =>
              (riskToScore (Dict.getD (f :: fs) "passed" (.bool true))
                (Dict.getD (f :: fs) "risk_level" (.str "none"))).map some
          | _ =>
              match metadata.get "security_score" with
              | .null => .ok none
              | score => score.toFloat.map some
      | none => .ok none
  | _ => .ok none

/-- The loop of `EvaluationEngine.evaluate`. -/
def evaluateEach (agentOutput : AgentOutput Ω) :
    List (Evaluator Ω) → EvaluationResult → Except PyError EvaluationResult
  | [], combined => .ok combined
  | evaluator :: evaluators, combined => do
      let result ← evaluator.evaluate agentOutput
      evaluateEach agentOutput evaluators (combined.merge result evaluator.name)

/-- The security score in the result, or that there is none. -/
def EvaluationResult.assessed (combined : EvaluationResult) : Option ℚ → EvaluationResult
  | some score =>
      { combined with
        metrics := (Dict.set combined.metrics "security_score" (.num score)).set
          "security_assessed" (.bool true)
        securityScore := some score }
  | none => { combined with metrics := combined.metrics.set "security_assessed" (.bool false) }

/-- `EvaluationEngine.evaluate`. -/
def EvaluationEngine.evaluate (evaluators : List (Evaluator Ω)) (agentOutput : AgentOutput Ω) :
    Except PyError EvaluationResult := do
  let combined ← evaluateEach agentOutput evaluators { success := true }
  let score ← extractSecurityScore metadataOf agentOutput
  pure (combined.assessed score)

end Engine

/-! ### The gate -/

/-- The thresholds of a `QualityGate`. -/
abbrev Thresholds := List (String × ℚ)

/-- `thresholds[k]`. -/
def Thresholds.item (g : Thresholds) (k : String) : Except PyError ℚ :=
  match g.lookup k with
  | some bound => .ok bound
  | none => .error (.keyError k)

/-- One comparison of `_assert`. -/
structure GateCheck where
  metric : String
  threshold : String
  -- whether the threshold is a maximum
  isMax : Bool
  -- the value of a report that lacks the metric
  fallback : Option Json
  format : ℚ → String

namespace GateCheck

/-- `report[metric]` or `report.get(metric, fallback)`. -/
def value (c : GateCheck) (report : Dict) : Except PyError Json :=
  match c.fallback with
  | some v => .ok (report.getD c.metric v)
  | none => report.item c.metric

def message (c : GateCheck) (value bound : ℚ) : String :=
  c.metric ++ " too " ++ (if c.isMax then "high" else "low") ++ ": " ++ c.format value ++
    " (" ++ (if c.isMax then "max " else "min ") ++ c.format bound ++ ")"

/-- Whether a value is out of bounds. -/
def breaks (c : GateCheck) (value bound : ℚ) : Bool :=
  if c.isMax then bound < value else value < bound

def run (c : GateCheck) (g : Thresholds) (report : Dict) : Except PyError Unit := do
  let v ← c.value report
  let bound ← g.item c.threshold
  let q ← v.numeric
  if c.breaks q bound then .error (.agentGateError (c.message q bound)) else .ok ()

end GateCheck

/-- The comparisons of `_assert`, in order. -/
def gateChecks : List GateCheck :=
  [{ metric := "tool_selection_accuracy", threshold := "tool_selection_accuracy_min",
     isMax := false, fallback := none, format := pyPercent },
   { metric := "arg_accuracy", threshold := "arg_accuracy_min",
     isMax := false, fallback := none, format := pyPercent },
   { metric := "avg_tool_calls_per_task", threshold := "avg_tool_calls_per_task_max",
     isMax := true, fallback := none, format := pyFixed },
   { metric := "retry_rate", threshold := "retry_rate_max",
     isMax := true, fallback := none, format := pyPercent },
   { metric := "hallucination_rate", threshold := "hallucination_rate_max",
     isMax := true, fallback := none, format := pyPercent },
   { metric := "planner_invalid_rate", threshold := "planner_invalid_rate_max",
     isMax := true, fallback := some (.int 0), format := pyPercent }]

/-- `_assert`, on the checks that are left. -/
def runChecks (g : Thresholds) (report : Dict) : List GateCheck → Except PyError Unit
  | [] => .ok ()
  | c :: checks => do
      c.run g report
      runChecks g report checks

/-- `assert_pass`. -/
def QualityGate.assertPass (g : Thresholds) (result : EvaluationResult) :
    Except PyError Dict := do
  runChecks g result.metrics gateChecks
  pure result.metrics

end ChaosDemo
