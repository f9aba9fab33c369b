/-
ChaosDemo/ExperimentFile.lean

The loader of experiment definitions and what `run_compare` makes of one
(agent-eval/scripts/run_experiment.py).

A definition is checked key by key; what its numbers and texts are is whatever `float` and
`str` make of the values in the file.  The threshold keys are a set, whose order differs
from run to run.  The values of decimal digits outside ASCII are a parameter.

The environment of the process, to which `run_compare` adds its settings, and the time that
it gives to the command are left out.
-/
import ChaosDemo.PolicyFile
import ChaosDemo.Report

namespace ChaosDemo

variable {N : Type}

/-! ### Numbers -/

/-- A float has a bound, and what is rounded beyond it is infinite. -/
def PyFloat.rounded : PyFloat → PyFloat
  | .fin q => if |q| < floatLimit then .fin q else .inf (q < 0)
  | x => x

/-- `int(x)`. -/
def PyFloat.toInt : PyFloat → Except PyError ℤ
  | .fin q => .ok (pyInt q)
  | .inf _ => .error overflowError
  | .nan => .error .valueError

/-- The text with its decimal digits in ASCII. -/
def asciiDigits (digit : Char → Option ℕ) (text : String) : String :=
  String.ofList (text.toList.map fun c =>
    if c.toNat < 128 then c else (digit c).elim c fun d => Char.ofNat (48 + d))

/-- `float(b)`; of the characters that end a text, those from 28 to 31 are no blanks here. -/
def bytesToFloat (b : List UInt8) : Option PyFloat :=
  if b.all fun c => c.toNat < 128 && !(28 ≤ c.toNat && c.toNat ≤ 31) then
    (pyFloatText (String.ofList (b.map fun c => Char.ofNat c.toNat))).map PyFloat.rounded
  else none

/-- `float(v)`. -/
def YamlNode.toFloat (digit : Char → Option ℕ) : YamlNode N → Except PyError PyFloat
  | .scalar (.bool b) => .ok (.fin (if b then 1 else 0))
  | .scalar (.int i) => intToFloat i
  | .scalar (.num q) => .ok (PyFloat.fin q).rounded
  | .scalar (.inf negative) => .ok (.inf negative)
  | .scalar .nan => .ok .nan
  | .scalar (.str s) =>
      ((pyFloatText (asciiDigits digit s)).map PyFloat.rounded).elim (.error .valueError) .ok
  | .scalar (.bytes b) => (bytesToFloat b).elim (.error .valueError) .ok
  | _ => .error .typeError

/-- `str(x)` of a float. -/
def Yaml.floatStr (doc : Yaml N) : PyFloat → String
  | .fin q => doc.scalarRepr (.num q)
  | .inf negative => doc.scalarRepr (.inf negative)
  | .nan => doc.scalarRepr .nan

/-! ### Keys and words -/

/-- `_TOP_LEVEL_KEYS`. -/
def experimentTopLevelKeys : List String :=
  ["version", "name", "description", "steady_state", "method", "tolerance", "rollback"]

/-- `_STEADY_STATE_KEYS`. -/
def steadyStateKeys : List String :=
  ["tool_selection_accuracy_min", "arg_accuracy_min", "retry_rate_max"]

/-- An order in which the threshold keys are gone through. -/
structure KeyOrder where
  keys : List String
  perm : keys.Perm steadyStateKeys

/-- `_METHOD_KEYS`. -/
def methodKeys : List String := ["mode", "experiment"]

/-- `_EXPERIMENT_KEYS`. -/
def experimentKeys : List String := ["chaos", "fail_rate", "latency_ms"]

/-- `_MODES`. -/
def experimentModes : List String := ["rule", "ollama", "llm"]

/-- The kinds of chaos. -/
def chaosKinds : List String := ["latency", "error", "mixed"]

/-- `_TOLERANCE_ENV`, for the environment variables of the tolerances. -/
def toleranceVariables : List (String × String) :=
  [("token_surge_max", "CHAOS_TOKEN_SURGE_MAX"), ("retry_surge_max", "CHAOS_RETRY_SURGE_MAX"),
   ("fail_path_token_surge_max", "CHAOS_FAIL_PATH_TOKEN_SURGE_MAX")]

/-- `_TOLERANCE_KEYS`. -/
def toleranceKeys : List String :=
  ["token_surge_max", "retry_surge_max", "fail_path_token_surge_max"]

/-- `_ROLLBACK_KEYS`. -/
def rollbackKeys : List String := ["fault_ttl_sec"]

/-! ### Errors -/

/-- `ExperimentDefinitionError`, or an exception of Python that gets through. -/
inductive DefinitionError
  | definition (message : String)
  | escaped (e : PyError)

/-- `raise ExperimentDefinitionError(message)`. -/
def definitionError {α : Type} (message : String) : Except DefinitionError α :=
  .error (.definition message)

/-- A built-in operation whose exception nothing catches. -/
def uncaught {α : Type} (x : Except PyError α) : Except DefinitionError α :=
  x.mapError .escaped

/-! ### The definition -/

/-- A definition as it is returned.  What stands under `chaos` is not written again. -/
structure Experiment (N : Type) where
  version : YamlNode N
  name : String
  description : String
  steadyState : List (String × PyFloat)
  mode : String
  chaos : Option (YamlNode N)
  failRate : PyFloat
  latencyMs : ℤ
  tolerance : List (YamlScalar × PyFloat)
  faultTtlSec : Option ℤ
  source : String

section Loader

variable (doc : Yaml N)

/-- The keys that are not known, in an error. -/
def checkKeys (m : Mapping N) (allowed : List String) (what : String) :
    Except DefinitionError Unit :=
  if m.keysBesides allowed ≠ [] then do
    let keys ← uncaught (doc.sortedRepr (m.keysBesides allowed))
    definitionError s!"{what}: {keys}"
  else pure ()

/-- `_validate_section`. -/
def validateSection (raw : YamlNode N) (allowed : List String) (name : String)
    (required : Bool) : Except DefinitionError (Mapping N) :=
  match raw with
  | .scalar .null =>
      if required then definitionError s!"missing required section: {name}" else pure .empty
  | .mapping m => do
      checkKeys doc m allowed s!"unknown keys in {name}"
      pure m
  | _ => definitionError s!"{name} must be a mapping"

/-- The test of the version. -/
def checkVersion (v : YamlNode N) : Except DefinitionError Unit :=
  if v.supportedVersion = true then pure ()
  else do
    let shown ← uncaught (doc.reprOf v)
    definitionError s!"unsupported version {shown}"

/-- The name, stripped. -/
def experimentName (v : YamlNode N) : Except DefinitionError String := do
  let name ← uncaught (doc.strOf v)
  if pyStrip name = "" then definitionError "experiment name must not be empty"
  else pure (pyStrip name)

/-- The text of a value that must be one of some words. -/
def wordOf (v : YamlNode N) (words : List String) (what : String) :
    Except DefinitionError String := do
  let text ← uncaught (doc.strOf v)
  if text ∈ words then pure text
  else
    let known := "|".intercalate words
    definitionError s!"{what} must be {known}, got {doc.scalarRepr (.str text)}"

variable (digit : Char → Option ℕ)

/-- `_as_float`. -/
def asFloat (v : YamlNode N) (name : String) : Except DefinitionError PyFloat :=
  match v.toFloat digit with
  | .ok x => .ok x
  | .error .typeError => do
      let shown ← uncaught (doc.reprOf v)
      definitionError s!"{name} must be numeric, got {shown}"
  | .error .valueError => do
      let shown ← uncaught (doc.reprOf v)
      definitionError s!"{name} must be numeric, got {shown}"
  | .error e => .error (.escaped e)

/-- `int(_as_float(…))`. -/
def asInt (v : YamlNode N) (name : String) : Except DefinitionError ℤ := do
  let x ← asFloat doc digit v name
  uncaught x.toInt

/-- One threshold of the steady state. -/
def thresholdOf (steadyState : Mapping N) (key : String) :
    Except DefinitionError (String × PyFloat) :=
  match steadyState.get? key with
  | none => definitionError s!"steady_state.{key} is required"
  | some v => do
      let x ← asFloat doc digit (doc.node v) s!"steady_state.{key}"
      pure (key, x)

/-- One tolerance. -/
def toleranceOf (f : YamlScalar × N) : Except DefinitionError (YamlScalar × PyFloat) := do
  let key ← uncaught (doc.keyStr f.1)
  let x ← asFloat doc digit (doc.node f.2) s!"tolerance.{key}"
  pure (f.1, x)

/-- The time to live of the faults, if there is one. -/
def faultTtlOf (rollback : Mapping N) : Except DefinitionError (Option ℤ) :=
  match rollback.get? "fault_ttl_sec" with
  | none => pure none
  | some v => do
      let ttl ← asInt doc digit (doc.node v) "rollback.fault_ttl_sec"
      pure (some ttl)

/-- `m.get(k)`. -/
def Yaml.entry (m : Mapping N) (k : String) : YamlNode N := doc.get m k (.scalar .null)

/-- `load_experiment`. -/
def loadExperiment (order : KeyOrder) (path : String) :
    PolicyText N → Except DefinitionError (Experiment N)
  | .missing => definitionError s!"experiment definition not found: {path}"
  | .invalid exc => definitionError s!"invalid YAML in {path}: {exc}"
  | .loaded (.mapping raw) => do
      checkKeys doc raw experimentTopLevelKeys "unknown top-level keys"
      checkVersion doc (doc.entry raw "version")
      let name ← experimentName doc (doc.get raw "name" (.text ""))
      let steady ←
        validateSection doc (doc.entry raw "steady_state") steadyStateKeys "steady_state" true
      let steadyState ← order.keys.mapM (thresholdOf doc digit steady)
      let method ← validateSection doc (doc.entry raw "method") methodKeys "method" true
      let mode ← wordOf doc (doc.get method "mode" (.text "rule")) experimentModes "method.mode"
      let experiment ← validateSection doc (doc.entry method "experiment") experimentKeys
        "method.experiment" true
      let _ ← wordOf doc (doc.get experiment "chaos" (.text "mixed")) chaosKinds
        "method.experiment.chaos"
      let failRate ← asFloat doc digit (doc.get experiment "fail_rate" (.scalar (.num 0)))
        "method.experiment.fail_rate"
      let latencyMs ← asInt doc digit (doc.get experiment "latency_ms" (.scalar (.int 0)))
        "method.experiment.latency_ms"
      let tolerances ←
        validateSection doc (doc.entry raw "tolerance") toleranceKeys "tolerance" true
      let tolerance ← tolerances.fields.mapM (toleranceOf doc digit)
      let rollback ←
        validateSection doc (doc.entry raw "rollback") rollbackKeys "rollback" false
      let faultTtlSec ← faultTtlOf doc digit rollback
      let description ← uncaught (doc.strOf (doc.get raw "description" (.text "")))
      pure
        { version := doc.entry raw "version", name, description, steadyState, mode
          chaos := (experiment.get? "chaos").map doc.node, failRate, latencyMs, tolerance
          faultTtlSec, source := path }
  | .loaded _ => definitionError s!"experiment definition {path} must be a mapping"

end Loader

/-! ### The command -/

/-- A command: its arguments behind the script, and what is set in its environment. -/
structure CompareCommand where
  arguments : List String
  environment : List (String × String)

/-- `exp["chaos"]`. -/
def Experiment.chaosItem (e : Experiment N) : Except PyError (YamlNode N) :=
  match e.chaos with
  | some v => .ok v
  | none => .error (.keyError "chaos")

/-- `run_compare`, up to the command. -/
def compareCommand (doc : Yaml N) (e : Experiment N) : Except PyError CompareCommand := do
  let tolerances := toleranceVariables.filterMap fun f =>
    (e.tolerance.lookup (.str f.1)).map fun x => (f.2, doc.floatStr x)
  let chaos ← doc.strOf (← e.chaosItem)
  let latencyMs ← intRepr e.latencyMs
  pure
    { arguments := ["--chaos", chaos, "--fail-rate", doc.floatStr e.failRate,
        "--latency-ms", latencyMs]
      environment := ("AGENT_MODE", e.mode) :: tolerances }

end ChaosDemo
