/-
ChaosDemo/Workflow.lean

The nodes of a workflow and the engine that runs them (ai_platform/workflow,
ai_platform/tools/executor.py).  A `ToolExecutor` decides on a call before it makes it:
`decide` is that part of `execute`, and `settle` the part after the tool's reply.

Events for the trace, the context that is handed through, and the legacy modules whose
functions are the nodes' defaults are left out; a node's functions are calls of
`PlatformSig`.
-/
import ChaosDemo.AgentState
import ChaosDemo.Security

namespace ChaosDemo

open CallTree

/-! ### Tools -/

/-- The types that a schema names. -/
inductive PyType
  | str
  | int
  | float
  | bool
  | dict
  | list
deriving DecidableEq

/-- `isinstance(v, t)`. -/
def PyType.accepts : PyType → Json → Bool
  | .str, .str _ => true
  | .int, .int _ => true
  | .int, .bool _ => true
  | .float, .num _ => true
  | .bool, .bool _ => true
  | .dict, .obj _ => true
  | .list, .arr _ => true
  | _, _ => false

def PyType.name : PyType → String
  | .str => "str"
  | .int => "int"
  | .float => "float"
  | .bool => "bool"
  | .dict => "dict"
  | .list => "list"

/-- `type(v).__name__`. -/
def Json.typeName : Json → String
  | .null => "NoneType"
  | .bool _ => "bool"
  | .int _ => "int"
  | .num _ => "float"
  | .str _ => "str"
  | .arr _ => "list"
  | .obj _ => "dict"

/-- A field of a tool's schema. -/
structure FieldSpec where
  required : Bool := false
  type : Option PyType := none

/-- A registered tool, by its schema. -/
abbrev ToolSchema := List (String × FieldSpec)

/-- `ToolExecutor`; the registry lists the schema of each tool. -/
structure ToolExecutor where
  registry : List (String × ToolSchema)
  metadata : Dict := []
  security : Option SecurityPolicy := none

/-- `_validate_params`. -/
def validateParams (params : Dict) : ToolSchema → Except PyError Unit
  | [] => .ok ()
  | (field, spec) :: schema =>
      if spec.required ∧ params.has field = false then
        .error (.raised "ToolValidationError" ("Missing required param: " ++ field))
      else
        match spec.type with
        | some t =>
            if params.has field ∧ t.accepts (params.get field) = false then
              .error (.raised "ToolValidationError" ("Param '" ++ field ++ "' expected " ++
                t.name ++ ", got " ++ (params.get field).typeName))
            else validateParams params schema
        | none => validateParams params schema

/-- `PermissionChecker.check(tool_name)` for the name in a plan, which need not be a text. -/
def checkToolName (policy : SecurityPolicy) (toolName : Json) : Except PyError SecurityResult :=
  match toolName with
  | .str name => .ok (PermissionChecker.check policy name none)
  | v =>
      if policy.securityEnabled = false ∨ policy.toolPermissionEnabled = false then
        .ok (.pass "permission_checker" [])
      else
        match (policy.effectiveRole none).map fun name => (name, policy.roles.lookup name) with
        | some (name, none) =>
            .ok (.block "high" ["unknown_role: " ++ name] "permission_checker"
              [("tool_name", v), ("role", .str name), ("reason", .str "fail_closed_unknown_role")])
        | found =>
            let allowed :=
              match found with
              | some (_, some toolRole) => policy.allowedWith toolRole
              | _ => policy.allowedTools
            if v.hashable = false then .error .typeError
            else if allowed ≠ [] then
              .ok (.block "high" ["tool_not_allowed: " ++ v.pyStr] "permission_checker"
                [("tool_name", v), ("reason", .str "not_in_allowlist"),
                 ("allowed_tools", .arr (allowed.map Json.str))])
            else .ok (.pass "permission_checker" [("tool_name", v)])

/-- The result of a call that raised. -/
def failedCall (toolName : Json) (e : PyError) : ToolExecutionResult where
  tool := toolName
  ok := false
  error := .str e.text
  metadata := [("response_text", .str "参数不足或请求不合理，请补充信息。")]

/-- What `execute` does once the permission is given. -/
def ToolExecutor.prepare (self : ToolExecutor) (toolName : Json) (params : Dict) :
    ToolExecutionResult ⊕ (String × Dict) :=
  match toolName with
  | .str name =>
      match self.registry.lookup name with
      | none =>
          .inl (failedCall toolName
            (.raised "ToolNotFoundError" ("Tool not registered: " ++ name)))
      | some schema =>
          match validateParams params schema with
          | .error e => .inl (failedCall toolName e)
          | .ok () => .inr (name, params)
  | v =>
      if v.hashable then
        .inl (failedCall toolName
          (.raised "ToolNotFoundError" ("Tool not registered: " ++ v.pyStr)))
      else .inl (failedCall toolName .typeError)

/-- `execute` up to the call of the tool: a result without a call, or the call. -/
def ToolExecutor.decide (self : ToolExecutor) (toolName : Json) (params : Dict) :
    Except PyError (ToolExecutionResult ⊕ (String × Dict)) :=
  match self.security with
  | none => .ok (self.prepare toolName params)
  | some policy => do
      let perm ← checkToolName policy toolName
      if perm.passed then pure (self.prepare toolName params)
      else
        pure (.inl
          { tool := toolName
            ok := false
            error := .str ("Tool blocked: " ++ ", ".intercalate perm.violations)
            metadata := [("security", .obj perm.asDict)] })

/-- `execute` after the reply of the tool. -/
def settle (name : String) : Except PyError ToolReply → ToolExecutionResult
  | .ok (.result r) => r
  | .ok (.raw v) =>
      { tool := .str name, ok := true, result := v
        attempts := [[("tool", .str name), ("result", v)]] }
  | .error e => failedCall (.str name) e

/-- `ToolExecutor.execute`. -/
def ToolExecutor.execute (self : ToolExecutor) (toolName : Json) (params : Dict) :
    Platform ToolExecutionResult :=
  match self.decide toolName params with
  | .error e => .raise e
  | .ok (.inl result) => .ret result
  | .ok (.inr (name, params)) => do
      let reply ← (Platform.tool name params).attempt
      pure (settle name reply)

/-- The schemas of `build_legacy_registry`. -/
def legacyRegistry : List (String × ToolSchema) :=
  [("place_order",
      [("item_name", { required := true, type := some .str }),
       ("quantity", { required := true, type := some .int }),
       ("address", { required := true, type := some .str })]),
   ("query_order", [("order_id", { required := true, type := some .str })]),
   ("cancel_order", [("order_id", { required := true, type := some .str })]),
   ("ask_user", [("reason", { required := false, type := some .str })])]

/-! ### Nodes -/

/-- The environment variables that the nodes read. -/
structure NodeEnv where
  agentMode : String := "rule"
  llmProvider : String := "ollama_generate"
  tokenMetric : String := "auto"

/-- `_request_text`. -/
def nodeRequestText : Json → String
  | .str s => s
  | .obj fields => (Dict.getD fields "input" (.str "")).pyStr
  | v => v.pyStr

/-- `PlannerNode`. -/
structure PlannerNode where
  agentMode : Option String := none
  plannerModel : String := "qwen2.5:7b"

/-- What the planner is asked for first, and what it gives. -/
structure Planned where
  plan : Dict
  llmMeta : Dict
  fallback : Bool
  state : AgentState

def noLlmMeta : Dict :=
  [("llm_prompt_tokens", .null), ("llm_completion_tokens", .null), ("llm_total_tokens", .null)]

/-- The mode of a run: the node's own, the request's, or the environment's. -/
def PlannerNode.mode (self : PlannerNode) (env : NodeEnv) (state : AgentState) : String :=
  match self.agentMode with
  | some mode => if mode ≠ "" then mode else ((state.metadata.get "agent_mode").orElse
      (.str env.agentMode)).pyStr
  | none => ((state.metadata.get "agent_mode").orElse (.str env.agentMode)).pyStr

/-- The plan before it is validated. -/
def PlannerNode.ask (self : PlannerNode) (env : NodeEnv) (useLlm : Bool) (text : String)
    (state : AgentState) : Platform Planned :=
  if useLlm then do
    let reply ← (Platform.planner text).attempt
    match reply with
    | .ok (plan, llmMeta) =>
        pure
          { plan, llmMeta
            fallback := false
            state := state.addLlmCall env.llmProvider self.plannerModel text
              (Dict.update [("caller", .str "planner_node")] llmMeta) }
    | .error _ => do
        let plan ← Platform.rulePlanner text
        pure { plan, llmMeta := noLlmMeta, fallback := true, state }
  else do
    let plan ← Platform.rulePlanner text
    pure { plan, llmMeta := noLlmMeta, fallback := false, state }

/-- `plan.get("_planner_valid", True)`, as a truth value. -/
def plannerValid (plan : Dict) : Bool := (plan.getD "_planner_valid" (.bool true)).truthy

/-- The plan that is kept, and whether it is a fallback: with a model the validator has
the last word. -/
def Planned.validated (planned : Planned) (useLlm : Bool) : Platform (Dict × Bool) :=
  if useLlm then do
    let plan ← Platform.validator planned.plan
    pure <|
      if plannerValid planned.plan && plannerValid plan then (plan, planned.fallback)
      else
        ([("tool", .str "ask_user"),
          ("args", .obj [("reason", .str "planner output invalid")]),
          ("_planner_valid", .bool false)], true)
  else pure (planned.plan, planned.fallback)

/-- `PlannerNode.execute`. -/
def PlannerNode.execute (self : PlannerNode) (env : NodeEnv) (state : AgentState) :
    Platform AgentState := do
  let mode := self.mode env state
  let useLlm : Bool := mode = "ollama" ∨ mode = "llm"
  let planned ← self.ask env useLlm (nodeRequestText state.request) state
  let (plan, fallback) ← planned.validated useLlm
  pure (((((planned.state.setPlan plan).setMetadata "agent_mode" (.str mode)).setMetadata
    "planner_valid" (.bool (plannerValid plan))).setMetadata
    "planner_fallback" (.bool fallback)).setMetadata "llm_meta" (.obj planned.llmMeta))

/-- `ToolNode`, by its executor. -/
structure ToolNode where
  executor : ToolExecutor

/-- `ToolNode()`: an executor over the legacy tools, without a policy. -/
def ToolNode.default (chaosMode : Json) : ToolNode where
  executor := { registry := legacyRegistry, metadata := [("chaos_mode", chaosMode)] }

/-- The variables of the loop of `ToolNode.execute`. -/
structure ToolLoop where
  state : AgentState
  calledTools : List Json := []
  calledArgs : Dict := []
  retryCount : ℤ := 0
  finalResponse : String := "已处理。"

/-- The steps of a plan. -/
def planSteps (plan : Json) : Except PyError (List Json) :=
  match plan with
  | .obj fields =>
      if (Dict.get fields "tool").pyEq (.str "workflow") then (Dict.get fields "steps").iter
      else .ok [plan]
  | _ =>
      .error (.raised "ValueError" "AgentState.plan must be a dict before ToolNode executes")

/-- The tool of a step, and its arguments where they are a dictionary. -/
def stepCall (step : Json) : Except PyError (Json × Dict) :=
  match step with
  | .obj fields =>
      .ok (Dict.getD fields "tool" (.str "ask_user"),
        ((Dict.getD fields "args" (.obj [])).dict?).getD [])
  | _ => .error .attributeError

/-- The text that a result leaves as the answer. -/
def ToolExecutionResult.responseText (r : ToolExecutionResult) (text : String) : String :=
  (r.metadata.getD "response_text" (.str text)).pyStr

/-- `int(metadata.get("retry_count", 0) or 0)`. -/
def ToolExecutionResult.retries (r : ToolExecutionResult) : Except PyError ℤ :=
  match ((r.metadata.get "retry_count").orElse (.int 0)).toInt? with
  | some n => .ok n
  | none => .error .typeError

/-- A step's turn of the loop, after the execution. -/
def ToolLoop.record (l : ToolLoop) (tool : Json) (args : Dict) (r : ToolExecutionResult) :
    Except PyError ToolLoop := do
  let state :=
    if r.attempts = [] then l.state.addToolResult tool r.result r.error
    else r.attempts.foldl (fun s attempt =>
      s.addToolResult (.str (attempt.getD "tool" tool).pyStr) (attempt.get "result")
        (attempt.get "error")) l.state
  let retries ← r.retries
  pure
    { state
      calledTools := l.calledTools ++ [tool]
      calledArgs := l.calledArgs.update args
      retryCount := l.retryCount + retries
      finalResponse := r.responseText l.finalResponse }

/-- The loop of `ToolNode.execute`. -/
def ToolNode.steps (self : ToolNode) : List Json → ToolLoop → Platform ToolLoop
  | [], l => .ret l
  | step :: rest, l => do
      let (tool, args) ← Prog.ofExcept (stepCall step)
      let r ← self.executor.execute tool args
      let l ← Prog.ofExcept (l.record tool args r)
      self.steps rest l

/-- The tokens of a run and where the number is from. -/
def tokenUsage (env : NodeEnv) (llmTotal : Json) (estimated : ℤ) : Except PyError (ℤ × String) :=
  let metric := env.tokenMetric
  let counted (source : String) : Except PyError (ℤ × String) :=
    match llmTotal.toInt? with
    | some n => .ok (n, source)
    | none => .error .typeError
  if metric = "estimated" then .ok (estimated, "estimated")
  else if metric = "llm" then
    if llmTotal = .null then .ok (estimated, "estimated_fallback") else counted "ollama"
  else if llmTotal = .null then .ok (estimated, "estimated")
  else counted "ollama"

/-- What `ToolNode.execute` writes after its loop. -/
def ToolNode.finish (self : ToolNode) (env : NodeEnv) (l : ToolLoop) :
    Except PyError AgentState := do
  let state := l.state.setAnswer (.str l.finalResponse)
  let llmTotal ← (state.metadata.getD "llm_meta" (.obj [])).getAttr "llm_total_tokens"
  let promptTokens ← (state.metadata.getD "llm_meta" (.obj [])).getAttr "llm_prompt_tokens"
  let completionTokens ←
    (state.metadata.getD "llm_meta" (.obj [])).getAttr "llm_completion_tokens"
  let estimated : ℤ := max 60 ((nodeRequestText state.request).length * 3 +
    l.finalResponse.length * 2 + l.retryCount * 25 + l.calledTools.length * 30)
  let (tokens, source) ← tokenUsage env llmTotal estimated
  pure (state.updateMetadata
    [("called_tools", .arr l.calledTools), ("called_args", .obj l.calledArgs),
     ("retry_count", .int l.retryCount), ("tool_calls_count", .int l.calledTools.length),
     ("token_usage", .int tokens), ("token_usage_estimated", .int estimated),
     ("token_usage_llm", llmTotal), ("token_usage_source", .str source),
     ("llm_prompt_tokens", promptTokens), ("llm_completion_tokens", completionTokens),
     ("chaos_mode", self.executor.metadata.getD "chaos_mode" (.str "none"))])

/-- `ToolNode.execute`. -/
def ToolNode.execute (self : ToolNode) (env : NodeEnv) (state : AgentState) :
    Platform AgentState := do
  let steps ← Prog.ofExcept (planSteps state.plan)
  let l ← self.steps steps { state }
  Prog.ofExcept (self.finish env l)

/-- `JudgeNode`. -/
structure JudgeNode where
  enabled : Bool := true

/-- `_expected_text`. -/
def expectedText : Json → String
  | .obj fields =>
      if Dict.has fields "judge_expected" then (Dict.get fields "judge_expected").pyStr
      else if Dict.get fields "expected_tools" ≠ .null ∨ Dict.get fields "expected_args" ≠ .null then
        "expected_tools=" ++ (Dict.get fields "expected_tools").pyStr ++ ", expected_args=" ++
          (Dict.get fields "expected_args").pyStr
      else ""
  | _ => ""

/-- `JudgeNode.execute`. -/
def JudgeNode.execute (self : JudgeNode) (state : AgentState) : Platform AgentState :=
  if self.enabled = false then pure (state.setMetadata "judge_enabled" (.bool false))
  else do
    let result ← Platform.judge (nodeRequestText state.request) (expectedText state.request)
      (answerText state.answer)
    pure ((state.setMetadata "judge_enabled" (.bool true)).setMetadata "judge_result"
      (.str result))

/-- The nodes of the repository. -/
inductive WorkflowNode
  | planner (node : PlannerNode)
  | tool (node : ToolNode)
  | judge (node : JudgeNode)

namespace WorkflowNode

def name : WorkflowNode → String
  | planner _ => "planner"
  | tool _ => "tool"
  | judge _ => "judge"

def execute (env : NodeEnv) (state : AgentState) : WorkflowNode → Platform AgentState
  | planner node => node.execute env state
  | tool node => node.execute env state
  | judge node => node.execute state

end WorkflowNode

/-! ### Workflows -/

/-- `WorkflowRouter.order`; of several nodes with one name the last. -/
def orderNodes (nodeNames : List String) (nodes : List WorkflowNode) : List WorkflowNode :=
  if nodeNames = [] then nodes
  else nodeNames.filterMap fun name => nodes.reverse.find? fun node => node.name = name

/-- A workflow: none, a `WorkflowEngine` with or without a router, or the nodes in a row. -/
inductive Workflow
  | none
  | engine (router : Option (List String)) (nodes : List WorkflowNode)
  | steps (nodes : List WorkflowNode)

/-- The nodes in the order in which they run. -/
def Workflow.ordered : Workflow → List WorkflowNode
  | none => []
  | engine (some nodeNames) nodes => orderNodes nodeNames nodes
  | engine .none nodes => nodes
  | steps nodes => nodes

/-- The nodes one after the other, each on the state that the one before left. -/
def runNodes (env : NodeEnv) : List WorkflowNode → AgentState → Platform AgentState
  | [], state => .ret state
  | node :: nodes, state => do
      let state ← node.execute env state
      runNodes env nodes state

end ChaosDemo
