/-
ChaosDemo/ObservedRun.lean

A run of an agent with everything it tells the collector: `ToolExecutor.execute`,
`WorkflowEngine.run` and `AgentRuntime.run_state`, call by call in the order of the source.
Each of the three opens its bracket by hand, makes its call, and closes the bracket again
on the exits that do so.

What a node or a tool does in between is `Code`: it calls a tool, runs an engine, runs an
agent of its own, in any number and to any depth, and it goes on with what came back.  It
returns or raises in the end.  A node that changes the state it was given is one that
returns it.
-/
import ChaosDemo.Observability
import ChaosDemo.PlatformService

namespace ChaosDemo

open CallTree

namespace Observability

/-! ### Nodes and tools -/

/-- What a node returns: a state, or any other value. -/
inductive NodeReply
  | state (s : AgentState)
  | value (v : Json)

/-- `result if isinstance(result, AgentState) else current`. -/
def NodeReply.stateOr (current : AgentState) : NodeReply → AgentState
  | .state s => s
  | .value _ => current

/-- `WorkflowEngine`: its router and the names of its nodes. -/
structure WorkflowEngine where
  router : Option (List String) := none
  nodes : List String := []

/-- `_ordered_nodes`, each node with its place. -/
def WorkflowEngine.ordered (self : WorkflowEngine) : List (String × ℕ) :=
  match self.router with
  | none => self.nodes.zipIdx
  | some nodeNames =>
      if nodeNames = [] then self.nodes.zipIdx
      -- of two nodes with one name the index keeps the later one
      else nodeNames.filterMap fun name => self.nodes.zipIdx.reverse.find? fun node => node.1 = name

/-- The workflow of a runtime: none, an engine, so many steps in a row, or a callable. -/
inductive RunWorkflow
  | none
  | engine (e : WorkflowEngine)
  | steps (count : ℕ)
  | callable

/-- `type(self.workflow).__name__ if self.workflow else "none"`. -/
def RunWorkflow.typeName : RunWorkflow → String
  | .none => "none"
  | .engine _ => "WorkflowEngine"
  | .steps 0 => "none"
  | .steps (_ + 1) => "list"
  | .callable => "function"

/-- `AgentRuntime`. -/
structure AgentRuntime where
  workflow : RunWorkflow := .none
  observabilityEnabled : Bool := true
  security : Option SecurityPolicy := none

/-- Who runs a piece of code. -/
inductive Role
  | node
  | tool

def Role.Reply : Role → Type
  | .node => NodeReply
  | .tool => ToolReply

/-- What a node or a tool does: a call and how it goes on, or its end.  A call carries what
it calls: the tool of that name, or the nodes by their place. -/
inductive Code : Role → Type
  | ret {role : Role} (r : role.Reply) : Code role
  | raise {role : Role} (e : PyError) : Code role
  | execute {role : Role} (executor : ToolExecutor) (toolName : Json) (params : Dict)
      (tool : Dict → Code .tool) (k : Except PyError ToolExecutionResult → Code role) : Code role
  | runEngine {role : Role} (engine : WorkflowEngine) (node : ℕ → NodeReply → Code .node)
      (state : AgentState) (k : Except PyError AgentState → Code role) : Code role
  | runState {role : Role} (runtime : AgentRuntime) (node : ℕ → NodeReply → Code .node)
      (state : AgentState) (k : Except PyError AgentState → Code role) : Code role

/-! ### Spans -/

/-- The span and the event with which a node or a tool begins, where there is a trace. -/
def openSpan (name : String) (attributes : Dict) (event : TraceId → SpanId → BaseEvent) :
    Observed (Option (TraceId × SpanId)) := do
  let traced ← tracing
  if traced then do
    let traceId ← activeTraceId
    let span ← createSpan name attributes
    record (event traceId span)
    pure (some (traceId, span))
  else pure none

/-! ### Tools -/

/-- The permission check of `execute`: nothing, or the result that blocks the call. -/
def permission (executor : ToolExecutor) (toolName : Json) :
    Except PyError (Option SecurityResult) :=
  match executor.security with
  | none => .ok none
  | some policy => do
      let perm ← checkToolName policy toolName
      pure (if perm.passed then none else some perm)

/-- The result of a call that the policy blocks. -/
def blockedCall (toolName : Json) (perm : SecurityResult) : ToolExecutionResult where
  tool := toolName
  ok := false
  error := .str ("Tool blocked: " ++ ", ".intercalate perm.violations)
  metadata := [("security", .obj perm.asDict)]

/-- The end of a tool's span, with its event. -/
def closeTool (toolName : Json) (result : ToolExecutionResult) :
    Option (TraceId × SpanId) → Observed Unit
  | none => pure ()
  | some (traceId, span) => do
      finishSpan span (if result.ok then .ok else .error)
      record (toolResult toolName traceId span result)

/-- What the tool itself is called for, its result in place of what it raises. -/
def callTool (executor : ToolExecutor) (toolName : Json) (params : Dict)
    (tool : Dict → Observed ToolReply) : Observed ToolExecutionResult :=
  match executor.prepare toolName params with
  | .inl result => pure result
  | .inr (name, params) => do
      let reply ← (tool params).attempt
      pure (settle name reply)

/-- `ToolExecutor.execute`. -/
def execute (executor : ToolExecutor) (toolName : Json) (params : Dict)
    (tool : Dict → Observed ToolReply) : Observed ToolExecutionResult := do
  let opened ← openSpan ("tool." ++ toolName.pyStr) [("tool", toolName)] (toolCall toolName params)
  match permission executor toolName with
  | .error e => throw e
  | .ok (some perm) => do
      -- the span stays as it is
      record (blockEvent (opened.map Prod.fst) perm [("tool_name", toolName)])
      pure (blockedCall toolName perm)
  | .ok none => do
      let result ← callTool executor toolName params tool
      closeTool toolName result opened
      pure result

/-! ### The engine -/

/-- The end of a node's span, with its event where there is still a trace. -/
def closeNode (nodeName : String) (status : SpanStatus) :
    Option (TraceId × SpanId) → Observed Unit
  | none => pure ()
  | some (traceId, span) => do
      finishSpan span status
      let traced ← tracing
      if traced then record (nodeEnd nodeName traceId span status) else pure ()

/-- The loop of `WorkflowEngine.run` over its nodes.  The local variable `trace_id` is
carried along: a node that has a span sets it to the trace that is active then. -/
def runNodes (node : ℕ → NodeReply → Observed NodeReply) :
    List (String × ℕ) → Option TraceId → AgentState → Observed (AgentState × Option TraceId)
  | [], traceId, current => pure (current, traceId)
  | (name, i) :: rest, traceId, current => do
      let opened ← openSpan ("node." ++ name) [("node", .str name)] (nodeStart name)
      let reply ← (node i (.state current)).attempt
      match reply with
      | .ok result => do
          closeNode name .ok opened
          runNodes node rest ((opened.map Prod.fst).or traceId) (result.stateOr current)
      | .error e => do
          closeNode name .error opened
          throw e

/-- The event with which an engine begins, and its trace. -/
def openWorkflow (nodeNames : List String) : Observed (Option TraceId) := do
  let traced ← tracing
  if traced then do
    let traceId ← activeTraceId
    record (workflowStart traceId nodeNames)
    pure (some traceId)
  else pure none

/-- The event with which an engine ends. -/
def closeWorkflow (recorded : Bool) (traceId : Option TraceId) (nodeCount : ℕ) : Observed Unit :=
  if recorded then do
    let traced ← tracing
    if traced then record (workflowEnd traceId nodeCount) else pure ()
  else pure ()

/-- `WorkflowEngine.run`. -/
def runEngine (engine : WorkflowEngine) (node : ℕ → NodeReply → Observed NodeReply)
    (state : AgentState) : Observed AgentState := do
  let ordered := engine.ordered
  let traceId ← openWorkflow (ordered.map Prod.fst)
  let (current, traceId') ← runNodes node ordered traceId state
  closeWorkflow traceId.isSome traceId' ordered.length
  pure current

/-! ### The runtime -/

/-- The loop of `_dispatch` over the steps of a list: a step that returns nothing is passed
over. -/
def runSteps (node : ℕ → NodeReply → Observed NodeReply) :
    List ℕ → AgentState → NodeReply → Observed NodeReply
  | [], _, result => pure result
  | i :: rest, state, result => do
      let result ← node i (match result with | .value .null => .state state | result => result)
      runSteps node rest (result.stateOr state) result

/-- `_dispatch`. -/
def dispatch (workflow : RunWorkflow) (node : ℕ → NodeReply → Observed NodeReply)
    (state : AgentState) : Observed NodeReply :=
  match workflow with
  | .none => pure (.state state)
  | .engine e => do
      let current ← runEngine e node state
      pure (.state current)
  | .callable => node 0 (.state state)
  | .steps count => runSteps node (List.range count) state (.state state)

/-- The input check of `run_state`: the result that blocks the request. -/
def inputBlock (env : TextEnv) (runtime : AgentRuntime) (request : Json) : Option SecurityResult :=
  match runtime.security with
  | none => none
  | some policy =>
      if policy.securityEnabled then
        let r := SecurityGuard.checkInput env policy request
        if r.passed then none else some r
      else none

/-- What `run_state` tells the collector before it checks the request. -/
def openRun (runtime : AgentRuntime) (request : Json) : Observed (Option TraceId) :=
  if runtime.observabilityEnabled then do
    let traceId ← startTrace
      [("workflow_type", .str runtime.workflow.typeName), ("request", .str (textHead 200 request.pyStr))]
    record (agentStart traceId request)
    addRunning 1
    setTraceId (some traceId)
    pure (some traceId)
  else pure none

/-- What `run_state` tells the collector of a request that is blocked. -/
def recordBlock (r : SecurityResult) (request : Json) : Option TraceId → Observed Unit
  | none => pure ()
  | some traceId => do
      record (blockEvent traceId r [("request", .str (textHead 200 request.pyStr))])
      finishTrace traceId

/-- The event for the end of a run, and the `finally` block. -/
def closeRun (event : TraceId → BaseEvent) : Option TraceId → Observed Unit
  | none => pure ()
  | some traceId => do
      record (event traceId)
      finishTrace traceId
      addRunning (-1)
      setTraceId none

/-- The state of a run whose workflow returned. -/
def succeeded (state : AgentState) (result : NodeReply) : AgentState :=
  let state :=
    match result with
    | .state s => s
    | .value .null => state
    | .value v => { state with answer := v }
  if state.status = .failed then state else { state with status := .succeeded }

/-- The state of a run whose workflow raised. -/
def failed (state : AgentState) (e : PyError) : AgentState :=
  { state.setError e with status := .failed }

/-- `AgentRuntime.run_state`. -/
def runState (env : TextEnv) (runtime : AgentRuntime) (node : ℕ → NodeReply → Observed NodeReply)
    (state : AgentState) : Observed AgentState := do
  let trace ← openRun runtime state.request
  match inputBlock env runtime state.request with
  | some r => do
      -- this exit is outside of the `try` block
      recordBlock r state.request trace
      pure (ChaosDemo.AgentRuntime.blocked state r)
  | none => do
      let running : AgentState := { state with status := .running }
      let outcome ← (dispatch runtime.workflow node running).attempt
      match outcome with
      | .ok result => do
          closeRun (fun t => agentEnd t (succeeded running result).status) trace
          pure (succeeded running result)
      | .error e => do
          closeRun (fun t => agentError t e) trace
          pure (failed running e)

/-- What a node or a tool tells the collector. -/
def Code.observed (env : TextEnv) {role : Role} : Code role → Observed role.Reply
  | .ret r => .ret r
  | .raise e => .raise e
  | .execute executor toolName params tool k => do
      let result ← (ChaosDemo.Observability.execute executor toolName params fun p =>
        (tool p).observed env).attempt
      (k result).observed env
  | .runEngine engine node state k => do
      let result ← (ChaosDemo.Observability.runEngine engine (fun i r => (node i r).observed env)
        state).attempt
      (k result).observed env
  | .runState runtime node state k => do
      let result ← (ChaosDemo.Observability.runState env runtime
        (fun i r => (node i r).observed env) state).attempt
      (k result).observed env

end Observability

end ChaosDemo
