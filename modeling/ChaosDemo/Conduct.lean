/-
ChaosDemo/Conduct.lean

What a run of an agent comes to, told without the collector: its outcome, whether every
part of it takes an exit that closes what it opened (`tidy`), and whether it starts a
trace of its own (`starts`).

    tidy  =  no request that is traced is blocked by the input check,
             no call of a tool is stopped by the permission check,
             no node of an engine raises, and
             no node but the last of an engine starts a trace

The last of these is about `workflow.end`: the engine reads the active trace again for
every node, and after a node that ran an agent of its own this is the trace of that agent.
-/
import ChaosDemo.ObservedRun

namespace ChaosDemo

open CallTree

namespace Observability

/-- What a part of a run comes to. -/
structure Conduct (α : Type) where
  outcome : Except PyError α
  tidy : Bool := true
  starts : Bool := false

namespace Conduct

variable {α β : Type}

/-- One part and then another, on what the first returned. -/
def bind (c : Conduct α) (f : α → Conduct β) : Conduct β :=
  match c.outcome with
  | .ok a => ⟨(f a).outcome, c.tidy && (f a).tidy, c.starts || (f a).starts⟩
  | .error e => ⟨.error e, c.tidy, c.starts⟩

/-- The outcome as a value. -/
def attempt (c : Conduct α) : Conduct (Except PyError α) := ⟨.ok c.outcome, c.tidy, c.starts⟩

/-- Whether it returns. -/
def returns (c : Conduct α) : Bool :=
  match c.outcome with
  | .ok _ => true
  | .error _ => false

end Conduct

/-- The conduct of the tool itself. -/
def callConduct (executor : ToolExecutor) (toolName : Json) (params : Dict)
    (tool : Dict → Conduct ToolReply) : Conduct ToolExecutionResult :=
  match executor.prepare toolName params with
  | .inl result => { outcome := .ok result }
  | .inr (name, params) => (tool params).attempt.bind fun reply => { outcome := .ok (settle name reply) }

/-- The conduct of `execute`: a call that is not let through is untidy. -/
def executeConduct (executor : ToolExecutor) (toolName : Json) (params : Dict)
    (tool : Dict → Conduct ToolReply) : Conduct ToolExecutionResult :=
  match permission executor toolName with
  | .error e => { outcome := .error e, tidy := false }
  | .ok (some perm) => { outcome := .ok (blockedCall toolName perm), tidy := false }
  | .ok none => callConduct executor toolName params tool

/-- The conduct of the nodes of an engine, one after the other. -/
def nodesConduct (node : ℕ → NodeReply → Conduct NodeReply) :
    List (String × ℕ) → AgentState → Conduct AgentState
  | [], current => { outcome := .ok current }
  | (_, i) :: rest, current =>
      (node i (.state current)).bind fun result => nodesConduct node rest (result.stateOr current)

/-- Whether a node starts a trace and another one comes after it. -/
def displaces (node : ℕ → NodeReply → Conduct NodeReply) :
    List (String × ℕ) → AgentState → Bool
  | [], _ => false
  | (_, i) :: rest, current =>
      match (node i (.state current)).outcome with
      | .ok result =>
          ((node i (.state current)).starts && !rest.isEmpty) ||
            displaces node rest (result.stateOr current)
      | .error _ => false

/-- The conduct of an engine. -/
def engineConduct (engine : WorkflowEngine) (node : ℕ → NodeReply → Conduct NodeReply)
    (state : AgentState) : Conduct AgentState :=
  let nodes := nodesConduct node engine.ordered state
  { nodes with
    tidy := nodes.tidy && nodes.returns && !displaces node engine.ordered state }

/-- The conduct of the steps of a list. -/
def stepsConduct (node : ℕ → NodeReply → Conduct NodeReply) :
    List ℕ → AgentState → NodeReply → Conduct NodeReply
  | [], _, result => { outcome := .ok result }
  | i :: rest, state, result =>
      (node i (match result with | .value .null => .state state | result => result)).bind
        fun result => stepsConduct node rest (result.stateOr state) result

/-- The conduct of a workflow. -/
def dispatchConduct (workflow : RunWorkflow) (node : ℕ → NodeReply → Conduct NodeReply)
    (state : AgentState) : Conduct NodeReply :=
  match workflow with
  | .none => { outcome := .ok (.state state) }
  | .engine e => (engineConduct e node state).bind fun current => { outcome := .ok (.state current) }
  | .callable => node 0 (.state state)
  | .steps count => stepsConduct node (List.range count) state (.state state)

/-- The state that a run hands back for the outcome of its workflow. -/
def settled (running : AgentState) : Except PyError NodeReply → AgentState
  | .ok result => succeeded running result
  | .error e => failed running e

/-- The conduct of `run_state`: a request that is blocked is untidy where it is traced. -/
def runConduct (env : TextEnv) (runtime : AgentRuntime) (node : ℕ → NodeReply → Conduct NodeReply)
    (state : AgentState) : Conduct AgentState :=
  match inputBlock env runtime state.request with
  | some r =>
      { outcome := .ok (ChaosDemo.AgentRuntime.blocked state r)
        tidy := !runtime.observabilityEnabled
        starts := runtime.observabilityEnabled }
  | none =>
      let running : AgentState := { state with status := .running }
      let flow := dispatchConduct runtime.workflow node running
      { outcome := .ok (settled running flow.outcome)
        tidy := flow.tidy
        starts := runtime.observabilityEnabled || flow.starts }

/-- The conduct of a node or a tool. -/
def Code.conduct (env : TextEnv) {role : Role} : Code role → Conduct role.Reply
  | .ret r => { outcome := .ok r }
  | .raise e => { outcome := .error e }
  | .execute executor toolName params tool k =>
      (executeConduct executor toolName params fun p => (tool p).conduct env).attempt.bind
        fun result => (k result).conduct env
  | .runEngine engine node state k =>
      (engineConduct engine (fun i r => (node i r).conduct env) state).attempt.bind
        fun result => (k result).conduct env
  | .runState runtime node state k =>
      (runConduct env runtime (fun i r => (node i r).conduct env) state).attempt.bind
        fun result => (k result).conduct env

end Observability

end ChaosDemo
