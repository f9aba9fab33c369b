/-
ChaosDemo/Observability.lean

The collector of traces, spans and events (ai_platform/observability) and the calls that
the platform makes to it.  One collector serves the whole process, and one field of it,
`_active_trace`, tells every component which trace it works for.

A trace is known by its place among the collector's traces and a span by its place among
all spans, where the code draws random ids.  Times and durations, the counters and the
histograms are left out; of the gauges only `agent.running` is read by what is modelled.
-/
import ChaosDemo.Prog
import ChaosDemo.Workflow

namespace ChaosDemo

open CallTree

namespace Observability

abbrev TraceId := ℕ

abbrev SpanId := ℕ

/-! ### Traces and events -/

/-- `SpanStatus`. -/
inductive SpanStatus
  | ok
  | error
deriving DecidableEq

def SpanStatus.value : SpanStatus → String
  | .ok => "ok"
  | .error => "error"

/-- `Span`, with the trace it belongs to; `finished` says that it has an end time. -/
structure Span where
  trace : TraceId
  name : String
  attributes : Dict := []
  status : SpanStatus := .ok
  finished : Bool := false

/-- `Span.finish`. -/
def Span.finish (s : Span) (status : SpanStatus) : Span :=
  { s with finished := true, status := status }

/-- `TraceContext`. -/
structure TraceContext where
  metadata : Dict := []
  finished : Bool := false

/-- The event types that are recorded by what is modelled. -/
inductive EventType
  | agentRunStart
  | agentRunEnd
  | agentError
  | workflowStart
  | workflowEnd
  | nodeStart
  | nodeEnd
  | toolCall
  | toolResult
  | securityBlock
  | evaluationStart
  | evaluationResult
deriving DecidableEq

/-- `event_type`. -/
def EventType.name : EventType → String
  | .agentRunStart => "agent.run.start"
  | .agentRunEnd => "agent.run.end"
  | .agentError => "agent.error"
  | .workflowStart => "workflow.start"
  | .workflowEnd => "workflow.end"
  | .nodeStart => "node.start"
  | .nodeEnd => "node.end"
  | .toolCall => "tool.call"
  | .toolResult => "tool.result"
  | .securityBlock => "security.block"
  | .evaluationStart => "evaluation.start"
  | .evaluationResult => "evaluation.result"

/-- `BaseEvent`; an empty trace id is `none`. -/
structure BaseEvent where
  eventType : EventType
  traceId : Option TraceId
  spanId : Option SpanId := none
  payload : Dict := []

/-- The first characters of a text. -/
def textHead (n : ℕ) (s : String) : String := String.ofList (s.toList.take n)

/-- `str(v)[:500] if v is not None else None`. -/
def preview (v : Json) : Json := if v = .null then .null else .str (textHead 500 v.pyStr)

/-- `AgentEvent.start`. -/
def agentStart (traceId : TraceId) (request : Json) : BaseEvent where
  eventType := .agentRunStart
  traceId := traceId
  payload := [("request", preview request), ("metadata", .obj [])]

/-- The text of a status. -/
def statusName : AgentStatus → String
  | .new => "new"
  | .running => "running"
  | .succeeded => "succeeded"
  | .failed => "failed"

/-- `AgentEvent.end`. -/
def agentEnd (traceId : TraceId) (status : AgentStatus) : BaseEvent where
  eventType := .agentRunEnd
  traceId := traceId
  payload := [("status", .str (statusName status))]

/-- `AgentEvent.error`. -/
def agentError (traceId : TraceId) (e : PyError) : BaseEvent where
  eventType := .agentError
  traceId := traceId
  payload := [("error_type", .str e.typeName), ("message", .str e.text)]

/-- `WorkflowEvent.start`. -/
def workflowStart (traceId : TraceId) (nodeNames : List String) : BaseEvent where
  eventType := .workflowStart
  traceId := traceId
  payload := [("node_count", .int nodeNames.length), ("node_names", .arr (nodeNames.map Json.str))]

/-- `WorkflowEvent.end`. -/
def workflowEnd (traceId : Option TraceId) (nodeCount : ℕ) : BaseEvent where
  eventType := .workflowEnd
  traceId := traceId
  payload := [("node_count", .int nodeCount)]

/-- `NodeEvent.start`. -/
def nodeStart (nodeName : String) (traceId : TraceId) (spanId : SpanId) : BaseEvent where
  eventType := .nodeStart
  traceId := traceId
  spanId := spanId
  payload := [("node_name", .str nodeName), ("metadata", .obj [])]

/-- `NodeEvent.end`. -/
def nodeEnd (nodeName : String) (traceId : TraceId) (spanId : SpanId) (status : SpanStatus) :
    BaseEvent where
  eventType := .nodeEnd
  traceId := traceId
  spanId := spanId
  payload := [("node_name", .str nodeName), ("status", .str status.value)]

/-- `ToolEvent.call`. -/
def toolCall (toolName : Json) (params : Dict) (traceId : TraceId) (spanId : SpanId) :
    BaseEvent where
  eventType := .toolCall
  traceId := traceId
  spanId := spanId
  payload := [("tool_name", toolName), ("params", .obj params)]

/-- `ToolEvent.result`. -/
def toolResult (toolName : Json) (traceId : TraceId) (spanId : SpanId)
    (r : ToolExecutionResult) : BaseEvent where
  eventType := .toolResult
  traceId := traceId
  spanId := spanId
  payload := [("tool_name", toolName), ("ok", .bool r.ok), ("result", preview r.result),
    ("error", r.error)]

/-- `SecurityEvent.block_event`. -/
def blockEvent (traceId : Option TraceId) (r : SecurityResult) (metadata : Dict) : BaseEvent where
  eventType := .securityBlock
  traceId := traceId
  payload := [("check_name", .str r.checkName), ("passed", .bool false),
    ("risk_level", .str r.riskLevel), ("violations", .arr (r.violations.map Json.str)),
    ("metadata", .obj metadata)]

/-! ### The collector -/

/-- `Collector`.  The active trace is one of its traces. -/
structure Collector where
  traces : List TraceContext := []
  spans : List Span := []
  events : List BaseEvent := []
  activeTrace : Option TraceId := none
  running : ℤ := 0
  activeValid : ∀ t, activeTrace = some t → t < traces.length := by simp

namespace Collector

/-- `start_trace`. -/
def startTrace (c : Collector) (metadata : Dict) : Collector :=
  { c with
    traces := c.traces ++ [{ metadata := metadata }]
    activeTrace := some c.traces.length
    activeValid := by simp }

/-- `TraceContext.create_span`. -/
def addSpan (c : Collector) (t : TraceId) (name : String) (attributes : Dict) : Collector :=
  { c with spans := c.spans ++ [{ trace := t, name := name, attributes := attributes }] }

/-- `create_span`, which starts a trace where there is none. -/
def createSpan (c : Collector) (name : String) (attributes : Dict) : Collector :=
  match c.activeTrace with
  | some t => c.addSpan t name attributes
  | none => (c.startTrace []).addSpan c.traces.length name attributes

/-- `Span.finish` on one of the spans. -/
def finishSpan (c : Collector) (span : SpanId) (status : SpanStatus) : Collector :=
  { c with spans := c.spans.modify span fun s => s.finish status }

/-- `record`: an event without a trace is given the active one. -/
def record (c : Collector) (event : BaseEvent) : Collector :=
  { c with events := c.events ++ [{ event with traceId := event.traceId.or c.activeTrace }] }

/-- `finish_trace`. -/
def finishTrace (c : Collector) (t : TraceId) : Collector :=
  { c with
    traces := c.traces.modify t fun trace => { trace with finished := true }
    activeValid := by
      intro t' ht'
      rw [List.length_modify]
      exact c.activeValid t' ht' }

/-- The gauge `agent.running` moved by `delta`. -/
def addRunning (c : Collector) (delta : ℤ) : Collector := { c with running := c.running + delta }

end Collector

/-! ### The calls -/

/-- What the platform calls: the collector, and `ObservabilityLogger.set_trace_id`. -/
inductive ObsOp
  | activeTrace
  | startTrace (metadata : Dict)
  | createSpan (name : String) (attributes : Dict)
  | finishSpan (span : SpanId) (status : SpanStatus)
  | record (event : BaseEvent)
  | finishTrace (t : TraceId)
  | addRunning (delta : ℤ)
  | setTraceId (traceId : Option TraceId)

def ObsSig : Sig where
  Op := ObsOp
  Ret
    | .activeTrace => Option TraceId
    | .startTrace _ => TraceId
    | .createSpan _ _ => SpanId
    | _ => Unit

/-- A part of a run with its calls to the collector. -/
abbrev Observed := Prog ObsSig PyError

/-- The collector and the logger's trace id. -/
structure Telemetry where
  collector : Collector := {}
  traceId : Option TraceId := none

/-- What each call answers and does; none of them raises. -/
def answer (s : Telemetry) : (o : ObsOp) → ObsSig.Ret o × Telemetry
  | .activeTrace => (s.collector.activeTrace, s)
  | .startTrace metadata =>
      (s.collector.traces.length, { s with collector := s.collector.startTrace metadata })
  | .createSpan name attributes =>
      (s.collector.spans.length, { s with collector := s.collector.createSpan name attributes })
  | .finishSpan span status => ((), { s with collector := s.collector.finishSpan span status })
  | .record event => ((), { s with collector := s.collector.record event })
  | .finishTrace t => ((), { s with collector := s.collector.finishTrace t })
  | .addRunning delta => ((), { s with collector := s.collector.addRunning delta })
  | .setTraceId traceId => ((), { s with traceId := traceId })

def serve (s : Telemetry) (o : ObsSig.Op) : Except PyError (ObsSig.Ret o) × Telemetry :=
  (.ok (answer s o).1, (answer s o).2)

def activeTrace : Observed (Option TraceId) := Prog.perform (S := ObsSig) .activeTrace

def startTrace (metadata : Dict) : Observed TraceId :=
  Prog.perform (S := ObsSig) (.startTrace metadata)

def createSpan (name : String) (attributes : Dict) : Observed SpanId :=
  Prog.perform (S := ObsSig) (.createSpan name attributes)

def finishSpan (span : SpanId) (status : SpanStatus) : Observed Unit :=
  Prog.perform (S := ObsSig) (.finishSpan span status)

def record (event : BaseEvent) : Observed Unit := Prog.perform (S := ObsSig) (.record event)

def finishTrace (t : TraceId) : Observed Unit := Prog.perform (S := ObsSig) (.finishTrace t)

def addRunning (delta : ℤ) : Observed Unit := Prog.perform (S := ObsSig) (.addRunning delta)

def setTraceId (traceId : Option TraceId) : Observed Unit :=
  Prog.perform (S := ObsSig) (.setTraceId traceId)

/-- `collector.active_trace is not None`. -/
def tracing : Observed Bool := do
  let active ← activeTrace
  pure active.isSome

/-- `collector.active_trace.trace_id`. -/
def activeTraceId : Observed TraceId := do
  let active ← activeTrace
  match active with
  | some t => pure t
  | none => throw .attributeError

end Observability

end ChaosDemo
