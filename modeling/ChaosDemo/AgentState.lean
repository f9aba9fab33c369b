/-
ChaosDemo/AgentState.lean

The state of an agent's run (ai_platform/agent/state.py) and the calls that leave the
platform: the planners, the judge's model and the tools are given to it from outside.
A run of the platform is a tree of such calls, whatever they answer.
-/
import ChaosDemo.Builtins
import ChaosDemo.Prog

namespace ChaosDemo

open CallTree

/-- `AgentStatus`. -/
inductive AgentStatus
  | new
  | running
  | succeeded
  | failed
deriving DecidableEq

/-- `AgentState`. -/
structure AgentState where
  request : Json
  plan : Json := .null
  toolResult : List Dict := []
  llmCall : List Dict := []
  answer : Json := .null
  error : Option Dict := none
  status : AgentStatus := .new
  metadata : Dict := []

namespace AgentState

/-- `state.metadata[k] = v`. -/
def setMetadata (s : AgentState) (k : String) (v : Json) : AgentState :=
  { s with metadata := s.metadata.set k v }

/-- `state.metadata.update(d)`. -/
def updateMetadata (s : AgentState) (d : Dict) : AgentState :=
  { s with metadata := s.metadata.update d }

/-- `set_plan`. -/
def setPlan (s : AgentState) (plan : Dict) : AgentState :=
  ({ s with plan := .obj plan } : AgentState).setMetadata "has_plan" (.bool true)

/-- `set_answer`. -/
def setAnswer (s : AgentState) (answer : Json) : AgentState :=
  ({ s with answer := answer } : AgentState).setMetadata "has_answer" (.bool true)

/-- `set_error` with an exception. -/
def setError (s : AgentState) (e : PyError) : AgentState :=
  { s with error := some [("type", .str e.typeName), ("message", .str e.text)] }

/-- `add_llm_call`, with what the planner gives. -/
def addLlmCall (s : AgentState) (provider model prompt : String) (metadata : Dict) : AgentState :=
  { s with llmCall := s.llmCall ++ [[("provider", .str provider), ("model", .str model),
      ("prompt", .str prompt)] ++ if metadata = [] then [] else [("metadata", .obj metadata)]] }

/-- `add_tool_result`, without metadata. -/
def addToolResult (s : AgentState) (tool result error : Json) : AgentState :=
  { s with toolResult := s.toolResult ++ [[("tool", tool), ("result", result)] ++
      if error = .null then [] else [("error", error)]] }

@[simp] theorem answer_setMetadata (s : AgentState) (k : String) (v : Json) :
    (s.setMetadata k v).answer = s.answer := rfl

@[simp] theorem answer_updateMetadata (s : AgentState) (d : Dict) :
    (s.updateMetadata d).answer = s.answer := rfl

@[simp] theorem answer_setPlan (s : AgentState) (plan : Dict) :
    (s.setPlan plan).answer = s.answer := rfl

@[simp] theorem answer_setAnswer (s : AgentState) (answer : Json) :
    (s.setAnswer answer).answer = answer := rfl

@[simp] theorem answer_addLlmCall (s : AgentState) (provider model prompt : String)
    (metadata : Dict) : (s.addLlmCall provider model prompt metadata).answer = s.answer := rfl

@[simp] theorem status_setMetadata (s : AgentState) (k : String) (v : Json) :
    (s.setMetadata k v).status = s.status := rfl

@[simp] theorem status_updateMetadata (s : AgentState) (d : Dict) :
    (s.updateMetadata d).status = s.status := rfl

@[simp] theorem status_setPlan (s : AgentState) (plan : Dict) :
    (s.setPlan plan).status = s.status := rfl

@[simp] theorem status_setAnswer (s : AgentState) (answer : Json) :
    (s.setAnswer answer).status = s.status := rfl

@[simp] theorem status_addLlmCall (s : AgentState) (provider model prompt : String)
    (metadata : Dict) : (s.addLlmCall provider model prompt metadata).status = s.status := rfl

@[simp] theorem status_addToolResult (s : AgentState) (tool result error : Json) :
    (s.addToolResult tool result error).status = s.status := rfl

end AgentState

/-! ### Calls -/

/-- `ToolExecutionResult`. -/
structure ToolExecutionResult where
  tool : Json
  ok : Bool
  result : Json := .null
  error : Json := .null
  attempts : List Dict := []
  metadata : Dict := []

/-- What a tool returns: a result, or any other value. -/
inductive ToolReply
  | result (r : ToolExecutionResult)
  | raw (v : Json)

/-- The calls of the functions that the nodes and the tools are given. -/
inductive PlatformOp
  | planner (text : String)
  | rulePlanner (text : String)
  | validator (plan : Dict)
  | judge (userInput expected actual : String)
  | tool (name : String) (params : Dict)

/-- The calls with what they return. -/
def PlatformSig : Sig where
  Op := PlatformOp
  Ret
    | .planner _ => Dict × Dict
    | .rulePlanner _ => Dict
    | .validator _ => Dict
    | .judge _ _ _ => String
    | .tool _ _ => ToolReply

/-- A part of a run of the platform. -/
abbrev Platform := Prog PlatformSig PyError

/-- What was called, the latest call first. -/
abbrev PlatformHistory := History PlatformSig PyError

namespace Platform

def planner (text : String) : Platform (Dict × Dict) :=
  Prog.perform (S := PlatformSig) (.planner text)

def rulePlanner (text : String) : Platform Dict :=
  Prog.perform (S := PlatformSig) (.rulePlanner text)

def validator (plan : Dict) : Platform Dict :=
  Prog.perform (S := PlatformSig) (.validator plan)

def judge (userInput expected actual : String) : Platform String :=
  Prog.perform (S := PlatformSig) (.judge userInput expected actual)

def tool (name : String) (params : Dict) : Platform ToolReply :=
  Prog.perform (S := PlatformSig) (.tool name params)

end Platform

end ChaosDemo
