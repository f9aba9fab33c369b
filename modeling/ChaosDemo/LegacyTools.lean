/-
ChaosDemo/LegacyTools.lean

The tools of an order twice over: the step loop of `execute_plan`
(agent-eval/scripts/run_agent_eval.py) and the adapters of
`build_legacy_registry` (ai_platform/tools/legacy_tool.py), which a `ToolNode` calls
through its executor.  Both are programs over the calls of the order client.

What the loop measures of a run, its tokens, is left out.
-/
import ChaosDemo.Workflow

namespace ChaosDemo

open CallTree

/-! ### The client -/

/-- The calls of the order client (`place_order`, `query_order`, `cancel_order`). -/
inductive ClientOp
  | placeOrder (itemName : Json) (quantity : ℤ) (address : Json) (retryIndex : ℕ)
  | queryOrder (orderId : Json)
  | cancelOrder (orderId : Json)
deriving DecidableEq

/-- Each call answers with a dictionary. -/
def ClientSig : Sig where
  Op := ClientOp
  Ret _ := Dict

/-- A part of a run over the client. -/
abbrev ClientProg := Prog ClientSig PyError

namespace ClientProg

def placeOrder (itemName : Json) (quantity : ℤ) (address : Json) (retryIndex : ℕ) :
    ClientProg Dict :=
  Prog.perform (S := ClientSig) (.placeOrder itemName quantity address retryIndex)

def queryOrder (orderId : Json) : ClientProg Dict :=
  Prog.perform (S := ClientSig) (.queryOrder orderId)

def cancelOrder (orderId : Json) : ClientProg Dict :=
  Prog.perform (S := ClientSig) (.cancelOrder orderId)

end ClientProg

/-- `res.get("ok")`, as a truth value. -/
def answeredOk (res : Dict) : Bool := (res.get "ok").truthy

/-! ### Plans -/

/-- `ALLOWED_TOOLS`, without the workflow: the tools of a step. -/
def stepTools : List String := ["place_order", "query_order", "cancel_order", "ask_user"]

/-- What `validate_plan` gives in place of a plan that it turns down. -/
def askUser (reason : String) (plannerValid : Bool) : Dict :=
  [("tool", .str "ask_user"), ("args", .obj [("reason", .str reason)]),
   ("_planner_valid", .bool plannerValid)]

/-- `step.get("args", {})`, or no arguments where they are not a dictionary. -/
def argsOf (step : Dict) : Dict := ((Dict.getD step "args" (.obj [])).dict?).getD []

/-- The steps of a workflow, each with its tool and its arguments and nothing else. -/
def sanitizedSteps : List Json → Except PyError (List Json ⊕ String)
  | [] => .ok (.inl [])
  | .obj step :: steps =>
      match Dict.get step "tool" with
      | .str tool =>
          if tool ∈ stepTools then
            match sanitizedSteps steps with
            | .ok (.inl rest) =>
                .ok (.inl (.obj [("tool", .str tool), ("args", .obj (argsOf step))] :: rest))
            | other => other
          else .ok (.inr "workflow tool not allowed")
      | v => if v.hashable then .ok (.inr "workflow tool not allowed") else .error .typeError
  | _ :: _ => .ok (.inr "invalid workflow step")

/-- `validate_plan`. -/
def validatePlan : Json → Except PyError Dict
  | .obj plan =>
      match Dict.get plan "tool" with
      | .str tool =>
          if tool = "workflow" then
            match Dict.get plan "steps" with
            | .arr (step :: steps) =>
                match sanitizedSteps (step :: steps) with
                | .ok (.inl sanitized) =>
                    .ok [("tool", .str "workflow"), ("steps", .arr sanitized),
                      ("_planner_valid", Dict.getD plan "_planner_valid" (.bool true))]
                | .ok (.inr reason) => .ok (askUser reason false)
                | .error e => .error e
            | _ => .ok (askUser "invalid workflow steps" false)
          else if tool ∈ stepTools then
            let args := argsOf plan
            if tool = "place_order" ∧
                (pyStrip (args.getD "item_name" (.str "")).pyStr = "" ∨
                  pyStrip (args.getD "address" (.str "")).pyStr = "") then
              .ok (askUser "missing args" true)
            else if (tool = "query_order" ∨ tool = "cancel_order") ∧
                (args.get "order_id").truthy = false then
              .ok (askUser "missing args" true)
            else
              .ok [("tool", .str tool), ("args", .obj args),
                ("_planner_valid", Dict.getD plan "_planner_valid" (.bool true))]
          else .ok (askUser "tool not allowed" false)
      | v => if v.hashable then .ok (askUser "tool not allowed" false) else .error .typeError
  | _ => .ok (askUser "plan not object" false)

/-! ### The step loop of `execute_plan` -/

/-- The variables of the loop. -/
structure PlanLoop where
  calledTools : List Json := []
  calledArgs : Dict := []
  retryCount : ℤ := 0
  finalResponse : String := "已处理。"
  toolResults : List Dict := []
  permissionDeniedTools : List Json := []

/-- An entry of `tool_results`. -/
def toolResult (tool : Json) (result : Dict) : Dict := [("tool", tool), ("result", .obj result)]

/-- The name under which a retry is noted. -/
def retryName (currentTry : ℕ) : Json := .str ("place_order_retry_" ++ toString currentTry)

/-- The retries of `place_order`, of which `left` are still allowed. -/
def PlanLoop.retries (args : Dict) (quantity : ℤ) :
    ℕ → ℕ → Dict → PlanLoop → ClientProg (Dict × PlanLoop)
  | 0, _, res, l => .ret (res, l)
  | left + 1, currentTry, res, l =>
      if answeredOk res then .ret (res, l)
      else do
        let res ← ClientProg.placeOrder (args.getD "item_name" (.str "")) quantity
          (args.getD "address" (.str "")) (currentTry + 1)
        PlanLoop.retries args quantity left (currentTry + 1) res
          { l with
            retryCount := l.retryCount + 1
            toolResults := l.toolResults ++ [toolResult (retryName (currentTry + 1)) res] }

/-- A `place_order` step. -/
def PlanLoop.placeOrder (maxRetry : ℤ) (args : Dict) (l : PlanLoop) : ClientProg PlanLoop := do
  let quantity ← Prog.ofExcept (args.getD "quantity" (.int 1)).toInt
  let res ← ClientProg.placeOrder (args.getD "item_name" (.str "")) quantity
    (args.getD "address" (.str "")) 0
  let (res, l) ← PlanLoop.retries args quantity maxRetry.toNat 0 res
    { l with toolResults := l.toolResults ++ [toolResult (.str "place_order") res] }
  if answeredOk res then do
    let orderId ← Prog.ofExcept ((res.getD "body" (.obj [])).getAttr "order_id")
    pure { l with
      finalResponse :=
        if orderId.truthy then "已下单，订单号 " ++ orderId.pyStr else "已下单。" }
  else pure { l with finalResponse := "下单失败，请稍后重试。" }

/-- A `query_order` step. -/
def PlanLoop.queryOrder (args : Dict) (l : PlanLoop) : ClientProg PlanLoop := do
  let res ← ClientProg.queryOrder (args.getD "order_id" (.str ""))
  pure { l with
    toolResults := l.toolResults ++ [toolResult (.str "query_order") res]
    finalResponse := if answeredOk res then "订单查询完成。" else "订单不存在或查询失败。" }

/-- A `cancel_order` step. -/
def PlanLoop.cancelOrder (args : Dict) (l : PlanLoop) : ClientProg PlanLoop := do
  let res ← ClientProg.cancelOrder (args.getD "order_id" (.str ""))
  pure { l with
    toolResults := l.toolResults ++ [toolResult (.str "cancel_order") res]
    finalResponse := if answeredOk res then "订单取消完成。" else "订单取消失败。" }

/-- The permission check of a step, for a case with a role: the reason it is denied. -/
def stepDenied (checker : Option (SecurityPolicy × String)) (tool : Json) :
    Except PyError (Option String) :=
  match checker with
  | none => .ok none
  | some (policy, role) =>
      match tool with
      | .str name =>
          let result := PermissionChecker.check policy name (some role)
          if name = "ask_user" ∨ result.passed = true then .ok none
          else .ok (some (result.violations.headD "unknown"))
      | _ => .error .typeError

/-- One turn of the loop.  The arguments of a step are a dictionary: `validate_plan` and
`rule_plan` make no others. -/
def PlanLoop.step (maxRetry : ℤ) (checker : Option (SecurityPolicy × String)) (step : Json)
    (l : PlanLoop) : ClientProg PlanLoop := do
  let (tool, args) ← Prog.ofExcept (stepCall step)
  let l := { l with
    calledTools := l.calledTools ++ [tool]
    calledArgs := l.calledArgs.update args }
  match ← Prog.ofExcept (stepDenied checker tool) with
  | some reason =>
      pure { l with
        permissionDeniedTools := l.permissionDeniedTools ++ [tool]
        toolResults := l.toolResults ++ [toolResult tool
          [("ok", .bool false), ("permission_denied", .bool true), ("reason", .str reason)]]
        finalResponse := "权限不足，操作被拒绝。" }
  | none =>
      if tool = .str "place_order" then l.placeOrder maxRetry args
      else if tool = .str "query_order" then l.queryOrder args
      else if tool = .str "cancel_order" then l.cancelOrder args
      else
        pure { l with
          toolResults := l.toolResults ++ [toolResult (.str "ask_user") [("ok", .bool true)]]
          finalResponse := "参数不足或请求不合理，请补充信息。" }

/-- The loop. -/
def PlanLoop.steps (maxRetry : ℤ) (checker : Option (SecurityPolicy × String)) :
    List Json → PlanLoop → ClientProg PlanLoop
  | [], l => .ret l
  | step :: rest, l => do
      let l ← l.step maxRetry checker step
      PlanLoop.steps maxRetry checker rest l

/-- `execute_plan` from its plan on. -/
def executePlan (maxRetry : ℤ) (checker : Option (SecurityPolicy × String)) (plan : Json) :
    ClientProg PlanLoop := do
  let steps ← Prog.ofExcept (planSteps plan)
  PlanLoop.steps maxRetry checker steps {}

/-! ### The adapters -/

/-- `LegacyToolAdapter`; every adapter but that of `ask_user` has an action. -/
structure LegacyToolAdapter where
  name : String
  chaosMode : Json
  maxRetry : ℤ := 0

namespace LegacyToolAdapter

def textOrderOk (orderId : Json) : String := "已下单，订单号 " ++ orderId.pyStr
def textOrderOkSimple : String := "已下单。"
def textOrderFail : String := "下单失败，请稍后重试。"
def textQueryOk : String := "订单查询完成。"
def textQueryFail : String := "订单不存在或查询失败。"
def textCancelOk : String := "订单取消完成。"
def textCancelFail : String := "订单取消失败。"
def textAskUser : String := "参数不足或请求不合理，请补充信息。"

/-- The metadata of a result. -/
def metadata (self : LegacyToolAdapter) (text : String) (retryCount : ℕ) : Dict :=
  [("response_text", .str text), ("retry_count", .int retryCount),
   ("chaos_mode", self.chaosMode)]

/-- The result that a call leaves, with its attempts. -/
def result (self : LegacyToolAdapter) (res : Dict) (attempts : List Dict) (text : String)
    (retryCount : ℕ) : ToolExecutionResult where
  tool := .str self.name
  ok := answeredOk res
  result := .obj res
  attempts := attempts
  metadata := self.metadata text retryCount

/-- The retries of `_execute_place_order`, of which `left` are still allowed. -/
def retries (params : Dict) :
    ℕ → ℕ → Dict → List Dict → ClientProg (Dict × List Dict × ℕ)
  | 0, currentTry, res, attempts => .ret (res, attempts, currentTry)
  | left + 1, currentTry, res, attempts =>
      if answeredOk res then .ret (res, attempts, currentTry)
      else do
        let quantity ← Prog.ofExcept (params.getD "quantity" (.int 1)).toInt
        let res ← ClientProg.placeOrder (params.getD "item_name" (.str "")) quantity
          (params.getD "address" (.str "")) (currentTry + 1)
        retries params left (currentTry + 1) res
          (attempts ++ [toolResult (retryName (currentTry + 1)) res])

/-- `_execute_place_order`. -/
def executePlaceOrder (self : LegacyToolAdapter) (params : Dict) :
    ClientProg ToolExecutionResult := do
  let quantity ← Prog.ofExcept (params.getD "quantity" (.int 1)).toInt
  let res ← ClientProg.placeOrder (params.getD "item_name" (.str "")) quantity
    (params.getD "address" (.str "")) 0
  let (res, attempts, retryCount) ← retries params self.maxRetry.toNat 0 res
    [toolResult (.str self.name) res]
  if answeredOk res then do
    let orderId ← Prog.ofExcept ((res.getD "body" (.obj [])).getAttr "order_id")
    pure (self.result res attempts
      (if orderId.truthy then textOrderOk orderId else textOrderOkSimple) retryCount)
  else pure (self.result res attempts textOrderFail retryCount)

/-- `_execute_query_order`. -/
def executeQueryOrder (self : LegacyToolAdapter) (params : Dict) :
    ClientProg ToolExecutionResult := do
  let res ← ClientProg.queryOrder (params.getD "order_id" (.str ""))
  pure (self.result res [toolResult (.str self.name) res]
    (if answeredOk res then textQueryOk else textQueryFail) 0)

/-- `_execute_cancel_order`. -/
def executeCancelOrder (self : LegacyToolAdapter) (params : Dict) :
    ClientProg ToolExecutionResult := do
  let res ← ClientProg.cancelOrder (params.getD "order_id" (.str ""))
  pure (self.result res [toolResult (.str self.name) res]
    (if answeredOk res then textCancelOk else textCancelFail) 0)

/-- `execute`. -/
def execute (self : LegacyToolAdapter) (params : Dict) : ClientProg ToolExecutionResult :=
  if self.name = "ask_user" then
    let result : Dict :=
      [("ok", .bool true), ("reason", params.getD "reason" (.str "missing args"))]
    pure
      { tool := .str self.name
        ok := true
        result := .obj result
        attempts := [toolResult (.str self.name) result]
        metadata := [("response_text", .str textAskUser), ("retry_count", .int 0)] }
  else if self.name = "place_order" then self.executePlaceOrder params
  else if self.name = "query_order" then self.executeQueryOrder params
  else if self.name = "cancel_order" then self.executeCancelOrder params
  else .raise (.raised "RuntimeError" ("Legacy tool action missing: " ++ self.name))

end LegacyToolAdapter

/-- The adapter of `build_legacy_registry` with a name; only `place_order` retries. -/
def legacyAdapter (maxRetry : ℤ) (chaosMode : Json) (name : String) : LegacyToolAdapter where
  name := name
  chaosMode := chaosMode
  maxRetry := if name = "place_order" then maxRetry else 0

/-- The tools of `build_legacy_registry` behind the calls of a `ToolNode`, which makes no
other calls. -/
def legacyTools (maxRetry : ℤ) (chaosMode : Json) :
    (o : PlatformSig.Op) → ClientProg (PlatformSig.Ret o)
  | .tool name params => do
      let r ← (legacyAdapter maxRetry chaosMode name).execute params
      pure (.result r)
  | .planner _ => .raise .typeError
  | .rulePlanner _ => .raise .typeError
  | .validator _ => .raise .typeError
  | .judge _ _ _ => .raise .typeError

/-- `ToolNode(tools_client=…, max_retry=…).execute`. -/
def toolNodeRun (maxRetry : ℤ) (chaosMode : Json) (env : NodeEnv) (state : AgentState) :
    ClientProg AgentState :=
  ((ToolNode.default chaosMode).execute env state).interp (legacyTools maxRetry chaosMode)

end ChaosDemo
