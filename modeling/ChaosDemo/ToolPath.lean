/-
ChaosDemo/ToolPath.lean

The two ways to run the steps of a plan, `execute_plan` and a `ToolNode` over the legacy
tools, side by side.

Both walk the steps in turns.  What a turn asks of the client and what it leaves is the
same function of the step (`clientTurn`), and the tool node only comes between: it turns
down arguments that do not fit the schema of the tool before the client is called, and
takes an exception of the adapter for an answer (`toolTurn`).  So the two agree on a plan
exactly when no step gives it a reason to (`toolNode_refines_iff`).

That nothing makes up for a call that was left out is seen by counting the first
attempts: every step but `ask_user` has one in `execute_plan`, and every step that fits
has one in the tool node.
-/
import ChaosDemo.PlanGate
import ChaosDemo.LayeredSecurity

namespace ChaosDemo

open CallTree

/-! ### What can be seen of a run -/

/-- A client that answers its `n`-th call with `answers n`; its state is the calls that it
has got. -/
def answering (answers : ℕ → Dict) (calls : List ClientOp) (o : ClientSig.Op) :
    Except PyError (ClientSig.Ret o) × List ClientOp :=
  (.ok (answers calls.length), calls ++ ([o] : List ClientOp))

/-- What the steps of a plan leave behind. -/
structure StepsReport where
  calledTools : Json
  calledArgs : Json
  retryCount : Json
  resultNames : List Json
  finalResponse : Json
deriving DecidableEq

/-- The variables of a loop over the steps, as far as they are reported. -/
structure LoopView where
  calledTools : List Json
  calledArgs : Dict
  retryCount : ℤ
  resultNames : List Json
  finalResponse : String

def LoopView.report (v : LoopView) : StepsReport where
  calledTools := .arr v.calledTools
  calledArgs := .obj v.calledArgs
  retryCount := .int v.retryCount
  resultNames := v.resultNames
  finalResponse := .str v.finalResponse

def PlanLoop.view (l : PlanLoop) : LoopView where
  calledTools := l.calledTools
  calledArgs := l.calledArgs
  retryCount := l.retryCount
  resultNames := l.toolResults.map fun entry => entry.get "tool"
  finalResponse := l.finalResponse

def ToolLoop.view (l : ToolLoop) : LoopView where
  calledTools := l.calledTools
  calledArgs := l.calledArgs
  retryCount := l.retryCount
  resultNames := l.state.toolResult.map fun entry => entry.get "tool"
  finalResponse := l.finalResponse

/-- The state after a tool node. -/
def AgentState.stepsReport (s : AgentState) : StepsReport where
  calledTools := s.metadata.get "called_tools"
  calledArgs := s.metadata.get "called_args"
  retryCount := s.metadata.get "retry_count"
  resultNames := s.toolResult.map fun entry => entry.get "tool"
  finalResponse := s.answer

/-- The steps through `execute_plan`: the report and the calls of the client. -/
def planPath (maxRetry : ℤ) (plan : Dict) (answers : ℕ → Dict) :
    Except PyError StepsReport × List ClientOp :=
  let (res, calls) := (executePlan maxRetry none (.obj plan)).eval (answering answers) []
  (res.map fun l => l.view.report, calls)

/-- The steps through a tool node. -/
def toolPath (maxRetry : ℤ) (chaosMode : Json) (env : NodeEnv) (state : AgentState)
    (answers : ℕ → Dict) : Except PyError StepsReport × List ClientOp :=
  let (res, calls) := (toolNodeRun maxRetry chaosMode env state).eval (answering answers) []
  (res.map AgentState.stepsReport, calls)

/-- A plan that `validate_plan` gives back as it is. -/
def Accepted (plan : Dict) : Prop :=
  ∃ out, validatePlan (.obj plan) = .ok out ∧ (Json.obj out).pyEq (.obj plan) = true

/-- The state that a planner leaves: no result of a tool yet, and tokens that count. -/
structure Planned.Leaves (plan : Dict) (state : AgentState) : Prop where
  plan : state.plan = .obj plan
  fresh : state.toolResult = []
  tokens : ∃ llmMeta : Dict, state.metadata.getD "llm_meta" (.obj []) = .obj llmMeta ∧
    (llmMeta.get "llm_total_tokens" = .null ∨
      ∃ n, (llmMeta.get "llm_total_tokens").toInt? = some n)

/-! ### When the two agree -/

/-- How often `place_order` is tried again after the call number `n`. -/
def retriesAfter (answers : ℕ → Dict) : ℕ → ℕ → ℕ
  | 0, _ => 0
  | left + 1, n =>
      if answeredOk (answers n) then 0 else retriesAfter answers left (n + 1) + 1

/-- Arguments that fit the schema of the tool. -/
def fitsSchema (tool : Json) (args : Dict) : Bool :=
  match tool with
  | .str name =>
      match legacyRegistry.lookup name with
      | some schema => (validateParams args schema).isOk
      | none => false
  | _ => false

/-- A success whose body, where there is one, is a dictionary. -/
def bodyReadable (res : Dict) : Prop :=
  answeredOk res = true → ((res.getD "body" (.obj [])).dict?).isSome = true

/-- The tool node has no reason to turn down a step: from the `n`-th call on, every step
but `ask_user` has arguments that fit, and the answer that ends a `place_order` can be
read. -/
def Compatible (maxRetry : ℤ) (answers : ℕ → Dict) : List (Json × Dict) → ℕ → Prop
  | [], _ => True
  | (tool, args) :: calls, n =>
      if tool = .str "ask_user" then Compatible maxRetry answers calls n
      else if tool = .str "place_order" then
        fitsSchema tool args = true ∧
          bodyReadable (answers (n + retriesAfter answers maxRetry.toNat n)) ∧
          Compatible maxRetry answers calls (n + retriesAfter answers maxRetry.toNat n + 1)
      else fitsSchema tool args = true ∧ Compatible maxRetry answers calls (n + 1)

/-! ### A turn -/

/-- What a turn adds to a report. -/
structure Turn where
  retries : ℕ
  names : List Json
  text : String

def LoopView.after (v : LoopView) (tool : Json) (args : Dict) (t : Turn) : LoopView where
  calledTools := v.calledTools ++ [tool]
  calledArgs := v.calledArgs.update args
  retryCount := v.retryCount + t.retries
  resultNames := v.resultNames ++ t.names
  finalResponse := t.text

/-- The text for the last answer to `place_order`. -/
def orderText (res : Dict) : Except PyError String :=
  if answeredOk res then
    ((res.getD "body" (.obj [])).getAttr "order_id").map fun orderId =>
      if orderId.truthy then "已下单，订单号 " ++ orderId.pyStr else "已下单。"
  else .ok "下单失败，请稍后重试。"

/-- `k` calls of a `place_order` from the attempt number `i` on. -/
def placeCalls (args : Dict) (quantity : ℤ) : ℕ → ℕ → List ClientOp
  | _, 0 => []
  | i, k + 1 =>
      .placeOrder (args.getD "item_name" (.str "")) quantity (args.getD "address" (.str "")) i ::
        placeCalls args quantity (i + 1) k

/-- The entries of `k` retries from the number `i` on, the first of them answered by the
call number `n`. -/
def retryEntries (answers : ℕ → Dict) : ℕ → ℕ → ℕ → List Dict
  | _, _, 0 => []
  | i, n, k + 1 =>
      toolResult (retryName i) (answers n) :: retryEntries answers (i + 1) (n + 1) k

/-- The entries of a `place_order` with `k` retries. -/
def placeEntries (answers : ℕ → Dict) (n k : ℕ) : List Dict :=
  toolResult (.str "place_order") (answers n) :: retryEntries answers 1 (n + 1) k

/-- A turn of `execute_plan` from the `n`-th call on, with its calls. -/
def clientTurn (maxRetry : ℤ) (answers : ℕ → Dict) (tool : Json) (args : Dict) (n : ℕ) :
    Except PyError Turn × List ClientOp :=
  if tool = .str "place_order" then
    match (args.getD "quantity" (.int 1)).toInt with
    | .error e => (.error e, [])
    | .ok quantity =>
        let k := retriesAfter answers maxRetry.toNat n
        ((orderText (answers (n + k))).map fun text =>
          ⟨k, (placeEntries answers n k).map fun entry => entry.get "tool", text⟩,
          placeCalls args quantity 0 (k + 1))
  else if tool = .str "query_order" then
    (.ok ⟨0, [tool], if answeredOk (answers n) then "订单查询完成。" else "订单不存在或查询失败。"⟩,
      [.queryOrder (args.getD "order_id" (.str ""))])
  else if tool = .str "cancel_order" then
    (.ok ⟨0, [tool], if answeredOk (answers n) then "订单取消完成。" else "订单取消失败。"⟩,
      [.cancelOrder (args.getD "order_id" (.str ""))])
  else (.ok ⟨0, [.str "ask_user"], "参数不足或请求不合理，请补充信息。"⟩, [])

/-- A turn that the executor turns down. -/
def rejectedTurn (tool : Json) : Turn := ⟨0, [tool], "参数不足或请求不合理，请补充信息。"⟩

/-- A turn of the tool node. -/
def toolTurn (maxRetry : ℤ) (answers : ℕ → Dict) (tool : Json) (args : Dict) (n : ℕ) :
    Turn × List ClientOp :=
  if fitsSchema tool args then
    let (turn, calls) := clientTurn maxRetry answers tool args n
    ((turn.toOption).getD (rejectedTurn tool), calls)
  else (rejectedTurn tool, [])

/-- The turns of `execute_plan`. -/
def clientTurns (maxRetry : ℤ) (answers : ℕ → Dict) :
    List (Json × Dict) → LoopView → ℕ → Except PyError LoopView × List ClientOp
  | [], v, _ => (.ok v, [])
  | (tool, args) :: rest, v, n =>
      match clientTurn maxRetry answers tool args n with
      | (.error e, calls) => (.error e, calls)
      | (.ok turn, calls) =>
          let (res, more) := clientTurns maxRetry answers rest (v.after tool args turn)
            (n + calls.length)
          (res, calls ++ more)

/-- The turns of the tool node. -/
def toolTurns (maxRetry : ℤ) (answers : ℕ → Dict) :
    List (Json × Dict) → LoopView → ℕ → LoopView × List ClientOp
  | [], v, _ => (v, [])
  | (tool, args) :: rest, v, n =>
      let (turn, calls) := toolTurn maxRetry answers tool args n
      let (res, more) := toolTurns maxRetry answers rest (v.after tool args turn)
        (n + calls.length)
      (res, calls ++ more)

/-! ### The turns of `execute_plan` -/

section Client

variable {answers : ℕ → Dict} {maxRetry : ℤ}

theorem ClientProg.eval_placeOrder {α : Type} (itemName : Json) (quantity : ℤ) (address : Json)
    (i : ℕ) (f : Dict → ClientProg α) (calls : List ClientOp) :
    (ClientProg.placeOrder itemName quantity address i >>= f).eval (answering answers) calls =
      (f (answers calls.length)).eval (answering answers)
        (calls ++ [.placeOrder itemName quantity address i]) := rfl

theorem ClientProg.eval_queryOrder {α : Type} (orderId : Json) (f : Dict → ClientProg α)
    (calls : List ClientOp) :
    (ClientProg.queryOrder orderId >>= f).eval (answering answers) calls =
      (f (answers calls.length)).eval (answering answers) (calls ++ [.queryOrder orderId]) := rfl

theorem ClientProg.eval_cancelOrder {α : Type} (orderId : Json) (f : Dict → ClientProg α)
    (calls : List ClientOp) :
    (ClientProg.cancelOrder orderId >>= f).eval (answering answers) calls =
      (f (answers calls.length)).eval (answering answers) (calls ++ [.cancelOrder orderId]) := rfl

/-- The retries of `execute_plan` after the call number `n`. -/
theorem PlanLoop.eval_retries (args : Dict) (quantity : ℤ) (left : ℕ) :
    ∀ (currentTry n : ℕ) (l : PlanLoop) (calls : List ClientOp), calls.length = n + 1 →
      (PlanLoop.retries args quantity left currentTry (answers n) l).eval (answering answers)
          calls =
        (.ok (answers (n + retriesAfter answers left n),
          { l with
            retryCount := l.retryCount + retriesAfter answers left n
            toolResults := l.toolResults ++
              retryEntries answers (currentTry + 1) (n + 1) (retriesAfter answers left n) }),
          calls ++ placeCalls args quantity (currentTry + 1) (retriesAfter answers left n)) := by
  induction left with
  | zero =>
      intro currentTry n l calls _
      simp [PlanLoop.retries, retriesAfter, retryEntries, placeCalls]
  | succ left ih =>
      intro currentTry n l calls hlen
      by_cases hok : answeredOk (answers n) = true
      · simp [PlanLoop.retries, retriesAfter, retryEntries, placeCalls, hok]
      · rw [PlanLoop.retries, if_neg hok, ClientProg.eval_placeOrder, hlen,
          ih (currentTry + 1) (n + 1) _ _ (by simp [hlen])]
        have hlast : n + 1 + retriesAfter answers left (n + 1) =
            n + (retriesAfter answers left (n + 1) + 1) := by omega
        have hcount : l.retryCount + 1 + (retriesAfter answers left (n + 1) : ℤ) =
            l.retryCount + ((retriesAfter answers left (n + 1) + 1 : ℕ) : ℤ) := by
          push_cast
          ring
        simp only [retriesAfter, if_neg hok, retryEntries, placeCalls, hlast, hcount,
          List.append_assoc, List.singleton_append]

/-- The retries of the adapter after the call number `n`. -/
theorem LegacyToolAdapter.eval_retries {params : Dict} {quantity : ℤ}
    (hq : (params.getD "quantity" (.int 1)).toInt = .ok quantity) (left : ℕ) :
    ∀ (currentTry n : ℕ) (attempts : List Dict) (calls : List ClientOp), calls.length = n + 1 →
      (LegacyToolAdapter.retries params left currentTry (answers n) attempts).eval
          (answering answers) calls =
        (.ok (answers (n + retriesAfter answers left n),
          attempts ++ retryEntries answers (currentTry + 1) (n + 1) (retriesAfter answers left n),
          currentTry + retriesAfter answers left n),
          calls ++ placeCalls params quantity (currentTry + 1) (retriesAfter answers left n)) := by
  induction left with
  | zero =>
      intro currentTry n attempts calls _
      simp [LegacyToolAdapter.retries, retriesAfter, retryEntries, placeCalls]
  | succ left ih =>
      intro currentTry n attempts calls hlen
      by_cases hok : answeredOk (answers n) = true
      · simp [LegacyToolAdapter.retries, retriesAfter, retryEntries, placeCalls, hok]
      · rw [LegacyToolAdapter.retries, if_neg hok, hq, Prog.ofExcept, Prog.ret_bind,
          ClientProg.eval_placeOrder, hlen, ih (currentTry + 1) (n + 1) _ _ (by simp [hlen])]
        have hlast : n + 1 + retriesAfter answers left (n + 1) =
            n + (retriesAfter answers left (n + 1) + 1) := by omega
        have hcount : currentTry + 1 + retriesAfter answers left (n + 1) =
            currentTry + (retriesAfter answers left (n + 1) + 1) := by omega
        simp only [retriesAfter, if_neg hok, retryEntries, placeCalls, hlast, hcount,
          List.append_assoc, List.singleton_append]

/-- A `place_order` of `execute_plan`. -/
theorem PlanLoop.eval_place {args : Dict} {quantity : ℤ}
    (hq : (args.getD "quantity" (.int 1)).toInt = .ok quantity) (l : PlanLoop)
    (calls : List ClientOp) :
    (l.placeOrder maxRetry args).eval (answering answers) calls =
      ((orderText (answers (calls.length + retriesAfter answers maxRetry.toNat calls.length))).map
        fun text => { l with
          retryCount := l.retryCount + retriesAfter answers maxRetry.toNat calls.length
          toolResults := l.toolResults ++ placeEntries answers calls.length
            (retriesAfter answers maxRetry.toNat calls.length)
          finalResponse := text },
        calls ++ placeCalls args quantity 0 (retriesAfter answers maxRetry.toNat calls.length + 1)) := by
  rw [PlanLoop.placeOrder, hq, Prog.ofExcept, Prog.ret_bind, ClientProg.eval_placeOrder,
    Prog.eval_bind_ok (PlanLoop.eval_retries args quantity maxRetry.toNat 0 calls.length _ _
      (by simp))]
  simp only [orderText, placeEntries, placeCalls, List.append_assoc, List.singleton_append]
  by_cases hok : answeredOk
      (answers (calls.length + retriesAfter answers maxRetry.toNat calls.length)) = true
  · rw [if_pos hok, if_pos hok]
    cases (Dict.getD (answers (calls.length + retriesAfter answers maxRetry.toNat calls.length))
      "body" (.obj [])).getAttr "order_id" with
    | error e => rfl
    | ok orderId => rfl
  · rw [if_neg hok, if_neg hok]
    rfl

/-- A `place_order` of the adapter. -/
theorem LegacyToolAdapter.eval_place {self : LegacyToolAdapter} {params : Dict} {quantity : ℤ}
    (hname : self.name = "place_order")
    (hq : (params.getD "quantity" (.int 1)).toInt = .ok quantity) (calls : List ClientOp) :
    (self.executePlaceOrder params).eval (answering answers) calls =
      ((orderText (answers
          (calls.length + retriesAfter answers self.maxRetry.toNat calls.length))).map
        fun text => self.result
          (answers (calls.length + retriesAfter answers self.maxRetry.toNat calls.length))
          (placeEntries answers calls.length
            (retriesAfter answers self.maxRetry.toNat calls.length))
          text (retriesAfter answers self.maxRetry.toNat calls.length),
        calls ++ placeCalls params quantity 0
          (retriesAfter answers self.maxRetry.toNat calls.length + 1)) := by
  rw [executePlaceOrder, hq, Prog.ofExcept, Prog.ret_bind, ClientProg.eval_placeOrder,
    Prog.eval_bind_ok (eval_retries hq self.maxRetry.toNat 0 calls.length _ _ (by simp))]
  simp only [orderText, placeEntries, placeCalls, List.append_assoc, List.singleton_append,
    hname, Nat.zero_add]
  by_cases hok : answeredOk
      (answers (calls.length + retriesAfter answers self.maxRetry.toNat calls.length)) = true
  · rw [if_pos hok, if_pos hok]
    cases (Dict.getD (answers (calls.length + retriesAfter answers self.maxRetry.toNat
      calls.length)) "body" (.obj [])).getAttr "order_id" with
    | error e => rfl
    | ok orderId => rfl
  · rw [if_neg hok, if_neg hok]
    rfl

/-- A turn of `execute_plan`. -/
theorem PlanLoop.eval_step {step : Json} {tool : Json} {args : Dict}
    (hstep : stepCall step = .ok (tool, args)) (l : PlanLoop) (calls : List ClientOp) :
    ∃ res, (l.step maxRetry none step).eval (answering answers) calls =
        (res, calls ++ (clientTurn maxRetry answers tool args calls.length).2) ∧
      res.map PlanLoop.view =
        (clientTurn maxRetry answers tool args calls.length).1.map (l.view.after tool args) := by
  rw [PlanLoop.step, hstep, Prog.ofExcept, Prog.ret_bind]
  simp only [stepDenied, Prog.ofExcept, Prog.ret_bind, clientTurn]
  by_cases hplace : tool = .str "place_order"
  · simp only [if_pos hplace]
    cases hq : (args.getD "quantity" (.int 1)).toInt with
    | error e =>
        refine ⟨.error e, ?_, rfl⟩
        rw [PlanLoop.placeOrder, hq]
        simp [Prog.ofExcept]
    | ok quantity =>
        refine ⟨_, PlanLoop.eval_place hq _ _, ?_⟩
        cases orderText (answers (calls.length + retriesAfter answers maxRetry.toNat calls.length)) with
        | error e => rfl
        | ok text => simp [Except.map, PlanLoop.view, LoopView.after]
  · simp only [if_neg hplace]
    by_cases hquery : tool = .str "query_order"
    · simp only [if_pos hquery, PlanLoop.queryOrder, ClientProg.eval_queryOrder]
      refine ⟨_, rfl, ?_⟩
      simp [Except.map, PlanLoop.view, LoopView.after, toolResult, hquery, Dict.get_cons]
    · simp only [if_neg hquery]
      by_cases hcancel : tool = .str "cancel_order"
      · simp only [if_pos hcancel, PlanLoop.cancelOrder, ClientProg.eval_cancelOrder]
        refine ⟨_, rfl, ?_⟩
        simp [Except.map, PlanLoop.view, LoopView.after, toolResult, hcancel, Dict.get_cons]
      · simp only [if_neg hcancel, List.append_nil]
        refine ⟨_, rfl, ?_⟩
        simp [Except.map, PlanLoop.view, LoopView.after, toolResult, Dict.get_cons]
/-- Steps and the calls that they are. -/
abbrev Steps (steps : List Json) (turns : List (Json × Dict)) : Prop :=
  List.Forall₂ (fun step turn => stepCall step = .ok turn) steps turns

/-- The loop of `execute_plan`. -/
theorem PlanLoop.eval_steps {steps : List Json} {turns : List (Json × Dict)}
    (hsteps : Steps steps turns) (l : PlanLoop) (calls : List ClientOp) :
    ∃ res, (PlanLoop.steps maxRetry none steps l).eval (answering answers) calls =
        (res, calls ++ (clientTurns maxRetry answers turns l.view calls.length).2) ∧
      res.map PlanLoop.view = (clientTurns maxRetry answers turns l.view calls.length).1 := by
  induction hsteps generalizing l calls with
  | nil =>
      refine ⟨.ok l, ?_, rfl⟩
      simp [PlanLoop.steps, clientTurns]
  | @cons step turn steps turns hstep _ ih =>
      obtain ⟨tool, args⟩ := turn
      obtain ⟨res, heval, hres⟩ :=
        @PlanLoop.eval_step answers maxRetry _ _ _ hstep l calls
      rw [PlanLoop.steps, Prog.eval_bind, heval]
      cases hturn : clientTurn maxRetry answers tool args calls.length with
      | mk outcome made =>
          rw [hturn] at hres
          cases outcome with
          | error e =>
              cases res with
              | ok l' => cases hres
              | error e' =>
                  refine ⟨.error e', ?_, ?_⟩
                  · simp [clientTurns, hturn]
                  · simpa [clientTurns, hturn, Except.map] using hres
          | ok turn =>
              cases res with
              | error e' => cases hres
              | ok l' =>
                  have hview : l'.view = l.view.after tool args turn := Except.ok.inj hres
                  obtain ⟨res', heval', hres'⟩ := ih l' (calls ++ made)
                  refine ⟨res', ?_, ?_⟩
                  · simp only [heval', clientTurns, hturn, ← hview, List.length_append,
                      List.append_assoc]
                  · simp only [hres', clientTurns, hturn, ← hview, List.length_append]

end Client

/-! ### The turns of the tool node -/

/-- A result that is reported as a turn. -/
structure ToolExecutionResult.Shows (r : ToolExecutionResult) (tool : Json) (t : Turn) :
    Prop where
  retries : r.retries = .ok (t.retries : ℤ)
  names : (if r.attempts = [] then [tool]
    else r.attempts.map fun attempt => .str (attempt.getD "tool" tool).pyStr) = t.names
  text : ∀ text, r.responseText text = t.text

/-- The entry that `add_tool_result` appends. -/
def toolEntry (tool result error : Json) : Dict :=
  [("tool", tool), ("result", result)] ++ if error = .null then [] else [("error", error)]

theorem addToolResult_eq (s : AgentState) (tool result error : Json) :
    s.addToolResult tool result error =
      { s with toolResult := s.toolResult ++ [toolEntry tool result error] } := rfl

@[simp] theorem get_toolEntry (tool result error : Json) :
    (toolEntry tool result error).get "tool" = tool := rfl

theorem foldl_addToolResult (tool : Json) (attempts : List Dict) (s : AgentState) :
    attempts.foldl (fun s attempt =>
        s.addToolResult (.str (attempt.getD "tool" tool).pyStr) (attempt.get "result")
          (attempt.get "error")) s =
      { s with
        toolResult := s.toolResult ++ attempts.map fun attempt =>
          toolEntry (.str (attempt.getD "tool" tool).pyStr) (attempt.get "result")
            (attempt.get "error") } := by
  induction attempts generalizing s with
  | nil => simp
  | cons attempt attempts ih =>
      rw [List.foldl_cons, ih, addToolResult_eq]
      simp only [List.map_cons, List.append_assoc, List.singleton_append]

/-- The end of a turn. -/
theorem ToolLoop.record_shows {l : ToolLoop} {tool : Json} {args : Dict}
    {r : ToolExecutionResult} {t : Turn} (hshows : r.Shows tool t) :
    ∃ l', l.record tool args r = .ok l' ∧ l'.view = l.view.after tool args t ∧
      l'.state = { l.state with toolResult := l'.state.toolResult } := by
  unfold ToolLoop.record
  rw [hshows.retries, foldl_addToolResult]
  refine ⟨_, rfl, ?_, ?_⟩
  · by_cases hnil : r.attempts = []
    · have hnames : [tool] = t.names := by rw [← hshows.names, if_pos hnil]
      simp [ToolLoop.view, LoopView.after, if_pos hnil, addToolResult_eq, hshows.text, ← hnames]
    · have hnames : (r.attempts.map fun attempt => Json.str (attempt.getD "tool" tool).pyStr) =
          t.names := by rw [← hshows.names, if_neg hnil]
      simp [ToolLoop.view, LoopView.after, if_neg hnil, hshows.text, ← hnames]
  · by_cases hnil : r.attempts = []
    · simp [if_pos hnil, addToolResult_eq]
    · simp [if_neg hnil]

theorem shows_failedCall (tool : Json) (e : PyError) :
    (failedCall tool e).Shows tool (rejectedTurn tool) where
  retries := rfl
  names := rfl
  text _ := rfl

/-- An entry whose tool is a text. -/
def Named (entry : Dict) : Prop := ∃ name, entry.lookup "tool" = some (.str name)

theorem named_toolResult (name : String) (res : Dict) : Named (toolResult (.str name) res) :=
  ⟨name, rfl⟩

theorem named_retryEntries {answers : ℕ → Dict} (k : ℕ) :
    ∀ i n, ∀ entry ∈ retryEntries answers i n k, Named entry := by
  induction k with
  | zero =>
      intro i n entry h
      cases h
  | succ k ih =>
      intro i n entry h
      rcases List.mem_cons.mp h with rfl | h
      · exact named_toolResult _ _
      · exact ih (i + 1) (n + 1) entry h

theorem Named.shown {entry : Dict} (h : Named entry) (tool : Json) :
    Json.str (entry.getD "tool" tool).pyStr = entry.get "tool" := by
  obtain ⟨name, hname⟩ := h
  simp [Dict.getD, Dict.has, Dict.get, hname, Json.pyStr]

theorem retries_of_count {r : ToolExecutionResult} {n : ℕ}
    (h : r.metadata.get "retry_count" = .int n) : r.retries = .ok (n : ℤ) := by
  unfold ToolExecutionResult.retries
  rw [h]
  cases n with
  | zero => rfl
  | succ n => rfl

/-- The result of an adapter. -/
theorem LegacyToolAdapter.shows_result {self : LegacyToolAdapter} {tool : Json} {res : Dict}
    {attempts : List Dict} {text : String} {n : ℕ} (hsome : attempts ≠ [])
    (hnamed : ∀ entry ∈ attempts, Named entry) :
    (self.result res attempts text n).Shows tool
      ⟨n, attempts.map fun entry => entry.get "tool", text⟩ where
  retries := retries_of_count rfl
  names := by
    show (if attempts = [] then [tool] else _) = _
    rw [if_neg hsome]
    exact List.map_congr_left fun entry h => (hnamed entry h).shown tool
  text _ := rfl

/-! #### The executor -/

section Executor

variable {answers : ℕ → Dict} {maxRetry : ℤ} {chaosMode : Json}

/-- The calls of a tool node, served by the adapters over the client. -/
def adapting (maxRetry : ℤ) (chaosMode : Json) (answers : ℕ → Dict) (calls : List ClientOp)
    (o : PlatformSig.Op) : Except PyError (PlatformSig.Ret o) × List ClientOp :=
  (legacyTools maxRetry chaosMode o).eval (answering answers) calls

theorem mem_stepTools_of_lookup {name : String} {schema : ToolSchema}
    (h : legacyRegistry.lookup name = some schema) : name ∈ stepTools := by
  by_contra hnot
  simp only [stepTools, List.mem_cons, List.not_mem_nil, or_false, not_or] at hnot
  obtain ⟨h₁, h₂, h₃, h₄⟩ := hnot
  simp [legacyRegistry, List.lookup_cons, beq_eq_false_iff_ne.mpr h₁, beq_eq_false_iff_ne.mpr h₂,
    beq_eq_false_iff_ne.mpr h₃, beq_eq_false_iff_ne.mpr h₄] at h

theorem fitsSchema_cases {tool : Json} {args : Dict} (h : fitsSchema tool args = true) :
    ∃ name schema, tool = .str name ∧ legacyRegistry.lookup name = some schema ∧
      validateParams args schema = .ok () := by
  unfold fitsSchema at h
  split at h
  · next name =>
      split at h
      · next schema hlookup =>
          obtain ⟨u, hu⟩ := exists_ok_of_isOk h
          exact ⟨name, schema, rfl, hlookup, hu⟩
      · cases h
  · cases h

theorem decide_of_fits {name : String} {args : Dict} (h : fitsSchema (.str name) args = true) :
    (ToolNode.default chaosMode).executor.decide (.str name) args = .ok (.inr (name, args)) := by
  obtain ⟨name', schema, hname, hlookup, hvalid⟩ := fitsSchema_cases h
  obtain rfl := Json.str.inj hname
  simp [ToolNode.default, ToolExecutor.decide, ToolExecutor.prepare, hlookup, hvalid]

theorem decide_of_not_fits {tool : Json} {args : Dict} (h : fitsSchema tool args = false) :
    ∃ e, (ToolNode.default chaosMode).executor.decide tool args =
      .ok (.inl (failedCall tool e)) := by
  simp only [ToolNode.default, ToolExecutor.decide]
  cases tool with
  | str name =>
      simp only [fitsSchema] at h
      cases hlookup : legacyRegistry.lookup name with
      | none =>
          refine ⟨.raised "ToolNotFoundError" ("Tool not registered: " ++ name), ?_⟩
          simp [ToolExecutor.prepare, hlookup]
      | some schema =>
          rw [hlookup] at h
          cases hvalid : validateParams args schema with
          | ok u =>
              simp only [hvalid] at h
              cases h
          | error e => exact ⟨e, by simp [ToolExecutor.prepare, hlookup, hvalid]⟩
  | arr items => exact ⟨.typeError, rfl⟩
  | obj fields => exact ⟨.typeError, rfl⟩
  | _ => exact ⟨_, rfl⟩

/-- What a schema asks of its first field. -/
theorem validateParams_cons {params : Dict} {field : String} {spec : FieldSpec}
    {schema : ToolSchema} (h : validateParams params ((field, spec) :: schema) = .ok ()) :
    (spec.required = true → params.has field = true) ∧
      (∀ t, spec.type = some t → params.has field = true →
        t.accepts (params.get field) = true) ∧
      validateParams params schema = .ok () := by
  rw [validateParams] at h
  split at h
  · cases h
  · next hreq =>
      have hhas : spec.required = true → params.has field = true := by
        intro hr
        by_contra hnot
        exact hreq ⟨hr, by simpa using hnot⟩
      split at h
      · next t ht =>
          split at h
          · cases h
          · next hacc =>
              refine ⟨hhas, ?_, h⟩
              intro t' ht' hhas'
              obtain rfl := Option.some.inj (ht.symm.trans ht')
              by_contra hnot
              exact hacc ⟨hhas', by simpa using hnot⟩
      · next hnone =>
          refine ⟨hhas, ?_, h⟩
          intro t ht
          rw [hnone] at ht
          cases ht

/-- The quantity of arguments that fit. -/
theorem quantity_of_fits {args : Dict} (h : fitsSchema (.str "place_order") args = true) :
    ∃ quantity, (args.getD "quantity" (.int 1)).toInt = .ok quantity := by
  obtain ⟨name, schema, hname, hlookup, hvalid⟩ := fitsSchema_cases h
  obtain rfl := Json.str.inj hname
  obtain rfl := Option.some.inj hlookup
  obtain ⟨-, -, hrest⟩ := validateParams_cons hvalid
  obtain ⟨hhas, hacc, -⟩ := validateParams_cons hrest
  have hget : args.getD "quantity" (.int 1) = args.get "quantity" := if_pos (hhas rfl)
  rw [hget]
  have hint := hacc .int rfl (hhas rfl)
  cases hv : args.get "quantity" with
  | int i => exact ⟨i, rfl⟩
  | bool b => exact ⟨_, rfl⟩
  | _ =>
      rw [hv] at hint
      cases hint

/-- What an adapter comes to for a turn of `execute_plan`: its result shows the turn, or
both raise. -/
def Renders (tool : Json) (outcome : Except PyError Turn) :
    Except PyError ToolExecutionResult → Prop
  | .ok r => ∃ t, outcome = .ok t ∧ r.Shows tool t
  | .error _ => outcome.toOption = none

/-- An adapter does what `execute_plan` does. -/
theorem LegacyToolAdapter.eval_execute {name : String} {args : Dict}
    (hfits : fitsSchema (.str name) args = true) (calls : List ClientOp) :
    ∃ res, ((legacyAdapter maxRetry chaosMode name).execute args).eval (answering answers)
        calls = (res, calls ++ (clientTurn maxRetry answers (.str name) args calls.length).2) ∧
      Renders (.str name) (clientTurn maxRetry answers (.str name) args calls.length).1 res := by
  obtain ⟨name', schema, hname, hlookup, -⟩ := fitsSchema_cases hfits
  obtain rfl := Json.str.inj hname
  have hmem := mem_stepTools_of_lookup hlookup
  simp only [stepTools, List.mem_cons, List.not_mem_nil, or_false] at hmem
  rcases hmem with rfl | rfl | rfl | rfl
  · obtain ⟨quantity, hq⟩ := quantity_of_fits hfits
    have heval := @LegacyToolAdapter.eval_place answers
      (legacyAdapter maxRetry chaosMode "place_order") _ _ rfl hq calls
    simp only [clientTurn, if_true, hq]
    refine ⟨_, heval, ?_⟩
    show Renders _ _ ((orderText (answers
      (calls.length + retriesAfter answers maxRetry.toNat calls.length))).map _)
    cases orderText (answers
        (calls.length + retriesAfter answers maxRetry.toNat calls.length)) with
    | error e => exact rfl
    | ok text =>
        refine ⟨_, rfl, LegacyToolAdapter.shows_result (by simp [placeEntries]) ?_⟩
        intro entry hentry
        rcases List.mem_cons.mp hentry with rfl | hentry
        · exact named_toolResult _ _
        · exact named_retryEntries _ _ _ entry hentry
  · refine ⟨_, rfl, _, rfl, LegacyToolAdapter.shows_result (by simp) ?_⟩
    intro entry hentry
    obtain rfl := List.mem_singleton.mp hentry
    exact named_toolResult _ _
  · refine ⟨_, rfl, _, rfl, LegacyToolAdapter.shows_result (by simp) ?_⟩
    intro entry hentry
    obtain rfl := List.mem_singleton.mp hentry
    exact named_toolResult _ _
  · have hturn : clientTurn maxRetry answers (.str "ask_user") args calls.length =
        (.ok (rejectedTurn (.str "ask_user")), []) := by simp [clientTurn, rejectedTurn]
    rw [hturn, List.append_nil]
    exact ⟨_, rfl, _, rfl, ⟨rfl, rfl, fun _ => rfl⟩⟩

/-- A call of the tool node, with its result. -/
theorem ToolExecutor.eval_execute (tool : Json) (args : Dict) (calls : List ClientOp) :
    ∃ r, ((ToolNode.default chaosMode).executor.execute tool args).eval
        (adapting maxRetry chaosMode answers) calls =
          (.ok r, calls ++ (toolTurn maxRetry answers tool args calls.length).2) ∧
      r.Shows tool (toolTurn maxRetry answers tool args calls.length).1 := by
  cases hfits : fitsSchema tool args with
  | false =>
      obtain ⟨e, hdecide⟩ := @decide_of_not_fits chaosMode _ _ hfits
      rw [ToolExecutor.execute, hdecide]
      simp only [toolTurn, hfits]
      refine ⟨failedCall tool e, ?_, shows_failedCall tool e⟩
      simp
  | true =>
      obtain ⟨name, schema, rfl, hlookup, -⟩ := fitsSchema_cases hfits
      rw [ToolExecutor.execute, decide_of_fits hfits]
      simp only [toolTurn, hfits, if_true]
      obtain ⟨res, heval, hrenders⟩ := @LegacyToolAdapter.eval_execute answers
        maxRetry chaosMode _ _ hfits calls
      -- the tool is called, and its exception is an answer
      have hcall : (Platform.tool name args).attempt.eval
          (adapting maxRetry chaosMode answers) calls =
          (.ok (res.map ToolReply.result),
            calls ++ (clientTurn maxRetry answers (.str name) args calls.length).2) := by
        have htool : (Platform.tool name args).eval (adapting maxRetry chaosMode answers) calls =
            (res.map ToolReply.result,
              calls ++ (clientTurn maxRetry answers (.str name) args calls.length).2) := by
          refine (Prog.eval_perform (S := PlatformSig) (.tool name args) calls).trans ?_
          show ((legacyAdapter maxRetry chaosMode name).execute args >>= fun r =>
            (pure (ToolReply.result r) : ClientProg ToolReply)).eval (answering answers) calls = _
          rw [Prog.eval_bind, heval]
          cases res <;> rfl
        rw [Prog.eval_attempt, htool]
      rw [Prog.eval_bind_ok hcall]
      refine ⟨settle name (res.map ToolReply.result), rfl, ?_⟩
      cases res with
      | ok r =>
          obtain ⟨t, ht, hshows⟩ := hrenders
          rw [ht]
          exact hshows
      | error e =>
          have hnone : (clientTurn maxRetry answers (.str name) args
              calls.length).1.toOption = none := hrenders
          rw [hnone]
          exact shows_failedCall _ e

/-- The loop of a tool node. -/
theorem ToolNode.eval_steps {steps : List Json} {turns : List (Json × Dict)}
    (hsteps : Steps steps turns) (l : ToolLoop) (calls : List ClientOp) :
    ∃ l', ((ToolNode.default chaosMode).steps steps l).eval
        (adapting maxRetry chaosMode answers) calls =
          (.ok l', calls ++ (toolTurns maxRetry answers turns l.view calls.length).2) ∧
      l'.view = (toolTurns maxRetry answers turns l.view calls.length).1 ∧
      l'.state = { l.state with toolResult := l'.state.toolResult } := by
  induction hsteps generalizing l calls with
  | nil =>
      refine ⟨l, ?_, rfl, rfl⟩
      simp [ToolNode.steps, toolTurns]
  | @cons step turn steps turns hstep _ ih =>
      obtain ⟨tool, args⟩ := turn
      obtain ⟨r, heval, hshows⟩ := @ToolExecutor.eval_execute answers
        maxRetry chaosMode tool args calls
      obtain ⟨l₁, hrecord, hview, hstate⟩ :=
        @ToolLoop.record_shows l _ args _ _ hshows
      obtain ⟨l', heval', hview', hstate'⟩ :=
        ih l₁ (calls ++ (toolTurn maxRetry answers tool args calls.length).2)
      refine ⟨l', ?_, ?_, ?_⟩
      · rw [ToolNode.steps, hstep, Prog.ofExcept, Prog.ret_bind]
        show ((ToolNode.default chaosMode).executor.execute tool args >>= fun r =>
          Prog.ofExcept (l.record tool args r) >>= fun l =>
            (ToolNode.default chaosMode).steps steps l).eval _ _ = _
        rw [Prog.eval_bind_ok heval, hrecord, Prog.ofExcept, Prog.ret_bind, heval']
        simp only [toolTurns, ← hview, List.length_append, List.append_assoc]
      · rw [hview']
        simp only [toolTurns, ← hview, List.length_append]
      · rw [hstate', hstate]

/-- The tokens count, whichever number is preferred. -/
theorem tokenUsage_ok {env : NodeEnv} {total : Json}
    (h : total = .null ∨ ∃ n, total.toInt? = some n) (estimated : ℤ) :
    ∃ usage, tokenUsage env total estimated = .ok usage := by
  unfold tokenUsage
  by_cases hestimated : env.tokenMetric = "estimated"
  · exact ⟨_, if_pos hestimated⟩
  · by_cases hnull : total = .null
    · by_cases hllm : env.tokenMetric = "llm" <;> simp [hestimated, hllm, hnull]
    · obtain ⟨n, hn⟩ := h.resolve_left hnull
      by_cases hllm : env.tokenMetric = "llm" <;> simp [hestimated, hllm, hnull, hn]

/-- What a tool node writes at its end. -/
theorem ToolNode.finish_report {env : NodeEnv} {l : ToolLoop} {llmMeta : Dict}
    (hmeta : l.state.metadata.getD "llm_meta" (.obj []) = .obj llmMeta)
    (htokens : llmMeta.get "llm_total_tokens" = .null ∨
      ∃ n, (llmMeta.get "llm_total_tokens").toInt? = some n) :
    ∃ s, (ToolNode.default chaosMode).finish env l = .ok s ∧ s.stepsReport = l.view.report := by
  have hmeta' : (l.state.setAnswer (.str l.finalResponse)).metadata.getD "llm_meta" (.obj []) =
      .obj llmMeta := by
    rw [← hmeta]
    simp only [AgentState.setAnswer, AgentState.setMetadata, Dict.getD, Dict.has, Dict.get,
      Dict.lookup_set]
    rfl
  unfold ToolNode.finish
  simp only [hmeta', Json.getAttr]
  obtain ⟨usage, husage⟩ := @tokenUsage_ok env _ htokens
    (max 60 ((nodeRequestText (l.state.setAnswer (.str l.finalResponse)).request).length * 3 +
      l.finalResponse.length * 2 + l.retryCount * 25 + l.calledTools.length * 30))
  refine ⟨_, bind_eq_ok_iff.mpr ⟨_, rfl, bind_eq_ok_iff.mpr ⟨_, rfl, bind_eq_ok_iff.mpr ⟨_, rfl,
    bind_eq_ok_iff.mpr ⟨usage, husage, rfl⟩⟩⟩⟩, ?_⟩
  simp [AgentState.stepsReport, LoopView.report, ToolLoop.view, AgentState.updateMetadata,
    Dict.update, Dict.get_set_of_ne]
  rfl

end Executor

/-! ### Plans -/

/-- What equals a text is that text. -/
theorem pyEq_str {s : String} {v : Json} (h : (Json.str s).pyEq v = true) : v = .str s := by
  cases v with
  | str t =>
      rw [Json.pyEq, beq_iff_eq] at h
      rw [h]
  | _ => simp [Json.pyEq] at h

theorem pyEqFields_mem {fields fields' : Dict} (h : Json.pyEqFields fields fields' = true)
    {f : String × Json} (hf : f ∈ fields) :
    ∃ v, fields'.lookup f.1 = some v ∧ f.2.pyEq v = true := by
  induction fields with
  | nil => cases hf
  | cons g fields ih =>
      obtain ⟨k, a⟩ := g
      rw [Json.pyEqFields, Bool.and_eq_true] at h
      rcases List.mem_cons.mp hf with rfl | hf
      · cases hv : fields'.lookup k with
        | none =>
            rw [hv] at h
            exact absurd h.1 Bool.false_ne_true
        | some v =>
            rw [hv] at h
            exact ⟨v, rfl, h.1⟩
      · exact ih h.2 hf

/-- What equals a dictionary is one, with equal values under its keys. -/
theorem pyEq_obj {fields : Dict} {v : Json} (h : (Json.obj fields).pyEq v = true) :
    ∃ fields' : Dict, v = .obj fields' ∧ ∀ f ∈ fields, ∃ w, fields'.lookup f.1 = some w ∧
      f.2.pyEq w = true := by
  cases v with
  | obj fields' =>
      rw [Json.pyEq, Bool.and_eq_true] at h
      exact ⟨fields', rfl, fun f hf => pyEqFields_mem h.2 hf⟩
  | _ => simp [Json.pyEq] at h

/-- What equals a list is one, item by item. -/
theorem pyEq_arr {items : List Json} {v : Json} (h : (Json.arr items).pyEq v = true) :
    ∃ items', v = .arr items' ∧
      List.Forall₂ (fun item item' => item.pyEq item' = true) items items' := by
  cases v with
  | arr items' =>
      rw [Json.pyEq] at h
      refine ⟨items', rfl, ?_⟩
      induction items generalizing items' with
      | nil =>
          cases items' with
          | nil => exact .nil
          | cons item' items' => simp [Json.pyEqItems] at h
      | cons item items ih =>
          cases items' with
          | nil => simp [Json.pyEqItems] at h
          | cons item' items' =>
              rw [Json.pyEqItems, Bool.and_eq_true] at h
              exact .cons h.1 (ih items' h.2)
  | _ => simp [Json.pyEq] at h

/-- A step of a plan that was accepted. -/
def Regular (step : Json) (call : Json × Dict) : Prop :=
  stepCall step = .ok call ∧ ∃ name ∈ stepTools, call.1 = .str name

/-- A step with a tool and arguments. -/
theorem regular_of_lookup {step : Dict} {tool : String} {args : Dict} (hmem : tool ∈ stepTools)
    (htool : step.lookup "tool" = some (.str tool)) (hargs : step.lookup "args" = some (.obj args)) :
    Regular (.obj step) (.str tool, args) := by
  refine ⟨?_, tool, hmem, rfl⟩
  simp [stepCall, Dict.getD, Dict.has, Dict.get, htool, hargs, Json.dict?]

theorem regular_of_sanitized {items steps : List Json} (hitems : ∀ item ∈ items, Sanitized item)
    (hsteps : List.Forall₂ (fun item step => item.pyEq step = true) items steps) :
    ∃ turns, List.Forall₂ Regular steps turns := by
  induction hsteps with
  | nil => exact ⟨[], .nil⟩
  | @cons item step items steps hstep _ ih =>
      obtain ⟨tool, args, hmem, rfl⟩ := hitems item List.mem_cons_self
      obtain ⟨fields, rfl, hfields⟩ := pyEq_obj hstep
      obtain ⟨v, hv, hveq⟩ := hfields ("tool", .str tool) (by simp)
      obtain ⟨w, hw, hweq⟩ := hfields ("args", .obj args) (by simp)
      obtain rfl := pyEq_str hveq
      obtain ⟨args', rfl, -⟩ := pyEq_obj hweq
      obtain ⟨turns, hturns⟩ := ih fun item hitem => hitems item (List.mem_cons_of_mem _ hitem)
      exact ⟨_, .cons (regular_of_lookup hmem hv hw) hturns⟩

/-- The steps of a plan that `validate_plan` gives back as it is. -/
theorem Accepted.steps {plan : Dict} (h : Accepted plan) :
    ∃ steps turns, planSteps (.obj plan) = .ok steps ∧ List.Forall₂ Regular steps turns := by
  obtain ⟨out, hvalid, heq⟩ := h
  obtain ⟨plan', hplan, hfields⟩ := pyEq_obj heq
  obtain rfl := Json.obj.inj hplan
  rcases validatePlan_forms hvalid with
    ⟨tool, args, valid, hmem, -, rfl⟩ | ⟨items, valid, -, hitems, rfl⟩
  · -- a single tool is the only step
    obtain ⟨v, hv, hveq⟩ := hfields ("tool", .str tool) (by simp [actionPlan])
    obtain ⟨w, hw, hweq⟩ := hfields ("args", .obj args) (by simp [actionPlan])
    obtain rfl := pyEq_str hveq
    obtain ⟨args', rfl, -⟩ := pyEq_obj hweq
    refine ⟨[.obj plan], [(.str tool, args')], ?_, .cons (regular_of_lookup hmem hv hw) .nil⟩
    simp [planSteps, Dict.get, hv, Json.pyEq, ne_workflow_of_mem hmem]
  · obtain ⟨v, hv, hveq⟩ := hfields ("tool", .str "workflow") (by simp [workflowPlan])
    obtain ⟨w, hw, hweq⟩ := hfields ("steps", .arr items) (by simp [workflowPlan])
    obtain rfl := pyEq_str hveq
    obtain ⟨steps, rfl, hsteps⟩ := pyEq_arr hweq
    obtain ⟨turns, hturns⟩ := regular_of_sanitized hitems hsteps
    refine ⟨steps, turns, ?_, hturns⟩
    simp [planSteps, Dict.get, hv, hw, Json.pyEq, Json.iter]

theorem mem_stepTools_of_regular {steps : List Json} {turns : List (Json × Dict)}
    (h : List.Forall₂ Regular steps turns) :
    ∀ turn ∈ turns, ∃ name ∈ stepTools, turn.1 = .str name := by
  induction h with
  | nil =>
      intro turn hturn
      cases hturn
  | cons hstep _ ih =>
      intro turn hturn
      rcases List.mem_cons.mp hturn with rfl | hturn
      · exact hstep.2
      · exact ih turn hturn

/-- The calls of a tool node are the steps. -/
theorem plannedCalls_of_steps {plan : Dict} {steps : List Json} {turns : List (Json × Dict)}
    (hplan : planSteps (.obj plan) = .ok steps) (hsteps : Steps steps turns) :
    plannedCalls (.obj plan) = turns := by
  have hfilter : steps.filterMap (fun step => (stepCall step).toOption) = turns := by
    clear hplan
    induction hsteps with
    | nil => rfl
    | cons hstep _ ih =>
        rw [List.filterMap_cons, hstep]
        exact congrArg _ ih
  rw [plannedCalls, hplan]
  exact hfilter

/-! ### The comparison -/

/-- A call that is no retry. -/
def ClientOp.firstAttempt : ClientOp → Bool
  | .placeOrder _ _ _ i => i == 0
  | _ => true

/-- A turn that calls the client in `execute_plan`. -/
def callsClient (turn : Json × Dict) : Bool := turn.1 ≠ .str "ask_user"

section Comparison

variable {answers : ℕ → Dict} {maxRetry : ℤ} {tool : Json} {args : Dict}

theorem length_placeCalls (args : Dict) (quantity : ℤ) (k : ℕ) :
    ∀ i, (placeCalls args quantity i k).length = k := by
  induction k with
  | zero =>
      intro i
      rfl
  | succ k ih =>
      intro i
      rw [placeCalls, List.length_cons, ih]

theorem countP_placeCalls (args : Dict) (quantity : ℤ) (k : ℕ) :
    (placeCalls args quantity 0 (k + 1)).countP ClientOp.firstAttempt = 1 := by
  have hretries : ∀ k i, (placeCalls args quantity (i + 1) k).countP ClientOp.firstAttempt = 0 := by
    intro k
    induction k with
    | zero =>
        intro i
        rfl
    | succ k ih =>
        intro i
        rw [placeCalls, List.countP_cons, ih]
        rfl
  rw [placeCalls, List.countP_cons, hretries]
  rfl

/-- A `place_order` with a quantity. -/
theorem clientTurn_place {quantity : ℤ}
    (hq : (args.getD "quantity" (.int 1)).toInt = .ok quantity) (n : ℕ) :
    clientTurn maxRetry answers (.str "place_order") args n =
      ((orderText (answers (n + retriesAfter answers maxRetry.toNat n))).map fun text =>
        ⟨retriesAfter answers maxRetry.toNat n,
          (placeEntries answers n (retriesAfter answers maxRetry.toNat n)).map
            fun entry => entry.get "tool", text⟩,
        placeCalls args quantity 0 (retriesAfter answers maxRetry.toNat n + 1)) := by
  simp only [clientTurn, if_true, hq]

/-- The calls of a turn, when the quantity of a `place_order` is a number: one first attempt
for every step but `ask_user`. -/
theorem countP_clientTurn {n : ℕ}
    (hq : tool = .str "place_order" →
      ∃ quantity, (args.getD "quantity" (.int 1)).toInt = .ok quantity)
    (hmem : ∃ name ∈ stepTools, tool = .str name) :
    (clientTurn maxRetry answers tool args n).2.countP ClientOp.firstAttempt =
      if callsClient (tool, args) then 1 else 0 := by
  obtain ⟨name, hname, rfl⟩ := hmem
  simp only [stepTools, List.mem_cons, List.not_mem_nil, or_false] at hname
  rcases hname with rfl | rfl | rfl | rfl
  · obtain ⟨quantity, hquantity⟩ := hq rfl
    simp only [clientTurn, if_true, hquantity]
    rw [countP_placeCalls]
    rfl
  · rfl
  · rfl
  · rfl

/-- The first attempts of `execute_plan`. -/
theorem countP_clientTurns {turns : List (Json × Dict)}
    (hmem : ∀ turn ∈ turns, ∃ name ∈ stepTools, turn.1 = .str name) {v v' : LoopView} {n : ℕ}
    (hok : (clientTurns maxRetry answers turns v n).1 = .ok v') :
    (clientTurns maxRetry answers turns v n).2.countP ClientOp.firstAttempt =
      turns.countP callsClient := by
  induction turns generalizing v n with
  | nil => rfl
  | cons turn turns ih =>
      obtain ⟨tool, args⟩ := turn
      have hcount := @countP_clientTurn answers maxRetry tool args n
      cases hturn : clientTurn maxRetry answers tool args n with
      | mk outcome calls =>
          cases outcome with
          | error e =>
              simp only [clientTurns, hturn] at hok
              cases hok
          | ok t =>
              have hq : tool = .str "place_order" →
                  ∃ quantity, (args.getD "quantity" (.int 1)).toInt = .ok quantity := by
                intro hplace
                cases hq : (args.getD "quantity" (.int 1)).toInt with
                | ok quantity => exact ⟨quantity, rfl⟩
                | error e =>
                    simp only [clientTurn, if_pos hplace, hq] at hturn
                    cases hturn
              have hcalls := hcount hq (hmem _ List.mem_cons_self)
              rw [hturn] at hcalls
              simp only [clientTurns, hturn] at hok ⊢
              rw [List.countP_append, hcalls, List.countP_cons,
                ih (fun turn h => hmem turn (List.mem_cons_of_mem _ h)) hok, Nat.add_comm]

/-- The first attempts of the tool node: those of the steps that fit. -/
theorem countP_toolTurns {turns : List (Json × Dict)}
    (hmem : ∀ turn ∈ turns, ∃ name ∈ stepTools, turn.1 = .str name) (v : LoopView) (n : ℕ) :
    (toolTurns maxRetry answers turns v n).2.countP ClientOp.firstAttempt =
      turns.countP fun turn => callsClient turn && fitsSchema turn.1 turn.2 := by
  induction turns generalizing v n with
  | nil => rfl
  | cons turn turns ih =>
      obtain ⟨tool, args⟩ := turn
      have hrest := fun v n => ih (fun turn h => hmem turn (List.mem_cons_of_mem _ h)) v n
      simp only [toolTurns]
      rw [List.countP_append, hrest, List.countP_cons, Nat.add_comm]
      congr 1
      cases hfits : fitsSchema tool args with
      | false => simp [toolTurn, hfits]
      | true =>
          have hq : tool = .str "place_order" →
              ∃ quantity, (args.getD "quantity" (.int 1)).toInt = .ok quantity := by
            rintro rfl
            exact quantity_of_fits hfits
          have hcalls := @countP_clientTurn answers maxRetry _ _ n hq
            (hmem _ List.mem_cons_self)
          simp only [toolTurn, hfits, if_true, Bool.and_true]
          exact hcalls

/-- Where the steps that fit are as many as those that call the client, all of these fit. -/
theorem fits_of_countP_eq {turns : List (Json × Dict)}
    (h : turns.countP (fun turn => callsClient turn && fitsSchema turn.1 turn.2) =
      turns.countP callsClient) :
    ∀ turn ∈ turns, callsClient turn = true → fitsSchema turn.1 turn.2 = true := by
  induction turns with
  | nil =>
      intro turn hturn
      cases hturn
  | cons turn turns ih =>
      have hle : turns.countP (fun turn => callsClient turn && fitsSchema turn.1 turn.2) ≤
          turns.countP callsClient :=
        List.countP_mono_left fun turn _ hboth => (Bool.and_eq_true_iff.mp hboth).1
      rw [List.countP_cons, List.countP_cons] at h
      cases hcalls : callsClient turn with
      | false =>
          simp only [hcalls, Bool.false_and] at h
          intro t ht hc
          rcases List.mem_cons.mp ht with rfl | ht
          · rw [hcalls] at hc
            cases hc
          · exact ih (by simpa using h) t ht hc
      | true =>
          cases hfits : fitsSchema turn.1 turn.2 with
          | false =>
              simp only [hcalls, hfits, Bool.and_false, if_true] at h
              simp only [Bool.false_eq_true, if_false] at h
              omega
          | true =>
              simp only [hcalls, hfits, Bool.and_true, if_true] at h
              intro t ht hc
              rcases List.mem_cons.mp ht with rfl | ht
              · exact hfits
              · exact ih (by omega) t ht hc

/-- A `place_order` whose last answer can be read has a text. -/
theorem orderText_ok_iff {res : Dict} : (∃ text, orderText res = .ok text) ↔ bodyReadable res := by
  unfold orderText bodyReadable
  by_cases hok : answeredOk res = true
  · simp only [hok, true_implies, if_true]
    cases res.getD "body" (.obj []) with
    | obj fields => exact ⟨fun _ => rfl, fun _ => ⟨_, rfl⟩⟩
    | _ =>
        constructor
        · rintro ⟨text, htext⟩
          cases htext
        · intro h
          cases h
  · exact ⟨fun _ h => absurd h hok, fun _ => ⟨_, if_neg hok⟩⟩

/-- Where `execute_plan` comes to an end, and the steps fit, they are compatible. -/
theorem compatible_of_ok {turns : List (Json × Dict)} {v v' : LoopView} {n : ℕ}
    (hmem : ∀ turn ∈ turns, ∃ name ∈ stepTools, turn.1 = .str name)
    (hfits : ∀ turn ∈ turns, callsClient turn = true → fitsSchema turn.1 turn.2 = true)
    (hok : (clientTurns maxRetry answers turns v n).1 = .ok v') :
    Compatible maxRetry answers turns n := by
  induction turns generalizing v n with
  | nil => trivial
  | cons turn turns ih =>
      obtain ⟨tool, args⟩ := turn
      have hrest := fun {v n} => ih (v := v) (n := n)
        (fun turn h => hmem turn (List.mem_cons_of_mem _ h))
        (fun turn h => hfits turn (List.mem_cons_of_mem _ h))
      obtain ⟨name, hname, rfl⟩ := hmem _ List.mem_cons_self
      have hfit := hfits _ List.mem_cons_self
      simp only [stepTools, List.mem_cons, List.not_mem_nil, or_false] at hname
      rcases hname with rfl | rfl | rfl | rfl
      · have hfit' : fitsSchema (.str "place_order") args = true := hfit rfl
        obtain ⟨quantity, hq⟩ := quantity_of_fits hfit'
        cases htext : orderText (answers (n + retriesAfter answers maxRetry.toNat n)) with
        | error e =>
            simp only [clientTurns, clientTurn_place hq, htext] at hok
            cases hok
        | ok text =>
            simp only [clientTurns, clientTurn_place hq, htext, Except.map,
              length_placeCalls] at hok
            exact ⟨hfit', orderText_ok_iff.mp ⟨text, htext⟩, hrest hok⟩
      · exact ⟨hfit rfl, hrest hok⟩
      · exact ⟨hfit rfl, hrest hok⟩
      · exact hrest hok

/-- Compatible steps are run alike. -/
theorem toolTurns_eq_clientTurns {turns : List (Json × Dict)} {n : ℕ}
    (hmem : ∀ turn ∈ turns, ∃ name ∈ stepTools, turn.1 = .str name)
    (h : Compatible maxRetry answers turns n) (v : LoopView) :
    clientTurns maxRetry answers turns v n =
      (.ok (toolTurns maxRetry answers turns v n).1,
        (toolTurns maxRetry answers turns v n).2) := by
  induction turns generalizing v n with
  | nil => rfl
  | cons turn turns ih =>
      obtain ⟨tool, args⟩ := turn
      have hrest := fun {n} => ih (n := n) (fun turn h => hmem turn (List.mem_cons_of_mem _ h))
      -- a turn that both make alike
      have halike : ∀ t calls, clientTurn maxRetry answers tool args n = (.ok t, calls) →
          toolTurn maxRetry answers tool args n = (t, calls) →
          Compatible maxRetry answers turns (n + calls.length) →
          clientTurns maxRetry answers ((tool, args) :: turns) v n =
            (.ok (toolTurns maxRetry answers ((tool, args) :: turns) v n).1,
              (toolTurns maxRetry answers ((tool, args) :: turns) v n).2) := by
        intro t calls hclient htool hcompatible
        simp only [clientTurns, toolTurns, hclient, htool, hrest hcompatible]
      obtain ⟨name, hname, rfl⟩ := hmem _ List.mem_cons_self
      simp only [stepTools, List.mem_cons, List.not_mem_nil, or_false] at hname
      rcases hname with rfl | rfl | rfl | rfl
      · obtain ⟨hfits, hreadable, hcompatible⟩ := h
        obtain ⟨quantity, hq⟩ := quantity_of_fits hfits
        obtain ⟨text, htext⟩ := orderText_ok_iff.mpr hreadable
        have hclient := @clientTurn_place answers maxRetry _ _ hq n
        rw [htext] at hclient
        refine halike _ _ hclient ?_ ?_
        · simp only [toolTurn, hfits, if_true, hclient]
          rfl
        · rw [length_placeCalls]
          exact hcompatible
      · obtain ⟨hfits, hcompatible⟩ := h
        refine halike _ _ rfl ?_ hcompatible
        simp only [toolTurn, hfits, if_true]
        rfl
      · obtain ⟨hfits, hcompatible⟩ := h
        refine halike _ _ rfl ?_ hcompatible
        simp only [toolTurn, hfits, if_true]
        rfl
      · -- what `ask_user` is told of arguments that do not fit is what it says anyway
        refine halike (rejectedTurn (.str "ask_user")) [] rfl ?_ h
        cases hfits : fitsSchema (.str "ask_user") args with
        | true =>
            simp only [toolTurn, hfits, if_true]
            rfl
        | false => simp [toolTurn, hfits]

end Comparison

/-! ### The two paths -/

section Paths

variable {plan : Dict} {state : AgentState} {maxRetry : ℤ}

/-- What both loops start from. -/
def LoopView.start : LoopView := ⟨[], [], 0, [], "已处理。"⟩

/-- The path of `execute_plan`, in turns. -/
theorem planPath_eq {steps : List Json} {turns : List (Json × Dict)}
    (hplan : planSteps (.obj plan) = .ok steps) (hsteps : Steps steps turns)
    (answers : ℕ → Dict) :
    planPath maxRetry plan answers =
      ((clientTurns maxRetry answers turns .start 0).1.map LoopView.report,
        (clientTurns maxRetry answers turns .start 0).2) := by
  obtain ⟨res, heval, hres⟩ := @PlanLoop.eval_steps answers maxRetry _ _
    hsteps {} []
  have hrun : (executePlan maxRetry none (.obj plan)).eval (answering answers) [] =
      (res, (clientTurns maxRetry answers turns .start 0).2) := by
    rw [executePlan, hplan, Prog.ofExcept, Prog.ret_bind, heval]
    rfl
  have hview : res.map PlanLoop.view = (clientTurns maxRetry answers turns .start 0).1 := hres
  rw [planPath, hrun, ← hview]
  cases res <;> rfl

/-- The path of the tool node, in turns. -/
theorem toolPath_eq {steps : List Json} {turns : List (Json × Dict)}
    (hplan : planSteps (.obj plan) = .ok steps) (hsteps : Steps steps turns)
    (hstate : Planned.Leaves plan state) (chaosMode : Json) (env : NodeEnv)
    (answers : ℕ → Dict) :
    toolPath maxRetry chaosMode env state answers =
      (.ok (toolTurns maxRetry answers turns .start 0).1.report,
        (toolTurns maxRetry answers turns .start 0).2) := by
  obtain ⟨l, heval, hview, hkept⟩ := @ToolNode.eval_steps answers
    maxRetry chaosMode _ _ hsteps ({ state } : ToolLoop) []
  obtain ⟨llmMeta, hmeta, htokens⟩ := hstate.tokens
  have hstart : ({ state } : ToolLoop).view = .start := by
    simp [ToolLoop.view, LoopView.start, hstate.fresh]
  rw [hstart] at heval hview
  obtain ⟨s, hfinish, hreport⟩ := @ToolNode.finish_report chaosMode env
    l _ (by rw [hkept]; exact hmeta) htokens
  have hrun : (toolNodeRun maxRetry chaosMode env state).eval (answering answers) [] =
      (.ok s, (toolTurns maxRetry answers turns .start 0).2) := by
    rw [toolNodeRun, Prog.eval_interp]
    show ((ToolNode.default chaosMode).execute env state).eval
      (adapting maxRetry chaosMode answers) [] = _
    rw [ToolNode.execute, hstate.plan, hplan, Prog.ofExcept, Prog.ret_bind,
      Prog.eval_bind_ok heval, hfinish]
    rfl
  rw [toolPath, hrun]
  show (Except.ok s.stepsReport, _) = _
  rw [hreport, hview]
  rfl

/-- **The two paths of a plan** agree exactly where its steps are compatible with the tool
node: the same calls of the client, and the same report. -/
theorem toolNode_refines_iff (hplan : Accepted plan) (hstate : Planned.Leaves plan state)
    (maxRetry : ℤ) (chaosMode : Json) (env : NodeEnv) (answers : ℕ → Dict) :
    toolPath maxRetry chaosMode env state answers = planPath maxRetry plan answers ↔
      Compatible maxRetry answers (plannedCalls (.obj plan)) 0 := by
  obtain ⟨steps, turns, hplanned, hregular⟩ := hplan.steps
  have hsteps : Steps steps turns := hregular.imp fun _ _ h => h.1
  have hmem := mem_stepTools_of_regular hregular
  rw [plannedCalls_of_steps hplanned hsteps, planPath_eq hplanned hsteps, toolPath_eq hplanned hsteps hstate]
  constructor
  · intro h
    obtain ⟨hres, hmade⟩ := Prod.mk.inj h
    cases hclient : (clientTurns maxRetry answers turns .start 0).1 with
    | error e =>
        rw [hclient] at hres
        cases hres
    | ok v =>
        have hcount := countP_clientTurns hmem hclient
        rw [← hmade, countP_toolTurns hmem] at hcount
        exact compatible_of_ok hmem (fits_of_countP_eq hcount) hclient
  · intro h
    rw [toolTurns_eq_clientTurns hmem h]
    rfl

end Paths

/-! #### Plans that were accepted -/

/-- An order of a cola, with or without its quantity. -/
def colaPlan (quantity : Dict) : Dict :=
  [("tool", .str "place_order"),
   ("args", .obj ([("item_name", .str "可乐"), ("address", .str "学院路1号")] ++ quantity)),
   ("_planner_valid", .bool true)]

theorem accepted_colaPlan (quantity : Dict)
    (hvalid : validatePlan (.obj (colaPlan quantity)) = .ok (colaPlan quantity))
    (heq : (Json.obj (colaPlan quantity)).pyEq (.obj (colaPlan quantity)) = true) :
    Accepted (colaPlan quantity) := ⟨_, hvalid, heq⟩

theorem leaves_plan (plan : Dict) : Planned.Leaves plan { request := .null, plan := .obj plan } where
  plan := rfl
  fresh := rfl
  tokens := ⟨[], rfl, .inl rfl⟩

/-- The server is busy once, and then it takes the order. -/
def busyOnce (n : ℕ) : Dict :=
  if n = 0 then [("ok", .bool false), ("status_code", .int 503)]
  else [("ok", .bool true), ("body", .obj [("order_id", .str "A3001")])]

/-- With its quantity the order is placed alike on both paths. -/
theorem toolNode_refines_cola :
    toolPath 1 (.str "none") {} { request := .null, plan := .obj (colaPlan [("quantity", .int 2)]) }
        busyOnce =
      planPath 1 (colaPlan [("quantity", .int 2)]) busyOnce :=
  (toolNode_refines_iff (accepted_colaPlan _ (by decide +kernel) (by decide +kernel))
    (leaves_plan _) 1 (.str "none") {} busyOnce).mpr ⟨by decide +kernel, fun _ => rfl, trivial⟩

/-- Without its quantity `execute_plan` orders one, and the tool node calls nobody. -/
theorem quantity_left_out :
    Accepted (colaPlan []) ∧
      Planned.Leaves (colaPlan []) { request := .null, plan := .obj (colaPlan []) } ∧
      (∀ n, Dict.has (busyOnce n) "ok" = true) ∧
      (planPath 1 (colaPlan []) busyOnce).2 =
        [.placeOrder (.str "可乐") 1 (.str "学院路1号") 0,
         .placeOrder (.str "可乐") 1 (.str "学院路1号") 1] ∧
      toolPath 1 (.str "none") {} { request := .null, plan := .obj (colaPlan []) } busyOnce ≠
        planPath 1 (colaPlan []) busyOnce := by
  have hplan : (planPath 1 (colaPlan []) busyOnce).2 =
      [.placeOrder (.str "可乐") 1 (.str "学院路1号") 0,
       .placeOrder (.str "可乐") 1 (.str "学院路1号") 1] := by decide +kernel
  have htool : (toolPath 1 (.str "none") {} { request := .null, plan := .obj (colaPlan []) }
      busyOnce).2 = [] := by decide +kernel
  refine ⟨accepted_colaPlan _ (by decide +kernel) (by decide +kernel), leaves_plan _, ?_, hplan,
    ?_⟩
  · intro n
    by_cases h : n = 0
    · simp [busyOnce, h, Dict.has]
    · simp [busyOnce, h, Dict.has]
  · intro heq
    rw [heq, hplan] at htool
    cases htool

end ChaosDemo
