/-
ChaosDemo/LayeredSecurity.lean

What the layers of the security policy guarantee about a run that succeeds.

The request was checked in every such run (`run_success`): the runtime has
the policy from the service.  The other two layers depend on the nodes.  A `ToolNode`
calls the tools of its plan through its own executor, which has a policy only where it
was given one, so the tools that were called are the permitted ones exactly where each
tool node was about to call permitted ones.  And nobody checks the answer: it is the
text that the last tool left (`layersHold_iff`).
-/
import ChaosDemo.Obeys
import ChaosDemo.PlatformService

namespace ChaosDemo

open CallTree

/-! ### What was called -/

/-- The tools that were called, the latest first. -/
def executedTools (h : PlatformHistory) : List String :=
  h.filterMap fun e =>
    match e with
    | ⟨.tool name _, _⟩ => some name
    | _ => none

/-- What they replied, the first reply first. -/
def toolReplies (h : PlatformHistory) : List (Except PyError ToolReply) :=
  (h.filterMap fun e =>
    match e with
    | ⟨.tool _ _, r⟩ => some r
    | _ => none).reverse

theorem executedTools_append (h h' : PlatformHistory) :
    executedTools (h ++ h') = executedTools h ++ executedTools h' := List.filterMap_append ..

theorem toolReplies_append (h h' : PlatformHistory) :
    toolReplies (h ++ h') = toolReplies h' ++ toolReplies h := by
  simp [toolReplies]

/-! ### Plans -/

/-- The calls that a tool node makes of the plan it finds. -/
def plannedCalls (plan : Json) : List (Json × Dict) :=
  match planSteps plan with
  | .ok steps => steps.filterMap fun step => (stepCall step).toOption
  | .error _ => []

/-- The tools that an executor calls for a list of calls. -/
def ToolExecutor.admitted (executor : ToolExecutor) (calls : List (Json × Dict)) : List String :=
  calls.filterMap fun call =>
    match executor.decide call.1 call.2 with
    | .ok (.inr (name, _)) => some name
    | _ => none

/-- The text that a list of calls leaves as the answer, given the replies of the tools. -/
def ToolExecutor.speech (executor : ToolExecutor) :
    List (Json × Dict) → List (Except PyError ToolReply) → String → String
  | [], _, text => text
  | call :: calls, replies, text =>
      match executor.decide call.1 call.2, replies with
      | .ok (.inl r), replies => executor.speech calls replies (r.responseText text)
      | .ok (.inr (name, _)), reply :: replies =>
          executor.speech calls replies ((settle name reply).responseText text)
      | _, _ => text

/-! ### One node -/

section Nodes

variable {env : NodeEnv} {h h' : PlatformHistory} {s s' : AgentState}

/-- One call: a result without a call of the tool, or the tool's. -/
theorem ToolExecutor.execute_outcome {executor : ToolExecutor} {tool : Json} {args : Dict}
    {r : ToolExecutionResult} (hout : Outcome (executor.execute tool args) h h' (.ok r)) :
    (executor.decide tool args = .ok (.inl r) ∧ h' = h) ∨
    ∃ name params reply, executor.decide tool args = .ok (.inr (name, params)) ∧
      h' = ⟨.tool name params, reply⟩ :: h ∧ r = settle name reply := by
  unfold ToolExecutor.execute at hout
  cases hd : executor.decide tool args with
  | error e =>
      rw [hd] at hout
      cases hout
  | ok decision =>
      rw [hd] at hout
      cases decision with
      | inl result =>
          obtain ⟨rfl, hr⟩ := hout.of_ret
          cases hr
          exact Or.inl ⟨rfl, rfl⟩
      | inr call =>
          obtain ⟨name, params⟩ := call
          right
          obtain ⟨reply, h₁, hattempt, hrest⟩ := hout.of_bind
          obtain ⟨reply', hreply, htool⟩ := hattempt.of_attempt
          cases hreply
          obtain ⟨rfl, hr⟩ := hrest.of_ret
          cases hr
          exact ⟨name, params, reply, rfl, htool.of_perform, rfl⟩

/-- The loop of a tool node. -/
theorem ToolNode.steps_outcome {node : ToolNode} {steps : List Json} {l l' : ToolLoop}
    (hout : Outcome (node.steps steps l) h h' (.ok l')) :
    ∃ new, h' = new ++ h ∧
      (executedTools new).reverse =
        node.executor.admitted (steps.filterMap fun step => (stepCall step).toOption) ∧
      l'.finalResponse =
        node.executor.speech (steps.filterMap fun step => (stepCall step).toOption)
          (toolReplies new) l.finalResponse := by
  induction steps generalizing h l with
  | nil =>
      obtain ⟨rfl, hl⟩ := hout.of_ret
      cases hl
      exact ⟨[], rfl, rfl, rfl⟩
  | cons step steps ih =>
      obtain ⟨call, h₁, hstep, hcalled⟩ := Outcome.of_bind hout
      obtain ⟨rfl, hcall⟩ := hstep.of_ofExcept
      obtain ⟨r, h₂, hexec, hexecuted⟩ := Outcome.of_bind hcalled
      obtain ⟨l₂, h₃, hrec, hrest⟩ := Outcome.of_bind hexecuted
      obtain ⟨rfl, hrecord⟩ := hrec.of_ofExcept
      obtain ⟨new, rfl, htools, hspeech⟩ := ih hrest
      have htext : l₂.finalResponse = r.responseText l.finalResponse := by
        unfold ToolLoop.record at hrecord
        obtain ⟨n, -, hl₂⟩ := bind_eq_ok_iff.mp hrecord.symm
        cases hl₂
        rfl
      have hhead : (stepCall step).toOption = some call := by
        rw [← hcall]
        rfl
      rw [List.filterMap_cons, hhead]
      rcases ToolExecutor.execute_outcome hexec with
        ⟨hd, rfl⟩ | ⟨name, params, reply, hd, rfl, rfl⟩
      · refine ⟨new, rfl, ?_, ?_⟩
        · simpa only [ToolExecutor.admitted, List.filterMap_cons, hd] using htools
        · simpa only [ToolExecutor.speech, hd, htext] using hspeech
      · refine ⟨new ++ [⟨.tool name params, reply⟩], by simp, ?_, ?_⟩
        · rw [executedTools_append, List.reverse_append, htools]
          simp only [ToolExecutor.admitted, List.filterMap_cons, hd]
          rfl
        · rw [toolReplies_append]
          show _ = node.executor.speech (call :: _) (reply :: toolReplies new) _
          simpa only [ToolExecutor.speech, hd, htext] using hspeech

/-- **A tool node.**  It calls the tools that its executor admits of the plan, and its
answer is what they leave. -/
theorem ToolNode.execute_outcome {node : ToolNode}
    (hout : Outcome (node.execute env s) h h' (.ok s')) :
    ∃ new, h' = new ++ h ∧
      (executedTools new).reverse = node.executor.admitted (plannedCalls s.plan) ∧
      s'.answer =
        .str (node.executor.speech (plannedCalls s.plan) (toolReplies new) "已处理。") := by
  obtain ⟨steps, h₁, hplan, hrest⟩ := Outcome.of_bind hout
  obtain ⟨rfl, hsteps⟩ := hplan.of_ofExcept
  obtain ⟨l, h₂, hloop, hfinish⟩ := Outcome.of_bind hrest
  obtain ⟨rfl, hs'⟩ := hfinish.of_ofExcept
  obtain ⟨new, rfl, htools, hspeech⟩ := ToolNode.steps_outcome hloop
  have hcalls : plannedCalls s.plan = steps.filterMap fun step => (stepCall step).toOption := by
    rw [plannedCalls, ← hsteps]
  have hanswer : s'.answer = .str l.finalResponse := by
    simp only [ToolNode.finish, eq_comm (a := Except.ok s'), bind_eq_ok_iff] at hs'
    obtain ⟨total, -, prompt, -, completion, -, usage, -, hs'⟩ := hs'
    obtain rfl := Except.ok.inj hs'
    rfl
  rw [hcalls, hanswer, hspeech]
  exact ⟨new, rfl, htools, rfl⟩

/-- Calls without one of a tool. -/
def Silent (h h' : PlatformHistory) : Prop := ∃ new, h' = new ++ h ∧ executedTools new = []

theorem Silent.refl (h : PlatformHistory) : Silent h h := ⟨[], rfl, rfl⟩

theorem Silent.trans {h₁ h₂ h₃ : PlatformHistory} (h₁₂ : Silent h₁ h₂) (h₂₃ : Silent h₂ h₃) :
    Silent h₁ h₃ := by
  obtain ⟨new, rfl, hnew⟩ := h₁₂
  obtain ⟨new', rfl, hnew'⟩ := h₂₃
  refine ⟨new' ++ new, by simp, ?_⟩
  rw [executedTools_append, hnew, hnew']
  rfl

/-- The planner's first question. -/
theorem PlannerNode.ask_outcome {node : PlannerNode} {useLlm : Bool} {text : String}
    {planned : Planned} (hout : Outcome (node.ask env useLlm text s) h h' (.ok planned)) :
    Silent h h' ∧ planned.state.answer = s.answer := by
  unfold PlannerNode.ask at hout
  cases useLlm with
  | false =>
      obtain ⟨plan, h₁, hplan, hrest⟩ := Outcome.of_bind hout
      obtain ⟨rfl, hplanned⟩ := hrest.of_ret
      cases hplanned
      exact ⟨⟨[_], hplan.of_perform, rfl⟩, rfl⟩
  | true =>
      obtain ⟨reply, h₁, hattempt, hrest⟩ := Outcome.of_bind hout
      obtain ⟨reply', hreply, hplanner⟩ := hattempt.of_attempt
      cases hreply
      have hasked : Silent h h₁ := ⟨[_], hplanner.of_perform, rfl⟩
      cases reply with
      | ok p =>
          obtain ⟨rfl, hplanned⟩ := hrest.of_ret
          cases hplanned
          exact ⟨hasked, rfl⟩
      | error e =>
          obtain ⟨plan, h₂, hplan, hrest⟩ := Outcome.of_bind hrest
          obtain ⟨rfl, hplanned⟩ := hrest.of_ret
          cases hplanned
          exact ⟨hasked.trans ⟨[_], hplan.of_perform, rfl⟩, rfl⟩

theorem PlannerNode.execute_outcome {node : PlannerNode}
    (hout : Outcome (node.execute env s) h h' (.ok s')) : Silent h h' ∧ s'.answer = s.answer := by
  unfold PlannerNode.execute at hout
  obtain ⟨planned, h₁, hask, hrest⟩ := Outcome.of_bind hout
  obtain ⟨hsilent, hanswer⟩ := PlannerNode.ask_outcome hask
  obtain ⟨⟨plan, fallback⟩, h₂, hvalid, hrest⟩ := Outcome.of_bind hrest
  obtain ⟨rfl, hs'⟩ := hrest.of_ret
  cases hs'
  refine ⟨hsilent.trans ?_, hanswer⟩
  unfold Planned.validated at hvalid
  split at hvalid
  · obtain ⟨validated, h₃, hvalidator, hchosen⟩ := Outcome.of_bind hvalid
    rw [hchosen.of_ret.1]
    exact ⟨[_], hvalidator.of_perform, rfl⟩
  · rw [hvalid.of_ret.1]
    exact Silent.refl h₁

theorem JudgeNode.execute_outcome {node : JudgeNode}
    (hout : Outcome (node.execute s) h h' (.ok s')) : Silent h h' ∧ s'.answer = s.answer := by
  unfold JudgeNode.execute at hout
  split at hout
  · obtain ⟨rfl, hs'⟩ := hout.of_ret
    cases hs'
    exact ⟨Silent.refl h', rfl⟩
  · obtain ⟨result, h₁, hjudge, hrest⟩ := Outcome.of_bind hout
    obtain ⟨rfl, hs'⟩ := hrest.of_ret
    cases hs'
    exact ⟨⟨[_], hjudge.of_perform, rfl⟩, rfl⟩

end Nodes

/-! ### Runs of a workflow -/

/-- A node of a run, with the state before it and what it called. -/
structure Visit where
  node : WorkflowNode
  state : AgentState
  calls : PlatformHistory

/-- A run of nodes, node by node. -/
inductive NodesRun (env : NodeEnv) :
    List WorkflowNode → AgentState → PlatformHistory → AgentState → PlatformHistory →
      List Visit → Prop
  | done {s h} : NodesRun env [] s h s h []
  | step {node nodes s s₁ s' h h' new visits} :
      Outcome (node.execute env s) h (new ++ h) (.ok s₁) →
      NodesRun env nodes s₁ (new ++ h) s' h' visits →
      NodesRun env (node :: nodes) s h s' h' (⟨node, s, new⟩ :: visits)

namespace Visit

/-- Every tool that the node is about to call is permitted: its executor denies the
others itself, or the plan has none of them. -/
def Authorized (policy : SecurityPolicy) (v : Visit) : Prop :=
  match v.node with
  | .tool node => ∀ name ∈ node.executor.admitted (plannedCalls v.state.plan),
      (PermissionChecker.check policy name none).passed = true
  | _ => True

/-- The answer after the node, where `answer` was the one before: only a tool node gives
one, the text that the replies of its tools leave. -/
def answer (answer : Json) (v : Visit) : Json :=
  match v.node with
  | .tool node =>
      .str (node.executor.speech (plannedCalls v.state.plan) (toolReplies v.calls) "已处理。")
  | _ => answer

end Visit

section Runs

variable {env : NodeEnv} {nodes : List WorkflowNode} {h h' : PlatformHistory}
  {s s' : AgentState} {visits : List Visit}

/-- Every run that returns is one. -/
theorem NodesRun.of_outcome (hout : Outcome (runNodes env nodes s) h h' (.ok s')) :
    ∃ visits, NodesRun env nodes s h s' h' visits := by
  induction nodes generalizing s h with
  | nil =>
      obtain ⟨rfl, hs'⟩ := hout.of_ret
      cases hs'
      exact ⟨[], .done⟩
  | cons node nodes ih =>
      obtain ⟨s₁, h₁, hnode, hrest⟩ := Outcome.of_bind hout
      obtain ⟨new, rfl⟩ := hnode.history_suffix
      obtain ⟨visits, hvisits⟩ := ih hrest
      exact ⟨_, .step hnode hvisits⟩

/-- The tools that a node called, and the answer it left. -/
theorem execute_outcome {node : WorkflowNode} {new : PlatformHistory} {s₁ : AgentState}
    (hout : Outcome (node.execute env s) h (new ++ h) (.ok s₁)) (policy : SecurityPolicy) :
    ((∀ name ∈ executedTools new, (PermissionChecker.check policy name none).passed = true) ↔
      (Visit.mk node s new).Authorized policy) ∧
    s₁.answer = (Visit.mk node s new).answer s.answer := by
  cases node with
  | planner node =>
      obtain ⟨⟨new', heq, hnone⟩, hanswer⟩ := PlannerNode.execute_outcome hout
      obtain rfl : new = new' := List.append_cancel_right heq
      exact ⟨by simp [Visit.Authorized, hnone], hanswer⟩
  | judge node =>
      obtain ⟨⟨new', heq, hnone⟩, hanswer⟩ := JudgeNode.execute_outcome hout
      obtain rfl : new = new' := List.append_cancel_right heq
      exact ⟨by simp [Visit.Authorized, hnone], hanswer⟩
  | tool node =>
      obtain ⟨new', heq, htools, hanswer⟩ := ToolNode.execute_outcome hout
      obtain rfl : new = new' := List.append_cancel_right heq
      refine ⟨?_, hanswer⟩
      show _ ↔ ∀ name ∈ node.executor.admitted (plannedCalls s.plan), _
      rw [← htools]
      simp only [List.mem_reverse]

/-- The run as a whole. -/
theorem NodesRun.tools_and_answer (hrun : NodesRun env nodes s h s' h' visits)
    (policy : SecurityPolicy) :
    (∃ new, h' = new ++ h ∧
      ((∀ name ∈ executedTools new, (PermissionChecker.check policy name none).passed = true) ↔
        ∀ v ∈ visits, v.Authorized policy)) ∧
    s'.answer = visits.foldl Visit.answer s.answer := by
  induction hrun with
  | done =>
      refine ⟨⟨[], rfl, ?_⟩, rfl⟩
      simp [executedTools]
  | @step node nodes s s₁ s' h h' new visits hnode hrest ih =>
      obtain ⟨htools, hanswer⟩ := execute_outcome hnode policy
      obtain ⟨⟨later, rfl, hlater⟩, hfinal⟩ := ih
      refine ⟨⟨later ++ new, by simp, ?_⟩, ?_⟩
      · rw [executedTools_append, List.forall_mem_cons, ← htools, ← hlater]
        simp only [List.mem_append, or_imp, forall_and]
        exact And.comm
      · rw [hfinal, hanswer]
        rfl

end Runs

/-! ### The service -/

section Service

variable {env : PlatformEnv} {service : AIPlatformService} {request : Json}
  {mode : Option String} {metadata : Dict} {h : PlatformHistory} {result : PlatformResult}

/-- The state with which the nodes begin. -/
def AIPlatformService.initial (service : AIPlatformService) (request : Json)
    (mode : Option String) (metadata : Dict) : AgentState where
  request := request
  status := .running
  metadata := Dict.update [] (Dict.update [("mode", .str (service.effectiveMode mode))] metadata)

theorem failure_success (s : AgentState) (m : String) :
    (AIPlatformService.failure s m).success = false := by
  unfold AIPlatformService.failure
  split
  · dsimp only
    split <;> rfl
  · rfl

theorem gated_answer (raw : PlatformResult) (r : EvaluationResult) :
    (service.gated raw r).answer = raw.answer := by
  unfold AIPlatformService.gated
  split
  · rfl
  · split
    · rfl
    · dsimp only
      split <;> rfl

/-- The answer is the workflow's, whatever the evaluation and the gate say. -/
theorem evaluated_answer (s : AgentState) (m : String) :
    (service.evaluated s m).answer = s.answer := by
  unfold AIPlatformService.evaluated
  split
  · rfl
  · split
    · rfl
    · dsimp only
      split
      · rfl
      · exact gated_answer _ _

/-- The runtime, with a policy that is in force. -/
theorem runState_outcome {policy : SecurityPolicy} {workflow : Workflow} {s s' : AgentState}
    (hs : policy.securityEnabled = true)
    (hout : Outcome (AgentRuntime.runState env (some policy) workflow s) [] h (.ok s'))
    (hstatus : s'.status ≠ .failed) :
    (SecurityGuard.checkInput env.text policy s.request).passed = true ∧
    ∃ last, Outcome (runNodes env.nodes workflow.ordered { s with status := .running }) [] h
      (.ok last) ∧ s'.answer = last.answer := by
  simp only [AgentRuntime.runState, hs, if_true] at hout
  cases hpassed : (SecurityGuard.checkInput env.text policy s.request).passed with
  | false =>
      simp only [hpassed] at hout
      obtain ⟨-, hs'⟩ := Outcome.of_ret hout
      cases hs'
      exact absurd rfl hstatus
  | true =>
      simp only [hpassed, if_true] at hout
      obtain ⟨res, h₁, hattempt, hrest⟩ := Outcome.of_bind hout
      obtain ⟨res', hres, hnodes⟩ := hattempt.of_attempt
      cases hres
      cases res with
      | error e =>
          obtain ⟨-, hs'⟩ := hrest.of_ret
          cases hs'
          exact absurd rfl hstatus
      | ok last =>
          obtain ⟨rfl, hs'⟩ := hrest.of_ret
          refine ⟨rfl, last, hnodes, ?_⟩
          obtain rfl := Except.ok.inj hs'
          split <;> rfl

/-- A run that succeeds went through the nodes with a request that was checked. -/
theorem run_success (hs : service.config.security.securityEnabled = true)
    (hout : Outcome (service.run env request mode metadata) [] h (.ok result))
    (hsuccess : result.success = true) :
    (SecurityGuard.checkInput env.text service.config.security request).passed = true ∧
    ∃ last, Outcome (runNodes env.nodes service.workflow.ordered
      (service.initial request mode metadata)) [] h (.ok last) ∧ result.answer = last.answer := by
  obtain ⟨res, h₁, hattempt, hrest⟩ := Outcome.of_bind hout
  obtain ⟨res', hres, hruntime⟩ := hattempt.of_attempt
  cases hres
  cases res with
  | error e =>
      obtain ⟨-, hresult⟩ := hrest.of_ret
      cases hresult
      cases hsuccess
  | ok s =>
      by_cases hfailed : s.status = .failed
      · simp only [hfailed, if_true] at hrest
        obtain ⟨-, hresult⟩ := hrest.of_ret
        cases hresult
        rw [failure_success] at hsuccess
        cases hsuccess
      · simp only [hfailed, if_false] at hrest
        obtain ⟨rfl, hresult⟩ := hrest.of_ret
        obtain rfl := Except.ok.inj hresult
        obtain ⟨hpassed, last, hnodes, hanswer⟩ := runState_outcome hs hruntime hfailed
        exact ⟨hpassed, last, hnodes, (evaluated_answer s _).trans hanswer⟩

/-- The three layers of a policy, on a run: the request passed its check, every tool that
was called is permitted, and the answer passes its check. -/
structure LayersHold (env : PlatformEnv) (policy : SecurityPolicy) (request : Json)
    (h : PlatformHistory) (answer : Json) : Prop where
  input : (SecurityGuard.checkInput env.text policy request).passed = true
  tools : ∀ name ∈ executedTools h, (PermissionChecker.check policy name none).passed = true
  output : (OutputChecker.check env.text policy answer).passed = true

/-- **When the layers hold.**  A run that succeeds comes apart into its nodes, and its
layers hold exactly where every tool node was about to call permitted tools only and the
text that the last one left passes the check of the output. -/
theorem layersHold_iff (hs : service.config.security.securityEnabled = true)
    (hout : Outcome (service.run env request mode metadata) [] h (.ok result))
    (hsuccess : result.success = true) :
    ∃ last visits, NodesRun env.nodes service.workflow.ordered
        (service.initial request mode metadata) [] last h visits ∧
      (LayersHold env service.config.security request h result.answer ↔
        (∀ v ∈ visits, v.Authorized service.config.security) ∧
        (OutputChecker.check env.text service.config.security
          (visits.foldl Visit.answer .null)).passed = true) := by
  obtain ⟨hpassed, last, hnodes, hanswer⟩ := run_success hs hout hsuccess
  obtain ⟨visits, hvisits⟩ := NodesRun.of_outcome hnodes
  refine ⟨last, visits, hvisits, ?_⟩
  obtain ⟨⟨new, hnew, htools⟩, hfinal⟩ := hvisits.tools_and_answer service.config.security
  obtain rfl : h = new := by rw [hnew, List.append_nil]
  have hspoken : result.answer = visits.foldl Visit.answer .null := hanswer.trans hfinal
  rw [← htools, ← hspoken]
  constructor
  · intro hlayers
    exact ⟨hlayers.tools, hlayers.output⟩
  · intro hlayers
    exact ⟨hpassed, hlayers.1, hlayers.2⟩

end Service

/-! ### Two runs -/

/-- Nobody may cancel an order, and no answer may name one. -/
def cautiousPolicy : SecurityPolicy where
  blockedTools := ["cancel_order"]
  sensitiveKeywords := ["订单"]

def plainEnv : PlatformEnv where
  text := { lower := fun s => s, search := fun _ _ => some false }

/-- A service for a planner and a tool node. -/
def plannedService (node : ToolNode) : AIPlatformService where
  config := { security := cautiousPolicy }
  workflow := .steps [.planner {}, .tool node]

/-- The planner plans to cancel an order, and the tool does. -/
def cancelAnswers : (o : PlatformSig.Op) → Except PyError (PlatformSig.Ret o)
  | .planner _ => .error .typeError
  | .rulePlanner _ =>
      .ok [("tool", .str "cancel_order"), ("args", .obj [("order_id", .str "A1001")])]
  | .validator plan => .ok plan
  | .judge _ _ _ => .ok "PASS"
  | .tool _ _ => .ok (.result
      { tool := .str "cancel_order", ok := true, result := .obj [("ok", .bool true)]
        metadata := [("response_text", .str "订单取消完成。"), ("retry_count", .int 0)] })

/-- The request "cancel it". -/
def cancelRun (node : ToolNode) : Except PyError PlatformResult × PlatformHistory :=
  ((plannedService node).run plainEnv (.str "cancel it") none []).answeredBy cancelAnswers []

/-- Whether a run succeeded. -/
def succeeded (res : Except PyError PlatformResult) : Bool :=
  match res with
  | .ok result => result.success
  | .error _ => false

theorem exists_of_succeeded {res : Except PyError PlatformResult} (h : succeeded res = true) :
    ∃ result, res = .ok result ∧ result.success = true := by
  cases res with
  | ok result => exact ⟨result, rfl, h⟩
  | error e => cases h

/-- A tool node whose executor has the policy. -/
def guardedNode : ToolNode where
  executor := { registry := legacyRegistry, security := some cautiousPolicy }

/-- With it the run succeeds too, and is one of those that the equivalence is about. -/
theorem layersHold_iff_guardedRun :
    ∃ (result : PlatformResult) (last : AgentState) (visits : List Visit),
      NodesRun plainEnv.nodes [.planner {}, .tool guardedNode]
        ((plannedService guardedNode).initial (.str "cancel it") none []) [] last
        (cancelRun guardedNode).2 visits ∧
      (LayersHold plainEnv cautiousPolicy (.str "cancel it") (cancelRun guardedNode).2
          result.answer ↔
        (∀ v ∈ visits, v.Authorized cautiousPolicy) ∧
        (OutputChecker.check plainEnv.text cautiousPolicy
          (visits.foldl Visit.answer .null)).passed = true) := by
  have hsuccess : succeeded (cancelRun guardedNode).1 = true := by decide +kernel
  obtain ⟨result, hres, hok⟩ := exists_of_succeeded hsuccess
  have hout : Outcome ((plannedService guardedNode).run plainEnv (.str "cancel it") none []) []
      (cancelRun guardedNode).2 (cancelRun guardedNode).1 := Outcome.answeredBy cancelAnswers _ []
  rw [hres] at hout
  exact ⟨result, layersHold_iff rfl hout hok⟩

/-- With the default executor the run succeeds although it called a tool that the policy
blocks, and its answer has a word that the policy forbids. -/
theorem defaultExecutor_unchecked :
    ∃ h result, Outcome ((plannedService (.default (.str "none"))).run plainEnv
        (.str "cancel it") none []) [] h (.ok result) ∧
      result.success = true ∧ executedTools h = ["cancel_order"] ∧
      ¬ LayersHold plainEnv cautiousPolicy (.str "cancel it") h result.answer := by
  have hsuccess : succeeded (cancelRun (.default (.str "none"))).1 = true := by decide +kernel
  have htools : executedTools (cancelRun (.default (.str "none"))).2 = ["cancel_order"] := by
    decide +kernel
  obtain ⟨result, hres, hok⟩ := exists_of_succeeded hsuccess
  have hout : Outcome
      ((plannedService (.default (.str "none"))).run plainEnv (.str "cancel it") none []) []
      (cancelRun (.default (.str "none"))).2 (cancelRun (.default (.str "none"))).1 :=
    Outcome.answeredBy cancelAnswers _ []
  rw [hres] at hout
  refine ⟨_, result, hout, hok, htools, ?_⟩
  intro hlayers
  have hdenied := hlayers.tools "cancel_order" (by rw [htools]; exact List.mem_cons_self)
  cases hdenied

end ChaosDemo
