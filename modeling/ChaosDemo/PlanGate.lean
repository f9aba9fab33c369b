/-
ChaosDemo/PlanGate.lean

The gate for plans of the legacy evaluation (agent-eval/scripts/run_agent_eval.py).
`validate_plan` is meant to turn any answer of a model into a plan whose actions have
their arguments.  Where it returns, its plan has a known tool and arguments, and is its
own plan again (`validatePlan_self`).  Three things get past it:

* a tool that is a list or a dictionary cannot be looked up in a set, and raises;
* the steps of a workflow are not asked for their arguments;
* the texts of the arguments are asked for, and the text of `None` is `"None"`, while an
  order id is only asked for its truth, so one of blanks will do.

So the gate holds exactly on the plans that do none of this (`gateHolds_iff`).
-/
import ChaosDemo.LegacyTools

namespace ChaosDemo

/-! ### The forms of a validated plan -/

/-- The two tests for arguments that are missing. -/
def MissingArgs (tool : String) (args : Dict) : Prop :=
  (tool = "place_order" ∧
      (pyStrip (args.getD "item_name" (.str "")).pyStr = "" ∨
        pyStrip (args.getD "address" (.str "")).pyStr = "")) ∨
    ((tool = "query_order" ∨ tool = "cancel_order") ∧ (args.get "order_id").truthy = false)

instance (tool : String) (args : Dict) : Decidable (MissingArgs tool args) :=
  inferInstanceAs (Decidable (_ ∨ _))

/-- A plan of one tool, as it is returned. -/
def actionPlan (tool : String) (args : Dict) (valid : Json) : Dict :=
  [("tool", .str tool), ("args", .obj args), ("_planner_valid", valid)]

/-- A workflow, as it is returned. -/
def workflowPlan (items : List Json) (valid : Json) : Dict :=
  [("tool", .str "workflow"), ("steps", .arr items), ("_planner_valid", valid)]

/-- A step as `validate_plan` writes it. -/
def Sanitized (step : Json) : Prop :=
  ∃ tool args, tool ∈ stepTools ∧ step = .obj [("tool", .str tool), ("args", .obj args)]

/-- What the validation makes of a step: its tool and arguments, or an end of it. -/
inductive StepKind
  | regular (tool : String) (args : Dict)
  | refused
  | unhashable

/-- How a step is read. -/
def stepKind : Json → StepKind
  | .obj step =>
      match Dict.get step "tool" with
      | .str tool => if tool ∈ stepTools then .regular tool (argsOf step) else .refused
      | v => if v.hashable then .refused else .unhashable
  | _ => .refused

/-- How the first step is read that is not regular, if there is one. -/
def firstIrregular : List Json → Option StepKind
  | [] => none
  | step :: steps =>
      match stepKind step with
      | .regular _ _ => firstIrregular steps
      | kind => some kind

/-- A regular step, written again. -/
def sanitizedStep (step : Json) : Json :=
  match stepKind step with
  | .regular tool args => .obj [("tool", .str tool), ("args", .obj args)]
  | _ => .null

theorem stepKind_regular {step : Json} {tool : String} {args : Dict}
    (h : stepKind step = .regular tool args) :
    tool ∈ stepTools ∧ ∃ fields, step = .obj fields ∧ Dict.get fields "tool" = .str tool ∧
      args = argsOf fields := by
  cases step with
  | obj fields =>
      simp only [stepKind] at h
      split at h
      · next name hname =>
          split at h
          · next hmem =>
              cases h
              exact ⟨hmem, fields, rfl, hname, rfl⟩
          · cases h
      · split at h <;> cases h
  | _ => cases h

theorem stepKind_sanitized {tool : String} (args : Dict) (hmem : tool ∈ stepTools) :
    stepKind (.obj [("tool", .str tool), ("args", .obj args)]) = .regular tool args := by
  show (if tool ∈ stepTools then StepKind.regular tool _ else _) = _
  rw [if_pos hmem]
  rfl

/-! #### The loop over the steps -/

theorem sanitizedSteps_of_regular {step : Json} {tool : String} {args : Dict}
    (h : stepKind step = .regular tool args) (steps : List Json) :
    sanitizedSteps (step :: steps) = match sanitizedSteps steps with
      | .ok (.inl rest) => .ok (.inl (sanitizedStep step :: rest))
      | other => other := by
  obtain ⟨hmem, fields, rfl, htool, rfl⟩ := stepKind_regular h
  rcases hrest : sanitizedSteps steps with e | rest | reason
  · simp only [sanitizedSteps, htool, if_pos hmem, hrest]
  · simp only [sanitizedSteps, htool, if_pos hmem, hrest, sanitizedStep, h]
  · simp only [sanitizedSteps, htool, if_pos hmem, hrest]

theorem sanitizedSteps_of_refused {step : Json} (h : stepKind step = .refused)
    (steps : List Json) : ∃ reason, sanitizedSteps (step :: steps) = .ok (.inr reason) := by
  cases step with
  | obj fields =>
      simp only [stepKind] at h
      simp only [sanitizedSteps]
      generalize Dict.get fields "tool" = v at h ⊢
      cases v with
      | str name =>
          by_cases hmem : name ∈ stepTools
          · simp [hmem] at h
          · exact ⟨_, if_neg hmem⟩
      | arr items => cases h
      | obj tool => cases h
      | _ => exact ⟨_, rfl⟩
  | _ => exact ⟨_, rfl⟩

theorem sanitizedSteps_of_unhashable {step : Json} (h : stepKind step = .unhashable)
    (steps : List Json) : sanitizedSteps (step :: steps) = .error .typeError := by
  cases step with
  | obj fields =>
      simp only [stepKind] at h
      simp only [sanitizedSteps]
      generalize Dict.get fields "tool" = v at h ⊢
      cases v with
      | str name => by_cases hmem : name ∈ stepTools <;> simp [hmem] at h
      | arr items => rfl
      | obj tool => rfl
      | _ => cases h
  | _ => cases h

/-- All steps are regular, and are written again one by one. -/
theorem sanitizedSteps_of_none {steps : List Json} (h : firstIrregular steps = none) :
    sanitizedSteps steps = .ok (.inl (steps.map sanitizedStep)) ∧
      ∀ step ∈ steps, ∃ tool args, stepKind step = .regular tool args := by
  induction steps with
  | nil => exact ⟨rfl, nofun⟩
  | cons step steps ih =>
      rw [firstIrregular] at h
      split at h
      · next tool args hkind =>
          obtain ⟨hrest, hregular⟩ := ih h
          constructor
          · rw [sanitizedSteps_of_regular hkind, hrest]
            rfl
          · intro s hs
            rcases List.mem_cons.mp hs with rfl | hs
            · exact ⟨tool, args, hkind⟩
            · exact hregular s hs
      · cases h

/-- The first step that is not regular decides. -/
theorem sanitizedSteps_of_some {steps : List Json} {kind : StepKind}
    (h : firstIrregular steps = some kind) :
    (kind = .refused ∧ ∃ reason, sanitizedSteps steps = .ok (.inr reason)) ∨
      (kind = .unhashable ∧ sanitizedSteps steps = .error .typeError) := by
  induction steps with
  | nil => cases h
  | cons step steps ih =>
      rw [firstIrregular] at h
      cases hkind : stepKind step with
      | regular tool args =>
          rw [hkind] at h
          rw [sanitizedSteps_of_regular hkind]
          rcases ih h with ⟨hrefused, reason, hreason⟩ | ⟨hraises, herror⟩
          · rw [hreason]
            exact .inl ⟨hrefused, reason, rfl⟩
          · rw [herror]
            exact .inr ⟨hraises, rfl⟩
      | refused =>
          rw [hkind] at h
          exact .inl ⟨(Option.some.inj h).symm, sanitizedSteps_of_refused hkind steps⟩
      | unhashable =>
          rw [hkind] at h
          exact .inr ⟨(Option.some.inj h).symm, sanitizedSteps_of_unhashable hkind steps⟩

theorem sanitized_sanitizedStep {step : Json} {tool : String} {args : Dict}
    (h : stepKind step = .regular tool args) : Sanitized (sanitizedStep step) := by
  rw [sanitizedStep, h]
  exact ⟨tool, args, (stepKind_regular h).1, rfl⟩

/-- Steps that were written again are their own. -/
theorem sanitizedSteps_self {items : List Json} (h : ∀ item ∈ items, Sanitized item) :
    sanitizedSteps items = .ok (.inl items) := by
  induction items with
  | nil => rfl
  | cons item items ih =>
      obtain ⟨tool, args, hmem, rfl⟩ := h item List.mem_cons_self
      have hkind := stepKind_sanitized args hmem
      rw [sanitizedSteps_of_regular hkind, ih fun i hi => h i (List.mem_cons_of_mem _ hi),
        sanitizedStep, hkind]

/-! #### The whole plan -/

/-- The forms of a plan that `validate_plan` gives. -/
theorem validatePlan_forms {v : Json} {out : Dict} (h : validatePlan v = .ok out) :
    (∃ tool args valid, tool ∈ stepTools ∧ ¬ MissingArgs tool args ∧
      out = actionPlan tool args valid) ∨
    ∃ items valid, items ≠ [] ∧ (∀ item ∈ items, Sanitized item) ∧
      out = workflowPlan items valid := by
  have hask : ∀ reason valid, askUser reason valid = out →
      ∃ tool args valid, tool ∈ stepTools ∧ ¬ MissingArgs tool args ∧
        out = actionPlan tool args valid := by
    intro reason valid hout
    exact ⟨"ask_user", _, _, by decide, by simp [MissingArgs], hout.symm⟩
  cases v with
  | obj plan =>
      simp only [validatePlan] at h
      split at h
      · next tool _ =>
          split at h
          · split at h
            · next step steps _ =>
                cases hirregular : firstIrregular (step :: steps) with
                | none =>
                    obtain ⟨hitems, hregular⟩ := sanitizedSteps_of_none hirregular
                    rw [hitems] at h
                    refine .inr ⟨_, _, ?_, ?_, (Except.ok.inj h).symm⟩
                    · exact List.cons_ne_nil _ _
                    · intro item hitem
                      obtain ⟨s, hs, rfl⟩ := List.mem_map.mp hitem
                      obtain ⟨tool, args, hkind⟩ := hregular s hs
                      exact sanitized_sanitizedStep hkind
                | some kind =>
                    rcases sanitizedSteps_of_some hirregular with ⟨-, reason, hreason⟩ | ⟨-, herror⟩
                    · rw [hreason] at h
                      exact .inl (hask _ _ (Except.ok.inj h))
                    · rw [herror] at h
                      cases h
            · exact .inl (hask _ _ (Except.ok.inj h))
          · split at h
            · next hmem =>
                split at h
                · exact .inl (hask _ _ (Except.ok.inj h))
                · next hplace =>
                    split at h
                    · exact .inl (hask _ _ (Except.ok.inj h))
                    · next horder =>
                        refine .inl ⟨tool, _, _, hmem, ?_, (Except.ok.inj h).symm⟩
                        rintro (h' | h')
                        · exact hplace h'
                        · exact horder h'
            · exact .inl (hask _ _ (Except.ok.inj h))
      · split at h
        · exact .inl (hask _ _ (Except.ok.inj h))
        · cases h
  | _ => exact .inl (hask _ _ (Except.ok.inj h))

theorem ne_workflow_of_mem {tool : String} (hmem : tool ∈ stepTools) : tool ≠ "workflow" := by
  rintro rfl
  exact absurd hmem (by decide)

section OneTool

variable {plan : Dict} {tool : String} (htool : plan.get "tool" = .str tool)
  (hmem : tool ∈ stepTools)
include htool hmem

theorem validatePlan_of_missing (h : MissingArgs tool (argsOf plan)) :
    validatePlan (.obj plan) = .ok (askUser "missing args" true) := by
  simp only [validatePlan, htool, if_neg (ne_workflow_of_mem hmem), if_pos hmem]
  by_cases hplace : tool = "place_order" ∧
      (pyStrip ((argsOf plan).getD "item_name" (.str "")).pyStr = "" ∨
        pyStrip ((argsOf plan).getD "address" (.str "")).pyStr = "")
  · rw [if_pos hplace]
  · rw [if_neg hplace, if_pos (h.resolve_left hplace)]

theorem validatePlan_of_action (h : ¬ MissingArgs tool (argsOf plan)) :
    validatePlan (.obj plan) = .ok (actionPlan tool (argsOf plan)
      (plan.getD "_planner_valid" (.bool true))) := by
  rw [MissingArgs, not_or] at h
  simp only [validatePlan, htool, if_neg (ne_workflow_of_mem hmem), if_pos hmem, if_neg h.1,
    if_neg h.2, actionPlan]

end OneTool

theorem validatePlan_actionPlan {tool : String} {args : Dict} (valid : Json)
    (hmem : tool ∈ stepTools) (hargs : ¬ MissingArgs tool args) :
    validatePlan (.obj (actionPlan tool args valid)) = .ok (actionPlan tool args valid) := by
  have htool : (actionPlan tool args valid).get "tool" = .str tool := rfl
  exact validatePlan_of_action htool hmem hargs

/-- A workflow whose steps were written again keeps them. -/
theorem validatePlan_of_steps {plan : Dict} {items : List Json}
    (htool : plan.get "tool" = .str "workflow") (hsteps : plan.get "steps" = .arr items)
    (hne : items ≠ []) (hitems : ∀ item ∈ items, Sanitized item) :
    validatePlan (.obj plan)
      = .ok (workflowPlan items (plan.getD "_planner_valid" (.bool true))) := by
  cases items with
  | nil => exact absurd rfl hne
  | cons item items =>
      simp only [validatePlan, htool, if_true, hsteps, sanitizedSteps_self hitems]
      rfl

theorem validatePlan_workflowPlan {items : List Json} (valid : Json) (hne : items ≠ [])
    (hitems : ∀ item ∈ items, Sanitized item) :
    validatePlan (.obj (workflowPlan items valid)) = .ok (workflowPlan items valid) := by
  have htool : (workflowPlan items valid).get "tool" = .str "workflow" := rfl
  have hsteps : (workflowPlan items valid).get "steps" = .arr items := rfl
  exact validatePlan_of_steps htool hsteps hne hitems

/-- **A validated plan is its own validated plan.** -/
theorem validatePlan_self {v : Json} {out : Dict} (h : validatePlan v = .ok out) :
    validatePlan (.obj out) = .ok out := by
  rcases validatePlan_forms h with
    ⟨tool, args, valid, hmem, hargs, rfl⟩ | ⟨items, valid, hne, hitems, rfl⟩
  · exact validatePlan_actionPlan valid hmem hargs
  · exact validatePlan_workflowPlan valid hne hitems

/-! ### The gate -/

/-- `ALLOWED_TOOLS`. -/
def allowedTools : List String := stepTools ++ ["workflow"]

/-- A value that is neither `None` nor blank. -/
def Filled (v : Json) : Prop := v ≠ .null ∧ pyStrip v.pyStr ≠ ""

/-- The arguments that a tool cannot do without are there. -/
def Complete (tool : String) (args : Dict) : Prop :=
  (tool = "place_order" → Filled (args.get "item_name") ∧ Filled (args.get "address")) ∧
    (tool = "query_order" ∨ tool = "cancel_order" → Filled (args.get "order_id"))

/-- The actions of a plan: the steps of a workflow, or the plan itself. -/
def planActions (plan : Dict) : List Json :=
  match plan.get "tool", plan.get "steps" with
  | .str "workflow", .arr steps => steps
  | _, _ => [.obj plan]

/-- An action with a tool and the arguments that it needs. -/
def ActionSound (action : Json) : Prop :=
  ∃ fields tool args, action = .obj fields ∧ fields.lookup "tool" = some (.str tool) ∧
    tool ∈ stepTools ∧ fields.lookup "args" = some (.obj args) ∧ Complete tool args

/-- The gate returns a plan with a tool that is allowed and sound actions, which it returns
unchanged when it is asked again. -/
def GateHolds (v : Json) : Prop :=
  ∃ out, validatePlan v = .ok out ∧ (∃ tool ∈ allowedTools, out.get "tool" = .str tool) ∧
    (∀ action ∈ planActions out, ActionSound action) ∧ validatePlan (.obj out) = .ok out

/-- The steps of a workflow: the first that is not regular is refused, or all have what
they need. -/
def StepsGated (steps : List Json) : Prop :=
  match firstIrregular steps with
  | some kind => kind = .refused
  | none => ∀ step ∈ steps, ∀ tool args, stepKind step = .regular tool args → Complete tool args

/-- The plans on which the gate holds. -/
def Gated : Json → Prop
  | .obj plan =>
      match Dict.get plan "tool" with
      | .str tool =>
          if tool = "workflow" then
            match Dict.get plan "steps" with
            | .arr (step :: steps) => StepsGated (step :: steps)
            | _ => True
          else if tool ∈ stepTools then
            MissingArgs tool (argsOf plan) ∨ Complete tool (argsOf plan)
          else True
      | tool => tool.hashable = true
  | _ => True

theorem actionSound_iff {fields : Dict} {tool : String} {args : Dict}
    (htool : fields.lookup "tool" = some (.str tool)) (hmem : tool ∈ stepTools)
    (hargs : fields.lookup "args" = some (.obj args)) :
    ActionSound (.obj fields) ↔ Complete tool args := by
  constructor
  · rintro ⟨fields', tool', args', heq, htool', -, hargs', hcomplete⟩
    obtain rfl := Json.obj.inj heq
    rw [htool] at htool'
    rw [hargs] at hargs'
    obtain rfl := Json.str.inj (Option.some.inj htool')
    obtain rfl := Json.obj.inj (Option.some.inj hargs')
    exact hcomplete
  · intro hcomplete
    exact ⟨fields, tool, args, rfl, htool, hmem, hargs, hcomplete⟩

theorem not_gateHolds_of_error {v : Json} {e : PyError} (h : validatePlan v = .error e) :
    ¬ GateHolds v := by
  rintro ⟨out, hout, -⟩
  rw [h] at hout
  cases hout

/-- One action: the gate holds when its arguments are complete. -/
theorem gateHolds_of_action {v : Json} {tool : String} {args : Dict} {valid : Json}
    (hmem : tool ∈ stepTools) (h : validatePlan v = .ok (actionPlan tool args valid)) :
    GateHolds v ↔ Complete tool args := by
  have hactions : planActions (actionPlan tool args valid) = [.obj (actionPlan tool args valid)] := by
    rw [planActions]
    split
    · next htool _ => exact absurd (Json.str.inj htool) (ne_workflow_of_mem hmem)
    · rfl
  have hsound : ActionSound (.obj (actionPlan tool args valid)) ↔ Complete tool args :=
    actionSound_iff rfl hmem rfl
  constructor
  · rintro ⟨out, hout, -, hall, -⟩
    obtain rfl := Except.ok.inj (h.symm.trans hout)
    rw [hactions] at hall
    exact hsound.mp (hall _ List.mem_cons_self)
  · intro hcomplete
    refine ⟨_, h, ⟨tool, List.mem_append_left _ hmem, rfl⟩, ?_, validatePlan_self h⟩
    rw [hactions]
    intro action haction
    rw [List.mem_singleton.mp haction]
    exact hsound.mpr hcomplete

theorem validatePlan_of_unhashable {plan : Dict} {tool : Json} (htool : plan.get "tool" = tool)
    (h : tool.hashable = false) : validatePlan (.obj plan) = .error .typeError := by
  cases tool with
  | arr items => simp only [validatePlan, htool, Json.hashable, Bool.false_eq_true, if_false]
  | obj fields => simp only [validatePlan, htool, Json.hashable, Bool.false_eq_true, if_false]
  | _ => cases h

/-- A plan that is turned down asks the user. -/
theorem gateHolds_of_askUser {v : Json} {reason : String} {valid : Bool}
    (h : validatePlan v = .ok (askUser reason valid)) : GateHolds v := by
  have hask : validatePlan v
      = .ok (actionPlan "ask_user" [("reason", .str reason)] (.bool valid)) := h
  rw [gateHolds_of_action (by decide) hask]
  exact ⟨fun h => absurd h (by decide), fun h => absurd h (by decide)⟩

theorem gateHolds_of_workflow {v : Json} {steps : List Json} {valid : Json}
    (hregular : ∀ step ∈ steps, ∃ tool args, stepKind step = .regular tool args)
    (h : validatePlan v = .ok (workflowPlan (steps.map sanitizedStep) valid)) :
    GateHolds v ↔ ∀ step ∈ steps, ∀ tool args, stepKind step = .regular tool args →
      Complete tool args := by
  have hsound : ∀ step tool args, stepKind step = .regular tool args →
      (ActionSound (sanitizedStep step) ↔ Complete tool args) := by
    intro step tool args hkind
    rw [sanitizedStep, hkind]
    exact actionSound_iff rfl (stepKind_regular hkind).1 rfl
  constructor
  · rintro ⟨out, hout, -, hall, -⟩
    obtain rfl := Except.ok.inj (h.symm.trans hout)
    intro step hstep tool args hkind
    exact (hsound step tool args hkind).mp (hall _ (List.mem_map_of_mem hstep))
  · intro hcomplete
    refine ⟨_, h, ⟨"workflow", by decide, rfl⟩, ?_, validatePlan_self h⟩
    intro action haction
    obtain ⟨step, hstep, rfl⟩ := List.mem_map.mp haction
    obtain ⟨tool, args, hkind⟩ := hregular step hstep
    exact (hsound step tool args hkind).mpr (hcomplete step hstep tool args hkind)

/-- **When the gate holds.**  `validate_plan` returns a plan whose actions have their
arguments exactly when the tool can be looked up, and either the plan is turned down or its
actions have their arguments. -/
theorem gateHolds_iff (v : Json) : GateHolds v ↔ Gated v := by
  cases v with
  | obj plan =>
      cases htool : Dict.get plan "tool" with
      | str tool =>
          simp only [Gated, htool]
          by_cases hworkflow : tool = "workflow"
          · -- a workflow
            subst hworkflow
            rw [if_pos rfl]
            split
            · next step steps hsteps =>
                rw [StepsGated]
                cases hirregular : firstIrregular (step :: steps) with
                | none =>
                    obtain ⟨hitems, hregular⟩ := sanitizedSteps_of_none hirregular
                    apply gateHolds_of_workflow hregular
                    simp only [validatePlan, htool, if_true, hsteps, hitems]
                    rfl
                | some kind =>
                    rcases sanitizedSteps_of_some hirregular with
                      ⟨rfl, reason, hreason⟩ | ⟨rfl, herror⟩
                    · have hask : validatePlan (.obj plan) = .ok (askUser reason false) := by
                        simp only [validatePlan, htool, if_true, hsteps, hreason]
                      exact iff_of_true (gateHolds_of_askUser hask) rfl
                    · have hraises : validatePlan (.obj plan) = .error .typeError := by
                        simp only [validatePlan, htool, if_true, hsteps, herror]
                      exact iff_of_false (not_gateHolds_of_error hraises) (by rintro ⟨⟩)
            · next hsteps =>
                have hask : validatePlan (.obj plan)
                    = .ok (askUser "invalid workflow steps" false) := by
                  simp only [validatePlan, htool, if_true]
                exact iff_of_true (gateHolds_of_askUser hask) trivial
          · rw [if_neg hworkflow]
            by_cases hmem : tool ∈ stepTools
            · rw [if_pos hmem]
              by_cases hmissing : MissingArgs tool (argsOf plan)
              · exact iff_of_true (gateHolds_of_askUser (validatePlan_of_missing htool hmem hmissing))
                  (.inl hmissing)
              · rw [gateHolds_of_action hmem (validatePlan_of_action htool hmem hmissing)]
                exact ⟨.inr, fun h => h.resolve_left hmissing⟩
            · rw [if_neg hmem]
              have hask : validatePlan (.obj plan) = .ok (askUser "tool not allowed" false) := by
                simp only [validatePlan, htool, if_neg hworkflow, if_neg hmem]
              exact iff_of_true (gateHolds_of_askUser hask) trivial
      | arr items =>
          simp only [Gated, htool]
          exact iff_of_false (not_gateHolds_of_error (validatePlan_of_unhashable htool rfl)) (by rintro ⟨⟩)
      | obj fields =>
          simp only [Gated, htool]
          exact iff_of_false (not_gateHolds_of_error (validatePlan_of_unhashable htool rfl)) (by rintro ⟨⟩)
      | _ =>
          simp only [Gated, htool]
          have hask : validatePlan (.obj plan) = .ok (askUser "tool not allowed" false) := by
            simp only [validatePlan, htool, Json.hashable, if_true]
          exact iff_of_true (gateHolds_of_askUser hask) rfl
  | _ => exact iff_of_true (gateHolds_of_askUser rfl) trivial

/-! #### Plans that get past it -/

def nullName : Dict := [("item_name", .null), ("address", .str "文苑路1号")]

def blankOrder : Dict := [("order_id", .str " ")]

/-- A step without arguments. -/
def bareStep : Json := .obj [("tool", .str "query_order")]

/-- A tool that is a list raises; a name that is `None`, a blank order id and a step without
arguments are let through. -/
theorem not_gateHolds_examples :
    ¬ GateHolds (.obj [("tool", .arr [])]) ∧
      ¬ GateHolds (.obj [("tool", .str "place_order"), ("args", .obj nullName)]) ∧
      ¬ GateHolds (.obj [("tool", .str "query_order"), ("args", .obj blankOrder)]) ∧
      ¬ GateHolds (.obj [("tool", .str "workflow"), ("steps", .arr [bareStep])]) := by
  refine ⟨not_gateHolds_of_error (validatePlan_of_unhashable rfl rfl), ?_, ?_, ?_⟩
  · have hplan : validatePlan (.obj [("tool", .str "place_order"), ("args", .obj nullName)])
        = .ok (actionPlan "place_order" nullName (.bool true)) := by decide +kernel
    rw [gateHolds_of_action (by decide) hplan]
    intro hcomplete
    exact (hcomplete.1 rfl).1.1 rfl
  · have hplan : validatePlan (.obj [("tool", .str "query_order"), ("args", .obj blankOrder)])
        = .ok (actionPlan "query_order" blankOrder (.bool true)) := by decide +kernel
    rw [gateHolds_of_action (by decide) hplan]
    intro hcomplete
    exact (hcomplete.2 (.inl rfl)).2 (by decide +kernel)
  · have hplan : validatePlan (.obj [("tool", .str "workflow"), ("steps", .arr [bareStep])])
        = .ok (workflowPlan ([bareStep].map sanitizedStep) (.bool true)) := by decide +kernel
    have hkind : stepKind bareStep = .regular "query_order" [] := rfl
    have hregular : ∀ step ∈ [bareStep], ∃ tool args, stepKind step = .regular tool args := by
      intro step hstep
      rw [List.mem_singleton.mp hstep]
      exact ⟨_, _, hkind⟩
    rw [gateHolds_of_workflow hregular hplan]
    intro hcomplete
    exact ((hcomplete bareStep List.mem_cons_self _ _ hkind).2 (.inl rfl)).1 rfl

end ChaosDemo
