/-
ChaosDemo/CoreConfig.lean

The configuration of the platform and its dictionary form (ai_platform/core/config.py,
ai_platform/security/policy.py): `to_dict` and `from_dict` of the model, the evaluation,
the roles, the policy and the whole.

    c  ──to_dict──►  d  ──from_dict──►  c

`from_dict` reads each key by itself and has a default of its own for it, and it converts
what it finds with `str`, `int`, `float`, `bool` or `list`.  On what `to_dict` writes no
default is taken and no conversion changes anything, so the way there and back is the
identity (`platformConfig_roundTrip`).  The lists of a policy hold whatever values they
were given; only the tools of a role are made texts.
-/
import ChaosDemo.PolicyFile

namespace ChaosDemo.CoreConfig

/-! ### The configuration -/

/-- `ModelConfig`. -/
structure ModelConfig where
  provider : String := "mock"
  model : String := "default"
  temperature : ℚ := 1 / 10
  maxTokens : ℤ := 2048
  timeoutSeconds : ℚ := 30

/-- `EvaluationConfig`. -/
structure EvaluationConfig where
  toolSelectionAccuracyMin : ℚ := 7 / 10
  argAccuracyMin : ℚ := 7 / 10
  avgToolCallsPerTaskMax : ℚ := 10
  retryRateMax : ℚ := 3 / 10
  hallucinationRateMax : ℚ := 1 / 10
  plannerInvalidRateMax : ℚ := 1 / 10

/-- `dict[str, ToolRole]`: each name once. -/
structure Roles where
  entries : List (String × ToolRole) := []
  nodup : (entries.map Prod.fst).Nodup := by simp

/-- The patterns of `SecurityPolicy()`. -/
def defaultPatterns : List Json := ({} : ChaosDemo.SecurityPolicy).promptInjectionPatterns.map .str

/-- `SecurityPolicy`, with all its fields. -/
structure SecurityPolicy where
  maxInputLength : ℤ := 4096
  minInputLength : ℤ := 1
  blockedKeywords : List Json := []
  blockedPatterns : List Json := []
  promptInjectionEnabled : Bool := true
  promptInjectionPatterns : List Json := defaultPatterns
  toolPermissionEnabled : Bool := true
  allowedTools : List Json := []
  blockedTools : List Json := []
  roles : Roles := {}
  defaultRole : String := ""
  policyVersion : String := ""
  outputCheckEnabled : Bool := true
  maxOutputLength : ℤ := 8192
  sensitiveKeywords : List Json := []
  outputRequired : Bool := false
  securityEnabled : Bool := true
  blockOnInputViolation : Bool := true
  blockOnInjection : Bool := true
  blockOnPermissionDenied : Bool := true
  blockOnOutputViolation : Bool := true

/-- `PlatformConfig`, with all its fields. -/
structure PlatformConfig where
  model : ModelConfig := {}
  evaluation : EvaluationConfig := {}
  security : SecurityPolicy := {}
  mode : String := "rule"
  observabilityEnabled : Bool := true
  evaluationEnabled : Bool := false
  qualityGateEnabled : Bool := false
  timeoutSeconds : ℚ := 60

/-! ### `to_dict` -/

def ModelConfig.toDict (self : ModelConfig) : Dict :=
  [("provider", .str self.provider), ("model", .str self.model),
   ("temperature", .num self.temperature), ("max_tokens", .int self.maxTokens),
   ("timeout_seconds", .num self.timeoutSeconds)]

def EvaluationConfig.toDict (self : EvaluationConfig) : Dict :=
  [("tool_selection_accuracy_min", .num self.toolSelectionAccuracyMin),
   ("arg_accuracy_min", .num self.argAccuracyMin),
   ("avg_tool_calls_per_task_max", .num self.avgToolCallsPerTaskMax),
   ("retry_rate_max", .num self.retryRateMax),
   ("hallucination_rate_max", .num self.hallucinationRateMax),
   ("planner_invalid_rate_max", .num self.plannerInvalidRateMax)]

/-- `ToolRole.to_dict`. -/
def roleToDict (self : ToolRole) : Dict :=
  [("description", .str self.description), ("allowed_tools", .arr (self.allowedTools.map .str)),
   ("blocked_tools", .arr (self.blockedTools.map .str))]

def SecurityPolicy.toDict (self : SecurityPolicy) : Dict :=
  [("max_input_length", .int self.maxInputLength), ("min_input_length", .int self.minInputLength),
   ("blocked_keywords", .arr self.blockedKeywords), ("blocked_patterns", .arr self.blockedPatterns),
   ("prompt_injection_enabled", .bool self.promptInjectionEnabled),
   ("prompt_injection_patterns", .arr self.promptInjectionPatterns),
   ("tool_permission_enabled", .bool self.toolPermissionEnabled),
   ("allowed_tools", .arr self.allowedTools), ("blocked_tools", .arr self.blockedTools),
   ("roles", .obj (self.roles.entries.map fun r => (r.1, .obj (roleToDict r.2)))),
   ("default_role", .str self.defaultRole), ("policy_version", .str self.policyVersion),
   ("output_check_enabled", .bool self.outputCheckEnabled),
   ("max_output_length", .int self.maxOutputLength),
   ("sensitive_keywords", .arr self.sensitiveKeywords),
   ("output_required", .bool self.outputRequired), ("security_enabled", .bool self.securityEnabled),
   ("block_on_input_violation", .bool self.blockOnInputViolation),
   ("block_on_injection", .bool self.blockOnInjection),
   ("block_on_permission_denied", .bool self.blockOnPermissionDenied),
   ("block_on_output_violation", .bool self.blockOnOutputViolation)]

def PlatformConfig.toDict (self : PlatformConfig) : Dict :=
  [("model", .obj self.model.toDict), ("evaluation", .obj self.evaluation.toDict),
   ("security", .obj self.security.toDict), ("mode", .str self.mode),
   ("observability_enabled", .bool self.observabilityEnabled),
   ("evaluation_enabled", .bool self.evaluationEnabled),
   ("quality_gate_enabled", .bool self.qualityGateEnabled),
   ("timeout_seconds", .num self.timeoutSeconds)]

/-! ### `from_dict` -/

/-- The dictionary whose `get` is called. -/
def asDict : Json → Except PyError Dict
  | .obj d => .ok d
  | _ => .error .attributeError

/-- `d[k] = v` in a dictionary with keys of any kind. -/
def setItem : List (Json × Json) → Json → Json → List (Json × Json)
  | [], k, v => [(k, v)]
  | (l, w) :: d, k, v => if l.pyEq k then (l, v) :: d else (l, w) :: setItem d k v

/-- `dict(v)`: of a dictionary, or of pairs. -/
def dictOf : Json → Except PyError (List (Json × Json))
  | .obj d => .ok (d.map fun f => (.str f.1, f.2))
  | v => do
      let items ← v.iter
      items.foldlM (fun d item => do
        match ← item.iter with
        | [k, value] => if k.hashable then pure (setItem d k value) else .error .typeError
        | _ => .error .valueError) []

def ModelConfig.fromDict (data : Dict) : Except PyError ModelConfig := do
  let temperature ← (data.getD "temperature" (.num (1 / 10))).toFloat
  let maxTokens ← (data.getD "max_tokens" (.int 2048)).toInt
  let timeoutSeconds ← (data.getD "timeout_seconds" (.num 30)).toFloat
  pure
    { provider := (data.getD "provider" (.str "mock")).pyStr
      model := (data.getD "model" (.str "default")).pyStr
      temperature, maxTokens, timeoutSeconds }

def EvaluationConfig.fromDict (data : Dict) : Except PyError EvaluationConfig := do
  let toolSelectionAccuracyMin ← (data.getD "tool_selection_accuracy_min" (.num (7 / 10))).toFloat
  let argAccuracyMin ← (data.getD "arg_accuracy_min" (.num (7 / 10))).toFloat
  let avgToolCallsPerTaskMax ← (data.getD "avg_tool_calls_per_task_max" (.num 10)).toFloat
  let retryRateMax ← (data.getD "retry_rate_max" (.num (3 / 10))).toFloat
  let hallucinationRateMax ← (data.getD "hallucination_rate_max" (.num (1 / 10))).toFloat
  let plannerInvalidRateMax ← (data.getD "planner_invalid_rate_max" (.num (1 / 10))).toFloat
  pure
    { toolSelectionAccuracyMin, argAccuracyMin, avgToolCallsPerTaskMax, retryRateMax
      hallucinationRateMax, plannerInvalidRateMax }

/-- `ToolRole.from_dict`. -/
def roleFromDict (data : Dict) : Except PyError ToolRole := do
  let allowedTools ← (data.getD "allowed_tools" (.arr [])).iter
  let blockedTools ← (data.getD "blocked_tools" (.arr [])).iter
  pure
    { description := (data.getD "description" (.str "")).pyStr
      allowedTools := allowedTools.map Json.pyStr
      blockedTools := blockedTools.map Json.pyStr }

theorem nodup_setRole {roles : List (String × ToolRole)} (h : (roles.map Prod.fst).Nodup)
    (r : String × ToolRole) : ((setRole roles r).map Prod.fst).Nodup := by
  have hnames : ∀ roles : List (String × ToolRole), (setRole roles r).map Prod.fst =
      if r.1 ∈ roles.map Prod.fst then roles.map Prod.fst else roles.map Prod.fst ++ [r.1] := by
    intro roles
    induction roles with
    | nil => rfl
    | cons r' roles ih =>
        rw [setRole]
        by_cases hname : r'.1 = r.1
        · rw [if_pos hname, List.map_cons, List.map_cons, hname, if_pos List.mem_cons_self]
        · rw [if_neg hname, List.map_cons, List.map_cons, ih]
          by_cases hmem : r.1 ∈ roles.map Prod.fst
          · rw [if_pos hmem, if_pos (List.mem_cons_of_mem _ hmem)]
          · have hnot : r.1 ∉ r'.1 :: roles.map Prod.fst := by
              rw [List.mem_cons, not_or]
              exact ⟨Ne.symm hname, hmem⟩
            rw [if_neg hmem, if_neg hnot]
            rfl
  rw [hnames]
  split
  · exact h
  · next hmem => exact List.nodup_append.mpr ⟨h, List.nodup_singleton _, by
      intro a ha b hb heq
      rw [List.mem_singleton] at hb
      exact hmem (hb ▸ heq ▸ ha)⟩

/-- `roles[name] = role`. -/
def Roles.set (roles : Roles) (r : String × ToolRole) : Roles :=
  ⟨setRole roles.entries r, nodup_setRole roles.nodup r⟩

/-- The roles that `SecurityPolicy.from_dict` reads. -/
def readRoles (v : Json) : Except PyError Roles := do
  let items ← dictOf v
  items.foldlM (fun roles item =>
    match item.2 with
    | .obj roleData => do
        let role ← roleFromDict roleData
        pure (roles.set (item.1.pyStr, role))
    | _ => pure roles) {}

def SecurityPolicy.fromDict (data : Dict) : Except PyError SecurityPolicy := do
  let maxInputLength ← (data.getD "max_input_length" (.int 4096)).toInt
  let minInputLength ← (data.getD "min_input_length" (.int 1)).toInt
  let blockedKeywords ← (data.getD "blocked_keywords" (.arr [])).iter
  let blockedPatterns ← (data.getD "blocked_patterns" (.arr [])).iter
  let promptInjectionPatterns ←
    (data.getD "prompt_injection_patterns" (.arr defaultPatterns)).iter
  let allowedTools ← (data.getD "allowed_tools" (.arr [])).iter
  let blockedTools ← (data.getD "blocked_tools" (.arr [])).iter
  let roles ← readRoles (data.getD "roles" (.obj []))
  let maxOutputLength ← (data.getD "max_output_length" (.int 8192)).toInt
  let sensitiveKeywords ← (data.getD "sensitive_keywords" (.arr [])).iter
  let flag (k : String) (default : Bool) : Bool := (data.getD k (.bool default)).truthy
  pure
    { maxInputLength, minInputLength, blockedKeywords, blockedPatterns
      promptInjectionEnabled := flag "prompt_injection_enabled" true
      promptInjectionPatterns
      toolPermissionEnabled := flag "tool_permission_enabled" true
      allowedTools, blockedTools, roles
      defaultRole := (data.getD "default_role" (.str "")).pyStr
      policyVersion := (data.getD "policy_version" (.str "")).pyStr
      outputCheckEnabled := flag "output_check_enabled" true
      maxOutputLength, sensitiveKeywords
      outputRequired := flag "output_required" false
      securityEnabled := flag "security_enabled" true
      blockOnInputViolation := flag "block_on_input_violation" true
      blockOnInjection := flag "block_on_injection" true
      blockOnPermissionDenied := flag "block_on_permission_denied" true
      blockOnOutputViolation := flag "block_on_output_violation" true }

def PlatformConfig.fromDict (data : Dict) : Except PyError PlatformConfig := do
  let model ← asDict (data.getD "model" (.obj [])) >>= ModelConfig.fromDict
  let evaluation ← asDict (data.getD "evaluation" (.obj [])) >>= EvaluationConfig.fromDict
  let security ← asDict (data.getD "security" (.obj [])) >>= SecurityPolicy.fromDict
  let timeoutSeconds ← (data.getD "timeout_seconds" (.num 60)).toFloat
  pure
    { model, evaluation, security, timeoutSeconds
      mode := (data.getD "mode" (.str "rule")).pyStr
      -- without a key the evaluation and the gate are on, in `PlatformConfig()` they are off
      observabilityEnabled := (data.getD "observability_enabled" (.bool true)).truthy
      evaluationEnabled := (data.getD "evaluation_enabled" (.bool true)).truthy
      qualityGateEnabled := (data.getD "quality_gate_enabled" (.bool true)).truthy }

/-! ### There and back -/

theorem modelConfig_fromDict_toDict (c : ModelConfig) : ModelConfig.fromDict c.toDict = .ok c := rfl

theorem evaluationConfig_fromDict_toDict (c : EvaluationConfig) :
    EvaluationConfig.fromDict c.toDict = .ok c := rfl

/-- Texts are texts already. -/
theorem map_pyStr_str (texts : List String) : (texts.map Json.str).map Json.pyStr = texts := by
  rw [List.map_map]
  exact List.map_id'' (fun _ => rfl) texts

theorem roleFromDict_toDict (role : ToolRole) : roleFromDict (roleToDict role) = .ok role := by
  show Except.ok (ToolRole.mk role.description ((role.allowedTools.map Json.str).map Json.pyStr)
    ((role.blockedTools.map Json.str).map Json.pyStr)) = Except.ok role
  rw [map_pyStr_str, map_pyStr_str]

/-- Roles of different names are all set. -/
theorem foldlM_roles (stated : List (String × ToolRole)) (roles : Roles) :
    (stated.map fun r => (Json.str r.1, Json.obj (roleToDict r.2))).foldlM (fun roles item =>
      match item.2 with
      | .obj roleData => do
          let role ← roleFromDict roleData
          pure (Roles.set roles (item.1.pyStr, role))
      | _ => pure roles) roles = (.ok (stated.foldl Roles.set roles) : Except PyError Roles) := by
  induction stated generalizing roles with
  | nil => rfl
  | cons r stated ih =>
      rw [List.map_cons, List.foldlM_cons]
      show (roleFromDict (roleToDict r.2) >>= fun role => pure (roles.set (r.1, role))) >>= _ = _
      rw [roleFromDict_toDict]
      exact ih _

theorem entries_foldl_set (stated : List (String × ToolRole)) (roles : Roles) :
    (stated.foldl Roles.set roles).entries = stated.foldl setRole roles.entries := by
  induction stated generalizing roles with
  | nil => rfl
  | cons r stated ih => exact ih _

theorem readRoles_toDict (roles : Roles) :
    readRoles (.obj (roles.entries.map fun r => (r.1, .obj (roleToDict r.2)))) = .ok roles := by
  have hentries : (roles.entries.foldl Roles.set {}).entries = roles.entries := by
    have hnodup : (([] ++ roles.entries).map Prod.fst).Nodup := roles.nodup
    rw [entries_foldl_set]
    exact foldl_setRole_of_nodup hnodup
  have hroles : roles.entries.foldl Roles.set {} = roles := by
    cases hset : roles.entries.foldl Roles.set {}
    cases roles
    rw [hset] at hentries
    cases hentries
    rfl
  rw [readRoles, dictOf, List.map_map]
  exact (foldlM_roles roles.entries {}).trans (congrArg Except.ok hroles)

theorem securityPolicy_fromDict_toDict (c : SecurityPolicy) :
    SecurityPolicy.fromDict c.toDict = .ok c := by
  show (readRoles (.obj (c.roles.entries.map fun r => (r.1, .obj (roleToDict r.2)))) >>= fun roles =>
    .ok { c with roles }) = .ok c
  rw [readRoles_toDict]
  rfl

theorem fromDict_toDict (c : PlatformConfig) : PlatformConfig.fromDict c.toDict = .ok c := by
  show (SecurityPolicy.fromDict c.security.toDict >>= fun security => .ok { c with security }) = .ok c
  rw [securityPolicy_fromDict_toDict]
  rfl

/-- **A configuration survives its dictionary form.**  What `to_dict` writes, `from_dict`
reads back field by field, and what is read from a dictionary that `to_dict` has written is
written as that dictionary again. -/
theorem platformConfig_roundTrip :
    (∀ c : PlatformConfig, PlatformConfig.fromDict c.toDict = .ok c) ∧
      ∀ d ∈ Set.range PlatformConfig.toDict,
        (PlatformConfig.fromDict d).map PlatformConfig.toDict = .ok d := by
  refine ⟨fromDict_toDict, ?_⟩
  rintro d ⟨c, rfl⟩
  rw [fromDict_toDict]
  rfl

end ChaosDemo.CoreConfig
