/-
ChaosDemo/Security.lean

The security policy and its checks (ai_platform/security): the validation of the
input, the guard against prompt injection, the permission of tools, and the check of
the output, together in `SecurityGuard`.

Lower case and the search for a pattern that a policy gives are Python's own; the
checks ask for them through `TextEnv`.  The time in a result is left out.
-/
import ChaosDemo.Builtins

namespace ChaosDemo

/-! ### Policies -/

/-- `ToolRole`. -/
structure ToolRole where
  description : String := ""
  allowedTools : List String := []
  blockedTools : List String := []

/-- `SecurityPolicy`. -/
structure SecurityPolicy where
  maxInputLength : ℤ := 4096
  minInputLength : ℤ := 1
  blockedKeywords : List String := []
  blockedPatterns : List String := []
  promptInjectionEnabled : Bool := true
  promptInjectionPatterns : List String :=
    ["ignore previous instruction", "ignore all previous instructions", "ignore the above",
     "disregard previous", "forget previous instructions", "system prompt", "system message",
     "developer message", "you are now", "you are a new", "new personality",
     "pretend you are", "act as if", "jailbreak", "dan mode", "developer mode", "override",
     "bypass", "ignore your programming", "ignore your training", "ignore all rules",
     "do not follow your"]
  toolPermissionEnabled : Bool := true
  allowedTools : List String := []
  blockedTools : List String := []
  roles : List (String × ToolRole) := []
  defaultRole : String := ""
  outputCheckEnabled : Bool := true
  maxOutputLength : ℤ := 8192
  sensitiveKeywords : List String := []
  outputRequired : Bool := false
  securityEnabled : Bool := true
  blockOnInputViolation : Bool := true
  blockOnInjection : Bool := true
  blockOnOutputViolation : Bool := true

/-- What the checks take from Python: `str.lower`, and `re.search` without regard to
case, `none` where the pattern is no pattern. -/
structure TextEnv where
  lower : String → String
  search : String → String → Option Bool

/-! ### Results -/

/-- `SecurityResult`. -/
structure SecurityResult where
  passed : Bool := true
  riskLevel : String := "none"
  violations : List String := []
  metadata : Dict := []
  checkName : String := ""

namespace SecurityResult

/-- `pass_`. -/
def pass (checkName : String) (metadata : Dict) : SecurityResult where
  checkName := checkName
  metadata := metadata

def block (riskLevel : String) (violations : List String) (checkName : String)
    (metadata : Dict) : SecurityResult where
  passed := false
  riskLevel := riskLevel
  violations := violations
  checkName := checkName
  metadata := metadata

@[simp] theorem passed_pass (n : String) (m : Dict) : (pass n m).passed = true := rfl

@[simp] theorem passed_block (r : String) (v : List String) (n : String) (m : Dict) :
    (block r v n m).passed = false := rfl

/-- `as_dict`. -/
def asDict (r : SecurityResult) : Dict :=
  [("passed", .bool r.passed), ("risk_level", .str r.riskLevel),
   ("violations", .arr (r.violations.map Json.str)), ("check_name", .str r.checkName),
   ("metadata", .obj r.metadata)]

/-- `_risk_order`. -/
def riskOrder (level : String) : ℕ :=
  ([("none", 0), ("low", 1), ("medium", 2), ("high", 3), ("critical", 4)].lookup level).getD 0

/-- `worst`. -/
def worst (a b : SecurityResult) : SecurityResult :=
  let merged := b.violations.foldl (fun vs v => if v ∈ vs then vs else vs ++ [v]) a.violations
  if !a.passed || !b.passed then
    let base :=
      if riskOrder b.riskLevel ≤ riskOrder a.riskLevel ∧ a.passed = false then a
      else if b.passed = false then b
      else a
    { passed := false
      riskLevel := base.riskLevel
      violations := merged
      checkName := base.checkName
      metadata := (Dict.update base.metadata a.metadata).update b.metadata }
  else
    let base := if riskOrder b.riskLevel ≤ riskOrder a.riskLevel then a else b
    { base with passed := true, violations := merged }

@[simp] theorem passed_worst (a b : SecurityResult) :
    (worst a b).passed = (a.passed && b.passed) := by
  cases ha : a.passed <;> cases hb : b.passed <;> simp [worst, ha, hb]

end SecurityResult

/-! ### The input -/

/-- `_extract_text` of a request. -/
def requestText : Json → String
  | .str s => s
  | .obj fields =>
      (Dict.getD fields "input" (Dict.getD fields "content" (.str ""))).pyStr
  | .null => ""
  | v => v.pyStr

/-- The keywords that a text contains, whatever their case. -/
def keywordsIn (env : TextEnv) (keywords : List String) (text : String) : List String :=
  keywords.filter fun kw => textIn (env.lower kw).toList (env.lower text).toList

/-- `InputValidator.validate`. -/
def InputValidator.validate (env : TextEnv) (policy : SecurityPolicy) (request : Json) :
    SecurityResult :=
  if policy.securityEnabled = false then .pass "input_validator" []
  else
    let text := requestText request
    let length : ℤ := text.length
    if 0 < policy.minInputLength ∧ pyStrip text = "" then
      .block "high" ["input_empty"] "input_validator" [("input_length", .int 0)]
    else
      let violations :=
        (if policy.maxInputLength < length then
          ["input_too_long: " ++ toString length ++ " > " ++ toString policy.maxInputLength]
         else []) ++
        (if length < policy.minInputLength then
          ["input_too_short: " ++ toString length ++ " < " ++ toString policy.minInputLength]
         else []) ++
        (keywordsIn env policy.blockedKeywords text).map ("blocked_keyword: " ++ ·) ++
        (policy.blockedPatterns.filter fun p => env.search p text = some true).map
          ("blocked_pattern: " ++ ·)
      if violations ≠ [] then
        .block (if policy.blockOnInputViolation then "high" else "medium") violations
          "input_validator" [("input_length", .int length)]
      else .pass "input_validator" [("input_length", .int length)]

/-- `PromptGuard.check`. -/
def PromptGuard.check (env : TextEnv) (policy : SecurityPolicy) (request : Json) :
    SecurityResult :=
  if policy.securityEnabled = false ∨ policy.promptInjectionEnabled = false then
    .pass "prompt_guard" []
  else
    let text := requestText request
    let matched := keywordsIn env policy.promptInjectionPatterns text
    if matched ≠ [] then
      .block "critical"
        ["prompt_injection_detected: " ++ toString matched.length ++ " pattern(s) matched"]
        "prompt_guard"
        [("matched_patterns", .arr (matched.map Json.str)),
         ("input_length", .int text.length)]
    else .pass "prompt_guard" [("input_length", .int text.length)]

/-! ### The output -/

/-- `_extract_text` of an answer. -/
def answerText : Json → String
  | .null => ""
  | .str s => s
  | v => v.pyStr

/-- `OutputChecker.check`. -/
def OutputChecker.check (env : TextEnv) (policy : SecurityPolicy) (answer : Json) :
    SecurityResult :=
  if policy.securityEnabled = false ∨ policy.outputCheckEnabled = false then
    .pass "output_checker" []
  else
    let text := answerText answer
    let length : ℤ := text.length
    let violations :=
      (if policy.outputRequired ∧ pyStrip text = "" then ["output_empty"] else []) ++
      (if policy.maxOutputLength < length then
        ["output_too_long: " ++ toString length ++ " > " ++ toString policy.maxOutputLength]
       else []) ++
      (keywordsIn env policy.sensitiveKeywords text).map ("sensitive_keyword: " ++ ·)
    if violations ≠ [] then
      .block (if policy.blockOnOutputViolation then "high" else "medium") violations
        "output_checker" [("output_length", .int length)]
    else .pass "output_checker" [("output_length", .int length)]

/-! ### The tools -/

namespace SecurityPolicy

/-- The role of a call: the one given, or the default role where there is one. -/
def effectiveRole (policy : SecurityPolicy) (role : Option String) : Option String :=
  match role with
  | some name => some name
  | none => if policy.defaultRole = "" then none else some policy.defaultRole

/-- `global_allowed` with a role: both lists where both are there, else the one that is. -/
def allowedWith (policy : SecurityPolicy) (toolRole : ToolRole) : List String :=
  if toolRole.allowedTools ≠ [] then
    if policy.allowedTools ≠ [] then policy.allowedTools.filter (· ∈ toolRole.allowedTools)
    else toolRole.allowedTools
  else policy.allowedTools

end SecurityPolicy

/-- The end of `PermissionChecker.check`, on the lists that are in force. -/
def checkLists (blocked allowed : List String) (toolName : String) : SecurityResult :=
  if toolName ∈ blocked then
    .block "high" ["tool_blocked: " ++ toolName] "permission_checker"
      [("tool_name", .str toolName), ("reason", .str "blocklisted")]
  else if allowed ≠ [] ∧ toolName ∉ allowed then
    .block "high" ["tool_not_allowed: " ++ toolName] "permission_checker"
      [("tool_name", .str toolName), ("reason", .str "not_in_allowlist"),
       ("allowed_tools", .arr (allowed.map Json.str))]
  else .pass "permission_checker" [("tool_name", .str toolName)]

/-- `PermissionChecker.check`. -/
def PermissionChecker.check (policy : SecurityPolicy) (toolName : String)
    (role : Option String) : SecurityResult :=
  if policy.securityEnabled = false ∨ policy.toolPermissionEnabled = false then
    .pass "permission_checker" []
  else
    match policy.effectiveRole role with
    | none => checkLists policy.blockedTools policy.allowedTools toolName
    | some name =>
        match policy.roles.lookup name with
        | none =>
            .block "high" ["unknown_role: " ++ name] "permission_checker"
              [("tool_name", .str toolName), ("role", .str name),
               ("reason", .str "fail_closed_unknown_role")]
        | some toolRole =>
            checkLists (policy.blockedTools ++ toolRole.blockedTools)
              (policy.allowedWith toolRole) toolName

/-! ### The guard -/

/-- `SecurityGuard.check_input`. -/
def SecurityGuard.checkInput (env : TextEnv) (policy : SecurityPolicy) (request : Json) :
    SecurityResult :=
  if policy.securityEnabled = false then .pass "security_guard" []
  else
    let result := InputValidator.validate env policy request
    if result.passed = false ∧ policy.blockOnInputViolation then result
    else
      let injection := PromptGuard.check env policy request
      if injection.passed = false ∧ policy.blockOnInjection then injection
      else .worst result injection

end ChaosDemo
