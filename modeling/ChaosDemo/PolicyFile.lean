/-
ChaosDemo/PolicyFile.lean

The loader of policy files (ai_platform/security/policy_file.py) with
`SecurityPolicy.from_dict` and `ToolRole.from_dict` of ai_platform/security/policy.py.

A list field of a policy is whatever `list` made of the value in the file, so its items
are values of YAML and not yet texts.
-/
import ChaosDemo.Security
import ChaosDemo.Yaml

namespace ChaosDemo

/-- `PolicyFileError`, or an exception of Python that gets through. -/
inductive LoadError
  | policyFile (message : String)
  | escaped (e : PyError)

/-- A built-in operation whose exception nothing catches. -/
def escaping {α : Type} (x : Except PyError α) : Except LoadError α := x.mapError .escaped

/-- `raise PolicyFileError(message)`. -/
def policyFileError {α : Type} (message : String) : Except LoadError α :=
  .error (.policyFile message)

variable {N : Type}

/-- `SecurityPolicy` as it is loaded. -/
structure LoadedPolicy (N : Type) where
  maxInputLength : ℤ
  minInputLength : ℤ
  blockedKeywords : List (YamlNode N)
  blockedPatterns : List (YamlNode N)
  promptInjectionEnabled : Bool
  promptInjectionPatterns : List (YamlNode N)
  toolPermissionEnabled : Bool
  allowedTools : List (YamlNode N)
  blockedTools : List (YamlNode N)
  roles : List (String × ToolRole)
  defaultRole : String
  policyVersion : String
  outputCheckEnabled : Bool
  maxOutputLength : ℤ
  sensitiveKeywords : List (YamlNode N)
  outputRequired : Bool
  securityEnabled : Bool
  blockOnInputViolation : Bool
  blockOnInjection : Bool
  blockOnPermissionDenied : Bool
  blockOnOutputViolation : Bool

/-! ### policy.py -/

/-- `set(SecurityPolicy().to_dict())`. -/
def knownKeys : List String :=
  ["max_input_length", "min_input_length", "blocked_keywords", "blocked_patterns",
   "prompt_injection_enabled", "prompt_injection_patterns", "tool_permission_enabled",
   "allowed_tools", "blocked_tools", "roles", "default_role", "policy_version",
   "output_check_enabled", "max_output_length", "sensitive_keywords", "output_required",
   "security_enabled", "block_on_input_violation", "block_on_injection",
   "block_on_permission_denied", "block_on_output_violation"]

/-- `roles[name] = role`. -/
def setRole : List (String × ToolRole) → String × ToolRole → List (String × ToolRole)
  | [], r => [r]
  | r' :: roles, r => if r'.1 = r.1 then r :: roles else r' :: setRole roles r

/-- Roles of different names are kept as they come. -/
theorem foldl_setRole_of_nodup {parsed roles : List (String × ToolRole)}
    (h : ((roles ++ parsed).map Prod.fst).Nodup) :
    parsed.foldl setRole roles = roles ++ parsed := by
  have hnew : ∀ {roles : List (String × ToolRole)} {r : String × ToolRole},
      r.1 ∉ roles.map Prod.fst → setRole roles r = roles ++ [r] := by
    intro roles r h
    induction roles with
    | nil => rfl
    | cons r' roles ih =>
        rw [List.map_cons, List.mem_cons, not_or] at h
        rw [setRole, if_neg (Ne.symm h.1), ih h.2]
        rfl
  induction parsed generalizing roles with
  | nil => rw [List.append_nil, List.foldl_nil]
  | cons r parsed ih =>
      have hr : r.1 ∉ roles.map Prod.fst := by
        intro hmem
        rw [List.map_append, List.nodup_append] at h
        exact h.2.2 _ hmem _ List.mem_cons_self rfl
      rw [List.foldl_cons, hnew hr, ih, List.append_assoc, List.singleton_append]
      rw [List.append_assoc, List.singleton_append]
      exact h

section FromDict

variable (doc : Yaml N)

/-- `ToolRole.from_dict`. -/
def ToolRole.fromDict (data : Mapping N) : Except PyError ToolRole := do
  let description ← doc.strOf (doc.get data "description" (.text ""))
  let allowedTools ← (← doc.listOf (doc.get data "allowed_tools" (.list []))).mapM doc.strOf
  let blockedTools ← (← doc.listOf (doc.get data "blocked_tools" (.list []))).mapM doc.strOf
  pure { description, allowedTools, blockedTools }

/-- The roles that `from_dict` reads. -/
def rolesFromDict (data : Mapping N) : Except PyError (List (String × ToolRole)) := do
  let items ← doc.dictOf (doc.get data "roles" (.mapping .empty))
  items.foldlM (fun roles item =>
    match item.2 with
    | .mapping roleData => do
        let name ← doc.strOf item.1
        let role ← ToolRole.fromDict doc roleData
        pure (setRole roles (name, role))
    | _ => pure roles) []

/-- The value of a list field. -/
def listField (data : Mapping N) (k : String) (default : List String) :
    Except PyError (List (YamlNode N)) :=
  match data.get? k with
  | none => .ok (default.map .text)
  | some v => doc.listOf (doc.node v)

/-- `SecurityPolicy.from_dict`. -/
def SecurityPolicy.fromDict (data : Mapping N) : Except PyError (LoadedPolicy N) := do
  let maxInputLength ← (doc.get data "max_input_length" (.scalar (.int 4096))).toInt
  let minInputLength ← (doc.get data "min_input_length" (.scalar (.int 1))).toInt
  let blockedKeywords ← listField doc data "blocked_keywords" []
  let blockedPatterns ← listField doc data "blocked_patterns" []
  let promptInjectionPatterns ←
    listField doc data "prompt_injection_patterns" ({} : SecurityPolicy).promptInjectionPatterns
  let allowedTools ← listField doc data "allowed_tools" []
  let blockedTools ← listField doc data "blocked_tools" []
  let roles ← rolesFromDict doc data
  let defaultRole ← doc.strOf (doc.get data "default_role" (.text ""))
  let policyVersion ← doc.strOf (doc.get data "policy_version" (.text ""))
  let maxOutputLength ← (doc.get data "max_output_length" (.scalar (.int 8192))).toInt
  let sensitiveKeywords ← listField doc data "sensitive_keywords" []
  let flag (k : String) (default : Bool) : Bool :=
    (doc.get data k (.scalar (.bool default))).truthy
  pure
    { maxInputLength, minInputLength, blockedKeywords, blockedPatterns
      promptInjectionEnabled := flag "prompt_injection_enabled" true
      promptInjectionPatterns
      toolPermissionEnabled := flag "tool_permission_enabled" true
      allowedTools, blockedTools, roles, defaultRole, policyVersion
      outputCheckEnabled := flag "output_check_enabled" true
      maxOutputLength, sensitiveKeywords
      outputRequired := flag "output_required" false
      securityEnabled := flag "security_enabled" true
      blockOnInputViolation := flag "block_on_input_violation" true
      blockOnInjection := flag "block_on_injection" true
      blockOnPermissionDenied := flag "block_on_permission_denied" true
      blockOnOutputViolation := flag "block_on_output_violation" true }

end FromDict

/-! ### policy_file.py -/

/-- `_ALLOWED_TOP_LEVEL_KEYS`. -/
def allowedTopLevelKeys : List String := ["version", "name", "roles", "default_role", "security"]

/-- `_ALLOWED_ROLE_KEYS`. -/
def allowedRoleKeys : List String := ["description", "allowed_tools", "blocked_tools"]

/-- The text a tool of a role is named by: a string that is not empty. -/
def YamlNode.toolName? : YamlNode N → Option String
  | .scalar (.str t) => if t = "" then none else some t
  | _ => none

section Loader

variable (path : String) (doc : Yaml N)

/-- The role of an entry whose keys are known. -/
def parseTools (roleName : String) (e : Mapping N) : Except LoadError ToolRole :=
  match doc.get e "allowed_tools" (.list []), doc.get e "blocked_tools" (.list []) with
  | .list allowed, .list blocked =>
      match allowed.mapM (fun t => (doc.node t).toolName?),
          blocked.mapM (fun t => (doc.node t).toolName?) with
      | some allowedTools, some blockedTools => do
          let description ← escaping (doc.strOf (doc.get e "description" (.text "")))
          pure { description, allowedTools, blockedTools }
      | _, _ =>
          policyFileError
            s!"role {doc.scalarRepr (.str roleName)} of {path} contains non-string tool names"
  | _, _ =>
      policyFileError
        s!"allowed_tools/blocked_tools of role {doc.scalarRepr (.str roleName)} in {path} must be lists"

/-- One entry of the roles, in `_parse_roles`. -/
def parseRole (name : YamlScalar) (entry : N) : Except LoadError (String × ToolRole) := do
  let roleName ← escaping (doc.keyStr name)
  if roleName = "" then policyFileError s!"empty role name in {path}"
  else
    match doc.node entry with
    | .mapping e =>
        if e.keysBesides allowedRoleKeys ≠ [] then do
          let keys ← escaping (doc.sortedRepr (e.keysBesides allowedRoleKeys))
          policyFileError
            s!"unknown keys in role {doc.scalarRepr (.str roleName)} of {path}: {keys}"
        else do
          let role ← parseTools path doc roleName e
          pure (roleName, role)
    | _ => policyFileError s!"role {doc.scalarRepr (.str roleName)} in {path} must be a mapping"

/-- `_parse_roles`. -/
def parseRoles (rawRoles : YamlNode N) : Except LoadError (List (String × ToolRole)) :=
  match rawRoles with
  | .mapping m =>
      m.fields.foldlM (fun roles f => do
        let role ← parseRole path doc f.1 f.2
        pure (setRole roles role)) []
  | _ => policyFileError s!"roles section of {path} must be a mapping"

/-- `_validate_security_keys`. -/
def validateSecurityKeys (data : Mapping N) : Except LoadError Unit :=
  if data.keysBesides knownKeys ≠ [] then do
    let keys ← escaping (doc.sortedRepr (data.keysBesides knownKeys))
    policyFileError s!"unknown keys in security section of {path}: {keys}"
  else pure ()

/-- `str(raw.get("default_role", "") or "")`. -/
def defaultRoleOf (raw : Mapping N) : Except PyError String :=
  let value := doc.get raw "default_role" (.text "")
  doc.strOf (if value.truthy then value else .text "")

/-- What is found under the path: no file, a text that is no YAML, or a value. -/
inductive PolicyText (N : Type)
  | missing
  | invalid (exc : String)
  | loaded (raw : YamlNode N)

/-- `load_policy_file`. -/
def loadPolicyFile : PolicyText N → Except LoadError (LoadedPolicy N)
  | .missing => policyFileError s!"security policy file not found: {path}"
  | .invalid exc => policyFileError s!"invalid YAML in policy file {path}: {exc}"
  | .loaded (.mapping m) =>
      if m.keysBesides allowedTopLevelKeys ≠ [] then do
        let keys ← escaping (doc.sortedRepr (m.keysBesides allowedTopLevelKeys))
        policyFileError s!"unknown top-level keys in policy file {path}: {keys}"
      else
        if (doc.get m "version" (.scalar .null)).supportedVersion = false then do
          let shown ← escaping (doc.reprOf (doc.get m "version" (.scalar .null)))
          policyFileError s!"unsupported policy version {shown} in {path}; supported: [1]"
        else do
          let roles ← parseRoles path doc (doc.get m "roles" (.mapping .empty))
          let defaultRole ← escaping (defaultRoleOf doc m)
          if defaultRole ≠ "" ∧ ∀ r ∈ roles, r.1 ≠ defaultRole then
            policyFileError
              s!"default_role {doc.scalarRepr (.str defaultRole)} is not defined in roles of {path}"
          else
            match doc.get m "security" (.mapping .empty) with
            | .mapping data => do
                validateSecurityKeys path doc data
                let policy ← escaping (SecurityPolicy.fromDict doc data)
                let policyVersion ← escaping (doc.strOf (doc.get m "version" (.scalar .null)))
                pure { policy with roles, defaultRole, policyVersion }
            | _ => policyFileError s!"security section of {path} must be a mapping"
  | .loaded _ => policyFileError s!"policy file {path} must be a YAML mapping"

end Loader

end ChaosDemo
