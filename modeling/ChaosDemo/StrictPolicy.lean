/-
ChaosDemo/StrictPolicy.lean

When a policy file is loaded strictly: either `PolicyFileError`, or a policy that has
every value as the file states it.

The loader checks keys at three levels, but of the values only those of the roles; what
stands under `security` goes through `list`, `bool`, `int` and `str`, and what a role key
there states is replaced by what stands at the top.  So a file is loaded strictly exactly
when a check turns it down with an error that can be written, or when every value has its
type and no role key under `security` says anything else than the top does.
-/
import ChaosDemo.Guards
import ChaosDemo.PolicyFile

namespace ChaosDemo

variable {N : Type}

/-! ### What a file states -/

section States

variable (doc : Yaml N)

/-- The value is a list of these texts. -/
def StatesTexts (v : YamlNode N) (texts : List String) : Prop :=
  ∃ items, v = .list items ∧ items.map doc.node = texts.map .text

/-- The entry of a mapping states this role. -/
def StatesRole (f : YamlScalar × N) (r : String × ToolRole) : Prop :=
  f.1 = .str r.1 ∧ ∃ e, doc.node f.2 = .mapping e ∧ e.keysBesides allowedRoleKeys = [] ∧
    doc.get e "description" (.text "") = .text r.2.description ∧
    StatesTexts doc (doc.get e "allowed_tools" (.list [])) r.2.allowedTools ∧
    StatesTexts doc (doc.get e "blocked_tools" (.list [])) r.2.blockedTools

/-- The value states these roles, in whatever order. -/
def StatesRoles (v : YamlNode N) (roles : List (String × ToolRole)) : Prop :=
  ∃ m stated, v = .mapping m ∧ List.Forall₂ (StatesRole doc) m.fields stated ∧
    stated.Perm roles

/-- The value states this default role; a null states that there is none. -/
def StatesDefaultRole (v : YamlNode N) (role : String) : Prop :=
  v = .text role ∨ v = .scalar .null ∧ role = ""

/-- The value states this version, as a text or as an integer. -/
def StatesVersion (v : YamlNode N) (version : String) : Prop :=
  v = .text version ∨ ∃ i, v = .scalar (.int i) ∧ intRepr i = .ok version

end States

/-- The list fields of a policy: the key, the value where the file has none, the field. -/
def listFields : List (String × List String × (LoadedPolicy N → List (YamlNode N))) :=
  [("blocked_keywords", [], (·.blockedKeywords)), ("blocked_patterns", [], (·.blockedPatterns)),
   ("prompt_injection_patterns", ({} : SecurityPolicy).promptInjectionPatterns,
    (·.promptInjectionPatterns)),
   ("allowed_tools", [], (·.allowedTools)), ("blocked_tools", [], (·.blockedTools)),
   ("sensitive_keywords", [], (·.sensitiveKeywords))]

/-- The boolean fields. -/
def flagFields : List (String × Bool × (LoadedPolicy N → Bool)) :=
  [("prompt_injection_enabled", true, (·.promptInjectionEnabled)),
   ("tool_permission_enabled", true, (·.toolPermissionEnabled)),
   ("output_check_enabled", true, (·.outputCheckEnabled)),
   ("output_required", false, (·.outputRequired)),
   ("security_enabled", true, (·.securityEnabled)),
   ("block_on_input_violation", true, (·.blockOnInputViolation)),
   ("block_on_injection", true, (·.blockOnInjection)),
   ("block_on_permission_denied", true, (·.blockOnPermissionDenied)),
   ("block_on_output_violation", true, (·.blockOnOutputViolation))]

/-- The integer fields. -/
def numberFields : List (String × ℤ × (LoadedPolicy N → ℤ)) :=
  [("max_input_length", 4096, (·.maxInputLength)), ("min_input_length", 1, (·.minInputLength)),
   ("max_output_length", 8192, (·.maxOutputLength))]

section Strictness

variable (doc : Yaml N)

/-- A list field is the file's list of texts, or its default. -/
def ReadsTexts (data : Mapping N) (k : String) (default : List String)
    (field : List (YamlNode N)) : Prop :=
  ∃ texts, field = texts.map .text ∧
    match data.get? k with
    | none => texts = default
    | some v => StatesTexts doc (doc.node v) texts

/-- The policy has what the file states: `m` is the file and `data` its security section.
The name of a policy is no part of it. -/
structure Faithful (m data : Mapping N) (policy : LoadedPolicy N) : Prop where
  keys : m.keysBesides allowedTopLevelKeys = []
  dataKeys : data.keysBesides knownKeys = []
  lists : ∀ f ∈ listFields, ReadsTexts doc data f.1 f.2.1 (f.2.2 policy)
  flags : ∀ f ∈ flagFields,
    doc.get data f.1 (.scalar (.bool f.2.1)) = .scalar (.bool (f.2.2 policy))
  numbers : ∀ f ∈ numberFields,
    doc.get data f.1 (.scalar (.int f.2.1)) = .scalar (.int (f.2.2 policy))
  roles : StatesRoles doc (doc.get m "roles" (.mapping .empty)) policy.roles
  dataRoles : ∀ v, data.get? "roles" = some v → StatesRoles doc (doc.node v) policy.roles
  defaultRole : StatesDefaultRole (doc.get m "default_role" (.text "")) policy.defaultRole
  dataDefaultRole : ∀ v, data.get? "default_role" = some v →
    StatesDefaultRole (doc.node v) policy.defaultRole
  version : StatesVersion (doc.get m "version" (.scalar .null)) policy.policyVersion
  dataVersion : ∀ v, data.get? "policy_version" = some v →
    StatesVersion (doc.node v) policy.policyVersion

/-- The value is turned down with `PolicyFileError`, or loaded as it is stated. -/
def LoadedStrictly (path : String) (raw : YamlNode N) : Prop :=
  match loadPolicyFile path doc (.loaded raw) with
  | .error (.policyFile _) => True
  | .error (.escaped _) => False
  | .ok policy => ∃ m data, raw = .mapping m ∧
      doc.get m "security" (.mapping .empty) = .mapping data ∧ Faithful doc m data policy

/-! ### The files that are loaded strictly -/

/-- Every value has its type, and the role keys of the security section state nothing but
`roles`, `role` and the version. -/
structure WellTyped (m data : Mapping N) (roles : List (String × ToolRole)) (role : String) :
    Prop where
  keys : m.keysBesides allowedTopLevelKeys = []
  dataKeys : data.keysBesides knownKeys = []
  version : doc.get m "version" (.scalar .null) = .scalar (.int 1)
  topRoles : StatesRoles doc (doc.get m "roles" (.mapping .empty)) roles
  named : ∀ r ∈ roles, r.1 ≠ "" ∧ ∀ t ∈ r.2.allowedTools ++ r.2.blockedTools, t ≠ ""
  defaultRole : StatesDefaultRole (doc.get m "default_role" (.text "")) role
  defined : role ≠ "" → ∃ r ∈ roles, r.1 = role
  lists : ∀ f ∈ (listFields : List (String × List String × (LoadedPolicy N → _))),
    ∀ v, data.get? f.1 = some v →
      ∃ texts, StatesTexts doc (doc.node v) texts
  flags : ∀ f ∈ (flagFields : List (String × Bool × (LoadedPolicy N → Bool))),
    ∃ b, doc.get data f.1 (.scalar (.bool f.2.1)) = .scalar (.bool b)
  numbers : ∀ f ∈ (numberFields : List (String × ℤ × (LoadedPolicy N → ℤ))),
    ∃ i, doc.get data f.1 (.scalar (.int f.2.1)) = .scalar (.int i)
  dataRoles : ∀ v, data.get? "roles" = some v → StatesRoles doc (doc.node v) roles
  dataDefaultRole : ∀ v, data.get? "default_role" = some v → StatesDefaultRole (doc.node v) role
  dataVersion : ∀ v, data.get? "policy_version" = some v → StatesVersion (doc.node v) "1"

/-- The tools of a role are lists of texts, none of them empty. -/
def NamesTools (e : Mapping N) : Prop :=
  ∃ allowed blocked, doc.get e "allowed_tools" (.list []) = .list allowed ∧
    doc.get e "blocked_tools" (.list []) = .list blocked ∧
    ∀ t ∈ allowed ++ blocked, ∃ s, s ≠ "" ∧ doc.node t = .text s

/-- The checks let an entry of the roles pass under this name. -/
def RolePasses (f : YamlScalar × N) (name : String) : Prop :=
  doc.keyStr f.1 = .ok name ∧ name ≠ "" ∧ ∃ e, doc.node f.2 = .mapping e ∧
    e.keysBesides allowedRoleKeys = [] ∧ NamesTools doc e ∧
    ∃ text, doc.strOf (doc.get e "description" (.text "")) = .ok text

/-- A check turns an entry of the roles down, and its error can be written. -/
def RoleRefused (f : YamlScalar × N) : Prop :=
  ∃ name, doc.keyStr f.1 = .ok name ∧
    (name = "" ∨ (∀ e, doc.node f.2 ≠ .mapping e) ∨
      ∃ e, doc.node f.2 = .mapping e ∧
        (e.keysBesides allowedRoleKeys ≠ [] ∧ Nameable doc (e.keysBesides allowedRoleKeys) ∨
          e.keysBesides allowedRoleKeys = [] ∧ ¬ NamesTools doc e))

/-- The roles are turned down at the first entry that does not pass. -/
def RolesRefused (v : YamlNode N) : Prop :=
  (∀ m, v ≠ .mapping m) ∨ ∃ m before f after, v = .mapping m ∧
    m.fields = before ++ f :: after ∧ (∀ g ∈ before, ∃ name, RolePasses doc g name) ∧
    RoleRefused doc f

/-- All roles pass, under these names. -/
def RolesPass (v : YamlNode N) (names : List String) : Prop :=
  ∃ m, v = .mapping m ∧ List.Forall₂ (RolePasses doc) m.fields names

/-- A check turns the file down, and its error can be written. -/
inductive Refused : YamlNode N → Prop
  | notMapping {raw : YamlNode N} : (∀ m, raw ≠ .mapping m) → Refused raw
  | keys {m : Mapping N} : m.keysBesides allowedTopLevelKeys ≠ [] →
      Nameable doc (m.keysBesides allowedTopLevelKeys) → Refused (.mapping m)
  | version {m : Mapping N} {text : String} : m.keysBesides allowedTopLevelKeys = [] →
      (doc.get m "version" (.scalar .null)).supportedVersion = false →
      doc.reprOf (doc.get m "version" (.scalar .null)) = .ok text → Refused (.mapping m)
  | roles {m : Mapping N} : m.keysBesides allowedTopLevelKeys = [] →
      (doc.get m "version" (.scalar .null)).supportedVersion = true →
      RolesRefused doc (doc.get m "roles" (.mapping .empty)) → Refused (.mapping m)
  | defaultRole {m : Mapping N} {names : List String} {role : String} :
      m.keysBesides allowedTopLevelKeys = [] →
      (doc.get m "version" (.scalar .null)).supportedVersion = true →
      RolesPass doc (doc.get m "roles" (.mapping .empty)) names →
      defaultRoleOf doc m = .ok role → role ≠ "" → role ∉ names → Refused (.mapping m)
  | security {m : Mapping N} {names : List String} {role : String} :
      m.keysBesides allowedTopLevelKeys = [] →
      (doc.get m "version" (.scalar .null)).supportedVersion = true →
      RolesPass doc (doc.get m "roles" (.mapping .empty)) names →
      defaultRoleOf doc m = .ok role → (role ≠ "" → role ∈ names) →
      (∀ data, doc.get m "security" (.mapping .empty) ≠ .mapping data) → Refused (.mapping m)
  | dataKeys {m data : Mapping N} {names : List String} {role : String} :
      m.keysBesides allowedTopLevelKeys = [] →
      (doc.get m "version" (.scalar .null)).supportedVersion = true →
      RolesPass doc (doc.get m "roles" (.mapping .empty)) names →
      defaultRoleOf doc m = .ok role → (role ≠ "" → role ∈ names) →
      doc.get m "security" (.mapping .empty) = .mapping data →
      data.keysBesides knownKeys ≠ [] → Nameable doc (data.keysBesides knownKeys) →
      Refused (.mapping m)

end Strictness

/-! ### What the loader lets through -/

@[simp] theorem escaping_eq_ok {α : Type} {x : Except PyError α} {a : α} :
    escaping x = .ok a ↔ x = .ok a := by
  cases x <;> simp [escaping, Except.mapError]

@[simp] theorem escaping_ne_policyFile {α : Type} {x : Except PyError α} {message : String} :
    escaping x ≠ .error (.policyFile message) := by
  cases x <;> simp [escaping, Except.mapError]

theorem toolName?_eq_some {v : YamlNode N} {s : String} :
    v.toolName? = some s ↔ s ≠ "" ∧ v = .text s := by
  constructor
  · intro h
    unfold YamlNode.toolName? at h
    split at h
    · split at h
      · cases h
      · rename_i hne
        cases h
        exact ⟨hne, rfl⟩
    · cases h
  · intro h
    obtain ⟨hne, rfl⟩ := h
    simp [YamlNode.toolName?, hne]

section Entries

variable {path : String} {doc : Yaml N}

/-- The names of a list of tools, read. -/
theorem mapM_toolName_iff {tools : List N} {names : List String} :
    tools.mapM (fun t => (doc.node t).toolName?) = some names ↔
      tools.map doc.node = names.map .text ∧ ∀ s ∈ names, s ≠ "" := by
  rw [mapM_eq_some_iff]
  simp only [toolName?_eq_some]
  constructor
  · intro h
    induction h with
    | nil => simp
    | cons hx _ ih =>
        rw [List.map_cons, List.map_cons, hx.2, ih.1]
        exact ⟨rfl, List.forall_mem_cons.mpr ⟨hx.1, ih.2⟩⟩
  · intro h
    obtain ⟨hmap, hne⟩ := h
    induction names generalizing tools with
    | nil =>
        rw [List.map_nil, List.map_eq_nil_iff] at hmap
        rw [hmap]
        exact List.Forall₂.nil
    | cons s names ih =>
        obtain ⟨t, ts, rfl, ht, hts⟩ := List.map_eq_cons_iff.mp hmap
        exact List.Forall₂.cons ⟨hne s List.mem_cons_self, ht⟩
          (ih hts fun s' hs' => hne s' (List.mem_cons_of_mem _ hs'))

theorem namesTools_iff {e : Mapping N} :
    NamesTools doc e ↔ ∃ allowed blocked, doc.get e "allowed_tools" (.list []) = .list allowed ∧
      doc.get e "blocked_tools" (.list []) = .list blocked ∧
      (∃ names, allowed.mapM (fun t => (doc.node t).toolName?) = some names) ∧
      ∃ names, blocked.mapM (fun t => (doc.node t).toolName?) = some names := by
  have hnames : ∀ tools : List N,
      (∃ names, tools.mapM (fun t => (doc.node t).toolName?) = some names) ↔
        ∀ t ∈ tools, ∃ s, s ≠ "" ∧ doc.node t = .text s := fun tools => by
    simp only [mapM_eq_some_iff, exists_forall₂_iff, toolName?_eq_some]
  simp only [NamesTools, hnames, List.mem_append, or_imp, forall_and]

/-- The tools and the description that the loader reads. -/
def ToolsRead (doc : Yaml N) (e : Mapping N) (role : ToolRole) : Prop :=
  ∃ allowed blocked, doc.get e "allowed_tools" (.list []) = .list allowed ∧
    doc.get e "blocked_tools" (.list []) = .list blocked ∧
    allowed.mapM (fun t => (doc.node t).toolName?) = some role.allowedTools ∧
    blocked.mapM (fun t => (doc.node t).toolName?) = some role.blockedTools ∧
    doc.strOf (doc.get e "description" (.text "")) = .ok role.description

theorem parseTools_eq_ok_iff {name : String} {e : Mapping N} {role : ToolRole} :
    parseTools path doc name e = .ok role ↔ ToolsRead doc e role := by
  constructor
  · intro h
    unfold parseTools at h
    split at h
    · rename_i allowed blocked hallowed hblocked
      split at h
      · rename_i allowedTools blockedTools hallowedTools hblockedTools
        obtain ⟨description, hdescription, h⟩ := bind_eq_ok_iff.mp h
        cases h
        exact ⟨allowed, blocked, hallowed, hblocked, hallowedTools, hblockedTools,
          escaping_eq_ok.mp hdescription⟩
      · cases h
    · cases h
  · intro h
    obtain ⟨allowed, blocked, hallowed, hblocked, hnames, hnames', hdescription⟩ := h
    simp only [parseTools, hallowed, hblocked, hnames, hnames']
    exact bind_eq_ok_iff.mpr ⟨_, escaping_eq_ok.mpr hdescription, rfl⟩

theorem parseTools_refused_iff {name : String} {e : Mapping N} :
    (∃ message, parseTools path doc name e = .error (.policyFile message)) ↔
      ¬ NamesTools doc e := by
  rw [namesTools_iff]
  constructor
  · intro h htools
    obtain ⟨message, h⟩ := h
    obtain ⟨allowed, blocked, hallowed, hblocked, ⟨names, hnames⟩, names', hnames'⟩ := htools
    simp only [parseTools, hallowed, hblocked, hnames, hnames'] at h
    rcases bind_eq_error_iff.mp h with h | ⟨description, -, h⟩
    · exact escaping_ne_policyFile h
    · exact pure_ne_error h
  · intro h
    unfold parseTools
    split
    · rename_i allowed blocked hallowed hblocked
      split
      · rename_i names names' hnames hnames'
        exact absurd ⟨allowed, blocked, hallowed, hblocked, ⟨names, hnames⟩, names', hnames'⟩ h
      · exact ⟨_, rfl⟩
    · exact ⟨_, rfl⟩

/-- The role that the loader makes of an entry which passes. -/
def RoleRead (doc : Yaml N) (f : YamlScalar × N) (r : String × ToolRole) : Prop :=
  doc.keyStr f.1 = .ok r.1 ∧ r.1 ≠ "" ∧ ∃ e, doc.node f.2 = .mapping e ∧
    e.keysBesides allowedRoleKeys = [] ∧ ToolsRead doc e r.2

theorem parseRole_eq_ok_iff {f : YamlScalar × N} {r : String × ToolRole} :
    parseRole path doc f.1 f.2 = .ok r ↔ RoleRead doc f r := by
  constructor
  · intro h
    obtain ⟨name, hname, h⟩ := bind_eq_ok_iff.mp h
    split at h
    · cases h
    rename_i hne
    split at h
    · rename_i e he
      split at h
      · obtain ⟨keys, -, h⟩ := bind_eq_ok_iff.mp h
        cases h
      · rename_i hkeys
        obtain ⟨role, hrole, h⟩ := bind_eq_ok_iff.mp h
        cases h
        exact ⟨escaping_eq_ok.mp hname, hne, e, he, not_ne_iff.mp hkeys,
          parseTools_eq_ok_iff.mp hrole⟩
    · cases h
  · intro h
    obtain ⟨hname, hne, e, he, hkeys, htools⟩ := h
    refine bind_eq_ok_iff.mpr ⟨r.1, escaping_eq_ok.mpr hname, ?_⟩
    rw [if_neg hne, he]
    show (if e.keysBesides allowedRoleKeys ≠ [] then _ else _) = _
    rw [if_neg (not_ne_iff.mpr hkeys)]
    exact bind_eq_ok_iff.mpr ⟨r.2, parseTools_eq_ok_iff.mpr htools, rfl⟩

theorem parseRole_refused_iff {f : YamlScalar × N} :
    (∃ message, parseRole path doc f.1 f.2 = .error (.policyFile message)) ↔
      RoleRefused doc f := by
  constructor
  · intro h
    obtain ⟨message, h⟩ := h
    rcases bind_eq_error_iff.mp h with h | ⟨name, hname, h⟩
    · exact absurd h escaping_ne_policyFile
    refine ⟨name, escaping_eq_ok.mp hname, ?_⟩
    split at h
    · rename_i hempty
      exact Or.inl hempty
    right
    split at h
    · rename_i e he
      refine Or.inr ⟨e, he, ?_⟩
      split at h
      · rename_i hkeys
        rcases bind_eq_error_iff.mp h with h | ⟨keys, hshown, -⟩
        · exact absurd h escaping_ne_policyFile
        · exact Or.inl ⟨hkeys, nameable_iff.mpr ⟨keys, escaping_eq_ok.mp hshown⟩⟩
      · rename_i hkeys
        rcases bind_eq_error_iff.mp h with h | ⟨role, -, h⟩
        · exact Or.inr ⟨not_ne_iff.mp hkeys, parseTools_refused_iff.mp ⟨message, h⟩⟩
        · exact absurd h pure_ne_error
    · rename_i hentry
      exact Or.inl hentry
  · intro h
    obtain ⟨name, hname, h⟩ := h
    have hstart : parseRole path doc f.1 f.2 = (pure name >>= _) :=
      congrArg (· >>= _) (escaping_eq_ok.mpr hname)
    rw [hstart, pure_bind]
    by_cases hempty : name = ""
    · rw [if_pos hempty]
      exact ⟨_, rfl⟩
    rw [if_neg hempty]
    rcases h with h | h | ⟨e, he, h⟩
    · exact absurd h hempty
    · split
      · rename_i e he
        exact absurd he (h e)
      · exact ⟨_, rfl⟩
    · rw [he]
      show ∃ message, (if e.keysBesides allowedRoleKeys ≠ [] then _ else _) = _
      rcases h with ⟨hkeys, hnames⟩ | ⟨hkeys, htools⟩
      · obtain ⟨keys, hkeys'⟩ := nameable_iff.mp hnames
        rw [if_pos hkeys, escaping_eq_ok.mpr hkeys']
        exact ⟨_, rfl⟩
      · obtain ⟨message, h⟩ := parseTools_refused_iff.mpr htools
        rw [if_neg (not_ne_iff.mpr hkeys), h]
        exact ⟨message, rfl⟩

theorem rolePasses_iff {f : YamlScalar × N} {name : String} :
    RolePasses doc f name ↔ ∃ r, RoleRead doc f r ∧ r.1 = name := by
  constructor
  · intro h
    obtain ⟨hname, hne, e, he, hkeys, htools, description, hdescription⟩ := h
    obtain ⟨allowed, blocked, hallowed, hblocked, ⟨names, hnames⟩, names', hnames'⟩ :=
      namesTools_iff.mp htools
    exact ⟨(name, ⟨description, names, names'⟩), ⟨hname, hne, e, he, hkeys, allowed, blocked,
      hallowed, hblocked, hnames, hnames', hdescription⟩, rfl⟩
  · intro h
    obtain ⟨r, ⟨hname, hne, e, he, hkeys, allowed, blocked, hallowed, hblocked, hnames, hnames',
      hdescription⟩, rfl⟩ := h
    exact ⟨hname, hne, e, he, hkeys,
      namesTools_iff.mpr ⟨allowed, blocked, hallowed, hblocked, ⟨_, hnames⟩, _, hnames'⟩,
      _, hdescription⟩

/-- What a file states of a role is what the loader reads. -/
theorem StatesRole.read {f : YamlScalar × N} {r : String × ToolRole} (h : StatesRole doc f r)
    (hne : r.1 ≠ "") (htools : ∀ t ∈ r.2.allowedTools ++ r.2.blockedTools, t ≠ "") :
    RoleRead doc f r := by
  obtain ⟨hkey, e, he, hkeys, hdescription, ⟨allowed, hallowed, hnames⟩, blocked, hblocked,
    hnames'⟩ := h
  refine ⟨by rw [hkey]; rfl, hne, e, he, hkeys, allowed, blocked, hallowed, hblocked,
    mapM_toolName_iff.mpr ⟨hnames, ?_⟩, mapM_toolName_iff.mpr ⟨hnames', ?_⟩,
    by rw [hdescription]; rfl⟩
  · intro s hs
    exact htools s (List.mem_append_left _ hs)
  · intro s hs
    exact htools s (List.mem_append_right _ hs)

/-! ### The roles -/

theorem parseRoles_eq_ok_iff {v : YamlNode N} {roles : List (String × ToolRole)} :
    parseRoles path doc v = .ok roles ↔ ∃ m parsed, v = .mapping m ∧
      List.Forall₂ (RoleRead doc) m.fields parsed ∧ roles = parsed.foldl setRole [] := by
  cases v with
  | mapping m =>
      have hloop : parseRoles path doc (.mapping m) = .ok roles ↔ _ := foldlM_eq_ok_iff
      simp only [parseRole_eq_ok_iff] at hloop
      refine hloop.trans ⟨fun h => ?_, fun h => ?_⟩
      · obtain ⟨parsed, h⟩ := h
        exact ⟨m, parsed, rfl, h⟩
      · obtain ⟨m', parsed, hm, h⟩ := h
        cases hm
        exact ⟨parsed, h⟩
  | _ =>
      constructor
      · intro h
        cases h
      · intro h
        obtain ⟨m, parsed, hm, -⟩ := h
        cases hm

theorem parseRoles_refused_iff {v : YamlNode N} :
    (∃ message, parseRoles path doc v = .error (.policyFile message)) ↔ RolesRefused doc v := by
  cases v with
  | mapping m =>
      have hstop : ∀ e, parseRoles path doc (.mapping m) = .error e ↔ _ := fun e =>
        foldlM_eq_error_iff
      simp only [hstop, parseRole_eq_ok_iff]
      constructor
      · intro h
        obtain ⟨message, before, f, after, hsplit, hbefore, hf⟩ := h
        refine Or.inr ⟨m, before, f, after, rfl, hsplit, fun g hg => ?_,
          parseRole_refused_iff.mp ⟨message, hf⟩⟩
        obtain ⟨r, hr⟩ := hbefore g hg
        exact ⟨r.1, rolePasses_iff.mpr ⟨r, hr, rfl⟩⟩
      · intro h
        rcases h with h | ⟨m', before, f, after, hm, hsplit, hbefore, hf⟩
        · exact absurd rfl (h m)
        · cases hm
          obtain ⟨message, hmessage⟩ := parseRole_refused_iff.mpr hf
          refine ⟨message, before, f, after, hsplit, fun g hg => ?_, hmessage⟩
          obtain ⟨name, hname⟩ := hbefore g hg
          obtain ⟨r, hr, -⟩ := rolePasses_iff.mp hname
          exact ⟨r, hr⟩
  | _ =>
      constructor
      · intro _
        left
        intro m h
        cases h
      · intro _
        exact ⟨_, rfl⟩

theorem rolesPass_iff {v : YamlNode N} {names : List String} :
    RolesPass doc v names ↔ ∃ m parsed, v = .mapping m ∧
      List.Forall₂ (RoleRead doc) m.fields parsed ∧ names = parsed.map Prod.fst := by
  have hnamed : ∀ {fields : List (YamlScalar × N)} {names : List String},
      List.Forall₂ (RolePasses doc) fields names ↔
        ∃ parsed, List.Forall₂ (RoleRead doc) fields parsed ∧ names = parsed.map Prod.fst := by
    intro fields names
    constructor
    · intro h
      induction h with
      | nil => exact ⟨[], List.Forall₂.nil, rfl⟩
      | cons hf _ ih =>
          obtain ⟨r, hr, rfl⟩ := rolePasses_iff.mp hf
          obtain ⟨parsed, hparsed, rfl⟩ := ih
          exact ⟨r :: parsed, List.Forall₂.cons hr hparsed, rfl⟩
    · intro h
      obtain ⟨parsed, h, rfl⟩ := h
      induction h with
      | nil => exact List.Forall₂.nil
      | cons hf _ ih => exact List.Forall₂.cons (rolePasses_iff.mpr ⟨_, hf, rfl⟩) ih
  constructor
  · intro h
    obtain ⟨m, rfl, h⟩ := h
    obtain ⟨parsed, h⟩ := hnamed.mp h
    exact ⟨m, parsed, rfl, h⟩
  · intro h
    obtain ⟨m, parsed, rfl, h⟩ := h
    exact ⟨m, rfl, hnamed.mpr ⟨parsed, h⟩⟩

end Entries

theorem exists_name_setRole {roles : List (String × ToolRole)} {r : String × ToolRole}
    {x : String} :
    (∃ r' ∈ setRole roles r, r'.1 = x) ↔ (∃ r' ∈ roles, r'.1 = x) ∨ r.1 = x := by
  induction roles with
  | nil => simp [setRole]
  | cons r' roles ih =>
      rw [setRole]
      split
      · rename_i hname
        simp only [List.exists_mem_cons_iff, hname, or_right_comm, or_self]
      · simp only [List.exists_mem_cons_iff, ih, or_assoc]

/-- The names of the roles are those that were set. -/
theorem exists_name_foldl_setRole {parsed roles : List (String × ToolRole)} {x : String} :
    (∃ r ∈ parsed.foldl setRole roles, r.1 = x) ↔
      (∃ r ∈ roles, r.1 = x) ∨ x ∈ parsed.map Prod.fst := by
  induction parsed generalizing roles with
  | nil => simp
  | cons r parsed ih =>
      rw [List.foldl_cons, ih, exists_name_setRole, List.map_cons, List.mem_cons, or_assoc,
        eq_comm (a := x)]

/-- The names that a mapping states are different. -/
theorem nodup_of_states {doc : Yaml N} {fields : List (YamlScalar × N)}
    {stated : List (String × ToolRole)}
    (hdistinct : fields.Pairwise fun f g => f.1.pyEq g.1 = false)
    (h : List.Forall₂ (StatesRole doc) fields stated) : (stated.map Prod.fst).Nodup := by
  induction h with
  | nil => exact List.nodup_nil
  | cons hf hrest ih =>
      rw [List.pairwise_cons] at hdistinct
      rw [List.map_cons, List.nodup_cons]
      refine ⟨fun hmem => ?_, ih hdistinct.2⟩
      obtain ⟨r', hr', hname⟩ := List.mem_map.mp hmem
      obtain ⟨g, hg, hstates⟩ := exists_mem_of_forall₂ hrest hr'
      have hne := hdistinct.1 g hg
      rw [hf.1, hstates.1, hname] at hne
      simp [YamlScalar.pyEq, YamlScalar.number?] at hne

/-- Roles that are stated with their types are read as they are stated. -/
theorem parseRoles_of_states {path : String} {doc : Yaml N} {v : YamlNode N}
    {roles : List (String × ToolRole)} (h : StatesRoles doc v roles)
    (hnamed : ∀ r ∈ roles, r.1 ≠ "" ∧ ∀ t ∈ r.2.allowedTools ++ r.2.blockedTools, t ≠ "") :
    ∃ stated, parseRoles path doc v = .ok stated ∧ stated.Perm roles := by
  obtain ⟨m, stated, rfl, hstates, hperm⟩ := h
  have hnodup := nodup_of_states m.distinct hstates
  refine ⟨stated, parseRoles_eq_ok_iff.mpr ⟨m, stated, rfl, ?_, ?_⟩, hperm⟩
  · have hboth := (List.forall₂_and_left stated m.fields).mpr
      ⟨fun r hr => hnamed r (hperm.mem_iff.mp hr), hstates.flip⟩
    exact hboth.flip.imp fun f r h => StatesRole.read h.2 h.1.1 h.1.2
  · rw [foldl_setRole_of_nodup (by simpa using hnodup), List.nil_append]

/-! ### Turning a file down -/

section Load

variable {path : String} {doc : Yaml N}

theorem validateSecurityKeys_eq_ok_iff {data : Mapping N} :
    validateSecurityKeys path doc data = .ok () ↔ data.keysBesides knownKeys = [] := by
  rw [validateSecurityKeys]
  by_cases hkeys : data.keysBesides knownKeys = []
  · rw [if_neg (not_ne_iff.mpr hkeys)]
    exact iff_of_true rfl hkeys
  · rw [if_pos hkeys]
    refine iff_of_false (fun h => ?_) hkeys
    obtain ⟨keys, -, h⟩ := bind_eq_ok_iff.mp h
    cases h

theorem validateSecurityKeys_refused_iff {data : Mapping N} :
    (∃ message, validateSecurityKeys path doc data = .error (.policyFile message)) ↔
      data.keysBesides knownKeys ≠ [] ∧ Nameable doc (data.keysBesides knownKeys) := by
  rw [validateSecurityKeys, nameable_iff]
  by_cases hkeys : data.keysBesides knownKeys = []
  · rw [if_neg (not_ne_iff.mpr hkeys)]
    exact iff_of_false (fun h => pure_ne_error h.choose_spec) fun h => h.1 hkeys
  · rw [if_pos hkeys]
    constructor
    · intro h
      obtain ⟨message, h⟩ := h
      rcases bind_eq_error_iff.mp h with h | ⟨keys, hshown, -⟩
      · exact absurd h escaping_ne_policyFile
      · exact ⟨hkeys, keys, escaping_eq_ok.mp hshown⟩
    · intro h
      obtain ⟨-, keys, hshown⟩ := h
      rw [escaping_eq_ok.mpr hshown]
      exact ⟨_, rfl⟩

/-- The default role is one of the roles, or there is none. -/
def RoleDefined (roles : List (String × ToolRole)) (role : String) : Prop :=
  role ≠ "" → ∃ r ∈ roles, r.1 = role

theorem not_roleDefined_iff {roles : List (String × ToolRole)} {role : String} :
    ¬ RoleDefined roles role ↔ role ≠ "" ∧ ∀ r ∈ roles, r.1 ≠ role := by
  rw [RoleDefined, Classical.not_imp]
  simp only [not_exists, not_and, ne_eq]

/-- What the loader returns, check by check. -/
theorem loadPolicyFile_eq_ok_iff {m : Mapping N} {policy : LoadedPolicy N} :
    loadPolicyFile path doc (.loaded (.mapping m)) = .ok policy ↔
      m.keysBesides allowedTopLevelKeys = [] ∧
      (doc.get m "version" (.scalar .null)).supportedVersion = true ∧
      ∃ roles, parseRoles path doc (doc.get m "roles" (.mapping .empty)) = .ok roles ∧
      ∃ role, defaultRoleOf doc m = .ok role ∧ RoleDefined roles role ∧
      ∃ data, doc.get m "security" (.mapping .empty) = .mapping data ∧
      data.keysBesides knownKeys = [] ∧
      ∃ loaded, SecurityPolicy.fromDict doc data = .ok loaded ∧
      ∃ version, doc.strOf (doc.get m "version" (.scalar .null)) = .ok version ∧
        policy = { loaded with roles, defaultRole := role, policyVersion := version } := by
  rw [loadPolicyFile]
  by_cases hkeys : m.keysBesides allowedTopLevelKeys = []
  swap
  · rw [if_pos hkeys]
    refine iff_of_false (fun h => ?_) fun h => hkeys h.1
    obtain ⟨keys, -, h⟩ := bind_eq_ok_iff.mp h
    cases h
  rw [if_neg (not_ne_iff.mpr hkeys)]
  cases hversion : (doc.get m "version" (.scalar .null)).supportedVersion with
  | false =>
      rw [if_pos rfl]
      refine iff_of_false (fun h => ?_) fun h => absurd h.2.1 Bool.false_ne_true
      obtain ⟨shown, -, h⟩ := bind_eq_ok_iff.mp h
      cases h
  | true =>
      rw [if_neg (by simp)]
      simp only [bind_eq_ok_iff, escaping_eq_ok]
      constructor
      · intro h
        obtain ⟨roles, hroles, role, hrole, h⟩ := h
        split at h
        · cases h
        rename_i hdefined
        split at h
        · rename_i data hdata
          obtain ⟨⟨⟩, hvalid, h⟩ := bind_eq_ok_iff.mp h
          obtain ⟨loaded, hloaded, h⟩ := bind_eq_ok_iff.mp h
          obtain ⟨version, hstr, h⟩ := bind_eq_ok_iff.mp h
          cases h
          exact ⟨hkeys, trivial, roles, hroles, role, hrole,
            not_not.mp (mt not_roleDefined_iff.mp hdefined), data, hdata,
            validateSecurityKeys_eq_ok_iff.mp hvalid, loaded, escaping_eq_ok.mp hloaded, version,
            escaping_eq_ok.mp hstr, rfl⟩
        · cases h
      · intro h
        obtain ⟨-, -, roles, hroles, role, hrole, hdefined, data, hdata, hvalid, loaded,
          hloaded, version, hstr, rfl⟩ := h
        refine ⟨roles, hroles, role, hrole, ?_⟩
        rw [if_neg (mt not_roleDefined_iff.mpr (not_not.mpr hdefined)), hdata]
        exact bind_eq_ok_iff.mpr ⟨(), validateSecurityKeys_eq_ok_iff.mpr hvalid,
          bind_eq_ok_iff.mpr ⟨loaded, escaping_eq_ok.mpr hloaded,
            bind_eq_ok_iff.mpr ⟨version, escaping_eq_ok.mpr hstr, rfl⟩⟩⟩

/-- A default role that is defined is one of the names that pass. -/
theorem roleDefined_iff {roles parsed : List (String × ToolRole)} {role : String} (hroles : roles = parsed.foldl setRole []) :
    RoleDefined roles role ↔ (role ≠ "" → role ∈ parsed.map Prod.fst) := by
  rw [RoleDefined, hroles, exists_name_foldl_setRole]
  simp only [List.not_mem_nil, false_and, exists_false, false_or]

theorem refused_of_loadPolicyFile {raw : YamlNode N} {message : String}
    (h : loadPolicyFile path doc (.loaded raw) = .error (.policyFile message)) :
    Refused doc raw := by
  cases raw with
  | mapping m =>
      rw [loadPolicyFile] at h
      split at h
      · rename_i hkeys
        rcases bind_eq_error_iff.mp h with h | ⟨keys, hshown, -⟩
        · exact absurd h escaping_ne_policyFile
        · exact Refused.keys hkeys (nameable_iff.mpr ⟨keys, escaping_eq_ok.mp hshown⟩)
      rename_i hkeys
      have hkeys := not_ne_iff.mp hkeys
      split at h
      · rename_i hversion
        rcases bind_eq_error_iff.mp h with h | ⟨shown, hshown, -⟩
        · exact absurd h escaping_ne_policyFile
        · exact Refused.version hkeys hversion (escaping_eq_ok.mp hshown)
      rename_i hversion
      have hversion := Bool.eq_true_of_not_eq_false hversion
      rcases bind_eq_error_iff.mp h with h | ⟨roles, hroles, h⟩
      · exact Refused.roles hkeys hversion (parseRoles_refused_iff.mp ⟨message, h⟩)
      obtain ⟨m', parsed, hm, hparsed, hset⟩ := parseRoles_eq_ok_iff.mp hroles
      have hpass : RolesPass doc (doc.get m "roles" (.mapping .empty)) (parsed.map Prod.fst) :=
        rolesPass_iff.mpr ⟨m', parsed, hm, hparsed, rfl⟩
      rcases bind_eq_error_iff.mp h with h | ⟨role, hrole, h⟩
      · exact absurd h escaping_ne_policyFile
      rw [escaping_eq_ok] at hrole
      split at h
      · rename_i hundefined
        refine Refused.defaultRole hkeys hversion hpass hrole hundefined.1 fun hmem => ?_
        exact not_roleDefined_iff.mpr hundefined ((roleDefined_iff hset).mpr fun _ => hmem)
      rename_i hdefined
      have hdefined := (roleDefined_iff hset).mp (not_not.mp (mt not_roleDefined_iff.mp hdefined))
      split at h
      · rename_i data hdata
        rcases bind_eq_error_iff.mp h with h | ⟨-, -, h⟩
        · obtain ⟨hunknown, hnames⟩ := validateSecurityKeys_refused_iff.mp ⟨message, h⟩
          exact Refused.dataKeys hkeys hversion hpass hrole hdefined hdata hunknown hnames
        rcases bind_eq_error_iff.mp h with h | ⟨loaded, -, h⟩
        · exact absurd h escaping_ne_policyFile
        rcases bind_eq_error_iff.mp h with h | ⟨version, -, h⟩
        · exact absurd h escaping_ne_policyFile
        · exact absurd h pure_ne_error
      · rename_i hdata
        exact Refused.security hkeys hversion hpass hrole hdefined hdata
  | _ =>
      apply Refused.notMapping
      intro m hm
      cases hm

/-- The loader once keys, version, roles and default role are read. -/
theorem loadPolicyFile_of_pass {m : Mapping N} {names : List String} {role : String}
    (hkeys : m.keysBesides allowedTopLevelKeys = [])
    (hversion : (doc.get m "version" (.scalar .null)).supportedVersion = true)
    (hpass : RolesPass doc (doc.get m "roles" (.mapping .empty)) names)
    (hrole : defaultRoleOf doc m = .ok role) :
    (role ≠ "" ∧ role ∉ names →
      ∃ message, loadPolicyFile path doc (.loaded (.mapping m)) = policyFileError message) ∧
    ((role ≠ "" → role ∈ names) → ∃ roles, loadPolicyFile path doc (.loaded (.mapping m)) =
      match doc.get m "security" (.mapping .empty) with
      | .mapping data => do
          validateSecurityKeys path doc data
          let policy ← escaping (SecurityPolicy.fromDict doc data)
          let policyVersion ← escaping (doc.strOf (doc.get m "version" (.scalar .null)))
          pure { policy with roles, defaultRole := role, policyVersion }
      | _ => policyFileError s!"security section of {path} must be a mapping") := by
  obtain ⟨m', parsed, hm, hparsed, rfl⟩ := rolesPass_iff.mp hpass
  have hroles : parseRoles path doc (doc.get m "roles" (.mapping .empty)) =
      .ok (parsed.foldl setRole []) := parseRoles_eq_ok_iff.mpr ⟨m', parsed, hm, hparsed, rfl⟩
  have hdefined : RoleDefined (parsed.foldl setRole []) role ↔ _ := roleDefined_iff rfl
  rw [loadPolicyFile, if_neg (not_ne_iff.mpr hkeys), if_neg (by simp [hversion]), hroles,
    ok_bind, escaping_eq_ok.mpr hrole, ok_bind]
  constructor
  · intro h
    rw [if_pos (not_roleDefined_iff.mp fun hdef => h.2 (hdefined.mp hdef h.1))]
    exact ⟨_, rfl⟩
  · intro h
    rw [if_neg (mt not_roleDefined_iff.mpr (not_not.mpr (hdefined.mpr h)))]
    exact ⟨_, rfl⟩

theorem loadPolicyFile_of_refused {raw : YamlNode N} (h : Refused doc raw) :
    ∃ message, loadPolicyFile path doc (.loaded raw) = .error (.policyFile message) := by
  cases h with
  | notMapping hraw =>
      cases raw with
      | mapping m => exact absurd rfl (hraw m)
      | _ => exact ⟨_, rfl⟩
  | keys hkeys hnames =>
      obtain ⟨keys, hshown⟩ := nameable_iff.mp hnames
      rw [loadPolicyFile, if_pos hkeys, escaping_eq_ok.mpr hshown]
      exact ⟨_, rfl⟩
  | version hkeys hversion hshown =>
      rw [loadPolicyFile, if_neg (not_ne_iff.mpr hkeys), if_pos hversion,
        escaping_eq_ok.mpr hshown]
      exact ⟨_, rfl⟩
  | roles hkeys hversion hroles =>
      obtain ⟨message, hroles⟩ := parseRoles_refused_iff.mpr hroles
      rw [loadPolicyFile, if_neg (not_ne_iff.mpr hkeys), if_neg (by simp [hversion]), hroles]
      exact ⟨message, rfl⟩
  | defaultRole hkeys hversion hpass hrole hne hmem =>
      exact (loadPolicyFile_of_pass hkeys hversion hpass hrole).1 ⟨hne, hmem⟩
  | security hkeys hversion hpass hrole hdefined hdata =>
      obtain ⟨roles, hload⟩ := (loadPolicyFile_of_pass hkeys hversion hpass hrole).2 hdefined
      rw [hload]
      split
      · rename_i data hmapping
        exact absurd hmapping (hdata data)
      · exact ⟨_, rfl⟩
  | dataKeys hkeys hversion hpass hrole hdefined hdata hunknown hnames =>
      obtain ⟨roles, hload⟩ := (loadPolicyFile_of_pass hkeys hversion hpass hrole).2 hdefined
      obtain ⟨message, hmessage⟩ := validateSecurityKeys_refused_iff.mpr ⟨hunknown, hnames⟩
      rw [hload, hdata]
      show ∃ message, (validateSecurityKeys path doc _ >>= _) = _
      rw [hmessage]
      exact ⟨message, rfl⟩

/-! ### The security section -/

theorem fromDict_eq_ok_iff {data : Mapping N} :
    (∃ loaded, SecurityPolicy.fromDict doc data = .ok loaded) ↔
      (∀ f ∈ (listFields : List (String × List String × (LoadedPolicy N → _))),
        ∃ items, listField doc data f.1 f.2.1 = .ok items) ∧
      (∀ f ∈ (numberFields : List (String × ℤ × (LoadedPolicy N → _))),
        ∃ i, (doc.get data f.1 (.scalar (.int f.2.1))).toInt = .ok i) ∧
      (∃ roles, rolesFromDict doc data = .ok roles) ∧
      (∃ role, doc.strOf (doc.get data "default_role" (.text "")) = .ok role) ∧
      ∃ version, doc.strOf (doc.get data "policy_version" (.text "")) = .ok version := by
  simp only [SecurityPolicy.fromDict, bind_eq_ok_iff, pure_eq_ok_iff, listFields, numberFields,
    List.forall_mem_cons, List.not_mem_nil, false_imp_iff, implies_true, and_true]
  constructor
  · intro h
    obtain ⟨loaded, i₁, h₁, i₂, h₂, l₁, g₁, l₂, g₂, l₃, g₃, l₄, g₄, l₅, g₅, roles, hroles, role,
      hrole, version, hversion, i₃, h₃, l₆, g₆, -⟩ := h
    exact ⟨⟨⟨l₁, g₁⟩, ⟨l₂, g₂⟩, ⟨l₃, g₃⟩, ⟨l₄, g₄⟩, ⟨l₅, g₅⟩, ⟨l₆, g₆⟩⟩,
      ⟨⟨i₁, h₁⟩, ⟨i₂, h₂⟩, ⟨i₃, h₃⟩⟩, ⟨roles, hroles⟩, ⟨role, hrole⟩, version, hversion⟩
  · intro h
    obtain ⟨⟨⟨l₁, g₁⟩, ⟨l₂, g₂⟩, ⟨l₃, g₃⟩, ⟨l₄, g₄⟩, ⟨l₅, g₅⟩, ⟨l₆, g₆⟩⟩,
      ⟨⟨i₁, h₁⟩, ⟨i₂, h₂⟩, ⟨i₃, h₃⟩⟩, ⟨roles, hroles⟩, ⟨role, hrole⟩, version, hversion⟩ := h
    exact ⟨_, i₁, h₁, i₂, h₂, l₁, g₁, l₂, g₂, l₃, g₃, l₄, g₄, l₅, g₅, roles, hroles, role,
      hrole, version, hversion, i₃, h₃, l₆, g₆, rfl⟩

/-- Each field is what its built-in makes of the value in the file. -/
theorem fromDict_fields {data : Mapping N} {loaded : LoadedPolicy N}
    (h : SecurityPolicy.fromDict doc data = .ok loaded) :
    (∀ f ∈ listFields, listField doc data f.1 f.2.1 = .ok (f.2.2 loaded)) ∧
      (∀ f ∈ numberFields,
        (doc.get data f.1 (.scalar (.int f.2.1))).toInt = .ok (f.2.2 loaded)) ∧
      ∀ f ∈ flagFields, (doc.get data f.1 (.scalar (.bool f.2.1))).truthy = f.2.2 loaded := by
  simp only [SecurityPolicy.fromDict, bind_eq_ok_iff, pure_eq_ok_iff] at h
  obtain ⟨i₁, h₁, i₂, h₂, l₁, g₁, l₂, g₂, l₃, g₃, l₄, g₄, l₅, g₅, roles, hroles, role,
    hrole, version, hversion, i₃, h₃, l₆, g₆, rfl⟩ := h
  simp only [listFields, numberFields, flagFields, List.forall_mem_cons, List.not_mem_nil,
    false_imp_iff, implies_true, and_true]
  exact ⟨⟨g₁, g₂, g₃, g₄, g₅, g₆⟩, h₁, h₂, h₃⟩

theorem StatesRoles.of_perm {v : YamlNode N} {roles roles' : List (String × ToolRole)}
    (h : StatesRoles doc v roles) (hperm : roles.Perm roles') : StatesRoles doc v roles' := by
  obtain ⟨m, stated, hm, hstates, hstated⟩ := h
  exact ⟨m, stated, hm, hstates, hstated.trans hperm⟩

/-- A list of texts is what `list` makes of it. -/
theorem StatesTexts.listOf {v : YamlNode N} {texts : List String} (h : StatesTexts doc v texts) :
    doc.listOf v = .ok (texts.map .text) := by
  obtain ⟨items, rfl, hitems⟩ := h
  rw [← hitems]
  rfl

theorem mapM_strOf_texts (texts : List String) :
    (texts.map YamlNode.text).mapM doc.strOf = .ok texts := by
  rw [mapM_eq_ok_iff, List.forall₂_map_left_iff, List.forall₂_same]
  intro t _
  rfl

/-- A list field that is typed is read as it is stated. -/
theorem readsTexts_of_listField {data : Mapping N} {k : String} {default : List String}
    {field : List (YamlNode N)} (h : listField doc data k default = .ok field)
    (htyped : ∀ v, data.get? k = some v → ∃ texts, StatesTexts doc (doc.node v) texts) :
    ReadsTexts doc data k default field := by
  unfold listField at h
  cases hget : data.get? k with
  | none =>
      rw [hget] at h
      cases h
      refine ⟨default, rfl, ?_⟩
      rw [hget]
  | some v =>
      obtain ⟨texts, hstates⟩ := htyped v hget
      rw [hget] at h
      have hfield := hstates.listOf.symm.trans h
      cases hfield
      refine ⟨texts, rfl, ?_⟩
      rw [hget]
      exact hstates

theorem StatesRole.fromDict {f : YamlScalar × N} {r : String × ToolRole}
    (h : StatesRole doc f r) :
    ∃ e, doc.node f.2 = .mapping e ∧ doc.keyStr f.1 = .ok r.1 ∧
      ToolRole.fromDict doc e = .ok r.2 := by
  obtain ⟨hkey, e, he, -, hdescription, hallowed, hblocked⟩ := h
  refine ⟨e, he, by rw [hkey]; rfl, ?_⟩
  rw [ToolRole.fromDict, hdescription, hallowed.listOf, hblocked.listOf]
  simp only [ok_bind, mapM_strOf_texts]
  rfl

/-- Roles that are stated with their types are no obstacle under `security`. -/
theorem rolesFromDict_of_states {data : Mapping N} {roles : List (String × ToolRole)}
    (h : ∀ v, data.get? "roles" = some v → StatesRoles doc (doc.node v) roles) :
    ∃ read, rolesFromDict doc data = .ok read := by
  cases hget : data.get? "roles" with
  | none =>
      refine ⟨[], ?_⟩
      rw [rolesFromDict, Yaml.get, hget]
      rfl
  | some v =>
      obtain ⟨m, stated, hm, hstates, -⟩ := h v hget
      have hdict : doc.dictOf (doc.get data "roles" (.mapping .empty)) =
          .ok (m.fields.map fun f => (.scalar f.1, doc.node f.2)) := by
        rw [Yaml.get, hget]
        show doc.dictOf (doc.node v) = _
        rw [hm]
        rfl
      rw [rolesFromDict, hdict, ok_bind, List.foldlM_map]
      -- the loop sets one stated role after the other
      suffices hloop : ∀ (fields : List (YamlScalar × N)) (stated acc : List (String × ToolRole)),
          List.Forall₂ (StatesRole doc) fields stated → ∃ read, fields.foldlM (fun roles f =>
            match doc.node f.2 with
            | .mapping roleData => do
                let name ← doc.strOf (.scalar f.1)
                let role ← ToolRole.fromDict doc roleData
                pure (setRole roles (name, role))
            | _ => pure roles) acc = .ok read from hloop _ _ [] hstates
      intro fields stated acc hstates
      induction hstates generalizing acc with
      | nil => exact ⟨acc, rfl⟩
      | cons hf _ ih =>
          obtain ⟨e, he, hname, hrole⟩ := hf.fromDict
          rw [List.foldlM_cons, he]
          show ∃ read, ((doc.keyStr _ >>= _) >>= _) = _
          rw [hname, ok_bind, hrole]
          exact ih _

theorem StatesVersion.strOf {v : YamlNode N} {version : String} (h : StatesVersion v version) :
    doc.strOf v = .ok version := by
  rcases h with rfl | ⟨i, rfl, hi⟩
  · rfl
  · exact hi

theorem StatesDefaultRole.strOf {v : YamlNode N} {role : String} (h : StatesDefaultRole v role) :
    (∃ text, doc.strOf v = .ok text) ∧
      doc.strOf (if v.truthy then v else .text "") = .ok role := by
  rcases h with rfl | ⟨rfl, rfl⟩
  · refine ⟨⟨role, rfl⟩, ?_⟩
    by_cases hrole : role = ""
    · subst hrole
      rfl
    · rw [if_pos (by simp [YamlNode.truthy, hrole])]
      rfl
  · exact ⟨⟨"None", rfl⟩, rfl⟩

/-- The only version of integers and texts that is supported. -/
theorem StatesVersion.eq_one {v : YamlNode N} {version : String} (h : StatesVersion v version)
    (hsupported : v.supportedVersion = true) : v = .scalar (.int 1) := by
  rcases h with rfl | ⟨i, rfl, -⟩
  · simp [YamlNode.supportedVersion, YamlScalar.pyEq, YamlScalar.number?] at hsupported
  · have hone : (i : ℚ) = 1 := by
      simpa [YamlNode.supportedVersion, YamlScalar.pyEq, YamlScalar.number?] using hsupported
    rw [Int.cast_eq_one.mp hone]

theorem intRepr_one : intRepr 1 = .ok "1" := by
  have hshort : (1 : ℤ).natAbs < 10 ^ intMaxStrDigits :=
    Nat.one_lt_pow (by decide) (Nat.one_lt_succ_succ 8)
  rw [intRepr, if_pos hshort]
  rfl

theorem mem_foldl_setRole {parsed roles : List (String × ToolRole)} {r : String × ToolRole}
    (h : r ∈ parsed.foldl setRole roles) : r ∈ roles ∨ r ∈ parsed := by
  have hset : ∀ {roles : List (String × ToolRole)} {r' : String × ToolRole},
      r ∈ setRole roles r' → r ∈ roles ∨ r = r' := by
    intro roles r' h
    induction roles with
    | nil => exact Or.inr (List.mem_singleton.mp h)
    | cons r₀ roles ih =>
        rw [setRole] at h
        split at h
        · rcases List.mem_cons.mp h with h | h
          · exact Or.inr h
          · exact Or.inl (List.mem_cons_of_mem _ h)
        · rcases List.mem_cons.mp h with h | h
          · exact Or.inl (h ▸ List.mem_cons_self)
          · exact (ih h).imp_left (List.mem_cons_of_mem _)
  induction parsed generalizing roles with
  | nil => exact Or.inl h
  | cons r' parsed ih =>
      rcases ih h with h | h
      · rcases hset h with h | rfl
        · exact Or.inl h
        · exact Or.inr List.mem_cons_self
      · exact Or.inr (List.mem_cons_of_mem _ h)

/-- The roles that pass have names, and so have their tools. -/
theorem named_of_parseRoles {v : YamlNode N} {roles : List (String × ToolRole)}
    (h : parseRoles path doc v = .ok roles) :
    ∀ r ∈ roles, r.1 ≠ "" ∧ ∀ t ∈ r.2.allowedTools ++ r.2.blockedTools, t ≠ "" := by
  obtain ⟨m, parsed, rfl, hparsed, rfl⟩ := parseRoles_eq_ok_iff.mp h
  intro r hr
  have hmem : r ∈ parsed := (mem_foldl_setRole hr).resolve_left List.not_mem_nil
  obtain ⟨f, -, hread⟩ := exists_mem_of_forall₂ hparsed hmem
  obtain ⟨-, hne, e, -, -, allowed, blocked, -, -, hnames, hnames', -⟩ := hread
  refine ⟨hne, fun t ht => ?_⟩
  rcases List.mem_append.mp ht with ht | ht
  · exact (mapM_toolName_iff.mp hnames).2 t ht
  · exact (mapM_toolName_iff.mp hnames').2 t ht

/-! ### Loading a file -/

/-- A file whose values have their types is loaded as it is stated. -/
theorem WellTyped.load {m data : Mapping N} {roles : List (String × ToolRole)} {role : String}
    (h : WellTyped doc m data roles role)
    (hdata : doc.get m "security" (.mapping .empty) = .mapping data) :
    ∃ policy, loadPolicyFile path doc (.loaded (.mapping m)) = .ok policy ∧
      Faithful doc m data policy := by
  obtain ⟨stated, hparse, hperm⟩ :
      ∃ stated, parseRoles path doc (doc.get m "roles" (.mapping .empty)) = .ok stated ∧
        stated.Perm roles := parseRoles_of_states h.topRoles h.named
  have hrole : defaultRoleOf doc m = .ok role := h.defaultRole.strOf.2
  have hdefined : RoleDefined stated role := by
    intro hne
    obtain ⟨r, hr, hname⟩ := h.defined hne
    exact ⟨r, hperm.mem_iff.mpr hr, hname⟩
  have hversion : doc.strOf (doc.get m "version" (.scalar .null)) = .ok "1" := by
    rw [h.version]
    exact intRepr_one
  -- the section has a value of its type for every field
  have hget : ∀ k (P : YamlNode N → Prop), P (.text "") → (∀ v, data.get? k = some v →
      P (doc.node v)) → P (doc.get data k (.text "")) := by
    intro k P hdefault hsome
    rw [Yaml.get]
    cases hk : data.get? k with
    | none => exact hdefault
    | some v => exact hsome v hk
  obtain ⟨loaded, hloaded⟩ := fromDict_eq_ok_iff.mpr
    ⟨fun f hf => by
        cases hk : data.get? f.1 with
        | none => exact ⟨_, by rw [listField, hk]⟩
        | some v =>
            obtain ⟨texts, htexts⟩ := h.lists f hf v hk
            exact ⟨_, by rw [listField, hk]; exact htexts.listOf⟩,
      fun f hf => by
        obtain ⟨i, hi⟩ := h.numbers f hf
        exact ⟨i, by rw [hi]; rfl⟩,
      rolesFromDict_of_states h.dataRoles,
      hget "default_role" (fun v => ∃ text, doc.strOf v = .ok text) ⟨"", rfl⟩
        fun v hv => (h.dataDefaultRole v hv).strOf.1,
      hget "policy_version" (fun v => ∃ text, doc.strOf v = .ok text) ⟨"", rfl⟩
        fun v hv => ⟨"1", (h.dataVersion v hv).strOf⟩⟩
  refine ⟨_, loadPolicyFile_eq_ok_iff.mpr ⟨h.keys, by rw [h.version]; rfl, stated, hparse, role,
    hrole, hdefined, data, hdata, h.dataKeys, loaded, hloaded, "1", hversion, rfl⟩, ?_⟩
  obtain ⟨hlists, hnumbers, hflags⟩ := fromDict_fields hloaded
  exact
    { keys := h.keys
      dataKeys := h.dataKeys
      lists := fun f hf => by
        have hread := readsTexts_of_listField (hlists f hf) (h.lists f hf)
        simp only [listFields, List.mem_cons, List.not_mem_nil, or_false] at hf
        rcases hf with rfl | rfl | rfl | rfl | rfl | rfl <;> exact hread
      flags := fun f hf => by
        obtain ⟨b, hb⟩ := h.flags f hf
        have hread := hflags f hf
        rw [hb] at hread ⊢
        simp only [flagFields, List.mem_cons, List.not_mem_nil, or_false] at hf
        rcases hf with rfl | rfl | rfl | rfl | rfl | rfl | rfl | rfl | rfl <;> rw [← hread] <;> rfl
      numbers := fun f hf => by
        obtain ⟨i, hi⟩ := h.numbers f hf
        have hread := hnumbers f hf
        rw [hi] at hread ⊢
        simp only [numberFields, List.mem_cons, List.not_mem_nil, or_false] at hf
        rcases hf with rfl | rfl | rfl <;> cases hread <;> rfl
      roles := h.topRoles.of_perm hperm.symm
      dataRoles := fun v hv => (h.dataRoles v hv).of_perm hperm.symm
      defaultRole := h.defaultRole
      dataDefaultRole := h.dataDefaultRole
      version := Or.inr ⟨1, h.version, intRepr_one⟩
      dataVersion := h.dataVersion }

end Load

/-- **A policy file is loaded strictly** exactly when a check turns it down with an error
that can be written, or when every value in it has its type and what the security section
states under a role key is what the top of the file states. -/
theorem loadedStrictly_iff (path : String) (doc : Yaml N) (raw : YamlNode N) :
    LoadedStrictly doc path raw ↔ Refused doc raw ∨ ∃ m data roles role, raw = .mapping m ∧
      doc.get m "security" (.mapping .empty) = .mapping data ∧
      WellTyped doc m data roles role := by
  constructor
  · intro h
    rw [LoadedStrictly] at h
    split at h
    · rename_i message hload
      exact Or.inl (refused_of_loadPolicyFile hload)
    · exact absurd h id
    · rename_i policy hload
      right
      obtain ⟨m, data, rfl, hdata, hfaithful⟩ := h
      obtain ⟨-, hsupported, roles, hroles, role, hrole, hdefined, data', hdata', -, loaded, -,
        version, hversion, rfl⟩ := loadPolicyFile_eq_ok_iff.mp hload
      have hone := hfaithful.version.eq_one hsupported
      rw [hone] at hversion
      have hversion : version = "1" := Except.ok.inj (hversion.symm.trans intRepr_one)
      subst hversion
      exact ⟨m, data, roles, role, rfl, hdata,
        { keys := hfaithful.keys
          dataKeys := hfaithful.dataKeys
          version := hone
          topRoles := hfaithful.roles
          named := named_of_parseRoles hroles
          defaultRole := hfaithful.defaultRole
          defined := hdefined
          lists := fun f hf v hv => by
            obtain ⟨texts, -, hstates⟩ := hfaithful.lists f hf
            rw [hv] at hstates
            exact ⟨texts, hstates⟩
          flags := fun f hf => ⟨_, hfaithful.flags f hf⟩
          numbers := fun f hf => ⟨_, hfaithful.numbers f hf⟩
          dataRoles := hfaithful.dataRoles
          dataDefaultRole := hfaithful.dataDefaultRole
          dataVersion := hfaithful.dataVersion }⟩
  · intro h
    rw [LoadedStrictly]
    rcases h with h | ⟨m, data, roles, role, rfl, hdata, h⟩
    · obtain ⟨message, hload⟩ := loadPolicyFile_of_refused h
      rw [hload]
      trivial
    · obtain ⟨policy, hload, hfaithful⟩ := h.load hdata
      rw [hload]
      exact ⟨m, data, rfl, hdata, hfaithful⟩

/-- The objects of a file which blocks one tool and forgets the brackets:
`version: 1` and `security: {blocked_tools: place_order}`. -/
def oneToolDoc : Yaml ℕ where
  node
    | 0 => .scalar (.int 1)
    | 1 => .mapping ⟨[(.str "blocked_tools", 2)], by decide⟩
    | _ => .text "place_order"
  scalarRepr
    | .str s => "'" ++ s ++ "'"
    | _ => ""
  nodeRepr _ := .ok "\x7b'blocked_tools': 'place_order'\x7d"

def oneToolFile : YamlNode ℕ := .mapping ⟨[(.str "version", 0), (.str "security", 1)], by decide⟩

/-- The file is loaded, and what it blocks are eleven tools of one letter each. -/
theorem oneTool_spelled :
    (∃ policy, loadPolicyFile "policy.yaml" oneToolDoc (.loaded oneToolFile) = .ok policy ∧
      policy.blockedTools =
        ["p", "l", "a", "c", "e", "_", "o", "r", "d", "e", "r"].map YamlNode.text) ∧
    ¬ LoadedStrictly oneToolDoc "policy.yaml" oneToolFile := by
  obtain ⟨policy, hpolicy, hletters⟩ :
      ∃ policy, loadPolicyFile "policy.yaml" oneToolDoc (.loaded oneToolFile) = .ok policy ∧
        policy.blockedTools =
          ["p", "l", "a", "c", "e", "_", "o", "r", "d", "e", "r"].map YamlNode.text :=
    ⟨_, loadPolicyFile_eq_ok_iff.mpr ⟨rfl, rfl, [], rfl, "", rfl, fun h => absurd rfl h, _, rfl,
      rfl, _, rfl, "1", intRepr_one, rfl⟩, rfl⟩
  refine ⟨⟨policy, hpolicy, hletters⟩, ?_⟩
  rw [LoadedStrictly, hpolicy]
  intro h
  obtain ⟨m, data, hm, hdata, hfaithful⟩ := h
  cases hm
  cases hdata
  -- the file has a text where a list of texts belongs
  obtain ⟨texts, -, items, hitems, -⟩ :=
    hfaithful.lists ("blocked_tools", [], (·.blockedTools)) (by simp [listFields])
  cases hitems

end ChaosDemo
