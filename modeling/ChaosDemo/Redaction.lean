/-
ChaosDemo/Redaction.lean

The error responses of the two FastAPI entry points (ai_platform_api.py and
app/api/routes.py) and the redaction that is meant to keep the configured keys out of
them (ai_platform/security/redaction.py).

What `redact` gives back has none of its secrets in it (`redactSecrets_spares_none`): each
is replaced, and neither another secret nor a pattern that is replaced after it can bring
it back.  But `redact` is applied to the message only, and only by one of the entry points.
So a key that is in the error type or in a violation leaves the platform by both, and
one that is in the message by the other (`clean_iff`).

The error body of a request that fails the validation of FastAPI itself is not made here.
-/
import ChaosDemo.Builtins
import ChaosDemo.Substitution

namespace ChaosDemo

/-! ### Redaction -/

/-- The environment variables that hold a key; one that is not set is empty. -/
structure SecretEnv where
  llmGatewayApiKey : String := ""
  llmApiKey : String := ""

/-- `REDACTED`. -/
def redacted : String := "***REDACTED***"

/-- `active_secrets`. -/
def activeSecrets (env : SecretEnv) : List String :=
  ([env.llmGatewayApiKey, env.llmApiKey].map pyStrip).filter fun value => value ≠ ""

/-- Whether a character matches a small letter when case is ignored; four letters outside
ASCII do. -/
def sameLetter (letter c : Char) : Bool :=
  c.toLower = letter || (letter = 'i' && (c = 'İ' || c = 'ı')) || (letter = 's' && c = 'ſ') ||
    (letter = 'k' && c.toNat = 0x212A)

/-- A word, its case ignored. -/
def Matcher.word (s : String) : Matcher :=
  .inOrder (s.toList.map fun letter => .many (sameLetter letter) 1 (some 1))

/-- `sk-[A-Za-z0-9_\-]{8,}`. -/
def openAiKey : Matcher :=
  .inOrder [.text "sk-", .many (fun c => c.isAlphanum || c = '_' || c = '-') 8 none]

/-- `(?i)bearer\s+[A-Za-z0-9._\-]{8,}`. -/
def bearerToken : Matcher :=
  .inOrder [.word "bearer", .many pyIsSpace 1 none,
    .many (fun c => c.isAlphanum || c = '.' || c = '_' || c = '-' || sameLetter 'i' c ||
      sameLetter 's' c || sameLetter 'k' c) 8 none]

/-- `(?i)\b(api[_-]?key|token|secret|password)\b\s*[=:]\s*[^\s,;\"']+`; what a letter is to
`\b` is a parameter. -/
def keyValuePair (letter : Char → Bool) : Matcher :=
  .inOrder [.boundary letter,
    .oneOf [.inOrder [.word "api", .many (fun c => c = '_' || c = '-') 0 (some 1), .word "key"],
      .word "token", .word "secret", .word "password"],
    .boundary letter, .many pyIsSpace 0 none, .many (fun c => c = '=' || c = ':') 1 (some 1),
    .many pyIsSpace 0 none,
    .many (fun c => !(pyIsSpace c || c = ',' || c = ';' || c = '"' || c = '\'')) 1 none]

/-- `_SECRET_PATTERNS`. -/
def secretPatterns (letter : Char → Bool) : List Matcher :=
  [openAiKey, bearerToken, keyValuePair letter]

/-- The keys, one after the other. -/
def replaceSecrets : List String → List Char → List Char
  | [], cs => cs
  | secret :: secrets, cs =>
      replaceSecrets secrets
        (if secret = "" then cs else replaceAll secret.toList redacted.toList cs)

/-- The patterns, one after the other. -/
def replacePatterns : List Matcher → List Char → List Char
  | [], cs => cs
  | pattern :: patterns, cs =>
      replacePatterns patterns (substitute pattern.hit redacted.toList cs)

/-- `redact`, with the secrets that are given. -/
def redactSecrets (letter : Char → Bool) (secrets : List String) (text : String) : String :=
  if text = "" then text
  else
    let cleaned := replaceSecrets secrets text.toList
    String.ofList (replacePatterns (secretPatterns letter) cleaned)

/-- `redact`, with the secrets that are active. -/
def redact (letter : Char → Bool) (env : SecretEnv) (text : String) : String :=
  if text = "" then text
  else
    let cleaned := replaceSecrets (activeSecrets env) text.toList
    String.ofList (replacePatterns (secretPatterns letter) cleaned)

/-! ### The entry points -/

/-- What `AIPlatformService.run` comes to. -/
inductive RunOutcome
  /-- A `SecurityBlockedError`. -/
  | securityBlocked (message : String) (violations : List String)
  /-- Another `PlatformError`, by the name of its class. -/
  | platformError (typeName message : String)
  /-- Any other exception. -/
  | raised (message : String)
  /-- A result that says success. -/
  | succeeded
  /-- A result that does not. -/
  | failed (error errorType : Option String) (violations : List String)

/-- `ErrorResponse`; its trace id is never set. -/
structure ErrorResponse where
  error : String
  errorType : String
  violations : List String

/-- An error with its status, or the response of a success. -/
inductive ApiResponse
  | error (statusCode : ℕ) (content : ErrorResponse)
  | success

/-- `text or other`. -/
def textOr (text : Option String) (other : String) : String :=
  match text with
  | some t => if t = "" then other else t
  | none => other

/-- `_error` of ai_platform_api.py. -/
def errorRedacted (letter : Char → Bool) (env : SecretEnv) (statusCode : ℕ)
    (errorType message : String) (violations : List String) : ApiResponse :=
  .error statusCode
    { error := redact letter env message, errorType := errorType, violations := violations }

/-- `agent_run` of ai_platform_api.py. -/
def platformApiAgentRun (letter : Char → Bool) (env : SecretEnv) : RunOutcome → ApiResponse
  | .securityBlocked message violations =>
      errorRedacted letter env 403 "SecurityBlocked" message violations
  | .platformError typeName message => errorRedacted letter env 500 typeName message []
  | .raised message => errorRedacted letter env 500 "InternalError" message []
  | .succeeded => .success
  | .failed error errorType violations =>
      let errorType := textOr errorType "UnknownError"
      errorRedacted letter env
        (if errorType = "SecurityBlocked" then 403
          else if errorType = "EvaluationFailed" then 422 else 500)
        errorType (textOr error "Unknown error") violations

/-- `_build_error` of app/api/routes.py. -/
def buildError (statusCode : ℕ) (errorType message : String) (violations : List String) :
    ApiResponse :=
  .error statusCode { error := message, errorType := errorType, violations := violations }

/-- `agent_run` of app/api/routes.py. -/
def routesAgentRun : RunOutcome → ApiResponse
  | .securityBlocked message violations => buildError 403 "SecurityBlocked" message violations
  | .platformError typeName message => buildError 500 typeName message []
  | .raised message => buildError 500 "InternalError" message []
  | .succeeded => .success
  | .failed error errorType violations =>
      let errorType := textOr errorType "UnknownError"
      buildError
        (if errorType = "SecurityBlocked" then 403
          else if errorType = "EvaluationFailed" then 422 else 500)
        errorType (textOr error "Unknown error") violations

/-! ### What is redacted -/

/-- A text in another. -/
def Occurs (secret text : String) : Prop := secret.toList <:+: text.toList

theorem redact_eq_redactSecrets (letter : Char → Bool) (env : SecretEnv) (text : String) :
    redact letter env text = redactSecrets letter (activeSecrets env) text := rfl

/-- What `redact` may give when nothing is known of its patterns: the keys are replaced, and
then pieces of the text, in any number of rounds. -/
def Redacts (secrets : List String) (text out : String) : Prop :=
  if text = "" then out = text
  else Relation.ReflTransGen (Marked redacted.toList) (replaceSecrets secrets text.toList)
    out.toList

theorem marked_replacePatterns (patterns : List Matcher) :
    ∀ cs, Relation.ReflTransGen (Marked redacted.toList) cs (replacePatterns patterns cs) := by
  induction patterns with
  | nil =>
      intro cs
      exact .refl
  | cons pattern patterns ih =>
      intro cs
      exact .head (marked_substitute pattern.hit _ cs) (ih _)

/-- The patterns of the module are such a choice. -/
theorem redacts_redactSecrets (letter : Char → Bool) (secrets : List String) (text : String) :
    Redacts secrets text (redactSecrets letter secrets text) := by
  unfold Redacts redactSecrets
  split
  · rfl
  · rw [String.toList_ofList]
    exact marked_replacePatterns _ _

/-- A secret that the mark can stand for. -/
structure Replaceable (secret : String) : Prop where
  ne_empty : secret ≠ ""
  plain : '*' ∉ secret.toList
  unmarked : ¬ Occurs secret "REDACTED"

namespace Replaceable

variable {secret : String} (h : Replaceable secret)
include h

theorem toList_ne_nil : secret.toList ≠ [] := by
  intro hnil
  apply h.ne_empty
  rw [← String.toList_inj]
  exact hnil

/-- The stars at its ends make no secret of the mark. -/
theorem not_occurs_redacted : ¬ Occurs secret redacted := by
  have hstars : ¬ secret.toList <:+: ['*', '*', '*'] := by
    intro hinfix
    cases hsecret : secret.toList with
    | nil => exact h.toList_ne_nil hsecret
    | cons c cs =>
        have hc : c ∈ ['*', '*', '*'] := by
          apply hinfix.subset
          rw [hsecret]
          exact List.mem_cons_self
        have hstar : c = '*' := by simpa using hc
        apply h.plain
        rw [hsecret, hstar]
        exact List.mem_cons_self
  intro hinfix
  change secret.toList <:+: ['*', '*', '*'] ++ ("REDACTED".toList ++ ['*', '*', '*']) at hinfix
  rcases infix_mark_append rfl h.plain hinfix with hleft | hrest
  · exact hstars hleft
  · rcases infix_append_mark rfl h.plain hrest with hword | hright
    · exact h.unmarked hword
    · exact hstars hright

theorem stays_out {cs out : List Char} (hmarked : Marked redacted.toList cs out)
    (hcs : ¬ secret.toList <:+: cs) : ¬ secret.toList <:+: out :=
  hmarked.not_infix rfl rfl h.plain h.not_occurs_redacted hcs

/-- Once it is out, no later key brings it back. -/
theorem stays_out_secrets (secrets : List String) :
    ∀ {cs : List Char}, ¬ secret.toList <:+: cs →
      ¬ secret.toList <:+: replaceSecrets secrets cs := by
  induction secrets with
  | nil =>
      intro cs hcs
      exact hcs
  | cons s secrets ih =>
      intro cs hcs
      apply ih
      split
      · exact hcs
      · exact h.stays_out (marked_substitute _ _ _) hcs

/-- Its own turn takes it out. -/
theorem not_infix_replaceSecrets {secrets : List String} (hmem : secret ∈ secrets)
    (cs : List Char) : ¬ secret.toList <:+: replaceSecrets secrets cs := by
  induction secrets generalizing cs with
  | nil => cases hmem
  | cons s secrets ih =>
      rcases List.mem_cons.mp hmem with rfl | hmem
      · apply h.stays_out_secrets secrets
        rw [if_neg h.ne_empty]
        exact not_infix_replaceAll rfl rfl h.plain h.toList_ne_nil
          h.not_occurs_redacted cs
      · exact ih hmem _

/-- No round of marks brings it back. -/
theorem not_occurs_of_redacts {secrets : List String} (hmem : secret ∈ secrets)
    {text out : String} (hout : Redacts secrets text out) : ¬ Occurs secret out := by
  unfold Redacts at hout
  split at hout
  · next hempty =>
      intro hinfix
      apply h.toList_ne_nil
      apply List.infix_nil.mp
      rwa [hout, hempty] at hinfix
  · show ¬ secret.toList <:+: out.toList
    generalize out.toList = cs at hout ⊢
    induction hout with
    | refl => exact h.not_infix_replaceSecrets hmem _
    | tail _ hmarked ih => exact h.stays_out hmarked ih

end Replaceable

/-- **What is redacted has none of the secrets in it**, whatever the patterns match. -/
theorem redactSecrets_spares_none {secrets : List String}
    (hsecrets : ∀ secret ∈ secrets, Replaceable secret) (text : String) :
    ∀ secret ∈ secrets, (∀ letter, ¬ Occurs secret (redactSecrets letter secrets text)) ∧
      ∀ out, Redacts secrets text out → ¬ Occurs secret out := by
  intro secret hmem
  have hany : ∀ out, Redacts secrets text out → ¬ Occurs secret out :=
    fun out => (hsecrets secret hmem).not_occurs_of_redacts hmem
  exact ⟨fun letter => hany _ (redacts_redactSecrets letter secrets text), hany⟩

/-- A key inside another, replaced before it. -/
theorem redactSecrets_spares_none_nested :
    ¬ Occurs "abcd" (redactSecrets Char.isAlphanum ["abc", "abcd"] "key abcd, ababcd") := by
  have hsecrets : ∀ secret ∈ ["abc", "abcd"], Replaceable secret := by
    intro secret hmem
    rcases List.mem_cons.mp hmem with rfl | hmem
    · exact ⟨by decide, by decide +kernel, by unfold Occurs; decide +kernel⟩
    · obtain rfl := List.mem_singleton.mp hmem
      exact ⟨by decide, by decide +kernel, by unfold Occurs; decide +kernel⟩
  have hmem : "abcd" ∈ ["abc", "abcd"] := List.mem_cons_of_mem _ List.mem_cons_self
  exact (redactSecrets_spares_none hsecrets "key abcd, ababcd" "abcd" hmem).1 Char.isAlphanum

/-! ### The secrets that are configured -/

/-- A key that is configured, and that the mark cannot be mistaken for. -/
structure ConfiguredSecret (env : SecretEnv) where
  value : String
  configured : value ∈ activeSecrets env
  plain : '*' ∉ value.toList
  unmarked : ¬ Occurs value redacted

section Redact

variable {letter : Char → Bool} {env : SecretEnv} (secret : ConfiguredSecret env)

theorem ConfiguredSecret.ne_empty : secret.value ≠ "" := by
  have h := secret.configured
  simp only [activeSecrets, List.mem_filter, decide_eq_true_eq] at h
  exact h.2

theorem ConfiguredSecret.replaceable : Replaceable secret.value where
  ne_empty := secret.ne_empty
  plain := secret.plain
  unmarked := by
    intro h
    apply secret.unmarked
    have hword : "REDACTED".toList <:+: redacted.toList := ⟨['*', '*', '*'], ['*', '*', '*'], rfl⟩
    exact List.IsInfix.trans h hword

/-- **What is redacted has no configured key in it.** -/
theorem not_occurs_redact (text : String) : ¬ Occurs secret.value (redact letter env text) := by
  rw [redact_eq_redactSecrets]
  exact secret.replaceable.not_occurs_of_redacts secret.configured
    (redacts_redactSecrets letter _ text)

end Redact

/-! ### What leaves the platform -/

/-- The message, the error type and the violations that an outcome brings along. -/
def RunOutcome.brings : RunOutcome → Option ErrorResponse
  | .securityBlocked message violations => some ⟨message, "SecurityBlocked", violations⟩
  | .platformError typeName message => some ⟨message, typeName, []⟩
  | .raised message => some ⟨message, "InternalError", []⟩
  | .succeeded => none
  | .failed error errorType violations =>
      some ⟨textOr error "Unknown error", textOr errorType "UnknownError", violations⟩

/-- A response without the key: no error, or one whose body does not have it. -/
def Clean (secret : String) (response : ApiResponse) : Prop :=
  ∀ statusCode content, response = .error statusCode content →
    ¬ Occurs secret content.error ∧ ¬ Occurs secret content.errorType ∧
      ∀ v ∈ content.violations, ¬ Occurs secret v

theorem clean_error {secret : String} {statusCode : ℕ} {content : ErrorResponse} :
    Clean secret (.error statusCode content) ↔ ¬ Occurs secret content.error ∧
      ¬ Occurs secret content.errorType ∧ ∀ v ∈ content.violations, ¬ Occurs secret v := by
  constructor
  · intro h
    exact h statusCode content rfl
  · rintro h statusCode' content' heq
    cases heq
    exact h

theorem clean_success (secret : String) : Clean secret .success :=
  fun _ _ h => (nomatch h)

/-- The body of an error says what the outcome brings, the message redacted or not. -/
theorem agentRun_of_brings (letter : Char → Bool) (env : SecretEnv) {outcome : RunOutcome}
    {parts : ErrorResponse} (h : outcome.brings = some parts) :
    (∃ statusCode, platformApiAgentRun letter env outcome =
      .error statusCode { parts with error := redact letter env parts.error }) ∧
    ∃ statusCode, routesAgentRun outcome = .error statusCode parts := by
  cases outcome with
  | succeeded => cases h
  | _ =>
      obtain rfl := Option.some.inj h
      exact ⟨⟨_, rfl⟩, ⟨_, rfl⟩⟩

/-- **What leaves the platform.**  An error body of ai_platform_api.py has no configured key
in it exactly when neither the error type nor a violation has, and one of
app/api/routes.py when the message has none either. -/
theorem clean_iff (letter : Char → Bool) (env : SecretEnv) (outcome : RunOutcome)
    (secret : ConfiguredSecret env) :
    (Clean secret.value (platformApiAgentRun letter env outcome) ↔
      ∀ parts, outcome.brings = some parts →
        ¬ Occurs secret.value parts.errorType ∧
          ∀ v ∈ parts.violations, ¬ Occurs secret.value v) ∧
    (Clean secret.value (routesAgentRun outcome) ↔
      ∀ parts, outcome.brings = some parts →
        ¬ Occurs secret.value parts.error ∧ ¬ Occurs secret.value parts.errorType ∧
          ∀ v ∈ parts.violations, ¬ Occurs secret.value v) := by
  cases hparts : outcome.brings with
  | none =>
      have hok : outcome = .succeeded := by
        cases outcome with
        | succeeded => rfl
        | _ => cases hparts
      subst hok
      exact ⟨iff_of_true (clean_success _) fun _ h => (nomatch h),
        iff_of_true (clean_success _) fun _ h => (nomatch h)⟩
  | some parts =>
      obtain ⟨⟨_, hplatform⟩, ⟨_, hroutes⟩⟩ := agentRun_of_brings letter env hparts
      rw [hplatform, hroutes, clean_error, clean_error]
      refine ⟨?_, ?_⟩
      · constructor
        · rintro ⟨-, h⟩ parts' heq
          obtain rfl := Option.some.inj heq
          exact h
        · intro h
          exact ⟨not_occurs_redact secret _, h parts rfl⟩
      · constructor
        · intro h parts' heq
          obtain rfl := Option.some.inj heq
          exact h
        · intro h
          exact h parts rfl

/-! #### A key that leaves -/

def leakyEnv : SecretEnv := { llmGatewayApiKey := "topsecret-42" }

def leakySecret : ConfiguredSecret leakyEnv where
  value := "topsecret-42"
  configured := by decide +kernel
  plain := by decide +kernel
  unmarked := by
    unfold Occurs
    decide +kernel

/-- The key in the message of an exception leaves by one entry point, and in a violation by
both. -/
theorem key_leaves :
    ¬ Clean leakySecret.value (routesAgentRun (.raised "provider failed, key topsecret-42")) ∧
      ∀ letter, ¬ Clean leakySecret.value (platformApiAgentRun letter leakyEnv
        (.securityBlocked "Security blocked" ["blocked_keyword: topsecret-42"])) := by
  constructor
  · intro h
    exact (clean_error.mp h).1 ⟨"provider failed, key ".toList, [], rfl⟩
  · intro letter h
    exact (clean_error.mp h).2.2 _ List.mem_cons_self ⟨"blocked_keyword: ".toList, [], rfl⟩

end ChaosDemo
