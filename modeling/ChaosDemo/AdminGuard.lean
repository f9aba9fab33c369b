/-
ChaosDemo/AdminGuard.lean

The guard of the management interface (app/api/admin_auth.py).  A request that changes
something under `/fault` or `/chaos` has to bring the configured token.

The two tokens are compared with `hmac.compare_digest`, which takes texts only when both
are ASCII, and raises a `TypeError` on others.  The guard does not catch it.  So it
decides every request but one that is protected, with a token configured and a header
that is not empty, where a letter outside ASCII is left in one of the two texts after
they are stripped (`decides_iff`).
-/
import ChaosDemo.Builtins

namespace ChaosDemo

/-- `PROTECTED_PREFIXES`. -/
def protectedPrefixes : List String := ["/fault", "/chaos"]

/-- `SAFE_METHODS`. -/
def safeMethods : List String := ["GET", "HEAD", "OPTIONS"]

/-- Whether all characters of a text are ASCII. -/
def isAscii (s : String) : Bool := s.toList.all fun c => c.toNat < 128

/-- `hmac.compare_digest` on two texts. -/
def compareDigest (a b : String) : Except PyError Bool :=
  if isAscii a && isAscii b then .ok (a == b) else .error .typeError

/-- `configured_admin_token`; a variable that is not set is empty. -/
def configuredAdminToken (raw : String) : Option String :=
  let token := pyStrip raw
  if token = "" then none else some token

/-- `token_accepted`. -/
def tokenAccepted (raw : String) (provided : Option String) : Except PyError Bool :=
  match configuredAdminToken raw with
  | none => .ok true
  | some expected =>
      match provided with
      | none => .ok false
      | some provided =>
          if provided = "" then .ok false else compareDigest (pyStrip provided) expected

/-- What the guard looks at. -/
structure AdminRequest where
  method : String
  path : String
  -- the `X-Chaos-Admin-Token` header
  header : Option String

section Guard

-- `str.upper`
variable (upper : String → String)

/-- `is_protected_request`. -/
def isProtectedRequest (method path : String) : Bool :=
  if upper method ∈ safeMethods then false
  else protectedPrefixes.any fun start => start.toList.isPrefixOf path.toList

/-- An answer with its status. -/
structure GuardAnswer where
  body : Dict
  status : ℕ
deriving DecidableEq

/-- The answer to a request without the token. -/
def unauthorized : GuardAnswer where
  body :=
    [("error", .str "unauthorized"), ("detail", .str "管理接口需要 X-Chaos-Admin-Token 请求头"),
     ("code", .str "admin_auth_required")]
  status := 401

/-- `admin_guard`; `none` lets the request through. -/
def adminGuard (raw : String) (request : AdminRequest) : Except PyError (Option GuardAnswer) := do
  if isProtectedRequest upper request.method request.path then
    let accepted ← tokenAccepted raw request.header
    pure (if accepted then none else some unauthorized)
  else pure none

/-! ### What the guard is for -/

/-- The requests that may pass. -/
def MayPass (raw : String) (request : AdminRequest) : Prop :=
  upper request.method ∈ safeMethods ∨
    (∀ start ∈ protectedPrefixes, ¬ start.toList <+: request.path.toList) ∨
    pyStrip raw = "" ∨ ∃ header, request.header = some header ∧ pyStrip header = pyStrip raw

/-- The guard lets through what may pass, and answers 401 to everything else. -/
def Decides (raw : String) (request : AdminRequest) : Prop :=
  (adminGuard upper raw request = .ok none ↔ MayPass upper raw request) ∧
    (¬ MayPass upper raw request → adminGuard upper raw request = .ok (some unauthorized))

/-- The two texts that are compared are ASCII, or none is compared. -/
def Comparable (raw : String) (request : AdminRequest) : Prop :=
  upper request.method ∈ safeMethods ∨
    (∀ start ∈ protectedPrefixes, ¬ start.toList <+: request.path.toList) ∨
    pyStrip raw = "" ∨
    ∀ header, request.header = some header → header ≠ "" →
      isAscii (pyStrip header) = true ∧ isAscii (pyStrip raw) = true

variable {upper} {raw : String} {request : AdminRequest}

theorem isProtectedRequest_eq_false_iff :
    isProtectedRequest upper request.method request.path = false ↔
      upper request.method ∈ safeMethods ∨
        ∀ start ∈ protectedPrefixes, ¬ start.toList <+: request.path.toList := by
  rw [isProtectedRequest]
  split
  · next hsafe => exact iff_of_true rfl (.inl hsafe)
  · next hunsafe =>
      rw [List.any_eq_false]
      constructor
      · intro h
        right
        intro start hmem hstart
        exact h start hmem (List.isPrefixOf_iff_prefix.mpr hstart)
      · rintro (hsafe | h) start hmem hstart
        · exact hunsafe hsafe
        · exact h start hmem (List.isPrefixOf_iff_prefix.mp hstart)

/-- A request that is not protected passes. -/
theorem adminGuard_of_open
    (h : isProtectedRequest upper request.method request.path = false) :
    adminGuard upper raw request = .ok none := by
  rw [adminGuard, h]
  rfl

theorem adminGuard_of_protected
    (h : isProtectedRequest upper request.method request.path = true) :
    adminGuard upper raw request = (tokenAccepted raw request.header).map
      fun accepted => if accepted then none else some unauthorized := by
  rw [adminGuard, h]
  cases tokenAccepted raw request.header <;> rfl

theorem tokenAccepted_of_blank (h : pyStrip raw = "") (provided : Option String) :
    tokenAccepted raw provided = .ok true := by
  rw [tokenAccepted, configuredAdminToken, if_pos h]

theorem pyStrip_empty : pyStrip "" = "" := by decide

/-- With a token configured, a header that is missing or empty is turned down, -/
theorem tokenAccepted_of_noHeader (h : pyStrip raw ≠ "") {provided : Option String}
    (hnone : ∀ header, provided = some header → header = "") :
    tokenAccepted raw provided = .ok false := by
  rw [tokenAccepted, configuredAdminToken, if_neg h]
  cases provided with
  | none => rfl
  | some header =>
      show (if header = "" then _ else _) = _
      rw [if_pos (hnone header rfl)]

/-- and in any other the stripped texts are compared. -/
theorem tokenAccepted_of_header (h : pyStrip raw ≠ "") {header : String} (hne : header ≠ "") :
    tokenAccepted raw (some header) = compareDigest (pyStrip header) (pyStrip raw) := by
  rw [tokenAccepted, configuredAdminToken, if_neg h]
  show (if header = "" then _ else _) = _
  rw [if_neg hne]

/-- An answer 401 decides what may not pass. -/
theorem decides_of_unauthorized (hguard : adminGuard upper raw request = .ok (some unauthorized))
    (hnot : ¬ MayPass upper raw request) : Decides upper raw request := by
  constructor
  · rw [hguard]
    exact iff_of_false nofun hnot
  · intro _
    exact hguard

/-- Letting through decides what may pass. -/
theorem decides_of_passed (hguard : adminGuard upper raw request = .ok none)
    (hpasses : MayPass upper raw request) : Decides upper raw request :=
  ⟨iff_of_true hguard hpasses, fun hnot => absurd hpasses hnot⟩

/-- An exception decides nothing. -/
theorem not_decides_of_error {e : PyError} (hguard : adminGuard upper raw request = .error e) :
    ¬ Decides upper raw request := by
  rintro ⟨hpass, hdeny⟩
  rw [hguard] at hpass hdeny
  by_cases hmay : MayPass upper raw request
  · cases hpass.mpr hmay
  · cases hdeny hmay

/-- **When the guard decides.**  It lets through exactly what may pass, answers 401 to
everything else and does not raise, exactly when the texts that it compares are ASCII or it
compares none. -/
theorem decides_iff (raw : String) (request : AdminRequest) :
    Decides upper raw request ↔ Comparable upper raw request := by
  by_cases hopen : isProtectedRequest upper request.method request.path = false
  · -- nothing is compared
    have hguard : adminGuard upper raw request = .ok none := adminGuard_of_open hopen
    rcases isProtectedRequest_eq_false_iff.mp hopen with hsafe | hpath
    · exact iff_of_true (decides_of_passed hguard (.inl hsafe)) (.inl hsafe)
    · exact iff_of_true (decides_of_passed hguard (.inr (.inl hpath))) (.inr (.inl hpath))
  · have hguard : adminGuard upper raw request = _ :=
      adminGuard_of_protected (Bool.eq_true_of_not_eq_false hopen)
    rw [isProtectedRequest_eq_false_iff, not_or] at hopen
    by_cases hblank : pyStrip raw = ""
    · rw [tokenAccepted_of_blank hblank] at hguard
      exact iff_of_true (decides_of_passed hguard (.inr (.inr (.inl hblank))))
        (.inr (.inr (.inl hblank)))
    · -- the header decides
      have hmay : MayPass upper raw request ↔
          ∃ header, request.header = some header ∧ pyStrip header = pyStrip raw := by
        simp only [MayPass, hopen.1, hopen.2, hblank, false_or]
      have hcomparable : Comparable upper raw request ↔
          ∀ header, request.header = some header → header ≠ "" →
            isAscii (pyStrip header) = true ∧ isAscii (pyStrip raw) = true := by
        simp only [Comparable, hopen.1, hopen.2, hblank, false_or]
      rw [hcomparable]
      by_cases hnone : ∀ header, request.header = some header → header = ""
      · rw [tokenAccepted_of_noHeader hblank hnone] at hguard
        refine iff_of_true (decides_of_unauthorized hguard ?_) ?_
        · rw [hmay]
          rintro ⟨header, hheader, heq⟩
          rw [hnone header hheader, pyStrip_empty] at heq
          exact hblank heq.symm
        · intro header hheader hne
          exact absurd (hnone header hheader) hne
      · push Not at hnone
        obtain ⟨header, hheader, hne⟩ := hnone
        have hequal : MayPass upper raw request ↔ pyStrip header = pyStrip raw := by
          rw [hmay, hheader]
          constructor
          · rintro ⟨header', h, heq⟩
            rwa [Option.some.inj h]
          · intro heq
            exact ⟨header, rfl, heq⟩
        rw [hheader, tokenAccepted_of_header hblank hne, compareDigest] at hguard
        split at hguard
        · next hascii =>
            rw [Bool.and_eq_true] at hascii
            refine iff_of_true ?_ ?_
            · by_cases heq : pyStrip header = pyStrip raw
              · apply decides_of_passed _ (hequal.mpr heq)
                rw [hguard, heq, beq_self_eq_true]
                rfl
              · apply decides_of_unauthorized _ (fun h => heq (hequal.mp h))
                rw [hguard, beq_eq_false_iff_ne.mpr heq]
                rfl
            · intro header' hheader' _
              rwa [← Option.some.inj (hheader.symm.trans hheader')]
        · next hascii =>
            -- `compare_digest` raises
            refine iff_of_false (not_decides_of_error hguard) ?_
            intro h
            apply hascii
            rw [Bool.and_eq_true]
            exact h header hheader hne

end Guard

/-! #### A header in another script -/

/-- A wrong token with a letter outside ASCII is not answered with 401. -/
theorem not_decides_nonAscii :
    adminGuard pyUpper "s3cret" ⟨"POST", "/fault/inject", some "geheim-ü"⟩ = .error .typeError ∧
      ¬ Decides pyUpper "s3cret" ⟨"POST", "/fault/inject", some "geheim-ü"⟩ := by
  have hraises : (adminGuard pyUpper "s3cret" ⟨"POST", "/fault/inject", some "geheim-ü"⟩)
      = .error .typeError := by decide +kernel
  exact ⟨hraises, not_decides_of_error hraises⟩

end ChaosDemo
