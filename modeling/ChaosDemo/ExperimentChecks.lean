/-
ChaosDemo/ExperimentChecks.lean

When a definition of an experiment is checked totally: `load_experiment` either raises
`ExperimentDefinitionError`, or returns a definition that `run_compare` can turn into its
command.

The loader is a cascade of checks (`performs_loadExperiment`), each of which reads values of
the file with `float`, `str`, `repr` or `sorted`.  Where one of these raises, an exception
gets through; and what is let through may still be without a number,

    fail_rate: .nan        chaos:    (left out)

so that a definition is checked totally exactly when the cascade turns it down, or lets it
pass and its numbers are finite and its chaos is given (`loadsTotally_iff`).
-/
import ChaosDemo.Cascade
import ChaosDemo.ExperimentFile

namespace ChaosDemo

variable {N : Type}

/-- The errors that are meant. -/
def DefinitionError.Meant : DefinitionError → Prop
  | .definition _ => True
  | .escaped _ => False

/-- A number. -/
def PyFloat.Finite (x : PyFloat) : Prop := ∃ q, x = .fin q

/-- A definition that can be run. -/
structure Runnable (doc : Yaml N) (e : Experiment N) : Prop where
  chaos : ∃ v kind, e.chaos = some v ∧ doc.strOf v = .ok kind ∧ kind ∈ chaosKinds
  failRate : e.failRate.Finite
  mode : e.mode ∈ experimentModes
  steadyState : ∀ k ∈ steadyStateKeys, ∃ x, e.steadyState.lookup k = some x ∧ x.Finite
  tolerance : ∀ f ∈ e.tolerance, f.2.Finite
  command : ∃ command, compareCommand doc e = .ok command

/-! ### The checks -/

section Checks

variable (doc : Yaml N) (digit : Char → Option ℕ)

/-- There are no other keys, or an error can name them. -/
def keysCheck (m : Mapping N) (allowed : List String) : Check where
  passes := m.keysBesides allowed = []
  refuses := m.keysBesides allowed ≠ [] ∧ Nameable doc (m.keysBesides allowed)

def versionCheck (v : YamlNode N) : Check where
  passes := v.supportedVersion = true
  refuses := v.supportedVersion = false ∧ ∃ shown, doc.reprOf v = .ok shown

def nameCheck (v : YamlNode N) : Check where
  passes := ∃ name, doc.strOf v = .ok name ∧ pyStrip name ≠ ""
  refuses := ∃ name, doc.strOf v = .ok name ∧ pyStrip name = ""

/-- A section is a mapping of known keys; one that is not required may be missing. -/
def sectionCheck (v : YamlNode N) (allowed : List String) (required : Bool) : Check where
  passes := (∃ m, v = .mapping m ∧ m.keysBesides allowed = []) ∨
    v = .scalar .null ∧ required = false
  refuses := (∃ m, v = .mapping m ∧ (keysCheck doc m allowed).refuses) ∨
    (v = .scalar .null ∧ required = true) ∨ (v ≠ .scalar .null ∧ ∀ m, v ≠ .mapping m)

def wordCheck (v : YamlNode N) (words : List String) : Check where
  passes := ∃ text, doc.strOf v = .ok text ∧ text ∈ words
  refuses := ∃ text, doc.strOf v = .ok text ∧ text ∉ words

/-- `float` does not take the value, and an error can show it. -/
def NotNumeric (v : YamlNode N) : Prop :=
  (v.toFloat digit = .error .typeError ∨ v.toFloat digit = .error .valueError) ∧
    ∃ shown, doc.reprOf v = .ok shown

def numberCheck (v : YamlNode N) : Check where
  passes := ∃ x, v.toFloat digit = .ok x
  refuses := NotNumeric doc digit v

/-- The value is a number that `int` takes. -/
def wholeCheck (v : YamlNode N) : Check where
  passes := ∃ q, v.toFloat digit = .ok (.fin q)
  refuses := NotNumeric doc digit v

def thresholdCheck (steadyState : Mapping N) (key : String) : Check where
  passes := ∃ v, steadyState.get? key = some v ∧ ∃ x, (doc.node v).toFloat digit = .ok x
  refuses := steadyState.get? key = none ∨
    ∃ v, steadyState.get? key = some v ∧ NotNumeric doc digit (doc.node v)

def faultTtlChecks (rollback : Mapping N) : List Check :=
  match rollback.get? "fault_ttl_sec" with
  | none => []
  | some v => [wholeCheck doc digit (doc.node v)]

/-- The value has a text. -/
def textCheck (v : YamlNode N) : Check where
  passes := ∃ text, doc.strOf v = .ok text
  refuses := False

/-- The mapping that a section is. -/
def sectionOf : YamlNode N → Mapping N
  | .mapping m => m
  | _ => .empty

/-- `raw["steady_state"]`. -/
def steadySection (raw : Mapping N) : Mapping N := sectionOf (doc.entry raw "steady_state")

/-- `raw["method"]`. -/
def methodSection (raw : Mapping N) : Mapping N := sectionOf (doc.entry raw "method")

/-- `raw["method"]["experiment"]`. -/
def experimentSection (raw : Mapping N) : Mapping N :=
  sectionOf (doc.entry (methodSection doc raw) "experiment")

/-- `raw["tolerance"]`. -/
def toleranceSection (raw : Mapping N) : Mapping N := sectionOf (doc.entry raw "tolerance")

/-- `raw["rollback"]`. -/
def rollbackSection (raw : Mapping N) : Mapping N := sectionOf (doc.entry raw "rollback")

/-- The rate that is given, or the default. -/
def failRateValue (raw : Mapping N) : YamlNode N :=
  doc.get (experimentSection doc raw) "fail_rate" (.scalar (.num 0))

/-- The checks of the last two sections, and the description. -/
def limitChecks (raw : Mapping N) : List Check :=
  sectionCheck doc (doc.entry raw "tolerance") toleranceKeys true ::
  (((toleranceSection doc raw).fields.map fun f => numberCheck doc digit (doc.node f.2)) ++
    sectionCheck doc (doc.entry raw "rollback") rollbackKeys false ::
    (faultTtlChecks doc digit (rollbackSection doc raw) ++
      [textCheck doc (doc.get raw "description" (.text ""))]))

/-- The checks of the method, and those behind it. -/
def methodChecks (raw : Mapping N) : List Check :=
  sectionCheck doc (doc.entry raw "method") methodKeys true ::
  wordCheck doc (doc.get (methodSection doc raw) "mode" (.text "rule")) experimentModes ::
  sectionCheck doc (doc.entry (methodSection doc raw) "experiment") experimentKeys true ::
  wordCheck doc (doc.get (experimentSection doc raw) "chaos" (.text "mixed")) chaosKinds ::
  numberCheck doc digit (failRateValue doc raw) ::
  wholeCheck doc digit (doc.get (experimentSection doc raw) "latency_ms" (.scalar (.int 0))) ::
  limitChecks doc digit raw

/-- **The cascade of the loader.** -/
def experimentChecks (order : KeyOrder) (raw : Mapping N) : List Check :=
  keysCheck doc raw experimentTopLevelKeys :: versionCheck doc (doc.entry raw "version") ::
  nameCheck doc (doc.get raw "name" (.text "")) ::
  sectionCheck doc (doc.entry raw "steady_state") steadyStateKeys true ::
  (order.keys.map (thresholdCheck doc digit (steadySection doc raw)) ++
    methodChecks doc digit raw)

end Checks

/-! ### What each part checks -/

@[simp] theorem uncaught_eq_ok {α : Type} {x : Except PyError α} {a : α} :
    uncaught x = .ok a ↔ x = .ok a := by
  cases x <;> simp [uncaught, Except.mapError]

/-- What gets through is not meant. -/
theorem not_meant_of_uncaught {α : Type} {x : Except PyError α} {e : DefinitionError}
    (h : uncaught x = .error e) : ¬ e.Meant := by
  cases x with
  | ok a => cases h
  | error e' =>
      obtain rfl := Except.error.inj h
      exact id

theorem performs_uncaught {α : Type} (x : Except PyError α) :
    Performs DefinitionError.Meant (uncaught x) [⟨∃ a, x = .ok a, False⟩] := by
  apply performs_single
  · simp only [uncaught_eq_ok]
  · exact ⟨fun ⟨_, h, he⟩ => not_meant_of_uncaught h he, False.elim⟩

theorem performs_definitionError {α : Type} (message : String) :
    Performs DefinitionError.Meant (definitionError message : Except _ α) [⟨False, True⟩] := by
  apply performs_single
  · exact ⟨nofun, False.elim⟩
  · exact ⟨fun _ => trivial, fun _ => ⟨.definition message, rfl, trivial⟩⟩

/-- An error that shows something. -/
theorem performs_complain {α : Type} (x : Except PyError String) (message : String → String) :
    Performs DefinitionError.Meant
      (uncaught x >>= fun shown => (definitionError (message shown) : Except _ α))
      [⟨False, ∃ shown, x = .ok shown⟩] := by
  have h := (performs_uncaught x).cons fun shown _ =>
    @performs_definitionError α (message shown)
  apply performs_single
  · rw [h.returns]
    exact ⟨fun hall => (allPass_cons.mp (allPass_cons.mp hall).2).1, False.elim⟩
  · rw [h.raises]
    exact ⟨fun h => (h.resolve_left id).1, fun h => .inr ⟨h, .inl trivial⟩⟩

/-- A part whose only check is a known one, where the check says the same. -/
theorem Performs.of_iff {ε α : Type} {meant : ε → Prop} {x : Except ε α} {c d : Check}
    (h : Performs meant x [c]) (hpasses : c.passes ↔ d.passes) (hrefuses : c.refuses ↔ d.refuses) :
    Performs meant x [d] := by
  apply performs_single
  · rw [h.returns, allPass_cons, ← hpasses]
    exact ⟨And.left, fun hc => ⟨hc, nofun⟩⟩
  · rw [h.raises, ← hrefuses]
    exact ⟨fun hc => hc.resolve_right And.right, .inl⟩

section Parts

variable {doc : Yaml N} {digit : Char → Option ℕ}

theorem performs_checkKeys (m : Mapping N) (allowed : List String) (what : String) :
    Performs DefinitionError.Meant (checkKeys doc m allowed what) [keysCheck doc m allowed] := by
  by_cases hkeys : m.keysBesides allowed = []
  · rw [checkKeys, if_neg (not_ne_iff.mpr hkeys)]
    apply performs_single
    · exact iff_of_true ⟨(), rfl⟩ hkeys
    · exact iff_of_false (fun ⟨_, h, _⟩ => pure_ne_error h) fun h => h.1 hkeys
  · rw [checkKeys, if_pos hkeys]
    apply (performs_complain _ _).of_iff
    · exact iff_of_false id hkeys
    · exact ⟨fun h => ⟨hkeys, nameable_iff.mpr h⟩, fun h => nameable_iff.mp h.2⟩

/-- A section that is returned is the mapping in the file, and has known keys only. -/
theorem validateSection_eq_ok {v : YamlNode N} {allowed : List String} {name : String}
    {required : Bool} {m : Mapping N} (h : validateSection doc v allowed name required = .ok m) :
    m = sectionOf v ∧ m.keysBesides allowed = [] := by
  unfold validateSection at h
  split at h
  · split at h
    · cases h
    · cases h
      exact ⟨rfl, rfl⟩
  · next m' =>
      obtain ⟨⟨⟩, hkeys, h⟩ := bind_eq_ok_iff.mp h
      cases h
      exact ⟨rfl, allPass_cons.mp ((performs_checkKeys _ _ _).returns.mp ⟨(), hkeys⟩) |>.1⟩
  · cases h

theorem performs_validateSection (v : YamlNode N) (allowed : List String) (name : String)
    (required : Bool) :
    Performs DefinitionError.Meant (validateSection doc v allowed name required)
      [sectionCheck doc v allowed required] := by
  have hother : (v ≠ .scalar .null) → (∀ m, v ≠ .mapping m) →
      Performs DefinitionError.Meant (validateSection doc v allowed name required)
        [sectionCheck doc v allowed required] := by
    intro hnull hmapping
    have hraises : validateSection doc v allowed name required
        = definitionError s!"{name} must be a mapping" := by
      unfold validateSection
      split
      · exact absurd rfl hnull
      · exact absurd rfl (hmapping _)
      · rfl
    rw [hraises]
    apply (performs_definitionError _).of_iff
    · refine iff_of_false id ?_
      rintro (⟨m, hm, -⟩ | ⟨hv, -⟩)
      · exact hmapping m hm
      · exact hnull hv
    · exact iff_of_true trivial (.inr (.inr ⟨hnull, hmapping⟩))
  cases v with
  | mapping m =>
      apply ((performs_checkKeys m allowed _).bind_pure fun _ => m).of_iff
      · constructor
        · exact fun h => .inl ⟨m, rfl, h⟩
        · rintro (⟨m', hm, h⟩ | ⟨h, -⟩)
          · cases hm
            exact h
          · cases h
      · constructor
        · exact fun h => .inl ⟨m, rfl, h⟩
        · rintro (⟨m', hm, h⟩ | ⟨h, -⟩ | ⟨-, h⟩)
          · cases hm
            exact h
          · cases h
          · exact absurd rfl (h m)
  | scalar s =>
      cases s with
      | null =>
          cases required with
          | true =>
              apply (performs_definitionError _).of_iff
              · refine iff_of_false id ?_
                rintro (⟨m, hm, -⟩ | ⟨-, h⟩)
                · cases hm
                · cases h
              · exact iff_of_true trivial (.inr (.inl ⟨rfl, rfl⟩))
          | false =>
              apply performs_single
              · exact iff_of_true ⟨.empty, rfl⟩ (.inr ⟨rfl, rfl⟩)
              · refine iff_of_false (fun ⟨_, h, _⟩ => pure_ne_error h) ?_
                rintro (⟨m, hm, -⟩ | ⟨-, h⟩ | ⟨h, -⟩)
                · cases hm
                · cases h
                · exact h rfl
      | _ => exact hother nofun nofun
  | _ => exact hother nofun nofun

theorem performs_checkVersion (v : YamlNode N) :
    Performs DefinitionError.Meant (checkVersion doc v) [versionCheck doc v] := by
  cases hversion : v.supportedVersion with
  | true =>
      rw [checkVersion, if_pos hversion]
      apply performs_single
      · exact iff_of_true ⟨(), rfl⟩ hversion
      · refine iff_of_false (fun ⟨_, h, _⟩ => pure_ne_error h) fun h => ?_
        exact absurd (hversion.symm.trans h.1) (by decide)
  | false =>
      have hne : ¬ v.supportedVersion = true := Bool.eq_false_iff.mp hversion
      rw [checkVersion, if_neg hne]
      apply (performs_complain _ _).of_iff
      · exact iff_of_false id hne
      · exact ⟨fun h => ⟨hversion, h⟩, And.right⟩

/-- A text is read, and then passes a test or is complained about. -/
theorem performs_textTest {α : Type} (v : YamlNode N) (p : String → Prop) [DecidablePred p]
    (result : String → α) (message : String → String) :
    Performs DefinitionError.Meant
      (uncaught (doc.strOf v) >>= fun text =>
        if p text then pure (result text) else definitionError (message text))
      [⟨∃ text, doc.strOf v = .ok text ∧ p text, ∃ text, doc.strOf v = .ok text ∧ ¬ p text⟩] := by
  cases htext : doc.strOf v with
  | error e =>
      apply performs_single
      · exact iff_of_false (fun ⟨_, h⟩ => by cases h) fun ⟨_, h, _⟩ => by cases h
      · exact iff_of_false (fun ⟨_, h, he⟩ => by cases h; exact he) fun ⟨_, h, _⟩ => by cases h
  | ok text =>
      show Performs _ (if p text then pure (result text) else definitionError (message text)) _
      by_cases hp : p text
      · rw [if_pos hp]
        apply performs_single
        · exact iff_of_true ⟨_, rfl⟩ ⟨text, rfl, hp⟩
        · refine iff_of_false (fun ⟨_, h, _⟩ => pure_ne_error h) ?_
          rintro ⟨text', h, hnot⟩
          obtain rfl := Except.ok.inj h
          exact hnot hp
      · rw [if_neg hp]
        apply (performs_definitionError _).of_iff
        · refine iff_of_false id ?_
          rintro ⟨text', h, hp'⟩
          obtain rfl := Except.ok.inj h
          exact hp hp'
        · exact iff_of_true trivial ⟨text, rfl, hp⟩

theorem performs_experimentName (v : YamlNode N) :
    Performs DefinitionError.Meant (experimentName doc v) [nameCheck doc v] := by
  have hname : experimentName doc v = (uncaught (doc.strOf v) >>= fun name =>
      if pyStrip name ≠ "" then pure (pyStrip name)
      else definitionError "experiment name must not be empty") := by
    simp only [experimentName, ite_not]
  have htest := @performs_textTest N doc String v (fun name => pyStrip name ≠ "") _ pyStrip
    fun _ => "experiment name must not be empty"
  rw [hname]
  apply htest.of_iff
  · exact Iff.rfl
  · simp only [nameCheck, ne_eq, not_not]

theorem performs_wordOf (v : YamlNode N) (words : List String) (what : String) :
    Performs DefinitionError.Meant (wordOf doc v words what) [wordCheck doc v words] :=
  performs_textTest v (· ∈ words) id _

/-- `float` of a value, with the errors that are made of its exceptions. -/
theorem asFloat_cases (v : YamlNode N) (name : String) :
    (∃ x, v.toFloat digit = .ok x ∧ asFloat doc digit v name = .ok x) ∨
    ((v.toFloat digit = .error .typeError ∨ v.toFloat digit = .error .valueError) ∧
      asFloat doc digit v name = (uncaught (doc.reprOf v) >>= fun shown =>
        definitionError s!"{name} must be numeric, got {shown}")) ∨
    ∃ e, v.toFloat digit = .error e ∧ e ≠ .typeError ∧ e ≠ .valueError ∧
      asFloat doc digit v name = .error (.escaped e) := by
  unfold asFloat
  cases hfloat : v.toFloat digit with
  | ok x => exact .inl ⟨x, rfl, rfl⟩
  | error e =>
      right
      cases e with
      | typeError => exact .inl ⟨.inl rfl, rfl⟩
      | valueError => exact .inl ⟨.inr rfl, rfl⟩
      | _ => exact .inr ⟨_, rfl, nofun, nofun, rfl⟩

theorem asFloat_eq_ok {v : YamlNode N} {name : String} {x : PyFloat} :
    asFloat doc digit v name = .ok x ↔ v.toFloat digit = .ok x := by
  rcases @asFloat_cases N doc digit v name with
    ⟨y, hy, h⟩ | ⟨hfloat, h⟩ | ⟨e, hfloat, -, -, h⟩
  · rw [h, hy, Except.ok.injEq, Except.ok.injEq]
  · rw [h]
    refine iff_of_false (fun h => ?_) fun h => ?_
    · obtain ⟨shown, -, h⟩ := bind_eq_ok_iff.mp h
      cases h
    · rcases hfloat with hfloat | hfloat
      · rw [h] at hfloat
        cases hfloat
      · rw [h] at hfloat
        cases hfloat
  · rw [h, hfloat]
    exact iff_of_false nofun nofun

theorem asFloat_raises {v : YamlNode N} {name : String} :
    (∃ e, asFloat doc digit v name = .error e ∧ e.Meant) ↔ NotNumeric doc digit v := by
  rcases @asFloat_cases N doc digit v name with
    ⟨x, hx, h⟩ | ⟨hfloat, h⟩ | ⟨e, hfloat, htype, hvalue, h⟩
  · rw [h]
    refine iff_of_false (fun ⟨_, h, _⟩ => by cases h) fun h => ?_
    rcases h.1 with h | h
    · rw [hx] at h
      cases h
    · rw [hx] at h
      cases h
  · have hcomplain := @performs_complain PyFloat (doc.reprOf v) fun shown =>
      s!"{name} must be numeric, got {shown}"
    rw [h, hcomplain.raises]
    exact ⟨fun h => ⟨hfloat, h.resolve_right And.right⟩, fun h => .inl h.2⟩
  · rw [h]
    refine iff_of_false (fun ⟨_, h, he⟩ => ?_) fun h => ?_
    · obtain rfl := Except.error.inj h
      exact he
    · rcases h.1 with h | h
      · exact htype (Except.error.inj (hfloat.symm.trans h))
      · exact hvalue (Except.error.inj (hfloat.symm.trans h))

theorem performs_asFloat (v : YamlNode N) (name : String) :
    Performs DefinitionError.Meant (asFloat doc digit v name) [numberCheck doc digit v] := by
  apply performs_single
  · simp only [asFloat_eq_ok]
    exact Iff.rfl
  · exact asFloat_raises

theorem PyFloat.toInt_eq_ok {x : PyFloat} {i : ℤ} :
    x.toInt = .ok i ↔ ∃ q, x = .fin q ∧ i = pyInt q := by
  cases x with
  | fin q =>
      constructor
      · intro h
        exact ⟨q, rfl, (Except.ok.inj h).symm⟩
      · rintro ⟨q', h, rfl⟩
        cases h
        rfl
  | inf negative => exact ⟨nofun, fun ⟨_, h, _⟩ => by cases h⟩
  | nan => exact ⟨nofun, fun ⟨_, h, _⟩ => by cases h⟩

theorem asInt_eq_ok {v : YamlNode N} {name : String} {i : ℤ} :
    asInt doc digit v name = .ok i ↔ ∃ q, v.toFloat digit = .ok (.fin q) ∧ i = pyInt q := by
  rw [asInt, bind_eq_ok_iff]
  simp only [asFloat_eq_ok, uncaught_eq_ok, PyFloat.toInt_eq_ok]
  constructor
  · rintro ⟨x, hx, q, rfl, hi⟩
    exact ⟨q, hx, hi⟩
  · rintro ⟨q, hq, hi⟩
    exact ⟨.fin q, hq, q, rfl, hi⟩

theorem performs_asInt (v : YamlNode N) (name : String) :
    Performs DefinitionError.Meant (asInt doc digit v name) [wholeCheck doc digit v] := by
  apply performs_single
  · simp only [asInt_eq_ok]
    exact ⟨fun ⟨_, q, hq, _⟩ => ⟨q, hq⟩, fun ⟨q, hq⟩ => ⟨pyInt q, q, hq, rfl⟩⟩
  · refine Iff.trans ?_ (@asFloat_raises N doc digit v name)
    constructor
    · rintro ⟨e, h, he⟩
      rcases bind_eq_error_iff.mp h with h | ⟨x, -, h⟩
      · exact ⟨e, h, he⟩
      · exact absurd he (not_meant_of_uncaught h)
    · rintro ⟨e, h, he⟩
      exact ⟨e, bind_eq_error_iff.mpr (.inl h), he⟩

theorem performs_thresholdOf (steadyState : Mapping N) (key : String) :
    Performs DefinitionError.Meant (thresholdOf doc digit steadyState key)
      [thresholdCheck doc digit steadyState key] := by
  cases hkey : steadyState.get? key with
  | none =>
      have hmissing : thresholdOf doc digit steadyState key
          = definitionError s!"steady_state.{key} is required" := by
        simp only [thresholdOf, hkey]
      rw [hmissing]
      apply (performs_definitionError _).of_iff
      · refine iff_of_false id ?_
        rintro ⟨v, hv, -⟩
        rw [hkey] at hv
        cases hv
      · exact iff_of_true trivial (.inl hkey)
  | some v =>
      have hvalue : thresholdOf doc digit steadyState key
          = (asFloat doc digit (doc.node v) s!"steady_state.{key}" >>= fun x =>
            pure (key, x)) := by
        simp only [thresholdOf, hkey]
      rw [hvalue]
      apply ((performs_asFloat (doc.node v) _).bind_pure fun x => (key, x)).of_iff
      · constructor
        · exact fun h => ⟨v, hkey, h⟩
        · rintro ⟨v', hv', h⟩
          obtain rfl := Option.some.inj (hkey.symm.trans hv')
          exact h
      · constructor
        · exact fun h => .inr ⟨v, hkey, h⟩
        · rintro (h | ⟨v', hv', h⟩)
          · rw [hkey] at h
            cases h
          · obtain rfl := Option.some.inj (hkey.symm.trans hv')
            exact h

theorem performs_toleranceOf {f : YamlScalar × N} {key : String} (hkey : f.1 = .str key) :
    Performs DefinitionError.Meant (toleranceOf doc digit f)
      [numberCheck doc digit (doc.node f.2)] := by
  have hvalue : toleranceOf doc digit f
      = (asFloat doc digit (doc.node f.2) s!"tolerance.{key}" >>= fun x => pure (f.1, x)) := by
    rw [toleranceOf, hkey]
    rfl
  rw [hvalue]
  exact (performs_asFloat _ _).bind_pure fun x => (f.1, x)

theorem performs_faultTtlOf (rollback : Mapping N) :
    Performs DefinitionError.Meant (faultTtlOf doc digit rollback)
      (faultTtlChecks doc digit rollback) := by
  cases hkey : rollback.get? "fault_ttl_sec" with
  | none =>
      simp only [faultTtlOf, faultTtlChecks, hkey]
      exact performs_pure none
  | some v =>
      simp only [faultTtlOf, faultTtlChecks, hkey]
      exact (performs_asInt _ _).bind_pure some

/-- The keys of a mapping that has no others are texts. -/
theorem exists_key_of_keysBesides {m : Mapping N} {allowed : List String}
    (h : m.keysBesides allowed = []) {f : YamlScalar × N} (hf : f ∈ m.fields) :
    ∃ key, f.1 = .str key := by
  have hnot := List.filter_eq_nil_iff.mp h f.1 (List.mem_map_of_mem hf)
  rw [Bool.not_eq_true, Bool.not_eq_false', List.any_eq_true] at hnot
  obtain ⟨key, -, hkey⟩ := hnot
  exact ⟨key, of_decide_eq_true hkey⟩

variable (doc digit) in
/-- **The loader makes the checks of its cascade.** -/
theorem performs_loadExperiment (order : KeyOrder) (path : String) (raw : Mapping N) :
    Performs DefinitionError.Meant
      (loadExperiment doc digit order path (.loaded (.mapping raw)))
      (experimentChecks doc digit order raw) := by
  apply (performs_checkKeys _ _ _).cons
  intro _ _
  apply (performs_checkVersion _).cons
  intro _ _
  apply (performs_experimentName _).cons
  intro name _
  apply (performs_validateSection _ _ _ _).cons
  intro steady hsteady
  obtain rfl := (validateSection_eq_ok hsteady).1
  apply (performs_mapM fun key _ => performs_thresholdOf _ key).bind
  intro steadyState _
  apply (performs_validateSection _ _ _ _).cons
  intro method hmethod
  obtain rfl := (validateSection_eq_ok hmethod).1
  apply (performs_wordOf _ _ _).cons
  intro mode _
  apply (performs_validateSection _ _ _ _).cons
  intro experiment hexperiment
  obtain rfl := (validateSection_eq_ok hexperiment).1
  apply (performs_wordOf _ _ _).cons
  intro _ _
  apply (performs_asFloat _ _).cons
  intro failRate _
  apply (performs_asInt _ _).cons
  intro latencyMs _
  apply (performs_validateSection _ _ _ _).cons
  intro tolerances htolerances
  obtain ⟨rfl, hkeys⟩ := validateSection_eq_ok htolerances
  apply Performs.bind
  · apply performs_mapM
    intro f hf
    obtain ⟨key, hkey⟩ := exists_key_of_keysBesides hkeys hf
    exact performs_toleranceOf hkey
  intro tolerance _
  apply (performs_validateSection _ _ _ _).cons
  intro rollback hrollback
  obtain rfl := (validateSection_eq_ok hrollback).1
  apply (performs_faultTtlOf _).bind
  intro faultTtlSec _
  exact (performs_uncaught _).bind_pure _

end Parts

/-! ### The numbers of a definition -/

theorem one_lt_floatLimit : 1 < floatLimit := by
  have hpow : ∀ m n : ℕ, 0 < m → m + 1 < n → 1 < 2 ^ n - 2 ^ m := by
    intro m n hm hn
    have hone : 1 < 2 ^ m := Nat.one_lt_two_pow hm.ne'
    have hdouble : 2 ^ m + 2 ^ m < 2 ^ n := by
      rw [← Nat.two_mul, ← Nat.pow_succ']
      exact Nat.pow_lt_pow_right Nat.one_lt_two hn
    omega
  unfold floatLimit
  exact hpow 970 1024 (by decide) (by decide)

/-- An integer that fits a float has a text. -/
theorem floatLimit_lt_text : floatLimit < 10 ^ intMaxStrDigits := by
  have hpow : ∀ m n k : ℕ, n < k → 2 ^ n - 2 ^ m < 10 ^ k := by
    intro m n k hk
    have hten : 2 ^ n ≤ 10 ^ n := Nat.pow_le_pow_left (by decide) n
    have htext : 10 ^ n < 10 ^ k := Nat.pow_lt_pow_right (by decide) hk
    exact ((Nat.sub_le _ _).trans hten).trans_lt htext
  unfold floatLimit
  exact hpow 970 1024 intMaxStrDigits (by decide)

theorem PyFloat.rounded_lt {x : PyFloat} {q : ℚ} (h : x.rounded = .fin q) : |q| < floatLimit := by
  cases x with
  | fin p =>
      rw [PyFloat.rounded] at h
      split at h
      · next hlt =>
          cases h
          exact hlt
      · cases h
  | _ => cases h

theorem abs_intCast_lt {i : ℤ} (h : i.natAbs < floatLimit) : |(i : ℚ)| < floatLimit := by
  have habs : |(i : ℚ)| = i.natAbs := by
    rw [← Int.cast_abs, Int.abs_eq_natAbs, Int.cast_natCast]
  rw [habs]
  exact_mod_cast h

section Numbers

variable {doc : Yaml N} {digit : Char → Option ℕ}

/-- A finite result of `float` is within its bound. -/
theorem toFloat_lt {v : YamlNode N} {q : ℚ} (h : v.toFloat digit = .ok (.fin q)) :
    |q| < floatLimit := by
  have htext : ∀ {x : Option PyFloat},
      (x.map PyFloat.rounded).elim (Except.error PyError.valueError) Except.ok
        = Except.ok (PyFloat.fin q) → |q| < floatLimit := by
    intro x hx
    cases x with
    | none => cases hx
    | some y => exact PyFloat.rounded_lt (Except.ok.inj hx)
  cases v with
  | scalar s =>
      cases s with
      | bool b =>
          have hq : (if b then 1 else 0 : ℚ) = q := PyFloat.fin.inj (Except.ok.inj h)
          have hone : (1 : ℚ) < floatLimit := by exact_mod_cast one_lt_floatLimit
          rw [← hq]
          cases b with
          | false => simpa using zero_lt_one.trans hone
          | true => simpa using hone
      | int i =>
          have h : intToFloat i = .ok (.fin q) := h
          rw [intToFloat] at h
          split at h
          · next hlt =>
              cases h
              exact abs_intCast_lt hlt
          · cases h
      | num p => exact PyFloat.rounded_lt (Except.ok.inj h)
      | str t =>
          have h : ((pyFloatText (asciiDigits digit t)).map PyFloat.rounded).elim
              (Except.error PyError.valueError) Except.ok = Except.ok (PyFloat.fin q) := h
          exact htext h
      | bytes b =>
          have h : (bytesToFloat b).elim (Except.error PyError.valueError) Except.ok
              = Except.ok (PyFloat.fin q) := h
          rw [bytesToFloat] at h
          split at h
          · exact htext h
          · cases h
      | _ => cases h
  | _ => cases h

theorem natAbs_pyInt_le (q : ℚ) : ((pyInt q).natAbs : ℚ) ≤ |q| := by
  rw [pyInt]
  split
  · next hq =>
      have hfloor : 0 ≤ ⌊q⌋ := Int.floor_nonneg.mpr hq
      rw [abs_of_nonneg hq, ← Int.cast_natCast, Int.natAbs_of_nonneg hfloor]
      exact Int.floor_le q
  · next hq =>
      have hneg : q < 0 := not_le.mp hq
      have hceil : ⌈q⌉ ≤ 0 := Int.ceil_le.mpr (by simpa using hneg.le)
      rw [abs_of_neg hneg, ← Int.cast_natCast, Int.ofNat_natAbs_of_nonpos hceil, Int.cast_neg]
      exact neg_le_neg (Int.le_ceil q)

/-- The integer of such a float has a text. -/
theorem exists_intRepr {v : YamlNode N} {q : ℚ} (h : v.toFloat digit = .ok (.fin q)) :
    ∃ text, intRepr (pyInt q) = .ok text := by
  have hlt : ((pyInt q).natAbs : ℚ) < floatLimit := (natAbs_pyInt_le q).trans_lt (toFloat_lt h)
  have hlt : (pyInt q).natAbs < floatLimit := by exact_mod_cast hlt
  exact ⟨_, if_pos (hlt.trans floatLimit_lt_text)⟩

/-! ### What is returned -/

theorem wordOf_eq_ok {v : YamlNode N} {words : List String} {what word : String}
    (h : wordOf doc v words what = .ok word) : doc.strOf v = .ok word ∧ word ∈ words := by
  obtain ⟨text, htext, h⟩ := bind_eq_ok_iff.mp h
  split at h
  · next hmem =>
      cases h
      exact ⟨uncaught_eq_ok.mp htext, hmem⟩
  · cases h

theorem thresholdOf_eq_ok {steadyState : Mapping N} {key : String} {p : String × PyFloat}
    (h : thresholdOf doc digit steadyState key = .ok p) :
    p.1 = key ∧ ∃ v, steadyState.get? key = some v ∧ (doc.node v).toFloat digit = .ok p.2 := by
  unfold thresholdOf at h
  split at h
  · cases h
  · next v hv =>
      obtain ⟨x, hx, h⟩ := bind_eq_ok_iff.mp h
      cases h
      exact ⟨rfl, v, hv, asFloat_eq_ok.mp hx⟩

theorem toleranceOf_eq_ok {f : YamlScalar × N} {p : YamlScalar × PyFloat}
    (h : toleranceOf doc digit f = .ok p) : (doc.node f.2).toFloat digit = .ok p.2 := by
  obtain ⟨key, -, h⟩ := bind_eq_ok_iff.mp h
  obtain ⟨x, hx, h⟩ := bind_eq_ok_iff.mp h
  cases h
  exact asFloat_eq_ok.mp hx

/-- A chaos that has a text makes a command. -/
theorem exists_compareCommand {e : Experiment N} {v : YamlNode N} {kind text : String}
    (hchaos : e.chaos = some v) (hstr : doc.strOf v = .ok kind)
    (htext : intRepr e.latencyMs = .ok text) :
    ∃ command, compareCommand doc e = .ok command := by
  have hitem : e.chaosItem = .ok v := by
    simp only [Experiment.chaosItem, hchaos]
  simp only [compareCommand, hitem, ok_bind, hstr, htext]
  exact ⟨_, rfl⟩

variable (doc digit) in
/-- `float` makes a number of the value. -/
def FiniteNumber (v : YamlNode N) : Prop := ∃ q, v.toFloat digit = .ok (.fin q)

theorem finiteNumber_iff {v : YamlNode N} {x : PyFloat} (h : v.toFloat digit = .ok x) :
    FiniteNumber digit v ↔ x.Finite := by
  simp only [FiniteNumber, PyFloat.Finite, h, Except.ok.injEq]

end Numbers

/-- Pairs that are made of keys, looked up. -/
theorem lookup_of_forall₂ {β : Type} {R : String → β → Prop} {keys : List String}
    {l : List (String × β)} (h : List.Forall₂ (fun key p => p.1 = key ∧ R key p.2) keys l)
    {key : String} (hkey : key ∈ keys) : ∃ x, l.lookup key = some x ∧ R key x := by
  induction h with
  | nil => cases hkey
  | @cons key' p keys l hp _ ih =>
      obtain ⟨key'', x⟩ := p
      obtain ⟨rfl, hx⟩ := hp
      by_cases heq : key = key''
      · subst heq
        exact ⟨x, List.lookup_cons_self, hx⟩
      · obtain ⟨y, hy, hR⟩ := ih ((List.mem_cons.mp hkey).resolve_left heq)
        refine ⟨y, ?_, hR⟩
        rwa [List.lookup_cons, beq_eq_false_iff_ne.mpr heq]

/-- What holds of all results holds of all items. -/
theorem forall_iff_of_forall₂ {α β : Type} {R : α → β → Prop} {P : α → Prop} {Q : β → Prop}
    {l : List α} {ys : List β} (h : List.Forall₂ R l ys) (hiff : ∀ x y, R x y → (P x ↔ Q y)) :
    (∀ x ∈ l, P x) ↔ ∀ y ∈ ys, Q y := by
  induction h with
  | nil => exact iff_of_true nofun nofun
  | cons hx _ ih => rw [List.forall_mem_cons, List.forall_mem_cons, ih, hiff _ _ hx]

/-- What the file must state beyond the checks: its kind of chaos, and numbers. -/
structure Stated (doc : Yaml N) (digit : Char → Option ℕ) (raw : Mapping N) : Prop where
  chaos : (experimentSection doc raw).get? "chaos" ≠ none
  failRate : FiniteNumber digit (failRateValue doc raw)
  thresholds : ∀ key ∈ steadyStateKeys, ∀ v, (steadySection doc raw).get? key = some v →
    FiniteNumber digit (doc.node v)
  tolerances : ∀ f ∈ (toleranceSection doc raw).fields, FiniteNumber digit (doc.node f.2)

section Definition

variable {doc : Yaml N} {digit : Char → Option ℕ} {order : KeyOrder} {path : String}
  {raw : Mapping N} {e : Experiment N}

/-- A definition that is returned can be run when the file states what the checks do not
ask for. -/
theorem runnable_iff
    (h : loadExperiment doc digit order path (.loaded (.mapping raw)) = .ok e) :
    Runnable doc e ↔ Stated doc digit raw := by
  obtain ⟨_, -, h⟩ := bind_eq_ok_iff.mp h
  obtain ⟨_, -, h⟩ := bind_eq_ok_iff.mp h
  obtain ⟨name, -, h⟩ := bind_eq_ok_iff.mp h
  obtain ⟨steady, hsteady, h⟩ := bind_eq_ok_iff.mp h
  obtain ⟨steadyState, hthresholds, h⟩ := bind_eq_ok_iff.mp h
  obtain ⟨method, hmethod, h⟩ := bind_eq_ok_iff.mp h
  obtain ⟨mode, hmode, h⟩ := bind_eq_ok_iff.mp h
  obtain ⟨experiment, hexperiment, h⟩ := bind_eq_ok_iff.mp h
  obtain ⟨kind, hkind, h⟩ := bind_eq_ok_iff.mp h
  obtain ⟨failRate, hfailRate, h⟩ := bind_eq_ok_iff.mp h
  obtain ⟨latencyMs, hlatency, h⟩ := bind_eq_ok_iff.mp h
  obtain ⟨tolerances, htolerances, h⟩ := bind_eq_ok_iff.mp h
  obtain ⟨tolerance, htolerance, h⟩ := bind_eq_ok_iff.mp h
  obtain ⟨rollback, -, h⟩ := bind_eq_ok_iff.mp h
  obtain ⟨faultTtlSec, -, h⟩ := bind_eq_ok_iff.mp h
  obtain ⟨description, -, h⟩ := bind_eq_ok_iff.mp h
  obtain rfl := Except.ok.inj h
  obtain rfl := (validateSection_eq_ok hsteady).1
  obtain rfl := (validateSection_eq_ok hmethod).1
  obtain rfl := (validateSection_eq_ok hexperiment).1
  obtain rfl := (validateSection_eq_ok htolerances).1
  obtain ⟨hkind, hkinds⟩ := wordOf_eq_ok hkind
  have hrate : FiniteNumber digit (failRateValue doc raw) ↔ failRate.Finite :=
    finiteNumber_iff (asFloat_eq_ok.mp hfailRate)
  obtain ⟨q, hq, rfl⟩ := asInt_eq_ok.mp hlatency
  have hlimits : (∀ f ∈ (toleranceSection doc raw).fields, FiniteNumber digit (doc.node f.2)) ↔
      ∀ p ∈ tolerance, p.2.Finite :=
    forall_iff_of_forall₂ (mapM_eq_ok_iff.mp htolerance) fun f p hp =>
      finiteNumber_iff (toleranceOf_eq_ok hp)
  have hlookup : ∀ key ∈ steadyStateKeys, ∃ x, steadyState.lookup key = some x ∧
      ∃ v, (steadySection doc raw).get? key = some v ∧ (doc.node v).toFloat digit = .ok x := by
    intro key hkey
    have hpairs := (mapM_eq_ok_iff.mp hthresholds).imp fun _ _ => thresholdOf_eq_ok
    exact lookup_of_forall₂ (R := fun key x => ∃ v, (steadySection doc raw).get? key = some v ∧
      (doc.node v).toFloat digit = .ok x) hpairs (order.perm.mem_iff.mpr hkey)
  constructor
  · intro hrunnable
    refine ⟨?_, hrate.mpr hrunnable.failRate, ?_, hlimits.mpr hrunnable.tolerance⟩
    · intro hnone
      obtain ⟨v, _, hv, -⟩ := hrunnable.chaos
      have hchaos : ((experimentSection doc raw).get? "chaos").map doc.node = some v := hv
      rw [hnone] at hchaos
      cases hchaos
    · intro key hkey v hv
      obtain ⟨x, hx, v', hv', hfloat⟩ := hlookup key hkey
      obtain rfl := Option.some.inj (hv.symm.trans hv')
      obtain ⟨y, hy, hfinite⟩ := hrunnable.steadyState key hkey
      obtain rfl := Option.some.inj (hx.symm.trans hy)
      exact (finiteNumber_iff hfloat).mpr hfinite
  · intro hstated
    obtain ⟨n, hn⟩ := Option.ne_none_iff_exists'.mp hstated.chaos
    have hchaos : ((experimentSection doc raw).get? "chaos").map doc.node = some (doc.node n) := by
      rw [hn]
      rfl
    have hstr : doc.strOf (doc.node n) = .ok kind := by
      have hget : doc.get (experimentSection doc raw) "chaos" (.text "mixed") = doc.node n := by
        rw [Yaml.get, hn]
        rfl
      rw [← hget]
      exact hkind
    obtain ⟨text, htext⟩ := exists_intRepr hq
    refine ⟨⟨doc.node n, kind, hchaos, hstr, hkinds⟩, hrate.mp hstated.failRate,
      (wordOf_eq_ok hmode).2, ?_, hlimits.mp hstated.tolerances, ?_⟩
    · intro key hkey
      obtain ⟨x, hx, v, hv, hfloat⟩ := hlookup key hkey
      exact ⟨x, hx, (finiteNumber_iff hfloat).mp (hstated.thresholds key hkey v hv)⟩
    · exact exists_compareCommand hchaos hstr htext

variable (doc digit order path) in
/-- The value is turned down with `ExperimentDefinitionError`, or gives a definition that
can be run. -/
def LoadsTotally (value : YamlNode N) : Prop :=
  match loadExperiment doc digit order path (.loaded value) with
  | .error (.definition _) => True
  | .error (.escaped _) => False
  | .ok e => Runnable doc e

variable (doc digit order) in
/-- The cascade turns the value down, or lets it pass with all that the file must state. -/
def Checked : YamlNode N → Prop
  | .mapping raw => TurnedDown (experimentChecks doc digit order raw) ∨
      AllPass (experimentChecks doc digit order raw) ∧ Stated doc digit raw
  | _ => True

variable (doc digit order path) in
/-- **When definitions are checked totally.** -/
theorem loadsTotally_iff (value : YamlNode N) :
    LoadsTotally doc digit order path value ↔ Checked doc digit order value := by
  cases value with
  | mapping raw =>
      have hchecks := performs_loadExperiment doc digit order path raw
      rw [Checked, ← hchecks.returns, ← hchecks.raises, LoadsTotally]
      cases hload : loadExperiment doc digit order path (.loaded (.mapping raw)) with
      | ok e =>
          show Runnable doc e ↔ _
          rw [runnable_iff hload]
          constructor
          · exact fun h => .inr ⟨⟨e, rfl⟩, h⟩
          · rintro (⟨_, h, -⟩ | ⟨-, h⟩)
            · cases h
            · exact h
      | error e =>
          cases e with
          | definition message => exact iff_of_true trivial (.inl ⟨_, rfl, trivial⟩)
          | escaped e =>
              refine iff_of_false id ?_
              rintro (⟨_, h, he⟩ | ⟨⟨_, h⟩, -⟩)
              · obtain rfl := Except.error.inj h
                exact he
              · cases h
  | _ => exact iff_of_true trivial trivial

end Definition

/-! #### A definition without its chaos -/

/-- The objects of a file that states everything but the kind of chaos: its thresholds are
all `true`, and `experiment` and `tolerance` are empty. -/
def noChaosDoc : Yaml ℕ where
  node
    | 0 => .scalar (.int 1)
    | 1 => .text "quiet"
    | 2 => .scalar (.bool true)
    | 3 => .mapping ⟨steadyStateKeys.map fun key => (.str key, 2), by decide⟩
    | 4 => .mapping ⟨[(.str "experiment", 5)], by decide⟩
    | _ => .mapping .empty
  scalarRepr
    | .str s => "'" ++ s ++ "'"
    | _ => ""
  nodeRepr _ := .ok ""

def noChaosFile : Mapping ℕ :=
  ⟨[(.str "version", 0), (.str "name", 1), (.str "steady_state", 3), (.str "method", 4),
    (.str "tolerance", 5)], by decide⟩

/-- A file with two unknown keys, `1` and `a`. -/
def mixedKeysFile : Mapping ℕ := ⟨[(.int 1, 0), (.str "a", 0)], by decide⟩

/-- The order in which the threshold keys are written. -/
def writtenOrder : KeyOrder := ⟨steadyStateKeys, .refl _⟩

/-- The first file is loaded, and `run_compare` does not find its chaos; of the second file
the unknown keys cannot be sorted for the error. -/
theorem not_loadsTotally_examples :
    (∃ e, loadExperiment noChaosDoc (fun _ => none) writtenOrder "quiet.yaml"
        (.loaded (.mapping noChaosFile)) = .ok e ∧
      compareCommand noChaosDoc e = .error (.keyError "chaos")) ∧
    ¬ LoadsTotally noChaosDoc (fun _ => none) writtenOrder "quiet.yaml" (.mapping noChaosFile) ∧
    ¬ LoadsTotally noChaosDoc (fun _ => none) writtenOrder "mixed.yaml"
      (.mapping mixedKeysFile) := by
  obtain ⟨e, he, hchaos⟩ : ∃ e, loadExperiment noChaosDoc (fun _ => none) writtenOrder "quiet.yaml"
      (.loaded (.mapping noChaosFile)) = .ok e ∧ e.chaos = none := by
    have hzero : (PyFloat.fin 0).rounded = .fin 0 := by
      have hpos : |(0 : ℚ)| < floatLimit := by
        rw [abs_zero]
        exact_mod_cast floatLimit_pos
      exact if_pos hpos
    have hrate : asFloat noChaosDoc (fun _ => none) (.scalar (.num 0))
        "method.experiment.fail_rate" = .ok (.fin 0) :=
      asFloat_eq_ok.mpr (congrArg Except.ok hzero)
    have hlatency : asInt noChaosDoc (fun _ => none) (.scalar (.int 0))
        "method.experiment.latency_ms" = .ok 0 :=
      asInt_eq_ok.mpr ⟨0, if_pos floatLimit_pos, by decide +kernel⟩
    exact ⟨_, bind_eq_ok_iff.mpr ⟨(), rfl, bind_eq_ok_iff.mpr ⟨(), rfl, bind_eq_ok_iff.mpr
      ⟨"quiet", rfl, bind_eq_ok_iff.mpr ⟨_, rfl, bind_eq_ok_iff.mpr ⟨_, rfl, bind_eq_ok_iff.mpr
      ⟨_, rfl, bind_eq_ok_iff.mpr ⟨"rule", rfl, bind_eq_ok_iff.mpr ⟨_, rfl, bind_eq_ok_iff.mpr
      ⟨"mixed", rfl, bind_eq_ok_iff.mpr ⟨_, hrate, bind_eq_ok_iff.mpr ⟨_, hlatency,
      bind_eq_ok_iff.mpr ⟨_, rfl, bind_eq_ok_iff.mpr ⟨_, rfl, bind_eq_ok_iff.mpr ⟨_, rfl,
      bind_eq_ok_iff.mpr ⟨_, rfl, bind_eq_ok_iff.mpr ⟨"", rfl, rfl⟩⟩⟩⟩⟩⟩⟩⟩⟩⟩⟩⟩⟩⟩⟩⟩, rfl⟩
  refine ⟨⟨e, he, ?_⟩, ?_, ?_⟩
  · simp only [compareCommand, Experiment.chaosItem, hchaos]
    rfl
  · rw [LoadsTotally, he]
    rintro ⟨⟨v, _, hv, -⟩, -⟩
    rw [hchaos] at hv
    cases hv
  · have hload : loadExperiment noChaosDoc (fun _ => none) writtenOrder "mixed.yaml"
        (.loaded (.mapping mixedKeysFile)) = .error (.escaped .typeError) := by
      rfl
    rw [LoadsTotally, hload]
    exact id

end ChaosDemo
