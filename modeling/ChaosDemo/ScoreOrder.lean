/-
ChaosDemo/ScoreOrder.lean

The order of the evaluators (ai_platform/evaluation: result.py, engine).  The engine merges
the results from the left.  Two of the merges do not see the order: all evaluators have to
succeed, and the lowest security score counts.  The third one halves.  It puts the mean of
two scores in the place of both, so that from the left

    s₁, s₂, …, sₙ   becomes   s₁ / 2ⁿ⁻¹ + s₂ / 2ⁿ⁻¹ + s₃ / 2ⁿ⁻² + … + sₙ / 2,

and the evaluator that comes last has half of the weight.  For two scores this is their
mean.  With a third one two orders that differ in the last two evaluators differ by a
quarter of the difference of their scores, so no order counts only when all scores are
equal (`orderFree_iff`).
-/
import Mathlib.Data.List.Perm.Basic
import Mathlib.Tactic.Linarith
import Mathlib.Tactic.FieldSimp
import ChaosDemo.Evaluation

namespace ChaosDemo

/-! ### Halving -/

/-- What `merge` does to two scores. -/
def halve (a b : ℚ) : ℚ := (a + b) / 2

/-- The score of some results, merged from the left. -/
def halved : List ℚ → Option ℚ
  | [] => none
  | s :: scores => some (scores.foldl halve s)

/-- The arithmetic mean, if there is one. -/
def mean : List ℚ → Option ℚ
  | [] => none
  | s :: scores => some ((s :: scores).sum / (s :: scores).length)

/-- At most two scores, or one score in every place. -/
def Balanced (scores : List ℚ) : Prop :=
  scores.length ≤ 2 ∨ ∀ s ∈ scores, ∀ t ∈ scores, s = t

theorem foldl_halve_of_eq {s : ℚ} {scores : List ℚ} (h : ∀ t ∈ scores, t = s) :
    scores.foldl halve s = s := by
  induction scores with
  | nil => rfl
  | cons t scores ih =>
      have ht : halve s t = s := by
        rw [h t List.mem_cons_self, halve]
        ring
      rw [List.foldl_cons, ht]
      exact ih fun u hu => h u (List.mem_cons_of_mem t hu)

theorem mean_of_eq {s : ℚ} {scores : List ℚ} (h : ∀ t ∈ scores, t = s) :
    mean (s :: scores) = some s := by
  have hsum : (s :: scores).sum = (s :: scores).length * s := by
    rw [List.eq_replicate_of_mem (fun t ht => (List.mem_cons.mp ht).elim id (h t)),
      List.sum_replicate, List.length_replicate, nsmul_eq_mul]
  have hne : ((s :: scores).length : ℚ) ≠ 0 := by
    rw [List.length_cons]
    positivity
  show some ((s :: scores).sum / (s :: scores).length) = some s
  rw [hsum, mul_div_cancel_left₀ s hne]

theorem halved_eq_mean {scores : List ℚ} (h : Balanced scores) : halved scores = mean scores := by
  cases scores with
  | nil => rfl
  | cons s scores =>
      rcases h with hfew | heq
      · match scores with
        | [] => simp [halved, mean]
        | [t] =>
            show some (halve s t) = some ((s + (t + 0)) / (2 : ℕ))
            rw [add_zero]
            rfl
        | _ :: _ :: _ =>
            exfalso
            simp only [List.length_cons] at hfew
            omega
      · have hs : ∀ t ∈ scores, t = s := by
          intro t ht
          exact heq t (List.mem_cons_of_mem s ht) s List.mem_cons_self
        rw [mean_of_eq hs, halved, foldl_halve_of_eq hs]

theorem mean_perm {scores scores' : List ℚ} (h : scores.Perm scores') :
    mean scores = mean scores' := by
  cases scores with
  | nil => rw [List.nil_perm.mp h]
  | cons s scores =>
      cases scores' with
      | nil => exact absurd (List.perm_nil.mp h) (List.cons_ne_nil s scores)
      | cons t scores' =>
          show some ((s :: scores).sum / (s :: scores).length)
            = some ((t :: scores').sum / (t :: scores').length)
          rw [h.sum_eq, h.length_eq]

theorem Balanced.perm {scores scores' : List ℚ} (h : scores.Perm scores')
    (hb : Balanced scores) : Balanced scores' := by
  rcases hb with hfew | heq
  · left
    rwa [← h.length_eq]
  · right
    intro s hs t ht
    exact heq s (h.mem_iff.mpr hs) t (h.mem_iff.mpr ht)

/-- The last two of three or more scores are told apart. -/
theorem eq_of_halved_swap {scores : List ℚ} {s t : ℚ} (hne : scores ≠ [])
    (h : halved (scores ++ [s, t]) = halved (scores ++ [t, s])) : s = t := by
  cases scores with
  | nil => exact absurd rfl hne
  | cons r scores =>
      rw [List.cons_append, List.cons_append, halved, halved, List.foldl_append,
        List.foldl_append] at h
      have hswap := Option.some.inj h
      simp only [List.foldl_cons, List.foldl_nil, halve] at hswap
      linarith

/-! ### Merging from the left -/

theorem foldl_mergeOption_some (f : ℚ → ℚ → ℚ) (values : List (Option ℚ)) :
    ∀ a, values.foldl (mergeOption f) (some a) = some ((values.filterMap id).foldl f a) := by
  induction values with
  | nil =>
      intro a
      rfl
  | cons value values ih =>
      intro a
      cases value with
      | none => exact ih a
      | some b => exact ih (f a b)

/-- From no score on, the scores that there are. -/
theorem foldl_mergeOption_halve (values : List (Option ℚ)) :
    values.foldl (mergeOption halve) none = halved (values.filterMap id) := by
  induction values with
  | nil => rfl
  | cons value values ih =>
      cases value with
      | none => exact ih
      | some b => exact foldl_mergeOption_some halve values b

theorem mergeOption_min_right_comm (a b c : Option ℚ) :
    mergeOption min (mergeOption min a b) c = mergeOption min (mergeOption min a c) b := by
  cases a <;> cases b <;> cases c <;> simp [mergeOption, min_comm, min_left_comm]

section Engine

variable {Ω : Type} (metadataOf : Ω → Option Dict) (output : AgentOutput Ω)

/-- What an evaluator says of the output; one that raises is not asked. -/
def Evaluator.verdict (evaluator : Evaluator Ω) : EvaluationResult :=
  match evaluator.evaluate output with
  | .ok result => result
  | .error _ => { success := false }

/-- The results of some evaluators, merged into another one. -/
def mergedInto (combined : EvaluationResult) (evaluators : List (Evaluator Ω)) :
    EvaluationResult :=
  evaluators.foldl
    (fun combined evaluator => combined.merge (evaluator.verdict output) evaluator.name) combined

/-- The scores that are not `None`. -/
def scores (evaluators : List (Evaluator Ω)) : List ℚ :=
  (evaluators.map fun evaluator => (evaluator.verdict output).score).filterMap id

/-- No evaluator raises. -/
def AllAnswer (evaluators : List (Evaluator Ω)) : Prop :=
  ∀ evaluator ∈ evaluators, ∃ result, evaluator.evaluate output = .ok result

variable {output} {evaluators evaluators' : List (Evaluator Ω)}

theorem AllAnswer.perm (hperm : evaluators'.Perm evaluators) (h : AllAnswer output evaluators) :
    AllAnswer output evaluators' :=
  fun evaluator hmem => h evaluator (hperm.mem_iff.mp hmem)

variable (output) in
theorem scores_perm (hperm : evaluators'.Perm evaluators) :
    (scores output evaluators').Perm (scores output evaluators) :=
  (hperm.map _).filterMap _

/-- The loop merges what the evaluators say. -/
theorem evaluateEach_of_allAnswer (h : AllAnswer output evaluators) :
    ∀ combined, evaluateEach output evaluators combined
      = .ok (mergedInto output combined evaluators) := by
  induction evaluators with
  | nil =>
      intro combined
      rfl
  | cons evaluator evaluators ih =>
      intro combined
      obtain ⟨result, hresult⟩ := h evaluator List.mem_cons_self
      have hverdict : evaluator.verdict output = result := by rw [Evaluator.verdict, hresult]
      rw [evaluateEach, hresult, mergedInto, List.foldl_cons, hverdict]
      exact ih (fun e he => h e (List.mem_cons_of_mem _ he)) _

theorem evaluateEach_of_raises (h : ¬ AllAnswer output evaluators) :
    ∀ combined, ∃ e, evaluateEach output evaluators combined = .error e := by
  induction evaluators with
  | nil => exact absurd (fun _ he => (List.not_mem_nil he).elim) h
  | cons evaluator evaluators ih =>
      intro combined
      rw [evaluateEach]
      cases hresult : evaluator.evaluate output with
      | error e => exact ⟨e, rfl⟩
      | ok result =>
          apply ih
          intro hrest
          apply h
          intro e he
          rcases List.mem_cons.mp he with rfl | he
          · exact ⟨result, hresult⟩
          · exact hrest e he

/-! #### The three fields -/

theorem mergedInto_success (evaluators : List (Evaluator Ω)) : ∀ combined,
    (mergedInto output combined evaluators).success
      = (combined.success && evaluators.all fun e => (e.verdict output).success) := by
  induction evaluators with
  | nil =>
      intro combined
      exact (Bool.and_true _).symm
  | cons evaluator evaluators ih =>
      intro combined
      rw [List.all_cons, ← Bool.and_assoc]
      exact ih _

theorem mergedInto_score (evaluators : List (Evaluator Ω)) : ∀ combined,
    (mergedInto output combined evaluators).score
      = (evaluators.map fun e => (e.verdict output).score).foldl (mergeOption halve)
          combined.score := by
  induction evaluators with
  | nil =>
      intro combined
      rfl
  | cons evaluator evaluators ih =>
      intro combined
      exact ih _

theorem mergedInto_securityScore (evaluators : List (Evaluator Ω)) : ∀ combined,
    (mergedInto output combined evaluators).securityScore
      = (evaluators.map fun e => (e.verdict output).securityScore).foldl (mergeOption min)
          combined.securityScore := by
  induction evaluators with
  | nil =>
      intro combined
      rfl
  | cons evaluator evaluators ih =>
      intro combined
      exact ih _

/-- The security score of the output, where it has one, is the one that is reported. -/
theorem assessed_fields (combined : EvaluationResult) (security : Option ℚ) :
    (combined.assessed security).success = combined.success ∧
      (combined.assessed security).score = combined.score ∧
      (combined.assessed security).securityScore
        = security.elim combined.securityScore some := by
  cases security with
  | none => exact ⟨rfl, rfl, rfl⟩
  | some q => exact ⟨rfl, rfl, rfl⟩

/-! ### The order of the evaluators -/

/-- The same verdict, score and security score. -/
structure SameScores (a b : EvaluationResult) : Prop where
  success : a.success = b.success
  score : a.score = b.score
  securityScore : a.securityScore = b.securityScore

/-- Both are answered with the same scores, or neither is answered. -/
def SameOutcome : Except PyError EvaluationResult → Except PyError EvaluationResult → Prop
  | .ok a, .ok b => SameScores a b
  | .error _, .error _ => True
  | _, _ => False

/-- The order of the evaluators does not matter, and the score is the mean. -/
structure OrderFree (evaluators : List (Evaluator Ω)) (output : AgentOutput Ω) : Prop where
  same : ∀ evaluators', evaluators'.Perm evaluators →
    SameOutcome (EvaluationEngine.evaluate metadataOf evaluators' output)
      (EvaluationEngine.evaluate metadataOf evaluators output)
  score : ∀ result, EvaluationEngine.evaluate metadataOf evaluators output = .ok result →
    result.score = mean (scores output evaluators)

/-- Neither an evaluator nor the security score of the output raises. -/
def EvaluationReturns (evaluators : List (Evaluator Ω)) (output : AgentOutput Ω) : Prop :=
  AllAnswer output evaluators ∧ ∃ security, extractSecurityScore metadataOf output = .ok security

variable {metadataOf}

/-- What the engine gives when nothing raises. -/
theorem evaluate_of_returns (h : EvaluationReturns metadataOf evaluators output) :
    ∃ result, EvaluationEngine.evaluate metadataOf evaluators output = .ok result ∧
      result.success = evaluators.all (fun e => (e.verdict output).success) ∧
      result.score = halved (scores output evaluators) ∧
      ∃ security, extractSecurityScore metadataOf output = .ok security ∧
        result.securityScore = security.elim
          ((evaluators.map fun e => (e.verdict output).securityScore).foldl (mergeOption min) none)
          some := by
  obtain ⟨hall, security, hsecurity⟩ := h
  refine ⟨(mergedInto output { success := true } evaluators).assessed security, ?_, ?_⟩
  · rw [EvaluationEngine.evaluate, evaluateEach_of_allAnswer hall, hsecurity]
    rfl
  · obtain ⟨hsuccess, hscore, hsec⟩ :=
      assessed_fields (mergedInto output { success := true } evaluators) security
    refine ⟨?_, ?_, security, hsecurity, ?_⟩
    · rw [hsuccess, mergedInto_success, Bool.true_and]
    · rw [hscore, mergedInto_score]
      exact foldl_mergeOption_halve _
    · rw [hsec, mergedInto_securityScore]

theorem evaluate_of_raises (h : ¬ EvaluationReturns metadataOf evaluators output) :
    ∃ e, EvaluationEngine.evaluate metadataOf evaluators output = .error e := by
  rw [EvaluationEngine.evaluate]
  by_cases hall : AllAnswer output evaluators
  · rw [evaluateEach_of_allAnswer hall]
    cases hsecurity : extractSecurityScore metadataOf output with
    | error e => exact ⟨e, rfl⟩
    | ok security => exact absurd ⟨hall, security, hsecurity⟩ h
  · obtain ⟨e, he⟩ := evaluateEach_of_raises hall { success := true }
    rw [he]
    exact ⟨e, rfl⟩

variable (output) in
/-- Whether all succeed, and the lowest security score, are the same in every order. -/
theorem all_min_perm (hperm : evaluators'.Perm evaluators) :
    evaluators'.all (fun e => (e.verdict output).success)
        = evaluators.all (fun e => (e.verdict output).success) ∧
      (evaluators'.map fun e => (e.verdict output).securityScore).foldl (mergeOption min) none
        = (evaluators.map fun e => (e.verdict output).securityScore).foldl (mergeOption min)
            none := by
  constructor
  · exact hperm.all_eq
  · exact (hperm.map _).foldl_eq' (fun x _ y _ z => mergeOption_min_right_comm z x y) none

/-- Two orders of the same evaluators differ in the score only. -/
theorem sameOutcome_iff (hperm : evaluators'.Perm evaluators)
    (h : EvaluationReturns metadataOf evaluators output) :
    SameOutcome (EvaluationEngine.evaluate metadataOf evaluators' output)
        (EvaluationEngine.evaluate metadataOf evaluators output) ↔
      halved (scores output evaluators') = halved (scores output evaluators) := by
  obtain ⟨result, hresult, hsuccess, hscore, security, hsec, hsecurity⟩ := evaluate_of_returns h
  obtain ⟨result', hresult', hsuccess', hscore', security', hsec', hsecurity'⟩ :=
    evaluate_of_returns
      (⟨h.1.perm hperm, h.2⟩ : EvaluationReturns metadataOf evaluators' output)
  obtain rfl : security' = security := Except.ok.inj (hsec'.symm.trans hsec)
  obtain ⟨hall, hmin⟩ := all_min_perm output hperm
  rw [hresult, hresult', ← hscore, ← hscore']
  constructor
  · intro hsame
    exact hsame.score
  · intro hequal
    exact ⟨by rw [hsuccess', hsuccess, hall], hequal, by rw [hsecurity', hsecurity, hmin]⟩

/-- An evaluator with a score, brought to the front. -/
theorem exists_perm_of_mem_scores {s : ℚ} (hs : s ∈ scores output evaluators) :
    ∃ evaluator rest, (evaluator.verdict output).score = some s ∧
      evaluators.Perm (evaluator :: rest) := by
  obtain ⟨value, hvalue, rfl⟩ := List.mem_filterMap.mp hs
  obtain ⟨evaluator, hmem, hscore⟩ := List.mem_map.mp hvalue
  obtain ⟨front, back, rfl⟩ := List.append_of_mem hmem
  exact ⟨evaluator, front ++ back, hscore, List.perm_middle⟩

theorem scores_cons {evaluator : Evaluator Ω} {s : ℚ} (rest : List (Evaluator Ω))
    (h : (evaluator.verdict output).score = some s) :
    scores output (evaluator :: rest) = s :: scores output rest := by
  rw [scores, List.map_cons, h]
  rfl

theorem scores_append (front back : List (Evaluator Ω)) :
    scores output (front ++ back) = scores output front ++ scores output back := by
  rw [scores, List.map_append, List.filterMap_append]
  rfl

/-- An order that does not count leaves the scores no choice. -/
theorem balanced_of_same
    (h : ∀ evaluators', evaluators'.Perm evaluators →
      halved (scores output evaluators') = halved (scores output evaluators)) :
    Balanced (scores output evaluators) := by
  by_contra hnot
  rw [Balanced, not_or] at hnot
  obtain ⟨hmany, hdiffer⟩ := hnot
  apply hdiffer
  intro s hs t ht
  by_contra hne
  -- the two evaluators, and a third one with a score among the rest
  obtain ⟨first, others, hfirst, hothers⟩ := exists_perm_of_mem_scores hs
  have ht' : t ∈ scores output others := by
    have hmem := (scores_perm output hothers).mem_iff.mp ht
    rw [scores_cons _ hfirst, List.mem_cons] at hmem
    exact hmem.resolve_left fun heq => hne heq.symm
  obtain ⟨second, rest, hsecond, hrest⟩ := exists_perm_of_mem_scores ht'
  have hperm : evaluators.Perm (first :: second :: rest) := hothers.trans (hrest.cons first)
  have hcount := (scores_perm output hperm).length_eq
  rw [scores_cons _ hfirst, scores_cons _ hsecond, List.length_cons, List.length_cons] at hcount
  have hrest : scores output rest ≠ [] := by
    intro hnil
    rw [hnil, List.length_nil] at hcount
    omega
  have hend : ∀ a b : Evaluator Ω, ([a, b] ++ rest).Perm (rest ++ [a, b]) :=
    fun a b => List.perm_append_comm
  apply hne
  apply eq_of_halved_swap hrest
  have hst := h _ ((hend first second).symm.trans hperm.symm)
  have hts := h _ ((hend second first).symm.trans ((List.Perm.swap _ _ _).trans hperm.symm))
  rw [scores_append, scores_cons _ hfirst, scores_cons _ hsecond] at hst
  rw [scores_append, scores_cons _ hsecond, scores_cons _ hfirst] at hts
  exact hst.trans hts.symm

/-- **When the order does not count.**  The success, the score and the security score are the
same in every order of the evaluators, and the score is the mean, exactly when the evaluation
raises, when at most two evaluators have a score, or when all of them have the same one. -/
theorem orderFree_iff (evaluators : List (Evaluator Ω)) (output : AgentOutput Ω) :
    OrderFree metadataOf evaluators output ↔
      (EvaluationReturns metadataOf evaluators output → Balanced (scores output evaluators)) := by
  constructor
  · intro hfree hreturns
    apply balanced_of_same
    intro evaluators' hperm
    exact (sameOutcome_iff hperm hreturns).mp (hfree.same evaluators' hperm)
  · intro hbalanced
    by_cases hreturns : EvaluationReturns metadataOf evaluators output
    · have hb := hbalanced hreturns
      constructor
      · intro evaluators' hperm
        apply (sameOutcome_iff hperm hreturns).mpr
        have hscores := scores_perm output hperm
        rw [halved_eq_mean (hb.perm hscores.symm), halved_eq_mean hb, mean_perm hscores]
      · intro result hresult
        obtain ⟨result', hresult', -, hscore, -⟩ := evaluate_of_returns hreturns
        obtain rfl : result' = result := Except.ok.inj (hresult'.symm.trans hresult)
        rw [hscore, halved_eq_mean hb]
    · obtain ⟨e, he⟩ := evaluate_of_raises hreturns
      constructor
      · intro evaluators' hperm
        have hraises' : ¬ EvaluationReturns metadataOf evaluators' output :=
          fun h => hreturns ⟨h.1.perm hperm.symm, h.2⟩
        obtain ⟨e', he'⟩ := evaluate_of_raises hraises'
        rw [he, he']
        exact trivial
      · intro result hresult
        rw [he] at hresult
        cases hresult

end Engine

/-! #### Three evaluators -/

/-- An evaluator with a fixed score. -/
def scoring (name : String) (score : ℚ) : Evaluator Unit where
  name := name
  evaluate := fun _ => .ok { success := true, score := some score }

def threeEvaluators : List (Evaluator Unit) :=
  [scoring "rule" 1, scoring "judge" 0, scoring "regression" 0]

/-- The scores 1, 0 and 0 have the mean 1/3; merged from the left they give 1/4. -/
theorem not_orderFree_three :
    (threeEvaluators.map Evaluator.name).Nodup ∧
      ¬ OrderFree (fun _ => none) threeEvaluators .none := by
  constructor
  · decide +kernel
  · intro hfree
    have hresult : (EvaluationEngine.evaluate (fun _ => none) threeEvaluators
        AgentOutput.none).map EvaluationResult.score = .ok (some (1 / 4)) := by decide +kernel
    have hmean : mean (scores AgentOutput.none threeEvaluators) = some (1 / 3) := by
      decide +kernel
    cases heval : EvaluationEngine.evaluate (fun _ => none) threeEvaluators AgentOutput.none with
    | error e =>
        rw [heval] at hresult
        cases hresult
    | ok result =>
        rw [heval] at hresult
        have hscore := hfree.score result heval
        rw [Except.ok.inj hresult, hmean] at hscore
        norm_num at hscore

end ChaosDemo
