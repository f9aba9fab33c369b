/-
ChaosDemo/ScoreLoop.lean

The loop of `ScoreEvaluator.evaluate` (ai_platform/evaluation/evaluator.py) without a judge.
It is the loop over outcomes that do not depend on each other,

    tally cases {}  =  (outcomes of the cases).foldl add {}  =  Tally.of outcomes,

where each variable of `Tally.of` is written by itself, as a count, a list or a table of the
outcomes.  An outcome has a review of its own for each thing that is wrong with its case.
-/
import ChaosDemo.Guards
import ChaosDemo.ScoreEvaluator
import ChaosDemo.Tables

namespace ChaosDemo

/-! ### The outcome of a case -/

/-- The entries for the review pool: one with the reason if something is wrong, else none. -/
def Reviews (case : Dict) (wrong : Bool) (reason : String) (items : List Dict) : Prop :=
  if wrong then
    ∃ item, items = [item] ∧ case.item "id" = .ok (item.get "id") ∧
      item.get "reason" = .str reason
  else items = []

/-- The reason for the review of a response with findings. -/
def findingsReason : List FabricationFinding → String
  | [] => ""
  | f :: _ => "hallucination:" ++ f.kind

section Reviews

variable {case : Dict} {items : List Dict}

theorem reviewItem_ids {reason : String} {fields : List String} {item : Dict}
    (h : reviewItem case reason fields = .ok item) :
    case.item "id" = .ok (item.get "id") ∧ item.get "reason" = .str reason := by
  simp only [reviewItem, bind_eq_ok_iff] at h
  obtain ⟨id, hid, rest, -, hitem⟩ := h
  obtain rfl := Except.ok.inj hitem
  exact ⟨hid, rfl⟩

theorem findingsReview_reviews {findings : List FabricationFinding}
    (h : findingsReview case findings = .ok items) :
    Reviews case (!findings.isEmpty) (findingsReason findings) items := by
  cases findings with
  | nil => exact (Except.ok.inj h).symm
  | cons f findings =>
      obtain ⟨item, hitem, h⟩ := bind_eq_ok_iff.mp h
      obtain rfl := Except.ok.inj h
      simp only [reviewItem, bind_eq_ok_iff] at hitem
      obtain ⟨id, hid, rest, -, hitem⟩ := hitem
      obtain rfl := Except.ok.inj hitem
      exact ⟨_, rfl, hid, rfl⟩

theorem plannerReview_reviews (h : plannerReview case = .ok items) :
    Reviews case (plannerInvalid case) "planner_invalid_or_fallback" items := by
  unfold plannerReview at h
  unfold Reviews
  split at h
  · next hwrong =>
      obtain ⟨item, hitem, h⟩ := bind_eq_ok_iff.mp h
      obtain rfl := Except.ok.inj h
      rw [if_pos hwrong]
      exact ⟨item, rfl, reviewItem_ids hitem⟩
  · next hwrong =>
      rw [if_neg hwrong]
      exact (Except.ok.inj h).symm

theorem toolMatch_le (expectedTools calledTools : Json) :
    toolMatch expectedTools calledTools ≤ 1 := by
  unfold toolMatch
  split_ifs
  · exact le_rfl
  · exact Nat.zero_le 1

/-- A case that does not pass the rules is one for review. -/
theorem ruleReview_reviews {r : CaseReading} (hscore : r.toolScore ≤ 1)
    (h : ruleReview r = .ok items) : Reviews r.case (!r.rulePass) "rule_mismatch" items := by
  have hiff : (!r.rulePass) = true ↔ r.toolScore = 0 ∨ r.argScore < 4 / 5 := by
    rw [Bool.not_eq_true', Bool.eq_false_iff, CaseReading.rulePass, ne_eq, decide_eq_true_iff,
      not_and_or, not_le]
    refine or_congr ?_ Iff.rfl
    omega
  unfold ruleReview at h
  unfold Reviews
  split at h
  · next hwrong =>
      obtain ⟨item, hitem, h⟩ := bind_eq_ok_iff.mp h
      obtain rfl := Except.ok.inj h
      rw [if_pos (hiff.mpr hwrong)]
      exact ⟨item, rfl, reviewItem_ids hitem⟩
  · next hwrong =>
      rw [if_neg (mt hiff.mp hwrong)]
      exact (Except.ok.inj h).symm

theorem permissionCheck_reviews {ok : Bool} (h : permissionCheck case = .ok (ok, items)) :
    Reviews case (!ok) "permission_boundary_mismatch" items := by
  unfold permissionCheck at h
  obtain ⟨expected, -, h⟩ := bind_eq_ok_iff.mp h
  obtain ⟨actual, -, h⟩ := bind_eq_ok_iff.mp h
  split at h
  · cases h
    rfl
  · simp only [bind_eq_ok_iff] at h
    obtain ⟨id, hid, input, -, expectedNames, -, actualNames, -, response, -, h⟩ := h
    cases h
    exact ⟨_, rfl, hid, rfl⟩

end Reviews

section Entries

variable {case : Dict} {items : List Dict} {wrong : Bool} {reason : String}

theorem Reviews.mem (h : Reviews case wrong reason items) {item : Dict} (hitem : item ∈ items) :
    case.item "id" = .ok (item.get "id") ∧ item.get "reason" = .str reason := by
  unfold Reviews at h
  cases wrong with
  | false =>
      obtain rfl : items = [] := h
      cases hitem
  | true =>
      obtain ⟨entry, rfl, hentry⟩ := h
      rwa [List.mem_singleton.mp hitem]

theorem Reviews.pairwise (h : Reviews case wrong reason items) {R : Dict → Dict → Prop} :
    items.Pairwise R := by
  unfold Reviews at h
  cases wrong with
  | false =>
      obtain rfl : items = [] := h
      exact List.Pairwise.nil
  | true =>
      obtain ⟨entry, rfl, -⟩ := h
      exact List.pairwise_singleton R entry

theorem Reviews.ne_nil (h : Reviews case wrong reason items) (hwrong : wrong = true) :
    items ≠ [] := by
  subst hwrong
  obtain ⟨entry, rfl, -⟩ := h
  exact List.cons_ne_nil entry []

end Entries

/-- What the outcome of a case is without a judge. -/
structure Scored (v : Json) (o : CaseOutcome) : Prop where
  case : v = .obj o.reading.case
  id : o.reading.case.item "id" = .ok o.id
  judged : o.judged = ⟨none, [], 0⟩
  planner : o.plannerInvalid = plannerInvalid o.reading.case
  review : ∃ findings planner rule permission,
    o.review = findings ++ planner ++ rule ++ permission ∧
    Reviews o.reading.case (!o.findings.isEmpty) (findingsReason o.findings) findings ∧
    Reviews o.reading.case o.plannerInvalid "planner_invalid_or_fallback" planner ∧
    Reviews o.reading.case (!o.reading.rulePass) "rule_mismatch" rule ∧
    Reviews o.reading.case (o.permissionOk == some false) "permission_boundary_mismatch" permission

section Review

variable {v : Json} {o : CaseOutcome}

/-- The reason for findings is no other reason. -/
theorem findingsReason_ne {findings : List FabricationFinding} {reason : String}
    (h : reason.toList.head? ≠ none) (hh : reason.toList.head? ≠ some 'h') :
    findingsReason findings ≠ reason := by
  rintro rfl
  cases findings with
  | nil => exact h rfl
  | cons f findings => exact hh (by simp [findingsReason])

namespace Scored

/-- A review names the case that it is for, and why. -/
theorem mem_review (h : Scored v o) {item : Dict} (hitem : item ∈ o.review) :
    item.get "id" = o.id ∧ ∃ reason, item.get "reason" = .str reason := by
  obtain ⟨findings, planner, rule, permission, hreview, hf, hp, hr, hc⟩ := h.review
  have hmem : ∃ wrong reason items, Reviews o.reading.case wrong reason items ∧ item ∈ items := by
    rw [hreview] at hitem
    simp only [List.mem_append] at hitem
    rcases hitem with ((hitem | hitem) | hitem) | hitem
    · exact ⟨_, _, _, hf, hitem⟩
    · exact ⟨_, _, _, hp, hitem⟩
    · exact ⟨_, _, _, hr, hitem⟩
    · exact ⟨_, _, _, hc, hitem⟩
  obtain ⟨wrong, reason, items, hreviews, hitem⟩ := hmem
  obtain ⟨hid, hreason⟩ := hreviews.mem hitem
  exact ⟨Except.ok.inj (hid.symm.trans h.id), reason, hreason⟩

/-- The reviews of one case have reasons of their own. -/
theorem review_reasons (h : Scored v o) :
    o.review.Pairwise fun a b => (a.get "reason").pyEq (b.get "reason") = false := by
  obtain ⟨findings, planner, rule, permission, hreview, hf, hp, hr, hc⟩ := h.review
  have hne : ∀ {s t : String} {a b : Dict}, a.get "reason" = .str s → b.get "reason" = .str t →
      s ≠ t → (a.get "reason").pyEq (b.get "reason") = false := by
    intro s t a b ha hb hst
    rw [ha, hb, Json.pyEq]
    exact beq_eq_false_iff_ne.mpr hst
  rw [hreview]
  simp only [List.pairwise_append, List.mem_append]
  refine ⟨⟨⟨hf.pairwise, hp.pairwise, ?_⟩, hr.pairwise, ?_⟩, hc.pairwise, ?_⟩
  · intro a ha b hb
    exact hne (hf.mem ha).2 (hp.mem hb).2 (findingsReason_ne (by decide) (by decide))
  · rintro a (ha | ha) b hb
    · exact hne (hf.mem ha).2 (hr.mem hb).2 (findingsReason_ne (by decide) (by decide))
    · exact hne (hp.mem ha).2 (hr.mem hb).2 (by decide)
  · rintro a ((ha | ha) | ha) b hb
    · exact hne (hf.mem ha).2 (hc.mem hb).2 (findingsReason_ne (by decide) (by decide))
    · exact hne (hp.mem ha).2 (hc.mem hb).2 (by decide)
    · exact hne (hr.mem ha).2 (hc.mem hb).2 (by decide)

/-- A case with anything wrong is reviewed. -/
theorem review_ne_nil (h : Scored v o) (hwrong : o.reading.rulePass = false ∨
    o.findings.isEmpty = false ∨ o.permissionOk = some false ∨ o.plannerInvalid = true) :
    o.review ≠ [] := by
  obtain ⟨findings, planner, rule, permission, hreview, hf, hp, hr, hc⟩ := h.review
  rw [hreview]
  simp only [ne_eq, List.append_eq_nil_iff, not_and_or]
  rcases hwrong with hwrong | hwrong | hwrong | hwrong
  · exact .inl (.inr (hr.ne_nil (by rw [hwrong]; rfl)))
  · exact .inl (.inl (.inl (hf.ne_nil (by rw [hwrong]; rfl))))
  · exact .inr (hc.ne_nil (by rw [hwrong]; rfl))
  · exact .inl (.inl (.inr (hp.ne_nil hwrong)))

end Scored

end Review

section Outcome

variable {self : ScoreEvaluator} {env : ScoreEnv}

/-- Nothing is asked and no number is drawn. -/
theorem ScoreEvaluator.judgeCase_skip (hskip : self.skipJudge = true) (case : Dict) (draws : ℕ) :
    self.judgeCase env case draws = .ok ⟨none, [], draws⟩ := by
  unfold ScoreEvaluator.judgeCase
  cases self.judgeEvaluator with
  | none => rfl
  | some judge => exact if_pos (.inl hskip)

theorem CaseReading.read_spec {v : Json} {r : CaseReading} (h : CaseReading.read v = .ok r) :
    v = .obj r.case ∧ r.toolScore ≤ 1 ∧ r.retryCount.numeric = .ok r.retries := by
  simp only [CaseReading.read, bind_eq_ok_iff] at h
  obtain ⟨case, hcase, expectedTools, -, calledTools, -, expectedArgs, -, calledArgs, -, argScore,
    -, retryCount, -, toolCalls, -, tokens, -, retries, hretries, hr⟩ := h
  obtain rfl := Except.ok.inj hr
  refine ⟨?_, toolMatch_le _ _, hretries⟩
  cases v with
  | obj fields => exact congrArg Json.obj (Except.ok.inj hcase)
  | null => cases hcase
  | bool b => cases hcase
  | int i => cases hcase
  | num q => cases hcase
  | str s => cases hcase
  | arr items => cases hcase

theorem ScoreEvaluator.outcome_scored (hskip : self.skipJudge = true) {v : Json}
    {o : CaseOutcome} (h : self.outcome env 0 v = .ok o) : Scored v o := by
  unfold ScoreEvaluator.outcome at h
  obtain ⟨reading, hreading, h⟩ := bind_eq_ok_iff.mp h
  obtain ⟨findings, -, h⟩ := bind_eq_ok_iff.mp h
  obtain ⟨findingsItems, hfindings, h⟩ := bind_eq_ok_iff.mp h
  obtain ⟨offline, -, h⟩ := bind_eq_ok_iff.mp h
  obtain ⟨judged, hjudged, h⟩ := bind_eq_ok_iff.mp h
  obtain ⟨planner, hplanner, h⟩ := bind_eq_ok_iff.mp h
  obtain ⟨rule, hrule, h⟩ := bind_eq_ok_iff.mp h
  obtain ⟨dimension, -, h⟩ := bind_eq_ok_iff.mp h
  rw [judgeCase_skip hskip] at hjudged
  obtain rfl := Except.ok.inj hjudged
  obtain ⟨hcase, hscore, -⟩ := CaseReading.read_spec hreading
  have hreviews := And.intro (findingsReview_reviews hfindings)
    (And.intro (plannerReview_reviews hplanner) (ruleReview_reviews hscore hrule))
  dsimp only at h
  split at h
  · obtain ⟨⟨ok, permission⟩, hpermission, h⟩ := bind_eq_ok_iff.mp h
    obtain ⟨id, hid, ho⟩ := bind_eq_ok_iff.mp h
    obtain rfl := Except.ok.inj ho
    refine ⟨hcase, hid, rfl, rfl, findingsItems, planner, rule, permission,
      congrArg (· ++ planner ++ rule ++ permission) (List.append_nil findingsItems),
      hreviews.1, hreviews.2.1, hreviews.2.2, ?_⟩
    cases hcheck : permissionCheck reading.case with
    | error e =>
        rw [hcheck] at hpermission
        cases hpermission
    | ok checked =>
        rw [hcheck] at hpermission
        obtain ⟨rfl, rfl⟩ := Prod.mk.inj (Except.ok.inj hpermission)
        have hwrong : (some checked.1 == some false) = !checked.1 := by
          cases checked.1 with
          | false => rfl
          | true => rfl
        rw [hwrong]
        exact permissionCheck_reviews hcheck
  · obtain ⟨⟨ok, permission⟩, hpermission, h⟩ := bind_eq_ok_iff.mp h
    obtain ⟨id, hid, ho⟩ := bind_eq_ok_iff.mp h
    obtain rfl := Except.ok.inj ho
    obtain ⟨rfl, rfl⟩ := Prod.mk.inj (Except.ok.inj hpermission)
    exact ⟨hcase, hid, rfl, rfl, findingsItems, planner, rule, [],
      congrArg (· ++ planner ++ rule ++ []) (List.append_nil findingsItems),
      hreviews.1, hreviews.2.1, hreviews.2.2, rfl⟩

/-- The loop goes through outcomes that do not depend on each other. -/
theorem ScoreEvaluator.tally_eq_ok_iff (hskip : self.skipJudge = true) {cases : List Json} :
    ∀ {t t' : Tally}, t.draws = 0 → (self.tally env cases t = .ok t' ↔
      ∃ os, List.Forall₂ (fun v o => self.outcome env 0 v = .ok o) cases os ∧
        t' = os.foldl Tally.add t) := by
  induction cases with
  | nil =>
      intro t t' _
      simp only [ScoreEvaluator.tally, Except.ok.injEq, List.forall₂_nil_left_iff,
        exists_eq_left, List.foldl_nil]
      exact eq_comm
  | cons v cases ih =>
      intro t t' ht
      rw [ScoreEvaluator.tally, bind_eq_ok_iff, ht]
      have hnext : ∀ {o}, self.outcome env 0 v = .ok o → (t.add o).draws = 0 := fun ho =>
        congrArg JudgeOutcome.draws (outcome_scored hskip ho).judged
      constructor
      · rintro ⟨o, ho, hrest⟩
        obtain ⟨os, hos, rfl⟩ := (ih (hnext ho)).mp hrest
        exact ⟨o :: os, .cons ho hos, rfl⟩
      · rintro ⟨os, hos, rfl⟩
        cases hos with
        | cons ho hos => exact ⟨_, ho, (ih (hnext ho)).mpr ⟨_, hos, rfl⟩⟩

end Outcome

/-! ### The variables of the loop -/

/-- The variables after these outcomes, each by itself. -/
def Tally.of (os : List CaseOutcome) : Tally where
  toolScores := os.map fun o => (o.reading.toolScore : ℚ)
  argScores := os.map (·.reading.argScore)
  retries := os.map (·.reading.retries)
  callCounts := os.map (·.reading.toolCalls)
  tokens := os.map (·.reading.tokens)
  tokensEstimated := os.map (·.reading.tokensEstimated)
  tokensLlm := os.flatMap (·.reading.tokensLlm.toList)
  taskSuccess := os.countP (·.reading.rulePass)
  hallucinationFlags := os.countP (!·.findings.isEmpty)
  hallucinationFindingCount := (os.map (·.findings.length)).sum
  hallucinationKinds := Table.tabulate 0 FabricationFinding.kind (fun n _ => n + 1)
    (os.flatMap (·.findings))
  offlineFallbackCases := os.countP (·.offlineFallback)
  judgeChecked := os.countP (·.judged.status.isSome)
  judgePass := os.countP (·.judged.status == some "PASS")
  plannerInvalidCount := os.countP (·.plannerInvalid)
  reviewPool := os.flatMap (·.review)
  tokensRulePass := (os.filter (·.reading.rulePass)).map (·.reading.tokens)
  tokensRuleFail := (os.filter (!·.reading.rulePass)).map (·.reading.tokens)
  tokensWithRetry := (os.filter fun o => 0 < o.reading.retries).map (·.reading.tokens)
  tokensNoRetry := (os.filter fun o => o.reading.retries ≤ 0).map (·.reading.tokens)
  dimensionStats := Table.tabulate {} CaseOutcome.dimension DimensionStats.add os
  permissionCorrect := os.countP (·.permissionOk == some true)
  permissionCaseCount := os.countP (·.permissionOk.isSome)
  caseScores := os.map CaseOutcome.scores
  draws := (os.getLast?.map (·.judged.draws)).getD 0

section Variables

variable {α β : Type}

theorem countP_add_oneIf (p : α → Bool) (l : List α) (x : α) :
    l.countP p + oneIf (p x) = (l ++ [x]).countP p := by
  rw [List.countP_append, List.countP_singleton]
  rfl

theorem appendIf_filter (p : α → Bool) (f : α → β) (l : List α) (x : α) :
    appendIf (p x) ((l.filter p).map f) (f x) = ((l ++ [x]).filter p).map f := by
  rw [appendIf, List.filter_append, List.map_append]
  cases h : p x with
  | true => simp [h]
  | false => simp [h]

theorem updateStats_eq (dimension : String) (f : DimensionStats → DimensionStats)
    (stats : List (String × DimensionStats)) :
    updateStats stats dimension f = Table.upsert {} dimension f stats := by
  induction stats with
  | nil => rfl
  | cons s stats ih => rw [updateStats, Table.upsert, ih]

/-- A count goes up where the kind is, or one begins. -/
theorem countKind_eq (kind : String) {counts : List (String × ℕ)}
    (h : (Table.keys counts).Nodup) :
    (if counts.any (·.1 == kind) then
      counts.map fun c => if c.1 = kind then (c.1, c.2 + 1) else c
    else counts ++ [(kind, 1)]) = Table.upsert 0 kind (· + 1) counts := by
  induction counts with
  | nil => rfl
  | cons c counts ih =>
      obtain ⟨hc, hnodup⟩ := List.nodup_cons.mp h
      by_cases hk : c.1 = kind
      · have hothers : (counts.map fun d => if d.1 = kind then (d.1, d.2 + 1) else d) = counts := by
          refine (List.map_congr_left fun d hd => if_neg ?_).trans (List.map_id counts)
          rintro rfl
          exact hc (hk ▸ List.mem_map_of_mem hd)
        rw [Table.upsert_of_eq hk, if_pos (by simp [hk]), List.map_cons, if_pos hk, hothers]
      · rw [Table.upsert_of_ne hk, ← ih hnodup, List.any_cons, beq_eq_false_iff_ne.mpr hk,
          Bool.false_or]
        by_cases hany : (counts.any (·.1 == kind)) = true
        · rw [if_pos hany, if_pos hany, List.map_cons, if_neg hk]
        · rw [if_neg hany, if_neg hany]
          rfl

theorem summarizeFindings_tabulate (earlier findings : List FabricationFinding) :
    summarizeFindings (Table.tabulate 0 FabricationFinding.kind (fun n _ => n + 1) earlier)
      findings =
      Table.tabulate 0 FabricationFinding.kind (fun n _ => n + 1) (earlier ++ findings) := by
  induction findings generalizing earlier with
  | nil => rw [List.append_nil]; rfl
  | cons f findings ih =>
      have hnext := ih (earlier ++ [f])
      rw [List.append_assoc, List.singleton_append, Table.tabulate_concat,
        ← countKind_eq f.kind (Table.nodup_keys_tabulate earlier)] at hnext
      exact hnext

end Variables

theorem Tally.of_concat (os : List CaseOutcome) (o : CaseOutcome) :
    (Tally.of os).add o = Tally.of (os ++ [o]) := by
  have hpass := appendIf_filter (·.reading.rulePass) (·.reading.tokens) os o
  have hfail := appendIf_filter (!·.reading.rulePass) (·.reading.tokens) os o
  have hretry := appendIf_filter (fun o => decide (0 < o.reading.retries)) (·.reading.tokens) os o
  have hnone := appendIf_filter (fun o => decide (o.reading.retries ≤ 0)) (·.reading.tokens) os o
  simp only [Tally.add, Tally.of, Tally.mk.injEq, List.map_append, List.flatMap_append,
    countP_add_oneIf, List.map_singleton, List.flatMap_singleton, summarizeFindings_tabulate,
    Table.tabulate_concat, updateStats_eq, List.sum_append, List.sum_singleton,
    List.getLast?_concat, hpass, hfail, hretry, hnone, true_and]
  rfl

theorem Tally.foldl_add (os : List CaseOutcome) : os.foldl Tally.add {} = Tally.of os := by
  induction os using List.reverseRecOn with
  | nil => rfl
  | append_singleton os o ih =>
      rw [List.foldl_concat, ih, Tally.of_concat]

end ChaosDemo
