/-
ChaosDemo/JudgeBias.lean

The position bias of a judge (agent-eval/scripts/judge_bias.py).  A judge compares two
answers by their positions.  Each pair is put to it in both orders, and the two verdicts
are brought back from positions to answers:

    order 1   (A, B)    first ↦ a    second ↦ b
    order 2   (B, A)    first ↦ b    second ↦ a

A judge is any function into the four verdicts that may remember what it was asked before;
the model behind `judge_once` is one.  For a judge that does not see the order the two
sides of a pair are one, so it never flips, wins half of its judgments in the first
position and has one accuracy.  For a judge that always answers `first` the sides always
differ.
-/
import ChaosDemo.Builtins
import Mathlib.Algebra.Order.Field.Rat

namespace ChaosDemo.JudgeBias

/-! ### Verdicts -/

/-- What a judge answers: a position, a tie, or nothing that can be read. -/
inductive Verdict
  | first
  | second
  | tie
  | invalid
deriving DecidableEq

/-- The answer that a verdict is for. -/
inductive Side
  | a
  | b
  | tie
deriving DecidableEq

/-- The text of a side, which a reference is compared with. -/
def Side.text : Side → String
  | .a => "a"
  | .b => "b"
  | .tie => "tie"

/-- A judge, of a question and the answers in the first and in the second position. -/
abbrev JudgeFn (σ : Type) := String → String → String → StateM σ Verdict

/-- `parse_verdict`, over `str.lower`. -/
def parseVerdict (lower : String → String) (parsed : Json) : Verdict :=
  match parsed with
  | .obj fields =>
      let raw := lower (pyStrip (Dict.getD fields "winner" (.str "")).pyStr)
      if raw ∈ ["1", "first", "回答1"] then .first
      else if raw ∈ ["2", "second", "回答2"] then .second
      else if raw ∈ ["tie", "draw", "平局"] then .tie
      else .invalid
  | _ => .invalid

/-- `build_judge_prompt`. -/
def buildJudgePrompt (question first second : String) : String :=
  "请比较下面两个回答的质量，选出更好的一个。\n\n问题：" ++ question ++ "\n\n回答1：\n" ++ first ++
    "\n\n回答2：\n" ++ second ++
    "\n\n评分标准：事实正确性、对问题的直接回应程度、可操作性（是否给出可执行结论）。\n" ++
    "只输出 JSON：\x7b\"winner\": \"1\" 或 \"2\" 或 \"tie\", \"reason\": \"一句话理由\"\x7d"

/-- `judge_once`, over the gateway: the parsed answer to a prompt, or that it raises. -/
def judgeOnce {σ : Type} (lower : String → String)
    (generate : String → StateM σ (Except PyError Json)) : JudgeFn σ :=
  fun question first second => do
    match ← generate (buildJudgePrompt question first second) with
    | .ok parsed => pure (parseVerdict lower parsed)
    | .error _ => pure .invalid

/-- `stub_judge`. -/
def stubJudge {σ : Type} : JudgeFn σ := fun _ first second =>
  if (pyStrip first).length = (pyStrip second).length then pure .tie
  else if (pyStrip second).length < (pyStrip first).length then pure .first
  else pure .second

/-- `verdict_to_side`. -/
def verdictToSide (verdict : Verdict) (swapped : Bool) : Option Side :=
  match verdict with
  | .tie => some .tie
  | .first => some (if swapped then .b else .a)
  | .second => some (if swapped then .a else .b)
  | .invalid => none

/-! ### Pairs -/

/-- A pair of answers. -/
structure Pair where
  id : Json
  question : String
  answerA : String
  answerB : String
  referenceWinner : Json := .null
  note : Json := .str ""

/-- What is recorded of a pair. -/
structure PairRecord where
  id : Json
  referenceWinner : Json
  note : Json
  order1Verdict : Verdict
  order2Verdict : Verdict
  order1Side : Option Side
  order2Side : Option Side

/-- The record of a pair with two verdicts. -/
def Pair.record (case : Pair) (v1 v2 : Verdict) : PairRecord where
  id := case.id
  referenceWinner := case.referenceWinner
  note := case.note
  order1Verdict := v1
  order2Verdict := v2
  order1Side := verdictToSide v1 false
  order2Side := verdictToSide v2 true

/-- `run_pair`. -/
def runPair {σ : Type} (judgeFn : JudgeFn σ) (case : Pair) : StateM σ PairRecord := do
  let v1 ← judgeFn case.question case.answerA case.answerB
  let v2 ← judgeFn case.question case.answerB case.answerA
  pure (case.record v1 v2)

/-- The records of one round over the pairs. -/
def runPairs {σ : Type} (judgeFn : JudgeFn σ) : List Pair → StateM σ (List PairRecord)
  | [] => pure []
  | case :: cases => do
      let r ← runPair judgeFn case
      let records ← runPairs judgeFn cases
      pure (r :: records)

/-! ### The summary -/

/-- Both orders have a side. -/
def PairRecord.usable (r : PairRecord) : Bool := r.order1Side.isSome && r.order2Side.isSome

/-- How often the first position was judged better, and how often it was judged at all. -/
structure Positions where
  wins : ℕ := 0
  total : ℕ := 0

/-- One turn of the loop of `summarize`: first is A in order 1 and B in order 2. -/
def Positions.add (p : Positions) (r : PairRecord) : Positions :=
  let p : Positions :=
    if r.order1Side = some .a ∨ r.order1Side = some .b then
      ⟨p.wins + (if r.order1Side = some .a then 1 else 0), p.total + 1⟩
    else p
  if r.order2Side = some .a ∨ r.order2Side = some .b then
    ⟨p.wins + (if r.order2Side = some .b then 1 else 0), p.total + 1⟩
  else p

/-- A quotient that is `None` without a denominator. -/
def rate (n d : ℕ) : Option ℚ := if d = 0 then none else some (n / d)

/-- `reference_winner in ("a", "b")`. -/
def PairRecord.labeled (r : PairRecord) : Bool :=
  r.referenceWinner == .str "a" || r.referenceWinner == .str "b"

/-- `_ref_acc`, of the sides in one order. -/
def refAcc (side : PairRecord → Option Side) (usable : List PairRecord) : Option ℚ :=
  let labeled := usable.filter PairRecord.labeled
  rate (labeled.countP fun r => (side r).any fun s => Json.str s.text == r.referenceWinner)
    labeled.length

/-- The rates of a summary, and the counts behind them. -/
structure Rates where
  flipCount : ℕ
  flipRate : Option ℚ
  firstPositionWinCount : ℕ
  firstPositionJudgmentCount : ℕ
  firstPositionWinRate : Option ℚ
  tieCount : ℕ
  referenceAccuracyOrder1 : Option ℚ
  referenceAccuracyOrder2 : Option ℚ

structure Summary extends Rates where
  totalPairs : ℕ
  usablePairs : ℕ
  invalidPairs : ℕ

/-- `summarize`. -/
def summarize (records : List PairRecord) : Summary :=
  let total := records.length
  let usable := records.filter PairRecord.usable
  let flips := usable.countP fun r => r.order1Side ≠ r.order2Side
  let positions := usable.foldl Positions.add {}
  { totalPairs := total
    usablePairs := usable.length
    invalidPairs := total - usable.length
    flipCount := flips
    flipRate := rate flips usable.length
    firstPositionWinCount := positions.wins
    firstPositionJudgmentCount := positions.total
    firstPositionWinRate := rate positions.wins positions.total
    tieCount := usable.countP fun r => r.order1Verdict = .tie
    referenceAccuracyOrder1 := refAcc PairRecord.order1Side usable
    referenceAccuracyOrder2 := refAcc PairRecord.order2Side usable }

/-! ### Judges -/

/-- The verdict on the answers in the other order. -/
def Verdict.swap : Verdict → Verdict
  | .first => .second
  | .second => .first
  | .tie => .tie
  | .invalid => .invalid

variable {σ : Type}

/-- Swapping the answers swaps `first` and `second`, whatever was asked before. -/
def PositionSymmetric (judgeFn : JudgeFn σ) : Prop :=
  ∀ question first second s s',
    (judgeFn question second first s').1 = ((judgeFn question first second s).1).swap

def AlwaysFirst (judgeFn : JudgeFn σ) : Prop :=
  ∀ question first second s, (judgeFn question first second s).1 = .first

/-- The longer answer is the longer one in both orders. -/
theorem positionSymmetric_stubJudge : PositionSymmetric (stubJudge : JudgeFn σ) := by
  intro question first second s s'
  rw [stubJudge, stubJudge]
  rcases lt_trichotomy (pyStrip first).length (pyStrip second).length with h | h | h
  · rw [if_neg h.ne, if_neg h.ne', if_pos h, if_neg h.not_gt]
    rfl
  · rw [if_pos h, if_pos h.symm]
    rfl
  · rw [if_neg h.ne, if_neg h.ne', if_pos h, if_neg h.not_gt]
    rfl

/-- The two sides of a pair agree when one verdict is the other one swapped. -/
theorem verdictToSide_swap (v : Verdict) : verdictToSide v.swap true = verdictToSide v false := by
  cases v <;> rfl

/-- Each record is that of a pair, with what the judge has said in some states. -/
theorem mem_runPairs {judgeFn : JudgeFn σ} {cases : List Pair} {r : PairRecord} :
    ∀ {s : σ}, r ∈ (runPairs judgeFn cases s).1 → ∃ case ∈ cases, ∃ s₁ s₂,
      r = case.record (judgeFn case.question case.answerA case.answerB s₁).1
        (judgeFn case.question case.answerB case.answerA s₂).1 := by
  induction cases with
  | nil =>
      intro s hr
      cases hr
  | cons case cases ih =>
      intro s hr
      rcases List.mem_cons.mp hr with rfl | hr
      · exact ⟨case, List.mem_cons_self, s, _, rfl⟩
      · obtain ⟨case', hcase, hrest⟩ := ih hr
        exact ⟨case', List.mem_cons_of_mem _ hcase, hrest⟩

theorem length_runPairs (judgeFn : JudgeFn σ) (cases : List Pair) :
    ∀ s, (runPairs judgeFn cases s).1.length = cases.length := by
  induction cases with
  | nil => exact fun s => rfl
  | cons case cases ih => exact fun s => congrArg Nat.succ (ih _)

/-! ### Calibration -/

section Records

variable {records : List PairRecord}

/-- What holds of every turn of the loop holds of the positions. -/
theorem foldl_add_keeps {I : Positions → Prop} (hstart : I {})
    (hstep : ∀ r ∈ records, ∀ p, I p → I (p.add r)) : I (records.foldl Positions.add {}) := by
  have hgen : ∀ l : List PairRecord, (∀ r ∈ l, r ∈ records) → ∀ p, I p →
      I (l.foldl Positions.add p) := by
    intro l
    induction l with
    | nil => exact fun _ p hp => hp
    | cons r l ih =>
        intro hl p hp
        apply ih fun r' hr' => hl r' (List.mem_cons_of_mem r hr')
        exact hstep r (hl r List.mem_cons_self) p hp
  exact hgen records (fun _ hr => hr) {} hstart

/-- A pair with one side for both orders wins one of its two judgments. -/
theorem half_add {r : PairRecord} (hr : r.order1Side = r.order2Side) {p : Positions}
    (hp : 2 * p.wins = p.total) : 2 * (p.add r).wins = (p.add r).total := by
  rw [Positions.add, hr]
  rcases r.order2Side with - | - | - | -
  · simpa using hp
  · simp
    omega
  · simp
    omega
  · simpa using hp

/-- A pair for which the first position is better in both orders wins both. -/
theorem all_add {r : PairRecord} (h1 : r.order1Side = some .a) (h2 : r.order2Side = some .b)
    {p : Positions} (hp : p.wins = p.total) : (p.add r).wins = (p.add r).total := by
  rw [Positions.add, h1, h2]
  simp [hp]

/-- Usable pairs, and the others. -/
theorem usable_add_invalid (records : List PairRecord) :
    (summarize records).usablePairs + (summarize records).invalidPairs =
      (summarize records).totalPairs :=
  Nat.add_sub_cancel' (List.length_filter_le ..)

/-- The rates are those of the usable pairs. -/
theorem rates_usable (records : List PairRecord) :
    (summarize (records.filter PairRecord.usable)).toRates = (summarize records).toRates := by
  have htwice : (records.filter PairRecord.usable).filter PairRecord.usable =
      records.filter PairRecord.usable := List.filter_eq_self.mpr fun r hr => (List.mem_filter.mp hr).2
  simp only [summarize, htwice]

end Records

/-- What a judge that does not see the order comes to. -/
structure Calibrated (summary : Summary) : Prop where
  flips : summary.flipCount = 0
  half : 2 * summary.firstPositionWinCount = summary.firstPositionJudgmentCount
  accuracies : summary.referenceAccuracyOrder1 = summary.referenceAccuracyOrder2

theorem calibrated_of_symmetric {judgeFn : JudgeFn σ} (hsymm : PositionSymmetric judgeFn)
    (cases : List Pair) (s : σ) : Calibrated (summarize (runPairs judgeFn cases s).1) := by
  have hsides : ∀ r ∈ (runPairs judgeFn cases s).1.filter PairRecord.usable,
      r.order1Side = r.order2Side := by
    intro r hr
    obtain ⟨case, -, s₁, s₂, rfl⟩ := mem_runPairs (List.mem_filter.mp hr).1
    show verdictToSide _ false = verdictToSide _ true
    rw [hsymm case.question case.answerA case.answerB s₁ s₂, verdictToSide_swap]
  refine ⟨?_, ?_, ?_⟩
  · refine List.countP_eq_zero.mpr fun r hr => ?_
    simp [hsides r hr]
  · exact foldl_add_keeps (I := fun p => 2 * p.wins = p.total) rfl
      fun r hr p hp => half_add (hsides r hr) hp
  · have hcounts : ∀ r ∈ ((runPairs judgeFn cases s).1.filter PairRecord.usable).filter
        PairRecord.labeled, r.order1Side = r.order2Side :=
      fun r hr => hsides r (List.mem_filter.mp hr).1
    show refAcc _ _ = refAcc _ _
    rw [refAcc, refAcc, List.countP_congr fun r hr => by rw [hcounts r hr]]

theorem flips_of_alwaysFirst {judgeFn : JudgeFn σ} (hfirst : AlwaysFirst judgeFn)
    (cases : List Pair) (s : σ) :
    (summarize (runPairs judgeFn cases s).1).flipCount =
        (summarize (runPairs judgeFn cases s).1).usablePairs ∧
      (summarize (runPairs judgeFn cases s).1).firstPositionWinCount =
        (summarize (runPairs judgeFn cases s).1).firstPositionJudgmentCount := by
  have hsides : ∀ r ∈ (runPairs judgeFn cases s).1.filter PairRecord.usable,
      r.order1Side = some .a ∧ r.order2Side = some .b := by
    intro r hr
    obtain ⟨case, -, s₁, s₂, rfl⟩ := mem_runPairs (List.mem_filter.mp hr).1
    rw [hfirst, hfirst]
    exact ⟨rfl, rfl⟩
  constructor
  · refine List.countP_eq_length.mpr fun r hr => ?_
    simp [hsides r hr]
  · exact foldl_add_keeps (I := fun p => p.wins = p.total) rfl
      fun r hr p hp => all_add (hsides r hr).1 (hsides r hr).2 hp

/-- A record with an invalid verdict is not usable, and only such a one. -/
theorem usable_record (case : Pair) (v1 v2 : Verdict) :
    (case.record v1 v2).usable = true ↔ v1 ≠ .invalid ∧ v2 ≠ .invalid := by
  cases v1 <;> cases v2 <;> simp [Pair.record, PairRecord.usable, verdictToSide]

/-- **The metrics of position bias are calibrated.**  Over any pairs, in any state of the
judge: one that does not see the order never flips, wins half of its judgments in the first
position and has one accuracy, one that always answers `first` flips every pair and wins
all of them; and whatever the judge, the pairs without an invalid verdict are those that are
usable, the others are counted apart, and all rates are those of the usable pairs alone.
The stub judge does not see the order. -/
theorem judgeBias_calibrated (judgeFn : JudgeFn σ) (cases : List Pair) (s : σ) :
    let records := (runPairs judgeFn cases s).1
    let summary := summarize records
    (PositionSymmetric judgeFn → Calibrated summary) ∧
      (AlwaysFirst judgeFn → summary.flipCount = summary.usablePairs ∧
        summary.firstPositionWinCount = summary.firstPositionJudgmentCount) ∧
      (summary.usablePairs + summary.invalidPairs = summary.totalPairs ∧
        summary.totalPairs = cases.length ∧
        (∀ r ∈ records, r.usable = true ↔
          r.order1Verdict ≠ .invalid ∧ r.order2Verdict ≠ .invalid) ∧
        (summarize (records.filter PairRecord.usable)).toRates = summary.toRates) ∧
      PositionSymmetric (stubJudge : JudgeFn σ) := by
  refine ⟨fun hsymm => calibrated_of_symmetric hsymm cases s,
    fun hfirst => flips_of_alwaysFirst hfirst cases s, ?_, positionSymmetric_stubJudge⟩
  refine ⟨usable_add_invalid _, length_runPairs judgeFn cases s, ?_, rates_usable _⟩
  intro r hr
  obtain ⟨case, -, s₁, s₂, rfl⟩ := mem_runPairs hr
  exact usable_record case _ _

/-- Two pairs, the second of answers that are equally long. -/
def twoPairs : List Pair :=
  [⟨.str "p1", "q", "yes, because it was cancelled", "yes", .str "a", .str ""⟩,
   ⟨.str "p2", "q", "yes ", " no!", .str "b", .str ""⟩]

theorem judgeBias_calibrated_twoPairs :
    Calibrated (summarize (runPairs (stubJudge : JudgeFn Unit) twoPairs ()).1) ∧
      (summarize (runPairs (fun _ _ _ => pure .first : JudgeFn Unit) twoPairs ()).1).flipCount =
        (summarize (runPairs (fun _ _ _ => pure .first : JudgeFn Unit) twoPairs ()).1).usablePairs :=
  ⟨(judgeBias_calibrated stubJudge twoPairs ()).1 positionSymmetric_stubJudge,
    ((judgeBias_calibrated (fun _ _ _ => pure .first) twoPairs ()).2.1 fun _ _ _ _ => rfl).1⟩

end ChaosDemo.JudgeBias
