/-
ChaosDemo/BenchmarkHistory.lean

The history of benchmark reports (benchmark_compare.py).  A report is filed under its
second and the session that made it:

    benchmark_{generated_at}_{session_id}.json

The history is pruned and read in the order of these names.  Between different seconds of
ten digits that is the order of time (`fileName_le_iff`).  Within one second it is the
order of the session ids, which says nothing about time: a report whose session id is
below that of the report before it is filed before it, and with one file kept it is the
one that is deleted.  A limit of 0 reads the whole history.
-/
import ChaosDemo.Builtins
import ChaosDemo.Retention
import Mathlib.Data.String.Basic
import Mathlib.Tactic.IntervalCases

namespace ChaosDemo.BenchmarkHistory

open Directory

/-! ### Filing and reading -/

/-- A session id that can stand in the name of one file. -/
structure SessionId where
  text : String
  noSlash : '/' ∉ text.toList
  noNul : Char.ofNat 0 ∉ text.toList

/-- `f"benchmark_{ts}_{session_id}.json"`. -/
def fileName (ts : ℤ) (session : SessionId) : String :=
  "benchmark_" ++ toString ts ++ "_" ++ session.text ++ ".json"

/-- `int(report.get("generated_at") or time.time())`. -/
def reportTime (now : ℚ) (report : Dict) : Except PyError ℤ :=
  ((report.get "generated_at").orElse (.num now)).toInt

/-- `archive_report`, over the value of `BENCHMARK_HISTORY_KEEP` and the time.  A file
    stands for the report that is read back from its text. -/
def archiveReport (keepEnv : ℤ) (now : ℚ) (dir : Directory String Dict) (report : Dict)
    (session : SessionId) : Except PyError (String × Directory String Dict) := do
  let ts ← reportTime now report
  let path := fileName ts session
  let keep := (max 1 keepEnv).toNat
  .ok (path, prune keep (dir.put path report))

/-- `files[start:]`. -/
def sliceFrom {γ : Type} (files : List γ) (start : ℤ) : List γ :=
  if 0 ≤ start then files.drop start.toNat else files.drop (files.length + start).toNat

/-- The files that `load_recent_history` reads, in its order. -/
def recentFiles (limit : ℤ) (dir : Directory String Dict) : List String :=
  sliceFrom dir.listing (-max limit 0)

/-- `load_recent_history`, where every file can be read. -/
def loadRecentHistory (limit : ℤ) (dir : Directory String Dict) : List Dict :=
  (recentFiles limit dir).filterMap fun path => dir.lookup path

/-! ### Runs -/

/-- A call of `archive_report` with a time of ten digits. -/
structure Call where
  now : ℚ
  report : Dict
  session : SessionId
  generatedAt : ℕ
  tenDigits : 10 ^ 9 ≤ generatedAt ∧ generatedAt < 10 ^ 10
  reads : report.get "generated_at" = .int generatedAt

/-- The file that a call writes. -/
def Call.file (c : Call) : String × Dict := (fileName c.generatedAt c.session, c.report)

/-- The calls one after the other, from an empty history. -/
def archiveReports (keepEnv : ℤ) (calls : List Call) : Except PyError (Directory String Dict) :=
  calls.foldlM (fun dir c => do
    let (_, dir) ← archiveReport keepEnv c.now dir c.report c.session
    .ok dir) []

/-- After `done` the history holds the `keep` files archived last, that of the last call
    among them, and a limit of `n` reads the last `n` of them in the order of the calls.  A
    call under a name that was archived before archives that file anew. -/
structure KeepsNewest (keep n : ℕ) (done : List Call) (dir : Directory String Dict) : Prop where
  length_le : dir.length ≤ keep
  last_mem : ∀ c, done.getLast? = some c → c.file ∈ dir
  perm : dir.Perm (newest keep (archived (done.map Call.file)))
  load_length_le : (loadRecentHistory n dir).length ≤ n
  files : recentFiles n dir =
    (newest n (newest keep (archived (done.map Call.file)))).map Prod.fst
  load : loadRecentHistory n dir =
    (newest n (newest keep (archived (done.map Call.file)))).map Prod.snd

/-- A call is filed before the next one: by its second, within a second by its session. -/
def Call.FiledBefore (c d : Call) : Prop :=
  c.generatedAt < d.generatedAt ∨
    c.generatedAt = d.generatedAt ∧ c.session.text ++ ".json" ≤ d.session.text ++ ".json"

/-! ### The order of the names -/

/-- After starts of one length the starts decide, and between equal starts the rest. -/
theorem append_lt_append_iff {a b x y : List Char} (h : a.length = b.length) :
    a ++ x < b ++ y ↔ a < b ∨ a = b ∧ x < y := by
  induction a generalizing b with
  | nil =>
      obtain rfl : b = [] := List.eq_nil_of_length_eq_zero h.symm
      simp
  | cons c a ih =>
      obtain ⟨d, b, rfl⟩ := List.exists_cons_of_length_eq_add_one h.symm
      have hlen : a.length = b.length := by simpa using h
      simp only [List.cons_append, List.cons_lt_cons_iff, ih hlen, List.cons.injEq]
      tauto

theorem digitChar_lt {a b : ℕ} (hb : b < 10) (h : a < b) :
    Nat.digitChar a < Nat.digitChar b := by
  interval_cases b <;> interval_cases a <;> decide

/-- Of two numerals of one length the smaller number's comes first. -/
theorem toDigits_lt {a b : ℕ} (h : a < b)
    (hlen : (Nat.toDigits 10 a).length = (Nat.toDigits 10 b).length) :
    Nat.toDigits 10 a < Nat.toDigits 10 b := by
  induction b using Nat.strong_induction_on generalizing a with
  | _ b ih =>
      rw [Nat.toDigits_eq_if (n := a) (by norm_num),
        Nat.toDigits_eq_if (n := b) (by norm_num)] at hlen ⊢
      have ha := Nat.length_toDigits_pos (b := 10) (n := a / 10)
      have hb := Nat.length_toDigits_pos (b := 10) (n := b / 10)
      split_ifs at hlen ⊢ with h10 h10' h10'
      · exact List.cons_lt_cons_iff.mpr (.inl (digitChar_lt h10' h))
      · simp at hlen
      · omega
      · have hrest : (Nat.toDigits 10 (a / 10)).length = (Nat.toDigits 10 (b / 10)).length := by
          simpa using hlen
        rw [append_lt_append_iff hrest]
        rcases (Nat.div_le_div_right (c := 10) h.le).eq_or_lt with hdiv | hdiv
        · right
          refine ⟨by rw [hdiv], List.cons_lt_cons_iff.mpr (.inl ?_)⟩
          exact digitChar_lt (Nat.mod_lt b (by norm_num)) (by omega)
        · left
          exact ih (b / 10) (by omega) hdiv hrest

theorem length_toDigits {n : ℕ} (h : 10 ^ 9 ≤ n ∧ n < 10 ^ 10) :
    (Nat.toDigits 10 n).length = 10 := by
  have hle := (Nat.length_toDigits_le_iff (b := 10) (k := 10) (by norm_num) (by norm_num)).mpr h.2
  have hgt := (Nat.length_toDigits_le_iff (b := 10) (n := n) (k := 9) (by norm_num)
    (by norm_num)).not.mpr (by omega)
  omega

theorem fileName_toList (ts : ℕ) (session : SessionId) :
    (fileName ts session).toList = "benchmark_".toList ++
      (Nat.toDigits 10 ts ++ ('_' :: (session.text ++ ".json").toList)) := by
  have hts : (toString (ts : ℤ)).toList = Nat.toDigits 10 ts := Nat.toList_repr
  simp only [fileName, String.toList_append, hts, List.append_assoc]
  rfl

/-- The names are in the order of time, within a second in that of the session ids. -/
theorem fileName_le_iff (c d : Call) : c.file.1 ≤ d.file.1 ↔ c.FiledBefore d := by
  have hlen : (Nat.toDigits 10 d.generatedAt).length = (Nat.toDigits 10 c.generatedAt).length := by
    rw [length_toDigits c.tenDigits, length_toDigits d.tenDigits]
  rw [← not_lt, String.lt_iff_toList_lt]
  show ¬ (fileName d.generatedAt d.session).toList <
    (fileName c.generatedAt c.session).toList ↔ _
  rw [fileName_toList, fileName_toList, append_lt_append_iff rfl, append_lt_append_iff hlen]
  simp only [List.lt_irrefl, false_or, true_and, List.cons_lt_cons_iff, Char.lt_irrefl]
  rw [← String.lt_iff_toList_lt, Call.FiledBefore]
  rcases lt_trichotomy c.generatedAt d.generatedAt with h | h | h
  · have hlt := toDigits_lt h hlen.symm
    have hne : Nat.toDigits 10 d.generatedAt ≠ Nat.toDigits 10 c.generatedAt := hlt.ne'
    simp [h, hne, hlt.not_gt]
  · simp only [h, lt_irrefl, true_and, false_or]
    exact not_lt
  · have hlt := toDigits_lt h hlen
    simp [hlt, h.not_gt, h.ne']

/-! ### What the calls leave -/

theorem archiveReport_call {keep : ℕ} (hkeep : 1 ≤ keep) (dir : Directory String Dict)
    (c : Call) : archiveReport keep c.now dir c.report c.session =
      .ok (c.file.1, archive keep dir c.file) := by
  have htime : reportTime c.now c.report = .ok c.generatedAt := by
    have hpos : c.generatedAt ≠ 0 := by
      have h := c.tenDigits.1
      omega
    simp [reportTime, c.reads, Json.orElse, Json.truthy, hpos, Json.toInt, Json.toInt?]
  have hmax : (max 1 (keep : ℤ)).toNat = keep := by omega
  simp only [archiveReport, htime, hmax]
  rfl

theorem archiveReports_eq {keep : ℕ} (hkeep : 1 ≤ keep) (calls : List Call) :
    archiveReports keep calls = .ok (after keep (calls.map Call.file)) := by
  unfold archiveReports after
  generalize ([] : Directory String Dict) = dir
  induction calls generalizing dir with
  | nil => rfl
  | cons c calls ih =>
      rw [List.foldlM_cons, archiveReport_call hkeep]
      exact ih _

/-- A positive limit reads the last files. -/
theorem recentFiles_eq {n : ℕ} (hn : 1 ≤ n) (dir : Directory String Dict) :
    recentFiles n dir = newest n dir.listing := by
  have hneg : ¬ (0 : ℤ) ≤ -max (n : ℤ) 0 := by omega
  have hstart : ((dir.listing.length : ℤ) + -max (n : ℤ) 0).toNat = dir.listing.length - n := by
    omega
  rw [recentFiles, sliceFrom, if_neg hneg, hstart, newest]

/-- A limit of 0 reads all files. -/
theorem recentFiles_zero (dir : Directory String Dict) : recentFiles 0 dir = dir.listing := rfl

theorem lookup_of_mem {dir : Directory String Dict} (h : (dir.map Prod.fst).Nodup)
    {e : String × Dict} (he : e ∈ dir) : dir.lookup e.1 = some e.2 := by
  induction dir with
  | nil => cases he
  | cons x dir ih =>
      obtain ⟨path, report⟩ := x
      obtain ⟨hx, hdir⟩ := List.nodup_cons.mp h
      rcases List.mem_cons.mp he with rfl | hrest
      · simp
      · have hmem : e.1 ∈ dir.map Prod.fst := List.mem_map_of_mem hrest
        have hne : e.1 ≠ path := fun heq => hx (heq ▸ hmem)
        simp only [List.lookup_cons, beq_eq_false_iff_ne.mpr hne]
        exact ih hdir hrest

/-- Reading files of the history gives their reports. -/
theorem filterMap_lookup {dir : Directory String Dict} (h : (dir.map Prod.fst).Nodup)
    {entries : List (String × Dict)} (hsub : entries ⊆ dir) :
    (entries.map Prod.fst).filterMap (fun path => dir.lookup path) = entries.map Prod.snd := by
  induction entries with
  | nil => rfl
  | cons e entries ih =>
      obtain ⟨he, hentries⟩ := List.cons_subset.mp hsub
      rw [List.map_cons, List.filterMap_cons, ih hentries]
      simp only [lookup_of_mem h he, List.map_cons]

/-- With a positive limit a history keeps its newest reports where the directory holds the
    newest files. -/
theorem keepsNewest_iff_holds {keep n : ℕ} (hn : 1 ≤ n) {done : List Call} :
    KeepsNewest keep n done (after keep (done.map Call.file)) ↔
      HoldsNewest keep n (done.map Call.file) := by
  constructor
  · intro h
    refine ⟨h.length_le, ?_, h.perm, ?_⟩
    · intro e he
      rw [List.getLast?_map] at he
      obtain ⟨c, hc, rfl⟩ := Option.map_eq_some_iff.mp he
      exact h.last_mem c hc
    · rw [← recentFiles_eq hn]
      exact h.files
  · intro h
    have hfiles := h.order
    rw [← recentFiles_eq hn] at hfiles
    have hload : loadRecentHistory n (after keep (done.map Call.file)) =
        (newest n (newest keep (archived (done.map Call.file)))).map Prod.snd := by
      rw [loadRecentHistory, hfiles]
      refine filterMap_lookup (after_nodup _ _) fun e he => ?_
      exact h.perm.mem_iff.mpr ((newest_suffix n _).subset he)
    refine ⟨h.length_le, ?_, h.perm, ?_, hfiles, hload⟩
    · intro c hc
      exact h.last_mem c.file (by rw [List.getLast?_map, hc]; rfl)
    · rw [hload, List.length_map, length_newest]
      exact min_le_left _ _

/-! ### The newest reports are kept -/

/-- After every call of a run the history keeps and reads its newest reports exactly if
    there was no call, or the limit is positive and every call is filed after the one
    before it. -/
theorem benchmarkHistory_keeps_iff {keep : ℕ} (hkeep : 1 ≤ keep) (n : ℕ)
    (calls : List Call) :
    (∀ done, done <+: calls →
        ∃ dir, archiveReports keep done = .ok dir ∧ KeepsNewest keep n done dir) ↔
      calls = [] ∨ 1 ≤ n ∧ calls.IsChain Call.FiledBefore := by
  have hrun : (∀ done, done <+: calls →
      ∃ dir, archiveReports keep done = .ok dir ∧ KeepsNewest keep n done dir) ↔
      ∀ done, done <+: calls → KeepsNewest keep n done (after keep (done.map Call.file)) := by
    simp only [archiveReports_eq hkeep, Except.ok.injEq, exists_eq_left']
  rw [hrun]
  rcases Nat.eq_zero_or_pos n with rfl | hn
  · constructor
    · intro h
      left
      rcases calls.eq_nil_or_concat' with rfl | ⟨calls, c, rfl⟩
      · rfl
      · -- the whole history is read, and the last call is in it
        have hall := h _ List.prefix_rfl
        have hmem := hall.last_mem c (by simp)
        have hnone := hall.files
        rw [Nat.cast_zero, recentFiles_zero] at hnone
        have hempty : (after keep ((calls ++ [c]).map Call.file)).listing = [] := by
          rw [hnone]
          simp [newest]
        have hperm := listing_perm (after keep ((calls ++ [c]).map Call.file))
        rw [hempty] at hperm
        have hnil := List.map_eq_nil_iff.mp hperm.nil_eq.symm
        rw [hnil] at hmem
        cases hmem
    · rintro (rfl | ⟨h, -⟩)
      · intro done hdone
        obtain rfl := List.prefix_nil.mp hdone
        exact ⟨by simp [after], by simp, by simp [after, archived],
          by simp [loadRecentHistory, recentFiles_zero, listing, after],
          by simp [recentFiles_zero, listing, after, archived],
          by simp [loadRecentHistory, recentFiles_zero, listing, after, archived]⟩
      · omega
  · have hchain : (calls.map Call.file).IsChain (fun e e' => e.1 ≤ e'.1) ↔
        calls.IsChain Call.FiledBefore := by
      rw [List.isChain_map]
      simp only [fileName_le_iff]
    have hholds : (∀ done, done <+: calls →
        KeepsNewest keep n done (after keep (done.map Call.file))) ↔
        ∀ files, files <+: calls.map Call.file → HoldsNewest keep n files := by
      simp only [keepsNewest_iff_holds hn, List.prefix_map_iff]
      constructor
      · rintro h files ⟨done, hdone, rfl⟩
        exact h done hdone
      · intro h done hdone
        exact h _ ⟨done, hdone, rfl⟩
    rw [hholds, keepsNewest_iff hkeep hn, hchain]
    constructor
    · intro h
      exact .inr ⟨hn, h⟩
    · rintro (rfl | ⟨-, h⟩)
      · exact List.IsChain.nil
      · exact h

/-- A session named by one word. -/
def wordSession (text : String) (noSlash : '/' ∉ text.toList := by decide +kernel)
    (noNul : Char.ofNat 0 ∉ text.toList := by decide +kernel) : SessionId :=
  ⟨text, noSlash, noNul⟩

/-- The report of a run in the second 1700000000. -/
def callOf (session : SessionId) (qps : ℤ) : Call where
  now := 1700000000
  report := [("generated_at", .int 1700000000), ("qps", .int qps)]
  session := session
  generatedAt := 1700000000
  tenDigits := by norm_num
  reads := rfl

/-- Two sessions in one second, the second one below the first: with two files kept and a
    limit of one the last report is not the one that is read. -/
theorem benchmarkHistory_sameSecond :
    (∀ done, done <+: [callOf (wordSession "b") 1, callOf (wordSession "a") 2] →
        ∃ dir, archiveReports (2 : ℕ) done = .ok dir ∧ KeepsNewest 2 1 done dir) ↔
      [callOf (wordSession "b") 1, callOf (wordSession "a") 2] = [] ∨ 1 ≤ 1 ∧
        [callOf (wordSession "b") 1, callOf (wordSession "a") 2].IsChain Call.FiledBefore :=
  benchmarkHistory_keeps_iff (by norm_num) 1 _

/-- With one file kept, the report of session `a` is deleted by its own call: what is left
    is the report of session `b` before it, in the same second.  And a limit of 0 reads a
    history of one file. -/
theorem archiveReport_deletes_newest :
    archiveReports 1 [callOf (wordSession "b") 1, callOf (wordSession "a") 2] =
        .ok [(callOf (wordSession "b") 1).file] ∧
      (¬ ∀ (keep n : ℕ) (calls : List Call), 1 ≤ keep →
        calls.IsChain (fun c d => c.generatedAt ≤ d.generatedAt) →
        ∀ done, done <+: calls →
          ∃ dir, archiveReports keep done = .ok dir ∧ KeepsNewest keep n done dir) ∧
      loadRecentHistory 0 [(callOf (wordSession "b") 1).file] =
        [(callOf (wordSession "b") 1).report] := by
  have hdir : archiveReports 1 [callOf (wordSession "b") 1, callOf (wordSession "a") 2] =
      .ok [(callOf (wordSession "b") 1).file] := by
    rw [show (1 : ℤ) = ((1 : ℕ) : ℤ) from rfl, archiveReports_eq le_rfl]
    exact congrArg Except.ok (by decide +kernel)
  refine ⟨hdir, ?_, by decide +kernel⟩
  intro h
  obtain ⟨dir, hok, hkept⟩ := h 1 1 [callOf (wordSession "b") 1, callOf (wordSession "a") 2]
    le_rfl (by simp [callOf]) _ List.prefix_rfl
  rw [Nat.cast_one, hdir] at hok
  obtain rfl := Except.ok.inj hok
  have hmem := hkept.last_mem (callOf (wordSession "a") 2) rfl
  have hne : (callOf (wordSession "a") 2).file ∉ [(callOf (wordSession "b") 1).file] := by
    decide +kernel
  exact hne hmem

end ChaosDemo.BenchmarkHistory
