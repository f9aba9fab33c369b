/-
ChaosDemo/Admission.lean

Admission of requests as they come: a rule looks at the requests so far, each
with its time and its decision, and at the time of the new one.

    run rule ts h    the history after requests at the times ts, from h

Histories have the latest request first, so "earlier" is "further down the list",
and every fact about a decision is a fact about one split of the history.
Whatever a rule counts, how much it admits follows from its decisions alone
(`countP_le`, `countP_eq_min`).
-/
import Mathlib.Algebra.Order.Ring.Int
import Mathlib.Data.List.Basic

namespace Admission

variable {T : Type}

/-- The requests so far, the latest first: the time of each, and whether it was
admitted. -/
abbrev History (T : Type) := List (T × Bool)

/-- The history after requests at the given times. -/
def run (rule : History T → T → Bool) : List T → History T → History T
  | [], h => h
  | t :: ts, h => run rule ts ((t, rule h t) :: h)

variable {rule : History T → T → Bool} {ts : List T} {h : History T}

@[simp] theorem run_nil : run rule [] h = h := rfl

@[simp] theorem run_cons (t : T) : run rule (t :: ts) h = run rule ts ((t, rule h t) :: h) := rfl

theorem run_append (ts' : List T) : run rule (ts ++ ts') h = run rule ts' (run rule ts h) := by
  induction ts generalizing h with
  | nil => rfl
  | cons t ts ih => exact ih

theorem run_suffix (ts : List T) (h : History T) : ∃ new, run rule ts h = new ++ h := by
  induction ts generalizing h with
  | nil => exact ⟨[], rfl⟩
  | cons t ts ih =>
      obtain ⟨new, hnew⟩ := ih ((t, rule h t) :: h)
      refine ⟨new ++ [(t, rule h t)], ?_⟩
      rw [run_cons, hnew, List.append_assoc]
      rfl

theorem run_times (ts : List T) (h : History T) :
    (run rule ts h).map Prod.fst = ts.reverse ++ h.map Prod.fst := by
  induction ts generalizing h with
  | nil => rfl
  | cons t ts ih => simp [ih]

/-- Every decision is the rule's, on the requests before. -/
def Ruled (rule : History T → T → Bool) (h : History T) : Prop :=
  ∀ newer t admitted older, h = newer ++ (t, admitted) :: older → admitted = rule older t

theorem Ruled.nil : Ruled rule [] := by
  intro newer t admitted older hsplit
  simp at hsplit

theorem Ruled.run (hh : Ruled rule h) (ts : List T) : Ruled rule (run rule ts h) := by
  induction ts generalizing h with
  | nil => exact hh
  | cons t ts ih =>
      apply ih
      intro newer t' admitted older hsplit
      rcases newer with - | ⟨c, newer⟩
      · obtain ⟨heq, rfl⟩ := List.cons.inj hsplit
        obtain ⟨rfl, rfl⟩ := Prod.mk.inj heq
        rfl
      · exact hh newer t' admitted older (List.cons.inj hsplit).2

/-! ### How much is admitted -/

/-- If a request that counts never comes after `n` that count, then at most `n`
do. -/
theorem countP_le {p : T × Bool → Bool} {n : ℤ} (hn : 0 ≤ n)
    (hstep : ∀ newer c older, h = newer ++ c :: older → p c = true → (older.countP p : ℤ) < n) :
    (h.countP p : ℤ) ≤ n := by
  induction h with
  | nil => exact hn
  | cons c h ih =>
      cases hc : p c with
      | true =>
          have hlt := hstep [] c h rfl hc
          rw [List.countP_cons_of_pos hc]
          push_cast
          omega
      | false =>
          rw [List.countP_cons_of_neg (by simp [hc])]
          apply ih
          rintro newer c' older rfl
          exact hstep (c :: newer) c' older rfl

/-- If the requests of a class are admitted while fewer than `n` of the class came
before, then exactly the first `n` are. -/
theorem countP_eq_min {p : T → Bool} {n : ℤ} (hn : 0 ≤ n)
    (hstep : ∀ newer t admitted older, h = newer ++ (t, admitted) :: older → p t = true →
      (admitted = true ↔ ((older.countP fun c => p c.1 : ℕ) : ℤ) < n)) :
    ((h.countP fun c => c.2 && p c.1 : ℕ) : ℤ) = min n ((h.countP fun c => p c.1 : ℕ) : ℤ) := by
  induction h with
  | nil =>
      show (0 : ℤ) = min n 0
      omega
  | cons c h ih =>
      obtain ⟨t, admitted⟩ := c
      have hrest := ih fun newer t' admitted' older hsplit =>
        hstep ((t, admitted) :: newer) t' admitted' older (by rw [hsplit]; rfl)
      cases hp : p t with
      | false =>
          rw [List.countP_cons_of_neg (by simp [hp]), List.countP_cons_of_neg (by simp [hp])]
          exact hrest
      | true =>
          have hiff := hstep [] t admitted h rfl hp
          rw [List.countP_cons_of_pos (p := fun c : T × Bool => p c.1) (by simp [hp])]
          cases admitted with
          | true =>
              have hlt := hiff.mp rfl
              rw [List.countP_cons_of_pos (by simp [hp])]
              push_cast
              omega
          | false =>
              have hge : ¬ ((h.countP fun c => p c.1 : ℕ) : ℤ) < n := by
                intro hlt
                cases hiff.mpr hlt
              rw [List.countP_cons_of_neg (by simp)]
              push_cast
              omega

/-- What counts for `p` counts for `q` or for `r`. -/
theorem countP_le_add {p q r : T × Bool → Bool}
    (hpqr : ∀ c ∈ h, p c = true → q c = true ∨ r c = true) :
    h.countP p ≤ h.countP q + h.countP r := by
  induction h with
  | nil => exact Nat.le_refl 0
  | cons c h ih =>
      have hrest := ih fun c' hc' => hpqr c' (List.mem_cons_of_mem c hc')
      have hone := hpqr c List.mem_cons_self
      rw [List.countP_cons, List.countP_cons, List.countP_cons]
      by_cases hp : p c = true
      · rcases hone hp with hq | hr
        · rw [if_pos hp, if_pos hq]
          omega
        · rw [if_pos hp, if_pos hr]
          omega
      · rw [if_neg hp]
        omega

/-! ### Rejected requests -/

/-- The rule does not look at rejected requests. -/
def IgnoresRejected (rule : History T → T → Bool) : Prop :=
  ∀ newer t older, rule (newer ++ (t, false) :: older) = rule (newer ++ older)

/-- Then a rejected request changes no later decision. -/
theorem IgnoresRejected.run (hrule : IgnoresRejected rule) (t : T) (older : History T)
    (ts : List T) (newer : History T) :
    ∃ later, run rule ts (newer ++ (t, false) :: older) = later ++ (t, false) :: older ∧
      run rule ts (newer ++ older) = later ++ older := by
  induction ts generalizing newer with
  | nil => exact ⟨newer, rfl, rfl⟩
  | cons t' ts ih =>
      obtain ⟨later, hwith, hwithout⟩ := ih ((t', rule (newer ++ older) t') :: newer)
      refine ⟨later, ?_, hwithout⟩
      rw [run_cons, hrule newer t older]
      exact hwith

end Admission
