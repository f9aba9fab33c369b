/-
ChaosDemo/Ledger.lean

A ledger of subjects that are opened and closed.  Every line names a subject, a label
and a turn; the gauge of a label counts up at an opening and down at a closing.

    Sound b    every subject is opened once at most, and closed once at most, under
               the label it was opened with, after it was opened

In a sound ledger the gauge of a label is the number of subjects that stand open under
it (`Sound.gauge_eq`), so it is never negative.
-/
import Mathlib.Algebra.Order.Ring.Int
import Mathlib.Data.List.Count

namespace Ledger

variable {I L : Type}

inductive Turn
  | opened
  | closed
deriving DecidableEq

structure Line (I L : Type) where
  subject : I
  label : L
  turn : Turn
deriving DecidableEq

/-- The lines, the latest first. -/
abbrev Book (I L : Type) := List (Line I L)

variable [DecidableEq I]

/-- How often a subject was opened, or closed. -/
def times (b : Book I L) (i : I) (turn : Turn) : ℕ :=
  b.countP fun x => decide (x.subject = i ∧ x.turn = turn)

variable {b : Book I L} {i j : I} {l l' : L} {turn turn' : Turn}

@[simp] theorem times_nil : times ([] : Book I L) i turn = 0 := rfl

theorem times_cons_self : times (⟨i, l, turn⟩ :: b) i turn = times b i turn + 1 := by
  apply List.countP_cons_of_pos
  simp

theorem times_cons_of_ne (h : j ≠ i) : times (⟨j, l, turn'⟩ :: b) i turn = times b i turn := by
  apply List.countP_cons_of_neg
  simp [h]

theorem times_cons_of_turn (h : turn' ≠ turn) :
    times (⟨j, l, turn'⟩ :: b) i turn = times b i turn := by
  apply List.countP_cons_of_neg
  simp [h]

theorem times_pos_of_mem (h : ⟨i, l, turn⟩ ∈ b) : 0 < times b i turn := by
  apply List.countP_pos_iff.mpr
  exact ⟨_, h, by simp⟩

/-! ### Sound ledgers -/

/-- Every subject is opened at most once, and closed at most once after that. -/
inductive Sound : Book I L → Prop
  | nil : Sound []
  | opened {b : Book I L} (i : I) (l : L) :
      Sound b → times b i .opened = 0 → Sound (⟨i, l, .opened⟩ :: b)
  | closed {b : Book I L} (i : I) (l : L) :
      Sound b → ⟨i, l, .opened⟩ ∈ b → times b i .closed = 0 → Sound (⟨i, l, .closed⟩ :: b)

theorem Sound.opened_le_one (h : Sound b) (i : I) : times b i .opened ≤ 1 := by
  induction h with
  | nil => simp
  | @opened b j l _ hnew ih =>
      by_cases hj : j = i
      · subst hj
        show times (⟨j, l, _⟩ :: b) j _ ≤ 1
        rw [times_cons_self]
        omega
      · rw [times_cons_of_ne hj]
        exact ih
  | @closed b j l _ _ _ ih =>
      rw [times_cons_of_turn (by decide)]
      exact ih

theorem Sound.closed_le_one (h : Sound b) (i : I) : times b i .closed ≤ 1 := by
  induction h with
  | nil => simp
  | @opened b j l _ _ ih =>
      rw [times_cons_of_turn (by decide)]
      exact ih
  | @closed b j l _ _ hnew ih =>
      by_cases hj : j = i
      · subst hj
        show times (⟨j, l, _⟩ :: b) j _ ≤ 1
        rw [times_cons_self]
        omega
      · rw [times_cons_of_ne hj]
        exact ih

/-- A subject that was not opened was not closed. -/
theorem Sound.not_closed (h : Sound b) (hi : times b i .opened = 0) : times b i .closed = 0 := by
  induction h with
  | nil => rfl
  | @opened b j l _ _ ih =>
      rw [times_cons_of_turn (by decide)]
      apply ih
      by_cases hj : j = i
      · subst hj
        rw [times_cons_self] at hi
        omega
      · rwa [times_cons_of_ne hj] at hi
  | @closed b j l _ hmem _ ih =>
      rw [times_cons_of_turn (by decide)] at hi
      have hj : j ≠ i := by
        rintro rfl
        have hpos := times_pos_of_mem hmem
        omega
      rw [times_cons_of_ne hj]
      exact ih hi

/-- A subject was opened under one label. -/
theorem Sound.label_unique (h : Sound b) (hl : ⟨i, l, .opened⟩ ∈ b)
    (hl' : ⟨i, l', .opened⟩ ∈ b) : l = l' := by
  induction h with
  | nil => simp at hl
  | @opened b j k _ hnew ih =>
      rcases List.mem_cons.mp hl with heq | hin
      · rcases List.mem_cons.mp hl' with heq' | hin'
        · simp_all
        · obtain ⟨rfl, rfl⟩ : i = j ∧ l = k := by simpa using heq
          exact absurd (times_pos_of_mem hin') (by omega)
      · rcases List.mem_cons.mp hl' with heq' | hin'
        · obtain ⟨rfl, rfl⟩ : i = j ∧ l' = k := by simpa using heq'
          exact absurd (times_pos_of_mem hin) (by omega)
        · exact ih hin hin'
  | @closed b j k _ _ _ ih =>
      exact ih (by simpa using hl) (by simpa using hl')

/-! ### The gauge of a sound ledger -/

variable [DecidableEq L]

/-- Openings under a label minus closings under it. -/
def gauge (b : Book I L) (l : L) : ℤ :=
  ((b.countP fun x => decide (x.label = l ∧ x.turn = .opened) : ℕ) : ℤ) -
    ((b.countP fun x => decide (x.label = l ∧ x.turn = .closed) : ℕ) : ℤ)

/-- The number of openings under a label whose subject was never closed. -/
def outstanding (b : Book I L) (l : L) : ℕ :=
  b.countP fun x => decide (x.label = l ∧ x.turn = .opened ∧ times b x.subject .closed = 0)

theorem outstanding_opened (hnew : times b i .closed = 0) :
    outstanding (⟨i, l, .opened⟩ :: b) l' = outstanding b l' + if l = l' then 1 else 0 := by
  have hsame : ∀ x : Line I L, times (⟨i, l, .opened⟩ :: b) x.subject .closed =
      times b x.subject .closed := fun x => times_cons_of_turn (by decide)
  simp only [outstanding, hsame]
  rw [List.countP_cons]
  simp [hnew]

/-- A closing takes the one opening of its subject off the count. -/
theorem outstanding_closed (hb : Sound b) (hmem : ⟨i, l, .opened⟩ ∈ b)
    (hnew : times b i .closed = 0) :
    outstanding (⟨i, l, .closed⟩ :: b) l' + (if l = l' then 1 else 0) = outstanding b l' := by
  -- the openings that stand before are those that stand after and the one of `i`
  have hsplit : outstanding b l' =
      b.countP (fun x => decide (x.label = l' ∧ x.turn = .opened ∧ x.subject ≠ i ∧
        times b x.subject .closed = 0)) +
      b.countP (fun x => decide (x.label = l' ∧ x.turn = .opened ∧ x.subject = i)) := by
    rw [outstanding, List.countP_eq_countP_filter_add (p := _) b fun x => decide (x.subject ≠ i)]
    rw [List.countP_filter, List.countP_filter]
    congr 1
    · apply List.countP_congr
      intro x _
      simp only [decide_eq_true_eq, Bool.and_eq_true]
      tauto
    · apply List.countP_congr
      intro x _
      by_cases hx : x.subject = i
      · simp [hx, hnew]
      · simp [hx]
  have hafter : outstanding (⟨i, l, .closed⟩ :: b) l' =
      b.countP (fun x => decide (x.label = l' ∧ x.turn = .opened ∧ x.subject ≠ i ∧
        times b x.subject .closed = 0)) := by
    rw [outstanding, List.countP_cons_of_neg (by simp)]
    apply List.countP_congr
    intro x _
    by_cases hx : i = x.subject
    · subst hx
      simp [times_cons_self]
    · simp [times_cons_of_ne hx, Ne.symm hx]
  have hone : b.countP (fun x => decide (x.label = l' ∧ x.turn = .opened ∧ x.subject = i)) =
      if l = l' then 1 else 0 := by
    have hcount : times b i .opened = 1 := by
      have hle := hb.opened_le_one i
      have hpos := times_pos_of_mem hmem
      omega
    by_cases hl : l = l'
    · subst hl
      rw [if_pos rfl, ← hcount]
      apply List.countP_congr
      intro x hx
      obtain ⟨subject, label, turn⟩ := x
      simp only [decide_eq_true_eq]
      constructor
      · rintro ⟨-, hturn, hsubject⟩
        exact ⟨hsubject, hturn⟩
      · rintro ⟨rfl, rfl⟩
        exact ⟨hb.label_unique hx hmem, rfl, rfl⟩
    · rw [if_neg hl]
      apply List.countP_eq_zero.mpr
      intro x hx
      obtain ⟨subject, label, turn⟩ := x
      simp only [decide_eq_true_eq]
      rintro ⟨rfl, rfl, rfl⟩
      exact hl (hb.label_unique hmem hx)
  rw [hafter, hsplit, hone]

omit [DecidableEq I] in
theorem gauge_opened : gauge (⟨i, l, .opened⟩ :: b) l' = gauge b l' + if l = l' then 1 else 0 := by
  rw [gauge, gauge, List.countP_cons, List.countP_cons_of_neg (by simp)]
  by_cases hl : l = l'
  · simp only [hl, if_true]
    push_cast
    simp
    omega
  · simp [hl]

omit [DecidableEq I] in
theorem gauge_closed : gauge (⟨i, l, .closed⟩ :: b) l' = gauge b l' - if l = l' then 1 else 0 := by
  rw [gauge, gauge, List.countP_cons_of_neg (by simp), List.countP_cons]
  by_cases hl : l = l'
  · simp only [hl, if_true]
    push_cast
    simp
    omega
  · simp [hl]

/-- **The gauge counts what stands.** -/
theorem Sound.gauge_eq (h : Sound b) (l : L) : gauge b l = outstanding b l := by
  induction h with
  | nil => rfl
  | @opened b i k hb hnew ih =>
      have hclosed := hb.not_closed hnew
      rw [gauge_opened, ih, outstanding_opened hclosed]
      split <;> simp
  | @closed b i k hb hmem hnew ih =>
      have hstand : outstanding (⟨i, k, .closed⟩ :: b) l + (if k = l then 1 else 0) = outstanding b l :=
        outstanding_closed hb hmem hnew
      rw [gauge_closed, ih]
      by_cases hk : k = l
      · rw [if_pos hk] at hstand ⊢
        omega
      · rw [if_neg hk] at hstand ⊢
        omega

end Ledger
