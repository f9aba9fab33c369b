/-
ChaosDemo/Brackets.lean

Lists in which some items open a bracket and some close one.  An item has a side: it
opens the bracket of a key, closes it, or does neither.

    Bracketed  =  ε  |  plain · Bracketed  |  open k · Bracketed · close k · Bracketed

`scan` reads a list against the stack of the brackets that are open, so a list may be read
in the middle of another one.  A list that is not bracketed need not stay so when more is
added to it: a later `close k` may fit what it left open.  `Dangling` is the fault that
stays: read on any stack, the list either closes what is not open or leaves something open.
`Verdict` says which of the two a list is.  It composes, so a program that writes its
list piece by piece is judged piece by piece, and `Verdict.iff` reads the result.
-/
import Mathlib.Data.List.Basic

namespace Brackets

variable {α κ : Type}

/-- What an item does to the brackets that are open. -/
inductive Side (κ : Type)
  | opens (k : κ)
  | closes (k : κ)
  | plain
deriving DecidableEq

/-- Every bracket that is opened is closed, by an item of the same key and in order. -/
inductive Bracketed (side : α → Side κ) : List α → Prop
  | nil : Bracketed side []
  | plain {a : α} {l : List α} : side a = .plain → Bracketed side l → Bracketed side (a :: l)
  | pair {a b : α} {l l' : List α} {k : κ} : side a = .opens k → Bracketed side l →
      side b = .closes k → Bracketed side l' → Bracketed side (a :: (l ++ b :: l'))

variable {side : α → Side κ}

theorem Bracketed.append {l l' : List α} (h : Bracketed side l) (h' : Bracketed side l') :
    Bracketed side (l ++ l') := by
  induction h with
  | nil => exact h'
  | plain ha _ ih => exact .plain ha ih
  | @pair a b l₁ l₂ k ha h₁ hb _ _ ih =>
      show Bracketed side (a :: (l₁ ++ b :: l₂ ++ l'))
      rw [List.append_assoc, List.cons_append]
      exact .pair ha h₁ hb ih

variable [DecidableEq κ]

/-- Read a list against the stack of the open brackets; `none` where an item closes what
is not the latest of them. -/
def scan (side : α → Side κ) : List α → List κ → Option (List κ)
  | [], stack => some stack
  | a :: l, stack =>
      match side a, stack with
      | .plain, stack => scan side l stack
      | .opens k, stack => scan side l (k :: stack)
      | .closes _, [] => none
      | .closes k, k' :: stack => if k' = k then scan side l stack else none

theorem scan_plain {a : α} (ha : side a = .plain) (l : List α) (stack : List κ) :
    scan side (a :: l) stack = scan side l stack := by
  simp [scan, ha]

theorem scan_opens {a : α} {k : κ} (ha : side a = .opens k) (l : List α) (stack : List κ) :
    scan side (a :: l) stack = scan side l (k :: stack) := by
  simp [scan, ha]

theorem scan_closes {a : α} {k : κ} (ha : side a = .closes k) (l : List α) (k' : κ)
    (stack : List κ) :
    scan side (a :: l) (k' :: stack) = if k' = k then scan side l stack else none := by
  simp [scan, ha]

theorem scan_append (l l' : List α) (stack : List κ) :
    scan side (l ++ l') stack = (scan side l stack).bind (scan side l') := by
  induction l generalizing stack with
  | nil => rfl
  | cons a l ih =>
      rcases ha : side a with k | k | -
      · rw [List.cons_append, scan_opens ha, scan_opens ha]
        exact ih _
      · rcases stack with - | ⟨k', stack⟩
        · simp [scan, ha]
        · rw [List.cons_append, scan_closes ha, scan_closes ha]
          split
          · exact ih _
          · rfl
      · rw [List.cons_append, scan_plain ha, scan_plain ha]
        exact ih _

/-- A bracketed list leaves the open brackets as they were. -/
theorem Bracketed.scan_eq {l : List α} (h : Bracketed side l) (stack : List κ) :
    scan side l stack = some stack := by
  induction h generalizing stack with
  | nil => rfl
  | plain ha _ ih => rw [scan_plain ha, ih]
  | pair ha _ hb _ ih ih' =>
      rw [scan_opens ha, scan_append, ih, Option.bind_some, scan_closes hb, if_pos rfl, ih']

/-! ### Faults that stay -/

/-- On any stack the list closes what is not open, or leaves something open. -/
def Dangling (side : α → Side κ) (l : List α) : Prop :=
  ∀ stack, scan side l stack = none ∨
    ∃ k left, scan side l stack = some (k :: left ++ stack)

theorem Dangling.not_bracketed {l : List α} (h : Dangling side l) : ¬ Bracketed side l := by
  intro hl
  have hscan := hl.scan_eq []
  rcases h [] with hnone | ⟨k, left, hleft⟩
  · rw [hnone] at hscan
    cases hscan
  · rw [hleft] at hscan
    cases hscan

/-- A list is bracketed where `P` holds, and dangling where it does not. -/
structure Verdict (side : α → Side κ) (l : List α) (P : Prop) : Prop where
  bracketed : P → Bracketed side l
  dangling : ¬ P → Dangling side l

namespace Verdict

variable {l l' : List α} {P Q : Prop}

theorem iff (h : Verdict side l P) : Bracketed side l ↔ P := by
  constructor
  · intro hl
    by_contra hP
    exact (h.dangling hP).not_bracketed hl
  · exact h.bracketed

theorem of_bracketed (h : Bracketed side l) (hP : P) : Verdict side l P :=
  ⟨fun _ => h, fun hnot => absurd hP hnot⟩

theorem nil (hP : P) : Verdict side ([] : List α) P := of_bracketed .nil hP

theorem congr (h : Verdict side l P) (hPQ : P ↔ Q) : Verdict side l Q :=
  ⟨fun hQ => h.bracketed (hPQ.mpr hQ), fun hQ => h.dangling fun hP => hQ (hPQ.mp hP)⟩

/-- Every list that is judged either keeps the stack, adds to it, or cannot be read. -/
theorem scan_cases (h : Verdict side l P) (stack : List κ) :
    scan side l stack = none ∨ ∃ left, scan side l stack = some (left ++ stack) ∧
      (P ↔ left = []) := by
  by_cases hP : P
  · exact .inr ⟨[], (h.bracketed hP).scan_eq stack, by simp [hP]⟩
  · rcases h.dangling hP stack with hnone | ⟨k, left, hleft⟩
    · exact .inl hnone
    · exact .inr ⟨k :: left, hleft, by simp [hP]⟩

/-- Nothing that comes later mends what is left open. -/
theorem append (h : Verdict side l P) (h' : Verdict side l' Q) :
    Verdict side (l ++ l') (P ∧ Q) where
  bracketed := by
    intro hPQ
    exact (h.bracketed hPQ.1).append (h'.bracketed hPQ.2)
  dangling := by
    intro hPQ stack
    rw [scan_append]
    rcases h.scan_cases stack with hnone | ⟨left, hleft, hP⟩
    · exact .inl (by rw [hnone]; rfl)
    · rw [hleft, Option.bind_some]
      rcases h'.scan_cases (left ++ stack) with hnone | ⟨left', hleft', hQ⟩
      · exact .inl hnone
      · right
        -- one of the two lists left something open
        have hne : left' ++ left ≠ [] := by
          intro hnil
          obtain ⟨hnil', hnil⟩ := List.append_eq_nil_iff.mp hnil
          exact hPQ ⟨hP.mpr hnil, hQ.mpr hnil'⟩
        obtain ⟨k, rest, hk⟩ := List.exists_cons_of_ne_nil hne
        exact ⟨k, rest, by rw [hleft', ← List.append_assoc, hk]⟩

theorem plain {a : α} (ha : side a = .plain) (h : Verdict side l P) :
    Verdict side (a :: l) P where
  bracketed := fun hP => .plain ha (h.bracketed hP)
  dangling := by
    intro hP stack
    rw [scan_plain ha]
    exact h.dangling hP stack

/-- What is opened in front of a judged list and never closed. -/
theorem unclosed {a : α} {k : κ} (ha : side a = .opens k) (h : Verdict side l P) :
    Verdict side (a :: l) False where
  bracketed := False.elim
  dangling := by
    intro _ stack
    rw [scan_opens ha]
    rcases h.scan_cases (k :: stack) with hnone | ⟨left, hleft, -⟩
    · exact .inl hnone
    · right
      obtain ⟨k', rest, hk⟩ := List.exists_cons_of_ne_nil (List.append_ne_nil_of_right_ne_nil left
        (List.cons_ne_nil k ([] : List κ)))
      exact ⟨k', rest, by rw [hleft, ← hk, List.append_assoc, List.singleton_append]⟩

/-- A judged list between an opening and a closing item: the keys have to agree. -/
theorem wrap {a b : α} {k k' : κ} (ha : side a = .opens k) (hb : side b = .closes k')
    (h : Verdict side l P) : Verdict side (a :: (l ++ [b])) (k = k' ∧ P) where
  bracketed := by
    intro ⟨hk, hP⟩
    exact .pair ha (h.bracketed hP) (hk ▸ hb) .nil
  dangling := by
    intro hnot stack
    rw [scan_opens ha, scan_append]
    rcases h.scan_cases (k :: stack) with hnone | ⟨left, hleft, hP⟩
    · exact .inl (by rw [hnone]; rfl)
    · rw [hleft, Option.bind_some]
      rcases left with - | ⟨k₁, left⟩
      · -- the list itself is bracketed, so the keys differ
        have hkey : k ≠ k' := fun hk => hnot ⟨hk, hP.mpr rfl⟩
        left
        rw [List.nil_append, scan_closes hb, if_neg hkey]
      · rw [List.cons_append, scan_closes hb]
        split
        · -- the closing item took what the list had left open, and `k` stays open
          right
          obtain ⟨k₂, rest, hk₂⟩ := List.exists_cons_of_ne_nil
            (List.append_ne_nil_of_right_ne_nil left (List.cons_ne_nil k ([] : List κ)))
          exact ⟨k₂, rest, by rw [← hk₂, List.append_assoc]; rfl⟩
        · exact .inl rfl

end Verdict

/-! ### Counting -/

/-- How many items open the bracket of `k`. -/
def opened (side : α → Side κ) (k : κ) (l : List α) : ℕ := l.countP fun a => side a = .opens k

/-- How many items close the bracket of `k`. -/
def closed (side : α → Side κ) (k : κ) (l : List α) : ℕ := l.countP fun a => side a = .closes k

/-- In a bracketed list every key is closed as often as it is opened. -/
theorem Bracketed.closed_eq_opened {l : List α} (h : Bracketed side l) (k : κ) :
    closed side k l = opened side k l := by
  induction h with
  | nil => rfl
  | plain ha _ ih => simpa [closed, opened, ha] using ih
  | pair ha _ hb _ ih ih' =>
      simp only [closed, opened, List.countP_cons, List.countP_append, ha, hb] at ih ih' ⊢
      simp only [Side.opens.injEq, Side.closes.injEq, reduceCtorEq, decide_false,
        Bool.false_eq_true, if_false] at ih ih' ⊢
      omega

end Brackets
