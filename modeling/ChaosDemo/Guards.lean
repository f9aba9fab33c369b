/-
ChaosDemo/Guards.lean

Checks that raise: when a sequence of them, or a loop over a list of them, returns, and
with which error it stops.
-/
import ChaosDemo.Builtins

namespace ChaosDemo

section Except

variable {ε α β γ : Type}

theorem ok_bind {a : α} {f : α → Except ε β} : (Except.ok a >>= f) = f a := rfl

theorem error_bind {e : ε} {f : α → Except ε β} : (Except.error e >>= f) = .error e := rfl

/-- A sequence stops with the first error of its parts. -/
theorem bind_eq_error_iff {x : Except ε α} {f : α → Except ε β} {e : ε} :
    (x >>= f) = .error e ↔ x = .error e ∨ ∃ a, x = .ok a ∧ f a = .error e := by
  cases x with
  | error e' =>
      constructor
      · intro h
        left
        exact congrArg Except.error (Except.error.inj h)
      · intro h
        rcases h with h | ⟨a, ha, -⟩
        · rw [h]
          rfl
        · cases ha
  | ok a =>
      constructor
      · intro h
        exact Or.inr ⟨a, rfl, h⟩
      · intro h
        rcases h with h | ⟨a', ha, h⟩
        · cases h
        · cases ha
          exact h

theorem pure_eq_ok_iff {a b : α} : (pure a : Except ε α) = .ok b ↔ a = b := by
  show (Except.ok a : Except ε α) = .ok b ↔ a = b
  rw [Except.ok.injEq]

theorem pure_ne_error {a : α} {e : ε} : (pure a : Except ε α) ≠ .error e := by
  intro h
  cases h

theorem mapM_eq_ok_iff {f : α → Except ε β} {l : List α} {ys : List β} :
    l.mapM f = .ok ys ↔ List.Forall₂ (fun x y => f x = .ok y) l ys := by
  induction l generalizing ys with
  | nil =>
      rw [List.mapM_nil, pure_eq_ok_iff, List.forall₂_nil_left_iff]
      exact eq_comm
  | cons x l ih =>
      rw [List.mapM_cons, bind_eq_ok_iff]
      constructor
      · intro h
        obtain ⟨y, hy, h⟩ := h
        obtain ⟨ys', hys, h⟩ := bind_eq_ok_iff.mp h
        cases h
        exact List.Forall₂.cons hy (ih.mp hys)
      · intro h
        cases h with
        | cons hy hys => exact ⟨_, hy, bind_eq_ok_iff.mpr ⟨_, ih.mpr hys, rfl⟩⟩

/-- An error of a list comes from one of its items. -/
theorem exists_error_of_mapM {f : α → Except ε β} {l : List α} {e : ε}
    (h : l.mapM f = .error e) : ∃ x ∈ l, f x = .error e := by
  induction l with
  | nil => exact absurd h pure_ne_error
  | cons x l ih =>
      rw [List.mapM_cons] at h
      rcases bind_eq_error_iff.mp h with hx | ⟨y, -, h⟩
      · exact ⟨x, List.mem_cons_self, hx⟩
      · rcases bind_eq_error_iff.mp h with hl | ⟨ys, -, h⟩
        · obtain ⟨z, hz, herr⟩ := ih hl
          exact ⟨z, List.mem_cons_of_mem _ hz, herr⟩
        · exact absurd h pure_ne_error

/-- The loop that checks each item and adds what the check returns. -/
theorem foldlM_eq_ok_iff {check : α → Except ε β} {add : γ → β → γ} {l : List α} {acc r : γ} :
    l.foldlM (fun acc x => do
        let y ← check x
        pure (add acc y)) acc = .ok r ↔
      ∃ ys, List.Forall₂ (fun x y => check x = .ok y) l ys ∧ r = ys.foldl add acc := by
  induction l generalizing acc with
  | nil =>
      rw [List.foldlM_nil, pure_eq_ok_iff]
      simp only [List.forall₂_nil_left_iff, exists_eq_left, List.foldl_nil]
      exact eq_comm
  | cons x l ih =>
      rw [List.foldlM_cons, bind_eq_ok_iff]
      constructor
      · intro h
        obtain ⟨acc', hstep, hrest⟩ := h
        obtain ⟨y, hy, hadd⟩ := bind_eq_ok_iff.mp hstep
        cases hadd
        obtain ⟨ys, hys, rfl⟩ := ih.mp hrest
        exact ⟨y :: ys, List.Forall₂.cons hy hys, rfl⟩
      · intro h
        obtain ⟨ys, hys, rfl⟩ := h
        cases hys with
        | cons hy hys =>
            exact ⟨_, bind_eq_ok_iff.mpr ⟨_, hy, rfl⟩, ih.mpr ⟨_, hys, rfl⟩⟩

/-- It stops at the first item that a check does not let through. -/
theorem foldlM_eq_error_iff {check : α → Except ε β} {add : γ → β → γ} {l : List α} {acc : γ}
    {e : ε} :
    l.foldlM (fun acc x => do
        let y ← check x
        pure (add acc y)) acc = .error e ↔
      ∃ before x after, l = before ++ x :: after ∧ (∀ y ∈ before, ∃ b, check y = .ok b) ∧
        check x = .error e := by
  induction l generalizing acc with
  | nil =>
      constructor
      · intro h
        exact absurd h pure_ne_error
      · intro h
        obtain ⟨before, x, after, hsplit, -⟩ := h
        simp at hsplit
  | cons x l ih =>
      rw [List.foldlM_cons, bind_eq_error_iff]
      constructor
      · intro h
        rcases h with hstop | ⟨acc', hstep, hrest⟩
        · -- the first item stops the loop
          rcases bind_eq_error_iff.mp hstop with hx | ⟨y, -, hadd⟩
          · exact ⟨[], x, l, rfl, by simp, hx⟩
          · exact absurd hadd pure_ne_error
        · obtain ⟨y, hy, -⟩ := bind_eq_ok_iff.mp hstep
          obtain ⟨before, z, after, rfl, hbefore, hz⟩ := ih.mp hrest
          refine ⟨x :: before, z, after, rfl, fun w hw => ?_, hz⟩
          rcases List.mem_cons.mp hw with rfl | hw
          · exact ⟨y, hy⟩
          · exact hbefore w hw
      · intro h
        obtain ⟨before, z, after, hsplit, hbefore, hz⟩ := h
        cases before with
        | nil =>
            obtain ⟨rfl, rfl⟩ := List.cons.inj hsplit
            exact Or.inl (bind_eq_error_iff.mpr (Or.inl hz))
        | cons w before =>
            obtain ⟨rfl, rfl⟩ := List.cons.inj hsplit
            obtain ⟨y, hy⟩ := hbefore x List.mem_cons_self
            exact Or.inr ⟨_, bind_eq_ok_iff.mpr ⟨y, hy, rfl⟩, ih.mpr
              ⟨before, z, after, rfl, fun v hv => hbefore v (List.mem_cons_of_mem _ hv), hz⟩⟩

/-- A loop of checks returns where all of them do. -/
theorem forM_eq_ok_iff {check : α → Except ε Unit} {l : List α} {u : Unit} :
    l.forM check = .ok u ↔ ∀ x ∈ l, check x = .ok () := by
  induction l with
  | nil => exact iff_of_true rfl (by simp)
  | cons x l ih =>
      show (check x >>= fun _ => l.forM check) = _ ↔ _
      rw [bind_eq_ok_iff, List.forall_mem_cons]
      constructor
      · intro h
        obtain ⟨_, hx, hl⟩ := h
        exact ⟨hx, ih.mp hl⟩
      · intro h
        exact ⟨(), h.1, ih.mpr h.2⟩

/-- It stops at the first one that does not. -/
theorem forM_eq_error_iff {check : α → Except ε Unit} {l : List α} {e : ε} :
    l.forM check = .error e ↔ ∃ before x after, l = before ++ x :: after ∧
      (∀ y ∈ before, check y = .ok ()) ∧ check x = .error e := by
  induction l with
  | nil =>
      constructor
      · intro h
        exact absurd h pure_ne_error
      · intro h
        obtain ⟨before, x, after, hsplit, -⟩ := h
        simp at hsplit
  | cons x l ih =>
      show (check x >>= fun _ => l.forM check) = _ ↔ _
      rw [bind_eq_error_iff]
      constructor
      · intro h
        rcases h with hx | ⟨_, hx, hrest⟩
        · exact ⟨[], x, l, rfl, by simp, hx⟩
        · obtain ⟨before, z, after, rfl, hbefore, hz⟩ := ih.mp hrest
          exact ⟨x :: before, z, after, rfl, List.forall_mem_cons.mpr ⟨hx, hbefore⟩, hz⟩
      · intro h
        obtain ⟨before, z, after, hsplit, hbefore, hz⟩ := h
        cases before with
        | nil =>
            obtain ⟨rfl, rfl⟩ := List.cons.inj hsplit
            exact Or.inl hz
        | cons w before =>
            obtain ⟨rfl, rfl⟩ := List.cons.inj hsplit
            rw [List.forall_mem_cons] at hbefore
            exact Or.inr ⟨(), hbefore.1, ih.mpr ⟨before, z, after, rfl, hbefore.2, hz⟩⟩

end Except

/-- Every item has an answer exactly when the list has a list of answers. -/
theorem exists_forall₂_iff {α β : Type} {R : α → β → Prop} {l : List α} :
    (∃ ys, List.Forall₂ R l ys) ↔ ∀ x ∈ l, ∃ y, R x y := by
  induction l with
  | nil =>
      constructor
      · intro _ x hx
        cases hx
      · intro _
        exact ⟨[], List.Forall₂.nil⟩
  | cons x l ih =>
      rw [List.forall_mem_cons, ← ih]
      constructor
      · intro h
        obtain ⟨ys, h⟩ := h
        cases h with
        | cons hx hl => exact ⟨⟨_, hx⟩, ⟨_, hl⟩⟩
      · intro h
        obtain ⟨⟨y, hx⟩, ys, hl⟩ := h
        exact ⟨y :: ys, List.Forall₂.cons hx hl⟩

theorem exists_mem_of_forall₂ {α β : Type} {R : α → β → Prop} {l : List α} {ys : List β}
    (h : List.Forall₂ R l ys) {y : β} (hy : y ∈ ys) : ∃ x ∈ l, R x y := by
  induction h with
  | nil => cases hy
  | cons hx _ ih =>
      rcases List.mem_cons.mp hy with rfl | hy
      · exact ⟨_, List.mem_cons_self, hx⟩
      · obtain ⟨x, hmem, hx⟩ := ih hy
        exact ⟨x, List.mem_cons_of_mem _ hmem, hx⟩

theorem mapM_eq_some_iff {α β : Type} {f : α → Option β} {l : List α} {ys : List β} :
    l.mapM f = some ys ↔ List.Forall₂ (fun x y => f x = some y) l ys := by
  induction l generalizing ys with
  | nil =>
      simp only [List.mapM_nil, List.forall₂_nil_left_iff]
      exact ⟨fun h => (Option.some.inj h).symm, fun h => congrArg some h.symm⟩
  | cons x l ih =>
      simp only [List.mapM_cons, Option.bind_eq_bind, Option.bind_eq_some_iff]
      constructor
      · intro h
        obtain ⟨y, hy, ys', hys, h⟩ := h
        cases h
        exact List.Forall₂.cons hy (ih.mp hys)
      · intro h
        cases h with
        | cons hy hys => exact ⟨_, hy, _, ih.mpr hys, rfl⟩

end ChaosDemo
