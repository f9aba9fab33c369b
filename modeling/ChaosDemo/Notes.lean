/-
ChaosDemo/Notes.lean

Programs with notes.  What a call was made for is not in the call: of two calls of
`random` one may be a percentage and the other a drop rate.  A note says it,

    Prog.note n        does nothing, and is always answered

and an account reads the notes and the calls in the order of the run (`noted`).  The
notes change nothing: erased (`Prog.erase`) they leave a program that runs as the one
with notes does (`eval_erase`), so what an account says of the one is true of the other.
-/
import ChaosDemo.Obeys

namespace CallTree

variable {S : Sig} {N ε α β σ A : Type}

/-- The signature with notes. -/
abbrev Sig.noted (S : Sig) (N : Type) : Sig where
  Op := S.Op ⊕ N
  Ret := Sum.elim S.Ret fun _ => Unit

namespace Prog

/-- Make a note. -/
def note (n : N) : Prog (S.noted N) ε Unit := .perform (S := S.noted N) (.inr n)

/-- A program that makes no notes. -/
def plain (p : Prog S ε α) : Prog (S.noted N) ε α :=
  p.interp fun o => .perform (S := S.noted N) (.inl o)

/-- The program without its notes. -/
def erase : Prog (S.noted N) ε α → Prog S ε α
  | ret a => ret a
  | raise e => raise e
  | call (.inl o) k => call o fun r => (k r).erase
  | call (.inr _) k => (k (.ok ())).erase

@[simp] theorem erase_ret (a : α) : (ret a : Prog (S.noted N) ε α).erase = ret a := rfl

@[simp] theorem erase_raise (e : ε) : (raise e : Prog (S.noted N) ε α).erase = raise e := rfl

@[simp] theorem erase_ofExcept (r : Except ε α) :
    (ofExcept r : Prog (S.noted N) ε α).erase = ofExcept r := by
  cases r <;> rfl

theorem erase_bind (p : Prog (S.noted N) ε α) (f : α → Prog (S.noted N) ε β) :
    (p >>= f).erase = p.erase >>= fun a => (f a).erase := by
  induction p with
  | ret a => rfl
  | raise e => rfl
  | call o k ih =>
      cases o with
      | inl o =>
          simp only [call_bind, erase]
          congr 1
          funext r
          exact ih r
      | inr n => exact ih (.ok ())

theorem erase_attempt (p : Prog (S.noted N) ε α) : p.attempt.erase = p.erase.attempt := by
  induction p with
  | ret a => rfl
  | raise e => rfl
  | call o k ih =>
      cases o with
      | inl o =>
          simp only [attempt, erase]
          congr 1
          funext r
          exact ih r
      | inr n => exact ih (.ok ())

theorem erase_note_bind (n : N) (f : Unit → Prog (S.noted N) ε α) :
    (note n >>= f).erase = (f ()).erase := rfl

theorem erase_ite {c : Prop} [Decidable c] (p q : Prog (S.noted N) ε α) :
    (if c then p else q).erase = if c then p.erase else q.erase := by
  split <;> rfl

theorem plain_call (o : S.Op) (k : Except ε (S.Ret o) → Prog S ε α) :
    (plain (call o k) : Prog (S.noted N) ε α) =
      call (S := S.noted N) (.inl o) fun r => plain (k r) := by
  show call (S := S.noted N) (.inl o) _ = _
  congr 1
  funext r
  cases r <;> rfl

@[simp] theorem erase_plain (p : Prog S ε α) : (plain p : Prog (S.noted N) ε α).erase = p := by
  induction p with
  | ret a => rfl
  | raise e => rfl
  | call o k ih =>
      rw [plain_call]
      simp only [erase]
      congr 1
      funext r
      exact ih r

end Prog

/-! ### Accounts -/

/-- Run with an account on the side, which reads every call and every note. -/
def noted (serve : σ → (o : S.Op) → Except ε (S.Ret o) × σ) (enter : A → S.Op ⊕ N → A) :
    σ × A → (o : (S.noted N).Op) → Except ε ((S.noted N).Ret o) × (σ × A)
  | (s, a), .inl o => ((serve s o).1, (serve s o).2, enter a (.inl o))
  | (s, a), .inr n => (.ok (), s, enter a (.inr n))

section Noted

variable {serve : σ → (o : S.Op) → Except ε (S.Ret o) × σ} {enter : A → S.Op ⊕ N → A}

/-- **The notes change nothing.** -/
theorem eval_erase (p : Prog (S.noted N) ε α) (s : σ) (a : A) :
    p.erase.eval serve s =
      ((p.eval (noted serve enter) (s, a)).1, (p.eval (noted serve enter) (s, a)).2.1) := by
  induction p generalizing s a with
  | ret b => rfl
  | raise e => rfl
  | call o k ih =>
      cases o with
      | inl o => exact ih _ _ _
      | inr n => exact ih _ _ _

@[simp] theorem eval_note_bind (n : N) (f : Unit → Prog (S.noted N) ε α) (s : σ) (a : A) :
    (Prog.note n >>= f).eval (noted serve enter) (s, a) =
      (f ()).eval (noted serve enter) (s, enter a (.inr n)) := rfl

/-- A program without notes, all of whose calls leave the account alone. -/
theorem eval_plain {C : S.Op → Prop} {p : Prog S ε α} (hp : p.Only C)
    (hC : ∀ a o, C o → enter a (.inl o) = a) (s : σ) (a : A) :
    (Prog.plain p).eval (noted serve enter) (s, a) =
      ((p.eval serve s).1, (p.eval serve s).2, a) := by
  induction p generalizing s with
  | ret b => rfl
  | raise e => rfl
  | call o k ih =>
      rw [Prog.plain_call, Prog.eval_call]
      simp only [noted, hC a o hp.1]
      exact ih _ (hp.2 _) _

/-- What every entry keeps, a run keeps. -/
theorem account_keeps {I : A → Prop} (henter : ∀ a x, I a → I (enter a x))
    (p : Prog (S.noted N) ε α) {s : σ} {a : A} (ha : I a) :
    I (p.eval (noted serve enter) (s, a)).2.2 := by
  induction p generalizing s a with
  | ret b => exact ha
  | raise e => exact ha
  | call o k ih =>
      cases o with
      | inl o => exact ih _ (henter a _ ha)
      | inr n => exact ih _ (henter a _ ha)

end Noted

end CallTree
