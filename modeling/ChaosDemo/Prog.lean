/-
ChaosDemo/Prog.lean

Programs as trees of calls.  A program over a signature `S` either returns,
raises, or makes one call of `S` and goes on with what the call answered:

    Prog S ε α  =  ret a  |  raise e  |  call o k

Every call may answer with a value or raise an exception, so the continuation
takes an `Except ε (S.Ret o)` and exceptions need no second mechanism: a
`try`/`except` block is `handle`, which is a recursion on the tree.

Nothing is said here about what a call does.  That comes from the reader of
the tree: `Obeys` (one program against a protocol, ChaosDemo/Obeys.lean) and
`Reach` (many programs over one shared state, ChaosDemo/Interleave.lean).
-/
import Mathlib.Control.Basic

namespace CallTree

/-- A signature: the calls a program may make, and what each one returns. -/
structure Sig where
  Op : Type
  Ret : Op → Type

/-- A program over `S` that raises `ε` or returns `α`. -/
inductive Prog (S : Sig) (ε α : Type) : Type
  | ret (a : α)
  | raise (e : ε)
  | call (o : S.Op) (k : Except ε (S.Ret o) → Prog S ε α)

variable {S T : Sig} {ε α β γ : Type}

namespace Prog

/-! ### Sequencing and exceptions -/

/-- Run `p`, then go on with what it returned. -/
def bind : Prog S ε α → (α → Prog S ε β) → Prog S ε β
  | ret a, f => f a
  | raise e, _ => raise e
  | call o k, f => call o fun r => (k r).bind f

/-- Run `p`; where it raises, go on with the handler. -/
def handle : Prog S ε α → (ε → Prog S ε α) → Prog S ε α
  | ret a, _ => ret a
  | raise e, h => h e
  | call o k, h => call o fun r => (k r).handle h

/-- Turn the outcome of `p`, exception or not, into a value. -/
def attempt : Prog S ε α → Prog S ε (Except ε α)
  | ret a => ret (.ok a)
  | raise e => ret (.error e)
  | call o k => call o fun r => (k r).attempt

/-- Return a value or raise, as the argument says. -/
def ofExcept : Except ε α → Prog S ε α
  | .ok a => ret a
  | .error e => raise e

/-- Whether there is nothing left to do. -/
def finished : Prog S ε α → Bool
  | ret _ => true
  | raise _ => true
  | call _ _ => false

theorem finished_iff {p : Prog S ε α} : p.finished = true ↔ ∃ res, p = ofExcept res := by
  cases p with
  | ret a => exact ⟨fun _ => ⟨.ok a, rfl⟩, fun _ => rfl⟩
  | raise e => exact ⟨fun _ => ⟨.error e, rfl⟩, fun _ => rfl⟩
  | call o k =>
      constructor
      · intro h
        cases h
      · rintro ⟨res, hres⟩
        cases res <;> cases hres

/-- What the program has returned. -/
def value? : Prog S ε α → Option α
  | ret a => some a
  | _ => none

theorem value?_eq_some {p : Prog S ε α} {a : α} : p.value? = some a ↔ p = ret a := by
  cases p with
  | ret b => simp [value?]
  | raise e => simp [value?]
  | call o k => simp [value?]

/-- One call, its answer passed on. -/
def perform (o : S.Op) : Prog S ε (S.Ret o) := call o ofExcept

instance : Monad (Prog S ε) where
  pure := ret
  bind := bind

instance : MonadExceptOf ε (Prog S ε) where
  throw := raise
  tryCatch := handle

@[simp] theorem pure_eq (a : α) : (pure a : Prog S ε α) = ret a := rfl

@[simp] theorem throw_eq (e : ε) : (throw e : Prog S ε α) = raise e := rfl

@[simp] theorem ret_bind (a : α) (f : α → Prog S ε β) :
    (ret a >>= f) = f a := rfl

@[simp] theorem raise_bind (e : ε) (f : α → Prog S ε β) :
    ((raise e : Prog S ε α) >>= f) = raise e := rfl

@[simp] theorem call_bind (o : S.Op) (k : Except ε (S.Ret o) → Prog S ε α)
    (f : α → Prog S ε β) :
    (call o k >>= f) = call o fun r => k r >>= f := rfl

@[simp] theorem tryCatch_eq (p : Prog S ε α) (h : ε → Prog S ε α) :
    tryCatch p h = p.handle h := rfl

@[simp] theorem ret_handle (a : α) (h : ε → Prog S ε α) :
    (ret a : Prog S ε α).handle h = ret a := rfl

@[simp] theorem raise_handle (e : ε) (h : ε → Prog S ε α) :
    (raise e : Prog S ε α).handle h = h e := rfl

theorem bind_assoc (p : Prog S ε α) (f : α → Prog S ε β) (g : β → Prog S ε γ) :
    p >>= f >>= g = p >>= fun a => f a >>= g := by
  induction p with
  | ret a => rfl
  | raise e => rfl
  | call o k ih =>
      simp only [call_bind]
      congr 1
      funext r
      exact ih r

theorem bind_ret (p : Prog S ε α) : p >>= ret = p := by
  induction p with
  | ret a => rfl
  | raise e => rfl
  | call o k ih =>
      simp only [call_bind]
      congr 1
      funext r
      exact ih r

instance : LawfulMonad (Prog S ε) :=
  LawfulMonad.mk' _ bind_ret (fun _ _ => rfl) bind_assoc

/-! ### Interpretation of one signature in another -/

/-- Replace every call of `p` by a program over `T`.  An exception of that
program is the answer of the call, so the handlers of `p` still see it. -/
def interp (f : (o : S.Op) → Prog T ε (S.Ret o)) : Prog S ε α → Prog T ε α
  | ret a => ret a
  | raise e => raise e
  | call o k => (f o).attempt >>= fun r => (k r).interp f

@[simp] theorem interp_ret (f : (o : S.Op) → Prog T ε (S.Ret o)) (a : α) :
    (ret a : Prog S ε α).interp f = ret a := rfl

@[simp] theorem interp_raise (f : (o : S.Op) → Prog T ε (S.Ret o)) (e : ε) :
    (raise e : Prog S ε α).interp f = raise e := rfl

@[simp] theorem interp_call (f : (o : S.Op) → Prog T ε (S.Ret o)) (o : S.Op)
    (k : Except ε (S.Ret o) → Prog S ε α) :
    (call o k).interp f = (f o).attempt >>= fun r => (k r).interp f := rfl

theorem interp_bind (f : (o : S.Op) → Prog T ε (S.Ret o)) (p : Prog S ε α)
    (g : α → Prog S ε β) : (p >>= g).interp f = p.interp f >>= fun a => (g a).interp f := by
  induction p with
  | ret a => rfl
  | raise e => rfl
  | call o k ih =>
      simp only [call_bind, interp_call, ih]
      exact (bind_assoc _ _ _).symm

/-! ### Evaluation -/

/-- Run `p` alone against a state, every call answered at once. -/
def eval {σ : Type} (serve : σ → (o : S.Op) → Except ε (S.Ret o) × σ) :
    Prog S ε α → σ → Except ε α × σ
  | ret a, s => (.ok a, s)
  | raise e, s => (.error e, s)
  | call o k, s => (k (serve s o).1).eval serve (serve s o).2

section Eval

variable {σ : Type} {serve : σ → (o : S.Op) → Except ε (S.Ret o) × σ}

@[simp] theorem eval_ret (a : α) (s : σ) :
    (ret a : Prog S ε α).eval serve s = (.ok a, s) := rfl

@[simp] theorem eval_raise (e : ε) (s : σ) :
    (raise e : Prog S ε α).eval serve s = (.error e, s) := rfl

@[simp] theorem eval_call (o : S.Op) (k : Except ε (S.Ret o) → Prog S ε α) (s : σ) :
    (call o k).eval serve s = (k (serve s o).1).eval serve (serve s o).2 := rfl

@[simp] theorem eval_perform (o : S.Op) (s : σ) :
    (perform o : Prog S ε (S.Ret o)).eval serve s = serve s o := by
  rw [perform, eval_call]
  rcases serve s o with ⟨- | -, s'⟩ <;> rfl

theorem eval_bind (p : Prog S ε α) (g : α → Prog S ε β) (s : σ) :
    (p >>= g).eval serve s =
      match p.eval serve s with
      | (.ok a, s') => (g a).eval serve s'
      | (.error e, s') => (.error e, s') := by
  induction p generalizing s with
  | ret a => rfl
  | raise e => rfl
  | call o k ih => exact ih (serve s o).1 (serve s o).2

theorem eval_bind_ok {p : Prog S ε α} {g : α → Prog S ε β} {s s' : σ} {a : α}
    (h : p.eval serve s = (.ok a, s')) :
    (p >>= g).eval serve s = (g a).eval serve s' := by
  rw [eval_bind, h]

theorem eval_attempt (p : Prog S ε α) (s : σ) :
    p.attempt.eval serve s = (.ok (p.eval serve s).1, (p.eval serve s).2) := by
  induction p generalizing s with
  | ret a => rfl
  | raise e => rfl
  | call o k ih => exact ih (serve s o).1 (serve s o).2

/-- An interpreted program runs as the program itself does, each of its calls served by
a run of the program in its place. -/
theorem eval_interp {serve : σ → (o : T.Op) → Except ε (T.Ret o) × σ}
    (f : (o : S.Op) → Prog T ε (S.Ret o)) (p : Prog S ε α) (s : σ) :
    (p.interp f).eval serve s = p.eval (fun s o => (f o).eval serve s) s := by
  induction p generalizing s with
  | ret a => rfl
  | raise e => rfl
  | call o k ih =>
      rw [interp_call, eval_bind_ok (eval_attempt (f o) s), eval_call]
      exact ih _ _

theorem eval_handle_ok {p : Prog S ε α} {g : ε → Prog S ε α} {s s' : σ} {a : α}
    (h : p.eval serve s = (.ok a, s')) : (p.handle g).eval serve s = (.ok a, s') := by
  induction p generalizing s with
  | ret b => exact h
  | raise e => cases h
  | call o k ih => exact ih (serve s o).1 h

end Eval

end Prog

/-! ### Calls and histories -/

/-- A call that was made, with its answer. -/
structure Event (S : Sig) (ε : Type) where
  op : S.Op
  reply : Except ε (S.Ret op)

/-- Whether the call raised. -/
def Event.failed (e : Event S ε) : Bool :=
  match e.reply with
  | .ok _ => false
  | .error _ => true

/-- The calls a program has made so far, the latest first. -/
abbrev History (S : Sig) (ε : Type) := List (Event S ε)

/-- `Outcome p h h' res`: `p`, started with the history `h`, may end with the
history `h'` and the outcome `res`; the answers of its calls are free. -/
inductive Outcome : Prog S ε α → History S ε → History S ε → Except ε α → Prop
  | ret {a h} : Outcome (.ret a) h h (.ok a)
  | raise {e h} : Outcome (.raise e) h h (.error e)
  | call {o k h h' res} (r : Except ε (S.Ret o)) :
      Outcome (k r) (⟨o, r⟩ :: h) h' res → Outcome (.call o k) h h' res

theorem Outcome.bind_ok {p : Prog S ε α} {f : α → Prog S ε β} {h h₁ h₂ : History S ε}
    {a : α} {res : Except ε β} (hp : Outcome p h h₁ (.ok a))
    (hf : Outcome (f a) h₁ h₂ res) : Outcome (p >>= f) h h₂ res := by
  generalize hr : (Except.ok a : Except ε α) = r at hp
  induction hp with
  | ret => cases hr; exact hf
  | raise => cases hr
  | call r _ ih => exact .call r (ih hf hr)

theorem Outcome.handle_ok {p : Prog S ε α} {g : ε → Prog S ε α} {h h₁ : History S ε}
    {a : α} (hp : Outcome p h h₁ (.ok a)) : Outcome (p.handle g) h h₁ (.ok a) := by
  generalize hr : (Except.ok a : Except ε α) = r at hp
  induction hp with
  | ret => exact .ret
  | raise => cases hr
  | call r _ ih => exact .call r (ih hr)

theorem Outcome.perform {o : S.Op} {h : History S ε} (r : Except ε (S.Ret o)) :
    Outcome (.perform o) h (⟨o, r⟩ :: h) r := by
  refine .call r ?_
  cases r with
  | ok a => exact .ret
  | error e => exact .raise

/-- What a return leaves. -/
theorem Outcome.of_ret {a : α} {h h' : History S ε} {res : Except ε α}
    (hout : Outcome (.ret a) h h' res) : h' = h ∧ res = .ok a := by
  cases hout
  exact ⟨rfl, rfl⟩

theorem Outcome.of_raise {e : ε} {h h' : History S ε} {res : Except ε α}
    (hout : Outcome (.raise e) h h' res) : h' = h ∧ res = .error e := by
  cases hout
  exact ⟨rfl, rfl⟩

theorem Outcome.of_ofExcept {r : Except ε α} {h h' : History S ε} {res : Except ε α}
    (hout : Outcome (.ofExcept r) h h' res) : h' = h ∧ res = r := by
  cases r with
  | ok a => exact hout.of_ret
  | error e => exact hout.of_raise

/-- The answer of one call is its outcome. -/
theorem Outcome.of_perform {o : S.Op} {h h' : History S ε} {res : Except ε (S.Ret o)}
    (hout : Outcome (.perform o) h h' res) : h' = ⟨o, res⟩ :: h := by
  cases hout with
  | call r hrest =>
      obtain ⟨hh, hres⟩ := hrest.of_ofExcept
      rw [hh, hres]

/-- A sequence that returns went through both parts. -/
theorem Outcome.of_bind {p : Prog S ε α} {f : α → Prog S ε β} {h h₂ : History S ε} {b : β}
    (hout : Outcome (p >>= f) h h₂ (.ok b)) :
    ∃ a h₁, Outcome p h h₁ (.ok a) ∧ Outcome (f a) h₁ h₂ (.ok b) := by
  induction p generalizing h with
  | ret a => exact ⟨a, h, .ret, hout⟩
  | raise e => cases hout
  | call o k ih =>
      cases hout with
      | call r hrest =>
          obtain ⟨a, h₁, hp, hf⟩ := ih r hrest
          exact ⟨a, h₁, .call r hp, hf⟩

/-- `attempt` returns the outcome. -/
theorem Outcome.of_attempt {p : Prog S ε α} {h h' : History S ε} {res : Except ε (Except ε α)}
    (hout : Outcome p.attempt h h' res) : ∃ r, res = .ok r ∧ Outcome p h h' r := by
  induction p generalizing h with
  | ret a =>
      obtain ⟨rfl, rfl⟩ := hout.of_ret
      exact ⟨_, rfl, .ret⟩
  | raise e =>
      obtain ⟨rfl, rfl⟩ := hout.of_ret
      exact ⟨_, rfl, .raise⟩
  | call o k ih =>
      cases hout with
      | call r hrest =>
          obtain ⟨r', hr', hp⟩ := ih r hrest
          exact ⟨r', hr', .call r hp⟩

/-- What ends in an outcome lets `attempt` return it. -/
theorem Outcome.attempt {p : Prog S ε α} {h h' : History S ε} {res : Except ε α}
    (hout : Outcome p h h' res) : Outcome p.attempt h h' (.ok res) := by
  induction hout with
  | ret => exact .ret
  | raise => exact .ret
  | call r _ ih => exact .call r ih

/-- A run only adds to the history. -/
theorem Outcome.history_suffix {p : Prog S ε α} {h h' : History S ε}
    {res : Except ε α} (hout : Outcome p h h' res) : ∃ new, h' = new ++ h := by
  induction hout with
  | ret => exact ⟨[], rfl⟩
  | raise => exact ⟨[], rfl⟩
  | @call o k h h' res r hrest ih =>
      obtain ⟨new, rfl⟩ := ih
      exact ⟨new ++ [⟨o, r⟩], by simp⟩

/-- The answers decide the outcome. -/
theorem Outcome.unique {p : Prog S ε α} {h h' : History S ε} {res res' : Except ε α}
    (hout : Outcome p h h' res) (hout' : Outcome p h h' res') : res = res' := by
  induction p generalizing h with
  | ret a => rw [hout.of_ret.2, hout'.of_ret.2]
  | raise e => rw [hout.of_raise.2, hout'.of_raise.2]
  | call o k ih =>
      cases hout with
      | call r hrest =>
          cases hout' with
          | call r' hrest' =>
              -- the two histories have the same first event, and so the same answer
              obtain ⟨new, hnew⟩ := hrest.history_suffix
              obtain ⟨new', hnew'⟩ := hrest'.history_suffix
              have hsame : (⟨o, r⟩ : Event S ε) :: h = ⟨o, r'⟩ :: h :=
                (List.append_inj' (hnew.symm.trans hnew') rfl).2
              cases hsame
              exact ih r hrest hrest'

end CallTree
