/-
ChaosDemo/Triple.lean

Pre- and postconditions of a program that runs alone.  `Triple serve P p Q E` says:
from a state with `P`, the program `p` either returns `a` in a state with `Q a`, or
raises in a state with `E`.  Every program comes to its end, so there is nothing to
say about termination.

One rule for each construct of `Prog`.  A function of the source gets one triple, and
the proof of its callers uses that triple by name.
-/
import ChaosDemo.Prog

namespace CallTree

variable {S : Sig} {ε α β σ : Type} {serve : σ → (o : S.Op) → Except ε (S.Ret o) × σ}

/-- From `P`, `p` returns in `Q` or raises in `E`. -/
def Triple (serve : σ → (o : S.Op) → Except ε (S.Ret o) × σ) (P : σ → Prop) (p : Prog S ε α)
    (Q : α → σ → Prop) (E : σ → Prop) : Prop :=
  ∀ s, P s → match p.eval serve s with
    | (.ok a, s') => Q a s'
    | (.error _, s') => E s'

namespace Triple

variable {P P' : σ → Prop} {p : Prog S ε α} {f : α → Prog S ε β} {Q : α → σ → Prop}
  {Q' : β → σ → Prop} {E : σ → Prop}

theorem ret {a : α} (h : ∀ s, P s → Q a s) : Triple serve P (.ret a : Prog S ε α) Q E := h

theorem raise {e : ε} (h : ∀ s, P s → E s) : Triple serve P (.raise e : Prog S ε α) Q E := h

theorem ofExcept {r : Except ε α} (hok : ∀ a s, r = .ok a → P s → Q a s)
    (herr : ∀ s, P s → E s) : Triple serve P (.ofExcept r : Prog S ε α) Q E := by
  cases r with
  | ok a => exact ret fun s hs => hok a s rfl hs
  | error e => exact raise herr

/-- A stronger precondition and a weaker postcondition. -/
theorem conseq {R : α → σ → Prop} (h : Triple serve P' p R E) (hpre : ∀ s, P s → P' s)
    (hpost : ∀ a s, R a s → Q a s) : Triple serve P p Q E := by
  intro s hs
  have hrun := h s (hpre s hs)
  rcases heval : p.eval serve s with ⟨e | a, s'⟩ <;> rw [heval] at hrun
  · exact hrun
  · exact hpost a s' hrun

/-- Sequencing. -/
theorem bind {R : α → σ → Prop} (hp : Triple serve P p R E)
    (hf : ∀ a, Triple serve (R a) (f a) Q' E) : Triple serve P (p >>= f) Q' E := by
  intro s hs
  have hrun := hp s hs
  rw [Prog.eval_bind]
  rcases heval : p.eval serve s with ⟨e | a, s'⟩ <;> rw [heval] at hrun
  · exact hrun
  · exact hf a s' hrun

theorem ite {c : Prop} [Decidable c] {q : Prog S ε α} (hp : c → Triple serve P p Q E)
    (hq : ¬ c → Triple serve P q Q E) : Triple serve P (if c then p else q) Q E := by
  by_cases hc : c
  · rw [if_pos hc]
    exact hp hc
  · rw [if_neg hc]
    exact hq hc

/-- A program of which the value it returns and the state it leaves are known. -/
theorem of_eval {v : σ → α} {g : σ → σ} (heval : ∀ s, p.eval serve s = (.ok (v s), g s))
    (h : ∀ s, P s → Q (v s) (g s)) : Triple serve P p Q E := by
  intro s hs
  rw [heval s]
  exact h s hs

/-- A fact about the state before is at hand for what follows. -/
theorem of_forall (h : ∀ s₀, P s₀ → Triple serve (· = s₀) p Q E) : Triple serve P p Q E :=
  fun s hs => h s hs s rfl

/-- However it ends. -/
theorem run {I : σ → Prop} (h : Triple serve P p Q E) (hQ : ∀ a s, Q a s → I s)
    (hE : ∀ s, E s → I s) {s : σ} (hs : P s) : I (p.eval serve s).2 := by
  have hrun := h s hs
  rcases heval : p.eval serve s with ⟨e | a, s'⟩ <;> rw [heval] at hrun
  · exact hE s' hrun
  · exact hQ a s' hrun

end Triple

end CallTree
