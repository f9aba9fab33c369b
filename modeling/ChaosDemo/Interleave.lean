/-
ChaosDemo/Interleave.lean

Concurrent runs.  Any number of programs share one state.  A step of a run is
one call of one program, served at once by the world, or a move of the world
itself (a clock that advances).  The order of the steps is free, so a fact
about every reachable configuration is a fact about every interleaving.

The run keeps a log of the served calls with the state before and after each.
The log is where statements about a run are made, and it is also the only
auxiliary variable the proofs need: what one program has done so far is the
part of the log that is its own (`own`).

`Reach.invariant` is the rule all safety proofs use.  Its call case knows two
things about the caller: the protocol of its program (`Obeys`) allows the call,
and the world served it.
-/
import Mathlib.Logic.Function.Basic
import Mathlib.Logic.Relation
import Mathlib.Order.Basic
import ChaosDemo.Obeys

namespace CallTree

variable {S : Sig} {ε α σ ι : Type}

/-- What answers the calls and what moves on its own.  `Choice` resolves
whatever the answer leaves open; `none` says the choice is impossible. -/
structure World (S : Sig) (ε σ : Type) where
  Choice : Type
  Drift : Type
  serve : σ → (o : S.Op) → Choice → Option (Except ε (S.Ret o) × σ)
  drift : σ → Drift → Option σ

/-- A served call: who made it, the call with its answer, and the state before
and after. -/
structure Entry (S : Sig) (ε σ ι : Type) where
  who : ι
  event : Event S ε
  before : σ
  after : σ

/-- The served calls of a run, the latest first. -/
abbrev Log (S : Sig) (ε σ ι : Type) := List (Entry S ε σ ι)

/-- The shared state, what is left of every program, and the log. -/
structure Config (S : Sig) (ε α σ ι : Type) where
  state : σ
  thread : ι → Prog S ε α
  log : Log S ε σ ι

/-- One step of a run: a call of program `i`, or a move of the world. -/
inductive Move (W : World S ε σ) (ι : Type)
  | call (i : ι) (x : W.Choice)
  | drift (d : W.Drift)

variable [DecidableEq ι] {W : World S ε σ}

/-- The part of the log that belongs to `i`, as the history of its program. -/
def own (i : ι) (l : Log S ε σ ι) : History S ε :=
  (l.filter (·.who = i)).map (·.event)

@[simp] theorem own_nil (i : ι) : own i ([] : Log S ε σ ι) = [] := rfl

@[simp] theorem own_cons_self (e : Entry S ε σ ι) (l : Log S ε σ ι) :
    own e.who (e :: l) = e.event :: own e.who l := by
  simp [own]

theorem own_cons_of_ne {i : ι} {e : Entry S ε σ ι} (h : e.who ≠ i)
    (l : Log S ε σ ι) : own i (e :: l) = own i l := by
  simp [own, h]

theorem own_append (i : ι) (l l' : Log S ε σ ι) : own i (l ++ l') = own i l ++ own i l' := by
  simp [own]

theorem mem_own {i : ι} {ev : Event S ε} {l : Log S ε σ ι} :
    ev ∈ own i l ↔ ∃ e ∈ l, e.who = i ∧ e.event = ev := by
  simp [own, and_assoc]

/-! ### Steps and runs -/

/-- Serve the move `m`; `none` where it is impossible. -/
def Config.next (W : World S ε σ) (c : Config S ε α σ ι) :
    Move W ι → Option (Config S ε α σ ι)
  | .call i x =>
      match c.thread i with
      | .call o k =>
          (W.serve c.state o x).map fun a =>
            { state := a.2
              thread := Function.update c.thread i (k a.1)
              log := ⟨i, ⟨o, a.1⟩, c.state, a.2⟩ :: c.log }
      | _ => none
  | .drift d => (W.drift c.state d).map fun s => { c with state := s }

/-- The configurations that a run from `c₀` can reach when every configuration
on the way, the last one included, satisfies `P`. -/
inductive Reach (W : World S ε σ) (P : σ → Log S ε σ ι → Prop)
    (c₀ : Config S ε α σ ι) : Config S ε α σ ι → Prop
  | start : P c₀.state c₀.log → Reach W P c₀ c₀
  | step {c c' : Config S ε α σ ι} (m : Move W ι) :
      Reach W P c₀ c → c.next W m = some c' → P c'.state c'.log →
      Reach W P c₀ c'

/-- What one step can do, said once for all the proofs about runs. -/
theorem Config.next_cases {c c' : Config S ε α σ ι} {m : Move W ι}
    (h : c.next W m = some c') :
    (∃ i x o k r s, c.thread i = .call o k ∧ W.serve c.state o x = some (r, s) ∧
      c' = { state := s
             thread := Function.update c.thread i (k r)
             log := ⟨i, ⟨o, r⟩, c.state, s⟩ :: c.log }) ∨
    (∃ d s, W.drift c.state d = some s ∧ c' = { c with state := s }) := by
  cases m with
  | call i x =>
      left
      rcases ht : c.thread i with a | e | ⟨o, k⟩
      · simp [Config.next, ht] at h
      · simp [Config.next, ht] at h
      · simp only [Config.next, ht, Option.map_eq_some_iff] at h
        obtain ⟨⟨r, s⟩, hs, rfl⟩ := h
        exact ⟨i, x, o, k, r, s, ht, hs, rfl⟩
  | drift d =>
      right
      simp only [Config.next, Option.map_eq_some_iff] at h
      obtain ⟨s, hs, rfl⟩ := h
      exact ⟨d, s, hs, rfl⟩

theorem Reach.holds {P : σ → Log S ε σ ι → Prop} {c₀ c : Config S ε α σ ι}
    (h : Reach W P c₀ c) : P c.state c.log := by
  cases h with
  | start hP => exact hP
  | step _ _ _ hP => exact hP

theorem Reach.mono {P P' : σ → Log S ε σ ι → Prop} {c₀ c : Config S ε α σ ι}
    (h : Reach W P c₀ c) (hP : ∀ s l, P s l → P' s l) : Reach W P' c₀ c := by
  induction h with
  | start h₀ => exact .start (hP _ _ h₀)
  | step m _ hm hc ih => exact .step m ih hm (hP _ _ hc)

/-- One run after another. -/
theorem Reach.trans {P : σ → Log S ε σ ι → Prop} {c₀ c₁ c₂ : Config S ε α σ ι}
    (h₁ : Reach W P c₀ c₁) (h₂ : Reach W P c₁ c₂) : Reach W P c₀ c₂ := by
  induction h₂ with
  | start _ => exact h₁
  | step m _ hm hP ih => exact ih.step m hm hP

/-! ### The rules -/

/-- In the runs that satisfy `P` the world answers every program as its
protocol expects. -/
def Serves (W : World S ε σ) (P : σ → Log S ε σ ι → Prop) (Pr : ι → Protocol S ε) :
    Prop :=
  ∀ i s l o x r s', W.serve s o x = some (r, s') → P s' (⟨i, ⟨o, r⟩, s, s'⟩ :: l) →
    (Pr i).mayReply (own i l) o r

section Rules

variable {P : σ → Log S ε σ ι → Prop} {Pr : ι → Protocol S ε}
  {Q : ι → Post S ε α} {c₀ c : Config S ε α σ ι}

/-- Along a run every program keeps obeying its protocol, now from its own
part of the log. -/
theorem Reach.obeys (h : Reach W P c₀ c) (hserve : Serves W P Pr)
    (hlog : c₀.log = [])
    (hobeys : ∀ i, Obeys (Pr i) (c₀.thread i) (Q i) []) :
    ∀ i, Obeys (Pr i) (c.thread i) (Q i) (own i c.log) := by
  induction h with
  | start _ => simpa [hlog] using hobeys
  | @step c c' m _ hm hP ih =>
      intro j
      rcases Config.next_cases hm with ⟨i, x, o, k, r, s, ht, hs, rfl⟩ | ⟨d, s, _, rfl⟩
      · by_cases hij : i = j
        · subst hij
          have hi := ih i
          rw [ht] at hi
          have := hi.2 r (hserve i _ _ _ _ _ _ hs hP)
          simpa [own] using this
        · have hown : own j (⟨i, ⟨o, r⟩, c.state, s⟩ :: c.log) = own j c.log :=
            own_cons_of_ne hij _
          simpa [hown, Function.update_of_ne (Ne.symm hij)] using ih j
      · exact ih j

/-- A program that has come to its end satisfies its postcondition. -/
theorem Reach.post (h : Reach W P c₀ c) (hserve : Serves W P Pr)
    (hlog : c₀.log = []) (hobeys : ∀ i, Obeys (Pr i) (c₀.thread i) (Q i) [])
    {i : ι} {res : Except ε α} (ht : c.thread i = .ofExcept res) :
    Q i res (own i c.log) := by
  have := h.obeys hserve hlog hobeys i
  rw [ht] at this
  exact obeys_ofExcept.mp this

/-- **The invariant rule.**  `Inv` holds of every reachable state and log when
it holds at the start, every move of the world keeps it, and every call keeps
it that the protocol of its caller allows. -/
theorem Reach.invariant {Inv : σ → Log S ε σ ι → Prop} (h : Reach W P c₀ c)
    (hserve : Serves W P Pr) (hlog : c₀.log = [])
    (hobeys : ∀ i, Obeys (Pr i) (c₀.thread i) (Q i) [])
    (hinit : P c₀.state [] → Inv c₀.state [])
    (hdrift : ∀ s l d s', Inv s l → P s l → P s' l → W.drift s d = some s' →
      Inv s' l)
    (hcall : ∀ s l i o x r s', Inv s l → P s l →
      P s' (⟨i, ⟨o, r⟩, s, s'⟩ :: l) → (Pr i).mayCall (own i l) o →
      W.serve s o x = some (r, s') → Inv s' (⟨i, ⟨o, r⟩, s, s'⟩ :: l)) :
    Inv c.state c.log := by
  induction h with
  | start h₀ => rw [hlog] at h₀ ⊢; exact hinit h₀
  | @step c c' m hreach hm hP ih =>
      rcases Config.next_cases hm with ⟨i, x, o, k, r, s, ht, hs, rfl⟩ | ⟨d, s, hs, rfl⟩
      · have hi := hreach.obeys hserve hlog hobeys i
        rw [ht] at hi
        exact hcall _ _ i o x r s ih hreach.holds hP hi.1 hs
      · exact hdrift _ _ d s ih hreach.holds hP hs

/-- The invariant rule for what does not depend on the programs. -/
theorem Reach.world_invariant (Inv : σ → Log S ε σ ι → Prop) (h : Reach W P c₀ c)
    (hlog : c₀.log = []) (hinit : Inv c₀.state [])
    (hdrift : ∀ s l d s', Inv s l → P s l → P s' l → W.drift s d = some s' → Inv s' l)
    (hcall : ∀ s l i o x r s', Inv s l → P s l → P s' (⟨i, ⟨o, r⟩, s, s'⟩ :: l) →
      W.serve s o x = some (r, s') → Inv s' (⟨i, ⟨o, r⟩, s, s'⟩ :: l)) :
    Inv c.state c.log := by
  have hserve : Serves W P fun _ : ι => (Protocol.free : Protocol S ε) :=
    fun _ _ _ _ _ _ _ _ _ => trivial
  exact h.invariant hserve hlog (fun i => obeys_free (c₀.thread i) []) (fun _ => hinit) hdrift
    (fun s l i o x r s' hinv hP hP' _ hs => hcall s l i o x r s' hinv hP hP' hs)

/-- What is invariant may be assumed of the runs. -/
theorem Reach.and_invariant {Inv : σ → Log S ε σ ι → Prop} (h : Reach W P c₀ c)
    (hinv : ∀ c', Reach W P c₀ c' → Inv c'.state c'.log) :
    Reach W (fun s l => P s l ∧ Inv s l) c₀ c := by
  induction h with
  | start h₀ => exact .start ⟨h₀, hinv c₀ (.start h₀)⟩
  | step m hreach hm hP ih => exact .step m ih hm ⟨hP, hinv _ (hreach.step m hm hP)⟩

/-- Every call in the log was allowed by the protocol of its caller, at the
point where it was made. -/
theorem Reach.allowed (h : Reach W P c₀ c) (hserve : Serves W P Pr)
    (hlog : c₀.log = []) (hobeys : ∀ i, Obeys (Pr i) (c₀.thread i) (Q i) []) :
    ∀ new e old, c.log = new ++ e :: old → (Pr e.who).mayCall (own e.who old) e.event.op := by
  let Inv : σ → Log S ε σ ι → Prop := fun _ l => ∀ new e old, l = new ++ e :: old →
    (Pr e.who).mayCall (own e.who old) e.event.op
  refine (h.invariant hserve hlog hobeys ?_ ?_ ?_ : Inv c.state c.log)
  · intro _ new e old hl
    simp at hl
  · exact fun _ _ _ _ hinv _ _ _ => hinv
  · intro s l i o x r s' hinv _ _ hcall _ new e old hl
    rcases new with - | ⟨e', new⟩
    · obtain ⟨rfl, rfl⟩ := List.cons.inj hl
      exact hcall
    · exact hinv new e old (List.cons.inj hl).2

end Rules

section One

variable {P : σ → Log S ε σ ι → Prop} {P₀ : Protocol S ε} {Q : Post S ε α}
  {c₀ c : Config S ε α σ ι} {i : ι}

/-- One program keeps to its protocol, whatever the others are. -/
theorem Reach.obeys_one (h : Reach W P c₀ c)
    (hserve : ∀ h s o x r s', W.serve s o x = some (r, s') → P₀.mayReply h o r)
    (hlog : c₀.log = []) (hobeys : Obeys P₀ (c₀.thread i) Q []) :
    Obeys P₀ (c.thread i) Q (own i c.log) ∧
      ∀ new e old, c.log = new ++ e :: old → e.who = i → P₀.mayCall (own i old) e.event.op := by
  let Pr : ι → Protocol S ε := fun j => if j = i then P₀ else .free
  have hi : Pr i = P₀ := if_pos rfl
  have hserves : Serves W P Pr := by
    intro j s l o x r s' hs _
    by_cases hj : j = i
    · rw [show Pr j = P₀ from if_pos hj]
      exact hserve _ _ _ _ _ _ hs
    · rw [show Pr j = .free from if_neg hj]
      trivial
  let Qr : ι → Post S ε α := fun j => if j = i then Q else fun _ _ => True
  have hall : ∀ j, Obeys (Pr j) (c₀.thread j) (Qr j) [] := by
    intro j
    by_cases hj : j = i
    · subst hj
      rw [hi, show Qr j = Q from if_pos rfl]
      exact hobeys
    · rw [show Pr j = .free from if_neg hj, show Qr j = fun _ _ => True from if_neg hj]
      exact obeys_free _ _
  constructor
  · have hown := h.obeys hserves hlog hall i
    rwa [hi, show Qr i = Q from if_pos rfl] at hown
  · intro new e old hsplit hwho
    have hcall := h.allowed hserves hlog hall new e old hsplit
    rwa [hwho, hi] at hcall

/-- If it has come to its end, its postcondition holds. -/
theorem Reach.post_one (h : Reach W P c₀ c)
    (hserve : ∀ h s o x r s', W.serve s o x = some (r, s') → P₀.mayReply h o r)
    (hlog : c₀.log = []) (hobeys : Obeys P₀ (c₀.thread i) Q []) {res : Except ε α}
    (ht : c.thread i = .ofExcept res) : Q res (own i c.log) := by
  have hend := (h.obeys_one hserve hlog hobeys).1
  rw [ht] at hend
  exact obeys_ofExcept.mp hend

end One

/-! ### The states along a log -/

/-- `s'` is reached from `s` by moves of the world alone. -/
def Drifts (W : World S ε σ) : σ → σ → Prop :=
  Relation.ReflTransGen fun s s' => ∃ d, W.drift s d = some s'

/-- `Traced W s₀ l s`: the log `l` leads from the state `s₀` to `s`, every call
served in the state the one before it left, up to moves of the world. -/
inductive Traced (W : World S ε σ) (s₀ : σ) : Log S ε σ ι → σ → Prop
  | nil {s} : Drifts W s₀ s → Traced W s₀ [] s
  | cons {l s} (i o x r s₁) {s'} : Traced W s₀ l s →
      W.serve s o x = some (r, s₁) → Drifts W s₁ s' →
      Traced W s₀ (⟨i, ⟨o, r⟩, s, s₁⟩ :: l) s'

omit [DecidableEq ι] in
theorem Traced.drift {s₀ s s' : σ} {l : Log S ε σ ι} {d : W.Drift}
    (h : Traced W s₀ l s) (hd : W.drift s d = some s') : Traced W s₀ l s' := by
  cases h with
  | nil h₀ => exact .nil (h₀.tail ⟨d, hd⟩)
  | cons i o x r s₁ ht hs h₁ => exact .cons i o x r s₁ ht hs (h₁.tail ⟨d, hd⟩)

theorem Reach.traced {P : σ → Log S ε σ ι → Prop} {c₀ c : Config S ε α σ ι}
    (h : Reach W P c₀ c) (hlog : c₀.log = []) : Traced W c₀.state c.log c.state := by
  induction h with
  | start _ => rw [hlog]; exact .nil .refl
  | @step c c' m _ hm _ ih =>
      rcases Config.next_cases hm with ⟨i, x, o, k, r, s, _, hs, rfl⟩ | ⟨d, s, hs, rfl⟩
      · exact .cons i o x r s ih hs .refl
      · exact ih.drift hs

omit [DecidableEq ι] in
/-- The log up to a call leads to the state before it. -/
theorem Traced.before {s₀ s : σ} {new old : Log S ε σ ι} {e : Entry S ε σ ι}
    (h : Traced W s₀ (new ++ e :: old) s) :
    Traced W s₀ old e.before ∧
      (∃ x, W.serve e.before e.event.op x = some (e.event.reply, e.after)) := by
  induction new generalizing s with
  | nil => cases h with | cons i o x r s₁ ht hs _ => exact ⟨ht, x, hs⟩
  | cons e' new ih => cases h with | cons i o x r s₁ ht _ _ => exact ih ht

omit [DecidableEq ι] in
/-- What every call of the log keeps, and every move of the world, still holds at its end. -/
theorem Traced.keeps {A : σ → Prop} {s₀ s : σ} {l : Log S ε σ ι} (h : Traced W s₀ l s)
    (h₀ : A s₀) (hdrift : ∀ s d s', W.drift s d = some s' → A s → A s')
    (hcall : ∀ e ∈ l, A e.before → A e.after) : A s := by
  have hdrifts : ∀ {s s' : σ}, Drifts W s s' → A s → A s' := by
    intro s s' hd hs
    induction hd with
    | refl => exact hs
    | tail _ hstep ih => exact hdrift _ _ _ hstep.choose_spec ih
  induction h with
  | nil hd => exact hdrifts hd h₀
  | cons i o x r s₁ _ _ hd ih =>
      have hbefore := ih fun e he => hcall e (List.mem_cons_of_mem _ he)
      exact hdrifts hd (hcall _ List.mem_cons_self hbefore)

section View

variable {β : Type} {f : σ → β}

/-- Moves of the world leave `f` alone. -/
def Steady (W : World S ε σ) (f : σ → β) : Prop :=
  ∀ s d s', W.drift s d = some s' → f s' = f s

theorem Drifts.view (hf : Steady W f) {s s' : σ} (h : Drifts W s s') : f s' = f s := by
  induction h with
  | refl => rfl
  | tail _ hstep ih => exact (hf _ _ _ hstep.choose_spec).trans ih

omit [DecidableEq ι] in
/-- After a call, `f` keeps the value the call left, or there is a first call
that changes it. -/
theorem Traced.first_change (hf : Steady W f) {s₀ s : σ} {new old : Log S ε σ ι}
    {e : Entry S ε σ ι} (h : Traced W s₀ (new ++ e :: old) s) :
    f s = f e.after ∨
      ∃ new₁ x new₂, new = new₁ ++ x :: new₂ ∧ f x.before = f e.after ∧
        f x.after ≠ f x.before := by
  induction new generalizing s with
  | nil =>
      cases h with
      | cons i o x r s₁ ht hs hd => exact .inl (hd.view hf)
  | cons e' new ih =>
      cases h with
      | @cons _ s' i o x r s₁ _ ht hs hd =>
          rcases ih ht with heq | ⟨new₁, y, new₂, rfl, hy⟩
          · by_cases hsame : f s₁ = f s'
            · exact .inl ((hd.view hf).trans (hsame.trans heq))
            · exact .inr ⟨[], _, new, rfl, heq, hsame⟩
          · exact .inr ⟨_ :: new₁, y, new₂, rfl, hy⟩

omit [DecidableEq ι] in
/-- What no call since has changed is as the call left it. -/
theorem Traced.unchanged (hf : Steady W f) {s₀ s : σ} {new old : Log S ε σ ι}
    {e : Entry S ε σ ι} (h : Traced W s₀ (new ++ e :: old) s)
    (hsame : ∀ x ∈ new, f x.after = f x.before) : f s = f e.after := by
  rcases h.first_change hf with heq | ⟨new₁, x, new₂, rfl, -, hne⟩
  · exact heq
  · exact absurd (hsame x (by simp)) hne

omit [DecidableEq ι] in
/-- No call has changed `f`, or there is a last one that did. -/
theorem Traced.last_change (hf : Steady W f) {s₀ s : σ} {l : Log S ε σ ι}
    (h : Traced W s₀ l s) :
    (f s = f s₀ ∧ ∀ x ∈ l, f x.after = f x.before) ∨
      ∃ new x old, l = new ++ x :: old ∧ f s = f x.after ∧ f x.after ≠ f x.before ∧
        ∀ y ∈ new, f y.after = f y.before := by
  induction h with
  | nil hd => exact .inl ⟨hd.view hf, by simp⟩
  | @cons l s i o x r s₁ s' ht hs hd ih =>
      by_cases hsame : f s₁ = f s
      · rcases ih with ⟨heq, hall⟩ | ⟨new, y, old, rfl, heq, hne, hall⟩
        · refine .inl ⟨((hd.view hf).trans hsame).trans heq, ?_⟩
          exact List.forall_mem_cons.mpr ⟨hsame, hall⟩
        · refine .inr ⟨_ :: new, y, old, rfl, ((hd.view hf).trans hsame).trans heq, hne, ?_⟩
          exact List.forall_mem_cons.mpr ⟨hsame, hall⟩
      · exact .inr ⟨[], _, l, rfl, hd.view hf, hsame, by simp⟩

/-- Neither a call nor a move of the world lets `f` fall. -/
structure Rising [Preorder β] (W : World S ε σ) (f : σ → β) : Prop where
  serve : ∀ s o x r s', W.serve s o x = some (r, s') → f s ≤ f s'
  drift : ∀ s d s', W.drift s d = some s' → f s ≤ f s'

theorem Rising.drifts [Preorder β] (hf : Rising W f) {s s' : σ} (h : Drifts W s s') :
    f s ≤ f s' := by
  induction h with
  | refl => exact le_refl _
  | tail _ hstep ih => exact ih.trans (hf.drift _ _ _ hstep.choose_spec)

omit [DecidableEq ι] in
/-- The state after a run is not below the state after any call of it. -/
theorem Traced.after_le [Preorder β] (hf : Rising W f) {s₀ s : σ} {new old : Log S ε σ ι}
    {e : Entry S ε σ ι} (h : Traced W s₀ (new ++ e :: old) s) : f e.after ≤ f s := by
  induction new generalizing s with
  | nil =>
      cases h with
      | cons i o x r s₁ ht hs hd => exact hf.drifts hd
  | cons e' new ih =>
      cases h with
      | cons i o x r s₁ ht hs hd =>
          calc f e.after ≤ f _ := ih ht
            _ ≤ f s₁ := hf.serve _ _ _ _ _ hs
            _ ≤ f s := hf.drifts hd

omit [DecidableEq ι] in
theorem Traced.before_le [Preorder β] (hf : Rising W f) {s₀ s : σ} {l : Log S ε σ ι}
    {e : Entry S ε σ ι} (h : Traced W s₀ l s) (he : e ∈ l) : f e.before ≤ f s := by
  obtain ⟨new, old, rfl⟩ := List.append_of_mem he
  obtain ⟨-, x, hs⟩ := h.before
  exact (hf.serve _ _ _ _ _ hs).trans (h.after_le hf)

end View

/-! ### Along a run -/

/-- One step adds to the log, or leaves it. -/
theorem Config.next_log {c c' : Config S ε α σ ι} {m : Move W ι} (h : c.next W m = some c') :
    ∃ new, c'.log = new ++ c.log := by
  rcases Config.next_cases h with ⟨i, x, o, k, r, s, -, -, rfl⟩ | ⟨d, s, -, rfl⟩
  · exact ⟨[_], rfl⟩
  · exact ⟨[], rfl⟩

/-- A run only adds to the log. -/
theorem Reach.log_suffix {P : σ → Log S ε σ ι → Prop} {c₀ c : Config S ε α σ ι}
    (h : Reach W P c₀ c) : ∃ new, c.log = new ++ c₀.log := by
  induction h with
  | start _ => exact ⟨[], rfl⟩
  | step m _ hm _ ih =>
      obtain ⟨new, hnew⟩ := ih
      obtain ⟨new', hnew'⟩ := Config.next_log hm
      exact ⟨new' ++ new, by rw [hnew', hnew, List.append_assoc]⟩

/-- What the log at the end says of all its beginnings held all along. -/
theorem Reach.all_along {P : σ → Log S ε σ ι → Prop} {Q : Log S ε σ ι → Prop}
    (hQ : ∀ new l, Q (new ++ l) → Q l) {c₀ c : Config S ε α σ ι} (h : Reach W P c₀ c)
    (hlast : Q c.log) : Reach W (fun s l => P s l ∧ Q l) c₀ c := by
  induction h with
  | start hP => exact .start ⟨hP, hlast⟩
  | step m _ hm hP ih =>
      obtain ⟨new, hnew⟩ := Config.next_log hm
      exact .step m (ih (hQ new _ (hnew ▸ hlast))) hm ⟨hP, hlast⟩

/-- The state before a call was reached, with the log up to it. -/
theorem Reach.before {P : σ → Log S ε σ ι → Prop} {c₀ c : Config S ε α σ ι}
    (h : Reach W P c₀ c) (hlog : c₀.log = []) {new old : Log S ε σ ι} {e : Entry S ε σ ι}
    (hsplit : c.log = new ++ e :: old) :
    ∃ c₁, Reach W P c₀ c₁ ∧ c₁.state = e.before ∧ c₁.log = old ∧ P e.after (e :: old) := by
  induction h generalizing new with
  | start _ => simp [hlog] at hsplit
  | @step c c' m hreach hm hP ih =>
      rcases Config.next_cases hm with ⟨i, x, o, k, r, s, -, -, rfl⟩ | ⟨d, s, -, rfl⟩
      · rcases new with - | ⟨e', new⟩
        · obtain ⟨rfl, rfl⟩ := List.cons.inj hsplit
          exact ⟨c, hreach, rfl, rfl, hP⟩
        · exact ih (List.cons.inj hsplit).2
      · exact ih hsplit

/-- A call in the log of one program, found in the log of the run. -/
theorem own_eq_append {i : ι} {l : Log S ε σ ι} {new old : History S ε}
    {ev : Event S ε} (h : own i l = new ++ ev :: old) :
    ∃ new' e old', l = new' ++ e :: old' ∧ e.who = i ∧ e.event = ev ∧ own i new' = new ∧
      own i old' = old := by
  obtain ⟨fnew, frest, hfilter, hnew, hrest⟩ := List.map_eq_append_iff.mp h
  obtain ⟨e, fold, rfl, hev, hold⟩ := List.map_eq_cons_iff.mp hrest
  obtain ⟨new', rest, rfl, hnew', hrest'⟩ := List.filter_eq_append_iff.mp hfilter
  obtain ⟨skipped, old', rfl, hskip, hi, hold'⟩ := List.filter_eq_cons_iff.mp hrest'
  refine ⟨new' ++ skipped, e, old', by simp, by simpa using hi, hev, ?_, ?_⟩
  · have hnone : skipped.filter (·.who = i) = [] := List.filter_eq_nil_iff.mpr hskip
    rw [own, List.filter_append, hnone, List.append_nil, hnew', hnew]
  · rw [own, hold', hold]

/-- A program that runs to its end while the others wait comes to what it evaluates to. -/
theorem Reach.of_eval {serve : σ → (o : S.Op) → Except ε (S.Ret o) × σ}
    (hserve : ∀ s o, ∃ x, W.serve s o x = some (serve s o)) (c : Config S ε α σ ι) (i : ι) :
    ∃ c', Reach W (fun _ _ => True) c c' ∧
      c'.thread i = .ofExcept ((c.thread i).eval serve c.state).1 ∧
      c'.state = ((c.thread i).eval serve c.state).2 := by
  generalize hp : c.thread i = p
  induction p generalizing c with
  | ret a => exact ⟨c, .start trivial, hp, rfl⟩
  | raise e => exact ⟨c, .start trivial, hp, rfl⟩
  | call o k ih =>
      obtain ⟨x, hx⟩ := hserve c.state o
      let next : Config S ε α σ ι :=
        { state := (serve c.state o).2
          thread := Function.update c.thread i (k (serve c.state o).1)
          log := ⟨i, ⟨o, (serve c.state o).1⟩, c.state, (serve c.state o).2⟩ :: c.log }
      have hnext : c.next W (.call i x) = some next := by
        simp only [Config.next, hp, hx, Option.map_some]
        rfl
      obtain ⟨c', hreach, hthread, hstate⟩ := ih (serve c.state o).1 next (by simp [next])
      exact ⟨c', (Reach.start trivial).step _ hnext trivial |>.trans hreach, hthread, hstate⟩

/-! ### Runs that are computed -/

/-- Serve a list of moves in turn. -/
def Config.run (W : World S ε σ) (c : Config S ε α σ ι) :
    List (Move W ι) → Option (Config S ε α σ ι)
  | [] => some c
  | m :: ms => (c.next W m).bind fun c' => c'.run W ms

/-- A run only adds to the log. -/
theorem Config.run_log {c c' : Config S ε α σ ι} {ms : List (Move W ι)}
    (hrun : c.run W ms = some c') : ∃ new, c'.log = new ++ c.log := by
  induction ms generalizing c with
  | nil =>
      cases hrun
      exact ⟨[], rfl⟩
  | cons m ms ih =>
      obtain ⟨c₁, hm, hrest⟩ := Option.bind_eq_some_iff.mp hrun
      obtain ⟨new, hnew⟩ := ih hrest
      obtain ⟨new₁, hnew₁⟩ := Config.next_log hm
      exact ⟨new ++ new₁, by rw [hnew, hnew₁, List.append_assoc]⟩

/-- A computed run, where it is enough to look at the log at its end. -/
theorem Reach.of_run {Q : Log S ε σ ι → Prop} (hQ : ∀ new l, Q (new ++ l) → Q l)
    {c₀ c c' : Config S ε α σ ι} {ms : List (Move W ι)} (h : Reach W (fun _ l => Q l) c₀ c)
    (hrun : c.run W ms = some c') (hlast : Q c'.log) : Reach W (fun _ l => Q l) c₀ c' := by
  induction ms generalizing c with
  | nil =>
      cases hrun
      exact h
  | cons m ms ih =>
      obtain ⟨c₁, hm, hrest⟩ := Option.bind_eq_some_iff.mp hrun
      obtain ⟨new, hnew⟩ := Config.run_log hrest
      exact ih (h.step m hm (hQ new _ (hnew ▸ hlast))) hrest

/-- Serve a list of moves in turn, as long as `P` holds. -/
def Config.runWhile (W : World S ε σ) (P : σ → Log S ε σ ι → Prop)
    [∀ s l, Decidable (P s l)] (c : Config S ε α σ ι) :
    List (Move W ι) → Option (Config S ε α σ ι)
  | [] => some c
  | m :: ms => (c.next W m).bind fun c' =>
      if P c'.state c'.log then c'.runWhile W P ms else none

theorem Reach.of_runWhile {P : σ → Log S ε σ ι → Prop} [∀ s l, Decidable (P s l)]
    {c₀ c c' : Config S ε α σ ι} {ms : List (Move W ι)} (h : Reach W P c₀ c)
    (hrun : c.runWhile W P ms = some c') : Reach W P c₀ c' := by
  induction ms generalizing c with
  | nil =>
      cases hrun
      exact h
  | cons m ms ih =>
      obtain ⟨c₁, hm, hrest⟩ := Option.bind_eq_some_iff.mp hrun
      split at hrest
      · exact ih (h.step m hm ‹_›) hrest
      · cases hrest

end CallTree
