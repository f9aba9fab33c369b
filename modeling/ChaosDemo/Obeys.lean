/-
ChaosDemo/Obeys.lean

Protocols of single programs.  A protocol says which calls a program may make,
given the calls it has made itself, and which answers it must be ready for.
`Obeys P p Q h` says that the program `p`, started with the history `h`, makes
only calls that `P` allows, whatever the answers, and that `Q` holds of the
outcome and of the history it leaves.

Only the program's own calls occur in a history, so nothing another party does
can invalidate a fact about it.  That is what makes the split of a concurrent
proof possible: here each program is checked alone, function by function, with
one rule per program construct; ChaosDemo/Interleave.lean then takes the
protocols of all the parties as the only thing known about them.
-/
import ChaosDemo.Prog

namespace CallTree

variable {S T : Sig} {ε α β : Type}

/-- What a program may call after its own history, and which answers a call
can get then. -/
structure Protocol (S : Sig) (ε : Type) where
  mayCall : History S ε → S.Op → Prop
  mayReply : History S ε → (o : S.Op) → Except ε (S.Ret o) → Prop

/-- A postcondition: on the outcome and on the history at the end. -/
abbrev Post (S : Sig) (ε α : Type) := Except ε α → History S ε → Prop

/-- `p`, started with history `h`, keeps to `P` and ends in `Q`. -/
def Obeys (P : Protocol S ε) : Prog S ε α → Post S ε α → History S ε → Prop
  | .ret a, Q, h => Q (.ok a) h
  | .raise e, Q, h => Q (.error e) h
  | .call o k, Q, h =>
      P.mayCall h o ∧ ∀ r, P.mayReply h o r → Obeys P (k r) Q (⟨o, r⟩ :: h)

variable {P : Protocol S ε}

@[simp] theorem obeys_ret {a : α} {Q : Post S ε α} {h : History S ε} :
    Obeys P (.ret a) Q h ↔ Q (.ok a) h := Iff.rfl

@[simp] theorem obeys_raise {e : ε} {Q : Post S ε α} {h : History S ε} :
    Obeys P (.raise e) Q h ↔ Q (.error e) h := Iff.rfl

theorem obeys_call {o : S.Op} {k : Except ε (S.Ret o) → Prog S ε α}
    {Q : Post S ε α} {h : History S ε} :
    Obeys P (.call o k) Q h ↔
      P.mayCall h o ∧ ∀ r, P.mayReply h o r → Obeys P (k r) Q (⟨o, r⟩ :: h) :=
  Iff.rfl

/-! ### Rules, one per construct -/

/-- Weakening of the postcondition. -/
theorem Obeys.mono {p : Prog S ε α} {Q Q' : Post S ε α} {h : History S ε}
    (hp : Obeys P p Q h) (hQ : ∀ res h', Q res h' → Q' res h') :
    Obeys P p Q' h := by
  induction p generalizing h with
  | ret a => exact hQ _ _ hp
  | raise e => exact hQ _ _ hp
  | call o k ih => exact ⟨hp.1, fun r hr => ih r (hp.2 r hr)⟩

/-- Sequencing: the second program starts from any end of the first. -/
theorem Obeys.bind {p : Prog S ε α} {f : α → Prog S ε β} {Q : Post S ε α}
    {Q' : Post S ε β} {h : History S ε} (hp : Obeys P p Q h)
    (hok : ∀ a h', Q (.ok a) h' → Obeys P (f a) Q' h')
    (herr : ∀ e h', Q (.error e) h' → Q' (.error e) h') :
    Obeys P (p >>= f) Q' h := by
  induction p generalizing h with
  | ret a => exact hok _ _ hp
  | raise e => exact herr _ _ hp
  | call o k ih => exact ⟨hp.1, fun r hr => ih r (hp.2 r hr)⟩

/-- A handler starts from any raising end of the program it guards. -/
theorem Obeys.handle {p : Prog S ε α} {g : ε → Prog S ε α}
    {Q Q' : Post S ε α} {h : History S ε} (hp : Obeys P p Q h)
    (hok : ∀ a h', Q (.ok a) h' → Q' (.ok a) h')
    (herr : ∀ e h', Q (.error e) h' → Obeys P (g e) Q' h') :
    Obeys P (p.handle g) Q' h := by
  induction p generalizing h with
  | ret a => exact hok _ _ hp
  | raise e => exact herr _ _ hp
  | call o k ih => exact ⟨hp.1, fun r hr => ih r (hp.2 r hr)⟩

/-- `attempt` moves the outcome into the value. -/
theorem Obeys.attempt {p : Prog S ε α} {Q : Post S ε α}
    {Q' : Post S ε (Except ε α)} {h : History S ε} (hp : Obeys P p Q h)
    (hQ : ∀ res h', Q res h' → Q' (.ok res) h') :
    Obeys P p.attempt Q' h := by
  induction p generalizing h with
  | ret a => exact hQ _ _ hp
  | raise e => exact hQ _ _ hp
  | call o k ih => exact ⟨hp.1, fun r hr => ih r (hp.2 r hr)⟩

theorem obeys_ofExcept {r : Except ε α} {Q : Post S ε α} {h : History S ε} :
    Obeys P (.ofExcept r) Q h ↔ Q r h := by
  cases r <;> exact Iff.rfl

/-- One call. -/
theorem Obeys.perform {o : S.Op} {Q : Post S ε (S.Ret o)} {h : History S ε}
    (hcall : P.mayCall h o)
    (hQ : ∀ r, P.mayReply h o r → Q r (⟨o, r⟩ :: h)) :
    Obeys P (.perform o) Q h :=
  ⟨hcall, fun r hr => obeys_ofExcept.mpr (hQ r hr)⟩

/-- Both of two protocols with the same answers, both postconditions. -/
theorem Obeys.and {P' : Protocol S ε} {p : Prog S ε α} {Q Q' : Post S ε α}
    {h : History S ε} (hp : Obeys P p Q h) (hp' : Obeys P' p Q' h) :
    Obeys ⟨fun h o => P.mayCall h o ∧ P'.mayCall h o,
        fun h o r => P.mayReply h o r ∧ P'.mayReply h o r⟩ p
      (fun res h => Q res h ∧ Q' res h) h := by
  induction p generalizing h with
  | ret a => exact ⟨hp, hp'⟩
  | raise e => exact ⟨hp, hp'⟩
  | call o k ih =>
      exact ⟨⟨hp.1, hp'.1⟩, fun r hr => ih r (hp.2 r hr.1) (hp'.2 r hr.2)⟩

/-- **Frame.**  What every call that `P` allows leaves alone holds to the end, under
any protocol that allows these calls. -/
theorem Obeys.frame {P' : Protocol S ε} {I : History S ε → Prop} {p : Prog S ε α}
    {Q : Post S ε α} {h : History S ε} (hp : Obeys P p Q h) (hh : I h)
    (hstep : ∀ h o, I h → P.mayCall h o → P'.mayCall h o ∧
      ∀ r, P'.mayReply h o r → P.mayReply h o r ∧ I (⟨o, r⟩ :: h)) :
    Obeys P' p (fun res h' => Q res h' ∧ I h') h := by
  induction p generalizing h with
  | ret a => exact ⟨hp, hh⟩
  | raise e => exact ⟨hp, hh⟩
  | call o k ih =>
      obtain ⟨hcall, hkeep⟩ := hstep h o hh hp.1
      refine ⟨hcall, fun r hr => ?_⟩
      obtain ⟨hr', hI⟩ := hkeep r hr
      exact ih r (hp.2 r hr') hI

/-- A call that was made stays in the history. -/
theorem Obeys.keeps_mem {p : Prog S ε α} {Q : Post S ε α} {h : History S ε} {ev : Event S ε}
    (hp : Obeys P p Q h) (hmem : ev ∈ h) : Obeys P p (fun res h' => Q res h' ∧ ev ∈ h') h :=
  hp.frame hmem fun _ _ hI hcall => ⟨hcall, fun _ hr => ⟨hr, List.mem_cons_of_mem _ hI⟩⟩

/-- If the program returns, `R` holds of the value and the history, which has only
grown from `h`. -/
def Returns (h : History S ε) (R : α → History S ε → Prop) : Post S ε α := fun res h' =>
  h ⊆ h' ∧ ∀ a, res = .ok a → R a h'

theorem Returns.ret {h h' : History S ε} {R : α → History S ε → Prop} {a : α} (hh : h ⊆ h')
    (hR : R a h') : Returns h R (.ok a) h' := by
  refine ⟨hh, fun b hb => ?_⟩
  obtain rfl : a = b := Except.ok.inj hb
  exact hR

theorem Returns.raise {h h' : History S ε} {R : α → History S ε → Prop} {e : ε}
    (hh : h ⊆ h') : Returns h R (.error e) h' :=
  ⟨hh, fun _ ha => nomatch ha⟩

/-- A call more does no harm. -/
theorem Returns.of_cons {h h' : History S ε} {R : α → History S ε → Prop} {ev : Event S ε}
    {res : Except ε α} (hr : Returns (ev :: h) R res h') : Returns h R res h' :=
  ⟨fun _ hmem => hr.1 (List.mem_cons_of_mem _ hmem), hr.2⟩

theorem Obeys.ret_returns {R : α → History S ε → Prop} {a : α} {h : History S ε} (hR : R a h) :
    Obeys P (.ret a) (Returns h R) h :=
  Returns.ret (R := R) (fun _ hmem => hmem) hR

/-- Every program leaves the history it has found. -/
theorem Obeys.returns {p : Prog S ε α} {Q : Post S ε α} {h : History S ε} (hp : Obeys P p Q h) :
    Obeys P p (Returns h fun a h' => Q (.ok a) h') h := by
  have hframe : Obeys P p (fun res h' => Q res h' ∧ h ⊆ h') h := hp.frame (fun _ hmem => hmem)
    fun h' o hI hcall => ⟨hcall, fun r hr => ⟨hr, fun _ hmem => List.mem_cons_of_mem _ (hI hmem)⟩⟩
  refine hframe.mono fun res h' hpost => ⟨hpost.2, fun a ha => ?_⟩
  show Q (.ok a) h'
  rw [← ha]
  exact hpost.1

/-- Sequencing of what holds of the values that are returned. -/
theorem Obeys.bind_returns {p : Prog S ε α} {f : α → Prog S ε β} {h : History S ε}
    {R : α → History S ε → Prop} {R' : β → History S ε → Prop} (hp : Obeys P p (Returns h R) h)
    (hf : ∀ a h', h ⊆ h' → R a h' → Obeys P (f a) (Returns h' R') h') :
    Obeys P (p >>= f) (Returns h R') h := by
  apply hp.bind
  · intro a h' ha
    exact (hf a h' ha.1 (ha.2 a rfl)).mono fun res h'' hr => ⟨fun _ hmem => hr.1 (ha.1 hmem), hr.2⟩
  · intro e h' he
    exact Returns.raise he.1

/-- No restriction at all. -/
def Protocol.free : Protocol S ε := ⟨fun _ _ => True, fun _ _ _ => True⟩

theorem obeys_free (p : Prog S ε α) (h : History S ε) :
    Obeys Protocol.free p (fun _ _ => True) h := by
  induction p generalizing h with
  | ret a => trivial
  | raise e => trivial
  | call o k ih => exact ⟨trivial, fun r _ => ih r _⟩

/-! ### Programs that raise only what was raised to them -/

/-- As long as its calls succeed, the program does not raise. -/
def Prog.Unfailing : Prog S ε α → Prop
  | .ret _ => True
  | .raise _ => False
  | .call _ k => ∀ v, (k (.ok v)).Unfailing

namespace Prog.Unfailing

theorem bind {p : Prog S ε α} {f : α → Prog S ε β} (hp : p.Unfailing)
    (hf : ∀ a, (f a).Unfailing) : (p >>= f).Unfailing := by
  induction p with
  | ret a => exact hf a
  | raise e => exact hp.elim
  | call o k ih => exact fun v => ih (.ok v) (hp v)

/-- Where nothing is raised, no handler is called. -/
theorem handle {p : Prog S ε α} (hp : p.Unfailing) (g : ε → Prog S ε α) :
    (p.handle g).Unfailing := by
  induction p with
  | ret a => trivial
  | raise e => exact hp.elim
  | call o k ih => exact fun v => ih (.ok v) (hp v)

theorem perform (o : S.Op) : (Prog.perform o : Prog S ε (S.Ret o)).Unfailing := fun _ => trivial

theorem ite {c : Prop} [Decidable c] {p q : Prog S ε α} (hp : p.Unfailing) (hq : q.Unfailing) :
    (if c then p else q).Unfailing := by
  split
  · exact hp
  · exact hq

end Prog.Unfailing

/-- If such a program raises, one of its calls has failed. -/
theorem Obeys.blame {p : Prog S ε α} {Q : Post S ε α} {h : History S ε} (hp : Obeys P p Q h)
    (hu : p.Unfailing) : Obeys P p (fun res h' => Q res h' ∧
      ∀ e, res = .error e → ∃ ev ∈ h', ev.failed = true) h := by
  induction p generalizing h with
  | ret a => exact ⟨hp, fun e he => by cases he⟩
  | raise e => exact hu.elim
  | call o k ih =>
      refine ⟨hp.1, fun r hr => ?_⟩
      cases r with
      | ok v => exact ih (.ok v) (hp.2 _ hr) (hu v)
      | error x =>
          -- the failed call is in the history from here on
          have hmem : (⟨o, .error x⟩ : Event S ε) ∈ (⟨o, .error x⟩ :: h : History S ε) :=
            List.mem_cons_self
          apply ((hp.2 _ hr).keeps_mem hmem).mono
          rintro res h' ⟨hQ, hmem'⟩
          exact ⟨hQ, fun _ _ => ⟨_, hmem', rfl⟩⟩

/-! ### Programs that make only calls of a kind -/

/-- Whatever the answers, every call of the program satisfies `C`. -/
def Prog.Only (C : S.Op → Prop) : Prog S ε α → Prop
  | .ret _ => True
  | .raise _ => True
  | .call o k => C o ∧ ∀ r, (k r).Only C

namespace Prog.Only

variable {C : S.Op → Prop}

theorem ofExcept (r : Except ε α) : (Prog.ofExcept r : Prog S ε α).Only C := by
  cases r <;> exact trivial

theorem perform {o : S.Op} (h : C o) : (Prog.perform o : Prog S ε (S.Ret o)).Only C :=
  ⟨h, fun r => ofExcept r⟩

theorem bind {p : Prog S ε α} {f : α → Prog S ε β} (hp : p.Only C) (hf : ∀ a, (f a).Only C) :
    (p >>= f).Only C := by
  induction p with
  | ret a => exact hf a
  | raise e => trivial
  | call o k ih => exact ⟨hp.1, fun r => ih r (hp.2 r)⟩

theorem attempt {p : Prog S ε α} (hp : p.Only C) : p.attempt.Only C := by
  induction p with
  | ret a => trivial
  | raise e => trivial
  | call o k ih => exact ⟨hp.1, fun r => ih r (hp.2 r)⟩

theorem ite_of {c : Prop} [Decidable c] {p q : Prog S ε α} (hp : c → p.Only C)
    (hq : ¬ c → q.Only C) : (if c then p else q).Only C := by
  by_cases hc : c
  · rw [if_pos hc]
    exact hp hc
  · rw [if_neg hc]
    exact hq hc

theorem ite {c : Prop} [Decidable c] {p q : Prog S ε α} (hp : p.Only C) (hq : q.Only C) :
    (if c then p else q).Only C :=
  ite_of (fun _ => hp) fun _ => hq

theorem mono {D : S.Op → Prop} {p : Prog S ε α} (hp : p.Only C) (hCD : ∀ o, C o → D o) :
    p.Only D := by
  induction p with
  | ret a => trivial
  | raise e => trivial
  | call o k ih => exact ⟨hCD o hp.1, fun r => ih r (hp.2 r)⟩

/-- What every call of the kind keeps, the program keeps. -/
theorem eval_keeps {σ : Type} {serve : σ → (o : S.Op) → Except ε (S.Ret o) × σ} {I : σ → Prop}
    {p : Prog S ε α} (hp : p.Only C) (hstep : ∀ s o, C o → I s → I (serve s o).2) {s : σ}
    (hs : I s) : I (p.eval serve s).2 := by
  induction p generalizing s with
  | ret a => exact hs
  | raise e => exact hs
  | call o k ih => exact ih _ (hp.2 _) (hstep s o hp.1 hs)

theorem interp {D : T.Op → Prop} {f : (o : S.Op) → Prog T ε (S.Ret o)} {p : Prog S ε α}
    (hp : p.Only C) (hf : ∀ o, C o → (f o).Only D) : (p.interp f).Only D := by
  induction p with
  | ret a => trivial
  | raise e => trivial
  | call o k ih => exact (hf o hp.1).attempt.bind fun r => ih r (hp.2 r)

end Prog.Only

/-- A protocol that allows the calls of a kind at any time has nothing against a program
that makes no others. -/
theorem Obeys.of_only {C : S.Op → Prop} {p : Prog S ε α} (hp : p.Only C)
    (hC : ∀ h o, C o → P.mayCall h o) (h : History S ε) :
    Obeys P p (fun _ _ => True) h := by
  induction p generalizing h with
  | ret a => trivial
  | raise e => trivial
  | call o k ih => exact ⟨hC h o hp.1, fun r _ => ih r (hp.2 r) _⟩

/-! ### Programs that end in a way -/

/-- Whatever the answers, the outcome satisfies `C`. -/
def Prog.Yields (C : Except ε α → Prop) : Prog S ε α → Prop
  | .ret a => C (.ok a)
  | .raise e => C (.error e)
  | .call _ k => ∀ r, (k r).Yields C

namespace Prog.Yields

variable {C : Except ε α → Prop}

theorem bind {D : Except ε β → Prop} {p : Prog S ε α} {f : α → Prog S ε β} (hp : p.Yields C)
    (hf : ∀ a, C (.ok a) → (f a).Yields D) (herr : ∀ e, C (.error e) → D (.error e)) :
    (p >>= f).Yields D := by
  induction p with
  | ret a => exact hf a hp
  | raise e => exact herr e hp
  | call o k ih => exact fun r => ih r (hp r)

theorem anything (p : Prog S ε α) : p.Yields fun _ => True := by
  induction p with
  | ret a => trivial
  | raise e => trivial
  | call o k ih => exact ih

/-- Nothing needs to be known of the first of two programs. -/
theorem andThen {D : Except ε β → Prop} {p : Prog S ε α} {f : α → Prog S ε β}
    (hf : ∀ a, (f a).Yields D) (herr : ∀ e, D (.error e)) : (p >>= f).Yields D :=
  (anything p).bind (fun a _ => hf a) fun e _ => herr e

end Prog.Yields

/-- The outcome is known besides what the protocol tells. -/
theorem Obeys.yields {C : Except ε α → Prop} {p : Prog S ε α} {Q : Post S ε α} {h : History S ε}
    (hp : Obeys P p Q h) (hC : p.Yields C) : Obeys P p (fun res h' => Q res h' ∧ C res) h := by
  induction p generalizing h with
  | ret a => exact ⟨hp, hC⟩
  | raise e => exact ⟨hp, hC⟩
  | call o k ih => exact ⟨hp.1, fun r hr => ih r (hp.2 r hr) (hC r)⟩

/-! ### Interpretation -/

/-- **The rule for `interp`.**  `p` keeps to a protocol over `S`; every call of
`S` is carried out by a program over `T` that keeps to a protocol over `T`.
`R` says which history over `T` stands for which one over `S`. -/
theorem Obeys.interp {Ps : Protocol S ε} {Pt : Protocol T ε}
    {f : (o : S.Op) → Prog T ε (S.Ret o)} {R : History S ε → History T ε → Prop}
    (hf : ∀ o hs ht, R hs ht → Ps.mayCall hs o →
      Obeys Pt (f o) (fun r ht' => Ps.mayReply hs o r ∧ R (⟨o, r⟩ :: hs) ht') ht)
    {p : Prog S ε α} {Q : Post S ε α} {hs : History S ε} {ht : History T ε}
    (hp : Obeys Ps p Q hs) (hR : R hs ht) :
    Obeys Pt (p.interp f) (fun res ht' => ∃ hs', R hs' ht' ∧ Q res hs') ht := by
  induction p generalizing hs ht with
  | ret a => exact ⟨hs, hR, hp⟩
  | raise e => exact ⟨hs, hR, hp⟩
  | call o k ih =>
      obtain ⟨hcall, hrest⟩ := hp
      have ho : Obeys Pt (f o).attempt
          (fun res ht' => ∃ r, res = .ok r ∧ Ps.mayReply hs o r ∧ R (⟨o, r⟩ :: hs) ht') ht :=
        (hf o hs ht hR hcall).attempt fun r ht' h => ⟨r, rfl, h⟩
      apply ho.bind
      · rintro r ht' ⟨r', hr, hreply, hR'⟩
        obtain rfl : r = r' := Except.ok.inj hr
        exact ih r (hrest r hreply) hR'
      · rintro e ht' ⟨r, hr, -⟩
        cases hr

/-! ### Soundness -/

/-- Every call in the part of `h'` that is newer than `h` was answered as
`P` expects. -/
def Answered (P : Protocol S ε) (h h' : History S ε) : Prop :=
  ∀ new e old, h' = new ++ e :: old → h.length ≤ old.length → P.mayReply old e.op e.reply

theorem Answered.refl (P : Protocol S ε) (h : History S ε) : Answered P h h := by
  intro new e old hsplit hlen
  have hl : h.length = new.length + (old.length + 1) := by
    rw [hsplit, List.length_append, List.length_cons]
  omega

theorem Answered.cons {P : Protocol S ε} {h h' : History S ε} (hans : Answered P h h')
    {o : S.Op} {r : Except ε (S.Ret o)} (hr : P.mayReply h' o r) :
    Answered P h (⟨o, r⟩ :: h') := by
  intro new e old hsplit hlen
  rcases new with - | ⟨e', new⟩
  · obtain ⟨rfl, rfl⟩ := List.cons.inj hsplit
    exact hr
  · exact hans new e old (List.cons.inj hsplit).2 hlen

/-- The postcondition holds of every outcome whose calls were answered as the
protocol expects. -/
theorem Obeys.sound {p : Prog S ε α} {Q : Post S ε α} {h h' : History S ε}
    {res : Except ε α} (hp : Obeys P p Q h) (hout : Outcome p h h' res)
    (hans : Answered P h h') : Q res h' := by
  induction hout with
  | ret => exact hp
  | raise => exact hp
  | @call o k h h' res r hrest ih =>
      obtain ⟨new, hnew⟩ := hrest.history_suffix
      have hr : P.mayReply h o r := hans new ⟨o, r⟩ h hnew (Nat.le_refl _)
      apply ih (hp.2 r hr)
      intro new' e old hsplit hlen
      exact hans new' e old hsplit (Nat.le_of_succ_le hlen)

/-! ### Fixed answers -/

/-- Run `p` with every call answered as `answer` says, and keep the history. -/
def Prog.answeredBy (answer : (o : S.Op) → Except ε (S.Ret o)) (p : Prog S ε α)
    (h : History S ε) : Except ε α × History S ε :=
  p.eval (fun h o => (answer o, ⟨o, answer o⟩ :: h)) h

/-- It is one of the runs. -/
theorem Outcome.answeredBy (answer : (o : S.Op) → Except ε (S.Ret o)) (p : Prog S ε α)
    (h : History S ε) : Outcome p h (p.answeredBy answer h).2 (p.answeredBy answer h).1 := by
  induction p generalizing h with
  | ret a => exact .ret
  | raise e => exact .raise
  | call o k ih => exact .call (answer o) (ih (answer o) _)

/-- The postcondition holds of the run whose answers the protocol expects. -/
theorem Obeys.answeredBy {answer : (o : S.Op) → Except ε (S.Ret o)}
    (hans : ∀ h o, P.mayReply h o (answer o)) {p : Prog S ε α} {Q : Post S ε α}
    {h : History S ε} (hp : Obeys P p Q h) :
    Q (p.answeredBy answer h).1 (p.answeredBy answer h).2 := by
  induction p generalizing h with
  | ret a => exact hp
  | raise e => exact hp
  | call o k ih => exact ih (answer o) (hp.2 _ (hans h o))

end CallTree
