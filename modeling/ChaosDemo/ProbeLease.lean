/-
ChaosDemo/ProbeLease.lean

The probe key as a lease.  A granted `SET NX` gives its client the key for
CIRCUIT_PROBE_TTL_SEC; the value is the constant "1", and the `DEL` that ends
the lease does not look at it.

A client is `Leased` while it is holding and its lease has not run out.  The
invariant ties this to the server: the slot of the probe key is then the very one
its own `SET NX` wrote, untouched since, and no other client is leased.  One
thing can break it, a `DEL` that comes too late, so it holds in the runs in which
every `DEL` that removes something comes from a leased client.  From there:

    one_holder                 when every holder is in time, there is one holder
    ownDeletes_iff_inTime      every DEL removes its client's own key exactly if
                               every DEL that removes a key is in time
-/
import Mathlib.Data.Fintype.Basic
import ChaosDemo.ProbeRace

set_option linter.unusedSectionVars false

namespace ChaosDemo

open CallTree Keyspace

variable {K : Type} [Field K] [LinearOrder K] [IsStrictOrderedRing K] [FloorRing K]
variable {ι : Type} [DecidableEq ι]

/-! ### Leases -/

/-- `e` is a granted `SET NX` of client `i`. -/
def acquiredBy (keys : BreakerKeys) (i : ι) (e : HostEntry K ι) : Bool :=
  decide (e.who = i) && acquires keys e.event

/-- The last granted `SET NX` of client `i`. -/
def grant (keys : BreakerKeys) (i : ι) (l : HostLog K ι) : Option (HostEntry K ι) :=
  l.find? (acquiredBy keys i)

/-- The calls served since then. -/
def sinceGrant (keys : BreakerKeys) (i : ι) (l : HostLog K ι) : HostLog K ι :=
  l.takeWhile fun e => !acquiredBy keys i e

/-- At time `now` the lease of client `i` has not run out. -/
def InLease (ctx : ι → Ctx K) (keys : BreakerKeys) (i : ι) (now : K) (l : HostLog K ι) : Prop :=
  ∃ g ∈ grant keys i l, now < g.before.now + (ctx i).circuitProbeTtlSec

/-- Client `i` is holding, and its lease has not run out. -/
def Leased (ctx : ι → Ctx K) (keys : BreakerKeys) (s : HostState K) (l : HostLog K ι) (i : ι) :
    Prop :=
  holding keys (own i l) = true ∧ InLease ctx keys i s.now l

/-- Nobody has touched the probe key since client `i` was granted it. -/
def Untouched (keys : BreakerKeys) (i : ι) (l : HostLog K ι) : Prop :=
  ∀ x ∈ sinceGrant keys i l, x.after.data (.probe keys) = x.before.data (.probe keys)

/-- The call `e` is a `DEL` that removes the probe key. -/
def Deletes (keys : BreakerKeys) (e : HostEntry K ι) : Prop :=
  e.event.op.releases keys = true ∧
    (e.before.data.lookup e.before.now (.probe keys)).isSome = true ∧
    e.after.data (.probe keys) = none

/-- The key that the call `e` finds, made after the calls `old`, is the one that
its client's own `SET NX` created. -/
def OwnKey (keys : BreakerKeys) (e : HostEntry K ι) (old : HostLog K ι) : Prop :=
  (∃ g, g ∈ grant keys e.who old) ∧ Untouched keys e.who old

section Grants

variable {keys : BreakerKeys} {i j : ι} {e g : HostEntry K ι} {l : HostLog K ι}

theorem grant_cons_self (h : acquiredBy keys i e = true) :
    grant keys i (e :: l) = some e ∧ sinceGrant keys i (e :: l) = [] := by
  constructor
  · exact List.find?_cons_of_pos h
  · apply List.takeWhile_cons_of_neg
    simp [h]

theorem grant_cons_of_not (h : acquiredBy keys i e = false) :
    grant keys i (e :: l) = grant keys i l ∧
      sinceGrant keys i (e :: l) = e :: sinceGrant keys i l := by
  constructor
  · apply List.find?_cons_of_neg
    simp [h]
  · apply List.takeWhile_cons_of_pos
    simp [h]

/-- Where in the log the grant is. -/
theorem grant_split (hg : g ∈ grant keys i l) :
    ∃ old, l = sinceGrant keys i l ++ g :: old ∧ g.who = i ∧ acquires keys g.event = true := by
  induction l with
  | nil => cases hg
  | cons e l ih =>
      cases hacq : acquiredBy keys i e with
      | true =>
          obtain ⟨hgrant, hsince⟩ := grant_cons_self (l := l) hacq
          rw [hgrant] at hg
          obtain rfl := Option.some.inj hg
          rw [acquiredBy, Bool.and_eq_true, decide_eq_true_iff] at hacq
          exact ⟨l, by rw [hsince]; rfl, hacq.1, hacq.2⟩
      | false =>
          obtain ⟨hgrant, hsince⟩ := grant_cons_of_not (l := l) hacq
          rw [hgrant] at hg
          obtain ⟨old, hl, hwho, hevent⟩ := ih hg
          refine ⟨old, ?_, hwho, hevent⟩
          rw [hsince, List.cons_append, ← hl]

/-- A lease that is there after a call was there before, or the call granted it. -/
theorem Leased.of_cons {ctx : ι → Ctx K} {s s' : HostState K} {ev : HostEvent K}
    (hleased : Leased ctx keys s' (⟨i, ev, s, s'⟩ :: l) j) (hnow : s'.now = s.now)
    (hacq : acquiredBy keys j (⟨i, ev, s, s'⟩ : HostEntry K ι) = false) :
    Leased ctx keys s l j ∧ (i = j → ev.op.releases keys = false) := by
  obtain ⟨hhold, g, hg, hlt⟩ := hleased
  rw [(grant_cons_of_not hacq).1] at hg
  rw [hnow] at hlt
  by_cases hij : i = j
  · subst hij
    have hno : acquires keys ev = false := by
      rw [acquiredBy, decide_eq_true rfl, Bool.true_and] at hacq
      exact hacq
    rw [own_cons_self (⟨i, ev, s, s'⟩ : HostEntry K ι) l] at hhold
    have hunfold : (if acquires keys ev then true
        else if ev.op.releases keys then false else holding keys (own i l)) = true := hhold
    rw [hno] at hunfold
    cases hrel : ev.op.releases keys with
    | true => simp [hrel] at hunfold
    | false =>
        refine ⟨⟨?_, g, hg, hlt⟩, fun _ => rfl⟩
        simpa [hrel] using hunfold
  · rw [own_cons_of_ne (e := ⟨i, ev, s, s'⟩) hij] at hhold
    exact ⟨⟨hhold, g, hg, hlt⟩, fun h => absurd h hij⟩

end Grants

/-! ### The invariant -/

/-- A leased client has the key that it wrote itself, and is the only one. -/
structure LeaseInv (ctx : ι → Ctx K) (keys : BreakerKeys) (s : HostState K) (l : HostLog K ι) :
    Prop where
  key : ∀ i, Leased ctx keys s l i → Untouched keys i l ∧
    ∃ g ∈ grant keys i l,
      s.data (.probe keys) = some ⟨(), some (g.before.now + (ctx i).circuitProbeTtlSec)⟩
  one : ∀ i j, Leased ctx keys s l i → Leased ctx keys s l j → i = j

section Invariant

variable {ctx : ι → Ctx K} {keys : BreakerKeys} {s s' : HostState K} {l : HostLog K ι}
  {i : ι} {ev : HostEvent K}

/-- While a client is leased, the probe key is there. -/
theorem LeaseInv.found (h : LeaseInv ctx keys s l) {j : ι} (hj : Leased ctx keys s l j) :
    s.data.lookup s.now (.probe keys) = some () := by
  obtain ⟨-, g, hg, hslot⟩ := h.key j hj
  obtain ⟨-, g', hg', hlt⟩ := hj
  obtain rfl := Option.some.inj (hg.symm.trans hg')
  rw [Store.lookup, hslot, live_some, if_pos (alive_some.mpr hlt)]

/-- Where nobody is leased, there is nothing to show. -/
theorem leaseInv_of_none (h : ∀ j, ¬ Leased ctx keys s l j) : LeaseInv ctx keys s l :=
  ⟨fun i hi => absurd hi (h i), fun i _ hi _ => absurd hi (h i)⟩

theorem LeaseInv.drift (h : LeaseInv ctx keys s l) {t : K} (hle : s.now ≤ t) :
    LeaseInv ctx keys { s with now := t } l := by
  have hback : ∀ i, Leased ctx keys { s with now := t } l i → Leased ctx keys s l i := by
    rintro i ⟨hhold, g, hg, hlt⟩
    exact ⟨hhold, g, hg, lt_of_le_of_lt hle hlt⟩
  exact ⟨fun i hi => h.key i (hback i hi), fun i j hi hj => h.one i j (hback i hi) (hback j hj)⟩

/-- **One call.**  A `DEL` that removes the key must come from a leased client;
then the invariant is kept. -/
theorem LeaseInv.call (h : LeaseInv ctx keys s l) (hnow : s'.now = s.now)
    (hstep : ProbeStep (ctx i) keys (own i l) s ev s')
    (hdelete : holding keys (own i l) = true → Deletes keys (⟨i, ev, s, s'⟩ : HostEntry K ι) →
      Leased ctx keys s l i) :
    LeaseInv ctx keys s' (⟨i, ev, s, s'⟩ :: l) := by
  have hback : acquires keys ev = false → ∀ j, acquiredBy keys j (⟨i, ev, s, s'⟩ : HostEntry K ι) =
      false := by
    intro hno j
    rw [acquiredBy, hno, Bool.and_false]
  cases hstep with
  | acquired _ r _ hnone hr hslot =>
      -- nobody was leased, or the key would have been there
      have hnobody : ∀ j, ¬ Leased ctx keys s l j := by
        intro j hj
        rw [h.found hj] at hnone
        cases hnone
      rcases r with e | - | -
      · exact leaseInv_of_none fun j hj => hnobody j (hj.of_cons hnow (hback rfl j)).1
      · exact absurd rfl hr
      · have hself : acquiredBy keys i (⟨i, acquireEvent keys (ctx i).circuitProbeTtlSec (.ok true),
            s, s'⟩ : HostEntry K ι) = true := by
          simp [acquiredBy, acquires]
        have honly : ∀ j, Leased ctx keys s' (⟨i, acquireEvent keys (ctx i).circuitProbeTtlSec
            (.ok true), s, s'⟩ :: l) j → j = i := by
          intro j hj
          by_contra hne
          refine hnobody j (hj.of_cons hnow ?_).1
          rw [acquiredBy, decide_eq_false (Ne.symm hne), Bool.false_and]
        obtain ⟨hgrant, hsince⟩ := grant_cons_self (l := l) hself
        refine ⟨fun j hj => ?_, fun j j' hj hj' => (honly j hj).trans (honly j' hj').symm⟩
        obtain rfl := honly j hj
        refine ⟨fun x hx => ?_, _, hgrant, hslot⟩
        rw [hsince] at hx
        cases hx
  | released _ ks r hmem hhold hgone =>
      apply leaseInv_of_none
      intro j hj
      obtain ⟨hj', hquiet⟩ := hj.of_cons hnow (hback rfl j)
      -- the key is there, so it is removed, and only a leased client does that
      have hi : Leased ctx keys s l i := by
        apply hdelete hhold
        refine ⟨?_, ?_, hgone⟩
        · exact decide_eq_true hmem
        · rw [h.found hj']
          rfl
      have hrel := hquiet (h.one i j hi hj')
      rw [HostOp.releases, decide_eq_true hmem] at hrel
      cases hrel
  | kept _ _ hslot hno =>
      refine ⟨fun j hj => ?_, fun j j' hj hj' => ?_⟩
      · obtain ⟨huntouched, g, hg, hkey⟩ := h.key j (hj.of_cons hnow (hback hno j)).1
        obtain ⟨hgrant, hsince⟩ := grant_cons_of_not (l := l) (hback hno j)
        refine ⟨fun x hx => ?_, g, hgrant ▸ hg, hslot.trans hkey⟩
        rw [hsince] at hx
        rcases List.mem_cons.mp hx with rfl | hold
        · exact hslot
        · exact huntouched x hold
      · exact h.one j j' (hj.of_cons hnow (hback hno j)).1 (hj'.of_cons hnow (hback hno j')).1

end Invariant

section Runs

variable {P : HostState K → HostLog K ι → Prop} {ctx : ι → Ctx K}
  {rule : ι → CircuitBreakerRule K} {calls : ι → List BreakerCall} {s₀ : HostState K}
  {c : Config (HostSig K) Exc Unit (HostState K) ι} {keys : BreakerKeys}

theorem leaseInv_of_reach (hreach : Reach (hostWorld K) P (breakersAt ctx rule calls s₀) c)
    (hdelete : ∀ s l i ev s', P s l → P s' (⟨i, ev, s, s'⟩ :: l) → holding keys (own i l) = true →
      Deletes keys (⟨i, ev, s, s'⟩ : HostEntry K ι) → Leased ctx keys s l i) :
    LeaseInv ctx keys c.state c.log := by
  let Inv : HostState K → HostLog K ι → Prop := LeaseInv ctx keys
  refine (hreach.invariant (probeClient_serves P ctx keys) rfl
    (fun i => breakersAt_obeys ctx rule calls s₀ keys i) (fun _ => ?_) ?_ ?_ : Inv _ _)
  · apply leaseInv_of_none
    rintro j ⟨hhold, -⟩
    cases hhold
  · intro s l d s' hinv _ _ hd
    obtain ⟨hle, rfl⟩ := drift_cases hd
    exact hinv.drift hle
  · intro s l i o x r s' hinv hP hP' hcall hs
    exact hinv.call (serve_now hs) ((served_of_serve hs).probeStep hcall) (hdelete s l i _ s' hP hP')

end Runs

/-! ### One holder at a time -/

/-- Every client that is holding the probe is within its lease. -/
def Timely (ctx : ι → Ctx K) (keys : BreakerKeys) (s : HostState K) (l : HostLog K ι) : Prop :=
  ∀ i, holding keys (own i l) = true →
    ∀ g ∈ grant keys i l, s.now < g.before.now + (ctx i).circuitProbeTtlSec

/-- A client that is holding was granted the key. -/
theorem grant_of_holding {keys : BreakerKeys} {i : ι} {l : HostLog K ι}
    (h : holding keys (own i l) = true) : ∃ g, g ∈ grant keys i l := by
  induction l with
  | nil => cases h
  | cons e l ih =>
      cases hacq : acquiredBy keys i e with
      | true => exact ⟨e, (grant_cons_self hacq).1⟩
      | false =>
          rw [(grant_cons_of_not hacq).1]
          apply ih
          by_cases hi : e.who = i
          · subst hi
            rw [acquiredBy, decide_eq_true rfl, Bool.true_and] at hacq
            rw [own_cons_self] at h
            have hunfold : (if acquires keys e.event then true
                else if e.event.op.releases keys then false
                else holding keys (own e.who l)) = true := h
            rw [hacq] at hunfold
            cases hrel : e.event.op.releases keys with
            | true => simp [hrel] at hunfold
            | false => simpa [hrel] using hunfold
          · rwa [own_cons_of_ne hi] at h

/-- **Probe exclusivity.**  In every run in which no client holds the probe for
longer than its lease, at most one client is between its granted `SET NX` and its
`DEL`, at every point of the run. -/
theorem one_holder {ctx : ι → Ctx K} {rule : ι → CircuitBreakerRule K}
    {calls : ι → List BreakerCall} {s₀ : HostState K}
    {c : Config (HostSig K) Exc Unit (HostState K) ι} (keys : BreakerKeys)
    (hreach : Reach (hostWorld K) (Timely ctx keys) (breakersAt ctx rule calls s₀) c)
    {i j : ι} (hi : holding keys (own i c.log) = true) (hj : holding keys (own j c.log) = true) :
    i = j := by
  have hleased : ∀ s l i, Timely ctx keys s l → holding keys (own i l) = true →
      Leased ctx keys s l i := by
    intro s l i htimely hhold
    obtain ⟨g, hg⟩ := grant_of_holding hhold
    exact ⟨hhold, g, hg, htimely i hhold g hg⟩
  have hinv : LeaseInv ctx keys c.state c.log := by
    apply leaseInv_of_reach hreach
    intro s l i ev s' htimely _ hhold _
    exact hleased s l i htimely hhold
  exact hinv.one i j (hleased _ _ i hreach.holds hi) (hleased _ _ j hreach.holds hj)

instance [Fintype ι] (ctx : ι → Ctx K) (keys : BreakerKeys) (s : HostState K) (l : HostLog K ι) :
    Decidable (Timely ctx keys s l) :=
  inferInstanceAs (Decidable (∀ i, holding keys (own i l) = true →
    ∀ g ∈ grant keys i l, s.now < g.before.now + (ctx i).circuitProbeTtlSec))

/-- Client `false` has the probe and gives it up, then client `true` gets it. -/
def timelyRun : Option (Config (HostSig ℚ) Exc Unit (HostState ℚ) Bool) :=
  (breakersAt (fun _ => defaultCtx) (fun _ => buildDefaultRule defaultCtx)
    (fun _ => [.allowRequest, .record .failure]) (halfOpenState .legacy 5 10)).runWhile
    (hostWorld ℚ) (Timely (fun _ => defaultCtx) .legacy)
    [.call false (.reading 10), .call false .done, .call false .done,
      .call true (.reading 10), .call true .done, .drift (39 : ℚ),
      .call false (.reading 10), .call false .done, .call true .done, .drift (60 : ℚ)]

theorem timelyRun_isSome : timelyRun.isSome = true := by decide +kernel

/-- Client `true` is holding, so client `false` is not. -/
theorem one_holder_timelyRun :
    holding .legacy (own true (timelyRun.get timelyRun_isSome).log) = true ∧
      holding .legacy (own false (timelyRun.get timelyRun_isSome).log) = false := by
  have htrue : holding .legacy (own true (timelyRun.get timelyRun_isSome).log) = true := by
    decide +kernel
  refine ⟨htrue, ?_⟩
  have hstart : Timely (fun _ : Bool => defaultCtx) .legacy (halfOpenState .legacy 5 10) [] := by
    intro i hhold
    cases hhold
  have hreach := Reach.of_runWhile (.start hstart) (Option.some_get timelyRun_isSome).symm
  apply Bool.eq_false_iff.mpr
  intro hfalse
  have heq : false = true := one_holder .legacy hreach hfalse htrue
  cases heq

/-! ### Whose key a `DEL` removes -/

section Deletes

variable {P : HostState K → HostLog K ι → Prop} {ctx : ι → Ctx K}
  {rule : ι → CircuitBreakerRule K} {calls : ι → List BreakerCall} {s₀ : HostState K}
  {c : Config (HostSig K) Exc Unit (HostState K) ι} {keys : BreakerKeys}
  {new old : HostLog K ι} {e : HostEntry K ι}

/-- Only a client that is holding removes the key. -/
theorem holding_of_deletes (hreach : Reach (hostWorld K) P (breakersAt ctx rule calls s₀) c)
    (hsplit : c.log = new ++ e :: old) (hdel : Deletes keys e) :
    holding keys (own e.who old) = true := by
  obtain ⟨hrel, hfound, hgone⟩ := hdel
  have hstep := probeStep_of_reach keys hreach hsplit
  generalize he : e.event = ev at hstep hrel
  generalize ha : e.after = after at hstep hgone
  cases hstep with
  | acquired _ _ _ _ _ _ => cases hrel
  | released _ ks _ _ hhold _ => exact hhold
  | kept _ _ hslot _ =>
      rw [Store.lookup, ← hslot, hgone] at hfound
      cases hfound

/-- A key that is still the client's own is still in its lease. -/
theorem inLease_of_ownKey (hreach : Reach (hostWorld K) P (breakersAt ctx rule calls s₀) c)
    (hsplit : c.log = new ++ e :: old) (hdel : Deletes keys e) (hown : OwnKey keys e old) :
    InLease ctx keys e.who e.before.now old := by
  obtain ⟨⟨g, hg⟩, huntouched⟩ := hown
  obtain ⟨older, hold, hwho, hacq⟩ := grant_split hg
  obtain ⟨c₁, hreach₁, hstate, hlog, -⟩ := hreach.before rfl hsplit
  rw [hold] at hlog
  have hwritten : g.after.data (.probe keys) =
      some ⟨(), some (g.before.now + (ctx e.who).circuitProbeTtlSec)⟩ := by
    have hstep := probeStep_of_reach keys hreach₁ hlog
    generalize hev : g.event = ev at hstep hacq
    generalize ha : g.after = after at hstep ⊢
    rw [hwho] at hstep
    cases hstep with
    | acquired _ _ _ _ _ hslot => exact hslot
    | released _ ks _ _ _ _ => cases hacq
    | kept _ _ _ hno => exact absurd hacq (by simp [hno])
  have hslot : e.before.data (.probe keys) = g.after.data (.probe keys) := by
    have hsteady : Steady (hostWorld K) fun s : HostState K => s.data (.probe keys) :=
      fun s d s' hd => congrFun (steady_data s d s' hd) _
    have htraced := hreach₁.traced rfl
    rw [hlog, hstate] at htraced
    exact htraced.unchanged hsteady huntouched
  refine ⟨g, hg, ?_⟩
  have hfound := hdel.2.1
  rw [Store.lookup, hslot, hwritten, live_some] at hfound
  by_contra hlate
  rw [if_neg (fun halive => hlate (alive_some.mp halive))] at hfound
  cases hfound

end Deletes

/-- **Whose key is removed.**  In every run: every `DEL` that removes a probe key
removes the one its client's own `SET NX` created, exactly if every such `DEL` is
sent before its client's lease has run out. -/
theorem ownDeletes_iff_inTime {ctx : ι → Ctx K} {rule : ι → CircuitBreakerRule K}
    {calls : ι → List BreakerCall} {s₀ : HostState K}
    {c : Config (HostSig K) Exc Unit (HostState K) ι} (keys : BreakerKeys)
    (hreach : Reach (hostWorld K) (fun _ _ => True) (breakersAt ctx rule calls s₀) c) :
    (∀ new e old, c.log = new ++ e :: old → Deletes keys e → OwnKey keys e old) ↔
      ∀ new e old, c.log = new ++ e :: old → Deletes keys e →
        InLease ctx keys e.who e.before.now old := by
  constructor
  · intro hown new e old hsplit hdel
    exact inLease_of_ownKey hreach hsplit hdel (hown new e old hsplit hdel)
  · intro hintime new e old hsplit hdel
    let Q : HostLog K ι → Prop := fun l => ∀ new e old, l = new ++ e :: old → Deletes keys e →
      InLease ctx keys e.who e.before.now old
    have hQ : ∀ newer l, Q (newer ++ l) → Q l := by
      rintro newer l hlater new e old rfl
      exact hlater (newer ++ new) e old (List.append_assoc newer new _).symm
    have hall := hreach.all_along (Q := Q) hQ hintime
    obtain ⟨c₁, hreach₁, hstate, hlog, -⟩ := hall.before rfl hsplit
    have hinv : LeaseInv ctx keys e.before old := by
      rw [← hstate, ← hlog]
      apply leaseInv_of_reach hreach₁
      intro s l i ev s' _ hP hhold hdel
      exact ⟨hhold, hP.2 [] _ l rfl hdel⟩
    have hleased : Leased ctx keys e.before old e.who :=
      ⟨holding_of_deletes hreach hsplit hdel, hintime new e old hsplit hdel⟩
    obtain ⟨huntouched, g, hg, -⟩ := hinv.key e.who hleased
    exact ⟨⟨g, hg⟩, huntouched⟩

instance (keys : BreakerKeys) (e : HostEntry K ι) : Decidable (Deletes keys e) :=
  inferInstanceAs (Decidable (e.event.op.releases keys = true ∧
    (e.before.data.lookup e.before.now (.probe keys)).isSome = true ∧
    e.after.data (.probe keys) = none))

instance (keys : BreakerKeys) (i : ι) (l : HostLog K ι) : Decidable (Untouched keys i l) :=
  inferInstanceAs (Decidable (∀ x ∈ sinceGrant keys i l,
    x.after.data (.probe keys) = x.before.data (.probe keys)))

/-- The lease of client `false` runs out at 40; client `true` gets the probe at 41,
and then client `false` records its failure. -/
def lateRun : Option (Config (HostSig ℚ) Exc Unit (HostState ℚ) Bool) :=
  (breakersAt (fun _ => defaultCtx) (fun _ => buildDefaultRule defaultCtx)
    (fun _ => [.allowRequest, .record .failure]) (halfOpenState .legacy 5 10)).run (hostWorld ℚ)
    [.call false (.reading 10), .call false .done, .call false .done, .drift (41 : ℚ),
      .call true (.reading 41), .call true .done, .call true .done,
      .call false (.reading 41), .call false .done]

theorem lateRun_isSome : lateRun.isSome = true := by decide +kernel

theorem lateRun_reach : Reach (hostWorld ℚ) (fun _ _ => True)
    (breakersAt (fun _ => defaultCtx) (fun _ => buildDefaultRule defaultCtx)
      (fun _ => [.allowRequest, .record .failure]) (halfOpenState .legacy 5 10))
    (lateRun.get lateRun_isSome) :=
  Reach.of_run (Q := fun _ => True) (fun _ _ _ => trivial) (.start trivial)
    (Option.some_get lateRun_isSome).symm trivial

/-- The last call removes a key that is not its client's. -/
theorem lateRun_last : ∃ e old, (lateRun.get lateRun_isSome).log = e :: old ∧
    Deletes .legacy e ∧ ¬ OwnKey .legacy e old := by
  have hlast : (match (lateRun.get lateRun_isSome).log with
      | [] => false
      | e :: old => decide (Deletes .legacy e) && !decide (Untouched .legacy e.who old)) = true := by
    decide +kernel
  generalize (lateRun.get lateRun_isSome).log = l at hlast
  cases l with
  | nil => cases hlast
  | cons e old =>
      have hboth : Deletes .legacy e ∧ ¬ Untouched .legacy e.who old := by simpa using hlast
      exact ⟨e, old, rfl, hboth.1, fun hown => hboth.2 hown.2⟩

/-- **A late holder removes the key of a running probe.** -/
theorem foreign_key_removed : ∃ c : Config (HostSig ℚ) Exc Unit (HostState ℚ) Bool,
    Reach (hostWorld ℚ) (fun _ _ => True)
      (breakersAt (fun _ => defaultCtx) (fun _ => buildDefaultRule defaultCtx)
        (fun _ => [.allowRequest, .record .failure]) (halfOpenState .legacy 5 10)) c ∧
      ¬ ∀ new e old, c.log = new ++ e :: old → Deletes .legacy e → OwnKey .legacy e old := by
  obtain ⟨e, old, hlog, hdel, hforeign⟩ := lateRun_last
  refine ⟨_, lateRun_reach, fun hown => ?_⟩
  exact hforeign (hown [] e old hlog hdel)

/-- In that run some `DEL` is late. -/
theorem ownDeletes_iff_inTime_lateRun :
    ¬ ∀ new e old, (lateRun.get lateRun_isSome).log = new ++ e :: old → Deletes .legacy e →
      InLease (fun _ => defaultCtx) .legacy e.who e.before.now old := by
  obtain ⟨e, old, hlog, hdel, hforeign⟩ := lateRun_last
  intro hintime
  have hown := (ownDeletes_iff_inTime .legacy lateRun_reach).mpr hintime
  exact hforeign (hown [] e old hlog hdel)

end ChaosDemo
