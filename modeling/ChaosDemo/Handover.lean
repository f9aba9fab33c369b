/-
ChaosDemo/Handover.lean

How a reservation passes from one client to the next.  The clients are any
programs over the store's operations, interleaved call by call; the only thing
asked of them is that they release no record but one they got as its owner.

`reserve_idempotency_key` returns `owner` exactly when its last call is a
`SET NX` that was granted (`reserve_result`), so what happens between two owners
is what happens between two granted `SET NX` in the log of the run.
-/
import Mathlib.Data.List.Pairwise
import ChaosDemo.StoreClient

set_option linter.unusedSectionVars false

namespace ChaosDemo

open CallTree Keyspace

variable {K : Type} [Field K] [LinearOrder K] [IsStrictOrderedRing K] [FloorRing K]
variable {ι : Type}

/-! ### Clients -/

/-- `owner` was returned for the key, with this record. -/
def OwnerOf (k : String) (r : Record) (h : History StoreSig Exc) : Prop :=
  ∃ fp, (⟨.reserve k fp, .ok (.owner, r)⟩ : Event StoreSig Exc) ∈ h

/-- A client releases only what it owns. -/
def ownRelease : Protocol StoreSig Exc where
  mayCall h o := match o with
    | .release k r => OwnerOf k r h
    | _ => True
  mayReply _ _ _ := True

/-! ### What `reserve_idempotency_key` returns -/

/-- No reservation was granted. -/
def NoGrant (h : HostHistory K) : Prop :=
  ∀ k v ttl, setNxEvent k v ttl (.ok true) ∉ h

/-- `owner` comes with exactly one granted `SET NX`, the last call, and after no
compare-and-delete that was refused; every other result comes with none. -/
def OwnerByGrant (ctx : Ctx K) (k : String) (calls : HostHistory K) :
    Except Exc (ReserveState × Record) → Prop
  | .ok (.owner, r) => ∃ v before,
      calls = setNxEvent k v ctx.idemPendingTtlSec (.ok true) :: before ∧ r.raw = some v ∧
        NoGrant before ∧ ∀ k' raw, cadEvent k' raw (.ok false) ∉ before
  | _ => NoGrant calls

/-- Any replies the host can give. -/
def anyHost : Protocol (HostSig K) Exc := ⟨fun _ _ => True, fun _ o r => HostReply o r⟩

section Results

variable {ctx : Ctx K} {k fp : String} {h₀ h : HostHistory K}

/-- The calls since `h₀` were granted no reservation. -/
def Ungranted (h₀ h : HostHistory K) : Prop := ∃ calls, h = calls ++ h₀ ∧ NoGrant calls

/-- Nor was any compare-and-delete refused. -/
def Unrefused (h₀ h : HostHistory K) : Prop :=
  ∃ calls, h = calls ++ h₀ ∧ NoGrant calls ∧ ∀ k raw, cadEvent k raw (.ok false) ∉ calls

theorem NoGrant.cons (hno : NoGrant h) {e : HostEvent K}
    (he : ∀ k v ttl, e ≠ setNxEvent k v ttl (.ok true)) : NoGrant (e :: h) := by
  intro k v ttl hmem
  rcases List.mem_cons.mp hmem with heq | hold
  · exact he k v ttl heq.symm
  · exact hno k v ttl hold

theorem Ungranted.cons (hh : Ungranted h₀ h) {e : HostEvent K}
    (he : ∀ k v ttl, e ≠ setNxEvent k v ttl (.ok true)) : Ungranted h₀ (e :: h) := by
  obtain ⟨calls, rfl, hno⟩ := hh
  exact ⟨e :: calls, rfl, hno.cons he⟩

theorem Unrefused.cons (hh : Unrefused h₀ h) {e : HostEvent K}
    (he : ∀ k v ttl, e ≠ setNxEvent k v ttl (.ok true))
    (hcad : ∀ k raw, e ≠ cadEvent k raw (.ok false)) : Unrefused h₀ (e :: h) := by
  obtain ⟨calls, rfl, hno, hrefused⟩ := hh
  refine ⟨e :: calls, rfl, hno.cons he, fun k raw hmem => ?_⟩
  rcases List.mem_cons.mp hmem with heq | hold
  · exact hcad k raw heq.symm
  · exact hrefused k raw hold

theorem anyHost_reading {I : HostHistory K → Prop}
    (hI : ∀ h e, I h → (∀ k v ttl r, e ≠ setNxEvent k v ttl r) →
      (∀ k raw r, e ≠ cadEvent k raw r) → I (e :: h)) : Reading anyHost k I := by
  refine ⟨fun _ _ _ hr => hr, fun h o hh ho => ⟨trivial, fun r _ => ?_⟩,
    fun h hh => ⟨trivial, fun r _ => hI h _ hh (by simp) (by simp)⟩⟩
  apply hI h _ hh
  · rintro k v ttl r' heq
    cases heq
    cases ho
  · rintro k raw r' heq
    cases heq
    cases ho

theorem anyHost_reserving (h₀ : HostHistory K) :
    Reserving anyHost ctx k fp (Unrefused h₀) (Ungranted h₀) := by
  have hkeep : ∀ h e, Unrefused h₀ h → (∀ k v ttl r, e ≠ setNxEvent k v ttl r) →
      (∀ k raw r, e ≠ cadEvent k raw r) → Unrefused h₀ (e :: h) :=
    fun h e hh he hcad => hh.cons (fun k v ttl => he k v ttl _) fun k raw => hcad k raw _
  refine ⟨anyHost_reading hkeep, anyHost_reading fun h e hh he _ =>
    hh.cons fun k v ttl => he k v ttl _, ?_, ?_, ?_, ?_⟩
  · rintro h ⟨calls, rfl, hno, -⟩
    exact ⟨calls, rfl, hno⟩
  · exact fun h hh => ⟨trivial, fun r _ => hkeep h _ hh (by simp) (by simp)⟩
  · intro h v hh _
    refine ⟨trivial, fun r _ hr => hh.cons ?_ (by simp)⟩
    rintro k' v' ttl' heq
    cases heq
    exact hr rfl
  · intro h raw hh _
    refine ⟨trivial, fun r _ => ⟨?_, fun hr => hh.cons (by simp) ?_⟩⟩
    · obtain ⟨calls, rfl, hno, -⟩ := hh
      exact ⟨_ :: calls, rfl, hno.cons (by simp)⟩
    · rintro k' raw' heq
      cases heq
      exact hr rfl

/-- The rule for the grants behind the results of `reserve_idempotency_key`. -/
theorem reserve_ownerByGrant_obeys (ctx : Ctx K) (k fp : String) (h : HostHistory K) :
    Obeys anyHost (reserveIdempotencyKey ctx k fp) (fun res h' =>
      ∃ calls, h' = calls ++ h ∧ OwnerByGrant ctx k calls res) h := by
  have hstart : Unrefused h h := ⟨[], rfl, by simp [NoGrant], by simp⟩
  apply (reserveIdempotencyKey_obeys (anyHost_reserving h) hstart).mono
  intro res h' hpost
  rcases res with e | ⟨state, r⟩
  · exact hpost
  · cases state with
    | owner =>
        obtain ⟨v, before, rfl, ⟨calls, rfl, hno, hrefused⟩, -, hraw, -⟩ := hpost
        exact ⟨_ :: calls, rfl, v, calls, rfl, hraw, hno, hrefused⟩
    | replay => exact hpost.1
    | conflict => exact hpost.1
    | processing => exact hpost

/-- **The results of `reserve_idempotency_key` and the grants in the log are the
same thing.** -/
theorem reserve_result {h' : HostHistory K} {res : Except Exc (ReserveState × Record)}
    (hout : Outcome (reserveIdempotencyKey ctx k fp) h h' res)
    (hans : Answered anyHost h h') : ∃ calls, h' = calls ++ h ∧ OwnerByGrant ctx k calls res :=
  (reserve_ownerByGrant_obeys ctx k fp h).sound hout hans

end Results

/-! ### The clients keep to `storeClient` -/

/-- Every record that was returned to an owner was stored by it. -/
def OwnsStored (ctx : Ctx K) (hs : History StoreSig Exc) (ht : HostHistory K) : Prop :=
  ∀ k r, OwnerOf k r hs → ∃ v, r.raw = some v ∧ Reserved ctx k v ht

section Clients

variable {ctx : Ctx K} {hs : History StoreSig Exc} {ht : HostHistory K}

theorem ownsStored_lasting (ctx : Ctx K) (hs : History StoreSig Exc) :
    Lasting (OwnsStored ctx hs) := by
  intro h e hh k r hr
  obtain ⟨v, hv, hres⟩ := hh k r hr
  exact ⟨v, hv, hres.cons e⟩

/-- Every operation leaves its client with records of its own. -/
theorem ownsStored_obeys (o : StoreOp) (hh : OwnsStored ctx hs ht)
    (hcall : ownRelease.mayCall hs o) :
    Obeys (storeClient ctx) (storeCall ctx o)
      (fun r ht' => ownRelease.mayReply hs o r ∧ OwnsStored ctx (⟨o, r⟩ :: hs) ht') ht := by
  refine (storeCall_obeys (ownsStored_lasting ctx hs) o ?_ hh).mono ?_
  · rintro k r rfl
    obtain ⟨v, hv, -⟩ := hh k r hcall
    refine ⟨v, hv, fun h hI => ?_⟩
    obtain ⟨v', hv', hres⟩ := hI k r hcall
    obtain rfl := Option.some.inj (hv.symm.trans hv')
    exact hres
  · rintro res h' ⟨hI, hgrant⟩
    refine ⟨trivial, ?_⟩
    rintro k r ⟨fp, hmem⟩
    rcases List.mem_cons.mp hmem with heq | hold
    · cases heq
      exact hgrant
    · exact hI k r ⟨fp, hold⟩

/-- A client program, run on the host. -/
theorem client_obeys {p : Prog StoreSig Exc Unit}
    (hp : Obeys ownRelease p (fun _ _ => True) []) :
    Obeys (storeClient ctx) (p.interp (storeCall ctx)) (fun _ _ => True) [] := by
  have hstart : OwnsStored ctx [] ([] : HostHistory K) := by
    rintro k r ⟨fp, hmem⟩
    cases hmem
  exact (Obeys.interp (R := OwnsStored ctx) (fun o _ _ hR hcall => ownsStored_obeys o hR hcall) hp
    hstart).mono
    fun _ _ _ => trivial

end Clients

/-! ### What holds in every run -/

/-- Every call succeeds at its first attempt. -/
def FirstTry (_ : HostState K) (l : HostLog K ι) : Prop := ∀ e ∈ l, smooth e.event = true

/-- Somebody removed the text `v`. -/
def Removed (k : String) (v : Raw) (l : HostLog K ι) : Prop :=
  ∃ e ∈ l, e.event = cadEvent k v (.ok true)

/-- The owner tokens in the store were handed out. -/
def TokensIssued (s : HostState K) : Prop :=
  ∀ k x n hex fp, s.data (.idem k) = some x → x.val = processingRaw n hex fp → hex ∈ s.used

variable [DecidableEq ι]

/-- A removed text is a PROCESSING or EXPIRED one and never comes back: its token
was handed out, and a text that is about to be stored is one that was never
stored or removed. -/
structure HandoverInv (ctx : ι → Ctx K) (s : HostState K) (l : HostLog K ι) : Prop where
  uuids : UuidInv s l
  issued : TokensIssued s
  removed_issued : ∀ k n hex fp, Removed k (processingRaw n hex fp) l → hex ∈ s.used
  removed_state : ∀ k v, Removed k v l →
    v.state = idemStateProcessing ∨ v.state = idemStateExpired
  gone : ∀ k v x, Removed k v l → s.data (.idem k) = some x → x.val ≠ v
  unsaved : ∀ i k fp v, Building (ctx i) k fp v (own i l) → ∀ k',
    (∀ x, s.data (.idem k') = some x → x.val ≠ v) ∧ ¬ Removed k' v l

section Invariant

variable {ctx : ι → Ctx K} {s s' : HostState K} {l : HostLog K ι} {i : ι} {ev : HostEvent K}

theorem Removed.cons_iff {k : String} {v : Raw} {e : HostEntry K ι} :
    Removed k v (e :: l) ↔ e.event = cadEvent k v (.ok true) ∨ Removed k v l := by
  simp [Removed]

/-- After a command that succeeded nothing is being built. -/
theorem not_building_of_redis {c : Cmd K} {r : Except Exc c.Ret} {ctx : Ctx K} {k fp : String}
    {v : Raw} {h : HostHistory K} (hsmooth : smooth ⟨.redis c, r⟩ = true) :
    ¬ Building ctx k fp v (⟨.redis c, r⟩ :: h) := by
  intro hb
  rcases hb.cons_cases with ⟨n, hex, -, heq⟩ | ⟨-, hidle | ⟨x, heq⟩⟩
  · cases heq
  · cases hidle
  · rw [heq] at hsmooth
    cases hsmooth

/-- What is being built after a call was being built before, or has a new uuid. -/
theorem building_cases (hs : Served s ev s') {j : ι} {k fp : String} {v : Raw}
    (hb : Building (ctx j) k fp v (own j (⟨i, ev, s, s'⟩ :: l))) :
    Building (ctx j) k fp v (own j l) ∨ ∃ n hex, v = processingRaw n hex fp ∧ hex ∉ s.used := by
  by_cases hij : i = j
  · subst hij
    rw [own_cons_self (⟨i, ev, s, s'⟩ : HostEntry K ι) l] at hb
    rcases hb.cons_cases with ⟨n, hex, hv, heq⟩ | ⟨hb', -⟩
    · dsimp only at heq
      subst heq
      cases hs with
      | uuid _ hfresh => exact .inr ⟨n, hex, hv, hfresh⟩
      | quiet _ _ _ huuid => exact absurd rfl huuid
    · exact .inl hb'
  · rw [own_cons_of_ne (e := ⟨i, ev, s, s'⟩) hij] at hb
    exact .inl hb

/-- A call that leaves the records alone. -/
theorem HandoverInv.kept (h : HandoverInv ctx s l) (hs : Served s ev s')
    (hdata : ∀ k, s'.data (.idem k) = s.data (.idem k)) (heff : effective ev = false) :
    HandoverInv ctx s' (⟨i, ev, s, s'⟩ :: l) := by
  have hremoved : ∀ k v, Removed k v ((⟨i, ev, s, s'⟩ : HostEntry K ι) :: l) → Removed k v l := by
    intro k v hr
    rcases Removed.cons_iff.mp hr with heq | hold
    · dsimp only at heq
      rw [heq] at heff
      cases heff
    · exact hold
  refine ⟨h.uuids.call hs i, ?_, ?_, ?_, ?_, ?_⟩
  · intro k x n hex fp hx hv
    exact hs.used_mono hex (h.issued k x n hex fp (hdata k ▸ hx) hv)
  · exact fun k n hex fp hr => hs.used_mono hex (h.removed_issued k n hex fp (hremoved _ _ hr))
  · exact fun k v hr => h.removed_state k v (hremoved k v hr)
  · exact fun k v x hr hx => h.gone k v x (hremoved k v hr) (hdata k ▸ hx)
  · intro j k fp v hb k'
    rcases building_cases hs hb with hold | ⟨n, hex, rfl, hfresh⟩
    · obtain ⟨hslot, hr⟩ := h.unsaved j k fp v hold k'
      exact ⟨fun x hx => hslot x (hdata k' ▸ hx), fun hr' => hr (hremoved k' v hr')⟩
    · -- the token is new, so nobody has seen the text
      refine ⟨fun x hx hv => hfresh ?_, fun hr => hfresh ?_⟩
      · exact h.issued k' x n hex fp (hdata k' ▸ hx) hv
      · exact h.removed_issued k' n hex fp (hremoved _ _ hr)

/-- A call that stores a text that nobody else is about to store. -/
theorem HandoverInv.write (h : HandoverInv ctx s l) {c : Cmd K} {r : Except Exc c.Ret}
    (hs : Served s ⟨.redis c, r⟩ s') (hsmooth : smooth ⟨.redis c, r⟩ = true)
    (hcad : ∀ k v, (⟨.redis c, r⟩ : HostEvent K) ≠ cadEvent k v (.ok true)) {k : String} {v : Raw}
    {d : Option K} (hdata : s'.data = s.data.put (.idem k) v d)
    (hissued : ∀ n hex fp, v = processingRaw n hex fp → hex ∈ s.used) (hnew : ¬ Removed k v l)
    (hother : ∀ j k' fp v', i ≠ j → Building (ctx j) k' fp v' (own j l) → v' ≠ v) :
    HandoverInv ctx s' (⟨i, ⟨.redis c, r⟩, s, s'⟩ :: l) := by
  have hremoved : ∀ k v, Removed k v ((⟨i, ⟨.redis c, r⟩, s, s'⟩ : HostEntry K ι) :: l) →
      Removed k v l := by
    intro k v hr
    rcases Removed.cons_iff.mp hr with heq | hold
    · exact absurd heq (hcad k v)
    · exact hold
  -- the new text is at `k`, everything else is where it was
  have hslot : ∀ k' x, s'.data (.idem k') = some x →
      k' = k ∧ x.val = v ∨ s.data (.idem k') = some x := by
    intro k' x hx
    rw [hdata] at hx
    by_cases hk : k' = k
    · subst hk
      rw [Store.put_self] at hx
      obtain rfl := Option.some.inj hx
      exact .inl ⟨rfl, rfl⟩
    · rw [Store.put_of_ne (by simpa using hk)] at hx
      exact .inr hx
  refine ⟨h.uuids.call hs i, ?_, ?_, ?_, ?_, ?_⟩
  · intro k' x n hex fp hx hv
    rcases hslot k' x hx with ⟨-, hval⟩ | hold
    · exact hs.used_mono hex (hissued n hex fp (hval ▸ hv))
    · exact hs.used_mono hex (h.issued k' x n hex fp hold hv)
  · exact fun k n hex fp hr => hs.used_mono hex (h.removed_issued k n hex fp (hremoved _ _ hr))
  · exact fun k v hr => h.removed_state k v (hremoved k v hr)
  · intro k' v' x hr hx hv
    rcases hslot k' x hx with ⟨rfl, hval⟩ | hold
    · rw [← hv, hval] at hr
      exact hnew (hremoved _ _ hr)
    · exact h.gone k' v' x (hremoved _ _ hr) hold hv
  · intro j k' fp v' hb k''
    by_cases hij : i = j
    · subst hij
      rw [own_cons_self (⟨i, ⟨.redis c, r⟩, s, s'⟩ : HostEntry K ι) l] at hb
      exact absurd hb (not_building_of_redis hsmooth)
    · rw [own_cons_of_ne (e := (⟨i, ⟨.redis c, r⟩, s, s'⟩ : HostEntry K ι)) hij] at hb
      obtain ⟨hold, hr⟩ := h.unsaved j k' fp v' hb k''
      refine ⟨fun x hx => ?_, fun hr' => hr (hremoved _ _ hr')⟩
      rcases hslot k'' x hx with ⟨-, hval⟩ | hx'
      · rw [hval]
        exact (hother j k' fp v' hij hb).symm
      · exact hold x hx'

/-- A call that removes a text. -/
theorem HandoverInv.remove (h : HandoverInv ctx s l) {k : String} {v : Raw}
    (hs : Served s (cadEvent k v (.ok true)) s') (hdata : s'.data = s.data.erase (.idem k))
    (hlookup : s.data.lookup s.now (.idem k) = some v)
    (hstate : v.state = idemStateProcessing ∨ v.state = idemStateExpired) :
    HandoverInv ctx s' (⟨i, cadEvent k v (.ok true), s, s'⟩ :: l) := by
  obtain ⟨x₀, hx₀, -, hv₀⟩ := live_eq_some.mp hlookup
  have hslot : ∀ k' x, s'.data (.idem k') = some x → k' ≠ k ∧ s.data (.idem k') = some x := by
    intro k' x hx
    rw [hdata] at hx
    by_cases hk : k' = k
    · subst hk
      rw [Store.erase_self] at hx
      cases hx
    · rw [Store.erase_of_ne (by simpa using hk)] at hx
      exact ⟨hk, hx⟩
  have hremoved : ∀ k' v', Removed k' v'
      ((⟨i, cadEvent k v (.ok true), s, s'⟩ : HostEntry K ι) :: l) →
      k' = k ∧ v' = v ∨ Removed k' v' l := by
    intro k' v' hr
    rcases Removed.cons_iff.mp hr with heq | hold
    · dsimp only at heq
      cases heq
      exact .inl ⟨rfl, rfl⟩
    · exact .inr hold
  refine ⟨h.uuids.call hs i, ?_, ?_, ?_, ?_, ?_⟩
  · intro k' x n hex fp hx hv
    exact hs.used_mono hex (h.issued k' x n hex fp (hslot k' x hx).2 hv)
  · intro k' n hex fp hr
    rcases hremoved _ _ hr with ⟨rfl, heq⟩ | hold
    · exact hs.used_mono hex (h.issued k' x₀ n hex fp hx₀ (hv₀.trans heq.symm))
    · exact hs.used_mono hex (h.removed_issued k' n hex fp hold)
  · intro k' v' hr
    rcases hremoved _ _ hr with ⟨rfl, rfl⟩ | hold
    · exact hstate
    · exact h.removed_state k' v' hold
  · intro k' v' x hr hx
    obtain ⟨hk, hold⟩ := hslot k' x hx
    rcases hremoved _ _ hr with ⟨rfl, -⟩ | hr'
    · exact absurd rfl hk
    · exact h.gone k' v' x hr' hold
  · intro j k' fp v' hb k''
    have hb' : Building (ctx j) k' fp v' (own j l) := by
      by_cases hij : i = j
      · subst hij
        rw [own_cons_self (⟨i, cadEvent k v (.ok true), s, s'⟩ : HostEntry K ι) l] at hb
        exact absurd hb (not_building_of_redis rfl)
      · rwa [own_cons_of_ne (e := ⟨i, cadEvent k v (.ok true), s, s'⟩) hij] at hb
    obtain ⟨hold, hr⟩ := h.unsaved j k' fp v' hb' k''
    refine ⟨fun x hx => hold x (hslot k'' x hx).2, fun hr' => ?_⟩
    rcases hremoved _ _ hr' with ⟨rfl, rfl⟩ | hr''
    · exact hold x₀ hx₀ hv₀
    · exact hr hr''

/-- A text that a client may remove is not a terminal record. -/
theorem state_of_removable {ctx : Ctx K} {k : String} {v : Raw} {h : HostHistory K}
    (hr : Removable ctx k v h) : v.state = idemStateProcessing ∨ v.state = idemStateExpired := by
  rcases hr with hj | ⟨-, hexp⟩
  · obtain ⟨new, old, t, createdAt, -, -, hproc, -⟩ := hj
    exact .inl hproc
  · exact .inr hexp

/-- **One call of a client keeps the invariant.** -/
theorem HandoverInv.step (h : HandoverInv ctx s l) (hs : Served s ev s')
    (hsmooth : smooth ev = true) (hcall : (storeClient (ctx i)).mayCall (own i l) ev.op) :
    HandoverInv ctx s' (⟨i, ev, s, s'⟩ :: l) := by
  cases hs.recordStep hcall with
  | reserved k fp v r hbuild _ _ =>
      obtain ⟨n, hex, hv, hmem⟩ := hbuild.eq
      obtain ⟨e, he, -, hev⟩ := mem_own.mp hmem
      refine h.write hs hsmooth (by simp) rfl ?_ (h.unsaved i k fp v hbuild k).2 ?_
      · intro n' hex' fp' hv'
        obtain rfl := processingRaw_inj (hv.symm.trans hv')
        exact h.uuids.used e he hex hev
      · rintro j k' fp' v' hij hb rfl
        exact hij (h.uuids.building_who hbuild hb)
  | finished k ttl v r hterm =>
      have hne : ∀ n hex fp, v ≠ processingRaw n hex fp := by
        rintro n hex fp rfl
        exact not_terminal (.inl (processingRaw_state n hex fp)) hterm
      refine h.write hs hsmooth (by simp) rfl (fun n hex fp hv => absurd hv (hne n hex fp)) ?_ ?_
      · exact fun hr => not_terminal (h.removed_state k v hr) hterm
      · rintro j k' fp v' - hb rfl
        obtain ⟨n, hex, hv, -⟩ := hb.eq
        exact hne n hex fp hv
  | removed k v r hmay hlookup hr =>
      obtain rfl : r = .ok true := by
        rcases r with e | - | -
        · cases hsmooth
        · exact absurd rfl hr
        · rfl
      exact h.remove hs rfl hlookup (hmay.elim state_of_removable fun hres => .inl hres.2)
  | kept _ _ hdata heff => exact h.kept hs hdata heff

end Invariant

/-! ### Runs -/

/-- Not both removed the same text. -/
def NotBoth (e₂ e₁ : HostEntry K ι) : Prop :=
  ∀ k v, ¬ (e₁.event = cadEvent k v (.ok true) ∧ e₂.event = cadEvent k v (.ok true))

omit [DecidableEq ι] in
instance : Std.Symm (NotBoth (K := K) (ι := ι)) := ⟨fun _ _ h k v hboth => h k v hboth.symm⟩

/-- No text is removed twice. -/
def OnceRemoved (l : HostLog K ι) : Prop := l.Pairwise NotBoth

/-- `g` is the call with which a client became the owner. -/
def Grants (g : HostEntry K ι) (k : String) (v : Raw) : Prop :=
  ∃ ttl, g.event = setNxEvent k v ttl (.ok true)

/-- How the record `v` of the owner `g` came to its end at the call `e`, which was
made after the calls `old`: it was released by its owner, or replaced by a
terminal record, or its Redis deadline had passed, or somebody had judged it
EXPIRED and removed it. -/
inductive HowEnded (ctx : ι → Ctx K) (k : String) (v : Raw) (g e : HostEntry K ι)
    (old : HostLog K ι) : Prop
  | released : e.who = g.who → e.event = cadEvent k v (.ok true) → HowEnded ctx k v g e old
  | replaced (ttl : ℤ) (terminal : Raw) : e.event = setexEvent k ttl terminal (.ok ()) →
      terminal.state = idemStateSuccess ∨ terminal.state = idemStateFailed →
      HowEnded ctx k v g e old
  | expired : g.before.now + (ctx g.who).idemPendingTtlSec ≤ e.before.now →
      HowEnded ctx k v g e old
  | judged : e.event = cadEvent k v (.ok true) → Judged (ctx e.who) k v (own e.who old) →
      HowEnded ctx k v g e old

/-- In the run `reserve_idempotency_key` returned `owner` to client `i`, after it
had found the record `v` stale and gone on to remove it. -/
def TookOver (ctx : Ctx K) (i : ι) (k : String) (v : Raw) (l : HostLog K ι) : Prop :=
  ∃ fp h calls later r b, own i l = later ++ (calls ++ h) ∧
    Outcome (reserveIdempotencyKey ctx k fp) h (calls ++ h) (.ok (.owner, r)) ∧
    cadEvent k v b ∈ calls

/-- What holds of the log of every run. -/
structure SafeHandover (ctx : ι → Ctx K) (l : HostLog K ι) : Prop where
  /-- Between two owners there is a call at which the earlier owner's record is
  still the one in the store and comes to its end, and at the second grant the
  key has no record. -/
  handover : ∀ k v₁ v₂ newer g₂ between g₁ older,
    l = newer ++ g₂ :: (between ++ g₁ :: older) → Grants g₁ k v₁ → Grants g₂ k v₂ →
    g₂.before.data.lookup g₂.before.now (.idem k) = none ∧
    ∃ later e old, g₂ :: between = later ++ e :: old ∧
      e.before.data (.idem k) =
        some ⟨v₁, some (g₁.before.now + (ctx g₁.who).idemPendingTtlSec)⟩ ∧
      HowEnded ctx k v₁ g₁ e (old ++ g₁ :: older)
  /-- A compare-and-delete is made of a text that its caller read or stored, and
  removes nothing else. -/
  remove : ∀ k raw r newer e older, l = newer ++ e :: older → e.event = cadEvent k raw r →
    (GotRaw k raw (own e.who older) ∨ Reserved (ctx e.who) k raw (own e.who older)) ∧
    (e.after.data = e.before.data ∨
      e.before.data.lookup e.before.now (.idem k) = some raw ∧
        e.after.data = e.before.data.erase (.idem k))
  /-- No text is removed twice. -/
  once : OnceRemoved l
  /-- Of the clients that take over a stale record at most one becomes the owner. -/
  takeover : ∀ k v i j, TookOver (ctx i) i k v l → TookOver (ctx j) j k v l → i = j

section Runs

variable {ctx : ι → Ctx K} {s s' : HostState K} {l : HostLog K ι} {i : ι} {ev : HostEvent K}

/-- A compare-and-delete that is told so removed what is in the store. -/
theorem lookup_of_removed {ctx : Ctx K} {h : HostHistory K} {k : String} {v : Raw}
    (hstep : RecordStep ctx h s (cadEvent k v (.ok true)) s') :
    s.data.lookup s.now (.idem k) = some v := by
  generalize hev : cadEvent k v (.ok true) = ev at hstep
  cases hstep with
  | reserved => cases hev
  | finished => cases hev
  | removed k' v' r _ hlookup _ =>
      cases hev
      exact hlookup
  | kept _ _ _ heff =>
      rw [← hev] at heff
      cases heff

theorem OnceRemoved.step (h : HandoverInv ctx s l) (hl : OnceRemoved l) (hs : Served s ev s')
    (hcall : (storeClient (ctx i)).mayCall (own i l) ev.op) :
    OnceRemoved ((⟨i, ev, s, s'⟩ : HostEntry K ι) :: l) := by
  refine List.pairwise_cons.mpr ⟨?_, hl⟩
  rintro e he k v ⟨hold, hnew⟩
  dsimp only at hnew
  subst hnew
  obtain ⟨x, hx, -, hv⟩ := live_eq_some.mp (lookup_of_removed (hs.recordStep hcall))
  exact h.gone k v x ⟨e, he, hold⟩ hx hv

/-- A grant finds no record and leaves the owner's. -/
theorem slot_of_granted {ctx : Ctx K} {h : HostHistory K} {k : String} {v : Raw} {ttl : ℤ}
    (hstep : RecordStep ctx h s (setNxEvent k v ttl (.ok true)) s') :
    s.data.lookup s.now (.idem k) = none ∧ (∃ fp, Building ctx k fp v h) ∧
      s'.data (.idem k) = some ⟨v, some (s.now + ctx.idemPendingTtlSec)⟩ := by
  generalize hev : setNxEvent k v ttl (.ok true) = ev at hstep
  cases hstep with
  | reserved k' fp v' r hbuild hlookup _ =>
      cases hev
      exact ⟨hlookup, ⟨fp, hbuild⟩, Store.put_self⟩
  | finished => cases hev
  | removed => cases hev
  | kept _ _ _ heff =>
      rw [← hev] at heff
      cases heff

/-- How a live reservation can be moved away: by a terminal write, or by the
removal of its text. -/
theorem ended_cases {ctx : Ctx K} {h : HostHistory K} {k : String} {v : Raw}
    (hstep : RecordStep ctx h s ev s') (hsmooth : smooth ev = true)
    (hlive : s.data.lookup s.now (.idem k) = some v) (hproc : v.state = idemStateProcessing)
    (hend : s'.data (.idem k) ≠ s.data (.idem k) ∨
      ∃ v' ttl, ev = setNxEvent k v' ttl (.ok true)) :
    (∃ ttl terminal, ev = setexEvent k ttl terminal (.ok ()) ∧
        (terminal.state = idemStateSuccess ∨ terminal.state = idemStateFailed)) ∨
      ev = cadEvent k v (.ok true) ∧ (Judged ctx k v h ∨ Reserved ctx k v h) := by
  cases hstep with
  | reserved k' fp v' r hbuild hlookup hr =>
      exfalso
      have hk : k ≠ k' := by
        rintro rfl
        rw [hlookup] at hlive
        cases hlive
      rcases hend with hchange | ⟨v'', ttl, heq⟩
      · exact hchange (Store.put_of_ne (by simpa using hk))
      · cases heq
        exact hk rfl
  | finished k' ttl v' r hterm =>
      rcases hend with hchange | ⟨v'', ttl', heq⟩
      · obtain rfl : k = k' := by
          by_contra hk
          exact hchange (Store.put_of_ne (by simpa using hk))
        cases r with
        | ok u => exact .inl ⟨ttl, v', rfl, hterm⟩
        | error x => cases hsmooth
      · cases heq
  | removed k' v' r hmay hlookup hr =>
      rcases hend with hchange | ⟨v'', ttl', heq⟩
      · obtain rfl : k = k' := by
          by_contra hk
          exact hchange (Store.erase_of_ne (by simpa using hk))
        obtain rfl : v' = v := Option.some.inj (hlookup.symm.trans hlive)
        obtain rfl : r = .ok true := by
          rcases r with x | - | -
          · cases hsmooth
          · exact absurd rfl hr
          · rfl
        refine .inr ⟨rfl, ?_⟩
        rcases hmay with (hj | ⟨-, hexp⟩) | hres
        · exact .inl hj
        · rw [hproc] at hexp
          exact absurd hexp (by decide)
        · exact .inr hres
      · cases heq
  | kept _ _ hdata heff =>
      rcases hend with hchange | ⟨v'', ttl', heq⟩
      · exact absurd (hdata k) hchange
      · rw [heq] at heff
        cases heff

theorem hostWorld_serves (P : HostState K → HostLog K ι → Prop) (ctx : ι → Ctx K) :
    Serves (hostWorld K) P fun i => storeClient (ctx i) :=
  fun _ _ _ _ _ _ _ hs _ => hostReply_of_serve hs

/-- The clients at the start. -/
def clientsAt (ctx : ι → Ctx K) (clients : ι → Prog StoreSig Exc Unit) (s : HostState K) :
    Config (HostSig K) Exc Unit (HostState K) ι :=
  ⟨s, fun i => (clients i).interp (storeCall (ctx i)), []⟩

variable {clients : ι → Prog StoreSig Exc Unit} {s₀ : HostState K}
  {c : Config (HostSig K) Exc Unit (HostState K) ι}

section Reached

variable (hclients : ∀ i, Obeys ownRelease (clients i) (fun _ _ => True) [])
  (hreach : Reach (hostWorld K) FirstTry (clientsAt ctx clients s₀) c)

include hclients hreach

theorem handoverInv_of_reach (hissued : TokensIssued s₀) :
    HandoverInv ctx c.state c.log ∧ OnceRemoved c.log := by
  let Inv : HostState K → HostLog K ι → Prop := fun s l => HandoverInv ctx s l ∧ OnceRemoved l
  refine (hreach.invariant (hostWorld_serves FirstTry ctx) rfl
    (fun i => client_obeys (hclients i)) ?_ ?_ ?_ : Inv c.state c.log)
  · intro _
    refine ⟨⟨⟨by simp, by simp⟩, hissued, by simp [Removed], by simp [Removed],
      by simp [Removed], ?_⟩, List.Pairwise.nil⟩
    intro i k fp v hb
    obtain ⟨n, hex, -, hmem⟩ := hb.eq
    cases hmem
  · rintro s l t s' ⟨hinv, honce⟩ - - hd
    obtain ⟨-, rfl⟩ := drift_cases hd
    exact ⟨⟨⟨hinv.uuids.used, hinv.uuids.who⟩, hinv.issued, hinv.removed_issued,
      hinv.removed_state, hinv.gone, hinv.unsaved⟩, honce⟩
  · rintro s l i o x r s' ⟨hinv, honce⟩ - hP hcall hs
    have hserved := served_of_serve hs
    exact ⟨hinv.step hserved (hP _ List.mem_cons_self) hcall, honce.step hinv hserved hcall⟩

theorem recordStep_of_reach {new old : HostLog K ι} {e : HostEntry K ι}
    (hsplit : c.log = new ++ e :: old) :
    RecordStep (ctx e.who) (own e.who old) e.before e.event e.after :=
  recordStep_of_log hreach rfl (hostWorld_serves FirstTry ctx)
    (fun i => client_obeys (hclients i)) (fun _ _ _ hcall => hcall) hsplit

/-- A reservation text is stored by one client only. -/
theorem reserved_who {k k' : String} {v : Raw} {newer older : HostLog K ι} {g e : HostEntry K ι}
    (hsplit : c.log = newer ++ g :: older) (hg : Grants g k v) (he : e ∈ c.log)
    (hev : Grants e k' v) : e.who = g.who := by
  obtain ⟨newer', older', hsplit'⟩ := List.append_of_mem he
  obtain ⟨ttl, hg⟩ := hg
  obtain ⟨ttl', hev⟩ := hev
  have hg' := recordStep_of_reach hclients hreach hsplit
  have he' := recordStep_of_reach hclients hreach hsplit'
  rw [hg] at hg'
  rw [hev] at he'
  obtain ⟨-, ⟨fp, hb⟩, -⟩ := slot_of_granted hg'
  obtain ⟨-, ⟨fp', hb'⟩, -⟩ := slot_of_granted he'
  obtain ⟨n, hex, rfl, hmem⟩ := hb.eq
  obtain ⟨n', hex', hv, hmem'⟩ := hb'.eq
  obtain rfl := processingRaw_inj hv
  obtain ⟨u, hu, huwho, huev⟩ := mem_own.mp hmem
  obtain ⟨u', hu', huwho', huev'⟩ := mem_own.mp hmem'
  have huuid : UuidInv c.state c.log := uuidInv_of_reach hreach rfl
  rw [← huwho, ← huwho']
  refine huuid.who u' ?_ u ?_ hex huev' huev
  · rw [hsplit']
    exact List.mem_append_right _ (List.mem_cons_of_mem _ hu')
  · rw [hsplit]
    exact List.mem_append_right _ (List.mem_cons_of_mem _ hu)

/-- The call at which the record of an owner is not left where it is. -/
theorem howEnded {k : String} {v : Raw} {newer old older : HostLog K ι} {g e : HostEntry K ι}
    (hsplit : c.log = newer ++ e :: (old ++ g :: older)) (hg : Grants g k v)
    (hslot : e.before.data (.idem k) =
      some ⟨v, some (g.before.now + (ctx g.who).idemPendingTtlSec)⟩)
    (hend : e.after.data (.idem k) ≠ e.before.data (.idem k) ∨ ∃ v', Grants e k v') :
    HowEnded ctx k v g e (old ++ g :: older) := by
  have hsplit' : c.log = (newer ++ e :: old) ++ g :: older := by simpa using hsplit
  have hproc : v.state = idemStateProcessing := by
    obtain ⟨ttl, hev⟩ := hg
    have hgstep := recordStep_of_reach hclients hreach hsplit'
    rw [hev] at hgstep
    obtain ⟨-, ⟨fp, hb⟩, -⟩ := slot_of_granted hgstep
    exact hb.state
  by_cases hlive : e.before.now < g.before.now + (ctx g.who).idemPendingTtlSec
  · have hlookup : e.before.data.lookup e.before.now (.idem k) = some v := by
      rw [Store.lookup, hslot, live_some]
      exact if_pos (alive_some.mpr hlive)
    have hsmooth : smooth e.event = true := hreach.holds e (by rw [hsplit]; simp)
    rcases ended_cases (recordStep_of_reach hclients hreach hsplit) hsmooth hlookup hproc hend with
      ⟨ttl, terminal, hev, hterm⟩ | ⟨hev, hj | hres⟩
    · exact .replaced ttl terminal hev hterm
    · exact .judged hev hj
    · -- only the owner has stored this text
      obtain ⟨e', he', hwho, hev'⟩ := mem_own.mp hres.1
      have hmem : e' ∈ c.log := by
        rw [hsplit]
        exact List.mem_append_right _ (List.mem_cons_of_mem _ he')
      exact .released (hwho ▸ reserved_who hclients hreach hsplit' hg hmem ⟨_, hev'⟩) hev
  · exact .expired (not_lt.mp hlive)

/-- The records of any two owners, one after the other. -/
theorem handover_of_reach {k : String} {v₁ v₂ : Raw} {newer between older : HostLog K ι}
    {g₁ g₂ : HostEntry K ι} (hsplit : c.log = newer ++ g₂ :: (between ++ g₁ :: older))
    (h₁ : Grants g₁ k v₁) (h₂ : Grants g₂ k v₂) :
    g₂.before.data.lookup g₂.before.now (.idem k) = none ∧
    ∃ later e old, g₂ :: between = later ++ e :: old ∧
      e.before.data (.idem k) =
        some ⟨v₁, some (g₁.before.now + (ctx g₁.who).idemPendingTtlSec)⟩ ∧
      HowEnded ctx k v₁ g₁ e (old ++ g₁ :: older) := by
  have hslot₁ : g₁.after.data (.idem k) =
      some ⟨v₁, some (g₁.before.now + (ctx g₁.who).idemPendingTtlSec)⟩ := by
    obtain ⟨ttl, hev⟩ := h₁
    have hsplit₁ : c.log = (newer ++ g₂ :: between) ++ g₁ :: older := by simpa using hsplit
    have hstep := recordStep_of_reach hclients hreach hsplit₁
    rw [hev] at hstep
    exact (slot_of_granted hstep).2.2
  have hlookup₂ : g₂.before.data.lookup g₂.before.now (.idem k) = none := by
    obtain ⟨ttl, hev⟩ := h₂
    have hstep := recordStep_of_reach hclients hreach hsplit
    rw [hev] at hstep
    exact (slot_of_granted hstep).1
  have htraced := hreach.traced rfl
  rw [hsplit] at htraced
  have hsteady : Steady (hostWorld K) fun s => s.data (.idem k) :=
    fun s d s' hd => congrFun (steady_data s d s' hd) _
  -- the first call that moves the record away is between the two, or there is none
  refine ⟨hlookup₂, ?_⟩
  rcases htraced.before.1.first_change hsteady with hsame | ⟨later, e, old, rfl, hsame, hchange⟩
  · refine ⟨[], g₂, between, rfl, hsame.trans hslot₁, ?_⟩
    exact howEnded hclients hreach hsplit h₁ (hsame.trans hslot₁) (.inr ⟨v₂, h₂⟩)
  · refine ⟨g₂ :: later, e, old, rfl, hsame.trans hslot₁, ?_⟩
    have hsplit₁ : c.log = (newer ++ g₂ :: later) ++ e :: (old ++ g₁ :: older) := by
      simpa using hsplit
    exact howEnded hclients hreach hsplit₁ h₁ (hsame.trans hslot₁) (.inl hchange)

/-- What a compare-and-delete in the log was of, and what it removed. -/
theorem remove_of_reach {k : String} {raw : Raw} {r : Except Exc Bool}
    {newer older : HostLog K ι} {e : HostEntry K ι} (hsplit : c.log = newer ++ e :: older)
    (hev : e.event = cadEvent k raw r) :
    (GotRaw k raw (own e.who older) ∨ Reserved (ctx e.who) k raw (own e.who older)) ∧
    (e.after.data = e.before.data ∨
      e.before.data.lookup e.before.now (.idem k) = some raw ∧
        e.after.data = e.before.data.erase (.idem k)) := by
  have hcall := hreach.allowed (hostWorld_serves FirstTry ctx) rfl
    (fun i => client_obeys (hclients i)) newer e older hsplit
  have htraced := hreach.traced rfl
  rw [hsplit] at htraced
  obtain ⟨-, x, hs⟩ := htraced.before
  rcases e with ⟨i, ev, s, s'⟩
  dsimp only at hev hcall hs ⊢
  subst hev
  constructor
  · rcases hcall with (hj | hexp) | hres
    · exact .inl hj.got
    · exact .inl hexp.1
    · exact .inr hres
  · have hexec : (exec s.now s.data (.compareAndDelete k raw)).2 = s.data ∨
        s.data.lookup s.now (.idem k) = some raw ∧
          (exec s.now s.data (.compareAndDelete k raw)).2 = s.data.erase (.idem k) := by
      rw [exec]
      split
      · next hlookup => exact .inr ⟨hlookup, rfl⟩
      · exact .inl rfl
    rcases serve_redis hs with ⟨-, rfl⟩ | ⟨e, -, -, rfl | rfl⟩
    · exact hexec
    · exact .inl rfl
    · exact hexec

/-- A takeover that was successful removed the record. -/
theorem removed_of_tookOver {k : String} {v : Raw} (h : TookOver (ctx i) i k v c.log) :
    ∃ e ∈ c.log, e.who = i ∧ e.event = cadEvent k v (.ok true) := by
  obtain ⟨fp, h, calls, later, r, b, hown, hout, hmem⟩ := h
  have hentry : ∀ ev ∈ calls ++ h, ∃ e ∈ c.log, e.who = i ∧ e.event = ev := by
    intro ev hev
    apply mem_own.mp
    rw [hown]
    exact List.mem_append_right _ hev
  have hans : Answered anyHost h (calls ++ h) := by
    intro new ev old hsplit _
    obtain ⟨e, he, -, rfl⟩ := hentry ev (by rw [hsplit]; simp)
    obtain ⟨newer, older, hlog⟩ := List.append_of_mem he
    have htraced := hreach.traced rfl
    rw [hlog] at htraced
    obtain ⟨-, x, hs⟩ := htraced.before
    exact hostReply_of_serve hs
  obtain ⟨calls', heq, v', before, rfl, -, -, hrefused⟩ := reserve_result hout hans
  obtain rfl := List.append_cancel_right heq
  have hbefore : cadEvent k v b ∈ before := by
    rcases List.mem_cons.mp hmem with heq | hmem
    · cases heq
    · exact hmem
  obtain ⟨e, he, hwho, hev⟩ := hentry (cadEvent k v b) (by simp [hbefore])
  have hsmooth : smooth (cadEvent k v b) = true := hev ▸ hreach.holds e he
  refine ⟨e, he, hwho, ?_⟩
  rcases b with x | - | -
  · cases hsmooth
  · exact absurd hbefore (hrefused k v)
  · exact hev

end Reached

/-- **A reservation changes owner only when it may.**  In every interleaving of
clients that release only what they own, and whose calls succeed at the first
attempt, a key passes from one owner to the next only after the earlier record
was released, replaced, expired or judged EXPIRED; nobody removes a text but
the one it read or stored, and nobody a text that was removed before.  And
`reserve_idempotency_key` says `owner` exactly when its last call was granted,
and not after a compare-and-delete that was refused. -/
theorem safeHandover (ctx : ι → Ctx K) (clients : ι → Prog StoreSig Exc Unit)
    (hclients : ∀ i, Obeys ownRelease (clients i) (fun _ _ => True) [])
    {s₀ : HostState K} (hissued : TokensIssued s₀)
    {c : Config (HostSig K) Exc Unit (HostState K) ι}
    (hreach : Reach (hostWorld K) FirstTry (clientsAt ctx clients s₀) c) :
    SafeHandover ctx c.log ∧
      ∀ i k fp h h' res, Outcome (reserveIdempotencyKey (ctx i) k fp) h h' res →
        Answered anyHost h h' → ∃ calls, h' = calls ++ h ∧ OwnerByGrant (ctx i) k calls res := by
  have honce := (handoverInv_of_reach hclients hreach hissued).2
  refine ⟨⟨?_, ?_, honce, ?_⟩, fun i k fp h h' res hout hans => reserve_result hout hans⟩
  · intro k v₁ v₂ newer g₂ between g₁ older hsplit h₁ h₂
    exact handover_of_reach hclients hreach hsplit h₁ h₂
  · intro k raw r newer e older hsplit hev
    exact remove_of_reach hclients hreach hsplit hev
  · intro k v i j hi hj
    obtain ⟨e, he, rfl, hev⟩ := removed_of_tookOver hclients hreach hi
    obtain ⟨e', he', rfl, hev'⟩ := removed_of_tookOver hclients hreach hj
    by_contra hne
    have hdistinct : e' ≠ e := fun heq => hne (heq ▸ rfl)
    exact List.Pairwise.forall honce he' he hdistinct k v ⟨hev, hev'⟩

end Runs

/-! ### An example -/

/-- A client that gives its reservation back. -/
def reserveThenRelease (k fp : String) : Prog StoreSig Exc Unit := do
  let (state, r) ← Prog.perform (S := StoreSig) (.reserve k fp)
  match state with
  | .owner => do
      let _ ← Prog.perform (S := StoreSig) (.release k r)
      pure ()
  | _ => pure ()

theorem reserveThenRelease_obeys (k fp : String) :
    Obeys ownRelease (reserveThenRelease k fp) (fun _ _ => True) [] := by
  refine ⟨trivial, fun r _ => ?_⟩
  rcases r with e | ⟨state, r⟩
  · trivial
  · cases state with
    | owner =>
        refine ⟨⟨fp, List.mem_cons_self⟩, fun r _ => ?_⟩
        cases r <;> trivial
    | _ => trivial

/-- Two such clients one after the other. -/
def twoClients : Option (Config (HostSig ℚ) Exc Unit (HostState ℚ) Bool) :=
  (clientsAt (fun _ => defaultCtx) (fun _ => reserveThenRelease "k" "fp")
    ⟨fun _ => none, 0, []⟩).run (hostWorld ℚ)
    [.call false (.reading 0), .call false (.fresh "a"), .call false .done, .call false .done,
      .call false .done, .call false .done, .drift (1 : ℚ), .call true (.reading 1),
      .call true (.fresh "b"), .call true .done, .call true .done]

theorem twoClients_isSome : twoClients.isSome = true := by decide +kernel

/-- The run has two owners, and between them the release of the first. -/
theorem safeHandover_twoClients :
    SafeHandover (fun _ => defaultCtx) (twoClients.get twoClients_isSome).log ∧
      (twoClients.get twoClients_isSome).log.countP (fun e => effective e.event) = 3 := by
  have hsmooth : ((twoClients.get twoClients_isSome).log.all fun e => smooth e.event) = true := by
    decide +kernel
  have hreach : Reach (hostWorld ℚ) FirstTry (clientsAt (fun _ => defaultCtx)
      (fun _ => reserveThenRelease "k" "fp") ⟨fun _ => none, 0, []⟩)
      (twoClients.get twoClients_isSome) := by
    refine Reach.of_run (Q := fun l => ∀ e ∈ l, smooth e.event = true) ?_ (.start ?_)
      (Option.some_get twoClients_isSome).symm ?_
    · exact fun new l h e he => h e (List.mem_append_right new he)
    · exact fun e he => absurd he List.not_mem_nil
    · exact List.all_eq_true.mp hsmooth
  have hissued : TokensIssued (⟨fun _ => none, 0, []⟩ : HostState ℚ) := by
    intro k x n hex fp hx
    cases hx
  refine ⟨(safeHandover _ _ (fun _ => reserveThenRelease_obeys "k" "fp") hissued hreach).1, ?_⟩
  decide +kernel

end ChaosDemo
