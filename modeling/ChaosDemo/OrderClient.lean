/-
ChaosDemo/OrderClient.lean

`create_order` as a client of the server.  What a request has done there it
reads off its own calls:

    reservation h     the text of its granted SET NX
    savedOrder h      the order whose document it has stored
    hasSettled h      it has written a terminal record, or given its text back

`orderClient` says when a request may touch the server, in these terms: it
reserves once, it stores an order before it has settled, its SUCCESS record
names the order it stored, and without a reservation it works only if one of
its calls has failed.  `Tracks` connects the calls on the server with the
standing of the request (ChaosDemo/OrderProtocol.lean), one lemma for each
service; `order_obeys` is what all the theorems about concurrent requests use.
-/
import ChaosDemo.BreakerFailures
import ChaosDemo.OrderProtocol

set_option linter.unusedSectionVars false

namespace ChaosDemo

open CallTree

variable {K : Type} [Field K] [LinearOrder K] [IsStrictOrderedRing K] [FloorRing K]

/-! ### What a request has done -/

/-- The text of the last reservation that was granted. -/
def reservation : HostHistory K → Option Raw
  | [] => none
  | ⟨.redis (.setNxEx (.idem _) v _), .ok true⟩ :: _ => some v
  | _ :: h => reservation h

/-- The last order whose document was stored. -/
def savedOrder : HostHistory K → Option String
  | [] => none
  | ⟨.redis (.setex (.order orderId) _ _), .ok _⟩ :: _ => some orderId
  | _ :: h => savedOrder h

/-- A terminal record was written, or the reservation given back. -/
def hasSettled : HostHistory K → Bool
  | [] => false
  | ⟨.redis (.setex (.idem _) _ _), .ok _⟩ :: _ => true
  | ⟨.redis (.compareAndDelete _ raw), .ok _⟩ :: h => reservation h == some raw || hasSettled h
  | _ :: h => hasSettled h

/-- The calls that change none of these. -/
def inert : HostEvent K → Bool
  | ⟨.redis (.setNxEx (.idem _) _ _), .ok true⟩ => false
  | ⟨.redis (.setex (.idem _) _ _), .ok _⟩ => false
  | ⟨.redis (.setex (.order _) _ _), .ok _⟩ => false
  | ⟨.redis (.compareAndDelete _ _), .ok _⟩ => false
  | _ => true

section Histories

variable {h : HostHistory K} {e : HostEvent K}

theorem reservation_inert (he : inert e = true) : reservation (e :: h) = reservation h := by
  rw [reservation]
  rintro k v ttl rfl
  cases he

theorem savedOrder_inert (he : inert e = true) : savedOrder (e :: h) = savedOrder h := by
  rw [savedOrder]
  rintro orderId ttl doc u rfl
  cases he

theorem hasSettled_inert (he : inert e = true) : hasSettled (e :: h) = hasSettled h := by
  rw [hasSettled]
  · rintro k ttl v u rfl
    cases he
  · rintro k raw b rfl
    cases he

end Histories

/-- Calls that changed nothing of what the request has done. -/
structure Framed (h₀ h : HostHistory K) : Prop where
  later : ∃ new, h = new ++ h₀
  reservation : reservation h = reservation h₀
  saved : savedOrder h = savedOrder h₀
  settled : hasSettled h = hasSettled h₀

namespace Framed

variable {h₀ h : HostHistory K}

theorem refl (h₀ : HostHistory K) : Framed h₀ h₀ := ⟨⟨[], rfl⟩, rfl, rfl, rfl⟩

theorem cons (hf : Framed h₀ h) {e : HostEvent K} (he : inert e = true) : Framed h₀ (e :: h) := by
  obtain ⟨new, hnew⟩ := hf.later
  refine ⟨⟨e :: new, by rw [hnew]; rfl⟩, ?_, ?_, ?_⟩
  · exact (reservation_inert he).trans hf.reservation
  · exact (savedOrder_inert he).trans hf.saved
  · exact (hasSettled_inert he).trans hf.settled

theorem subset (hf : Framed h₀ h) : h₀ ⊆ h := by
  obtain ⟨new, rfl⟩ := hf.later
  exact List.subset_append_right new h₀

end Framed

/-! ### The protocol -/

/-- The request has no key, or it has a reservation, or one of its calls failed. -/
def Entitled (key : Option String) (h : HostHistory K) : Prop :=
  key = none ∨ (reservation h).isSome = true ∨ ∃ e ∈ h, e.failed = true

/-- The terminal texts a request may write. -/
inductive Closing (h : HostHistory K) : Raw → Prop
  | success (now : ℤ) (fp orderId : String) : savedOrder h = some orderId →
      Closing h (successRaw now fp orderId 201 (createdBody orderId))
  | failed (now : ℤ) (fp message : String) (status : ℤ) (body : Dict) :
      savedOrder h = none → (reservation h).isSome = true →
      Closing h (failedRaw now fp message status body)

/-- `create_order` as a client of the server, under any failures. -/
def orderClient (ctx : Ctx K) (key : Option String) : Protocol (HostSig K) Exc where
  mayCall h o := match o with
    | .redis (.setNxEx (.idem k) v ttl) => key = some k ∧ ttl = ctx.idemPendingTtlSec ∧
        reservation h = none ∧ hasSettled h = false ∧ savedOrder h = none ∧
          ∃ fp, Building ctx k fp v h
    | .redis (.setex (.idem k) ttl v) => key = some k ∧ ttl = ctx.idemTtlSec ∧
        hasSettled h = false ∧ Entitled key h ∧ Closing h v
    | .redis (.compareAndDelete k raw) => key = some k ∧
        (reservation h = none ∧ Removable ctx k raw h ∨
          reservation h = some raw ∧ Reserved ctx k raw h ∧ savedOrder h = none ∧
            hasSettled h = false)
    | .redis (.setex (.order _) _ _) =>
        savedOrder h = none ∧ hasSettled h = false ∧ Entitled key h
    | .redis c => ∀ k, Key.idem k ∉ c.writes
    | _ => True
  mayReply _ o r := HostReply o r

theorem orderClient_hosted (ctx : Ctx K) (key : Option String) : Hosted (orderClient ctx key) :=
  fun _ _ _ hr => hr

theorem Closing.terminal {h : HostHistory K} {v : Raw} (hc : Closing h v) :
    v.state = idemStateSuccess ∨ v.state = idemStateFailed := by
  cases hc with
  | success => exact .inl (successRaw_state ..)
  | failed => exact .inr (failedRaw_state ..)

/-- A request is a client of the store. -/
theorem storeClient_of_orderClient {ctx : Ctx K} {key : Option String} {h : HostHistory K}
    {o : HostOp K} (hcall : (orderClient ctx key).mayCall h o) :
    (storeClient ctx).mayCall h o := by
  cases o with
  | redis c =>
      cases c with
      | setNxEx k v ttl =>
          cases k with
          | idem k => exact ⟨hcall.2.1, hcall.2.2.2.2.2⟩
          | _ => exact hcall
      | setex k ttl v =>
          cases k with
          | idem k => exact hcall.2.2.2.2.terminal
          | order orderId =>
              intro k hk
              rcases List.mem_singleton.mp hk
          | _ => exact hcall
      | compareAndDelete k raw =>
          rcases hcall.2 with ⟨-, hrem⟩ | ⟨-, hres, -⟩
          · exact .inl hrem
          · exact .inr hres
      | _ => exact hcall
  | _ => trivial

/-! ### The calls and the standing -/

/-- The stages in which the request has not settled. -/
def Stage.unsettled : Stage → Bool
  | .fresh => true
  | .waiting => true
  | .working => true
  | .refused => true
  | .over => false
  | .escaped _ => false

/-- A terminal write or a compare-and-delete failed, or the hook before one. -/
def SettlingFailed (h : HostHistory K) : Prop :=
  ∃ ev ∈ h, ev.failed = true ∧ ((∃ k ttl v, ev.op = .redis (.setex (.idem k) ttl v)) ∨
    (∃ k raw, ev.op = .redis (.compareAndDelete k raw)) ∨
    ∃ operation, ev.op = .beforeStoreOperation operation)

/-- `e` was raised by the breaker, or by the hook before the order is placed. -/
def Escaped (e : Exc) (h : HostHistory K) : Prop :=
  Raised e h ∨ ∃ stage, (⟨.beforeServiceOperation stage, .error e⟩ : HostEvent K) ∈ h

/-- The calls `ht` on the server are those behind the calls `hs` of the services. -/
structure Tracks (ctx : Ctx K) (key : Option String) (hs : ServiceHistory K)
    (ht : HostHistory K) : Prop where
  reserved : reservation ht = (standingOf key hs).reserved.bind Record.raw
  owns : ∀ r, (standingOf key hs).reserved = some r →
    ∃ k v, key = some k ∧ r.raw = some v ∧ Reserved ctx k v ht
  saved : savedOrder ht = (standingOf key hs).saved
  unsettled : (standingOf key hs).stage.unsettled = true → hasSettled ht = false
  entitled : (standingOf key hs).stage = .working → Entitled key ht
  settled : (standingOf key hs).stage = .over → (standingOf key hs).reserved.isSome = true →
    hasSettled ht = true ∨ SettlingFailed ht
  replayed : ∀ r, Replayed r hs → ∃ k, key = some k ∧ Loaded ctx k r ht ∧ r.isTerminal = true
  failures : (∃ e, (standingOf key hs).stage = .escaped e ∧ Escaped e ht) ∨
    (∀ e, (standingOf key hs).stage ≠ .escaped e) ∧ Recovered ht

section Connection

variable {ctx : Ctx K} {key : Option String} {hs : ServiceHistory K} {ht ht' : HostHistory K}

theorem Judged.append {k : String} {raw : Raw} (hj : Judged ctx k raw ht)
    (new : HostHistory K) : Judged ctx k raw (new ++ ht) := by
  induction new with
  | nil => exact hj
  | cons e new ih => exact ih.cons e

theorem Loaded.append {k : String} {r : Record} (hl : Loaded ctx k r ht)
    (new : HostHistory K) : Loaded ctx k r (new ++ ht) := by
  obtain ⟨raw, hgot, ts, stale, hr, hjudged⟩ := hl
  exact ⟨raw, List.mem_append_right new hgot, ts, stale, hr, fun hs => (hjudged hs).append new⟩

theorem Reserved.mono {k : String} {v : Raw} (hr : Reserved ctx k v ht) (hsub : ht ⊆ ht') :
    Reserved ctx k v ht' := ⟨hsub hr.1, hr.2⟩

theorem SettlingFailed.mono (hf : SettlingFailed ht) (hsub : ht ⊆ ht') : SettlingFailed ht' := by
  obtain ⟨ev, hmem, hrest⟩ := hf
  exact ⟨ev, hsub hmem, hrest⟩

theorem Escaped.mono {e : Exc} (he : Escaped e ht) (hsub : ht ⊆ ht') : Escaped e ht' := by
  rcases he with ⟨hx, c, hc, hmem⟩ | ⟨stage, hmem⟩
  · exact .inl ⟨hx, c, hc, hsub hmem⟩
  · exact .inr ⟨stage, hsub hmem⟩

theorem Entitled.framed (he : Entitled key ht) (hf : Framed ht ht') : Entitled key ht' := by
  rcases he with he | he | ⟨e, hmem, he⟩
  · exact .inl he
  · refine .inr (.inl ?_)
    rw [hf.reservation]
    exact he
  · exact .inr (.inr ⟨e, hf.subset hmem, he⟩)

/-- Only a reservation or a wait says that there is something to replay. -/
theorem Replayed.of_cons {r : Record} {e : ServiceEvent K} (hr : Replayed r (e :: hs))
    (hreserve : ∀ k fp, e ≠ ⟨.idempotency (.reserve k fp), .ok (.replay, r)⟩)
    (hwait : ∀ k fp, e ≠ ⟨.idempotency (.waitForResult k fp), .ok (.replay, r)⟩) :
    Replayed r hs := by
  obtain ⟨k, fp, hmem | hmem⟩ := hr
  · rcases List.mem_cons.mp hmem with heq | hold
    · exact absurd heq.symm (hreserve k fp)
    · exact ⟨k, fp, .inl hold⟩
  · rcases List.mem_cons.mp hmem with heq | hold
    · exact absurd heq.symm (hwait k fp)
    · exact ⟨k, fp, .inr hold⟩

/-- At the start nothing has been done. -/
theorem Tracks.start (ctx : Ctx K) (key : Option String) : Tracks ctx key [] [] := by
  refine ⟨rfl, ?_, rfl, fun _ => rfl, ?_, ?_, ?_, .inr ⟨?_, Recovered.nil⟩⟩
  · intro r hr
    cases hr
  · intro hwork
    cases key with
    | none => exact .inl rfl
    | some k => cases hwork
  · intro _ hsome
    cases hsome
  · rintro r ⟨k, fp, hmem | hmem⟩ <;> cases hmem
  · intro e he
    cases key <;> cases he

/-- **Framed calls.**  The request goes on to the stage `s`, and on the server it
has changed nothing. -/
theorem Tracks.move (hT : Tracks ctx key hs ht) (hf : Framed ht ht') {e : ServiceEvent K}
    {s : Stage} (hst : standingOf key (e :: hs) = { standingOf key hs with stage := s })
    (hunsettled : s.unsettled = true → (standingOf key hs).stage.unsettled = true)
    (hentitled : s = .working → (standingOf key hs).stage = .working ∨ Entitled key ht')
    (hover : s = .over → (standingOf key hs).stage = .over ∨ (standingOf key hs).reserved = none)
    (hreplayed : ∀ r, Replayed r (e :: hs) → Replayed r hs ∨
      ∃ k, key = some k ∧ Loaded ctx k r ht' ∧ r.isTerminal = true)
    (hfail : (∃ x, s = .escaped x ∧ Escaped x ht') ∨ (∀ x, s ≠ .escaped x) ∧ Recovered ht') :
    Tracks ctx key (e :: hs) ht' := by
  refine ⟨?_, ?_, ?_, ?_, ?_, ?_, ?_, ?_⟩
  · rw [hf.reservation, hT.reserved, hst]
  · rw [hst]
    intro r hr
    obtain ⟨k, v, hk, hv, hres⟩ := hT.owns r hr
    exact ⟨k, v, hk, hv, hres.mono hf.subset⟩
  · rw [hf.saved, hT.saved, hst]
  · rw [hst, hf.settled]
    exact fun hs => hT.unsettled (hunsettled hs)
  · rw [hst]
    intro hwork
    rcases hentitled hwork with hold | hnew
    · exact (hT.entitled hold).framed hf
    · exact hnew
  · rw [hst]
    intro hs hsome
    rcases hover hs with hold | hnone
    · rw [hf.settled]
      exact (hT.settled hold hsome).imp_right fun hfailed => hfailed.mono hf.subset
    · rw [hnone] at hsome
      cases hsome
  · intro r hr
    rcases hreplayed r hr with hold | hnew
    · obtain ⟨k, hk, hl, hterm⟩ := hT.replayed r hold
      obtain ⟨new, rfl⟩ := hf.later
      exact ⟨k, hk, hl.append new, hterm⟩
    · exact hnew
  · rw [hst]
    exact hfail

/-! ### The breaker -/

theorem orderClient_of_breaker {c : Cmd K} (hc : c.ofBreaker = true) (h : HostHistory K) :
    (orderClient ctx key).mayCall h (.redis c) := by
  have hkeys : ∀ k : Key, k.ofBreaker = true → ∀ k', Key.idem k' ∉ [k] := by
    intro k hk k' hmem
    obtain rfl := List.mem_singleton.mp hmem
    cases hk
  cases c with
  | get k =>
      intro k' hmem
      cases hmem
  | set k v => exact hkeys k hc
  | setNxEx k v ttl =>
      cases k with
      | idem k => cases hc
      | _ => exact hkeys _ hc
  | setex k ttl v =>
      cases k with
      | idem k => cases hc
      | order orderId => cases hc
      | _ => exact hkeys _ hc
  | delete ks =>
      intro k' hmem
      have hk' := List.all_eq_true.mp hc _ hmem
      cases hk'
  | compareAndDelete k raw => cases hc
  | zremrangebyscore w keys max => exact hkeys (.window w keys) rfl
  | zcard w keys =>
      intro k' hmem
      cases hmem
  | circuitBreaker keys args =>
      intro k' hmem
      simp [Cmd.writes] at hmem

theorem inert_of_breaker {o : HostOp K} (ho : ∀ c, o = .redis c → c.ofBreaker = true)
    (r : Except Exc o.Ret) : inert ⟨o, r⟩ = true := by
  cases o with
  | redis c =>
      have hc := ho c rfl
      cases c with
      | setNxEx k v ttl => cases k <;> first | rfl | cases hc
      | setex k ttl v => cases k <;> first | rfl | cases hc
      | compareAndDelete k raw => cases hc
      | _ => rfl
  | _ => rfl

/-- A call on the breaker changes nothing of what the request has done. -/
theorem breaker_frames {α : Type} {p : Host K α} {Q : Post (HostSig K) Exc α}
    (hp : Obeys breakerCalls p Q ht) :
    Obeys (orderClient ctx key) p (fun res h' => Q res h' ∧ Framed ht h') ht := by
  apply hp.frame (Framed.refl ht)
  intro h o hf ho
  refine ⟨?_, fun r hr => ⟨hr, hf.cons (inert_of_breaker ho r)⟩⟩
  cases o with
  | redis c => exact orderClient_of_breaker (ho c rfl) h
  | _ => trivial

/-- A request that has not been left by an exception has recovered. -/
theorem Tracks.recovered (hT : Tracks ctx key hs ht)
    (hstage : ∀ e, (standingOf key hs).stage ≠ .escaped e) : Recovered ht := by
  rcases hT.failures with ⟨e, he, -⟩ | ⟨-, hrec⟩
  · exact absurd he (hstage e)
  · exact hrec

/-- A call on the breaker and the standing. -/
theorem breaker_tracks {o : ServiceOp K} {p : Host K o.Ret} (hT : Tracks ctx key hs ht)
    (hp : Obeys breakerCalls p (Ends Recovered Raised) ht)
    (hstage : ∀ e, (standingOf key hs).stage ≠ .escaped e)
    (hok : ∀ a, standingOf key (⟨o, .ok a⟩ :: hs) = standingOf key hs)
    (herr : ∀ e, standingOf key (⟨o, .error e⟩ :: hs) =
      { standingOf key hs with stage := .escaped e })
    (hrep : ∀ res r, Replayed r (⟨o, res⟩ :: hs) → Replayed r hs) :
    Obeys (orderClient ctx key) p (fun res ht' => (∀ e, res = .error e → e.fromServer = true) ∧
      Tracks ctx key (⟨o, res⟩ :: hs) ht') ht := by
  apply (breaker_frames hp).mono
  rintro res ht' ⟨hend, hf⟩
  cases res with
  | ok a =>
      refine ⟨by simp, ?_⟩
      exact hT.move hf (s := (standingOf key hs).stage) (hok a) id .inl .inl
        (fun r hr => .inl (hrep _ r hr)) (.inr ⟨hstage, hend⟩)
  | error e =>
      refine ⟨fun e' he' => Except.error.inj he' ▸ hend.1, ?_⟩
      exact hT.move hf (s := .escaped e) (herr e) (fun hs => nomatch hs) (fun hs => nomatch hs)
        (fun hs => nomatch hs) (fun r hr => .inl (hrep _ r hr)) (.inl ⟨e, rfl, .inl hend⟩)

/-! ### The store -/

/-- Calls that changed nothing of what the request has done, and left nothing of
the breaker to recover. -/
def Still (h₀ h : HostHistory K) : Prop := Framed h₀ h ∧ Recovered h

theorem Still.cons {h : HostHistory K} (hs : Still ht h) {e : HostEvent K} (he : inert e = true)
    (hb : ∀ c x, c.ofBreaker = true → e ≠ ⟨.redis c, .error x⟩) : Still ht (e :: h) :=
  ⟨hs.1.cons he, hs.2.cons hb⟩

theorem still_undisturbed (ctx : Ctx K) (key : Option String) (ht : HostHistory K) :
    Undisturbed (orderClient ctx key) (Still ht) := by
  intro h o hs ho
  have hnot : ∀ c, o ≠ .redis c := by
    rintro c rfl
    cases ho
  refine ⟨?_, fun r _ => hs.cons ?_ ?_⟩
  · cases o with
    | redis c => exact absurd rfl (hnot c)
    | _ => trivial
  · cases o with
    | redis c => exact absurd rfl (hnot c)
    | _ => rfl
  · rintro c x - heq
    cases heq
    exact hnot c rfl

theorem still_reading (ctx : Ctx K) (key : Option String) (ht : HostHistory K) (k : String) :
    Reading (orderClient ctx key) k (Still ht) := by
  refine ⟨orderClient_hosted ctx key, still_undisturbed ctx key ht, fun h hs => ⟨?_, ?_⟩⟩
  · intro k' hmem
    cases hmem
  · intro r _
    refine hs.cons rfl ?_
    rintro c x hc heq
    cases heq
    cases hc

theorem reservation_cad (h : HostHistory K) (k : String) (raw : Raw) (r : Except Exc Bool) :
    reservation (cadEvent k raw r :: h) = reservation h := by
  cases r <;> rfl

/-- As long as the request has no reservation, removing somebody else's text
settles nothing. -/
theorem Still.cad {h : HostHistory K} (hs : Still ht h) (hnone : reservation ht = none)
    (k : String) (raw : Raw) (r : Except Exc Bool) : Still ht (cadEvent k raw r :: h) := by
  cases r with
  | error e =>
      refine hs.cons rfl ?_
      rintro c x hc heq
      cases heq
      cases hc
  | ok b =>
      have hnone' : reservation h = none := hs.1.reservation.trans hnone
      obtain ⟨new, hnew⟩ := hs.1.later
      refine ⟨⟨⟨_ :: new, by rw [hnew]; rfl⟩, ?_, ?_, ?_⟩, hs.2.cons ?_⟩
      · rw [reservation_cad, hs.1.reservation]
      · exact hs.1.saved
      · show (reservation h == some raw || hasSettled h) = _
        rw [hnone', hs.1.settled]
        rfl
      · rintro c x - heq
        cases heq

theorem still_reserving {k : String} (hk : key = some k) (fp : String)
    (hnone : reservation ht = none) (hsettled : hasSettled ht = false)
    (hsaved : savedOrder ht = none) :
    Reserving (orderClient ctx key) ctx k fp (Still ht) (Still ht) := by
  refine ⟨still_reading ctx key ht k, still_reading ctx key ht k, fun _ hs => hs, ?_, ?_, ?_⟩
  · intro h hs
    refine ⟨trivial, fun r _ => hs.cons rfl ?_⟩
    rintro c x - heq
    cases heq
  · intro h v hs hbuild
    refine ⟨⟨hk, rfl, hs.1.reservation.trans hnone, hs.1.settled.trans hsettled,
      hs.1.saved.trans hsaved, fp, hbuild⟩, fun r _ hr => hs.cons ?_ ?_⟩
    · rcases r with e | - | -
      · rfl
      · rfl
      · exact absurd rfl hr
    · rintro c x hc heq
      cases heq
      cases hc
  · intro h raw hs hrem
    refine ⟨⟨hk, .inl ⟨hs.1.reservation.trans hnone, hrem⟩⟩, fun r _ => ?_⟩
    exact ⟨hs.cad hnone k raw r, fun _ => hs.cad hnone k raw r⟩

/-- A repository passes results on and turns exceptions into its own. -/
theorem repository_obeys {P : Protocol (HostSig K) Exc} {α : Type} {message : String}
    {p : Host K α} {Q : Post (HostSig K) Exc α} (hp : Obeys P p Q ht) :
    Obeys P (repository message p) (fun res h' => match res with
      | .ok a => Q (.ok a) h'
      | .error e => e = .storage message ∧ ∃ x, Q (.error x) h') ht :=
  hp.handle (fun _ _ hQ => hQ) fun e _ hQ => ⟨rfl, e, hQ⟩

/-- A request without a reservation goes on to the stage `s`. -/
theorem Tracks.turnAway (hT : Tracks ctx key hs ht) {s₀ s : Stage}
    (hst : standingOf key hs = ⟨s₀, none, none⟩) (hs₀ : s₀.unsettled = true)
    (hstill : Still ht ht') {e : ServiceEvent K}
    (hafter : standingOf key (e :: hs) = { standingOf key hs with stage := s })
    (hent : s = .working → Entitled key ht') (hesc : ∀ x, s ≠ .escaped x)
    (hrep : ∀ r, Replayed r (e :: hs) → Replayed r hs ∨
      ∃ k, key = some k ∧ Loaded ctx k r ht' ∧ r.isTerminal = true) :
    Tracks ctx key (e :: hs) ht' := by
  apply hT.move hstill.1 hafter
  · rw [hst]
    exact fun _ => hs₀
  · exact fun hs => .inr (hent hs)
  · rw [hst]
    exact fun _ => .inr rfl
  · exact hrep
  · exact .inr ⟨hesc, hstill.2⟩

/-- `reserve`. -/
theorem reserve_tracks (hT : Tracks ctx key hs ht) {k fp : String} (hk : key = some k)
    (hst : standingOf key hs = ⟨.fresh, none, none⟩) :
    Obeys (orderClient ctx key) (idempotencyRepository ctx (.reserve k fp)) (fun r ht' =>
      (∀ e, r = .error e → e.isStorage = true) ∧
        Tracks ctx key (⟨.idempotency (.reserve k fp), r⟩ :: hs) ht') ht := by
  have hnone : reservation ht = none := by rw [hT.reserved, hst]; rfl
  have hrec : Recovered ht := hT.recovered fun e he => by rw [hst] at he; cases he
  have hsettled : hasSettled ht = false := hT.unsettled (by rw [hst]; rfl)
  have hsaved : savedOrder ht = none := by rw [hT.saved, hst]
  have hrule := (reserveIdempotencyKey_obeys (still_reserving hk fp hnone hsettled hsaved)
    ⟨Framed.refl ht, hrec⟩).blame (reserveIdempotencyKey_unfailing ctx k fp)
  have hmove : ∀ (r : Except Exc (ReserveState × Record)) (s : Stage) (ht' : HostHistory K),
      Still ht ht' → standingOf key (⟨.idempotency (.reserve k fp), r⟩ :: hs) =
        { standingOf key hs with stage := s } →
      (s = .working → Entitled key ht') → (∀ e, s ≠ .escaped e) →
      (∀ rec, r = .ok (.replay, rec) → Loaded ctx k rec ht' ∧ rec.isTerminal = true) →
      Tracks ctx key (⟨.idempotency (.reserve k fp), r⟩ :: hs) ht' := by
    intro r s ht' hstill hafter hent hesc hrep
    refine hT.turnAway hst rfl hstill hafter hent hesc ?_
    rintro rec ⟨k', fp', hmem | hmem⟩
    · rcases List.mem_cons.mp hmem with heq | hold
      · cases heq
        exact .inr ⟨k, hk, hrep rec rfl⟩
      · exact .inl ⟨k', fp', .inl hold⟩
    · rcases List.mem_cons.mp hmem with heq | hold
      · cases heq
      · exact .inl ⟨k', fp', .inr hold⟩
  apply (repository_obeys hrule).mono
  intro r ht' hres
  rcases r with e | ⟨state, rec⟩
  · -- the store is out, so something has failed
    obtain ⟨rfl, x, hstill, hfailed⟩ := hres
    refine ⟨fun e he => Except.error.inj he ▸ rfl, ?_⟩
    exact hmove (.error _) .working ht' hstill rfl (fun _ => .inr (.inr (hfailed x rfl)))
      (by simp) (by simp)
  · refine ⟨by simp, ?_⟩
    cases state with
    | owner =>
        obtain ⟨v, h₀, rfl, hstill, hbuild, hraw, -⟩ := hres.1
        have hafter : standingOf key (⟨.idempotency (.reserve k fp), .ok (.owner, rec)⟩ :: hs) =
            ⟨.working, some rec, none⟩ := by
          show (standingOf key hs).after _ = _
          rw [hst]
          rfl
        refine ⟨?_, ?_, ?_, ?_, ?_, ?_, ?_, .inr ⟨?_, hstill.2.cons ?_⟩⟩
        · rw [hafter]
          exact hraw.symm
        · rw [hafter]
          intro r hr
          obtain rfl := Option.some.inj hr
          exact ⟨k, v, hk, hraw, List.mem_cons_self, hbuild.state⟩
        · rw [hafter]
          exact hstill.1.saved.trans (by rw [hT.saved, hst])
        · intro _
          have hunsettled := hT.unsettled (by rw [hst]; rfl)
          exact hstill.1.settled.trans hunsettled
        · exact fun _ => .inr (.inl rfl)
        · rw [hafter]
          intro hover
          cases hover
        · intro r hr
          obtain ⟨k', hk', hl, hterm⟩ := hT.replayed r (hr.of_cons (by simp) (by simp))
          obtain ⟨new, rfl⟩ := hstill.1.later
          exact ⟨k', hk', hl.append (_ :: new), hterm⟩
        · rw [hafter]
          simp
        · rintro c x hc heq
          cases heq
    | replay =>
        refine hmove _ .over ht' hres.1.1 rfl (by simp) (by simp) ?_
        intro rec' hrec'
        cases hrec'
        exact ⟨hres.1.2.1, hres.1.2.2⟩
    | conflict => exact hmove _ .over ht' hres.1.1 rfl (by simp) (by simp) (by simp)
    | processing => exact hmove _ .waiting ht' hres.1 rfl (by simp) (by simp) (by simp)

/-- `wait_for_result`. -/
theorem waitForResult_tracks (hT : Tracks ctx key hs ht) {k fp : String} (hk : key = some k)
    (hst : standingOf key hs = ⟨.waiting, none, none⟩) :
    Obeys (orderClient ctx key) (idempotencyRepository ctx (.waitForResult k fp)) (fun r ht' =>
      (∀ e, r = .error e → e.isStorage = true) ∧
        Tracks ctx key (⟨.idempotency (.waitForResult k fp), r⟩ :: hs) ht') ht := by
  have hrec : Recovered ht := hT.recovered fun e he => by rw [hst] at he; cases he
  have hrule := (waitForIdempotencyResult_obeys (still_reading ctx key ht k) ctx fp
    ⟨Framed.refl ht, hrec⟩).blame (waitForIdempotencyResult_unfailing ctx k fp)
  have hmove : ∀ (r : Except Exc (WaitState × Record)) (s : Stage) (ht' : HostHistory K),
      Still ht ht' → standingOf key (⟨.idempotency (.waitForResult k fp), r⟩ :: hs) =
        { standingOf key hs with stage := s } →
      (s = .working → Entitled key ht') → (∀ e, s ≠ .escaped e) →
      (∀ rec, r = .ok (.replay, rec) → Loaded ctx k rec ht' ∧ rec.isTerminal = true) →
      Tracks ctx key (⟨.idempotency (.waitForResult k fp), r⟩ :: hs) ht' := by
    intro r s ht' hstill hafter hent hesc hrep
    refine hT.turnAway hst rfl hstill hafter hent hesc ?_
    rintro rec ⟨k', fp', hmem | hmem⟩
    · rcases List.mem_cons.mp hmem with heq | hold
      · cases heq
      · exact .inl ⟨k', fp', .inl hold⟩
    · rcases List.mem_cons.mp hmem with heq | hold
      · cases heq
        exact .inr ⟨k, hk, hrep rec rfl⟩
      · exact .inl ⟨k', fp', .inr hold⟩
  apply (repository_obeys hrule).mono
  intro r ht' hres
  rcases r with e | ⟨state, rec⟩
  · obtain ⟨rfl, x, hstill, hfailed⟩ := hres
    refine ⟨fun e he => Except.error.inj he ▸ rfl, ?_⟩
    exact hmove (.error _) .working ht' hstill rfl (fun _ => .inr (.inr (hfailed x rfl)))
      (by simp) (by simp)
  · refine ⟨by simp, ?_⟩
    cases state with
    | replay =>
        refine hmove _ .over ht' hres.1.1 rfl (by simp) (by simp) ?_
        intro rec' hrec'
        cases hrec'
        exact ⟨hres.1.2.1, hres.1.2.2⟩
    | conflict => exact hmove _ .over ht' hres.1.1 rfl (by simp) (by simp) (by simp)
    | missing => exact hmove _ .over ht' hres.1.1 rfl (by simp) (by simp) (by simp)
    | processing => exact hmove _ .over ht' hres.1 rfl (by simp) (by simp) (by simp)

/-- The calls since have settled the request, or failed to. -/
structure SettledSince (h₀ h : HostHistory K) : Prop where
  later : ∃ new, h = new ++ h₀
  reservation : reservation h = reservation h₀
  saved : savedOrder h = savedOrder h₀
  recovered : Recovered h
  settled : hasSettled h = true ∨ SettlingFailed h

/-- The request has settled. -/
theorem Tracks.settle (hT : Tracks ctx key hs ht) (hS : SettledSince ht ht') {e : ServiceEvent K}
    (hst : standingOf key (e :: hs) = { standingOf key hs with stage := .over })
    (hrep : ∀ r, Replayed r (e :: hs) → Replayed r hs) : Tracks ctx key (e :: hs) ht' := by
  obtain ⟨⟨new, rfl⟩, hres, hsaved, hrec, hsettled⟩ := hS
  refine ⟨?_, ?_, ?_, ?_, ?_, fun _ _ => hsettled, ?_, .inr ⟨?_, hrec⟩⟩
  · rw [hres, hT.reserved, hst]
  · rw [hst]
    intro r hr
    obtain ⟨k, v, hk, hv, hown⟩ := hT.owns r hr
    exact ⟨k, v, hk, hv, hown.mono (List.subset_append_right new ht)⟩
  · rw [hsaved, hT.saved, hst]
  · rw [hst]
    intro hs
    cases hs
  · rw [hst]
    intro hs
    cases hs
  · intro r hr
    obtain ⟨k, hk, hl, hterm⟩ := hT.replayed r (hrep r hr)
    exact ⟨k, hk, hl.append new, hterm⟩
  · rw [hst]
    simp

/-- A terminal write settles. -/
theorem terminalWrite_settles {k operation : String} (hk : key = some k)
    (hsettled : hasSettled ht = false) (hent : Entitled key ht) (hrec : Recovered ht)
    (text : ℤ → Raw) (hclosing : ∀ n h, Framed ht h → Closing h (text n)) :
    Obeys (orderClient ctx key) (do
      let now ← Host.time
      executeRedis ctx operation (.setex (.idem k) ctx.idemTtlSec (text (pyInt now))))
      (fun _ h' => SettledSince ht h') ht := by
  apply (time_obeys (orderClient_hosted ctx key) (still_undisturbed ctx key ht)
    ⟨Framed.refl ht, hrec⟩).bind
  · rintro now h₁ ⟨-, -, -, hstill₁⟩
    apply (executeRedis_blames (orderClient_hosted ctx key) ctx operation
      (still_undisturbed ctx key ht) ?_ ?_ hstill₁).mono
    · intro res h₂ hres
      cases res with
      | ok u =>
          obtain ⟨h, rfl, hstill⟩ := hres
          obtain ⟨new, hnew⟩ := hstill.1.later
          refine ⟨⟨_ :: new, by rw [hnew]; rfl⟩, hstill.1.reservation, hstill.1.saved,
            hstill.2.cons ?_, .inl rfl⟩
          rintro c x - heq
          cases heq
      | error e =>
          obtain ⟨hstill, ev, hmem, hfailed, hop⟩ := hres
          refine ⟨hstill.1.later, hstill.1.reservation, hstill.1.saved, hstill.2, .inr ?_⟩
          refine ⟨ev, hmem, hfailed, ?_⟩
          rcases hop with hop | hop
          · exact .inl ⟨_, _, _, hop⟩
          · exact .inr (.inr hop)
    · intro h hstill
      exact ⟨hk, rfl, hstill.1.settled.trans hsettled, hent.framed hstill.1, hclosing _ h hstill.1⟩
    · intro h e hstill _
      refine hstill.cons rfl ?_
      rintro c x hc heq
      cases heq
      cases hc
  · rintro e h₁ ⟨t, ht, -⟩
    cases ht

/-- The repository settles what the store settles. -/
theorem settle_tracks (hT : Tracks ctx key hs ht) {o : StoreOp}
    (hS : Obeys (orderClient ctx key) (storeCall ctx o) (fun _ h' => SettledSince ht h') ht)
    (hst : ∀ r, standingOf key (⟨.idempotency o, r⟩ :: hs) =
      { standingOf key hs with stage := .over })
    (hrep : ∀ res r, Replayed r (⟨.idempotency o, res⟩ :: hs) → Replayed r hs) :
    Obeys (orderClient ctx key) (idempotencyRepository ctx o) (fun r ht' =>
      (∀ e, r = .error e → e.isStorage = true) ∧
        Tracks ctx key (⟨.idempotency o, r⟩ :: hs) ht') ht := by
  apply (repository_obeys hS).mono
  intro r ht' hres
  cases r with
  | ok a => exact ⟨by simp, hT.settle hres (hst _) (hrep _)⟩
  | error e =>
      obtain ⟨rfl, x, hset⟩ := hres
      exact ⟨fun e he => Except.error.inj he ▸ rfl, hT.settle hset (hst _) (hrep _)⟩

/-- A text in the state PROCESSING is not empty. -/
theorem truthy_of_processing {v : Raw} (hv : v.state = idemStateProcessing) : v.truthy = true := by
  cases v with
  | text s =>
      have hsuccess : (Raw.text s).state = idemStateSuccess := rfl
      rw [hsuccess] at hv
      exact absurd hv (by decide)
  | object fields => rfl

/-- `release_idempotency_reservation` of the request's own record. -/
theorem release_settles {k : String} {v : Raw} {r : Record} (hk : key = some k)
    (hraw : r.raw = some v) (hres : reservation ht = some v) (hown : Reserved ctx k v ht)
    (hsaved : savedOrder ht = none) (hsettled : hasSettled ht = false) (hrec : Recovered ht) :
    Obeys (orderClient ctx key) (storeCall ctx (.release k r)) (fun _ h' => SettledSince ht h')
      ht := by
  show Obeys _ (compareAndDelete ctx k r.raw) _ _
  rw [hraw, compareAndDelete, if_pos (truthy_of_processing hown.2)]
  apply (executeRedis_blames (orderClient_hosted ctx key) ctx _ (still_undisturbed ctx key ht)
    ?_ ?_ ⟨Framed.refl ht, hrec⟩).mono
  · intro res h₂ hres'
    cases res with
    | ok b =>
        obtain ⟨h, rfl, hstill⟩ := hres'
        obtain ⟨new, hnew⟩ := hstill.1.later
        refine ⟨⟨_ :: new, by rw [hnew]; rfl⟩, ?_, hstill.1.saved, hstill.2.cons ?_, .inl ?_⟩
        · rw [reservation_cad, hstill.1.reservation]
        · rintro c x - heq
          cases heq
        · show (reservation h == some v || hasSettled h) = true
          rw [hstill.1.reservation, hres]
          simp
    | error e =>
        obtain ⟨hstill, ev, hmem, hfailed, hop⟩ := hres'
        refine ⟨hstill.1.later, hstill.1.reservation, hstill.1.saved, hstill.2, .inr ?_⟩
        refine ⟨ev, hmem, hfailed, ?_⟩
        rcases hop with hop | hop
        · exact .inr (.inl ⟨_, _, hop⟩)
        · exact .inr (.inr hop)
  · intro h hstill
    refine ⟨hk, .inr ⟨hstill.1.reservation.trans hres, hown.mono hstill.1.subset, ?_, ?_⟩⟩
    · exact hstill.1.saved.trans hsaved
    · exact hstill.1.settled.trans hsettled
  · intro h e hstill _
    refine hstill.cons rfl ?_
    rintro c x hc heq
    cases heq
    cases hc

/-- `OrderRepository.save`. -/
theorem saveOrder_tracks (hT : Tracks ctx key hs ht) {reserved : Option Record} {orderId : String}
    {doc : Dict} (hst : standingOf key hs = ⟨.working, reserved, none⟩) :
    Obeys (orderClient ctx key) (orderRepositorySave ctx orderId doc) (fun r ht' =>
      (∀ e, r = .error e → e.isStorage = true) ∧
        Tracks ctx key (⟨.saveOrder orderId doc, r⟩ :: hs) ht') ht := by
  have hrec : Recovered ht := hT.recovered fun e he => by rw [hst] at he; cases he
  have hunsettled : hasSettled ht = false := hT.unsettled (by rw [hst]; rfl)
  have hent : Entitled key ht := hT.entitled (by rw [hst])
  have hsaved : savedOrder ht = none := hT.saved.trans (by rw [hst])
  have hput := executeRedis_blames (orderClient_hosted ctx key) ctx "order_store_set"
    (c := .setex (.order orderId) ctx.orderTtlSec doc) (still_undisturbed ctx key ht)
    (fun h hstill => ⟨hstill.1.saved.trans hsaved, hstill.1.settled.trans hunsettled,
      hent.framed hstill.1⟩)
    (fun h e hstill _ => hstill.cons rfl fun c x hc heq => by cases heq; cases hc)
    ⟨Framed.refl ht, hrec⟩
  apply (repository_obeys hput).mono
  intro r ht' hres
  cases r with
  | error e =>
      obtain ⟨rfl, x, hstill, -⟩ := hres
      refine ⟨fun e he => Except.error.inj he ▸ rfl, ?_⟩
      refine hT.move hstill.1 (s := .refused) rfl ?_ (fun hs => nomatch hs) (fun hs => nomatch hs)
        ?_ (.inr ⟨by simp, hstill.2⟩)
      · rw [hst]
        exact fun _ => rfl
      · exact fun r hr => .inl (hr.of_cons (by simp) (by simp))
  | ok u =>
      obtain ⟨h, rfl, hstill⟩ := hres
      have hafter : standingOf key (⟨.saveOrder orderId doc, .ok u⟩ :: hs) =
          ⟨.working, reserved, some orderId⟩ := by
        show (standingOf key hs).after _ = _
        rw [hst]
        rfl
      have hsub : ht ⊆ ⟨.redis (.setex (.order orderId) ctx.orderTtlSec doc), .ok u⟩ :: h :=
        fun _ hmem => List.mem_cons_of_mem _ (hstill.1.subset hmem)
      refine ⟨by simp, ⟨?_, ?_, ?_, ?_, ?_, ?_, ?_, .inr ⟨?_, hstill.2.cons ?_⟩⟩⟩
      · rw [hafter]
        exact hstill.1.reservation.trans (by rw [hT.reserved, hst])
      · rw [hafter]
        intro r hr
        obtain ⟨k, v, hk, hv, hown⟩ := hT.owns r (by rw [hst]; exact hr)
        exact ⟨k, v, hk, hv, hown.mono hsub⟩
      · rw [hafter]
        rfl
      · exact fun _ => hstill.1.settled.trans hunsettled
      · intro _
        rcases hent with hnone | hsome | ⟨e, hmem, he⟩
        · exact .inl hnone
        · refine .inr (.inl ?_)
          show (reservation h).isSome = true
          rw [hstill.1.reservation]
          exact hsome
        · exact .inr (.inr ⟨e, hsub hmem, he⟩)
      · rw [hafter]
        intro hs
        cases hs
      · intro r hr
        obtain ⟨k', hk', hl, hterm⟩ := hT.replayed r (hr.of_cons (by simp) (by simp))
        obtain ⟨new, rfl⟩ := hstill.1.later
        exact ⟨k', hk', hl.append (_ :: new), hterm⟩
      · rw [hafter]
        simp
      · rintro c x - heq
        cases heq

/-- What reads the clock, draws or waits. -/
theorem quiet_tracks (hT : Tracks ctx key hs ht) {o : ServiceOp K} {o' : HostOp K}
    {r : Except Exc o.Ret} {r' : Except Exc o'.Ret} (ho : o.quiet = true)
    (ho' : ∀ c, o' ≠ .redis c) : Tracks ctx key (⟨o, r⟩ :: hs) (⟨o', r'⟩ :: ht) := by
  have hbreaker : ∀ c, o' = .redis c → c.ofBreaker = true := fun c hc => absurd hc (ho' c)
  refine hT.move ((Framed.refl ht).cons (inert_of_breaker hbreaker r'))
    (s := (standingOf key hs).stage) (standingOf_quiet ho r) id .inl .inl ?_ ?_
  · refine fun rec hrec => .inl (hrec.of_cons ?_ ?_)
    · rintro k fp heq
      cases heq
      cases ho
    · rintro k fp heq
      cases heq
      cases ho
  · rcases hT.failures with ⟨e, he, hesc⟩ | ⟨hstage, hrec⟩
    · exact .inl ⟨e, he, hesc.mono (List.subset_cons_self _ _)⟩
    · refine .inr ⟨hstage, hrec.cons ?_⟩
      rintro c x - heq
      cases heq
      exact ho' c rfl

/-- The hook before the order is placed. -/
theorem hook_tracks (hT : Tracks ctx key hs ht) (stage : String) (r : Except Exc Unit) :
    Tracks ctx key (⟨.beforeServiceOperation stage, r⟩ :: hs)
      (⟨.beforeServiceOperation stage, r⟩ :: ht) := by
  have hf : Framed ht (⟨.beforeServiceOperation stage, r⟩ :: ht) := (Framed.refl ht).cons rfl
  have hkept : (∃ e, (standingOf key hs).stage = .escaped e ∧
        Escaped e (⟨.beforeServiceOperation stage, r⟩ :: ht)) ∨
      (∀ e, (standingOf key hs).stage ≠ .escaped e) ∧
        Recovered (⟨.beforeServiceOperation stage, r⟩ :: ht) := by
    rcases hT.failures with ⟨e, he, hesc⟩ | ⟨hstage, hrec⟩
    · exact .inl ⟨e, he, hesc.mono hf.subset⟩
    · refine .inr ⟨hstage, hrec.cons ?_⟩
      rintro c x - heq
      cases heq
  have hrep : ∀ rec, Replayed rec (⟨.beforeServiceOperation stage, r⟩ :: hs) → Replayed rec hs :=
    fun rec hrec => hrec.of_cons (by simp) (by simp)
  cases r with
  | ok u =>
      exact hT.move hf (s := (standingOf key hs).stage) rfl id .inl .inl
        (fun rec hrec => .inl (hrep rec hrec)) hkept
  | error e =>
      have hafter : standingOf key (⟨.beforeServiceOperation stage, .error e⟩ :: hs) =
          if e.isChaos then standingOf key hs
          else { standingOf key hs with stage := .escaped e } := rfl
      cases hchaos : e.isChaos with
      | true =>
          rw [hchaos] at hafter
          exact hT.move hf (s := (standingOf key hs).stage) hafter id .inl .inl
            (fun rec hrec => .inl (hrep rec hrec)) hkept
      | false =>
          rw [hchaos] at hafter
          exact hT.move hf (s := .escaped e) hafter (fun hs => nomatch hs)
            (fun hs => nomatch hs) (fun hs => nomatch hs) (fun rec hrec => .inl (hrep rec hrec))
            (.inl ⟨e, rfl, .inr ⟨stage, List.mem_cons_self⟩⟩)

/-- One call of a service, carried out on the host. -/
theorem serviceCall_obeys (o : ServiceOp K) (hT : Tracks ctx key hs ht)
    (hcall : (orderProtocol key).mayCall hs o) :
    Obeys (orderClient ctx key) (serviceCall ctx o) (fun r ht' =>
      (orderProtocol key).mayReply hs o r ∧ Tracks ctx key (⟨o, r⟩ :: hs) ht') ht := by
  have hquiet : ∀ (o' : HostOp K), (∀ c, o' ≠ .redis c) → o.quiet = true →
      ∀ (f : Except Exc o'.Ret → Except Exc o.Ret), ∀ r, Tracks ctx key (⟨o, f r⟩ :: hs)
        (⟨o', r⟩ :: ht) := fun o' ho' ho f r => quiet_tracks hT ho ho'
  cases o with
  | allowRequest b =>
      have hstage : ∀ e, (standingOf key hs).stage ≠ .escaped e := by
        obtain rfl : hs = [] := hcall
        intro e he
        cases key <;> cases he
      exact breaker_tracks hT (allowRequest_recovers ctx b (hT.recovered hstage)) hstage
        (fun _ => rfl) (fun _ => rfl) fun res r hr => hr.of_cons (by simp) (by simp)
  | record action b =>
      have hstage : ∀ e, (standingOf key hs).stage ≠ .escaped e := by
        intro e he
        rcases hcall with h | h <;> rw [h] at he <;> cases he
      exact breaker_tracks hT (record_recovers ctx b action (hT.recovered hstage)) hstage
        (fun _ => rfl) (fun _ => rfl) fun res r hr => hr.of_cons (by simp) (by simp)
  | idempotency o =>
      cases o with
      | reserve k fp => exact reserve_tracks hT hcall.1 hcall.2
      | waitForResult k fp => exact waitForResult_tracks hT hcall.1 hcall.2
      | release k r =>
          obtain ⟨hk, hst⟩ := hcall
          obtain ⟨k', v, hk', hraw, hown⟩ := hT.owns r (by rw [hst])
          obtain rfl := Option.some.inj (hk.symm.trans hk')
          refine settle_tracks hT (release_settles hk hraw ?_ hown ?_ ?_ ?_) (fun _ => rfl)
            fun res r hr => hr.of_cons (by simp) (by simp)
          · rw [hT.reserved, hst]
            exact hraw
          · exact hT.saved.trans (by rw [hst])
          · exact hT.unsettled (by rw [hst]; rfl)
          · exact hT.recovered fun e he => by rw [hst] at he; cases he
      | finalizeSuccess k fp orderId status body =>
          obtain ⟨hk, ⟨reserved, hst⟩, rfl, rfl⟩ := hcall
          refine settle_tracks hT (terminalWrite_settles hk ?_ ?_ ?_
            (fun n => successRaw n fp orderId 201 (createdBody orderId)) ?_) (fun _ => rfl)
            fun res r hr => hr.of_cons (by simp) (by simp)
          · exact hT.unsettled (by rw [hst]; rfl)
          · exact hT.entitled (by rw [hst])
          · exact hT.recovered fun e he => by rw [hst] at he; cases he
          · intro n h hf
            exact .success n fp orderId (hf.saved.trans (hT.saved.trans (by rw [hst])))
      | saveFailed k fp message status body =>
          obtain ⟨hk, r, hst⟩ := hcall
          have hstage : (standingOf key hs).stage.unsettled = true ∧
              ∀ e, (standingOf key hs).stage ≠ .escaped e := by
            rcases hst with hst | hst <;> rw [hst] <;> simp [Stage.unsettled]
          have hst' : (standingOf key hs).reserved = some r ∧ (standingOf key hs).saved = none := by
            rcases hst with hst | hst <;> rw [hst] <;> exact ⟨rfl, rfl⟩
          have hsome : (reservation ht).isSome = true := by
            obtain ⟨k', v, -, hraw, -⟩ := hT.owns r hst'.1
            rw [hT.reserved, hst'.1]
            show r.raw.isSome = true
            rw [hraw]
            rfl
          refine settle_tracks hT (terminalWrite_settles hk (hT.unsettled hstage.1)
            (.inr (.inl hsome)) (hT.recovered hstage.2)
            (fun n => failedRaw n fp message status (failedBody message body)) ?_) (fun _ => rfl)
            fun res r hr => hr.of_cons (by simp) (by simp)
          intro n h hf
          refine .failed n fp message status _ (hf.saved.trans (hT.saved.trans hst'.2)) ?_
          rw [hf.reservation]
          exact hsome
  | saveOrder orderId doc =>
      obtain ⟨reserved, hst⟩ := hcall
      exact saveOrder_tracks hT hst
  | beforeServiceOperation stage =>
      exact .perform trivial fun r _ => ⟨trivial, hook_tracks hT stage r⟩
  | time => exact .perform trivial fun r hr => ⟨hr, hquiet .time (by simp) rfl id r⟩
  | uniform lo hi => exact .perform trivial fun r hr => ⟨hr, hquiet (.uniform lo hi) (by simp) rfl id r⟩
  | random => exact .perform trivial fun r hr => ⟨hr, hquiet .random (by simp) rfl id r⟩
  | uuid4 => exact .perform trivial fun r hr => ⟨hr, hquiet .uuid4 (by simp) rfl id r⟩
  | sleep seconds => exact .perform trivial fun r hr => ⟨hr, hquiet (.sleep seconds) (by simp) rfl id r⟩

end Connection

/-! ### The request -/

/-- The program the host runs for one request. -/
def orderRequest (ctx : Ctx K) (startedAt : K) (command : CreateOrderCommand) :
    Host K ServiceResult :=
  (createOrder ctx startedAt command).interp (serviceCall ctx)

/-- **A request keeps to the protocol of an order client**, and its end is tracked
by an ending of `create_order`. -/
theorem orderRequest_obeys (ctx : Ctx K) (startedAt : K) (command : CreateOrderCommand) :
    Obeys (orderClient ctx command.key?) (orderRequest ctx startedAt command)
      (fun res ht => ∃ hs, Tracks ctx command.key? hs ht ∧ Ending command.key? res hs) [] :=
  Obeys.interp (R := Tracks ctx command.key?) (fun o _ _ hT hcall => serviceCall_obeys o hT hcall)
    (createOrder_obeys ctx startedAt command) (.start ctx command.key?)

end ChaosDemo
