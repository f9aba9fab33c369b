/-
ChaosDemo/StoreClient.lean

Clients of the store functions on one server.  `storeClient` is what all of
them have in common, whatever else they do: a reservation is attempted with a
text that was just built, a text is only removed after it was judged stale or
when the client stored it itself, and a terminal write writes a terminal text.

The only thing that tells two clients apart for the server is the owner token
in the text of a reservation, so the facts that every later proof needs are
about tokens: a uuid is handed out once (`UuidInv`), so a reservation text has
one client who can store it.
-/
import ChaosDemo.StoreProtocol

set_option linter.unusedSectionVars false

namespace ChaosDemo

open CallTree Keyspace

variable {K : Type} [Field K] [LinearOrder K] [IsStrictOrderedRing K] [FloorRing K]
variable {ι : Type}

abbrev HostEntry (K ι : Type) := Entry (HostSig K) Exc (HostState K) ι

abbrev HostLog (K ι : Type) := Log (HostSig K) Exc (HostState K) ι

/-! ### Served calls -/

/-- What a call can be that was served in state `s`, and the state it leaves. -/
inductive Served (s : HostState K) : HostEvent K → HostState K → Prop
  | done (c : Cmd K) :
      Served s ⟨.redis c, .ok (exec s.now s.data c).1⟩ { s with data := (exec s.now s.data c).2 }
  | dropped (c : Cmd K) (e : Exc) : Served s ⟨.redis c, .error e⟩ s
  | lost (c : Cmd K) (e : Exc) :
      Served s ⟨.redis c, .error e⟩ { s with data := (exec s.now s.data c).2 }
  | uuid (hex : String) : hex ∉ s.used →
      Served s (uuidEvent hex) { s with used := hex :: s.used }
  | quiet (o : HostOp K) (r : Except Exc o.Ret) : (∀ c, o ≠ .redis c) → o ≠ .uuid4 →
      Served s ⟨o, r⟩ s

theorem served_of_serve {s s' : HostState K} {o : HostOp K} {x : HostChoice K}
    {r : Except Exc o.Ret} (h : (hostWorld K).serve s o x = some (r, s')) :
    Served s ⟨o, r⟩ s' := by
  cases o with
  | redis c =>
      rcases serve_redis h with ⟨rfl, rfl⟩ | ⟨e, rfl, -, rfl | rfl⟩
      · exact .done c
      · exact .dropped c e
      · exact .lost c e
  | uuid4 =>
      cases x <;> simp [hostWorld, HostState.serve] at h
      obtain ⟨hfresh, rfl, rfl⟩ := h
      exact .uuid _ hfresh
  | _ =>
      cases x <;> simp [hostWorld, HostState.serve] at h <;> obtain ⟨rfl, rfl⟩ := h <;>
        exact .quiet _ _ (by simp) (by simp)

/-- A call that did not fail. -/
def smooth : HostEvent K → Bool
  | ⟨.redis _, .error _⟩ => false
  | ⟨.beforeStoreOperation _, .error _⟩ => false
  | ⟨.beforeServiceOperation _, .error _⟩ => false
  | _ => true

/-- The host fails only in calls that can fail. -/
theorem not_failed_of_smooth {ev : HostEvent K} (hr : HostReply ev.op ev.reply)
    (hs : smooth ev = true) : ev.failed = false := by
  rcases ev with ⟨o, v | e⟩
  · cases o with
    | redis c => cases hs
    | beforeServiceOperation stage => cases hs
    | beforeStoreOperation operation => cases hs
    | _ =>
        obtain ⟨v', hv⟩ := hr
        cases hv
  · rfl

/-! ### The protocol of a client -/

/-- The client stored the reservation `v`. -/
def Reserved (ctx : Ctx K) (k : String) (v : Raw) (h : HostHistory K) : Prop :=
  setNxEvent k v ctx.idemPendingTtlSec (.ok true) ∈ h ∧ v.state = idemStateProcessing

theorem Reserved.cons {ctx : Ctx K} {k : String} {v : Raw} {h : HostHistory K}
    (hr : Reserved ctx k v h) (e : HostEvent K) : Reserved ctx k v (e :: h) :=
  ⟨List.mem_cons_of_mem _ hr.1, hr.2⟩

theorem Building.state {ctx : Ctx K} {k fp : String} {v : Raw} {h : HostHistory K}
    (hb : Building ctx k fp v h) : v.state = idemStateProcessing := by
  obtain ⟨new, old, t, hex, -, rfl, -⟩ := hb
  exact processingRaw_state ..

/-- A client of the store functions. -/
def storeClient (ctx : Ctx K) : Protocol (HostSig K) Exc where
  mayCall h o := match o with
    | .redis (.setNxEx (.idem k) v ttl) =>
        ttl = ctx.idemPendingTtlSec ∧ ∃ fp, Building ctx k fp v h
    | .redis (.setex (.idem _) _ v) =>
        v.state = idemStateSuccess ∨ v.state = idemStateFailed
    | .redis (.compareAndDelete k raw) =>
        Removable ctx k raw h ∨ Reserved ctx k raw h
    | .redis c => ∀ k, Key.idem k ∉ c.writes
    | _ => True
  mayReply _ o r := HostReply o r

theorem storeClient_hosted (ctx : Ctx K) : Hosted (storeClient ctx) := fun _ _ _ hr => hr

/-- A fact about the past is all a client can go by. -/
def Lasting (I : HostHistory K → Prop) : Prop := ∀ h e, I h → I (e :: h)

section Rules

variable {ctx : Ctx K} {I : HostHistory K → Prop} (hI : Lasting I)

include hI

theorem Lasting.undisturbed : Undisturbed (storeClient ctx) I := by
  intro h o hh ho
  refine ⟨?_, fun r _ => hI h _ hh⟩
  cases o <;> trivial

theorem Lasting.reading (k : String) : Reading (storeClient ctx) k I := by
  refine ⟨storeClient_hosted ctx, hI.undisturbed, fun h hh => ⟨?_, fun r _ => hI h _ hh⟩⟩
  intro k' hk
  cases hk

theorem Lasting.reserving (k fp : String) : Reserving (storeClient ctx) ctx k fp I I := by
  refine ⟨hI.reading k, hI.reading k, fun _ hh => hh, ?_, ?_, ?_⟩
  · exact fun h hh => ⟨trivial, fun r _ => hI h _ hh⟩
  · exact fun h v hh hbuild => ⟨⟨rfl, fp, hbuild⟩, fun r _ _ => hI h _ hh⟩
  · exact fun h raw hh hrem => ⟨.inl hrem, fun r _ => ⟨hI h _ hh, fun _ => hI h _ hh⟩⟩

end Rules

/-! ### What a client's call does to the records -/

/-- A call that changed a record, and was told so. -/
def effective : HostEvent K → Bool
  | ⟨.redis (.setNxEx (.idem _) _ _), .ok true⟩ => true
  | ⟨.redis (.setex (.idem _) _ _), .ok _⟩ => true
  | ⟨.redis (.compareAndDelete _ _), .ok true⟩ => true
  | _ => false

theorem effective_error (o : HostOp K) (e : Exc) : effective ⟨o, .error e⟩ = false := by
  cases o with
  | redis c =>
      cases c with
      | setNxEx k v ttl => cases k <;> rfl
      | setex k ttl v => cases k <;> rfl
      | _ => rfl
  | _ => rfl

/-- What the call of a client with history `h` can do to the records under the
idempotency keys. -/
inductive RecordStep (ctx : Ctx K) (h : HostHistory K) (s : HostState K) :
    HostEvent K → HostState K → Prop
  | reserved (k fp : String) (v : Raw) (r : Except Exc Bool) : Building ctx k fp v h →
      s.data.lookup s.now (.idem k) = none → r ≠ .ok false →
      RecordStep ctx h s (setNxEvent k v ctx.idemPendingTtlSec r)
        { s with data := s.data.put (.idem k) v (some (s.now + ctx.idemPendingTtlSec)) }
  | finished (k : String) (ttl : ℤ) (v : Raw) (r : Except Exc Unit) :
      v.state = idemStateSuccess ∨ v.state = idemStateFailed →
      RecordStep ctx h s (setexEvent k ttl v r)
        { s with data := s.data.put (.idem k) v (some (s.now + ttl)) }
  | removed (k : String) (v : Raw) (r : Except Exc Bool) :
      Removable ctx k v h ∨ Reserved ctx k v h →
      s.data.lookup s.now (.idem k) = some v → r ≠ .ok false →
      RecordStep ctx h s (cadEvent k v r) { s with data := s.data.erase (.idem k) }
  | kept (ev : HostEvent K) (s' : HostState K) :
      (∀ k, s'.data (.idem k) = s.data (.idem k)) → effective ev = false →
      RecordStep ctx h s ev s'

section Steps

variable {ctx : Ctx K} {h : HostHistory K} {s s' : HostState K}

/-- A command that reached the server, whether its reply came back or not. -/
theorem recordStep_of_exec {c : Cmd K} {r : Except Exc c.Ret}
    (hr : r = .ok (exec s.now s.data c).1 ∨ ∃ e, r = .error e)
    (hcall : (storeClient ctx).mayCall h (.redis c)) :
    RecordStep ctx h s ⟨.redis c, r⟩ { s with data := (exec s.now s.data c).2 } := by
  have hframe : (∀ k, Key.idem k ∉ c.writes) → effective ⟨.redis c, r⟩ = false →
      RecordStep ctx h s ⟨.redis c, r⟩ { s with data := (exec s.now s.data c).2 } :=
    fun hw heff => .kept _ _ (fun k => exec_frame s.now s.data c (hw k)) heff
  cases c with
  | setNxEx k v ttl =>
      cases k with
      | idem k =>
          obtain ⟨rfl, fp, hbuild⟩ := hcall
          cases hlookup : s.data.lookup s.now (.idem k) with
          | none =>
              have hexec : exec s.now s.data (.setNxEx (.idem k) v ctx.idemPendingTtlSec) =
                  (true, s.data.put (.idem k) v (some (s.now + ctx.idemPendingTtlSec))) := by
                simp [exec, hlookup]
              rw [hexec] at hr ⊢
              refine .reserved k fp v r hbuild hlookup ?_
              rintro rfl
              rcases hr with hr | ⟨e, hr⟩ <;> cases hr
          | some v' =>
              have hexec : exec s.now s.data (.setNxEx (.idem k) v ctx.idemPendingTtlSec) =
                  (false, s.data) := by
                simp [exec, hlookup]
              rw [hexec] at hr ⊢
              refine .kept _ _ (fun _ => rfl) ?_
              rcases hr with rfl | ⟨e, rfl⟩ <;> rfl
      | _ => exact hframe hcall rfl
  | setex k ttl v =>
      cases k with
      | idem k => exact .finished k ttl v r hcall
      | _ => exact hframe hcall rfl
  | compareAndDelete k raw =>
      by_cases hlookup : s.data.lookup s.now (.idem k) = some raw
      · have hexec : exec s.now s.data (.compareAndDelete k raw) =
            (true, s.data.erase (.idem k)) := if_pos hlookup
        rw [hexec] at hr ⊢
        refine .removed k raw r hcall hlookup ?_
        rintro rfl
        rcases hr with hr | ⟨e, hr⟩ <;> cases hr
      · have hexec : exec s.now s.data (.compareAndDelete k raw) = (false, s.data) :=
          if_neg hlookup
        rw [hexec] at hr ⊢
        refine .kept _ _ (fun _ => rfl) ?_
        rcases hr with rfl | ⟨e, rfl⟩ <;> rfl
  | _ => exact hframe hcall rfl

/-- **What a client can do to a record**: reserve a key that has none, write a
terminal record, or remove the very text it read or wrote. -/
theorem Served.recordStep {ev : HostEvent K} (hs : Served s ev s')
    (hcall : (storeClient ctx).mayCall h ev.op) : RecordStep ctx h s ev s' := by
  cases hs with
  | done c => exact recordStep_of_exec (.inl rfl) hcall
  | dropped c e => exact .kept _ _ (fun _ => rfl) (effective_error _ e)
  | lost c e => exact recordStep_of_exec (.inr ⟨e, rfl⟩) hcall
  | uuid hex _ => exact .kept _ _ (fun _ => rfl) rfl
  | quiet o r hredis huuid =>
      refine .kept _ _ (fun _ => rfl) ?_
      cases o with
      | redis c => exact absurd rfl (hredis c)
      | _ => rfl

end Steps

/-! ### The operations -/

/-- The operations of the store on idempotency records. -/
inductive StoreOp
  | reserve (idemKey payloadFp : String)
  | waitForResult (idemKey payloadFp : String)
  | release (idemKey : String) (record : Record)
  | finalizeSuccess (idemKey payloadFp orderId : String) (responseStatus : ℤ)
      (responseBody : Dict)
  | saveFailed (idemKey payloadFp errorMessage : String) (responseStatus : ℤ)
      (responseBody : Dict)

abbrev StoreOp.Ret : StoreOp → Type
  | reserve _ _ => ReserveState × Record
  | waitForResult _ _ => WaitState × Record
  | release _ _ => Bool
  | finalizeSuccess _ _ _ _ _ => Unit
  | saveFailed _ _ _ _ _ => Unit

abbrev StoreSig : Sig := ⟨StoreOp, StoreOp.Ret⟩

/-- What the operations do. -/
def storeCall (ctx : Ctx K) : (o : StoreOp) → Host K o.Ret
  | .reserve k fp => reserveIdempotencyKey ctx k fp
  | .waitForResult k fp => waitForIdempotencyResult ctx k fp
  | .release k record => releaseIdempotencyReservation ctx k record
  | .finalizeSuccess k fp orderId status body =>
      finalizeIdempotencySuccess ctx k fp orderId status body
  | .saveFailed k fp message status body => saveFailed ctx k fp message status body

/-- What a client knows after an operation: a record that was returned to it as
the owner was stored by it. -/
def GrantKept (ctx : Ctx K) : (o : StoreOp) → Except Exc o.Ret → HostHistory K → Prop
  | .reserve k _, .ok (.owner, r), h => ∃ v, r.raw = some v ∧ Reserved ctx k v h
  | _, _, _ => True

/-- **Every operation keeps to the protocol of a client**, when a release is of a
record that the client stored. -/
theorem storeCall_obeys {ctx : Ctx K} {I : HostHistory K → Prop} (hI : Lasting I) (o : StoreOp)
    (hrelease : ∀ k r, o = .release k r →
      ∃ v, r.raw = some v ∧ ∀ h, I h → Reserved ctx k v h)
    {h : HostHistory K} (hh : I h) :
    Obeys (storeClient ctx) (storeCall ctx o) (fun res h' => I h' ∧ GrantKept ctx o res h') h := by
  have hP : Hosted (storeClient ctx) := storeClient_hosted ctx
  cases o with
  | reserve k fp =>
      refine (reserveIdempotencyKey_obeys (hI.reserving k fp) hh).mono ?_
      rintro (e | ⟨state, r⟩) h' hres
      · exact ⟨hres, trivial⟩
      · cases state with
        | owner =>
            obtain ⟨v, h₀, rfl, hI', hbuild, hraw, -⟩ := hres
            exact ⟨hI _ _ hI', v, hraw, List.mem_cons_self, hbuild.state⟩
        | replay => exact ⟨hres.1, trivial⟩
        | conflict => exact ⟨hres.1, trivial⟩
        | processing => exact ⟨hres, trivial⟩
  | waitForResult k fp =>
      refine (waitForIdempotencyResult_obeys (hI.reading k) ctx fp hh).mono ?_
      rintro (e | ⟨state, r⟩) h' hres
      · exact ⟨hres, trivial⟩
      · refine ⟨?_, trivial⟩
        cases state with
        | processing => exact hres
        | _ => exact hres.1
  | release k r =>
      obtain ⟨v, hv, hkeep⟩ := hrelease k r rfl
      show Obeys _ (compareAndDelete ctx k r.raw) _ h
      rw [hv]
      exact compareAndDelete_obeys hP hI.undisturbed (fun h hI' => .inr (hkeep h hI'))
        (fun h e hI' _ => hI _ _ hI') (fun h b hI' _ => ⟨hI _ _ hI', trivial⟩)
        (fun h hI' => ⟨hI', trivial⟩) (fun e h hI' => ⟨hI', trivial⟩) hh
  | finalizeSuccess k fp oid status body =>
      exact finalizeIdempotencySuccess_obeys hP hI.undisturbed (fun n h hI' =>
        ⟨.inl (successRaw_state ..), fun e _ => hI _ _ hI', fun _ => ⟨hI _ _ hI', trivial⟩⟩)
        (fun e h hI' => ⟨hI', trivial⟩) hh
  | saveFailed k fp message status body =>
      exact saveFailed_obeys hP hI.undisturbed (fun n h hI' =>
        ⟨.inr (failedRaw_state ..), fun e _ => hI _ _ hI', fun _ => ⟨hI _ _ hI', trivial⟩⟩)
        (fun e h hI' => ⟨hI', trivial⟩) hh

/-- A text in a terminal state is none that a client may remove. -/
theorem not_terminal {v : Raw} (hstate : v.state = idemStateProcessing ∨ v.state = idemStateExpired) :
    ¬ (v.state = idemStateSuccess ∨ v.state = idemStateFailed) := by
  rcases hstate with h | h <;> rw [h] <;> decide

/-! ### Building -/

section Building

variable {ctx : Ctx K} {k fp : String} {v : Raw} {h : HostHistory K}

theorem Building.eq (hb : Building ctx k fp v h) :
    ∃ n hex, v = processingRaw n hex fp ∧ uuidEvent hex ∈ h := by
  obtain ⟨new, old, t, hex, rfl, rfl, -⟩ := hb
  exact ⟨_, hex, rfl, by simp⟩

/-- The last call before a text is stored is the uuid in it, or something that
does not matter. -/
theorem Building.cons_cases {e : HostEvent K} (hb : Building ctx k fp v (e :: h)) :
    (∃ n hex, v = processingRaw n hex fp ∧ e = uuidEvent hex) ∨
      Building ctx k fp v h ∧
        (e.op.idle = true ∨ ∃ x, e = setNxEvent k v ctx.idemPendingTtlSec (.error x)) := by
  obtain ⟨new, old, t, hex, heq, hv, hnew⟩ := hb
  rcases new with - | ⟨e', new⟩
  · obtain ⟨rfl, rfl⟩ := List.cons.inj heq
    exact .inl ⟨_, hex, hv, rfl⟩
  · obtain ⟨rfl, rfl⟩ := List.cons.inj heq
    refine .inr ⟨⟨new, old, t, hex, rfl, hv, fun e he => ?_⟩, hnew _ List.mem_cons_self⟩
    exact hnew e (List.mem_cons_of_mem _ he)

end Building

/-! ### Tokens -/

variable [DecidableEq ι]

/-- A uuid in the log was handed out, and to one client only. -/
structure UuidInv (s : HostState K) (l : HostLog K ι) : Prop where
  used : ∀ e ∈ l, ∀ hex, e.event = uuidEvent hex → hex ∈ s.used
  who : ∀ e₁ ∈ l, ∀ e₂ ∈ l, ∀ hex, e₁.event = uuidEvent hex → e₂.event = uuidEvent hex →
    e₁.who = e₂.who

section Tokens

variable {s s' : HostState K} {l : HostLog K ι} {i : ι}

theorem Served.used_mono {ev : HostEvent K} (h : Served s ev s') : ∀ hex ∈ s.used, hex ∈ s'.used := by
  intro hex hhex
  cases h with
  | uuid hex' _ => exact List.mem_cons_of_mem _ hhex
  | _ => exact hhex

theorem UuidInv.call (h : UuidInv s l) {ev : HostEvent K} (hs : Served s ev s') (i : ι) :
    UuidInv s' (⟨i, ev, s, s'⟩ :: l) := by
  -- a new uuid is on no older entry
  have hnew : ∀ hex, ev = uuidEvent hex → hex ∈ s'.used ∧ hex ∉ s.used := by
    rintro hex rfl
    cases hs with
    | uuid _ hfresh => exact ⟨List.mem_cons_self, hfresh⟩
    | quiet _ _ _ huuid => exact absurd rfl huuid
  refine ⟨?_, ?_⟩
  · intro e he hex hev
    rcases List.mem_cons.mp he with rfl | hold
    · exact (hnew hex hev).1
    · exact hs.used_mono hex (h.used e hold hex hev)
  · intro e₁ he₁ e₂ he₂ hex hev₁ hev₂
    rcases List.mem_cons.mp he₁ with rfl | hold₁ <;> rcases List.mem_cons.mp he₂ with rfl | hold₂
    · rfl
    · exact absurd (h.used e₂ hold₂ hex hev₂) (hnew hex hev₁).2
    · exact absurd (h.used e₁ hold₁ hex hev₁) (hnew hex hev₂).2
    · exact h.who e₁ hold₁ e₂ hold₂ hex hev₁ hev₂

theorem uuidInv_of_reach {α : Type} {P : HostState K → HostLog K ι → Prop}
    {c₀ c : Config (HostSig K) Exc α (HostState K) ι} (h : Reach (hostWorld K) P c₀ c)
    (hlog : c₀.log = []) : UuidInv c.state c.log := by
  refine h.world_invariant UuidInv hlog ⟨by simp, by simp⟩ ?_ ?_
  · intro s l t s' hinv _ _ hd
    obtain ⟨-, rfl⟩ := drift_cases hd
    exact ⟨hinv.used, hinv.who⟩
  · intro s l i o x r s' hinv _ _ hs
    exact hinv.call (served_of_serve hs) i

/-- What a call in the log did to the records. -/
theorem recordStep_of_log {α : Type} {P : HostState K → HostLog K ι → Prop}
    {Pr : ι → Protocol (HostSig K) Exc} {Q : ι → Post (HostSig K) Exc α} {ctx : ι → Ctx K}
    {c₀ c : Config (HostSig K) Exc α (HostState K) ι} (h : Reach (hostWorld K) P c₀ c)
    (hlog : c₀.log = []) (hserve : Serves (hostWorld K) P Pr)
    (hobeys : ∀ i, Obeys (Pr i) (c₀.thread i) (Q i) [])
    (hclient : ∀ i h o, (Pr i).mayCall h o → (storeClient (ctx i)).mayCall h o)
    {new old : HostLog K ι} {e : HostEntry K ι} (hsplit : c.log = new ++ e :: old) :
    RecordStep (ctx e.who) (own e.who old) e.before e.event e.after := by
  have hcall := h.allowed hserve hlog hobeys new e old hsplit
  have htraced := h.traced hlog
  rw [hsplit] at htraced
  obtain ⟨-, x, hs⟩ := htraced.before
  exact (served_of_serve hs).recordStep (hclient _ _ _ hcall)

/-- In a log every call that did not fail says so. -/
theorem not_failed_of_log {α : Type} {P : HostState K → HostLog K ι → Prop}
    {c₀ c : Config (HostSig K) Exc α (HostState K) ι} (h : Reach (hostWorld K) P c₀ c)
    (hlog : c₀.log = []) {e : HostEntry K ι} (he : e ∈ c.log) (hs : smooth e.event = true) :
    e.event.failed = false := by
  obtain ⟨newer, older, hsplit⟩ := List.append_of_mem he
  have htraced := h.traced hlog
  rw [hsplit] at htraced
  obtain ⟨-, x, hserve⟩ := htraced.before
  exact not_failed_of_smooth (hostReply_of_serve hserve) hs

/-- What became of a command in the log that did not fail. -/
theorem exec_of_log {α : Type} {P : HostState K → HostLog K ι → Prop}
    {c₀ c : Config (HostSig K) Exc α (HostState K) ι} (h : Reach (hostWorld K) P c₀ c)
    (hlog : c₀.log = []) {newer old : HostLog K ι} {e : HostEntry K ι}
    (hsplit : c.log = newer ++ e :: old) {cmd : Cmd K} {r : Except Exc cmd.Ret}
    (hev : e.event = ⟨.redis cmd, r⟩) (hs : smooth e.event = true) :
    r = .ok (exec e.before.now e.before.data cmd).1 ∧
      e.after.data = (exec e.before.now e.before.data cmd).2 := by
  have htraced := h.traced hlog
  rw [hsplit] at htraced
  obtain ⟨-, x, hserve⟩ := htraced.before
  rcases e with ⟨i, ev, s, s'⟩
  dsimp only at hev hserve hs ⊢
  subst hev
  rcases serve_redis hserve with ⟨hr, hs'⟩ | ⟨e, hr, -⟩
  · exact ⟨hr, congrArg HostState.data hs'⟩
  · obtain rfl : r = .error e := hr
    cases hs

/-- A text is built by one client only. -/
theorem UuidInv.building_who (h : UuidInv s l) {ctx ctx' : Ctx K} {j : ι} {k k' fp fp' : String}
    {v : Raw} (hi : Building ctx k fp v (own i l)) (hj : Building ctx' k' fp' v (own j l)) :
    i = j := by
  obtain ⟨n, hex, rfl, hmem⟩ := hi.eq
  obtain ⟨n', hex', hv, hmem'⟩ := hj.eq
  obtain rfl := processingRaw_inj hv
  obtain ⟨e₁, he₁, rfl, hev₁⟩ := mem_own.mp hmem
  obtain ⟨e₂, he₂, rfl, hev₂⟩ := mem_own.mp hmem'
  exact h.who e₁ he₁ e₂ he₂ hex hev₁ hev₂

end Tokens

end ChaosDemo
