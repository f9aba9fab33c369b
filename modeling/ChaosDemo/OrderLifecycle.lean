/-
ChaosDemo/OrderLifecycle.lean

`get_order` and `cancel_order` of app/service/order_service.py, any number of them
on one order, interleaved call by call.

`cancel_order` is a read, a local edit and a write of the whole document.  Every
document that is ever written is the first one with its status set, so the
document is one of two and goes from the one to the other at the first write
(`docAfter`).  Two cancels that both read before either writes both answer that
they have cancelled the order; they do not as long as the reads keep out of each
other's way (`Apart`).
-/
import ChaosDemo.TerminalWrites

set_option linter.unusedSectionVars false

namespace ChaosDemo

open CallTree Keyspace

variable {K : Type} [Field K] [LinearOrder K] [IsStrictOrderedRing K] [FloorRing K]
variable {ι : Type} [DecidableEq ι]

/-! ### The service -/

/-- `OrderRepository.get`. -/
def orderRepositoryGet (ctx : Ctx K) (orderId : String) : Host K (Option Dict) :=
  repository "order store unavailable" (getOrderFromStore ctx orderId)

def orderNotFound : ServiceResult := ⟨404, [("error", .str "order not found")]⟩

/-- The answer of `get_order` to a stored document. -/
def shownOrder (orderId : String) (order : Dict) : ServiceResult :=
  ⟨200, [("order_id", .str orderId), ("item_id", order.get "item_id"),
    ("quantity", order.get "quantity"), ("status", order.get "status")]⟩

/-- `get_order`. -/
def getOrder (ctx : Ctx K) (orderId : String) : Host K ServiceResult := do
  let order ← orderRepositoryGet ctx orderId
  match order with
  | none => pure orderNotFound
  | some order => if order.isEmpty then pure orderNotFound else pure (shownOrder orderId order)

def alreadyCancelled (orderId : String) : ServiceResult :=
  ⟨200, [("status", .str "ok"), ("order_id", .str orderId), ("already_cancelled", .bool true)]⟩

def cancelledNow (orderId : String) : ServiceResult :=
  ⟨200, [("status", .str "ok"), ("order_id", .str orderId), ("cancelled", .bool true)]⟩

/-- `order["status"] = "cancelled"`. -/
def cancelledDoc (order : Dict) : Dict := order.set "status" (.str "cancelled")

/-- `order.get("status") == "cancelled"`. -/
def isCancelled (order : Dict) : Prop := order.get "status" = .str "cancelled"

instance (order : Dict) : Decidable (isCancelled order) :=
  inferInstanceAs (Decidable (order.get "status" = .str "cancelled"))

/-- `cancel_order`. -/
def cancelOrder (ctx : Ctx K) (orderId : String) : Host K ServiceResult := do
  let order ← orderRepositoryGet ctx orderId
  match order with
  | none => pure orderNotFound
  | some order =>
      if order.isEmpty then pure orderNotFound
      else if isCancelled order then pure (alreadyCancelled orderId)
      else do
        orderRepositorySave ctx orderId (cancelledDoc order)
        pure (cancelledNow orderId)

/-- The calls on an order. -/
inductive OrderCall
  | get
  | cancel
deriving DecidableEq

def OrderCall.run (ctx : Ctx K) (orderId : String) : OrderCall → Host K ServiceResult
  | .get => getOrder ctx orderId
  | .cancel => cancelOrder ctx orderId

/-! ### One call -/

abbrev readEvent (orderId : String) (found : Option Dict) : HostEvent K :=
  ⟨.redis (.get (.order orderId)), .ok found⟩

abbrev saveEvent (orderId : String) (ttl : ℤ) (doc : Dict) : HostEvent K :=
  ⟨.redis (.setex (.order orderId) ttl doc), .ok ()⟩

/-- All the reads of the order in this history gave `found`, and there is one. -/
def Found (orderId : String) (found : Option Dict) (h : HostHistory K) : Prop :=
  readEvent orderId found ∈ h ∧ ∀ found', readEvent orderId found' ∈ h → found' = found

/-- Nothing was written in this history. -/
def NotSaved (orderId : String) (h : HostHistory K) : Prop :=
  ∀ ttl doc, saveEvent orderId ttl doc ∉ h

/-- A call reads the order once, and a cancel writes what it read with its status set;
the write is its last call. -/
def orderCallProtocol (orderId : String) (call : OrderCall) : Protocol (HostSig K) Exc where
  mayCall h o := NotSaved orderId h ∧ match o with
    | .redis (.get (.order id)) => id = orderId ∧ ∀ found, readEvent orderId found ∉ h
    | .redis (.setex (.order id) _ doc) => id = orderId ∧ call = .cancel ∧
        ∃ read, Found orderId (some read) h ∧ ¬ isCancelled read ∧ doc = cancelledDoc read
    | .redis _ => False
    | _ => True
  mayReply _ o r := HostReply o r

/-- What the answer of a call says about its read and its write. -/
inductive CallEnd (orderId : String) (h : HostHistory K) : OrderCall → ServiceResult → Prop
  | missing (call : OrderCall) (found : Option Dict) : Found orderId found h →
      NotSaved orderId h → (∀ read, found = some read → read = []) →
      CallEnd orderId h call orderNotFound
  | shown (read : Dict) : Found orderId (some read) h →
      CallEnd orderId h .get (shownOrder orderId read)
  | already (read : Dict) : Found orderId (some read) h → NotSaved orderId h →
      isCancelled read → CallEnd orderId h .cancel (alreadyCancelled orderId)
  | now (read : Dict) (ttl : ℤ) (doc : Dict) : Found orderId (some read) h → ¬ isCancelled read →
      saveEvent orderId ttl doc ∈ h → CallEnd orderId h .cancel (cancelledNow orderId)

/-- A call that ends with an exception has seen a call of its own fail. -/
def OrderCallEnd (orderId : String) (call : OrderCall) : Post (HostSig K) Exc ServiceResult
  | .ok result, h => CallEnd orderId h call result
  | .error _, h => ∃ ev ∈ h, ev.failed = true

section Calls

variable {orderId : String} {call : OrderCall}

theorem orderCall_hosted (orderId : String) (call : OrderCall) :
    Hosted (orderCallProtocol (K := K) orderId call) := fun _ _ _ hr => hr

theorem NotSaved.cons {h : HostHistory K} (hu : NotSaved orderId h) {e : HostEvent K}
    (he : ∀ ttl doc, e ≠ saveEvent orderId ttl doc) : NotSaved orderId (e :: h) := by
  intro ttl doc hmem
  rcases List.mem_cons.mp hmem with heq | hold
  · exact he ttl doc heq.symm
  · exact hu ttl doc hold

theorem orderCall_undisturbed {I : HostHistory K → Prop}
    (hI : ∀ h o r, I h → (∀ c, o ≠ .redis c) → I (⟨o, r⟩ :: h)) :
    Undisturbed (orderCallProtocol orderId call) fun h => I h ∧ NotSaved orderId h := by
  rintro h o ⟨hh, hu⟩ ho
  have hnot : ∀ c, o ≠ .redis c := by
    rintro c rfl
    cases ho
  refine ⟨⟨hu, ?_⟩, fun r _ => ⟨hI h o r hh hnot, hu.cons ?_⟩⟩
  swap
  · rintro ttl doc heq
    cases heq
    exact hnot _ rfl
  cases o with
  | redis c => exact absurd rfl (hnot c)
  | _ => trivial

theorem Found.cons {found : Option Dict} {h : HostHistory K} (hf : Found orderId found h)
    {e : HostEvent K} (he : ∀ found', e ≠ readEvent orderId found') : Found orderId found (e :: h) := by
  refine ⟨List.mem_cons_of_mem _ hf.1, fun found' hmem => ?_⟩
  rcases List.mem_cons.mp hmem with heq | hold
  · exact absurd heq.symm (he found')
  · exact hf.2 found' hold

/-- The read. -/
theorem orderRepositoryGet_obeys (ctx : Ctx K) :
    Obeys (orderCallProtocol orderId call) (orderRepositoryGet ctx orderId)
      (fun res h' => match res with
        | .ok found => Found orderId found h' ∧ NotSaved orderId h'
        | .error _ => ∃ ev ∈ h', ev.failed = true) [] := by
  let I : HostHistory K → Prop := fun h => ∀ found, readEvent orderId found ∉ h
  have hI : Undisturbed (orderCallProtocol orderId call) fun h => I h ∧ NotSaved orderId h := by
    apply orderCall_undisturbed
    intro h o r hh ho found hmem
    rcases List.mem_cons.mp hmem with heq | hold
    · cases heq
      exact ho _ rfl
    · exact hh found hold
  have hread := executeRedis_blames (orderCall_hosted orderId call) ctx "order_store_get"
    (c := .get (.order orderId)) (h := []) hI (fun h hh => ⟨hh.2, rfl, hh.1⟩) ?_
    (by simp [I, NotSaved])
  · apply (repository_obeys hread).mono
    intro res h' hres
    cases res with
    | ok found =>
        obtain ⟨h₁, rfl, hh, hu⟩ := hres
        refine ⟨⟨List.mem_cons_self, fun found' hmem => ?_⟩, hu.cons (by simp)⟩
        rcases List.mem_cons.mp hmem with heq | hold
        · cases heq
          rfl
        · exact absurd hold (hh found')
    | error e =>
        obtain ⟨-, x, -, ev, hmem, hfailed, -⟩ := hres
        exact ⟨ev, hmem, hfailed⟩
  · rintro h e ⟨hh, hu⟩ -
    refine ⟨fun found hmem => ?_, hu.cons (by simp)⟩
    rcases List.mem_cons.mp hmem with heq | hold
    · cases heq
    · exact hh found hold

/-- The write of a cancel. -/
theorem orderRepositorySave_obeys (ctx : Ctx K) {read : Dict} {h : HostHistory K}
    (hfound : Found orderId (some read) h) (hu : NotSaved orderId h) (hnot : ¬ isCancelled read) :
    Obeys (orderCallProtocol orderId .cancel)
      (orderRepositorySave ctx orderId (cancelledDoc read)) (fun res h' => match res with
        | .ok _ => Found orderId (some read) h' ∧ ∃ ttl doc, saveEvent orderId ttl doc ∈ h'
        | .error _ => ∃ ev ∈ h', ev.failed = true) h := by
  have hI : Undisturbed (orderCallProtocol (K := K) orderId .cancel) fun h =>
      Found orderId (some read) h ∧ NotSaved orderId h := by
    apply orderCall_undisturbed
    intro h o r hh ho
    apply hh.cons
    rintro found' heq
    cases heq
    exact ho _ rfl
  have hsave := executeRedis_blames (orderCall_hosted orderId .cancel) ctx "order_store_set"
    (c := .setex (.order orderId) ctx.orderTtlSec (cancelledDoc read)) hI
    (fun h hh => ⟨hh.2, rfl, rfl, read, hh.1, hnot, rfl⟩)
    (fun h e hh _ => ⟨hh.1.cons (by simp), hh.2.cons (by simp)⟩) ⟨hfound, hu⟩
  apply (repository_obeys hsave).mono
  intro res h' hres
  cases res with
  | ok u =>
      obtain ⟨h₁, rfl, hh, -⟩ := hres
      exact ⟨hh.cons (by simp), _, _, List.mem_cons_self⟩
  | error e =>
      obtain ⟨-, x, -, ev, hmem, hfailed, -⟩ := hres
      exact ⟨ev, hmem, hfailed⟩

/-- **Every call keeps to its protocol**, and its answer tells what it has done. -/
theorem orderCall_obeys (ctx : Ctx K) (orderId : String) (call : OrderCall) :
    Obeys (orderCallProtocol orderId call) (call.run ctx orderId) (OrderCallEnd orderId call) [] := by
  cases call with
  | get =>
      apply (orderRepositoryGet_obeys ctx).bind
      · rintro found h ⟨hfound, hu⟩
        cases found with
        | none => exact .missing .get none hfound hu (by simp)
        | some read =>
            rcases read with - | ⟨field, rest⟩
            · exact .missing .get _ hfound hu (by simp)
            · exact .shown _ hfound
      · exact fun e h he => he
  | cancel =>
      apply (orderRepositoryGet_obeys ctx).bind
      · rintro found h ⟨hfound, hu⟩
        cases found with
        | none => exact .missing .cancel none hfound hu (by simp)
        | some read =>
            rcases hread : read with - | ⟨field, rest⟩
            · subst hread
              exact .missing .cancel _ hfound hu (by simp)
            · rw [← hread]
              have hne : read.isEmpty = false := by rw [hread]; rfl
              by_cases hc : isCancelled read
              · simp only [hne, hc, if_true]
                exact .already read hfound hu hc
              · simp only [hne, hc, if_false]
                apply (orderRepositorySave_obeys ctx hfound hu hc).bind
                · rintro u h' ⟨hfound', ttl, doc, hmem⟩
                  exact .now read ttl doc hfound' hc hmem
                · exact fun e h' he => he
      · exact fun e h he => he

end Calls

/-! ### The document -/

/-- The calls on one order, at the start. -/
def orderCallsAt (ctx : ι → Ctx K) (orderId : String) (calls : ι → OrderCall) (s : HostState K) :
    Config (HostSig K) Exc ServiceResult (HostState K) ι :=
  ⟨s, fun i => (calls i).run (ctx i) orderId, []⟩

/-- The document under the order's key. -/
def storedOrder (orderId : String) (s : HostState K) : Option Dict :=
  s.data.lookup s.now (.order orderId)

/-- The store is available, and the order has not expired. -/
def Available (orderId : String) (s : HostState K) (l : HostLog K ι) : Prop :=
  (∀ e ∈ l, smooth e.event = true) ∧ (storedOrder orderId s).isSome = true

/-- A write of an order. -/
def isSave : HostEvent K → Bool
  | ⟨.redis (.setex (.order _) _ _), .ok _⟩ => true
  | _ => false

/-- The document after these calls: as it was up to the first write, with its status
set from then on. -/
def docAfter (doc : Dict) (l : HostLog K ι) : Dict :=
  if l.any fun e => isSave e.event then cancelledDoc doc else doc

theorem cancelledDoc_cancelled (doc : Dict) : isCancelled (cancelledDoc doc) :=
  Dict.get_set_self doc _ _

theorem cancelledDoc_get {doc : Dict} {k : String} (hk : k ≠ "status") :
    (cancelledDoc doc).get k = doc.get k :=
  Dict.get_set_of_ne hk _

/-- The document is the first one, or the first one with its status set, and so was
whatever was read. -/
structure DocInv (orderId : String) (doc : Dict) (s : HostState K) (l : HostLog K ι) : Prop where
  stored : ∃ deadline, s.data (.order orderId) = some ⟨docAfter doc l, deadline⟩
  reads : ∀ e ∈ l, ∀ read, e.event = readEvent orderId (some read) →
    read = doc ∨ read = cancelledDoc doc

section Document

variable {orderId : String} {doc : Dict} {calls : ι → OrderCall} {s s' : HostState K}
  {l : HostLog K ι} {i : ι} {ev : HostEvent K}

omit [DecidableEq ι] in
theorem docAfter_cases (doc : Dict) (l : HostLog K ι) :
    docAfter doc l = doc ∨ docAfter doc l = cancelledDoc doc := by
  rw [docAfter]
  split
  · exact .inr rfl
  · exact .inl rfl

omit [DecidableEq ι] in
theorem docAfter_cons_of_not {e : HostEntry K ι} (he : isSave e.event = false) :
    docAfter doc (e :: l) = docAfter doc l := by
  simp [docAfter, he]

omit [DecidableEq ι] in
/-- A call that neither reads nor writes the order. -/
theorem DocInv.other (h : DocInv orderId doc s l) (hdata : s'.data = s.data)
    (hsave : isSave ev = false) (hread : ∀ read, ev ≠ readEvent orderId (some read)) :
    DocInv orderId doc s' (⟨i, ev, s, s'⟩ :: l) := by
  refine ⟨?_, ?_⟩
  · rw [hdata, docAfter_cons_of_not hsave]
    exact h.stored
  · intro e he read hev
    rcases List.mem_cons.mp he with rfl | hold
    · exact absurd hev (hread read)
    · exact h.reads e hold read hev

/-- **One call keeps the document one of the two.** -/
theorem DocInv.call (h : DocInv orderId doc s l) (hs : Served s ev s')
    (hsmooth : smooth ev = true) (hdoc : ¬ isCancelled doc)
    (hcall : (orderCallProtocol orderId (calls i)).mayCall (own i l) ev.op) :
    DocInv orderId doc s' (⟨i, ev, s, s'⟩ :: l) := by
  obtain ⟨-, hcall⟩ := hcall
  cases hs with
  | done c =>
      cases c with
      | get k =>
          cases k with
          | order id =>
              obtain ⟨rfl, -⟩ := hcall
              obtain ⟨deadline, hslot⟩ := h.stored
              refine ⟨⟨deadline, ?_⟩, ?_⟩
              · rw [docAfter_cons_of_not rfl]
                exact hslot
              · intro e he read hev
                rcases List.mem_cons.mp he with rfl | hold
                · have hread : s.data.lookup s.now (.order id) = some read :=
                    Except.ok.inj (eq_of_heq (Event.mk.inj hev).2)
                  rw [Store.lookup, hslot, live_some] at hread
                  split at hread
                  · obtain rfl := Option.some.inj hread
                    exact docAfter_cases doc l
                  · cases hread
                · exact h.reads e hold read hev
          | _ => exact hcall.elim
      | setex k ttl v =>
          cases k with
          | order id =>
              obtain ⟨rfl, -, read, hfound, hnot, rfl⟩ := hcall
              obtain ⟨e, he, -, hev⟩ := mem_own.mp hfound.1
              -- what the call has read is the first document
              obtain rfl : read = doc := by
                rcases h.reads e he read hev with rfl | rfl
                · rfl
                · exact absurd (cancelledDoc_cancelled doc) hnot
              refine ⟨⟨some (s.now + ttl), ?_⟩, ?_⟩
              · have hafter : ∀ e : HostEntry K ι, isSave e.event = true →
                    docAfter read (e :: l) = cancelledDoc read := by
                  intro e he
                  simp [docAfter, he]
                rw [hafter _ rfl]
                exact Store.put_self
              · intro e he read' hev
                rcases List.mem_cons.mp he with rfl | hold
                · cases hev
                · exact h.reads e hold read' hev
          | _ => exact hcall.elim
      | _ => exact hcall.elim
  | dropped c e => cases hsmooth
  | lost c e => cases hsmooth
  | uuid hex _ => exact h.other rfl rfl (by simp)
  | quiet o r hredis _ =>
      refine h.other rfl ?_ ?_
      · cases o with
        | redis c => exact absurd rfl (hredis c)
        | _ => rfl
      · rintro read heq
        obtain ⟨rfl, -⟩ := Event.mk.inj heq
        exact hredis _ rfl

end Document

/-! ### Runs -/

/-- The order `i` has read as not cancelled and not yet written. -/
def Pending (orderId : String) (h : HostHistory K) : Prop :=
  (∃ read, readEvent orderId (some read) ∈ h ∧ ¬ isCancelled read) ∧ NotSaved orderId h

/-- No cancel reads the order while another one is between its read and its write. -/
def Apart (orderId : String) (calls : ι → OrderCall) (l : HostLog K ι) : Prop :=
  ∀ newer e old found, l = newer ++ e :: old → e.event = readEvent orderId found →
    calls e.who = .cancel → ∀ j, j ≠ e.who → calls j = .cancel → ¬ Pending orderId (own j old)

/-- A call has ended with this answer. -/
def Answers (c : Config (HostSig K) Exc ServiceResult (HostState K) ι) (i : ι)
    (result : ServiceResult) : Prop :=
  c.thread i = .ret result

/-- At most one cancel has answered that it cancelled the order. -/
def OneCancels (orderId : String) (calls : ι → OrderCall)
    (c : Config (HostSig K) Exc ServiceResult (HostState K) ι) : Prop :=
  ∀ i j, calls i = .cancel → calls j = .cancel → Answers c i (cancelledNow orderId) →
    Answers c j (cancelledNow orderId) → i = j

/-- What holds of an order and its calls in every run. -/
structure Lifecycle (orderId : String) (doc : Dict) (calls : ι → OrderCall)
    (c₀ c : Config (HostSig K) Exc ServiceResult (HostState K) ι) : Prop where
  /-- Item and quantity stay, and the status is one of the two. -/
  fields : ∃ stored, storedOrder orderId c.state = some stored ∧
    stored.get "item_id" = doc.get "item_id" ∧ stored.get "quantity" = doc.get "quantity" ∧
    (stored.get "status" = .str "created" ∨ stored.get "status" = .str "cancelled")
  /-- From every point of the run on, cancelled stays cancelled. -/
  status : ∀ newer e old, c.log = newer ++ e :: old →
    (∃ stored, storedOrder orderId e.before = some stored ∧ isCancelled stored) →
    ∃ stored, storedOrder orderId c.state = some stored ∧ isCancelled stored
  /-- No call ends with an exception. -/
  total : ∀ i e, c.thread i ≠ .raise e
  /-- A cancel answers one or the other. -/
  cancels : ∀ i result, calls i = .cancel → Answers c i result →
    result = cancelledNow orderId ∨ result = alreadyCancelled orderId
  /-- If a cancel has answered, some cancel has answered that it cancelled the order. -/
  first : ∀ i result, calls i = .cancel → Answers c i result →
    ∃ j, calls j = .cancel ∧ Answers c j (cancelledNow orderId)
  /-- A get that starts after a cancel has answered reports it. -/
  gets : ∀ c₁, Reach (hostWorld K) (Available orderId) c₀ c₁ →
    Reach (hostWorld K) (Available orderId) c₁ c → ∀ i result₁, calls i = .cancel →
    Answers c₁ i result₁ → ∀ g, calls g = .get → own g c₁.log = [] →
    ∀ result, Answers c g result → Dict.get result.body "status" = .str "cancelled"

section Run

variable {orderId : String} {doc : Dict} {calls : ι → OrderCall} {ctx : ι → Ctx K}
  {s₀ : HostState K} {c : Config (HostSig K) Exc ServiceResult (HostState K) ι}

theorem hostWorld_serves_orderCalls (P : HostState K → HostLog K ι → Prop) (orderId : String)
    (calls : ι → OrderCall) :
    Serves (hostWorld K) P fun i => orderCallProtocol orderId (calls i) :=
  fun _ _ _ _ _ _ _ hs _ => hostReply_of_serve hs

variable (hreach : Reach (hostWorld K) (Available orderId) (orderCallsAt ctx orderId calls s₀) c)
  (hstart : storedOrder orderId s₀ = some doc) (hdoc : doc.get "status" = .str "created")

include hreach hstart hdoc

omit hreach hstart in
theorem not_cancelled_of_created : ¬ isCancelled doc := by
  rw [isCancelled, hdoc]
  decide

theorem docInv_of_reach : DocInv orderId doc c.state c.log := by
  let Inv : HostState K → HostLog K ι → Prop := DocInv orderId doc
  refine (hreach.invariant (hostWorld_serves_orderCalls (Available orderId) orderId calls) rfl
    (fun i => orderCall_obeys (ctx i) orderId (calls i)) ?_ ?_ ?_ : Inv c.state c.log)
  · intro _
    obtain ⟨x, hslot, -, hval⟩ := live_eq_some.mp hstart
    refine ⟨⟨x.expireAt, ?_⟩, by simp⟩
    show s₀.data (.order orderId) = some ⟨doc, x.expireAt⟩
    rw [hslot, ← hval]
  · intro s l t s' hinv _ _ hd
    obtain ⟨-, rfl⟩ := drift_cases hd
    exact ⟨hinv.stored, hinv.reads⟩
  · intro s l i o x r s' hinv _ hP hcall hs
    exact hinv.call (served_of_serve hs) (hP.1 _ List.mem_cons_self)
      (not_cancelled_of_created hdoc) hcall

/-- The order is there, with the document of the log. -/
theorem storedOrder_of_reach : storedOrder orderId c.state = some (docAfter doc c.log) := by
  obtain ⟨deadline, hslot⟩ := (docInv_of_reach hreach hstart hdoc).stored
  have hsome := hreach.holds.2
  rw [storedOrder, Store.lookup, hslot, live_some] at hsome ⊢
  split at hsome
  · next halive => rw [if_pos halive]
  · cases hsome

theorem storedOrder_before {newer old : HostLog K ι} {e : HostEntry K ι}
    (hsplit : c.log = newer ++ e :: old) :
    storedOrder orderId e.before = some (docAfter doc old) := by
  obtain ⟨c₁, hreach₁, hstate, hlog, -⟩ := hreach.before rfl hsplit
  rw [← hstate, ← hlog]
  exact storedOrder_of_reach hreach₁ hstart hdoc

/-- What a call reads is the document of the log up to it. -/
theorem read_of_reach {newer old : HostLog K ι} {e : HostEntry K ι} {found : Option Dict}
    (hsplit : c.log = newer ++ e :: old) (hev : e.event = readEvent orderId found) :
    found = some (docAfter doc old) := by
  have hbefore := storedOrder_before hreach hstart hdoc hsplit
  have htraced := hreach.traced rfl
  rw [hsplit] at htraced
  obtain ⟨-, x, hs⟩ := htraced.before
  rcases e with ⟨i, ev, s, s'⟩
  dsimp only at hev hbefore hs
  subst hev
  rcases serve_redis hs with ⟨hr, -⟩ | ⟨e, hr, -⟩
  · exact (Except.ok.inj hr).trans hbefore
  · cases hr

omit hstart hdoc in
/-- How a call that has ended did so. -/
theorem callEnd_of_reach {i : ι} {result : ServiceResult} (ht : Answers c i result) :
    CallEnd orderId (own i c.log) (calls i) result :=
  hreach.post (hostWorld_serves_orderCalls (Available orderId) orderId calls) rfl
    (fun i => orderCall_obeys (ctx i) orderId (calls i))
    (show c.thread i = .ofExcept (.ok result) from ht)

omit hstart hdoc in
theorem not_failed {i : ι} {ev : HostEvent K} (hmem : ev ∈ own i c.log) : ev.failed = false := by
  obtain ⟨e, he, -, rfl⟩ := mem_own.mp hmem
  exact not_failed_of_log hreach rfl he (hreach.holds.1 e he)

omit hstart hdoc in
/-- No call raises. -/
theorem not_raised (i : ι) (e : Exc) : c.thread i ≠ .raise e := by
  intro ht
  obtain ⟨ev, hmem, hfailed⟩ : ∃ ev ∈ own i c.log, ev.failed = true :=
    hreach.post (hostWorld_serves_orderCalls (Available orderId) orderId calls) rfl
      (fun i => orderCall_obeys (ctx i) orderId (calls i))
      (show c.thread i = .ofExcept (.error e) from ht)
  rw [not_failed hreach hmem] at hfailed
  cases hfailed

omit hreach hstart in
/-- Whether somebody has written, as seen in the document. -/
theorem cancelled_iff_saved (l : HostLog K ι) :
    isCancelled (docAfter doc l) ↔ ∃ e ∈ l, isSave e.event = true := by
  rw [docAfter]
  split
  · next h => exact iff_of_true (cancelledDoc_cancelled doc) (List.any_eq_true.mp h)
  · next h =>
      refine iff_of_false (not_cancelled_of_created hdoc) ?_
      rintro ⟨e, he, hsave⟩
      exact h (List.any_eq_true.mpr ⟨e, he, hsave⟩)

/-- A read in the history of a call gave the document of the log up to it. -/
theorem read_of_own {i : ι} {found : Option Dict} (hmem : readEvent orderId found ∈ own i c.log) :
    ∃ newer e old, c.log = newer ++ e :: old ∧ e.who = i ∧ e.event = readEvent orderId found ∧
      found = some (docAfter doc old) := by
  obtain ⟨e, he, hwho, hev⟩ := mem_own.mp hmem
  obtain ⟨newer, old, hsplit⟩ := List.append_of_mem he
  exact ⟨newer, e, old, hsplit, hwho, hev, read_of_reach hreach hstart hdoc hsplit hev⟩

/-- The order is always found. -/
theorem not_missing {i : ι} {found : Option Dict} (hfound : Found orderId found (own i c.log))
    (hnone : ∀ read, found = some read → read = []) : False := by
  obtain ⟨newer, e, old, -, -, -, rfl⟩ := read_of_own hreach hstart hdoc hfound.1
  have hempty : docAfter doc old = [] := hnone _ rfl
  rcases docAfter_cases doc old with heq | heq
  · rw [← heq, hempty] at hdoc
    cases hdoc
  · have hget := cancelledDoc_cancelled doc
    rw [← heq, hempty] at hget
    cases hget

omit hstart hdoc in
/-- Who has written is a cancel, and has answered. -/
theorem answers_of_save {k : ι} {ttl : ℤ} {new : Dict}
    (hmem : saveEvent orderId ttl new ∈ own k c.log) :
    calls k = .cancel ∧ Answers c k (cancelledNow orderId) := by
  obtain ⟨e, he, rfl, hev⟩ := mem_own.mp hmem
  obtain ⟨newer, old, hsplit⟩ := List.append_of_mem he
  have hcall := hreach.allowed (hostWorld_serves_orderCalls (Available orderId) orderId calls) rfl
    (fun i => orderCall_obeys (ctx i) orderId (calls i)) newer e old hsplit
  rw [hev] at hcall
  obtain ⟨-, -, hcancel, -⟩ := hcall
  refine ⟨hcancel, ?_⟩
  have hobeys := hreach.obeys (hostWorld_serves_orderCalls (Available orderId) orderId calls) rfl
    (fun i => orderCall_obeys (ctx i) orderId (calls i)) e.who
  rcases ht : c.thread e.who with result | x | ⟨o, rest⟩
  · have hend := callEnd_of_reach hreach ht
    rw [hcancel] at hend
    cases hend with
    | missing _ found _ hnot _ => exact absurd hmem (hnot ttl new)
    | already read _ hnot _ => exact absurd hmem (hnot ttl new)
    | now => exact ht
  · exact absurd ht (not_raised hreach _ x)
  · -- the write is the last call
    rw [ht] at hobeys
    exact absurd hmem (hobeys.1.1 ttl new)

omit hstart hdoc in
/-- A write in the log is one by a cancel that has answered. -/
theorem answers_of_saved {e : HostEntry K ι} (he : e ∈ c.log) (hsave : isSave e.event = true) :
    calls e.who = .cancel ∧ Answers c e.who (cancelledNow orderId) := by
  obtain ⟨newer, old, hsplit⟩ := List.append_of_mem he
  have hcall := hreach.allowed (hostWorld_serves_orderCalls (Available orderId) orderId calls) rfl
    (fun i => orderCall_obeys (ctx i) orderId (calls i)) newer e old hsplit
  unfold isSave at hsave
  split at hsave
  · next id ttl new u hev =>
      rw [hev] at hcall
      obtain ⟨-, rfl, -⟩ := hcall
      exact answers_of_save hreach (mem_own.mpr ⟨e, he, rfl, hev⟩)
  · cases hsave

/-- If a cancel has answered, somebody has written. -/
theorem saved_of_answered {i : ι} {result : ServiceResult} (hi : calls i = .cancel)
    (ht : Answers c i result) : ∃ e ∈ c.log, isSave e.event = true := by
  have hend := callEnd_of_reach hreach ht
  rw [hi] at hend
  cases hend with
  | missing _ found hfound _ hnone => exact (not_missing hreach hstart hdoc hfound hnone).elim
  | already read hfound _ hc =>
      obtain ⟨newer, e, old, hsplit, -, -, hread⟩ := read_of_own hreach hstart hdoc hfound.1
      obtain rfl := Option.some.inj hread
      obtain ⟨x, hx, hsave⟩ := (cancelled_iff_saved hdoc old).mp hc
      refine ⟨x, ?_, hsave⟩
      rw [hsplit]
      exact List.mem_append_right _ (List.mem_cons_of_mem _ hx)
  | now read ttl new _ _ hmem =>
      obtain ⟨e, he, -, hev⟩ := mem_own.mp hmem
      exact ⟨e, he, by rw [hev]; rfl⟩

/-! ### The life cycle -/

/-- **The life cycle of an order**, whatever the calls and however they overlap. -/
theorem lifecycle_of_reach :
    Lifecycle orderId doc calls (orderCallsAt ctx orderId calls s₀) c := by
  have hnow := storedOrder_of_reach hreach hstart hdoc
  refine ⟨⟨_, hnow, ?_⟩, ?_, not_raised hreach, ?_, ?_, ?_⟩
  · rcases docAfter_cases doc c.log with heq | heq
    · rw [heq]
      exact ⟨rfl, rfl, .inl hdoc⟩
    · rw [heq]
      refine ⟨cancelledDoc_get (by decide), cancelledDoc_get (by decide), .inr ?_⟩
      exact cancelledDoc_cancelled doc
  · rintro newer e old hsplit ⟨stored, hbefore, hc⟩
    rw [storedOrder_before hreach hstart hdoc hsplit] at hbefore
    obtain rfl := Option.some.inj hbefore
    obtain ⟨x, hx, hsave⟩ := (cancelled_iff_saved hdoc old).mp hc
    refine ⟨_, hnow, (cancelled_iff_saved hdoc c.log).mpr ⟨x, ?_, hsave⟩⟩
    rw [hsplit]
    exact List.mem_append_right _ (List.mem_cons_of_mem _ hx)
  · intro i result hi ht
    have hend := callEnd_of_reach hreach ht
    rw [hi] at hend
    cases hend with
    | missing _ found hfound _ hnone => exact (not_missing hreach hstart hdoc hfound hnone).elim
    | already => exact .inr rfl
    | now => exact .inl rfl
  · intro i result hi ht
    obtain ⟨e, he, hsave⟩ := saved_of_answered hreach hstart hdoc hi ht
    exact ⟨e.who, answers_of_saved hreach he hsave⟩
  · intro c₁ hreach₁ hlater i result₁ hi ht₁ g hg hown result ht
    have hend := callEnd_of_reach hreach ht
    rw [hg] at hend
    cases hend with
    | missing _ found hfound _ hnone => exact (not_missing hreach hstart hdoc hfound hnone).elim
    | shown read hfound =>
        obtain ⟨newer, e, old, hsplit, hwho, hev, hread⟩ :=
          read_of_own hreach hstart hdoc hfound.1
        obtain rfl := Option.some.inj hread
        -- the get has read after the cancel had answered
        obtain ⟨new, hnew⟩ := hlater.log_suffix
        obtain ⟨since, rfl⟩ : ∃ since, old = since ++ c₁.log := by
          rcases List.append_eq_append_iff.mp (hsplit.symm.trans hnew) with
            ⟨mid, -, hmid⟩ | ⟨mid, -, hmid⟩
          · rcases mid with - | ⟨e', mid⟩
            · have hmem : readEvent orderId (some (docAfter doc old)) ∈ own g c₁.log := by
                rw [List.nil_append] at hmid
                exact mem_own.mpr ⟨e, by rw [← hmid]; exact List.mem_cons_self, hwho, hev⟩
              rw [hown] at hmem
              cases hmem
            · exact ⟨mid, (List.cons.inj hmid).2⟩
          · have hmem : readEvent orderId (some (docAfter doc old)) ∈ own g c₁.log := by
              refine mem_own.mpr ⟨e, ?_, hwho, hev⟩
              rw [hmid]
              exact List.mem_append_right _ List.mem_cons_self
            rw [hown] at hmem
            cases hmem
        obtain ⟨x, hx, hsave⟩ := saved_of_answered hreach₁ hstart hdoc hi ht₁
        exact (cancelled_iff_saved hdoc _).mpr ⟨x, List.mem_append_right _ hx, hsave⟩

/-- **One cancel wins**, as long as the cancels keep apart. -/
theorem oneCancels_of_apart (hapart : Apart orderId calls c.log) : OneCancels orderId calls c := by
  have hread : ∀ i, calls i = .cancel → Answers c i (cancelledNow orderId) →
      ∃ e ∈ c.log, e.who = i ∧ ∃ read, e.event = readEvent orderId (some read) ∧
        ¬ isCancelled read := by
    intro i hi ht
    have hend := callEnd_of_reach hreach ht
    rw [hi] at hend
    generalize hresult : cancelledNow orderId = result at hend
    cases hend with
    | missing => simp [cancelledNow, orderNotFound] at hresult
    | already => simp [cancelledNow, alreadyCancelled] at hresult
    | now read ttl new hfound hnot _ =>
        obtain ⟨e, he, hwho, hev⟩ := mem_own.mp hfound.1
        exact ⟨e, he, hwho, read, hev, hnot⟩
  -- of two such reads the later one finds the earlier cancel pending, or its write
  have key : ∀ newer e mid x older read read', c.log = newer ++ e :: (mid ++ x :: older) →
      e.event = readEvent orderId (some read) → ¬ isCancelled read →
      x.event = readEvent orderId (some read') → ¬ isCancelled read' →
      calls e.who = .cancel → calls x.who = .cancel → x.who = e.who := by
    intro newer e mid x older read read' hsplit hev hnot hev' hnot' hcall hcall'
    by_contra hne
    refine hapart newer e _ _ hsplit hev hcall x.who hne hcall' ⟨⟨read', ?_, hnot'⟩, ?_⟩
    · exact mem_own.mpr ⟨x, by simp, rfl, hev'⟩
    · intro ttl new hmem
      obtain ⟨y, hy, -, hevy⟩ := mem_own.mp hmem
      have heq := read_of_reach hreach hstart hdoc hsplit hev
      obtain rfl := Option.some.inj heq
      exact hnot ((cancelled_iff_saved hdoc _).mpr ⟨y, hy, by rw [hevy]; rfl⟩)
  intro i j hi hj hti htj
  obtain ⟨e, he, rfl, read, hev, hnot⟩ := hread i hi hti
  obtain ⟨x, hx, rfl, read', hev', hnot'⟩ := hread j hj htj
  obtain ⟨newer, old, hsplit⟩ := List.append_of_mem he
  rw [hsplit] at hx
  rcases List.mem_append.mp hx with hnew | hrest
  · obtain ⟨a, b, rfl⟩ := List.append_of_mem hnew
    refine key a x b e old read' read ?_ hev' hnot' hev hnot hj hi
    rw [hsplit, List.append_assoc, List.cons_append]
  · rcases List.mem_cons.mp hrest with rfl | hold
    · rfl
    · obtain ⟨a, b, rfl⟩ := List.append_of_mem hold
      exact (key newer e a x b read read' hsplit hev hnot hev' hnot' hi hj).symm

/-- Where all cancels have ended, two that did not keep apart have both won. -/
theorem apart_of_oneCancels (hended : ∀ i, calls i = .cancel → ∃ result, Answers c i result)
    (hone : OneCancels orderId calls c) : Apart orderId calls c.log := by
  -- a cancel that has read the order as not cancelled wins
  have hwins : ∀ i read, calls i = .cancel → readEvent orderId (some read) ∈ own i c.log →
      ¬ isCancelled read → Answers c i (cancelledNow orderId) := by
    intro i read hi hmem hnot
    obtain ⟨result, ht⟩ := hended i hi
    have hend := callEnd_of_reach hreach ht
    rw [hi] at hend
    cases hend with
    | missing _ found hfound _ hnone => exact (not_missing hreach hstart hdoc hfound hnone).elim
    | already read' hfound _ hc =>
        obtain rfl := Option.some.inj (hfound.2 _ hmem)
        exact absurd hc hnot
    | now => exact ht
  rintro newer e old found hsplit hev hcall j hne hj ⟨⟨read, hmem, hnot⟩, hsaved⟩
  have hown : ∀ i, own i old ⊆ own i c.log := by
    intro i ev hev'
    rw [hsplit, own_append]
    refine List.mem_append_right _ ?_
    obtain ⟨x, hx, hwho, rfl⟩ := mem_own.mp hev'
    exact mem_own.mpr ⟨x, List.mem_cons_of_mem _ hx, hwho, rfl⟩
  have hjwins := hwins j read hj (hown j hmem) hnot
  obtain rfl := read_of_reach hreach hstart hdoc hsplit hev
  by_cases hc : isCancelled (docAfter doc old)
  · -- somebody else has written, and has won as well
    obtain ⟨x, hx, hsave⟩ := (cancelled_iff_saved hdoc old).mp hc
    have hxlog : x ∈ c.log := by
      rw [hsplit]
      exact List.mem_append_right _ (List.mem_cons_of_mem _ hx)
    obtain ⟨hxcall, hxwins⟩ := answers_of_saved hreach hxlog hsave
    have heq := hone _ _ hxcall hj hxwins hjwins
    have hcallx := hreach.allowed
      (hostWorld_serves_orderCalls (Available orderId) orderId calls) rfl
      (fun i => orderCall_obeys (ctx i) orderId (calls i))
    unfold isSave at hsave
    split at hsave
    · next id ttl new u hevx =>
        obtain ⟨a, b, hsplitx⟩ := List.append_of_mem hxlog
        have hx' := hcallx a x b hsplitx
        rw [hevx] at hx'
        obtain ⟨-, rfl, -⟩ := hx'
        exact hsaved ttl new (mem_own.mpr ⟨x, hx, heq, hevx⟩)
    · cases hsave
  · have hself : readEvent orderId (some (docAfter doc old)) ∈ own e.who c.log := by
      refine mem_own.mpr ⟨e, ?_, rfl, hev⟩
      rw [hsplit]
      simp
    exact hne (hone _ _ hj hcall hjwins (hwins _ _ hcall hself hc))

/-- **Orders and overlapping calls.**  In every run of any gets and cancels of one
created order, the life cycle is kept; no two cancels answer that they cancelled
the order if none reads it between another one's read and write, and once all
cancels have ended, only then. -/
theorem orderLifecycle :
    Lifecycle orderId doc calls (orderCallsAt ctx orderId calls s₀) c ∧
      (Apart orderId calls c.log → OneCancels orderId calls c) ∧
      ((∀ i, calls i = .cancel → ∃ result, Answers c i result) → OneCancels orderId calls c →
        Apart orderId calls c.log) :=
  ⟨lifecycle_of_reach hreach hstart hdoc, oneCancels_of_apart hreach hstart hdoc,
    apart_of_oneCancels hreach hstart hdoc⟩

end Run

/-! ### Two cancels at once -/

instance (orderId : String) (s : HostState K) (l : HostLog K ι) :
    Decidable (Available orderId s l) :=
  inferInstanceAs (Decidable ((∀ e ∈ l, smooth e.event = true) ∧
    (storedOrder orderId s).isSome = true))

/-- An order that was just created. -/
def newOrder : Dict := [("item_id", .str "a"), ("quantity", .int 1), ("status", .str "created")]

/-- Two cancels of it. -/
def twoCancels : Config (HostSig ℚ) Exc ServiceResult (HostState ℚ) Bool :=
  orderCallsAt (fun _ => defaultCtx) "o" (fun _ => .cancel)
    ⟨Store.put (fun _ => none) (.order "o") newOrder (some 604800), 0, []⟩

/-- Both read, then both write. -/
def overlappingCancels : Option (Config (HostSig ℚ) Exc ServiceResult (HostState ℚ) Bool) :=
  twoCancels.runWhile (hostWorld ℚ) (Available "o")
    [.call false .done, .call false .done, .call true .done, .call true .done,
      .call false .done, .call false .done, .call true .done, .call true .done]

theorem overlappingCancels_isSome : overlappingCancels.isSome = true := by decide +kernel

theorem overlappingCancels_reach : Reach (hostWorld ℚ) (Available "o") twoCancels
    (overlappingCancels.get overlappingCancels_isSome) := by
  have hstart : Available "o" twoCancels.state twoCancels.log := by decide +kernel
  exact Reach.of_runWhile (.start hstart) (Option.some_get overlappingCancels_isSome).symm

deriving instance DecidableEq for ServiceResult

/-- Whether the answer is the one of the cancel that wins. -/
def saysCancelled : Prog (HostSig ℚ) Exc ServiceResult → Bool
  | .ret result => decide (result = cancelledNow "o")
  | _ => false

theorem overlappingCancels_both (i : Bool) :
    Answers (overlappingCancels.get overlappingCancels_isSome) i (cancelledNow "o") := by
  have hanswers : ∀ i : Bool, saysCancelled
      ((overlappingCancels.get overlappingCancels_isSome).thread i) = true := by
    decide +kernel
  have hi := hanswers i
  unfold saysCancelled at hi
  split at hi
  · next result hthread =>
      rw [of_decide_eq_true hi] at hthread
      exact hthread
  · cases hi

theorem overlappingCancels_not_one :
    ¬ OneCancels "o" (fun _ => .cancel) (overlappingCancels.get overlappingCancels_isSome) := by
  intro hone
  have heq := hone false true rfl rfl (overlappingCancels_both false) (overlappingCancels_both true)
  cases heq

/-- Both answer that they have cancelled the order. -/
theorem not_oneCancels_overlapping :
    ¬ ∀ c, Reach (hostWorld ℚ) (Available "o") twoCancels c → OneCancels "o" (fun _ => .cancel) c :=
  fun hall => overlappingCancels_not_one (hall _ overlappingCancels_reach)

/-- The two were not apart; the rest of the life cycle was kept. -/
theorem orderLifecycle_overlapping :
    Lifecycle "o" newOrder (fun _ => .cancel) twoCancels
        (overlappingCancels.get overlappingCancels_isSome) ∧
      ¬ Apart "o" (fun _ => .cancel) (overlappingCancels.get overlappingCancels_isSome).log := by
  have hstart : storedOrder "o" twoCancels.state = some newOrder := by rfl
  have h := orderLifecycle overlappingCancels_reach hstart (by rfl)
  exact ⟨h.1, fun hapart => overlappingCancels_not_one (h.2.1 hapart)⟩

end ChaosDemo
