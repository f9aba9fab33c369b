/-
ChaosDemo/StoreProtocol.lean

The store functions as parties of a protocol.  What a caller may conclude about
a reservation it reads off its own history, which no other client can change:

    Building k v h      v is a PROCESSING text just built, not yet stored
    GotRaw k raw h      some GET of the key answered raw
    Judged ctx k raw h  ... and a later clock reading found raw too old

`Reserving P ctx k fp I L` lists what a protocol `P` must allow for the store
functions to run where the invariant `I` holds, and `L` once a takeover was
lost.  There is one rule for every function, from `load_idempotency_record` up
to `reserve_idempotency_key`; what a function returns is described by the
history it leaves.
-/
import ChaosDemo.IdempotencyStore

set_option linter.unusedSectionVars false

namespace ChaosDemo

open CallTree

variable {K : Type} [Field K] [LinearOrder K] [IsStrictOrderedRing K] [FloorRing K]

abbrev HostHistory (K : Type) := History (HostSig K) Exc

abbrev HostEvent (K : Type) := Event (HostSig K) Exc

/-! ### Events -/

abbrev timeEvent (t : K) : HostEvent K := ⟨.time, .ok t⟩

abbrev uuidEvent (hex : String) : HostEvent K := ⟨.uuid4, .ok hex⟩

abbrev getEvent (k : String) (r : Option Raw) : HostEvent K := ⟨.redis (.get (.idem k)), .ok r⟩

abbrev setNxEvent (k : String) (v : Raw) (ttl : ℤ) (r : Except Exc Bool) : HostEvent K :=
  ⟨.redis (.setNxEx (.idem k) v ttl), r⟩

abbrev cadEvent (k : String) (raw : Raw) (r : Except Exc Bool) : HostEvent K :=
  ⟨.redis (.compareAndDelete k raw), r⟩

abbrev setexEvent (k : String) (ttl : ℤ) (v : Raw) (r : Except Exc Unit) : HostEvent K :=
  ⟨.redis (.setex (.idem k) ttl v), r⟩

/-! ### What a history says -/

/-- Some `GET` of the key answered `raw`. -/
def GotRaw (k : String) (raw : Raw) (h : HostHistory K) : Prop := getEvent k (some raw) ∈ h

/-- Some `GET` of the key found nothing, or the empty text. -/
def Absent (k : String) (h : HostHistory K) : Prop :=
  ∃ found, getEvent k found ∈ h ∧ ∀ raw, found = some raw → raw.truthy = false

/-- A text that was read, and that a later clock reading found to be a
PROCESSING record at least `IDEM_PENDING_TTL_SEC` old. -/
def Judged (ctx : Ctx K) (k : String) (raw : Raw) (h : HostHistory K) : Prop :=
  ∃ new old t createdAt, h = new ++ timeEvent t :: old ∧ GotRaw k raw old ∧
    raw.state = idemStateProcessing ∧
    (raw.data.get "created_at").number? = some createdAt ∧
    (ctx.idemPendingTtlSec : K) ≤ t - (createdAt : K)

/-- `v` is the PROCESSING text built from the last clock reading and uuid; since
then only failed attempts to store it. -/
def Building (ctx : Ctx K) (k payloadFp : String) (v : Raw) (h : HostHistory K) : Prop :=
  ∃ new old t hex, h = new ++ uuidEvent hex :: timeEvent t :: old ∧
    v = processingRaw (pyInt t) hex payloadFp ∧
    ∀ e ∈ new, e.op.idle = true ∨ ∃ x, e = setNxEvent k v ctx.idemPendingTtlSec (.error x)

omit [Field K] [LinearOrder K] [IsStrictOrderedRing K] [FloorRing K] in
theorem GotRaw.cons {k : String} {raw : Raw} {h : HostHistory K} (hg : GotRaw k raw h)
    (e : HostEvent K) : GotRaw k raw (e :: h) :=
  List.mem_cons_of_mem _ hg

omit [Field K] [LinearOrder K] [IsStrictOrderedRing K] [FloorRing K] in
theorem Absent.cons {k : String} {h : HostHistory K} (ha : Absent k h) (e : HostEvent K) :
    Absent k (e :: h) := by
  obtain ⟨found, hmem, hraw⟩ := ha
  exact ⟨found, List.mem_cons_of_mem _ hmem, hraw⟩

theorem Judged.cons {ctx : Ctx K} {k : String} {raw : Raw} {h : HostHistory K}
    (hj : Judged ctx k raw h) (e : HostEvent K) : Judged ctx k raw (e :: h) := by
  obtain ⟨new, old, t, createdAt, rfl, hrest⟩ := hj
  exact ⟨e :: new, old, t, createdAt, rfl, hrest⟩

theorem Judged.got {ctx : Ctx K} {k : String} {raw : Raw} {h : HostHistory K}
    (hj : Judged ctx k raw h) : GotRaw k raw h := by
  obtain ⟨new, old, t, createdAt, rfl, hgot, -⟩ := hj
  exact List.mem_append_right new (hgot.cons _)

theorem Building.cons {ctx : Ctx K} {k fp : String} {v : Raw} {h : HostHistory K}
    (hb : Building ctx k fp v h) {e : HostEvent K}
    (he : e.op.idle = true ∨ ∃ x, e = setNxEvent k v ctx.idemPendingTtlSec (.error x)) :
    Building ctx k fp v (e :: h) := by
  obtain ⟨new, old, t, hex, rfl, hv, hnew⟩ := hb
  refine ⟨e :: new, old, t, hex, rfl, hv, ?_⟩
  intro e' he'
  rcases List.mem_cons.mp he' with rfl | hmem
  · exact he
  · exact hnew e' hmem

/-! ### Redis with retries -/

variable {P : Protocol (HostSig K) Exc} {I L : HostHistory K → Prop}

omit [Field K] [LinearOrder K] [IsStrictOrderedRing K] [FloorRing K] in
/-- A fact about the past is not disturbed by anything. -/
theorem Undisturbed.keep {J : HostHistory K → Prop} (hI : Undisturbed P I)
    (hJ : ∀ h e, J h → J (e :: h)) : Undisturbed P fun h => I h ∧ J h :=
  fun h o hh ho => ⟨(hI h o hh.1 ho).1, fun r hr => ⟨(hI h o hh.1 ho).2 r hr, hJ _ _ hh.2⟩⟩

/-- The rule for `_execute_redis`, where a failed attempt leads from `I` to
`F e`. -/
theorem executeRedis_obeys_of_fail (hP : Hosted P) (ctx : Ctx K) (operation : String)
    {c : Cmd K} {F : Exc → HostHistory K → Prop} {Q : Post (HostSig K) Exc c.Ret}
    (hI : Undisturbed P I) (hF : ∀ e, Undisturbed P (F e))
    (hstore : ∀ h e, I h → P.mayReply h (.beforeStoreOperation operation) (.error e) →
      F e (⟨.beforeStoreOperation operation, .error e⟩ :: h))
    (hcall : ∀ h, I h → P.mayCall h (.redis c))
    (hfail : ∀ h e, I h → P.mayReply h (.redis c) (.error e) →
      F e (⟨.redis c, .error e⟩ :: h))
    (hok : ∀ h v, I h → P.mayReply h (.redis c) (.ok v) → Q (.ok v) (⟨.redis c, .ok v⟩ :: h))
    (hagain : ∀ e h, F e h → I h) (hraise : ∀ e h, F e h → Q (.error e) h)
    {h : HostHistory K} (hh : I h) : Obeys P (executeRedis ctx operation c) Q h := by
  refine RetryPolicy.executeFrom_obeys hP _ hF ?_ hagain hraise _ _ hh
  intro h₁ h₁I
  obtain ⟨hstoreCall, hstoreKeep⟩ := hI h₁ (.beforeStoreOperation operation) h₁I rfl
  have hhook : Obeys P (Host.beforeStoreOperation operation) (fun res h' => match res with
      | .ok _ => I h'
      | .error e => F e h') h₁ := by
    refine .perform hstoreCall fun r hr => ?_
    cases r with
    | ok u => exact hstoreKeep _ hr
    | error e => exact hstore h₁ e h₁I hr
  refine hhook.bind (fun u h₂ h₂I => ?_) (fun e h₂ he => he)
  refine .perform (hcall h₂ h₂I) fun r hr => ?_
  cases r with
  | ok v => exact hok h₂ v h₂I hr
  | error e => exact hfail h₂ e h₂I hr

/-- The rule for `_execute_redis`, where a failed attempt changes nothing that
matters. -/
theorem executeRedis_obeys (hP : Hosted P) (ctx : Ctx K) (operation : String)
    {c : Cmd K} {Q : Post (HostSig K) Exc c.Ret} (hI : Undisturbed P I)
    (hcall : ∀ h, I h → P.mayCall h (.redis c))
    (hfail : ∀ h e, I h → P.mayReply h (.redis c) (.error e) → I (⟨.redis c, .error e⟩ :: h))
    (hok : ∀ h v, I h → P.mayReply h (.redis c) (.ok v) → Q (.ok v) (⟨.redis c, .ok v⟩ :: h))
    (hraise : ∀ e h, I h → Q (.error e) h)
    {h : HostHistory K} (hh : I h) : Obeys P (executeRedis ctx operation c) Q h := by
  refine executeRedis_obeys_of_fail hP ctx operation (F := fun _ => I) hI (fun _ => hI) ?_
    hcall hfail hok (fun _ _ hI' => hI') hraise hh
  intro h₁ e h₁I hr
  exact (hI h₁ (.beforeStoreOperation operation) h₁I rfl).2 _ hr

/-- The rule for `_execute_redis` by its outcome: the reply of the command is the last
call, or the command or the hook before it has failed. -/
theorem executeRedis_blames (hP : Hosted P) (ctx : Ctx K) (operation : String) {c : Cmd K}
    (hI : Undisturbed P I) (hcall : ∀ h, I h → P.mayCall h (.redis c))
    (hfail : ∀ h e, I h → P.mayReply h (.redis c) (.error e) → I (⟨.redis c, .error e⟩ :: h))
    {h : HostHistory K} (hh : I h) :
    Obeys P (executeRedis ctx operation c) (fun res h' => match res with
      | .ok v => ∃ h₁, h' = ⟨.redis c, .ok v⟩ :: h₁ ∧ I h₁
      | .error _ => I h' ∧ ∃ ev ∈ h', ev.failed = true ∧
          (ev.op = .redis c ∨ ∃ operation, ev.op = .beforeStoreOperation operation)) h := by
  let Blamed : HostHistory K → Prop := fun h => ∃ ev ∈ h, ev.failed = true ∧
    (ev.op = .redis c ∨ ∃ operation, ev.op = .beforeStoreOperation operation)
  have hblamed : Undisturbed P fun h => I h ∧ Blamed h := by
    refine hI.keep fun h e hb => ?_
    obtain ⟨ev, hmem, hrest⟩ := hb
    exact ⟨ev, List.mem_cons_of_mem _ hmem, hrest⟩
  refine executeRedis_obeys_of_fail hP ctx operation (F := fun _ h => I h ∧ Blamed h) hI
    (fun _ => hblamed) ?_ hcall ?_ ?_ (fun _ _ hb => hb.1) (fun _ _ hb => hb) hh
  · intro h e hI' hr
    refine ⟨(hI h (.beforeStoreOperation operation) hI' rfl).2 _ hr, _, List.mem_cons_self, rfl, ?_⟩
    exact .inr ⟨operation, rfl⟩
  · intro h e hI' hr
    exact ⟨hfail h e hI' hr, _, List.mem_cons_self, rfl, .inl rfl⟩
  · intro h v hI' _
    exact ⟨h, rfl, hI'⟩

/-! ### Reading -/

/-- What the store functions need in order to read the key. -/
structure Reading (P : Protocol (HostSig K) Exc) (k : String) (I : HostHistory K → Prop) :
    Prop where
  hosted : Hosted P
  idle : Undisturbed P I
  get : ∀ h, I h → P.mayCall h (.redis (.get (.idem k))) ∧
    ∀ r, P.mayReply h (.redis (.get (.idem k))) r → I (⟨.redis (.get (.idem k)), r⟩ :: h)

/-- `r` is what `_normalize_record` makes of the text `raw`. -/
def NormalOf (ctx : Ctx K) (k : String) (raw : Raw) (r : Record) (h : HostHistory K) : Prop :=
  ∃ timestamp stale, r = ⟨normalizeFields raw.data timestamp stale, some raw⟩ ∧
    (stale = true → Judged ctx k raw h)

theorem recordTimestamp_obeys (hP : Hosted P) (hI : Undisturbed P I) (record : Dict)
    {h : HostHistory K} (hh : I h) :
    Obeys P (recordTimestamp record) (fun res h' => (∃ t, res = .ok t) ∧ I h') h := by
  rw [recordTimestamp]
  split
  · exact ⟨⟨_, rfl⟩, hh⟩
  · refine (time_obeys hP hI hh).bind ?_ ?_
    · rintro t h' ⟨-, -, -, hI'⟩
      exact ⟨⟨_, rfl⟩, hI'⟩
    · rintro e h' ⟨t, ht, -⟩
      cases ht

/-- A record is judged stale only after a clock reading that says so. -/
theorem foundStale_obeys (hP : Hosted P) (hI : Undisturbed P I) (ctx : Ctx K)
    {k : String} {raw : Raw} {record : Dict}
    (hcreated : record.get "created_at" = raw.data.get "created_at")
    {h : HostHistory K} (hh : I h) (hgot : GotRaw k raw h) :
    Obeys P (foundStale ctx raw.state record) (fun res h' => (I h' ∧ GotRaw k raw h') ∧
      ∃ stale, res = .ok stale ∧ (stale = true → Judged ctx k raw h')) h := by
  rw [foundStale]
  split
  · rename_i hproc
    rw [isProcessingStale]
    split
    · exact ⟨⟨hh, hgot⟩, false, rfl, by simp⟩
    · split
      · exact ⟨⟨hh, hgot⟩, false, rfl, by simp⟩
      · rename_i createdAt hnum
        rw [hcreated] at hnum
        refine (time_obeys hP hI hh).bind ?_ ?_
        · rintro t h' ⟨t', ht, rfl, hI'⟩
          obtain rfl : t = t' := Except.ok.inj ht
          refine ⟨⟨hI', hgot.cons _⟩, _, rfl, fun hstale => ?_⟩
          have hpos : max ctx.idemPendingTtlSec 0 = ctx.idemPendingTtlSec :=
            max_eq_left (by have := ctx.idemPendingTtlSec_pos; omega)
          rw [decide_eq_true_iff, hpos] at hstale
          exact ⟨[], h, t, createdAt, rfl, hgot, hproc, hnum, hstale⟩
        · rintro e h' ⟨t, ht, -⟩
          cases ht
  · exact ⟨⟨hh, hgot⟩, false, rfl, by simp⟩

theorem normalizeRecord_obeys (hP : Hosted P) (hI : Undisturbed P I) (ctx : Ctx K)
    {k : String} {raw : Raw} {h : HostHistory K} (hh : I h) (hgot : GotRaw k raw h) :
    Obeys P (normalizeRecord ctx raw.data raw) (fun res h' => (I h' ∧ GotRaw k raw h') ∧
      ∃ r, res = .ok r ∧ NormalOf ctx k raw r h') h := by
  have hI' : Undisturbed P fun h => I h ∧ GotRaw k raw h :=
    hI.keep fun h e hg => hg.cons e
  rw [normalizeRecord]
  refine (recordTimestamp_obeys hP hI' _ ⟨hh, hgot⟩).bind ?_ ?_
  · rintro timestamp h₁ ⟨-, h₁I, h₁got⟩
    refine (foundStale_obeys hP hI ctx ?_ h₁I h₁got).bind ?_ ?_
    · rw [Dict.get_setdefault_of_ne (by decide), Dict.get_set_of_ne (by decide)]
    · rintro stale h₂ ⟨h₂I, stale', hs, hjudged⟩
      obtain rfl : stale = stale' := Except.ok.inj hs
      exact ⟨h₂I, _, rfl, timestamp, stale, rfl, hjudged⟩
    · rintro e h₂ ⟨-, stale, hs, -⟩
      cases hs
  · rintro e h₁ ⟨⟨t, ht⟩, -⟩
    cases ht

/-- `r` is a record that was read under the key. -/
def Loaded (ctx : Ctx K) (k : String) (r : Record) (h : HostHistory K) : Prop :=
  ∃ raw, GotRaw k raw h ∧ NormalOf ctx k raw r h

/-- The rule for `load_idempotency_record`. -/
theorem loadIdempotencyRecord_obeys {k : String} (hR : Reading P k I) (ctx : Ctx K)
    {h : HostHistory K} (hh : I h) :
    Obeys P (loadIdempotencyRecord ctx k) (fun res h' => I h' ∧
      (res = .ok none → Absent k h') ∧ ∀ r, res = .ok (some r) → Loaded ctx k r h') h := by
  rw [loadIdempotencyRecord]
  have hget : Obeys P (executeRedis ctx "idempotency_get" (.get (.idem k)))
      (fun res h' => I h' ∧ ∀ found, res = .ok found → getEvent k found ∈ h') h := by
    refine executeRedis_obeys hR.hosted ctx _ hR.idle (fun h hI => (hR.get h hI).1)
      (fun h e hI hr => (hR.get h hI).2 _ hr) ?_ ?_ hh
    · intro h₁ v h₁I hr
      refine ⟨(hR.get h₁ h₁I).2 _ hr, ?_⟩
      intro found hfound
      obtain rfl : v = found := Except.ok.inj hfound
      exact List.mem_cons_self
    · intro e h₁ h₁I
      exact ⟨h₁I, fun found hfound => by cases hfound⟩
  refine hget.bind ?_ ?_
  · rintro found h₁ ⟨h₁I, hgot⟩
    cases found with
    | none =>
        exact ⟨h₁I, fun _ => ⟨none, hgot _ rfl, fun raw hr => by cases hr⟩,
          fun r hr => by cases hr⟩
    | some raw =>
        by_cases ht : raw.truthy = true
        · simp only [ht, if_true]
          refine (normalizeRecord_obeys hR.hosted hR.idle ctx h₁I (hgot raw rfl)).bind ?_ ?_
          · rintro r h₂ ⟨⟨h₂I, h₂got⟩, r', hr, hnorm⟩
            obtain rfl : r = r' := Except.ok.inj hr
            refine ⟨h₂I, fun hnone => (by cases hnone), fun r'' hr'' => ?_⟩
            obtain rfl : r = r'' := Option.some.inj (Except.ok.inj hr'')
            exact ⟨raw, h₂got, hnorm⟩
          · rintro e h₂ ⟨-, r, hr, -⟩
            cases hr
        · simp only [ht]
          refine ⟨h₁I, fun _ => ⟨some raw, hgot _ rfl, ?_⟩, fun r hr => by cases hr⟩
          intro raw' hraw
          obtain rfl := Option.some.inj hraw
          simpa using ht
  · rintro e h₁ ⟨h₁I, -⟩
    exact ⟨h₁I, fun hnone => (by cases hnone), fun r hr => by cases hr⟩

theorem loadOrEmpty_obeys {k : String} (hR : Reading P k I) (ctx : Ctx K)
    {h : HostHistory K} (hh : I h) :
    Obeys P (loadOrEmpty ctx k) (fun res h' => I h' ∧
      ∀ r, res = .ok r → r = .empty ∧ Absent k h' ∨ Loaded ctx k r h') h := by
  rw [loadOrEmpty]
  refine (loadIdempotencyRecord_obeys hR ctx hh).bind ?_ ?_
  · rintro found h₁ ⟨h₁I, habsent, hloaded⟩
    refine ⟨h₁I, fun r hr => ?_⟩
    cases found with
    | none => exact .inl ⟨(Except.ok.inj hr).symm, habsent rfl⟩
    | some r' =>
        obtain rfl : r' = r := Except.ok.inj hr
        exact .inr (hloaded _ rfl)
  · rintro e h₁ ⟨h₁I, -⟩
    exact ⟨h₁I, fun r hr => by cases hr⟩

/-! ### What a loaded record says -/

theorem fillSuccess_get_of_ne {d : Dict} {k : String} (hb : k ≠ "response_body")
    (hs : k ≠ "response_status") : (fillSuccess d).get k = d.get k := by
  rw [fillSuccess]
  split
  · exact Dict.get_setdefault_of_ne hs _
  · rw [Dict.get_setdefault_of_ne hs]
    split
    · exact Dict.get_set_of_ne hb _
    · rfl

/-- Fields that `_normalize_record` does not fill in. -/
theorem normalizeFields_get_of_ne {d : Dict} {ts : ℤ} {stale : Bool} {k : String}
    (hstate : k ≠ "state") (hts : k ≠ "timestamp") (hb : k ≠ "response_body")
    (hs : k ≠ "response_status") : (normalizeFields d ts stale).get k = d.get k := by
  have hbase : ∀ (c : Prop) [Decidable c] (d' : Dict), d'.get k = d.get k →
      (if c then d'.setdefault "response_status" (.int 503) else d').get k = d.get k := by
    intro c _ d' hd'
    split
    · rw [Dict.get_setdefault_of_ne hs, hd']
    · exact hd'
  rw [normalizeFields]
  apply hbase
  split
  · rw [fillSuccess_get_of_ne hb hs]
    split
    · rw [Dict.get_set_of_ne hstate, Dict.get_setdefault_of_ne hts, Dict.get_set_of_ne hstate]
    · rw [Dict.get_setdefault_of_ne hts, Dict.get_set_of_ne hstate]
  · split
    · rw [Dict.get_set_of_ne hstate, Dict.get_setdefault_of_ne hts, Dict.get_set_of_ne hstate]
    · rw [Dict.get_setdefault_of_ne hts, Dict.get_set_of_ne hstate]

theorem normalizeFields_state (d : Dict) (ts : ℤ) (stale : Bool) :
    (normalizeFields d ts stale).get "state" =
      .str (if stale then idemStateExpired else normalizeState (d.get "state")) := by
  have hbase : ∀ (c : Prop) [Decidable c] (d' : Dict),
      (if c then d'.setdefault "response_status" (.int 503) else d').get "state" =
        d'.get "state" := by
    intro c _ d'
    split
    · exact Dict.get_setdefault_of_ne (by decide) _
    · rfl
  have hfill : ∀ (c : Prop) [Decidable c] (d' : Dict),
      (if c then fillSuccess d' else d').get "state" = d'.get "state" := by
    intro c _ d'
    split
    · exact fillSuccess_get_of_ne (by decide) (by decide)
    · rfl
  rw [normalizeFields, hbase, hfill]
  cases stale with
  | true => rw [if_pos rfl, if_pos rfl, Dict.get_set_self]
  | false =>
      rw [if_neg Bool.false_ne_true, if_neg Bool.false_ne_true,
        Dict.get_setdefault_of_ne (by decide), Dict.get_set_self]

/-- A text that a reader of the key may remove: it was judged stale, or calls
itself EXPIRED. -/
def Removable (ctx : Ctx K) (k : String) (raw : Raw) (h : HostHistory K) : Prop :=
  Judged ctx k raw h ∨ GotRaw k raw h ∧ raw.state = idemStateExpired

theorem Loaded.raw_of_expired {ctx : Ctx K} {k : String} {r : Record} {h : HostHistory K}
    (hl : Loaded ctx k r h) (he : r.isExpired = true) :
    ∃ raw, r.raw = some raw ∧ Removable ctx k raw h := by
  obtain ⟨raw, hgot, ts, stale, rfl, hjudged⟩ := hl
  refine ⟨raw, rfl, ?_⟩
  cases stale with
  | true => exact .inl (hjudged rfl)
  | false =>
      rw [Record.isExpired, Record.get, normalizeFields_state, beq_iff_eq] at he
      exact .inr ⟨hgot, Json.str.inj he⟩

theorem Record.empty_not_expired : Record.empty.isExpired = false := rfl

theorem Record.empty_not_terminal : Record.empty.isTerminal = false := rfl

theorem Record.empty_not_conflicts (fp : String) : Record.empty.conflicts fp = false := rfl

/-! ### Reserving -/

/-- What the store functions need in order to reserve the key, with `I` as long
as they may still become the owner and `L` from then on. -/
structure Reserving (P : Protocol (HostSig K) Exc) (ctx : Ctx K) (k payloadFp : String)
    (I L : HostHistory K → Prop) : Prop extends Reading P k I where
  lost : Reading P k L
  lose : ∀ h, I h → L h
  uuid : ∀ h, I h → P.mayCall h .uuid4 ∧ ∀ r, P.mayReply h .uuid4 r → I (⟨.uuid4, r⟩ :: h)
  setNx : ∀ h v, I h → Building ctx k payloadFp v h →
    P.mayCall h (.redis (.setNxEx (.idem k) v ctx.idemPendingTtlSec)) ∧
      ∀ r, P.mayReply h (.redis (.setNxEx (.idem k) v ctx.idemPendingTtlSec)) r →
        r ≠ .ok true → I (setNxEvent k v ctx.idemPendingTtlSec r :: h)
  remove : ∀ h raw, I h → Removable ctx k raw h →
    P.mayCall h (.redis (.compareAndDelete k raw)) ∧
      ∀ r, P.mayReply h (.redis (.compareAndDelete k raw)) r →
        L (cadEvent k raw r :: h) ∧ (r ≠ .ok false → I (cadEvent k raw r :: h))

/-- The last call was the `SET NX` that stored the record `r`. -/
def Granted (P : Protocol (HostSig K) Exc) (ctx : Ctx K) (k payloadFp : String)
    (I : HostHistory K → Prop) (r : Record) (h : HostHistory K) : Prop :=
  ∃ v h₀, h = setNxEvent k v ctx.idemPendingTtlSec (.ok true) :: h₀ ∧ I h₀ ∧
    Building ctx k payloadFp v h₀ ∧ r.raw = some v ∧
    P.mayReply h₀ (.redis (.setNxEx (.idem k) v ctx.idemPendingTtlSec)) (.ok true)

theorem buildProcessingRecord_obeys {ctx : Ctx K} {k fp : String}
    (hR : Reserving P ctx k fp I L) {h : HostHistory K} (hh : I h) :
    Obeys P (buildProcessingRecord fp) (fun res h' => I h' ∧
      ∃ d, res = .ok d ∧ Building ctx k fp (serializeRecord d) h') h := by
  rw [buildProcessingRecord]
  refine (time_obeys hR.hosted hR.idle hh).bind ?_ ?_
  · rintro t h₁ ⟨t', ht, rfl, h₁I⟩
    obtain rfl : t = t' := Except.ok.inj ht
    obtain ⟨hcall, hkeep⟩ := hR.uuid _ h₁I
    have huuid : Obeys P Host.uuid4 (fun res h' => ∃ hex, res = .ok hex ∧
        h' = uuidEvent hex :: timeEvent t :: h ∧ I h') (timeEvent t :: h) := by
      refine .perform hcall fun r hr => ?_
      obtain ⟨hex, rfl⟩ := hR.hosted _ _ _ hr
      exact ⟨hex, rfl, rfl, hkeep _ hr⟩
    refine huuid.bind ?_ ?_
    · rintro hex h₂ ⟨hex', hhex, rfl, h₂I⟩
      obtain rfl : hex = hex' := Except.ok.inj hhex
      exact ⟨h₂I, _, rfl, [], h, t, hex, rfl, rfl, by simp⟩
    · rintro e h₂ ⟨hex, hhex, -⟩
      cases hhex
  · rintro e h₁ ⟨t, ht, -⟩
    cases ht

/-- An attempt that answers `true` leaves `Y`, any other end leaves `N`. -/
def BoolOutcome (Y N : HostHistory K → Prop) : Post (HostSig K) Exc Bool
  | .ok true, h => Y h
  | _, h => N h

/-- The rule for `_reserve_new_processing`. -/
theorem reserveNewProcessing_obeys {ctx : Ctx K} {k fp : String}
    (hR : Reserving P ctx k fp I L) {h : HostHistory K} (hh : I h) :
    Obeys P (reserveNewProcessing ctx k fp) (fun res h' => match res with
      | .ok (true, r) => Granted P ctx k fp I r h'
      | _ => I h') h := by
  rw [reserveNewProcessing]
  refine (buildProcessingRecord_obeys hR hh).bind ?_ ?_
  · rintro d h₁ ⟨h₁I, d', hd, hbuild⟩
    obtain rfl : d = d' := Except.ok.inj hd
    -- every attempt starts with the text still unsaved
    have hidle : Undisturbed P fun h => I h ∧ Building ctx k fp (serializeRecord d) h := by
      rintro h o ⟨hI, hb⟩ ho
      obtain ⟨hcall, hkeep⟩ := hR.idle h o hI ho
      exact ⟨hcall, fun r hr => ⟨hkeep r hr, hb.cons (.inl ho)⟩⟩
    have hset : Obeys P (executeRedis ctx "idempotency_reserve"
        (.setNxEx (.idem k) (serializeRecord d) ctx.idemPendingTtlSec))
        (BoolOutcome (Granted P ctx k fp I ⟨d, some (serializeRecord d)⟩) I) h₁ := by
      refine executeRedis_obeys hR.hosted ctx _ hidle (fun h hI => (hR.setNx h _ hI.1 hI.2).1)
        ?_ ?_ (fun e h hI => hI.1) ⟨h₁I, hbuild⟩
      · rintro h e ⟨hI, hb⟩ hr
        exact ⟨(hR.setNx h _ hI hb).2 _ hr (by simp), hb.cons (.inr ⟨e, rfl⟩)⟩
      · rintro h v ⟨hI, hb⟩ hr
        cases v with
        | true => exact ⟨_, h, rfl, hI, hb, rfl, hr⟩
        | false => exact (hR.setNx h _ hI hb).2 _ hr (by simp)
    refine hset.bind ?_ ?_
    · rintro ok h₂ hok
      cases ok with
      | true => exact hok
      | false => exact hok
    · rintro e h₂ he
      exact he
  · rintro e h₁ ⟨h₁I, -⟩
    exact h₁I

/-- The rule for `_compare_and_delete`. -/
theorem compareAndDelete_obeys (hP : Hosted P) (hI : Undisturbed P I) {ctx : Ctx K}
    {k : String} {raw : Raw} {Q : Post (HostSig K) Exc Bool}
    (hcall : ∀ h, I h → P.mayCall h (.redis (.compareAndDelete k raw)))
    (hfail : ∀ h e, I h → P.mayReply h (.redis (.compareAndDelete k raw)) (.error e) →
      I (cadEvent k raw (.error e) :: h))
    (hok : ∀ h b, I h → P.mayReply h (.redis (.compareAndDelete k raw)) (.ok b) →
      Q (.ok b) (cadEvent k raw (.ok b) :: h))
    (hskip : ∀ h, I h → Q (.ok false) h) (hraise : ∀ e h, I h → Q (.error e) h)
    {h : HostHistory K} (hh : I h) :
    Obeys P (compareAndDelete ctx k (some raw)) Q h := by
  rw [compareAndDelete]
  split
  · exact executeRedis_obeys hP ctx _ hI hcall hfail hok hraise hh
  · exact hskip h hh

/-- What `reserve_idempotency_key` returns, and the history it leaves. -/
def ReserveOutcome (P : Protocol (HostSig K) Exc) (ctx : Ctx K) (k payloadFp : String)
    (I L : HostHistory K → Prop) : Post (HostSig K) Exc (ReserveState × Record)
  | .ok (.owner, r), h => Granted P ctx k payloadFp I r h
  | .ok (.replay, r), h => L h ∧ Loaded ctx k r h ∧ r.isTerminal = true
  | .ok (.conflict, r), h => L h ∧ Loaded ctx k r h ∧ r.conflicts payloadFp = true
  | .ok (.processing, _), h => L h
  | .error _, h => L h

theorem rereadAfterTakeover_obeys {ctx : Ctx K} {k fp : String}
    (hR : Reserving P ctx k fp I L) {h : HostHistory K} (hh : L h) :
    Obeys P (rereadAfterTakeover ctx k fp) (ReserveOutcome P ctx k fp I L) h := by
  rw [rereadAfterTakeover]
  refine (loadOrEmpty_obeys hR.lost ctx hh).bind ?_ ?_
  · rintro r h₁ ⟨h₁L, hr⟩
    have hl : r.conflicts fp = true ∨ r.isTerminal = true → Loaded ctx k r h₁ := by
      rintro hc
      rcases hr r rfl with ⟨rfl, -⟩ | hl
      · rcases hc with hc | hc <;> cases hc
      · exact hl
    split
    · rename_i hc
      exact ⟨h₁L, hl (.inl hc), hc⟩
    · split
      · rename_i hterm
        exact ⟨h₁L, hl (.inr hterm), hterm⟩
      · exact h₁L
  · rintro e h₁ ⟨h₁L, -⟩
    exact h₁L

theorem takeOver_obeys {ctx : Ctx K} {k fp : String} (hR : Reserving P ctx k fp I L)
    {r : Record} {h : HostHistory K} (hh : I h) (hl : Loaded ctx k r h)
    (he : r.isExpired = true) :
    Obeys P (takeOver ctx k fp r) (ReserveOutcome P ctx k fp I L) h := by
  obtain ⟨raw, hraw, hrem⟩ := hl.raw_of_expired he
  rw [takeOver, hraw]
  have hidle : Undisturbed P fun h => I h ∧ Removable ctx k raw h := by
    refine hR.idle.keep fun h e hrem => ?_
    exact hrem.imp (·.cons e) fun hg => ⟨hg.1.cons e, hg.2⟩
  have hdel : Obeys P (compareAndDelete ctx k (some raw)) (BoolOutcome I L) h := by
    refine compareAndDelete_obeys hR.hosted hidle (fun h hI => (hR.remove h raw hI.1 hI.2).1)
      ?_ ?_ (fun h hI => hR.lose h hI.1) (fun e h hI => hR.lose h hI.1) ⟨hh, hrem⟩
    · rintro h e ⟨hI, hrem'⟩ hr
      exact ⟨((hR.remove h raw hI hrem').2 _ hr).2 (by simp),
        hrem'.imp (·.cons _) fun hg => ⟨hg.1.cons _, hg.2⟩⟩
    · rintro h b ⟨hI, hrem'⟩ hr
      cases b with
      | true => exact ((hR.remove h raw hI hrem').2 _ hr).2 (by simp)
      | false => exact ((hR.remove h raw hI hrem').2 _ hr).1
  refine hdel.bind ?_ (fun e h₁ h₁L => h₁L)
  rintro deleted h₁ hdeleted
  cases deleted with
  | false => exact rereadAfterTakeover_obeys hR hdeleted
  | true =>
      refine (reserveNewProcessing_obeys hR hdeleted).bind ?_ (fun e h₂ h₂I => hR.lose h₂ h₂I)
      rintro ⟨reserved, pending⟩ h₂ hres
      cases reserved with
      | true => exact hres
      | false => exact rereadAfterTakeover_obeys hR (hR.lose h₂ hres)

/-- **The rule for `reserve_idempotency_key`.** -/
theorem reserveIdempotencyKey_obeys {ctx : Ctx K} {k fp : String}
    (hR : Reserving P ctx k fp I L) {h : HostHistory K} (hh : I h) :
    Obeys P (reserveIdempotencyKey ctx k fp) (ReserveOutcome P ctx k fp I L) h := by
  rw [reserveIdempotencyKey]
  refine (reserveNewProcessing_obeys hR hh).bind ?_ (fun e h₁ h₁I => hR.lose h₁ h₁I)
  rintro ⟨reserved, pending⟩ h₁ hres
  cases reserved with
  | true => exact hres
  | false =>
      refine (loadOrEmpty_obeys (I := I) hR.toReading ctx hres).bind ?_ ?_
      · rintro r h₂ ⟨h₂I, hr⟩
        have h₂L : L h₂ := hR.lose h₂ h₂I
        have hl : r.conflicts fp = true ∨ r.isTerminal = true ∨ r.isExpired = true →
            Loaded ctx k r h₂ := by
          rintro hc
          rcases hr r rfl with ⟨rfl, -⟩ | hl
          · rcases hc with hc | hc | hc <;> cases hc
          · exact hl
        by_cases hc : r.conflicts fp = true
        · simp only [hc, if_true]
          exact ⟨h₂L, hl (.inl hc), hc⟩
        by_cases hterm : r.isTerminal = true
        · simp only [hc, hterm, if_true]
          exact ⟨h₂L, hl (.inr (.inl hterm)), hterm⟩
        by_cases hexp : r.isExpired = true
        · simp only [hc, hterm, hexp, if_true]
          exact takeOver_obeys hR h₂I (hl (.inr (.inr hexp))) hexp
        · simp only [hc, hterm, hexp]
          exact h₂L
      · rintro e h₂ ⟨h₂I, -⟩
        exact hR.lose h₂ h₂I

/-! ### Waiting -/

/-- What `wait_for_idempotency_result` returns: an answer is a record that was
read. -/
def WaitOutcome (ctx : Ctx K) (k payloadFp : String) (I : HostHistory K → Prop) :
    Post (HostSig K) Exc (WaitState × Record)
  | .ok (.replay, r), h => I h ∧ Loaded ctx k r h ∧ r.isTerminal = true
  | .ok (.conflict, r), h => I h ∧ Loaded ctx k r h ∧ r.conflicts payloadFp = true
  | .ok (.missing, r), h =>
      I h ∧ (r = .empty ∧ Absent k h ∨ Loaded ctx k r h ∧ r.isExpired = true)
  | .ok (.processing, _), h => I h
  | .error _, h => I h

theorem pollIdempotencyResult_obeys {k : String} (hR : Reading P k I) (ctx : Ctx K)
    (fp : String) (deadline : K) (polls : ℕ) {h : HostHistory K} (hh : I h) :
    Obeys P (pollIdempotencyResult ctx k fp deadline polls) (fun res h' => match res with
      | .ok (some answer) => WaitOutcome ctx k fp I (.ok answer) h'
      | _ => I h') h := by
  induction polls generalizing h with
  | zero => exact hh
  | succ polls ih =>
      rw [pollIdempotencyResult]
      refine (time_obeys hR.hosted hR.idle hh).bind ?_ ?_
      · rintro now h₁ ⟨-, -, -, h₁I⟩
        split
        · refine (loadIdempotencyRecord_obeys hR ctx h₁I).bind ?_ ?_
          · rintro found h₂ ⟨h₂I, habsent, hloaded⟩
            cases found with
            | none => exact ⟨h₂I, .inl ⟨rfl, habsent rfl⟩⟩
            | some r =>
                have hl : Loaded ctx k r h₂ := hloaded r rfl
                by_cases hc : r.conflicts fp = true
                · simp only [hc, if_true]
                  exact ⟨h₂I, hl, hc⟩
                by_cases hterm : r.isTerminal = true
                · simp only [hc, hterm, if_true]
                  exact ⟨h₂I, hl, hterm⟩
                by_cases hexp : r.isExpired = true
                · simp only [hc, hterm, hexp, if_true]
                  exact ⟨h₂I, .inr ⟨hl, hexp⟩⟩
                · simp only [hc, hterm, hexp]
                  have hsleep := idle_obeys hR.hosted hR.idle
                    (o := .sleep ((max ctx.idemWaitPollMs 1 : ℤ) / 1000)) rfl (by simp) h₂I
                  refine hsleep.bind ?_ ?_
                  · rintro u h₃ ⟨-, h₃I⟩
                    exact ih h₃I
                  · rintro e h₃ ⟨⟨v, hv⟩, -⟩
                    cases hv
          · rintro e h₂ ⟨h₂I, -⟩
            exact h₂I
        · exact h₁I
      · rintro e h₁ ⟨t, ht, -⟩
        cases ht

/-- **The rule for `wait_for_idempotency_result`.** -/
theorem waitForIdempotencyResult_obeys {k : String} (hR : Reading P k I) (ctx : Ctx K)
    (fp : String) {h : HostHistory K} (hh : I h) :
    Obeys P (waitForIdempotencyResult ctx k fp) (WaitOutcome ctx k fp I) h := by
  rw [waitForIdempotencyResult]
  refine (time_obeys hR.hosted hR.idle hh).bind ?_ ?_
  · rintro now h₁ ⟨-, -, -, h₁I⟩
    refine (pollIdempotencyResult_obeys hR ctx fp _ _ h₁I).bind ?_ (fun e h₂ h₂I => h₂I)
    rintro answer h₂ hans
    cases answer with
    | some answer => exact hans
    | none =>
        refine (loadOrEmpty_obeys (I := I) hR ctx hans).bind ?_ ?_
        · rintro r h₃ ⟨h₃I, hr⟩
          have hl : r.conflicts fp = true ∨ r.isTerminal = true → Loaded ctx k r h₃ := by
            rintro hc
            rcases hr r rfl with ⟨rfl, -⟩ | hl
            · rcases hc with hc | hc <;> cases hc
            · exact hl
          split
          · rename_i hc
            exact ⟨h₃I, hl (.inl hc), hc⟩
          · split
            · rename_i hterm
              exact ⟨h₃I, hl (.inr hterm), hterm⟩
            · exact h₃I
        · rintro e h₃ ⟨h₃I, -⟩
          exact h₃I
  · rintro e h₁ ⟨t, ht, -⟩
    cases ht

/-! ### Terminal writes -/

/-- A clock reading, then a `SETEX` of a text built from it. -/
theorem terminalWrite_obeys (hP : Hosted P) (hI : Undisturbed P I) {ctx : Ctx K}
    {k operation : String} {ttl : ℤ} (text : ℤ → Raw) {Q : Post (HostSig K) Exc Unit}
    (hcall : ∀ n h, I h → P.mayCall h (.redis (.setex (.idem k) ttl (text n))))
    (hfail : ∀ n h e, I h → P.mayReply h (.redis (.setex (.idem k) ttl (text n))) (.error e) →
      I (setexEvent k ttl (text n) (.error e) :: h))
    (hok : ∀ n h, I h → P.mayReply h (.redis (.setex (.idem k) ttl (text n))) (.ok ()) →
      Q (.ok ()) (setexEvent k ttl (text n) (.ok ()) :: h))
    (hraise : ∀ e h, I h → Q (.error e) h) {h : HostHistory K} (hh : I h) :
    Obeys P (do
      let now ← Host.time
      executeRedis ctx operation (.setex (.idem k) ttl (text (pyInt now)))) Q h := by
  refine (time_obeys hP hI hh).bind ?_ ?_
  · rintro now h₁ ⟨-, -, -, h₁I⟩
    exact executeRedis_obeys hP ctx operation hI (hcall _) (hfail _)
      (fun h' _ h'I hr => hok _ h' h'I hr) hraise h₁I
  · rintro e h₁ ⟨t, ht, -⟩
    cases ht

/-- The body `finalize_idempotency_success` stores. -/
def finalizeBody (orderId : String) (responseBody : Dict) : Dict :=
  if responseBody.isEmpty then [("status", .str "ok"), ("order_id", .str orderId)]
  else responseBody

/-- The body `save_failed` stores. -/
def failedBody (errorMessage : String) (responseBody : Dict) : Dict :=
  if responseBody.isEmpty then [("error", .str errorMessage)] else responseBody

/-- The rule for `finalize_idempotency_success`. -/
theorem finalizeIdempotencySuccess_obeys (hP : Hosted P) (hI : Undisturbed P I) {ctx : Ctx K}
    {k fp oid : String} {status : ℤ} {body : Dict} {Q : Post (HostSig K) Exc Unit}
    (hwrite : ∀ n h, I h →
      let v := successRaw n fp oid status (finalizeBody oid body)
      P.mayCall h (.redis (.setex (.idem k) ctx.idemTtlSec v)) ∧
        (∀ e, P.mayReply h (.redis (.setex (.idem k) ctx.idemTtlSec v)) (.error e) →
          I (setexEvent k ctx.idemTtlSec v (.error e) :: h)) ∧
        (P.mayReply h (.redis (.setex (.idem k) ctx.idemTtlSec v)) (.ok ()) →
          Q (.ok ()) (setexEvent k ctx.idemTtlSec v (.ok ()) :: h)))
    (hraise : ∀ e h, I h → Q (.error e) h) {h : HostHistory K} (hh : I h) :
    Obeys P (finalizeIdempotencySuccess ctx k fp oid status body) Q h :=
  terminalWrite_obeys hP hI (fun n => successRaw n fp oid status (finalizeBody oid body))
    (fun n h hI => (hwrite n h hI).1) (fun n h e hI => (hwrite n h hI).2.1 e)
    (fun n h hI => (hwrite n h hI).2.2) hraise hh

/-- The rule for `save_failed`. -/
theorem saveFailed_obeys (hP : Hosted P) (hI : Undisturbed P I) {ctx : Ctx K}
    {k fp message : String} {status : ℤ} {body : Dict} {Q : Post (HostSig K) Exc Unit}
    (hwrite : ∀ n h, I h →
      let v := failedRaw n fp message status (failedBody message body)
      P.mayCall h (.redis (.setex (.idem k) ctx.idemTtlSec v)) ∧
        (∀ e, P.mayReply h (.redis (.setex (.idem k) ctx.idemTtlSec v)) (.error e) →
          I (setexEvent k ctx.idemTtlSec v (.error e) :: h)) ∧
        (P.mayReply h (.redis (.setex (.idem k) ctx.idemTtlSec v)) (.ok ()) →
          Q (.ok ()) (setexEvent k ctx.idemTtlSec v (.ok ()) :: h)))
    (hraise : ∀ e h, I h → Q (.error e) h) {h : HostHistory K} (hh : I h) :
    Obeys P (saveFailed ctx k fp message status body) Q h :=
  terminalWrite_obeys hP hI (fun n => failedRaw n fp message status (failedBody message body))
    (fun n h hI => (hwrite n h hI).1) (fun n h e hI => (hwrite n h hI).2.1 e)
    (fun n h hI => (hwrite n h hI).2.2) hraise hh

/-! ### Failures -/

/-- The store functions raise only after a call has failed. -/
theorem executeRedis_unfailing (ctx : Ctx K) (operation : String) (c : Cmd K) :
    (executeRedis ctx operation c).Unfailing :=
  RetryPolicy.execute_unfailing _ (.bind (.perform _) fun _ => .perform _)

theorem reserveNewProcessing_unfailing (ctx : Ctx K) (k fp : String) :
    (reserveNewProcessing ctx k fp).Unfailing := by
  apply Prog.Unfailing.bind
  · exact .bind (.perform _) fun _ => .bind (.perform _) fun _ => trivial
  · intro pending
    exact .bind (executeRedis_unfailing ..) fun _ => trivial

theorem normalizeRecord_unfailing (ctx : Ctx K) (data : Dict) (raw : Raw) :
    (normalizeRecord ctx data raw).Unfailing := by
  apply Prog.Unfailing.bind
  · rw [recordTimestamp]
    split
    · trivial
    · exact .bind (.perform _) fun _ => trivial
  · intro timestamp
    apply Prog.Unfailing.bind
    · rw [foundStale]
      apply Prog.Unfailing.ite
      · rw [isProcessingStale]
        apply Prog.Unfailing.ite
        · trivial
        · split
          · trivial
          · exact .bind (.perform _) fun _ => trivial
      · trivial
    · intro stale
      trivial

theorem loadIdempotencyRecord_unfailing (ctx : Ctx K) (k : String) :
    (loadIdempotencyRecord ctx k).Unfailing := by
  apply (executeRedis_unfailing ..).bind
  intro found
  cases found with
  | none => trivial
  | some raw => exact .ite (.bind (normalizeRecord_unfailing ..) fun _ => trivial) trivial

theorem loadOrEmpty_unfailing (ctx : Ctx K) (k : String) : (loadOrEmpty ctx k).Unfailing :=
  (loadIdempotencyRecord_unfailing ctx k).bind fun _ => trivial

theorem takeOver_unfailing (ctx : Ctx K) (k fp : String) (existing : Record) :
    (takeOver ctx k fp existing).Unfailing := by
  have hreread : (rereadAfterTakeover ctx k fp).Unfailing :=
    (loadOrEmpty_unfailing ctx k).bind fun _ => .ite trivial (.ite trivial trivial)
  have hdelete : (compareAndDelete ctx k existing.raw).Unfailing := by
    cases existing.raw with
    | none => trivial
    | some raw => exact .ite (executeRedis_unfailing ..) trivial
  apply hdelete.bind
  intro deleted
  apply Prog.Unfailing.ite
  · apply (reserveNewProcessing_unfailing ctx k fp).bind
    rintro ⟨reserved, pending⟩
    exact .ite trivial hreread
  · exact hreread

theorem reserveIdempotencyKey_unfailing (ctx : Ctx K) (k fp : String) :
    (reserveIdempotencyKey ctx k fp).Unfailing := by
  apply (reserveNewProcessing_unfailing ctx k fp).bind
  rintro ⟨reserved, pending⟩
  refine .ite trivial ?_
  apply (loadOrEmpty_unfailing ctx k).bind
  intro existing
  exact .ite trivial (.ite trivial (.ite (takeOver_unfailing ..) trivial))

theorem waitForIdempotencyResult_unfailing (ctx : Ctx K) (k fp : String) :
    (waitForIdempotencyResult ctx k fp).Unfailing := by
  have hpoll : ∀ (deadline : K) (polls : ℕ),
      (pollIdempotencyResult ctx k fp deadline polls).Unfailing := by
    intro deadline polls
    induction polls with
    | zero => trivial
    | succ polls ih =>
        apply (Prog.Unfailing.perform _).bind
        intro now
        apply Prog.Unfailing.ite
        · apply (loadIdempotencyRecord_unfailing ctx k).bind
          intro found
          cases found with
          | none => trivial
          | some r =>
              refine .ite trivial (.ite trivial (.ite trivial ?_))
              exact .bind (.perform _) fun _ => ih
        · trivial
  apply (Prog.Unfailing.perform _).bind
  intro now
  apply (hpoll _ _).bind
  intro answer
  cases answer with
  | some answer => trivial
  | none => exact (loadOrEmpty_unfailing ctx k).bind fun _ => .ite trivial (.ite trivial trivial)

end ChaosDemo
