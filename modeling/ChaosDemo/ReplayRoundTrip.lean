/-
ChaosDemo/ReplayRoundTrip.lean

What a terminal record is replayed as.  A client stores the answer of a request with
`finalize_idempotency_success` or `save_failed`; another one loads the record later and
hands it to `build_replay_response`.  On the way the answer is put into a record, the
record is written as a text, the text is read, completed with defaults and judged for
its age, and the response is built in one of three branches:

    store ──► SETEX ─ ─ ─ ─ ─► GET ──► _normalize_record ──► build_replay_response

The dotted part is where the others come in.  Any number of programs share the server
with the two clients; all that is asked of the run is that no write has changed the slot
between the SETEX and the GET, and that the lifetime of the record is not over
(`LaterLoad`).  What the reader builds is then the stored answer, whatever keys its body
has (`TerminalCall.Answers`), or one of its own calls has failed.
-/
import ChaosDemo.StoreClient

set_option linter.unusedSectionVars false

namespace ChaosDemo

open CallTree Keyspace

variable {K : Type} [Field K] [LinearOrder K] [IsStrictOrderedRing K] [FloorRing K]
variable {ι : Type} [DecidableEq ι]

/-! ### The two clients -/

/-- A call that stores a terminal record, with its arguments. -/
inductive TerminalCall
  | success (payloadFp orderId : String) (responseStatus : ℤ) (responseBody : Dict)
  | failed (payloadFp errorMessage : String) (responseStatus : ℤ) (responseBody : Dict)

namespace TerminalCall

/-- The program of the call. -/
def program (ctx : Ctx K) (idemKey : String) : TerminalCall → Host K Unit
  | success fp oid status body => finalizeIdempotencySuccess ctx idemKey fp oid status body
  | failed fp message status body => saveFailed ctx idemKey fp message status body

/-- The text it stores when the clock shows second `n`. -/
def text (n : ℤ) : TerminalCall → Raw
  | success fp oid status body => successRaw n fp oid status (finalizeBody oid body)
  | failed fp message status body => failedRaw n fp message status (failedBody message body)

/-- The arguments of a real answer: an order that has an id, a failure that has a status,
and a body that says something. -/
def Formed : TerminalCall → Prop
  | success _ oid _ body => oid ≠ "" ∧ body ≠ []
  | failed _ _ status body => status ≠ 0 ∧ body ≠ []

/-- The status of the replay. -/
def replayStatus : TerminalCall → ℤ
  | success .. => 200
  | failed _ _ status _ => status

/-- What the replay has under a key besides `idempotent`: what the stored body has, and
only where it has nothing, the order's id and its status. -/
def replayField (key : String) : TerminalCall → Option Json
  | success _ oid _ body =>
      (body.lookup key).or ([("status", .str "ok"), ("order_id", .str oid)].lookup key)
  | failed _ _ _ body => body.lookup key

/-- `answer` is the stored answer, marked as a replay. -/
def Answers (t : TerminalCall) (answer : ℤ × Dict) : Prop :=
  answer.1 = t.replayStatus ∧
    ∀ key, answer.2.lookup key =
      if key = "idempotent" then some (.bool true) else t.replayField key

end TerminalCall

/-- `load_idempotency_record`, and `build_replay_response` of what it finds. -/
def loadReplay (ctx : Ctx K) (idemKey : String) :
    Host K (Option (Except Exc (ℤ × Dict))) := do
  let record ← loadIdempotencyRecord ctx idemKey
  pure (record.map buildReplayResponse)

/-- Every `GET` of the key that `j` got an answer to comes after a SETEX of `i`, before
the TTL has passed, and nothing has been written in between. -/
def LaterLoad (ttl : ℤ) (k : String) (i j : ι) (l : HostLog K ι) : Prop :=
  ∀ newer e old found, l = newer ++ e :: old → e.who = j → e.event = getEvent k found →
    ∃ mid w older v, old = mid ++ w :: older ∧ w.who = i ∧
      w.event = setexEvent k ttl v (.ok ()) ∧
      (∀ x ∈ mid, x.after.data (.idem k) = x.before.data (.idem k)) ∧
      e.before.now < w.before.now + (ttl : K)

/-- One write, and every load after it. -/
theorem laterLoad_of_write {ttl : ℤ} {k : String} {i j : ι} {v : Raw} {since older : HostLog K ι}
    {w : HostEntry K ι} (hwho : w.who = i) (hev : w.event = setexEvent k ttl v (.ok ()))
    (hkept : ∀ x ∈ since, x.after.data (.idem k) = x.before.data (.idem k))
    (hlive : ∀ x ∈ since, x.before.now < w.before.now + (ttl : K))
    (hnone : ∀ x ∈ older, x.who = j → ∀ found, x.event ≠ getEvent k found) :
    LaterLoad ttl k i j (since ++ w :: older) := by
  intro newer e old found hsplit hj hget
  rcases List.append_eq_append_iff.mp hsplit with ⟨mid, rfl, hrest⟩ | ⟨mid, rfl, hrest⟩
  · -- the load would be the write or older
    rcases mid with - | ⟨x, mid⟩
    · obtain ⟨rfl, -⟩ := List.cons.inj hrest
      rw [hev] at hget
      cases hget
    · obtain ⟨rfl, rfl⟩ := List.cons.inj hrest
      exact absurd hget (hnone e (by simp) hj found)
  · rcases mid with - | ⟨x, mid⟩
    · obtain ⟨rfl, -⟩ := List.cons.inj hrest
      rw [hev] at hget
      cases hget
    · obtain ⟨rfl, rfl⟩ := List.cons.inj hrest
      refine ⟨mid, w, older, v, rfl, hwho, hev, ?_, hlive _ (by simp)⟩
      exact fun y hy => hkept y (by simp [hy])

/-! ### The record that is loaded -/

/-- What every field `_normalize_record` may set leaves alone, it leaves alone. -/
theorem normalizeFields_keeps {A : Dict → Prop} (hstate : ∀ d v, A d → A (d.set "state" v))
    (htime : ∀ d v, A d → A (d.setdefault "timestamp" v)) (hfill : ∀ d, A d → A (fillSuccess d))
    (hstatus : ∀ d v, A d → A (d.setdefault "response_status" v)) {d : Dict} (hd : A d) (ts : ℤ)
    (stale : Bool) : A (normalizeFields d ts stale) := by
  rw [normalizeFields]
  have hstale : A (if stale = true then
      ((d.set "state" (.str (normalizeState (d.get "state")))).setdefault "timestamp"
        (.int ts)).set "state" (.str idemStateExpired)
      else (d.set "state" (.str (normalizeState (d.get "state")))).setdefault "timestamp"
        (.int ts)) := by
    split
    · exact hstate _ _ (htime _ _ (hstate _ _ hd))
    · exact htime _ _ (hstate _ _ hd)
  split
  · apply hstatus
    split
    · exact hfill _ hstale
    · exact hstale
  · split
    · exact hfill _ hstale
    · exact hstale

/-- A body that is a dictionary is left, -/
theorem normalizeFields_body {d body : Dict} (h : d.get "response_body" = .obj body) (ts : ℤ)
    (stale : Bool) : (normalizeFields d ts stale).get "response_body" = .obj body := by
  refine normalizeFields_keeps (A := fun d => d.get "response_body" = .obj body) ?_ ?_ ?_ ?_ h
    ts stale
  · exact fun d v hd => (Dict.get_set_of_ne (by decide) v).trans hd
  · exact fun d v hd => (Dict.get_setdefault_of_ne (by decide) v).trans hd
  · intro d hd
    have hdict : (d.get "response_body").dict? = some body := by rw [hd, Json.dict?]
    rw [fillSuccess, hdict]
    exact (Dict.get_setdefault_of_ne (by decide) _).trans hd
  · exact fun d v hd => (Dict.get_setdefault_of_ne (by decide) v).trans hd

/-- and so is a status that is there. -/
theorem normalizeFields_status {d : Dict} {status : ℤ} (h : d.get "response_status" = .int status)
    (ts : ℤ) (stale : Bool) :
    (normalizeFields d ts stale).get "response_status" = .int status := by
  have hhas : ∀ {d : Dict}, d.get "response_status" = .int status →
      d.has "response_status" = true := by
    intro d hd
    by_contra hnot
    rw [Dict.get_of_not_has (by simpa using hnot)] at hd
    cases hd
  have hdefault : ∀ (d : Dict) (v : Json), d.get "response_status" = .int status →
      (d.setdefault "response_status" v).get "response_status" = .int status := by
    intro d v hd
    rw [Dict.setdefault, if_pos (hhas hd), hd]
  refine normalizeFields_keeps (A := fun d => d.get "response_status" = .int status) ?_ ?_ ?_
    hdefault h ts stale
  · exact fun d v hd => (Dict.get_set_of_ne (by decide) v).trans hd
  · exact fun d v hd => (Dict.get_setdefault_of_ne (by decide) v).trans hd
  · intro d hd
    rw [fillSuccess]
    apply hdefault
    split
    · exact hd
    · split
      · exact (Dict.get_set_of_ne (by decide) _).trans hd
      · exact hd

/-- The record that is read from a text which is not judged stale. -/
def readAs (raw : Raw) (ts : ℤ) : Record := ⟨normalizeFields raw.data ts false, some raw⟩

theorem readAs_state (raw : Raw) (ts : ℤ) : (readAs raw ts).get "state" = .str raw.state := by
  rw [readAs, Record.get, normalizeFields_state, if_neg Bool.false_ne_true, Raw.state]

/-! ### The response that is built -/

/-- The response to a SUCCESS record. -/
theorem buildReplayResponse_success {r : Record} {oid : String} {body : Dict}
    (hstate : r.get "state" = .str idemStateSuccess) (hoid : r.get "order_id" = .str oid)
    (hne : oid ≠ "") (hbody : r.get "response_body" = .obj body) :
    ∃ answer, buildReplayResponse r = .ok answer ∧ answer.1 = 200 ∧
      ∀ key, answer.2.lookup key = if key = "idempotent" then some (.bool true)
        else (body.lookup key).or
          ([("status", .str "ok"), ("order_id", .str oid)].lookup key) := by
  have hnorm : normalizeState (.str idemStateSuccess) = idemStateSuccess := rfl
  have htruthy : (Json.str oid).truthy = true := by simpa [Json.truthy] using hne
  let named : Dict := if !Dict.has body "order_id" && (Json.str oid).truthy then
    Dict.set body "order_id" (.str oid) else body
  have hnamed : ∀ key, named.lookup key =
      if key = "order_id" ∧ body.lookup "order_id" = none then some (.str oid)
      else body.lookup key := by
    intro key
    show (if !Dict.has body "order_id" && (Json.str oid).truthy then
      Dict.set body "order_id" (.str oid) else body).lookup key = _
    cases hid : body.lookup "order_id" with
    | some v => simp [Dict.has, hid]
    | none => simp [Dict.has, hid, htruthy, Dict.lookup_set]
  have hbuilt : buildReplayResponse r =
      .ok (200, (Dict.setdefault named "status" (.str "ok")).set "idempotent" (.bool true)) := by
    rw [buildReplayResponse, hstate, hnorm, hbody, hoid]
    rfl
  refine ⟨_, hbuilt, rfl, fun key => ?_⟩
  rw [Dict.lookup_set, Dict.lookup_setdefault, hnamed, hnamed]
  by_cases hs : key = "status"
  · subst hs
    cases hb : body.lookup "status" <;> simp
  by_cases ho : key = "order_id"
  · subst ho
    cases hb : body.lookup "order_id" <;> simp [List.lookup_cons]
  · have hs' : (key == "status") = false := beq_eq_false_iff_ne.mpr hs
    have ho' : (key == "order_id") = false := beq_eq_false_iff_ne.mpr ho
    simp [hs, ho, List.lookup_cons, hs', ho']

/-- The response to a FAILED record. -/
theorem buildReplayResponse_failed {r : Record} {status : ℤ} {body : Dict}
    (hstate : r.get "state" = .str idemStateFailed)
    (hstatus : r.get "response_status" = .int status) (hne : status ≠ 0)
    (hbody : r.get "response_body" = .obj body) (hfull : body ≠ []) :
    buildReplayResponse r = .ok (status, body.set "idempotent" (.bool true)) := by
  have hnorm : normalizeState (.str idemStateFailed) = idemStateFailed := rfl
  have htruthy : (Json.int status).truthy = true := by simpa [Json.truthy] using hne
  have hempty : body.isEmpty = false := by simpa using hfull
  have hno : idemStateFailed ≠ idemStateSuccess := by decide
  rw [buildReplayResponse, hstate, hnorm, hbody, hstatus]
  simp [hno, Json.dict?, hempty, Json.orElse, htruthy, jsonInt]
  rfl

namespace TerminalCall

theorem text_truthy (t : TerminalCall) (n : ℤ) : (t.text n).truthy = true := by
  cases t <;> rfl

theorem text_not_processing (t : TerminalCall) (n : ℤ) :
    (t.text n).state ≠ idemStateProcessing := by
  cases t with
  | success => rw [text, successRaw_state]; decide
  | failed => rw [text, failedRaw_state]; decide

/-- **The text of an answer is read as the answer.** -/
theorem answers_of_text {t : TerminalCall} (ht : t.Formed) (n ts : ℤ) :
    ∃ answer, buildReplayResponse (readAs (t.text n) ts) = .ok answer ∧ t.Answers answer := by
  cases t with
  | success fp oid status body =>
      obtain ⟨hoid, hfull⟩ := ht
      have hstored : finalizeBody oid body = body := by simp [finalizeBody, hfull]
      have hget : ∀ key, (successRaw n fp oid status (finalizeBody oid body)).data.get key =
          (successRecord n fp oid status body).get key := by
        intro key
        rw [successRaw_get, hstored]
      refine buildReplayResponse_success ?_ ?_ hoid ?_
      · rw [readAs_state, text, successRaw_state]
      · show (normalizeFields _ ts false).get "order_id" = _
        rw [normalizeFields_get_of_ne (by decide) (by decide) (by decide) (by decide), text, hget]
        rfl
      · apply normalizeFields_body
        rw [text, hget]
        rfl
  | failed fp message status body =>
      obtain ⟨hstatus, hfull⟩ := ht
      have hstored : failedBody message body = body := by simp [failedBody, hfull]
      have hget : ∀ key, (failedRaw n fp message status (failedBody message body)).data.get key =
          (failedRecord n fp message status body).get key := by
        intro key
        rw [failedRaw_get, hstored]
      refine ⟨_, buildReplayResponse_failed ?_ ?_ hstatus ?_ hfull, rfl, fun key => ?_⟩
      · rw [readAs_state, text, failedRaw_state]
      · apply normalizeFields_status
        rw [text, hget]
        rfl
      · apply normalizeFields_body
        rw [text, hget]
        rfl
      · exact Dict.lookup_set ..

/-- The call writes no text but its own. -/
def writer (k : String) (t : TerminalCall) : Protocol (HostSig K) Exc where
  mayCall _ o := ∀ ttl v, o = .redis (.setex (.idem k) ttl v) → ∃ n, v = t.text n
  mayReply _ o r := HostReply o r

/-- When the call returns, the last thing it has done is the SETEX. -/
theorem program_obeys (ctx : Ctx K) (k : String) (t : TerminalCall) :
    Obeys (t.writer k) (t.program ctx k) (fun res h => res = .ok () →
      ∃ n h₀, h = setexEvent k ctx.idemTtlSec (t.text n) (.ok ()) :: h₀) [] := by
  have hP : Hosted (t.writer k : Protocol (HostSig K) Exc) := fun _ _ _ hr => hr
  have hidle : Undisturbed (t.writer k : Protocol (HostSig K) Exc) fun _ => True := by
    intro h o _ ho
    refine ⟨?_, fun _ _ => trivial⟩
    rintro ttl v rfl
    cases ho
  have hmay : ∀ (n : ℤ) (ttl : ℤ) (h : HostHistory K),
      (t.writer k).mayCall h (.redis (.setex (.idem k) ttl (t.text n))) := by
    intro n ttl h ttl' v hop
    cases hop
    exact ⟨n, rfl⟩
  cases t with
  | success fp oid status body =>
      refine finalizeIdempotencySuccess_obeys (I := fun _ => True) hP hidle ?_ ?_ trivial
      · exact fun n h _ => ⟨hmay n _ h, fun _ _ => trivial, fun _ _ => ⟨n, h, rfl⟩⟩
      · rintro e h - ⟨⟩
  | failed fp message status body =>
      refine saveFailed_obeys (I := fun _ => True) hP hidle ?_ ?_ trivial
      · exact fun n h _ => ⟨hmay n _ h, fun _ _ => trivial, fun _ _ => ⟨n, h, rfl⟩⟩
      · rintro e h - ⟨⟩

end TerminalCall

/-! ### The round trip -/

/-- The host answers a call as it can. -/
def hosted : Protocol (HostSig K) Exc := ⟨fun _ _ => True, fun _ o r => HostReply o r⟩

theorem loadReplay_obeys (ctx : Ctx K) (k : String) :
    Obeys hosted (loadReplay ctx k) (fun res h =>
      (∀ e, res = .error e → ∃ ev ∈ h, ev.failed = true) ∧ (res = .ok none → Absent k h) ∧
      ∀ answer, res = .ok (some answer) →
        ∃ r, answer = buildReplayResponse r ∧ Loaded ctx k r h) [] := by
  have hreading : Reading (hosted : Protocol (HostSig K) Exc) k fun _ => True :=
    ⟨fun _ _ _ hr => hr, fun _ _ _ _ => ⟨trivial, fun _ _ => trivial⟩,
      fun _ _ => ⟨trivial, fun _ _ => trivial⟩⟩
  have hload := (loadIdempotencyRecord_obeys hreading ctx (h := []) trivial).blame
    (loadIdempotencyRecord_unfailing ctx k)
  refine hload.bind ?_ ?_
  · rintro found h ⟨⟨-, habsent, hloaded⟩, -⟩
    cases found with
    | none => exact ⟨nofun, fun _ => habsent rfl, nofun⟩
    | some r =>
        refine ⟨nofun, nofun, fun answer hanswer => ?_⟩
        obtain rfl := Option.some.inj (Except.ok.inj hanswer)
        exact ⟨r, rfl, hloaded r rfl⟩
  · rintro e h ⟨-, hblame⟩
    refine ⟨?_, nofun, nofun⟩
    rintro e' ⟨⟩
    exact hblame e rfl

section Run

variable {ctx ctx' : Ctx K} {k : String} {t : TerminalCall} {i j : ι}
  {P : HostState K → HostLog K ι → Prop}
  {c₀ c : Config (HostSig K) Exc (Option (Except Exc (ℤ × Dict))) (HostState K) ι}

/-- Programs of which `i` stores the answer `t` under `k` and `j` loads it. -/
structure StoresAndLoads (ctx ctx' : Ctx K) (k : String) (t : TerminalCall) (i j : ι)
    (c₀ : Config (HostSig K) Exc (Option (Except Exc (ℤ × Dict))) (HostState K) ι) : Prop where
  fresh : c₀.log = []
  store : c₀.thread i = (do t.program ctx k; pure none)
  load : c₀.thread j = loadReplay ctx' k

variable (hreach : Reach (hostWorld K) P c₀ c) (hstart : StoresAndLoads ctx ctx' k t i j c₀)

include hreach hstart

/-- What `i` writes under the key is a text of the answer. -/
theorem text_of_write {newer old : HostLog K ι} {w : HostEntry K ι} {ttl : ℤ} {v : Raw}
    {r : Except Exc Unit} (hsplit : c.log = newer ++ w :: old) (hwho : w.who = i)
    (hev : w.event = setexEvent k ttl v r) : ∃ n, v = t.text n := by
  have hobeys : Obeys (t.writer k) (c₀.thread i) (fun _ _ => True) [] := by
    rw [hstart.store]
    exact (t.program_obeys ctx k).bind (fun _ _ _ => trivial) fun _ _ _ => trivial
  have hcall := (hreach.obeys_one (fun _ _ _ _ _ _ hs => hostReply_of_serve hs) hstart.fresh
    hobeys).2 newer w old hsplit hwho
  rw [hev] at hcall
  exact hcall ttl v rfl

/-- An answered `GET` of `j` finds it. -/
theorem text_of_get (hlater : LaterLoad ctx.idemTtlSec k i j c.log) {found : Option Raw}
    (hgot : getEvent k found ∈ own j c.log) : ∃ n, found = some (t.text n) := by
  obtain ⟨e, he, hwho, hev⟩ := mem_own.mp hgot
  obtain ⟨newer, old, hsplit⟩ := List.append_of_mem he
  obtain ⟨mid, w, older, v, rfl, hwriter, hwrite, hkept, hlive⟩ :=
    hlater newer e old found hsplit hwho hev
  have hsplit_w : c.log = (newer ++ e :: mid) ++ w :: older := by simpa using hsplit
  obtain ⟨n, rfl⟩ := text_of_write hreach hstart hsplit_w hwriter hwrite
  refine ⟨n, ?_⟩
  have htraced := hreach.traced hstart.fresh
  rw [hsplit] at htraced
  obtain ⟨hbefore, x, hget⟩ := htraced.before
  -- the SETEX has put the text there, and it still is
  have hslot : e.before.data (.idem k) =
      some ⟨t.text n, some (w.before.now + (ctx.idemTtlSec : K))⟩ := by
    have hsame : e.before.data (.idem k) = w.after.data (.idem k) :=
      hbefore.unchanged (f := fun s => s.data (.idem k))
        (fun s d s' hd => congrFun (steady_data s d s' hd) _) hkept
    obtain ⟨-, y, hset⟩ := hbefore.before
    rw [hwrite] at hset
    rcases serve_redis hset with ⟨-, hafter⟩ | ⟨e', he', -⟩
    · rw [hsame, hafter]
      exact Store.put_self
    · cases he'
  rw [hev] at hget
  rcases serve_redis hget with ⟨hreply, -⟩ | ⟨e', he', -⟩
  · have hfound : found = e.before.data.lookup e.before.now (.idem k) := Except.ok.inj hreply
    rw [hfound, Store.lookup, hslot, live_some, if_pos (alive_some.mpr hlive)]
  · cases he'

/-- The SETEX has reached the server by the time the call returns. -/
theorem stored_of_returned (hend : c.thread i = .ret none) :
    ∃ n newer w old, c.log = newer ++ w :: old ∧ w.who = i ∧
      w.event = setexEvent k ctx.idemTtlSec (t.text n) (.ok ()) ∧ own i newer = [] := by
  have hobeys : Obeys (t.writer k) (c₀.thread i) (fun res h => res = .ok none →
      ∃ n h₀, h = setexEvent k ctx.idemTtlSec (t.text n) (.ok ()) :: h₀) [] := by
    rw [hstart.store]
    refine (t.program_obeys ctx k).bind (fun u h hu => ?_) fun e h _ hres => nomatch hres
    exact fun _ => hu rfl
  have hdone : c.thread i = .ofExcept (.ok none) := hend
  obtain ⟨n, h₀, hown⟩ := hreach.post_one (fun _ _ _ _ _ _ hs => hostReply_of_serve hs)
    hstart.fresh hobeys hdone rfl
  rw [← List.nil_append (_ :: h₀)] at hown
  obtain ⟨newer, w, old, hsplit, hwho, hev, hnewer, -⟩ := own_eq_append hown
  exact ⟨n, newer, w, old, hsplit, hwho, hev, hnewer⟩

/-- **Replay round trip.**  Whoever loads a stored answer within its lifetime, with no
write in between, replays this answer; it raises only when one of its calls has failed. -/
theorem replay_roundTrip (ht : t.Formed) (hlater : LaterLoad ctx.idemTtlSec k i j c.log)
    {res : Except Exc (Option (Except Exc (ℤ × Dict)))} (hend : c.thread j = .ofExcept res) :
    (∃ answer, res = .ok (some (.ok answer)) ∧ t.Answers answer) ∨
      ∃ e, res = .error e ∧ ∃ ev ∈ own j c.log, ev.failed = true := by
  have hobeys := loadReplay_obeys ctx' k
  rw [← hstart.load] at hobeys
  obtain ⟨hblame, habsent, hloaded⟩ := hreach.post_one
    (fun _ _ _ _ _ _ hs => hostReply_of_serve hs) hstart.fresh hobeys hend
  rcases res with e | - | answer
  · exact .inr ⟨e, rfl, hblame e rfl⟩
  · -- the text that is found is there and not empty
    obtain ⟨found, hgot, hfalsy⟩ := habsent rfl
    obtain ⟨n, rfl⟩ := text_of_get hreach hstart hlater hgot
    have hempty := hfalsy _ rfl
    rw [t.text_truthy] at hempty
    cases hempty
  · left
    obtain ⟨r, rfl, raw, hgot, ts, stale, rfl, hjudged⟩ := hloaded answer rfl
    obtain ⟨n, hraw⟩ := text_of_get hreach hstart hlater hgot
    obtain rfl := Option.some.inj hraw
    -- only a PROCESSING record can be too old
    have hstale : stale = false := by
      by_contra hs
      obtain ⟨-, -, -, -, -, -, hproc, -⟩ := hjudged (by simpa using hs)
      exact t.text_not_processing n hproc
    subst hstale
    obtain ⟨answer, hbuilt, hanswers⟩ := TerminalCall.answers_of_text ht n ts
    exact ⟨answer, congrArg (fun a => Except.ok (some a)) hbuilt, hanswers⟩

end Run

/-! ### One round trip -/

/-- A body that has every key the replay could fill in. -/
def awkwardAnswer : TerminalCall :=
  .success "fp" "o-1" 201
    [("idempotent", .bool false), ("status", .str "late"), ("items", .arr [.obj [("n", .int 2)]])]

/-- Client `false` stores the answer, client `true` loads it. -/
def storeAndLoad : Config (HostSig ℚ) Exc (Option (Except Exc (ℤ × Dict))) (HostState ℚ) Bool where
  state := ⟨fun _ => none, 0, []⟩
  thread reads :=
    if reads then loadReplay defaultCtx "k"
    else do awkwardAnswer.program defaultCtx "k"; pure none
  log := []

/-- One after the other, a minute apart. -/
def roundTripRun :
    Option (Config (HostSig ℚ) Exc (Option (Except Exc (ℤ × Dict))) (HostState ℚ) Bool) :=
  storeAndLoad.run (hostWorld ℚ)
    [.call false (.reading 0), .call false .done, .call false .done, .drift (60 : ℚ),
      .call true .done, .call true .done]

theorem roundTripRun_isSome : roundTripRun.isSome = true := by decide +kernel

/-- The key, the lifetime and the text of an answered SETEX. -/
def written (e : HostEntry ℚ Bool) : Option (String × ℤ × Raw) :=
  match e.event with
  | ⟨.redis (.setex (.idem k) ttl v), .ok _⟩ => some (k, ttl, v)
  | _ => none

theorem event_of_written {e : HostEntry ℚ Bool} {k : String} {ttl : ℤ} {v : Raw}
    (h : written e = some (k, ttl, v)) : e.event = setexEvent k ttl v (.ok ()) := by
  unfold written at h
  split at h
  · next hev =>
      cases h
      exact hev
  · cases h

/-- Whether a call gets a record to read. -/
def getsRecord (e : HostEntry ℚ Bool) : Bool :=
  match e.event with
  | ⟨.redis (.get (.idem _)), .ok _⟩ => true
  | _ => false

theorem roundTripRun_length : 2 < (roundTripRun.get roundTripRun_isSome).log.length := by
  decide +kernel

/-- The SETEX of the run. -/
def roundTripWrite : HostEntry ℚ Bool :=
  (roundTripRun.get roundTripRun_isSome).log.get ⟨2, roundTripRun_length⟩

theorem roundTripRun_later :
    LaterLoad defaultCtx.idemTtlSec "k" false true (roundTripRun.get roundTripRun_isSome).log := by
  set l := (roundTripRun.get roundTripRun_isSome).log with hl
  have hsplit : l = l.take 2 ++ roundTripWrite :: l.drop 3 := by
    rw [roundTripWrite, List.get_eq_getElem, ← List.drop_eq_getElem_cons, List.take_append_drop]
  have hwritten : written roundTripWrite =
      some ("k", defaultCtx.idemTtlSec, awkwardAnswer.text 0) := by decide +kernel
  have hwho : roundTripWrite.who = false := by decide +kernel
  have hkept : ((l.take 2).all fun x => x.after.data (.idem "k") == x.before.data (.idem "k")) =
      true := by decide +kernel
  have hlive : ((l.take 2).all fun x =>
      decide (x.before.now < roundTripWrite.before.now + (defaultCtx.idemTtlSec : ℚ))) = true := by
    decide +kernel
  have hnone : ((l.drop 3).all fun x => !getsRecord x) = true := by decide +kernel
  rw [hsplit]
  apply laterLoad_of_write hwho (event_of_written hwritten)
  · exact fun x hx => eq_of_beq (List.all_eq_true.mp hkept x hx)
  · exact fun x hx => of_decide_eq_true (List.all_eq_true.mp hlive x hx)
  · intro x hx _ found hev
    have hno := List.all_eq_true.mp hnone x hx
    rw [getsRecord, hev] at hno
    cases hno

/-- Whether the client has loaded a record. -/
def hasLoaded : Prog (HostSig ℚ) Exc (Option (Except Exc (ℤ × Dict))) → Bool
  | .ret (some _) => true
  | _ => false

/-- The body comes back with all it had, and its `idempotent` turned to true. -/
theorem replay_roundTrip_minute : ∃ answer,
    (roundTripRun.get roundTripRun_isSome).thread true = .ret (some (.ok answer)) ∧
      awkwardAnswer.Answers answer := by
  have hloaded : hasLoaded ((roundTripRun.get roundTripRun_isSome).thread true) = true := by
    decide +kernel
  unfold hasLoaded at hloaded
  split at hloaded
  · next loaded hthread =>
      have hreach : Reach (hostWorld ℚ) (fun _ _ => True) storeAndLoad
          (roundTripRun.get roundTripRun_isSome) :=
        Reach.of_run (Q := fun _ => True) (fun _ _ _ => trivial) (.start trivial)
          (Option.some_get roundTripRun_isSome).symm trivial
      have hclients : StoresAndLoads defaultCtx defaultCtx "k" awkwardAnswer false true
          storeAndLoad := ⟨rfl, rfl, rfl⟩
      have hformed : awkwardAnswer.Formed := ⟨by decide, by simp⟩
      have hend : (roundTripRun.get roundTripRun_isSome).thread true =
          .ofExcept (.ok (some loaded)) := hthread
      rcases replay_roundTrip hreach hclients hformed roundTripRun_later hend with
        ⟨answer, hres, hanswers⟩ | ⟨e, hres, -⟩
      · cases hres
        exact ⟨answer, hthread, hanswers⟩
      · cases hres
  · cases hloaded

end ChaosDemo
