/-
ChaosDemo/OnePlacedOrder.lean

One `place_order` step against a server that creates at most one order for each
idempotency key.

The client draws a new key for every attempt, so the server has no way to tell a retry
from a new order: an attempt whose order was created, and whose answer was turned into an
error status, is made again and creates another.  And an attempt that gets no answer is
taken for a success under an order id that the client makes up.  So the step creates at
most one order, and reports no other, exactly when at most one of its attempts creates an
order and all of them are answered (`onePlacedOrder_iff`).
-/
import ChaosDemo.ToolPath
import ChaosDemo.ToolsClient

namespace ChaosDemo

open CallTree

/-! ### The server -/

/-- The status of an error. -/
structure ErrorStatus where
  code : ℕ
  error : 300 ≤ code

/-- A request that gets no answer; the text is none of the fault injector. -/
structure NoAnswer where
  urlError : Bool
  text : String
  organic : textIn "injected_fault:".toList text.toList = false

def NoAnswer.reply (e : NoAnswer) : HttpReply :=
  if e.urlError then .urlError e.text else .otherError e.text

/-- What the server and the network make of one attempt. -/
inductive Behaviour
  /-- No order, and an error status. -/
  | declined (status : ErrorStatus) (text : String) (body : Option Json)
  /-- No order yet: 202 without an order id. -/
  | pending (body : Dict) (plain : body.has "order_id" = false)
  /-- No order, and no answer. -/
  | unreachable (e : NoAnswer)
  /-- An order, and its id in the answer. -/
  | delivered
  /-- An order, and an answer that cannot be read. -/
  | garbled (text : String)
  /-- An order, and its answer lost or too late. -/
  | lost (e : NoAnswer)
  /-- An order, and its answer turned into an error status. -/
  | turned (status : ErrorStatus) (text : String) (body : Option Json)

/-- An attempt: the fault injector strikes before the request, or the request is sent. -/
inductive Attempt
  | injected
  | sent (b : Behaviour)

/-- An attempt that creates an order. -/
def Attempt.creates : Attempt → Bool
  | .sent .delivered => true
  | .sent (.garbled _) => true
  | .sent (.lost _) => true
  | .sent (.turned _ _ _) => true
  | _ => false

/-- An attempt whose request gets an answer, or that sends none. -/
def Attempt.answered : Attempt → Bool
  | .sent (.unreachable _) => false
  | .sent (.lost _) => false
  | _ => true

/-- An attempt after which the step is over. -/
def Attempt.accepted : Attempt → Bool
  | .injected => false
  | .sent (.declined _ _ _) => false
  | .sent (.turned _ _ _) => false
  | _ => true

/-- What surrounds the client: the uuids, the ids that the server gives its orders, none of
which is made up by a client, and what becomes of each attempt. -/
structure ShopEnv where
  uuids : UuidSource
  orderId : ℕ → String
  genuine : ∀ n uuid, orderId n ≠ fakeOrderId uuid
  attempt : ℕ → Attempt

/-- The uuids that were handed out, the attempts so far, and the orders of the server with
the keys they were placed under, the latest first. -/
structure Shop where
  used : List String
  attempts : ℕ
  orders : List (String × String)

/-- The keys of the server were drawn by its clients. -/
def Shop.KeysDrawn (s : Shop) : Prop := ∀ order ∈ s.orders, order.1 ∈ s.used

namespace ShopEnv

variable (env : ShopEnv)

/-- The server creates an order under a key that it does not know; the id of the order
under the key. -/
def create (s : Shop) (key : String) : String × Shop :=
  match s.orders.lookup key with
  | some orderId => (orderId, s)
  | none =>
      (env.orderId s.orders.length,
        { s with orders := (key, env.orderId s.orders.length) :: s.orders })

/-- The answer to a request, and the orders after it. -/
def respond (s : Shop) (key : String) : Behaviour → HttpReply × Shop
  | .declined status text body => (.httpError status.code text body, s)
  | .pending body _ => (.response 202 (.ok (.obj body)), s)
  | .unreachable e => (e.reply, s)
  | .delivered =>
      let (orderId, s) := env.create s key
      (.response 201 (.ok (.obj [("status", .str "ok"), ("order_id", .str orderId)])), s)
  | .garbled text => (.response 201 (.error text), (env.create s key).2)
  | .lost e => (e.reply, (env.create s key).2)
  | .turned status text body => (.httpError status.code text body, (env.create s key).2)

/-- The calls of the client.  What is no order has no idempotency key or no attempt left, and
is not found. -/
def serve (s : Shop) : (o : HttpSig.Op) → Except PyError (HttpSig.Ret o) × Shop
  | .injectFault _ =>
      match env.attempt s.attempts with
      | .injected => (.ok true, { s with attempts := s.attempts + 1 })
      | .sent _ => (.ok false, s)
  | .uuid4 => (.ok (env.uuids.next s.used), { s with used := env.uuids.next s.used :: s.used })
  | .urlopen request =>
      match env.attempt s.attempts, request.idempotencyKey with
      | .sent b, some key =>
          let (reply, s) := env.respond s key b
          (.ok reply, { s with attempts := s.attempts + 1 })
      | _, _ => (.ok (.response 404 (.ok .null)), { s with attempts := s.attempts + 1 })

end ShopEnv

/-! ### The step -/

/-- The orders that were created on the way from one state to another. -/
def newOrders (before after : Shop) : List (String × String) :=
  after.orders.take (after.orders.length - before.orders.length)

/-- The order id that an answer reports with success. -/
def reportedOrder (res : Dict) : Option Json :=
  match (res.get "body").dict? with
  | some body =>
      if answeredOk res ∧ (Dict.get body "order_id").truthy then some (Dict.get body "order_id")
      else none
  | none => none

/-- At most one order was created, and the reported one is it. -/
def OneOrder (before after : Shop) (reported : Option Json) : Prop :=
  (newOrders before after).length ≤ 1 ∧
    ∀ id, reported = some id → ∃ key text, newOrders before after = [(key, text)] ∧ id = .str text

/-- The result that was noted last. -/
def lastResult (entries : List Dict) : Option Dict :=
  entries.getLast?.bind fun entry => (entry.get "result").dict?

/-- A `place_order` step of `execute_plan`: what it reports, and the server after it. -/
def planStep (env : ShopEnv) (maxRetry : ℤ) (args : Dict) (l : PlanLoop) (s : Shop) :
    Option Json × Shop :=
  let (res, s') := ((l.placeOrder maxRetry args).interp ToolsClient.serve).eval env.serve s
  (match res with
    | .ok l => (lastResult l.toolResults).bind reportedOrder
    | .error _ => none, s')

/-- The same step through the adapter. -/
def adapterStep (env : ShopEnv) (maxRetry : ℤ) (chaosMode : Json) (params : Dict) (s : Shop) :
    Option Json × Shop :=
  let (res, s') := (((legacyAdapter maxRetry chaosMode "place_order").execute params).interp
    ToolsClient.serve).eval env.serve s
  (match res with
    | .ok r => r.result.dict?.bind reportedOrder
    | .error _ => none, s')

/-- Arguments with which the client sends a request. -/
def Sendable (args : Dict) : Prop :=
  ∃ quantity item, (args.getD "quantity" (.int 1)).toInt = .ok quantity ∧ 0 < quantity ∧
    quantity ≤ 999 ∧ itemId (args.getD "item_name" (.str "")) = .ok (some item)

/-- The attempts of a step with `left` retries, from the `n`-th attempt on. -/
def attemptsMade (attempt : ℕ → Attempt) : ℕ → ℕ → List Attempt
  | 0, n => [attempt n]
  | left + 1, n =>
      if (attempt n).accepted then [attempt n]
      else attempt n :: attemptsMade attempt left (n + 1)

/-- At most one of the attempts creates an order, and all of them are answered. -/
def Orderly (made : List Attempt) : Prop :=
  made.countP Attempt.creates ≤ 1 ∧ ∀ a ∈ made, a.answered = true

/-! ### One attempt -/

/-- What is known after an attempt that went from `s` to `s'` and was answered with `res`. -/
structure AttemptSpec (env : ShopEnv) (s : Shop) (a : Attempt) (res : Dict) (s' : Shop) :
    Prop where
  attempts : s'.attempts = s.attempts + 1
  keys : s'.KeysDrawn
  accepted : answeredOk res = a.accepted
  orders : ∃ new, s'.orders = new ++ s.orders ∧ new.length = (if a.creates then 1 else 0) ∧
    (∀ order ∈ new, ∃ n, order.2 = env.orderId n) ∧
    (a.answered = true → ∀ id, reportedOrder res = some id →
      ∃ key text, new = [(key, text)] ∧ id = .str text)
  madeUp : a.answered = false → ∃ uuid, reportedOrder res = some (.str (fakeOrderId uuid))
  readable : bodyReadable res

section Attempts

variable {env : ShopEnv} {s s' : Shop}

theorem lookup_eq_none_of_fresh {key : String} (hkeys : s.KeysDrawn) (hkey : key ∉ s.used) :
    s.orders.lookup key = none := by
  rw [List.lookup_eq_none_iff]
  intro order horder
  have hne : key ≠ order.1 := by
    rintro rfl
    exact hkey (hkeys order horder)
  simpa using hne

/-- The server does not know a key that was not drawn before. -/
theorem create_fresh {key : String} (hkeys : s.KeysDrawn) (hkey : key ∉ s.used) :
    env.create s key = (env.orderId s.orders.length,
      { s with orders := (key, env.orderId s.orders.length) :: s.orders }) := by
  rw [ShopEnv.create, lookup_eq_none_of_fresh hkeys hkey]

/-- The text of a request that was not answered is no injected fault. -/
theorem NoAnswer.outcome_reply (e : NoAnswer) :
    ∃ body : Dict, e.reply.outcome = (0, .obj body) ∧
      (body.get "injected_fault").truthy = false := by
  unfold NoAnswer.reply
  split
  · refine ⟨_, rfl, ?_⟩
    rw [e.organic]
    rfl
  · exact ⟨_, rfl, rfl⟩

/-- The server as a request finds it: two uuids were drawn for it, -/
def ShopEnv.drawn (env : ShopEnv) (s : Shop) : Shop :=
  { s with used := env.uuids.next (env.uuids.next s.used :: s.used) ::
      env.uuids.next s.used :: s.used }

/-- the second of them the idempotency key. -/
def ShopEnv.newKey (env : ShopEnv) (s : Shop) : String :=
  env.uuids.next (env.uuids.next s.used :: s.used)

/-- A request with a body. -/
theorem eval_post {b : Behaviour} (hsent : env.attempt s.attempts = .sent b)
    (method path : String) (body : Dict) :
    (timedHttpJson method path (some body)).eval env.serve s =
      (.ok (env.respond (env.drawn s) (env.newKey s) b).1.outcome,
        { (env.respond (env.drawn s) (env.newKey s) b).2 with
          attempts := (env.respond (env.drawn s) (env.newKey s) b).2.attempts + 1 }) := by
  have hserve : ∀ request : HttpRequest, request.idempotencyKey = some (env.newKey s) →
      (HttpProg.urlopen request).eval env.serve (env.drawn s) =
        (.ok (env.respond (env.drawn s) (env.newKey s) b).1,
          { (env.respond (env.drawn s) (env.newKey s) b).2 with
            attempts := (env.respond (env.drawn s) (env.newKey s) b).2.attempts + 1 }) := by
    intro request hkey
    refine (Prog.eval_perform (S := HttpSig) (.urlopen request) (env.drawn s)).trans ?_
    have hattempt : env.attempt (env.drawn s).attempts = .sent b := hsent
    simp only [ShopEnv.serve, hattempt, hkey]
    rfl
  -- two uuids are drawn, then the request is sent
  show (HttpProg.urlopen _ >>= fun reply => (pure reply.outcome : HttpProg (ℕ × Json))).eval
    env.serve (env.drawn s) = _
  rw [Prog.eval_bind_ok (hserve _ rfl)]
  rfl

theorem eval_injectFault (opName : String) :
    (HttpProg.injectFault opName).eval env.serve s =
      match env.attempt s.attempts with
      | .injected => (.ok true, { s with attempts := s.attempts + 1 })
      | .sent _ => (.ok false, s) := by
  refine (Prog.eval_perform (S := HttpSig) (.injectFault opName) s).trans ?_
  simp only [ShopEnv.serve]
  cases env.attempt s.attempts <;> rfl

/-- The key of a request is new to the server. -/
theorem create_drawn (hkeys : s.KeysDrawn) :
    env.create (env.drawn s) (env.newKey s) = (env.orderId s.orders.length,
      { env.drawn s with
        orders := (env.newKey s, env.orderId s.orders.length) :: s.orders }) := by
  have hfresh : env.newKey s ∉ (env.uuids.next s.used :: s.used) := env.uuids.fresh _
  have hnone : (env.drawn s).orders.lookup (env.newKey s) = none :=
    lookup_eq_none_of_fresh (s := s) hkeys fun hmem => hfresh (List.mem_cons_of_mem _ hmem)
  rw [ShopEnv.create, hnone]
  rfl

/-- The keys of the server were drawn, also after a new order. -/
theorem keysDrawn_drawn (hkeys : s.KeysDrawn) {new : List (String × String)} {used : List String}
    {n : ℕ} (hnew : ∀ order ∈ new, order.1 = env.newKey s)
    (hused : ∀ key ∈ (env.drawn s).used, key ∈ used) :
    Shop.KeysDrawn ⟨used, n, new ++ s.orders⟩ := by
  intro order horder
  apply hused
  rcases List.mem_append.mp horder with h | h
  · rw [hnew order h]
    exact List.mem_cons_self
  · exact List.mem_cons_of_mem _ (List.mem_cons_of_mem _ (hkeys order h))

/-- What `place_order` makes of an answer with an error status. -/
theorem eval_placed_error {address : Json} (status : ErrorStatus) (body : Json) :
    (ToolsClient.placed address status.code body).eval env.serve s =
      (.ok [("ok", .bool false), ("status_code", .int status.code), ("body", body),
        ("address", address)], s) := by
  have h := status.error
  have h₁ : ¬ (status.code = 200 ∨ status.code = 201) := by omega
  have h₂ : ¬ (status.code = 200 ∨ status.code = 201 ∨ status.code = 202) := by omega
  have h₃ : ¬ status.code = 0 := by omega
  simp [ToolsClient.placed, h₁, h₂, h₃]

/-- What it makes of a request without an answer: a success of its own. -/
theorem eval_placed_noAnswer {address : Json} {body : Dict}
    (hinjected : (body.get "injected_fault").truthy = false) :
    (ToolsClient.placed address 0 (.obj body)).eval env.serve s =
      (.ok [("ok", .bool true), ("status_code", .int 201),
        ("body", .obj [("status", .str "ok"),
          ("order_id", .str (fakeOrderId (env.uuids.next s.used))),
          ("offline_fallback", .bool true)]),
        ("address", address), ("error", body.get "error")],
        { s with used := env.uuids.next s.used :: s.used }) := by
  unfold ToolsClient.placed
  simp only [Json.getAttr, Prog.ofExcept, Prog.ret_bind, hinjected]
  rfl

/-- The order of an attempt that creates one. -/
def ShopEnv.orderOf (env : ShopEnv) (s : Shop) (a : Attempt) : List (String × String) :=
  if a.creates then [(env.newKey s, env.orderId s.orders.length)] else []

/-- An attempt in which a request was sent. -/
theorem attemptSpec_of_sent {b : Behaviour} {res : Dict} {used : List String}
    (hkeys : s.KeysDrawn) (hused : ∀ key ∈ (env.drawn s).used, key ∈ used)
    (haccepted : answeredOk res = (Attempt.sent b).accepted)
    (hreport : (Attempt.sent b).answered = true → reportedOrder res = none ∨
      (Attempt.sent b).creates = true ∧
        reportedOrder res = some (.str (env.orderId s.orders.length)))
    (hmade : (Attempt.sent b).answered = false →
      ∃ uuid, reportedOrder res = some (.str (fakeOrderId uuid)))
    (hreadable : bodyReadable res) :
    AttemptSpec env s (.sent b) res
      ⟨used, s.attempts + 1, env.orderOf s (.sent b) ++ s.orders⟩ where
  attempts := rfl
  keys := by
    apply keysDrawn_drawn hkeys _ hused
    intro order horder
    unfold ShopEnv.orderOf at horder
    split at horder
    · rw [List.mem_singleton.mp horder]
    · cases horder
  accepted := haccepted
  orders := by
    refine ⟨env.orderOf s (.sent b), rfl, ?_, ?_, ?_⟩
    · unfold ShopEnv.orderOf
      split <;> rfl
    · intro order horder
      unfold ShopEnv.orderOf at horder
      split at horder
      · rw [List.mem_singleton.mp horder]
        exact ⟨_, rfl⟩
      · cases horder
    · intro hanswered id hid
      rcases hreport hanswered with hnone | ⟨hcreates, hsome⟩
      · rw [hnone] at hid
        cases hid
      · obtain rfl := Option.some.inj (hsome.symm.trans hid)
        exact ⟨_, _, if_pos hcreates, rfl⟩
  madeUp := hmade
  readable := hreadable

theorem reportedOrder_of_not_ok {res : Dict} (h : answeredOk res = false) :
    reportedOrder res = none := by
  unfold reportedOrder
  split
  · rw [if_neg]
    rintro ⟨hok, -⟩
    rw [h] at hok
    cases hok
  · rfl

theorem reportedOrder_of_body {res body : Dict} (hbody : res.get "body" = .obj body)
    (hok : answeredOk res = true) :
    reportedOrder res = if (Dict.get body "order_id").truthy then some (Dict.get body "order_id")
      else none := by
  unfold reportedOrder
  rw [hbody]
  simp only [Json.dict?, hok, true_and]

/-- The server after a request. -/
theorem respond_state (hkeys : s.KeysDrawn) (b : Behaviour) :
    (⟨(env.respond (env.drawn s) (env.newKey s) b).2.used,
      (env.respond (env.drawn s) (env.newKey s) b).2.attempts + 1,
      (env.respond (env.drawn s) (env.newKey s) b).2.orders⟩ : Shop) =
      ⟨(env.drawn s).used, s.attempts + 1, env.orderOf s (.sent b) ++ s.orders⟩ := by
  have hcreate := @create_drawn env _ hkeys
  cases b <;> simp only [ShopEnv.respond, hcreate] <;> rfl

/-- A request without an answer. -/
theorem eval_noAnswer (hkeys : s.KeysDrawn) {b : Behaviour} {e : NoAnswer}
    (hreply : (env.respond (env.drawn s) (env.newKey s) b).1 = e.reply)
    (haccepted : (Attempt.sent b).accepted = true) (hanswered : (Attempt.sent b).answered = false)
    (address : Json) :
    ∃ res s', (ToolsClient.placed address
        (env.respond (env.drawn s) (env.newKey s) b).1.outcome.1
        (env.respond (env.drawn s) (env.newKey s) b).1.outcome.2).eval env.serve
          ⟨(env.drawn s).used, s.attempts + 1, env.orderOf s (.sent b) ++ s.orders⟩ =
        (.ok res, s') ∧ AttemptSpec env s (.sent b) res s' := by
  obtain ⟨body, houtcome, hinjected⟩ := e.outcome_reply
  rw [hreply, houtcome]
  refine ⟨_, _, eval_placed_noAnswer hinjected, attemptSpec_of_sent hkeys ?_ ?_ ?_ ?_ fun _ => rfl⟩
  · exact fun _ h => List.mem_cons_of_mem _ h
  · rw [haccepted]
    rfl
  · intro h
    rw [hanswered] at h
    cases h
  · exact fun _ => ⟨_, rfl⟩

/-- A request that is sent, by what becomes of it. -/
theorem eval_sent (hkeys : s.KeysDrawn) {b : Behaviour} (hsent : env.attempt s.attempts = .sent b)
    (address : Json) (item : String) (quantity : ℤ) :
    ∃ res s', (timedHttpJson "POST" "/order"
        (some [("item_id", .str item), ("quantity", .int quantity)]) >>= fun answer =>
          ToolsClient.placed address answer.1 answer.2).eval env.serve s = (.ok res, s') ∧
      AttemptSpec env s (.sent b) res s' := by
  rw [Prog.eval_bind_ok (eval_post hsent _ _ _)]
  simp only [respond_state hkeys b]
  have hdrawn : ∀ key ∈ (env.drawn s).used, key ∈ (env.drawn s).used := fun _ h => h
  cases b with
  | declined status text body =>
      refine ⟨_, _, eval_placed_error status _, ?_⟩
      exact attemptSpec_of_sent hkeys hdrawn rfl
        (fun _ => .inl (reportedOrder_of_not_ok rfl)) (fun h => by cases h) fun h => by cases h
  | pending body plain =>
      refine ⟨[("ok", .bool true), ("status_code", .int 202), ("body", .obj body),
        ("address", address)], _, rfl, ?_⟩
      refine attemptSpec_of_sent hkeys hdrawn rfl (fun _ => .inl ?_) (fun h => by cases h)
        fun _ => rfl
      rw [reportedOrder_of_body rfl rfl, Dict.get_of_not_has plain]
      rfl
  | unreachable e => exact eval_noAnswer hkeys rfl rfl rfl address
  | delivered =>
      have hreply : (env.respond (env.drawn s) (env.newKey s) .delivered).1.outcome =
          (201, .obj [("status", .str "ok"),
            ("order_id", .str (env.orderId s.orders.length))]) := by
        simp only [ShopEnv.respond, create_drawn hkeys]
        rfl
      rw [hreply]
      refine ⟨[("ok", .bool true), ("status_code", .int 201),
        ("body", .obj [("status", .str "ok"),
          ("order_id", .str (env.orderId s.orders.length))]), ("address", address)], _, rfl, ?_⟩
      refine attemptSpec_of_sent hkeys hdrawn rfl (fun _ => ?_) (fun h => by cases h) fun _ => rfl
      rw [reportedOrder_of_body rfl rfl]
      by_cases htext : env.orderId s.orders.length = ""
      · left
        rw [htext]
        rfl
      · exact .inr ⟨rfl, if_pos (by simpa [Json.truthy, Dict.get_cons] using htext)⟩
  | garbled text =>
      refine ⟨[("ok", .bool true), ("status_code", .int 201), ("body", .obj [("error", .str text)]),
        ("address", address)], _, rfl, ?_⟩
      exact attemptSpec_of_sent hkeys hdrawn rfl (fun _ => .inl rfl) (fun h => by cases h)
        fun _ => rfl
  | lost e => exact eval_noAnswer hkeys rfl rfl rfl address
  | turned status text body =>
      refine ⟨_, _, eval_placed_error status _, ?_⟩
      exact attemptSpec_of_sent hkeys hdrawn rfl
        (fun _ => .inl (reportedOrder_of_not_ok rfl)) (fun h => by cases h) fun h => by cases h

/-- One `place_order` of the client. -/
theorem eval_placeOrder_client (hkeys : s.KeysDrawn) {itemName : Json} {quantity : ℤ}
    {item : String} (hlow : 0 < quantity) (hhigh : quantity ≤ 999)
    (hitem : itemId itemName = .ok (some item)) (address : Json) :
    ∃ res s', (ToolsClient.placeOrder itemName quantity address).eval env.serve s =
        (.ok res, s') ∧ AttemptSpec env s (env.attempt s.attempts) res s' := by
  have hrange : ¬ (quantity ≤ 0 ∨ 999 < quantity) := by omega
  rw [ToolsClient.placeOrder, if_neg hrange, hitem, Prog.ofExcept, Prog.ret_bind]
  cases hattempt : env.attempt s.attempts with
  | injected =>
      have hstrike : (HttpProg.injectFault "place_order").eval env.serve s =
          (.ok true, { s with attempts := s.attempts + 1 }) := by
        rw [eval_injectFault, hattempt]
      refine ⟨injectedAnswer "place_order", { s with attempts := s.attempts + 1 }, ?_,
        ⟨rfl, hkeys, rfl, ⟨[], rfl, rfl, fun _ h => absurd h List.not_mem_nil, ?_⟩,
          fun h => (by cases h), fun h => (by cases h)⟩⟩
      · exact Prog.eval_bind_ok hstrike
      · intro _ id hid
        rw [reportedOrder_of_not_ok rfl] at hid
        cases hid
  | sent b =>
      have hpass : (HttpProg.injectFault "place_order").eval env.serve s = (.ok false, s) := by
        rw [eval_injectFault, hattempt]
      obtain ⟨res, s', heval, hspec⟩ := eval_sent hkeys hattempt address item quantity
      exact ⟨res, s', (Prog.eval_bind_ok hpass).trans heval, hspec⟩

end Attempts

/-! ### The whole step -/

/-- What is known after attempts that went from `s` to `s'`, the last of them answered with
`res`. -/
structure StepSpec (env : ShopEnv) (s : Shop) (made : List Attempt) (res : Dict) (s' : Shop) :
    Prop where
  orders : ∃ last earlier a, s'.orders = last ++ earlier ++ s.orders ∧
    earlier.length + last.length = made.countP Attempt.creates ∧
    (∀ order ∈ last ++ earlier, ∃ n, order.2 = env.orderId n) ∧
    a ∈ made ∧ (∀ b ∈ made, b.answered = false → b = a) ∧
    (a.answered = true → ∀ id, reportedOrder res = some id →
      ∃ key text, last = [(key, text)] ∧ id = .str text) ∧
    (a.answered = false → ∃ uuid, reportedOrder res = some (.str (fakeOrderId uuid)))
  readable : bodyReadable res

section Steps

variable {env : ShopEnv} {s s₁ s' : Shop} {a : Attempt} {res : Dict} {made : List Attempt}

theorem StepSpec.of_attempt (h : AttemptSpec env s a res s') : StepSpec env s [a] res s' := by
  obtain ⟨new, horders, hlen, hgenuine, hreport⟩ := h.orders
  refine ⟨⟨new, [], a, by simpa using horders, ?_, by simpa using hgenuine,
    List.mem_singleton_self a, ?_, hreport, h.madeUp⟩, h.readable⟩
  · rw [List.length_nil, Nat.zero_add, hlen, List.countP_singleton]
  · intro b hb _
    exact List.mem_singleton.mp hb

/-- An attempt that is made again, before the others. -/
theorem StepSpec.cons {res₁ : Dict} (h : AttemptSpec env s a res₁ s₁)
    (hretried : a.accepted = false) (hrest : StepSpec env s₁ made res s') :
    StepSpec env s (a :: made) res s' := by
  obtain ⟨new, horders, hlen, hgenuine, -⟩ := h.orders
  obtain ⟨last, earlier, b, horders', hcount, hgenuine', hmem, hothers, hreport, hmade⟩ :=
    hrest.orders
  have hanswered : a.answered = true := by
    cases a with
    | injected => rfl
    | sent b => cases b <;> first | rfl | cases hretried
  refine ⟨⟨last, earlier ++ new, b, ?_, ?_, ?_, List.mem_cons_of_mem _ hmem, ?_, hreport, hmade⟩,
    hrest.readable⟩
  · rw [horders', horders]
    simp
  · rw [List.length_append, hlen, List.countP_cons]
    omega
  · intro order horder
    rcases List.mem_append.mp horder with hlast | horder
    · exact hgenuine' order (List.mem_append_left _ hlast)
    · rcases List.mem_append.mp horder with hearlier | hnew
      · exact hgenuine' order (List.mem_append_right _ hearlier)
      · exact hgenuine order hnew
  · intro c hc hunanswered
    rcases List.mem_cons.mp hc with rfl | hc
    · rw [hanswered] at hunanswered
      cases hunanswered
    · exact hothers c hc hunanswered

/-- **A step** creates one order at most, and reports no other, exactly when it is orderly. -/
theorem StepSpec.oneOrder_iff (h : StepSpec env s made res s') :
    OneOrder s s' (reportedOrder res) ↔ Orderly made := by
  obtain ⟨last, earlier, a, horders, hcount, hgenuine, hmem, hothers, hreport, hmade⟩ := h.orders
  have hnew : newOrders s s' = last ++ earlier := by
    rw [newOrders, horders, List.length_append, Nat.add_sub_cancel, List.take_left]
  have hlen : (newOrders s s').length = made.countP Attempt.creates := by
    rw [hnew, List.length_append, ← hcount, Nat.add_comm]
  constructor
  · rintro ⟨hone, hreported⟩
    refine ⟨hlen ▸ hone, ?_⟩
    intro b hb
    by_contra hunanswered
    have hb' : b.answered = false := by simpa using hunanswered
    obtain rfl := hothers b hb hb'
    obtain ⟨uuid, hfake⟩ := hmade hb'
    obtain ⟨key, text, hlist, hid⟩ := hreported _ hfake
    -- the server has no order with an id that the client made up
    have horder : (key, text) ∈ last ++ earlier := by
      rw [← hnew, hlist]
      exact List.mem_singleton_self _
    obtain ⟨n, hn⟩ := hgenuine _ horder
    exact env.genuine n uuid (hn.symm.trans (Json.str.inj hid).symm)
  · rintro ⟨hone, hanswered⟩
    refine ⟨hlen ▸ hone, ?_⟩
    intro id hid
    obtain ⟨key, text, hlast, hid⟩ := hreport (hanswered a hmem) id hid
    refine ⟨key, text, ?_, hid⟩
    have hearlier : earlier = [] := by
      apply List.eq_nil_of_length_eq_zero
      rw [hlast] at hcount
      simp only [List.length_cons, List.length_nil] at hcount
      omega
    rw [hnew, hlast, hearlier]
    rfl

end Steps
/-! ### The loops -/

section Loops

variable {env : ShopEnv} {args : Dict} {quantity : ℤ} {item : String} {maxRetry : ℤ}

/-- The client as the loops see it. -/
def ShopEnv.client (env : ShopEnv) (s : Shop) (o : ClientSig.Op) :
    Except PyError (ClientSig.Ret o) × Shop :=
  (ToolsClient.serve o).eval env.serve s

/-- A call of the client in a loop. -/
theorem eval_call_client {α : Type} {s s' : Shop} {itemName address : Json} {i : ℕ} {res : Dict}
    (h : (ToolsClient.placeOrder itemName quantity address).eval env.serve s = (.ok res, s'))
    (f : Dict → ClientProg α) :
    (ClientProg.placeOrder itemName quantity address i >>= f).eval env.client s =
      (f res).eval env.client s' := by
  refine Prog.eval_bind_ok ?_
  exact (Prog.eval_perform (S := ClientSig) (.placeOrder itemName quantity address i) s).trans h

theorem lastResult_append (entries : List Dict) (tool : Json) (res : Dict) :
    lastResult (entries ++ [toolResult tool res]) = some res := by
  simp [lastResult, toolResult, Dict.get_cons, Json.dict?]

theorem getAttr_of_readable {res : Dict} (h : bodyReadable res) (hok : answeredOk res = true) :
    ∃ orderId, (res.getD "body" (.obj [])).getAttr "order_id" = .ok orderId := by
  have hdict := h hok
  cases hbody : res.getD "body" (.obj []) with
  | obj fields => exact ⟨_, rfl⟩
  | _ =>
      rw [hbody] at hdict
      cases hdict

variable (hlow : 0 < quantity) (hhigh : quantity ≤ 999)
  (hitem : itemId (args.getD "item_name" (.str "")) = .ok (some item))

include hlow hhigh hitem

/-- The retries of `execute_plan`. -/
theorem PlanLoop.eval_retries_shop (left : ℕ) :
    ∀ (currentTry : ℕ) (res : Dict) (l : PlanLoop) (s₀ s : Shop),
      AttemptSpec env s₀ (env.attempt s₀.attempts) res s → lastResult l.toolResults = some res →
      ∃ res' l' s', (PlanLoop.retries args quantity left currentTry res l).eval env.client s =
          (.ok (res', l'), s') ∧ lastResult l'.toolResults = some res' ∧
        StepSpec env s₀ (attemptsMade env.attempt left s₀.attempts) res' s' := by
  induction left with
  | zero =>
      intro currentTry res l s₀ s hspec hlast
      exact ⟨res, l, s, rfl, hlast, StepSpec.of_attempt hspec⟩
  | succ left ih =>
      intro currentTry res l s₀ s hspec hlast
      have haccepted := hspec.accepted
      by_cases hok : answeredOk res = true
      · rw [hok] at haccepted
        refine ⟨res, l, s, ?_, hlast, ?_⟩
        · rw [PlanLoop.retries, if_pos hok]
          rfl
        · rw [attemptsMade, if_pos haccepted.symm]
          exact StepSpec.of_attempt hspec
      · rw [Bool.not_eq_true] at hok
        rw [hok] at haccepted
        obtain ⟨res₁, s₁, heval, hspec₁⟩ := eval_placeOrder_client hspec.keys hlow hhigh hitem
          (args.getD "address" (.str ""))
        have hnext := ih (currentTry + 1) res₁
          { l with
            retryCount := l.retryCount + 1
            toolResults := l.toolResults ++ [toolResult (retryName (currentTry + 1)) res₁] }
          s s₁ hspec₁ (lastResult_append _ _ _)
        obtain ⟨res', l', s', hloop, hlast', hstep⟩ := hnext
        refine ⟨res', l', s', ?_, hlast', ?_⟩
        · rw [PlanLoop.retries, if_neg (by rw [hok]; exact Bool.false_ne_true),
            eval_call_client heval]
          exact hloop
        · rw [attemptsMade, if_neg (by rw [← haccepted]; exact Bool.false_ne_true), ← hspec.attempts]
          exact StepSpec.cons hspec haccepted.symm hstep

/-- The retries of the adapter. -/
theorem LegacyToolAdapter.eval_retries_shop
    (hq : (args.getD "quantity" (.int 1)).toInt = .ok quantity) (left : ℕ) :
    ∀ (currentTry : ℕ) (res : Dict) (attempts : List Dict) (s₀ s : Shop),
      AttemptSpec env s₀ (env.attempt s₀.attempts) res s →
      ∃ res' attempts' n s', (LegacyToolAdapter.retries args left currentTry res attempts).eval
          env.client s = (.ok (res', attempts', n), s') ∧
        StepSpec env s₀ (attemptsMade env.attempt left s₀.attempts) res' s' := by
  induction left with
  | zero =>
      intro currentTry res attempts s₀ s hspec
      exact ⟨res, attempts, currentTry, s, rfl, StepSpec.of_attempt hspec⟩
  | succ left ih =>
      intro currentTry res attempts s₀ s hspec
      have haccepted := hspec.accepted
      by_cases hok : answeredOk res = true
      · rw [hok] at haccepted
        refine ⟨res, attempts, currentTry, s, ?_, ?_⟩
        · rw [LegacyToolAdapter.retries, if_pos hok]
          rfl
        · rw [attemptsMade, if_pos haccepted.symm]
          exact StepSpec.of_attempt hspec
      · rw [Bool.not_eq_true] at hok
        rw [hok] at haccepted
        obtain ⟨res₁, s₁, heval, hspec₁⟩ := eval_placeOrder_client hspec.keys hlow hhigh hitem
          (args.getD "address" (.str ""))
        obtain ⟨res', attempts', n, s', hloop, hstep⟩ := ih (currentTry + 1) res₁
          (attempts ++ [toolResult (retryName (currentTry + 1)) res₁]) s s₁ hspec₁
        refine ⟨res', attempts', n, s', ?_, ?_⟩
        · rw [LegacyToolAdapter.retries, if_neg (by rw [hok]; exact Bool.false_ne_true), hq,
            Prog.ofExcept, Prog.ret_bind, eval_call_client heval]
          exact hloop
        · rw [attemptsMade, if_neg (by rw [← haccepted]; exact Bool.false_ne_true), ← hspec.attempts]
          exact StepSpec.cons hspec haccepted.symm hstep

/-- A step of `execute_plan` whose requests are sent. -/
theorem planStep_spec (hq : (args.getD "quantity" (.int 1)).toInt = .ok quantity) {s : Shop}
    (hkeys : s.KeysDrawn) (l : PlanLoop) :
    ∃ res, (planStep env maxRetry args l s).1 = reportedOrder res ∧
      StepSpec env s (attemptsMade env.attempt maxRetry.toNat s.attempts) res
        (planStep env maxRetry args l s).2 := by
  obtain ⟨res₁, s₁, heval, hspec⟩ := @eval_placeOrder_client env _ hkeys _ _ _ hlow hhigh hitem
    (args.getD "address" (.str ""))
  obtain ⟨res, l', s', hloop, hlast, hstep⟩ := PlanLoop.eval_retries_shop hlow hhigh hitem
    maxRetry.toNat 0 res₁ { l with toolResults := l.toolResults ++
      [toolResult (.str "place_order") res₁] } s s₁ hspec (lastResult_append _ _ _)
  have hrun : ∃ l'', (l.placeOrder maxRetry args).eval env.client s = (.ok l'', s') ∧
      l''.toolResults = l'.toolResults := by
    rw [PlanLoop.placeOrder, hq, Prog.ofExcept, Prog.ret_bind, eval_call_client heval,
      Prog.eval_bind_ok hloop]
    by_cases hok : answeredOk res = true
    · obtain ⟨orderId, hattr⟩ := getAttr_of_readable hstep.readable hok
      simp only [if_pos hok, hattr, Prog.ofExcept, Prog.ret_bind]
      exact ⟨_, rfl, rfl⟩
    · simp only [if_neg hok]
      exact ⟨_, rfl, rfl⟩
  obtain ⟨l'', hrun, hresults⟩ := hrun
  have hplan : ((l.placeOrder maxRetry args).interp ToolsClient.serve).eval env.serve s =
      (.ok l'', s') := (Prog.eval_interp _ _ _).trans hrun
  refine ⟨res, ?_, ?_⟩
  · simp only [planStep, hplan, hresults, hlast]
    rfl
  · simp only [planStep, hplan]
    exact hstep

/-- A step of the adapter whose requests are sent. -/
theorem adapterStep_spec (hq : (args.getD "quantity" (.int 1)).toInt = .ok quantity) {s : Shop}
    (hkeys : s.KeysDrawn) (chaosMode : Json) :
    ∃ res, (adapterStep env maxRetry chaosMode args s).1 = reportedOrder res ∧
      StepSpec env s (attemptsMade env.attempt maxRetry.toNat s.attempts) res
        (adapterStep env maxRetry chaosMode args s).2 := by
  obtain ⟨res₁, s₁, heval, hspec⟩ := @eval_placeOrder_client env _ hkeys _ _ _ hlow hhigh hitem
    (args.getD "address" (.str ""))
  obtain ⟨res, attempts, n, s', hloop, hstep⟩ := LegacyToolAdapter.eval_retries_shop hlow hhigh
    hitem hq maxRetry.toNat 0 res₁ [toolResult (.str "place_order") res₁] s s₁ hspec
  have hrun : ∃ r, ((legacyAdapter maxRetry chaosMode "place_order").executePlaceOrder args).eval
      env.client s = (.ok r, s') ∧ r.result = .obj res := by
    rw [LegacyToolAdapter.executePlaceOrder, hq, Prog.ofExcept, Prog.ret_bind,
      eval_call_client heval]
    show ∃ r, (LegacyToolAdapter.retries args maxRetry.toNat 0 res₁
      [toolResult (.str "place_order") res₁] >>= _).eval env.client s₁ = _ ∧ _
    rw [Prog.eval_bind_ok hloop]
    by_cases hok : answeredOk res = true
    · obtain ⟨orderId, hattr⟩ := getAttr_of_readable hstep.readable hok
      simp only [if_pos hok, hattr, Prog.ofExcept, Prog.ret_bind]
      exact ⟨_, rfl, rfl⟩
    · simp only [if_neg hok]
      exact ⟨_, rfl, rfl⟩
  obtain ⟨r, hrun, hresult⟩ := hrun
  have hadapter : (((legacyAdapter maxRetry chaosMode "place_order").execute args).interp
      ToolsClient.serve).eval env.serve s = (.ok r, s') := (Prog.eval_interp _ _ _).trans hrun
  refine ⟨res, ?_, ?_⟩
  · simp only [adapterStep, hadapter, hresult]
    rfl
  · simp only [adapterStep, hadapter]
    exact hstep

end Loops

/-! ### Steps that send nothing -/

section Unsent

variable {env : ShopEnv} {args : Dict} {maxRetry : ℤ}

/-- A client that sends no request says no, or raises. -/
theorem placeOrder_unsent {quantity : ℤ} {itemName : Json}
    (hunsent : ¬ (0 < quantity ∧ quantity ≤ 999 ∧ ∃ item, itemId itemName = .ok (some item)))
    (address : Json) (s : Shop) :
    ∃ res, (ToolsClient.placeOrder itemName quantity address).eval env.serve s = (res, s) ∧
      ∀ answer, res = .ok answer → answeredOk answer = false := by
  unfold ToolsClient.placeOrder
  by_cases hrange : quantity ≤ 0 ∨ 999 < quantity
  · rw [if_pos hrange]
    refine ⟨_, rfl, ?_⟩
    intro answer h
    obtain rfl := Except.ok.inj h
    rfl
  · rw [if_neg hrange]
    cases hitem : itemId itemName with
    | error e =>
        refine ⟨_, rfl, ?_⟩
        intro answer h
        cases h
    | ok found =>
        cases found with
        | none =>
            refine ⟨_, rfl, ?_⟩
            intro answer h
            obtain rfl := Except.ok.inj h
            rfl
        | some item => exact absurd ⟨by omega, by omega, item, hitem⟩ hunsent

/-- The retries of a step that sends nothing, in `execute_plan` -/
theorem PlanLoop.eval_retries_unsent {quantity : ℤ} {answer : Dict} {s : Shop}
    (hcall : (ToolsClient.placeOrder (args.getD "item_name" (.str "")) quantity
      (args.getD "address" (.str ""))).eval env.serve s = (.ok answer, s))
    (hno : answeredOk answer = false) (left : ℕ) :
    ∀ (currentTry : ℕ) (l : PlanLoop), lastResult l.toolResults = some answer →
      ∃ l', (PlanLoop.retries args quantity left currentTry answer l).eval env.client s =
          (.ok (answer, l'), s) ∧ lastResult l'.toolResults = some answer := by
  induction left with
  | zero =>
      intro currentTry l hlast
      exact ⟨l, rfl, hlast⟩
  | succ left ih =>
      intro currentTry l hlast
      rw [PlanLoop.retries, if_neg (by rw [hno]; exact Bool.false_ne_true), eval_call_client hcall]
      exact ih (currentTry + 1) _ (lastResult_append _ _ _)

/-- and in the adapter. -/
theorem LegacyToolAdapter.eval_retries_unsent {quantity : ℤ} {answer : Dict} {s : Shop}
    (hq : (args.getD "quantity" (.int 1)).toInt = .ok quantity)
    (hcall : (ToolsClient.placeOrder (args.getD "item_name" (.str "")) quantity
      (args.getD "address" (.str ""))).eval env.serve s = (.ok answer, s))
    (hno : answeredOk answer = false) (left : ℕ) :
    ∀ (currentTry : ℕ) (attempts : List Dict),
      ∃ attempts' n, (LegacyToolAdapter.retries args left currentTry answer attempts).eval
        env.client s = (.ok (answer, attempts', n), s) := by
  induction left with
  | zero =>
      intro currentTry attempts
      exact ⟨attempts, currentTry, rfl⟩
  | succ left ih =>
      intro currentTry attempts
      rw [LegacyToolAdapter.retries, if_neg (by rw [hno]; exact Bool.false_ne_true), hq,
        Prog.ofExcept, Prog.ret_bind, eval_call_client hcall]
      exact ih (currentTry + 1) _

theorem unsent_of_not_sendable (h : ¬ Sendable args) {quantity : ℤ}
    (hq : (args.getD "quantity" (.int 1)).toInt = .ok quantity) :
    ¬ (0 < quantity ∧ quantity ≤ 999 ∧
      ∃ item, itemId (args.getD "item_name" (.str "")) = .ok (some item)) := by
  rintro ⟨hlow, hhigh, item, hitem⟩
  exact h ⟨quantity, item, hq, hlow, hhigh, hitem⟩

/-- The error of a call ends a loop. -/
theorem eval_call_error {α : Type} {s : Shop} {itemName address : Json} {quantity : ℤ} {i : ℕ}
    {e : PyError}
    (h : (ToolsClient.placeOrder itemName quantity address).eval env.serve s = (.error e, s))
    (f : Dict → ClientProg α) :
    (ClientProg.placeOrder itemName quantity address i >>= f).eval env.client s = (.error e, s) := by
  have hcall : (ClientProg.placeOrder itemName quantity address i).eval env.client s =
      (.error e, s) :=
    (Prog.eval_perform (S := ClientSig) (.placeOrder itemName quantity address i) s).trans h
  rw [Prog.eval_bind, hcall]

theorem planStep_unsent (h : ¬ Sendable args) (l : PlanLoop) (s : Shop) :
    planStep env maxRetry args l s = (none, s) := by
  have hrun : ∃ res, ((l.placeOrder maxRetry args).interp ToolsClient.serve).eval env.serve s =
      (res, s) ∧ ∀ l', res = .ok l' →
        ∃ answer, lastResult l'.toolResults = some answer ∧ answeredOk answer = false := by
    rw [Prog.eval_interp]
    show ∃ res, (l.placeOrder maxRetry args).eval env.client s = (res, s) ∧ _
    cases hq : (args.getD "quantity" (.int 1)).toInt with
    | error e =>
        refine ⟨.error e, ?_, fun _ h => (nomatch h)⟩
        rw [PlanLoop.placeOrder, hq]
        rfl
    | ok quantity =>
        rw [PlanLoop.placeOrder, hq, Prog.ofExcept, Prog.ret_bind]
        obtain ⟨res, hcall, hno⟩ := @placeOrder_unsent env _ _ (unsent_of_not_sendable h hq)
          (args.getD "address" (.str "")) s
        cases res with
        | error e => exact ⟨_, eval_call_error hcall _, fun _ h => (nomatch h)⟩
        | ok answer =>
            have hno' := hno answer rfl
            obtain ⟨l', hloop, hlast⟩ := PlanLoop.eval_retries_unsent hcall hno' maxRetry.toNat 0
              { l with toolResults := l.toolResults ++ [toolResult (.str "place_order") answer] }
              (lastResult_append _ _ _)
            rw [eval_call_client hcall, Prog.eval_bind_ok hloop]
            simp only [hno', Bool.false_eq_true, if_false]
            refine ⟨_, rfl, ?_⟩
            intro l'' hl
            obtain rfl := Except.ok.inj hl
            exact ⟨answer, hlast, hno'⟩
  obtain ⟨res, hrun, hlast⟩ := hrun
  simp only [planStep, hrun]
  cases res with
  | error e => rfl
  | ok l' =>
      obtain ⟨answer, hanswer, hno⟩ := hlast l' rfl
      simp only [hanswer, Option.bind_some, reportedOrder_of_not_ok hno]

theorem adapterStep_unsent (h : ¬ Sendable args) (chaosMode : Json) (s : Shop) :
    adapterStep env maxRetry chaosMode args s = (none, s) := by
  have hrun : ∃ res, (((legacyAdapter maxRetry chaosMode "place_order").execute args).interp
      ToolsClient.serve).eval env.serve s = (res, s) ∧ ∀ r, res = .ok r →
        ∃ answer, r.result = .obj answer ∧ answeredOk answer = false := by
    rw [Prog.eval_interp]
    show ∃ res, ((legacyAdapter maxRetry chaosMode "place_order").executePlaceOrder args).eval
      env.client s = (res, s) ∧ _
    cases hq : (args.getD "quantity" (.int 1)).toInt with
    | error e =>
        refine ⟨.error e, ?_, fun _ h => (nomatch h)⟩
        rw [LegacyToolAdapter.executePlaceOrder, hq]
        rfl
    | ok quantity =>
        rw [LegacyToolAdapter.executePlaceOrder, hq, Prog.ofExcept, Prog.ret_bind]
        obtain ⟨res, hcall, hno⟩ := @placeOrder_unsent env _ _ (unsent_of_not_sendable h hq)
          (args.getD "address" (.str "")) s
        cases res with
        | error e => exact ⟨_, eval_call_error hcall _, fun _ h => (nomatch h)⟩
        | ok answer =>
            have hno' := hno answer rfl
            obtain ⟨attempts, n, hloop⟩ := LegacyToolAdapter.eval_retries_unsent hq hcall hno'
              maxRetry.toNat 0 [toolResult (.str "place_order") answer]
            rw [eval_call_client hcall]
            show ∃ res, (LegacyToolAdapter.retries args maxRetry.toNat 0 answer
              [toolResult (.str "place_order") answer] >>= _).eval env.client s = _ ∧ _
            rw [Prog.eval_bind_ok hloop]
            simp only [hno', Bool.false_eq_true, if_false]
            refine ⟨_, rfl, ?_⟩
            intro r hr
            obtain rfl := Except.ok.inj hr
            exact ⟨answer, rfl, hno'⟩
  obtain ⟨res, hrun, hlast⟩ := hrun
  simp only [adapterStep, hrun]
  cases res with
  | error e => rfl
  | ok r =>
      obtain ⟨answer, hanswer, hno⟩ := hlast r rfl
      simp only [hanswer, Json.dict?, Option.bind_some, reportedOrder_of_not_ok hno]

end Unsent

/-! ### One order -/

theorem oneOrder_refl (s : Shop) : OneOrder s s none := by
  refine ⟨?_, fun _ h => (nomatch h)⟩
  simp [newOrders]

/-- **One placed order.**  A step of either loop creates one order at most, and reports no
other, exactly when it sends nothing, or at most one of its attempts creates an order and
every request is answered. -/
theorem onePlacedOrder_iff {env : ShopEnv} {s : Shop} (hkeys : s.KeysDrawn) (maxRetry : ℤ)
    (args : Dict) (l : PlanLoop) (chaosMode : Json) :
    (OneOrder s (planStep env maxRetry args l s).2 (planStep env maxRetry args l s).1 ↔
      (Sendable args → Orderly (attemptsMade env.attempt maxRetry.toNat s.attempts))) ∧
    (OneOrder s (adapterStep env maxRetry chaosMode args s).2
        (adapterStep env maxRetry chaosMode args s).1 ↔
      (Sendable args → Orderly (attemptsMade env.attempt maxRetry.toNat s.attempts))) := by
  by_cases hsend : Sendable args
  · obtain ⟨quantity, item, hq, hlow, hhigh, hitem⟩ := id hsend
    obtain ⟨res, hres, hspec⟩ := @planStep_spec env _ _ _ maxRetry hlow hhigh hitem
      hq _ hkeys l
    obtain ⟨res', hres', hspec'⟩ := @adapterStep_spec env _ _ _ maxRetry hlow hhigh
      hitem hq _ hkeys chaosMode
    rw [hres, hres', hspec.oneOrder_iff, hspec'.oneOrder_iff]
    exact ⟨⟨fun h _ => h, fun h => h hsend⟩, ⟨fun h _ => h, fun h => h hsend⟩⟩
  · rw [planStep_unsent hsend, adapterStep_unsent hsend]
    have hvacuous : Sendable args → Orderly (attemptsMade env.attempt maxRetry.toNat s.attempts) :=
      fun h => absurd h hsend
    exact ⟨iff_of_true (oneOrder_refl s) hvacuous, iff_of_true (oneOrder_refl s) hvacuous⟩

/-! #### A shop -/

/-- A server that numbers its orders, and what becomes of the attempts. -/
def numberedShop (attempt : ℕ → Attempt) : ShopEnv where
  uuids := .unary
  orderId n := "order-" ++ toString n
  genuine n uuid h := by
    have hhead := congrArg (fun text : String => text.toList.head?) h
    simp [fakeOrderId] at hhead
  attempt := attempt

/-- An order of two colas. -/
def colas : Dict :=
  [("item_name", .str "可乐"), ("quantity", .int 2), ("address", .str "学院路1号")]

def emptyShop : Shop := ⟨[], 0, []⟩

theorem keysDrawn_emptyShop : emptyShop.KeysDrawn := fun _ h => (nomatch h)

/-- The injector strikes once, and then the order is placed. -/
def strikeOnce (n : ℕ) : Attempt := if n = 0 then .injected else .sent .delivered

theorem onePlacedOrder_strikeOnce :
    OneOrder emptyShop (planStep (numberedShop strikeOnce) 2 colas {} emptyShop).2
        (planStep (numberedShop strikeOnce) 2 colas {} emptyShop).1 ∧
      OneOrder emptyShop (adapterStep (numberedShop strikeOnce) 2 (.str "none") colas emptyShop).2
        (adapterStep (numberedShop strikeOnce) 2 (.str "none") colas emptyShop).1 := by
  have horderly : Orderly (attemptsMade strikeOnce 2 0) :=
    ⟨le_of_eq rfl, fun a ha => by
      rcases List.mem_cons.mp ha with rfl | ha
      · rfl
      · rw [List.mem_singleton.mp ha]
        rfl⟩
  have h := @onePlacedOrder_iff (numberedShop strikeOnce) _ keysDrawn_emptyShop 2 colas {}
    (.str "none")
  exact ⟨h.1.mpr fun _ => horderly, h.2.mpr fun _ => horderly⟩

/-- The first order is created, and its answer turned into a 503. -/
def turnedOnce (n : ℕ) : Attempt :=
  if n = 0 then .sent (.turned ⟨503, by decide⟩ "HTTP Error 503" none) else .sent .delivered

/-- The step makes the order again. -/
theorem twoOrders_turnedOnce :
    emptyShop.KeysDrawn ∧
      ¬ OneOrder emptyShop (planStep (numberedShop turnedOnce) 2 colas {} emptyShop).2
        (planStep (numberedShop turnedOnce) 2 colas {} emptyShop).1 ∧
      ¬ OneOrder emptyShop
        (adapterStep (numberedShop turnedOnce) 2 (.str "none") colas emptyShop).2
        (adapterStep (numberedShop turnedOnce) 2 (.str "none") colas emptyShop).1 := by
  have hplan : (newOrders emptyShop
      (planStep (numberedShop turnedOnce) 2 colas {} emptyShop).2).length = 2 := by decide +kernel
  have hadapter : (newOrders emptyShop
      (adapterStep (numberedShop turnedOnce) 2 (.str "none") colas emptyShop).2).length = 2 := by
    decide +kernel
  refine ⟨keysDrawn_emptyShop, ?_, ?_⟩
  · rintro ⟨hone, -⟩
    rw [hplan] at hone
    omega
  · rintro ⟨hone, -⟩
    rw [hadapter] at hone
    omega

end ChaosDemo
