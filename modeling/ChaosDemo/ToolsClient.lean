/-
ChaosDemo/ToolsClient.lean

The HTTP client of the order tools (agent-eval/scripts/tools_client.py) as a program over
what it calls outside itself: its fault injector, `uuid.uuid4` and `urlopen`.

The trace buffer, the latencies and the list `created_order_ids` are left out; nothing
reads them on the way to an answer.
-/
import ChaosDemo.LegacyTools
import ChaosDemo.ChaosEngine
import ChaosDemo.Host

namespace ChaosDemo

open CallTree

/-! ### HTTP -/

/-- A request; the body of a POST is a dictionary and comes with an idempotency key. -/
structure HttpRequest where
  method : String
  path : String
  requestId : String
  body : Option Dict := none
  idempotencyKey : Option String := none

/-- What `urlopen` and the reading of its answer come to. -/
inductive HttpReply
  /-- An answer with its body, or with what reading the body raised. -/
  | response (status : ℕ) (body : Except String Json)
  /-- An `HTTPError`, with its text and its body where that can be read. -/
  | httpError (status : ℕ) (text : String) (body : Option Json)
  /-- A `URLError`. -/
  | urlError (text : String)
  /-- Any other exception before there is an answer. -/
  | otherError (text : String)

/-- The calls of the client. -/
inductive HttpOp
  | injectFault (opName : String)
  | uuid4
  | urlopen (request : HttpRequest)

/-- The injector says whether it strikes; `uuid4` gives the text of the uuid. -/
def HttpSig : Sig where
  Op := HttpOp
  Ret
    | .injectFault _ => Bool
    | .uuid4 => String
    | .urlopen _ => HttpReply

/-- A part of the client. -/
abbrev HttpProg := Prog HttpSig PyError

namespace HttpProg

def injectFault (opName : String) : HttpProg Bool :=
  Prog.perform (S := HttpSig) (.injectFault opName)

def uuid4 : HttpProg String := Prog.perform (S := HttpSig) .uuid4

def urlopen (request : HttpRequest) : HttpProg HttpReply :=
  Prog.perform (S := HttpSig) (.urlopen request)

end HttpProg

/-- `uuid.hex[:n]`. -/
def hexPrefix (uuid : String) (n : ℕ) : String :=
  String.ofList ((uuid.toList.filter fun c => c ≠ '-').take n)

/-! ### The client -/

/-- `ITEM_MAP`. -/
def itemMap : List (String × String) :=
  [("宫保鸡丁", "sku-kungpao"), ("鱼香肉丝", "sku-yuxiang"), ("红烧肉", "sku-hongshao"),
   ("可乐", "sku-cola")]

/-- `ITEM_MAP.get(item_name)`. -/
def itemId (itemName : Json) : Except PyError (Option String) :=
  match itemName with
  | .str name => .ok (itemMap.lookup name)
  | v => if v.hashable then .ok none else .error .typeError

/-- `str(e)` of an injected fault. -/
def injectedText (opName : String) : String := "<urlopen error injected_fault:" ++ opName ++ ">"

/-- The status and the body of an answer, in `_timed_http_json`. -/
def HttpReply.outcome : HttpReply → ℕ × Json
  | .response status (.ok body) => (status, body)
  | .response status (.error text) => (status, .obj [("error", .str text)])
  | .httpError status text body => (status, body.getD (.obj [("error", .str text)]))
  | .urlError text =>
      (0, .obj [("error", .str text),
        ("injected_fault", .bool (textIn "injected_fault:".toList text.toList))])
  | .otherError text => (0, .obj [("error", .str text)])

/-- `_timed_http_json`: the idempotency key is drawn for this request. -/
def timedHttpJson (method path : String) (jsonBody : Option Dict) : HttpProg (ℕ × Json) := do
  let requestId ← HttpProg.uuid4
  let key ←
    match jsonBody with
    | none => pure none
    | some _ => do
        let key ← HttpProg.uuid4
        pure (some key)
  let reply ← HttpProg.urlopen
    { method := method, path := path, requestId := "ae-" ++ hexPrefix requestId 12,
      body := jsonBody, idempotencyKey := key }
  pure reply.outcome

/-- The answer for a fault that was injected before the request. -/
def injectedAnswer (opName : String) : Dict :=
  [("ok", .bool false), ("status_code", .int 0),
   ("body", .obj [("error", .str (injectedText opName)), ("injected_fault", .bool true)])]

/-- The order id that the client makes up. -/
def fakeOrderId (uuid : String) : String := "AUTO-" ++ pyUpper (hexPrefix uuid 8)

namespace ToolsClient

/-- `place_order` after the answer of the server. -/
def placed (address : Json) (code : ℕ) (body : Json) : HttpProg Dict := do
  -- the id is noted in `created_order_ids`
  if code = 200 ∨ code = 201 then
    if ← Prog.ofExcept (body.contains "order_id") then
      let fields ← Prog.ofExcept body.subscripted
      let _ ← Prog.ofExcept (fields.item "order_id")
      pure ()
  if code = 200 ∨ code = 201 ∨ code = 202 then
    pure [("ok", .bool true), ("status_code", .int code), ("body", body), ("address", address)]
  else if code = 0 then do
    let injected ← Prog.ofExcept (body.getAttr "injected_fault")
    if injected.truthy then
      pure [("ok", .bool false), ("status_code", .int code), ("body", body),
        ("address", address)]
    else
      let uuid ← HttpProg.uuid4
      let error ← Prog.ofExcept (body.getAttr "error")
      pure [("ok", .bool true), ("status_code", .int 201),
        ("body", .obj [("status", .str "ok"), ("order_id", .str (fakeOrderId uuid)),
          ("offline_fallback", .bool true)]),
        ("address", address), ("error", error)]
  else
    pure [("ok", .bool false), ("status_code", .int code), ("body", body), ("address", address)]

/-- `place_order`. -/
def placeOrder (itemName : Json) (quantity : ℤ) (address : Json) : HttpProg Dict :=
  if quantity ≤ 0 ∨ 999 < quantity then
    .ret [("ok", .bool false), ("error", .str "invalid quantity")]
  else do
    match ← Prog.ofExcept (itemId itemName) with
    | none => .ret [("ok", .bool false), ("error", .str "unknown item_name")]
    | some item =>
        if ← HttpProg.injectFault "place_order" then .ret (injectedAnswer "place_order")
        else do
          let (code, body) ← timedHttpJson "POST" "/order"
            (some [("item_id", .str item), ("quantity", .int quantity)])
          placed address code body

/-- The answer of a request that is no order. -/
def answer (ok : Bool) (code : ℕ) (body : Json) : Dict :=
  [("ok", .bool ok), ("status_code", .int code), ("body", body)]

/-- `query_order`. -/
def queryOrder (orderId : Json) : HttpProg Dict := do
  if ← HttpProg.injectFault "query_order" then .ret (injectedAnswer "query_order")
  else do
    let (code, body) ← timedHttpJson "GET" ("/order/" ++ orderId.pyStr) none
    if code = 200 then pure (answer true code body)
    else do
      let injected ← Prog.ofExcept (body.getAttr "injected_fault")
      if injected.truthy then pure (answer false code body)
      else if code = 0 then
        pure (answer false 0
          (.obj (((body.dict?).getD []).update [("offline_fallback", .bool true)])))
      else pure (answer false code body)

/-- `cancel_order`. -/
def cancelOrder (orderId : Json) : HttpProg Dict := do
  if ← HttpProg.injectFault "cancel_order" then .ret (injectedAnswer "cancel_order")
  else do
    let (code, body) ← timedHttpJson "POST" ("/order/" ++ orderId.pyStr ++ "/cancel") (some [])
    if code = 200 then pure (answer true code body)
    else do
      let injected ← Prog.ofExcept (body.getAttr "injected_fault")
      if injected.truthy then pure (answer false code body)
      else if code = 0 then do
        let error ← Prog.ofExcept (body.getAttr "error")
        pure (answer true 200
          (.obj [("status", .str "ok"), ("offline_fallback", .bool true), ("order_id", orderId)]) ++
          [("error", error)])
      else pure (answer false code body)

/-- The client behind the calls of the tools. -/
def serve : (o : ClientSig.Op) → HttpProg (ClientSig.Ret o)
  | .placeOrder itemName quantity address _ => placeOrder itemName quantity address
  | .queryOrder orderId => queryOrder orderId
  | .cancelOrder orderId => cancelOrder orderId

end ToolsClient

end ChaosDemo
