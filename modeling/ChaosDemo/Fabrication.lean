/-
ChaosDemo/Fabrication.lean

The detector of claims that the trace of a case does not support
(ai_platform/evaluation/fabrication.py): actions that a response says were done while
no call of the tool succeeded, order states that no query returned, and identifiers
that occur neither in the question nor in an argument nor in a tool's result.

What counts as a letter or a digit is the Unicode database's; the patterns ask it
through `Unicode`.
-/
import ChaosDemo.Builtins
import ChaosDemo.Regex

namespace ChaosDemo

/-- What the patterns ask the Unicode database: `str.isalnum` and `str.isdecimal`. -/
structure Unicode where
  isAlnum : Char → Bool
  isDecimal : Char → Bool

/-- A character that `\w` matches. -/
def Unicode.isWord (u : Unicode) (c : Char) : Bool := u.isAlnum c || c == '_'

def isUpperAZ (c : Char) : Bool := 'A' ≤ c && c ≤ 'Z'
def isLetterAZ (c : Char) : Bool := isUpperAZ c || ('a' ≤ c && c ≤ 'z')
def isDigit09 (c : Char) : Bool := '0' ≤ c && c ≤ '9'
def isHex (c : Char) : Bool := isDigit09 c || ('a' ≤ c && c ≤ 'f') || ('A' ≤ c && c ≤ 'F')
def isAlnumAZ (c : Char) : Bool := isLetterAZ c || isDigit09 c

/-! ### The patterns -/

/-- `_RETRY_SUFFIX` after its group `base`. -/
def retrySuffix (u : Unicode) : Matcher :=
  .inOrder [.text "_retry_", .many u.isDecimal 1 none, .ending]

/-- An entry of `_ACTION_CLAIMS`. -/
structure ActionClaim where
  action : String
  label : String
  pattern : Matcher
  required : String

/-- `_ACTION_CLAIMS`; each names one required tool. -/
def actionClaims : List ActionClaim :=
  [{ action := "create_order"
     label := "创建订单"
     pattern := .oneOf
       [.text "下单成功",
        .inOrder [.text "订单", .optional (.text "已"), .text "创建成功"],
        .inOrder
          [.text "已", .oneOf [.text "为你", .text "为您"], .optional (.text "成功"),
           .oneOf [.text "创建", .text "下"], .optional (.text "了"),
           .oneOf [.text "订单", .text "单"]]]
     required := "place_order" },
   { action := "cancel_order"
     label := "取消订单"
     pattern := .oneOf
       [.inOrder
          [.oneOf [.text "取消", .text "撤单", .text "撤销"], .oneOf [.text "成功", .text "完成"]],
        .inOrder
          [.text "已", .oneOf [.text "为你", .text "为您"], .optional (.text "成功"),
           .oneOf [.text "取消", .text "撤销", .text "撤单"]]]
     required := "cancel_order" }]

/-- `_STATUS_CLAIM`. -/
def statusClaim : Matcher :=
  .oneOf (["已发货", "已签收", "已支付", "已退款", "待支付", "配送中", "运输中", "派送中"].map
    Matcher.text)

/-- `_STATUS_TOOLS`. -/
def statusTools : List String := ["query_order"]

/-- `_ID_PATTERNS`. -/
def idPatterns (u : Unicode) : List Matcher :=
  let b := Matcher.boundary u.isWord
  let hex n := Matcher.many isHex n (some n)
  [.inOrder [b, .text "AUTO-", .many isAlnumAZ 4 none, b],
   .inOrder
     [b, hex 8, .text "-", hex 4, .text "-", hex 4, .text "-", hex 4, .text "-", hex 12, b],
   .inOrder [b, .many isUpperAZ 2 (some 6), .text "-", .many isAlnumAZ 3 none, b],
   .inOrder [b, .many isUpperAZ 1 (some 3), .many u.isDecimal 4 none, b]]

/-! ### The evidence -/

/-- `FabricationFinding`. -/
structure FabricationFinding where
  kind : String
  detail : String
  evidence : Dict

/-- `as_dict`. -/
def FabricationFinding.asDict (f : FabricationFinding) : Json :=
  .obj [("kind", .str f.kind), ("detail", .str f.detail), ("evidence", .obj f.evidence)]

/-- `base_tool_name`. -/
def baseToolName (u : Unicode) (tool : String) : String :=
  let start := Cursor.start tool
  match (Matcher.few (· != '\n') 1 start).find? fun c => !(retrySuffix u c).isEmpty with
  | some c => start.upTo c
  | none => tool

/-- `_result_ok`. -/
def resultOk (result : Json) : Bool :=
  match result with
  | .obj fields =>
      if Dict.has fields "ok" then (Dict.get fields "ok").truthy
      else
        match Dict.get fields "status_code" with
        | .int status => 200 ≤ status && status < 300
        | _ => false
  | _ => false

/-- The dictionaries among the entries of `case.get("tool_results") or []`. -/
def resultEntries (case : Dict) : Except PyError (List Dict) := do
  let entries ← ((case.get "tool_results").orElse (.arr [])).iter
  pure (entries.filterMap Json.dict?)

/-- Add a name to a set of names. -/
def addName (names : List String) (name : String) : List String :=
  if name ∈ names then names else names ++ [name]

/-- `successful_tools`. -/
def successfulTools (u : Unicode) (case : Dict) : Except PyError (List String) := do
  let entries ← resultEntries case
  pure <| entries.foldl (fun names entry =>
    let tool := ((entry.get "tool").orElse (.str "")).pyStr
    if tool ≠ "" ∧ resultOk (entry.get "result") then addName names (baseToolName u tool)
    else names) []

/-- `observed_tools`. -/
def observedTools (u : Unicode) (case : Dict) : Except PyError (List String) := do
  let called ← ((case.get "called_tools").orElse (.arr [])).iter
  let entries ← resultEntries case
  let names := called.map (fun t => baseToolName u t.pyStr) ++
    entries.map fun entry => baseToolName u ((entry.get "tool").orElse (.str "")).pyStr
  pure ((names.foldl addName []).filter (· ≠ ""))

/-- `has_trace_facts`. -/
def hasTraceFacts (case : Dict) : Bool := (case.get "tool_results").truthy

/-- `grounding_corpus`. -/
def groundingCorpus (case : Dict) : String :=
  withoutBlanks <| " ".intercalate
    [((case.get "input").orElse (.str "")).pyStr,
     ((case.get "called_args").orElse (.obj [])).dumps,
     ((case.get "tool_results").orElse (.arr [])).dumps]

/-! ### The three detectors -/

/-- `_claims_in_response`. -/
def claimsInResponse (response : String) (pattern : Matcher) (userInput : String) :
    List String :=
  let said := (withoutBlanks userInput).toList
  (pattern.findAll response).foldl (fun fragments fragment =>
    -- what the user said is not a claim of the agent
    if textIn (withoutBlanks fragment).toList said then fragments
    else addName fragments fragment) []

/-- The text of a case's input. -/
def userInput (case : Dict) : String := ((case.get "input").orElse (.str "")).pyStr

def namesJson (tools : List String) : Json := .arr (tools.map Json.str)

/-- `_detect_unbacked_actions`, one claim. -/
def unbackedAction (case : Dict) (response : String) (successful observed : List String)
    (claim : ActionClaim) : List FabricationFinding :=
  match claimsInResponse response claim.pattern (userInput case) with
  | [] => []
  | fragment :: _ =>
      if claim.required ∈ successful then []
      else
        let attempted := [claim.required].filter (· ∈ observed)
        [{ kind := "unbacked_action"
           detail :=
             if attempted ≠ [] then
               "回复声明「" ++ fragment ++ "」，但" ++ claim.label ++ "的全部尝试均失败（" ++
                 claim.required ++ "）"
             else "回复声明「" ++ fragment ++ "」，但从未调用 " ++ claim.required
           evidence :=
             [("action", .str claim.action), ("claim", .str fragment),
              ("required_tools", namesJson [claim.required]), ("attempted_tools", namesJson attempted),
              ("successful_tools", namesJson (pySorted successful))] }]

/-- `_detect_unbacked_actions`. -/
def detectUnbackedActions (u : Unicode) (case : Dict) (response : String) :
    Except PyError (List FabricationFinding) := do
  let successful ← successfulTools u case
  let observed ← observedTools u case
  pure (actionClaims.flatMap (unbackedAction case response successful observed))

/-- `_detect_unsupported_status`. -/
def detectUnsupportedStatus (u : Unicode) (case : Dict) (response : String) :
    Except PyError (List FabricationFinding) :=
  match claimsInResponse response statusClaim (userInput case) with
  | [] => pure []
  | fragment :: _ => do
      let successful ← successfulTools u case
      if statusTools.any (· ∈ successful) then pure []
      else do
        let observed ← observedTools u case
        pure
          [{ kind := "unsupported_status_claim"
             detail := "回复断言订单状态「" ++ fragment ++ "」，但没有任何成功的查询（query_order）"
             evidence :=
               [("claim", .str fragment), ("required_tools", namesJson statusTools),
                ("attempted_tools", namesJson (statusTools.filter (· ∈ observed))),
                ("successful_tools", namesJson (pySorted successful))] }]

/-- The identifiers of a response, in the order of the patterns, each once. -/
def identifiers (u : Unicode) (response : String) : List String :=
  ((idPatterns u).flatMap fun pattern => pattern.findAll response).foldl addName []

/-- `_detect_fabricated_ids`. -/
def detectFabricatedIds (u : Unicode) (response corpus : String) : List FabricationFinding :=
  ((identifiers u response).filter fun token =>
      !textIn (withoutBlanks token).toList corpus.toList).map fun token =>
    { kind := "fabricated_id"
      detail := "回复出现标识「" ++ token ++ "」，但工具返回与调用参数中都没有这个值"
      evidence := [("identifier", .str token)] }

/-- `detect_fabrications`. -/
def detectFabrications (u : Unicode) (case : Dict) :
    Except PyError (List FabricationFinding) := do
  let response := ((case.get "final_response").orElse (.str "")).pyStr
  if pyStrip response = "" ∨ hasTraceFacts case = false then pure []
  else do
    let actions ← detectUnbackedActions u case response
    let status ← detectUnsupportedStatus u case response
    pure (actions ++ status ++ detectFabricatedIds u response (groundingCorpus case))

/-- `summarize_findings`, added to the counts so far. -/
def summarizeFindings (counts : List (String × ℕ)) (findings : List FabricationFinding) :
    List (String × ℕ) :=
  findings.foldl (fun counts finding =>
    if counts.any (·.1 == finding.kind) then
      counts.map fun c => if c.1 = finding.kind then (c.1, c.2 + 1) else c
    else counts ++ [(finding.kind, 1)]) counts

end ChaosDemo
