/-
ChaosDemo/RulePlanner.lean

The planner by rules of the legacy evaluation (agent-eval/scripts/run_agent_eval.py).  It
takes the arguments of an order out of the text with regular expressions, and asks for
words of the text, one test after the other.

A plan has one of four shapes (`ruleShape_rulePlan`), with arguments that were found in
the text, so `validate_plan` only adds its flag.  The steps of a workflow are meant to
stand in the order of the first word for a cancellation and the first word for a query.
But where the other word for a query, `查一下`, stands is not asked, so in

    查一下 … 取消 … 查询

the two are the wrong way round, and in no other text (`faithfulPlan_rulePlan_iff`).

What `\d` matches, and the value of such digits, are parameters.
-/
import ChaosDemo.PlanGate
import ChaosDemo.PyText
import ChaosDemo.RegexLanguage

namespace ChaosDemo

/-! ### Arguments in a text -/

/-- `word in text`. -/
def hasText (word text : String) : Bool := textIn word.toList text.toList

/-- `text.find(word)`, where it is not negative. -/
def findText (word text : String) : Option ℕ :=
  text.toList.tails.findIdx? fun rest => word.toList.isPrefixOf rest

/-- The arguments that `parse_args_from_text` finds. -/
structure TextArgs where
  orderId : Option String
  quantity : Option ℤ
  itemName : Option String
  address : Option String

section Planner

variable (decimal : Char → Bool) (intOf : String → ℤ)

/-- `A\d{4,}`, its letter in either case. -/
def orderIdPattern : Matcher :=
  .inOrder [.many (fun c => c = 'A' || c = 'a') 1 (some 1), .many decimal 4 none]

/-- `(\d+)\s*件|数量\s*(\d+)`, by the group that is there. -/
def quantityAt (c : Cursor) : Option String :=
  let pieces := (Matcher.many decimal 1 none c).find? fun d =>
    !(Matcher.inOrder [.many pyIsSpace 0 none, .text "件"] d).isEmpty
  match pieces with
  | some d => some (c.upTo d)
  | none =>
      (Matcher.inOrder [.text "数量", .many pyIsSpace 0 none] c).findSome? fun d =>
        (Matcher.many decimal 1 none).firstText d

/-- `[\u4e00-\u9fa5A-Za-z0-9\-]`. -/
def addressChar (c : Char) : Bool :=
  ('\u4e00' ≤ c && c ≤ '\u9fa5') || c.isAlphanum || c = '-'

/-- `[\u4e00-\u9fa5A-Za-z0-9\-]{2,20}号`. -/
def addressPattern : Matcher := .inOrder [.many addressChar 2 (some 20), .text "号"]

/-- A word in front of an address, and a colon. -/
def leadWord (word : String) : Matcher :=
  .inOrder [.text word, .many (fun c => c = '：') 0 (some 1)]

/-- `^.*?(?:收货地址是：?|地址是：?|地址：?|送到)`. -/
def leadIn : Matcher :=
  .inOrder [.few (fun c => c ≠ '\n') 0,
    .oneOf [leadWord "收货地址是", leadWord "地址是", leadWord "地址", .text "送到"]]

/-- The address without what leads in to it. -/
def stripLeadIn (raw : String) : String :=
  match (leadIn (.start raw)).head? with
  | some d => String.ofList d.after
  | none => raw

/-- The items that are known. -/
def knownItems : List String := ["宫保鸡丁", "鱼香肉丝", "红烧肉", "可乐"]

/-- `parse_args_from_text`. -/
def parseArgsFromText (text : String) : TextArgs where
  orderId := (search (orderIdPattern decimal).firstText text).map pyUpper
  quantity := (search (quantityAt decimal) text).map intOf
  itemName := knownItems.find? fun item => hasText item text
  address :=
    if hasText "号" text then (search addressPattern.firstText text).map stripLeadIn else none

/-! ### Plans -/

/-- A plan, or a step, of one tool. -/
def plainAction (tool : String) (args : Dict) : Dict :=
  [("tool", .str tool), ("args", .obj args)]

def askPlan (reason : String) : Dict := plainAction "ask_user" [("reason", .str reason)]

def orderPlan (tool orderId : String) : Dict := plainAction tool [("order_id", .str orderId)]

/-- The position of the first of some words. -/
def firstOf (words : List String) (text : String) : Option ℕ :=
  (words.filterMap fun word => findText word text).min?

/-- The words for a cancellation. -/
def cancelWords : List String := ["取消", "退单"]

/-- `text.find("查询") < cancel_pos`. -/
def queryFirst (text : String) : Bool :=
  match findText "查询" text, firstOf cancelWords text with
  | some q, some c => q < c
  | _, _ => false

/-- A cancellation and a query. -/
def bothSteps (orderId text : String) : List Json :=
  let steps := [Json.obj (orderPlan "cancel_order" orderId), .obj (orderPlan "query_order" orderId)]
  if queryFirst text then steps.reverse else steps

def bothPlan (orderId text : String) : Dict :=
  [("tool", .str "workflow"), ("steps", .arr (bothSteps orderId text))]

/-- The plan of a text with a word for a cancellation. -/
def cancelPlan (orderId : Option String) (text : String) : Dict :=
  match orderId with
  | some id => if hasText "查询" text then bothPlan id text else orderPlan "cancel_order" id
  | none => askPlan "missing args"

/-- The plan of a text with a word for a query. -/
def queryPlan (orderId : Option String) : Dict :=
  match orderId with
  | some id => orderPlan "query_order" id
  | none => askPlan "missing args"

/-- The plan of a text with a word for an order. -/
def placePlan (args : TextArgs) : Dict :=
  match args.itemName, args.address with
  | some item, some address =>
      plainAction "place_order"
        [("item_name", .str item), ("quantity", .int (args.quantity.getD 1)),
         ("address", .str address)]
  | _, _ => askPlan "missing args"

/-- `[能会可以]+\s*(?:下单|查|取消|订)[^?？。！]{0,6}(?:[?？]|吗)`. -/
def abilityQuestion : Matcher :=
  .inOrder [.many (fun c => c ∈ ['能', '会', '可', '以']) 1 none, .many pyIsSpace 0 none,
    .oneOf [.text "下单", .text "查", .text "取消", .text "订"],
    .many (fun c => c ∉ ['?', '？', '。', '！']) 0 (some 6),
    .oneOf [.many (fun c => c ∈ ['?', '？']) 1 (some 1), .text "吗"]]

/-- `attack_markers`. -/
def attackMarkers (text : String) : Bool :=
  hasText "9999999" text || hasText "DROP TABLE" text || hasText "别猜id" text

/-- `rule_plan`. -/
def rulePlan (text : String) : Dict :=
  let args := parseArgsFromText decimal intOf text
  if hasText "火星" text then askPlan "unsupported destination"
  else if (search abilityQuestion.firstText text).isSome then askPlan "unknown intent"
  else if attackMarkers text &&
      !(args.orderId.isSome && (hasText "查询" text || hasText "取消" text)) then
    askPlan "invalid or missing args"
  else if hasText "取消" text || hasText "退单" text then cancelPlan args.orderId text
  else if hasText "查询" text || hasText "查一下" text then queryPlan args.orderId
  else if hasText "下单" text || hasText "订外卖" text then placePlan args
  else askPlan "unknown intent"

/-! ### What is found is in the text -/

/-- The upper-cased form of an `A` with at least four digits that occurs in the text. -/
def OrderIdFrom (text id : String) : Prop :=
  ∃ a digits, (a = 'A' ∨ a = 'a') ∧ 4 ≤ digits.length ∧ (∀ d ∈ digits, decimal d = true) ∧
    a :: digits <:+: text.toList ∧ id = pyUpper (String.ofList (a :: digits))

/-- A part of the text that ends in `号`. -/
def AddressFrom (text address : String) : Prop :=
  address.toList <:+: text.toList ∧ address.toList.getLast? = some '号'

variable {decimal intOf} {text : String}

theorem hasText_iff {word : String} : hasText word text = true ↔ word.toList <:+: text.toList :=
  textIn_iff

theorem findText_isSome {word : String} (h : hasText word text = true) :
    (findText word text).isSome = true := by
  rw [findText, List.findIdx?_isSome]
  exact h

/-- One of the words that is there has a first position. -/
theorem exists_firstOf {words : List String} {word : String} (hmem : word ∈ words)
    (h : hasText word text = true) : ∃ p, firstOf words text = some p := by
  obtain ⟨q, hq⟩ := Option.isSome_iff_exists.mp (findText_isSome h)
  apply Option.ne_none_iff_exists'.mp
  intro hnone
  have hnil := List.min?_eq_none_iff.mp hnone
  have hq : q ∈ words.filterMap fun word => findText word text :=
    List.mem_filterMap.mpr ⟨word, hmem, hq⟩
  rw [hnil] at hq
  cases hq

theorem orderIdFrom_of_parse {id : String}
    (h : (parseArgsFromText decimal intOf text).orderId = some id) :
    OrderIdFrom decimal text id := by
  obtain ⟨found, hfound, rfl⟩ := Option.map_eq_some_iff.mp h
  have hreads : (orderIdPattern decimal).Reads _ :=
    Matcher.reads_inOrder_cons (Matcher.reads_many _ _ _)
      (Matcher.reads_inOrder_cons (Matcher.reads_many _ _ _) Matcher.reads_inOrder_nil)
  obtain ⟨hword, hinfix⟩ := hreads.search_firstText hfound
  rw [mul_one] at hword
  obtain ⟨letter, ⟨hletter, hone, hmost⟩, digits, ⟨hdigits, hfour, -⟩, heq⟩ :=
    Language.mem_mul.mp hword
  obtain ⟨a, rfl⟩ := List.length_eq_one_iff.mp (le_antisymm (hmost 1 rfl) hone)
  have ha : a = 'A' ∨ a = 'a' := by simpa using hletter a List.mem_cons_self
  refine ⟨a, digits, ha, hfour, hdigits, ?_, ?_⟩
  · rw [← heq] at hinfix
    exact hinfix
  · show pyUpper found = pyUpper (String.ofList ([a] ++ digits))
    rw [heq, String.ofList_toList]

/-! #### The address -/

/-- The words that do not end in `号`. -/
def notEndingHao : Language Char := {w | ∃ c, w.getLast? = some c ∧ c ≠ '号'}

theorem mul_le_notEndingHao {L K : Language Char} (h : K ≤ notEndingHao) :
    L * K ≤ notEndingHao := by
  intro w hw
  obtain ⟨u, -, v, hv, rfl⟩ := Language.mem_mul.mp hw
  obtain ⟨c, hlast, hne⟩ := h hv
  refine ⟨c, ?_, hne⟩
  show (u ++ v).getLast? = some c
  rw [List.getLast?_append, hlast]
  rfl

theorem reads_leadWord {word : String} {c : Char} (hlast : word.toList.getLast? = some c)
    (hne : c ≠ '号') : (leadWord word).Reads notEndingHao := by
  have hreads : (leadWord word).Reads _ :=
    Matcher.reads_inOrder_cons (Matcher.reads_text word)
      (Matcher.reads_inOrder_cons (Matcher.reads_many _ _ _) Matcher.reads_inOrder_nil)
  apply hreads.mono
  rw [mul_one]
  intro w hw
  obtain ⟨u, rfl, v, ⟨hcolon, -, -⟩, rfl⟩ := Language.mem_mul.mp hw
  cases hv : v.getLast? with
  | none =>
      -- no colon
      obtain rfl := List.getLast?_eq_none_iff.mp hv
      rw [List.append_nil]
      exact ⟨c, hlast, hne⟩
  | some d =>
      refine ⟨d, ?_, ?_⟩
      · show (word.toList ++ v).getLast? = some d
        rw [List.getLast?_append, hv]
        rfl
      · have hd : d = '：' := by simpa using hcolon d (List.mem_of_getLast? hv)
        rw [hd]
        decide

/-- What leads in to an address does not end in `号`. -/
theorem reads_leadIn : leadIn.Reads notEndingHao := by
  have hwords : (Matcher.oneOf [leadWord "收货地址是", leadWord "地址是", leadWord "地址",
      .text "送到"]).Reads notEndingHao := by
    apply Matcher.reads_oneOf
    intro m hm
    simp only [List.mem_cons, List.not_mem_nil, or_false] at hm
    rcases hm with rfl | rfl | rfl | rfl
    · exact reads_leadWord (c := '是') rfl (by decide)
    · exact reads_leadWord (c := '是') rfl (by decide)
    · exact reads_leadWord (c := '址') rfl (by decide)
    · apply (Matcher.reads_text "送到").mono
      rintro w rfl
      exact ⟨'到', rfl, by decide⟩
  have hreads : leadIn.Reads _ :=
    Matcher.reads_inOrder_cons (Matcher.reads_few _ _)
      (Matcher.reads_inOrder_cons hwords Matcher.reads_inOrder_nil)
  apply hreads.mono
  rw [mul_one]
  exact mul_le_notEndingHao le_rfl

theorem stripLeadIn_ends {raw : String} (h : raw.toList.getLast? = some '号') :
    (stripLeadIn raw).toList <:+ raw.toList ∧ (stripLeadIn raw).toList.getLast? = some '号' := by
  rw [stripLeadIn]
  split
  · next d hd =>
      obtain ⟨w, ⟨c, hlast, hne⟩, rest, hraw, rfl⟩ := reads_leadIn _ d (List.mem_of_head? hd)
      have hraw : raw.toList = w ++ rest := hraw
      rw [String.toList_ofList]
      refine ⟨⟨w, hraw.symm⟩, ?_⟩
      rw [hraw, List.getLast?_append] at h
      cases hrest : rest.getLast? with
      | some e =>
          rw [hrest] at h
          exact h
      | none =>
          -- then the whole text would lead in
          rw [hrest, hlast] at h
          exact absurd (Option.some.inj h) hne
  · exact ⟨List.suffix_refl _, h⟩

theorem addressFrom_of_parse {address : String}
    (h : (parseArgsFromText decimal intOf text).address = some address) :
    AddressFrom text address := by
  have hsome : (search addressPattern.firstText text).map stripLeadIn = some address := by
    by_cases hhao : hasText "号" text = true
    · rwa [parseArgsFromText, if_pos hhao] at h
    · rw [parseArgsFromText, if_neg hhao] at h
      cases h
  obtain ⟨raw, hraw, rfl⟩ := Option.map_eq_some_iff.mp hsome
  have hreads : addressPattern.Reads _ :=
    Matcher.reads_inOrder_cons (Matcher.reads_many _ _ _)
      (Matcher.reads_inOrder_cons (Matcher.reads_text "号") Matcher.reads_inOrder_nil)
  obtain ⟨hword, hinfix⟩ := hreads.search_firstText hraw
  rw [mul_one] at hword
  obtain ⟨body, -, hao, rfl, heq⟩ := Language.mem_mul.mp hword
  have hends : raw.toList.getLast? = some '号' := by
    rw [← heq, List.getLast?_append]
    rfl
  obtain ⟨hsuffix, hlast⟩ := stripLeadIn_ends hends
  exact ⟨hsuffix.isInfix.trans hinfix, hlast⟩

theorem item_of_parse {item : String}
    (h : (parseArgsFromText decimal intOf text).itemName = some item) :
    item ∈ knownItems ∧ item.toList <:+: text.toList := by
  have hfind : knownItems.find? (fun item => hasText item text) = some item := h
  have hin := List.find?_some hfind
  exact ⟨List.mem_of_find?_eq_some hfind, hasText_iff.mp hin⟩

/-! ### The shapes of a plan -/

variable (decimal text) in
/-- A text that asks for a cancellation and for a query of an order, in none of the forms
that are turned down first. -/
structure BothAsked : Prop where
  onEarth : hasText "火星" text = false
  noQuestion : search abilityQuestion.firstText text = none
  orderId : (search (orderIdPattern decimal).firstText text).isSome = true
  cancel : (hasText "取消" text || hasText "退单" text) = true
  query : hasText "查询" text = true

variable (decimal text) in
/-- What `rule_plan` can give. -/
inductive RuleShape : Dict → Prop
  | ask (reason : String) : RuleShape (askPlan reason)
  | order {tool id : String} (htool : tool = "query_order" ∨ tool = "cancel_order")
      (hid : OrderIdFrom decimal text id) : RuleShape (orderPlan tool id)
  | both {id : String} (hid : OrderIdFrom decimal text id) (hboth : BothAsked decimal text) :
      RuleShape (bothPlan id text)
  | place {item address : String} (quantity : ℤ) (hknown : item ∈ knownItems)
      (hitem : item.toList <:+: text.toList) (haddress : AddressFrom text address) :
      RuleShape (plainAction "place_order"
        [("item_name", .str item), ("quantity", .int quantity), ("address", .str address)])

theorem ruleShape_queryPlan :
    RuleShape decimal text (queryPlan (parseArgsFromText decimal intOf text).orderId) := by
  cases hid : (parseArgsFromText decimal intOf text).orderId with
  | none => exact .ask "missing args"
  | some id => exact .order (.inl rfl) (orderIdFrom_of_parse hid)

theorem ruleShape_placePlan :
    RuleShape decimal text (placePlan (parseArgsFromText decimal intOf text)) := by
  rw [placePlan]
  split
  · next item address hitem haddress =>
      obtain ⟨hknown, hin⟩ := item_of_parse hitem
      exact .place _ hknown hin (addressFrom_of_parse haddress)
  · exact .ask "missing args"

theorem ruleShape_cancelPlan (honEarth : hasText "火星" text = false)
    (hnoQuestion : search abilityQuestion.firstText text = none)
    (hcancel : (hasText "取消" text || hasText "退单" text) = true) :
    RuleShape decimal text
      (cancelPlan (parseArgsFromText decimal intOf text).orderId text) := by
  cases hid : (parseArgsFromText decimal intOf text).orderId with
  | none => exact .ask "missing args"
  | some id =>
      have hfrom := orderIdFrom_of_parse hid
      by_cases hquery : hasText "查询" text = true
      · have hsome : (search (orderIdPattern decimal).firstText text).isSome = true := by
          obtain ⟨found, hfound, -⟩ := Option.map_eq_some_iff.mp hid
          rw [hfound]
          rfl
        rw [cancelPlan, if_pos hquery]
        exact .both hfrom ⟨honEarth, hnoQuestion, hsome, hcancel, hquery⟩
      · rw [cancelPlan, if_neg hquery]
        exact .order (.inr rfl) hfrom

variable (decimal intOf text) in
/-- **A plan has one of the four shapes.** -/
theorem ruleShape_rulePlan : RuleShape decimal text (rulePlan decimal intOf text) := by
  rw [rulePlan]
  split
  · exact .ask _
  · next hearth =>
      split
      · exact .ask _
      · next hquestion =>
          split
          · exact .ask _
          · split
            · next hcancel =>
                exact ruleShape_cancelPlan (Bool.eq_false_iff.mpr hearth)
                  (Option.not_isSome_iff_eq_none.mp hquestion) hcancel
            · split
              · exact ruleShape_queryPlan
              · split
                · exact ruleShape_placePlan
                · exact .ask _

/-- Where both are asked for, the plan is the workflow. -/
theorem rulePlan_of_bothAsked (h : BothAsked decimal text) :
    ∃ id, OrderIdFrom decimal text id ∧ rulePlan decimal intOf text = bothPlan id text := by
  obtain ⟨found, hfound⟩ := Option.isSome_iff_exists.mp h.orderId
  have hid : (parseArgsFromText decimal intOf text).orderId = some (pyUpper found) := by
    show (search _ _).map pyUpper = _
    rw [hfound, Option.map_some]
  refine ⟨pyUpper found, orderIdFrom_of_parse hid, ?_⟩
  simp only [rulePlan, h.onEarth, h.noQuestion, h.query, h.cancel, hid, Option.isSome_some,
    Option.isSome_none, Bool.false_eq_true, if_false, Bool.true_or, Bool.and_self,
    Bool.not_true, Bool.and_false, if_true, cancelPlan]

/-! ### FaithfulPlan plans -/

/-- The words for a query. -/
def queryWords : List String := ["查询", "查一下"]

/-- An action of a plan: its tool with its arguments. -/
def HasAction (plan : Dict) (tool : String) (args : Dict) : Prop :=
  ∃ fields, Json.obj fields ∈ planActions plan ∧ fields.lookup "tool" = some (.str tool) ∧
    fields.lookup "args" = some (.obj args)

/-- The tool of a step. -/
def stepTool : Json → Json
  | .obj step => Dict.get step "tool"
  | _ => .null

/-- The tools of the steps, in the order of the first word for each. -/
def StepsOrdered (text : String) (steps : List Json) : Prop :=
  ∃ c q, firstOf cancelWords text = some c ∧ firstOf queryWords text = some q ∧
    steps.map stepTool = (if q < c then ["query_order", "cancel_order"]
      else ["cancel_order", "query_order"]).map Json.str

variable (decimal text) in
/-- A plan that the validation keeps, with arguments that are in the text and steps in the
order of the text. -/
structure FaithfulPlan (plan : Dict) : Prop where
  valid : validatePlan (.obj plan) = .ok (plan ++ [("_planner_valid", .bool true)])
  orderIds : ∀ tool args v, HasAction plan tool args → args.lookup "order_id" = some v →
    ∃ id, v = .str id ∧ OrderIdFrom decimal text id
  placed : ∀ args, HasAction plan "place_order" args →
    ∃ item address, args.lookup "item_name" = some (.str item) ∧ item.toList <:+: text.toList ∧
      args.lookup "address" = some (.str address) ∧ AddressFrom text address
  ordered : ∀ steps, plan.get "tool" = .str "workflow" → plan.get "steps" = .arr steps →
    StepsOrdered text steps

/-- `查一下` stands before the first word for a cancellation, and `查询` behind it. -/
def QueriedEarlier (text : String) : Prop :=
  ∃ c q q', firstOf cancelWords text = some c ∧ findText "查询" text = some q ∧
    findText "查一下" text = some q' ∧ q' < c ∧ c ≤ q

/-! #### Plans of one tool -/

theorem hasAction_plainAction {tool tool' : String} {args args' : Dict}
    (hne : tool ≠ "workflow") (h : HasAction (plainAction tool args) tool' args') :
    tool' = tool ∧ args' = args := by
  obtain ⟨fields, hmem, htool, hargs⟩ := h
  have hactions : planActions (plainAction tool args) = [.obj (plainAction tool args)] := by
    rw [planActions]
    split
    · next hworkflow _ => exact absurd (Json.str.inj hworkflow) hne
    · rfl
  rw [hactions] at hmem
  obtain rfl := Json.obj.inj (List.mem_singleton.mp hmem)
  exact ⟨(Json.str.inj (Option.some.inj htool)).symm, (Json.obj.inj (Option.some.inj hargs)).symm⟩

/-- A plan of one tool is faithful when its arguments are. -/
theorem faithfulPlan_plainAction {tool : String} {args : Dict} (hmem : tool ∈ stepTools)
    (hargs : ¬ MissingArgs tool args)
    (hid : ∀ v, args.lookup "order_id" = some v → ∃ id, v = .str id ∧ OrderIdFrom decimal text id)
    (hplace : tool = "place_order" →
      ∃ item address, args.lookup "item_name" = some (.str item) ∧
        item.toList <:+: text.toList ∧ args.lookup "address" = some (.str address) ∧
        AddressFrom text address) :
    FaithfulPlan decimal text (plainAction tool args) := by
  have hne := ne_workflow_of_mem hmem
  refine ⟨validatePlan_of_action rfl hmem hargs, ?_, ?_, ?_⟩
  · intro tool' args' v haction hv
    obtain ⟨rfl, rfl⟩ := hasAction_plainAction hne haction
    exact hid v hv
  · intro args' haction
    obtain ⟨rfl, rfl⟩ := hasAction_plainAction hne haction
    exact hplace rfl
  · intro steps hworkflow
    exact absurd (Json.str.inj hworkflow) hne

theorem faithfulPlan_askPlan (reason : String) : FaithfulPlan decimal text (askPlan reason) := by
  apply faithfulPlan_plainAction (by decide)
  · rintro (⟨h, -⟩ | ⟨h, -⟩)
    · exact absurd h (by decide)
    · exact absurd h (by decide)
  · nofun
  · exact fun h => absurd h (by decide)

theorem OrderIdFrom.ne_empty {id : String} (h : OrderIdFrom decimal text id) : id ≠ "" := by
  obtain ⟨a, digits, -, -, -, -, rfl⟩ := h
  rw [pyUpper, String.toList_ofList, List.map_cons]
  exact fun h => List.cons_ne_nil _ _ (String.ofList_eq_empty_iff.mp h)

theorem faithfulPlan_orderPlan {tool id : String}
    (htool : tool = "query_order" ∨ tool = "cancel_order") (hid : OrderIdFrom decimal text id) :
    FaithfulPlan decimal text (orderPlan tool id) := by
  have hplace : tool ≠ "place_order" := by
    rcases htool with rfl | rfl <;> decide
  apply faithfulPlan_plainAction
  · rcases htool with rfl | rfl <;> decide
  · rintro (⟨h, -⟩ | ⟨-, h⟩)
    · exact hplace h
    · exact hid.ne_empty (bne_eq_false_iff_eq.mp h)
  · intro v hv
    exact ⟨id, (Option.some.inj hv).symm, hid⟩
  · exact fun h => absurd h hplace

theorem AddressFrom.not_blank {address : String} (h : AddressFrom text address) :
    pyStrip address ≠ "" :=
  pyStrip_ne_empty (List.mem_of_getLast? h.2) (by decide)

theorem not_blank_of_known {item : String} (h : item ∈ knownItems) : pyStrip item ≠ "" := by
  revert item
  decide +kernel

theorem faithfulPlan_place {item address : String} (quantity : ℤ) (hknown : item ∈ knownItems)
    (hitem : item.toList <:+: text.toList) (haddress : AddressFrom text address) :
    FaithfulPlan decimal text (plainAction "place_order"
      [("item_name", .str item), ("quantity", .int quantity), ("address", .str address)]) := by
  apply faithfulPlan_plainAction (by decide)
  · rintro (⟨-, h | h⟩ | ⟨h, -⟩)
    · exact not_blank_of_known hknown h
    · exact haddress.not_blank h
    · exact absurd h (by decide)
  · nofun
  · exact fun _ => ⟨item, address, rfl, hitem, rfl, haddress⟩

/-! #### The workflow -/

theorem bothSteps_forms (id text : String) :
    ∀ step ∈ bothSteps id text, ∃ tool, (tool = "query_order" ∨ tool = "cancel_order") ∧
      step = .obj (orderPlan tool id) := by
  intro step hstep
  rw [bothSteps] at hstep
  split at hstep
  all_goals
    simp only [List.reverse_cons, List.reverse_nil, List.nil_append, List.cons_append,
      List.mem_cons, List.not_mem_nil, or_false] at hstep
    rcases hstep with rfl | rfl
  · exact ⟨"query_order", .inl rfl, rfl⟩
  · exact ⟨"cancel_order", .inr rfl, rfl⟩
  · exact ⟨"cancel_order", .inr rfl, rfl⟩
  · exact ⟨"query_order", .inl rfl, rfl⟩

theorem bothSteps_ne_nil (id text : String) : bothSteps id text ≠ [] := by
  rw [bothSteps]
  split
  · exact List.cons_ne_nil _ _
  · exact List.cons_ne_nil _ _

theorem bothSteps_tools (id text : String) :
    (bothSteps id text).map stepTool = (if queryFirst text then ["query_order", "cancel_order"]
      else ["cancel_order", "query_order"]).map Json.str := by
  rw [bothSteps]
  split
  · rfl
  · rfl

/-- The order tells the test that it was made by. -/
theorem toolOrder_iff {p r : Prop} [Decidable p] [Decidable r] :
    (if p then ["query_order", "cancel_order"]
        else ["cancel_order", "query_order"]).map Json.str
      = (if r then ["query_order", "cancel_order"]
        else ["cancel_order", "query_order"]).map Json.str ↔ (p ↔ r) := by
  by_cases hp : p <;> by_cases hr : r <;> simp [hp, hr]

/-- Where both are asked for, the steps are in order unless `查一下` stands before the rest. -/
theorem stepsOrdered_iff (h : BothAsked decimal text) (id : String) :
    StepsOrdered text (bothSteps id text) ↔ ¬ QueriedEarlier text := by
  obtain ⟨q, hq⟩ := Option.isSome_iff_exists.mp (findText_isSome h.query)
  obtain ⟨c, hc⟩ : ∃ c, firstOf cancelWords text = some c := by
    rcases Bool.or_eq_true_iff.mp h.cancel with hcancel | hcancel
    · exact exists_firstOf List.mem_cons_self hcancel
    · exact exists_firstOf (List.mem_cons_of_mem _ List.mem_cons_self) hcancel
  have hfirst : queryFirst text = true ↔ q < c := by
    simp only [queryFirst, hq, hc, decide_eq_true_eq]
  have hwords : ∀ m, firstOf queryWords text = some m →
      (StepsOrdered text (bothSteps id text) ↔ (q < c ↔ m < c)) := by
    intro m hm
    rw [StepsOrdered, bothSteps_tools, ← hfirst]
    constructor
    · rintro ⟨c', m', hc', hm', htools⟩
      obtain rfl := Option.some.inj (hc.symm.trans hc')
      obtain rfl := Option.some.inj (hm.symm.trans hm')
      exact toolOrder_iff.mp htools
    · intro hiff
      exact ⟨c, m, hc, hm, toolOrder_iff.mpr hiff⟩
  cases hq' : findText "查一下" text with
  | none =>
      have hm : firstOf queryWords text = some q := by
        simp [firstOf, queryWords, hq, hq']
      rw [hwords q hm]
      refine iff_of_true Iff.rfl ?_
      rintro ⟨_, _, q', -, -, hsome, -⟩
      rw [hq'] at hsome
      cases hsome
  | some q' =>
      have hm : firstOf queryWords text = some (min q q') := by
        simp [firstOf, queryWords, hq, hq']
      rw [hwords _ hm, min_lt_iff]
      constructor
      · rintro hiff ⟨c', p, p', hc', hp, hp', hlt, hle⟩
        obtain rfl := Option.some.inj (hc.symm.trans hc')
        obtain rfl := Option.some.inj (hq.symm.trans hp)
        obtain rfl := Option.some.inj (hq'.symm.trans hp')
        exact absurd (hiff.mpr (.inr hlt)) (Nat.not_lt.mpr hle)
      · intro hnot
        refine ⟨.inl, ?_⟩
        rintro (hlt | hlt)
        · exact hlt
        · by_contra hle
          exact hnot ⟨c, q, q', hc, hq, hq', hlt, Nat.not_lt.mp hle⟩

theorem faithfulPlan_bothPlan_iff {id : String} (hid : OrderIdFrom decimal text id)
    (h : BothAsked decimal text) :
    FaithfulPlan decimal text (bothPlan id text) ↔ ¬ QueriedEarlier text := by
  rw [← stepsOrdered_iff h id]
  constructor
  · intro hfaithful
    exact hfaithful.ordered _ rfl rfl
  · intro hordered
    refine ⟨?_, ?_, ?_, ?_⟩
    · apply validatePlan_of_steps rfl rfl (bothSteps_ne_nil id text)
      intro step hstep
      obtain ⟨tool, htool, rfl⟩ := bothSteps_forms id text step hstep
      refine ⟨tool, _, ?_, rfl⟩
      rcases htool with rfl | rfl <;> decide
    · rintro tool args v ⟨fields, hmem, -, hargs⟩ hv
      obtain ⟨tool', -, heq⟩ := bothSteps_forms id text _ hmem
      obtain rfl := Json.obj.inj heq
      obtain rfl := Json.obj.inj (Option.some.inj hargs)
      exact ⟨id, (Option.some.inj hv).symm, hid⟩
    · rintro args ⟨fields, hmem, htool, -⟩
      obtain ⟨tool', htool', heq⟩ := bothSteps_forms id text _ hmem
      obtain rfl := Json.obj.inj heq
      have hplace : tool' = "place_order" := Json.str.inj (Option.some.inj htool)
      rw [hplace] at htool'
      exact absurd htool' (by decide)
    · rintro steps - hsteps
      obtain rfl := Json.arr.inj hsteps
      exact hordered

variable (decimal intOf text) in
/-- **When the planner does not guess.**  Its plan is kept by the validation, has only
arguments that are in the text, and has its steps in the order of the text, unless the text
asks for a cancellation and a query and has `查一下`, a word for a cancellation and `查询`,
first found in this order. -/
theorem faithfulPlan_rulePlan_iff :
    FaithfulPlan decimal text (rulePlan decimal intOf text) ↔
      ¬ (BothAsked decimal text ∧ QueriedEarlier text) := by
  by_cases hboth : BothAsked decimal text
  · obtain ⟨id, hid, hplan⟩ := @rulePlan_of_bothAsked decimal intOf text hboth
    rw [hplan, faithfulPlan_bothPlan_iff hid hboth, not_and]
    exact ⟨fun h _ => h, fun h => h hboth⟩
  · refine iff_of_true ?_ fun h => hboth h.1
    have hshape := ruleShape_rulePlan decimal intOf text
    generalize rulePlan decimal intOf text = plan at hshape ⊢
    cases hshape with
    | ask reason => exact faithfulPlan_askPlan reason
    | order htool hid => exact faithfulPlan_orderPlan htool hid
    | both hid h => exact absurd h hboth
    | place quantity hknown hitem haddress => exact faithfulPlan_place quantity hknown hitem haddress

end Planner

/-! #### A query that is asked for first -/

def queriedFirst : String := "查一下后取消，再查询订单A1234"

/-- The order is to be looked at before it is cancelled, and is cancelled first. -/
theorem not_faithfulPlan_queriedFirst :
    ¬ FaithfulPlan Char.isDigit queriedFirst
      (rulePlan Char.isDigit (fun _ => 1) queriedFirst) := by
  have hplan : rulePlan Char.isDigit (fun _ => 1) queriedFirst = bothPlan "A1234" queriedFirst := by
    decide +kernel
  rw [hplan]
  intro hfaithful
  obtain ⟨c, q, hc, hq, htools⟩ := hfaithful.ordered _ rfl rfl
  have hcancel : firstOf cancelWords queriedFirst = some 4 := by decide +kernel
  have hquery : firstOf queryWords queriedFirst = some 0 := by decide +kernel
  obtain rfl := Option.some.inj (hcancel.symm.trans hc)
  obtain rfl := Option.some.inj (hquery.symm.trans hq)
  rw [bothSteps_tools] at htools
  have hfirst : queryFirst queriedFirst = true := (toolOrder_iff.mp htools).mpr (by decide)
  exact absurd hfirst (by decide +kernel)

end ChaosDemo
