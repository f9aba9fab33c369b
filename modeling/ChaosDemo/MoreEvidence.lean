/-
ChaosDemo/MoreEvidence.lean

A further entry of `tool_results` (ai_platform/evaluation/fabrication.py).  It is evidence
twice: its tool may have succeeded, and its text is searched for identifiers.

    tools      successful ⊆ successful'
    corpus     ... [ e1, ..., en ]    becomes    ... [ e1, ..., en, e ]

Nothing that the findings are compared by depends on the entry, and each of the three
detectors reports less where there are more tools or there is more text.  An identifier
that stood in the old corpus stands in the new one, since it has no bracket that could
have been the closing one.
-/
import ChaosDemo.Identifiers

namespace ChaosDemo

/-- The case with one more entry after its tool results. -/
def withEntry (case : Dict) (items : List Json) (entry : Json) : Dict :=
  case.set "tool_results" (.arr (items ++ [entry]))

namespace FabricationFinding

/-- What findings are compared by: the kind together with the claim or the identifier. -/
def key (f : FabricationFinding) : String × Json × Json :=
  (f.kind, Dict.get f.evidence "claim", Dict.get f.evidence "identifier")

/-- The finding asks for a success of this tool. -/
def Requires (f : FabricationFinding) (tool : String) : Prop :=
  ∃ names, Dict.get f.evidence "required_tools" = namesJson names ∧ tool ∈ names

end FabricationFinding

/-- The name of a tool, or that of one of its retries. -/
def AttemptOf (tool name : String) : Prop :=
  name = tool ∨ ∃ k : ℕ, name = tool ++ "_retry_" ++ toString k

/-- An entry that is a successful result of a tool that claims ask for. -/
structure SuccessOf (tool : String) (entry : Json) : Prop where
  asked : tool ∈ ["place_order", "cancel_order", "query_order"]
  result : ∃ fields name, entry = .obj fields ∧ Dict.get fields "tool" = .str name ∧
    AttemptOf tool name ∧ resultOk (Dict.get fields "result") = true

/-! ### The name of a retry -/

section Names

variable {u : Unicode}

/-- A match of a sequence is one of its first part and then one of the rest. -/
theorem Matcher.mem_inOrder_cons {m : Matcher} {ms : List Matcher} {c d : Cursor} :
    d ∈ inOrder (m :: ms) c ↔ ∃ e ∈ m c, d ∈ inOrder ms e :=
  List.mem_flatMap

/-- The suffix matches where it stands at the end of the name, with decimal digits. -/
theorem retrySuffix_ne_nil {before digits : List Char}
    (hdigits : ∀ c ∈ digits, u.isDecimal c = true) (hsome : 1 ≤ digits.length) :
    retrySuffix u ⟨before, "_retry_".toList ++ digits⟩ ≠ [] := by
  have hword : digits ∈ classWords u.isDecimal 1 none := ⟨hdigits, hsome, by simp⟩
  have hmany : (⟨digits.reverse ++ ("_retry_".toList.reverse ++ before), []⟩ : Cursor) ∈
      Matcher.many u.isDecimal 1 none ⟨"_retry_".toList.reverse ++ before, digits ++ []⟩ :=
    Matcher.mem_many_of_word hword
  rw [List.append_nil] at hmany
  have htext : (⟨"_retry_".toList.reverse ++ before, digits⟩ : Cursor) ∈
      Matcher.text "_retry_" ⟨before, "_retry_".toList ++ digits⟩ := by
    rw [Matcher.text, if_pos (List.isPrefixOf_iff_prefix.mpr (List.prefix_append _ _))]
    exact List.mem_singleton_self _
  have hending : ∀ before, (⟨before, []⟩ : Cursor) ∈
      Matcher.inOrder [Matcher.ending] ⟨before, []⟩ := fun before =>
    Matcher.mem_inOrder_cons.mpr ⟨_, List.mem_singleton_self _, List.mem_singleton_self _⟩
  exact List.ne_nil_of_mem (Matcher.mem_inOrder_cons.mpr
    ⟨_, htext, Matcher.mem_inOrder_cons.mpr ⟨_, hmany, hending _⟩⟩)

/-- A place at which the suffix does not begin has no match of it. -/
theorem retrySuffix_eq_nil {c : Cursor} (h : ¬ "_retry_".toList <+: c.after) :
    retrySuffix u c = [] := by
  refine List.eq_nil_iff_forall_not_mem.mpr fun d hd => ?_
  obtain ⟨e, he, -⟩ := Matcher.mem_inOrder_cons.mp hd
  rw [Matcher.text, if_neg (mt List.isPrefixOf_iff_prefix.mp h)] at he
  cases he

/-- The places that a base can end in. -/
theorem few_start {name : String} (h : '\n' ∉ name.toList) :
    Matcher.few (· != '\n') 1 (.start name) =
      ((List.range (name.toList.length + 1)).filter (1 ≤ ·)).map (Cursor.start name).move := by
  have hrun : ((Cursor.start name).after.takeWhile (· != '\n')) = name.toList := by
    refine List.takeWhile_eq_self_iff.mpr fun c hc => ?_
    rw [bne_iff_ne]
    rintro rfl
    exact h hc
  simp [Matcher.few, Matcher.runs, hrun]

/-- A name in which the suffix nowhere begins is its own base. -/
theorem baseToolName_plain {name : String} (h : '\n' ∉ name.toList)
    (hplain : ¬ "_retry_".toList <:+: name.toList) : baseToolName u name = name := by
  have hnone : ((Matcher.few (· != '\n') 1 (Cursor.start name)).find?
      fun c => !(retrySuffix u c).isEmpty) = none := by
    rw [few_start h, List.find?_eq_none]
    intro c hc
    obtain ⟨k, -, rfl⟩ := List.mem_map.mp hc
    have hnil : retrySuffix u ((Cursor.start name).move k) = [] :=
      retrySuffix_eq_nil fun hstart => hplain (hstart.isInfix.trans (List.drop_suffix k _).isInfix)
    simp [hnil]
  rw [baseToolName]
  simp only [hnone]

/-- The base of a retry is the tool, where the suffix does not begin before its end. -/
theorem baseToolName_retry {tool digits : String} (htool : 1 ≤ tool.toList.length)
    (h : '\n' ∉ (tool ++ "_retry_" ++ digits).toList)
    (hearly : ∀ k < tool.toList.length, 1 ≤ k →
      ¬ "_retry_".toList <+: tool.toList.drop k ++ "_retry_".toList)
    (hdigits : ∀ c ∈ digits.toList, u.isDecimal c = true) (hsome : 1 ≤ digits.toList.length) :
    baseToolName u (tool ++ "_retry_" ++ digits) = tool := by
  have htext : (tool ++ "_retry_" ++ digits).toList =
      tool.toList ++ ("_retry_".toList ++ digits.toList) := by
    simp only [String.toList_append, List.append_assoc]
  have hmove : ∀ k ≤ tool.toList.length,
      (Cursor.start (tool ++ "_retry_" ++ digits)).move k =
        ⟨(tool.toList.take k).reverse,
          tool.toList.drop k ++ ("_retry_".toList ++ digits.toList)⟩ := by
    intro k hk
    simp only [Cursor.move, Cursor.start, htext, List.append_nil,
      List.take_append_of_le_length hk, List.drop_append_of_le_length hk]
  have hfound : ((Matcher.few (· != '\n') 1 (Cursor.start (tool ++ "_retry_" ++ digits))).find?
      fun c => !(retrySuffix u c).isEmpty) =
      some ((Cursor.start (tool ++ "_retry_" ++ digits)).move tool.toList.length) := by
    rw [few_start h, List.find?_map, List.find?_filter]
    refine congrArg (Option.map _) (List.find?_range_eq_some.mpr ⟨?_, ?_, ?_⟩)
    · have hhit : (retrySuffix u ((Cursor.start (tool ++ "_retry_" ++ digits)).move
          tool.toList.length)).isEmpty = false := by
        rw [hmove _ le_rfl, List.drop_length, List.nil_append]
        exact List.isEmpty_eq_false_iff.mpr (retrySuffix_ne_nil hdigits hsome)
      rw [decide_eq_true_eq, Function.comp_apply, hhit]
      exact ⟨decide_eq_true htool, rfl⟩
    · rw [List.mem_range, htext, List.length_append]
      omega
    · intro k hk
      by_cases h1 : 1 ≤ k
      · have hnil : retrySuffix u ((Cursor.start (tool ++ "_retry_" ++ digits)).move k) = [] := by
          refine retrySuffix_eq_nil fun hstart => hearly k hk h1 ?_
          rw [hmove k hk.le] at hstart
          -- what stands before the digits is long enough to decide
          refine List.prefix_of_prefix_length_le hstart
            ⟨digits.toList, List.append_assoc _ _ _⟩ ?_
          rw [List.length_append]
          exact Nat.le_add_left _ _
        simp [hnil]
      · simp [h1]
  rw [baseToolName]
  simp only [hfound]
  have hupTo := Matcher.upTo_of_read (Cursor.start (tool ++ "_retry_" ++ digits)) tool.toList
    ("_retry_".toList ++ digits.toList)
  rw [hmove _ le_rfl, List.take_length, List.drop_length]
  rw [Cursor.start, List.append_nil] at hupTo
  rw [Cursor.start]
  exact hupTo.trans String.ofList_toList

/-- The digits of a numeral are decimal. -/
theorem isDecimal_of_mem_numeral (hu : u.AsciiDecimals) {k : ℕ} {c : Char}
    (h : c ∈ (toString k).toList) : u.isDecimal c = true ∧ c ≠ '\n' := by
  have hdigit : c.isDigit = true := by
    rw [Nat.toString_eq_repr, Nat.toList_repr] at h
    exact Nat.isDigit_of_mem_toDigits (by norm_num) le_rfl h
  obtain ⟨h0, h9⟩ := Char.isDigit_iff_toNat.mp hdigit
  have h9' : c.toNat ≤ 57 := h9
  refine ⟨?_, ?_⟩
  · rw [hu c (by omega)]
    simpa [isDigit09, Char.isDigit, Char.le_def] using hdigit
  · rintro rfl
    exact absurd h0 (by decide)

theorem baseToolName_of_attempt (hu : u.AsciiDecimals) {tool name : String}
    (hasked : tool ∈ ["place_order", "cancel_order", "query_order"]) (h : AttemptOf tool name) :
    baseToolName u name = tool := by
  rcases h with rfl | ⟨k, rfl⟩
  · have hplain : ∀ tool ∈ ["place_order", "cancel_order", "query_order"],
        '\n' ∉ tool.toList ∧ ¬ "_retry_".toList <:+: tool.toList := by decide +kernel
    obtain ⟨hbreak, hsuffix⟩ := hplain name hasked
    exact baseToolName_plain hbreak hsuffix
  · have hclear : ∀ tool ∈ ["place_order", "cancel_order", "query_order"],
        1 ≤ tool.toList.length ∧ '\n' ∉ tool.toList ∧
          ∀ k < tool.toList.length, 1 ≤ k →
            ¬ "_retry_".toList <+: tool.toList.drop k ++ "_retry_".toList := by decide +kernel
    obtain ⟨hlength, hbreak, hearly⟩ := hclear tool hasked
    have hdigits := fun c (hc : c ∈ (toString k).toList) => isDecimal_of_mem_numeral hu hc
    refine baseToolName_retry hlength ?_ hearly (fun c hc => (hdigits c hc).1) ?_
    · intro hmem
      simp only [String.toList_append, List.mem_append] at hmem
      rcases hmem with (hmem | hmem) | hmem
      · exact hbreak hmem
      · exact absurd hmem (by decide +kernel)
      · exact (hdigits _ hmem).2 rfl
    · rw [Nat.toString_eq_repr, Nat.toList_repr]
      exact Nat.length_toDigits_pos

end Names

/-! ### The tools that succeeded -/

/-- One entry of the loop of `successful_tools`. -/
def addSuccess (u : Unicode) (names : List String) (entry : Dict) : List String :=
  let tool := ((entry.get "tool").orElse (.str "")).pyStr
  if tool ≠ "" ∧ resultOk (entry.get "result") then addName names (baseToolName u tool)
  else names

/-- The tools that succeeded among the entries of a list. -/
def successesOf (u : Unicode) (items : List Json) : List String :=
  (items.filterMap Json.dict?).foldl (addSuccess u) []

section Tools

variable {u : Unicode} {case : Dict} {items : List Json} {entry : Json}

theorem resultEntries_eq (h : case.get "tool_results" = .arr items) :
    resultEntries case = .ok (items.filterMap Json.dict?) := by
  cases items with
  | nil => simp [resultEntries, h, Json.orElse, Json.truthy, Json.iter]
  | cons item items => simp [resultEntries, h, Json.orElse, Json.truthy, Json.iter]

theorem successfulTools_eq (h : case.get "tool_results" = .arr items) :
    successfulTools u case = .ok (successesOf u items) := by
  rw [successfulTools, resultEntries_eq h]
  rfl

theorem mem_addName {names : List String} {name other : String} :
    other ∈ addName names name ↔ other ∈ names ∨ other = name := by
  unfold addName
  split_ifs with h
  · constructor
    · exact Or.inl
    · rintro (hother | rfl)
      · exact hother
      · exact h
  · simp

theorem subset_addSuccess (names : List String) (fields : Dict) :
    names ⊆ addSuccess u names fields := by
  intro name hname
  unfold addSuccess
  dsimp only
  split_ifs
  · exact mem_addName.mpr (.inl hname)
  · exact hname

theorem successesOf_append (items : List Json) (entry : Json) :
    successesOf u (items ++ [entry]) =
      ((entry.dict?).toList).foldl (addSuccess u) (successesOf u items) := by
  have hentry : [entry].filterMap Json.dict? = (entry.dict?).toList := by
    cases h : entry.dict? with
    | none => simp [h]
    | some fields => simp [h]
  rw [successesOf, List.filterMap_append, List.foldl_append, hentry, successesOf]

/-- No success is lost. -/
theorem successesOf_subset (items : List Json) (entry : Json) :
    successesOf u items ⊆ successesOf u (items ++ [entry]) := by
  rw [successesOf_append]
  cases entry.dict? with
  | none => exact List.Subset.refl _
  | some fields => exact subset_addSuccess _ fields

/-- A successful result of a tool makes it one that succeeded. -/
theorem mem_successesOf (hu : u.AsciiDecimals) {tool : String} (h : SuccessOf tool entry) :
    tool ∈ successesOf u (items ++ [entry]) := by
  obtain ⟨fields, name, rfl, hname, hattempt, hok⟩ := h.result
  have hbase := baseToolName_of_attempt hu h.asked hattempt
  have hsome : name ≠ "" := by
    rintro rfl
    have hempty : baseToolName u "" = "" :=
      baseToolName_plain (by decide +kernel) (by decide +kernel)
    have hasked := h.asked
    rw [← hbase, hempty] at hasked
    exact absurd hasked (by decide)
  have htool : ((Dict.get fields "tool").orElse (.str "")).pyStr = name := by
    simp [hname, Json.orElse, Json.truthy, hsome, Json.pyStr]
  rw [successesOf_append]
  show tool ∈ addSuccess u _ fields
  unfold addSuccess
  simp only [htool, hok, hbase]
  rw [if_pos ⟨hsome, trivial⟩]
  exact mem_addName.mpr (.inr rfl)

end Tools

/-! ### The corpus -/

section Corpus

variable {u : Unicode} {case : Dict} {items : List Json}

theorem dumpsItems_append (items : List Json) (entry : Json) :
    Json.dumpsItems (items ++ [entry]) = Json.dumpsItems items ++ [entry.dumps] := by
  induction items with
  | nil => rfl
  | cons item items ih => rw [List.cons_append, Json.dumpsItems, Json.dumpsItems, ih]; rfl

/-- The corpus before the bracket that closes the results. -/
def openCorpus (case : Dict) (items : List Json) : List Char :=
  ((" ".intercalate [userInput case, ((case.get "called_args").orElse (.obj [])).dumps,
    "[" ++ ", ".intercalate (Json.dumpsItems items)]).toList).filter fun c => !pyIsSpace c

theorem groundingCorpus_toList (h : case.get "tool_results" = .arr items) (hne : items ≠ []) :
    (groundingCorpus case).toList = openCorpus case items ++ [']'] := by
  have hresults : ((case.get "tool_results").orElse (.arr [])).dumps =
      "[" ++ ", ".intercalate (Json.dumpsItems items) ++ "]" := by
    have htruthy : (Json.arr items).truthy = true := by
      cases items with
      | nil => exact absurd rfl hne
      | cons item items => rfl
    rw [h, Json.orElse, if_pos htruthy, Json.dumps]
  rw [groundingCorpus, hresults, withoutBlanks, openCorpus, userInput]
  simp [String.toList_intercalate, List.intercalate, List.filter_append, pyIsSpace]

/-- With a further entry the corpus goes on where it was closed. -/
theorem openCorpus_append (items : List Json) (entry : Json) (hne : items ≠ []) :
    openCorpus case items <+: openCorpus case (items ++ [entry]) := by
  have hdumps : Json.dumpsItems items ≠ [] := by
    cases items with
    | nil => exact absurd rfl hne
    | cons item items => exact List.cons_ne_nil _ _
  unfold openCorpus
  refine List.IsPrefix.filter _ ?_
  rw [dumpsItems_append, String.intercalate_append_of_ne_nil hdumps (List.cons_ne_nil _ _)]
  simp [String.toList_intercalate, List.intercalate]

/-- A text without a bracket that stands in the corpus stands in it before its end. -/
theorem infix_of_infix_closed {t l : List Char} {x : Char} (h : t <:+: l ++ [x]) (hx : x ∉ t) :
    t <:+: l := by
  rw [List.infix_concat_iff] at h
  rcases h with h | h
  · rcases List.suffix_concat_iff.mp h with rfl | ⟨t, rfl, -⟩
    · exact List.nil_infix
    · exact absurd (by simp) hx
  · exact h

end Corpus

/-! ### The findings -/

section Findings

variable {u : Unicode} {case case' : Dict} {response : String} {items : List Json} {entry : Json}

/-- An identifier that the corpus had before is there still. -/
theorem textIn_groundingCorpus (hu : u.AsciiDecimals) (h : case.get "tool_results" = .arr items)
    (hne : items ≠ []) {token : String} (htoken : token ∈ identifiers u response)
    (hin : textIn (withoutBlanks token).toList (groundingCorpus case).toList = true) :
    textIn (withoutBlanks token).toList
      (groundingCorpus (withEntry case items entry)).toList = true := by
  have hbracket : ']' ∉ (withoutBlanks token).toList := by
    intro hmem
    rw [withoutBlanks, String.toList_ofList] at hmem
    have hchar := identifiers_chars htoken _ (List.mem_of_mem_filter hmem)
    rcases identifierChar_cases hu hchar with hc | hc | hc
    · exact absurd hc (by decide)
    · exact absurd hc (by decide)
    · exact absurd hc (by decide)
  have hopen : openCorpus (withEntry case items entry) = openCorpus case := by
    funext items'
    unfold openCorpus userInput
    rw [withEntry, Dict.get_set_of_ne (by decide), Dict.get_set_of_ne (by decide)]
  rw [textIn_iff, groundingCorpus_toList h hne] at hin
  have hmore : (withEntry case items entry).get "tool_results" = .arr (items ++ [entry]) :=
    Dict.get_set_self _ _ _
  rw [textIn_iff, groundingCorpus_toList hmore (by simp), hopen]
  have hbefore := (infix_of_infix_closed hin hbracket).trans
    (openCorpus_append items entry hne).isInfix
  exact hbefore.trans (List.prefix_append _ _).isInfix

theorem fabricatedIds_mono (hu : u.AsciiDecimals) (h : case.get "tool_results" = .arr items)
    (hne : items ≠ []) {f : FabricationFinding}
    (hf : f ∈ detectFabricatedIds u response (groundingCorpus (withEntry case items entry))) :
    f ∈ detectFabricatedIds u response (groundingCorpus case) := by
  obtain ⟨token, htoken, rfl⟩ := List.mem_map.mp hf
  obtain ⟨hid, hout⟩ := List.mem_filter.mp htoken
  refine List.mem_map.mpr ⟨token, List.mem_filter.mpr ⟨hid, ?_⟩, rfl⟩
  rw [Bool.not_eq_true'] at hout ⊢
  rw [Bool.eq_false_iff] at hout ⊢
  exact fun hin => hout (textIn_groundingCorpus hu h hne hid hin)

theorem namesJson_injective : Function.Injective namesJson := by
  intro names names' h
  exact List.map_injective_iff.mpr (fun _ _ => Json.str.inj) (Json.arr.inj h)

/-- A claim that is not backed with more tools is not backed with fewer, and is the same. -/
theorem unbackedAction_mono (hinput : userInput case' = userInput case)
    {successful successful' observed observed' : List String} (hsub : successful ⊆ successful')
    {claim : ActionClaim} {f : FabricationFinding}
    (hf : f ∈ unbackedAction case' response successful' observed' claim) :
    (∃ f₀ ∈ unbackedAction case response successful observed claim, f₀.key = f.key) ∧
      ∀ tool, f.Requires tool → tool ∉ successful' := by
  unfold unbackedAction at hf ⊢
  rw [hinput] at hf
  cases hclaims : claimsInResponse response claim.pattern (userInput case) with
  | nil =>
      rw [hclaims] at hf
      cases hf
  | cons fragment rest =>
      rw [hclaims] at hf
      dsimp only at hf ⊢
      by_cases hmem : claim.required ∈ successful'
      · rw [if_pos hmem] at hf
        cases hf
      · rw [if_neg hmem] at hf
        rw [if_neg fun hin => hmem (hsub hin)]
        obtain rfl := List.mem_singleton.mp hf
        refine ⟨⟨_, List.mem_singleton_self _, rfl⟩, ?_⟩
        rintro tool ⟨names, hnames, htool⟩
        obtain rfl : [claim.required] = names := namesJson_injective hnames
        rw [List.mem_singleton.mp htool]
        exact hmem

/-- What the status detector reports with more tools it reports with fewer. -/
theorem unsupportedStatus_mono (hinput : userInput case' = userInput case)
    {successful successful' observed observed' : List String} (hsub : successful ⊆ successful')
    (hsuccess : successfulTools u case = .ok successful)
    (hsuccess' : successfulTools u case' = .ok successful')
    (hobserved : observedTools u case = .ok observed)
    (hobserved' : observedTools u case' = .ok observed') :
    ∃ fs fs', detectUnsupportedStatus u case response = .ok fs ∧
      detectUnsupportedStatus u case' response = .ok fs' ∧
      ∀ f ∈ fs', (∃ f₀ ∈ fs, f₀.key = f.key) ∧ ∀ tool, f.Requires tool → tool ∉ successful' := by
  unfold detectUnsupportedStatus
  rw [hinput]
  cases claimsInResponse response statusClaim (userInput case) with
  | nil => exact ⟨[], [], rfl, rfl, fun f hf => absurd hf (List.not_mem_nil)⟩
  | cons fragment rest =>
      dsimp only
      rw [hsuccess, hsuccess', hobserved, hobserved']
      have hasked : ∀ names : List String,
          statusTools.any (fun tool => decide (tool ∈ names)) = true ↔ "query_order" ∈ names := by
        simp [statusTools]
      by_cases hmem : "query_order" ∈ successful'
      · have hnone : ∀ fs : List FabricationFinding, ∀ f ∈ ([] : List FabricationFinding),
            (∃ f₀ ∈ fs, f₀.key = f.key) ∧ ∀ tool, f.Requires tool → tool ∉ successful' :=
          fun fs f hf => absurd hf List.not_mem_nil
        by_cases hbefore : "query_order" ∈ successful
        · exact ⟨[], [], if_pos ((hasked _).mpr hbefore), if_pos ((hasked _).mpr hmem), hnone _⟩
        · exact ⟨_, [], if_neg (mt (hasked _).mp hbefore), if_pos ((hasked _).mpr hmem), hnone _⟩
      · have hbefore : "query_order" ∉ successful := fun hin => hmem (hsub hin)
        refine ⟨_, _, if_neg (mt (hasked _).mp hbefore), if_neg (mt (hasked _).mp hmem), ?_⟩
        intro f hf
        obtain rfl := List.mem_singleton.mp hf
        refine ⟨⟨_, List.mem_singleton_self _, rfl⟩, ?_⟩
        rintro tool ⟨names, hnames, htool⟩
        obtain rfl : statusTools = names := namesJson_injective hnames
        rw [List.mem_singleton.mp htool]
        exact hmem

/-- The calls that were made are listed for both cases or for neither. -/
theorem observedTools_withEntry (h : case.get "tool_results" = .arr items) (entry : Json) :
    (∃ e, observedTools u case = .error e ∧
        observedTools u (withEntry case items entry) = .error e) ∨
      ∃ observed observed', observedTools u case = .ok observed ∧
        observedTools u (withEntry case items entry) = .ok observed' := by
  have hmore : (withEntry case items entry).get "tool_results" = .arr (items ++ [entry]) :=
    Dict.get_set_self _ _ _
  have hcalled : (withEntry case items entry).get "called_tools" = case.get "called_tools" :=
    Dict.get_set_of_ne (by decide) _
  unfold observedTools
  rw [hcalled, resultEntries_eq h, resultEntries_eq hmore]
  cases ((case.get "called_tools").orElse (.arr [])).iter with
  | error e => exact .inl ⟨e, rfl, rfl⟩
  | ok called => exact .inr ⟨_, _, rfl, rfl⟩

end Findings

/-- **More evidence.**  With a further entry after the tool results of a case the detector
    raises what it raised before, or it returns findings of which each was there before, by
    its kind and its claim or identifier.  After a successful result of `place_order` or one
    of its retries, of `cancel_order` or of `query_order` no finding asks for that tool. -/
theorem moreEvidence_noFinding {u : Unicode} (hu : u.AsciiDecimals) {case : Dict}
    {items : List Json} (h : case.get "tool_results" = .arr items) (hne : items ≠ [])
    (entry : Json) :
    (∃ e, detectFabrications u case = .error e ∧
        detectFabrications u (withEntry case items entry) = .error e) ∨
      ∃ fs fs', detectFabrications u case = .ok fs ∧
        detectFabrications u (withEntry case items entry) = .ok fs' ∧
        (∀ f ∈ fs', ∃ f₀ ∈ fs, f₀.key = f.key) ∧
        ∀ tool, SuccessOf tool entry → ∀ f ∈ fs', ¬ f.Requires tool := by
  have hmore : (withEntry case items entry).get "tool_results" = .arr (items ++ [entry]) :=
    Dict.get_set_self _ _ _
  have hinput : userInput (withEntry case items entry) = userInput case := by
    rw [userInput, withEntry, Dict.get_set_of_ne (by decide), userInput]
  have hresponse : (withEntry case items entry).get "final_response" =
      case.get "final_response" := Dict.get_set_of_ne (by decide) _
  have hfacts : hasTraceFacts case = true := by
    rw [hasTraceFacts, h]
    cases items with
    | nil => exact absurd rfl hne
    | cons item items => rfl
  have hfacts' : hasTraceFacts (withEntry case items entry) = true := by
    rw [hasTraceFacts, hmore]
    cases items with
    | nil => rfl
    | cons item items => rfl
  unfold detectFabrications
  rw [hresponse, hfacts, hfacts']
  generalize ((case.get "final_response").orElse (.str "")).pyStr = response
  dsimp only
  by_cases hblank : pyStrip response = ""
  · refine .inr ⟨[], [], if_pos (.inl hblank), if_pos (.inl hblank), ?_, ?_⟩
    · intro f hf
      cases hf
    · intro tool _ f hf
      cases hf
  · have hjudged : ¬ (pyStrip response = "" ∨ true = false) := by simp [hblank]
    rw [if_neg hjudged, if_neg hjudged]
    have hsuccess := successfulTools_eq (u := u) h
    have hsuccess' := successfulTools_eq (u := u) hmore
    have hsub := successesOf_subset (u := u) items entry
    unfold detectUnbackedActions
    rw [hsuccess, hsuccess']
    rcases observedTools_withEntry (u := u) h entry with
      ⟨e, hraised, hraised'⟩ | ⟨observed, observed', hobserved, hobserved'⟩
    · left
      rw [hraised, hraised']
      exact ⟨e, rfl, rfl⟩
    · right
      obtain ⟨status, status', hstatus, hstatus', hmono⟩ := unsupportedStatus_mono hinput hsub
        hsuccess hsuccess' hobserved hobserved'
      rw [hobserved, hobserved', hstatus, hstatus']
      refine ⟨_, _, rfl, rfl, ?_⟩
      -- each finding comes from one of the three detectors, and was one of its findings
      have hall : ∀ f ∈ actionClaims.flatMap (unbackedAction (withEntry case items entry) response
            (successesOf u (items ++ [entry])) observed') ++ status' ++
          detectFabricatedIds u response (groundingCorpus (withEntry case items entry)),
          (∃ f₀ ∈ actionClaims.flatMap (unbackedAction case response (successesOf u items)
              observed) ++ status ++ detectFabricatedIds u response (groundingCorpus case),
            f₀.key = f.key) ∧
          ∀ tool, f.Requires tool → tool ∉ successesOf u (items ++ [entry]) := by
        intro f hf
        rcases List.mem_append.mp hf with hf | hf
        · rcases List.mem_append.mp hf with hf | hf
          · obtain ⟨claim, hclaim, hf⟩ := List.mem_flatMap.mp hf
            obtain ⟨⟨f₀, hf₀, hkey⟩, hnot⟩ := unbackedAction_mono hinput hsub hf
            refine ⟨⟨f₀, ?_, hkey⟩, hnot⟩
            exact List.mem_append_left _ (List.mem_append_left _
              (List.mem_flatMap.mpr ⟨claim, hclaim, hf₀⟩))
          · obtain ⟨⟨f₀, hf₀, hkey⟩, hnot⟩ := hmono f hf
            exact ⟨⟨f₀, List.mem_append_left _ (List.mem_append_right _ hf₀), hkey⟩, hnot⟩
        · refine ⟨⟨f, List.mem_append_right _ (fabricatedIds_mono hu h hne hf), rfl⟩, ?_⟩
          obtain ⟨token, -, rfl⟩ := List.mem_map.mp hf
          rintro tool ⟨names, hnames, -⟩
          cases hnames
      constructor
      · exact fun f hf => (hall f hf).1
      · exact fun tool htool f hf hrequires =>
          (hall f hf).2 tool hrequires (mem_successesOf hu htool)

/-- The characters of ASCII alone. -/
def asciiUnicode : Unicode where
  isAlnum c := isAlnumAZ c
  isDecimal c := isDigit09 c

/-- An order that is said to be placed after a call that failed. -/
def failedOrderCase : Dict :=
  [("input", .str "order a phone"), ("called_tools", .arr [.str "place_order"]),
   ("tool_results", .arr [.obj [("tool", .str "place_order"),
     ("result", .obj [("ok", .bool false)])]]),
   ("final_response", .str "下单成功")]

/-- The retry that placed it. -/
def retriedOrder : Json :=
  .obj [("tool", .str "place_order_retry_1"), ("result", .obj [("ok", .bool true)])]

theorem moreEvidence_retriedOrder :
    (∃ e, detectFabrications asciiUnicode failedOrderCase = .error e ∧
        detectFabrications asciiUnicode (withEntry failedOrderCase
          [.obj [("tool", .str "place_order"), ("result", .obj [("ok", .bool false)])]]
          retriedOrder) = .error e) ∨
      ∃ fs fs', detectFabrications asciiUnicode failedOrderCase = .ok fs ∧
        detectFabrications asciiUnicode (withEntry failedOrderCase
          [.obj [("tool", .str "place_order"), ("result", .obj [("ok", .bool false)])]]
          retriedOrder) = .ok fs' ∧
        (∀ f ∈ fs', ∃ f₀ ∈ fs, f₀.key = f.key) ∧
        ∀ tool, SuccessOf tool retriedOrder → ∀ f ∈ fs', ¬ f.Requires tool :=
  moreEvidence_noFinding (fun _ _ => rfl) rfl (List.cons_ne_nil _ _) retriedOrder

/-- It is a success of `place_order`. -/
example : SuccessOf "place_order" retriedOrder :=
  ⟨by decide, _, "place_order_retry_1", rfl, rfl, .inr ⟨1, rfl⟩, rfl⟩

end ChaosDemo
