/-
ChaosDemo/IdentifierGrounding.lean

Which identifiers of a response are reported (ai_platform/evaluation/fabrication.py).  The
detector looks for an identifier in one text of all evidence, without its blanks:

    input  {"key": "value", ...}  [{"tool": "...", ...}, ...]

An identifier has no quote, comma, colon, bracket or brace, so its characters never come
from two strings: it stands in the corpus exactly if it stands, blanks aside, in the input
(and a number or literal that follows it) or in one string or number of the arguments or
the results (`infix_corpus_iff`).  There it need not stand whole: part of a longer
identifier counts, and so do characters that only blanks had kept apart.
-/
import ChaosDemo.MoreEvidence
import ChaosDemo.PyText

namespace ChaosDemo

/-! ### The texts of a value -/

mutual

/-- The strings of a value, its keys among them, and its numbers and literals. -/
def Json.leaves : Json → List Json
  | .arr items => Json.leavesItems items
  | .obj fields => Json.leavesFields fields
  | v => [v]

def Json.leavesItems : List Json → List Json
  | [] => []
  | v :: items => v.leaves ++ Json.leavesItems items

def Json.leavesFields : List (String × Json) → List Json
  | [] => []
  | (k, v) :: fields => .str k :: (v.leaves ++ Json.leavesFields fields)

end

/-- What stands for a leaf in `json.dumps`, for a string between its quotes. -/
def Json.leafText : Json → List Char
  | .str s => s.toList.flatMap dumpsChar
  | v => v.dumps.toList

/-- A number or a literal, whose text has no separator around it. -/
def Json.isBare : Json → Bool
  | .str _ => false
  | .arr _ => false
  | .obj _ => false
  | _ => true

def Json.bareText (v : Json) : List Char := if v.isBare then v.dumps.toList else []

/-- A text without its blanks. -/
def noBlanks (text : List Char) : List Char := text.filter fun c => !pyIsSpace c

/-- The arguments of the calls, as the corpus has them. -/
def calledArgs (case : Dict) : Json := (case.get "called_args").orElse (.obj [])

/-- The results of the tools, as the corpus has them. -/
def toolResults (case : Dict) : Json := (case.get "tool_results").orElse (.arr [])

/-- The strings and numbers of the arguments and the results. -/
def evidenceLeaves (case : Dict) : List Json :=
  (calledArgs case).leaves ++ (toolResults case).leaves

/-- The texts in one of which an identifier has to stand: the input, with a number that
    follows it, and those of the arguments and the results. -/
def evidenceTexts (case : Dict) : List (List Char) :=
  ((userInput case).toList ++ (calledArgs case).bareText) ::
    (evidenceLeaves case).map Json.leafText

/-- Whether a token stands in a text between word boundaries. -/
def wholeIn (u : Unicode) (token text : String) : Bool :=
  (List.range (text.toList.length + 1)).any fun k =>
    let c := (Cursor.start text).move k
    token.toList.isPrefixOf c.after && !(Matcher.boundary u.isWord c).isEmpty &&
      !(Matcher.boundary u.isWord (c.move token.toList.length)).isEmpty

/-- A token stands whole in the input, or in a string of the arguments or the results. -/
def StandsWhole (u : Unicode) (case : Dict) (token : String) : Prop :=
  wholeIn u token (userInput case) = true ∨
    ∃ s, .str s ∈ evidenceLeaves case ∧ wholeIn u token s = true

/-- The detector reports the token. -/
def Reported (findings : List FabricationFinding) (token : String) : Prop :=
  ∃ f ∈ findings, f.kind = "fabricated_id" ∧ Dict.get f.evidence "identifier" = .str token

/-! ### Words and separators -/

section Separators

variable {p : Char → Bool} {t a b : List Char} {s : Char}

/-- A word that begins before a separator ends before it. -/
theorem prefix_of_separated (ht : ∀ c ∈ t, p c = true) (hs : p s = false)
    (h : t <+: a ++ s :: b) : t <+: a := by
  induction a generalizing t with
  | nil =>
      cases t with
      | nil => exact List.prefix_rfl
      | cons c t =>
          obtain ⟨rfl, -⟩ := List.cons_prefix_cons.mp h
          rw [ht c List.mem_cons_self] at hs
          cases hs
  | cons c a ih =>
      cases t with
      | nil => exact List.nil_prefix
      | cons d t =>
          obtain ⟨rfl, hrest⟩ := List.cons_prefix_cons.mp h
          exact List.cons_prefix_cons.mpr
            ⟨rfl, ih (fun c hc => ht c (List.mem_cons_of_mem d hc)) hrest⟩

/-- A word stands before a separator or after it. -/
theorem infix_separated_iff (ht : ∀ c ∈ t, p c = true) (hs : p s = false) :
    t <:+: a ++ s :: b ↔ t <:+: a ∨ t <:+: b := by
  constructor
  · intro h
    induction a with
    | nil =>
        rcases List.infix_cons_iff.mp h with h | h
        · exact .inl (prefix_of_separated ht hs (a := []) h).isInfix
        · exact .inr h
    | cons c a ih =>
        rcases List.infix_cons_iff.mp h with h | h
        · exact .inl (prefix_of_separated ht hs (a := c :: a) h).isInfix
        · rcases ih h with h | h
          · exact .inl (List.infix_cons h)
          · exact .inr h
  · rintro (h | h)
    · exact h.trans (List.prefix_append a _).isInfix
    · exact (List.infix_cons h).trans (List.suffix_append a _).isInfix

/-- Between two separators. -/
theorem infix_enclosed_iff (ht : ∀ c ∈ t, p c = true) {s' : Char} (hs : p s = false)
    (hs' : p s' = false) : t <:+: s :: (a ++ [s']) ↔ t <:+: a := by
  have hstart := infix_separated_iff (a := []) (b := a ++ [s']) ht hs
  have hend := infix_separated_iff (a := a) (b := []) ht hs'
  rw [List.nil_append] at hstart
  rw [hstart, hend]
  constructor
  · rintro (h | h | h)
    · exact List.eq_nil_of_infix_nil h ▸ List.nil_infix
    · exact h
    · exact List.eq_nil_of_infix_nil h ▸ List.nil_infix
  · exact fun h => .inr (.inl h)

end Separators

@[simp] theorem noBlanks_append (a b : List Char) : noBlanks (a ++ b) = noBlanks a ++ noBlanks b :=
  List.filter_append ..

theorem noBlanks_cons {c : Char} (h : pyIsSpace c = false) (l : List Char) :
    noBlanks (c :: l) = c :: noBlanks l := by
  simp [noBlanks, h]

theorem noBlanks_space (l : List Char) : noBlanks (' ' :: l) = noBlanks l := rfl

/-! ### The corpus -/

/-- Among the characters of ASCII an identifier has letters, digits and hyphens. -/
theorem identifierChar_ascii {u : Unicode} (hu : u.AsciiDecimals) {c : Char}
    (h : c.toNat < 128) : identifierChar u c = (isAlnumAZ c || c == '-' || isDigit09 c) := by
  rw [identifierChar, hu c h]

/-- No separator of JSON is a character of an identifier. -/
theorem identifierChar_separator {u : Unicode} (hu : u.AsciiDecimals) {c : Char}
    (h : c ∈ ['"', ':', ',', '[', ']', '\x7b', '\x7d']) : identifierChar u c = false := by
  simp only [List.mem_cons, List.not_mem_nil, or_false] at h
  rcases h with rfl | rfl | rfl | rfl | rfl | rfl | rfl
  all_goals
    rw [identifierChar_ascii hu (by decide)]
    decide

section Corpus

variable {u : Unicode} {t : List Char}

theorem infix_dumpsText_iff (hu : u.AsciiDecimals) (ht : ∀ c ∈ t, identifierChar u c = true)
    (s : String) :
    t <:+: noBlanks (dumpsText s).toList ↔ t <:+: noBlanks (Json.str s).leafText := by
  have hquote : identifierChar u '"' = false :=
    identifierChar_separator hu (by simp)
  have htext : noBlanks (dumpsText s).toList =
      '"' :: (noBlanks (s.toList.flatMap dumpsChar) ++ ['"']) := by
    simp [dumpsText, noBlanks, pyIsSpace]
  rw [htext, infix_enclosed_iff ht hquote hquote]
  rfl

theorem infix_field_iff (hu : u.AsciiDecimals) (ht : ∀ c ∈ t, identifierChar u c = true)
    (k : String) (v : Json) :
    t <:+: noBlanks (dumpsText k ++ ": " ++ v.dumps).toList ↔
      t <:+: noBlanks (Json.str k).leafText ∨ t <:+: noBlanks v.dumps.toList := by
  have hcolon : identifierChar u ':' = false :=
    identifierChar_separator hu (by simp)
  have htext : noBlanks (dumpsText k ++ ": " ++ v.dumps).toList =
      noBlanks (dumpsText k).toList ++ ':' :: noBlanks v.dumps.toList := by
    simp [noBlanks, pyIsSpace]
  rw [htext, infix_separated_iff ht hcolon, infix_dumpsText_iff hu ht]

mutual

/-- A word of identifier characters stands in the text of a value exactly if it stands in
    one of its leaves. -/
theorem infix_dumps_iff (hu : u.AsciiDecimals) (ht : ∀ c ∈ t, identifierChar u c = true)
    (hne : t ≠ []) : ∀ v : Json,
    t <:+: noBlanks v.dumps.toList ↔ ∃ x ∈ v.leaves, t <:+: noBlanks x.leafText
  | .null => by simp [Json.leaves, Json.leafText]
  | .bool b => by simp [Json.leaves, Json.leafText]
  | .int i => by simp [Json.leaves, Json.leafText]
  | .num q => by simp [Json.leaves, Json.leafText]
  | .str s => by
      simp only [Json.leaves, List.mem_singleton, exists_eq_left]
      exact infix_dumpsText_iff hu ht s
  | .arr items => by
      have hleft : identifierChar u '[' = false :=
        identifierChar_separator hu (by simp)
      have hright : identifierChar u ']' = false :=
        identifierChar_separator hu (by simp)
      have htext : noBlanks (Json.arr items).dumps.toList =
          '[' :: (noBlanks (", ".intercalate (Json.dumpsItems items)).toList ++ [']']) := by
        simp [Json.dumps, noBlanks, pyIsSpace, -String.toList_intercalate]
      rw [htext, infix_enclosed_iff ht hleft hright, infix_dumpsItems_iff hu ht hne items]
      rfl
  | .obj fields => by
      have hleft : identifierChar u '\x7b' = false :=
        identifierChar_separator hu (by simp)
      have hright : identifierChar u '\x7d' = false :=
        identifierChar_separator hu (by simp)
      have htext : noBlanks (Json.obj fields).dumps.toList =
          '\x7b' :: (noBlanks (", ".intercalate (Json.dumpsFields fields)).toList ++
            ['\x7d']) := by
        simp [Json.dumps, noBlanks, pyIsSpace, -String.toList_intercalate]
      rw [htext, infix_enclosed_iff ht hleft hright, infix_dumpsFields_iff hu ht hne fields]
      rfl

theorem infix_dumpsItems_iff (hu : u.AsciiDecimals) (ht : ∀ c ∈ t, identifierChar u c = true)
    (hne : t ≠ []) : ∀ items : List Json,
    t <:+: noBlanks (", ".intercalate (Json.dumpsItems items)).toList ↔
      ∃ x ∈ Json.leavesItems items, t <:+: noBlanks x.leafText
  | [] => by simp [Json.dumpsItems, Json.leavesItems, noBlanks, hne]
  | [v] => by
      simp only [Json.dumpsItems, String.intercalate_singleton, Json.leavesItems, List.append_nil]
      exact infix_dumps_iff hu ht hne v
  | v :: w :: items => by
      have hcomma : identifierChar u ',' = false :=
        identifierChar_separator hu (by simp)
      have htext : noBlanks (", ".intercalate (Json.dumpsItems (v :: w :: items))).toList =
          noBlanks v.dumps.toList ++ ',' ::
            noBlanks (", ".intercalate (Json.dumpsItems (w :: items))).toList := by
        simp only [Json.dumpsItems, String.intercalate_cons_cons]
        simp [noBlanks, pyIsSpace, -String.toList_intercalate]
      have hleaves : Json.leavesItems (v :: w :: items) =
          v.leaves ++ Json.leavesItems (w :: items) := rfl
      rw [htext, infix_separated_iff ht hcomma, infix_dumps_iff hu ht hne v,
        infix_dumpsItems_iff hu ht hne (w :: items), hleaves]
      simp only [List.mem_append, or_and_right, exists_or]

theorem infix_dumpsFields_iff (hu : u.AsciiDecimals) (ht : ∀ c ∈ t, identifierChar u c = true)
    (hne : t ≠ []) : ∀ fields : List (String × Json),
    t <:+: noBlanks (", ".intercalate (Json.dumpsFields fields)).toList ↔
      ∃ x ∈ Json.leavesFields fields, t <:+: noBlanks x.leafText
  | [] => by simp [Json.dumpsFields, Json.leavesFields, noBlanks, hne]
  | [(k, v)] => by
      have hleaves : Json.leavesFields [(k, v)] = .str k :: (v.leaves ++ []) := rfl
      rw [Json.dumpsFields, Json.dumpsFields, String.intercalate_singleton, hleaves,
        infix_field_iff hu ht k v, infix_dumps_iff hu ht hne v]
      simp only [List.append_nil, List.mem_cons, exists_eq_or_imp]
  | (k, v) :: (l, w) :: fields => by
      have hcomma : identifierChar u ',' = false :=
        identifierChar_separator hu (by simp)
      have htext : noBlanks (", ".intercalate (Json.dumpsFields ((k, v) :: (l, w) :: fields))).toList =
          noBlanks (dumpsText k ++ ": " ++ v.dumps).toList ++ ',' ::
            noBlanks (", ".intercalate (Json.dumpsFields ((l, w) :: fields))).toList := by
        simp only [Json.dumpsFields, String.intercalate_cons_cons]
        simp [noBlanks, pyIsSpace, -String.toList_intercalate]
      have hleaves : Json.leavesFields ((k, v) :: (l, w) :: fields) =
          .str k :: (v.leaves ++ Json.leavesFields ((l, w) :: fields)) := rfl
      rw [htext, infix_separated_iff ht hcomma, infix_field_iff hu ht k v,
        infix_dumps_iff hu ht hne v, infix_dumpsFields_iff hu ht hne ((l, w) :: fields), hleaves]
      simp only [List.mem_cons, List.mem_append, or_and_right, exists_or, exists_eq_left,
        or_assoc]

end

/-- What is not bare opens with a separator, which parts it from what stands before. -/
theorem infix_append_dumps_iff (hu : u.AsciiDecimals) (ht : ∀ c ∈ t, identifierChar u c = true)
    (a : List Char) {v : Json} (hv : v.isBare = false) :
    t <:+: a ++ noBlanks v.dumps.toList ↔ t <:+: a ∨ t <:+: noBlanks v.dumps.toList := by
  have hopen : ∃ s rest, identifierChar u s = false ∧ noBlanks v.dumps.toList = s :: rest := by
    cases v with
    | str s =>
        refine ⟨'"', noBlanks (s.toList.flatMap dumpsChar) ++ ['"'],
          identifierChar_separator hu (by simp), ?_⟩
        simp [Json.dumps, dumpsText, noBlanks, pyIsSpace]
    | arr items =>
        refine ⟨'[', noBlanks (", ".intercalate (Json.dumpsItems items)).toList ++ [']'],
          identifierChar_separator hu (by simp), ?_⟩
        simp [Json.dumps, noBlanks, pyIsSpace, -String.toList_intercalate]
    | obj fields =>
        refine ⟨'\x7b', noBlanks (", ".intercalate (Json.dumpsFields fields)).toList ++ ['\x7d'],
          identifierChar_separator hu (by simp), ?_⟩
        simp [Json.dumps, noBlanks, pyIsSpace, -String.toList_intercalate]
    | null => cases hv
    | bool b => cases hv
    | int i => cases hv
    | num q => cases hv
  obtain ⟨s, rest, hs, htext⟩ := hopen
  have hstart := infix_separated_iff (a := []) (b := rest) ht hs
  rw [List.nil_append] at hstart
  rw [htext, infix_separated_iff ht hs, hstart]
  constructor
  · rintro (h | h)
    · exact .inl h
    · exact .inr (.inr h)
  · rintro (h | h | h)
    · exact .inl h
    · exact .inl (List.eq_nil_of_infix_nil h ▸ List.nil_infix)
    · exact .inr h

/-- A word stands in the corpus exactly if it stands, blanks aside, in one of the texts of
    the evidence. -/
theorem infix_corpus_iff (hu : u.AsciiDecimals) (ht : ∀ c ∈ t, identifierChar u c = true)
    (hne : t ≠ []) {case : Dict} (hresults : (toolResults case).isBare = false) :
    t <:+: (groundingCorpus case).toList ↔ ∃ text ∈ evidenceTexts case, t <:+: noBlanks text := by
  have hcorpus : (groundingCorpus case).toList =
      (noBlanks (userInput case).toList ++ noBlanks (calledArgs case).dumps.toList) ++
        noBlanks (toolResults case).dumps.toList := by
    simp [groundingCorpus, withoutBlanks, noBlanks, pyIsSpace, userInput, calledArgs,
      toolResults]
  have hleaves : (∃ text ∈ (evidenceLeaves case).map Json.leafText, t <:+: noBlanks text) ↔
      t <:+: noBlanks (calledArgs case).dumps.toList ∨
        t <:+: noBlanks (toolResults case).dumps.toList := by
    rw [infix_dumps_iff hu ht hne, infix_dumps_iff hu ht hne]
    simp only [evidenceLeaves, List.map_append, List.mem_append, List.mem_map, or_and_right,
      exists_or, exists_exists_and_eq_and]
  rw [hcorpus, infix_append_dumps_iff hu ht _ hresults, evidenceTexts]
  simp only [List.mem_cons, or_and_right, exists_or, exists_eq_left]
  rw [hleaves, Json.bareText]
  cases hbare : (calledArgs case).isBare with
  | false =>
      rw [infix_append_dumps_iff hu ht _ hbare]
      simp [or_assoc]
  | true =>
      have hself : t <:+: noBlanks (calledArgs case).dumps.toList →
          t <:+: noBlanks (userInput case).toList ++ noBlanks (calledArgs case).dumps.toList :=
        fun h => h.trans (List.suffix_append _ _).isInfix
      rw [if_pos rfl, noBlanks_append]
      constructor
      · rintro (h | h)
        · exact .inl h
        · exact .inr (.inr h)
      · rintro (h | h | h)
        · exact .inl h
        · exact .inl (hself h)
        · exact .inr h

end Corpus

/-! ### Tokens -/

section Tokens

variable {u : Unicode} {response token : String}

theorem toNat_of_alnum {c : Char} (h : isAlnumAZ c = true) : 48 ≤ c.toNat ∧ c.toNat ≤ 122 := by
  simp only [isAlnumAZ, isLetterAZ, isUpperAZ, isDigit09, Bool.or_eq_true, Bool.and_eq_true,
    decide_eq_true_eq, Char.le_def, UInt32.le_iff_toNat_le] at h
  rcases h with (⟨ha, hz⟩ | ⟨ha, hz⟩) | ⟨h0, h9⟩
  · exact ⟨le_trans (by decide) ha, le_trans hz (by decide)⟩
  · exact ⟨le_trans (by decide) ha, le_trans hz (by decide)⟩
  · exact ⟨le_trans (by decide) h0, le_trans h9 (by decide)⟩

theorem pyIsSpace_of_alnum {c : Char} (h : isAlnumAZ c = true) : pyIsSpace c = false := by
  have hcode := toNat_of_alnum h
  simp only [pyIsSpace, Bool.or_eq_false_iff, Bool.and_eq_false_iff, decide_eq_false_iff_not,
    beq_eq_false_iff_ne]
  omega

/-- A response with an identifier is not blank. -/
theorem pyStrip_of_identifiers (h : token ∈ identifiers u response) : pyStrip response ≠ "" := by
  obtain ⟨c, hc, halnum⟩ := identifiers_alnum h
  exact pyStrip_ne_empty ((identifier_within h).subset hc) (pyIsSpace_of_alnum halnum)

theorem withoutBlanks_chars (h : token ∈ identifiers u response) :
    (∀ c ∈ (withoutBlanks token).toList, identifierChar u c = true) ∧
      (withoutBlanks token).toList ≠ [] := by
  rw [withoutBlanks, String.toList_ofList]
  constructor
  · exact fun c hc => identifiers_chars h c (List.mem_of_mem_filter hc)
  · obtain ⟨c, hc, halnum⟩ := identifiers_alnum h
    refine List.ne_nil_of_mem (List.mem_filter.mpr ⟨hc, ?_⟩)
    rw [pyIsSpace_of_alnum halnum]
    rfl

/-- The characters of an identifier stand in JSON as they are. -/
theorem dumpsChar_identifier (hu : u.AsciiDecimals) {c : Char} (h : identifierChar u c = true) :
    dumpsChar c = [c] := by
  have hcode : 45 ≤ c.toNat := by
    rcases identifierChar_cases hu h with hc | rfl | hc
    · exact le_trans (by decide) (toNat_of_alnum hc).1
    · decide
    · omega
  have hplain : ∀ d ∈ ['"', '\\', '\n', '\r', '\t'], c ≠ d := by
    intro d hd heq
    have hascii : identifierChar u d = false := by
      simp only [List.mem_cons, List.not_mem_nil, or_false] at hd
      rcases hd with rfl | rfl | rfl | rfl | rfl
      all_goals
        rw [identifierChar_ascii hu (by decide)]
        decide
    rw [← heq, h] at hascii
    cases hascii
  simp only [List.forall_mem_cons] at hplain
  obtain ⟨h1, h2, h3, h4, h5, -⟩ := hplain
  rw [dumpsChar, if_neg h1, if_neg h2, if_neg h3, if_neg h4, if_neg h5, if_neg (by omega),
    if_neg (by omega), if_neg (by omega)]

theorem infix_of_wholeIn {text : String} (h : wholeIn u token text = true) :
    token.toList <:+: text.toList := by
  obtain ⟨k, -, hk⟩ := List.any_eq_true.mp h
  simp only [Bool.and_eq_true, List.isPrefixOf_iff_prefix] at hk
  exact hk.1.1.isInfix.trans (List.drop_suffix k text.toList).isInfix

/-- What stands whole in the evidence stands in one of its texts. -/
theorem infix_of_standsWhole (hu : u.AsciiDecimals) {case : Dict}
    (htoken : token ∈ identifiers u response) (h : StandsWhole u case token) :
    ∃ text ∈ evidenceTexts case, (withoutBlanks token).toList <:+: noBlanks text := by
  have hfilter : ∀ {text : List Char}, token.toList <:+: text →
      (withoutBlanks token).toList <:+: noBlanks text := by
    intro text hin
    rw [withoutBlanks, String.toList_ofList]
    exact hin.filter _
  rcases h with h | ⟨s, hs, h⟩
  · exact ⟨_, List.mem_cons_self,
      hfilter ((infix_of_wholeIn h).trans (List.prefix_append _ _).isInfix)⟩
  · refine ⟨_, List.mem_cons_of_mem _ (List.mem_map_of_mem hs), hfilter ?_⟩
    have hescape : token.toList.flatMap dumpsChar = token.toList := by
      refine (List.flatMap_congr fun c hc => ?_).trans (List.flatMap_singleton' token.toList)
      exact dumpsChar_identifier hu (identifiers_chars htoken c hc)
    obtain ⟨a, b, hab⟩ := infix_of_wholeIn h
    rw [Json.leafText, ← hab, List.flatMap_append, List.flatMap_append, hescape]
    exact ⟨_, _, rfl⟩

end Tokens

/-! ### What is reported -/

/-- The text of a case's response. -/
def finalResponse (case : Dict) : String := ((case.get "final_response").orElse (.str "")).pyStr

section Detector

variable {u : Unicode} {case : Dict}

theorem reported_append {fs gs : List FabricationFinding} {token : String}
    (h : ∀ f ∈ fs, f.kind ≠ "fabricated_id") : Reported (fs ++ gs) token ↔ Reported gs token := by
  constructor
  · rintro ⟨f, hf, hkind, hid⟩
    rcases List.mem_append.mp hf with hf | hf
    · exact absurd hkind (h f hf)
    · exact ⟨f, hf, hkind, hid⟩
  · rintro ⟨f, hf, hfinding⟩
    exact ⟨f, List.mem_append_right fs hf, hfinding⟩

theorem reported_fabricatedIds_iff {response corpus token : String} :
    Reported (detectFabricatedIds u response corpus) token ↔
      token ∈ identifiers u response ∧ ¬ (withoutBlanks token).toList <:+: corpus.toList := by
  constructor
  · rintro ⟨f, hf, -, hid⟩
    obtain ⟨token', htoken, rfl⟩ := List.mem_map.mp hf
    obtain rfl : token' = token := Json.str.inj hid
    obtain ⟨hmem, hout⟩ := List.mem_filter.mp htoken
    refine ⟨hmem, fun hin => ?_⟩
    rw [textIn_iff.mpr hin] at hout
    cases hout
  · rintro ⟨hmem, hout⟩
    refine ⟨_, List.mem_map_of_mem (List.mem_filter.mpr ⟨hmem, ?_⟩), rfl, rfl⟩
    rw [Bool.not_eq_true', Bool.eq_false_iff]
    exact mt textIn_iff.mp hout

theorem unbackedAction_kind {response : String} {successful observed : List String}
    {claim : ActionClaim} {f : FabricationFinding}
    (h : f ∈ unbackedAction case response successful observed claim) :
    f.kind = "unbacked_action" := by
  unfold unbackedAction at h
  cases hclaims : claimsInResponse response claim.pattern (userInput case) with
  | nil =>
      rw [hclaims] at h
      cases h
  | cons fragment rest =>
      rw [hclaims] at h
      dsimp only at h
      split at h
      · cases h
      · obtain rfl := List.mem_singleton.mp h
        rfl

/-- Where the calls and the results can be gone through, the other detectors return, and
    what they report is no identifier. -/
theorem otherDetectors_return (response : String) {called entries : List Json}
    (hcalled : ((case.get "called_tools").orElse (.arr [])).iter = .ok called)
    (hentries : (toolResults case).iter = .ok entries) :
    ∃ actions status, detectUnbackedActions u case response = .ok actions ∧
      detectUnsupportedStatus u case response = .ok status ∧
      ∀ f ∈ actions ++ status, f.kind ≠ "fabricated_id" := by
  have hresults : resultEntries case = .ok (entries.filterMap Json.dict?) := by
    rw [resultEntries, ← toolResults, hentries]
    rfl
  obtain ⟨successful, hsuccessful⟩ : ∃ names, successfulTools u case = .ok names := by
    rw [successfulTools, hresults]
    exact ⟨_, rfl⟩
  obtain ⟨observed, hobserved⟩ : ∃ names, observedTools u case = .ok names := by
    rw [observedTools, hcalled, hresults]
    exact ⟨_, rfl⟩
  have hstatus : ∃ status, detectUnsupportedStatus u case response = .ok status ∧
      ∀ f ∈ status, f.kind = "unsupported_status_claim" := by
    unfold detectUnsupportedStatus
    cases claimsInResponse response statusClaim (userInput case) with
    | nil => exact ⟨[], rfl, fun f hf => absurd hf List.not_mem_nil⟩
    | cons fragment rest =>
        dsimp only
        rw [hsuccessful, hobserved]
        by_cases hbacked : statusTools.any (fun tool => decide (tool ∈ successful)) = true
        · exact ⟨[], if_pos hbacked, fun f hf => absurd hf List.not_mem_nil⟩
        · refine ⟨_, if_neg hbacked, fun f hf => ?_⟩
          obtain rfl := List.mem_singleton.mp hf
          rfl
  obtain ⟨status, hstatus, hkind⟩ := hstatus
  refine ⟨actionClaims.flatMap (unbackedAction case response successful observed), status, ?_,
    hstatus, ?_⟩
  · rw [detectUnbackedActions, hsuccessful, hobserved]
    rfl
  · intro f hf
    rcases List.mem_append.mp hf with hf | hf
    · obtain ⟨claim, -, hf⟩ := List.mem_flatMap.mp hf
      rw [unbackedAction_kind hf]
      decide
    · rw [hkind f hf]
      decide

end Detector

/-- Exactly the identifiers that stand in no text of the evidence are reported. -/
theorem exists_findings {u : Unicode} (hu : u.AsciiDecimals) {case : Dict}
    {called entries : List Json} (hfacts : hasTraceFacts case = true)
    (hcalled : ((case.get "called_tools").orElse (.arr [])).iter = .ok called)
    (hentries : (toolResults case).iter = .ok entries) :
    ∃ fs, detectFabrications u case = .ok fs ∧ ∀ token,
      (Reported fs token ↔ token ∈ identifiers u (finalResponse case) ∧
        ∀ text ∈ evidenceTexts case, ¬ (withoutBlanks token).toList <:+: noBlanks text) := by
  have hbare : (toolResults case).isBare = false := by
    cases hkind : toolResults case with
    | str s => rfl
    | arr items => rfl
    | obj fields => rfl
    | null => rw [hkind] at hentries; cases hentries
    | bool b => rw [hkind] at hentries; cases hentries
    | int i => rw [hkind] at hentries; cases hentries
    | num q => rw [hkind] at hentries; cases hentries
  unfold detectFabrications
  rw [hfacts]
  dsimp only
  change ∃ fs, (if pyStrip (finalResponse case) = "" ∨ true = false then _ else _) = _ ∧ _
  by_cases hblank : pyStrip (finalResponse case) = ""
  · refine ⟨[], if_pos (.inl hblank), fun token => ⟨?_, ?_⟩⟩
    · rintro ⟨f, hf, -⟩
      cases hf
    · exact fun h => absurd hblank (pyStrip_of_identifiers h.1)
  · obtain ⟨actions, status, hactions, hstatus, hother⟩ :=
      otherDetectors_return (u := u) (finalResponse case) hcalled hentries
    rw [if_neg (by simp [hblank]), ← finalResponse, hactions, hstatus]
    refine ⟨_, rfl, fun token => ?_⟩
    rw [reported_append hother, reported_fabricatedIds_iff]
    refine and_congr_right fun htoken => ?_
    obtain ⟨hchars, hne⟩ := withoutBlanks_chars htoken
    rw [infix_corpus_iff hu hchars hne hbare]
    push Not
    rfl

/-- **Grounded identifiers.**  On a case with tool results exactly those identifiers of the
    response are reported whose characters stand, blanks aside, in no text of the evidence:
    not in the input (with a number of the arguments that follows it), and not in one string
    or number of the arguments or the results.  So no identifier is reported that stands
    whole in the input or in such a string. -/
theorem fabricatedIds_exact {u : Unicode} (hu : u.AsciiDecimals) {case : Dict}
    {called entries : List Json} (hfacts : hasTraceFacts case = true)
    (hcalled : ((case.get "called_tools").orElse (.arr [])).iter = .ok called)
    (hentries : (toolResults case).iter = .ok entries) :
    ∃ fs, detectFabrications u case = .ok fs ∧
      ∀ token,
        (Reported fs token ↔ token ∈ identifiers u (finalResponse case) ∧
          ∀ text ∈ evidenceTexts case, ¬ (withoutBlanks token).toList <:+: noBlanks text) ∧
        (StandsWhole u case token → ¬ Reported fs token) := by
  obtain ⟨fs, hfs, hreported⟩ := exists_findings hu hfacts hcalled hentries
  refine ⟨fs, hfs, fun token => ⟨hreported token, fun hwhole hrep => ?_⟩⟩
  obtain ⟨htoken, hnone⟩ := (hreported token).mp hrep
  obtain ⟨text, htext, hin⟩ := infix_of_standsWhole hu htoken hwhole
  exact hnone text htext hin

/-- A response about one order after a query that returned another one. -/
def orderCase (returned response : String) : Dict :=
  [("input", .str "where is my order"), ("called_tools", .arr [.str "query_order"]),
   ("tool_results", .arr [.obj [("tool", .str "query_order"),
     ("result", .obj [("order_id", .str returned)])]]),
   ("final_response", .str response)]

theorem fabricatedIds_otherOrder :
    ∃ fs, detectFabrications asciiUnicode (orderCase "B2002" "A1234") = .ok fs ∧
      ∀ token,
        (Reported fs token ↔
          token ∈ identifiers asciiUnicode (finalResponse (orderCase "B2002" "A1234")) ∧
          ∀ text ∈ evidenceTexts (orderCase "B2002" "A1234"),
            ¬ (withoutBlanks token).toList <:+: noBlanks text) ∧
        (StandsWhole asciiUnicode (orderCase "B2002" "A1234") token → ¬ Reported fs token) :=
  fabricatedIds_exact (fun _ _ => rfl) rfl rfl rfl

/-- The strings of the evidence about the other order. -/
theorem evidenceLeaves_orderCase (returned response : String) :
    evidenceLeaves (orderCase returned response) =
      ["tool", "query_order", "result", "order_id", returned].map Json.str := rfl

/-- What stands in the other order's identifier, blanks aside, is not reported. -/
theorem not_reported_orderCase {returned response token : String}
    (h : (withoutBlanks token).toList <:+: noBlanks (Json.str returned).leafText) :
    ∃ fs, detectFabrications asciiUnicode (orderCase returned response) = .ok fs ∧
      ¬ Reported fs token := by
  obtain ⟨fs, hfs, hreported⟩ := exists_findings (u := asciiUnicode) (fun _ _ => rfl)
    (show hasTraceFacts (orderCase returned response) = true from rfl) rfl rfl
  refine ⟨fs, hfs, fun hrep => ((hreported token).mp hrep).2 _ ?_ h⟩
  rw [evidenceTexts, evidenceLeaves_orderCase]
  exact List.mem_cons_of_mem _ (List.mem_map_of_mem (List.mem_map_of_mem (by simp)))

/-- A token that stands whole in none of the texts of such a case. -/
theorem not_standsWhole_orderCase {u : Unicode} {returned response token : String}
    (h : ∀ s ∈ ["where is my order", "tool", "query_order", "result", "order_id", returned],
      wholeIn u token s = false) : ¬ StandsWhole u (orderCase returned response) token := by
  rintro (hwhole | ⟨s, hs, hwhole⟩)
  · rw [show userInput (orderCase returned response) = "where is my order" from rfl,
      h _ List.mem_cons_self] at hwhole
    cases hwhole
  · rw [evidenceLeaves_orderCase] at hs
    obtain ⟨s', hs', heq⟩ := List.mem_map.mp hs
    rw [← Json.str.inj heq, h s' (List.mem_cons_of_mem _ hs')] at hwhole
    cases hwhole

/-- Part of a longer identifier, and characters that a blank parts, are not reported. -/
theorem fabricatedIds_misses_part :
    ("A1234" ∈ identifiers asciiUnicode (finalResponse (orderCase "A12345" "A1234")) ∧
      ¬ StandsWhole asciiUnicode (orderCase "A12345" "A1234") "A1234" ∧
      ∃ fs, detectFabrications asciiUnicode (orderCase "A12345" "A1234") = .ok fs ∧
        ¬ Reported fs "A1234") ∧
    ("A1234" ∈ identifiers asciiUnicode (finalResponse (orderCase "A12 34" "A1234")) ∧
      ¬ StandsWhole asciiUnicode (orderCase "A12 34" "A1234") "A1234" ∧
      ∃ fs, detectFabrications asciiUnicode (orderCase "A12 34" "A1234") = .ok fs ∧
        ¬ Reported fs "A1234") := by
  have htoken : "A1234" ∈ identifiers asciiUnicode "A1234" := by decide +kernel
  refine ⟨⟨htoken, not_standsWhole_orderCase ?_, not_reported_orderCase ?_⟩,
    htoken, not_standsWhole_orderCase ?_, not_reported_orderCase ?_⟩
  · decide +kernel
  · decide +kernel
  · decide +kernel
  · decide +kernel

end ChaosDemo
