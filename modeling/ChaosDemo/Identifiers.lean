/-
ChaosDemo/Identifiers.lean

What the evaluation's patterns for identifiers can match, and the text in which it looks
for them (ai_platform/evaluation/fabrication.py).  An identifier is a word of letters and
digits of ASCII, decimal digits of other scripts and hyphens:

    m.Reads (Within p)  for every part m of a pattern   ⟹   so does the pattern

Such a word stands in `json.dumps` as it is, and it has no bracket in it.
-/
import ChaosDemo.Fabrication
import ChaosDemo.RegexLanguage

namespace ChaosDemo

namespace Matcher

/-- The words of characters of a class. -/
def Within (p : Char → Bool) : Language Char := {w | ∀ a ∈ w, p a = true}

variable {m : Matcher} {L : Language Char} {p q : Char → Bool}

theorem within_one : (1 : Language Char) ≤ Within p := by
  intro w hw
  obtain rfl := (Language.mem_one w).mp hw
  intro a ha
  cases ha

theorem within_mul : Within p * Within p ≤ Within p := by
  intro w hw
  obtain ⟨u, hu, v, hv, rfl⟩ := Language.mem_mul.mp hw
  intro a ha
  rcases List.mem_append.mp ha with ha | ha
  · exact hu a ha
  · exact hv a ha

/-- A boundary takes no character. -/
theorem reads_boundary (word : Char → Bool) : (boundary word).Reads 1 := by
  intro c d hd
  rw [boundary] at hd
  split at hd
  · cases hd
  · obtain rfl := List.mem_singleton.mp hd
    exact ⟨[], rfl, d.after, rfl, rfl⟩

theorem reads_boundary_within (word : Char → Bool) : (boundary word).Reads (Within p) :=
  (reads_boundary word).mono within_one

theorem reads_text_within {s : String} (h : s.toList.all p = true) :
    (text s).Reads (Within p) := by
  refine (reads_text s).mono ?_
  rintro w rfl
  exact List.all_eq_true.mp h

theorem reads_many_within (h : ∀ c, q c = true → p c = true) (lo : ℕ) (hi : Option ℕ) :
    (many q lo hi).Reads (Within p) :=
  (reads_many q lo hi).mono fun _ hw a ha => h a (hw.1 a ha)

theorem reads_inOrder_within {ms : List Matcher} (h : ∀ m ∈ ms, m.Reads (Within p)) :
    (inOrder ms).Reads (Within p) := by
  induction ms with
  | nil => exact reads_inOrder_nil.mono within_one
  | cons m ms ih =>
      obtain ⟨hm, hms⟩ := List.forall_mem_cons.mp h
      exact (reads_inOrder_cons hm (ih hms)).mono within_mul

/-- The words of characters of a class, one of which is of another. -/
def Marked (p q : Char → Bool) : Language Char := {w | w ∈ Within p ∧ ∃ a ∈ w, q a = true}

theorem marked_mul : Marked p q * Within p ≤ Marked p q := by
  intro w hw
  obtain ⟨u, ⟨hu, a, ha, hq⟩, v, hv, rfl⟩ := Language.mem_mul.mp hw
  exact ⟨within_mul (Language.append_mem_mul hu hv), a, List.mem_append_left v ha, hq⟩

theorem reads_text_marked {s : String} (h : s.toList.all p = true) (hq : s.toList.any q = true) :
    (text s).Reads (Marked p q) := by
  refine (reads_text s).mono ?_
  rintro w rfl
  exact ⟨List.all_eq_true.mp h, List.any_eq_true.mp hq⟩

theorem reads_many_marked {r : Char → Bool} (hp : ∀ c, r c = true → p c = true)
    (hq : ∀ c, r c = true → q c = true) {lo : ℕ} (hlo : 1 ≤ lo) (hi : Option ℕ) :
    (many r lo hi).Reads (Marked p q) := by
  refine (reads_many r lo hi).mono fun w hw => ⟨fun a ha => hp a (hw.1 a ha), ?_⟩
  cases w with
  | nil => exact absurd (hlo.trans hw.2.1) (by simp)
  | cons a w => exact ⟨a, List.mem_cons_self, hq a (hw.1 a List.mem_cons_self)⟩

/-- After a boundary one part has the mark. -/
theorem reads_inOrder_marked {ms : List Matcher} (word : Char → Bool) (hm : m.Reads (Marked p q))
    (hms : ∀ m ∈ ms, m.Reads (Within p)) :
    (inOrder (boundary word :: m :: ms)).Reads (Marked p q) := by
  have hread := reads_inOrder_cons (reads_boundary word)
    (reads_inOrder_cons hm (reads_inOrder_within hms))
  rw [one_mul] at hread
  exact hread.mono marked_mul

/-- Every text that is found is a word of the language. -/
theorem Reads.findFrom (h : m.Reads L) {found : String} : ∀ {fuel : ℕ} {c : Cursor},
    found ∈ m.findFrom fuel c → found.toList ∈ L := by
  intro fuel
  induction fuel with
  | zero =>
      intro c hfound
      cases hfound
  | succ fuel ih =>
      intro c hfound
      rw [Matcher.findFrom] at hfound
      cases hhead : (m c).head? with
      | none =>
          simp only [hhead] at hfound
          split at hfound
          · cases hfound
          · exact ih hfound
      | some d =>
          simp only [hhead] at hfound
          rcases List.mem_cons.mp hfound with rfl | hfound
          · obtain ⟨w, hw, rest, -, rfl⟩ := h c d (List.mem_of_head? hhead)
            rw [upTo_of_read, String.toList_ofList]
            exact hw
          · exact ih hfound

/-- Every text that is found stands in the text that is searched. -/
theorem Reads.within_findFrom (h : m.Reads L) {found : String} : ∀ {fuel : ℕ} {c : Cursor},
    found ∈ m.findFrom fuel c → found.toList <:+: c.after := by
  intro fuel
  induction fuel with
  | zero =>
      intro c hfound
      cases hfound
  | succ fuel ih =>
      intro c hfound
      have hnext : found ∈ m.findFrom fuel (c.move 1) → found.toList <:+: c.after :=
        fun hfound => (ih hfound).trans (List.drop_suffix 1 c.after).isInfix
      rw [Matcher.findFrom] at hfound
      cases hhead : (m c).head? with
      | none =>
          simp only [hhead] at hfound
          split at hfound
          · cases hfound
          · exact hnext hfound
      | some d =>
          obtain ⟨w, hw, rest, hafter, rfl⟩ := h c d (List.mem_of_head? hhead)
          simp only [hhead] at hfound
          rcases List.mem_cons.mp hfound with rfl | hfound
          · rw [upTo_of_read, String.toList_ofList, hafter]
            exact (List.prefix_append w rest).isInfix
          · split at hfound
            · exact hnext hfound
            · have hrest := ih hfound
              rw [hafter]
              exact hrest.trans (List.suffix_append w rest).isInfix

end Matcher

/-! ### Identifiers -/

/-- What `str.isdecimal` says of a character of ASCII. -/
def Unicode.AsciiDecimals (u : Unicode) : Prop :=
  ∀ c : Char, c.toNat < 128 → u.isDecimal c = isDigit09 c

/-- A character that an identifier can have. -/
def identifierChar (u : Unicode) (c : Char) : Bool :=
  isAlnumAZ c || c == '-' || u.isDecimal c

section Characters

variable {u : Unicode} {c : Char}

theorem identifierChar_of_alnum (h : isAlnumAZ c = true) : identifierChar u c = true := by
  simp [identifierChar, h]

theorem identifierChar_of_upper (h : isUpperAZ c = true) : identifierChar u c = true :=
  identifierChar_of_alnum (by simp [isAlnumAZ, isLetterAZ, h])

theorem identifierChar_of_decimal (h : u.isDecimal c = true) : identifierChar u c = true := by
  simp [identifierChar, h]

theorem alnum_of_hex (h : isHex c = true) : isAlnumAZ c = true := by
  simp only [isHex, isAlnumAZ, isLetterAZ, isUpperAZ, Bool.or_eq_true, Bool.and_eq_true,
    decide_eq_true_eq] at h ⊢
  have hlower : 'f' ≤ 'z' := by decide
  have hupper : 'F' ≤ 'Z' := by decide
  rcases h with (h | ⟨ha, hf⟩) | ⟨hA, hF⟩
  · exact .inr h
  · exact .inl (.inr ⟨ha, Char.le_trans hf hlower⟩)
  · exact .inl (.inl ⟨hA, Char.le_trans hF hupper⟩)

/-- A character of an identifier is a letter, a digit or a hyphen, or not of ASCII. -/
theorem identifierChar_cases (hu : u.AsciiDecimals) (h : identifierChar u c = true) :
    isAlnumAZ c = true ∨ c = '-' ∨ 128 ≤ c.toNat := by
  simp only [identifierChar, Bool.or_eq_true, beq_iff_eq] at h
  rcases h with (h | h) | h
  · exact .inl h
  · exact .inr (.inl h)
  · rcases lt_or_ge c.toNat 128 with hc | hc
    · rw [hu c hc] at h
      exact .inl (by simp [isAlnumAZ, h])
    · exact .inr (.inr hc)

end Characters

/-- Every pattern reads words of such characters, with a letter or digit of ASCII. -/
theorem idPattern_reads {u : Unicode} {pattern : Matcher} (h : pattern ∈ idPatterns u) :
    pattern.Reads (Matcher.Marked (identifierChar u) isAlnumAZ) := by
  have hb : (Matcher.boundary u.isWord).Reads (Matcher.Within (identifierChar u)) :=
    Matcher.reads_boundary_within _
  have hhex : ∀ n, (Matcher.many isHex n (some n)).Reads (Matcher.Within (identifierChar u)) :=
    fun n => Matcher.reads_many_within
      (fun _ hc => identifierChar_of_alnum (alnum_of_hex hc)) n (some n)
  have hhyphen : (Matcher.text "-").Reads (Matcher.Within (identifierChar u)) :=
    Matcher.reads_text_within (by simp [identifierChar])
  have hupper : ∀ c, isUpperAZ c = true → isAlnumAZ c = true := fun c hc => by
    simp [isAlnumAZ, isLetterAZ, hc]
  simp only [idPatterns, List.mem_cons, List.not_mem_nil, or_false] at h
  rcases h with rfl | rfl | rfl | rfl
  · refine Matcher.reads_inOrder_marked _ (Matcher.reads_text_marked ?_ ?_) ?_
    · simp [identifierChar, isAlnumAZ, isLetterAZ, isUpperAZ]
    · simp [isAlnumAZ, isLetterAZ, isUpperAZ]
    · simp only [List.forall_mem_cons, List.not_mem_nil, IsEmpty.forall_iff, implies_true,
        and_true]
      exact ⟨Matcher.reads_many_within (fun _ => identifierChar_of_alnum) 4 none, hb⟩
  · refine Matcher.reads_inOrder_marked _ (Matcher.reads_many_marked
      (fun _ hc => identifierChar_of_alnum (alnum_of_hex hc)) (fun _ => alnum_of_hex)
      (by omega) _) ?_
    simp only [List.forall_mem_cons, List.not_mem_nil, IsEmpty.forall_iff, implies_true,
      and_true]
    exact ⟨hhyphen, hhex 4, hhyphen, hhex 4, hhyphen, hhex 4, hhyphen, hhex 12, hb⟩
  · refine Matcher.reads_inOrder_marked _ (Matcher.reads_many_marked
      (fun _ => identifierChar_of_upper) hupper (by omega) _) ?_
    simp only [List.forall_mem_cons, List.not_mem_nil, IsEmpty.forall_iff, implies_true,
      and_true]
    exact ⟨hhyphen, Matcher.reads_many_within (fun _ => identifierChar_of_alnum) 3 none, hb⟩
  · refine Matcher.reads_inOrder_marked _ (Matcher.reads_many_marked
      (fun _ => identifierChar_of_upper) hupper le_rfl _) ?_
    simp only [List.forall_mem_cons, List.not_mem_nil, IsEmpty.forall_iff, implies_true,
      and_true]
    exact ⟨Matcher.reads_many_within (fun _ => identifierChar_of_decimal) 4 none, hb⟩

section Response

variable {u : Unicode} {response token : String}

/-- An identifier is what one of the patterns finds. -/
theorem found_of_identifiers (h : token ∈ identifiers u response) :
    ∃ pattern ∈ idPatterns u, token ∈ pattern.findAll response := by
  have hmem : ∀ {names added : List String}, token ∈ added.foldl addName names →
      token ∈ names ∨ token ∈ added := by
    intro names added
    induction added generalizing names with
    | nil => exact Or.inl
    | cons name added ih =>
        intro htoken
        rcases ih htoken with htoken | htoken
        · rw [addName] at htoken
          split at htoken
          · exact .inl htoken
          · rcases List.mem_append.mp htoken with htoken | htoken
            · exact .inl htoken
            · exact .inr (List.mem_cons.mpr (.inl (List.mem_singleton.mp htoken)))
        · exact .inr (List.mem_cons_of_mem name htoken)
  exact List.mem_flatMap.mp ((hmem h).resolve_left (List.not_mem_nil))

/-- Every identifier of a response is a word of such characters. -/
theorem identifiers_chars (h : token ∈ identifiers u response) :
    ∀ c ∈ token.toList, identifierChar u c = true := by
  obtain ⟨pattern, hpattern, htoken⟩ := found_of_identifiers h
  exact ((idPattern_reads hpattern).findFrom htoken).1

theorem identifiers_alnum (h : token ∈ identifiers u response) :
    ∃ c ∈ token.toList, isAlnumAZ c = true := by
  obtain ⟨pattern, hpattern, htoken⟩ := found_of_identifiers h
  exact ((idPattern_reads hpattern).findFrom htoken).2

/-- It stands in the response. -/
theorem identifier_within (h : token ∈ identifiers u response) :
    token.toList <:+: response.toList := by
  obtain ⟨pattern, hpattern, htoken⟩ := found_of_identifiers h
  exact (idPattern_reads hpattern).within_findFrom htoken

end Response

end ChaosDemo
