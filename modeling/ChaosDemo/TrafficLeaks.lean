/-
ChaosDemo/TrafficLeaks.lean

Which mobile numbers of a text are left when it is masked.  The mask takes out every number
that stands alone between two word boundaries, so what is left are the numbers with a word
character next to them (`shows_maskText`), as in

    手机13800138000        tel_13800138000        13800138000a

A text is written as a JSON string, and the escape of a control character may end in digits;
a number behind it is then part of a longer run (`hides`).
-/
import ChaosDemo.CharRuns
import ChaosDemo.JsonText
import ChaosDemo.RegexLanguage
import ChaosDemo.Traffic

namespace ChaosDemo

/-! ### Mobile numbers -/

/-- Eleven digits, of the form `1[3-9]` and nine more. -/
def Mobile (run : List Char) : Prop :=
  ∃ second rest, run = '1' :: second :: rest ∧ ('3' ≤ second && second ≤ '9') = true ∧
    rest.length = 9 ∧ ∀ c ∈ rest, c.isDigit = true

/-- A run of digits in the text, not part of a longer one, is a mobile number. -/
def HasMobile (text : List Char) : Prop :=
  ∃ front run back, MaximalRun Char.isDigit front run back text ∧ Mobile run

/-- A control character whose escape, such as `\u0011`, ends in a digit. -/
def hides (c : Char) : Bool :=
  c.toNat < 32 && !([8, 9, 10, 12, 13].contains c.toNat) && c.toNat % 16 < 10

/-- A mobile number with this before it is seen in the JSON text of a string. -/
def ShownRun (prev : Option Char) (run : List Char) (_ : Option Char) : Prop :=
  Mobile run ∧ ∀ c ∈ prev, hides c = false

/-- A word character is next to it, too. -/
def ExposedRun (chars : CharClasses) (prev : Option Char) (run : List Char)
    (next : Option Char) : Prop :=
  ShownRun prev run next ∧
    ((∃ c ∈ prev, chars.word c = true) ∨ ∃ c ∈ next, chars.word c = true)

/-- A mobile number of a text is seen in its JSON text. -/
def Shows (s : String) : Prop :=
  ∃ front run back, MaximalRun Char.isDigit front run back s.toList ∧
    ShownRun front.getLast? run back.head?

/-- A mobile number of a text is seen that has a word character next to it. -/
def Exposed (chars : CharClasses) (s : String) : Prop :=
  ∃ front run back, MaximalRun Char.isDigit front run back s.toList ∧
    ExposedRun chars front.getLast? run back.head?

theorem not_mobile_nil : ¬ Mobile [] := by
  rintro ⟨second, rest, h, -⟩
  cases h

theorem Mobile.length_eq {run : List Char} (h : Mobile run) : run.length = 11 := by
  obtain ⟨second, rest, rfl, -, hrest, -⟩ := h
  rw [List.length_cons, List.length_cons, hrest]

theorem isDigit_of_second {c : Char} (h : ('3' ≤ c && c ≤ '9') = true) : c.isDigit = true := by
  rw [Bool.and_eq_true, decide_eq_true_eq, decide_eq_true_eq] at h
  rw [Char.isDigit, Bool.and_eq_true, decide_eq_true_eq, decide_eq_true_eq]
  exact ⟨UInt32.le_trans (by decide) h.1, h.2⟩

theorem Mobile.all_digits {run : List Char} (h : Mobile run) : ∀ c ∈ run, c.isDigit = true := by
  obtain ⟨second, rest, rfl, hsecond, -, hrest⟩ := h
  intro c hc
  rcases List.mem_cons.mp hc with rfl | hc
  · rfl
  · rcases List.mem_cons.mp hc with rfl | hc
    · exact isDigit_of_second hsecond
    · exact hrest c hc

/-- A number does not begin with a zero. -/
theorem not_mobile_zero (run : List Char) : ¬ Mobile ('0' :: run) := by
  rintro ⟨second, rest, h, -⟩
  exact absurd (List.cons.inj h).1 (by decide)

/-! ### Texts in JSON -/

/-- The test for runs alone. -/
def mobileRun (_ : Option Char) (run : List Char) (_ : Option Char) : Prop := Mobile run

theorem hasMobile_iff {text : List Char} :
    HasMobile text ↔ SomeRun Char.isDigit mobileRun none [] text none :=
  (someRun_iff (Q := mobileRun)).symm

/-- Runs alone do not see their neighbours. -/
theorem someRun_mobileRun {prev last : Option Char} {acc text : List Char} :
    SomeRun Char.isDigit mobileRun prev acc text last ↔
      SomeRun Char.isDigit mobileRun none acc text none := by
  induction text generalizing prev acc last with
  | nil => exact Iff.rfl
  | cons c text ih =>
      cases hc : c.isDigit with
      | true => rw [someRun_cons_mem hc, someRun_cons_mem hc, ih]
      | false =>
          rw [someRun_cons hc, someRun_cons hc]
          exact or_congr Iff.rfl (ih.trans ih.symm)

theorem someRun_mobileRun_cons {prev last : Option Char} {acc text : List Char} {c : Char}
    (hc : c.isDigit = false) : SomeRun Char.isDigit mobileRun prev acc (c :: text) last ↔
      Mobile acc ∨ SomeRun Char.isDigit mobileRun none [] text none := by
  rw [someRun_cons hc, @someRun_mobileRun (some c)]
  exact Iff.rfl

/-- A character that is no digit splits a text. -/
theorem hasMobile_append_cons {a b : List Char} {c : Char} (hc : c.isDigit = false) :
    HasMobile (a ++ c :: b) ↔ HasMobile a ∨ HasMobile b := by
  simp only [hasMobile_iff]
  rw [someRun_append hc, someRun_mobileRun, @someRun_mobileRun (some c)]

theorem not_hasMobile_nil : ¬ HasMobile [] := by
  rw [hasMobile_iff]
  exact not_mobile_nil

theorem hasMobile_cons {b : List Char} {c : Char} (hc : c.isDigit = false) :
    HasMobile (c :: b) ↔ HasMobile b := by
  have h := hasMobile_append_cons (a := []) (b := b) hc
  rwa [List.nil_append, or_iff_right not_hasMobile_nil] at h

/-- The digits that the escape of a character ends in. -/
def lead (c : Char) : List Char :=
  if hides c then '0' :: '0' :: (hexByte c.toNat).toList else []

/-- An escape of two characters, neither of them a digit. -/
theorem someRun_escape {prev last : Option Char} {acc text : List Char} {b : Char}
    (hb : b.isDigit = false) :
    SomeRun Char.isDigit mobileRun prev acc ('\\' :: b :: text) last ↔
      Mobile acc ∨ SomeRun Char.isDigit mobileRun none [] text none := by
  rw [someRun_mobileRun_cons (by decide), someRun_mobileRun_cons hb, or_iff_right not_mobile_nil]

theorem hexDigit_isDigit : ∀ n < 16,
    ("0123456789abcdef".toList.getD n '0').isDigit = decide (n < 10) := by
  decide

/-- An escape by a number: its last two digits are hexadecimal. -/
theorem someRun_hexByte {n : ℕ} (hn : n < 32) {text : List Char} :
    SomeRun Char.isDigit mobileRun none ['0', '0'] ((hexByte n).toList ++ text) none ↔
      SomeRun Char.isDigit mobileRun none
        (if n % 16 < 10 then '0' :: '0' :: (hexByte n).toList else []) text none := by
  have hfirst := hexDigit_isDigit (n / 16) (by omega)
  have hsecond := hexDigit_isDigit (n % 16) (Nat.mod_lt n (by decide))
  rw [decide_eq_true (by omega : n / 16 < 10)] at hfirst
  rw [hexByte_toList]
  show SomeRun _ _ _ _ (_ :: _ :: text) _ ↔ _
  rw [someRun_cons_mem hfirst]
  by_cases hlast : n % 16 < 10
  · rw [decide_eq_true hlast] at hsecond
    rw [someRun_cons_mem hsecond, if_pos hlast]
    exact Iff.rfl
  · rw [decide_eq_false hlast] at hsecond
    rw [someRun_mobileRun_cons hsecond, if_neg hlast, or_iff_right]
    exact not_mobile_zero _

/-- A character of a string, in its JSON text. -/
theorem someRun_jsonChar {prev last : Option Char} {acc text : List Char} {c : Char}
    (hc : c.isDigit = false) :
    SomeRun Char.isDigit mobileRun prev acc ((jsonChar c).toList ++ text) last ↔
      Mobile acc ∨ SomeRun Char.isDigit mobileRun none (lead c) text none := by
  unfold jsonChar
  split
  · next h =>
      subst h
      exact someRun_escape (by decide)
  split
  · next h =>
      subst h
      exact someRun_escape (by decide)
  split
  · next h =>
      subst h
      exact someRun_escape (by decide)
  split
  · next h =>
      subst h
      exact someRun_escape (by decide)
  split
  · next h =>
      subst h
      exact someRun_escape (by decide)
  split
  · next h =>
      have hlead : lead c = [] := if_neg (by simp [hides, h])
      rw [hlead]
      exact someRun_escape (by decide)
  split
  · next h =>
      have hlead : lead c = [] := if_neg (by simp [hides, h])
      rw [hlead]
      exact someRun_escape (by decide)
  split
  · next hquote hslash hnewline hreturn htab h8 h12 hlt =>
      have hne : ∀ d : Char, c ≠ d → c.toNat ≠ d.toNat := fun d h heq => h (Char.toNat_inj.mp heq)
      have hlead : lead c = if c.toNat % 16 < 10 then '0' :: '0' :: (hexByte c.toNat).toList
          else [] := by
        have hcontains : [8, 9, 10, 12, 13].contains c.toNat = false := by
          simpa using ⟨h8, hne _ htab, hne _ hnewline, h12, hne _ hreturn⟩
        rw [lead, hides, decide_eq_true hlt, hcontains]
        simp only [Bool.not_false, Bool.and_self, Bool.true_and, decide_eq_true_eq]
      rw [hlead, String.toList_append]
      show SomeRun _ _ prev acc ('\\' :: 'u' :: '0' :: '0' :: ((hexByte c.toNat).toList ++ text)) last
        ↔ _
      rw [someRun_escape (by decide), someRun_cons_mem rfl, someRun_cons_mem rfl]
      exact or_congr Iff.rfl (someRun_hexByte hlt)
  · next hlt =>
      have hlead : lead c = [] := if_neg (by simp [hides, hlt])
      rw [hlead, String.toList_ofList]
      exact someRun_mobileRun_cons hc

/-- The digits of the escape before a run. -/
def leadOf (prev : Option Char) : List Char := (prev.map lead).getD []

/-- They hide it. -/
theorem mobile_leadOf {prev next : Option Char} {acc : List Char} :
    Mobile (leadOf prev ++ acc) ↔ ShownRun prev acc next := by
  cases prev with
  | none => exact ⟨fun h => ⟨h, nofun⟩, And.left⟩
  | some c =>
      show Mobile (lead c ++ acc) ↔ _
      cases hc : hides c with
      | true =>
          have hzero : lead c = '0' :: '0' :: (hexByte c.toNat).toList := if_pos hc
          rw [hzero]
          refine iff_of_false (not_mobile_zero _) fun h => ?_
          exact absurd (hc.symm.trans (h.2 c rfl)) (by decide)
      | false =>
          have hnil : lead c = [] := if_neg (by rw [hc]; decide)
          rw [hnil]
          refine ⟨fun h => ⟨h, fun d hd => ?_⟩, And.left⟩
          rw [← Option.some.inj hd]
          exact hc

/-- A digit is written as it is. -/
theorem jsonChar_of_digit {c : Char} (hc : c.isDigit = true) : jsonChar c = String.ofList [c] := by
  have hne : ∀ d : Char, d.isDigit = false → c ≠ d := by
    rintro d hd rfl
    exact absurd (hc.symm.trans hd) (by decide)
  have hge : 48 ≤ c.toNat := by
    rw [Char.isDigit, Bool.and_eq_true, decide_eq_true_eq] at hc
    exact UInt32.le_iff_toNat_le.mp hc.1
  rw [jsonChar, if_neg (hne _ (by decide)), if_neg (hne _ (by decide)),
    if_neg (hne _ (by decide)), if_neg (hne _ (by decide)), if_neg (hne _ (by decide)),
    if_neg (by omega), if_neg (by omega), if_neg (by omega)]

/-- The JSON text of the characters of a string, and a quote. -/
theorem someRun_jsonChars {prev : Option Char} {acc cs : List Char} :
    SomeRun Char.isDigit mobileRun none (leadOf prev ++ acc)
        (cs.flatMap (fun c => (jsonChar c).toList) ++ ['"']) none ↔
      SomeRun Char.isDigit ShownRun prev acc cs none := by
  induction cs generalizing prev acc with
  | nil =>
      show SomeRun Char.isDigit mobileRun none (leadOf prev ++ acc) ['"'] none ↔ _
      have hnil : ¬ SomeRun Char.isDigit mobileRun none [] [] none := not_mobile_nil
      rw [someRun_mobileRun_cons (by decide), or_iff_left hnil]
      exact mobile_leadOf
  | cons c cs ih =>
      rw [List.flatMap_cons, List.append_assoc]
      cases hc : c.isDigit with
      | true =>
          rw [jsonChar_of_digit hc, String.toList_ofList, List.singleton_append, someRun_cons_mem hc, someRun_cons_mem hc,
            List.append_assoc, ih]
      | false =>
          have hrest := @ih (some c) []
          rw [List.append_nil] at hrest
          rw [someRun_jsonChar hc, someRun_cons hc]
          exact or_congr mobile_leadOf hrest

/-- **A string in JSON** has the numbers that are shown. -/
theorem hasMobile_jsonString {s : String} : HasMobile (jsonString s).toList ↔ Shows s := by
  rw [jsonString_toList, hasMobile_cons (by decide), hasMobile_iff]
  have h := @someRun_jsonChars none [] s.toList
  exact h.trans someRun_iff

/-! ### Names -/

theorem ShownRun.congr {prev prev' next next' : Option Char} {run : List Char}
    (h : ∀ c ∈ prev', hides c = false) (hrun : ShownRun prev run next) :
    ShownRun prev' run next' :=
  ⟨hrun.1, h⟩

/-- A character that hides nothing is like no character. -/
theorem someRun_shown_prev {prev prev' last : Option Char} {acc cs : List Char}
    (h : ∀ c ∈ prev, hides c = false) (h' : ∀ c ∈ prev', hides c = false) :
    SomeRun Char.isDigit ShownRun prev acc cs last ↔
      SomeRun Char.isDigit ShownRun prev' acc cs last :=
  someRun_prev_congr fun _ _ => ⟨fun hrun => hrun.congr h', fun hrun => hrun.congr h⟩

/-- So a digitless character that hides nothing can be left out after another. -/
theorem someRun_shown_cons {prev last : Option Char} {cs : List Char} {c : Char}
    (hprev : ∀ d ∈ prev, hides d = false) (hdigit : c.isDigit = false) (hc : hides c = false) :
    SomeRun Char.isDigit ShownRun prev [] (c :: cs) last ↔
      SomeRun Char.isDigit ShownRun prev [] cs last := by
  rw [someRun_cons hdigit, or_iff_right fun h => not_mobile_nil h.1]
  exact someRun_shown_prev (fun d hd => by rw [← Option.some.inj hd]; exact hc) hprev

theorem isChinese_plain {c : Char} (h : isChinese c = true) :
    c.isDigit = false ∧ hides c = false := by
  rw [isChinese, Bool.and_eq_true, decide_eq_true_eq] at h
  have hge : 0x4e00 ≤ c.toNat := UInt32.le_iff_toNat_le.mp h.1
  constructor
  · rw [Char.isDigit, Bool.and_eq_false_iff]
    right
    rw [decide_eq_false_iff_not]
    intro hle
    have hle := UInt32.le_iff_toNat_le.mp hle
    have h57 : c.val.toNat ≤ 57 := hle
    have h57' : c.toNat ≤ 57 := h57
    omega
  · have hlt : ¬ c.toNat < 32 := by omega
    rw [hides, decide_eq_false hlt]
    rfl

/-- The names that are masked are Chinese. -/
theorem take_hit_namePattern (c : Cursor) :
    ∀ d ∈ c.after.take (namePattern.hit c), isChinese d = true := by
  have hreads : namePattern.Reads _ :=
    Matcher.reads_inOrder_cons (Matcher.reads_many _ _ _)
      (Matcher.reads_inOrder_cons (Matcher.reads_many _ _ _) Matcher.reads_inOrder_nil)
  rcases hreads.take_hit c with hzero | hword
  · rw [hzero]
    nofun
  · rw [mul_one] at hword
    obtain ⟨u, ⟨hu, -⟩, v, ⟨hv, -⟩, heq⟩ := Language.mem_mul.mp hword
    rw [← heq]
    intro d hd
    rcases List.mem_append.mp hd with hd | hd
    · exact hu d hd
    · exact hv d hd

/-- The masks of names leave the runs of digits as they are. -/
theorem someRun_maskNamesFrom {last : Option Char} (cs : List Char) :
    ∀ skip before prev acc, (∀ d ∈ cs.take skip, isChinese d = true) →
      (skip ≠ 0 → acc = [] ∧ ∀ c ∈ prev, hides c = false) →
      (SomeRun Char.isDigit ShownRun prev acc (substituteByFrom namePattern.hit
          (fun c => c.after.take 1 ++ ['*', '*']) skip before cs) last ↔
        SomeRun Char.isDigit ShownRun prev acc cs last) := by
  induction cs with
  | nil =>
      intro skip before prev acc _ _
      cases skip <;> exact Iff.rfl
  | cons c cs ih =>
      intro skip before prev acc hskip hfirst
      cases skip with
      | succ skip =>
          -- a character that is masked
          obtain ⟨rfl, hprev⟩ := hfirst (Nat.succ_ne_zero skip)
          rw [List.take_succ_cons, List.forall_mem_cons] at hskip
          obtain ⟨hdigit, hplain⟩ := isChinese_plain hskip.1
          rw [substituteByFrom, someRun_shown_cons hprev hdigit hplain]
          exact ih skip _ prev [] hskip.2 fun _ => ⟨rfl, hprev⟩
      | zero =>
          rw [substituteByFrom]
          split
          · -- a character that stays
            cases hc : c.isDigit with
            | true =>
                rw [someRun_cons_mem hc, someRun_cons_mem hc]
                exact ih 0 _ prev _ nofun (absurd rfl)
            | false =>
                rw [someRun_cons hc, someRun_cons hc]
                exact or_congr Iff.rfl (ih 0 _ (some c) [] nofun (absurd rfl))
          · next n hhit =>
              -- the first character of a name
              have hname := take_hit_namePattern ⟨before, c :: cs⟩
              rw [hhit, List.take_succ_cons, List.forall_mem_cons] at hname
              obtain ⟨hdigit, hplain⟩ := isChinese_plain hname.1
              have hchar : ∀ d ∈ some c, hides d = false := by
                intro d hd
                rw [← Option.some.inj hd]
                exact hplain
              show SomeRun _ _ _ _ (c :: '*' :: '*' :: _) _ ↔ _
              rw [someRun_cons hdigit, someRun_cons hdigit,
                someRun_shown_cons hchar (by decide) (by decide),
                someRun_shown_cons hchar (by decide) (by decide)]
              exact or_congr Iff.rfl (ih n _ (some c) [] hname.2 fun _ => ⟨rfl, hchar⟩)

theorem someRun_maskNames (cs : List Char) :
    SomeRun Char.isDigit ShownRun none [] (maskNames cs) none ↔
      SomeRun Char.isDigit ShownRun none [] cs none :=
  someRun_maskNamesFrom cs 0 [] none [] nofun (absurd rfl)

/-! ### Mobile numbers between word boundaries -/

section Mobiles

variable {chars : CharClasses}

/-- A character that is no word character, or none. -/
def Outside (chars : CharClasses) (c : Option Char) : Prop := ∀ d ∈ c, chars.word d = false

theorem Outside.any_eq {c : Option Char} (h : Outside chars c) : c.any chars.word = false := by
  cases c with
  | none => rfl
  | some d => exact h d rfl

theorem outside_of_any {c : Option Char} (h : c.any chars.word = false) : Outside chars c := by
  rintro d hd
  rw [Option.mem_def.mp hd] at h
  exact h

theorem CharClasses.word_of_digit {c : Char} (h : c.isDigit = true) : chars.word c = true :=
  chars.word_of_decimal c (chars.decimal_of_digit c h)

theorem CharClasses.not_digit {c : Char} (h : chars.word c = false) : c.isDigit = false := by
  rw [← Bool.not_eq_true]
  intro hc
  rw [chars.word_of_digit hc] at h
  cases h

/-- A place that is inside a word, or between words, has no match. -/
theorem hit_of_no_boundary {c : Cursor}
    (h : c.before.head?.any chars.word = c.after.head?.any chars.word) :
    (mobilePattern chars).hit c = 0 := by
  have hnone : mobilePattern chars c = [] := by
    show (Matcher.boundary chars.word c).flatMap _ = []
    rw [Matcher.boundary, if_pos h]
    rfl
  rw [Matcher.hit, hnone]
  rfl

/-- A number that matches: eleven decimal digits, the first one a `1`. -/
structure Number (chars : CharClasses) (number : List Char) : Prop where
  length_eq : number.length = 11
  head_eq : number.head? = some '1'
  decimal : ∀ c ∈ number, chars.decimal c = true

theorem mem_boundary {word : Char → Bool} {c d : Cursor} (h : d ∈ Matcher.boundary word c) :
    d = c ∧ c.before.head?.any word ≠ c.after.head?.any word := by
  rw [Matcher.boundary] at h
  split at h
  · cases h
  · next hne => exact ⟨List.mem_singleton.mp h, hne⟩

/-- What matches is a number that stands alone. -/
theorem mem_mobilePattern {before after : List Char} {d : Cursor}
    (h : d ∈ mobilePattern chars ⟨before, after⟩) :
    ∃ number, Number chars number ∧ after = number ++ d.after ∧ Outside chars before.head? ∧
      Outside chars d.after.head? := by
  obtain ⟨c₀, h₀, h⟩ := List.mem_flatMap.mp h
  obtain ⟨rfl, hstart⟩ := mem_boundary h₀
  obtain ⟨c₁, h₁, h⟩ := List.mem_flatMap.mp h
  obtain ⟨c₂, h₂, h⟩ := List.mem_flatMap.mp h
  obtain ⟨c₃, h₃, h⟩ := List.mem_flatMap.mp h
  obtain ⟨c₄, h₄, hd⟩ := List.mem_flatMap.mp h
  obtain rfl := List.mem_singleton.mp hd
  obtain ⟨rfl, hend⟩ := mem_boundary h₄
  obtain ⟨u, ⟨hu, hu1, hu1'⟩, rest₁, hafter, rfl⟩ := Matcher.reads_many _ _ _ _ _ h₁
  obtain ⟨v, ⟨hv, hv1, hv1'⟩, rest₂, rfl, rfl⟩ := Matcher.reads_many _ _ _ _ _ h₂
  obtain ⟨w, ⟨hw, hw9, hw9'⟩, rest₃, rfl, rfl⟩ := Matcher.reads_many _ _ _ _ _ h₃
  have hu1 : u.length = 1 := le_antisymm (hu1' 1 rfl) hu1
  have hv1 : v.length = 1 := le_antisymm (hv1' 1 rfl) hv1
  have hw9 : w.length = 9 := le_antisymm (hw9' 9 rfl) hw9
  obtain ⟨a, rfl⟩ := List.length_eq_one_iff.mp hu1
  obtain ⟨b, rfl⟩ := List.length_eq_one_iff.mp hv1
  obtain rfl : a = '1' := of_decide_eq_true (hu a List.mem_cons_self)
  have hone : chars.decimal '1' = true := chars.decimal_of_digit '1' rfl
  have hb : chars.decimal b = true :=
    chars.decimal_of_digit b (isDigit_of_second (hv b List.mem_cons_self))
  have hafter : after = '1' :: b :: (w ++ rest₃) := hafter
  have hnumber : Number chars ('1' :: b :: w) := by
    refine ⟨by rw [List.length_cons, List.length_cons, hw9], rfl, ?_⟩
    intro c hc
    rcases List.mem_cons.mp hc with rfl | hc
    · exact hone
    · rcases List.mem_cons.mp hc with rfl | hc
      · exact hb
      · exact hw c hc
  refine ⟨'1' :: b :: w, hnumber, hafter, outside_of_any ?_, outside_of_any ?_⟩
  · have hword : after.head?.any chars.word = true := by
      rw [hafter]
      exact chars.word_of_decimal '1' hone
    have hne : before.head?.any chars.word ≠ after.head?.any chars.word := hstart
    rwa [hword, ne_eq, Bool.not_eq_true] at hne
  · have hword : (w.reverse ++ b :: '1' :: before).head?.any chars.word = true := by
      rcases List.eq_nil_or_concat w with rfl | ⟨init, x, rfl⟩
      · cases hw9
      · rw [List.concat_eq_append, List.reverse_append]
        exact chars.word_of_decimal x (hw x (by simp))
    have hne : (w.reverse ++ b :: '1' :: before).head?.any chars.word
        ≠ rest₃.head?.any chars.word := hend
    rw [hword] at hne
    exact Bool.eq_false_iff.mpr hne.symm

/-- A hit takes a number that stands alone. -/
theorem hit_cases (before after : List Char) :
    (mobilePattern chars).hit ⟨before, after⟩ = 0 ∨
      (mobilePattern chars).hit ⟨before, after⟩ = 11 ∧ ∃ number rest, Number chars number ∧
        after = number ++ rest ∧ Outside chars before.head? ∧ Outside chars rest.head? := by
  rw [Matcher.hit]
  cases hhead : (mobilePattern chars ⟨before, after⟩).head? with
  | none => exact .inl rfl
  | some d =>
      obtain ⟨number, hnumber, hafter, hbefore, hrest⟩ :=
        mem_mobilePattern (List.mem_of_head? hhead)
      refine .inr ⟨?_, number, d.after, hnumber, hafter, hbefore, hrest⟩
      show after.length - d.after.length = 11
      rw [hafter, List.length_append, hnumber.length_eq, Nat.add_sub_cancel]

/-- A mobile number that stands alone is hit. -/
theorem hit_of_mobile {before run rest : List Char} (hrun : Mobile run)
    (hbefore : Outside chars before.head?) (hrest : Outside chars rest.head?) :
    (mobilePattern chars).hit ⟨before, run ++ rest⟩ ≠ 0 := by
  obtain ⟨second, tail, rfl, hsecond, hlength, htail⟩ := hrun
  have hone : chars.word '1' = true := chars.word_of_digit rfl
  -- the places one after the other
  have h₁ : (⟨'1' :: before, second :: (tail ++ rest)⟩ : Cursor) ∈
      Matcher.many (· = '1') 1 (some 1) ⟨before, '1' :: second :: (tail ++ rest)⟩ := by
    apply @Matcher.mem_many_of_word _ _ _ ['1']
    exact ⟨by simp, le_rfl, by simp⟩
  have h₂ : (⟨second :: '1' :: before, tail ++ rest⟩ : Cursor) ∈
      Matcher.many (fun c => '3' ≤ c && c ≤ '9') 1 (some 1)
        ⟨'1' :: before, second :: (tail ++ rest)⟩ := by
    apply @Matcher.mem_many_of_word _ _ _ [second]
    refine ⟨?_, le_rfl, by simp⟩
    intro c hc
    rw [List.mem_singleton.mp hc]
    exact hsecond
  have h₃ : (⟨tail.reverse ++ second :: '1' :: before, rest⟩ : Cursor) ∈
      Matcher.many chars.decimal 9 (some 9) ⟨second :: '1' :: before, tail ++ rest⟩ := by
    apply Matcher.mem_many_of_word
    refine ⟨fun c hc => chars.decimal_of_digit c (htail c hc), hlength.ge, ?_⟩
    intro most hmost
    rw [← Option.some.inj hmost, hlength]
  have hstart : (⟨before, '1' :: second :: (tail ++ rest)⟩ : Cursor) ∈
      Matcher.boundary chars.word ⟨before, '1' :: second :: (tail ++ rest)⟩ := by
    rw [Matcher.boundary, if_neg]
    · exact List.mem_singleton.mpr rfl
    · show before.head?.any chars.word ≠ chars.word '1'
      rw [hbefore.any_eq, hone]
      decide
  have hend : (⟨tail.reverse ++ second :: '1' :: before, rest⟩ : Cursor) ∈
      Matcher.boundary chars.word ⟨tail.reverse ++ second :: '1' :: before, rest⟩ := by
    rw [Matcher.boundary, if_neg]
    · exact List.mem_singleton.mpr rfl
    · rcases List.eq_nil_or_concat tail with rfl | ⟨init, x, rfl⟩
      · cases hlength
      · have hx : chars.word x = true := chars.word_of_digit (htail x (by simp))
        show ((init.concat x).reverse ++ second :: '1' :: before).head?.any chars.word
          ≠ rest.head?.any chars.word
        rw [hrest.any_eq, List.concat_eq_append, List.reverse_append]
        show chars.word x ≠ false
        rw [hx]
        decide
  have hmem : (⟨tail.reverse ++ second :: '1' :: before, rest⟩ : Cursor) ∈
      mobilePattern chars ⟨before, '1' :: second :: (tail ++ rest)⟩ :=
    List.mem_flatMap.mpr ⟨_, hstart, List.mem_flatMap.mpr ⟨_, h₁, List.mem_flatMap.mpr
      ⟨_, h₂, List.mem_flatMap.mpr ⟨_, h₃, List.mem_flatMap.mpr
        ⟨_, hend, List.mem_singleton.mpr rfl⟩⟩⟩⟩⟩
  show (mobilePattern chars).hit ⟨before, '1' :: second :: (tail ++ rest)⟩ ≠ 0
  rw [Matcher.hit]
  cases hhead : (mobilePattern chars ⟨before, '1' :: second :: (tail ++ rest)⟩).head? with
  | none =>
      rw [List.head?_eq_none_iff] at hhead
      rw [hhead] at hmem
      cases hmem
  | some d =>
      obtain ⟨number, hnumber, hafter, -⟩ := mem_mobilePattern (List.mem_of_head? hhead)
      show ('1' :: second :: (tail ++ rest)).length - d.after.length ≠ 0
      rw [hafter, List.length_append, hnumber.length_eq, Nat.add_sub_cancel]
      decide

/-! #### What the substitution makes of a word -/

theorem hit_of_outside {before after : List Char} (h : Outside chars after.head?) :
    (mobilePattern chars).hit ⟨before, after⟩ = 0 := by
  rcases hit_cases before after with hzero | ⟨-, number, rest, hnumber, rfl, -, -⟩
  · exact hzero
  · -- a number begins with a word character
    have hone : chars.word '1' = true := chars.word_of_digit rfl
    have hhead : (number ++ rest).head? = some '1' := by
      rw [List.head?_append, hnumber.head_eq]
      rfl
    have hfalse := h '1' hhead
    rw [hone] at hfalse
    cases hfalse

/-- What a match covers is passed over. -/
theorem substituteFrom_skip {hit : Cursor → ℕ} {mark : List Char} (w : List Char) :
    ∀ before rest, substituteFrom hit mark w.length before (w ++ rest)
      = substituteFrom hit mark 0 (w.reverse ++ before) rest := by
  induction w with
  | nil =>
      intro before rest
      rfl
  | cons c w ih =>
      intro before rest
      rw [List.length_cons, List.cons_append, substituteFrom, ih, List.reverse_cons,
        List.append_assoc]
      rfl

/-- A number that is hit gives the mark. -/
theorem maskMobiles_hit {before number rest : List Char} (hnumber : Number chars number)
    (hhit : (mobilePattern chars).hit ⟨before, number ++ rest⟩ = 11) :
    substituteFrom (mobilePattern chars).hit mobileMark 0 before (number ++ rest)
      = mobileMark ++ substituteFrom (mobilePattern chars).hit mobileMark 0
          (number.reverse ++ before) rest := by
  have hlength := hnumber.length_eq
  cases number with
  | nil => cases hlength
  | cons c w =>
      have hw : w.length = 10 := Nat.succ.inj hlength
      have hhit : (mobilePattern chars).hit ⟨before, c :: (w ++ rest)⟩ = 10 + 1 := hhit
      rw [List.cons_append, substituteFrom, hhit]
      show mobileMark ++ substituteFrom _ _ 10 (c :: before) (w ++ rest) = _
      rw [← hw, substituteFrom_skip, List.reverse_cons, List.append_assoc]
      rfl

/-- A word that is not hit at its beginning stays. -/
theorem maskMobiles_word {rest : List Char} (w : List Char) :
    ∀ before, (∀ c ∈ w, chars.word c = true) →
      (w ≠ [] → (mobilePattern chars).hit ⟨before, w ++ rest⟩ = 0) →
      substituteFrom (mobilePattern chars).hit mobileMark 0 before (w ++ rest)
        = w ++ substituteFrom (mobilePattern chars).hit mobileMark 0 (w.reverse ++ before) rest := by
  induction w with
  | nil =>
      intro before _ _
      rfl
  | cons c w ih =>
      intro before hw hhit
      rw [List.forall_mem_cons] at hw
      have hhit : (mobilePattern chars).hit ⟨before, c :: (w ++ rest)⟩ = 0 :=
        hhit (List.cons_ne_nil c w)
      rw [List.cons_append, substituteFrom, hhit]
      show c :: substituteFrom _ _ 0 (c :: before) (w ++ rest) = _
      rw [ih (c :: before) hw.2 ?_, List.reverse_cons, List.append_assoc]
      · rfl
      · -- inside a word
        intro hne
        apply hit_of_no_boundary
        cases w with
        | nil => exact absurd rfl hne
        | cons d w =>
            show chars.word c = chars.word d
            rw [hw.1, hw.2 d List.mem_cons_self]

/-- A character outside of words stays. -/
theorem maskMobiles_outside {before cs : List Char} {c : Char} (hc : chars.word c = false) :
    substituteFrom (mobilePattern chars).hit mobileMark 0 before (c :: cs)
      = c :: substituteFrom (mobilePattern chars).hit mobileMark 0 (c :: before) cs := by
  have hhit : (mobilePattern chars).hit ⟨before, c :: cs⟩ = 0 := by
    apply hit_of_outside
    intro d hd
    rw [← Option.some.inj hd]
    exact hc
  rw [substituteFrom, hhit]

/-! #### The numbers of a word -/

theorem ShownRun.length_eq {prev next : Option Char} {run : List Char}
    (h : ShownRun prev run next) : run.length = 11 :=
  h.1.length_eq

/-- The mark has no number. -/
theorem not_someRun_mark {prev last : Option Char} :
    ¬ SomeRun Char.isDigit ShownRun prev [] mobileMark last := by
  have hmark : mobileMark = ['1'] ++ '*' :: List.replicate 9 '*' := rfl
  rw [hmark, someRun_append (by decide)]
  rintro (h | h)
  · exact not_someRun_of_short (fun _ _ _ => ShownRun.length_eq) (by decide) h
  · exact not_someRun_of_short (fun _ _ _ => ShownRun.length_eq) (by decide) h

variable {prev next : Option Char} {w : List Char}

/-- In a word that has more than digits every number has a neighbour. -/
theorem someRun_exposed_word {acc : List Char} (hw : ∀ c ∈ w, chars.word c = true)
    (h : (∃ c ∈ prev, chars.word c = true) ∨ ∃ c ∈ w, c.isDigit = false) :
    SomeRun Char.isDigit (ExposedRun chars) prev acc w next ↔
      SomeRun Char.isDigit ShownRun prev acc w next := by
  induction w generalizing prev acc with
  | nil =>
      have hprev : ∃ c ∈ prev, chars.word c = true := h.resolve_right fun ⟨_, hc, _⟩ => by cases hc
      exact ⟨And.left, fun hrun => ⟨hrun, .inl hprev⟩⟩
  | cons c w ih =>
      rw [List.forall_mem_cons] at hw
      cases hc : c.isDigit with
      | true =>
          rw [someRun_cons_mem hc, someRun_cons_mem hc]
          apply ih hw.2
          rcases h with h | ⟨d, hd, hdigit⟩
          · exact .inl h
          · rcases List.mem_cons.mp hd with rfl | hd
            · rw [hc] at hdigit
              cases hdigit
            · exact .inr ⟨d, hd, hdigit⟩
      | false =>
          rw [someRun_cons hc, someRun_cons hc]
          refine or_congr ⟨And.left, fun hrun => ⟨hrun, .inr ⟨c, rfl, hw.1⟩⟩⟩ ?_
          exact ih hw.2 (.inl ⟨c, rfl, hw.1⟩)

theorem not_exposedRun (hprev : Outside chars prev) (hnext : Outside chars next)
    (run : List Char) : ¬ ExposedRun chars prev run next := by
  rintro ⟨-, ⟨c, hc, hword⟩ | ⟨c, hc, hword⟩⟩
  · rw [hprev c hc] at hword
    cases hword
  · rw [hnext c hc] at hword
    cases hword

/-- A word that is masked has no number with a neighbour. -/
theorem not_exposed_number (hnumber : Number chars w) (hprev : Outside chars prev)
    (hnext : Outside chars next) :
    ¬ SomeRun Char.isDigit (ExposedRun chars) prev [] w next := by
  by_cases hall : ∀ c ∈ w, c.isDigit = true
  · rw [someRun_of_all hall]
    exact not_exposedRun hprev hnext _
  · -- a digit outside ASCII cuts it into shorter ones
    push Not at hall
    obtain ⟨c, hc, hdigit⟩ := hall
    rw [ne_eq, Bool.not_eq_true] at hdigit
    obtain ⟨a, b, rfl⟩ := List.append_of_mem hc
    have hlength := hnumber.length_eq
    rw [List.length_append, List.length_cons] at hlength
    have hshort : ∀ (prev : Option Char) (run : List Char) (last : Option Char),
        ExposedRun chars prev run last → run.length = 11 := fun _ _ _ h => h.1.length_eq
    rw [someRun_append hdigit]
    rintro (h | h)
    · refine not_someRun_of_short hshort ?_ h
      rw [List.length_nil]
      omega
    · refine not_someRun_of_short hshort ?_ h
      rw [List.length_nil]
      omega

/-- A word that stays shows the numbers that it exposes. -/
theorem shown_word_iff {before rest : List Char} (hw : ∀ c ∈ w, chars.word c = true)
    (hhit : (mobilePattern chars).hit ⟨before, w ++ rest⟩ = 0)
    (hbefore : Outside chars before.head?) (hrest : Outside chars rest.head?) :
    SomeRun Char.isDigit ShownRun before.head? [] w rest.head? ↔
      SomeRun Char.isDigit (ExposedRun chars) before.head? [] w rest.head? := by
  by_cases hall : ∀ c ∈ w, c.isDigit = true
  · rw [someRun_of_all hall, someRun_of_all hall]
    refine iff_of_false (fun h => ?_) (not_exposedRun hbefore hrest _)
    exact hit_of_mobile h.1 hbefore hrest hhit
  · push Not at hall
    obtain ⟨c, hc, hdigit⟩ := hall
    exact (someRun_exposed_word hw (.inr ⟨c, hc, Bool.eq_false_iff.mpr hdigit⟩)).symm

/-! #### The numbers of a text -/

/-- A piece of a text that ends outside of words, and what becomes of it, can be taken off. -/
theorem someRun_after_piece {out before rest : List Char} (hrest : Outside chars rest.head?)
    (hpiece : SomeRun Char.isDigit ShownRun prev [] out rest.head? ↔
      SomeRun Char.isDigit (ExposedRun chars) prev [] w rest.head?)
    (htail : ∀ c tail, rest = c :: tail →
      (SomeRun Char.isDigit ShownRun (some c) []
          (substituteFrom (mobilePattern chars).hit mobileMark 0 (c :: before) tail) none ↔
        SomeRun Char.isDigit (ExposedRun chars) (some c) [] tail none)) :
    SomeRun Char.isDigit ShownRun prev []
        (out ++ substituteFrom (mobilePattern chars).hit mobileMark 0 before rest) none ↔
      SomeRun Char.isDigit (ExposedRun chars) prev [] (w ++ rest) none := by
  cases rest with
  | nil =>
      rw [substituteFrom, List.append_nil, List.append_nil]
      exact hpiece
  | cons c tail =>
      have hword : chars.word c = false := hrest c rfl
      have hdigit : c.isDigit = false := CharClasses.not_digit hword
      rw [maskMobiles_outside hword, someRun_append hdigit, someRun_append hdigit]
      exact or_congr hpiece (htail c tail rfl)

theorem outside_dropWhile (s : List Char) : Outside chars (s.dropWhile chars.word).head? := by
  intro c hc
  have hhead := List.head?_dropWhile_not chars.word s
  rw [Option.mem_def.mp hc] at hhead
  simpa using hhead

/-- **The numbers that are left in a text**: the induction is on its length, and a step takes
a number that is hit, or else a whole word. -/
theorem someRun_maskMobilesFrom (n : ℕ) : ∀ before s, s.length = n → Outside chars before.head? →
    (SomeRun Char.isDigit ShownRun before.head? []
        (substituteFrom (mobilePattern chars).hit mobileMark 0 before s) none ↔
      SomeRun Char.isDigit (ExposedRun chars) before.head? [] s none) := by
  induction n using Nat.strong_induction_on with
  | _ n ih =>
    intro before s hlength hbefore
    have htail : ∀ piece rest before', s = piece ++ rest → Outside chars rest.head? →
        ∀ c tail, rest = c :: tail →
          (SomeRun Char.isDigit ShownRun (some c) []
              (substituteFrom (mobilePattern chars).hit mobileMark 0 (c :: before') tail) none ↔
            SomeRun Char.isDigit (ExposedRun chars) (some c) [] tail none) := by
      rintro piece rest before' rfl hrest c tail rfl
      rw [List.length_append, List.length_cons] at hlength
      exact ih tail.length (by omega) (c :: before') tail rfl hrest
    by_cases hhit : (mobilePattern chars).hit ⟨before, s⟩ = 0
    · -- the word at the beginning, which may be empty, stays
      obtain ⟨rest, hdrop⟩ : ∃ rest, s.dropWhile chars.word = rest := ⟨_, rfl⟩
      have hrest : Outside chars rest.head? := hdrop ▸ outside_dropWhile s
      have hsplit : s = s.takeWhile chars.word ++ rest := by
        rw [← hdrop, List.takeWhile_append_dropWhile]
      have hword : ∀ c ∈ s.takeWhile chars.word, chars.word c = true :=
        fun c hc => List.mem_takeWhile_imp hc
      generalize s.takeWhile chars.word = w at hsplit hword
      subst hsplit
      rw [maskMobiles_word w before hword fun _ => hhit]
      apply someRun_after_piece hrest (shown_word_iff hword hhit hbefore hrest)
      exact htail w rest _ rfl hrest
    · -- a number at the beginning is marked
      obtain ⟨heleven, number, rest, hnumber, rfl, -, hrest⟩ :=
        (hit_cases before s).resolve_left hhit
      rw [maskMobiles_hit hnumber heleven]
      apply someRun_after_piece hrest
      · exact iff_of_false not_someRun_mark (not_exposed_number hnumber hbefore hrest)
      · exact htail number rest _ rfl hrest

end Mobiles

/-- **The numbers that a mask shows** are those with a word character next to them. -/
theorem shows_maskText {chars : CharClasses} {s : String} :
    Shows (maskText chars s) ↔ Exposed chars s := by
  have hmobiles := @someRun_maskMobilesFrom chars s.toList.length [] s.toList rfl nofun
  have hnames := someRun_maskNames (maskMobiles chars s.toList)
  have htext : (maskText chars s).toList = maskNames (maskMobiles chars s.toList) :=
    String.toList_ofList
  calc Shows (maskText chars s)
      ↔ SomeRun Char.isDigit ShownRun none [] (maskText chars s).toList none :=
        (someRun_iff (Q := ShownRun)).symm
    _ ↔ SomeRun Char.isDigit ShownRun none [] (maskMobiles chars s.toList) none := by
        rw [htext, hnames]
    _ ↔ SomeRun Char.isDigit (ExposedRun chars) none [] s.toList none := hmobiles
    _ ↔ Exposed chars s := someRun_iff (Q := ExposedRun chars)

end ChaosDemo
