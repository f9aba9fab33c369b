/-
ChaosDemo/JsonReader.lean

Reading JSON: `json.loads` as a reader from the front.  Every part takes what is its own off
the text and leaves the rest,

    read (write v ++ rest) = some (v, rest)

and these facts go together along the value (`readValue_dumps`).  Only a number is not told
apart from what follows by its own last character; it ends where a comma, a bracket or a line
ends it (`Delimited`).

The text of a float and its reading are parameters; what is used of them is in `FloatFormat`.
The reader takes fuel, and the length of the text is enough.
-/
import Mathlib.Data.List.TakeWhile
import ChaosDemo.JsonText
import ChaosDemo.Traffic

namespace ChaosDemo

/-! ### Characters -/

/-- The whitespace of JSON. -/
def isJsonBlank (c : Char) : Bool := c = ' ' || c = '\t' || c = '\n' || c = '\r'

def skipBlanks (cs : List Char) : List Char := cs.dropWhile isJsonBlank

/-- The value of a hexadecimal digit, in either case. -/
def hexDigit? (c : Char) : Option ℕ :=
  if '0' ≤ c ∧ c ≤ '9' then some (c.toNat - 48)
  else if 'a' ≤ c ∧ c ≤ 'f' then some (c.toNat - 87)
  else if 'A' ≤ c ∧ c ≤ 'F' then some (c.toNat - 55)
  else none

/-- Four hexadecimal digits. -/
def readHex4 : List Char → Option (ℕ × List Char)
  | a :: b :: c :: d :: rest => do
      let a ← hexDigit? a
      let b ← hexDigit? b
      let c ← hexDigit? c
      let d ← hexDigit? d
      some (4096 * a + 256 * b + 16 * c + d, rest)
  | _ => none

/-- What stands for a character after a backslash, `u` apart. -/
def readEscape (c : Char) : Option Char :=
  if c = '"' then some '"'
  else if c = '\\' then some '\\'
  else if c = '/' then some '/'
  else if c = 'b' then some (Char.ofNat 8)
  else if c = 'f' then some (Char.ofNat 12)
  else if c = 'n' then some '\n'
  else if c = 'r' then some '\r'
  else if c = 't' then some '\t'
  else none

/-- The character behind `\u`.  Two halves of a pair are one character; a half alone is none. -/
def readUnicode (cs : List Char) : Option (Char × List Char) := do
  let (n, rest) ← readHex4 cs
  if 0xD800 ≤ n ∧ n < 0xDC00 then
    match rest with
    | '\\' :: 'u' :: rest => do
        let (m, rest) ← readHex4 rest
        if 0xDC00 ≤ m ∧ m < 0xE000 then
          some (Char.ofNat (0x10000 + (n - 0xD800) * 0x400 + (m - 0xDC00)), rest)
        else none
    | _ => none
  else if 0xDC00 ≤ n ∧ n < 0xE000 then none
  else some (Char.ofNat n, rest)

/-- The character behind a backslash. -/
def readEscaped : List Char → Option (Char × List Char)
  | [] => none
  | e :: rest => if e = 'u' then readUnicode rest else (readEscape e).map fun c => (c, rest)

/-- The first character of the text of a string.  A control character is an error. -/
def readStringChar : List Char → Option (Char × List Char)
  | [] => none
  | c :: rest =>
      if c = '\\' then readEscaped rest
      else if c.toNat < 32 then none
      else some (c, rest)

/-- The characters of a string up to the quote that ends it. -/
def readChars : ℕ → List Char → Option (List Char × List Char)
  | 0, _ => none
  | _ + 1, [] => none
  | n + 1, c :: rest =>
      if c = '"' then some ([], rest)
      else do
        let (first, rest) ← readStringChar (c :: rest)
        let (chars, rest) ← readChars n rest
        some (first :: chars, rest)

/-! ### Numbers -/

/-- At least one digit behind `front`; without one, `front` is left with the rest. -/
def scanBehind (front cs : List Char) : List Char × List Char :=
  if (cs.span Char.isDigit).1 = [] then ([], front ++ cs)
  else (front ++ (cs.span Char.isDigit).1, (cs.span Char.isDigit).2)

/-- A fraction: a point and at least one digit. -/
def scanFraction : List Char → List Char × List Char
  | [] => ([], [])
  | c :: cs => if c = '.' then scanBehind [c] cs else ([], c :: cs)

/-- The sign of an exponent. -/
def scanSign : List Char → List Char × List Char
  | [] => ([], [])
  | c :: cs => if c = '+' ∨ c = '-' then ([c], cs) else ([], c :: cs)

/-- An exponent: its letter, a sign or none, and at least one digit. -/
def scanExponent : List Char → List Char × List Char
  | [] => ([], [])
  | c :: cs =>
      if c = 'e' ∨ c = 'E' then scanBehind (c :: (scanSign cs).1) (scanSign cs).2
      else ([], c :: cs)

/-- The digits of an integer, without a zero in front. -/
def scanDigits : List Char → Option (List Char × List Char)
  | [] => none
  | c :: cs =>
      if c = '0' then some ([c], cs)
      else if c.isDigit then some (c :: (cs.span Char.isDigit).1, (cs.span Char.isDigit).2)
      else none

/-- A minus sign, or none, and what is behind it. -/
def scanMinus : List Char → Bool × List Char
  | [] => (false, [])
  | c :: cs => if c = '-' then (true, cs) else (false, c :: cs)

/-- What makes a float of a number: a fraction, an exponent. -/
def scanTail (cs : List Char) : List Char × List Char :=
  ((scanFraction cs).1 ++ (scanExponent (scanFraction cs).2).1, (scanExponent (scanFraction cs).2).2)

/-- A number as JSON writes it, `(-?(?:0|[1-9]\d*))(\.\d+)?([eE][-+]?\d+)?`: its sign, its
integer part, what makes a float of it, and the rest. -/
def scanNumber (cs : List Char) : Option (Bool × List Char × List Char × List Char) :=
  (scanDigits (scanMinus cs).2).map fun r =>
    ((scanMinus cs).1, r.1, (scanTail r.2).1, (scanTail r.2).2)

/-- An integer by its sign and digits. -/
def intOf (negative : Bool) (digits : List Char) : ℤ :=
  if negative then -(Nat.ofDigitChars 10 digits 0 : ℤ) else Nat.ofDigitChars 10 digits 0

/-- How floats are written (`repr`) and read (`float`).  A float is written on one line with a
fraction or an exponent, and read back as it was. -/
structure FloatFormat where
  text : ℚ → String
  read : List Char → PyFloat
  isFloat : ℚ → Prop
  literal : ∀ q, isFloat q → ∃ negative digits tail, tail ≠ [] ∧
    scanNumber (text q).toList = some (negative, digits, tail, []) ∧
    (text q).toList = (if negative then ['-'] else []) ++ digits ++ tail
  oneLine : ∀ q, isFloat q → ∀ c ∈ (text q).toList, c ≠ '\n' ∧ c ≠ '\r'
  read_text : ∀ q, isFloat q → read (text q).toList = .fin q

/-! ### Values -/

/-- The number at the front of the text. -/
def readNumber (read : List Char → PyFloat) (cs : List Char) : Option (PyJson × List Char) := do
  let (negative, digits, tail, rest) ← scanNumber cs
  if tail = [] then some (.int (intOf negative digits), rest)
  else some (.float (read ((if negative then ['-'] else []) ++ digits ++ tail)), rest)

/-- `dict(pairs)`: a later pair takes the place of an earlier one of its key. -/
def pyDict (fields : List (String × PyJson)) : List (String × PyJson) :=
  fields.foldl (fun d f =>
    if d.any (·.1 = f.1) then d.map fun g => if g.1 = f.1 then f else g else d ++ [f]) []

/-- A word at the front of the text. -/
def readWord (word : List Char) (v : PyJson) (cs : List Char) : Option (PyJson × List Char) :=
  if word.isPrefixOf cs then some (v, cs.drop word.length) else none

mutual

/-- The value at the front of the text. -/
def readValue (read : List Char → PyFloat) : ℕ → List Char → Option (PyJson × List Char)
  | 0, _ => none
  | _ + 1, [] => none
  | n + 1, c :: rest =>
      if c = '"' then (readChars n rest).map fun s => (.str (String.ofList s.1), s.2)
      else if c = '[' then
        if (skipBlanks rest).head? = some ']' then some (.arr [], (skipBlanks rest).tail)
        else (readItems read n (skipBlanks rest)).map fun r => (.arr r.1, r.2)
      else if c = '\x7b' then
        if (skipBlanks rest).head? = some '\x7d' then some (.obj [], (skipBlanks rest).tail)
        else (readFields read n (skipBlanks rest)).map fun r => (.obj (pyDict r.1), r.2)
      else
        (readWord "null".toList .null (c :: rest)).or <|
        (readWord "true".toList (.bool true) (c :: rest)).or <|
        (readWord "false".toList (.bool false) (c :: rest)).or <|
        (readWord "NaN".toList (.float .nan) (c :: rest)).or <|
        (readWord "Infinity".toList (.float (.inf false)) (c :: rest)).or <|
        (readWord "-Infinity".toList (.float (.inf true)) (c :: rest)).or <|
        readNumber read (c :: rest)

/-- The items of an array that is not empty, with the bracket that ends it. -/
def readItems (read : List Char → PyFloat) : ℕ → List Char → Option (List PyJson × List Char)
  | 0, _ => none
  | n + 1, cs => do
      let (v, rest) ← readValue read n cs
      match skipBlanks rest with
      | [] => none
      | c :: rest =>
          if c = ',' then (readItems read n (skipBlanks rest)).map fun r => (v :: r.1, r.2)
          else if c = ']' then some ([v], rest)
          else none

/-- The fields of an object that is not empty, with the brace that ends it. -/
def readFields (read : List Char → PyFloat) :
    ℕ → List Char → Option (List (String × PyJson) × List Char)
  | 0, _ => none
  | _ + 1, [] => none
  | n + 1, q :: cs =>
      if q = '"' then do
        let (key, rest) ← readChars n cs
        match skipBlanks rest with
        | [] => none
        | colon :: rest =>
            if colon = ':' then do
              let (v, rest) ← readValue read n (skipBlanks rest)
              match skipBlanks rest with
              | [] => none
              | c :: rest =>
                  if c = ',' then (readFields read n (skipBlanks rest)).map fun r =>
                    ((String.ofList key, v) :: r.1, r.2)
                  else if c = '\x7d' then some ([(String.ofList key, v)], rest)
                  else none
            else none
      else none

end

theorem hexDigit_digit : ∀ n < 16,
    hexDigit? ("0123456789abcdef".toList.getD n '0') = some n := by
  decide

/-- **A character reads back.** -/
theorem readStringChar_jsonChar (c : Char) (rest : List Char) :
    readStringChar ((jsonChar c).toList ++ rest) = some (c, rest) := by
  unfold jsonChar
  split
  · next h =>
      subst h
      rfl
  split
  · next h =>
      subst h
      rfl
  split
  · next h =>
      subst h
      rfl
  split
  · next h =>
      subst h
      rfl
  split
  · next h =>
      subst h
      rfl
  split
  · next h =>
      rw [← Char.ofNat_toNat c, h]
      rfl
  split
  · next h =>
      rw [← Char.ofNat_toNat c, h]
      rfl
  split
  · next h =>
      -- the code of a control character has two hexadecimal digits
      have hhex : readHex4 ('0' :: '0' :: "0123456789abcdef".toList.getD (c.toNat / 16) '0' ::
          "0123456789abcdef".toList.getD (c.toNat % 16) '0' :: rest) = some (c.toNat, rest) := by
        have hvalue : 4096 * 0 + 256 * 0 + 16 * (c.toNat / 16) + c.toNat % 16 = c.toNat := by omega
        have hzero : hexDigit? '0' = some 0 := rfl
        simp only [readHex4, hzero, hexDigit_digit _ (show c.toNat / 16 < 16 by omega),
          hexDigit_digit _ (Nat.mod_lt c.toNat (by decide : 0 < 16)), Option.bind_eq_bind,
          Option.bind_some, hvalue]
      rw [String.toList_append, hexByte_toList]
      show readUnicode _ = _
      rw [readUnicode]
      show (readHex4 ('0' :: '0' :: _ :: _ :: rest) >>= _) = _
      rw [hhex, Option.bind_eq_bind, Option.bind_some]
      dsimp only
      rw [if_neg (by omega), if_neg (by omega), Char.ofNat_toNat]
  · next _ hslash _ _ _ _ _ hcontrol =>
      rw [String.toList_ofList]
      show readStringChar (c :: rest) = _
      rw [readStringChar, if_neg hslash, if_neg hcontrol]

theorem jsonChar_ne_nil (c : Char) : (jsonChar c).toList ≠ [] := by
  intro hnil
  have hread := readStringChar_jsonChar c []
  rw [hnil] at hread
  cases hread

/-- **The characters of a string read back.** -/
theorem readChars_jsonString (s rest : List Char) {n : ℕ} (hn : s.length < n) :
    readChars n (s.flatMap (fun c => (jsonChar c).toList) ++ '"' :: rest) = some (s, rest) := by
  induction s generalizing n with
  | nil =>
      cases n with
      | zero => exact absurd hn (Nat.not_lt_zero _)
      | succ n => rfl
  | cons c s ih =>
      cases n with
      | zero => exact absurd hn (Nat.not_lt_zero _)
      | succ n =>
          have hs : s.length < n := Nat.lt_of_succ_lt_succ hn
          have hread := readStringChar_jsonChar c
            (s.flatMap (fun c => (jsonChar c).toList) ++ '"' :: rest)
          rw [List.flatMap_cons, List.append_assoc]
          rcases hc : (jsonChar c).toList ++
              (s.flatMap (fun c => (jsonChar c).toList) ++ '"' :: rest) with - | ⟨a, cs⟩
          · exact absurd (List.append_eq_nil_iff.mp hc).1 (jsonChar_ne_nil c)
          · have hquote : a ≠ '"' := by
              rintro rfl
              exact jsonChar_ne_quote c _ _ hc
            rw [hc] at hread
            rw [readChars, if_neg hquote, hread, Option.bind_eq_bind, Option.bind_some]
            dsimp only
            rw [ih hs]
            rfl

/-! ### Numbers read back -/

/-- What can follow a value: nothing, or what ends it. -/
def Delimited (rest : List Char) : Prop :=
  ∀ c ∈ rest.head?, c = ',' ∨ c = ']' ∨ c = '\x7d' ∨ c = '\n'

theorem delimited_cons {c : Char} {rest : List Char}
    (h : c = ',' ∨ c = ']' ∨ c = '\x7d' ∨ c = '\n') : Delimited (c :: rest) := by
  intro d hd
  obtain rfl : c = d := Option.some.inj hd
  exact h

theorem Delimited.not_isDigit {rest : List Char} (h : Delimited rest) :
    ∀ c ∈ rest.head?, c.isDigit = false := by
  intro c hc
  rcases h c hc with rfl | rfl | rfl | rfl <;> rfl

/-- Where the rest begins otherwise, what satisfies `p` ends with the text. -/
theorem span_append {p : Char → Bool} {rest : List Char} (h : ∀ c ∈ rest.head?, p c = false)
    (l : List Char) :
    (l ++ rest).span p = ((l.span p).1, (l.span p).2 ++ rest) := by
  simp only [List.span_eq_takeWhile_dropWhile]
  induction l with
  | nil =>
      cases rest with
      | nil => rfl
      | cons c rest =>
          have hc : p c = false := h c rfl
          simp [hc]
  | cons c l ih =>
      cases hc : p c with
      | false => simp [hc]
      | true =>
          obtain ⟨htake, hdrop⟩ := Prod.mk.inj ih
          simp [hc, htake, hdrop]

section Delimited

variable {rest : List Char} (hrest : Delimited rest)

include hrest

theorem scanDigits_append {cs digits after : List Char}
    (h : scanDigits cs = some (digits, after)) :
    scanDigits (cs ++ rest) = some (digits, after ++ rest) := by
  cases cs with
  | nil => cases h
  | cons c cs =>
      show scanDigits (c :: (cs ++ rest)) = _
      rw [scanDigits] at h ⊢
      by_cases hzero : c = '0'
      · rw [if_pos hzero] at h ⊢
        obtain ⟨rfl, rfl⟩ := Prod.mk.inj (Option.some.inj h)
        rfl
      · rw [if_neg hzero] at h ⊢
        by_cases hdigit : c.isDigit = true
        · rw [if_pos hdigit] at h ⊢
          obtain ⟨rfl, rfl⟩ := Prod.mk.inj (Option.some.inj h)
          rw [span_append hrest.not_isDigit]
        · rw [if_neg hdigit] at h
          cases h

theorem scanBehind_append (front cs : List Char) :
    scanBehind front (cs ++ rest) = ((scanBehind front cs).1, (scanBehind front cs).2 ++ rest) := by
  simp only [scanBehind, span_append hrest.not_isDigit]
  split
  · rw [List.append_assoc]
  · rfl

theorem scanFraction_append (cs : List Char) :
    scanFraction (cs ++ rest) = ((scanFraction cs).1, (scanFraction cs).2 ++ rest) := by
  cases cs with
  | nil =>
      cases rest with
      | nil => rfl
      | cons c rest =>
          have hpoint : c ≠ '.' := by
            rcases hrest c rfl with rfl | rfl | rfl | rfl <;> decide
          show scanFraction (c :: rest) = ([], c :: rest)
          rw [scanFraction, if_neg hpoint]
  | cons c cs =>
      show scanFraction (c :: (cs ++ rest)) = _
      rw [scanFraction, scanFraction]
      split
      · exact scanBehind_append hrest _ _
      · rfl

theorem scanSign_append (cs : List Char) :
    scanSign (cs ++ rest) = ((scanSign cs).1, (scanSign cs).2 ++ rest) := by
  cases cs with
  | nil =>
      cases rest with
      | nil => rfl
      | cons c rest =>
          have hsign : ¬ (c = '+' ∨ c = '-') := by
            rcases hrest c rfl with rfl | rfl | rfl | rfl <;> decide
          show scanSign (c :: rest) = ([], c :: rest)
          rw [scanSign, if_neg hsign]
  | cons c cs =>
      show scanSign (c :: (cs ++ rest)) = _
      rw [scanSign, scanSign]
      split <;> rfl

theorem scanExponent_append (cs : List Char) :
    scanExponent (cs ++ rest) = ((scanExponent cs).1, (scanExponent cs).2 ++ rest) := by
  cases cs with
  | nil =>
      cases rest with
      | nil => rfl
      | cons c rest =>
          have hletter : ¬ (c = 'e' ∨ c = 'E') := by
            rcases hrest c rfl with rfl | rfl | rfl | rfl <;> decide
          show scanExponent (c :: rest) = ([], c :: rest)
          rw [scanExponent, if_neg hletter]
  | cons c cs =>
      show scanExponent (c :: (cs ++ rest)) = _
      rw [scanExponent, scanExponent]
      split
      · rw [scanSign_append hrest]
        exact scanBehind_append hrest _ _
      · rfl

theorem scanTail_append (cs : List Char) :
    scanTail (cs ++ rest) = ((scanTail cs).1, (scanTail cs).2 ++ rest) := by
  simp only [scanTail, scanFraction_append hrest, scanExponent_append hrest]

/-- **A number ends where it is delimited.** -/
theorem scanNumber_append {cs digits tail after : List Char} {negative : Bool}
    (h : scanNumber cs = some (negative, digits, tail, after)) :
    scanNumber (cs ++ rest) = some (negative, digits, tail, after ++ rest) := by
  cases cs with
  | nil => cases h
  | cons c cs =>
      have hminus : scanMinus (c :: cs ++ rest) =
          ((scanMinus (c :: cs)).1, (scanMinus (c :: cs)).2 ++ rest) := by
        show scanMinus (c :: (cs ++ rest)) = _
        rw [scanMinus, scanMinus]
        split <;> rfl
      obtain ⟨⟨ds, r⟩, hdigits, hparts⟩ := Option.map_eq_some_iff.mp h
      simp only [Prod.mk.injEq] at hparts
      obtain ⟨hneg, rfl, htail, hafter⟩ := hparts
      rw [scanNumber, hminus, scanDigits_append hrest hdigits, Option.map_some]
      simp only [scanTail_append hrest, hneg, htail, hafter]

end Delimited

/-- The digits of a number begin with a zero only if it is zero. -/
theorem toDigits_head {n : ℕ} (hn : 0 < n) :
    ∃ c cs, Nat.toDigits 10 n = c :: cs ∧ c ≠ '0' := by
  induction n using Nat.strongRecOn with
  | ind n ih =>
      rw [Nat.toDigits_eq_if (by decide : 1 < 10)]
      split
      · next hlt =>
          refine ⟨n.digitChar, [], rfl, ?_⟩
          have hdigit : ∀ m < 10, 0 < m → m.digitChar ≠ '0' := by decide
          exact hdigit n hlt hn
      · next hge =>
          obtain ⟨c, cs, hcs, hc⟩ := ih (n / 10) (by omega) (by omega)
          rw [hcs]
          exact ⟨c, _, rfl, hc⟩

theorem scanDigits_toDigits (n : ℕ) : scanDigits (Nat.toDigits 10 n) = some (Nat.toDigits 10 n, []) := by
  rcases Nat.eq_zero_or_pos n with rfl | hn
  · rfl
  · obtain ⟨c, cs, hcs, hc⟩ := toDigits_head hn
    have hall : ∀ d ∈ c :: cs, d.isDigit = true := by
      rw [← hcs]
      exact fun d hd => Nat.isDigit_of_mem_toDigits (by decide) (by decide) hd
    obtain ⟨hfirst, hothers⟩ := List.forall_mem_cons.mp hall
    have htake : cs.takeWhile Char.isDigit = cs := List.takeWhile_eq_self_iff.mpr hothers
    have hdrop : cs.dropWhile Char.isDigit = [] := List.dropWhile_eq_nil_iff.mpr hothers
    rw [hcs, scanDigits, if_neg hc, if_pos hfirst, List.span_eq_takeWhile_dropWhile, htake, hdrop]

theorem toString_int (i : ℤ) : (toString i).toList =
    (if i < 0 then ['-'] else []) ++ Nat.toDigits 10 i.natAbs := by
  cases i with
  | ofNat n =>
      rw [if_neg (by simp)]
      exact Nat.toList_repr
  | negSucc n =>
      rw [if_pos (Int.negSucc_lt_zero n)]
      show ("-" ++ (n + 1).repr).toList = _
      rw [String.toList_append, Nat.toList_repr]
      rfl

theorem scanNumber_int (i : ℤ) : scanNumber (toString i).toList =
    some (decide (i < 0), Nat.toDigits 10 i.natAbs, [], []) := by
  have hminus : scanMinus (toString i).toList = (decide (i < 0), Nat.toDigits 10 i.natAbs) := by
    rw [toString_int]
    by_cases hneg : i < 0
    · rw [if_pos hneg, decide_eq_true hneg]
      rfl
    · rw [if_neg hneg, decide_eq_false hneg, List.nil_append]
      rcases hcs : Nat.toDigits 10 i.natAbs with - | ⟨c, cs⟩
      · rfl
      · have hc : c.isDigit = true :=
          Nat.isDigit_of_mem_toDigits (by decide) (by decide) (hcs ▸ List.mem_cons_self)
        have hminus : c ≠ '-' := by
          rintro rfl
          exact absurd hc (by decide)
        rw [scanMinus, if_neg hminus]
  rw [scanNumber, hminus, scanDigits_toDigits]
  rfl

/-- **An integer reads back.** -/
theorem readNumber_int (read : List Char → PyFloat) (i : ℤ) {rest : List Char}
    (hrest : Delimited rest) :
    readNumber read ((toString i).toList ++ rest) = some (.int i, rest) := by
  have hvalue : intOf (decide (i < 0)) (Nat.toDigits 10 i.natAbs) = i := by
    rw [intOf, Nat.ofDigitChars_ten_toDigits]
    by_cases hneg : i < 0
    · rw [decide_eq_true hneg, if_pos rfl]
      omega
    · rw [decide_eq_false hneg, if_neg Bool.false_ne_true]
      omega
  rw [readNumber, scanNumber_append hrest (scanNumber_int i), Option.bind_eq_bind, Option.bind_some]
  dsimp only
  rw [if_pos rfl, hvalue]
  rfl

/-- **A float reads back.** -/
theorem readNumber_float (format : FloatFormat) {q : ℚ} (hq : format.isFloat q) {rest : List Char}
    (hrest : Delimited rest) :
    readNumber format.read ((format.text q).toList ++ rest) = some (.float (.fin q), rest) := by
  obtain ⟨negative, digits, tail, htail, hscan, htext⟩ := format.literal q hq
  rw [readNumber, scanNumber_append hrest hscan, Option.bind_eq_bind, Option.bind_some]
  dsimp only
  rw [if_neg htail, ← htext, format.read_text q hq]
  rfl

/-! ### Values read back -/

/-- A value that Python can have: its floats are floats, and no dictionary has a key twice. -/
inductive Dumpable (format : FloatFormat) : PyJson → Prop
  | null : Dumpable format .null
  | bool (b : Bool) : Dumpable format (.bool b)
  | int (i : ℤ) : Dumpable format (.int i)
  | fin {q : ℚ} (h : format.isFloat q) : Dumpable format (.float (.fin q))
  | inf (negative : Bool) : Dumpable format (.float (.inf negative))
  | nan : Dumpable format (.float .nan)
  | str (s : String) : Dumpable format (.str s)
  | arr {items : List PyJson} (h : ∀ v ∈ items, Dumpable format v) : Dumpable format (.arr items)
  | obj {fields : List (String × PyJson)} (hkeys : (fields.map Prod.fst).Nodup)
      (h : ∀ f ∈ fields, Dumpable format f.2) : Dumpable format (.obj fields)

namespace Dumpable

variable {format : FloatFormat}

theorem isFloat {q : ℚ} (h : Dumpable format (.float (.fin q))) : format.isFloat q := by
  cases h with
  | fin h => exact h

theorem items {items : List PyJson} (h : Dumpable format (.arr items)) :
    ∀ v ∈ items, Dumpable format v := by
  cases h with
  | arr h => exact h

theorem keys {fields : List (String × PyJson)} (h : Dumpable format (.obj fields)) :
    (fields.map Prod.fst).Nodup := by
  cases h with
  | obj hkeys _ => exact hkeys

theorem fields {fields : List (String × PyJson)} (h : Dumpable format (.obj fields)) :
    ∀ f ∈ fields, Dumpable format f.2 := by
  cases h with
  | obj _ h => exact h

end Dumpable

variable {format : FloatFormat}

/-- Where no key is there twice, `dict` changes nothing. -/
theorem pyDict_of_nodup {fields : List (String × PyJson)} (h : (fields.map Prod.fst).Nodup) :
    pyDict fields = fields := by
  have hfold : ∀ (fields d : List (String × PyJson)), ((d ++ fields).map Prod.fst).Nodup →
      fields.foldl (fun d f =>
        if d.any (·.1 = f.1) then d.map fun g => if g.1 = f.1 then f else g else d ++ [f]) d =
          d ++ fields := by
    intro fields
    induction fields with
    | nil => simp
    | cons f fields ih =>
        intro d hnodup
        have hnew : (d.any fun g => decide (g.1 = f.1)) = false := by
          rw [List.any_eq_false]
          intro g hg
          rw [List.map_append, List.map_cons, List.nodup_append] at hnodup
          have hne := hnodup.2.2 g.1 (List.mem_map_of_mem hg) f.1 List.mem_cons_self
          rw [decide_eq_true_iff]
          exact hne
        rw [List.foldl_cons, hnew, if_neg Bool.false_ne_true, ih]
        · rw [List.append_assoc]
          rfl
        · rw [List.append_assoc]
          exact hnodup
  exact hfold fields [] h

theorem skipBlanks_cons {c : Char} (cs : List Char) (h : isJsonBlank c = false) :
    skipBlanks (c :: cs) = c :: cs := by
  rw [skipBlanks, List.dropWhile_cons_of_neg (by rw [h]; exact Bool.false_ne_true)]

theorem skipBlanks_space (cs : List Char) : skipBlanks (' ' :: cs) = skipBlanks cs := rfl

/-- A number begins with a digit, or with a minus sign and a digit. -/
theorem scanNumber_head {c : Char} {cs : List Char}
    (h : scanNumber (c :: cs) ≠ none) :
    c.isDigit = true ∨ c = '-' ∧ ∃ d ds, cs = d :: ds ∧ d.isDigit = true := by
  have hdigits : ∀ {cs : List Char}, scanDigits cs ≠ none →
      ∃ d ds, cs = d :: ds ∧ d.isDigit = true := by
    intro cs hcs
    cases cs with
    | nil => exact absurd rfl hcs
    | cons d ds =>
        refine ⟨d, ds, rfl, ?_⟩
        by_contra hd
        have hzero : d ≠ '0' := by
          rintro rfl
          exact hd rfl
        exact hcs (by rw [scanDigits, if_neg hzero, if_neg hd])
  have hsome : scanDigits (scanMinus (c :: cs)).2 ≠ none := by
    intro hnone
    exact h (by rw [scanNumber, hnone, Option.map_none])
  rw [scanMinus] at hsome
  by_cases hminus : c = '-'
  · rw [if_pos hminus] at hsome
    exact .inr ⟨hminus, hdigits hsome⟩
  · rw [if_neg hminus] at hsome
    obtain ⟨d, ds, hcs, hd⟩ := hdigits hsome
    obtain ⟨rfl, rfl⟩ := List.cons.inj hcs
    exact .inl hd

theorem readWord_of_ne {a c : Char} (word : List Char) (v : PyJson) (cs : List Char)
    (h : a ≠ c) : readWord (a :: word) v (c :: cs) = none := by
  rw [readWord, List.isPrefixOf, beq_eq_false_iff_ne.mpr h, Bool.false_and,
    if_neg Bool.false_ne_true]

theorem readWord_of_second_ne {a b c : Char} (word : List Char) (v : PyJson) (cs : List Char)
    (h : b ≠ c) : readWord (a :: b :: word) v (a :: c :: cs) = none := by
  rw [readWord, List.isPrefixOf, List.isPrefixOf, beq_eq_false_iff_ne.mpr h, Bool.false_and,
    Bool.and_false, if_neg Bool.false_ne_true]

theorem null_chars : "null".toList = ['n', 'u', 'l', 'l'] := rfl

theorem true_chars : "true".toList = ['t', 'r', 'u', 'e'] := rfl

theorem false_chars : "false".toList = ['f', 'a', 'l', 's', 'e'] := rfl

theorem nan_chars : "NaN".toList = ['N', 'a', 'N'] := rfl

theorem infinity_chars : "Infinity".toList = ['I', 'n', 'f', 'i', 'n', 'i', 't', 'y'] := rfl

theorem negInfinity_chars :
    "-Infinity".toList = ['-', 'I', 'n', 'f', 'i', 'n', 'i', 't', 'y'] := rfl

/-- What begins as a number is read as one. -/
theorem readValue_number (read : List Char → PyFloat) (n : ℕ) {cs : List Char}
    (h : scanNumber cs ≠ none) : readValue read (n + 1) cs = readNumber read cs := by
  cases cs with
  | nil => exact absurd rfl h
  | cons c cs =>
      have hne : ∀ a : Char, a.isDigit = false → a ≠ '-' → a ≠ c := by
        rintro a ha hminus rfl
        rcases scanNumber_head h with hdigit | ⟨rfl, -⟩
        · rw [ha] at hdigit
          cases hdigit
        · exact hminus rfl
      have hinf : readWord "-Infinity".toList (.float (.inf true)) (c :: cs) = none := by
        rcases scanNumber_head h with hdigit | ⟨rfl, d, ds, rfl, hd⟩
        · rw [negInfinity_chars]
          apply readWord_of_ne
          rintro rfl
          exact absurd hdigit (by decide)
        · rw [negInfinity_chars]
          apply readWord_of_second_ne
          rintro rfl
          exact absurd hd (by decide)
      rw [readValue, if_neg (hne '"' rfl (by decide)).symm, if_neg (hne '[' rfl (by decide)).symm,
        if_neg (hne '\x7b' rfl (by decide)).symm, hinf, null_chars, true_chars, false_chars,
        nan_chars, infinity_chars, readWord_of_ne _ _ _ (hne 'n' rfl (by decide)),
        readWord_of_ne _ _ _ (hne 't' rfl (by decide)),
        readWord_of_ne _ _ _ (hne 'f' rfl (by decide)),
        readWord_of_ne _ _ _ (hne 'N' rfl (by decide)),
        readWord_of_ne _ _ _ (hne 'I' rfl (by decide))]
      simp only [Option.none_or]

/-- The text of a value begins with a character that is no blank and ends nothing. -/
theorem dumps_head {v : PyJson} (hv : Dumpable format v) :
    ∃ c cs, dumps format.text v = c :: cs ∧ isJsonBlank c = false ∧ c ≠ ']' ∧ c ≠ '\x7d' := by
  have hnumber : ∀ {cs : List Char}, scanNumber cs ≠ none →
      ∃ c cs', cs = c :: cs' ∧ isJsonBlank c = false ∧ c ≠ ']' ∧ c ≠ '\x7d' := by
    intro cs hcs
    cases cs with
    | nil => exact absurd rfl hcs
    | cons c cs =>
        refine ⟨c, cs, rfl, ?_⟩
        rcases scanNumber_head hcs with hdigit | ⟨rfl, -⟩
        · have hne : ∀ a : Char, a.isDigit = false → c ≠ a := by
            rintro a ha rfl
            rw [ha] at hdigit
            cases hdigit
          refine ⟨?_, hne ']' rfl, hne '\x7d' rfl⟩
          simp only [isJsonBlank, hne ' ' rfl, hne '\t' rfl, hne '\n' rfl, hne '\r' rfl,
            decide_false, Bool.or_self]
        · decide
  cases v with
  | null => exact ⟨'n', _, rfl, by decide⟩
  | bool b => cases b <;> exact ⟨_, _, rfl, by decide⟩
  | int i =>
      apply hnumber
      show scanNumber (toString i).toList ≠ none
      rw [scanNumber_int]
      exact Option.some_ne_none _
  | float x =>
      cases x with
      | fin q =>
          obtain ⟨negative, digits, tail, -, hscan, -⟩ := format.literal q hv.isFloat
          apply hnumber
          show scanNumber (format.text q).toList ≠ none
          rw [hscan]
          exact Option.some_ne_none _
      | inf negative => cases negative <;> exact ⟨_, _, rfl, by decide⟩
      | nan => exact ⟨'N', _, rfl, by decide⟩
  | str s =>
      have htext : dumps format.text (.str s) =
          '"' :: (s.toList.flatMap (fun c => (jsonChar c).toList) ++ ['"']) := jsonString_toList s
      exact ⟨'"', _, htext, by decide⟩
  | arr items => exact ⟨'[', _, rfl, by decide⟩
  | obj fields => exact ⟨'\x7b', _, rfl, by decide⟩

theorem dumps_pos {v : PyJson} (hv : Dumpable format v) : 0 < (dumps format.text v).length := by
  obtain ⟨c, cs, htext, -⟩ := dumps_head hv
  rw [htext]
  exact Nat.succ_pos _

theorem skipBlanks_dumps {v : PyJson} (hv : Dumpable format v) (rest : List Char) :
    skipBlanks (dumps format.text v ++ rest) = dumps format.text v ++ rest := by
  obtain ⟨c, cs, htext, hblank, -⟩ := dumps_head hv
  rw [htext]
  exact skipBlanks_cons _ hblank

/-- The items of an array begin as its first item does. -/
theorem dumpsItems_head {v : PyJson} {items : List PyJson} (hv : Dumpable format v) :
    ∃ c cs, dumpsItems format.text (v :: items) = c :: cs ∧ isJsonBlank c = false ∧ c ≠ ']' := by
  obtain ⟨c, cs, htext, hblank, hbracket, -⟩ := dumps_head hv
  cases items with
  | nil => exact ⟨c, cs, htext, hblank, hbracket⟩
  | cons w items =>
      refine ⟨c, cs ++ ',' :: ' ' :: dumpsItems format.text (w :: items), ?_, hblank, hbracket⟩
      rw [dumpsItems, htext]
      rfl

/-- The fields of an object begin with a quote. -/
theorem dumpsFields_head (text : ℚ → String) (key : String) (v : PyJson)
    (fields : List (String × PyJson)) :
    ∃ cs, dumpsFields text ((key, v) :: fields) = '"' :: cs := by
  cases fields with
  | nil =>
      rw [dumpsFields, jsonString_toList]
      exact ⟨_, rfl⟩
  | cons f fields =>
      rw [dumpsFields, jsonString_toList]
      exact ⟨_, rfl⟩

/-- A character is written with at least one. -/
theorem length_le_flatMap (s : List Char) :
    s.length ≤ (s.flatMap fun c => (jsonChar c).toList).length := by
  induction s with
  | nil => exact Nat.le_refl _
  | cons c s ih =>
      have hpos := List.length_pos_iff.mpr (jsonChar_ne_nil c)
      rw [List.flatMap_cons, List.length_append, List.length_cons]
      omega

theorem length_jsonString (s : String) : s.toList.length + 2 ≤ (jsonString s).toList.length := by
  have hle := length_le_flatMap s.toList
  rw [jsonString_toList, List.length_cons, List.length_append, List.length_singleton]
  omega

mutual

/-- **A value reads back**, with as much fuel as its text is long. -/
theorem readValue_dumps : ∀ (v : PyJson), Dumpable format v → ∀ (rest : List Char),
    Delimited rest → ∀ n, (dumps format.text v).length ≤ n →
    readValue format.read n (dumps format.text v ++ rest) = some (v, rest)
  | .null, hv, rest, _, 0, hn => absurd hn (not_le.mpr (dumps_pos hv))
  | .null, _, rest, _, n + 1, _ => rfl
  | .bool true, hv, rest, _, 0, hn => absurd hn (not_le.mpr (dumps_pos hv))
  | .bool true, _, rest, _, n + 1, _ => rfl
  | .bool false, hv, rest, _, 0, hn => absurd hn (not_le.mpr (dumps_pos hv))
  | .bool false, _, rest, _, n + 1, _ => rfl
  | .float .nan, hv, rest, _, 0, hn => absurd hn (not_le.mpr (dumps_pos hv))
  | .float .nan, _, rest, _, n + 1, _ => rfl
  | .float (.inf true), hv, rest, _, 0, hn => absurd hn (not_le.mpr (dumps_pos hv))
  | .float (.inf true), _, rest, _, n + 1, _ => rfl
  | .float (.inf false), hv, rest, _, 0, hn => absurd hn (not_le.mpr (dumps_pos hv))
  | .float (.inf false), _, rest, _, n + 1, _ => rfl
  | .int i, hv, rest, _, 0, hn => absurd hn (not_le.mpr (dumps_pos hv))
  | .int i, _, rest, hrest, n + 1, _ => by
      show readValue format.read (n + 1) ((toString i).toList ++ rest) = _
      rw [readValue_number, readNumber_int _ i hrest]
      rw [scanNumber_append hrest (scanNumber_int i)]
      exact Option.some_ne_none _
  | .float (.fin q), hv, rest, _, 0, hn => absurd hn (not_le.mpr (dumps_pos hv))
  | .float (.fin q), hv, rest, hrest, n + 1, _ => by
      obtain ⟨negative, digits, tail, -, hscan, -⟩ := format.literal q hv.isFloat
      show readValue format.read (n + 1) ((format.text q).toList ++ rest) = _
      rw [readValue_number, readNumber_float format hv.isFloat hrest]
      rw [scanNumber_append hrest hscan]
      exact Option.some_ne_none _
  | .str s, _, rest, _, n, hn => by
      have hlen := length_jsonString s
      have hs : (jsonString s).toList.length ≤ n := hn
      cases n with
      | zero => omega
      | succ n =>
          show readValue format.read (n + 1) ((jsonString s).toList ++ rest) = _
          have htext : (jsonString s).toList ++ rest =
              '"' :: (s.toList.flatMap (fun c => (jsonChar c).toList) ++ '"' :: rest) := by
            rw [jsonString_toList, List.cons_append, List.append_assoc]
            rfl
          rw [htext, readValue, if_pos rfl, readChars_jsonString _ _ (by omega), Option.map_some,
            String.ofList_toList]
  | .arr [], hv, rest, _, 0, hn => absurd hn (not_le.mpr (dumps_pos hv))
  | .arr [], _, rest, _, n + 1, _ => rfl
  | .arr (v :: items), hv, rest, _, n, hn => by
      obtain ⟨c, cs, htext, hblank, hbracket⟩ := dumpsItems_head (hv.items v List.mem_cons_self)
      have hlen : (dumpsItems format.text (v :: items)).length + 2 ≤ n := by
        simp only [dumps, List.length_cons, List.length_append, List.length_nil] at hn
        omega
      cases n with
      | zero => omega
      | succ n =>
          have hskip : skipBlanks (dumpsItems format.text (v :: items) ++ ']' :: rest) =
              dumpsItems format.text (v :: items) ++ ']' :: rest := by
            rw [htext]
            exact skipBlanks_cons _ hblank
          have hread := readItems_dumpsItems v items hv.items rest n (by omega)
          have hhead : (dumpsItems format.text (v :: items) ++ ']' :: rest).head? ≠ some ']' := by
            rw [htext]
            exact fun h => hbracket (Option.some.inj h)
          show readValue format.read (n + 1)
            ('[' :: (dumpsItems format.text (v :: items) ++ [']'] ++ rest)) = _
          rw [readValue, if_neg (by decide), if_pos rfl, List.append_assoc]
          show (if (skipBlanks (dumpsItems format.text (v :: items) ++ ']' :: rest)).head? = some ']'
            then _ else _) = _
          rw [hskip, if_neg hhead]
          show Option.map _ (readItems _ _ (skipBlanks _)) = _
          rw [show [']'] ++ rest = ']' :: rest from rfl, hskip, hread]
          rfl
  | .obj [], hv, rest, _, 0, hn => absurd hn (not_le.mpr (dumps_pos hv))
  | .obj [], _, rest, _, n + 1, _ => rfl
  | .obj ((key, v) :: fields), hv, rest, _, n, hn => by
      obtain ⟨cs, htext⟩ := dumpsFields_head format.text key v fields
      have hlen : (dumpsFields format.text ((key, v) :: fields)).length + 2 ≤ n := by
        simp only [dumps, List.length_cons, List.length_append, List.length_nil] at hn
        omega
      cases n with
      | zero => omega
      | succ n =>
          have hskip : skipBlanks (dumpsFields format.text ((key, v) :: fields) ++ '\x7d' :: rest) =
              dumpsFields format.text ((key, v) :: fields) ++ '\x7d' :: rest := by
            rw [htext]
            exact skipBlanks_cons _ rfl
          have hread := readFields_dumpsFields key v fields hv.fields rest n (by omega)
          have hhead : (dumpsFields format.text ((key, v) :: fields) ++ '\x7d' :: rest).head? ≠
              some '\x7d' := by
            rw [htext]
            exact fun h => absurd (Option.some.inj h) (by decide)
          show readValue format.read (n + 1)
            ('\x7b' :: (dumpsFields format.text ((key, v) :: fields) ++ ['\x7d'] ++ rest)) = _
          rw [readValue, if_neg (by decide), if_neg (by decide), if_pos rfl, List.append_assoc]
          rw [show ['\x7d'] ++ rest = '\x7d' :: rest from rfl, hskip, if_neg hhead, hread]
          show some (PyJson.obj (pyDict ((key, v) :: fields)), rest) = _
          rw [pyDict_of_nodup hv.keys]
termination_by v => sizeOf v

theorem readItems_dumpsItems : ∀ (v : PyJson) (items : List PyJson),
    (∀ w ∈ v :: items, Dumpable format w) → ∀ (rest : List Char) (n : ℕ),
    (dumpsItems format.text (v :: items)).length < n →
    readItems format.read n (dumpsItems format.text (v :: items) ++ ']' :: rest) =
      some (v :: items, rest)
  | v, items, hv, rest, 0, hn => absurd hn (Nat.not_lt_zero _)
  | v, [], hv, rest, n + 1, hn => by
      have hread := readValue_dumps v (hv v List.mem_cons_self) (']' :: rest) (delimited_cons (by decide)) n
        (Nat.le_of_lt_succ hn)
      show readItems format.read (n + 1) (dumps format.text v ++ ']' :: rest) = _
      rw [readItems, hread]
      rfl
  | v, w :: items, hv, rest, n + 1, hn => by
      obtain ⟨hfirst, hothers⟩ := List.forall_mem_cons.mp hv
      have htext : dumpsItems format.text (v :: w :: items) ++ ']' :: rest =
          dumps format.text v ++
            ',' :: ' ' :: (dumpsItems format.text (w :: items) ++ ']' :: rest) := by
        rw [dumpsItems, List.append_assoc]
        rfl
      have hlen : (dumps format.text v).length +
          ((dumpsItems format.text (w :: items)).length + 2) < n + 1 := by
        simpa [dumpsItems] using hn
      have hread := readValue_dumps v hfirst
        (',' :: ' ' :: (dumpsItems format.text (w :: items) ++ ']' :: rest))
        (delimited_cons (by decide)) n (by omega)
      have hrest := readItems_dumpsItems w items hothers rest n (by omega)
      have hskip : skipBlanks (dumpsItems format.text (w :: items) ++ ']' :: rest) =
          dumpsItems format.text (w :: items) ++ ']' :: rest := by
        obtain ⟨c, cs, hc, hblank, -⟩ :=
          dumpsItems_head (hothers w List.mem_cons_self)
        rw [hc]
        exact skipBlanks_cons _ hblank
      rw [htext, readItems, hread, Option.bind_eq_bind, Option.bind_some]
      dsimp only
      rw [skipBlanks_cons _ (by decide : isJsonBlank ',' = false)]
      dsimp only
      rw [if_pos rfl, skipBlanks_space, hskip, hrest]
      rfl
termination_by v items => sizeOf (v :: items)

theorem readFields_dumpsFields : ∀ (key : String) (v : PyJson) (fields : List (String × PyJson)),
    (∀ f ∈ (key, v) :: fields, Dumpable format f.2) → ∀ (rest : List Char) (n : ℕ),
    (dumpsFields format.text ((key, v) :: fields)).length < n →
    readFields format.read n (dumpsFields format.text ((key, v) :: fields) ++ '\x7d' :: rest) =
      some ((key, v) :: fields, rest)
  | key, v, fields, hv, rest, 0, hn => absurd hn (Nat.not_lt_zero _)
  | key, v, [], hv, rest, n + 1, hn => by
      have hfirst : Dumpable format v := hv (key, v) List.mem_cons_self
      have hkey := length_jsonString key
      have hlen : (jsonString key).toList.length + ((dumps format.text v).length + 2) < n + 1 := by
        simpa [dumpsFields] using hn
      have hread := readValue_dumps v hfirst ('\x7d' :: rest) (delimited_cons (by decide)) n (by omega)
      have hchars := readChars_jsonString key.toList
        (':' :: ' ' :: (dumps format.text v ++ '\x7d' :: rest)) (n := n) (by omega)
      have htext : dumpsFields format.text [(key, v)] ++ '\x7d' :: rest =
          '"' :: (key.toList.flatMap (fun c => (jsonChar c).toList) ++
            '"' :: ':' :: ' ' :: (dumps format.text v ++ '\x7d' :: rest)) := by
        rw [dumpsFields, jsonString_toList]
        simp only [List.cons_append, List.append_assoc, List.nil_append]
      rw [htext, readFields, if_pos rfl, hchars, Option.bind_eq_bind, Option.bind_some]
      dsimp only
      rw [skipBlanks_cons _ (by decide : isJsonBlank ':' = false)]
      dsimp only
      rw [if_pos rfl, skipBlanks_space, skipBlanks_dumps hfirst, hread,
        Option.bind_eq_bind, Option.bind_some]
      dsimp only
      rw [skipBlanks_cons _ (by decide : isJsonBlank '\x7d' = false), String.ofList_toList]
      rfl
  | key, v, (key', v') :: fields, hv, rest, n + 1, hn => by
      obtain ⟨hfirst, hothers⟩ := List.forall_mem_cons.mp hv
      have hkey := length_jsonString key
      have hlen : (jsonString key).toList.length + ((dumps format.text v).length +
          ((dumpsFields format.text ((key', v') :: fields)).length + 2) + 2) < n + 1 := by
        simpa [dumpsFields] using hn
      let after := dumpsFields format.text ((key', v') :: fields) ++ '\x7d' :: rest
      have hread := readValue_dumps v hfirst (',' :: ' ' :: after) (delimited_cons (by decide)) n
        (by omega)
      have hrest := readFields_dumpsFields key' v' fields hothers rest n (by omega)
      have hchars := readChars_jsonString key.toList
        (':' :: ' ' :: (dumps format.text v ++ ',' :: ' ' :: after)) (n := n) (by omega)
      have hskip : skipBlanks after = after := by
        obtain ⟨cs, hc⟩ := dumpsFields_head format.text key' v' fields
        show skipBlanks (dumpsFields format.text ((key', v') :: fields) ++ '\x7d' :: rest) =
          dumpsFields format.text ((key', v') :: fields) ++ '\x7d' :: rest
        rw [hc]
        exact skipBlanks_cons _ rfl
      have htext : dumpsFields format.text ((key, v) :: (key', v') :: fields) ++ '\x7d' :: rest =
          '"' :: (key.toList.flatMap (fun c => (jsonChar c).toList) ++
            '"' :: ':' :: ' ' :: (dumps format.text v ++ ',' :: ' ' :: after)) := by
        rw [dumpsFields, jsonString_toList]
        simp only [List.cons_append, List.append_assoc, List.nil_append, after]
      rw [htext, readFields, if_pos rfl, hchars, Option.bind_eq_bind, Option.bind_some]
      dsimp only
      rw [skipBlanks_cons _ (by decide : isJsonBlank ':' = false)]
      dsimp only
      rw [if_pos rfl, skipBlanks_space, skipBlanks_dumps hfirst, hread,
        Option.bind_eq_bind, Option.bind_some]
      dsimp only
      rw [skipBlanks_cons _ (by decide : isJsonBlank ',' = false)]
      dsimp only
      rw [if_pos rfl, skipBlanks_space, hskip, hrest, String.ofList_toList]
      rfl
termination_by key v fields => sizeOf ((key, v) :: fields)

end

/-- The text is on one line. -/
def OneLine (cs : List Char) : Prop := ∀ c ∈ cs, c ≠ '\n' ∧ c ≠ '\r'

instance (cs : List Char) : Decidable (OneLine cs) :=
  List.decidableBAll (fun c => c ≠ '\n' ∧ c ≠ '\r') cs

theorem OneLine.append {cs ds : List Char} (hcs : OneLine cs) (hds : OneLine ds) :
    OneLine (cs ++ ds) :=
  List.forall_mem_append.mpr ⟨hcs, hds⟩

theorem OneLine.cons {c : Char} {cs : List Char} (hc : c ≠ '\n' ∧ c ≠ '\r') (hcs : OneLine cs) :
    OneLine (c :: cs) :=
  List.forall_mem_cons.mpr ⟨hc, hcs⟩

theorem oneLine_jsonChar (c : Char) : OneLine (jsonChar c).toList := by
  have hhex : ∀ n < 16, "0123456789abcdef".toList.getD n '0' ≠ '\n' ∧
      "0123456789abcdef".toList.getD n '0' ≠ '\r' := by decide
  unfold jsonChar
  split
  · decide
  split
  · decide
  split
  · decide
  split
  · decide
  split
  · decide
  split
  · decide
  split
  · decide
  split
  · next h =>
      rw [String.toList_append, hexByte_toList]
      apply OneLine.append (by decide)
      apply OneLine.cons (hhex _ (by omega))
      exact OneLine.cons (hhex _ (Nat.mod_lt _ (by decide))) (by decide)
  · next hnewline hreturn _ _ _ _ =>
      rw [String.toList_ofList]
      exact OneLine.cons ⟨hnewline, hreturn⟩ (by decide)

theorem oneLine_jsonString (s : String) : OneLine (jsonString s).toList := by
  rw [jsonString_toList]
  apply OneLine.cons (by decide)
  apply OneLine.append _ (by decide)
  intro c hc
  obtain ⟨d, -, hd⟩ := List.mem_flatMap.mp hc
  exact oneLine_jsonChar d c hd

theorem oneLine_int (i : ℤ) : OneLine (toString i).toList := by
  have hdigits : OneLine (Nat.toDigits 10 i.natAbs) := by
    intro c hc
    have hdigit := Nat.isDigit_of_mem_toDigits (by decide) (by decide) hc
    constructor
    · rintro rfl
      exact absurd hdigit (by decide)
    · rintro rfl
      exact absurd hdigit (by decide)
  rw [toString_int]
  split
  · exact OneLine.append (by decide) hdigits
  · exact OneLine.append (by decide) hdigits

mutual

/-- **The text of a value is on one line.** -/
theorem oneLine_dumps : ∀ v : PyJson, Dumpable format v → OneLine (dumps format.text v)
  | .null, _ => (by decide : OneLine "null".toList)
  | .bool true, _ => (by decide : OneLine "true".toList)
  | .bool false, _ => (by decide : OneLine "false".toList)
  | .int i, _ => oneLine_int i
  | .float .nan, _ => (by decide : OneLine "NaN".toList)
  | .float (.inf true), _ => (by decide : OneLine "-Infinity".toList)
  | .float (.inf false), _ => (by decide : OneLine "Infinity".toList)
  | .float (.fin q), hv => format.oneLine q hv.isFloat
  | .str s, _ => oneLine_jsonString s
  | .arr items, hv => .cons (by decide) ((oneLine_dumpsItems items hv.items).append (by decide))
  | .obj fields, hv => .cons (by decide) ((oneLine_dumpsFields fields hv.fields).append (by decide))

theorem oneLine_dumpsItems : ∀ items : List PyJson, (∀ v ∈ items, Dumpable format v) →
    OneLine (dumpsItems format.text items)
  | [], _ => (by decide : OneLine [])
  | [v], hv => oneLine_dumps v (hv v List.mem_cons_self)
  | v :: w :: items, hv =>
      (oneLine_dumps v (hv v List.mem_cons_self)).append <| .cons (by decide) <|
        .cons (by decide) <|
          oneLine_dumpsItems (w :: items) fun u hu => hv u (List.mem_cons_of_mem v hu)

theorem oneLine_dumpsFields : ∀ fields : List (String × PyJson),
    (∀ f ∈ fields, Dumpable format f.2) → OneLine (dumpsFields format.text fields)
  | [], _ => (by decide : OneLine [])
  | [(k, v)], hv =>
      (oneLine_jsonString k).append <| .cons (by decide) <| .cons (by decide) <|
        oneLine_dumps v (hv (k, v) List.mem_cons_self)
  | (k, v) :: f :: fields, hv =>
      (oneLine_jsonString k).append <| .cons (by decide) <| .cons (by decide) <|
        (oneLine_dumps v (hv (k, v) List.mem_cons_self)).append <| .cons (by decide) <|
          .cons (by decide) <|
            oneLine_dumpsFields (f :: fields) fun g hg => hv g (List.mem_cons_of_mem (k, v) hg)

end

end ChaosDemo
