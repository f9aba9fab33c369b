/-
ChaosDemo/Json.lean

JSON values and Python dictionaries of them, with the few built-in operations
the program uses on them.  A dictionary keeps its insertion order and has each
key at most once; `Dict.set` keeps it so.

Only what the program can tell apart is kept apart: integers and floats are
two constructors because `isinstance` sees the difference from a string or a
list, and `bool` counts as a number because it is a subclass of `int`.
-/
import Mathlib.Data.Rat.Floor
import Mathlib.Data.List.Sort

namespace ChaosDemo

/-- A JSON value.  Floats are exact. -/
inductive Json
  | null
  | bool (b : Bool)
  | int (i : ℤ)
  | num (q : ℚ)
  | str (s : String)
  | arr (items : List Json)
  | obj (fields : List (String × Json))
deriving Inhabited

/-- `dict[str, Any]`. -/
abbrev Dict := List (String × Json)

/-! ### Equality is decidable -/

mutual

def Json.beq : Json → Json → Bool
  | .null, .null => true
  | .bool a, .bool b => a == b
  | .int a, .int b => a == b
  | .num a, .num b => a == b
  | .str a, .str b => a == b
  | .arr a, .arr b => Json.beqItems a b
  | .obj a, .obj b => Json.beqFields a b
  | _, _ => false

def Json.beqItems : List Json → List Json → Bool
  | [], [] => true
  | a :: as, b :: bs => Json.beq a b && Json.beqItems as bs
  | _, _ => false

def Json.beqFields : List (String × Json) → List (String × Json) → Bool
  | [], [] => true
  | (k, a) :: as, (l, b) :: bs => k == l && Json.beq a b && Json.beqFields as bs
  | _, _ => false

end

mutual

theorem Json.eq_of_beq : ∀ {a b : Json}, a.beq b = true → a = b
  | .null, b, h => by cases b <;> simp_all [Json.beq]
  | .bool _, b, h => by cases b <;> simp_all [Json.beq]
  | .int _, b, h => by cases b <;> simp_all [Json.beq]
  | .num _, b, h => by cases b <;> simp_all [Json.beq]
  | .str _, b, h => by cases b <;> simp_all [Json.beq]
  | .arr as, b, h => by
      cases b with
      | arr bs => exact congrArg Json.arr (Json.eq_of_beqItems (by simpa [Json.beq] using h))
      | _ => simp [Json.beq] at h
  | .obj as, b, h => by
      cases b with
      | obj bs => exact congrArg Json.obj (Json.eq_of_beqFields (by simpa [Json.beq] using h))
      | _ => simp [Json.beq] at h

theorem Json.eq_of_beqItems : ∀ {as bs : List Json},
    Json.beqItems as bs = true → as = bs
  | [], bs, h => by cases bs <;> simp_all [Json.beqItems]
  | a :: as, bs, h => by
      cases bs with
      | nil => simp [Json.beqItems] at h
      | cons b bs =>
          simp only [Json.beqItems, Bool.and_eq_true] at h
          rw [Json.eq_of_beq h.1, Json.eq_of_beqItems h.2]

theorem Json.eq_of_beqFields : ∀ {as bs : List (String × Json)},
    Json.beqFields as bs = true → as = bs
  | [], bs, h => by cases bs <;> simp_all [Json.beqFields]
  | (k, a) :: as, bs, h => by
      rcases bs with - | ⟨⟨l, b⟩, bs⟩
      · simp [Json.beqFields] at h
      · simp only [Json.beqFields, Bool.and_eq_true, beq_iff_eq] at h
        rw [h.1.1, Json.eq_of_beq h.1.2, Json.eq_of_beqFields h.2]

end

mutual

theorem Json.beq_self : ∀ a : Json, a.beq a = true
  | .null => by simp [Json.beq]
  | .bool _ => by simp [Json.beq]
  | .int _ => by simp [Json.beq]
  | .num _ => by simp [Json.beq]
  | .str _ => by simp [Json.beq]
  | .arr as => by simpa [Json.beq] using Json.beqItems_self as
  | .obj as => by simpa [Json.beq] using Json.beqFields_self as

theorem Json.beqItems_self : ∀ as : List Json, Json.beqItems as as = true
  | [] => by simp [Json.beqItems]
  | a :: as => by simp [Json.beqItems, Json.beq_self a, Json.beqItems_self as]

theorem Json.beqFields_self : ∀ as : List (String × Json), Json.beqFields as as = true
  | [] => by simp [Json.beqFields]
  | (k, a) :: as => by simp [Json.beqFields, Json.beq_self a, Json.beqFields_self as]

end

theorem Json.beq_iff {a b : Json} : a.beq b = true ↔ a = b :=
  ⟨Json.eq_of_beq, fun h => h ▸ Json.beq_self a⟩

instance : DecidableEq Json := fun _ _ => decidable_of_iff _ Json.beq_iff

/-! ### Built-in operations on values -/

/-- `bool(v)`. -/
def Json.truthy : Json → Bool
  | .null => false
  | .bool b => b
  | .int i => i != 0
  | .num q => q != 0
  | .str s => s != ""
  | .arr items => !items.isEmpty
  | .obj fields => !fields.isEmpty

/-- The number `v` is, when `isinstance(v, (int, float))`. -/
def Json.number? : Json → Option ℚ
  | .bool b => some (if b then 1 else 0)
  | .int i => some i
  | .num q => some q
  | _ => none

/-- The dictionary `v` is, when `isinstance(v, dict)`. -/
def Json.dict? : Json → Option Dict
  | .obj fields => some fields
  | _ => none

/-- `int(x)` on a number: the fractional part is dropped, towards zero. -/
def pyInt {K : Type} [Field K] [LinearOrder K] [IsStrictOrderedRing K] [FloorRing K]
    (x : K) : ℤ :=
  if 0 ≤ x then ⌊x⌋ else ⌈x⌉

theorem pyInt_of_nonneg {K : Type} [Field K] [LinearOrder K] [IsStrictOrderedRing K]
    [FloorRing K] {x : K} (h : 0 ≤ x) : pyInt x = ⌊x⌋ := by
  simp [pyInt, h]

@[simp] theorem pyInt_intCast {K : Type} [Field K] [LinearOrder K]
    [IsStrictOrderedRing K] [FloorRing K] (i : ℤ) : pyInt (i : K) = i := by
  simp [pyInt]

/-- What `str.strip` takes off an end. -/
def pyIsSpace (c : Char) : Bool :=
  let n := c.toNat
  (9 ≤ n && n ≤ 13) || (28 ≤ n && n ≤ 32) || n == 0x85 || n == 0xA0 || n == 0x1680 ||
    (0x2000 ≤ n && n ≤ 0x200A) || n == 0x2028 || n == 0x2029 || n == 0x202F ||
    n == 0x205F || n == 0x3000

/-- `s.strip()`. -/
def pyStrip (s : String) : String :=
  String.ofList ((s.toList.dropWhile pyIsSpace).reverse.dropWhile pyIsSpace).reverse

/-- `s.upper()`, on letters of ASCII. -/
def pyUpper (s : String) : String := String.ofList (s.toList.map Char.toUpper)

/-- The digits of a number's text, the first one leading; a `_` may stand between two. -/
def pyDigits : List Char → Option (List ℕ)
  | [] => none
  | [c] => if c.isDigit then some [c.toNat - 48] else none
  | c :: '_' :: cs => if c.isDigit then (pyDigits cs).map (List.cons (c.toNat - 48)) else none
  | c :: cs => if c.isDigit then (pyDigits cs).map (List.cons (c.toNat - 48)) else none

/-- The value of a text of digits; `none` where it is not one. -/
def pyNat (cs : List Char) : Option ℕ := (pyDigits cs).map fun ds => ds.foldl (10 * · + ·) 0

/-- The sign of a number's text, and the rest. -/
def pySign : List Char → ℤ × List Char
  | '-' :: cs => (-1, cs)
  | '+' :: cs => (1, cs)
  | cs => (1, cs)

/-- The value of digits with a point in them, without a sign. -/
def pyMantissa (cs : List Char) : Option ℚ :=
  match cs.span (· ≠ '.') with
  | (whole, []) => (pyNat whole).map fun n => (n : ℚ)
  | ([], _ :: frac) => (pyDigits frac).map fun ds => (ds.foldl (10 * · + ·) 0 : ℕ) / 10 ^ ds.length
  | (whole, [_]) => (pyNat whole).map fun n => (n : ℚ)
  | (whole, _ :: frac) => do
      let n ← pyNat whole
      let ds ← pyDigits frac
      pure (n + (ds.foldl (10 * · + ·) 0 : ℕ) / 10 ^ ds.length)

/-- `float(text)` for a decimal number in ASCII.  The texts of the infinities and of
NaN are not numbers here. -/
def floatText (text : String) : Option ℚ :=
  let (sign, cs) := pySign (pyStrip text).toList
  match cs.span fun c => c ≠ 'e' && c ≠ 'E' with
  | (mantissa, []) => (pyMantissa mantissa).map fun m => sign * m
  | (mantissa, _ :: exponent) => do
      let m ← pyMantissa mantissa
      let (expSign, digits) := pySign exponent
      let n ← pyNat digits
      pure (sign * m * (10 : ℚ) ^ (expSign * n))

mutual

/-- `str(v)`.  For a float the text is that of the exact value. -/
def Json.pyStr : Json → String
  | .null => "None"
  | .bool b => if b then "True" else "False"
  | .int i => toString i
  | .num q => toString q
  | .str s => s
  | .arr items => "[" ++ ", ".intercalate (Json.pyReprItems items) ++ "]"
  | .obj fields => "\x7b" ++ ", ".intercalate (Json.pyReprFields fields) ++ "\x7d"

/-- `repr` of the items of a list: as `str`, strings in quotes. -/
def Json.pyReprItems : List Json → List String
  | [] => []
  | .str s :: items => ("'" ++ s ++ "'") :: Json.pyReprItems items
  | v :: items => v.pyStr :: Json.pyReprItems items

def Json.pyReprFields : List (String × Json) → List String
  | [] => []
  | (k, .str s) :: fields => ("'" ++ k ++ "': '" ++ s ++ "'") :: Json.pyReprFields fields
  | (k, v) :: fields => ("'" ++ k ++ "': " ++ v.pyStr) :: Json.pyReprFields fields

end

/-- `a or b`. -/
def Json.orElse (a b : Json) : Json := if a.truthy then a else b

/-! ### Dictionaries -/

namespace Dict

/-- `d.get(k)`; a missing key and a null are both `None`. -/
def get (d : Dict) (k : String) : Json := (d.lookup k).getD .null

/-- `k in d`. -/
def has (d : Dict) (k : String) : Bool := (d.lookup k).isSome

/-- `d.get(k, v)`. -/
def getD (d : Dict) (k : String) (v : Json) : Json := if d.has k then d.get k else v

/-- `d[k] = v`: in place, or at the end. -/
def set : Dict → String → Json → Dict
  | [], k, v => [(k, v)]
  | (l, w) :: d, k, v => if l = k then (k, v) :: d else (l, w) :: set d k v

/-- `d.setdefault(k, v)`. -/
def setdefault (d : Dict) (k : String) (v : Json) : Dict :=
  if d.has k then d else d ++ [(k, v)]

@[simp] theorem get_nil (k : String) : get [] k = .null := rfl

theorem get_cons (f : String × Json) (d : Dict) (k : String) :
    get (f :: d) k = if k = f.1 then f.2 else get d k := by
  obtain ⟨l, v⟩ := f
  by_cases h : k = l
  · simp [get, h]
  · have : (k == l) = false := by simpa using h
    simp [get, List.lookup_cons, h, this]

theorem has_cons (f : String × Json) (d : Dict) (k : String) :
    has (f :: d) k = (decide (k = f.1) || has d k) := by
  obtain ⟨l, v⟩ := f
  by_cases h : k = l
  · simp [has, h]
  · have : (k == l) = false := by simpa using h
    simp [has, List.lookup_cons, h, this]

theorem get_of_not_has {d : Dict} {k : String} (h : d.has k = false) : d.get k = .null := by
  simp only [has, Option.isSome_eq_false_iff, Option.isNone_iff_eq_none] at h
  simp [get, h]

@[simp] theorem get_set_self (d : Dict) (k : String) (v : Json) : (d.set k v).get k = v := by
  induction d with
  | nil => simp [set, get_cons]
  | cons f d ih =>
      by_cases h : f.1 = k
      · simp [set, h, get_cons]
      · simp only [set, if_neg h, get_cons, if_neg (Ne.symm h), ih]

theorem get_set_of_ne {d : Dict} {k l : String} (h : l ≠ k) (v : Json) :
    (d.set k v).get l = d.get l := by
  induction d with
  | nil => simp [set, get_cons, h]
  | cons f d ih =>
      by_cases hf : f.1 = k
      · simp [set, hf, get_cons, h]
      · simp [set, hf, get_cons, ih]

theorem lookup_set (d : Dict) (k : String) (v : Json) (l : String) :
    (d.set k v).lookup l = if l = k then some v else d.lookup l := by
  induction d with
  | nil =>
      by_cases h : l = k
      · simp [set, h]
      · have hbeq : (l == k) = false := beq_eq_false_iff_ne.mpr h
        simp [set, List.lookup_cons, h, hbeq]
  | cons f d ih =>
      obtain ⟨key, w⟩ := f
      by_cases hf : key = k
      · by_cases h : l = k
        · simp [set, hf, h]
        · have hbeq : (l == k) = false := beq_eq_false_iff_ne.mpr h
          simp [set, hf, List.lookup_cons, h, hbeq]
      · by_cases h : l = key
        · simp [set, hf, h]
        · have hbeq : (l == key) = false := beq_eq_false_iff_ne.mpr h
          simp only [set, if_neg hf, List.lookup_cons, hbeq]
          exact ih

theorem get_append (d : Dict) (k l : String) (v : Json) :
    get (d ++ [(k, v)]) l = if d.has l then d.get l else if l = k then v else .null := by
  induction d with
  | nil => simp [get_cons, has]
  | cons f d ih =>
      rw [List.cons_append, get_cons, ih, has_cons, get_cons]
      by_cases h : l = f.1 <;> simp [h]

theorem get_setdefault (d : Dict) (k l : String) (v : Json) :
    (d.setdefault k v).get l = if l = k ∧ d.has k = false then v else d.get l := by
  by_cases h : d.has k
  · simp [setdefault, h]
  · rw [setdefault, if_neg h, get_append]
    by_cases hl : l = k
    · simp [hl, h]
    · by_cases hd : d.has l
      · simp [hl, hd]
      · simp [hl, hd, get_of_not_has]

theorem get_setdefault_of_ne {d : Dict} {k l : String} (h : l ≠ k) (v : Json) :
    (d.setdefault k v).get l = d.get l := by
  simp [get_setdefault, h]

theorem lookup_setdefault (d : Dict) (k : String) (v : Json) (l : String) :
    (d.setdefault k v).lookup l =
      if l = k ∧ d.lookup k = none then some v else d.lookup l := by
  rw [setdefault, has]
  cases hk : d.lookup k with
  | some w => simp
  | none =>
      rw [if_neg (by simp), List.lookup_append]
      by_cases hl : l = k
      · subst hl
        simp [hk]
      · have hbeq : (l == k) = false := beq_eq_false_iff_ne.mpr hl
        simp [hl, List.lookup_cons, hbeq]

/-- The order in which `json.dumps(..., sort_keys=True)` writes the fields. -/
def sortKeys (d : Dict) : Dict := d.insertionSort fun a b => a.1 ≤ b.1

theorem get_orderedInsert {d : Dict} {f : String × Json} (hf : d.has f.1 = false)
    (k : String) : get (d.orderedInsert (fun a b => a.1 ≤ b.1) f) k = get (f :: d) k := by
  induction d with
  | nil => rfl
  | cons g d ih =>
      rw [has_cons, Bool.or_eq_false_iff, decide_eq_false_iff_not] at hf
      by_cases h : f.1 ≤ g.1
      · simp [List.orderedInsert, h]
      · rw [List.orderedInsert, if_neg h, get_cons, ih hf.2, get_cons, get_cons, get_cons]
        by_cases hg : k = g.1
        · have : ¬ k = f.1 := fun e => hf.1 (e.symm.trans hg)
          simp [hg, Ne.symm hf.1]
        · simp [hg]

theorem has_orderedInsert (d : Dict) (f : String × Json) (k : String) :
    has (d.orderedInsert (fun a b => a.1 ≤ b.1) f) k = has (f :: d) k := by
  induction d with
  | nil => rfl
  | cons g d ih =>
      by_cases h : f.1 ≤ g.1
      · simp [List.orderedInsert, h]
      · rw [List.orderedInsert, if_neg h, has_cons, ih, has_cons, has_cons, has_cons]
        exact Bool.or_left_comm _ _ _

theorem has_sortKeys (d : Dict) (k : String) : d.sortKeys.has k = d.has k := by
  induction d with
  | nil => rfl
  | cons f d ih =>
      have h := has_orderedInsert (sortKeys d) f k
      rw [has_cons, ih, ← has_cons] at h
      exact h

/-- No key occurs twice, as in every Python dictionary. -/
def Wf : Dict → Prop
  | [] => True
  | f :: d => has d f.1 = false ∧ Wf d

theorem get_sortKeys {d : Dict} (h : d.Wf) (k : String) : d.sortKeys.get k = d.get k := by
  induction d with
  | nil => rfl
  | cons f d ih =>
      have hf : (sortKeys d).has f.1 = false := by rw [has_sortKeys]; exact h.1
      have hins := get_orderedInsert hf k
      rw [get_cons, ih h.2, ← get_cons] at hins
      exact hins

end Dict

/-! ### What is read back from a text -/

mutual

/-- What `json.loads` reads from `json.dumps(v, sort_keys=True)`: the same value, the
fields of every dictionary in the order of their keys. -/
def Json.sorted : Json → Json
  | .arr items => .arr (Json.sortedItems items)
  | .obj fields => .obj (Dict.sortKeys (Json.sortedFields fields))
  | .null => .null
  | .bool b => .bool b
  | .int i => .int i
  | .num q => .num q
  | .str s => .str s

def Json.sortedItems : List Json → List Json
  | [] => []
  | v :: items => v.sorted :: Json.sortedItems items

def Json.sortedFields : List (String × Json) → List (String × Json)
  | [] => []
  | (k, v) :: fields => (k, v.sorted) :: Json.sortedFields fields

end

namespace Dict

/-- The dictionary that is read back. -/
def stored (d : Dict) : Dict := sortKeys (Json.sortedFields d)

theorem lookup_sortedFields (d : Dict) (k : String) :
    (Json.sortedFields d).lookup k = (d.lookup k).map Json.sorted := by
  induction d with
  | nil => rfl
  | cons f d ih =>
      obtain ⟨l, v⟩ := f
      rw [Json.sortedFields, List.lookup_cons, List.lookup_cons]
      split
      · rfl
      · exact ih

theorem Wf.sortedFields {d : Dict} (h : d.Wf) : Wf (Json.sortedFields d) := by
  induction d with
  | nil => trivial
  | cons f d ih =>
      obtain ⟨l, v⟩ := f
      refine ⟨?_, ih h.2⟩
      show has (Json.sortedFields d) l = false
      rw [has, lookup_sortedFields, Option.isSome_map]
      exact h.1

/-- A dictionary that is read back has the same keys, -/
theorem has_stored (d : Dict) (k : String) : d.stored.has k = d.has k := by
  rw [stored, has_sortKeys, has, lookup_sortedFields, Option.isSome_map]
  rfl

/-- and their values are read back. -/
theorem get_stored {d : Dict} (h : d.Wf) (k : String) : d.stored.get k = (d.get k).sorted := by
  rw [stored, get_sortKeys h.sortedFields, get, lookup_sortedFields, get]
  cases d.lookup k <;> rfl

end Dict

end ChaosDemo
