/-
ChaosDemo/Builtins.lean

The built-in operations of Python that the evaluation uses on JSON values:
subscripts and iteration with the exceptions they raise, `==`, sums, sets of
values, `json.dumps`, and the formats `.2f` and `.2%` of its messages.

Numbers are exact rationals, so an `int` and a `float` of one value are told apart
only by their constructor.
-/
import Mathlib.Data.List.Infix
import ChaosDemo.Json

namespace ChaosDemo

/-- What the platform can raise; `raised` is an exception of another class. -/
inductive PyError
  | keyError (key : String)
  | typeError
  | valueError
  | attributeError
  | agentGateError (message : String)
  | raised (type message : String)
deriving DecidableEq

/-- `type(exc).__name__`. -/
def PyError.typeName : PyError → String
  | .keyError _ => "KeyError"
  | .typeError => "TypeError"
  | .valueError => "ValueError"
  | .attributeError => "AttributeError"
  | .agentGateError _ => "AgentGateError"
  | .raised type _ => type

/-- `str(exc)`; the texts that the interpreter writes itself are left out. -/
def PyError.text : PyError → String
  | .keyError key => "'" ++ key ++ "'"
  | .agentGateError message => message
  | .raised _ message => message
  | _ => ""

/-- A sequence returns where both parts do. -/
theorem bind_eq_ok_iff {ε α β : Type} {x : Except ε α} {f : α → Except ε β} {b : β} :
    (x >>= f) = .ok b ↔ ∃ a, x = .ok a ∧ f a = .ok b := by
  cases x with
  | error e =>
      constructor
      · intro h
        cases h
      · intro h
        obtain ⟨a, ha, -⟩ := h
        cases ha
  | ok a =>
      constructor
      · intro h
        exact ⟨a, rfl, h⟩
      · intro h
        obtain ⟨a', ha, h⟩ := h
        cases ha
        exact h

theorem exists_ok_of_isOk {ε α : Type} {x : Except ε α} (h : x.isOk = true) : ∃ a, x = .ok a := by
  cases x with
  | ok a => exact ⟨a, rfl⟩
  | error e => cases h

/-! ### Access -/

/-- `v.get(k)`. -/
def Json.getAttr (v : Json) (k : String) : Except PyError Json :=
  match v with
  | .obj d => .ok (Dict.get d k)
  | _ => .error .attributeError

/-- `d[k]`. -/
def Dict.item (d : Dict) (k : String) : Except PyError Json :=
  match d.lookup k with
  | some v => .ok v
  | none => .error (.keyError k)

/-- The dictionary that is read with `v["…"]`. -/
def Json.subscripted : Json → Except PyError Dict
  | .obj d => .ok d
  | _ => .error .typeError

/-- `for x in v`: a dictionary gives its keys and a string its characters. -/
def Json.iter : Json → Except PyError (List Json)
  | .arr items => .ok items
  | .obj d => .ok (d.map fun f => .str f.1)
  | .str s => .ok (s.toList.map fun c => .str (String.ofList [c]))
  | _ => .error .typeError

/-- `len(v)`. -/
def Json.len (v : Json) : Except PyError ℕ := v.iter.map List.length

/-- `d.update(e)`. -/
def Dict.update (d e : Dict) : Dict := e.foldl (fun d f => d.set f.1 f.2) d

namespace Dict

/-- An update writes its own keys only. -/
theorem lookup_update_of_not_mem {e : Dict} {l : String} (h : ∀ f ∈ e, f.1 ≠ l) :
    ∀ d : Dict, (d.update e).lookup l = d.lookup l := by
  induction e with
  | nil =>
      intro d
      rfl
  | cons f e ih =>
      intro d
      have hf : l ≠ f.1 := fun heq => h f List.mem_cons_self heq.symm
      show ((d.set f.1 f.2).update e).lookup l = d.lookup l
      rw [ih (fun g hg => h g (List.mem_cons_of_mem f hg)), lookup_set, if_neg hf]

/-- Where two dictionaries agree, they agree after the same update. -/
theorem lookup_update_congr {e : Dict} {l : String} :
    ∀ {d d' : Dict}, d.lookup l = d'.lookup l → (d.update e).lookup l = (d'.update e).lookup l := by
  induction e with
  | nil =>
      intro d d' h
      exact h
  | cons f e ih =>
      intro d d' h
      apply ih
      rw [lookup_set, lookup_set, h]

end Dict

/-! ### Equality -/

mutual

/-- `a == b`: numbers by their value, dictionaries without their order. -/
def Json.pyEq : Json → Json → Bool
  | .null, .null => true
  | .str a, .str b => a == b
  | .arr a, .arr b => Json.pyEqItems a b
  | .obj a, .obj b => a.length == b.length && Json.pyEqFields a b
  | .bool a, b => (Json.bool a).number? == b.number?
  | .int a, b => (Json.int a).number? == b.number?
  | .num a, b => (Json.num a).number? == b.number?
  | _, _ => false

def Json.pyEqItems : List Json → List Json → Bool
  | [], [] => true
  | a :: as, b :: bs => Json.pyEq a b && Json.pyEqItems as bs
  | _, _ => false

def Json.pyEqFields : List (String × Json) → List (String × Json) → Bool
  | [], _ => true
  | (k, a) :: as, bs =>
      (match bs.lookup k with
        | some b => Json.pyEq a b
        | none => false) && Json.pyEqFields as bs

end

/-- `x in s` on texts, character by character. -/
def textIn (x s : List Char) : Bool := s.tails.any x.isPrefixOf

theorem textIn_iff {x s : List Char} : textIn x s = true ↔ x <:+: s := by
  rw [textIn, List.any_eq_true]
  constructor
  · rintro ⟨rest, hrest, hstart⟩
    exact (List.isPrefixOf_iff_prefix.mp hstart).isInfix.trans
      ((List.mem_tails ..).mp hrest).isInfix
  · rintro ⟨front, back, heq⟩
    refine ⟨x ++ back, (List.mem_tails ..).mpr ⟨front, ?_⟩, ?_⟩
    · rw [← heq, List.append_assoc]
    · exact List.isPrefixOf_iff_prefix.mpr ⟨back, rfl⟩

/-- `x in v`. -/
def Json.contains (v : Json) (x : String) : Except PyError Bool :=
  match v with
  | .obj d => .ok (Dict.has d x)
  | .arr items => .ok (items.any fun item => item.pyEq (.str x))
  | .str s => .ok (textIn x.toList s.toList)
  | _ => .error .typeError

/-! ### Numbers -/

/-- The number that arithmetic and comparisons with a number take. -/
def Json.numeric (v : Json) : Except PyError ℚ :=
  match v.number? with
  | some q => .ok q
  | none => .error .typeError

/-- `sum(values)`. -/
def pySum (values : List Json) : Except PyError ℚ := do
  let qs ← values.mapM Json.numeric
  pure qs.sum

/-- `round(q)`: to the nearest integer, a half to the even one. -/
def pyRound (q : ℚ) : ℤ :=
  let below := ⌊q⌋
  if q - below < 1 / 2 then below
  else if 1 / 2 < q - below then below + 1
  else if below % 2 = 0 then below
  else below + 1

/-- `f"{q:.2f}"`. -/
def pyFixed (q : ℚ) : String :=
  let hundredths := pyRound (100 * q)
  let sign := if hundredths < 0 then "-" else ""
  let n := hundredths.natAbs
  let frac := if n % 100 < 10 then "0" ++ toString (n % 100) else toString (n % 100)
  sign ++ toString (n / 100) ++ "." ++ frac

/-- `f"{q:.2%}"`. -/
def pyPercent (q : ℚ) : String := pyFixed (100 * q) ++ "%"

/-- `int(v)`; `none` where it raises `TypeError` or `ValueError`. -/
def Json.toInt? : Json → Option ℤ
  | .bool b => some (if b then 1 else 0)
  | .int i => some i
  | .num q => some (pyInt q)
  | .str s =>
      let (sign, digits) := pySign (pyStrip s).toList
      (pyNat digits).map fun n => sign * n
  | _ => none

/-- `int(v)`, with what it raises. -/
def Json.toInt (v : Json) : Except PyError ℤ :=
  match v.toInt? with
  | some n => .ok n
  | none =>
      match v with
      | .str _ => .error .valueError
      | _ => .error .typeError

/-- `float(v)`. -/
def Json.toFloat (v : Json) : Except PyError ℚ :=
  match v with
  | .str text =>
      match floatText text with
      | some q => .ok q
      | none => .error .valueError
  | v => v.numeric

/-! ### Sets -/

/-- Whether a value can be in a set or be looked up as a key. -/
def Json.hashable : Json → Bool
  | .arr _ => false
  | .obj _ => false
  | _ => true

/-- `set(v)`, its items in the order in which they came. -/
def Json.toSet (v : Json) : Except PyError (List Json) := do
  let items ← v.iter
  if items.all Json.hashable then
    pure (items.foldl (fun seen x => if seen.any x.pyEq then seen else seen ++ [x]) [])
  else .error .typeError

/-- `a == b` on sets. -/
def pySetEq (a b : List Json) : Bool :=
  a.all (fun x => b.any x.pyEq) && b.all fun x => a.any x.pyEq

/-- `sorted` on names. -/
def pySorted (names : List String) : List String := names.insertionSort (· ≤ ·)

/-- `sorted(values)`: texts or numbers, not both. -/
def sortedValues (values : List Json) : Except PyError (List Json) :=
  match values with
  | [] => .ok []
  | [v] => .ok [v]
  | _ =>
      if values.all fun v => v.number?.isSome then
        .ok (values.insertionSort fun a b => a.number?.getD 0 ≤ b.number?.getD 0)
      else do
        let texts ← values.mapM fun
          | .str s => Except.ok s
          | _ => Except.error PyError.typeError
        pure ((pySorted texts).map Json.str)

/-! ### Texts -/

/-- A character of a string in `json.dumps(…, ensure_ascii=False)`. -/
def dumpsChar (c : Char) : List Char :=
  if c = '"' then ['\\', '"']
  else if c = '\\' then ['\\', '\\']
  else if c = '\n' then ['\\', 'n']
  else if c = '\r' then ['\\', 'r']
  else if c = '\t' then ['\\', 't']
  else if c.toNat = 8 then ['\\', 'b']
  else if c.toNat = 12 then ['\\', 'f']
  else if c.toNat < 32 then
    ['\\', 'u', '0', '0', Nat.digitChar (c.toNat / 16), Nat.digitChar (c.toNat % 16)]
  else [c]

def dumpsText (s : String) : String :=
  "\"" ++ String.ofList (s.toList.flatMap dumpsChar) ++ "\""

mutual

/-- `json.dumps(v, ensure_ascii=False)`.  For a float the text is that of the exact
value. -/
def Json.dumps : Json → String
  | .null => "null"
  | .bool b => if b then "true" else "false"
  | .int i => toString i
  | .num q => toString q
  | .str s => dumpsText s
  | .arr items => "[" ++ ", ".intercalate (Json.dumpsItems items) ++ "]"
  | .obj fields => "\x7b" ++ ", ".intercalate (Json.dumpsFields fields) ++ "\x7d"

def Json.dumpsItems : List Json → List String
  | [] => []
  | v :: items => v.dumps :: Json.dumpsItems items

def Json.dumpsFields : List (String × Json) → List String
  | [] => []
  | (k, v) :: fields => (dumpsText k ++ ": " ++ v.dumps) :: Json.dumpsFields fields

end

/-- `re.sub(r"\s+", "", text)`. -/
def withoutBlanks (text : String) : String :=
  String.ofList (text.toList.filter fun c => !pyIsSpace c)

end ChaosDemo
