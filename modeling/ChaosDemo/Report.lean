/-
ChaosDemo/Report.lean

What `json.load` returns.  Python's `json` also reads `NaN`, `Infinity` and `-Infinity`,
and a number too large for a float becomes an infinity, so a float here is a finite
value, an infinity or NaN.  Finite floats are exact.
-/
import Mathlib.Tactic.Linarith
import Mathlib.Tactic.GCongr
import ChaosDemo.Builtins

namespace ChaosDemo

/-- A float. -/
inductive PyFloat
  | fin (q : ℚ)
  | inf (negative : Bool)
  | nan
deriving DecidableEq

namespace PyFloat

/-- `x < y`; NaN is not below anything, and nothing is below NaN. -/
def lt : PyFloat → PyFloat → Bool
  | .fin p, .fin q => p < q
  | .fin _, .inf negative => !negative
  | .inf negative, .fin _ => negative
  | .inf negative, .inf negative' => negative && !negative'
  | _, _ => false

/-- `x + y`. -/
def add : PyFloat → PyFloat → PyFloat
  | .fin p, .fin q => .fin (p + q)
  | .fin _, .inf negative => .inf negative
  | .inf negative, .fin _ => .inf negative
  | .inf negative, .inf negative' => if negative = negative' then .inf negative else .nan
  | _, _ => .nan

/-- `x * q` for a finite `q`. -/
def scale (q : ℚ) : PyFloat → PyFloat
  | .fin p => .fin (p * q)
  | .inf negative => if q = 0 then .nan else .inf (negative != decide (q < 0))
  | .nan => .nan

/-- `x / y` for a `y` that is not zero. -/
def div : PyFloat → PyFloat → PyFloat
  | .fin p, .fin q => .fin (p / q)
  | .fin _, .inf _ => .fin 0
  | .inf negative, .fin q => .inf (negative != decide (q < 0))
  | _, _ => .nan

/-- `x - y`. -/
def sub (x : PyFloat) : PyFloat → PyFloat
  | .fin q => x.add (.fin (-q))
  | .inf negative => x.add (.inf !negative)
  | .nan => .nan

/-- `x <= y`. -/
def le : PyFloat → PyFloat → Bool
  | .nan, _ => false
  | _, .nan => false
  | x, y => !y.lt x

/-- A format of finite numbers, on any float: what follows the digits stays. -/
def shown (format : ℚ → String) : PyFloat → String
  | .fin q => format q
  | .inf negative => (if negative then "-inf" else "inf") ++ unit
  | .nan => "nan" ++ unit
where
  unit : String :=
    String.ofList ((format 0).toList.dropWhile fun c => c.isDigit || c = '.')

@[simp] theorem lt_fin {p q : ℚ} : lt (.fin p) (.fin q) = decide (p < q) := rfl

@[simp] theorem le_fin {p q : ℚ} : le (.fin p) (.fin q) = decide (p ≤ q) := by
  simp [le, ← not_le]

theorem le_of_le_of_le {x y z : PyFloat} (hxy : x.le y = true) (hyz : y.le z = true) :
    x.le z = true := by
  cases x with
  | nan => cases hxy
  | fin p =>
      cases y with
      | nan => cases hxy
      | fin q =>
          cases z with
          | nan => cases hyz
          | fin r =>
              simp only [le_fin, decide_eq_true_eq] at hxy hyz ⊢
              exact le_trans hxy hyz
          | inf negative => exact hyz
      | inf negative =>
          cases negative with
          | true => cases hxy
          | false =>
              cases z with
              | inf negative => cases negative <;> first | rfl | cases hyz
              | _ => cases hyz
  | inf negative =>
      cases negative with
      | true =>
          cases z with
          | fin r => rfl
          | inf negative => cases negative <;> rfl
          | nan => cases y <;> cases hyz
      | false =>
          cases y with
          | inf negative => cases negative <;> first | exact hyz | cases hxy
          | _ => cases hxy

/-- The same float, or a greater one. -/
def NoLess (x y : PyFloat) : Prop := x = y ∨ x.le y = true

theorem le_of_noLess {x y m n : PyFloat} (hxy : x.NoLess y) (hmn : m.NoLess n)
    (h : y.le m = true) : x.le n = true := by
  have hxm : x.le m = true := by
    rcases hxy with rfl | hxy
    · exact h
    · exact le_of_le_of_le hxy h
  rcases hmn with rfl | hmn
  · exact hxm
  · exact le_of_le_of_le hxm hmn

/-- A greater finite float leaves a greater difference. -/
theorem sub_noLess {p q : ℚ} (h : p ≤ q) (y : PyFloat) :
    ((PyFloat.fin p).sub y).NoLess ((PyFloat.fin q).sub y) := by
  cases y with
  | fin b =>
      right
      show le (.fin (p + -b)) (.fin (q + -b)) = true
      rw [le_fin, decide_eq_true_eq]
      linarith
  | inf negative => exact .inl rfl
  | nan => exact .inl rfl

/-- And a greater ratio of the difference to a `y` that is not zero or less. -/
theorem surge_noLess {p q : ℚ} (h : p ≤ q) {y : PyFloat} (hy : ¬ y.le (.fin 0) = true) :
    (((PyFloat.fin p).sub y).div y).NoLess (((PyFloat.fin q).sub y).div y) := by
  cases y with
  | fin b =>
      right
      have hb : 0 < b := by simpa using hy
      show le (.fin ((p + -b) / b)) (.fin ((q + -b) / b)) = true
      rw [le_fin, decide_eq_true_eq]
      gcongr
  | inf negative => exact .inl rfl
  | nan => exact .inl rfl

end PyFloat

/-- `f"{q:.{digits}f}"`. -/
def pyFixedTo (digits : ℕ) (q : ℚ) : String :=
  let scaled := pyRound (10 ^ digits * q)
  let frac := toString (scaled.natAbs % 10 ^ digits)
  (if scaled < 0 then "-" else "") ++ toString (scaled.natAbs / 10 ^ digits) ++ "." ++
    String.ofList (List.replicate (digits - frac.length) '0') ++ frac

/-- A value that `json.load` returns. -/
inductive PyJson
  | null
  | bool (b : Bool)
  | int (i : ℤ)
  | float (x : PyFloat)
  | str (s : String)
  | arr (items : List PyJson)
  | obj (fields : List (String × PyJson))
deriving Inhabited

/-- An `OverflowError`. -/
def overflowError : PyError := .raised "OverflowError" ""

/-- The least integer that no float is rounded from. -/
@[irreducible] def floatLimit : ℕ := 2 ^ 1024 - 2 ^ 970

theorem floatLimit_pos : 0 < floatLimit := by
  have hpow : ∀ m n : ℕ, m < n → 0 < 2 ^ n - 2 ^ m := fun m n h =>
    Nat.sub_pos_of_lt (Nat.pow_lt_pow_right Nat.one_lt_two h)
  unfold floatLimit
  exact hpow 970 1024 (by decide)

/-- `float(i)`. -/
def intToFloat (i : ℤ) : Except PyError PyFloat :=
  if i.natAbs < floatLimit then .ok (.fin i) else .error overflowError

/-- `float(text)`. -/
def pyFloatText (text : String) : Option PyFloat :=
  let (sign, cs) := pySign (pyStrip text).toList
  match String.ofList (cs.map Char.toLower) with
  | "nan" => some .nan
  | "inf" => some (.inf (sign = -1))
  | "infinity" => some (.inf (sign = -1))
  | _ => (floatText text).map .fin

namespace PyJson

/-- `v[k]`. -/
def item (v : PyJson) (k : String) : Except PyError PyJson :=
  match v with
  | .obj fields =>
      match fields.lookup k with
      | some w => .ok w
      | none => .error (.keyError k)
  | _ => .error .typeError

/-- `v.get(k)`; `none` where the key is missing. -/
def get (v : PyJson) (k : String) : Except PyError (Option PyJson) :=
  match v with
  | .obj fields => .ok (fields.lookup k)
  | _ => .error .attributeError

/-- `bool(v)`. -/
def truthy : PyJson → Bool
  | .null => false
  | .bool b => b
  | .int i => i != 0
  | .float x => x != .fin 0
  | .str s => s != ""
  | .arr items => !items.isEmpty
  | .obj fields => !fields.isEmpty

/-- `v or default`, for a value that may be missing. -/
def orElse (v : Option PyJson) (default : PyJson) : PyJson :=
  match v with
  | some w => if w.truthy then w else default
  | none => default

/-- The value of a number in a comparison. -/
def number : PyJson → Except PyError PyFloat
  | .bool b => .ok (.fin (if b then 1 else 0))
  | .int i => .ok (.fin i)
  | .float x => .ok x
  | _ => .error .typeError

/-- The float that a format or an operation with a float makes of a number. -/
def asFloat : PyJson → Except PyError PyFloat
  | .bool b => .ok (.fin (if b then 1 else 0))
  | .int i => intToFloat i
  | .float x => .ok x
  | _ => .error .typeError

/-- The integer of an `int` or a `bool`. -/
def int? : PyJson → Option ℤ
  | .bool b => some (if b then 1 else 0)
  | .int i => some i
  | _ => none

/-- `v + w`, where one of the two is a number. -/
def plus (v w : PyJson) : Except PyError PyJson :=
  match v.int?, w.int? with
  | some i, some j => .ok (.int (i + j))
  | _, _ => do
      let x ← v.asFloat
      let y ← w.asFloat
      pure (.float (x.add y))

/-- `int(v)`. -/
def toInt : PyJson → Except PyError ℤ
  | .bool b => .ok (if b then 1 else 0)
  | .int i => .ok i
  | .float (.fin q) => .ok (pyInt q)
  | .float (.inf _) => .error overflowError
  | .float .nan => .error .valueError
  | .str s => (Json.toInt? (.str s)).elim (.error .valueError) .ok
  | _ => .error .typeError

/-- `float(v)`. -/
def toFloat : PyJson → Except PyError PyFloat
  | .str s => (pyFloatText s).elim (.error .valueError) .ok
  | v => v.asFloat

/-- `for x in v`. -/
def iter : PyJson → Except PyError (List PyJson)
  | .arr items => .ok items
  | .obj fields => .ok (fields.map fun f => .str f.1)
  | .str s => .ok (s.toList.map fun c => .str (String.ofList [c]))
  | _ => .error .typeError

/-- The key and the value that an item of a sequence gives to `dict`. -/
def pair (v : PyJson) : Except PyError (PyJson × PyJson) := do
  match ← v.iter with
  | [k, w] =>
      match k with
      | .arr _ => .error .typeError
      | .obj _ => .error .typeError
      | _ => pure (k, w)
  | _ => .error .valueError

/-- `dict(v)`, of a dictionary or of pairs, as far as it is asked for texts: of equal keys
the last pair counts. -/
def toDict : PyJson → Except PyError (String → Option PyJson)
  | .obj fields => .ok fun k => fields.lookup k
  | v => do
      let items ← v.iter
      let pairs ← items.mapM pair
      pure fun k => (pairs.reverse.find? fun
        | (.str l, _) => l = k
        | _ => false).map Prod.snd

end PyJson

end ChaosDemo
