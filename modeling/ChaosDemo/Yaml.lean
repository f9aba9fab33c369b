/-
ChaosDemo/Yaml.lean

What `yaml.safe_load` can return, and Python's built-ins on it.

Anchors and aliases make of a document a graph in which a list may contain itself, so a
value is not a tree: `N` stands for the objects of the document, and `Yaml.node` shows
what each of them is.  A key is always a scalar, because nothing else that the loader
builds as a key can be hashed.
-/
import ChaosDemo.Guards

namespace ChaosDemo

/-- A value without parts.  A date is given by its day and a time by its instant, both
with the text that `isoformat` makes of them. -/
inductive YamlScalar
  | null
  | bool (b : Bool)
  | int (i : ℤ)
  | num (q : ℚ)
  | inf (negative : Bool)
  | nan
  | str (s : String)
  | bytes (b : List UInt8)
  | date (day : ℤ) (text : String)
  | datetime (aware : Bool) (instant : ℤ) (text : String)
deriving DecidableEq

namespace YamlScalar

/-- The number a scalar is, when it is a finite one. -/
def number? : YamlScalar → Option ℚ
  | .bool b => some (if b then 1 else 0)
  | .int i => some i
  | .num q => some q
  | _ => none

/-- `a == b`. -/
def pyEq : YamlScalar → YamlScalar → Bool
  | .nan, .nan => false
  | .date d _, .date e _ => d == e
  | .datetime a i _, .datetime b j _ => a == b && i == j
  | a, b =>
      match a.number?, b.number? with
      | some p, some q => p == q
      | none, none => a == b
      | _, _ => false

/-- The values among which `<` is defined. -/
inductive Order
  | number
  | text
  | bytes
  | date
  | datetime (aware : Bool)
deriving DecidableEq

def order? : YamlScalar → Option Order
  | .null => none
  | .str _ => some .text
  | .bytes _ => some .bytes
  | .date _ _ => some .date
  | .datetime aware _ _ => some (.datetime aware)
  | _ => some .number

/-- `a < b`, of two values of one order. -/
def pyLt : YamlScalar → YamlScalar → Bool
  | .nan, _ => false
  | _, .nan => false
  | .inf true, b => b != .inf true
  | _, .inf true => false
  | .inf false, _ => false
  | _, .inf false => true
  | .str s, .str t => s < t
  | .bytes b, .bytes c => b < c
  | .date d _, .date e _ => d < e
  | .datetime _ i _, .datetime _ j _ => i < j
  | a, b =>
      match a.number?, b.number? with
      | some p, some q => p < q
      | _, _ => false

end YamlScalar

/-- The scalars that `sorted` can order: all of one order, or a single one. -/
def Sortable (keys : List YamlScalar) : Prop :=
  keys.length ≤ 1 ∨ ∃ order, ∀ k ∈ keys, k.order? = some order

/-- `sorted(keys)`. -/
def sortedKeys (keys : List YamlScalar) : Except PyError (List YamlScalar) :=
  if keys.length ≤ 1 ∨
      (keys.head?.bind YamlScalar.order?).isSome ∧
        ∀ k ∈ keys, k.order? = keys.head?.bind YamlScalar.order? then
    .ok (keys.insertionSort fun a b => b.pyLt a = false)
  else .error .typeError

/-- A dictionary: no key equals another. -/
structure Mapping (N : Type) where
  fields : List (YamlScalar × N)
  distinct : fields.Pairwise fun f g => f.1.pyEq g.1 = false

/-- What an object of a document is.  `!!omap` and `!!pairs` make lists of pairs. -/
inductive YamlNode (N : Type)
  | scalar (s : YamlScalar)
  | list (items : List N)
  | pair (first second : N)
  | set (members : List YamlScalar)
  | mapping (m : Mapping N)

/-- A document: its objects, and Python's `repr` of them.  `scalarRepr` is asked for the
scalars other than `None`, `True`, `False` and integers, `nodeRepr` for the collections;
it has no text where an integer inside has too many digits. -/
structure Yaml (N : Type) where
  node : N → YamlNode N
  scalarRepr : YamlScalar → String
  nodeRepr : YamlNode N → Except PyError String

variable {N : Type}

/-- `{}`. -/
def Mapping.empty : Mapping N := ⟨[], List.Pairwise.nil⟩

/-- The value under a key that is a text. -/
def Mapping.get? (m : Mapping N) (k : String) : Option N := m.fields.lookup (.str k)

/-- `set(m) - known`. -/
def Mapping.keysBesides (m : Mapping N) (known : List String) : List YamlScalar :=
  (m.fields.map Prod.fst).filter fun k => !known.any fun name => k = .str name

/-- A text. -/
abbrev YamlNode.text (s : String) : YamlNode N := .scalar (.str s)

/-- `bool(v)`. -/
def YamlNode.truthy : YamlNode N → Bool
  | .scalar .null => false
  | .scalar (.bool b) => b
  | .scalar (.int i) => i != 0
  | .scalar (.num q) => q != 0
  | .scalar (.str s) => s != ""
  | .scalar (.bytes b) => !b.isEmpty
  | .scalar _ => true
  | .list items => !items.isEmpty
  | .pair _ _ => true
  | .set members => !members.isEmpty
  | .mapping m => !m.fields.isEmpty

/-- `int(v)`. -/
def YamlNode.toInt : YamlNode N → Except PyError ℤ
  | .scalar (.bool b) => .ok (if b then 1 else 0)
  | .scalar (.int i) => .ok i
  | .scalar (.num q) => .ok (pyInt q)
  | .scalar (.inf _) => .error (.raised "OverflowError" "")
  | .scalar .nan => .error .valueError
  | .scalar (.str s) => (Json.toInt? (.str s)).elim (.error .valueError) .ok
  | .scalar (.bytes b) =>
      (Json.toInt? (.str (String.ofList (b.map fun c => Char.ofNat c.toNat)))).elim
        (.error .valueError) .ok
  | _ => .error .typeError

/-- `v in (1,)`: the test for a version, of which there is one. -/
def YamlNode.supportedVersion : YamlNode N → Bool
  | .scalar s => s.pyEq (.int 1)
  | _ => false

/-- `sys.get_int_max_str_digits()`, from Python 3.11 on. -/
def intMaxStrDigits : ℕ := 4300

/-- The text of an integer. -/
def intRepr (i : ℤ) : Except PyError String :=
  if i.natAbs < 10 ^ intMaxStrDigits then .ok (toString i) else .error .valueError

namespace Yaml

variable (doc : Yaml N)

/-- `m.get(k, default)`. -/
def get (m : Mapping N) (k : String) (default : YamlNode N) : YamlNode N :=
  (m.get? k).elim default doc.node

/-- `repr(k)` of a key. -/
def keyRepr : YamlScalar → Except PyError String
  | .null => .ok "None"
  | .bool b => .ok (if b then "True" else "False")
  | .int i => intRepr i
  | k => .ok (doc.scalarRepr k)

/-- `str(k)` of a key. -/
def keyStr : YamlScalar → Except PyError String
  | .str s => .ok s
  | .date _ text => .ok text
  | .datetime _ _ text => .ok text
  | k => doc.keyRepr k

/-- `repr(v)`. -/
def reprOf : YamlNode N → Except PyError String
  | .scalar k => doc.keyRepr k
  | v => doc.nodeRepr v

/-- `str(v)`. -/
def strOf : YamlNode N → Except PyError String
  | .scalar k => doc.keyStr k
  | v => doc.nodeRepr v

/-- `f"{sorted(keys)}"`. -/
def sortedRepr (keys : List YamlScalar) : Except PyError String := do
  let sorted ← sortedKeys keys
  let parts ← sorted.mapM doc.keyRepr
  pure ("[" ++ ", ".intercalate parts ++ "]")

/-- `list(v)`. -/
def listOf : YamlNode N → Except PyError (List (YamlNode N))
  | .scalar (.str s) => .ok (s.toList.map fun c => .text (String.ofList [c]))
  | .scalar (.bytes b) => .ok (b.map fun c => .scalar (.int c.toNat))
  | .scalar _ => .error .typeError
  | .list items => .ok (items.map doc.node)
  | .pair first second => .ok [doc.node first, doc.node second]
  | .set members => .ok (members.map .scalar)
  | .mapping m => .ok (m.fields.map fun f => .scalar f.1)

/-- Whether a value can be a key.  The parts of a pair are never pairs. -/
def hashable : YamlNode N → Bool
  | .scalar _ => true
  | .pair first second =>
      match doc.node first, doc.node second with
      | .scalar _, .scalar _ => true
      | _, _ => false
  | _ => false

/-- `a == b` on keys. -/
def keyEq : YamlNode N → YamlNode N → Bool
  | .scalar a, .scalar b => a.pyEq b
  | .pair a b, .pair c d =>
      match doc.node a, doc.node b, doc.node c, doc.node d with
      | .scalar a, .scalar b, .scalar c, .scalar d => a.pyEq c && b.pyEq d
      | _, _, _, _ => false
  | _, _ => false

/-- `d[k] = v`: a key that is there stays. -/
def setItem : List (YamlNode N × YamlNode N) → YamlNode N → YamlNode N →
    List (YamlNode N × YamlNode N)
  | [], k, v => [(k, v)]
  | (l, w) :: d, k, v => if doc.keyEq l k then (l, v) :: d else (l, w) :: setItem d k v

/-- `dict(v)`: of a mapping, or of pairs. -/
def dictOf : YamlNode N → Except PyError (List (YamlNode N × YamlNode N))
  | .mapping m => .ok (m.fields.map fun f => (.scalar f.1, doc.node f.2))
  | v => do
      let items ← doc.listOf v
      items.foldlM (fun d item => do
        match ← doc.listOf item with
        | [k, value] => if doc.hashable k then pure (doc.setItem d k value) else .error .typeError
        | _ => .error .valueError) []

end Yaml

/-! ### The list of a set's members, sorted -/

theorem sortedKeys_ok_iff {keys : List YamlScalar} :
    (∃ sorted, sortedKeys keys = .ok sorted) ↔ Sortable keys := by
  rw [sortedKeys, Sortable]
  constructor
  · intro h
    obtain ⟨sorted, h⟩ := h
    split at h
    · rename_i hsort
      rcases hsort with hone | ⟨hsome, hall⟩
      · exact Or.inl hone
      · obtain ⟨order, horder⟩ := Option.isSome_iff_exists.mp hsome
        exact Or.inr ⟨order, fun k hk => (hall k hk).trans horder⟩
    · cases h
  · intro h
    rw [if_pos]
    · exact ⟨_, rfl⟩
    · rcases h with hone | ⟨order, hall⟩
      · exact Or.inl hone
      · cases keys with
        | nil => exact Or.inl (Nat.zero_le 1)
        | cons k keys =>
            have hk : k.order? = some order := hall k List.mem_cons_self
            refine Or.inr ⟨by simp [hk], fun l hl => ?_⟩
            simpa [hk] using hall l hl

theorem sortedKeys_perm {keys sorted : List YamlScalar} (h : sortedKeys keys = .ok sorted) :
    sorted.Perm keys := by
  rw [sortedKeys] at h
  split at h
  · cases h
    exact List.perm_insertionSort _ keys
  · cases h

/-! ### Keys that an error can name -/

/-- `sorted` can order the keys, and each has a text. -/
def Nameable (doc : Yaml N) (keys : List YamlScalar) : Prop :=
  Sortable keys ∧ ∀ k ∈ keys, ∃ text, doc.keyRepr k = .ok text

theorem nameable_iff {doc : Yaml N} {keys : List YamlScalar} :
    Nameable doc keys ↔ ∃ text, doc.sortedRepr keys = .ok text := by
  constructor
  · intro h
    obtain ⟨hsort, htexts⟩ := h
    obtain ⟨sorted, hsorted⟩ := sortedKeys_ok_iff.mpr hsort
    obtain ⟨parts, hparts⟩ := exists_forall₂_iff.mpr fun k (hk : k ∈ sorted) =>
      htexts k ((sortedKeys_perm hsorted).mem_iff.mp hk)
    exact ⟨_, bind_eq_ok_iff.mpr ⟨sorted, hsorted,
      bind_eq_ok_iff.mpr ⟨parts, mapM_eq_ok_iff.mpr hparts, rfl⟩⟩⟩
  · intro h
    obtain ⟨text, h⟩ := h
    obtain ⟨sorted, hsorted, h⟩ := bind_eq_ok_iff.mp h
    obtain ⟨parts, hparts, -⟩ := bind_eq_ok_iff.mp h
    refine ⟨sortedKeys_ok_iff.mp ⟨sorted, hsorted⟩, fun k hk => ?_⟩
    exact exists_forall₂_iff.mp ⟨parts, mapM_eq_ok_iff.mp hparts⟩ k
      ((sortedKeys_perm hsorted).mem_iff.mpr hk)

end ChaosDemo
