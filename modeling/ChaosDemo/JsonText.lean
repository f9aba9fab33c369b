/-
ChaosDemo/JsonText.lean

The JSON text of a string can be read back: `readJsonChar` takes the first character off a
text (`readJsonChar_jsonChar`), so the characters are a prefix code, and so are strings
between their quotes (`prefixCode_jsonString`).  A fingerprint is such a string between fixed
texts, with an integer behind it, so it determines the item and the quantity, whatever the
item looks like (`idemPayloadFingerprint_injective`).
-/
import Std.Data.String.ToInt
import ChaosDemo.IdempotencyStore
import ChaosDemo.PrefixCode

namespace ChaosDemo

theorem hexByte_toList (n : ℕ) : (hexByte n).toList =
    ["0123456789abcdef".toList.getD (n / 16) '0', "0123456789abcdef".toList.getD (n % 16) '0'] :=
  String.toList_ofList

theorem jsonString_toList (s : String) :
    (jsonString s).toList = '"' :: (s.toList.flatMap (fun c => (jsonChar c).toList) ++ ['"']) := by
  rw [jsonString, String.toList_append, String.toList_append, String.toList_join, List.flatMap_map,
    List.append_assoc]
  rfl

/-! ### Reading -/

/-- The value of a hexadecimal digit. -/
def hexValue (c : Char) : ℕ := if c.toNat < 58 then c.toNat - 48 else c.toNat - 87

/-- What stands for a character after a backslash. -/
def unescape (c : Char) : Char :=
  if c = 'n' then '\n'
  else if c = 'r' then '\r'
  else if c = 't' then '\t'
  else if c = 'b' then Char.ofNat 8
  else if c = 'f' then Char.ofNat 12
  else c

/-- Take the first character off the text of a JSON string. -/
def readJsonChar : List Char → Option (Char × List Char)
  | '\\' :: 'u' :: _ :: _ :: a :: b :: rest =>
      some (Char.ofNat (16 * hexValue a + hexValue b), rest)
  | '\\' :: c :: rest => some (unescape c, rest)
  | c :: rest => some (c, rest)
  | [] => none

theorem hexValue_digit : ∀ n < 16, hexValue ("0123456789abcdef".toList.getD n '0') = n := by
  decide

/-- **A character reads back.** -/
theorem readJsonChar_jsonChar (c : Char) (rest : List Char) :
    readJsonChar ((jsonChar c).toList ++ rest) = some (c, rest) := by
  unfold jsonChar
  split
  · next h =>
      subst h
      rfl
  split
  · next h =>
      subst h
      rfl
  split
  · next h =>
      subst h
      rfl
  split
  · next h =>
      subst h
      rfl
  split
  · next h =>
      subst h
      rfl
  split
  · next h =>
      rw [← Char.ofNat_toNat c, h]
      rfl
  split
  · next h =>
      rw [← Char.ofNat_toNat c, h]
      rfl
  split
  · next h =>
      have hvalue : 16 * hexValue ("0123456789abcdef".toList.getD (c.toNat / 16) '0') +
          hexValue ("0123456789abcdef".toList.getD (c.toNat % 16) '0') = c.toNat := by
        rw [hexValue_digit _ (by omega), hexValue_digit _ (Nat.mod_lt _ (by decide))]
        exact Nat.div_add_mod c.toNat 16
      rw [String.toList_append, hexByte_toList]
      show some (Char.ofNat _, rest) = _
      rw [hvalue, Char.ofNat_toNat]
  · next hquote hslash _ _ _ _ _ _ =>
      rw [String.toList_ofList]
      show readJsonChar (c :: rest) = _
      rw [readJsonChar]
      · exact fun _ _ _ _ _ h => absurd h hslash
      · exact fun _ _ h => absurd h hslash

theorem prefixCode_jsonChar : PrefixCode fun c => (jsonChar c).toList :=
  .of_reader readJsonChar_jsonChar

/-- No character is written with a quote first. -/
theorem jsonChar_ne_quote (c : Char) (x y : List Char) : (jsonChar c).toList ++ x ≠ '"' :: y := by
  intro heq
  have hread := readJsonChar_jsonChar c x
  rw [heq] at hread
  have hquote : some ('"', y) = some (c, x) := hread
  have hc : '"' = c := congrArg Prod.fst (Option.some.inj hquote)
  rw [← hc] at heq
  exact absurd (List.cons.inj heq).1 (by decide)

theorem prefixCode_jsonString : PrefixCode fun s => (jsonString s).toList := by
  have hchars := (prefixCode_jsonChar.list jsonChar_ne_quote).after ['"']
  intro s t x y heq
  simp only [jsonString_toList] at heq
  exact String.toList_injective (hchars s.toList t.toList x y heq)

/-! ### Fingerprints -/

/-- **A fingerprint determines the item and the quantity.** -/
theorem idemPayloadFingerprint_injective {s s' : String} {q q' : ℤ}
    (h : idemPayloadFingerprint s q = idemPayloadFingerprint s' q') : s = s' ∧ q = q' := by
  have hlist := congrArg String.toList h
  simp only [idemPayloadFingerprint, String.toList_append, List.append_assoc] at hlist
  obtain ⟨rfl, hrest⟩ := prefixCode_jsonString.append_inj (List.append_cancel_left hlist)
  have hquantity : (toString q).toList = (toString q').toList :=
    List.append_cancel_right (List.append_cancel_left hrest)
  exact ⟨rfl, Int.repr_injective (String.toList_injective hquantity)⟩

end ChaosDemo
