import Mathlib.Data.List.Basic

/-!
Form encoding of key and value pairs, as a query string carries them. The encoding is byte
by byte, so what was encoded can be read back: `urlencode` is injective.
-/

namespace UrlText

def hexDigit (n : Nat) : Char := if n < 10 then Char.ofNat (48 + n) else Char.ofNat (55 + n)

/-- Letters, digits and `_.-~` stay, a blank becomes `+`, every other byte is percent-encoded. -/
def quoteByte (byte : UInt8) : List Char :=
  let c := Char.ofNat byte.toNat
  if byte.toNat < 128 ∧ (c.isAlphanum ∨ c = '_' ∨ c = '.' ∨ c = '-' ∨ c = '~') then [c]
  else if c = ' ' then ['+']
  else ['%', hexDigit (byte.toNat / 16), hexDigit (byte.toNat % 16)]

def quotePlus (text : String) : List Char := text.toByteArray.data.toList.flatMap quoteByte

def pair (entry : String × String) : List Char := quotePlus entry.1 ++ '=' :: quotePlus entry.2

def urlencode (pairs : List (String × String)) : String :=
  String.ofList (List.intercalate ['&'] (pairs.map pair))

/-! ### Reading back -/

def hexValue (c : Char) : Nat := if c.toNat < 58 then c.toNat - 48 else c.toNat - 55

/-- The bytes a quoted text stands for. -/
def unquote : List Char → List UInt8
  | '+' :: rest => 32 :: unquote rest
  | '%' :: high :: low :: rest => UInt8.ofNat (16 * hexValue high + hexValue low) :: unquote rest
  | c :: rest => UInt8.ofNat c.toNat :: unquote rest
  | [] => []

/-- The three forms of a quoted byte. -/
private def Readable (byte : UInt8) : Prop :=
  let c := Char.ofNat byte.toNat
  let high := hexDigit (byte.toNat / 16)
  let low := hexDigit (byte.toNat % 16)
  quoteByte byte = ['+'] ∧ byte = 32 ∨
    quoteByte byte = ['%', high, low] ∧ UInt8.ofNat (16 * hexValue high + hexValue low) = byte ∨
    quoteByte byte = [c] ∧ c ≠ '+' ∧ c ≠ '%' ∧ UInt8.ofNat c.toNat = byte

private theorem readable (byte : UInt8) : Readable byte := by
  have all : ∀ n : Fin 256, Readable (UInt8.ofNat n) := by unfold Readable; decide +kernel
  simpa using all ⟨byte.toNat, byte.toNat_lt⟩

private theorem separators_quoteByte (byte : UInt8) : '&' ∉ quoteByte byte ∧ '=' ∉ quoteByte byte := by
  have all : ∀ n : Fin 256, '&' ∉ quoteByte (UInt8.ofNat n) ∧ '=' ∉ quoteByte (UInt8.ofNat n) := by
    decide +kernel
  simpa using all ⟨byte.toNat, byte.toNat_lt⟩

theorem unquote_quoteByte (byte : UInt8) (rest : List Char) :
    unquote (quoteByte byte ++ rest) = byte :: unquote rest := by
  rcases readable byte with ⟨hquote, hbyte⟩ | ⟨hquote, hbyte⟩ | ⟨hquote, plus, percent, hbyte⟩
  · rw [hquote, hbyte]
    rfl
  · rw [hquote]
    exact congrArg (· :: unquote rest) hbyte
  · rw [hquote, List.singleton_append, unquote.eq_3 _ _ plus (fun _ _ _ h _ => percent h), hbyte]

theorem unquote_quotePlus (text : String) :
    unquote (quotePlus text) = text.toByteArray.data.toList := by
  unfold quotePlus
  induction text.toByteArray.data.toList with
  | nil => rfl
  | cons byte rest ih => rw [List.flatMap_cons, unquote_quoteByte, ih]

theorem quotePlus_injective : Function.Injective quotePlus := by
  intro text text' same
  have bytes := (unquote_quotePlus text).symm.trans (same ▸ unquote_quotePlus text')
  exact String.toByteArray_inj.mp (ByteArray.ext (Array.toList_inj.mp bytes))

theorem separators_quotePlus (text : String) : '&' ∉ quotePlus text ∧ '=' ∉ quotePlus text := by
  unfold quotePlus
  constructor <;> intro h
  · obtain ⟨byte, -, hbyte⟩ := List.mem_flatMap.mp h
    exact (separators_quoteByte byte).1 hbyte
  · obtain ⟨byte, -, hbyte⟩ := List.mem_flatMap.mp h
    exact (separators_quoteByte byte).2 hbyte

theorem pair_injective : Function.Injective pair := by
  intro entry entry' same
  have parts := (List.append_cons_inj_of_notMem (separators_quotePlus _).2
    (separators_quotePlus _).2).mp same
  exact Prod.ext (quotePlus_injective parts.1) (quotePlus_injective parts.2.2)

theorem separator_pair (entry : String × String) : '&' ∉ pair entry := by
  unfold pair
  intro h
  rcases List.mem_append.mp h with h | h
  · exact (separators_quotePlus _).1 h
  · rcases List.mem_cons.mp h with h | h
    · exact absurd h (by decide)
    · exact (separators_quotePlus _).1 h

/-- A query is split at its separators. -/
private theorem splitOn_pairs {pairs : List (String × String)} (nonempty : pairs ≠ []) :
    (List.intercalate ['&'] (pairs.map pair)).splitOn '&' = pairs.map pair := by
  refine List.splitOn_intercalate '&' (fun piece hpiece => ?_) (by simpa using nonempty)
  obtain ⟨entry, -, rfl⟩ := List.mem_map.mp hpiece
  exact separator_pair entry

private theorem intercalate_ne_nil {pairs : List (String × String)} (nonempty : pairs ≠ []) :
    List.intercalate ['&'] (pairs.map pair) ≠ [] := by
  obtain ⟨entry, rest, rfl⟩ := List.exists_cons_of_ne_nil nonempty
  cases rest <;> simp [pair]

theorem urlencode_injective : Function.Injective urlencode := by
  intro pairs pairs' same
  have texts := String.ofList_injective same
  by_cases hempty : pairs = []
  · by_contra ne
    rw [hempty] at texts ne
    exact intercalate_ne_nil (Ne.symm ne) texts.symm
  · by_cases hempty' : pairs' = []
    · rw [hempty'] at texts
      exact absurd texts (intercalate_ne_nil hempty)
    · have pieces := congrArg (List.splitOn '&') texts
      rw [splitOn_pairs hempty, splitOn_pairs hempty'] at pieces
      exact pair_injective.list_map pieces

end UrlText
