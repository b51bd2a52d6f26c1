import Mathlib.Data.List.Basic
import Mathlib.Data.Nat.Digits.Defs

/-!
JSON values and their text: what a compact writer that escapes everything outside ASCII
prints, and what a reader makes of a text. What was written reads back as the same value.
-/

/-- A JSON value. A float is kept by its shortest text. -/
inductive Json where
  | null
  | bool (value : Bool)
  | int (value : Int)
  | float (repr : String)
  | str (value : String)
  | arr (items : List Json)
  | obj (fields : List (String × Json))

namespace Json

/-! ### Mappings -/

def lookup (key : String) : List (String × Json) → Option Json
  | [] => none
  | (name, value) :: rest => if name = key then some value else lookup key rest

/-- The value of a key; `null` when the key is missing. -/
def get (fields : List (String × Json)) (key : String) : Json := (lookup key fields).getD .null

/-- The mapping itself, or an empty one. -/
def mapping : Json → List (String × Json)
  | .obj fields => fields
  | _ => []

def isNull : Json → Bool
  | .null => true
  | _ => false

/-- Texts as the values of a mapping. -/
def ofTexts (fields : List (String × String)) : List (String × Json) :=
  fields.map fun (key, value) => (key, .str value)

/-- The entries of a mapping that are texts. -/
def texts (fields : List (String × Json)) : List (String × String) :=
  fields.filterMap fun
    | (key, .str value) => some (key, value)
    | _ => none

@[simp] theorem texts_ofTexts (fields : List (String × String)) :
    texts (ofTexts fields) = fields := by
  induction fields with
  | nil => rfl
  | cons entry rest ih => exact congrArg (entry :: ·) ih

/-! ### Writing -/

def hexDigit (n : Nat) : Char := if n < 10 then Char.ofNat (48 + n) else Char.ofNat (87 + n)

def unicodeEscape (code : Nat) : List Char :=
  ['\\', 'u', hexDigit (code / 4096 % 16), hexDigit (code / 256 % 16), hexDigit (code / 16 % 16),
    hexDigit (code % 16)]

/-- One character of a string; beyond the basic plane it is written as a surrogate pair. -/
def escapeChar (c : Char) : List Char :=
  if c = '"' then ['\\', '"']
  else if c = '\\' then ['\\', '\\']
  else if c = '\n' then ['\\', 'n']
  else if c = '\r' then ['\\', 'r']
  else if c = '\t' then ['\\', 't']
  else if c.toNat = 8 then ['\\', 'b']
  else if c.toNat = 12 then ['\\', 'f']
  else if 32 ≤ c.toNat ∧ c.toNat < 127 then [c]
  else if c.toNat < 65536 then unicodeEscape c.toNat
  else
    unicodeEscape (55296 + (c.toNat - 65536) / 1024) ++
      unicodeEscape (56320 + (c.toNat - 65536) % 1024)

def renderString (text : String) : List Char := '"' :: (text.toList.flatMap escapeChar ++ ['"'])

def renderInt (value : Int) : List Char :=
  if value < 0 then '-' :: Nat.toDigits 10 value.natAbs else Nat.toDigits 10 value.natAbs

def renderFloat (repr : String) : List Char :=
  if repr = "nan" then "NaN".toList
  else if repr = "inf" then "Infinity".toList
  else if repr = "-inf" then "-Infinity".toList
  else repr.toList

mutual

def render : Json → List Char
  | .null => "null".toList
  | .bool value => if value then "true".toList else "false".toList
  | .int value => renderInt value
  | .float repr => renderFloat repr
  | .str value => renderString value
  | .arr items => '[' :: (renderItems items ++ [']'])
  | .obj fields => '\x7b' :: (renderFields fields ++ ['\x7d'])

def renderItems : List Json → List Char
  | [] => []
  | [item] => render item
  | item :: rest => render item ++ ',' :: renderItems rest

def renderFields : List (String × Json) → List Char
  | [] => []
  | [(key, value)] => renderString key ++ ':' :: render value
  | (key, value) :: rest => renderString key ++ ':' :: (render value ++ ',' :: renderFields rest)

end

/-- The compact text of a value. -/
def dumps (value : Json) : String := String.ofList (render value)

/-! ### Reading -/

def isBlank (c : Char) : Bool := c = ' ' || c = '\t' || c = '\n' || c = '\r'

def skipBlanks (text : List Char) : List Char := text.dropWhile isBlank

def hexValue (c : Char) : Option Nat :=
  if 48 ≤ c.toNat ∧ c.toNat ≤ 57 then some (c.toNat - 48)
  else if 97 ≤ c.toNat ∧ c.toNat ≤ 102 then some (c.toNat - 87)
  else if 65 ≤ c.toNat ∧ c.toNat ≤ 70 then some (c.toNat - 55)
  else none

def hexCode (a b c d : Char) : Option Nat := do
  return 4096 * (← hexValue a) + 256 * (← hexValue b) + 16 * (← hexValue c) + (← hexValue d)

def simpleEscape : Char → Option Char
  | '"' => some '"'
  | '\\' => some '\\'
  | '/' => some '/'
  | 'b' => some '\x08'
  | 'f' => some '\x0c'
  | 'n' => some '\n'
  | 'r' => some '\r'
  | 't' => some '\t'
  | _ => none

def isHighSurrogate (code : Nat) : Bool := 55296 ≤ code && code < 56320

def isLowSurrogate (code : Nat) : Bool := 56320 ≤ code && code < 57344

/-- The rest of a string after its opening quote. A surrogate without its partner is no
character. -/
def parseString : List Char → Option (List Char × List Char)
  | [] => none
  | '"' :: rest => some ([], rest)
  | '\\' :: 'u' :: a :: b :: c :: d :: rest =>
      match hexCode a b c d with
      | none => none
      | some code =>
          if isHighSurrogate code then
            match rest with
            | '\\' :: 'u' :: e :: f :: g :: h :: rest =>
                match hexCode e f g h with
                | none => none
                | some low =>
                    if isLowSurrogate low then
                      (parseString rest).map fun (text, rest) =>
                        (Char.ofNat (65536 + 1024 * (code - 55296) + (low - 56320)) :: text, rest)
                    else none
            | _ => none
          else if isLowSurrogate code then none
          else (parseString rest).map fun (text, rest) => (Char.ofNat code :: text, rest)
  | '\\' :: c :: rest =>
      match simpleEscape c with
      | none => none
      | some plain => (parseString rest).map fun (text, rest) => (plain :: text, rest)
  | c :: rest =>
      if c.toNat < 32 ∨ c = '\\' then none
      else (parseString rest).map fun (text, rest) => (c :: text, rest)

def fraction : List Char → List Char
  | '.' :: rest => if rest.takeWhile Char.isDigit = [] then [] else '.' :: rest.takeWhile Char.isDigit
  | _ => []

def exponent : List Char → List Char
  | mark :: rest =>
      let sign := rest.takeWhile fun c => c = '+' || c = '-'
      let digits := (rest.drop sign.length).takeWhile Char.isDigit
      if (mark = 'e' ∨ mark = 'E') ∧ sign.length ≤ 1 ∧ digits ≠ [] then mark :: (sign ++ digits)
      else []
  | [] => []

/-- `readFloat` is the shortest text of the float that a numeral denotes. -/
def parseNumber (readFloat : String → String) (text : List Char) : Option (Json × List Char) :=
  let sign := if text.head? = some '-' then ['-'] else []
  let body := text.drop sign.length
  let whole := body.takeWhile Char.isDigit
  if whole = [] ∨ whole.head? = some '0' ∧ 1 < whole.length then none
  else
    let rest := body.drop whole.length
    let fractional := fraction rest
    let exponential := exponent (rest.drop fractional.length)
    let value := Nat.ofDigitChars 10 whole 0
    if fractional = [] ∧ exponential = [] then
      some (.int (if sign = [] then value else -value), rest)
    else
      some (.float (readFloat (String.ofList (sign ++ whole ++ fractional ++ exponential))),
        rest.drop (fractional.length + exponential.length))

/-- Later values of a key replace earlier ones, in their place. -/
def setField (key : String) (value : Json) : List (String × Json) → List (String × Json)
  | [] => [(key, value)]
  | (name, old) :: rest =>
      if name = key then (key, value) :: rest else (name, old) :: setField key value rest

def collect (fields : List (String × Json)) : List (String × Json) :=
  fields.foldl (fun collected (key, value) => setField key value collected) []

section Parse

variable (readFloat : String → String)

mutual

/-- One value at the start of a text, with what follows it. -/
def parseValue : Nat → List Char → Option (Json × List Char)
  | 0, _ => none
  | _ + 1, '"' :: rest => (parseString rest).map fun (text, rest) => (.str (String.ofList text), rest)
  | fuel + 1, '[' :: rest =>
      match skipBlanks rest with
      | ']' :: rest => some (.arr [], rest)
      | rest => (parseItems fuel rest).map fun (items, rest) => (.arr items, rest)
  | fuel + 1, '\x7b' :: rest =>
      match skipBlanks rest with
      | '\x7d' :: rest => some (.obj [], rest)
      | rest => (parseFields fuel rest).map fun (fields, rest) => (.obj (collect fields), rest)
  | _ + 1, 'n' :: 'u' :: 'l' :: 'l' :: rest => some (.null, rest)
  | _ + 1, 't' :: 'r' :: 'u' :: 'e' :: rest => some (.bool true, rest)
  | _ + 1, 'f' :: 'a' :: 'l' :: 's' :: 'e' :: rest => some (.bool false, rest)
  | _ + 1, 'N' :: 'a' :: 'N' :: rest => some (.float "nan", rest)
  | _ + 1, 'I' :: 'n' :: 'f' :: 'i' :: 'n' :: 'i' :: 't' :: 'y' :: rest => some (.float "inf", rest)
  | _ + 1, '-' :: 'I' :: 'n' :: 'f' :: 'i' :: 'n' :: 'i' :: 't' :: 'y' :: rest =>
      some (.float "-inf", rest)
  | _ + 1, text => parseNumber readFloat text

def parseItems : Nat → List Char → Option (List Json × List Char)
  | 0, _ => none
  | fuel + 1, text =>
      match parseValue fuel text with
      | none => none
      | some (item, rest) =>
          match skipBlanks rest with
          | ']' :: rest => some ([item], rest)
          | ',' :: rest =>
              (parseItems fuel (skipBlanks rest)).map fun (items, rest) => (item :: items, rest)
          | _ => none

def parseFields : Nat → List Char → Option (List (String × Json) × List Char)
  | 0, _ => none
  | fuel + 1, '"' :: text =>
      match parseString text with
      | none => none
      | some (key, rest) =>
          match skipBlanks rest with
          | ':' :: rest =>
              match parseValue fuel (skipBlanks rest) with
              | none => none
              | some (value, rest) =>
                  match skipBlanks rest with
                  | '\x7d' :: rest => some ([(String.ofList key, value)], rest)
                  | ',' :: rest => (parseFields fuel (skipBlanks rest)).map fun (fields, rest) =>
                      ((String.ofList key, value) :: fields, rest)
                  | _ => none
          | _ => none
  | _ + 1, _ => none

end

/-- The value of a whole text. Two steps at most are taken for each character. -/
def loads (text : String) : Option Json :=
  match parseValue readFloat (2 * text.toList.length + 1) (skipBlanks text.toList) with
  | some (value, rest) => if skipBlanks rest = [] then some value else none
  | none => none

end Parse

/-! ### What was written reads back -/

theorem hexValue_hexDigit {n : Nat} (h : n < 16) : hexValue (hexDigit n) = some n := by
  have all : ∀ n : Fin 16, hexValue (hexDigit n) = some (n : Nat) := by decide
  exact all ⟨n, h⟩

theorem hexCode_digits {code : Nat} (h : code < 65536) :
    hexCode (hexDigit (code / 4096 % 16)) (hexDigit (code / 256 % 16)) (hexDigit (code / 16 % 16))
      (hexDigit (code % 16)) = some code := by
  unfold hexCode
  rw [hexValue_hexDigit (by omega), hexValue_hexDigit (by omega), hexValue_hexDigit (by omega),
    hexValue_hexDigit (by omega)]
  simp only [Option.bind_eq_bind, Option.bind_some, Option.pure_def, Option.some.injEq]
  omega

theorem eq_of_toNat {c : Char} {n : Nat} (h : c.toNat = n) : c = Char.ofNat n := by
  rw [← h, Char.ofNat_toNat]

theorem toNat_valid (c : Char) : c.toNat < 55296 ∨ 57343 < c.toNat ∧ c.toNat < 1114112 := c.valid

/-- A string is read character by character as it was written. -/
theorem parseString_escapeChar (c : Char) (rest : List Char) :
    parseString (escapeChar c ++ rest) =
      (parseString rest).map fun (text, rest) => (c :: text, rest) := by
  unfold escapeChar
  split
  · next h => subst h; rfl
  split
  · next h => subst h; rfl
  split
  · next h => subst h; rfl
  split
  · next h => subst h; rfl
  split
  · next h => subst h; rfl
  split
  · next h => rw [eq_of_toNat h]; rfl
  split
  · next h => rw [eq_of_toNat h]; rfl
  split
  · next quote backslash _ _ _ _ _ printable =>
    rw [List.singleton_append, parseString.eq_def]
    split <;> simp_all
  have valid := toNat_valid c
  split
  · next h =>
    -- a single escape: the code of a character is no surrogate
    have high : isHighSurrogate c.toNat = false := by
      unfold isHighSurrogate
      simp only [Bool.and_eq_false_iff, decide_eq_false_iff_not]
      omega
    have low : isLowSurrogate c.toNat = false := by
      unfold isLowSurrogate
      simp only [Bool.and_eq_false_iff, decide_eq_false_iff_not]
      omega
    simp only [unicodeEscape, List.cons_append, List.nil_append, parseString, hexCode_digits h,
      high, low, Char.ofNat_toNat, Bool.false_eq_true, if_false]
  · next h =>
    have high : isHighSurrogate (55296 + (c.toNat - 65536) / 1024) = true := by
      unfold isHighSurrogate
      simp only [Bool.and_eq_true, decide_eq_true_eq]
      omega
    have low : isLowSurrogate (56320 + (c.toNat - 65536) % 1024) = true := by
      unfold isLowSurrogate
      simp only [Bool.and_eq_true, decide_eq_true_eq]
      omega
    have joined : 65536 + 1024 * (55296 + (c.toNat - 65536) / 1024 - 55296) +
        (56320 + (c.toNat - 65536) % 1024 - 56320) = c.toNat := by omega
    simp only [unicodeEscape, List.cons_append, List.nil_append, parseString,
      hexCode_digits (show 55296 + (c.toNat - 65536) / 1024 < 65536 by omega), high,
      hexCode_digits (show 56320 + (c.toNat - 65536) % 1024 < 65536 by omega), low, joined,
      Char.ofNat_toNat, if_true]

theorem parseString_renderString (text rest : List Char) :
    parseString (text.flatMap escapeChar ++ '"' :: rest) = some (text, rest) := by
  induction text with
  | nil => rfl
  | cons c text ih =>
    rw [List.flatMap_cons, List.append_assoc, parseString_escapeChar, ih]
    rfl

/-- A number ends before this text. -/
def EndsNumber (rest : List Char) : Prop :=
  ∀ c ∈ rest.head?, c.isDigit = false ∧ c ≠ '.' ∧ c ≠ 'e' ∧ c ≠ 'E'

theorem endsNumber_nil : EndsNumber [] := by simp [EndsNumber]

theorem endsNumber_cons {c : Char} (rest : List Char)
    (h : c.isDigit = false ∧ c ≠ '.' ∧ c ≠ 'e' ∧ c ≠ 'E') : EndsNumber (c :: rest) := by
  intro c' hc'
  rw [List.head?_cons, Option.mem_def, Option.some.injEq] at hc'
  exact hc' ▸ h

theorem isDigit_of_mem_toDigits {n : Nat} {c : Char} (h : c ∈ Nat.toDigits 10 n) :
    c.isDigit = true := Nat.isDigit_of_mem_toDigits (by decide) (by decide) h

/-- Only zero is written with a leading zero. -/
theorem head_toDigits (n : Nat) :
    (Nat.toDigits 10 n).head? = some '0' → (Nat.toDigits 10 n).length = 1 := by
  induction n using Nat.strongRecOn with
  | _ n ih =>
    by_cases small : n < 10
    · rw [Nat.toDigits_of_lt_base small]
      exact fun _ => rfl
    · have pos : 0 < n / 10 := by omega
      rw [Nat.toDigits_of_base_le (by decide) (by omega)]
      intro zero
      rw [List.head?_append_of_ne_nil _ Nat.toDigits_ne_nil] at zero
      have one := ih (n / 10) (by omega) zero
      -- the digits before the last are those of `n / 10`, which is not zero
      obtain ⟨d, hd⟩ := List.length_eq_one_iff.mp one
      rw [hd, List.head?_cons, Option.some.injEq] at zero
      have value := Nat.ofDigitChars_ten_toDigits (n := n / 10)
      rw [hd, zero] at value
      have isZero : Nat.ofDigitChars 10 ['0'] 0 = 0 := by decide
      omega

section Numbers

variable (readFloat : String → String) {rest : List Char}

theorem takeWhile_digits (n : Nat) (ends : EndsNumber rest) :
    (Nat.toDigits 10 n ++ rest).takeWhile Char.isDigit = Nat.toDigits 10 n := by
  rw [List.takeWhile_append_of_pos fun c hc => isDigit_of_mem_toDigits hc]
  have none : rest.takeWhile Char.isDigit = [] := by
    cases rest with
    | nil => rfl
    | cons c rest => simp [(ends c rfl).1]
  rw [none, List.append_nil]

theorem parseNumber_renderInt (value : Int) (ends : EndsNumber rest) :
    parseNumber readFloat (renderInt value ++ rest) = some (.int value, rest) := by
  have noFraction : fraction rest = [] := by
    unfold fraction
    split
    · exact absurd rfl (ends '.' rfl).2.1
    · rfl
  have noExponent : exponent rest = [] := by
    unfold exponent
    cases rest with
    | nil => rfl
    | cons mark rest =>
      obtain ⟨-, -, lower, upper⟩ := ends mark rfl
      simp [lower, upper]
  have plain : ¬ ((Nat.toDigits 10 value.natAbs).head? = some '0' ∧
      1 < (Nat.toDigits 10 value.natAbs).length) := fun ⟨zero, long⟩ => by
    rw [head_toDigits _ zero] at long
    omega
  unfold renderInt
  split
  · next negative =>
    unfold parseNumber
    simp only [List.cons_append, List.head?_cons, if_true, List.length_singleton,
      List.drop_succ_cons, List.drop_zero, takeWhile_digits _ ends, Nat.toDigits_ne_nil, false_or,
      if_neg plain, List.drop_left, noFraction, noExponent, List.length_nil, and_self,
      Nat.ofDigitChars_ten_toDigits, List.cons_ne_nil, if_false, Option.some.injEq, Prod.mk.injEq,
      int.injEq, and_true]
    omega
  · next nonneg =>
    have sign : (Nat.toDigits 10 value.natAbs ++ rest).head? ≠ some '-' := by
      rw [List.head?_append_of_ne_nil _ Nat.toDigits_ne_nil]
      intro minus
      have digit := isDigit_of_mem_toDigits (List.mem_of_mem_head? minus)
      exact absurd digit (by decide)
    unfold parseNumber
    simp only [if_neg sign, List.length_nil, List.drop_zero, takeWhile_digits _ ends,
      Nat.toDigits_ne_nil, false_or, if_neg plain, List.drop_left, noFraction, noExponent,
      and_self, Nat.ofDigitChars_ten_toDigits, if_true, Option.some.injEq, Prod.mk.injEq,
      int.injEq, and_true]
    omega

end Numbers

/-! A value reads back as it was written unless it contains a float, whose text is the
reader's own, or a mapping with a key twice. -/

mutual

def Plain : Json → Prop
  | .float _ => False
  | .arr items => PlainItems items
  | .obj fields => (fields.map (·.1)).Nodup ∧ PlainFields fields
  | _ => True

def PlainItems : List Json → Prop
  | [] => True
  | item :: rest => Plain item ∧ PlainItems rest

def PlainFields : List (String × Json) → Prop
  | [] => True
  | (_, value) :: rest => Plain value ∧ PlainFields rest

end

theorem setField_of_notMem {key : String} (value : Json) {fields : List (String × Json)}
    (fresh : key ∉ fields.map (·.1)) : setField key value fields = fields ++ [(key, value)] := by
  induction fields with
  | nil => rfl
  | cons entry rest ih =>
    obtain ⟨name, old⟩ := entry
    rw [List.map_cons, List.mem_cons, not_or] at fresh
    rw [setField, if_neg (Ne.symm fresh.1), ih fresh.2]
    rfl

theorem collect_of_nodup {fields : List (String × Json)} (distinct : (fields.map (·.1)).Nodup) :
    collect fields = fields := by
  suffices h : ∀ collected : List (String × Json), ((collected ++ fields).map (·.1)).Nodup →
      fields.foldl (fun collected (key, value) => setField key value collected) collected =
        collected ++ fields from h [] distinct
  clear distinct
  induction fields with
  | nil => intro collected _; rw [List.append_nil]; rfl
  | cons entry rest ih =>
    intro collected distinct
    obtain ⟨key, value⟩ := entry
    have fresh : key ∉ collected.map (·.1) := by
      rw [List.map_append, List.nodup_append] at distinct
      exact fun mem => distinct.2.2 key mem key (by simp) rfl
    have split : collected ++ (key, value) :: rest = (collected ++ [(key, value)]) ++ rest := by simp
    rw [split] at distinct ⊢
    rw [List.foldl_cons]
    dsimp only
    rw [setField_of_notMem value fresh]
    exact ih _ distinct

theorem skipBlanks_cons {c : Char} (rest : List Char) (h : isBlank c = false) :
    skipBlanks (c :: rest) = c :: rest := by
  simp [skipBlanks, h]

/-- How a written value starts: never with a blank or the end of an array. -/
theorem head_render {value : Json} (plain : Plain value) :
    ∃ c rest, render value = c :: rest ∧ isBlank c = false ∧ c ≠ ']' := by
  cases value with
  | null => exact ⟨'n', _, rfl, by decide, by decide⟩
  | bool value => cases value <;> exact ⟨_, _, rfl, by decide, by decide⟩
  | float repr => exact plain.elim
  | str value => exact ⟨'"', _, rfl, by decide, by decide⟩
  | arr items => exact ⟨'[', _, rfl, by decide, by decide⟩
  | obj fields => exact ⟨'\x7b', _, rfl, by decide, by decide⟩
  | int value =>
    unfold render renderInt
    split
    · exact ⟨'-', _, rfl, by decide, by decide⟩
    · obtain ⟨d, ds, hds⟩ := List.exists_cons_of_ne_nil
        (Nat.toDigits_ne_nil (n := value.natAbs) (b := 10))
      have digit : d.isDigit = true := isDigit_of_mem_toDigits (by rw [hds]; exact List.mem_cons_self)
      refine ⟨d, ds, hds, ?_, ?_⟩
      · unfold isBlank
        simp only [Bool.or_eq_false_iff, decide_eq_false_iff_not]
        refine ⟨⟨⟨?_, ?_⟩, ?_⟩, ?_⟩ <;> (rintro rfl; exact absurd digit (by decide))
      · rintro rfl
        exact absurd digit (by decide)

theorem renderItems_cons (item next : Json) (items : List Json) :
    renderItems (item :: next :: items) = render item ++ ',' :: renderItems (next :: items) := by
  simp [renderItems]

theorem renderFields_cons (key : String) (value : Json) (next : String × Json)
    (fields : List (String × Json)) :
    renderFields ((key, value) :: next :: fields) = renderString key ++
      ':' :: (render value ++ ',' :: renderFields (next :: fields)) := by
  simp [renderFields]

theorem head_renderItems {items : List Json} (nonempty : items ≠ []) (plain : PlainItems items) :
    ∃ c rest, renderItems items = c :: rest ∧ isBlank c = false ∧ c ≠ ']' := by
  obtain ⟨item, others, rfl⟩ := List.exists_cons_of_ne_nil nonempty
  obtain ⟨c, rest, hrender, hc⟩ := head_render plain.1
  cases others with
  | nil => exact ⟨c, rest, hrender, hc⟩
  | cons next others =>
    refine ⟨c, rest ++ ',' :: renderItems (next :: others), ?_, hc⟩
    rw [renderItems_cons, hrender]
    rfl

theorem head_renderFields {fields : List (String × Json)} (nonempty : fields ≠ []) :
    ∃ rest, renderFields fields = '"' :: rest := by
  obtain ⟨⟨key, value⟩, others, rfl⟩ := List.exists_cons_of_ne_nil nonempty
  cases others with
  | nil => exact ⟨_, rfl⟩
  | cons next others => exact ⟨_, rfl⟩

theorem skipBlanks_render {value : Json} (plain : Plain value) (rest : List Char) :
    skipBlanks (render value ++ rest) = render value ++ rest := by
  obtain ⟨c, text, hrender, blank, -⟩ := head_render plain
  rw [hrender, List.cons_append, skipBlanks_cons _ blank]

theorem skipBlanks_renderFields {fields : List (String × Json)} (nonempty : fields ≠ [])
    (rest : List Char) : skipBlanks (renderFields fields ++ rest) = renderFields fields ++ rest := by
  obtain ⟨text, hrender⟩ := head_renderFields nonempty
  rw [hrender, List.cons_append, skipBlanks_cons _ (by decide)]

section Values

variable (readFloat : String → String)

theorem parseValue_renderInt (value : Int) (fuel : Nat) {rest : List Char}
    (ends : EndsNumber rest) :
    parseValue readFloat (fuel + 1) (renderInt value ++ rest) = some (.int value, rest) := by
  rw [← parseNumber_renderInt readFloat value ends]
  obtain ⟨d, ds, hds⟩ := List.exists_cons_of_ne_nil
    (Nat.toDigits_ne_nil (n := value.natAbs) (b := 10))
  have digit : d.isDigit = true := isDigit_of_mem_toDigits (by rw [hds]; exact List.mem_cons_self)
  unfold renderInt
  rw [hds]
  split <;> rw [parseValue.eq_def] <;> split <;> simp_all

theorem parseFields_of_last {fuel : Nat} {text key after rest : List Char} {value : Json}
    (hkey : parseString text = some (key, ':' :: after))
    (hvalue : parseValue readFloat fuel (skipBlanks after) = some (value, '\x7d' :: rest)) :
    parseFields readFloat (fuel + 1) ('"' :: text) =
      some ([(String.ofList key, value)], rest) := by
  rw [parseFields, hkey]
  have colon : skipBlanks (':' :: after) = ':' :: after := skipBlanks_cons after (by decide)
  have brace : skipBlanks ('\x7d' :: rest) = '\x7d' :: rest := skipBlanks_cons rest (by decide)
  simp only [colon, hvalue, brace]

theorem parseFields_of_next {fuel : Nat} {text key after rest rest' : List Char} {value : Json}
    {fields : List (String × Json)} (hkey : parseString text = some (key, ':' :: after))
    (hvalue : parseValue readFloat fuel (skipBlanks after) = some (value, ',' :: rest))
    (hfields : parseFields readFloat fuel (skipBlanks rest) = some (fields, rest')) :
    parseFields readFloat (fuel + 1) ('"' :: text) =
      some ((String.ofList key, value) :: fields, rest') := by
  rw [parseFields, hkey]
  have colon : skipBlanks (':' :: after) = ':' :: after := skipBlanks_cons after (by decide)
  have comma : skipBlanks (',' :: rest) = ',' :: rest := skipBlanks_cons rest (by decide)
  simp only [colon, hvalue, comma, hfields, Option.map_some]

mutual

theorem parseValue_render : ∀ (value : Json) (fuel : Nat) (rest : List Char), Plain value →
    2 * (render value).length < fuel → EndsNumber rest →
    parseValue readFloat fuel (render value ++ rest) = some (value, rest)
  | _, 0, _, _, enough, _ => absurd enough (Nat.not_lt_zero _)
  | .null, _ + 1, _, _, _, _ => rfl
  | .bool true, _ + 1, _, _, _, _ => rfl
  | .bool false, _ + 1, _, _, _, _ => rfl
  | .int value, fuel + 1, _, _, _, ends => parseValue_renderInt readFloat value fuel ends
  | .float _, _ + 1, _, plain, _, _ => plain.elim
  | .str text, fuel + 1, rest, _, _, _ => by
    rw [render, renderString, List.cons_append, parseValue, List.append_assoc,
      List.singleton_append, parseString_renderString]
    simp
  | .arr [], _ + 1, _, _, _, _ => rfl
  | .arr (item :: items), fuel + 1, rest, plain, enough, _ => by
    have read := parseItems_render (item :: items) fuel rest (by simp) plain
      (by simp only [render, List.length_cons, List.length_append] at enough; omega)
    obtain ⟨c, others, hrender, blank, notEnd⟩ := head_renderItems (by simp) plain
    rw [render, List.cons_append, List.append_assoc, List.singleton_append, parseValue]
    rw [hrender, List.cons_append] at read ⊢
    rw [skipBlanks_cons _ blank]
    split
    · next heq => exact absurd (List.cons.inj heq).1 notEnd
    · rw [read]
      rfl
  | .obj [], _ + 1, _, _, _, _ => rfl
  | .obj (entry :: fields), fuel + 1, rest, plain, enough, _ => by
    have read := parseFields_render (entry :: fields) fuel rest (by simp) plain.2
      (by simp only [render, List.length_cons, List.length_append] at enough; omega)
    obtain ⟨others, hrender⟩ := head_renderFields (List.cons_ne_nil entry fields)
    rw [render, List.cons_append, List.append_assoc, List.singleton_append, parseValue]
    rw [hrender, List.cons_append] at read ⊢
    rw [skipBlanks_cons _ (by decide)]
    change (parseFields readFloat fuel _).map (fun (fields, rest) => (obj (collect fields), rest)) = _
    rw [read]
    exact congrArg (fun fields => some (obj fields, rest)) (collect_of_nodup plain.1)

theorem parseItems_render : ∀ (items : List Json) (fuel : Nat) (rest : List Char), items ≠ [] →
    PlainItems items → 2 * (renderItems items).length + 1 < fuel →
    parseItems readFloat fuel (renderItems items ++ ']' :: rest) = some (items, rest)
  | [], _, _, nonempty, _, _ => absurd rfl nonempty
  | _, 0, _, _, _, enough => absurd enough (Nat.not_lt_zero _)
  | [item], fuel + 1, rest, _, plain, enough => by
    have read := parseValue_render item fuel (']' :: rest) plain.1
      (by simp only [renderItems] at enough; omega) (endsNumber_cons _ (by decide))
    rw [renderItems, parseItems, read]
    rfl
  | item :: next :: items, fuel + 1, rest, _, plain, enough => by
    rw [renderItems_cons, List.length_append, List.length_cons] at enough
    have read := parseValue_render item fuel
      (',' :: (renderItems (next :: items) ++ ']' :: rest)) plain.1 (by omega)
      (endsNumber_cons _ (by decide))
    have others := parseItems_render (next :: items) fuel rest (by simp) plain.2 (by omega)
    obtain ⟨c, text, hrender, blank, -⟩ := head_renderItems (by simp) plain.2
    rw [renderItems_cons, List.append_assoc, List.cons_append, parseItems, read]
    dsimp only
    rw [skipBlanks_cons _ (by decide)]
    change (parseItems readFloat fuel (skipBlanks _)).map (fun (items, rest) =>
      (item :: items, rest)) = _
    rw [hrender, List.cons_append] at others ⊢
    rw [skipBlanks_cons _ blank, others]
    rfl

theorem parseFields_render : ∀ (fields : List (String × Json)) (fuel : Nat) (rest : List Char),
    fields ≠ [] → PlainFields fields → 2 * (renderFields fields).length + 1 < fuel →
    parseFields readFloat fuel (renderFields fields ++ '\x7d' :: rest) = some (fields, rest)
  | [], _, _, nonempty, _, _ => absurd rfl nonempty
  | _, 0, _, _, _, enough => absurd enough (Nat.not_lt_zero _)
  | [(key, value)], fuel + 1, rest, _, plain, enough => by
    simp only [renderFields, List.length_append, List.length_cons] at enough
    have read := parseValue_render value fuel ('\x7d' :: rest) plain.1 (by omega)
      (endsNumber_cons _ (by decide))
    rw [← skipBlanks_render plain.1] at read
    simp only [renderFields, renderString, List.cons_append, List.append_assoc, List.nil_append]
    rw [parseFields_of_last readFloat (parseString_renderString key.toList _) read,
      String.ofList_toList]
  | (key, value) :: next :: fields, fuel + 1, rest, _, plain, enough => by
    simp only [renderFields_cons, List.length_append, List.length_cons] at enough
    have read := parseValue_render value fuel
      (',' :: (renderFields (next :: fields) ++ '\x7d' :: rest)) plain.1 (by omega)
      (endsNumber_cons _ (by decide))
    have others := parseFields_render (next :: fields) fuel rest (by simp) plain.2 (by omega)
    rw [← skipBlanks_render plain.1] at read
    rw [← skipBlanks_renderFields (by simp)] at others
    simp only [renderFields_cons, renderString, List.cons_append, List.append_assoc,
      List.nil_append]
    rw [parseFields_of_next readFloat (parseString_renderString key.toList _) read others,
      String.ofList_toList]

end

/-- What was written reads back as the same value. -/
theorem loads_dumps {value : Json} (plain : Plain value) :
    loads readFloat (dumps value) = some value := by
  obtain ⟨c, rest, hrender, blank, -⟩ := head_render plain
  have read := parseValue_render readFloat value (2 * (render value).length + 1) [] plain (by omega)
    endsNumber_nil
  rw [List.append_nil] at read
  unfold loads dumps
  rw [String.toList_ofList, hrender, skipBlanks_cons _ blank, ← hrender, read]
  rfl

end Values

end Json
