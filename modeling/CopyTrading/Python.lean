import CopyTrading.Decimal.Text
import CopyTrading.Text.Json

/-!
The parts of the Python runtime the services use: exceptions and the classes the
`except` clauses test, JSON values, and text functions. Unicode tables and
cryptography are a parameter, everything else is defined here.
-/

namespace CopyTrading

/-! ### Exceptions -/

/-- The `detail` of an `HTTPException`. -/
inductive HttpDetail where
  | text (message : String)
  | reasons (reasons : List String)
  deriving DecidableEq, Repr

/-- The exceptions the modelled code raises or lets through. -/
inductive Exc where
  | valueError (message : String)
  | jsonDecodeError
  | incompleteRead
  | recursionError
  | orderEventValidation (message : String)
  | emergencyStopEnabled
  | invalidOrderStateTransition (message : String)
  | idempotencyConflict
  | riskRejected
  | exchangeOrderRejected (message : String)
  | orderApiBlocked (reasons : List String)
  | windowAuthorization (reasons : List String)
  | windowApprovalBlocked (reasons : List String)
  | phase4SmallFundReviewBlocked (reasons : List String)
  | phase4OrderWindowBlocked (reasons : List String)
  | phase4FinalReleaseCheckBlocked (reasons : List String)
  | orderRequestBlocked
  | reconciliationBlocked (message : String)
  | accountStateSync (message : String)
  | readOnlyCheckBlocked (reasons : List String)
  | readOnlyAuthentication (failureType exchangeCode : Option String)
  | exchangeHttpRequest (failureType : String) (statusCode : Option Nat)
      (exchangeCode : Option String)
  | rateLimitExceeded (ruleName : String) (retryAfterSeconds : Nat)
  | rateLimitStoreUnavailable
  | integrityError
  | dataError
  | objectDeleted
  | attributeError
  | keyError
  | typeError
  | invalidToken
  | arithmeticError
  | adapterError (message : String)
  | httpException (status : Nat) (detail : HttpDetail)
  deriving DecidableEq, Repr

namespace Exc

/-- Caught by `except ValueError`. -/
def isValueError : Exc → Bool
  | .valueError _ | .jsonDecodeError | .orderEventValidation _ => true
  | _ => false

/-- Caught by `except RuntimeError`. -/
def isRuntimeError : Exc → Bool
  | .emergencyStopEnabled | .invalidOrderStateTransition _ | .idempotencyConflict
  | .riskRejected | .exchangeOrderRejected _ | .orderApiBlocked _ | .windowAuthorization _
  | .windowApprovalBlocked _ | .phase4SmallFundReviewBlocked _ | .phase4OrderWindowBlocked _
  | .phase4FinalReleaseCheckBlocked _ | .orderRequestBlocked | .reconciliationBlocked _
  | .accountStateSync _ | .readOnlyCheckBlocked _ | .readOnlyAuthentication ..
  | .exchangeHttpRequest .. | .rateLimitExceeded .. | .rateLimitStoreUnavailable
  | .recursionError => true
  | _ => false

/-- `str(exc)` of the exceptions whose text is put into an answer. -/
def message : Exc → String
  | .valueError message | .orderEventValidation message | .invalidOrderStateTransition message
  | .exchangeOrderRejected message | .reconciliationBlocked message | .accountStateSync message
  | .adapterError message => message
  | .emergencyStopEnabled => "global emergency stop is enabled"
  | .idempotencyConflict => "client order id is already in use"
  | .riskRejected => "testnet order risk checks rejected the request"
  | .orderApiBlocked _ => "testnet order API request is blocked by the preflight gate"
  | .windowAuthorization _ => "testnet order window authorization is invalid"
  | .windowApprovalBlocked _ => "testnet order window approval is blocked"
  | .orderRequestBlocked =>
      "testnet order request preparation is blocked by the preflight gate"
  | .exchangeHttpRequest .. => "exchange HTTP request failed"
  | .rateLimitExceeded .. => "runtime rate limit exceeded"
  | .rateLimitStoreUnavailable => "runtime rate limit store is unavailable"
  | _ => ""

end Exc

/-! ### The runtime parameter -/

/-- Character tables and cryptography. -/
structure Platform where
  /-- `str.upper` of one code point. -/
  upperChar : Char → List Char
  /-- `str.lower`, whose result may depend on neighbouring characters. -/
  lower : String → String
  /-- `str.isspace` of one code point, what `str.strip` and `str.split` remove. -/
  isSpace : Char → Bool
  /-- `str.isalnum` of one code point. -/
  isAlnum : Char → Bool
  /-- The value of a decimal digit of any script, `none` for any other character. -/
  digit : Char → Option Nat
  /-- `repr` of a string. -/
  reprStr : String → String
  /-- Fernet decryption, `none` for an invalid token. -/
  decryptSecret : String → Option String
  hmacSha256Hex : String → String → String
  hmacSha256Base64 : String → String → String
  /-- `urllib.parse.urlencode` of a list of pairs. -/
  urlencode : List (String × String) → String
  /-- `json.dumps(body, separators=(",", ":"), sort_keys=True)` of a mapping. -/
  dumpsSorted : List (String × Json) → String

namespace Platform

variable (py : Platform)

def upper (text : String) : String := String.ofList (text.toList.flatMap py.upperChar)

/-- Upper-casing an upper-cased character changes nothing. -/
def UpperStable (py : Platform) : Prop :=
  ∀ c, ∀ upper ∈ py.upperChar c, py.upperChar upper = [upper]

theorem upper_of_fixed {py : Platform} {text : String}
    (fixed : ∀ c ∈ text.toList, py.upperChar c = [c]) : py.upper text = text := by
  have each : text.toList.flatMap py.upperChar = text.toList.flatMap fun c => [c] :=
    List.flatMap_congr fixed
  unfold Platform.upper
  rw [each, List.flatMap_singleton', String.ofList_toList]

namespace UpperStable

variable {py : Platform} (stable : py.UpperStable)

include stable

theorem fixed {text : String} {c : Char} (held : c ∈ (py.upper text).toList) :
    py.upperChar c = [c] := by
  unfold Platform.upper at held
  rw [String.toList_ofList] at held
  obtain ⟨old, -, upper⟩ := List.mem_flatMap.mp held
  exact stable old c upper

theorem upper_upper (text : String) : py.upper (py.upper text) = py.upper text :=
  upper_of_fixed fun _ => stable.fixed

end UpperStable

/-- ASCII text is upper-cased and tested as in any locale. -/
structure Ascii (py : Platform) : Prop where
  upper : ∀ c : Char, c.toNat < 128 → py.upperChar c = [c.toUpper]
  solid : ∀ c : Char, c.isAlphanum → py.isSpace c = false
  alnum : ∀ c : Char, c.isAlphanum → py.isAlnum c = true

def strip (text : String) : String :=
  String.ofList
    ((text.toList.dropWhile py.isSpace).reverse.dropWhile py.isSpace).reverse

private theorem dropWhile_solid {blank : Char → Bool} {text : List Char}
    (solid : ∀ c ∈ text, blank c = false) : text.dropWhile blank = text := by
  cases text with
  | nil => rfl
  | cons c rest =>
    rw [List.dropWhile_cons_of_neg]
    simp [solid c List.mem_cons_self]

theorem strip_solid {py : Platform} {text : String}
    (solid : ∀ c ∈ text.toList, py.isSpace c = false) : py.strip text = text := by
  have backwards : ∀ c ∈ text.toList.reverse, py.isSpace c = false := fun c hc =>
    solid c (List.mem_reverse.mp hc)
  unfold strip
  rw [dropWhile_solid solid, dropWhile_solid backwards, List.reverse_reverse, String.ofList_toList]

/-- `text.split()`: the maximal runs of non-space characters. -/
def words (py : Platform) : List Char → List Char → List (List Char)
  | [], current => if current = [] then [] else [current.reverse]
  | c :: rest, current =>
      if py.isSpace c then
        if current = [] then words py rest [] else current.reverse :: words py rest []
      else words py rest (c :: current)

/-- `" ".join(text.split())`. -/
def collapseSpaces (text : String) : String :=
  String.ofList (List.intercalate [' '] (py.words text.toList []))

/-! `int`, `float` and `Decimal` read a text by way of ASCII. -/

/-- Digits and spaces beyond ASCII become those of ASCII. -/
def asciiNumeral (c : Char) : Char :=
  if c.toNat < 127 then c
  else if py.isSpace c then ' '
  else
    match py.digit c with
    | some value => Nat.digitChar value
    | none => '?'

def isNumeralSpace (c : Char) : Bool := c = ' ' || (9 ≤ c.toNat && c.toNat ≤ 13)

/-- What `int` and `float` read of a text. -/
def numeralText (text : String) : List Char :=
  (((text.toList.map py.asciiNumeral).dropWhile isNumeralSpace).reverse.dropWhile
    isNumeralSpace).reverse

theorem asciiNumeral_of_ascii {py : Platform} {c : Char} (ascii : c.toNat < 127) :
    py.asciiNumeral c = c := if_pos ascii

/-! `str(value)` of a JSON value; inside a container strings appear by their `repr`. -/

mutual

def strOf : Json → String
  | .null => "None"
  | .bool value => if value then "True" else "False"
  | .int value => toString value
  | .float repr => repr
  | .str value => value
  | .arr items => "[" ++ reprItems items ++ "]"
  | .obj fields => "\x7b" ++ reprFields fields ++ "\x7d"

def reprOf : Json → String
  | .null => "None"
  | .bool value => if value then "True" else "False"
  | .int value => toString value
  | .float repr => repr
  | .str value => py.reprStr value
  | .arr items => "[" ++ reprItems items ++ "]"
  | .obj fields => "\x7b" ++ reprFields fields ++ "\x7d"

def reprItems : List Json → String
  | [] => ""
  | [item] => reprOf item
  | item :: rest => reprOf item ++ ", " ++ reprItems rest

def reprFields : List (String × Json) → String
  | [] => ""
  | [(key, value)] => py.reprStr key ++ ": " ++ reprOf value
  | (key, value) :: rest => py.reprStr key ++ ": " ++ reprOf value ++ ", " ++ reprFields rest

end

end Platform

/-! ### JSON values as Python objects -/

/-- `bool(value)`. -/
def isTruthy : Json → Bool
  | .null => false
  | .bool value => value
  | .int value => value ≠ 0
  | .float repr => repr ≠ "0.0" ∧ repr ≠ "-0.0"
  | .str value => value ≠ ""
  | .arr items => !items.isEmpty
  | .obj fields => !fields.isEmpty

/-- `value.get(key, default)`; only a mapping has `get`. -/
def getDefault (value : Json) (key : String) (default : Json) : Except Exc Json :=
  match value with
  | .obj fields => .ok ((Json.lookup key fields).getD default)
  | _ => .error .attributeError

/-- `iter(value)`: the items of a list, the keys of a mapping, the characters of a text. -/
def iterate : Json → Except Exc (List Json)
  | .arr items => .ok items
  | .obj fields => .ok (fields.map fun field => .str field.1)
  | .str text => .ok (text.toList.map fun c => .str (String.singleton c))
  | _ => .error .typeError

/-! ### Numbers -/

open DecimalArith (Decimal)

/-- The default decimal context rounds to 28 digits. -/
def decimalPrecision : Nat := 28

/-- Its largest exponent. -/
def decimalEmax : Int := 999999

def decimalAdd (a b : Decimal) : Decimal := a.add decimalPrecision b

def decimalSub (a b : Decimal) : Decimal := a.sub decimalPrecision b

/-- The unary minus rounds to the context as well. -/
def decimalNeg (a : Decimal) : Decimal := a.neg.round decimalPrecision

def decimalMul (a b : Decimal) : Decimal := a.mul decimalPrecision b

/-- `str(value)` of a decimal. -/
def decimalStr (value : Decimal) : String := String.ofList value.toText

/-- No character of a number is a blank. -/
def Platform.SolidNumerals (py : Platform) : Prop :=
  ∀ c, Decimal.IsNumeral c → py.isSpace c = false

/-- What `Decimal(text)` may be. Request fields and columns hold finite numbers only; text
from elsewhere may name the other values. -/
inductive DecimalLiteral where
  | finite (value : Decimal)
  | infinity (negative : Bool)
  | nan
  deriving DecidableEq, Repr

namespace DecimalLiteral

def specialOf (text : String) : Option DecimalLiteral :=
  if text = "inf" ∨ text = "infinity" ∨ text = "+inf" ∨ text = "+infinity" then
    some (.infinity false)
  else if text = "-inf" ∨ text = "-infinity" then some (.infinity true)
  else if text = "nan" ∨ text = "+nan" ∨ text = "-nan" then some .nan
  else none

/-- `Decimal(text)`: surrounding blanks and underscores are ignored. -/
@[irreducible]
def read (py : Platform) (text : String) : Option DecimalLiteral :=
  let numeral := ((py.strip text).toList.filter (· != '_')).map py.asciiNumeral
  match Decimal.parse numeral with
  | some value => some (.finite value)
  | none => specialOf (py.lower (String.ofList numeral))

/-- What `str` printed is read back, where no character of a number is a blank. -/
theorem read_decimalStr {py : Platform} (solid : py.SolidNumerals) (d : Decimal) :
    ∃ d', read py (decimalStr d) = some (.finite d') ∧ d'.toRat = d.toRat := by
  have text : (decimalStr d).toList = d.toText := String.toList_ofList
  have solidText : ∀ c ∈ d.toText, py.isSpace c = false := fun c hc =>
    solid c (Decimal.numeral_of_mem_toText hc)
  have stripped : (py.strip (decimalStr d)).toList = d.toText := by
    rw [Platform.strip_solid (text ▸ solidText), text]
  have kept : d.toText.filter (· != '_') = d.toText := by
    refine List.filter_eq_self.mpr fun c hc => ?_
    rcases Decimal.numeral_of_mem_toText hc with digit | mark
    · have other : c ≠ '_' := by
        rintro rfl
        exact absurd digit (by decide)
      simpa using other
    · have other : c ≠ '_' := by
        rintro rfl
        exact absurd mark (by decide)
      simpa using other
  have plain : d.toText.map py.asciiNumeral = d.toText := by
    refine (List.map_congr_left fun c hc => ?_).trans (List.map_id _)
    exact Platform.asciiNumeral_of_ascii (Decimal.numeral_of_mem_toText hc).ascii
  obtain ⟨d', parsed, same⟩ := Decimal.parse_toText d
  refine ⟨d', ?_, same⟩
  unfold read
  simp only [stripped, kept, plain, parsed]

def str : DecimalLiteral → String
  | .finite value => decimalStr value
  | .infinity negative => if negative then "-Infinity" else "Infinity"
  | .nan => "NaN"

/-- `value > bound`; comparing with a NaN raises. -/
def exceeded (value : Decimal) : DecimalLiteral → Except Exc Bool
  | .finite bound => .ok (bound < value)
  | .infinity negative => .ok negative
  | .nan => .error .arithmeticError

end DecimalLiteral

/-- Every underscore stands between two digits. -/
def underscoresInside (behindDigit : Bool) : List Char → Bool
  | [] => true
  | '_' :: rest => behindDigit && rest.head?.any Char.isDigit && underscoresInside false rest
  | c :: rest => underscoresInside c.isDigit rest

/-- The sign of a numeral, and what stands behind it. -/
def splitSign : List Char → Bool × List Char
  | '-' :: rest => (true, rest)
  | '+' :: rest => (false, rest)
  | text => (false, text)

/-- `int(text)`: not more than 4300 digits. -/
def parseInt (py : Platform) (text : String) : Option Int :=
  let (negative, unsigned) := splitSign (py.numeralText text)
  let digits := unsigned.filter (· ≠ '_')
  if underscoresInside false unsigned ∧ digits ≠ [] ∧ digits.all Char.isDigit ∧
      digits.length ≤ 4300 then
    some (if negative then -(Nat.ofDigitChars 10 digits 0 : Int) else Nat.ofDigitChars 10 digits 0)
  else none

/-! ### Sorted pairs -/

/-- Insertion sort by key, as `sorted(params.items())` orders pairs with distinct keys. -/
def insertByKey {α : Type} (entry : String × α) : List (String × α) → List (String × α)
  | [] => [entry]
  | other :: rest =>
      if entry.1 < other.1 then entry :: other :: rest else other :: insertByKey entry rest

def sortByKey {α : Type} (entries : List (String × α)) : List (String × α) :=
  entries.foldr insertByKey []

end CopyTrading
