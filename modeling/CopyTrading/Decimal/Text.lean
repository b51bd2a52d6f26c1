import CopyTrading.Decimal.Basic

/-!
Decimal numbers as text. `toText` is the scientific string of the arithmetic,
`formatPlain` the positional one without an exponent, and `parse` reads both.
What is printed reads back as the same number.
-/

namespace DecimalArith

namespace Decimal

/-! ### Printing -/

/-- Place a point after `place` digits, padding with zeros on either side. -/
def pointed (digits : List Char) (place : Int) : List Char :=
  if place ≤ 0 then '0' :: '.' :: (List.replicate (-place).toNat '0' ++ digits)
  else if digits.length ≤ place then
    digits ++ List.replicate (place - digits.length).toNat '0'
  else digits.take place.toNat ++ '.' :: digits.drop place.toNat

def signed (negative : Bool) (text : List Char) : List Char :=
  if negative then '-' :: text else text

def digits (d : Decimal) : List Char := Nat.toDigits 10 d.coeff.natAbs

/-- Positional notation: every digit before or after the point is written out. -/
def formatPlain (d : Decimal) : List Char :=
  signed (d.coeff < 0) (pointed d.digits (d.digits.length + d.exp))

def exponentText (exponent : Int) : List Char :=
  (if exponent < 0 then '-' else '+') :: Nat.toDigits 10 exponent.natAbs

/-- The scientific string: positional while the exponent is not positive and the number
is not below `10 ^ -6`, one leading digit and an exponent otherwise. -/
def toText (d : Decimal) : List Char :=
  let leftDigits := d.exp + d.digits.length
  let place := if d.exp ≤ 0 ∧ -6 < leftDigits then leftDigits else 1
  signed (d.coeff < 0) (pointed d.digits place ++
    if leftDigits = place then [] else 'E' :: exponentText (leftDigits - place))

/-! ### Reading -/

def parseDigits (text : List Char) : Option Nat :=
  if text ≠ [] ∧ text.all Char.isDigit then some (Nat.ofDigitChars 10 text 0) else none

def parseInt : List Char → Option Int
  | '-' :: text => (parseDigits text).map fun n => -(n : Int)
  | '+' :: text => (parseDigits text).map fun n => (n : Int)
  | text => (parseDigits text).map fun n => (n : Int)

def isExponentMark (c : Char) : Bool := c == 'E' || c == 'e'

def parseExponent : List Char → Option Int
  | [] => some 0
  | _ :: text => parseInt text

def parseUnsigned (text : List Char) : Option Decimal :=
  let mantissa := text.takeWhile (!isExponentMark ·)
  let whole := mantissa.takeWhile (· != '.')
  let fraction := (mantissa.dropWhile (· != '.')).tail
  match parseDigits (whole ++ fraction),
    parseExponent (text.dropWhile (!isExponentMark ·)) with
  | some coeff, some exponent => some ⟨coeff, exponent - fraction.length⟩
  | _, _ => none

/-- Read a finite decimal numeral: a sign, digits with an optional point, and an optional
exponent. -/
def parse : List Char → Option Decimal
  | '-' :: text => (parseUnsigned text).map neg
  | '+' :: text => parseUnsigned text
  | text => parseUnsigned text

/-! ### What is printed reads back -/

private theorem parseDigits_of_isDigit {text : List Char} (nonempty : text ≠ [])
    (all : ∀ c ∈ text, c.isDigit) : parseDigits text = some (Nat.ofDigitChars 10 text 0) := by
  have hall : text.all Char.isDigit = true := List.all_eq_true.mpr all
  simp [parseDigits, nonempty, hall]

private theorem isDigit_of_mem_digits {n : Nat} {c : Char} (hc : c ∈ Nat.toDigits 10 n) :
    c.isDigit :=
  Nat.isDigit_of_mem_toDigits (by decide) (by decide) hc

private theorem toDigits_ne_nil (n : Nat) : Nat.toDigits 10 n ≠ [] :=
  List.ne_nil_of_length_pos Nat.length_toDigits_pos

private theorem ne_of_isDigit {c : Char} (other : Char) (hc : c.isDigit) (hother : other.isDigit = false) :
    c ≠ other := by
  rintro rfl
  simp [hc] at hother

/-- A positional text and the digits before and after its point. -/
private structure Positional (text whole fraction : List Char) : Prop where
  shape : text = whole ∧ fraction = [] ∨ text = whole ++ '.' :: fraction
  digits : ∀ c ∈ whole ++ fraction, c.isDigit
  nonempty : whole ++ fraction ≠ []

private theorem takeWhile_append_of_all {p : Char → Bool} {front : List Char} (back : List Char)
    (hfront : ∀ c ∈ front, p c) (hback : ∀ c ∈ back.head?, p c = false) :
    (front ++ back).takeWhile p = front ∧ (front ++ back).dropWhile p = back := by
  induction front with
  | nil =>
    cases back with
    | nil => simp
    | cons c back =>
      have hc : p c = false := hback c (by simp)
      simp [hc]
  | cons c front ih =>
    have hc : p c = true := hfront c (by simp)
    have ih' := ih fun x hx => hfront x (by simp [hx])
    simp [hc, ih'.1, ih'.2]

private theorem Positional.parse {text whole fraction exponent : List Char}
    (h : Positional text whole fraction) (hexp : ∀ c ∈ exponent.head?, isExponentMark c) {e : Int}
    (he : parseExponent exponent = some e) :
    parseUnsigned (text ++ exponent) =
      some ⟨Nat.ofDigitChars 10 (whole ++ fraction) 0, e - fraction.length⟩ := by
  have hnotMark : ∀ c ∈ text, (!isExponentMark c) = true := by
    intro c hc
    have hcase : c.isDigit ∨ c = '.' := by
      rcases h.shape with ⟨rfl, rfl⟩ | rfl
      · exact .inl (h.digits c (by simpa using hc))
      · simp only [List.mem_append, List.mem_cons] at hc
        rcases hc with hc | rfl | hc
        · exact .inl (h.digits c (by simp [hc]))
        · exact .inr rfl
        · exact .inl (h.digits c (by simp [hc]))
    rcases hcase with hdigit | rfl
    · have hE := ne_of_isDigit 'E' hdigit rfl
      have he := ne_of_isDigit 'e' hdigit rfl
      simp [isExponentMark, hE, he]
    · rfl
  obtain ⟨hmantissa, hrest⟩ := takeWhile_append_of_all exponent hnotMark
    fun c hc => by simp [hexp c hc]
  have hwhole : ∀ c ∈ whole, (c != '.') = true := by
    intro c hc
    have := ne_of_isDigit '.' (h.digits c (by simp [hc])) rfl
    simp [this]
  have hsplit : text.takeWhile (· != '.') = whole ∧ (text.dropWhile (· != '.')).tail = fraction := by
    rcases h.shape with ⟨rfl, rfl⟩ | rfl
    · have := takeWhile_append_of_all [] hwhole (by simp)
      rw [List.append_nil] at this
      exact ⟨this.1, congrArg List.tail this.2⟩
    · have := takeWhile_append_of_all ('.' :: fraction) hwhole (by simp)
      exact ⟨this.1, congrArg List.tail this.2⟩
  simp only [parseUnsigned, hmantissa, hrest, hsplit.1, hsplit.2, he,
    parseDigits_of_isDigit h.nonempty h.digits]

/-- The point moves digits, it changes none: the digits of a positional text are the given
ones between zeros. -/
private theorem pointed_positional {ds : List Char} (nonempty : ds ≠ [])
    (all : ∀ c ∈ ds, c.isDigit) (place : Int) :
    ∃ whole fraction, Positional (pointed ds place) whole fraction ∧
      Nat.ofDigitChars 10 (whole ++ fraction) 0 =
        Nat.ofDigitChars 10 ds 0 * 10 ^ (place - ds.length).toNat ∧
      fraction.length = (ds.length - place).toNat := by
  have hpos := List.length_pos_iff.mpr nonempty
  unfold pointed
  split
  · next hplace =>
    refine ⟨['0'], List.replicate (-place).toNat '0' ++ ds, ⟨.inr rfl, ?_, by simp⟩, ?_, ?_⟩
    · intro c hc
      simp only [List.singleton_append, List.mem_cons, List.mem_append,
        List.mem_replicate] at hc
      rcases hc with rfl | ⟨-, rfl⟩ | hc
      · rfl
      · rfl
      · exact all c hc
    · have hnone : (place - ds.length).toNat = 0 := by omega
      simp [Nat.ofDigitChars_cons, Nat.ofDigitChars_append, hnone]
    · simp only [List.length_append, List.length_replicate]
      omega
  · next hplace =>
    split
    · next hlong =>
      refine ⟨ds ++ List.replicate (place - ds.length).toNat '0', [], ⟨.inl ⟨rfl, rfl⟩, ?_, ?_⟩,
        ?_, ?_⟩
      · intro c hc
        simp only [List.append_nil, List.mem_append, List.mem_replicate] at hc
        rcases hc with hc | ⟨-, rfl⟩
        · exact all c hc
        · rfl
      · simp [nonempty]
      · simp [Nat.ofDigitChars_append, mul_comm]
      · simp only [List.length_nil]
        omega
    · next hshort =>
      refine ⟨ds.take place.toNat, ds.drop place.toNat, ⟨.inr rfl, ?_, ?_⟩, ?_, ?_⟩
      · simpa using all
      · simpa using nonempty
      · have hnone : (place - ds.length).toNat = 0 := by omega
        simp [hnone]
      · simp only [List.length_drop]
        omega

private theorem parse_signed {text : List Char} {d : Decimal}
    (head : ∀ c ∈ text.head?, c.isDigit) (negative : Bool) (h : parseUnsigned text = some d) :
    parse (signed negative text) = some (if negative then d.neg else d) := by
  cases negative with
  | true => simp [signed, parse, h]
  | false =>
    simp only [signed, Bool.false_eq_true, if_false]
    cases text with
    | nil => exact h
    | cons c rest =>
      have hc := head c (by simp)
      have hminus := ne_of_isDigit '-' hc rfl
      have hplus := ne_of_isDigit '+' hc rfl
      unfold parse
      split
      · next heq => exact absurd (List.cons.inj heq).1 hminus
      · next heq => exact absurd (List.cons.inj heq).1 hplus
      · exact h

private theorem head_pointed {ds : List Char} (nonempty : ds ≠ []) (all : ∀ c ∈ ds, c.isDigit)
    (place : Int) (rest : List Char) :
    ∀ c ∈ (pointed ds place ++ rest).head?, c.isDigit := by
  obtain ⟨first, others, rfl⟩ := List.exists_cons_of_ne_nil nonempty
  intro c hc
  unfold pointed at hc
  split at hc
  · simp only [List.cons_append, List.head?_cons, Option.mem_def, Option.some.injEq] at hc
    rw [← hc]
    rfl
  · split at hc
    · simp only [List.cons_append, List.head?_cons, Option.mem_def, Option.some.injEq] at hc
      exact all c (by simp [← hc])
    · next hplace _ =>
      obtain ⟨k, hk⟩ : ∃ k, place.toNat = k + 1 := ⟨place.toNat - 1, by omega⟩
      simp only [hk, List.take_succ_cons, List.cons_append, List.head?_cons, Option.mem_def,
        Option.some.injEq] at hc
      exact all c (by simp [← hc])

private theorem toRat_signed (d : Decimal) (shift : Nat) (exp : Int)
    (hexp : (shift : Int) + exp = d.exp) :
    (if decide (d.coeff < 0) then
        (⟨(d.coeff.natAbs * 10 ^ shift : Nat), exp⟩ : Decimal).neg
      else ⟨(d.coeff.natAbs * 10 ^ shift : Nat), exp⟩).toRat = d.toRat := by
  have hpow : (10 : ℚ) ^ d.exp = 10 ^ shift * 10 ^ exp := by
    rw [← hexp, zpow_add₀ (by norm_num), zpow_natCast]
  by_cases hneg : d.coeff < 0
  · have habs : (d.coeff.natAbs : ℚ) = -d.coeff := by
      rw [Nat.cast_natAbs, abs_of_neg hneg, Int.cast_neg]
    simp only [hneg, decide_true, if_true, toRat_neg]
    simp only [toRat, hpow, Int.cast_natCast, Nat.cast_mul, Nat.cast_pow, Nat.cast_ofNat,
      Int.cast_mul, Int.cast_pow, Int.cast_ofNat, habs]
    ring
  · have habs : (d.coeff.natAbs : ℚ) = d.coeff := by
      rw [Nat.cast_natAbs, abs_of_nonneg (not_lt.mp hneg)]
    simp only [hneg, decide_false, Bool.false_eq_true, if_false, toRat, hpow, Int.cast_natCast,
      Nat.cast_mul, Nat.cast_pow, Nat.cast_ofNat, Int.cast_mul, Int.cast_pow, Int.cast_ofNat, habs]
    ring

private theorem parse_pointed (d : Decimal) (place e : Int) (exponent : List Char)
    (hmark : ∀ c ∈ exponent.head?, isExponentMark c) (he : parseExponent exponent = some e)
    (hplace : e + place = d.exp + d.digits.length) :
    ∃ d', parse (signed (d.coeff < 0) (pointed d.digits place ++ exponent)) = some d' ∧
      d'.toRat = d.toRat := by
  have all : ∀ c ∈ d.digits, c.isDigit := fun c => isDigit_of_mem_digits
  have nonempty : d.digits ≠ [] := toDigits_ne_nil _
  obtain ⟨whole, fraction, hpositional, hvalue, hlength⟩ := pointed_positional nonempty all place
  have hunsigned := hpositional.parse hmark he
  refine ⟨_, parse_signed (head_pointed nonempty all place exponent) _ hunsigned, ?_⟩
  have hdigits : Nat.ofDigitChars 10 d.digits 0 = d.coeff.natAbs := Nat.ofDigitChars_ten_toDigits
  rw [hvalue, hdigits]
  exact toRat_signed d _ _ (by omega)

theorem parse_formatPlain (d : Decimal) :
    ∃ d', parse d.formatPlain = some d' ∧ d'.toRat = d.toRat := by
  have h := parse_pointed d (d.digits.length + d.exp) 0 [] (by simp) rfl (by omega)
  simpa [formatPlain] using h

private theorem parseInt_exponentText (e : Int) : parseInt (exponentText e) = some e := by
  have hdigits : parseDigits (Nat.toDigits 10 e.natAbs) = some e.natAbs := by
    rw [parseDigits_of_isDigit (toDigits_ne_nil _) fun c => isDigit_of_mem_digits]
    simp
  unfold exponentText
  split
  · next hneg =>
    simp [parseInt, hdigits, abs_of_neg hneg]
  · next hnonneg =>
    simp [parseInt, hdigits, abs_of_nonneg (not_lt.mp hnonneg)]

theorem parse_toText (d : Decimal) : ∃ d', parse d.toText = some d' ∧ d'.toRat = d.toRat := by
  unfold toText
  dsimp only
  generalize hplace : (if d.exp ≤ 0 ∧ -6 < d.exp + d.digits.length
    then d.exp + (d.digits.length : Int) else 1) = place
  by_cases hleft : d.exp + d.digits.length = place
  · rw [if_pos hleft]
    exact parse_pointed d place 0 [] (by simp) rfl (by omega)
  · rw [if_neg hleft]
    refine parse_pointed d place _ _ ?_ (parseInt_exponentText _) (by omega)
    simp [isExponentMark]

/-! ### The characters of a number -/

/-- The characters numbers are printed with. -/
def IsNumeral (c : Char) : Prop := c.isDigit = true ∨ c ∈ ['.', '-', '+', 'E']

theorem IsNumeral.ascii {c : Char} (numeral : IsNumeral c) : c.toNat < 127 := by
  rcases numeral with digit | mark
  · have bound := (Bool.and_eq_true_iff.mp digit).2
    have small : c.toNat ≤ 57 := of_decide_eq_true bound
    omega
  · simp only [List.mem_cons, List.not_mem_nil, or_false] at mark
    rcases mark with rfl | rfl | rfl | rfl <;> decide

private theorem numeral_of_mem_pointed {ds : List Char} (all : ∀ c ∈ ds, c.isDigit = true)
    {place : Int} {c : Char} (hc : c ∈ pointed ds place) : IsNumeral c := by
  unfold pointed at hc
  split at hc
  · simp only [List.mem_cons, List.mem_append, List.mem_replicate] at hc
    rcases hc with rfl | rfl | ⟨-, rfl⟩ | hc
    · exact .inl rfl
    · exact .inr (by simp)
    · exact .inl rfl
    · exact .inl (all c hc)
  · split at hc
    · simp only [List.mem_append, List.mem_replicate] at hc
      rcases hc with hc | ⟨-, rfl⟩
      · exact .inl (all c hc)
      · exact .inl rfl
    · simp only [List.mem_append, List.mem_cons] at hc
      rcases hc with hc | rfl | hc
      · exact .inl (all c (List.mem_of_mem_take hc))
      · exact .inr (by simp)
      · exact .inl (all c (List.mem_of_mem_drop hc))

theorem numeral_of_mem_toText {d : Decimal} {c : Char} (hc : c ∈ d.toText) : IsNumeral c := by
  have body {place leftDigits : Int}
      (hc : c ∈ pointed d.digits place ++
        if leftDigits = place then [] else 'E' :: exponentText (leftDigits - place)) :
      IsNumeral c := by
    rcases List.mem_append.mp hc with hc | hc
    · exact numeral_of_mem_pointed (fun _ => isDigit_of_mem_digits) hc
    · split at hc
      · exact absurd hc List.not_mem_nil
      · unfold exponentText at hc
        rcases List.mem_cons.mp hc with rfl | hc
        · exact .inr (by simp)
        · rcases List.mem_cons.mp hc with rfl | hc
          · split
            · exact .inr (by simp)
            · exact .inr (by simp)
          · exact .inl (isDigit_of_mem_digits hc)
  unfold toText signed at hc
  dsimp only at hc
  split at hc
  · rcases List.mem_cons.mp hc with rfl | hc
    · exact .inr (by simp)
    · exact body hc
  · exact body hc

end Decimal

end DecimalArith
