import Mathlib.Data.List.Basic

/-!
URL-safe Base64: the encoder without padding, and the lenient decoder, which skips what is
not in the alphabet and stops at a complete padding.
-/

namespace Base64Text

/-! ### The alphabet -/

/-- The digit of a value below 64. -/
def digit (n : Nat) : Char :=
  if n < 26 then Char.ofNat (65 + n)
  else if n < 52 then Char.ofNat (71 + n)
  else if n < 62 then Char.ofNat (n - 4)
  else if n = 62 then '-'
  else '_'

/-- The value of a digit; the digits of the standard alphabet are read as well. -/
def value (c : Char) : Option Nat :=
  if 'A' ≤ c ∧ c ≤ 'Z' then some (c.toNat - 65)
  else if 'a' ≤ c ∧ c ≤ 'z' then some (c.toNat - 71)
  else if '0' ≤ c ∧ c ≤ '9' then some (c.toNat + 4)
  else if c = '-' ∨ c = '+' then some 62
  else if c = '_' ∨ c = '/' then some 63
  else none

theorem digit_spec {n : Nat} (h : n < 64) :
    value (digit n) = some n ∧ digit n ≠ '=' ∧ digit n ≠ '.' ∧ (digit n).toNat < 128 := by
  have all : ∀ n : Fin 64, value (digit n) = some (n : Nat) ∧ digit n ≠ '=' ∧ digit n ≠ '.' ∧
      (digit n).toNat < 128 := by decide +kernel
  exact all ⟨n, h⟩

/-! ### Encoding -/

/-- `urlsafe_b64encode(...).rstrip(b"=")`: three bytes are four digits. -/
def encode : List UInt8 → List Char
  | [] => []
  | [a] => [digit (a.toNat / 4), digit (a.toNat % 4 * 16)]
  | [a, b] =>
      [digit (a.toNat / 4), digit (a.toNat % 4 * 16 + b.toNat / 16), digit (b.toNat % 16 * 4)]
  | a :: b :: c :: rest =>
      digit (a.toNat / 4) :: digit (a.toNat % 4 * 16 + b.toNat / 16) ::
        digit (b.toNat % 16 * 4 + c.toNat / 64) :: digit (c.toNat % 64) :: encode rest

theorem mem_encode {bytes : List UInt8} {c : Char} (mem : c ∈ encode bytes) :
    ∃ n < 64, c = digit n := by
  have below (b : UInt8) : b.toNat < 256 := b.toNat_lt
  fun_induction encode bytes with
  | case1 => cases mem
  | case2 a =>
    have := below a
    simp only [List.mem_cons, List.not_mem_nil, or_false] at mem
    rcases mem with h | h
    · exact ⟨_, by omega, h⟩
    · exact ⟨_, by omega, h⟩
  | case3 a b =>
    have := below a
    have := below b
    simp only [List.mem_cons, List.not_mem_nil, or_false] at mem
    rcases mem with h | h | h
    · exact ⟨_, by omega, h⟩
    · exact ⟨_, by omega, h⟩
    · exact ⟨_, by omega, h⟩
  | case4 a b c rest ih =>
    have := below a
    have := below b
    have := below c
    simp only [List.mem_cons] at mem
    rcases mem with h | h | h | h | h
    · exact ⟨_, by omega, h⟩
    · exact ⟨_, by omega, h⟩
    · exact ⟨_, by omega, h⟩
    · exact ⟨_, by omega, h⟩
    · exact ih h

theorem dot_notMem_encode (bytes : List UInt8) : '.' ∉ encode bytes := by
  intro mem
  obtain ⟨n, h, hdot⟩ := mem_encode mem
  exact (digit_spec h).2.2.1 hdot.symm

/-! ### Decoding -/

/-- The decoder after `quad` digits of a group, with the bits `left` over and the `pads` seen
since the last digit. -/
def decodeFrom (quad left pads : Nat) : List Char → Option (List UInt8)
  | [] => if quad = 0 then some [] else none
  | c :: rest =>
      if c = '=' then
        if quad < 2 then decodeFrom quad left pads rest
        else if 4 ≤ quad + (pads + 1) then some []
        else decodeFrom quad left (pads + 1) rest
      else
        match value c with
        | none => decodeFrom quad left pads rest
        | some v =>
            match quad with
            | 0 => decodeFrom 1 v 0 rest
            | 1 => (decodeFrom 2 (v % 16) 0 rest).map (UInt8.ofNat (left * 4 + v / 16) :: ·)
            | 2 => (decodeFrom 3 (v % 4) 0 rest).map (UInt8.ofNat (left * 16 + v / 4) :: ·)
            | _ => (decodeFrom 0 0 0 rest).map (UInt8.ofNat (left * 64 + v) :: ·)

/-- `urlsafe_b64decode(value + "=" * (-len(value) % 4))`; text that is not ASCII is no value. -/
def decode (text : List Char) : Option (List UInt8) :=
  if text.all (·.toNat < 128) then
    decodeFrom 0 0 0 (text ++ List.replicate ((4 - text.length % 4) % 4) '=')
  else none

section Digits

variable {n left pads : Nat} (h : n < 64) (rest : List Char)

include h

theorem decodeFrom_zero_digit :
    decodeFrom 0 left pads (digit n :: rest) = decodeFrom 1 n 0 rest := by
  rw [decodeFrom, if_neg (digit_spec h).2.1, (digit_spec h).1]
  rfl

theorem decodeFrom_one_digit : decodeFrom 1 left pads (digit n :: rest) =
    (decodeFrom 2 (n % 16) 0 rest).map (UInt8.ofNat (left * 4 + n / 16) :: ·) := by
  rw [decodeFrom, if_neg (digit_spec h).2.1, (digit_spec h).1]
  rfl

theorem decodeFrom_two_digit : decodeFrom 2 left pads (digit n :: rest) =
    (decodeFrom 3 (n % 4) 0 rest).map (UInt8.ofNat (left * 16 + n / 4) :: ·) := by
  rw [decodeFrom, if_neg (digit_spec h).2.1, (digit_spec h).1]
  rfl

theorem decodeFrom_three_digit : decodeFrom 3 left pads (digit n :: rest) =
    (decodeFrom 0 0 0 rest).map (UInt8.ofNat (left * 64 + n) :: ·) := by
  rw [decodeFrom, if_neg (digit_spec h).2.1, (digit_spec h).1]
  rfl

end Digits

/-- The padding that completes an encoding. -/
def padding (bytes : List UInt8) : List Char :=
  List.replicate ((4 - (encode bytes).length % 4) % 4) '='

theorem padding_cons (a b c : UInt8) (rest : List UInt8) :
    padding (a :: b :: c :: rest) = padding rest := by
  have hlength : (encode (a :: b :: c :: rest)).length = (encode rest).length + 4 := rfl
  unfold padding
  rw [hlength, Nat.add_mod_right]

private theorem ofNat_of_eq {a : UInt8} {n : Nat} (h : n = a.toNat) : UInt8.ofNat n = a := by
  rw [h, UInt8.ofNat_toNat]

theorem decodeFrom_encode (bytes : List UInt8) :
    decodeFrom 0 0 0 (encode bytes ++ padding bytes) = some bytes := by
  have below (b : UInt8) : b.toNat < 256 := b.toNat_lt
  fun_induction encode bytes with
  | case1 => rfl
  | case2 a =>
    have := below a
    rw [List.cons_append, List.cons_append, decodeFrom_zero_digit (by omega),
      decodeFrom_one_digit (by omega), ofNat_of_eq (a := a) (by omega)]
    rfl
  | case3 a b =>
    have := below a
    have := below b
    rw [List.cons_append, List.cons_append, List.cons_append, decodeFrom_zero_digit (by omega),
      decodeFrom_one_digit (by omega), decodeFrom_two_digit (by omega),
      ofNat_of_eq (a := a) (by omega), ofNat_of_eq (a := b) (by omega)]
    rfl
  | case4 a b c rest ih =>
    have := below a
    have := below b
    have := below c
    rw [padding_cons]
    simp only [List.cons_append]
    rw [decodeFrom_zero_digit (by omega), decodeFrom_one_digit (by omega),
      decodeFrom_two_digit (by omega), decodeFrom_three_digit (by omega), ih,
      ofNat_of_eq (a := a) (by omega), ofNat_of_eq (a := b) (by omega),
      ofNat_of_eq (a := c) (by omega)]
    rfl

/-- What was encoded decodes to the same bytes. -/
theorem decode_encode (bytes : List UInt8) : decode (encode bytes) = some bytes := by
  have ascii : (encode bytes).all (·.toNat < 128) = true := by
    rw [List.all_eq_true]
    intro c mem
    obtain ⟨n, h, rfl⟩ := mem_encode mem
    exact decide_eq_true (digit_spec h).2.2.2
  unfold decode
  rw [if_pos ascii]
  exact decodeFrom_encode bytes

end Base64Text
