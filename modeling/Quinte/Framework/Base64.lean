import Mathlib

/-! # Base 64

    Bytes as texts over an alphabet of 64 characters: three bytes are four
    characters, and a last group of one or two bytes is padded.

    * `decode_encode`: what is encoded is read back;
    * `canonical_encode`: every text of `encode` has the form that a pattern
      for such texts asks for.
-/

namespace Base64

def alphabet : List Char :=
  "ABCDEFGHIJKLMNOPQRSTUVWXYZabcdefghijklmnopqrstuvwxyz0123456789+/".toList

/-- The character of a number below 64. -/
def digit (n : Nat) : Char := alphabet.getD n 'A'

/-- The number of a character. -/
def value (c : Char) : Option Nat := alphabet.idxOf? c

def encode : List UInt8 → List Char
  | [] => []
  | [a] => [digit (a.toNat / 4), digit (a.toNat % 4 * 16), '=', '=']
  | [a, b] =>
      [digit (a.toNat / 4), digit (a.toNat % 4 * 16 + b.toNat / 16), digit (b.toNat % 16 * 4), '=']
  | a :: b :: c :: rest =>
      digit (a.toNat / 4) :: digit (a.toNat % 4 * 16 + b.toNat / 16)
        :: digit (b.toNat % 16 * 4 + c.toNat / 64) :: digit (c.toNat % 64) :: encode rest

def decode : List Char → Option (List UInt8)
  | [] => some []
  | p :: q :: r :: s :: rest => do
      let p ← value p
      let q ← value q
      if r = '=' then
        if s = '=' ∧ rest = [] then some [UInt8.ofNat (p * 4 + q / 16)] else none
      else do
        let r ← value r
        if s = '=' then
          if rest = [] then
            some [UInt8.ofNat (p * 4 + q / 16), UInt8.ofNat (q % 16 * 16 + r / 4)]
          else none
        else do
          let s ← value s
          let bytes ← decode rest
          some (UInt8.ofNat (p * 4 + q / 16) :: UInt8.ofNat (q % 16 * 16 + r / 4)
            :: UInt8.ofNat (r % 4 * 64 + s) :: bytes)
  | _ => none

/-! ### Round trip -/

theorem value_digit : ∀ n < 64, value (digit n) = some n := by
  decide +kernel

theorem digit_ne_pad : ∀ n < 64, digit n ≠ '=' := by
  decide +kernel

theorem ofNat_eq {a : UInt8} {n : Nat} (h : n = a.toNat) : UInt8.ofNat n = a := by
  rw [h, UInt8.ofNat_toNat]

theorem decode_encode (bytes : List UInt8) : decode (encode bytes) = some bytes := by
  fun_induction encode bytes with
  | case1 => rfl
  -- one byte: two digits and two pads
  | case2 a =>
    have ha := a.toNat_lt
    simp only [decode, value_digit (a.toNat / 4) (by omega),
      value_digit (a.toNat % 4 * 16) (by omega), Option.bind_eq_bind, Option.bind_some, if_true,
      and_self]
    rw [ofNat_eq (a := a) (by omega)]
  -- two bytes: three digits and a pad
  | case3 a b =>
    have ha := a.toNat_lt
    have hb := b.toNat_lt
    simp only [decode, value_digit (a.toNat / 4) (by omega),
      value_digit (a.toNat % 4 * 16 + b.toNat / 16) (by omega),
      value_digit (b.toNat % 16 * 4) (by omega), digit_ne_pad (b.toNat % 16 * 4) (by omega),
      Option.bind_eq_bind, Option.bind_some, if_true, if_false]
    rw [ofNat_eq (a := a) (by omega), ofNat_eq (a := b) (by omega)]
  | case4 a b c rest ih =>
    have ha := a.toNat_lt
    have hb := b.toNat_lt
    have hc := c.toNat_lt
    simp only [decode, value_digit (a.toNat / 4) (by omega),
      value_digit (a.toNat % 4 * 16 + b.toNat / 16) (by omega),
      value_digit (b.toNat % 16 * 4 + c.toNat / 64) (by omega),
      value_digit (c.toNat % 64) (by omega),
      digit_ne_pad (b.toNat % 16 * 4 + c.toNat / 64) (by omega),
      digit_ne_pad (c.toNat % 64) (by omega), ih, Option.bind_eq_bind, Option.bind_some, if_false]
    rw [ofNat_eq (a := a) (by omega), ofNat_eq (a := b) (by omega), ofNat_eq (a := c) (by omega)]

/-! ### The form of the texts -/

def isDigit (c : Char) : Bool := alphabet.contains c

/-- The characters whose last four bits are zero. -/
def isLowDigit (c : Char) : Bool := "AQgw".toList.contains c

/-- The characters whose last two bits are zero. -/
def isMiddleDigit (c : Char) : Bool := "AEIMQUYcgkosw048".toList.contains c

/-- Groups of four characters; a padded last group ends in a character whose
    unused bits are zero. -/
def canonical : List Char → Bool
  | [] => true
  | p :: q :: r :: s :: rest =>
      isDigit p &&
        (rest.isEmpty && r == '=' && s == '=' && isLowDigit q
          || isDigit q
            && (rest.isEmpty && s == '=' && isMiddleDigit r
              || isDigit r && isDigit s && canonical rest))
  | _ => false

theorem isDigit_digit : ∀ n < 64, isDigit (digit n) = true := by
  decide +kernel

theorem isLowDigit_digit : ∀ n < 4, isLowDigit (digit (n * 16)) = true := by
  decide +kernel

theorem isMiddleDigit_digit : ∀ n < 16, isMiddleDigit (digit (n * 4)) = true := by
  decide +kernel

theorem canonical_encode (bytes : List UInt8) : canonical (encode bytes) = true := by
  fun_induction encode bytes with
  | case1 => rfl
  | case2 a =>
    have ha := a.toNat_lt
    simp [canonical, isDigit_digit (a.toNat / 4) (by omega),
      isLowDigit_digit (a.toNat % 4) (by omega)]
  | case3 a b =>
    have ha := a.toNat_lt
    have hb := b.toNat_lt
    simp [canonical, isDigit_digit (a.toNat / 4) (by omega),
      isDigit_digit (a.toNat % 4 * 16 + b.toNat / 16) (by omega),
      isMiddleDigit_digit (b.toNat % 16) (by omega)]
  | case4 a b c rest ih =>
    have ha := a.toNat_lt
    have hb := b.toNat_lt
    have hc := c.toNat_lt
    simp [canonical, isDigit_digit (a.toNat / 4) (by omega),
      isDigit_digit (a.toNat % 4 * 16 + b.toNat / 16) (by omega),
      isDigit_digit (b.toNat % 16 * 4 + c.toNat / 64) (by omega),
      isDigit_digit (c.toNat % 64) (by omega), ih]

/-- At least one group, where there are bytes at all. -/
theorem four_le_length_encode {bytes : List UInt8} (h : bytes ≠ []) : 4 ≤ (encode bytes).length := by
  fun_induction encode bytes with
  | case1 => exact absurd rfl h
  | case2 a => simp
  | case3 a b => simp
  | case4 a b c rest ih => simp

end Base64
