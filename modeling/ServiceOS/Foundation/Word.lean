import Mathlib

/-! # Machine words as numbers

Sixty-four bit arithmetic on numbers: each operation says what it does with a
result that does not fit. -/

namespace ServiceOS.Word

def limit : Nat := 2 ^ 64

variable (left right : Nat)

def wrappingAdd : Nat := (left + right) % limit

def wrappingSub : Nat := (left + (limit - right)) % limit

def wrappingMul : Nat := left * right % limit

def checkedAdd : Option Nat :=
  if left + right < limit then some (left + right) else none

def checkedMul : Option Nat :=
  if left * right < limit then some (left * right) else none

def saturatingAdd : Nat := min (left + right) (limit - 1)

def divCeil (value divisor : Nat) : Nat := (value + divisor - 1) / divisor

theorem wrappingAdd_of_lt {left right : Nat} (fits : left + right < limit) :
    wrappingAdd left right = left + right :=
  Nat.mod_eq_of_lt fits

end ServiceOS.Word
