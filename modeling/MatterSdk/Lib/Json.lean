import Mathlib.Data.Rat.Defs
import Mathlib.Algebra.Order.Ring.Rat
import Mathlib.Data.Nat.Cast.Order.Ring

/-!
# Parsed JSON

A JSON value with numbers of a type `ν`, how a language prints one, and the numbers of a
floating-point language: the finite ones, the infinities and the one that differs from itself.
-/

inductive Json (ν : Type) where
  | null
  | bool (b : Bool)
  | num (n : ν)
  | str (s : String)
  | arr (items : List (Json ν))
  | obj (fields : List (String × Json ν))

namespace Json

variable {ν : Type}

/-- The field of an object; nothing when it is absent or the value is no object. -/
def field (key : String) : Json ν → Option (Json ν)
  | .obj fields => fields.lookup key
  | _ => none

/-- An object whose absent fields are left out. -/
def record (fields : List (String × Option (Json ν))) : Json ν :=
  .obj (fields.filterMap fun (key, value) => value.map (key, ·))

/-- There is nothing inside the value. -/
def Flat : Json ν → Prop
  | .arr _ | .obj _ => False
  | _ => True

/-- How a language prints values.  A nested one may be too deep for its stack. -/
structure Printer (ν : Type) where
  print : Json ν → Option String
  flat : ∀ value, value.Flat → (print value).isSome = true

/-- A printer that gives every value the same text. -/
def Printer.const (ν : Type) (text : String) : Printer ν where
  print _ := some text
  flat _ _ := rfl

end Json

inductive Number where
  | finite (q : ℚ)
  | inf (negative : Bool)
  | nan
deriving DecidableEq

namespace Number

def ofNat (n : ℕ) : Number := .finite n

def isZero (x : Number) : Bool := x = .finite 0

/-- Equality of numbers, which `nan` does not satisfy. -/
def eq (x y : Number) : Bool := x ≠ .nan && x = y

def lt : Number → Number → Bool
  | .finite p, .finite q => p < q
  | .finite _, .inf negative => !negative
  | .inf negative, .finite _ => negative
  | .inf a, .inf b => a && !b
  | _, _ => false

theorem eq_ofNat (n m : ℕ) : eq (ofNat n) (ofNat m) = decide (n = m) := by
  simp [eq, ofNat]

theorem isZero_ofNat (n : ℕ) : isZero (ofNat n) = decide (n = 0) := by
  simp [isZero, ofNat]

end Number
