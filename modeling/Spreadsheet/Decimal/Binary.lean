/-
# Doubles, taken apart

* A finite double is a sign, a whole number `mantissa` and a power of two: its magnitude is
  `mantissa * 2 ^ exponent`.  What is left are the infinities and the values that are no number.
* Whatever is printed, cut or rounded is computed from these parts in whole numbers, so nothing
  here depends on how the machine rounds.
-/

namespace Spreadsheet.Decimal

/-! ## 1. The parts -/

/-- **The magnitude of a finite double,** `mantissa * 2 ^ exponent`. -/
structure Magnitude where
  mantissa : Nat
  exponent : Int
deriving DecidableEq, Repr

/-- A double by its parts. -/
inductive Parts where
  | finite (negative : Bool) (magnitude : Magnitude)
  | infinite (negative : Bool)
  | notANumber
deriving DecidableEq, Repr

/-- The lowest mantissa with all its places, of which the highest is not encoded: `2 ^ 52`. -/
def fullMantissa : Nat := 0x10000000000000

/-- The parts that the sixty-four bits of a double encode: one bit of sign, eleven of exponent,
fifty-two of fraction. -/
def Parts.ofBits (bits : Nat) : Parts :=
  let negative := bits >>> 63 % 2 == 1
  let biased : Nat := bits / fullMantissa % 2048
  let fraction : Nat := bits % fullMantissa
  if biased = 2047 then
    if fraction = 0 then .infinite negative else .notANumber
  else if biased = 0 then
    .finite negative ⟨fraction, -1074⟩
  else
    .finite negative ⟨fullMantissa + fraction, (biased : Int) - 1075⟩

/-- The parts of a double. -/
def Parts.of (x : Float) : Parts := .ofBits x.toBits.toNat

/-! ## 2. Whole parts -/

/-- The magnitude without its fraction. -/
def Magnitude.floor (m : Magnitude) : Nat :=
  match m.exponent with
  | .ofNat e => m.mantissa <<< e
  | .negSucc e => m.mantissa >>> (e + 1)

/-- The nearest whole number; a half goes up. -/
def Magnitude.round (m : Magnitude) : Nat :=
  match m.exponent with
  | .ofNat e => m.mantissa <<< e
  | .negSucc e => (m.mantissa + 1 <<< e) >>> (e + 1)

/-- Whether the magnitude has no fraction. -/
def Magnitude.isWhole (m : Magnitude) : Bool :=
  match m.exponent with
  | .ofNat _ => true
  | .negSucc e => m.mantissa % 1 <<< (e + 1) == 0

theorem Magnitude.round_eq_floor_of_isWhole {m : Magnitude} (h : m.isWhole) :
    m.round = m.floor := by
  obtain ⟨mantissa, exponent⟩ := m
  cases exponent with
  | ofNat e => rfl
  | negSucc e =>
    simp only [isWhole, beq_iff_eq, Nat.one_shiftLeft] at h
    simp only [round, floor, Nat.shiftRight_eq_div_pow, Nat.one_shiftLeft]
    have hpos : 0 < 2 ^ (e + 1) := Nat.two_pow_pos _
    obtain ⟨k, hk⟩ := Nat.dvd_of_mod_eq_zero h
    have hlt : 2 ^ e < 2 ^ (e + 1) := Nat.pow_lt_pow_right (by omega) (by omega)
    rw [hk, Nat.mul_add_div hpos, Nat.mul_div_cancel_left _ hpos, Nat.div_eq_of_lt hlt,
      Nat.add_zero]

/-- A whole number with a sign. -/
def signed (negative : Bool) (n : Nat) : Int := if negative then -(n : Int) else n

/-- **The whole part of a double,** toward zero.  What is not finite has none. -/
def wholePart? (x : Float) : Option Int :=
  match Parts.of x with
  | .finite negative m => some (signed negative m.floor)
  | _ => none

/-- The double without its fraction. -/
def truncate (x : Float) : Float :=
  match wholePart? x with
  | some n => Float.ofInt n
  | none => x

/-- **The nearest whole double,** halves away from zero. -/
def roundHalfAway (x : Float) : Float :=
  match Parts.of x with
  | .finite negative m => Float.ofInt (signed negative m.round)
  | _ => x

/-- The whole part cut down to an interval; a value that is no number gives zero. -/
def clampedWhole (lowest highest : Int) (x : Float) : Int :=
  match Parts.of x with
  | .finite negative m => max lowest (min highest (signed negative m.floor))
  | .infinite negative => if negative then lowest else highest
  | .notANumber => 0

/-! ## 3. Powers -/

/-- `base ^ n` by squaring: the factors of the product are the squares at which `n` has a bit, the
lowest first, and `product` holds what has been multiplied so far. -/
def powerOnto (product base : Float) (n : Nat) : Float :=
  let product := if n % 2 = 1 then product * base else product
  if n < 2 then product else powerOnto product (base * base) (n / 2)
termination_by n

/-- **A whole power by squaring.**  A negative power is the reciprocal of the positive one. -/
def wholePower (base : Float) (n : Int) : Float :=
  let power := powerOnto 1.0 base n.natAbs
  if n < 0 then 1.0 / power else power

end Spreadsheet.Decimal
