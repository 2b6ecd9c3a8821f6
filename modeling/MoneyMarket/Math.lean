import Mathlib.Data.NNRat.Defs
import Mathlib.Algebra.Order.Field.Rat

/-!
# The numbers of the market

`Uint128` and `Decimal` are `cosmwasm_std`'s: a `u128`, and a `u128` counting `10⁻¹⁸`. The build
checks overflow, so an operation whose result leaves `u128` traps instead of wrapping; such an
operation returns `Option`, and `none` is the trap.

`decimal_multiplication`, `decimal_division` and `decimal_subtraction` live in the contract's
`math` module, which the sources do not include: they are modelled from the spec, which truncates
products and quotients to the fixed-point scale and clamps the subtraction at zero.

`borrow.rs` is read twice: on these numbers (`fixed`), and on exact non-negative rationals
(`exact`, in `MoneyMarket.Exact`), where no operation truncates. `Arith` names the operations the
handlers use, so that the handlers are written once for both readings.
-/

namespace MoneyMarket

/-- `cosmwasm_std::StdError`, the variants the market's code builds. -/
inductive StdError where
  | genericErr (msg : String)
  | unauthorized
  | underflow (minuend subtrahend : String)
  deriving DecidableEq, Repr

/-- How a call ends without a result: a returned `StdError`, or a trap (a panic, which aborts the
execution). -/
inductive Failure where
  | err (e : StdError)
  | abort
  deriving DecidableEq, Repr

/-- `DECIMAL_FRACTIONAL`: one `Decimal` is `10¹⁸` of its units. -/
def decimalFractional : Nat := 10 ^ 18

theorem decimalFractional_pos : 0 < decimalFractional := by decide

/-- `cosmwasm_std::Uint128`. -/
@[ext]
structure Uint128 where
  val : Nat
  isLt : val < 2 ^ 128
  deriving DecidableEq

/-- `cosmwasm_std::Decimal(u128)`: `raw` counts `10⁻¹⁸`. -/
@[ext]
structure Decimal where
  raw : Nat
  isLt : raw < 2 ^ 128
  deriving DecidableEq

namespace Uint128

/-- A `u128` result, or a trap when it overflows. -/
def ofNat? (n : Nat) : Option Uint128 := if h : n < 2 ^ 128 then some ⟨n, h⟩ else none

@[simp] theorem ofNat?_eq_some {n : Nat} {u : Uint128} : ofNat? n = some u ↔ u.val = n := by
  unfold ofNat?
  split
  · exact ⟨fun h => by cases h; rfl, fun h => by cases u; cases h; rfl⟩
  · exact ⟨nofun, fun h => absurd (h ▸ u.isLt) ‹_›⟩

theorem ofNat?_isSome {n : Nat} (h : n < 2 ^ 128) : ofNat? n = some ⟨n, h⟩ := by
  simp

/-- `Uint128::zero()`. -/
def zero : Uint128 := ⟨0, by decide⟩

/-- `Uint128 - Uint128`, a `StdResult`. -/
def sub (a b : Uint128) : Except StdError Uint128 :=
  if h : b.val ≤ a.val then .ok ⟨a.val - b.val, by have := a.isLt; omega⟩
  else .error (.underflow (toString a.val) (toString b.val))

theorem sub_eq_ok {a b c : Uint128} : sub a b = .ok c ↔ b.val ≤ a.val ∧ c.val = a.val - b.val := by
  unfold sub
  split
  · exact ⟨fun h => by cases h; exact ⟨‹_›, rfl⟩, fun h => congrArg _ (Uint128.ext h.2.symm)⟩
  · exact ⟨nofun, fun h => absurd h.1 ‹_›⟩

end Uint128

namespace Decimal

/-- A `Decimal` from its units, or a trap when they overflow. -/
def ofRaw? (n : Nat) : Option Decimal := if h : n < 2 ^ 128 then some ⟨n, h⟩ else none

@[simp] theorem ofRaw?_eq_some {n : Nat} {d : Decimal} : ofRaw? n = some d ↔ d.raw = n := by
  unfold ofRaw?
  split
  · exact ⟨fun h => by cases h; rfl, fun h => by cases d; cases h; rfl⟩
  · exact ⟨nofun, fun h => absurd (h ▸ d.isLt) ‹_›⟩

@[simp] theorem ofRaw?_raw (d : Decimal) : ofRaw? d.raw = some d := ofRaw?_eq_some.2 rfl

@[simp] theorem ofRaw?_zero : ofRaw? 0 = some ⟨0, by decide⟩ := ofRaw?_eq_some.2 rfl

/-- `Decimal::zero()`. -/
def zero : Decimal := ⟨0, by decide⟩

/-- `Decimal::one()`. -/
def one : Decimal := ⟨decimalFractional, by decide⟩

@[simp] theorem one_raw : one.raw = decimalFractional := rfl

@[simp] theorem ofRaw?_decimalFractional : ofRaw? decimalFractional = some one :=
  ofRaw?_eq_some.2 rfl

/-- `Decimal::from_ratio(nominator, denominator)`: `nominator * DECIMAL_FRACTIONAL / denominator`
in `u128`, which panics on a zero denominator. -/
def fromRatio (nominator denominator : Nat) : Option Decimal :=
  if denominator = 0 then none
  else (ofRaw? (nominator * decimalFractional)).bind fun p => ofRaw? (p.raw / denominator)

theorem fromRatio_one {n : Nat} {d : Decimal} :
    fromRatio n 1 = some d ↔ d.raw = n * decimalFractional := by
  unfold fromRatio
  simp only [Nat.one_ne_zero, if_false, Option.bind_eq_some, ofRaw?_eq_some, Nat.div_one]
  exact ⟨fun ⟨p, hp, hd⟩ => hd.trans hp, fun h => ⟨d, h, rfl⟩⟩

end Decimal

/-- Modelled from the spec: `crate::math::decimal_multiplication`, absent from the sources.
`a * b` truncated toward zero to the fixed-point scale, and a trap where it overflows. -/
def decimalMultiplication (a b : Decimal) : Option Decimal :=
  Decimal.ofRaw? (a.raw * b.raw / decimalFractional)

/-- Modelled from the spec: `crate::math::decimal_division`, absent from the sources.
`a / b` truncated to the fixed-point scale; it fails on a zero divisor, and it returns a plain
`Decimal` in the code, so a failure is a trap. -/
def decimalDivision (a b : Decimal) : Option Decimal :=
  if b.raw = 0 then none else Decimal.ofRaw? (a.raw * decimalFractional / b.raw)

/-- Modelled from the spec: `crate::math::decimal_subtraction`, absent from the sources.
`max(a - b, 0)`. -/
def decimalSubtraction (a b : Decimal) : Decimal :=
  ⟨a.raw - b.raw, Nat.lt_of_le_of_lt (Nat.sub_le _ _) a.isLt⟩

/-- `Uint128 * Decimal`: zero if either is, else `multiply_ratio(d.0, DECIMAL_FRACTIONAL)`, whose
`u128` product `u * d.0` is taken before the division. -/
def mulDecimal (u : Uint128) (d : Decimal) : Option Uint128 :=
  if u.val = 0 ∨ d.raw = 0 then some Uint128.zero
  else (Uint128.ofNat? (u.val * d.raw)).bind fun p => Uint128.ofNat? (p.val / decimalFractional)

theorem mulDecimal_val {u c : Uint128} {d : Decimal} (h : mulDecimal u d = some c) :
    c.val = u.val * d.raw / decimalFractional := by
  unfold mulDecimal at h
  split at h
  · rename_i hz
    cases h
    rcases hz with hz | hz <;> simp [hz, Uint128.zero]
  · simp only [Option.bind_eq_some, Uint128.ofNat?_eq_some] at h
    obtain ⟨p, hp, hc⟩ := h
    rw [hc, hp]

/-- The operations `borrow.rs` applies to its amounts `U` and ratios `D`. An operation that
returns `none` traps. -/
structure Arith (U D : Type) where
  /-- `Uint128::zero()` -/
  uintZero : U
  /-- `Uint128::is_zero` -/
  isZero : U → Bool
  /-- `<` on `Uint128` -/
  lt : U → U → Bool
  /-- `Uint128 + Uint128` -/
  add : U → U → Option U
  /-- `Uint128 - Uint128`, a `StdResult` -/
  sub : U → U → Except StdError U
  /-- `Uint128 * Decimal` -/
  mulDecimal : U → D → Option U
  /-- how an amount is written in a log attribute -/
  fmt : U → String
  /-- `Decimal::zero()` -/
  decimalZero : D
  /-- `Decimal::one()` -/
  decimalOne : D
  /-- `Decimal + Decimal` -/
  decimalAdd : D → D → Option D
  /-- `Decimal::from_ratio(amount, 1u128)` -/
  fromAmount : U → Option D
  /-- `Decimal::from_ratio(passed_blocks, 1u128)` -/
  fromBlocks : Nat → Option D
  /-- `decimal_multiplication` -/
  decimalMultiplication : D → D → Option D
  /-- `decimal_division` -/
  decimalDivision : D → D → Option D
  /-- `decimal_subtraction` -/
  decimalSubtraction : D → D → D

/-- The code's reading: `Uint128` and `Decimal` with overflow checks. -/
def fixed : Arith Uint128 Decimal where
  uintZero := Uint128.zero
  isZero u := u.val == 0
  lt a b := decide (a.val < b.val)
  add a b := Uint128.ofNat? (a.val + b.val)
  sub := Uint128.sub
  mulDecimal := mulDecimal
  fmt u := toString u.val
  decimalZero := Decimal.zero
  decimalOne := Decimal.one
  decimalAdd a b := Decimal.ofRaw? (a.raw + b.raw)
  fromAmount u := Decimal.fromRatio u.val 1
  fromBlocks n := Decimal.fromRatio n 1
  decimalMultiplication := decimalMultiplication
  decimalDivision := decimalDivision
  decimalSubtraction := decimalSubtraction

namespace fixed

variable {a b c : Uint128} {d e g : Decimal}

@[simp] theorem uintZero_val : fixed.uintZero.val = 0 := rfl

@[simp] theorem decimalZero_raw : fixed.decimalZero.raw = 0 := rfl

@[simp] theorem decimalOne_raw : fixed.decimalOne.raw = decimalFractional := rfl

@[simp] theorem isZero_eq_true : fixed.isZero a = true ↔ a.val = 0 := beq_iff_eq

@[simp] theorem lt_eq_true : fixed.lt a b = true ↔ a.val < b.val := decide_eq_true_iff

@[simp] theorem add_eq_some : fixed.add a b = some c ↔ c.val = a.val + b.val :=
  Uint128.ofNat?_eq_some

@[simp] theorem sub_eq_ok : fixed.sub a b = .ok c ↔ b.val ≤ a.val ∧ c.val = a.val - b.val :=
  Uint128.sub_eq_ok

@[simp] theorem decimalAdd_eq_some : fixed.decimalAdd d e = some g ↔ g.raw = d.raw + e.raw :=
  Decimal.ofRaw?_eq_some

@[simp] theorem fromAmount_eq_some : fixed.fromAmount a = some d ↔ d.raw = a.val * decimalFractional :=
  Decimal.fromRatio_one

@[simp] theorem fromBlocks_eq_some {n : Nat} :
    fixed.fromBlocks n = some d ↔ d.raw = n * decimalFractional :=
  Decimal.fromRatio_one

@[simp] theorem decimalMultiplication_eq_some :
    fixed.decimalMultiplication d e = some g ↔ g.raw = d.raw * e.raw / decimalFractional :=
  Decimal.ofRaw?_eq_some

@[simp] theorem decimalDivision_eq_some :
    fixed.decimalDivision d e = some g ↔ e.raw ≠ 0 ∧ g.raw = d.raw * decimalFractional / e.raw := by
  show decimalDivision d e = some g ↔ _
  unfold decimalDivision
  split <;> simp_all

@[simp] theorem decimalSubtraction_raw : (fixed.decimalSubtraction d e).raw = d.raw - e.raw := rfl

theorem mulDecimal_val (h : fixed.mulDecimal a d = some c) :
    c.val = a.val * d.raw / decimalFractional :=
  MoneyMarket.mulDecimal_val h

end fixed

end MoneyMarket
