/-
# Python floats: truncation and `repr`

A Python `float` is an IEEE-754 binary64, kept here as its sixty-four bits.  Two builtins read
one: `int(x)`, which truncates a finite value toward zero and has no answer for an infinity or
a NaN (`trunc?`, `trunc?_isSome_iff`), and `repr(x)`, which prints the shortest decimal that
rounds back to `x`.
-/
import Mathlib.Data.Rat.Floor
import Mathlib.Data.Nat.Log
import Exfer.Lib.Text

namespace Py

/-- A Python `float`. -/
structure Binary64 where
  bits : BitVec 64
  deriving DecidableEq

namespace Binary64

/-! ## 1. The fields -/

def negative (x : Binary64) : Bool := x.bits.msb
def exponent (x : Binary64) : Nat := x.bits.toNat / 2 ^ 52 % 2 ^ 11
def fraction (x : Binary64) : Nat := x.bits.toNat % 2 ^ 52

/-- Neither an infinity nor a NaN. -/
def isFinite (x : Binary64) : Bool := x.exponent != 2047

def isNaN (x : Binary64) : Bool := !x.isFinite && x.fraction != 0

/-- The significand: `|x|` is `x.significand * 2 ^ x.scale`. -/
def significand (x : Binary64) : Nat :=
  if x.exponent = 0 then x.fraction else 2 ^ 52 + x.fraction

def scale (x : Binary64) : Int := (max x.exponent 1 : Int) - 1075

def isZero (x : Binary64) : Bool := x.significand == 0

/-! ## 2. `int(x)` -/

/-- `|x|` rounded toward zero. -/
def truncAbs (x : Binary64) : Nat :=
  if 0 ≤ x.scale then x.significand * 2 ^ x.scale.toNat
  else x.significand / 2 ^ (-x.scale).toNat

/-- `int(x)`, when there is an answer. -/
def trunc? (x : Binary64) : Option Int :=
  if x.isFinite then some (if x.negative then -(x.truncAbs : Int) else x.truncAbs) else none

theorem trunc?_isSome_iff (x : Binary64) : x.trunc?.isSome = true ↔ x.isFinite = true := by
  unfold trunc?
  split <;> simp_all

/-! ## 3. `repr(x)` -/

/-- `|x|` as a rational. -/
def absRat (x : Binary64) : ℚ := x.significand * (2 : ℚ) ^ x.scale

/-- The rationals that round to `|x|`: half a step to either side, the step below a power of
two being half as long, and the end points counting when the significand is even. -/
def roundsTo (x : Binary64) (q : ℚ) : Bool :=
  let step := (2 : ℚ) ^ x.scale
  let lo := if x.fraction = 0 ∧ 1 < x.exponent then x.absRat - step / 4 else x.absRat - step / 2
  let hi := x.absRat + step / 2
  if x.significand % 2 = 0 then lo ≤ q && q ≤ hi else lo < q && q < hi

/-- The `k` with `10 ^ (k - 1) ≤ q < 10 ^ k`. -/
def decimalPoint (q : ℚ) : Int :=
  if 1 ≤ q then Nat.log 10 ⌊q⌋.toNat + 1
  else 1 - (Nat.clog 10 ⌈q⁻¹⌉.toNat : Int)

/-- The nearer of the two `n`-digit decimals around `|x|`, among those that round to `x`; in
units of the last digit. -/
def digitsAt (x : Binary64) (n : Nat) : Option Nat :=
  let unit := (10 : ℚ) ^ (decimalPoint x.absRat - n)
  let below := ⌊x.absRat / unit⌋.toNat
  let okBelow := x.roundsTo (below * unit)
  let okAbove := x.roundsTo ((below + 1 : Nat) * unit)
  let gapBelow := x.absRat - below * unit
  let gapAbove := (below + 1 : Nat) * unit - x.absRat
  if okBelow && (!okAbove || gapBelow < gapAbove || (gapBelow == gapAbove && below % 2 == 0)) then
    some below
  else if okAbove then some (below + 1)
  else none

/-- The first length from `n` on at which some decimal rounds to `x`, with that decimal.
Seventeen digits always do. -/
def shortestFrom (x : Binary64) : Nat → Nat → Nat × Nat
  | 0, n => (n, (x.digitsAt n).getD 0)
  | fuel + 1, n =>
    match x.digitsAt n with
    | some d => (n, d)
    | none => shortestFrom x fuel (n + 1)

/-- Lay out the digits `ds`, whose decimal point stands after position `k`, as `repr` does. -/
def layout (ds : List Char) (k : Int) : List Char :=
  if -4 < k ∧ k ≤ 16 then
    if k ≤ 0 then '0' :: '.' :: List.replicate (-k).toNat '0' ++ ds
    else if ds.length ≤ k.toNat then
      ds ++ List.replicate (k.toNat - ds.length) '0' ++ ['.', '0']
    else ds.take k.toNat ++ '.' :: ds.drop k.toNat
  else
    let e := k - 1
    let mark := if e < 0 then '-' else '+'
    let power := Nat.toDigits 10 e.natAbs
    let power := if power.length < 2 then '0' :: power else power
    let tail := ds.drop 1
    ds.take 1 ++ (if tail.isEmpty then [] else '.' :: tail) ++ 'e' :: mark :: power

/-- `repr(x)`. -/
def repr (x : Binary64) : String :=
  let sign := if x.negative then ['-'] else []
  if x.isNaN then "nan"
  else if !x.isFinite then String.ofList (sign ++ ['i', 'n', 'f'])
  else if x.isZero then String.ofList (sign ++ ['0', '.', '0'])
  else
    let (n, d) := x.shortestFrom 16 1
    let ds := Nat.toDigits 10 d
    let k := decimalPoint x.absRat + (ds.length - n : Int)
    String.ofList (sign ++ layout (ds.rdropWhile (· == '0')) k)

end Binary64

end Py
