/-
# Bytes: hexadecimal text and SHA-256

`bytes` is a list of `UInt8`.  Two groups of builtins are modelled on it.

* `hex` and `fromHex` are `bytes.hex()` and `bytes.fromhex()`; `fromHex_hex` is the round trip
  and `fromHex_length` counts what an accepted text decodes to.
* `sha256` is `hashlib.sha256(data).digest()`, written out from FIPS 180-4.  What a proof needs
  of it is `sha256_length`; the function itself is there to be run.
-/
import Mathlib.Algebra.Group.Nat.Defs
import Mathlib.Data.List.Basic
import Exfer.Lib.Text

namespace Py

/-- A Python `bytes`. -/
abbrev Bytes := List UInt8

/-! ## 1. Hexadecimal text -/

/-- The value of a hexadecimal digit, in either case. -/
def hexVal (c : Char) : Option Nat :=
  let n := c.toNat
  if 48 ≤ n ∧ n ≤ 57 then some (n - 48)
  else if 97 ≤ n ∧ n ≤ 102 then some (n - 87)
  else if 65 ≤ n ∧ n ≤ 70 then some (n - 55)
  else none

/-- `[0-9a-fA-F]`. -/
def isHex (c : Char) : Bool := (hexVal c).isSome

/-- The two digits of one byte. -/
def hexByte (b : UInt8) : List Char := [hexDigit (b.toNat / 16), hexDigit (b.toNat % 16)]

/-- `data.hex()`. -/
def hex (data : Bytes) : String := String.ofList (data.flatMap hexByte)

/-- `Py_ISSPACE`: the blanks `bytes.fromhex` skips and `int` strips. -/
def isAsciiSpace (c : Char) : Bool :=
  let n := c.toNat
  (9 ≤ n && n ≤ 13) || n == 32

/-- `bytes.fromhex`, with `none` for its `ValueError`. -/
def fromHex : List Char → Option Bytes
  | [] => some []
  | [c] => if isAsciiSpace c then some [] else none
  | c :: d :: cs =>
    if isAsciiSpace c then fromHex (d :: cs)
    else do
      let hi ← hexVal c
      let lo ← hexVal d
      let rest ← fromHex cs
      some (UInt8.ofNat (hi * 16 + lo) :: rest)

theorem toList_hex (data : Bytes) : (hex data).toList = data.flatMap hexByte :=
  String.toList_ofList

/-- Each of the sixteen digits reads back as its value. -/
theorem hexVal_hexDigit {n : Nat} (h : n < 16) : hexVal (hexDigit n) = some n := by
  rcases n with _ | _ | _ | _ | _ | _ | _ | _ | _ | _ | _ | _ | _ | _ | _ | _ | n
  all_goals first | rfl | omega

theorem isHex_hexDigit {n : Nat} (h : n < 16) : isHex (hexDigit n) = true := by
  simp [isHex, hexVal_hexDigit h]

/-- Where the digits lie among the characters. -/
theorem toNat_of_isHex {c : Char} (h : isHex c = true) : (48 ≤ c.toNat ∧ c.toNat ≤ 57) ∨
    (97 ≤ c.toNat ∧ c.toNat ≤ 102) ∨ (65 ≤ c.toNat ∧ c.toNat ≤ 70) := by
  by_contra hno
  simp only [not_or] at hno
  simp [isHex, hexVal, hno] at h

/-- A hexadecimal digit is not a blank. -/
theorem isAsciiSpace_of_isHex {c : Char} (h : isHex c = true) : isAsciiSpace c = false := by
  have hv := toNat_of_isHex h
  simp only [isAsciiSpace, Bool.or_eq_false_iff, Bool.and_eq_false_iff, decide_eq_false_iff_not,
    beq_eq_false_iff_ne]
  omega

/-- Nor one that `str.strip` removes. -/
theorem isSpace_of_isHex {c : Char} (h : isHex c = true) : isSpace c = false := by
  have hv := toNat_of_isHex h
  simp only [isSpace, Bool.or_eq_false_iff, Bool.and_eq_false_iff, decide_eq_false_iff_not,
    beq_eq_false_iff_ne]
  omega

theorem toLower_of_upper {c : Char} (h : 65 ≤ c.toNat ∧ c.toNat ≤ 90) :
    c.toLower.toNat = c.toNat + 32 := by
  have hle : c.val ≥ 'A'.val ∧ c.val ≤ 'Z'.val := h
  have hlt : c.val.toNat ≤ 90 := h.2
  have hlower : c.toLower.val = c.val + ('a'.val - 'A'.val) :=
    congrArg Char.val (dif_pos hle)
  rw [Char.toNat, Char.toNat, hlower, UInt32.toNat_add]
  simp
  omega

theorem toLower_of_not_upper {c : Char} (h : ¬ (65 ≤ c.toNat ∧ c.toNat ≤ 90)) :
    c.toLower = c := by
  have hle : ¬ (c.val ≥ 'A'.val ∧ c.val ≤ 'Z'.val) := h
  exact dif_neg hle

/-- Lower-casing a digit does not change its value. -/
theorem hexVal_toLower (c : Char) : hexVal c.toLower = hexVal c := by
  by_cases hc : 65 ≤ c.toNat ∧ c.toNat ≤ 90
  · unfold hexVal
    simp only [toLower_of_upper hc]
    grind
  · rw [toLower_of_not_upper hc]

theorem isAsciiSpace_toLower (c : Char) : isAsciiSpace c.toLower = isAsciiSpace c := by
  by_cases hc : 65 ≤ c.toNat ∧ c.toNat ≤ 90
  · unfold isAsciiSpace
    simp only [toLower_of_upper hc]
    grind
  · rw [toLower_of_not_upper hc]

theorem hexByte_isHex (b : UInt8) : ∀ c ∈ hexByte b, isHex c = true := by
  have hb : b.toNat < 256 := b.toNat_lt
  intro c hc
  simp only [hexByte, List.mem_cons, List.not_mem_nil, or_false] at hc
  rcases hc with rfl | rfl
  · exact isHex_hexDigit (by omega)
  · exact isHex_hexDigit (by omega)

theorem hex_isHex (data : Bytes) : ∀ c ∈ (hex data).toList, isHex c = true := by
  intro c hc
  rw [toList_hex, List.mem_flatMap] at hc
  obtain ⟨b, -, hb⟩ := hc
  exact hexByte_isHex b c hb

theorem hex_length (data : Bytes) : (hex data).toList.length = 2 * data.length := by
  rw [toList_hex]
  induction data with
  | nil => rfl
  | cons b bs ih =>
    simp only [List.flatMap_cons, List.length_append, List.length_cons, ih]
    simp only [hexByte, List.length_cons, List.length_nil]
    omega

/-- Reading two hexadecimal digits reads one byte. -/
theorem fromHex_cons_cons {c d : Char} {cs : List Char} (hc : isHex c = true) :
    fromHex (c :: d :: cs) = (do
      let hi ← hexVal c
      let lo ← hexVal d
      let rest ← fromHex cs
      some (UInt8.ofNat (hi * 16 + lo) :: rest)) := by
  simp [fromHex, isAsciiSpace_of_isHex hc]

/-- **The hexadecimal round trip**: what `hex` writes, `fromHex` reads back. -/
theorem fromHex_hex (data : Bytes) : fromHex (hex data).toList = some data := by
  rw [toList_hex]
  induction data with
  | nil => rfl
  | cons b bs ih =>
    have hb : b.toNat < 256 := b.toNat_lt
    have hhi : b.toNat / 16 < 16 := by omega
    have hlo : b.toNat % 16 < 16 := by omega
    have hval : b.toNat / 16 * 16 + b.toNat % 16 = b.toNat := by omega
    simp only [List.flatMap_cons, hexByte, List.cons_append, List.nil_append]
    rw [fromHex_cons_cons (isHex_hexDigit hhi), ih, hexVal_hexDigit hhi, hexVal_hexDigit hlo]
    show some (UInt8.ofNat (b.toNat / 16 * 16 + b.toNat % 16) :: bs) = some (b :: bs)
    rw [hval, UInt8.ofNat_toNat]

/-- `fromHex` does not see the case of its digits. -/
theorem fromHex_map_toLower : ∀ cs : List Char, fromHex (cs.map Char.toLower) = fromHex cs
  | [] => rfl
  | [c] => by simp [fromHex, isAsciiSpace_toLower]
  | c :: d :: cs => by
    have htail := fromHex_map_toLower (d :: cs)
    have hrest := fromHex_map_toLower cs
    rw [List.map_cons] at htail
    simp only [List.map_cons, fromHex, isAsciiSpace_toLower, hexVal_toLower, htail, hrest]

/-- A text of `2 * n` hexadecimal digits decodes, and to `n` bytes. -/
theorem fromHex_length : ∀ (n : Nat) (cs : List Char), cs.length = 2 * n →
    (∀ c ∈ cs, isHex c = true) → ∃ data, fromHex cs = some data ∧ data.length = n
  | 0, cs, hlen, _ => by
    have hnil : cs = [] := List.length_eq_zero_iff.mp (by omega)
    exact ⟨[], by rw [hnil]; rfl, rfl⟩
  | n + 1, [], hlen, _ => by simp at hlen
  | n + 1, [c], hlen, _ => by simp at hlen; omega
  | n + 1, c :: d :: cs, hlen, hhex => by
    obtain ⟨rest, hrest, hn⟩ := fromHex_length n cs
      (by simp only [List.length_cons] at hlen; omega)
      (fun x hx => hhex x (List.mem_cons_of_mem _ (List.mem_cons_of_mem _ hx)))
    obtain ⟨hi, hhi⟩ := Option.isSome_iff_exists.mp (hhex c (by simp))
    obtain ⟨lo, hlo⟩ := Option.isSome_iff_exists.mp (hhex d (by simp))
    refine ⟨UInt8.ofNat (hi * 16 + lo) :: rest, ?_, by simp [hn]⟩
    rw [fromHex_cons_cons (hhex c (by simp)), hrest, hhi, hlo]
    rfl

/-- The digits, one by one. -/
def hexDigits : List Char := "0123456789abcdefABCDEF".toList

theorem isHex_iff_mem (c : Char) : isHex c = true ↔ c ∈ hexDigits := by
  have hall : ∀ n < 103, isHex (Char.ofNat n) = true → Char.ofNat n ∈ hexDigits := by decide
  have hback : hexDigits.all isHex = true := by decide
  constructor
  · intro h
    have hv := toNat_of_isHex h
    have hc := hall c.toNat (by omega)
    rw [Char.ofNat_toNat] at hc
    exact hc h
  · exact List.all_eq_true.mp hback c

/-- The value of a digit, written down again, is the digit in lower case. -/
theorem hexDigit_hexVal {c : Char} {v : Nat} (h : hexVal c = some v) :
    v < 16 ∧ hexDigit v = c.toLower := by
  have hall : hexDigits.all (fun d => (hexVal d).all fun v => v < 16 && hexDigit v == d.toLower)
      = true := by decide
  have hc : isHex c = true := by simp [isHex, h]
  have hv := List.all_eq_true.mp hall c ((isHex_iff_mem c).mp hc)
  simpa [h] using hv

/-- **The round trip from text**: what `fromHex` reads from digits, `hex` writes down in lower
case. -/
theorem hex_fromHex : ∀ {cs : List Char} {data : Bytes}, (∀ c ∈ cs, isHex c = true) →
    fromHex cs = some data → (hex data).toList = cs.map Char.toLower
  | [], data, _, h => by
    cases h
    rfl
  | [c], data, hhex, h => by
    simp [fromHex, isAsciiSpace_of_isHex (hhex c (by simp))] at h
  | c :: d :: cs, data, hhex, h => by
    obtain ⟨hi, hhi⟩ := Option.isSome_iff_exists.mp (hhex c (by simp))
    obtain ⟨lo, hlo⟩ := Option.isSome_iff_exists.mp (hhex d (by simp))
    obtain ⟨hlt, hc⟩ := hexDigit_hexVal hhi
    obtain ⟨hlt', hd⟩ := hexDigit_hexVal hlo
    rw [fromHex_cons_cons (hhex c (by simp)), hhi, hlo] at h
    simp only [Option.bind_eq_bind, Option.bind_some] at h
    obtain ⟨rest, hrest, hdata⟩ := Option.bind_eq_some_iff.mp h
    have hcs := hex_fromHex (fun x hx =>
      hhex x (List.mem_cons_of_mem _ (List.mem_cons_of_mem _ hx))) hrest
    rw [toList_hex] at hcs ⊢
    have hbyte : (UInt8.ofNat (hi * 16 + lo)).toNat = hi * 16 + lo :=
      UInt8.toNat_ofNat_of_lt' (by simp only [UInt8.size]; omega)
    rw [← Option.some.inj hdata, List.flatMap_cons, hcs, hexByte, hbyte,
      show (hi * 16 + lo) / 16 = hi by omega, show (hi * 16 + lo) % 16 = lo by omega, hc, hd]
    rfl

/-! ## 2. SHA-256 -/

/-- The sixty-four round constants. -/
def roundConstants : List UInt32 :=
  [0x428a2f98, 0x71374491, 0xb5c0fbcf, 0xe9b5dba5, 0x3956c25b, 0x59f111f1, 0x923f82a4,
   0xab1c5ed5, 0xd807aa98, 0x12835b01, 0x243185be, 0x550c7dc3, 0x72be5d74, 0x80deb1fe,
   0x9bdc06a7, 0xc19bf174, 0xe49b69c1, 0xefbe4786, 0x0fc19dc6, 0x240ca1cc, 0x2de92c6f,
   0x4a7484aa, 0x5cb0a9dc, 0x76f988da, 0x983e5152, 0xa831c66d, 0xb00327c8, 0xbf597fc7,
   0xc6e00bf3, 0xd5a79147, 0x06ca6351, 0x14292967, 0x27b70a85, 0x2e1b2138, 0x4d2c6dfc,
   0x53380d13, 0x650a7354, 0x766a0abb, 0x81c2c92e, 0x92722c85, 0xa2bfe8a1, 0xa81a664b,
   0xc24b8b70, 0xc76c51a3, 0xd192e819, 0xd6990624, 0xf40e3585, 0x106aa070, 0x19a4c116,
   0x1e376c08, 0x2748774c, 0x34b0bcb5, 0x391c0cb3, 0x4ed8aa4a, 0x5b9cca4f, 0x682e6ff3,
   0x748f82ee, 0x78a5636f, 0x84c87814, 0x8cc70208, 0x90befffa, 0xa4506ceb, 0xbef9a3f7,
   0xc67178f2]

/-- The chaining state. -/
structure ShaState where
  (a b c d e f g h : UInt32)

def initialState : ShaState :=
  ⟨0x6a09e667, 0xbb67ae85, 0x3c6ef372, 0xa54ff53a, 0x510e527f, 0x9b05688c, 0x1f83d9ab,
    0x5be0cd19⟩

def rotr (x n : UInt32) : UInt32 := (x >>> n) ||| (x <<< (32 - n))

/-- One round: `k` is the round constant and `w` the schedule word. -/
def shaRound (s : ShaState) (kw : UInt32 × UInt32) : ShaState :=
  let s1 := rotr s.e 6 ^^^ rotr s.e 11 ^^^ rotr s.e 25
  let ch := (s.e &&& s.f) ^^^ (~~~s.e &&& s.g)
  let t1 := s.h + s1 + ch + kw.1 + kw.2
  let s0 := rotr s.a 2 ^^^ rotr s.a 13 ^^^ rotr s.a 22
  let maj := (s.a &&& s.b) ^^^ (s.a &&& s.c) ^^^ (s.b &&& s.c)
  ⟨t1 + s0 + maj, s.a, s.b, s.c, s.d + t1, s.e, s.f, s.g⟩

/-- Extend a message schedule, kept newest word first, by `n` words. -/
def extendSchedule : Nat → List UInt32 → List UInt32
  | 0, ws => ws
  | n + 1, ws =>
    let w2 := ws.getD 1 0
    let w15 := ws.getD 14 0
    let s1 := rotr w2 17 ^^^ rotr w2 19 ^^^ (w2 >>> 10)
    let s0 := rotr w15 7 ^^^ rotr w15 18 ^^^ (w15 >>> 3)
    extendSchedule n ((s1 + ws.getD 6 0 + s0 + ws.getD 15 0) :: ws)

/-- Four bytes, most significant first, as a word. -/
def toWords : Bytes → List UInt32
  | a :: b :: c :: d :: rest =>
    ((a.toUInt32 <<< 24) ||| (b.toUInt32 <<< 16) ||| (c.toUInt32 <<< 8) ||| d.toUInt32)
      :: toWords rest
  | _ => []

/-- A word as four bytes, most significant first. -/
def wordBytes (w : UInt32) : Bytes :=
  [(w >>> 24).toUInt8, (w >>> 16).toUInt8, (w >>> 8).toUInt8, w.toUInt8]

/-- Absorb one 64-byte block. -/
def compress (s : ShaState) (block : Bytes) : ShaState :=
  let ws := (extendSchedule 48 (toWords block).reverse).reverse
  let t := (roundConstants.zip ws).foldl shaRound s
  ⟨s.a + t.a, s.b + t.b, s.c + t.c, s.d + t.d, s.e + t.e, s.f + t.f, s.g + t.g, s.h + t.h⟩

/-- Absorb `n` blocks from the front of the padded message. -/
def absorb : Nat → ShaState → Bytes → ShaState
  | 0, s, _ => s
  | n + 1, s, data => absorb n (compress s (data.take 64)) (data.drop 64)

/-- The message, a set bit, zeros, and the bit length in eight bytes. -/
def shaPad (data : Bytes) : Bytes :=
  let zeros := (119 - data.length % 64) % 64
  let bits := 8 * data.length
  data ++ 0x80 :: List.replicate zeros 0 ++
    wordBytes (UInt32.ofNat (bits / 2 ^ 32)) ++ wordBytes (UInt32.ofNat bits)

/-- `hashlib.sha256(data).digest()`. -/
def sha256 (data : Bytes) : Bytes :=
  let padded := shaPad data
  let s := absorb (padded.length / 64) initialState padded
  [s.a, s.b, s.c, s.d, s.e, s.f, s.g, s.h].flatMap wordBytes

/-- A digest has thirty-two bytes. -/
@[simp] theorem sha256_length (data : Bytes) : (sha256 data).length = 32 := by
  simp [sha256, wordBytes]

example : hex (sha256 [97, 98, 99]) =
    "ba7816bf8f01cfea414140de5dae2223b00361a396177a9cb410ff61f20015ad" := by
  decide +kernel

end Py
