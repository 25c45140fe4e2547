/-
# Python text: whitespace, affixes and `repr`

The string builtins that the modelled code calls, on Lean's `String`.  A Python `str` is a
sequence of code points; a Lean `String` is the same sequence without lone surrogates.

* `strip`, `rstrip`, `startswith` and `contains` (the `in` operator) work on the list of
  characters, so their lemmas are list lemmas.
* `strRepr` is `repr` of a `str`: the quote is chosen as CPython chooses it, and a character
  is escaped unless it is printable.

Which characters beyond ASCII are printable, and which are decimal digits, depends on the
Unicode version of the interpreter.  `CharTables` is that table.  ASCII itself is fixed here,
and so is what no version prints: the characters of `isControl`.
-/
import Mathlib.Data.List.DropRight
import Mathlib.Data.List.Infix

namespace Py

/-- The control characters and the separators of lines and paragraphs: the Unicode categories Cc,
Zl and Zp, whose members are the same in every version. -/
def isControl (c : Char) : Bool :=
  let n := c.toNat
  n < 0x20 || (0x7f ≤ n && n ≤ 0x9f) || n == 0x2028 || n == 0x2029

theorem not_control_of_ascii {c : Char} (hlow : 0x20 ≤ c.toNat) (hhigh : c.toNat < 0x7f) :
    isControl c = false := by
  simp only [isControl, Bool.or_eq_false_iff, Bool.and_eq_false_iff, decide_eq_false_iff_not,
    beq_eq_false_iff_ne]
  omega

/-- The interpreter's character tables beyond ASCII (`Py_UNICODE_ISPRINTABLE` and
`Py_UNICODE_TODECIMAL`).  They are consulted for no ASCII character. -/
class CharTables where
  printable : Char → Bool
  decimal : Char → Option (Fin 10)
  not_printable : ∀ c, isControl c = true → printable c = false

/-- The tables of an interpreter that escapes and rejects everything beyond ASCII. -/
@[reducible] def asciiTables : CharTables := ⟨fun _ => false, fun _ => none, fun _ _ => rfl⟩

/-! ## 1. Whitespace -/

/-- `Py_UNICODE_ISSPACE`: what `str.strip` removes. -/
def isSpace (c : Char) : Bool :=
  let n := c.toNat
  (9 ≤ n && n ≤ 13) || (0x1c ≤ n && n ≤ 0x20) || n == 0x85 || n == 0xa0 || n == 0x1680 ||
    (0x2000 ≤ n && n ≤ 0x200a) || n == 0x2028 || n == 0x2029 || n == 0x202f || n == 0x205f ||
    n == 0x3000

/-- Drop the members of `p` at both ends of a list. -/
def stripBy (p : Char → Bool) (cs : List Char) : List Char :=
  (cs.dropWhile p).rdropWhile p

/-- `s.strip()`. -/
def strip (s : String) : String := String.ofList (stripBy isSpace s.toList)

/-- `s.rstrip(c)` for a one-character argument. -/
def rstrip (c : Char) (s : String) : String := String.ofList (s.toList.rdropWhile (· == c))

@[simp] theorem toList_strip (s : String) : (strip s).toList = stripBy isSpace s.toList :=
  String.toList_ofList

@[simp] theorem toList_rstrip (c : Char) (s : String) :
    (rstrip c s).toList = s.toList.rdropWhile (· == c) :=
  String.toList_ofList

theorem rdropWhile_append_of_pos {p : Char → Bool} {cs post : List Char}
    (h : ∀ c ∈ post, p c = true) : (cs ++ post).rdropWhile p = cs.rdropWhile p := by
  rw [List.rdropWhile, List.rdropWhile, List.reverse_append,
    List.dropWhile_append_of_pos fun c hc => h c (List.mem_reverse.mp hc)]

/-- **What `strip` leaves** of a list is `core`, if `core` has no member of `p` at its ends, and
the list is `core` between members of `p`. -/
theorem stripBy_eq_iff {p : Char → Bool} {cs core : List Char} (hne : core ≠ [])
    (hhead : ∀ c ∈ core.head?, p c = false) (hlast : ∀ c ∈ core.getLast?, p c = false) :
    stripBy p cs = core ↔ ∃ pre post, cs = pre ++ core ++ post ∧ (∀ c ∈ pre, p c = true) ∧
      ∀ c ∈ post, p c = true := by
  constructor
  · intro h
    refine ⟨cs.takeWhile p, (cs.dropWhile p).rtakeWhile p, ?_, ?_, ?_⟩
    · rw [← h, stripBy, List.append_assoc, List.rdropWhile_append_rtakeWhile,
        List.takeWhile_append_dropWhile]
    · exact fun c hc => List.mem_takeWhile_imp hc
    · exact fun c hc => List.mem_rtakeWhile_imp hc
  · rintro ⟨pre, post, rfl, hpre, hpost⟩
    have hd : (core ++ post).dropWhile p = core ++ post := by
      cases core with
      | nil => exact absurd rfl hne
      | cons c core => simp [hhead c (by simp)]
    rw [stripBy, List.append_assoc, List.dropWhile_append_of_pos hpre, hd,
      rdropWhile_append_of_pos hpost, List.rdropWhile_eq_self_iff]
    intro hne'
    simpa using hlast _ (List.getLast?_eq_getLast_of_ne_nil hne')

/-- Members of `p` around a list do not matter. -/
theorem stripBy_pad {p : Char → Bool} {pre cs post : List Char} (hpre : ∀ c ∈ pre, p c = true)
    (hpost : ∀ c ∈ post, p c = true) : stripBy p (pre ++ cs ++ post) = stripBy p cs := by
  rw [stripBy, List.append_assoc, List.dropWhile_append_of_pos hpre, List.dropWhile_append]
  split
  · rename_i hall
    have hcs : cs.dropWhile p = [] := List.isEmpty_iff.mp hall
    have hpost' : post.dropWhile p = [] := List.dropWhile_eq_nil_iff.mpr hpost
    rw [stripBy, hcs, hpost']
  · exact rdropWhile_append_of_pos hpost

/-- A list whose two ends both survive is left alone. -/
theorem stripBy_eq_self {p : Char → Bool} {cs : List Char}
    (hhead : ∀ c ∈ cs.head?, p c = false) (hlast : ∀ c ∈ cs.getLast?, p c = false) :
    stripBy p cs = cs := by
  cases cs with
  | nil => rfl
  | cons c cs =>
    exact (stripBy_eq_iff (by simp) hhead hlast).mpr ⟨[], [], by simp, by simp, by simp⟩

/-- A stripped list does not end in a member of `p`. -/
theorem stripBy_ne_append {p : Char → Bool} {cs ds : List Char} {c : Char} (hc : p c = true) :
    stripBy p cs ≠ ds ++ [c] := by
  intro h
  have hne : stripBy p cs ≠ [] := by simp [h]
  have hlast : ¬ p ((stripBy p cs).getLast hne) = true := List.rdropWhile_last_not p _ hne
  simp only [h, List.getLast_append_singleton] at hlast
  exact hlast hc

/-! ## 2. Affixes and substrings -/

/-- `s.startswith(prefix)`. -/
def startswith (s pre : String) : Bool := pre.toList.isPrefixOf s.toList

theorem startswith_iff {s pre : String} : startswith s pre = true ↔ pre.toList <+: s.toList :=
  List.isPrefixOf_iff_prefix

/-- Stripping on the right keeps a prefix only if it was there before. -/
theorem startswith_of_rstrip {c : Char} {s pre : String} (h : startswith (rstrip c s) pre = true) :
    startswith s pre = true := by
  rw [startswith_iff] at h ⊢
  rw [toList_rstrip] at h
  exact h.trans (List.rdropWhile_prefix _ _)

/-- `sub in s`. -/
def contains (s sub : String) : Bool := s.toList.tails.any (sub.toList.isPrefixOf ·)

theorem contains_iff {s sub : String} : contains s sub = true ↔ sub.toList <:+: s.toList := by
  simp [contains, List.infix_iff_prefix_suffix, and_comm]

/-- Whatever contains `sub` contains each of its characters. -/
theorem contains_eq_false {s sub : String} {c : Char} (hsub : c ∈ sub.toList)
    (hs : c ∉ s.toList) : contains s sub = false := by
  by_contra h
  have hsub' := contains_iff.mp (by simpa using h)
  exact hs (hsub'.subset hsub)

/-- A natural number prints as decimal digits. -/
theorem isDigit_of_mem_toString {n : Nat} {c : Char} (h : c ∈ (toString n).toList) :
    c.isDigit = true := by
  rw [Nat.toString_eq_repr, Nat.toList_repr] at h
  exact Nat.isDigit_of_mem_toDigits (by decide) (by decide) h

/-! ## 3. `repr` of a string -/

/-- One lower-case hexadecimal digit. -/
def hexDigit (n : Nat) : Char :=
  if n < 10 then Char.ofNat (n + 48) else Char.ofNat (n + 87)

/-- The last `k` hexadecimal digits of `n`. -/
def hexPad : Nat → Nat → List Char
  | 0, _ => []
  | k + 1, n => hexPad k (n / 16) ++ [hexDigit (n % 16)]

/-- One character inside a `repr` whose quote is `q`. -/
def escapeChar [CharTables] (q c : Char) : List Char :=
  let n := c.toNat
  if c = q ∨ c = '\\' then ['\\', c]
  else if c = '\t' then ['\\', 't']
  else if c = '\n' then ['\\', 'n']
  else if c = '\r' then ['\\', 'r']
  else if n < 0x20 ∨ n = 0x7f then '\\' :: 'x' :: hexPad 2 n
  else if n < 0x7f then [c]
  else if CharTables.printable c then [c]
  else if n ≤ 0xff then '\\' :: 'x' :: hexPad 2 n
  else if n ≤ 0xffff then '\\' :: 'u' :: hexPad 4 n
  else '\\' :: 'U' :: hexPad 8 n

/-- The single and the double quotation mark. -/
def singleQuote : Char := Char.ofNat 39
def doubleQuote : Char := Char.ofNat 34

/-- The quote `repr` picks: single, unless only the double one saves escaping. -/
def reprQuote (s : String) : Char :=
  if s.toList.contains singleQuote && !s.toList.contains doubleQuote then doubleQuote
  else singleQuote

/-- `repr(s)`. -/
def strRepr [CharTables] (s : String) : String :=
  let q := reprQuote s
  String.ofList (q :: s.toList.flatMap (escapeChar q) ++ [q])

/-- `s[:n]`. -/
def takeStr (n : Nat) (s : String) : String := String.ofList (s.toList.take n)

end Py
