/-
# Python literals: reading back what is printed

`repr` of a string and `str` of an integer are literals, and a literal is read back as the value
it was printed from.

* `scan` reads a string literal one character at a time, and `readLiteral_repr` says that it reads
  back what `strRepr` printed, whatever follows.  Which quote was picked, and what the
  interpreter takes to be printable, does not matter.
* `oneLine_repr`: a printed string has no control character and no separator of lines, so it stays
  on its line.
* `readInt_toString`: `int(str(n))` is `n`.
* `expect` and `readIntUntil` read what stands between the literals of a line.
-/
import Exfer.Lib.Value
import Mathlib.Tactic.Ring

namespace Py

/-! ## 1. Reading a string literal -/

/-- What a reader of a literal is in the middle of: nothing, an escape, or the digits of one, with
`more` of them to come after the next. -/
inductive Mode where
  | plain
  | escape
  | hex (more acc : Nat)

/-- The escapes of one character. -/
def unescape (c : Char) : Option Char :=
  if c = singleQuote ∨ c = doubleQuote ∨ c = '\\' then some c
  else if c = 't' then some '\t'
  else if c = 'n' then some '\n'
  else if c = 'r' then some '\r'
  else none

/-- How many digits an escape of a code point has, beyond the first. -/
def escapeDigits (c : Char) : Option Nat :=
  if c = 'x' then some 1 else if c = 'u' then some 3 else if c = 'U' then some 7 else none

/-- Put a character before what is read of the rest. -/
def emit (c : Char) (r : Option (List Char × List Char)) : Option (List Char × List Char) :=
  r.map fun (cs, rest) => (c :: cs, rest)

/-- Read up to the closing quote `q`: the characters, and what is left of the text. -/
def scan (q : Char) : Mode → List Char → Option (List Char × List Char)
  | _, [] => none
  | .plain, c :: cs =>
    if c = q then some ([], cs)
    else if c = '\\' then scan q .escape cs
    else emit c (scan q .plain cs)
  | .escape, c :: cs =>
    match unescape c with
    | some d => emit d (scan q .plain cs)
    | none =>
      match escapeDigits c with
      | some more => scan q (.hex more 0) cs
      | none => none
  | .hex more acc, c :: cs =>
    match hexVal c with
    | none => none
    | some d =>
      match more with
      | 0 => emit (Char.ofNat (acc * 16 + d)) (scan q .plain cs)
      | more + 1 => scan q (.hex more (acc * 16 + d)) cs

/-- Read a string literal at the front of a text. -/
def readLiteral : List Char → Option (List Char × List Char)
  | [] => none
  | q :: cs => if q = singleQuote ∨ q = doubleQuote then scan q .plain cs else none

/-! ## 2. Digits -/

/-- The digits of an escape are read as the number they were printed from. -/
theorem scan_hexPad (q : Char) (k more acc n : Nat) (rest : List Char) :
    scan q (.hex (k + more) acc) (hexPad k n ++ rest)
      = scan q (.hex more (acc * 16 ^ k + n % 16 ^ k)) rest := by
  induction k generalizing more n rest with
  | zero => simp [hexPad, Nat.mod_one]
  | succ k ih =>
    have hsucc : k + 1 + more = k + (more + 1) := by omega
    have hdigit := hexVal_hexDigit (Nat.mod_lt n (by decide : 0 < 16))
    have hvalue : (acc * 16 ^ k + n / 16 % 16 ^ k) * 16 + n % 16
        = acc * 16 ^ (k + 1) + n % 16 ^ (k + 1) := by
      rw [Nat.pow_succ', Nat.mod_mul]
      ring
    rw [hexPad, List.append_assoc, hsucc, ih]
    simp only [List.singleton_append, scan, hdigit, hvalue]

/-- The last digit gives the character. -/
theorem scan_hexPad_last (q : Char) (k n : Nat) (h : n < 16 ^ (k + 1)) (rest : List Char) :
    scan q (.hex k 0) (hexPad (k + 1) n ++ rest) = emit (Char.ofNat n) (scan q .plain rest) := by
  have hdigit := hexVal_hexDigit (Nat.mod_lt n (by decide : 0 < 16))
  have hvalue : (0 * 16 ^ k + n / 16 % 16 ^ k) * 16 + n % 16 = n := by
    have hmod := Nat.mod_mul (a := 16) (b := 16 ^ k) (x := n)
    rw [← Nat.pow_succ', Nat.mod_eq_of_lt h] at hmod
    omega
  have hpad := scan_hexPad q k 0 0 (n / 16) (hexDigit (n % 16) :: rest)
  rw [Nat.add_zero] at hpad
  rw [hexPad, List.append_assoc, List.singleton_append, hpad]
  simp only [scan, hdigit, hvalue]

/-! ## 3. Strings -/

section Strings

variable [CharTables]

/-- The quotes that `repr` picks from. -/
def IsQuote (q : Char) : Prop := q = singleQuote ∨ q = doubleQuote

omit [CharTables] in
theorem isQuote_reprQuote (s : String) : IsQuote (reprQuote s) := by
  unfold reprQuote
  split
  · exact Or.inr rfl
  · exact Or.inl rfl

/-- **One character is read back**, however it was printed. -/
theorem scan_escapeChar {q : Char} (hq : IsQuote q) (c : Char) (rest : List Char) :
    scan q .plain (escapeChar q c ++ rest) = emit c (scan q .plain rest) := by
  have hslash : '\\' ≠ q := by
    rcases hq with rfl | rfl <;> decide
  have hescape : ∀ cs, scan q .plain ('\\' :: cs) = scan q .escape cs := by
    intro cs
    rw [scan, if_neg hslash, if_pos rfl]
  have hback : Char.ofNat c.toNat = c := Char.ofNat_toNat c
  unfold escapeChar
  simp only
  split
  · -- the quote and the backslash
    rename_i hc
    have hself : unescape c = some c := by
      refine if_pos ?_
      rcases hc with rfl | rfl
      · rcases hq with rfl | rfl
        · exact Or.inl rfl
        · exact Or.inr (Or.inl rfl)
      · exact Or.inr (Or.inr rfl)
    simp only [List.cons_append, List.nil_append, hescape, scan, hself]
  rename_i hplain
  obtain ⟨hcq, hcs⟩ := not_or.mp hplain
  have hitself : scan q .plain (c :: rest) = emit c (scan q .plain rest) := by
    rw [scan, if_neg hcq, if_neg hcs]
  have hcode : ∀ (mark : Char) (k : Nat), unescape mark = none → escapeDigits mark = some k →
      c.toNat < 16 ^ (k + 1) →
      scan q .plain ('\\' :: mark :: hexPad (k + 1) c.toNat ++ rest)
        = emit c (scan q .plain rest) := by
    intro mark k hmark hdigits hlt
    rw [List.cons_append, List.cons_append, hescape]
    simp only [scan, hmark, hdigits]
    rw [scan_hexPad_last q k c.toNat hlt, hback]
  have hvalid : c.toNat < 16 ^ 8 := c.val.toNat_lt
  split
  · rename_i htab
    subst htab
    simp only [List.cons_append, List.nil_append, hescape]
    rfl
  split
  · rename_i hnewline
    subst hnewline
    simp only [List.cons_append, List.nil_append, hescape]
    rfl
  split
  · rename_i hreturn
    subst hreturn
    simp only [List.cons_append, List.nil_append, hescape]
    rfl
  split
  · exact hcode 'x' 1 rfl rfl (by omega)
  split
  · exact hitself
  split
  · exact hitself
  split
  · exact hcode 'x' 1 rfl rfl (by omega)
  split
  · exact hcode 'u' 3 rfl rfl (by omega)
  · exact hcode 'U' 7 rfl rfl hvalid

/-- The characters of a string are read back, up to its closing quote. -/
theorem scan_escape {q : Char} (hq : IsQuote q) (cs rest : List Char) :
    scan q .plain (cs.flatMap (escapeChar q) ++ q :: rest) = some (cs, rest) := by
  induction cs with
  | nil => rw [List.flatMap_nil, List.nil_append, scan, if_pos rfl]
  | cons c cs ih =>
    rw [List.flatMap_cons, List.append_assoc, scan_escapeChar hq, ih]
    rfl

/-- **A printed string is read back**, whatever follows it. -/
theorem readLiteral_repr (s : String) (rest : List Char) :
    readLiteral ((strRepr s).toList ++ rest) = some (s.toList, rest) := by
  have hq := isQuote_reprQuote s
  have hrepr : (strRepr s).toList ++ rest
      = reprQuote s :: (s.toList.flatMap (escapeChar (reprQuote s)) ++ reprQuote s :: rest) := by
    simp [strRepr]
  rw [hrepr, readLiteral]
  exact (if_pos hq).trans (scan_escape hq s.toList rest)

/-! ## 4. What a printed string looks like -/

omit [CharTables] in
theorem not_control_hexPad (k n : Nat) : ∀ c ∈ hexPad k n, isControl c = false := by
  induction k generalizing n with
  | zero =>
    intro c hc
    cases hc
  | succ k ih =>
    intro c hc
    rcases List.mem_append.mp hc with hc | hc
    · exact ih _ c hc
    · rw [List.mem_singleton.mp hc]
      have hall : ∀ m < 16, isControl (hexDigit m) = false := by decide
      exact hall _ (Nat.mod_lt n (by decide))

/-- No printed character is a control character, or separates lines. -/
theorem not_control_escapeChar {q : Char} (hq : IsQuote q) (c : Char) :
    ∀ d ∈ escapeChar q c, isControl d = false := by
  have hslash : isControl '\\' = false := rfl
  have hpair : ∀ e : Char, isControl e = false → ∀ d ∈ ['\\', e], isControl d = false := by
    intro e he d hd
    rcases List.mem_pair.mp hd with rfl | rfl
    · exact hslash
    · exact he
  have hcode : ∀ (mark : Char) (k : Nat), isControl mark = false →
      ∀ d ∈ '\\' :: mark :: hexPad k c.toNat, isControl d = false := by
    intro mark k hmark d hd
    rcases List.mem_cons.mp hd with rfl | hd
    · exact hslash
    rcases List.mem_cons.mp hd with rfl | hd
    · exact hmark
    · exact not_control_hexPad k _ d hd
  unfold escapeChar
  simp only
  split
  · rename_i hc
    refine hpair c ?_
    rcases hc with rfl | rfl
    · rcases hq with rfl | rfl <;> rfl
    · rfl
  split
  · exact hpair 't' rfl
  split
  · exact hpair 'n' rfl
  split
  · exact hpair 'r' rfl
  split
  · exact hcode 'x' 2 rfl
  rename_i hlow
  have hsingle : isControl c = false → ∀ d ∈ [c], isControl d = false := by
    intro hc d hd
    rw [List.mem_singleton.mp hd]
    exact hc
  split
  · rename_i hascii
    exact hsingle (not_control_of_ascii (by omega) hascii)
  split
  · rename_i hprintable
    refine hsingle (Bool.eq_false_iff.mpr fun hc => ?_)
    exact absurd (hprintable.symm.trans (CharTables.not_printable c hc)) (by decide)
  split
  · exact hcode 'x' 2 rfl
  split
  · exact hcode 'u' 4 rfl
  · exact hcode 'U' 8 rfl

/-- A text without control characters and separators of lines. -/
def OneLine (s : String) : Prop := ∀ c ∈ s.toList, isControl c = false

omit [CharTables] in
theorem oneLine_of_all {s : String} (h : (s.toList.all fun c => !isControl c) = true) :
    OneLine s := by
  intro c hc
  simpa using List.all_eq_true.mp h c hc

omit [CharTables] in
theorem OneLine.append {s t : String} (hs : OneLine s) (ht : OneLine t) : OneLine (s ++ t) := by
  intro c hc
  rw [String.toList_append] at hc
  rcases List.mem_append.mp hc with hc | hc
  · exact hs c hc
  · exact ht c hc

/-- **A printed string stays on its line.** -/
theorem oneLine_repr (s : String) : OneLine (strRepr s) := by
  intro c h
  have hq := isQuote_reprQuote s
  have hquote : isControl (reprQuote s) = false := by
    rcases hq with h | h <;> rw [h] <;> rfl
  simp only [strRepr, String.toList_ofList, List.mem_append, List.mem_cons, List.mem_flatMap,
    List.not_mem_nil, or_false] at h
  rcases h with (rfl | ⟨d, -, hc⟩) | rfl
  · exact hquote
  · exact not_control_escapeChar hq d c hc
  · exact hquote

omit [CharTables] in
theorem length_hexPad (k n : Nat) : (hexPad k n).length = k := by
  induction k generalizing n with
  | zero => rfl
  | succ k ih => simp [hexPad, ih]

/-- A character takes at most ten. -/
theorem length_escapeChar_le (q c : Char) : (escapeChar q c).length ≤ 10 := by
  unfold escapeChar
  simp only
  repeat' split
  all_goals simp [length_hexPad]

/-- A printed string is at most ten times as long, and two quotes. -/
theorem length_repr_le (s : String) : (strRepr s).length ≤ 10 * s.length + 2 := by
  have hsum : ∀ cs : List Char,
      (cs.flatMap (escapeChar (reprQuote s))).length ≤ 10 * cs.length := by
    intro cs
    induction cs with
    | nil => exact Nat.le_refl 0
    | cons c cs ih =>
      have hc := length_escapeChar_le (reprQuote s) c
      rw [List.flatMap_cons, List.length_append, List.length_cons]
      omega
  have hlen := hsum s.toList
  simp only [strRepr, String.length_ofList, List.length_append, List.length_cons, List.length_nil]
  rw [String.length_toList] at hlen
  omega

/-! ## 5. Integers -/

/-- A run of decimal digits is read as the number it spells. -/
theorem readDigits_decimal {cs : List Char} (h : ∀ c ∈ cs, c.isDigit = true) (acc count : Nat)
    (ok : Bool) (hne : cs ≠ [] ∨ ok = true) :
    readDigits acc count ok cs = some (Nat.ofDigitChars 10 cs acc, count + cs.length, []) := by
  induction cs generalizing acc count ok with
  | nil =>
    rcases hne with hne | rfl
    · exact absurd rfl hne
    · rfl
  | cons c cs ih =>
    have hc := h c List.mem_cons_self
    have hrange : 48 ≤ c.toNat ∧ c.toNat ≤ 57 := Char.isDigit_iff_toNat.mp hc
    have hunder : c ≠ '_' := by
      rintro rfl
      exact absurd hc (by decide)
    have hval : decimalVal c = some (c.toNat - 48) := if_pos hrange
    have hrest := ih (fun d hd => h d (List.mem_cons_of_mem _ hd)) (acc * 10 + (c.toNat - 48))
      (count + 1) true (Or.inr rfl)
    simp only [readDigits, if_neg hunder, hval, hrest, Nat.ofDigitChars_cons, List.length_cons]
    rw [Nat.mul_comm acc 10, Nat.add_assoc count, Nat.add_comm 1]
    rfl

theorem readDigits_toString (n : Nat) :
    readDigits 0 0 false (toString n).toList = some (n, (toString n).length, []) := by
  have hdigits : ∀ c ∈ (toString n).toList, c.isDigit = true :=
    fun c hc => isDigit_of_mem_toString hc
  have hne : (toString n).toList ≠ [] := by
    rw [Nat.toString_eq_repr, Nat.toList_repr]
    exact Nat.toDigits_ne_nil
  rw [readDigits_decimal hdigits 0 0 false (Or.inl hne), Nat.zero_add, String.length_toList]
  rw [Nat.toString_eq_repr, Nat.toList_repr, Nat.ofDigitChars_ten_toDigits]

omit [CharTables] in
theorem toList_toString_negSucc (n : Nat) :
    (toString (Int.negSucc n)).toList = '-' :: (toString (n + 1)).toList :=
  String.toList_append

omit [CharTables] in
/-- What `str` prints of an integer: digits, and the sign. -/
theorem mem_toString_int {n : Int} {c : Char} (h : c ∈ (toString n).toList) :
    c.isDigit = true ∨ c = '-' := by
  cases n with
  | ofNat n => exact Or.inl (isDigit_of_mem_toString h)
  | negSucc n =>
    rw [toList_toString_negSucc] at h
    rcases List.mem_cons.mp h with rfl | h
    · exact Or.inr rfl
    · exact Or.inl (isDigit_of_mem_toString h)

omit [CharTables] in
theorem not_isIntBlank {c : Char} (h : c.isDigit = true ∨ c = '-') : isIntBlank c = false := by
  rcases h with h | rfl
  · have hrange : 48 ≤ c.toNat ∧ c.toNat ≤ 57 := Char.isDigit_iff_toNat.mp h
    have hascii : c.toNat < 128 := by omega
    simp only [isIntBlank, if_pos hascii, isAsciiSpace, Bool.or_eq_false_iff, Bool.and_eq_false_iff,
      beq_eq_false_iff_ne, decide_eq_false_iff_not]
    omega
  · rfl

/-- A printed integer is a number with nothing behind it. -/
theorem readNumber_toString (n : Int) :
    ∃ digits, readNumber (toString n) = some (n, digits, []) := by
  have hstrip : stripBy isIntBlank (toString n).toList = (toString n).toList := by
    refine stripBy_eq_self (fun c hc => ?_) fun c hc => ?_
    · exact not_isIntBlank (mem_toString_int (List.mem_of_mem_head? hc))
    · exact not_isIntBlank (mem_toString_int (List.mem_of_getLast? hc))
  unfold readNumber
  rw [hstrip]
  cases n with
  | negSucc n =>
    rw [toList_toString_negSucc]
    simp only [readDigits_toString]
    exact ⟨_, rfl⟩
  | ofNat n =>
    have hread := readDigits_toString n
    have hdigit : ∀ c ∈ (toString (Int.ofNat n)).toList, c.isDigit = true :=
      fun c hc => isDigit_of_mem_toString hc
    split
    · rename_i cs heq
      have hsign := hdigit '-' (heq ▸ List.mem_cons_self)
      exact absurd hsign (by decide)
    · rename_i cs heq
      have hsign := hdigit '+' (heq ▸ List.mem_cons_self)
      exact absurd hsign (by decide)
    · exact ⟨_, congrArg (Option.map _) hread⟩

/-- **`int(str(n))` is `n`.** -/
theorem readInt_toString (n : Int) : ∃ digits, readInt (toString n) = some (n, digits) := by
  obtain ⟨digits, hread⟩ := readNumber_toString n
  exact ⟨digits, by rw [readInt, hread]⟩

/-! ## 6. Lines made of literals -/

omit [CharTables] in
/-- Read a fixed text. -/
def expect (pre : String) (cs : List Char) : Option (List Char) :=
  if pre.toList.isPrefixOf cs then some (cs.drop pre.toList.length) else none

omit [CharTables] in
@[simp] theorem expect_append (pre : String) (cs : List Char) :
    expect pre (pre.toList ++ cs) = some cs := by
  have hpre : pre.toList.isPrefixOf (pre.toList ++ cs) = true :=
    List.isPrefixOf_iff_prefix.mpr (List.prefix_append _ _)
  rw [expect, if_pos hpre, List.drop_left]

/-- Read an integer that ends before `stop`. -/
def readIntUntil (stop : Char) (cs : List Char) : Option (Int × List Char) :=
  (readInt (String.ofList (cs.takeWhile (· != stop)))).map fun p =>
    (p.1, cs.dropWhile (· != stop))

/-- A printed integer is read back, if what ends it is neither a digit nor the sign. -/
theorem readIntUntil_toString (n : Int) (stop : Char) (hdigit : stop.isDigit = false)
    (hsign : stop ≠ '-') (rest : List Char) :
    readIntUntil stop ((toString n).toList ++ stop :: rest) = some (n, stop :: rest) := by
  have hall : ∀ c ∈ (toString n).toList, (c != stop) = true := by
    intro c hc
    rw [bne_iff_ne]
    rintro rfl
    rcases mem_toString_int hc with h | h
    · exact absurd (h.symm.trans hdigit) (by simp)
    · exact hsign h
  have htake : ((toString n).toList ++ stop :: rest).takeWhile (· != stop)
      = (toString n).toList := by
    rw [List.takeWhile_append_of_pos hall, List.takeWhile_cons_of_neg (by simp), List.append_nil]
  have hdrop : ((toString n).toList ++ stop :: rest).dropWhile (· != stop) = stop :: rest := by
    rw [List.dropWhile_append_of_pos hall, List.dropWhile_cons_of_neg (by simp)]
  obtain ⟨digits, hread⟩ := readInt_toString n
  rw [readIntUntil, htake, hdrop, String.ofList_toList, hread]
  rfl

omit [CharTables] in
/-- So does a printed integer. -/
theorem oneLine_toString (n : Int) : OneLine (toString n) := by
  intro c h
  rcases mem_toString_int h with h | rfl
  · have hrange : 48 ≤ c.toNat ∧ c.toNat ≤ 57 := Char.isDigit_iff_toNat.mp h
    exact not_control_of_ascii (by omega) (by omega)
  · rfl

end Strings

end Py
