/-
# Python values of JSON shape, and the builtins that coerce them

`Json` is what `json.loads` builds and what `json.dumps` accepts: `None`, `bool`, `int`,
`float`, `str`, `list` and `dict`.  A dict is an association list in insertion order; the keys
of a dict are unique, and every lookup reads the first entry.

* `repr` and `str` never fail on such a value.
* `int` does: `Json.toInt_isOk_iff` says on which values.
* `dictGet`, `setItem` and `setOpt` are `d.get(k)`, `d[k] = v` and
  `if v is not None: d[k] = v`.

An integer that `json.loads` has built, from a literal or from a float, has few enough digits
for `str` to print it.

The last section is about parameter objects.  `Named` is a list of named arguments, some of
which are left out when they are `None`.  `Named.encode` is the dict that carries them,
`lookup_required`, `lookup_optional` and `lookup_other` read any key of it, and
`Named.dictGet_encode` recovers every argument from it.
-/
import Exfer.Lib.Binary64
import Exfer.Lib.Bytes

namespace Py

/-! ## 1. Values -/

/-- A Python value of JSON shape. -/
inductive Json where
  | null
  | bool (b : Bool)
  | int (n : Int)
  | float (x : Binary64)
  | str (s : String)
  | arr (items : List Json)
  | obj (fields : List (String × Json))
  deriving Inhabited

/-- A dict whose keys are strings. -/
abbrev Dict := List (String × Json)

/-- `v is None`. -/
def Json.isNone : Json → Bool
  | .null => true
  | _ => false

theorem Json.isNone_iff {v : Json} : v.isNone = true ↔ v = .null := by
  cases v <;> simp [Json.isNone]

/-- `type(v).__name__`. -/
def Json.typeName : Json → String
  | .null => "NoneType"
  | .bool _ => "bool"
  | .int _ => "int"
  | .float _ => "float"
  | .str _ => "str"
  | .arr _ => "list"
  | .obj _ => "dict"

/-! ## 2. `repr`, `str`, `bool` -/

section Text

variable [CharTables]

mutual

/-- `repr(v)`. -/
def Json.repr : Json → String
  | .null => "None"
  | .bool b => if b then "True" else "False"
  | .int n => toString n
  | .float x => x.repr
  | .str s => strRepr s
  | .arr items => "[" ++ reprItems items ++ "]"
  | .obj fields => "\x7b" ++ reprFields fields ++ "\x7d"

/-- The items of a list, between commas. -/
def reprItems : List Json → String
  | [] => ""
  | [v] => v.repr
  | v :: w :: vs => v.repr ++ ", " ++ reprItems (w :: vs)

/-- The entries of a dict, between commas. -/
def reprFields : List (String × Json) → String
  | [] => ""
  | [(k, v)] => strRepr k ++ ": " ++ v.repr
  | (k, v) :: f :: fs => strRepr k ++ ": " ++ v.repr ++ ", " ++ reprFields (f :: fs)

end

/-- `str(v)`: a string is itself, anything else is its `repr`. -/
def Json.toStr : Json → String
  | .str s => s
  | v => v.repr

@[simp] theorem Json.toStr_str (s : String) : (Json.str s).toStr = s := rfl

end Text

/-- `bool(v)`. -/
def Json.truthy : Json → Bool
  | .null => false
  | .bool b => b
  | .int n => n != 0
  | .float x => !x.isZero
  | .str s => s != ""
  | .arr items => !items.isEmpty
  | .obj fields => !fields.isEmpty

/-! ## 3. Builtin exceptions, and `int` -/

/-- The builtin exception classes the modelled code raises, catches or lets through. -/
inductive BuiltinClass where
  | valueError | typeError | keyError | overflowError | runtimeError | fileNotFoundError
  | osError | unicodeDecodeError
  deriving DecidableEq

/-- A builtin exception: its class and its text. -/
structure BuiltinError where
  cls : BuiltinClass
  text : String

section Int

variable [CharTables]

/-- The digit a character stands for in `int(s)`. -/
def decimalVal (c : Char) : Option Nat :=
  let n := c.toNat
  if 48 ≤ n ∧ n ≤ 57 then some (n - 48)
  else if n < 128 then none
  else (CharTables.decimal c).map (·.val)

/-- The blanks `int(s)` strips.  Unlike `str.strip` it keeps the four ASCII separators. -/
def isIntBlank (c : Char) : Bool :=
  if c.toNat < 128 then isAsciiSpace c else isSpace c

/-- The digits a text starts with, single underscores between them: their value, how many they
are, and what follows.  `ok` says that the last character was a digit, so that an underscore or
the end may follow. -/
def readDigits : Nat → Nat → Bool → List Char → Option (Nat × Nat × List Char)
  | acc, count, ok, [] => if ok then some (acc, count, []) else none
  | acc, count, ok, c :: cs =>
    if c = '_' then if ok then readDigits acc count false cs else none
    else match decimalVal c with
      | some d => readDigits (acc * 10 + d) (count + 1) true cs
      | none => if ok then some (acc, count, c :: cs) else none

/-- The base-ten number at the front of a text, after blanks and a sign: its value, the number of
its digits, and what follows, less the blanks at the end. -/
def readNumber (s : String) : Option (Int × Nat × List Char) :=
  match stripBy isIntBlank s.toList with
  | '-' :: cs => (readDigits 0 0 false cs).map fun (n, k, rest) => (-(n : Int), k, rest)
  | '+' :: cs => (readDigits 0 0 false cs).map fun (n, k, rest) => ((n : Int), k, rest)
  | cs => (readDigits 0 0 false cs).map fun (n, k, rest) => ((n : Int), k, rest)

/-- A base-ten literal as `int(s)` reads it: a number with nothing behind it. -/
def readInt (s : String) : Option (Int × Nat) :=
  match readNumber s with
  | some (n, digits, []) => some (n, digits)
  | _ => none

/-- `sys.int_info.default_max_str_digits`. -/
def maxStrDigits : Nat := 4300

/-- `int(s)` on a string.  The digits are counted before what follows them is looked at. -/
def intOfStr (s : String) : Except BuiltinError Int :=
  let invalid : BuiltinError :=
    ⟨.valueError, "invalid literal for int() with base 10: " ++ takeStr 200 (strRepr s)⟩
  match readNumber s with
  | some (n, digits, rest) =>
    if digits ≤ maxStrDigits then if rest.isEmpty then .ok n else .error invalid
    else .error ⟨.valueError, "Exceeds the limit (4300 digits) for integer string conversion: " ++
      "value has " ++ toString digits ++
      " digits; use sys.set_int_max_str_digits() to increase the limit"⟩
  | none => .error invalid

/-- **When `int` reads a string.** -/
theorem intOfStr_isOk_iff (s : String) : (∃ n, intOfStr s = .ok n) ↔
    ∃ n digits, readInt s = some (n, digits) ∧ digits ≤ maxStrDigits := by
  unfold intOfStr readInt
  cases readNumber s with
  | none => simp
  | some p =>
    obtain ⟨n, digits, rest⟩ := p
    by_cases hd : digits ≤ maxStrDigits <;> cases rest <;> simp [hd]

/-- `int(v)`. -/
def Json.toInt : Json → Except BuiltinError Int
  | .int n => .ok n
  | .bool b => .ok (if b then 1 else 0)
  | .float x =>
    match x.trunc? with
    | some n => .ok n
    | none =>
      if x.isNaN then .error ⟨.valueError, "cannot convert float NaN to integer"⟩
      else .error ⟨.overflowError, "cannot convert float infinity to integer"⟩
  | .str s => intOfStr s
  | v => .error ⟨.typeError, "int() argument must be a string, a bytes-like object or a real " ++
      "number, not '" ++ v.typeName ++ "'"⟩

@[simp] theorem Json.toInt_int (n : Int) : (Json.int n).toInt = .ok n := rfl

/-- The values `int` accepts: numbers that are finite, booleans, and strings that spell an
integer of at most `maxStrDigits` digits. -/
def Json.IntLike : Json → Prop
  | .int _ | .bool _ => True
  | .float x => x.isFinite = true
  | .str s => ∃ n digits, readInt s = some (n, digits) ∧ digits ≤ maxStrDigits
  | .null | .arr _ | .obj _ => False

/-- **When `int` answers.** -/
theorem Json.toInt_isOk_iff (v : Json) : (∃ n, v.toInt = .ok n) ↔ v.IntLike := by
  cases v with
  | null | arr _ | obj _ => simp [Json.toInt, Json.IntLike]
  | bool _ | int _ => simp [Json.toInt, Json.IntLike]
  | float x =>
    have hx := x.trunc?_isSome_iff
    cases ht : x.trunc? with
    | some n => simpa [Json.toInt, Json.IntLike, ht] using hx
    | none =>
      have hinf : x.isFinite = false := by simpa [ht] using hx
      simp only [Json.toInt, ht, Json.IntLike, hinf]
      split <;> simp
  | str s => exact intOfStr_isOk_iff s

end Int

/-! ## 4. Dicts -/

/-- `d.get(k, default)`. -/
def dictGet (d : Dict) (k : String) (default : Json := .null) : Json :=
  (d.lookup k).getD default

/-- `d[k] = v`: in place when `k` is there, at the end when it is not. -/
def setItem : Dict → String → Json → Dict
  | [], k, v => [(k, v)]
  | (k', v') :: d, k, v => if k' = k then (k, v) :: d else (k', v') :: setItem d k v

/-- `if v is not None: d[k] = v`. -/
def setOpt (d : Dict) (k : String) (v : Json) : Dict :=
  if v.isNone then d else setItem d k v

/-- Assigning a new key appends it. -/
theorem setItem_of_notMem {k : String} {v : Json} : ∀ {d : Dict}, k ∉ d.map Prod.fst →
    setItem d k v = d ++ [(k, v)]
  | [], _ => rfl
  | (k', v') :: d, h => by
    simp only [List.map_cons, List.mem_cons, not_or] at h
    simp only [setItem, if_neg (Ne.symm h.1), setItem_of_notMem h.2, List.cons_append]

/-! ## 5. Named arguments -/

/-- With distinct keys, a lookup finds every entry. -/
theorem lookup_of_mem {k : String} {v : Json} : ∀ {d : Dict}, (d.map Prod.fst).Nodup →
    (k, v) ∈ d → d.lookup k = some v
  | [], _, h => by simp at h
  | (k', v') :: d, hnd, h => by
    obtain ⟨hk', hnd'⟩ := List.nodup_cons.mp hnd
    rcases List.mem_cons.mp h with heq | hmem
    · cases heq
      simp
    · have hne : (k == k') = false := by
        rw [beq_eq_false_iff_ne]
        rintro rfl
        exact hk' (List.mem_map.mpr ⟨(k, v), hmem, rfl⟩)
      rw [List.lookup_cons, hne]
      exact lookup_of_mem hnd' hmem

theorem lookup_of_notMem {k : String} {d : Dict} (h : k ∉ d.map Prod.fst) : d.lookup k = none := by
  rw [List.lookup_eq_none_iff]
  intro p hp
  rw [bne_iff_ne]
  rintro rfl
  exact h (List.mem_map.mpr ⟨p, hp, rfl⟩)

/-- Named arguments under distinct names.  The optional ones may be left out. -/
structure Named where
  required : Dict
  optional : Dict
  nodup : ((required ++ optional).map Prod.fst).Nodup

namespace Named

/-- Every argument with its name, sent or not. -/
def args (a : Named) : Dict := a.required ++ a.optional

/-- The dict that carries the arguments: an optional one is left out when it is `None`. -/
def encode (a : Named) : Dict := a.required ++ a.optional.filter fun p => !p.2.isNone

theorem encode_sublist (a : Named) : a.encode.Sublist a.args :=
  (List.Sublist.refl _).append List.filter_sublist

theorem encode_nodup (a : Named) : (a.encode.map Prod.fst).Nodup :=
  a.nodup.sublist (a.encode_sublist.map Prod.fst)

/-- A required argument is in the dict, unchanged. -/
theorem lookup_required {a : Named} {k : String} {v : Json} (h : (k, v) ∈ a.required) :
    a.encode.lookup k = some v :=
  lookup_of_mem a.encode_nodup (List.mem_append_left _ h)

/-- An optional argument is in the dict, unchanged, exactly when it is not `None`. -/
theorem lookup_optional {a : Named} {k : String} {v : Json} (h : (k, v) ∈ a.optional) :
    a.encode.lookup k = if v.isNone then none else some v := by
  cases hv : v.isNone with
  | false =>
    refine lookup_of_mem a.encode_nodup (List.mem_append_right _ ?_)
    exact List.mem_filter.mpr ⟨h, by simp [hv]⟩
  | true =>
    refine lookup_of_notMem fun hk => ?_
    obtain ⟨⟨k', w⟩, hmem, rfl⟩ := List.mem_map.mp hk
    have hv' := lookup_of_mem a.nodup (List.mem_append_right _ h)
    rw [lookup_of_mem a.nodup (a.encode_sublist.subset hmem), Option.some.injEq] at hv'
    subst hv'
    -- `None` passes no filter, and it cannot be a required argument of the same name
    rcases List.mem_append.mp hmem with hreq | hopt
    · have hdisj := (List.nodup_append.mp (List.map_append ▸ a.nodup)).2.2
      exact hdisj k' (List.mem_map.mpr ⟨_, hreq, rfl⟩) k' (List.mem_map.mpr ⟨_, h, rfl⟩) rfl
    · simp [hv] at hopt

/-- No other key is in the dict. -/
theorem lookup_other {a : Named} {k : String} (h : k ∉ a.args.map Prod.fst) :
    a.encode.lookup k = none :=
  lookup_of_notMem fun hk => h ((a.encode_sublist.map Prod.fst).subset hk)

/-- **The encoding loses nothing**: with an absent key read as `None`, the dict says the same as
the arguments do. -/
theorem dictGet_encode (a : Named) (k : String) : dictGet a.encode k = dictGet a.args k := by
  by_cases hk : k ∈ a.args.map Prod.fst
  · obtain ⟨⟨k', v⟩, hmem, rfl⟩ := List.mem_map.mp hk
    have hargs : a.args.lookup k' = some v := lookup_of_mem a.nodup hmem
    rw [dictGet, dictGet, hargs]
    rcases List.mem_append.mp hmem with hreq | hopt
    · rw [lookup_required hreq]
    · rw [lookup_optional hopt]
      cases hv : v.isNone with
      | false => rfl
      | true => exact (Json.isNone_iff.mp hv).symm
  · rw [dictGet, dictGet, lookup_other hk, lookup_of_notMem hk]

/-- `if v is not None: d[k] = v` for one new name after the other. -/
theorem foldl_setOpt : ∀ (required optional : Dict),
    ((required ++ optional).map Prod.fst).Nodup →
    optional.foldl (fun d p => setOpt d p.1 p.2) required
      = required ++ optional.filter fun p => !p.2.isNone
  | required, [], _ => by simp
  | required, (k, v) :: optional, hnd => by
    simp only [List.foldl_cons, List.filter_cons]
    cases hv : v.isNone with
    | true =>
      have hnd' : ((required ++ optional).map Prod.fst).Nodup :=
        hnd.sublist (((List.sublist_cons_self _ _).append_left required).map _)
      simpa [setOpt, hv] using foldl_setOpt required optional hnd'
    | false =>
      have hk : k ∉ required.map Prod.fst := by
        intro hk
        have hdisj := (List.nodup_append.mp (List.map_append ▸ hnd)).2.2
        exact hdisj k hk k (by simp) rfl
      have hnd' : ((required ++ [(k, v)] ++ optional).map Prod.fst).Nodup := by simpa using hnd
      simpa [setOpt, hv, setItem_of_notMem hk] using
        foldl_setOpt (required ++ [(k, v)]) optional hnd'

/-- **What the request methods build** is the dict that carries the arguments. -/
theorem build_eq (a : Named) :
    a.optional.foldl (fun d p => setOpt d p.1 p.2) a.required = a.encode :=
  foldl_setOpt a.required a.optional a.nodup

end Named

end Py
