/-
# `_params.py`, and the other pieces the two clients share

* The five builders of `_params.py`.  Each builds the dict that carries its
  arguments (`htlcLockParams_eq` and so on), which is what the rest of the development reads.
* The result idioms: `expectKeys` is the shape test in front of every unwrapped result, and
  `Ret` is what a method returns.
* What the constructors read besides their arguments: keyword arguments, the environment and
  the files under a datadir.

Arguments the code only forwards are arbitrary JSON values, `None` being `Json.null`.
-/
import Exfer.Transport

namespace Exfer

open Py

/-! ## 1. Parameter builders -/

/-- `_htlc_lock_params`. -/
def htlcLockParams (from_ receiver hashLock timeout amount fee feeRate maxFee : Json) :
    Except Exc Dict :=
  if !fee.isNone && !feeRate.isNone then
    .error (Exc.valueError "`fee` and `fee_rate` are mutually exclusive")
  else
    let params : Dict := [("from", from_), ("receiver", receiver), ("hash_lock", hashLock),
      ("timeout", timeout), ("amount", amount)]
    let params := setOpt params "fee" fee
    let params := setOpt params "fee_rate" feeRate
    .ok (setOpt params "max_fee" maxFee)

/-- `_simulate_transfer_params`. -/
def simulateTransferParams (from_ : Json) (outputs : List Json)
    (fee feeRate maxFee datum : Json) : Except Exc Dict :=
  if !fee.isNone && !feeRate.isNone then
    .error (Exc.valueError "`fee` and `fee_rate` are mutually exclusive")
  else
    let params : Dict := [("from", from_), ("outputs", .arr outputs)]
    let params := setOpt params "fee" fee
    let params := setOpt params "fee_rate" feeRate
    let params := setOpt params "max_fee" maxFee
    .ok (setOpt params "datum" datum)

/-- `_payment_uri_params`. -/
def paymentUriParams (address amount memo hashLock timeout label : Json) : Dict :=
  let params : Dict := [("address", address)]
  let params := setOpt params "amount" amount
  let params := setOpt params "memo" memo
  let params := setOpt params "hash_lock" hashLock
  let params := setOpt params "timeout" timeout
  setOpt params "label" label

/-- `_htlc_list_params`. -/
def htlcListParams (role state sinceHeight address limit cursor : Json) : Dict :=
  let params : Dict := []
  let params := setOpt params "role" role
  let params := setOpt params "state" state
  let params := setOpt params "since_height" sinceHeight
  let params := setOpt params "address" address
  let params := setOpt params "limit" limit
  setOpt params "cursor" cursor

/-- `_addr_paginated_params`. -/
def addrPaginatedParams (address contractHash sinceHeight limit cursor : Json) : Dict :=
  let params : Dict := [("address", address)]
  let params := setOpt params "contract_hash" contractHash
  let params := setOpt params "since_height" sinceHeight
  let params := setOpt params "limit" limit
  setOpt params "cursor" cursor

/-- `fee` and `fee_rate` are both given: what the two fee-aware builders reject. -/
def BothFees (fee feeRate : Json) : Prop := fee ≠ .null ∧ feeRate ≠ .null

theorem bothFees_iff {fee feeRate : Json} :
    (!fee.isNone && !feeRate.isNone) = true ↔ BothFees fee feeRate := by
  simp [BothFees, ← Json.isNone_iff]

instance (fee feeRate : Json) : Decidable (BothFees fee feeRate) :=
  decidable_of_iff _ bothFees_iff

/-- The `ValueError` of the two builders. -/
def feeConflict : Exc := Exc.valueError "`fee` and `fee_rate` are mutually exclusive"

/-- The arguments of `_htlc_lock_params`. -/
def lockArgs (from_ receiver hashLock timeout amount fee feeRate maxFee : Json) : Named :=
  ⟨[("from", from_), ("receiver", receiver), ("hash_lock", hashLock), ("timeout", timeout),
    ("amount", amount)], [("fee", fee), ("fee_rate", feeRate), ("max_fee", maxFee)], by simp⟩

/-- The arguments of `_simulate_transfer_params`. -/
def simulateArgs (from_ : Json) (outputs : List Json) (fee feeRate maxFee datum : Json) : Named :=
  ⟨[("from", from_), ("outputs", .arr outputs)],
    [("fee", fee), ("fee_rate", feeRate), ("max_fee", maxFee), ("datum", datum)], by simp⟩

/-- The arguments of `_payment_uri_params`. -/
def paymentUriArgs (address amount memo hashLock timeout label : Json) : Named :=
  ⟨[("address", address)], [("amount", amount), ("memo", memo), ("hash_lock", hashLock),
    ("timeout", timeout), ("label", label)], by simp⟩

/-- The arguments of `_htlc_list_params`. -/
def htlcListArgs (role state sinceHeight address limit cursor : Json) : Named :=
  ⟨[], [("role", role), ("state", state), ("since_height", sinceHeight), ("address", address),
    ("limit", limit), ("cursor", cursor)], by simp⟩

/-- The arguments of `_addr_paginated_params`. -/
def addrPaginatedArgs (address contractHash sinceHeight limit cursor : Json) : Named :=
  ⟨[("address", address)], [("contract_hash", contractHash), ("since_height", sinceHeight),
    ("limit", limit), ("cursor", cursor)], by simp⟩

theorem htlcLockParams_eq (from_ receiver hashLock timeout amount fee feeRate maxFee : Json) :
    htlcLockParams from_ receiver hashLock timeout amount fee feeRate maxFee =
      if BothFees fee feeRate then .error feeConflict
      else .ok (lockArgs from_ receiver hashLock timeout amount fee feeRate maxFee).encode := by
  rw [← Named.build_eq]
  unfold htlcLockParams
  simp only [bothFees_iff]
  rfl

theorem simulateTransferParams_eq (from_ : Json) (outputs : List Json)
    (fee feeRate maxFee datum : Json) :
    simulateTransferParams from_ outputs fee feeRate maxFee datum =
      if BothFees fee feeRate then .error feeConflict
      else .ok (simulateArgs from_ outputs fee feeRate maxFee datum).encode := by
  rw [← Named.build_eq]
  unfold simulateTransferParams
  simp only [bothFees_iff]
  rfl

/-! ## 2. Results -/

/-- `types.Tip`. -/
structure Tip where
  height : Int
  blockId : String

/-- What a method returns: nothing, a value of JSON shape, or a `Tip`. -/
inductive Ret where
  | none
  | value (v : Json)
  | tip (t : Tip)

section Results

variable [CharTables]

/-- `raise RuntimeError(f"{name} returned unexpected shape: {result!r}")`. -/
def unexpectedShape (name : String) (result : Json) : Exc :=
  Exc.runtimeError (name ++ " returned unexpected shape: " ++ result.repr)

/-- `if not isinstance(result, dict) or k not in result ...: raise`, for the keys `ks`. -/
def expectKeys (name : String) (ks : List String) (result : Json) : Except Exc Dict :=
  match result with
  | .obj d => if ks.all fun k => (d.lookup k).isSome then .ok d
      else .error (unexpectedShape name result)
  | _ => .error (unexpectedShape name result)

/-- `d[k]`, with its `KeyError`. -/
def subscript (d : Dict) (k : String) : Except Exc Json :=
  match d.lookup k with
  | some v => .ok v
  | none => .error (.builtin ⟨.keyError, strRepr k⟩)

end Results

/-! ## 3. What the constructors read -/

/-- The `**kwargs` of the alternate constructors: each is absent, or present with a value. -/
structure Kwargs where
  timeout : Option Json := none
  transport : Option (Option Nat) := none
  fingerprint : Option Json := none

/-- The process environment and the file system: `os.environ.get(name)`,
`str(Path(p).expanduser())`, and `Path(p).read_text()`. -/
structure Host where
  environ : String → Option String
  expanduser : String → Except Exc String
  readText : String → Except Exc String

/-- `path / name`, as text, for a `path` that `pathlib` has normalised. -/
def joinPath (path name : String) : String :=
  if path = "." then name
  else if path.toList.getLast? = some '/' then path ++ name
  else path ++ "/" ++ name

/-- `except FileNotFoundError`. -/
def Exc.isFileNotFound : Exc → Bool
  | .builtin e => e.cls = .fileNotFoundError
  | _ => false

/-- `try: path.read_text().strip()`, with a `FileNotFoundError` of its own for a missing file. -/
def Host.readStripped (host : Host) (path missing : String) : Except Exc String :=
  match host.readText path with
  | .ok text => .ok (strip text)
  | .error e => .error (if e.isFileNotFound then .builtin ⟨.fileNotFoundError, missing⟩ else e)

/-- `30.0`. -/
def defaultTimeout : Json := .float ⟨0x403e000000000000#64⟩

/-- `f"exfer-py/{__version__}"`. -/
def userAgent : String := "exfer-py/0.11.1"

end Exfer
