/-
# `errors.py`: the exception hierarchy

Every exception the SDK can let a caller see is an `Exc`: one of the SDK's own classes, an
`httpx` exception, or a builtin.  The class statements of `errors.py` are `ErrorClass.base`, and
`isinstance` against an SDK class is `Exc.isinstance`, so that what a blanket
`except ExferError` catches is computed and not assumed.

* `WalletdError` carries the four attributes its constructor sets; its class is a subclass of
  `WalletdError` by construction.
* `errorForCode` is `error_for_code`: `errorForCode_cls_of_mem` and
  `errorForCode_cls_of_unmapped` are the two branches of the map, and `codeMap_code` says that
  the map agrees with the class attribute of every class in it.
-/
import Exfer.Lib.Value

namespace Exfer

open Py

/-! ## 1. Classes -/

/-- The classes of `errors.py`. -/
inductive ErrorClass where
  | exferError | walletdError | transportError | fingerprintMismatchError | protocolError
  | parseError | methodNotFoundError | invalidParamsError | internalError | authenticationError
  | walletNotFoundError | walletExistsError | upstreamError | txAuthError | waitTimeoutError
  | indexerNotConfiguredError | insufficientBalanceError
  deriving DecidableEq

namespace ErrorClass

/-- The base in the class statement; that of `ExferError` is `Exception`. -/
def base : ErrorClass → Option ErrorClass
  | exferError => none
  | walletdError | transportError => some exferError
  | fingerprintMismatchError => some transportError
  | protocolError | parseError | methodNotFoundError | invalidParamsError | internalError
  | authenticationError | walletNotFoundError | walletExistsError | upstreamError | txAuthError
  | waitTimeoutError | indexerNotConfiguredError | insufficientBalanceError => some walletdError

/-- The class and its bases, at most `n` steps up. -/
def ancestors : Nat → ErrorClass → List ErrorClass
  | 0, c => [c]
  | n + 1, c => c :: (c.base.map (ancestors n)).getD []

/-- `issubclass(c, d)`.  No class is more than two steps below `ExferError`. -/
def isSubclass (c d : ErrorClass) : Bool := (ancestors 2 c).contains d

/-- The class attribute `code` of a `WalletdError`. -/
def code : ErrorClass → Int
  | parseError => -32700
  | methodNotFoundError => -32601
  | invalidParamsError => -32602
  | internalError => -32603
  | authenticationError => -32001
  | walletNotFoundError => -32010
  | walletExistsError => -32011
  | upstreamError => -32020
  | txAuthError => -32030
  | waitTimeoutError => -32040
  | indexerNotConfiguredError => -32041
  | insufficientBalanceError => -32031
  | exferError | walletdError | transportError | fingerprintMismatchError | protocolError => 0

/-- Everything in `errors.py` is an `ExferError`. -/
theorem isSubclass_exferError (c : ErrorClass) : c.isSubclass exferError = true := by
  cases c <;> rfl

/-- The two operational branches do not meet. -/
theorem not_transport_of_walletd {c : ErrorClass} (h : c.isSubclass walletdError = true) :
    c.isSubclass transportError = false := by
  cases c <;> first | rfl | exact absurd h (by decide)

end ErrorClass

/-- A class that is a `WalletdError`. -/
abbrev WalletdClass := { c : ErrorClass // c.isSubclass .walletdError = true }

/-- The three classes that `decode_response` raises by name. -/
def WalletdClass.authenticationError : WalletdClass := ⟨.authenticationError, rfl⟩
def WalletdClass.parseError : WalletdClass := ⟨.parseError, rfl⟩
def WalletdClass.protocolError : WalletdClass := ⟨.protocolError, rfl⟩

/-- The classes of `httpx` exceptions. -/
inductive HttpxClass where
  | httpError | requestError | transportError | timeoutException | connectTimeout | readTimeout
  | writeTimeout | poolTimeout | networkError | connectError | readError | writeError
  | closeError | protocolError | localProtocolError | remoteProtocolError | proxyError
  | unsupportedProtocol | decodingError | tooManyRedirects | httpStatusError
  | invalidURL | cookieConflict | streamError
  deriving DecidableEq

/-- `issubclass(c, httpx.HTTPError)`: all but the last three derive from it. -/
def HttpxClass.isHTTPError : HttpxClass → Bool
  | .invalidURL | .cookieConflict | .streamError => false
  | _ => true

/-! ## 2. `WalletdError` -/

/-- `_detect_in_flight`. -/
def detectInFlight (message : String) (data : Json) : Bool :=
  match data with
  | .obj d =>
    match d.lookup "in_flight_reserved" with
    | some (.bool flag) => flag
    | _ => contains message "reserved by pending transfers"
  | _ => contains message "reserved by pending transfers"

/-- An instance of `WalletdError` or of a subclass.  Only an `InsufficientBalanceError` has the
last attribute. -/
structure WalletdError where
  cls : WalletdClass
  message : String
  code : Int
  data : Json
  inFlightReserved : Option Bool

/-- `cls(message, code=code, data=data)`. -/
def WalletdError.init (cls : WalletdClass) (message : String) (code : Option Int := none)
    (data : Json := .null) : WalletdError where
  cls := cls
  message := message
  code := code.getD cls.1.code
  data := data
  inFlightReserved :=
    if cls.1 = .insufficientBalanceError then some (detectInFlight message data) else none

/-! ## 3. Exceptions -/

/-- An exception: a builtin, one of `httpx`, or one of the SDK. -/
inductive Exc where
  | builtin (e : BuiltinError)
  | httpx (cls : HttpxClass) (text : String)
  | transport (text : String)
  | fingerprintMismatch (expected actual : String)
  | walletd (e : WalletdError)

namespace Exc

/-- The SDK class of an exception, if it has one. -/
def sdkClass : Exc → Option ErrorClass
  | builtin _ | httpx _ _ => none
  | transport _ => some .transportError
  | fingerprintMismatch _ _ => some .fingerprintMismatchError
  | walletd e => some e.cls.1

/-- `isinstance(e, c)` for a class of `errors.py`. -/
def isinstance (e : Exc) (c : ErrorClass) : Bool :=
  (e.sdkClass.map (ErrorClass.isSubclass · c)).getD false

/-- `isinstance(e, httpx.HTTPError)`. -/
def isHTTPError : Exc → Bool
  | httpx cls _ => cls.isHTTPError
  | _ => false

/-- `str(e)`. -/
def toStr : Exc → String
  | builtin e => e.text
  | httpx _ text => text
  | transport text => text
  | fingerprintMismatch expected actual =>
    "server cert fingerprint mismatch: expected " ++ expected ++ ", got " ++ actual
  | walletd e => "[" ++ toString e.code ++ "] " ++ e.message

def valueError (text : String) : Exc := .builtin ⟨.valueError, text⟩
def runtimeError (text : String) : Exc := .builtin ⟨.runtimeError, text⟩

@[simp] theorem isinstance_builtin (e : BuiltinError) (c : ErrorClass) :
    (builtin e).isinstance c = false := rfl
@[simp] theorem isinstance_walletd (e : WalletdError) (c : ErrorClass) :
    (walletd e).isinstance c = e.cls.1.isSubclass c := rfl

/-- **`except ExferError` catches the SDK's own exceptions and nothing else.** -/
theorem isinstance_exferError_iff (e : Exc) :
    e.isinstance .exferError = true ↔ e.sdkClass ≠ none := by
  cases h : e.sdkClass <;> simp [isinstance, h, ErrorClass.isSubclass_exferError]

/-- A `WalletdError` is not a `TransportError`. -/
theorem walletd_not_transport (e : WalletdError) :
    (walletd e).isinstance .transportError = false :=
  ErrorClass.not_transport_of_walletd e.cls.2

/-- `except httpx.HTTPError` lets every SDK exception through. -/
theorem not_isHTTPError_of_sdkClass {e : Exc} (h : e.sdkClass ≠ none) :
    e.isHTTPError = false := by
  cases e with
  | httpx _ _ => exact absurd rfl h
  | builtin _ | transport _ | fingerprintMismatch _ _ | walletd _ => rfl

end Exc

/-! ## 4. Code to exception -/

/-- `_CODE_MAP`. -/
def codeMap : List (Int × WalletdClass) :=
  [(-32700, ⟨.parseError, rfl⟩),
   (-32601, ⟨.methodNotFoundError, rfl⟩),
   (-32602, ⟨.invalidParamsError, rfl⟩),
   (-32603, ⟨.internalError, rfl⟩),
   (-32001, ⟨.authenticationError, rfl⟩),
   (-32010, ⟨.walletNotFoundError, rfl⟩),
   (-32011, ⟨.walletExistsError, rfl⟩),
   (-32020, ⟨.upstreamError, rfl⟩),
   (-32030, ⟨.txAuthError, rfl⟩),
   (-32031, ⟨.insufficientBalanceError, rfl⟩),
   (-32040, ⟨.waitTimeoutError, rfl⟩),
   (-32041, ⟨.indexerNotConfiguredError, rfl⟩)]

/-- `error_for_code`. -/
def errorForCode (code : Int) (message : String) (data : Json := .null) : WalletdError :=
  WalletdError.init ((codeMap.lookup code).getD ⟨.walletdError, rfl⟩) message (some code) data

@[simp] theorem errorForCode_code (code : Int) (message : String) (data : Json) :
    (errorForCode code message data).code = code := rfl
@[simp] theorem errorForCode_message (code : Int) (message : String) (data : Json) :
    (errorForCode code message data).message = message := rfl
@[simp] theorem errorForCode_data (code : Int) (message : String) (data : Json) :
    (errorForCode code message data).data = data := rfl

/-- Each class is filed under its own `code`, and under no other. -/
theorem codeMap_code : ∀ p ∈ codeMap, p.2.1.code = p.1 := by decide

/-- **A mapped code raises its class.** -/
theorem errorForCode_cls_of_mem {code : Int} {cls : WalletdClass} (h : (code, cls) ∈ codeMap)
    (message : String) (data : Json) : (errorForCode code message data).cls = cls := by
  have hall : ∀ p ∈ codeMap, codeMap.lookup p.1 = some p.2 := by decide
  simp [errorForCode, WalletdError.init, hall _ h]

/-- **Any other integer raises bare `WalletdError`.** -/
theorem errorForCode_cls_of_unmapped {code : Int} (h : code ∉ codeMap.map Prod.fst)
    (message : String) (data : Json) :
    (errorForCode code message data).cls = ⟨.walletdError, rfl⟩ := by
  have hnone : codeMap.lookup code = none := by
    rw [List.lookup_eq_none_iff]
    intro p hp
    simpa using fun hcp : code = p.1 => h (hcp ▸ List.mem_map.mpr ⟨p, hp, rfl⟩)
  simp [errorForCode, WalletdError.init, hnone]

end Exfer
