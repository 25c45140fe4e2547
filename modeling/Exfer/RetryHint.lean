/-
# Whether to resend a payment

`InsufficientBalanceError.in_flight_reserved` tells a caller that the balance may come back.
The flag is read from the `data` of the error, and failing that from the message, in which
walletd says so in words.

* `walletdInsufficientBalanceMessage` is that message, as the tests reproduce it.  Five numbers
  are printed into it, and `contains_reserved` says that none of them can make the phrase appear
  or disappear.
* `retry_hint` follows the flag from the reply to the exception.
-/
import Exfer.Decode

namespace Exfer

open Py

/-! ## 1. The message -/

/-- `_walletd_insufficient_balance_message`. -/
def walletdInsufficientBalanceMessage
    (needed available utxoCount inFlightValue inFlightCount : Nat) : String :=
  let s := "insufficient balance: need " ++ toString needed ++ " exfers (amount + fee), " ++
    "wallet has " ++ toString available ++ " spendable across " ++ toString utxoCount ++ " UTXO(s)"
  if inFlightCount > 0 then
    s ++ (" (" ++ toString inFlightCount ++ " more UTXO(s) worth " ++ toString inFlightValue ++
      (" exfers reserved " ++ "by pending transfers from this daemon; retry once they confirm " ++
        "or use a different sending wallet)"))
  else s

example : walletdInsufficientBalanceMessage 5100000 4000000 1 0 0 =
    "insufficient balance: need 5100000 exfers (amount + fee), " ++
      "wallet has 4000000 spendable across 1 UTXO(s)" := by
  decide

/-- What `_detect_in_flight` looks for. -/
def reservedPhrase : String := "reserved by pending transfers"

/-- No number has a `v` in it. -/
theorem v_notMem_toString (n : Nat) : 'v' ∉ (toString n).toList := fun h =>
  absurd (isDigit_of_mem_toString h) (by decide)

/-- Without transfers in flight, there is no `v` in the message. -/
theorem contains_reserved_zero (needed available utxoCount inFlightValue : Nat) :
    contains (walletdInsufficientBalanceMessage needed available utxoCount inFlightValue 0)
      reservedPhrase = false := by
  refine contains_eq_false (by decide : 'v' ∈ reservedPhrase.toList) ?_
  have hneeded := v_notMem_toString needed
  have havailable := v_notMem_toString available
  have hcount := v_notMem_toString utxoCount
  have h₁ : 'v' ∉ "insufficient balance: need ".toList := by decide
  have h₂ : 'v' ∉ " exfers (amount + fee), ".toList := by decide
  have h₃ : 'v' ∉ "wallet has ".toList := by decide
  have h₄ : 'v' ∉ " spendable across ".toList := by decide
  have h₅ : 'v' ∉ " UTXO(s)".toList := by decide
  simp only [walletdInsufficientBalanceMessage, gt_iff_lt, Nat.lt_irrefl, if_false,
    String.toList_append, List.mem_append, not_or]
  exact ⟨⟨⟨⟨⟨⟨⟨h₁, hneeded⟩, h₂⟩, h₃⟩, havailable⟩, h₄⟩, hcount⟩, h₅⟩

/-- With some, the message ends in a text that has the phrase. -/
theorem contains_reserved_pos (needed available utxoCount inFlightValue : Nat)
    {inFlightCount : Nat} (h : 0 < inFlightCount) :
    contains (walletdInsufficientBalanceMessage needed available utxoCount inFlightValue
      inFlightCount) reservedPhrase = true := by
  have htail : reservedPhrase.toList <:+: " exfers reserved ".toList ++
      "by pending transfers from this daemon; retry once they confirm ".toList ++
      "or use a different sending wallet)".toList := by decide
  rw [contains_iff]
  simp only [walletdInsufficientBalanceMessage, gt_iff_lt, h, if_true, String.toList_append]
  exact htail.trans ((List.suffix_append _ _).isInfix.trans (List.suffix_append _ _).isInfix)

/-- **The phrase is in the message exactly when transfers are in flight.** -/
theorem contains_reserved (needed available utxoCount inFlightValue inFlightCount : Nat) :
    contains (walletdInsufficientBalanceMessage needed available utxoCount inFlightValue
      inFlightCount) reservedPhrase = decide (0 < inFlightCount) := by
  cases inFlightCount with
  | zero => exact contains_reserved_zero needed available utxoCount inFlightValue
  | succ n =>
    rw [decide_eq_true (Nat.succ_pos n)]
    exact contains_reserved_pos needed available utxoCount inFlightValue (Nat.succ_pos n)

/-! ## 2. The flag -/

/-- The error says in its `data` whether the shortfall is reserved. -/
def Flagged (err : Dict) (flag : Bool) : Prop :=
  ∃ d, err.lookup "data" = some (.obj d) ∧ d.lookup "in_flight_reserved" = some (.bool flag)

/-- **The `data` comes first**, whatever the message is. -/
theorem detectInFlight_flagged {err : Dict} {flag : Bool} (h : Flagged err flag)
    (message : String) : detectInFlight message (dictGet err "data") = flag := by
  obtain ⟨d, hd, hflag⟩ := h
  simp only [detectInFlight, dictGet, hd, Option.getD_some, hflag]

/-- **Then the message**, whatever else the `data` is. -/
theorem detectInFlight_not_flagged {err : Dict} (h : ∀ flag, ¬ Flagged err flag)
    (message : String) :
    detectInFlight message (dictGet err "data") = contains message reservedPhrase := by
  unfold detectInFlight
  cases hdata : err.lookup "data" with
  | none => simp only [dictGet, hdata, Option.getD_none, reservedPhrase]
  | some data =>
    simp only [dictGet, hdata, Option.getD_some]
    cases data with
    | obj d =>
      cases hflag : d.lookup "in_flight_reserved" with
      | none => simp only [hflag, reservedPhrase]
      | some v =>
        cases v with
        | bool flag => exact absurd ⟨d, hdata, hflag⟩ (h flag)
        | null | int _ | float _ | str _ | arr _ | obj _ => simp only [hflag, reservedPhrase]
    | null | bool _ | int _ | float _ | str _ | arr _ => simp only [reservedPhrase]

section Decode

variable [CharTables]

/-- The reply raises `InsufficientBalanceError` with this flag. -/
def RaisesInsufficient (resp : Response) (flag : Bool) : Prop :=
  ∃ e, decodeResponse resp = .error (.walletd e) ∧ e.cls.1 = .insufficientBalanceError ∧
    e.inFlightReserved = some flag

/-- A reply with error code -32031 raises the class, and its flag is what is detected. -/
theorem decodeResponse_insufficient {resp : Response} {err : Dict} {code : Json}
    (h200 : resp.statusCode = 200) (herr : resp.errorObject = some err)
    (hcode : err.lookup "code" = some code) (hint : code.toInt = .ok (-32031)) :
    RaisesInsufficient resp (detectInFlight (dictGet err "message" (.str "")).toStr
      (dictGet err "data")) := by
  refine ⟨errorForCode (-32031) (dictGet err "message" (.str "")).toStr (dictGet err "data"),
    ?_, rfl, rfl⟩
  rw [decodeResponse_error h200 herr, raiseForEnvelope]
  have hget : (dictGet err "code" (.int 0)).toInt = .ok (-32031) := by
    rw [dictGet, hcode, Option.getD_some, hint]
  rw [hget, letThrough_ok]

/-- **The retry hint is exact.**  A reply with status 200 whose error has code -32031, or any code
that `int` takes to it, raises `InsufficientBalanceError`.  With walletd's message the flag is
whether transfers are in flight, unless the `data` says it; if it does, the flag is what the
`data` says. -/
theorem retry_hint {resp : Response} {err : Dict} {code : Json} (h200 : resp.statusCode = 200)
    (herr : resp.errorObject = some err) (hcode : err.lookup "code" = some code)
    (hint : code.toInt = .ok (-32031)) :
    (∀ needed available utxoCount inFlightValue inFlightCount : Nat,
      err.lookup "message" = some (.str (walletdInsufficientBalanceMessage needed available
        utxoCount inFlightValue inFlightCount)) →
      (∀ flag, ¬ Flagged err flag) → RaisesInsufficient resp (decide (0 < inFlightCount))) ∧
    (∀ flag, Flagged err flag → RaisesInsufficient resp flag) := by
  have hraise := decodeResponse_insufficient h200 herr hcode hint
  constructor
  · intro needed available utxoCount inFlightValue inFlightCount hmessage hdata
    rw [detectInFlight_not_flagged hdata, dictGet, hmessage, Option.getD_some, Json.toStr_str,
      contains_reserved] at hraise
    exact hraise
  · intro flag hflag
    rw [detectInFlight_flagged hflag] at hraise
    exact hraise

omit [CharTables] in
/-- Two transfers in flight, and no `data`. -/
theorem retry_hint_two :
    letI : CharTables := asciiTables
    let message := walletdInsufficientBalanceMessage 5100000 4000000 1 9000000 2
    RaisesInsufficient ⟨200, "", some (.obj [("error",
      .obj [("code", .int (-32031)), ("message", .str message)])]), none⟩ true := by
  let _ : CharTables := asciiTables
  intro message
  refine (retry_hint rfl rfl rfl rfl).1 5100000 4000000 1 9000000 2 rfl ?_
  rintro flag ⟨d, hd, -⟩
  cases hd

end Decode

end Exfer
