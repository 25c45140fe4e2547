/-
# What a reply decodes to

The outcomes of `decode_response`, over every status and every body.

* One equation for each way a reply is framed: refused (401), a parse error (400), noise, and
  an answer (200).  The last two of these end in `raiseForEnvelope` exactly when the body
  carries an object-valued `error` (`Response.errorObject`).
* `decodeResponse_partition` is the whole table, for bodies whose error code is an integer.
* `decodeResponse_catchable_iff` says when a blanket `except ExferError` is enough.  It is not
  always: `int(err["code"])` raises builtins of its own, and they are let through.
-/
import Exfer.Transport

namespace Exfer

open Py

/-- The object-valued `error` of an object body. -/
def Response.errorObject (resp : Response) : Option Dict :=
  match resp.json with
  | some (.obj body) =>
    match body.lookup "error" with
    | some (.obj err) => some err
    | _ => none
  | _ => none

/-- The reply is a success that carries `v`: `error` is absent or null, and `result` is `v`. -/
def Response.Succeeds (resp : Response) (v : Json) : Prop :=
  resp.statusCode = 200 ∧ ∃ body, resp.json = some (.obj body) ∧
    (body.lookup "error" = none ∨ body.lookup "error" = some .null) ∧
    body.lookup "result" = some v

/-- An error object as walletd writes it: its `code`, if there is one, is an integer. -/
def IntegerCode (err : Dict) : Prop :=
  ∀ c, err.lookup "code" = some c → ∃ n, c = .int n

theorem dictGet_eq_null_iff {d : Dict} {k : String} :
    dictGet d k = .null ↔ d.lookup k = none ∨ d.lookup k = some .null := by
  unfold dictGet
  cases d.lookup k with
  | none => simp
  | some v => simp

theorem errorObject_eq_some_iff {resp : Response} {err : Dict} :
    resp.errorObject = some err ↔
      ∃ body, resp.json = some (.obj body) ∧ body.lookup "error" = some (.obj err) := by
  unfold Response.errorObject
  constructor
  · intro h
    split at h
    · rename_i body hbody
      split at h
      · rename_i err' herr
        exact ⟨body, hbody, by rw [herr, Option.some.inj h]⟩
      · exact absurd h (by simp)
    · exact absurd h (by simp)
  · rintro ⟨body, hbody, herr⟩
    rw [hbody]
    simp only [herr]

section

variable [CharTables]

/-! ## 1. Raising for an error object -/

theorem raiseForEnvelope_ne_ok (err : Dict) (code : Int) (message : String) (v : Json) :
    raiseForEnvelope err code message ≠ .ok v := by
  intro h
  unfold raiseForEnvelope at h
  split at h <;> exact absurd h (by simp)

/-- An integer code, from the wire or by default, is raised as its `WalletdError`. -/
theorem raiseForEnvelope_eq {err : Dict} (herr : IntegerCode err) (code : Int)
    (message : String) :
    ∃ n, dictGet err "code" (.int code) = .int n ∧
      raiseForEnvelope err code message = .error (.walletd (errorForCode n
        (dictGet err "message" (.str message)).toStr (dictGet err "data"))) := by
  have hint : ∃ n, dictGet err "code" (.int code) = .int n := by
    unfold dictGet
    cases hc : err.lookup "code" with
    | none => exact ⟨code, rfl⟩
    | some c => exact herr c hc
  obtain ⟨n, hn⟩ := hint
  refine ⟨n, hn, ?_⟩
  unfold raiseForEnvelope
  rw [hn, Json.toInt_int, letThrough_ok]

/-- **What can escape**: the code is coerced with `int`, and nothing else can go wrong. -/
theorem raiseForEnvelope_catchable_iff (err : Dict) (code : Int) (message : String) :
    (∃ e, raiseForEnvelope err code message = .error e ∧ e.isinstance .exferError = true) ↔
      ∀ c, err.lookup "code" = some c → c.IntLike := by
  have hlike : (∀ c, err.lookup "code" = some c → c.IntLike) ↔
      ∃ n, (dictGet err "code" (.int code)).toInt = .ok n := by
    rw [Json.toInt_isOk_iff]
    unfold dictGet
    cases err.lookup "code" with
    | none => simp [Json.IntLike]
    | some c => simp
  rw [hlike]
  unfold raiseForEnvelope
  cases (dictGet err "code" (.int code)).toInt with
  | ok n => simp [ErrorClass.isSubclass_exferError]
  | error e => simp

/-! ## 2. The ways a reply is framed -/

theorem decodeResponse_unauthorized {resp : Response} (h : resp.statusCode = 401) :
    decodeResponse resp = .error (.walletd (WalletdError.init .authenticationError
      (safeMessage resp "authentication required") (some (-32001)))) := by
  unfold decodeResponse
  simp [h]

theorem decodeResponse_noise {resp : Response} (h401 : resp.statusCode ≠ 401)
    (h400 : resp.statusCode ≠ 400) (h200 : resp.statusCode ≠ 200) :
    ∃ text, decodeResponse resp = .error (.transport text) := by
  unfold decodeResponse
  simp [h401, h400, h200]

theorem decodeResponse_unreadable {resp : Response}
    (h : resp.statusCode = 200 ∨ resp.statusCode = 400) (hjson : resp.json = none) :
    ∃ text, decodeResponse resp = .error (.transport text) := by
  unfold decodeResponse parseJsonOrRaise
  rcases h with h | h <;> simp [h, hjson] <;> exact ⟨_, rfl⟩

/-- A 400 raises for its error object, or else it is a bare parse error. -/
theorem decodeResponse_badRequest {resp : Response} {body : Json} (h : resp.statusCode = 400)
    (hjson : resp.json = some body) :
    decodeResponse resp = match resp.errorObject with
      | some err => raiseForEnvelope err (-32700) "parse error"
      | none => .error (.walletd (WalletdError.init .parseError "parse error"
          (some (-32700)))) := by
  unfold decodeResponse parseJsonOrRaise Response.errorObject
  simp only [h, hjson]
  cases body with
  | obj body =>
    cases herr : body.lookup "error" with
    | none => simp [dictGet, herr, bind, Except.bind]
    | some err => cases err <;> simp [dictGet, herr, bind, Except.bind]
  | null | bool _ | int _ | float _ | str _ | arr _ => simp [bind, Except.bind]

/-- A 200 with an error object raises for it, whatever else the body has. -/
theorem decodeResponse_error {resp : Response} {err : Dict} (h : resp.statusCode = 200)
    (herr : resp.errorObject = some err) :
    decodeResponse resp = raiseForEnvelope err 0 "" := by
  obtain ⟨body, hjson, hlook⟩ := errorObject_eq_some_iff.mp herr
  unfold decodeResponse parseJsonOrRaise
  simp [h, hjson, dictGet, hlook, bind, Except.bind]

/-- A 200 without an error object is a success, or it breaks the protocol. -/
theorem decodeResponse_answer {resp : Response} {body : Json} (h : resp.statusCode = 200)
    (hjson : resp.json = some body) (herr : resp.errorObject = none) :
    (∃ v, resp.Succeeds v ∧ decodeResponse resp = .ok v) ∨
      (¬ ∃ v, resp.Succeeds v) ∧ ∃ text, decodeResponse resp =
        .error (.walletd (WalletdError.init .protocolError text)) := by
  have hnot : ∀ v, resp.Succeeds v → ∃ fields, body = .obj fields ∧
      (fields.lookup "error" = none ∨ fields.lookup "error" = some .null) ∧
      fields.lookup "result" = some v := by
    rintro v ⟨-, fields, hfields, hok⟩
    exact ⟨fields, Option.some.inj (hjson.symm.trans hfields), hok⟩
  cases body with
  | obj fields =>
    cases hlook : dictGet fields "error" with
    | null =>
      have hnull := dictGet_eq_null_iff.mp hlook
      cases hresult : fields.lookup "result" with
      | some v =>
        refine Or.inl ⟨v, ⟨h, fields, hjson, hnull, hresult⟩, ?_⟩
        simp [decodeResponse, parseJsonOrRaise, h, hjson, hlook, hresult, bind, Except.bind]
      | none =>
        refine Or.inr ⟨?_, ?_⟩
        · rintro ⟨v, hv⟩
          obtain ⟨fields', heq, -, hresult'⟩ := hnot v hv
          cases heq
          exact absurd (hresult.symm.trans hresult') (by simp)
        · simp [decodeResponse, parseJsonOrRaise, h, hjson, hlook, hresult, bind, Except.bind]
          exact ⟨_, rfl⟩
    | obj err =>
      exfalso
      have hsome : fields.lookup "error" = some (.obj err) := by
        unfold dictGet at hlook
        cases hf : fields.lookup "error" with
        | none => exact absurd (hf ▸ hlook) (by simp)
        | some w => exact congrArg some (by simpa [hf] using hlook)
      exact absurd (errorObject_eq_some_iff.mpr ⟨fields, hjson, hsome⟩) (by simp [herr])
    | bool _ | int _ | float _ | str _ | arr _ =>
      refine Or.inr ⟨?_, ?_⟩
      · rintro ⟨v, hv⟩
        obtain ⟨fields', heq, hnull, -⟩ := hnot v hv
        cases heq
        exact absurd (hlook.symm.trans (dictGet_eq_null_iff.mpr hnull)) (by simp)
      · simp [decodeResponse, parseJsonOrRaise, h, hjson, hlook, bind, Except.bind]
        exact ⟨_, rfl⟩
  | null | bool _ | int _ | float _ | str _ | arr _ =>
    refine Or.inr ⟨?_, ?_⟩
    · rintro ⟨v, hv⟩
      obtain ⟨fields', heq, -⟩ := hnot v hv
      exact absurd heq (by simp)
    · simp [decodeResponse, parseJsonOrRaise, h, hjson, bind, Except.bind]
      exact ⟨_, rfl⟩

/-! ## 3. What can escape a blanket catch -/

/-- Every reply but one that carries an error object is a result or an SDK exception. -/
theorem decodeResponse_catchable_of_none {resp : Response}
    (herr : (resp.statusCode = 200 ∨ resp.statusCode = 400) → resp.errorObject = none) :
    (∃ v, decodeResponse resp = .ok v) ∨
      ∃ e, decodeResponse resp = .error e ∧ e.isinstance .exferError = true := by
  by_cases h401 : resp.statusCode = 401
  · exact Or.inr ⟨_, decodeResponse_unauthorized h401, rfl⟩
  · by_cases h : resp.statusCode = 200 ∨ resp.statusCode = 400
    · cases hjson : resp.json with
      | none =>
        obtain ⟨text, htext⟩ := decodeResponse_unreadable h hjson
        exact Or.inr ⟨_, htext, rfl⟩
      | some body =>
        rcases h with h200 | h400
        · rcases decodeResponse_answer h200 hjson (herr (Or.inl h200)) with
            ⟨v, -, hv⟩ | ⟨-, text, htext⟩
          · exact Or.inl ⟨v, hv⟩
          · exact Or.inr ⟨_, htext, rfl⟩
        · have hbad := decodeResponse_badRequest h400 hjson
          rw [herr (Or.inr h400)] at hbad
          exact Or.inr ⟨_, hbad, rfl⟩
    · rw [not_or] at h
      obtain ⟨text, htext⟩ := decodeResponse_noise h401 h.2 h.1
      exact Or.inr ⟨_, htext, rfl⟩

/-- A reply that carries an error object raises for it, on either status. -/
theorem decodeResponse_raises {resp : Response} {err : Dict}
    (h : resp.statusCode = 200 ∨ resp.statusCode = 400) (herr : resp.errorObject = some err) :
    ∃ message, decodeResponse resp
      = raiseForEnvelope err (if resp.statusCode = 400 then -32700 else 0) message := by
  rcases h with h200 | h400
  · refine ⟨"", ?_⟩
    rw [decodeResponse_error h200 herr, h200]
    rfl
  · obtain ⟨body, hjson, -⟩ := errorObject_eq_some_iff.mp herr
    refine ⟨"parse error", ?_⟩
    rw [decodeResponse_badRequest h400 hjson, herr, h400]
    rfl

/-- **When a blanket `except ExferError` is enough**: on every reply but those whose error
object has a `code` that `int` refuses. -/
theorem decodeResponse_catchable_iff (resp : Response) :
    ((∃ v, decodeResponse resp = .ok v) ∨
        ∃ e, decodeResponse resp = .error e ∧ e.isinstance .exferError = true) ↔
      ¬ ((resp.statusCode = 200 ∨ resp.statusCode = 400) ∧
        ∃ err c, resp.errorObject = some err ∧ err.lookup "code" = some c ∧ ¬ c.IntLike) := by
  by_cases h : (resp.statusCode = 200 ∨ resp.statusCode = 400) ∧ ∃ err, resp.errorObject = some err
  · obtain ⟨hstatus, err, herr⟩ := h
    obtain ⟨message, heq⟩ := decodeResponse_raises hstatus herr
    have hcatch := raiseForEnvelope_catchable_iff err
      (if resp.statusCode = 400 then -32700 else 0) message
    have hok : ¬ ∃ v, decodeResponse resp = .ok v := by
      rintro ⟨v, hv⟩
      exact raiseForEnvelope_ne_ok _ _ _ v (heq ▸ hv)
    rw [or_iff_right hok, heq, hcatch]
    constructor
    · rintro hlike ⟨-, err', c, herr', hc, hnot⟩
      rw [herr, Option.some.injEq] at herr'
      subst herr'
      exact hnot (hlike c hc)
    · intro hnot c hc
      by_contra hlike
      exact hnot ⟨hstatus, err, c, herr, hc, hlike⟩
  · have hnone : (resp.statusCode = 200 ∨ resp.statusCode = 400) → resp.errorObject = none := by
      intro hstatus
      cases herr : resp.errorObject with
      | none => rfl
      | some err => exact absurd ⟨hstatus, err, herr⟩ h
    refine iff_of_true (decodeResponse_catchable_of_none hnone) ?_
    rintro ⟨hstatus, err, c, herr, -⟩
    exact h ⟨hstatus, err, herr⟩

omit [CharTables] in
/-- A null `code` escapes: `int(None)` raises `TypeError`. -/
theorem decodeResponse_null_code_escapes :
    let resp : Response := ⟨200, "\x7b\"error\": \x7b\"code\": null\x7d\x7d",
      some (.obj [("error", .obj [("code", .null)])]), none⟩
    ¬ ((∃ v, @decodeResponse asciiTables resp = .ok v) ∨
      ∃ e, @decodeResponse asciiTables resp = .error e ∧ e.isinstance .exferError = true) := by
  rintro resp (⟨v, hv⟩ | ⟨e, he, hexfer⟩)
  · cases hv
  · cases he
    exact absurd hexfer (by decide)

/-! ## 4. The outcome of every other reply -/

/-- `e` is the exception an error object calls for.  `code` is the code of an object that has
none. -/
structure Reports (err : Dict) (code : Int) (e : WalletdError) : Prop where
  wire_code : ∀ n, err.lookup "code" = some (.int n) → e.code = n
  default_code : err.lookup "code" = none → e.code = code
  mapped : ∀ cls, (e.code, cls) ∈ codeMap → e.cls = cls
  unmapped : e.code ∉ codeMap.map Prod.fst → e.cls = ⟨.walletdError, rfl⟩
  message : ∀ msg, err.lookup "message" = some (.str msg) → e.message = msg
  data : ∀ d, err.lookup "data" = some d → e.data = d

theorem raiseForEnvelope_reports {err : Dict} (herr : IntegerCode err) (code : Int)
    (message : String) :
    ∃ e, raiseForEnvelope err code message = .error (.walletd e) ∧ Reports err code e := by
  obtain ⟨n, hn, heq⟩ := raiseForEnvelope_eq herr code message
  refine ⟨_, heq, ?_⟩
  constructor
  · intro m hm
    rw [dictGet, hm] at hn
    exact (Json.int.inj hn).symm
  · intro hnone
    rw [dictGet, hnone] at hn
    exact (Json.int.inj hn).symm
  · intro cls hcls
    exact errorForCode_cls_of_mem hcls _ _
  · intro hcode
    exact errorForCode_cls_of_unmapped hcode _ _
  · intro msg hmsg
    rw [errorForCode_message, dictGet, hmsg]
    rfl
  · intro d hd
    rw [errorForCode_data, dictGet, hd]
    rfl

omit [CharTables] in
/-- The message of a refusal: that of the body when it is a non-empty string. -/
theorem safeMessage_eq (resp : Response) (default : String) :
    (∀ err msg, resp.errorObject = some err → err.lookup "message" = some (.str msg) →
      msg ≠ "" → safeMessage resp default = msg) ∧
    ((¬ ∃ err msg, resp.errorObject = some err ∧ err.lookup "message" = some (.str msg) ∧
      msg ≠ "") → safeMessage resp default = default) := by
  constructor
  · intro err msg herr hmsg hne
    obtain ⟨body, hjson, hlook⟩ := errorObject_eq_some_iff.mp herr
    simp [safeMessage, hjson, hlook, hmsg, hne]
  · intro hnone
    unfold safeMessage
    split
    · rename_i body hjson
      split
      · rename_i err hlook
        split
        · rename_i msg hmsg
          by_cases hne : msg = ""
          · rw [if_pos hne]
          · exact absurd ⟨err, msg, errorObject_eq_some_iff.mpr ⟨body, hjson, hlook⟩, hmsg, hne⟩
              hnone
        · rfl
      · rfl
    · rfl

/-- The outcomes of a reply, over every status and body. -/
structure OutcomePartition (resp : Response) : Prop where
  /-- It is a value exactly on a success that carries the value. -/
  success : ∀ v, decodeResponse resp = .ok v ↔ resp.Succeeds v
  /-- It is a `TransportError` exactly on another status, or where there is no JSON to read. -/
  transport : (∃ e, decodeResponse resp = .error e ∧ e.isinstance .transportError = true) ↔
    (resp.statusCode ≠ 200 ∧ resp.statusCode ≠ 400 ∧ resp.statusCode ≠ 401) ∨
      ((resp.statusCode = 200 ∨ resp.statusCode = 400) ∧ resp.json = none)
  /-- A 401 is an `AuthenticationError`, with the message of the body if it has one. -/
  unauthorized : resp.statusCode = 401 →
    ∃ e, decodeResponse resp = .error (.walletd e) ∧ e.cls = .authenticationError ∧
      e.code = -32001 ∧
      (∀ err msg, resp.errorObject = some err → err.lookup "message" = some (.str msg) →
        msg ≠ "" → e.message = msg) ∧
      ((¬ ∃ err msg, resp.errorObject = some err ∧ err.lookup "message" = some (.str msg) ∧
        msg ≠ "") → e.message = "authentication required")
  /-- All else is a `WalletdError` that is no `TransportError`. -/
  walletd : ((resp.statusCode = 200 ∧ ¬ ∃ v, resp.Succeeds v) ∨ resp.statusCode = 400) →
    resp.json ≠ none → ∃ e, decodeResponse resp = .error (.walletd e) ∧
      (Exc.walletd e).isinstance .transportError = false ∧
      match resp.errorObject with
      | some err => Reports err (if resp.statusCode = 400 then -32700 else 0) e
      | none => e.cls = if resp.statusCode = 400 then .parseError else .protocolError

theorem decodeResponse_of_succeeds {resp : Response} {v : Json} (h : resp.Succeeds v) :
    decodeResponse resp = .ok v := by
  obtain ⟨h200, body, hjson, hnull, hresult⟩ := h
  have hget : dictGet body "error" = .null := dictGet_eq_null_iff.mpr hnull
  simp [decodeResponse, parseJsonOrRaise, h200, hjson, hget, hresult, bind, Except.bind]

/-- Readable JSON that is no success: a `WalletdError`, and which one. -/
theorem decodeResponse_walletd {resp : Response}
    (hcode : ∀ err, resp.errorObject = some err → IntegerCode err)
    (h : (resp.statusCode = 200 ∧ ¬ ∃ v, resp.Succeeds v) ∨ resp.statusCode = 400)
    (hjson : resp.json ≠ none) :
    ∃ e, decodeResponse resp = .error (.walletd e) ∧
      match resp.errorObject with
      | some err => Reports err (if resp.statusCode = 400 then -32700 else 0) e
      | none =>
        e.cls = if resp.statusCode = 400 then .parseError else .protocolError := by
  obtain ⟨body, hbody⟩ := Option.ne_none_iff_exists'.mp hjson
  have hstatus : resp.statusCode = 200 ∨ resp.statusCode = 400 := h.imp And.left id
  cases herr : resp.errorObject with
  | some err =>
    obtain ⟨message, heq⟩ := decodeResponse_raises hstatus herr
    obtain ⟨e, he, hreports⟩ := raiseForEnvelope_reports (hcode err herr)
      (if resp.statusCode = 400 then -32700 else 0) message
    exact ⟨e, heq.trans he, hreports⟩
  | none =>
    rcases h with ⟨h200, hfail⟩ | h400
    · rcases decodeResponse_answer h200 hbody herr with ⟨v, hv, -⟩ | ⟨-, text, htext⟩
      · exact absurd ⟨v, hv⟩ hfail
      · exact ⟨_, htext, by rw [h200]; rfl⟩
    · have hbad := decodeResponse_badRequest h400 hbody
      rw [herr] at hbad
      exact ⟨_, hbad, by rw [h400]; rfl⟩

omit [CharTables] in
/-- The five kinds of replies. -/
theorem Response.kinds (resp : Response) :
    resp.statusCode = 401 ∨
    (resp.statusCode ≠ 200 ∧ resp.statusCode ≠ 400 ∧ resp.statusCode ≠ 401) ∨
    ((resp.statusCode = 200 ∨ resp.statusCode = 400) ∧ resp.json = none) ∨
    (∃ v, resp.Succeeds v) ∨
    (((resp.statusCode = 200 ∧ ¬ ∃ v, resp.Succeeds v) ∨ resp.statusCode = 400) ∧
      resp.json ≠ none) := by
  by_cases hjson : resp.json = none
  · have hstatus : resp.statusCode = 401 ∨
        (resp.statusCode ≠ 200 ∧ resp.statusCode ≠ 400 ∧ resp.statusCode ≠ 401) ∨
        (resp.statusCode = 200 ∨ resp.statusCode = 400) := by omega
    rcases hstatus with h | h | h
    · exact Or.inl h
    · exact Or.inr (Or.inl h)
    · exact Or.inr (Or.inr (Or.inl ⟨h, hjson⟩))
  · by_cases hsucc : ∃ v, resp.Succeeds v
    · exact Or.inr (Or.inr (Or.inr (Or.inl hsucc)))
    · have hstatus : resp.statusCode = 401 ∨
          (resp.statusCode ≠ 200 ∧ resp.statusCode ≠ 400 ∧ resp.statusCode ≠ 401) ∨
          resp.statusCode = 200 ∨ resp.statusCode = 400 := by omega
      rcases hstatus with h | h | h | h
      · exact Or.inl h
      · exact Or.inr (Or.inl h)
      · exact Or.inr (Or.inr (Or.inr (Or.inr ⟨Or.inl ⟨h, hsucc⟩, hjson⟩)))
      · exact Or.inr (Or.inr (Or.inr (Or.inr ⟨Or.inr h, hjson⟩)))

/-- **The outcome of a reply**, for every status and every body whose error code, if there is
one, is an integer. -/
theorem decodeResponse_partition (resp : Response)
    (hcode : ∀ err, resp.errorObject = some err → IntegerCode err) : OutcomePartition resp := by
  constructor
  · intro v
    refine ⟨fun hv => ?_, decodeResponse_of_succeeds⟩
    rcases resp.kinds with h | h | ⟨h, hjson⟩ | ⟨w, h⟩ | ⟨h, hjson⟩
    · exact absurd ((decodeResponse_unauthorized h).symm.trans hv) (by simp)
    · obtain ⟨text, htext⟩ := decodeResponse_noise h.2.2 h.2.1 h.1
      exact absurd (htext.symm.trans hv) (by simp)
    · obtain ⟨text, htext⟩ := decodeResponse_unreadable h hjson
      exact absurd (htext.symm.trans hv) (by simp)
    · have hvw := (decodeResponse_of_succeeds h).symm.trans hv
      exact Except.ok.inj hvw ▸ h
    · obtain ⟨e, he, -⟩ := decodeResponse_walletd hcode h hjson
      exact absurd (he.symm.trans hv) (by simp)
  · constructor
    · rintro ⟨e, he, htransport⟩
      rcases resp.kinds with h | h | h | ⟨w, h⟩ | ⟨h, hjson⟩
      · cases he.symm.trans (decodeResponse_unauthorized h)
        rw [Exc.walletd_not_transport] at htransport
        exact absurd htransport Bool.false_ne_true
      · exact Or.inl h
      · exact Or.inr h
      · exact absurd (he.symm.trans (decodeResponse_of_succeeds h)) (by simp)
      · obtain ⟨e', he', -⟩ := decodeResponse_walletd hcode h hjson
        cases he.symm.trans he'
        rw [Exc.walletd_not_transport] at htransport
        exact absurd htransport Bool.false_ne_true
    · rintro (⟨h200, h400, h401⟩ | ⟨h, hjson⟩)
      · obtain ⟨text, htext⟩ := decodeResponse_noise h401 h400 h200
        exact ⟨_, htext, rfl⟩
      · obtain ⟨text, htext⟩ := decodeResponse_unreadable h hjson
        exact ⟨_, htext, rfl⟩
  · intro h
    obtain ⟨hmsg, hdefault⟩ := safeMessage_eq resp "authentication required"
    exact ⟨_, decodeResponse_unauthorized h, rfl, rfl, hmsg, hdefault⟩
  · intro h hjson
    obtain ⟨e, he, hfiled⟩ := decodeResponse_walletd hcode h hjson
    exact ⟨e, he, Exc.walletd_not_transport e, hfiled⟩

omit [CharTables] in
/-- An insufficient balance, reported in a reply that also has a result. -/
theorem decodeResponse_partition_insufficient :
    @OutcomePartition asciiTables ⟨200, "\x7b\"result\": null, \"error\": \x7b\"code\": -32031, " ++
      "\"message\": \"no funds\"\x7d\x7d", some (.obj [("result", .null), ("error",
      .obj [("code", .int (-32031)), ("message", .str "no funds")])]), none⟩ := by
  refine @decodeResponse_partition asciiTables _ ?_
  intro err herr c hc
  cases herr
  cases hc
  exact ⟨-32031, rfl⟩

end

end Exfer
