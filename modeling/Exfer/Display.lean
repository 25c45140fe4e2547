/-
# What a log line says

`str(e)` of a `WalletdError` has the code in front of the message, so that printing it is enough
for a log, and `repr(e)` has the class too.  A reply that cannot be used is quoted in the text of
a `TransportError`, the first two hundred characters of it.

* `readStr` and `readRepr` read these lines, and `readStr_toStr` and `readRepr_repr` say that
  nothing is lost, whatever walletd has put into its message.
* `logged_errors` takes this over the wire: what walletd answers to a call of a run is what the log
  says.
* `logged_noise` is the same for replies that are not walletd's, with a bound on the length.
-/
import Exfer.Lib.Literal
import Exfer.Blanket
import Exfer.Walletd

namespace Exfer

open Py

/-! ## 1. `errors.py`: names and `__repr__` -/

/-- `cls.__name__`. -/
def ErrorClass.name : ErrorClass → String
  | exferError => "ExferError"
  | walletdError => "WalletdError"
  | transportError => "TransportError"
  | fingerprintMismatchError => "FingerprintMismatchError"
  | protocolError => "ProtocolError"
  | parseError => "ParseError"
  | methodNotFoundError => "MethodNotFoundError"
  | invalidParamsError => "InvalidParamsError"
  | internalError => "InternalError"
  | authenticationError => "AuthenticationError"
  | walletNotFoundError => "WalletNotFoundError"
  | walletExistsError => "WalletExistsError"
  | upstreamError => "UpstreamError"
  | txAuthError => "TxAuthError"
  | waitTimeoutError => "WaitTimeoutError"
  | indexerNotConfiguredError => "IndexerNotConfiguredError"
  | insufficientBalanceError => "InsufficientBalanceError"

/-- The class of a name in `errors.py`. -/
def ErrorClass.ofName (name : String) : Option ErrorClass :=
  [exferError, walletdError, transportError, fingerprintMismatchError, protocolError, parseError,
    methodNotFoundError, invalidParamsError, internalError, authenticationError,
    walletNotFoundError, walletExistsError, upstreamError, txAuthError, waitTimeoutError,
    indexerNotConfiguredError, insufficientBalanceError].find? (·.name == name)

theorem ErrorClass.ofName_name (c : ErrorClass) : ErrorClass.ofName c.name = some c := by
  cases c <;> rfl

/-- A name is made of letters. -/
theorem ErrorClass.all_isAlpha_name (c : ErrorClass) : (c.name.toList.all Char.isAlpha) = true := by
  cases c <;> rfl

section Lines

variable [CharTables]

/-- `WalletdError.__repr__`. -/
def WalletdError.repr (self : WalletdError) : String :=
  self.cls.1.name ++ "(code=" ++ toString self.code ++ ", message=" ++ strRepr self.message ++ ")"

/-! ## 2. Reading the lines -/

/-- Read what `str(e)` prints of a `WalletdError`. -/
def readStr (text : String) : Option (Int × String) := do
  let cs ← expect "[" text.toList
  let (code, cs) ← readIntUntil ']' cs
  let message ← expect "] " cs
  return (code, String.ofList message)

/-- Read what `repr(e)` prints of one. -/
def readRepr (text : String) : Option (ErrorClass × Int × String) := do
  let cls ← ErrorClass.ofName (String.ofList (text.toList.takeWhile (· != '(')))
  let cs ← expect "(code=" (text.toList.dropWhile (· != '('))
  let (code, cs) ← readIntUntil ',' cs
  let cs ← expect ", message=" cs
  let (message, cs) ← readLiteral cs
  if cs = [')'] then return (cls, code, String.ofList message) else none

omit [CharTables] in
theorem toStr_walletd (e : WalletdError) :
    (Exc.walletd e).toStr = "[" ++ toString e.code ++ "] " ++ e.message := rfl

/-- **`str(e)` tells the code and the message.** -/
theorem readStr_toStr (e : WalletdError) :
    readStr (Exc.walletd e).toStr = some (e.code, e.message) := by
  have htext : (Exc.walletd e).toStr.toList
      = "[".toList ++ ((toString e.code).toList ++ ("] ".toList ++ e.message.toList)) := by
    simp only [toStr_walletd, String.toList_append, List.append_assoc]
  have hcode : readIntUntil ']' ((toString e.code).toList ++ ("] ".toList ++ e.message.toList))
      = some (e.code, "] ".toList ++ e.message.toList) :=
    readIntUntil_toString e.code ']' (by decide) (by decide) (' ' :: e.message.toList)
  simp only [readStr, htext, expect_append, hcode, Option.bind_eq_bind, Option.bind_some,
    String.ofList_toList]
  rfl

/-- **`repr(e)` tells the class, the code and the message.** -/
theorem readRepr_repr (e : WalletdError) :
    readRepr e.repr = some (e.cls.1, e.code, e.message) := by
  let tail := (toString e.code).toList ++
    (", message=".toList ++ ((strRepr e.message).toList ++ [')']))
  have htext : e.repr.toList = e.cls.1.name.toList ++ ("(code=".toList ++ tail) := by
    have hclose : ")".toList = [')'] := by simp
    simp only [WalletdError.repr, String.toList_append, List.append_assoc, hclose, tail]
  have hname : ∀ c ∈ e.cls.1.name.toList, (c != '(') = true := by
    intro c hc
    rw [bne_iff_ne]
    rintro rfl
    exact absurd (List.all_eq_true.mp e.cls.1.all_isAlpha_name _ hc) (by decide)
  have htake : e.repr.toList.takeWhile (· != '(') = e.cls.1.name.toList := by
    rw [htext, List.takeWhile_append_of_pos hname]
    exact List.append_nil _
  have hdrop : e.repr.toList.dropWhile (· != '(') = "(code=".toList ++ tail := by
    rw [htext, List.dropWhile_append_of_pos hname]
    rfl
  have hcode : readIntUntil ',' tail
      = some (e.code, ", message=".toList ++ ((strRepr e.message).toList ++ [')'])) :=
    readIntUntil_toString e.code ',' (by decide) (by decide) _
  simp only [readRepr, htake, hdrop, expect_append, hcode, readLiteral_repr, String.ofList_toList,
    ErrorClass.ofName_name, Option.bind_eq_bind, Option.bind_some, if_true]
  rfl

/-- `repr(e)` stays on its line. -/
theorem oneLine_walletdRepr (e : WalletdError) : OneLine e.repr := by
  have hname : OneLine e.cls.1.name := by
    refine oneLine_of_all ?_
    cases e.cls.1 <;> rfl
  have hcode : OneLine "(code=" := oneLine_of_all rfl
  have hmessage : OneLine ", message=" := oneLine_of_all rfl
  have hclose : OneLine ")" := oneLine_of_all rfl
  exact ((((hname.append hcode).append (oneLine_toString _)).append hmessage).append
    (oneLine_repr _)).append hclose

/-! ## 3. Quoted replies -/

/-- Read a line that gives a number and quotes a text. -/
def readQuoting (pre post : String) (stop : Char) (text : String) : Option (Int × String) := do
  let cs ← expect pre text.toList
  let (status, cs) ← readIntUntil stop cs
  let cs ← expect post cs
  let (quoted, cs) ← readLiteral cs
  if cs = [] then return (status, String.ofList quoted) else none

/-- Read the text of a `TransportError` for a reply that is none of walletd's. -/
def readNoise (text : String) : Option (Int × String) :=
  readQuoting "unexpected HTTP " " from walletd: " ' ' text <|>
    readQuoting "walletd returned non-JSON body (HTTP " "): " ')' text

theorem readQuoting_text (pre post : String) (stop : Char) (hstop : post.toList.head? = some stop)
    (hdigit : stop.isDigit = false) (hsign : stop ≠ '-') (n : Nat) (s : String) :
    readQuoting pre post stop (pre ++ toString n ++ post ++ strRepr s) = some ((n : Int), s) := by
  obtain ⟨tail, hpost⟩ := List.head?_eq_some_iff.mp hstop
  have htext : (pre ++ toString n ++ post ++ strRepr s).toList
      = pre.toList ++ ((toString (n : Int)).toList ++ (post.toList ++ (strRepr s).toList)) := by
    simp only [String.toList_append, List.append_assoc]
    rfl
  have hnumber : readIntUntil stop
      ((toString (n : Int)).toList ++ (post.toList ++ (strRepr s).toList))
      = some ((n : Int), post.toList ++ (strRepr s).toList) := by
    rw [hpost]
    exact readIntUntil_toString n stop hdigit hsign _
  have hquoted : readLiteral (strRepr s).toList = some (s.toList, []) := by
    have hread := readLiteral_repr s []
    rwa [List.append_nil] at hread
  simp only [readQuoting, htext, expect_append, hnumber, hquoted, Option.bind_eq_bind,
    Option.bind_some, if_true, String.ofList_toList]
  rfl

/-- What is quoted of a reply: its status, and two hundred characters. -/
structure Quotes (text : String) (r : Response) : Prop where
  read : readNoise text = some ((r.statusCode : Int), takeStr 200 r.text)
  oneLine : OneLine text
  length : text.length ≤ 2100 + (toString r.statusCode).length

theorem length_quoted_le (r : Response) : (strRepr (takeStr 200 r.text)).length ≤ 2002 := by
  have hrepr := length_repr_le (takeStr 200 r.text)
  have htake : (takeStr 200 r.text).length ≤ 200 := by
    rw [takeStr, String.length_ofList, List.length_take]
    exact Nat.min_le_left _ _
  omega

/-- A line that quotes a reply is no longer than its fixed part and the quotation. -/
theorem quotes_of_read {pre post : String} {r : Response} (hpre : OneLine pre)
    (hpost : OneLine post) (hlen : pre.length + post.length ≤ 98)
    (hread : readNoise (pre ++ toString r.statusCode ++ post ++ strRepr (takeStr 200 r.text))
      = some ((r.statusCode : Int), takeStr 200 r.text)) :
    Quotes (pre ++ toString r.statusCode ++ post ++ strRepr (takeStr 200 r.text)) r where
  read := hread
  oneLine := ((hpre.append (oneLine_toString r.statusCode)).append hpost).append (oneLine_repr _)
  length := by
    have hquoted := length_quoted_le r
    simp only [String.length_append]
    omega

theorem quotes_unexpected (r : Response) :
    Quotes ("unexpected HTTP " ++ toString r.statusCode ++ " from walletd: " ++
      strRepr (takeStr 200 r.text)) r := by
  refine quotes_of_read (oneLine_of_all rfl) (oneLine_of_all rfl) (by decide) ?_
  have hread := readQuoting_text "unexpected HTTP " " from walletd: " ' ' rfl rfl
    (by decide) r.statusCode (takeStr 200 r.text)
  rw [readNoise, hread]
  rfl

theorem quotes_unreadable (r : Response) :
    Quotes ("walletd returned non-JSON body (HTTP " ++ toString r.statusCode ++ "): " ++
      strRepr (takeStr 200 r.text)) r := by
  refine quotes_of_read (oneLine_of_all rfl) (oneLine_of_all rfl) (by decide) ?_
  have hother : readQuoting "unexpected HTTP " " from walletd: " ' '
      ("walletd returned non-JSON body (HTTP " ++ toString r.statusCode ++ "): " ++
        strRepr (takeStr 200 r.text)) = none := by
    have hpre : expect "unexpected HTTP " ("walletd returned non-JSON body (HTTP " ++
        toString r.statusCode ++ "): " ++ strRepr (takeStr 200 r.text)).toList = none := by
      simp only [String.toList_append, List.append_assoc]
      rfl
    rw [readQuoting, hpre]
    rfl
  have hread := readQuoting_text "walletd returned non-JSON body (HTTP " "): " ')' rfl rfl
    (by decide) r.statusCode (takeStr 200 r.text)
  rw [readNoise, hother, hread]
  rfl

theorem raiseForEnvelope_ne_transport (err : Dict) (code : Int) (message text : String) :
    raiseForEnvelope err code message ≠ .error (.transport text) := by
  intro h
  unfold raiseForEnvelope at h
  cases hint : (dictGet err "code" (.int code)).toInt with
  | ok n => simp [hint] at h
  | error e => simp [hint] at h

/-- **Any reply that `decode_response` cannot use is quoted**, when it raises `TransportError`. -/
theorem quotes_of_decode {r : Response} {text : String}
    (h : decodeResponse r = .error (.transport text)) : Quotes text r := by
  by_cases h401 : r.statusCode = 401
  · cases (decodeResponse_unauthorized h401).symm.trans h
  by_cases hstatus : r.statusCode = 200 ∨ r.statusCode = 400
  · cases hjson : r.json with
    | none =>
      have htext : decodeResponse r = .error (.transport ("walletd returned non-JSON body (HTTP " ++
          toString r.statusCode ++ "): " ++ strRepr (takeStr 200 r.text))) := by
        unfold decodeResponse parseJsonOrRaise
        rcases hstatus with hs | hs <;> simp [hs, hjson] <;> rfl
      cases htext.symm.trans h
      exact quotes_unreadable r
    | some body =>
      -- readable JSON: an error object raises, and without one there is no `TransportError`
      cases herr : r.errorObject with
      | some err =>
        obtain ⟨message, hraise⟩ := decodeResponse_raises hstatus herr
        exact absurd (hraise.symm.trans h) (raiseForEnvelope_ne_transport _ _ _ text)
      | none =>
        rcases hstatus with h200 | h400
        · rcases decodeResponse_answer h200 hjson herr with ⟨v, -, hv⟩ | ⟨-, text', htext'⟩
          · cases hv.symm.trans h
          · cases htext'.symm.trans h
        · have hbad := decodeResponse_badRequest h400 hjson
          rw [herr] at hbad
          cases hbad.symm.trans h
  · rw [not_or] at hstatus
    have htext : decodeResponse r = .error (.transport ("unexpected HTTP " ++
        toString r.statusCode ++ " from walletd: " ++ strRepr (takeStr 200 r.text))) := by
      unfold decodeResponse
      simp [h401, hstatus.1, hstatus.2]
    cases htext.symm.trans h
    exact quotes_unexpected r

/-! ## 4. Over the wire -/

/-- The outcome is a `WalletdError`, and its lines in a log say which. -/
def LoggedAs (cls : ErrorClass) (code : Int) (message : String)
    (outcome : Option (Except Exc Ret)) : Prop :=
  ∃ e : WalletdError, outcome = some (.error (.walletd e)) ∧
    readStr (Exc.walletd e).toStr = some (code, message) ∧
    readRepr e.repr = some (cls, code, message) ∧ OneLine e.repr

theorem loggedAs (e : WalletdError) :
    LoggedAs e.cls.1 e.code e.message (some (.error (.walletd e))) :=
  ⟨e, rfl, readStr_toStr e, readRepr_repr e, oneLine_walletdRepr e⟩

/-- The log says what walletd has answered: on a 401 that the token is refused, and otherwise the
code and the message of the error object, and the class of the code. -/
structure LogsError (e : RpcError) (status : Nat) (outcome : Option (Except Exc Ret)) : Prop where
  error : status = 200 ∨ status = 400 →
    LoggedAs ((codeMap.lookup e.code).getD ⟨.walletdError, rfl⟩).1 e.code e.message outcome
  refusal : status = 401 → LoggedAs .authenticationError (-32001)
    (if e.message = "" then "authentication required" else e.message) outcome

section Family

variable {κ : Type} {E : Endpoint} {unwrap : κ → Json → Except Exc Ret} {plan : κ → Plan}
  {prog : κ → Program}

theorem PerformsWith.logsError (h : PerformsWith E unwrap plan prog)
    {evs : List (Event κ Answer)} {i : Nat} {c : κ} (hc : (Loop.calls evs)[i]? = some c)
    (hkind : (plan c).kind = .rpc) (render : Json → String) (stream : Option NetworkStream)
    (e : RpcError) (status : Nat) (id : Json)
    (hr : Loop.answerTo evs i = some (.ok (rpcErr render stream e status id)))
    (hadmits : E.Admits (rpcErr render stream e status id)) :
    LogsError e status ((Loop.run prog firstId evs).result i) := by
  rw [h.result_admitted hc hkind hr hadmits]
  constructor
  · intro hstatus
    rw [decode_rpcErr render stream e hstatus]
    exact loggedAs (errorForCode e.code e.message (e.data.getD .null))
  · rintro rfl
    rw [decode_rpcErr_unauthorized]
    exact loggedAs _

theorem PerformsWith.quotes (h : PerformsWith E unwrap plan prog)
    (hunwrap : ∀ c v, RaisesBuiltin (unwrap c v)) {evs : List (Event κ Answer)} {i : Nat} {c : κ}
    (hc : (Loop.calls evs)[i]? = some c) (hkind : (plan c).kind = .rpc) {r : Response}
    (hr : Loop.answerTo evs i = some (.ok r)) (hadmits : E.Admits r) {text : String}
    (htext : (Loop.run prog firstId evs).result i = some (.error (.transport text))) :
    Quotes text r := by
  rw [h.result_admitted hc hkind hr hadmits] at htext
  refine quotes_of_decode ?_
  cases hdecode : decodeResponse r with
  | error e =>
    rw [hdecode] at htext
    cases htext
    rfl
  | ok v =>
    rw [hdecode] at htext
    obtain ⟨b, hb⟩ := hunwrap c v _ (Option.some.inj htext)
    cases hb

end Family

/-- **What walletd answers is what the log says.**  In every run of either client, an RPC call that
is answered with an error envelope raises an exception whose `str` reads back as the code and the
message, and whose `repr` as the class, the code and the message, on one line. -/
theorem logged_errors (render : Json → String) (stream : Option NetworkStream) (e : RpcError)
    (status : Nat) (id : Json) :
    (∀ (self : Client) (evs : List (Event Client.Call Answer)) (i : Nat) (c : Client.Call),
      (Loop.calls evs)[i]? = some c → c.kind = .rpc →
      Loop.answerTo evs i = some (.ok (rpcErr render stream e status id)) →
      self.endpoint.Admits (rpcErr render stream e status id) →
      LogsError e status ((Loop.run self.program firstId evs).result i)) ∧
    (∀ (self : AsyncClient) (evs : List (Event AsyncClient.Call Answer)) (i : Nat)
        (c : AsyncClient.Call), (Loop.calls evs)[i]? = some c → c.kind = .rpc →
      Loop.answerTo evs i = some (.ok (rpcErr render stream e status id)) →
      self.endpoint.Admits (rpcErr render stream e status id) →
      LogsError e status ((Loop.run self.program firstId evs).result i)) := by
  constructor
  · intro self evs i c hc hkind hr hadmits
    rw [← c.plan_kind] at hkind
    exact self.performsWith.logsError hc hkind render stream e status id hr hadmits
  · intro self evs i c hc hkind hr hadmits
    rw [← c.plan_kind] at hkind
    exact self.performsWith.logsError hc hkind render stream e status id hr hadmits

omit [CharTables] in
/-- A message that pretends to be two lines. -/
theorem logged_errors_newline :
    letI : CharTables := asciiTables
    let e : RpcError := ⟨-32020, "node down\n[0] ok", none⟩
    let r : Response := rpcErr (fun _ => "") none e 200 (.int 1)
    ∃ c, Client.init "http://127.0.0.1:7448" "secret" = .ok c ∧
      LoggedAs .upstreamError (-32020) "node down\n[0] ok" ((Loop.run c.program firstId
        [.call (.shared (.getBalance (.str "ab"))), .reply 0 (.ok r)]).result 0) := by
  let _ : CharTables := asciiTables
  obtain ⟨c, -, hc, -, hE, -⟩ := exists_local (by decide : "secret" ≠ "")
  intro e r
  refine ⟨c, hc, (((logged_errors (fun _ => "") none e 200 (.int 1)).1 c _ 0
    (.shared (.getBalance (.str "ab"))) rfl rfl rfl ?_).error (Or.inl rfl))⟩
  rw [hE]
  rintro pin ⟨⟩

/-- **What is not walletd's is quoted.**  In every run of either client, an RPC call that raises a
`TransportError` for a reply that it has received gives the status of the reply and the first two
hundred characters of its text, on one line of bounded length. -/
theorem logged_noise :
    (∀ (self : Client) (evs : List (Event Client.Call Answer)) (i : Nat) (c : Client.Call)
        (r : Response) (text : String), (Loop.calls evs)[i]? = some c → c.kind = .rpc →
      Loop.answerTo evs i = some (.ok r) → self.endpoint.Admits r →
      (Loop.run self.program firstId evs).result i = some (.error (.transport text)) →
      Quotes text r) ∧
    (∀ (self : AsyncClient) (evs : List (Event AsyncClient.Call Answer)) (i : Nat)
        (c : AsyncClient.Call) (r : Response) (text : String), (Loop.calls evs)[i]? = some c →
      c.kind = .rpc → Loop.answerTo evs i = some (.ok r) → self.endpoint.Admits r →
      (Loop.run self.program firstId evs).result i = some (.error (.transport text)) →
      Quotes text r) := by
  constructor
  · intro self evs i c r text hc hkind hr hadmits htext
    rw [← c.plan_kind] at hkind
    exact self.performsWith.quotes Client.Call.unwrap_builtin hc hkind hr hadmits htext
  · intro self evs i c r text hc hkind hr hadmits htext
    rw [← c.plan_kind] at hkind
    exact self.performsWith.quotes AsyncClient.Call.unwrap_builtin hc hkind hr hadmits htext

omit [CharTables] in
/-- The page of a proxy. -/
theorem logged_noise_proxy :
    letI : CharTables := asciiTables
    let r : Response := ⟨502, "<html>\n'bad gateway'", none, none⟩
    ∃ c text, Client.init "http://127.0.0.1:7448" "secret" = .ok c ∧
      (Loop.run c.program firstId [.call (.shared .ping), .reply 0 (.ok r)]).result 0
        = some (.error (.transport text)) ∧ Quotes text r := by
  let _ : CharTables := asciiTables
  obtain ⟨c, -, hc, -, hE, -⟩ := exists_local (by decide : "secret" ≠ "")
  intro r
  have hadmits : c.endpoint.Admits r := by
    rw [hE]
    rintro pin ⟨⟩
  obtain ⟨text, htext⟩ : ∃ text, decodeResponse r = .error (.transport text) :=
    decodeResponse_noise (by decide) (by decide) (by decide)
  have hresult : (Loop.run c.program firstId
      [.call (.shared .ping), .reply 0 (.ok r)]).result 0 = some (.error (.transport text)) := by
    rw [c.performsWith.result_admitted (c := .shared .ping) rfl rfl rfl hadmits, htext]
    rfl
  exact ⟨c, text, hc, hresult, logged_noise.1 c _ 0 (.shared .ping) r text rfl rfl rfl hadmits
    hresult⟩

end Lines

end Exfer
