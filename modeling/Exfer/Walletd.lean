/-
# A walletd at the other end

The other party of the exchanges, as far as the repository says what it does.  `rpcOk` and
`rpcErr` are the envelopes the test suite answers with, and the statuses are those that
`decode_response` was written for.  What walletd makes of a method is not in this repository: it
is `Walletd.handle`, any function of the state, the method and the parameters.

* `decode_rpcOk` and `decode_rpcErr`: decoding takes the envelope off again, so what reaches the
  caller is the result, or the exception of the code.
* `Walletd.serve` is walletd at the end of a connection and `Walletd.perform` is walletd in the
  same process, a call away.  `Walletd.outcome_serve` connects the two for one call, whatever id
  the call goes out under.
-/
import Exfer.Decode
import Exfer.Lib.Remote
import Exfer.Pinning
import Exfer.Unwrap

namespace Exfer

open Py

/-! ## 1. Envelopes -/

/-- What walletd says when it does not answer with a result. -/
structure RpcError where
  code : Int
  message : String
  data : Option Json

/-- The `error` object of an envelope. -/
def RpcError.encode (e : RpcError) : Dict :=
  [("code", .int e.code), ("message", .str e.message)] ++ e.data.toList.map ("data", ·)

/-- The exception an error calls for. -/
def RpcError.toExc (e : RpcError) : Exc :=
  .walletd (errorForCode e.code e.message (e.data.getD .null))

/-- An `httpx.Response` with a JSON body, which travels as `render body`. -/
def jsonResponse (render : Json → String) (stream : Option NetworkStream) (status : Nat)
    (body : Json) : Response :=
  ⟨status, render body, some body, stream⟩

/-- `rpc_ok`. -/
def rpcOk (render : Json → String) (stream : Option NetworkStream) (result id : Json) : Response :=
  jsonResponse render stream 200 (.obj [("jsonrpc", .str "2.0"), ("result", result), ("id", id)])

/-- `rpc_err`. -/
def rpcErr (render : Json → String) (stream : Option NetworkStream) (e : RpcError) (status : Nat)
    (id : Json) : Response :=
  jsonResponse render stream status
    (.obj [("jsonrpc", .str "2.0"), ("error", .obj e.encode), ("id", id)])

@[simp] theorem RpcError.lookup_code (e : RpcError) :
    e.encode.lookup "code" = some (.int e.code) := rfl

@[simp] theorem RpcError.lookup_message (e : RpcError) :
    e.encode.lookup "message" = some (.str e.message) := rfl

@[simp] theorem RpcError.lookup_data (e : RpcError) : e.encode.lookup "data" = e.data := by
  obtain ⟨code, message, data⟩ := e
  cases data <;> rfl

section Decode

variable [CharTables] (render : Json → String) (stream : Option NetworkStream)

/-- **A result comes back as it was sent**, null included. -/
theorem decode_rpcOk (result id : Json) :
    decodeResponse (rpcOk render stream result id) = .ok result :=
  decodeResponse_of_succeeds ⟨rfl, _, rfl, Or.inl rfl, rfl⟩

omit [CharTables] in
theorem errorObject_rpcErr (e : RpcError) (status : Nat) (id : Json) :
    (rpcErr render stream e status id).errorObject = some e.encode := rfl

theorem raiseForEnvelope_encode (e : RpcError) (code : Int) (message : String) :
    raiseForEnvelope e.encode code message = .error e.toExc := by
  have hcode : dictGet e.encode "code" (.int code) = .int e.code := by simp [dictGet]
  have hmsg : (dictGet e.encode "message" (.str message)).toStr = e.message := by
    simp [dictGet, Json.toStr]
  have hdata : dictGet e.encode "data" = e.data.getD .null := by simp [dictGet]
  unfold raiseForEnvelope
  rw [hcode, Json.toInt_int, letThrough_ok, hmsg, hdata]
  rfl

/-- **An error comes back as its exception**, on either status. -/
theorem decode_rpcErr (e : RpcError) {status : Nat} (h : status = 200 ∨ status = 400)
    (id : Json) : decodeResponse (rpcErr render stream e status id) = .error e.toExc := by
  obtain ⟨message, heq⟩ := decodeResponse_raises h (errorObject_rpcErr render stream e status id)
  rw [heq, raiseForEnvelope_encode]

/-- A refused token comes back as `AuthenticationError`, whatever the code in the body. -/
theorem decode_rpcErr_unauthorized (e : RpcError) (id : Json) :
    decodeResponse (rpcErr render stream e 401 id) =
      .error (.walletd (WalletdError.init .authenticationError
        (if e.message = "" then "authentication required" else e.message) (some (-32001)))) := by
  rw [decodeResponse_unauthorized rfl]
  rfl

end Decode

/-! ## 2. The service -/

/-- What walletd does with a call, and what it shows on the wire.  `permits` says which methods an
`Authorization` header is good for, and `refusal` is what it says otherwise. -/
structure Walletd (δ : Type) where
  handle : δ → String → Dict → δ × Except RpcError Json
  permits : Option String → String → Bool
  refusal : RpcError
  render : Json → String
  stream : Option NetworkStream

namespace Walletd

variable {δ : Type} (W : Walletd δ)

/-- The envelope of what a method comes to. -/
def envelope (id : Json) : Except RpcError Json → Response
  | .ok result => rpcOk W.render W.stream result id
  | .error e => rpcErr W.render W.stream e 200 id

/-- One request.  The only GET is the liveness probe. -/
def serve (d : δ) (r : HttpRequest) : δ × Response :=
  let id := (r.id?.map Json.int).getD .null
  match r.verb with
  | .get => (d, ⟨200, "ok", none, W.stream⟩)
  | .post =>
    match r.method?, r.params? with
    | some method, some params =>
      if W.permits r.authorization method then
        let (d', answer) := W.handle d method params
        (d', W.envelope id answer)
      else (d, rpcErr W.render W.stream W.refusal 401 id)
    | _, _ => (d, rpcErr W.render W.stream ⟨-32700, "parse error", none⟩ 400 id)

/-- The certificate of the connection is the pinned one, if one is pinned. -/
def Trusted (pin : Option Bytes) : Prop :=
  ∀ expected, pin = some expected →
    ∀ r : Response, r.networkStream = W.stream → Authenticated expected r

/-- What a refused token raises. -/
def refused : Exc :=
  .walletd (WalletdError.init .authenticationError
    (if W.refusal.message = "" then "authentication required" else W.refusal.message)
    (some (-32001)))

/-- What a method comes to, in the caller's terms. -/
def answer (unwrap : Json → Except Exc Ret) : Except RpcError Json → Except Exc Ret
  | .ok result => unwrap result
  | .error e => .error e.toExc

/-- A call on walletd itself, with no network in between. -/
def perform (token : String) (unwrap : Json → Except Exc Ret) (d : δ) :
    Plan → δ × Except Exc Ret
  | .reject e => (d, .error e)
  | .probe => (d, .ok (.value (.bool true)))
  | .rpc method args _ =>
    if W.permits (some ("Bearer " ++ token)) method then
      ((W.handle d method args.encode).1, answer unwrap (W.handle d method args.encode).2)
    else (d, .error W.refused)

/-- Calls on walletd itself, one after the other, each with its own token. -/
def performAll {κ : Type} (token : κ → String) (unwrap : κ → Json → Except Exc Ret)
    (plan : κ → Plan) : δ → List κ → δ × List (Except Exc Ret)
  | d, [] => (d, [])
  | d, c :: cs =>
    let (d', a) := W.perform (token c) (unwrap c) d (plan c)
    let (d'', as) := performAll token unwrap plan d' cs
    (d'', a :: as)

/-! ## 3. One exchange -/

variable [CharTables]

omit [CharTables] in
/-- What walletd sends comes over its own connection. -/
theorem serve_stream (d : δ) (r : HttpRequest) : (W.serve d r).2.networkStream = W.stream := by
  unfold serve
  split
  · rfl
  · split
    · split
      · simp only [envelope]
        split <;> rfl
      · rfl
    · rfl

omit [CharTables] in
theorem serve_get (E : Endpoint) (d : δ) : W.serve d E.get = (d, ⟨200, "ok", none, W.stream⟩) :=
  rfl

omit [CharTables] in
theorem serve_post (E : Endpoint) (d : δ) (id : Nat) (method : String) (args : Named)
    (timeout : Option Int) :
    W.serve d (E.post id method args timeout) =
      if W.permits (some ("Bearer " ++ E.token)) method then
        ((W.handle d method args.encode).1,
          W.envelope (.int id) (W.handle d method args.encode).2)
      else (d, rpcErr W.render W.stream W.refusal 401 (.int id)) :=
  rfl

theorem decode_envelope (id : Json) (result : Except RpcError Json)
    (unwrap : Json → Except Exc Ret) :
    (decodeResponse (W.envelope id result) >>= unwrap) = answer unwrap result := by
  cases result with
  | ok v => simp only [envelope, decode_rpcOk, answer, bind, Except.bind]
  | error e => simp only [envelope, decode_rpcErr _ _ _ (Or.inl rfl), answer, bind, Except.bind]

/-- **An exchange is a call**: what the client makes of walletd's reply is what the call comes to
on walletd itself, whatever the id. -/
theorem outcome_serve {E : Endpoint} (hpin : W.Trusted E.pin) (unwrap : Json → Except Exc Ret)
    (d : δ) {p : Plan} {id : Nat} {r : HttpRequest} (hr : p.request E id = some r) :
    W.perform E.token unwrap d p =
      ((W.serve d r).1, E.outcome unwrap (.ok (W.serve d r).2) p) := by
  have haccept : E.accept (.ok (W.serve d r).2) = .ok (W.serve d r).2 :=
    accept_authenticated fun expected hE => hpin expected hE _ (W.serve_stream d r)
  cases p with
  | reject e => cases hr
  | probe =>
    cases hr
    have hok : startswith "ok" "ok" = true := by decide
    rw [serve_get] at haccept ⊢
    simp only [Endpoint.outcome, Endpoint.alive, haccept, hok]
    rfl
  | rpc method args timeout =>
    cases hr
    rw [serve_post] at haccept ⊢
    by_cases hpermit : W.permits (some ("Bearer " ++ E.token)) method = true
    · rw [if_pos hpermit] at haccept ⊢
      simp only [Endpoint.outcome, Endpoint.settle, haccept, perform, if_pos hpermit,
        decode_envelope]
    · rw [if_neg hpermit] at haccept ⊢
      simp only [Endpoint.outcome, Endpoint.settle, haccept, perform, if_neg hpermit,
        decode_rpcErr_unauthorized]
      rfl

omit [CharTables] in
/-- **A call on walletd raises no `TransportError`**: there is nothing in between that could
fail. -/
theorem perform_not_transport {token : String} {unwrap : Json → Except Exc Ret}
    (hunwrap : ∀ v, RaisesBuiltin (unwrap v)) {p : Plan} (hp : p.FeeSafe) {d : δ} {e : Exc}
    (h : (W.perform token unwrap d p).2 = .error e) : e.isinstance .transportError = false := by
  cases p with
  | reject e' =>
    have hfee := hp.refused rfl
    cases h
    cases hfee
    rfl
  | probe => cases h
  | rpc method args timeout =>
    simp only [perform] at h
    split at h
    · cases hanswer : (W.handle d method args.encode).2 with
      | ok v =>
        rw [hanswer] at h
        obtain ⟨b, rfl⟩ := hunwrap v e h
        rfl
      | error e' =>
        rw [hanswer] at h
        cases h
        exact Exc.walletd_not_transport _
    · cases h
      exact Exc.walletd_not_transport _

/-! ## 4. Many exchanges -/

/-- **Exchanges one after the other are calls one after the other.**  `exchanges` are those of
the calls `cs`, each with the number of its call. -/
theorem performAll_exchanges {κ : Type} {E : κ → Endpoint} (hpin : ∀ c, W.Trusted (E c).pin)
    (unwrap : κ → Json → Except Exc Ret) (plan : κ → Plan) (cs : List κ)
    (exchanges : List (Nat × HttpRequest × Response)) {d d' : δ}
    (hreq : ∀ p ∈ exchanges, ∃ c id, cs[p.1]? = some c ∧ (plan c).request (E c) id = some p.2.1)
    (hlegal : serveAll W.serve d (exchanges.map fun p => p.2.1)
      = (d', exchanges.map fun p => p.2.2)) :
    let r := W.performAll (fun c => (E c).token) unwrap plan d
      ((exchanges.map Prod.fst).filterMap (cs[·]?))
    r.1 = d' ∧ ∀ p ∈ exchanges, ∀ c, cs[p.1]? = some c →
      (p.1, (E c).outcome (unwrap c) (.ok p.2.2) (plan c)) ∈ (exchanges.map Prod.fst).zip r.2 := by
  induction exchanges generalizing d with
  | nil =>
    cases hlegal
    exact ⟨rfl, fun p hp => by cases hp⟩
  | cons p exchanges ih =>
    obtain ⟨c, id, hc, hr⟩ := hreq p List.mem_cons_self
    have hcall := W.outcome_serve (hpin c) (unwrap c) d hr
    simp only [List.map_cons, serveAll, Prod.mk.injEq, List.cons.injEq] at hlegal
    obtain ⟨hstate, hreply, hreplies⟩ := hlegal
    obtain ⟨ih₁, ih₂⟩ := ih (d := (W.serve d p.2.1).1)
      (fun q hq => hreq q (List.mem_cons_of_mem _ hq)) (Prod.ext hstate hreplies)
    simp only [List.map_cons, List.filterMap_cons, hc, performAll, hcall]
    refine ⟨ih₁, fun q hq c' hc' => ?_⟩
    rcases List.mem_cons.mp hq with rfl | hq
    · cases hc.symm.trans hc'
      rw [hreply]
      exact List.mem_cons_self
    · exact List.mem_cons_of_mem _ (ih₂ q hq c' hc')

end Walletd

end Exfer
