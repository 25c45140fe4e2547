/-
# The clients perform the plans

`Client.invoke_eq` and `AsyncClient.invoke_eq`: every method of either class, as its source
writes it, is the session of its plan at the endpoint the client was built for.

* For `Client` there is one lemma for what it does to a request (`send_eq`), one for `_call`, one
  for `healthz`, and then one line for each family of methods: those that forward the result, those
  that go through a builder, and those that unwrap.
* `Client.toAsync` is the other class at the same endpoint, and every `AsyncClient` is one.  Its
  code is the same, method by method (`Client.toAsync_invokeShared`), so it performs the same plans.
-/
import Exfer.Client
import Exfer.AsyncClient
import Exfer.Endpoint

namespace Exfer

open Py

/-! ## 1. Sending -/

/-- The digest an `httpx` client pins, if it pins one. -/
def HttpxClient.pin {Pin : Type} (expected : Pin → Bytes) (self : HttpxClient Pin) :
    Option Bytes :=
  match self.transport with
  | .pinning t => some (expected t)
  | .default | .custom _ => none

/-- The endpoint of a `Client`. -/
def Client.endpoint (self : Client) : Endpoint :=
  ⟨self.url, self.token, self.http.timeout,
    self.http.pin FingerprintHTTPTransport.expected⟩

/-- The endpoint of an `AsyncClient`. -/
def AsyncClient.endpoint (self : AsyncClient) : Endpoint :=
  ⟨self.url, self.token, self.http.timeout,
    self.http.pin FingerprintAsyncHTTPTransport.expected⟩

theorem baseHandleRequest_eq (request : HttpRequest) :
    baseHandleRequest request = exchange request fun x => x := rfl

/-- What a pinning transport does to a request: forward it, and check the reply. -/
theorem pinned_eq (request : HttpRequest) (expected : Bytes) :
    (do
      let response ← baseHandleRequest request
      ofExcept (verifyPeerFingerprint response expected)
      return response : Session Response)
      = exchange request fun x => do
          let response ← x
          verifyPeerFingerprint response expected
          return response := by
  have hcheck : ∀ response : Response,
      (do
        ofExcept (verifyPeerFingerprint response expected)
        return response : Session Response)
        = ofExcept (do
            verifyPeerFingerprint response expected
            return response) := by
    intro response
    cases verifyPeerFingerprint response expected with
    | error e => rfl
    | ok u => rfl
  simp only [hcheck]
  rw [baseHandleRequest_eq, exchange_bind]

/-- **Sending, for either class**: hand the request over once, and let through what the pin
accepts. -/
theorem send_eq {Pin : Type} {handle : Pin → HttpRequest → Session Response}
    {expected : Pin → Bytes}
    (hhandle : ∀ t request, handle t request = (do
      let response ← baseHandleRequest request
      ofExcept (verifyPeerFingerprint response (expected t))
      return response))
    (http : HttpxClient Pin) (E : Endpoint) (hpin : E.pin = http.pin expected)
    (verb : Verb) (url : String) (headers : List (String × String)) (json : Option Dict)
    (timeout : Option Int) :
    http.send handle verb url headers json timeout
      = exchange ⟨verb, url, http.headers ++ headers, json,
          (timeout.map Json.int).getD http.timeout⟩ E.accept := by
  unfold HttpxClient.send Endpoint.accept
  rw [hpin, HttpxClient.pin]
  cases http.transport with
  | pinning t => exact (hhandle t _).trans (pinned_eq _ _)
  | default | custom _ =>
    refine (baseHandleRequest_eq _).trans (exchange_congr fun x => ?_)
    cases x <;> rfl

/-! ## 2. `_call` and `healthz` -/

section Programs

variable [CharTables]

/-- An exchange whose failures are wrapped and whose reply is decoded settles. -/
theorem decoded_eq (E : Endpoint) (request : HttpRequest) :
    (do
      let resp ← try exchange request E.accept
        catch exc => throw (if exc.isHTTPError then wrapHttpxError exc else exc)
      ofExcept (decodeResponse resp) : Session Json) = exchange request E.settle := by
  have hthrow : (fun exc : Exc => (throw (if exc.isHTTPError then wrapHttpxError exc else exc) :
      Session Response))
      = fun exc => ofExcept (.error (if exc.isHTTPError then wrapHttpxError exc else exc)) := rfl
  rw [hthrow, exchange_catch, exchange_bind]
  refine exchange_congr fun x => ?_
  unfold Endpoint.settle
  cases E.accept x <;> rfl

omit [CharTables] in
/-- An exchange whose failures count as death and whose reply is read as text is a probe. -/
theorem probed_eq (E : Endpoint) (request : HttpRequest) :
    (do
      let resp ← try some <$> exchange request E.accept
        catch exc => if exc.isHTTPError then pure none else throw exc
      match resp with
      | none => return .value (.bool false)
      | some resp =>
        return .value (.bool (resp.statusCode == 200 && startswith resp.text "ok")) :
      Session Ret) = exchange request E.alive := by
  have hcatch : (fun exc : Exc => (if exc.isHTTPError then pure none else throw exc :
      Session (Option Response)))
      = fun exc => ofExcept (if exc.isHTTPError then .ok none else .error exc) := by
    funext exc
    cases exc.isHTTPError <;> rfl
  have hread : (fun resp : Option Response => (match resp with
      | none => return .value (.bool false)
      | some resp =>
        return .value (.bool (resp.statusCode == 200 && startswith resp.text "ok")) :
      Session Ret))
      = fun resp => ofExcept (match resp with
        | none => .ok (.value (.bool false))
        | some resp =>
          .ok (.value (.bool (resp.statusCode == 200 && startswith resp.text "ok")))) := by
    funext resp
    cases resp <;> rfl
  rw [hcatch, hread, exchange_map, exchange_catch, exchange_bind]
  refine exchange_congr fun x => ?_
  unfold Endpoint.alive
  cases E.accept x with
  | ok resp => rfl
  | error e =>
    change ((if e.isHTTPError then Except.ok none else Except.error e) >>= _)
      = if e.isHTTPError then _ else _
    cases e.isHTTPError <;> rfl

/-- Unwrapping what an exchange returns is performing its plan. -/
theorem unwrapped_eq (E : Endpoint) (method : String) (args : Named) (timeout : Option Int)
    (unwrap : Json → Except Exc Ret) :
    ((do
      let id ← nextId
      exchange (E.post id method args timeout) E.settle : Session Json) >>= fun result =>
        ofExcept (unwrap result)) = E.perform unwrap (.rpc method args timeout) := by
  rw [bind_assoc]
  simp only [exchange_bind]
  rfl

/-- A builder that refuses two fees, in front of a call, is a fee-aware plan. -/
theorem feeAware_eq (E : Endpoint) {fee feeRate : Json} {params : Except Exc Dict}
    {args : Named} (hparams : params = if BothFees fee feeRate then .error feeConflict
      else .ok args.encode)
    {method : String} {unwrap : Json → Except Exc Ret} {send : Dict → Session Ret}
    (hsend : send args.encode = E.perform unwrap (.rpc method args none)) :
    (ofExcept params >>= send) = E.perform unwrap (.feeAware fee feeRate method args) := by
  rw [hparams, Plan.feeAware]
  by_cases h : BothFees fee feeRate
  · rw [if_pos h, if_pos h]
    rfl
  · rw [if_neg h, if_neg h, ← hsend]
    rfl

/-! ## 3. `Client` -/

namespace Client

omit [CharTables] in
theorem send_eq (self : Client) (verb : Verb) (url : String)
    (headers : List (String × String)) (json : Option Dict) (timeout : Option Int) :
    self.http.send FingerprintHTTPTransport.handleRequest verb url headers json timeout
      = exchange ⟨verb, url, ("User-Agent", userAgent) :: headers, json,
          (timeout.map Json.int).getD self.endpoint.timeout⟩ self.endpoint.accept := by
  have hsend : self.http.send FingerprintHTTPTransport.handleRequest verb url headers json timeout
      = exchange ⟨verb, url, self.http.headers ++ headers, json,
          (timeout.map Json.int).getD self.http.timeout⟩ self.endpoint.accept :=
    Exfer.send_eq (fun _ _ => rfl) self.http self.endpoint rfl verb url headers json timeout
  rw [hsend, self.headers_eq]
  rfl

/-- **`_call` is one exchange.** -/
theorem call_eq (self : Client) (method : String) (args : Named) (timeout : Option Int) :
    self.call method (some args.encode) timeout = (do
      let id ← nextId
      exchange (self.endpoint.post id method args timeout) self.endpoint.settle) := by
  unfold call
  refine bind_congr fun id => ?_
  simp only [send_eq]
  exact decoded_eq self.endpoint (self.endpoint.post id method args timeout)

omit [CharTables] in
/-- **`healthz` is the probe.** -/
theorem healthz_eq (self : Client) :
    self.healthz = exchange self.endpoint.get self.endpoint.alive := by
  unfold healthz
  rw [send_eq]
  exact probed_eq self.endpoint self.endpoint.get

/-- A method that unwraps the result. -/
theorem perform_unwrap (self : Client) (unwrap : Json → Except Exc Ret) (method : String)
    (args : Named) (timeout : Option Int) :
    self.endpoint.perform unwrap (.rpc method args timeout) =
      (self.call method
        (some (args.optional.foldl (fun d p => setOpt d p.1 p.2) args.required)) timeout >>=
          fun result => ofExcept (unwrap result)) := by
  rw [Named.build_eq, call_eq, unwrapped_eq]

/-- A method that forwards the result. -/
theorem perform_forward (self : Client) (f : Json → Ret) (method : String) (args : Named)
    (timeout : Option Int) :
    self.endpoint.perform (fun result => .ok (f result)) (.rpc method args timeout) =
      f <$> self.call method
        (some (args.optional.foldl (fun d p => setOpt d p.1 p.2) args.required)) timeout := by
  rw [perform_unwrap, map_eq_pure_bind]
  rfl

/-- **Every method with a shared signature performs its plan.** -/
theorem invokeShared_eq (self : Client) (c : SharedCall) :
    self.invokeShared c = self.endpoint.perform c.unwrap c.plan := by
  symm
  cases c with
  | healthz => exact self.healthz_eq.symm
  -- every method that sends what it is given and hands back what it gets
  | ping | getAddressUtxos _ | getScriptUtxos _ | getBlockByHeight _ | getBlockByHash _
  | getTransaction _ | quoteVerify _ | transfer _ _ _ _ _ | htlcClaim _ _ _ _ _ _ _
  | htlcReclaim _ _ _ _ _ _ _ | quoteIssue _ _ _ _ _ _ _ _ _ _ | paymentUriDecode _
  | htlcStatus _ _ | htlcList _ _ _ _ _ _ | getFollowerStatus | waitForTx _ _ _
  | waitForPayment _ _ _ | listSettlements _ _ _ _ _ | getAddressHistory _ _ _ _
  | signMessage _ _ | verifyMessage _ _ _ _ | getAttestationEdges _ _ | detectInChainSwaps _ _
  | bscGetAddress | bscGetBalances | swapPoolInfo | swapExecute _ | swapStatus _ | swapRefund _
  | swapList | getOutputSpentBy _ _ | getOutputDatum _ _ | findSettlementsByQuoteId _ =>
    exact self.perform_forward _ _ _ _
  -- those with a fee rate, which may be refused first
  | htlcLock from_ receiver hashLock timeout amount fee feeRate maxFee =>
    refine (feeAware_eq _ (htlcLockParams_eq _ _ _ _ _ _ _ _) ?_).symm
    rw [← Named.build_eq]
    exact (self.perform_forward _ _ _ _).symm
  | simulateHtlcLock from_ receiver hashLock timeout amount fee feeRate maxFee =>
    refine (feeAware_eq _ (htlcLockParams_eq _ _ _ _ _ _ _ _) ?_).symm
    rw [← Named.build_eq]
    exact (self.perform_forward _ _ _ _).symm
  | simulateTransfer from_ outputs fee feeRate maxFee datum =>
    refine (feeAware_eq _ (simulateTransferParams_eq _ _ _ _ _ _) ?_).symm
    rw [← Named.build_eq]
    exact (self.perform_forward _ _ _ _).symm
  -- those that unwrap
  | generateAddress | getTip => exact self.perform_unwrap _ _ _ _
  | listAddresses | getBalance _ | getBlockHeight | sendRawTransaction _
  | paymentUriEncode _ _ _ _ _ _ | htlcForget _ _ | contractStats _ _ | htlcLookupByHashlock _ =>
    refine (self.perform_unwrap _ _ _ _).trans ?_
    simp only [SharedCall.unwrap, field, bind_assoc]
    rfl

/-- **Every call on the class performs its plan.** -/
theorem invoke_eq (self : Client) (c : Client.Call) :
    self.invoke c = self.endpoint.perform c.unwrap c.plan := by
  symm
  cases c with
  | shared c => exact (self.invokeShared_eq c).symm
  | swapGetQuote _ _ _ => exact self.perform_forward _ _ _ _

end Client

end Programs

/-! ## 4. `AsyncClient` -/

/-- The same transport argument for the other class. -/
def TransportArg.map {P Q : Type} (f : P → Q) : TransportArg P → TransportArg Q
  | .default => .default
  | .custom id => .custom id
  | .pinning t => .pinning (f t)

/-- The `AsyncClient` of the same endpoint. -/
def Client.toAsync (self : Client) : AsyncClient where
  url := self.url
  token := self.token
  http := ⟨self.http.timeout, self.http.transport.map fun t => ⟨t.expected⟩, self.http.headers⟩
  token_nonempty := self.token_nonempty
  headers_eq := self.headers_eq
  pinned := by
    intro t ht
    cases h : self.http.transport with
    | default => rw [h] at ht; cases ht
    | custom id => rw [h] at ht; cases ht
    | pinning t' =>
      rw [h] at ht
      cases ht
      exact self.pinned t' h

theorem Client.toAsync_endpoint (self : Client) : self.toAsync.endpoint = self.endpoint := by
  have hpin : self.toAsync.http.pin FingerprintAsyncHTTPTransport.expected
      = self.http.pin FingerprintHTTPTransport.expected := by
    simp only [HttpxClient.pin, Client.toAsync]
    cases self.http.transport <;> rfl
  simp only [AsyncClient.endpoint, Client.endpoint, hpin]
  rfl

/-- Every `AsyncClient` is that of a `Client`. -/
theorem AsyncClient.exists_toAsync (self : AsyncClient) : ∃ c : Client, c.toAsync = self := by
  obtain ⟨url, token, ⟨timeout, transport, headers⟩, htoken, hheaders, hpinned⟩ := self
  refine ⟨⟨url, token, ⟨timeout, transport.map fun t => ⟨t.expected⟩, headers⟩, htoken, hheaders,
    ?_⟩, ?_⟩
  · intro t ht
    cases transport with
    | default | custom _ => cases ht
    | pinning t' =>
      cases ht
      exact hpinned t' rfl
  · cases transport <;> rfl

/-- **The two classes have one `healthz`.** -/
theorem Client.toAsync_healthz (self : Client) : self.toAsync.healthz = self.healthz := by
  obtain ⟨url, token, ⟨timeout, transport, headers⟩, htoken, hheaders, hpinned⟩ := self
  cases transport <;> rfl

/-- **`healthz` is the probe.** -/
theorem AsyncClient.healthz_eq (self : AsyncClient) :
    self.healthz = exchange self.endpoint.get self.endpoint.alive := by
  obtain ⟨c, rfl⟩ := self.exists_toAsync
  rw [c.toAsync_healthz, c.toAsync_endpoint, c.healthz_eq]

section Twin

variable [CharTables]

/-- **And one `_call`.** -/
theorem Client.toAsync_call (self : Client) (method : String) (params : Option Dict)
    (requestTimeout : Option Int) :
    self.toAsync.call method params requestTimeout = self.call method params requestTimeout := by
  obtain ⟨url, token, ⟨timeout, transport, headers⟩, htoken, hheaders, hpinned⟩ := self
  cases transport <;> rfl

/-- **`_call` is one exchange.** -/
theorem AsyncClient.call_eq (self : AsyncClient) (method : String) (args : Named)
    (timeout : Option Int) :
    self.call method (some args.encode) timeout = (do
      let id ← nextId
      exchange (self.endpoint.post id method args timeout) self.endpoint.settle) := by
  obtain ⟨c, rfl⟩ := self.exists_toAsync
  rw [c.toAsync_call, c.toAsync_endpoint, c.call_eq]

/-- **And one of every method with a shared signature.** -/
theorem Client.toAsync_invokeShared (self : Client) (c : SharedCall) :
    self.toAsync.invokeShared c = self.invokeShared c := by
  obtain ⟨url, token, ⟨timeout, transport, headers⟩, htoken, hheaders, hpinned⟩ := self
  cases transport <;> cases c <;> rfl

/-- **Every call on the class performs its plan.** -/
theorem AsyncClient.invoke_eq (self : AsyncClient) (c : AsyncClient.Call) :
    self.invoke c = self.endpoint.perform c.unwrap c.plan := by
  obtain ⟨client, rfl⟩ := self.exists_toAsync
  rw [client.toAsync_endpoint]
  cases c with
  | shared c => exact (client.toAsync_invokeShared c).trans (client.invokeShared_eq c)
  -- the one method that `Client` does not have in this form
  | swapGetQuote direction amountIn from_ flow =>
    refine Eq.trans ?_ (client.perform_forward _ _ _ _).symm
    rw [← client.toAsync_call]
    rfl

end Twin

end Exfer
