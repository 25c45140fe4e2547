/-
# What a call is for: one exchange with one endpoint

The abstract layer, which says of the clients what they promise and not how they are written.

* An `Endpoint` is all that an exchange depends on: the url, the token, the default timeout and
  headers, and the pin.
* A `Plan` is what a call amounts to: refuse locally, probe, or one JSON-RPC exchange with named
  arguments.  `SharedCall.plan` is the table of all methods, and `SharedCall.unwrap` says what
  each makes of a result.
* `Endpoint.perform` carries a plan out.  `requests` is what a list of plans hands over,
  whatever the answers are.

`Exfer.Refinement` shows that `Client` and `AsyncClient` both perform these plans; the
theorems about the clients are proved here, about plans, and carried over.
-/
import Exfer.Calls

namespace Exfer

open Py

/-! ## 1. Exchanges -/

/-- Hand over one request and finish with what the answer is turned into. -/
def exchange {α : Type} (request : HttpRequest) (finish : Answer → Except Exc α) : Session α :=
  ExceptT.mk (Coro.await request fun x => Coro.ret (finish x))

theorem exchange_congr {α : Type} {request : HttpRequest} {f g : Answer → Except Exc α}
    (h : ∀ x, f x = g x) : exchange request f = exchange request g :=
  congrArg (exchange request) (funext h)

theorem exchange_bind {α β : Type} (request : HttpRequest) (finish : Answer → Except Exc α)
    (g : α → Except Exc β) :
    (exchange request finish >>= fun a => ofExcept (g a))
      = exchange request fun x => finish x >>= g := by
  have hret : ∀ r : Except Exc α, (Coro.ret r : Coro Nat HttpRequest Answer _).bind
      (ExceptT.bindCont fun a => ofExcept (g a)) = Coro.ret (r >>= g) := by
    intro r
    cases r with
    | error e => rfl
    | ok a => rfl
  exact Coro.await_congr fun x => hret (finish x)

theorem exchange_map {α β : Type} (request : HttpRequest) (finish : Answer → Except Exc α)
    (g : α → β) :
    (g <$> exchange request finish) = exchange request fun x => g <$> finish x := by
  have h := exchange_bind request finish (fun a => .ok (g a))
  have hmap : (fun x => finish x >>= fun a => Except.ok (g a)) = fun x => g <$> finish x := by
    funext x
    cases finish x <;> rfl
  rw [← hmap, ← h]
  rfl

theorem exchange_catch {α : Type} (request : HttpRequest) (finish : Answer → Except Exc α)
    (h : Exc → Except Exc α) :
    tryCatch (exchange request finish) (fun e => ofExcept (h e))
      = exchange request fun x => tryCatch (finish x) h := by
  have hret : ∀ r : Except Exc α, (tryCatch (ExceptT.mk (Coro.ret r) : Session α)
      fun e => ofExcept (h e)) = ExceptT.mk (Coro.ret (tryCatch r h)) := by
    intro r
    cases r with
    | error e => rfl
    | ok a => rfl
  exact Coro.await_congr fun x => hret (finish x)

/-! ## 2. Endpoints -/

/-- What a client exchanges requests with, and how. -/
structure Endpoint where
  url : String
  token : String
  timeout : Json
  pin : Option Bytes

namespace Endpoint

/-- The POST of a JSON-RPC exchange. -/
def post (E : Endpoint) (id : Nat) (method : String) (args : Named) (timeout : Option Int) :
    HttpRequest where
  verb := .post
  url := E.url ++ "/"
  headers := [("User-Agent", userAgent), ("Authorization", "Bearer " ++ E.token)]
  json := some (buildEnvelope method (some args.encode) id)
  timeout := (timeout.map Json.int).getD E.timeout

/-- The GET of a liveness probe. -/
def get (E : Endpoint) : HttpRequest where
  verb := .get
  url := E.url ++ "/healthz"
  headers := [("User-Agent", userAgent)]
  json := none
  timeout := E.timeout

/-- What gets past the pin. -/
def accept (E : Endpoint) (x : Answer) : Answer := do
  let response ← x
  match E.pin with
  | none => return response
  | some expected =>
    verifyPeerFingerprint response expected
    return response

/-- What an answer says about the liveness of the endpoint. -/
def alive (E : Endpoint) (x : Answer) : Except Exc Ret :=
  match E.accept x with
  | .ok response =>
    .ok (.value (.bool (response.statusCode == 200 && startswith response.text "ok")))
  | .error e => if e.isHTTPError then .ok (.value (.bool false)) else .error e

variable [CharTables]

/-- What an answer says to a JSON-RPC request. -/
def settle (E : Endpoint) (x : Answer) : Except Exc Json :=
  match E.accept x with
  | .ok response => decodeResponse response
  | .error e => .error (if e.isHTTPError then wrapHttpxError e else e)

end Endpoint

/-! ## 3. Plans -/

/-- What a call amounts to. -/
inductive Plan where
  | reject (e : Exc)
  | probe
  | rpc (method : String) (args : Named) (timeout : Option Int)

/-- Arguments with literal names. -/
abbrev named (required : Dict) (optional : Dict := [])
    (nodup : ((required ++ optional).map Prod.fst).Nodup := by simp) : Named :=
  ⟨required, optional, nodup⟩

/-- A fee-aware call: refused when both fees are given. -/
def Plan.feeAware (fee feeRate : Json) (method : String) (args : Named) : Plan :=
  if BothFees fee feeRate then .reject feeConflict else .rpc method args none

/-- What each call amounts to. -/
def SharedCall.plan : SharedCall → Plan
  | healthz => .probe
  | ping => .rpc "ping" (named []) none
  | generateAddress => .rpc "generate_address" (named []) none
  | listAddresses => .rpc "list_addresses" (named []) none
  | getBalance address => .rpc "get_balance" (named [("address", address)]) none
  | getAddressUtxos address => .rpc "get_address_utxos" (named [("address", address)]) none
  | getScriptUtxos scriptHex => .rpc "get_script_utxos" (named [("script_hex", scriptHex)]) none
  | getBlockHeight => .rpc "get_block_height" (named []) none
  | getTip => .rpc "get_block_height" (named []) none
  | getBlockByHeight height => .rpc "get_block" (named [("height", height)]) none
  | getBlockByHash blockHash => .rpc "get_block" (named [("hash", blockHash)]) none
  | getTransaction txId => .rpc "get_transaction" (named [("hash", txId)]) none
  | quoteVerify quote => .rpc "quote_verify" (named [("quote", quote)]) none
  | transfer from_ to_ amount fee datum =>
    .rpc "transfer" (named [("from", from_),
      ("outputs", .arr [.obj [("to", to_), ("amount", amount)]])]
      [("fee", fee), ("datum", datum)]) none
  | sendRawTransaction txHex => .rpc "send_raw_transaction" (named [("tx_hex", txHex)]) none
  | htlcLock from_ receiver hashLock timeout amount fee feeRate maxFee =>
    .feeAware fee feeRate "htlc_lock"
      (lockArgs from_ receiver hashLock timeout amount fee feeRate maxFee)
  | htlcClaim from_ lockTxId preimage sender timeout outputIndex fee =>
    .rpc "htlc_claim" (named [("from", from_), ("lock_tx_id", lockTxId),
      ("output_index", outputIndex), ("preimage", preimage), ("sender", sender),
      ("timeout", timeout)] [("fee", fee)]) none
  | htlcReclaim from_ lockTxId receiver hashLock timeout outputIndex fee =>
    .rpc "htlc_reclaim" (named [("from", from_), ("lock_tx_id", lockTxId),
      ("output_index", outputIndex), ("receiver", receiver), ("hash_lock", hashLock),
      ("timeout", timeout)] [("fee", fee)]) none
  | quoteIssue address payeePubkey currency amountMinor rateExfersPerUnit exferAmount ttlSecs
      payerPubkey memo quoteId =>
    .rpc "quote_issue" (named [("address", address), ("payee_pubkey", payeePubkey),
      ("currency", currency), ("amount_minor", amountMinor),
      ("rate_exfers_per_unit", rateExfersPerUnit), ("exfer_amount", exferAmount),
      ("ttl_secs", ttlSecs)]
      [("payer_pubkey", payerPubkey), ("memo", memo), ("quote_id", quoteId)]) none
  | simulateTransfer from_ outputs fee feeRate maxFee datum =>
    .feeAware fee feeRate "simulate_transfer"
      (simulateArgs from_ outputs fee feeRate maxFee datum)
  | simulateHtlcLock from_ receiver hashLock timeout amount fee feeRate maxFee =>
    .feeAware fee feeRate "simulate_htlc_lock"
      (lockArgs from_ receiver hashLock timeout amount fee feeRate maxFee)
  | paymentUriEncode address amount memo hashLock timeout label =>
    .rpc "payment_uri_encode" (paymentUriArgs address amount memo hashLock timeout label) none
  | paymentUriDecode uri => .rpc "payment_uri_decode" (named [("uri", uri)]) none
  | htlcStatus lockTxId outputIndex =>
    .rpc "htlc_status" (named [("lock_tx_id", lockTxId), ("output_index", outputIndex)]) none
  | htlcList role state sinceHeight address limit cursor =>
    .rpc "htlc_list" (htlcListArgs role state sinceHeight address limit cursor) none
  | htlcForget lockTxId outputIndex =>
    .rpc "htlc_forget" (named [("lock_tx_id", lockTxId), ("output_index", outputIndex)]) none
  | getFollowerStatus => .rpc "get_follower_status" (named []) none
  | waitForTx txId minConfirmations timeoutSecs =>
    .rpc "wait_for_tx" (named [("tx_id", txId), ("min_confirmations", minConfirmations),
      ("timeout_secs", .int timeoutSecs)]) (some (timeoutSecs + 15))
  | waitForPayment address minAmount timeoutSecs =>
    .rpc "wait_for_payment" (named [("address", address), ("min_amount", minAmount),
      ("timeout_secs", .int timeoutSecs)]) (some (timeoutSecs + 15))
  | listSettlements address contractHash sinceHeight limit cursor =>
    .rpc "list_settlements"
      (addrPaginatedArgs address contractHash sinceHeight limit cursor) none
  | contractStats address contractHash =>
    .rpc "contract_stats" (named [("address", address)] [("contract_hash", contractHash)]) none
  | getAddressHistory address sinceHeight limit cursor =>
    .rpc "get_address_history" (named [("address", address)]
      [("since_height", sinceHeight), ("limit", limit), ("cursor", cursor)]) none
  | signMessage address message =>
    .rpc "sign_message" (named [("address", address), ("message", message)]) none
  | verifyMessage pubkey signature message address =>
    .rpc "verify_message" (named [("pubkey", pubkey), ("signature", signature),
      ("message", message)] [("address", address)]) none
  | getAttestationEdges address contractHash =>
    .rpc "get_attestation_edges"
      (named [("address", address)] [("contract_hash", contractHash)]) none
  | detectInChainSwaps hashLock limit =>
    .rpc "detect_in_chain_swaps" (named [] [("hash_lock", hashLock), ("limit", limit)]) none
  | bscGetAddress => .rpc "bsc_get_address" (named []) none
  | bscGetBalances => .rpc "bsc_get_balances" (named []) none
  | swapPoolInfo => .rpc "swap_pool_info" (named []) none
  | swapExecute swapId => .rpc "swap_execute" (named [("swap_id", swapId)]) none
  | swapStatus swapId => .rpc "swap_status" (named [("swap_id", swapId)]) none
  | swapRefund swapId => .rpc "swap_refund" (named [("swap_id", swapId)]) none
  | swapList => .rpc "swap_list" (named []) none
  | htlcLookupByHashlock hashLock =>
    .rpc "htlc_lookup_by_hashlock" (named [("hash_lock", hashLock)]) none
  | getOutputSpentBy txId outputIndex =>
    .rpc "get_output_spent_by" (named [("tx_id", txId), ("output_index", outputIndex)]) none
  | getOutputDatum txId outputIndex =>
    .rpc "get_output_datum" (named [("tx_id", txId), ("output_index", outputIndex)]) none
  | findSettlementsByQuoteId quoteId =>
    .rpc "find_settlements_by_quote_id" (named [("quote_id", quoteId)]) none

/-- The `flow` of `swap_get_quote` is an optional argument. -/
def AsyncClient.Call.plan : AsyncClient.Call → Plan
  | shared c => c.plan
  | swapGetQuote direction amountIn from_ flow =>
    .rpc "swap_get_quote" (named [("direction", direction), ("amount_in", amountIn),
      ("from", from_)] [("flow", flow)]) none

/-- `Client` has no `flow` argument at all. -/
def Client.Call.plan : Client.Call → Plan
  | shared c => c.plan
  | swapGetQuote direction amountIn from_ =>
    .rpc "swap_get_quote" (named [("direction", direction), ("amount_in", amountIn),
      ("from", from_)]) none

/-! ## 4. Results -/

section Unwrap

variable [CharTables]

/-- A field of the result, after the shape test. -/
def field (name key : String) (result : Json) : Except Exc Json := do
  let d ← expectKeys name [key] result
  subscript d key

/-- What a call returns, given the `result` walletd sent. -/
def SharedCall.unwrap (result : Json) : SharedCall → Except Exc Ret
  | ping => return .none
  | generateAddress => do
    let d ← expectKeys "generate_address" ["address", "pubkey"] result
    let address ← subscript d "address"
    let pubkey ← subscript d "pubkey"
    let index ← subscript d "index"
    let index ← letThrough index.toInt
    return .value (.obj [("address", .str address.toStr), ("pubkey", .str pubkey.toStr),
      ("index", .int index)])
  | listAddresses => do
    match ← field "list_addresses" "addresses" result with
    | .arr addresses => return .value (.arr addresses)
    | addresses => throw (Exc.runtimeError ("list_addresses.addresses is not a list: " ++
        addresses.repr))
  | getBalance _ => do
    let balance ← field "get_balance" "balance" result
    return .value (.int (← letThrough balance.toInt))
  | getBlockHeight => do
    let height ← field "get_block_height" "height" result
    return .value (.int (← letThrough height.toInt))
  | getTip => do
    let d ← expectKeys "get_tip" ["height", "block_id"] result
    let height ← subscript d "height"
    let height ← letThrough height.toInt
    let blockId ← subscript d "block_id"
    return .tip ⟨height, blockId.toStr⟩
  | sendRawTransaction _ =>
    return .value (.str (← field "send_raw_transaction" "tx_id" result).toStr)
  | paymentUriEncode .. => return .value (.str (← field "payment_uri_encode" "uri" result).toStr)
  | htlcForget .. => return .value (.bool (← field "htlc_forget" "removed" result).truthy)
  | contractStats .. => return .value (← field "contract_stats" "stats" result)
  | htlcLookupByHashlock _ => return .value (← field "htlc_lookup_by_hashlock" "htlcs" result)
  | _ => return .value result

/-- What a call on an `AsyncClient` returns. -/
def AsyncClient.Call.unwrap (result : Json) : AsyncClient.Call → Except Exc Ret
  | shared c => c.unwrap result
  | swapGetQuote .. => return .value result

/-- What a call on a `Client` returns. -/
def Client.Call.unwrap (result : Json) : Client.Call → Except Exc Ret
  | shared c => c.unwrap result
  | swapGetQuote .. => return .value result

end Unwrap

/-! ## 5. Carrying a plan out -/

section Perform

variable [CharTables]

/-- The session of a plan. -/
def Endpoint.perform (E : Endpoint) (unwrap : Json → Except Exc Ret) : Plan → Session Ret
  | .reject e => ofExcept (.error e)
  | .probe => exchange E.get E.alive
  | .rpc method args timeout => do
    let id ← nextId
    exchange (E.post id method args timeout) fun x => E.settle x >>= unwrap

end Perform

end Exfer
