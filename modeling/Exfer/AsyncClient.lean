/-
# `async_client.py`: the asynchronous client

`AsyncClient`, written out as the source writes it: its own constructors, its own `_call` and
its own copy of every method.  What an `await` suspends on is the base transport, so the
sessions of this class are what an event loop interleaves.  Only `swap_get_quote` has a
signature of its own.
-/
import Exfer.Calls

namespace Exfer

open Py

/-! ## 1. Construction -/

/-- `exfer.AsyncClient`. -/
structure AsyncClient where
  url : String
  token : String
  http : HttpxClient FingerprintAsyncHTTPTransport
  token_nonempty : token ≠ ""
  headers_eq : http.headers = [("User-Agent", userAgent)]
  pinned : ∀ t, http.transport = .pinning t →
    startswith url "https://" = true ∧ t.expected.length = 32

namespace AsyncClient

section

variable [CharTables]

/-- `__init__`. -/
def init (url token : String) (timeout : Json := defaultTimeout)
    (transport : Option Nat := none) (fingerprint : Json := .null) : Except Exc AsyncClient :=
  if htoken : token = "" then .error (Exc.valueError "token must be a non-empty string")
  else if !fingerprint.isNone && transport.isSome then
    .error (Exc.valueError ("specify either fingerprint= or transport=, not both — " ++
      "the fingerprint param installs its own pinning transport"))
  else if !fingerprint.isNone then
    if hurl : startswith (rstrip '/' url) "https://" = true then
      match hexp : parseFingerprint fingerprint with
      | .error e => .error e
      | .ok expected => .ok {
          url := rstrip '/' url
          token := token
          http := ⟨timeout, .pinning ⟨expected⟩, [("User-Agent", userAgent)]⟩
          token_nonempty := htoken
          headers_eq := rfl
          pinned := by
            rintro t ⟨rfl⟩
            exact ⟨hurl, parseFingerprint_length hexp⟩ }
    else .error (Exc.valueError ("fingerprint= requires an https:// URL, got " ++
      strRepr (rstrip '/' url)))
  else .ok {
      url := rstrip '/' url
      token := token
      http := ⟨timeout, transport.elim .default .custom, [("User-Agent", userAgent)]⟩
      token_nonempty := htoken
      headers_eq := rfl
      pinned := by
        intro t ht
        cases transport <;> cases ht }

/-- `cls(url, token, **kwargs)`. -/
def ofKwargs (url token : String) (kwargs : Kwargs) : Except Exc AsyncClient :=
  init url token (kwargs.timeout.getD defaultTimeout) (kwargs.transport.getD none)
    (kwargs.fingerprint.getD .null)

/-- `from_env`. -/
def fromEnv (host : Host) (urlEnv : String := "WALLETD_URL")
    (tokenEnv : String := "WALLETD_AUTH_TOKEN") (fingerprintEnv : String := "WALLETD_FINGERPRINT")
    (kwargs : Kwargs := {}) : Except Exc AsyncClient :=
  let url := (host.environ urlEnv).getD ""
  let token := (host.environ tokenEnv).getD ""
  let fingerprint := (host.environ fingerprintEnv).getD ""
  if url = "" then .error (Exc.runtimeError (urlEnv ++ " is not set"))
  else if token = "" then .error (Exc.runtimeError (tokenEnv ++ " is not set"))
  else if fingerprint = "" then ofKwargs url token kwargs
  -- `kwargs.setdefault`
  else ofKwargs url token
    { kwargs with fingerprint := some (kwargs.fingerprint.getD (.str fingerprint)) }

/-- `from_datadir`. -/
def fromDatadir (host : Host) (url : String := "http://127.0.0.1:7448")
    (datadir : String := "~/.exfer-walletd") (kwargs : Kwargs := {}) : Except Exc AsyncClient := do
  let datadirPath ← host.expanduser datadir
  let tokenPath := joinPath datadirPath "token"
  let token ← host.readStripped tokenPath
    ("walletd token file not found at " ++ tokenPath ++ " — is walletd running on this host?")
  if token = "" then
    .error (Exc.runtimeError ("walletd token file at " ++ tokenPath ++ " is empty"))
  else if startswith url "https://" && kwargs.fingerprint.isNone then
    let fingerprintPath := joinPath datadirPath "cert.fingerprint"
    let fingerprint ← host.readStripped fingerprintPath
      ("walletd fingerprint file not found at " ++ fingerprintPath ++ " — " ++
        "is walletd running with --tls?")
    if fingerprint = "" then
      .error (Exc.runtimeError ("walletd fingerprint file at " ++ fingerprintPath ++ " is empty"))
    else ofKwargs url token { kwargs with fingerprint := some (.str fingerprint) }
  else ofKwargs url token kwargs

/-! ## 2. Requests -/

/-- `_call`. -/
def call (self : AsyncClient) (method : String) (params : Option Dict)
    (requestTimeout : Option Int := none) : Session Json := do
  let envelope := buildEnvelope method params (← nextId)
  let resp ← try
      self.http.send FingerprintAsyncHTTPTransport.handleAsyncRequest .post (self.url ++ "/")
        [("Authorization", "Bearer " ++ self.token)] (some envelope) requestTimeout
    catch exc => throw (if exc.isHTTPError then wrapHttpxError exc else exc)
  ofExcept (decodeResponse resp)

omit [CharTables] in
/-- `healthz`. -/
def healthz (self : AsyncClient) : Session Ret := do
  let resp ← try
      some <$> self.http.send FingerprintAsyncHTTPTransport.handleAsyncRequest .get
        (self.url ++ "/healthz")
    catch exc => if exc.isHTTPError then pure none else throw exc
  match resp with
  | none => return .value (.bool false)
  | some resp => return .value (.bool (resp.statusCode == 200 && startswith resp.text "ok"))

/-- `ping`. -/
def ping (self : AsyncClient) : Session Ret := (fun _ => Ret.none) <$> self.call "ping" none

/-! ## 3. Read scope -/

/-- `generate_address`. -/
def generateAddress (self : AsyncClient) : Session Ret := do
  let result ← self.call "generate_address" none
  ofExcept do
    let d ← expectKeys "generate_address" ["address", "pubkey"] result
    let address ← subscript d "address"
    let pubkey ← subscript d "pubkey"
    let index ← subscript d "index"
    let index ← letThrough index.toInt
    return .value (.obj [("address", .str address.toStr), ("pubkey", .str pubkey.toStr),
      ("index", .int index)])

/-- `list_addresses`. -/
def listAddresses (self : AsyncClient) : Session Ret := do
  let result ← self.call "list_addresses" none
  ofExcept do
    let d ← expectKeys "list_addresses" ["addresses"] result
    match ← subscript d "addresses" with
    | .arr addresses => return .value (.arr addresses)
    | addresses => throw (Exc.runtimeError ("list_addresses.addresses is not a list: " ++
        addresses.repr))

/-- `get_balance`. -/
def getBalance (self : AsyncClient) (address : Json) : Session Ret := do
  let result ← self.call "get_balance" (some [("address", address)])
  ofExcept do
    let d ← expectKeys "get_balance" ["balance"] result
    let balance ← subscript d "balance"
    return .value (.int (← letThrough balance.toInt))

/-- `get_address_utxos`. -/
def getAddressUtxos (self : AsyncClient) (address : Json) : Session Ret :=
  Ret.value <$> self.call "get_address_utxos" (some [("address", address)])

/-- `get_script_utxos`. -/
def getScriptUtxos (self : AsyncClient) (scriptHex : Json) : Session Ret :=
  Ret.value <$> self.call "get_script_utxos" (some [("script_hex", scriptHex)])

/-- `get_block_height`. -/
def getBlockHeight (self : AsyncClient) : Session Ret := do
  let result ← self.call "get_block_height" none
  ofExcept do
    let d ← expectKeys "get_block_height" ["height"] result
    let height ← subscript d "height"
    return .value (.int (← letThrough height.toInt))

/-- `get_tip`. -/
def getTip (self : AsyncClient) : Session Ret := do
  let result ← self.call "get_block_height" none
  ofExcept do
    let d ← expectKeys "get_tip" ["height", "block_id"] result
    let height ← subscript d "height"
    let height ← letThrough height.toInt
    let blockId ← subscript d "block_id"
    return .tip ⟨height, blockId.toStr⟩

/-- `get_block_by_height`. -/
def getBlockByHeight (self : AsyncClient) (height : Json) : Session Ret :=
  Ret.value <$> self.call "get_block" (some [("height", height)])

/-- `get_block_by_hash`. -/
def getBlockByHash (self : AsyncClient) (blockHash : Json) : Session Ret :=
  Ret.value <$> self.call "get_block" (some [("hash", blockHash)])

/-- `get_transaction`. -/
def getTransaction (self : AsyncClient) (txId : Json) : Session Ret :=
  Ret.value <$> self.call "get_transaction" (some [("hash", txId)])

/-- `quote_verify`. -/
def quoteVerify (self : AsyncClient) (quote : Json) : Session Ret :=
  Ret.value <$> self.call "quote_verify" (some [("quote", quote)])

/-! ## 4. Spend scope -/

/-- `transfer`. -/
def transfer (self : AsyncClient) (from_ to_ amount fee datum : Json) : Session Ret :=
  let params : Dict := [("from", from_),
    ("outputs", .arr [.obj [("to", to_), ("amount", amount)]])]
  let params := setOpt params "fee" fee
  let params := setOpt params "datum" datum
  Ret.value <$> self.call "transfer" (some params)

/-- `send_raw_transaction`. -/
def sendRawTransaction (self : AsyncClient) (txHex : Json) : Session Ret := do
  let result ← self.call "send_raw_transaction" (some [("tx_hex", txHex)])
  ofExcept do
    let d ← expectKeys "send_raw_transaction" ["tx_id"] result
    let txId ← subscript d "tx_id"
    return .value (.str txId.toStr)

/-- `htlc_lock`. -/
def htlcLock (self : AsyncClient)
    (from_ receiver hashLock timeout amount fee feeRate maxFee : Json) : Session Ret := do
  let params ← ofExcept
    (htlcLockParams from_ receiver hashLock timeout amount fee feeRate maxFee)
  Ret.value <$> self.call "htlc_lock" (some params)

/-- `htlc_claim`. -/
def htlcClaim (self : AsyncClient)
    (from_ lockTxId preimage sender timeout outputIndex fee : Json) : Session Ret :=
  let params : Dict := [("from", from_), ("lock_tx_id", lockTxId),
    ("output_index", outputIndex), ("preimage", preimage), ("sender", sender),
    ("timeout", timeout)]
  let params := setOpt params "fee" fee
  Ret.value <$> self.call "htlc_claim" (some params)

/-- `htlc_reclaim`. -/
def htlcReclaim (self : AsyncClient)
    (from_ lockTxId receiver hashLock timeout outputIndex fee : Json) : Session Ret :=
  let params : Dict := [("from", from_), ("lock_tx_id", lockTxId),
    ("output_index", outputIndex), ("receiver", receiver), ("hash_lock", hashLock),
    ("timeout", timeout)]
  let params := setOpt params "fee" fee
  Ret.value <$> self.call "htlc_reclaim" (some params)

/-- `quote_issue`. -/
def quoteIssue (self : AsyncClient) (address payeePubkey currency amountMinor rateExfersPerUnit
    exferAmount ttlSecs payerPubkey memo quoteId : Json) : Session Ret :=
  let params : Dict := [("address", address), ("payee_pubkey", payeePubkey),
    ("currency", currency), ("amount_minor", amountMinor),
    ("rate_exfers_per_unit", rateExfersPerUnit), ("exfer_amount", exferAmount),
    ("ttl_secs", ttlSecs)]
  let params := setOpt params "payer_pubkey" payerPubkey
  let params := setOpt params "memo" memo
  let params := setOpt params "quote_id" quoteId
  Ret.value <$> self.call "quote_issue" (some params)

/-! ## 5. Dry runs and payment URIs -/

/-- `simulate_transfer`. -/
def simulateTransfer (self : AsyncClient) (from_ : Json) (outputs : List Json)
    (fee feeRate maxFee datum : Json) : Session Ret := do
  let params ← ofExcept (simulateTransferParams from_ outputs fee feeRate maxFee datum)
  Ret.value <$> self.call "simulate_transfer" (some params)

/-- `simulate_htlc_lock`. -/
def simulateHtlcLock (self : AsyncClient)
    (from_ receiver hashLock timeout amount fee feeRate maxFee : Json) : Session Ret := do
  let params ← ofExcept
    (htlcLockParams from_ receiver hashLock timeout amount fee feeRate maxFee)
  Ret.value <$> self.call "simulate_htlc_lock" (some params)

/-- `payment_uri_encode`. -/
def paymentUriEncode (self : AsyncClient)
    (address amount memo hashLock timeout label : Json) : Session Ret := do
  let params := paymentUriParams address amount memo hashLock timeout label
  let result ← self.call "payment_uri_encode" (some params)
  ofExcept do
    let d ← expectKeys "payment_uri_encode" ["uri"] result
    let uri ← subscript d "uri"
    return .value (.str uri.toStr)

/-- `payment_uri_decode`. -/
def paymentUriDecode (self : AsyncClient) (uri : Json) : Session Ret :=
  Ret.value <$> self.call "payment_uri_decode" (some [("uri", uri)])

/-! ## 6. HTLC observability -/

/-- `htlc_status`. -/
def htlcStatus (self : AsyncClient) (lockTxId outputIndex : Json) : Session Ret :=
  Ret.value <$> self.call "htlc_status"
    (some [("lock_tx_id", lockTxId), ("output_index", outputIndex)])

/-- `htlc_list`. -/
def htlcList (self : AsyncClient) (role state sinceHeight address limit cursor : Json) :
    Session Ret :=
  Ret.value <$> self.call "htlc_list"
    (some (htlcListParams role state sinceHeight address limit cursor))

/-- `htlc_forget`. -/
def htlcForget (self : AsyncClient) (lockTxId outputIndex : Json) : Session Ret := do
  let result ← self.call "htlc_forget"
    (some [("lock_tx_id", lockTxId), ("output_index", outputIndex)])
  ofExcept do
    let d ← expectKeys "htlc_forget" ["removed"] result
    let removed ← subscript d "removed"
    return .value (.bool removed.truthy)

/-- `get_follower_status`. -/
def getFollowerStatus (self : AsyncClient) : Session Ret :=
  Ret.value <$> self.call "get_follower_status" none

/-- `wait_for_tx`. -/
def waitForTx (self : AsyncClient) (txId minConfirmations : Json) (timeoutSecs : Int) :
    Session Ret :=
  Ret.value <$> self.call "wait_for_tx" (some [("tx_id", txId),
    ("min_confirmations", minConfirmations), ("timeout_secs", .int timeoutSecs)])
    (some (timeoutSecs + 15))

/-- `wait_for_payment`. -/
def waitForPayment (self : AsyncClient) (address minAmount : Json) (timeoutSecs : Int) :
    Session Ret :=
  Ret.value <$> self.call "wait_for_payment" (some [("address", address),
    ("min_amount", minAmount), ("timeout_secs", .int timeoutSecs)])
    (some (timeoutSecs + 15))

/-! ## 7. Queries delegated to the indexer -/

/-- `list_settlements`. -/
def listSettlements (self : AsyncClient) (address contractHash sinceHeight limit cursor : Json) :
    Session Ret :=
  Ret.value <$> self.call "list_settlements"
    (some (addrPaginatedParams address contractHash sinceHeight limit cursor))

/-- `contract_stats`. -/
def contractStats (self : AsyncClient) (address contractHash : Json) : Session Ret := do
  let params : Dict := [("address", address)]
  let params := setOpt params "contract_hash" contractHash
  let result ← self.call "contract_stats" (some params)
  ofExcept do
    let d ← expectKeys "contract_stats" ["stats"] result
    return .value (← subscript d "stats")

/-- `get_address_history`. -/
def getAddressHistory (self : AsyncClient) (address sinceHeight limit cursor : Json) :
    Session Ret :=
  Ret.value <$> self.call "get_address_history"
    (some (addrPaginatedParams address .null sinceHeight limit cursor))

/-- `sign_message`. -/
def signMessage (self : AsyncClient) (address message : Json) : Session Ret :=
  Ret.value <$> self.call "sign_message" (some [("address", address), ("message", message)])

/-- `verify_message`. -/
def verifyMessage (self : AsyncClient) (pubkey signature message address : Json) : Session Ret :=
  let params : Dict := [("pubkey", pubkey), ("signature", signature), ("message", message)]
  let params := setOpt params "address" address
  Ret.value <$> self.call "verify_message" (some params)

/-- `get_attestation_edges`. -/
def getAttestationEdges (self : AsyncClient) (address contractHash : Json) : Session Ret :=
  let params : Dict := [("address", address)]
  let params := setOpt params "contract_hash" contractHash
  Ret.value <$> self.call "get_attestation_edges" (some params)

/-- `detect_in_chain_swaps`. -/
def detectInChainSwaps (self : AsyncClient) (hashLock limit : Json) : Session Ret :=
  let params : Dict := []
  let params := setOpt params "hash_lock" hashLock
  let params := setOpt params "limit" limit
  Ret.value <$> self.call "detect_in_chain_swaps" (some params)

/-! ## 8. Swaps -/

/-- `bsc_get_address`. -/
def bscGetAddress (self : AsyncClient) : Session Ret :=
  Ret.value <$> self.call "bsc_get_address" none

/-- `bsc_get_balances`. -/
def bscGetBalances (self : AsyncClient) : Session Ret :=
  Ret.value <$> self.call "bsc_get_balances" none

/-- `swap_pool_info`. -/
def swapPoolInfo (self : AsyncClient) : Session Ret :=
  Ret.value <$> self.call "swap_pool_info" none

/-- `swap_get_quote`, with its `flow`. -/
def swapGetQuote (self : AsyncClient) (direction amountIn from_ flow : Json) : Session Ret :=
  let params : Dict := [("direction", direction), ("amount_in", amountIn), ("from", from_)]
  let params := setOpt params "flow" flow
  Ret.value <$> self.call "swap_get_quote" (some params)

/-- `swap_execute`. -/
def swapExecute (self : AsyncClient) (swapId : Json) : Session Ret :=
  Ret.value <$> self.call "swap_execute" (some [("swap_id", swapId)])

/-- `swap_status`. -/
def swapStatus (self : AsyncClient) (swapId : Json) : Session Ret :=
  Ret.value <$> self.call "swap_status" (some [("swap_id", swapId)])

/-- `swap_refund`. -/
def swapRefund (self : AsyncClient) (swapId : Json) : Session Ret :=
  Ret.value <$> self.call "swap_refund" (some [("swap_id", swapId)])

/-- `swap_list`. -/
def swapList (self : AsyncClient) : Session Ret :=
  Ret.value <$> self.call "swap_list" none

/-- `htlc_lookup_by_hashlock`. -/
def htlcLookupByHashlock (self : AsyncClient) (hashLock : Json) : Session Ret := do
  let result ← self.call "htlc_lookup_by_hashlock" (some [("hash_lock", hashLock)])
  ofExcept do
    let d ← expectKeys "htlc_lookup_by_hashlock" ["htlcs"] result
    return .value (← subscript d "htlcs")

/-- `get_output_spent_by`. -/
def getOutputSpentBy (self : AsyncClient) (txId outputIndex : Json) : Session Ret :=
  Ret.value <$> self.call "get_output_spent_by"
    (some [("tx_id", txId), ("output_index", outputIndex)])

/-- `get_output_datum`. -/
def getOutputDatum (self : AsyncClient) (txId outputIndex : Json) : Session Ret :=
  Ret.value <$> self.call "get_output_datum"
    (some [("tx_id", txId), ("output_index", outputIndex)])

/-- `find_settlements_by_quote_id`. -/
def findSettlementsByQuoteId (self : AsyncClient) (quoteId : Json) : Session Ret :=
  Ret.value <$> self.call "find_settlements_by_quote_id" (some [("quote_id", quoteId)])

/-! ## 9. Calling a method -/

/-- A call whose signature the other class has too. -/
def invokeShared (self : AsyncClient) : SharedCall → Session Ret
  | .healthz => self.healthz
  | .ping => self.ping
  | .generateAddress => self.generateAddress
  | .listAddresses => self.listAddresses
  | .getBalance address => self.getBalance address
  | .getAddressUtxos address => self.getAddressUtxos address
  | .getScriptUtxos scriptHex => self.getScriptUtxos scriptHex
  | .getBlockHeight => self.getBlockHeight
  | .getTip => self.getTip
  | .getBlockByHeight height => self.getBlockByHeight height
  | .getBlockByHash blockHash => self.getBlockByHash blockHash
  | .getTransaction txId => self.getTransaction txId
  | .quoteVerify quote => self.quoteVerify quote
  | .transfer from_ to_ amount fee datum => self.transfer from_ to_ amount fee datum
  | .sendRawTransaction txHex => self.sendRawTransaction txHex
  | .htlcLock from_ receiver hashLock timeout amount fee feeRate maxFee =>
    self.htlcLock from_ receiver hashLock timeout amount fee feeRate maxFee
  | .htlcClaim from_ lockTxId preimage sender timeout outputIndex fee =>
    self.htlcClaim from_ lockTxId preimage sender timeout outputIndex fee
  | .htlcReclaim from_ lockTxId receiver hashLock timeout outputIndex fee =>
    self.htlcReclaim from_ lockTxId receiver hashLock timeout outputIndex fee
  | .quoteIssue address payeePubkey currency amountMinor rateExfersPerUnit exferAmount ttlSecs
      payerPubkey memo quoteId =>
    self.quoteIssue address payeePubkey currency amountMinor rateExfersPerUnit exferAmount ttlSecs
      payerPubkey memo quoteId
  | .simulateTransfer from_ outputs fee feeRate maxFee datum =>
    self.simulateTransfer from_ outputs fee feeRate maxFee datum
  | .simulateHtlcLock from_ receiver hashLock timeout amount fee feeRate maxFee =>
    self.simulateHtlcLock from_ receiver hashLock timeout amount fee feeRate maxFee
  | .paymentUriEncode address amount memo hashLock timeout label =>
    self.paymentUriEncode address amount memo hashLock timeout label
  | .paymentUriDecode uri => self.paymentUriDecode uri
  | .htlcStatus lockTxId outputIndex => self.htlcStatus lockTxId outputIndex
  | .htlcList role state sinceHeight address limit cursor =>
    self.htlcList role state sinceHeight address limit cursor
  | .htlcForget lockTxId outputIndex => self.htlcForget lockTxId outputIndex
  | .getFollowerStatus => self.getFollowerStatus
  | .waitForTx txId minConfirmations timeoutSecs =>
    self.waitForTx txId minConfirmations timeoutSecs
  | .waitForPayment address minAmount timeoutSecs =>
    self.waitForPayment address minAmount timeoutSecs
  | .listSettlements address contractHash sinceHeight limit cursor =>
    self.listSettlements address contractHash sinceHeight limit cursor
  | .contractStats address contractHash => self.contractStats address contractHash
  | .getAddressHistory address sinceHeight limit cursor =>
    self.getAddressHistory address sinceHeight limit cursor
  | .signMessage address message => self.signMessage address message
  | .verifyMessage pubkey signature message address =>
    self.verifyMessage pubkey signature message address
  | .getAttestationEdges address contractHash => self.getAttestationEdges address contractHash
  | .detectInChainSwaps hashLock limit => self.detectInChainSwaps hashLock limit
  | .bscGetAddress => self.bscGetAddress
  | .bscGetBalances => self.bscGetBalances
  | .swapPoolInfo => self.swapPoolInfo
  | .swapExecute swapId => self.swapExecute swapId
  | .swapStatus swapId => self.swapStatus swapId
  | .swapRefund swapId => self.swapRefund swapId
  | .swapList => self.swapList
  | .htlcLookupByHashlock hashLock => self.htlcLookupByHashlock hashLock
  | .getOutputSpentBy txId outputIndex => self.getOutputSpentBy txId outputIndex
  | .getOutputDatum txId outputIndex => self.getOutputDatum txId outputIndex
  | .findSettlementsByQuoteId quoteId => self.findSettlementsByQuoteId quoteId

/-- A call on this class. -/
def invoke (self : AsyncClient) : AsyncClient.Call → Session Ret
  | .shared c => self.invokeShared c
  | .swapGetQuote direction amountIn from_ flow =>
    self.swapGetQuote direction amountIn from_ flow

end

end AsyncClient

end Exfer
