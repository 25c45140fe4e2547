/-
# Method calls

What a caller writes: one constructor for each method, with an argument for each parameter of
its signature.  The two classes have the same methods, and the same signatures but for one.

* `SharedCall` is the calls whose signature both classes have.
* `Client.Call` and `AsyncClient.Call` add `swap_get_quote`, which only `AsyncClient` gives a
  `flow`.
* `kind` sorts the calls by what they do before anything is sent.

A parameter the code only forwards is any JSON value, with `None` as `Json.null`.
`timeout_secs` is an integer, since the code adds to it, and `outputs` is a list, since the code
copies it.  An argument with a default is written out.
-/
import Exfer.Params

namespace Exfer

open Py

/-- A call that `Client` and `AsyncClient` both accept. -/
inductive SharedCall where
  | healthz
  | ping
  | generateAddress
  | listAddresses
  | getBalance (address : Json)
  | getAddressUtxos (address : Json)
  | getScriptUtxos (scriptHex : Json)
  | getBlockHeight
  | getTip
  | getBlockByHeight (height : Json)
  | getBlockByHash (blockHash : Json)
  | getTransaction (txId : Json)
  | quoteVerify (quote : Json)
  | transfer (from_ to_ amount fee datum : Json)
  | sendRawTransaction (txHex : Json)
  | htlcLock (from_ receiver hashLock timeout amount fee feeRate maxFee : Json)
  | htlcClaim (from_ lockTxId preimage sender timeout outputIndex fee : Json)
  | htlcReclaim (from_ lockTxId receiver hashLock timeout outputIndex fee : Json)
  | quoteIssue (address payeePubkey currency amountMinor rateExfersPerUnit exferAmount ttlSecs
      payerPubkey memo quoteId : Json)
  | simulateTransfer (from_ : Json) (outputs : List Json) (fee feeRate maxFee datum : Json)
  | simulateHtlcLock (from_ receiver hashLock timeout amount fee feeRate maxFee : Json)
  | paymentUriEncode (address amount memo hashLock timeout label : Json)
  | paymentUriDecode (uri : Json)
  | htlcStatus (lockTxId outputIndex : Json)
  | htlcList (role state sinceHeight address limit cursor : Json)
  | htlcForget (lockTxId outputIndex : Json)
  | getFollowerStatus
  | waitForTx (txId minConfirmations : Json) (timeoutSecs : Int)
  | waitForPayment (address minAmount : Json) (timeoutSecs : Int)
  | listSettlements (address contractHash sinceHeight limit cursor : Json)
  | contractStats (address contractHash : Json)
  | getAddressHistory (address sinceHeight limit cursor : Json)
  | signMessage (address message : Json)
  | verifyMessage (pubkey signature message address : Json)
  | getAttestationEdges (address contractHash : Json)
  | detectInChainSwaps (hashLock limit : Json)
  | bscGetAddress
  | bscGetBalances
  | swapPoolInfo
  | swapExecute (swapId : Json)
  | swapStatus (swapId : Json)
  | swapRefund (swapId : Json)
  | swapList
  | htlcLookupByHashlock (hashLock : Json)
  | getOutputSpentBy (txId outputIndex : Json)
  | getOutputDatum (txId outputIndex : Json)
  | findSettlementsByQuoteId (quoteId : Json)

/-- A call on a `Client`. -/
inductive Client.Call where
  | shared (c : SharedCall)
  | swapGetQuote (direction amountIn from_ : Json)

/-- A call on an `AsyncClient`. -/
inductive AsyncClient.Call where
  | shared (c : SharedCall)
  | swapGetQuote (direction amountIn from_ flow : Json)

/-- The same call on the other class: `flow` takes its default. -/
def Client.Call.toAsync : Client.Call → AsyncClient.Call
  | .shared c => .shared c
  | .swapGetQuote direction amountIn from_ => .swapGetQuote direction amountIn from_ .null

/-- What kind of work a call is: the unauthenticated probe, a call its local check refuses, or
a JSON-RPC call. -/
inductive CallKind where
  | probe
  | refused
  | rpc
  deriving DecidableEq

/-- The only local check of any method is that of the two fees. -/
def SharedCall.kind : SharedCall → CallKind
  | .healthz => .probe
  | .htlcLock _ _ _ _ _ fee feeRate _ | .simulateHtlcLock _ _ _ _ _ fee feeRate _
  | .simulateTransfer _ _ fee feeRate _ _ => if BothFees fee feeRate then .refused else .rpc
  | _ => .rpc

def Client.Call.kind : Client.Call → CallKind
  | .shared c => c.kind
  | .swapGetQuote .. => .rpc

def AsyncClient.Call.kind : AsyncClient.Call → CallKind
  | .shared c => c.kind
  | .swapGetQuote .. => .rpc

end Exfer
