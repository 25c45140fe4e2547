/-
# The parameter objects lose and invent nothing

* `decodeShared` reads a call back from its method and parameters, an absent key as `None`.  It
  is a left inverse of the encoders (`decodeShared_plan`), one for all of them, so it separates
  the methods from one another as well as the arguments of each.
* `encoding_faithful` says it of what a client sends: a call that is not refused sends its
  parameters, every argument is there unchanged, a missing optional one is not, nothing else is,
  and the call can be read back.  Only `get_block_height` and `get_tip` are one request.
-/
import Exfer.Mirror

namespace Exfer

open Py

/-! ## 1. Reading a call back -/

/-- The call of a method whose parameters are read with `get`.  The two calls of `get_block` are
told apart by whether there is a height. -/
def readCall (method : String) (get : String → Json) (hasHeight : Bool) : Option SharedCall :=
  match method with
  | "ping" => some .ping
  | "generate_address" => some .generateAddress
  | "list_addresses" => some .listAddresses
  | "get_balance" => some (.getBalance (get "address"))
  | "get_address_utxos" => some (.getAddressUtxos (get "address"))
  | "get_script_utxos" => some (.getScriptUtxos (get "script_hex"))
  | "get_block_height" => some .getBlockHeight
  | "get_block" =>
    if hasHeight then some (.getBlockByHeight (get "height"))
    else some (.getBlockByHash (get "hash"))
  | "get_transaction" => some (.getTransaction (get "hash"))
  | "quote_verify" => some (.quoteVerify (get "quote"))
  | "transfer" =>
    match get "outputs" with
    | .arr [.obj output] => some (.transfer (get "from") (dictGet output "to")
        (dictGet output "amount") (get "fee") (get "datum"))
    | _ => none
  | "send_raw_transaction" => some (.sendRawTransaction (get "tx_hex"))
  | "htlc_lock" => some (.htlcLock (get "from") (get "receiver") (get "hash_lock")
      (get "timeout") (get "amount") (get "fee") (get "fee_rate") (get "max_fee"))
  | "htlc_claim" => some (.htlcClaim (get "from") (get "lock_tx_id") (get "preimage")
      (get "sender") (get "timeout") (get "output_index") (get "fee"))
  | "htlc_reclaim" => some (.htlcReclaim (get "from") (get "lock_tx_id") (get "receiver")
      (get "hash_lock") (get "timeout") (get "output_index") (get "fee"))
  | "quote_issue" => some (.quoteIssue (get "address") (get "payee_pubkey") (get "currency")
      (get "amount_minor") (get "rate_exfers_per_unit") (get "exfer_amount") (get "ttl_secs")
      (get "payer_pubkey") (get "memo") (get "quote_id"))
  | "simulate_transfer" =>
    match get "outputs" with
    | .arr outputs => some (.simulateTransfer (get "from") outputs (get "fee") (get "fee_rate")
        (get "max_fee") (get "datum"))
    | _ => none
  | "simulate_htlc_lock" => some (.simulateHtlcLock (get "from") (get "receiver")
      (get "hash_lock") (get "timeout") (get "amount") (get "fee") (get "fee_rate")
      (get "max_fee"))
  | "payment_uri_encode" => some (.paymentUriEncode (get "address") (get "amount") (get "memo")
      (get "hash_lock") (get "timeout") (get "label"))
  | "payment_uri_decode" => some (.paymentUriDecode (get "uri"))
  | "htlc_status" => some (.htlcStatus (get "lock_tx_id") (get "output_index"))
  | "htlc_list" => some (.htlcList (get "role") (get "state") (get "since_height")
      (get "address") (get "limit") (get "cursor"))
  | "htlc_forget" => some (.htlcForget (get "lock_tx_id") (get "output_index"))
  | "get_follower_status" => some .getFollowerStatus
  | "wait_for_tx" =>
    match get "timeout_secs" with
    | .int timeoutSecs => some (.waitForTx (get "tx_id") (get "min_confirmations") timeoutSecs)
    | _ => none
  | "wait_for_payment" =>
    match get "timeout_secs" with
    | .int timeoutSecs => some (.waitForPayment (get "address") (get "min_amount") timeoutSecs)
    | _ => none
  | "list_settlements" => some (.listSettlements (get "address") (get "contract_hash")
      (get "since_height") (get "limit") (get "cursor"))
  | "contract_stats" => some (.contractStats (get "address") (get "contract_hash"))
  | "get_address_history" => some (.getAddressHistory (get "address") (get "since_height")
      (get "limit") (get "cursor"))
  | "sign_message" => some (.signMessage (get "address") (get "message"))
  | "verify_message" => some (.verifyMessage (get "pubkey") (get "signature") (get "message")
      (get "address"))
  | "get_attestation_edges" => some (.getAttestationEdges (get "address") (get "contract_hash"))
  | "detect_in_chain_swaps" => some (.detectInChainSwaps (get "hash_lock") (get "limit"))
  | "bsc_get_address" => some .bscGetAddress
  | "bsc_get_balances" => some .bscGetBalances
  | "swap_pool_info" => some .swapPoolInfo
  | "swap_execute" => some (.swapExecute (get "swap_id"))
  | "swap_status" => some (.swapStatus (get "swap_id"))
  | "swap_refund" => some (.swapRefund (get "swap_id"))
  | "swap_list" => some .swapList
  | "htlc_lookup_by_hashlock" => some (.htlcLookupByHashlock (get "hash_lock"))
  | "get_output_spent_by" => some (.getOutputSpentBy (get "tx_id") (get "output_index"))
  | "get_output_datum" => some (.getOutputDatum (get "tx_id") (get "output_index"))
  | "find_settlements_by_quote_id" => some (.findSettlementsByQuoteId (get "quote_id"))
  | _ => none

/-- The call that a method and a parameter object stand for. -/
def decodeShared (method : String) (d : Dict) : Option SharedCall :=
  readCall method (fun k => dictGet d k) (d.lookup "height").isSome

/-- The call a request is read as: `get_tip` sends what `get_block_height` sends. -/
def SharedCall.canonical : SharedCall → SharedCall
  | .getTip => .getBlockHeight
  | c => c

/-- **Every shared call can be read back.** -/
theorem decodeShared_plan {c : SharedCall} {method : String} {args : Named}
    {timeout : Option Int} (h : c.plan = .rpc method args timeout) :
    decodeShared method args.encode = some c.canonical := by
  have hget : (fun k => dictGet args.encode k) = fun k => dictGet args.args k :=
    funext (Named.dictGet_encode args)
  rw [decodeShared, hget]
  cases c with
  | healthz => cases h
  | htlcLock _ _ _ _ _ _ _ _ | simulateTransfer _ _ _ _ _ _ | simulateHtlcLock _ _ _ _ _ _ _ _ =>
    simp only [SharedCall.plan, Plan.feeAware] at h
    split at h
    · cases h
    · cases h
      rfl
  | _ =>
    cases h
    rfl

/-- The reading depends on what the keys hold, and not on their order. -/
theorem decodeShared_congr {d d' : Dict} (h : ∀ k, d.lookup k = d'.lookup k) (method : String) :
    decodeShared method d = decodeShared method d' := by
  unfold decodeShared dictGet
  simp only [h]

theorem SharedCall.canonical_of_ne_tip {c : SharedCall} (h : c ≠ .getTip) : c.canonical = c := by
  cases c with
  | getTip => exact absurd rfl h
  | _ => rfl

/-- **Only `get_tip` and `get_block_height` are read alike.** -/
theorem SharedCall.canonical_inj {c c' : SharedCall} (h : c.canonical = c'.canonical) :
    c = c' ∨ (c = .getTip ∧ c' = .getBlockHeight) ∨ (c = .getBlockHeight ∧ c' = .getTip) := by
  by_cases hc : c = .getTip
  · by_cases hc' : c' = .getTip
    · exact Or.inl (hc.trans hc'.symm)
    · rw [canonical_of_ne_tip hc', hc] at h
      exact Or.inr (Or.inl ⟨hc, h.symm⟩)
  · by_cases hc' : c' = .getTip
    · rw [canonical_of_ne_tip hc, hc'] at h
      exact Or.inr (Or.inr ⟨h, hc'⟩)
    · rw [canonical_of_ne_tip hc, canonical_of_ne_tip hc'] at h
      exact Or.inl h

/-- The call on a `Client` that a request stands for. -/
def decodeClient (method : String) (d : Dict) : Option Client.Call :=
  if method = "swap_get_quote" then
    some (.swapGetQuote (dictGet d "direction") (dictGet d "amount_in") (dictGet d "from"))
  else (decodeShared method d).map .shared

/-- The call on an `AsyncClient` that a request stands for. -/
def decodeAsyncClient (method : String) (d : Dict) : Option AsyncClient.Call :=
  if method = "swap_get_quote" then
    some (.swapGetQuote (dictGet d "direction") (dictGet d "amount_in") (dictGet d "from")
      (dictGet d "flow"))
  else (decodeShared method d).map .shared

def Client.Call.canonical : Client.Call → Client.Call
  | .shared c => .shared c.canonical
  | c => c

def AsyncClient.Call.canonical : AsyncClient.Call → AsyncClient.Call
  | .shared c => .shared c.canonical
  | c => c

theorem decodeClient_plan {c : Client.Call} {method : String} {args : Named}
    {timeout : Option Int} (h : c.plan = .rpc method args timeout) :
    decodeClient method args.encode = some c.canonical := by
  cases c with
  | shared c =>
    have hne : method ≠ "swap_get_quote" := by
      rintro rfl
      exact c.plan_ne_swapGetQuote args timeout h
    rw [decodeClient, if_neg hne, decodeShared_plan h]
    rfl
  | swapGetQuote direction amountIn from_ =>
    cases h
    rfl

theorem decodeAsyncClient_plan {c : AsyncClient.Call} {method : String} {args : Named}
    {timeout : Option Int} (h : c.plan = .rpc method args timeout) :
    decodeAsyncClient method args.encode = some c.canonical := by
  cases c with
  | shared c =>
    have hne : method ≠ "swap_get_quote" := by
      rintro rfl
      exact c.plan_ne_swapGetQuote args timeout h
    rw [decodeAsyncClient, if_neg hne, decodeShared_plan h]
    rfl
  | swapGetQuote direction amountIn from_ flow =>
    simp only [decodeAsyncClient, Named.dictGet_encode]
    cases h
    rfl

theorem decodeClient_congr (d d' : Dict) (h : ∀ k, d.lookup k = d'.lookup k) (method : String) :
    decodeClient method d = decodeClient method d' := by
  simp only [decodeClient, dictGet, h, decodeShared_congr h]

theorem decodeAsyncClient_congr (d d' : Dict) (h : ∀ k, d.lookup k = d'.lookup k)
    (method : String) : decodeAsyncClient method d = decodeAsyncClient method d' := by
  simp only [decodeAsyncClient, dictGet, h, decodeShared_congr h]

/-! ## 2. What a client sends -/

/-- What the calls of a family say about their arguments on the wire. -/
structure FaithfulEncoding {κ : Type} (plan : κ → Plan) (prog : κ → Program)
    (decode : String → Dict → Option κ) (canonical : κ → κ) : Prop where
  /-- A call that is not refused sends its method with its parameters, in any state. -/
  sends : ∀ c method args timeout, plan c = .rpc method args timeout → ∀ id,
    ∃ r, ((prog c).advance id).2.request = some r ∧ r.method? = some method ∧
      r.params? = some args.encode
  /-- The parameters are the named arguments: the required ones unchanged, the optional ones
  unchanged when they are not `None` and absent when they are, and nothing else. -/
  arguments : ∀ c method params, Sends prog c method params →
    ∃ args timeout, plan c = .rpc method args timeout ∧
      (∀ k v, (k, v) ∈ args.required → params.lookup k = some v) ∧
      (∀ k v, (k, v) ∈ args.optional → params.lookup k = if v.isNone then none else some v) ∧
      ∀ k, k ∉ args.args.map Prod.fst → params.lookup k = none
  /-- The call can be read back. -/
  decodes : ∀ c method params, Sends prog c method params →
    decode method params = some (canonical c)
  /-- So two calls that send the same are the same, as far as they can be told apart. -/
  injective : ∀ c c' method params params', Sends prog c method params →
    Sends prog c' method params' → (∀ k, params.lookup k = params'.lookup k) →
    canonical c = canonical c'

section

variable [CharTables]

theorem Performs.faithfulEncoding {κ : Type} {E : Endpoint} {plan : κ → Plan}
    {prog : κ → Program} {decode : String → Dict → Option κ} {canonical : κ → κ}
    (h : Performs E plan prog)
    (hdecode : ∀ c method args timeout, plan c = .rpc method args timeout →
      decode method args.encode = some (canonical c))
    (hcongr : ∀ d d' : Dict, (∀ k, d.lookup k = d'.lookup k) → ∀ method,
      decode method d = decode method d') :
    FaithfulEncoding plan prog decode canonical := by
  have hdecodes : ∀ c method params, Sends prog c method params →
      decode method params = some (canonical c) := by
    intro c method params hsends
    obtain ⟨args, timeout, hplan, rfl⟩ := h.sends_iff.mp hsends
    exact hdecode c method args timeout hplan
  constructor
  case sends => exact fun c method args timeout hplan id => h.sends hplan id
  case arguments =>
    intro c method params hsends
    obtain ⟨args, timeout, hplan, rfl⟩ := h.sends_iff.mp hsends
    exact ⟨args, timeout, hplan, fun _ _ => Named.lookup_required,
      fun _ _ => Named.lookup_optional, fun _ => Named.lookup_other⟩
  case decodes => exact hdecodes
  case injective =>
    intro c c' method params params' hsends hsends' hsame
    have hc := hdecodes c method params hsends
    rw [hcongr params params' hsame, hdecodes c' method params' hsends'] at hc
    exact (Option.some.inj hc).symm

/-- **The encoding is faithful**, on either class, and only the two calls that read the height
of the chain are one request. -/
theorem encoding_faithful :
    (∀ self : Client, FaithfulEncoding Client.Call.plan self.program decodeClient
      Client.Call.canonical) ∧
    (∀ self : AsyncClient, FaithfulEncoding AsyncClient.Call.plan self.program
      decodeAsyncClient AsyncClient.Call.canonical) ∧
    (∀ c c' : Client.Call, c.canonical = c'.canonical → c = c' ∨
      (c = .shared .getTip ∧ c' = .shared .getBlockHeight) ∨
      (c = .shared .getBlockHeight ∧ c' = .shared .getTip)) ∧
    (∀ c c' : AsyncClient.Call, c.canonical = c'.canonical → c = c' ∨
      (c = .shared .getTip ∧ c' = .shared .getBlockHeight) ∨
      (c = .shared .getBlockHeight ∧ c' = .shared .getTip)) := by
  refine ⟨?_, ?_, ?_, ?_⟩
  · exact fun self => self.performs.faithfulEncoding (fun _ _ _ _ => decodeClient_plan)
      decodeClient_congr
  · exact fun self => self.performs.faithfulEncoding (fun _ _ _ _ => decodeAsyncClient_plan)
      decodeAsyncClient_congr
  · intro c c' h
    cases c <;> cases c' <;> simp only [Client.Call.canonical] at h
    · rcases SharedCall.canonical_inj (Client.Call.shared.inj h) with rfl | ⟨rfl, rfl⟩ | ⟨rfl, rfl⟩
      all_goals simp
    · cases h
    · cases h
    · exact Or.inl h
  · intro c c' h
    cases c <;> cases c' <;> simp only [AsyncClient.Call.canonical] at h
    · rcases SharedCall.canonical_inj (AsyncClient.Call.shared.inj h) with
        rfl | ⟨rfl, rfl⟩ | ⟨rfl, rfl⟩
      all_goals simp
    · cases h
    · cases h
    · exact Or.inl h

end

end Exfer
