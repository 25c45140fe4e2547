/-
# What a failed call leaves open

A `TransportError` says of a call that there is no answer to act on.  It does not say what walletd
has done.

* `retry_ambiguous`: calls that are made one after the other, and whose exchanges all fail, look
  the same to the client whichever of them walletd has carried out.  Nothing is ruled out: any
  part of them may be.
* `mismatch_carried_out`: a peer that shows another certificate than the pinned one, and passes on
  what it is sent, has the calls carried out, each of which raises `FingerprintMismatchError`.
-/
import Exfer.Service

namespace Exfer

open Py

/-! ## 1. What a request does to walletd -/

section State

variable {δ : Type} (W : Walletd δ) {E : Endpoint}

/-- What a request does to walletd is what the call does, whoever reads the answer. -/
theorem Walletd.perform_state (unwrap : Json → Except Exc Ret) (d : δ) {p : Plan} {id : Nat}
    {r : HttpRequest} (hr : p.request E id = some r) :
    (W.serve d r).1 = (W.perform E.token unwrap d p).1 := by
  cases p with
  | reject e => cases hr
  | probe =>
    cases hr
    rfl
  | rpc method args timeout =>
    cases hr
    rw [Walletd.serve_post, Walletd.perform]
    split <;> rfl

/-- What requests do one after the other is what their calls do. -/
theorem Walletd.performAll_state {κ : Type} {E : κ → Endpoint} (unwrap : κ → Json → Except Exc Ret)
    (plan : κ → Plan) (cs : List κ) (exchanges : List (Nat × HttpRequest × Response)) (d : δ)
    (hreq : ∀ p ∈ exchanges, ∃ c id, cs[p.1]? = some c ∧ (plan c).request (E c) id = some p.2.1) :
    (serveAll W.serve d (exchanges.map fun p => p.2.1)).1
      = (W.performAll (fun c => (E c).token) unwrap plan d
          ((exchanges.map Prod.fst).filterMap (cs[·]?))).1 := by
  induction exchanges generalizing d with
  | nil => rfl
  | cons p exchanges ih =>
    obtain ⟨c, id, hc, hr⟩ := hreq p List.mem_cons_self
    have hrest := ih (W.serve d p.2.1).1 fun q hq => hreq q (List.mem_cons_of_mem _ hq)
    rw [W.perform_state (unwrap c) d hr] at hrest
    simp only [List.map_cons, List.filterMap_cons, hc, serveAll, Walletd.performAll]
    rw [W.perform_state (unwrap c) d hr, hrest]

end State

/-! ## 2. Calls that fail one after the other -/

/-- After the run `evs`, the calls of `steps` are made one after the other, and each exchange fails
with `f`.  Walletd has carried out those whose flag is set. -/
structure LeavesOpen {κ δ : Type} (W : Walletd δ) (token : String)
    (unwrap : κ → Json → Except Exc Ret) (plan : κ → Plan) (prog : κ → Program) (d : δ) (f : Exc)
    (evs : List (NetEvent κ Exc)) (steps : List (κ × Bool)) : Prop where
  /-- Every call has failed. -/
  outcomes :
    (Net.run prog W.serve firstId d
        (evs ++ Net.retries f (Net.calls evs).length steps)).loop.tasks
      = (Net.run prog W.serve firstId d evs).loop.tasks
        ++ steps.map fun step => .finished ((plan step.1).failed f)
  /-- Walletd has carried out the calls that are flagged, in order, and no others. -/
  state :
    (Net.run prog W.serve firstId d
        (evs ++ Net.retries f (Net.calls evs).length steps)).server
      = (W.performAll (fun _ => token) unwrap plan (Net.run prog W.serve firstId d evs).server
          ((steps.filter Prod.snd).map Prod.fst)).1
  /-- The client does not know which: with other flags it is in the same state. -/
  hidden : ∀ steps' : List (κ × Bool), steps'.map Prod.fst = steps.map Prod.fst →
    (Net.run prog W.serve firstId d
        (evs ++ Net.retries f (Net.calls evs).length steps')).loop
      = (Net.run prog W.serve firstId d
          (evs ++ Net.retries f (Net.calls evs).length steps)).loop

section Family

variable [CharTables] {κ δ : Type} {E : Endpoint} {unwrap : κ → Json → Except Exc Ret}
  {plan : κ → Plan} {prog : κ → Program}

/-- What arrives of calls made one after the other does what these calls do. -/
theorem PerformsWith.led_eq (h : PerformsWith E unwrap plan prog) (W : Walletd δ)
    (steps : List (κ × Bool)) (id : Nat) (d : δ) :
    Net.led prog W.serve id d steps
      = (W.performAll (fun _ => E.token) unwrap plan d
          ((steps.filter Prod.snd).map Prod.fst)).1 := by
  induction steps generalizing id d with
  | nil => rfl
  | cons step steps ih =>
    obtain ⟨c, arrives⟩ := step
    obtain ⟨-, hreq⟩ := h.performs.advance c id
    simp only [Net.led, hreq, ih]
    cases arrives with
    | false => rfl
    | true =>
      have hstate : (serveAll W.serve d ((plan c).request E id).toList).1
          = (W.perform E.token (unwrap c) d (plan c)).1 := by
        cases hr : (plan c).request E id with
        | some r => exact W.perform_state (unwrap c) d hr
        | none =>
          cases hp : plan c with
          | reject e => rfl
          | probe | rpc _ _ _ => rw [hp] at hr; cases hr
      simp only [if_true, hstate]
      rfl

/-- **Failed calls leave everything open**, for any family that performs its plans. -/
theorem PerformsWith.leavesOpen (h : PerformsWith E unwrap plan prog) (W : Walletd δ) (d : δ)
    {f : Exc} (hf : f.isHTTPError = true) (evs : List (NetEvent κ Exc))
    (steps : List (κ × Bool)) : LeavesOpen W E.token unwrap plan prog d f evs steps := by
  have hprog := h.performs.oneShot
  obtain ⟨hloop, hserver⟩ := Net.run_retries W.serve firstId d hprog f evs steps
  constructor
  case outcomes =>
    obtain ⟨-, -, htasks⟩ := Loop.foldl_blocking hprog
      (steps.map fun step => (step.1, (.error f : Answer)))
      (Net.run prog W.serve firstId d evs).loop
    rw [hloop, htasks, h.session_results]
    simp only [List.map_map, Function.comp_def, outcome_failed E _ hf]
  case state => rw [hserver, h.led_eq]
  case hidden =>
    intro steps' hsteps
    obtain ⟨hloop', -⟩ := Net.run_retries W.serve firstId d hprog f evs steps'
    have hcalls : (steps'.map fun step => (step.1, (.error f : Answer)))
        = steps.map fun step => (step.1, (.error f : Answer)) := by
      have hmap := congrArg (List.map fun c => (c, (.error f : Answer))) hsteps
      simpa only [List.map_map, Function.comp_def] using hmap
    rw [hloop', hloop, hcalls]

/-! ## 3. A peer that passes requests on -/

/-- A peer with a certificate of its own that has walletd answer what it is sent. -/
def Walletd.relay {δ : Type} (W : Walletd δ) (der : Bytes) : Walletd δ :=
  { W with stream := some ⟨some ⟨some der⟩⟩ }

/-- What a call comes to when the peer shows the wrong certificate. -/
def Plan.mismatched (pin der : Bytes) : Plan → Except Exc Ret
  | .reject e => .error e
  | .probe | .rpc .. =>
    .error (.fingerprintMismatch (formatFingerprint pin) (formatFingerprint (sha256 der)))

/-- A run with a peer that passes requests on: walletd has carried out what was served, and every
answer has become a `FingerprintMismatchError`. -/
structure CarriedOut {κ δ : Type} (W : Walletd δ) (pin der : Bytes) (token : String)
    (unwrap : κ → Json → Except Exc Ret) (plan : κ → Plan) (d : δ) (evs : List (NetEvent κ Exc))
    (N : ClientNet Nat κ δ) : Prop where
  /-- No call is carried out twice. -/
  once : N.order.Nodup
  /-- Walletd stands where these calls lead it. -/
  state : N.server
    = (W.performAll (fun _ => token) unwrap plan d (N.order.filterMap ((Net.calls evs)[·]?))).1
  /-- A call that has ended was refused, or it was carried out and says that the certificate is the
  wrong one, or its exchange failed. -/
  outcome : ∀ i c a, (Net.calls evs)[i]? = some c → N.loop.result i = some a →
    (plan c).kind = .refused ∧ i ∉ N.order ∨
      i ∈ N.order ∧ a = (plan c).mismatched pin der ∨
      ∃ f, .fail i f ∈ evs ∧ a = (plan c).failed f
  /-- So a call that says so was carried out. -/
  carriedOut : ∀ i expected actual, N.loop.result i
    = some (.error (.fingerprintMismatch expected actual)) → i ∈ N.order

omit [CharTables] in
theorem Walletd.relay_performAll (W : Walletd δ) (der : Bytes) (token : κ → String) (d : δ)
    (cs : List κ) :
    (W.relay der).performAll token unwrap plan d cs = W.performAll token unwrap plan d cs := by
  induction cs generalizing d with
  | nil => rfl
  | cons c cs ih =>
    have hcall : (W.relay der).perform (token c) (unwrap c) d (plan c)
        = W.perform (token c) (unwrap c) d (plan c) := by
      cases plan c <;> rfl
    simp only [Walletd.performAll, hcall, ih]

/-- A reply under another certificate than the pinned one is not looked at. -/
theorem outcome_mismatch {pin der : Bytes} (hpin : E.pin = some pin) {r : Response}
    (hleaf : r.leaf = some der) (hne : sha256 der ≠ pin) (unwrap : Json → Except Exc Ret)
    (p : Plan) : E.outcome unwrap (.ok r) p = p.mismatched pin der := by
  have hverify := verify_eq r pin
  rw [hleaf] at hverify
  simp only [if_neg hne] at hverify
  have haccept := accept_unauthenticated hpin hverify
  have hhttp := verify_not_isHTTPError hverify
  cases p with
  | reject e => rfl
  | probe => simp [Endpoint.outcome, Endpoint.alive, haccept, hhttp, Plan.mismatched]
  | rpc method args timeout =>
    simp only [Endpoint.outcome, Endpoint.settle, haccept, hhttp]
    rfl

/-- **A mismatch comes after the fact**, for any family that performs its plans. -/
theorem PerformsWith.carriedOut (h : PerformsWith E unwrap plan prog)
    (hplan : ∀ c, (plan c).FeeSafe) (W : Walletd δ) (d : δ) {pin der : Bytes}
    (hpin : E.pin = some pin) (hder : der ≠ []) (hne : sha256 der ≠ pin)
    {evs : List (NetEvent κ Exc)} (hfail : ∀ i f, .fail i f ∈ evs → f.isHTTPError = true) :
    CarriedOut W pin der E.token unwrap plan d evs
      (Net.run prog (W.relay der).serve firstId d evs) := by
  have hprog := h.performs.oneShot
  have hN := Net.consistent_run (W.relay der).serve firstId d hprog evs
  have hserved := h.speaks.servedOnce firstId (W.relay der).serve d (fun c => rfl) hfail
  have houtcome : ∀ i c a, (Net.calls evs)[i]? = some c →
      (Net.run prog (W.relay der).serve firstId d evs).loop.result i = some a →
      (∃ e, plan c = .reject e ∧ a = .error e) ∨
        i ∈ (Net.run prog (W.relay der).serve firstId d evs).order ∧
          a = (plan c).mismatched pin der ∨
        ∃ f, .fail i f ∈ evs ∧ a = (plan c).failed f := by
    intro i c a hc ha
    rcases h.speaks.outcome_run hc ha with hreject | ⟨r, x, hmem, rfl⟩ | ⟨f, hf, rfl⟩
    · exact Or.inl hreject
    · obtain ⟨d', rfl⟩ : ∃ d', x = ((W.relay der).serve d' r).2 := serveAll_mem hN.legal _ hmem
      have hleaf : ((W.relay der).serve d' r).2.leaf = some der := by
        rw [Response.leaf, Walletd.serve_stream]
        exact if_neg hder
      exact Or.inr (Or.inl ⟨List.mem_map_of_mem (f := Prod.fst) hmem,
        outcome_mismatch hpin hleaf hne (unwrap c) (plan c)⟩)
    · exact Or.inr (Or.inr ⟨f, hf, outcome_failed E (unwrap c) (hfail i f hf) (plan c)⟩)
  constructor
  case once => exact (List.nodup_append.mp hN.once).1
  case state =>
    rw [hserved.effect, (W.relay der).performAll_state unwrap plan (Net.calls evs) _ d
      fun p hp => h.speaks.request_of_served hp, W.relay_performAll]
    rfl
  case outcome =>
    intro i c a hc ha
    rcases houtcome i c a hc ha with ⟨e, hp, -⟩ | hmismatch | hfailed
    · have hkind : (plan c).kind = .refused := by rw [hp]; rfl
      exact Or.inl ⟨hkind, List.count_eq_zero.mp (hserved.refused i c hc hkind)⟩
    · exact Or.inr (Or.inl hmismatch)
    · exact Or.inr (Or.inr hfailed)
  case carriedOut =>
    intro i expected actual ha
    obtain ⟨c, hc⟩ : ∃ c, (Net.calls evs)[i]? = some c := by
      have hresult := ha
      rw [hN.replay, h.result_run, Net.calls_seen] at hresult
      obtain ⟨c, hc, -⟩ := Option.bind_eq_some_iff.mp hresult
      exact ⟨c, hc⟩
    rcases houtcome i c _ hc ha with ⟨e, hp, he⟩ | ⟨hmem, -⟩ | ⟨f, -, he⟩
    · have hfee := (hplan c).refused (by rw [hp]; rfl)
      cases he
      cases hp.symm.trans hfee
    · exact hmem
    · cases hp : plan c with
      | reject e =>
        have hfee := (hplan c).refused (by rw [hp]; rfl)
        rw [hp] at he
        cases he
        cases hp.symm.trans hfee
      | probe | rpc _ _ _ =>
        rw [hp] at he
        cases he

end Family

/-! ## 4. The clients -/

section Clients

variable [CharTables]

/-- **What a `TransportError` leaves open.**  From any state that a run of either client has
reached, calls are made one after the other, and each exchange fails.  Whichever of them walletd has
carried out, every call has come to the same and the client is in the same state. -/
theorem retry_ambiguous {δ : Type} (W : Walletd δ) (d : δ) (f : Exc) (hf : f.isHTTPError = true) :
    (∀ (self : Client) (evs : List (NetEvent Client.Call Exc))
        (steps : List (Client.Call × Bool)),
      LeavesOpen W self.token (fun c result => c.unwrap result) Client.Call.plan self.program d f
        evs steps) ∧
    (∀ (self : AsyncClient) (evs : List (NetEvent AsyncClient.Call Exc))
        (steps : List (AsyncClient.Call × Bool)),
      LeavesOpen W self.token (fun c result => c.unwrap result) AsyncClient.Call.plan self.program d
        f evs steps) :=
  ⟨fun self evs steps => self.performsWith.leavesOpen W d hf evs steps,
    fun self evs steps => self.performsWith.leavesOpen W d hf evs steps⟩

omit [CharTables] in
/-- A transfer that is tried three times: walletd has made two, or none. -/
theorem retry_ambiguous_transfer :
    letI : CharTables := asciiTables
    let f := Exc.httpx .readTimeout "timed out"
    let evs : List (NetEvent Client.Call Exc) := Net.blocking 0 [.shared .ping]
    let transfer : Client.Call := .shared (.transfer (.str "a1") (.str "a2") (.int 5) .null .null)
    let run := fun (c : Client) (flags : List Bool) =>
      Net.run c.program tally.serve firstId 0
        (evs ++ Net.retries f (Net.calls evs).length (flags.map fun flag => (transfer, flag)))
    ∃ c, Client.init "http://127.0.0.1:7448" "secret" = .ok c ∧
      (run c [true, false, true]).server = (run c [false, false, false]).server + 2 ∧
      (run c [true, false, true]).loop = (run c [false, false, false]).loop := by
  let _ : CharTables := asciiTables
  obtain ⟨c, -, hc, -⟩ := exists_local (by decide : "secret" ≠ "")
  intro f evs transfer run
  have hopen := fun flags : List Bool => (retry_ambiguous tally 0 f rfl).1 c evs
    (flags.map fun flag => (transfer, flag))
  have htwo := (hopen [true, false, true]).state
  have hnone := (hopen [false, false, false]).state
  refine ⟨c, hc, ?_, (hopen [false, false, false]).hidden _ rfl⟩
  simp only [run]
  rw [htwo, hnone]
  rfl

/-- **A mismatch comes after the fact.**  In every run of a pinned client of either class with a
peer that shows another certificate and has walletd answer what it is sent: no answer is acted on,
and each of them is that of a call that walletd has carried out. -/
theorem mismatch_carried_out {δ : Type} (W : Walletd δ) (d : δ) (pin der : Bytes) (hder : der ≠ [])
    (hne : sha256 der ≠ pin) :
    (∀ (self : Client) (evs : List (NetEvent Client.Call Exc)), self.endpoint.pin = some pin →
      (∀ i f, .fail i f ∈ evs → f.isHTTPError = true) →
      CarriedOut W pin der self.token (fun c result => c.unwrap result) Client.Call.plan d evs
        (Net.run self.program (W.relay der).serve firstId d evs)) ∧
    (∀ (self : AsyncClient) (evs : List (NetEvent AsyncClient.Call Exc)),
      self.endpoint.pin = some pin → (∀ i f, .fail i f ∈ evs → f.isHTTPError = true) →
      CarriedOut W pin der self.token (fun c result => c.unwrap result) AsyncClient.Call.plan d evs
        (Net.run self.program (W.relay der).serve firstId d evs)) :=
  ⟨fun self _ hpin hfail =>
      self.performsWith.carriedOut Client.Call.plan_feeSafe W d hpin hder hne hfail,
    fun self _ hpin hfail =>
      self.performsWith.carriedOut AsyncClient.Call.plan_feeSafe W d hpin hder hne hfail⟩

omit [CharTables] in
/-- A transfer through such a peer. -/
theorem mismatch_carried_out_transfer :
    letI : CharTables := asciiTables
    let pin : Bytes := List.replicate 32 0
    ∃ c, Client.init "https://wallet:7448" "secret" defaultTimeout none
        (.str (formatFingerprint pin)) = .ok c ∧
      let evs : List (NetEvent Client.Call Exc) :=
        Net.blocking 0 [.shared (.transfer (.str "a1") (.str "a2") (.int 5) .null .null)]
      CarriedOut tally pin [0x30] c.token (fun c result => c.unwrap result) Client.Call.plan 0 evs
        (Net.run c.program (tally.relay [0x30]).serve firstId 0 evs) := by
  let _ : CharTables := asciiTables
  obtain ⟨c, hc, hE⟩ := exists_pinned
  refine ⟨c, hc, ?_⟩
  intro evs
  refine (mismatch_carried_out tally 0 _ [0x30] (by decide) (by decide +kernel)).1 c evs
    (by rw [hE]) fun i f hf => ?_
  simp [evs, Net.blocking] at hf

end Clients

end Exfer
