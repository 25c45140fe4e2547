/-
# How long a client waits

walletd holds a `wait_for_tx` or a `wait_for_payment` for up to `timeout_secs`, and for no longer
than ten minutes.  Everything else it answers at once.

* `polledFor` reads off an envelope how long walletd may hold it.
* `Patient` says of a request that its timeout is fifteen seconds more than that, or the default
  of the client.  `clients_patient`: every request of every run is patient, so a client that
  waits outlives walletd's wait, and no other call waits longer than the client was told to.
-/
import Exfer.Outcomes

namespace Exfer

open Py

/-! ## 1. Long polls -/

/-- The methods that walletd may hold. -/
def pollMethods : List String := ["wait_for_tx", "wait_for_payment"]

/-- The seconds for which a call asks walletd to hold it. -/
def polledFor (method : String) (params : Dict) : Option Int :=
  if method ∈ pollMethods then
    match params.lookup "timeout_secs" with
    | some (.int secs) => some secs
    | _ => none
  else none

theorem polledFor_other {method : String} (h : method ∉ pollMethods) (params : Dict) :
    polledFor method params = none := if_neg h

/-- The seconds for which walletd may hold a request. -/
def HttpRequest.polledFor (r : HttpRequest) : Option Int :=
  match r.method?, r.params? with
  | some method, some params => Exfer.polledFor method params
  | _, _ => none

/-- How long walletd holds a poll. -/
def heldFor (secs : Int) : Int := min secs 600

/-- `httpx` gives up on a reply to `r` that takes `elapsed` seconds.  Here `r` has a timeout of
its own, in whole seconds. -/
def HttpRequest.Expires (r : HttpRequest) (elapsed : Int) : Prop :=
  ∃ secs, r.timeout = .int secs ∧ secs < elapsed

/-- The request outlives the wait it asks for, and otherwise takes the default. -/
structure HttpRequest.Patient (default : Json) (r : HttpRequest) : Prop where
  poll : ∀ secs, r.polledFor = some secs → r.timeout = .int (secs + 15)
  plain : r.polledFor = none → r.timeout = default

/-- A poll that is answered within fifteen seconds of walletd's own wait does not expire. -/
theorem HttpRequest.Patient.outlives {default : Json} {r : HttpRequest} (h : r.Patient default)
    {secs : Int} (hpoll : r.polledFor = some secs) {delay : Int} (hdelay : delay ≤ 15) :
    ¬ r.Expires (heldFor secs + delay) := by
  rintro ⟨n, hn, hlt⟩
  rw [h.poll secs hpoll] at hn
  cases hn
  rw [heldFor] at hlt
  omega

/-! ## 2. Plans -/

/-- The timeout of a plan is that of its poll, if it is one. -/
def Plan.Patient (p : Plan) : Prop :=
  ∀ method args timeout, p = .rpc method args timeout →
    timeout = (polledFor method args.encode).map (· + 15)

theorem Plan.rpc_patient {method : String} {args : Named} (h : method ∉ pollMethods) :
    (Plan.rpc method args none).Patient := by
  intro _ _ _ heq
  cases heq
  rw [polledFor_other h]
  rfl

theorem Plan.feeAware_patient {fee feeRate : Json} {method : String} {args : Named}
    (h : method ∉ pollMethods) : (Plan.feeAware fee feeRate method args).Patient := by
  unfold Plan.feeAware
  split
  · exact fun _ _ _ h => nomatch h
  · exact Plan.rpc_patient h

theorem Plan.poll_patient {method : String} {args : Named} {secs : Int} (h : method ∈ pollMethods)
    (hsecs : args.encode.lookup "timeout_secs" = some (.int secs)) :
    (Plan.rpc method args (some (secs + 15))).Patient := by
  intro _ _ _ heq
  cases heq
  rw [polledFor, if_pos h, hsecs]
  rfl

theorem SharedCall.plan_patient (c : SharedCall) : c.plan.Patient := by
  cases c with
  | healthz => exact fun _ _ _ h => nomatch h
  | waitForTx _ _ _ | waitForPayment _ _ _ => exact Plan.poll_patient (by decide) rfl
  | htlcLock _ _ _ _ _ _ _ _ | simulateTransfer _ _ _ _ _ _ | simulateHtlcLock _ _ _ _ _ _ _ _ =>
    exact Plan.feeAware_patient (by decide)
  | _ => exact Plan.rpc_patient (by decide)

theorem Client.Call.plan_patient (c : Client.Call) : c.plan.Patient := by
  cases c with
  | shared c => exact c.plan_patient
  | swapGetQuote _ _ _ => exact Plan.rpc_patient (by decide)

theorem AsyncClient.Call.plan_patient (c : AsyncClient.Call) : c.plan.Patient := by
  cases c with
  | shared c => exact c.plan_patient
  | swapGetQuote _ _ _ _ => exact Plan.rpc_patient (by decide)

/-- The request of a patient plan is patient. -/
theorem Plan.Patient.request {p : Plan} (h : p.Patient) {E : Endpoint} {id : Nat}
    {r : HttpRequest} (hr : p.request E id = some r) : r.Patient E.timeout := by
  cases p with
  | reject e => cases hr
  | probe =>
    cases hr
    exact ⟨(fun _ hpoll => nomatch hpoll), fun _ => rfl⟩
  | rpc method args timeout =>
    cases hr
    have htimeout := h method args timeout rfl
    subst htimeout
    constructor
    · intro secs hpoll
      have hsecs : Exfer.polledFor method args.encode = some secs := hpoll
      rw [Endpoint.post, hsecs]
      rfl
    · intro hplain
      have hnone : Exfer.polledFor method args.encode = none := hplain
      rw [Endpoint.post, hnone]
      rfl

/-! ## 3. Runs -/

section Runs

variable [CharTables]

theorem Performs.patient {κ : Type} {E : Endpoint} {plan : κ → Plan} {prog : κ → Program}
    (h : Performs E plan prog) (hpatient : ∀ c, (plan c).Patient)
    (evs : List (Event κ Answer)) :
    ∀ r ∈ (Loop.run prog firstId evs).log.map Prod.snd, r.Patient E.timeout := by
  intro r hr
  rw [h.run_log] at hr
  obtain ⟨p, hp, n, hrequest⟩ := mem_requests hr
  obtain ⟨c, -, rfl⟩ := List.mem_map.mp hp
  exact (hpatient c).request hrequest

/-- **Every request of every run is patient.** -/
theorem clients_patient :
    (∀ (self : Client) (steps : List (Client.Call × Answer)),
      ∀ r ∈ (Loop.session self.program firstId steps).2.1,
        r.Patient self.http.timeout ∧
          ∀ secs, r.polledFor = some secs → ∀ delay ≤ 15, ¬ r.Expires (heldFor secs + delay)) ∧
    (∀ (self : AsyncClient) (evs : List (Event AsyncClient.Call Answer)),
      ∀ r ∈ (Loop.run self.program firstId evs).log.map Prod.snd,
        r.Patient self.http.timeout ∧
          ∀ secs, r.polledFor = some secs → ∀ delay ≤ 15, ¬ r.Expires (heldFor secs + delay)) := by
  constructor
  · intro self steps r hr
    rw [← (Loop.run_blocking self.performs.oneShot firstId steps).2.1] at hr
    have hpatient := self.performs.patient Client.Call.plan_patient _ r hr
    exact ⟨hpatient, fun _ hpoll _ hdelay => hpatient.outlives hpoll hdelay⟩
  · intro self evs r hr
    have hpatient := self.performs.patient AsyncClient.Call.plan_patient evs r hr
    exact ⟨hpatient, fun _ hpoll _ hdelay => hpatient.outlives hpoll hdelay⟩

omit [CharTables] in
/-- A wait of three minutes, which the default timeout would cut short. -/
theorem clients_patient_wait :
    letI : CharTables := asciiTables
    ∃ c, Client.init "http://127.0.0.1:7448" "secret" = .ok c ∧
      ∃ r, (Loop.session c.program firstId [(.shared (.waitForTx (.str "ab") (.int 1) 180),
          .error (.httpx .connectError "refused"))]).2.1 = [r] ∧
        r.timeout = .int 195 ∧ ¬ r.Expires 190 := by
  let _ : CharTables := asciiTables
  obtain ⟨c, -, hc, -, hE, -⟩ := exists_local (by decide : "secret" ≠ "")
  let steps : List (Client.Call × Answer) := [(.shared (.waitForTx (.str "ab") (.int 1) 180),
    .error (.httpx .connectError "refused"))]
  have hlog : (Loop.session c.program firstId steps).2.1 = [_] := c.performs.session_log steps
  obtain ⟨hpatient, houtlives⟩ := clients_patient.1 c steps _ (hlog ▸ List.mem_singleton_self _)
  exact ⟨c, hc, _, hlog, hpatient.poll 180 rfl, houtlives 180 rfl 10 (by decide)⟩

end Runs

end Exfer
