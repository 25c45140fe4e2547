/-
# `Client` and `AsyncClient` side by side

* `clients_simulate`: built from the same inputs the two classes fail alike or share an
  endpoint, and at one endpoint they send the same requests and return the same results, call
  by call.
* `wireLanguage_iff`: that is a statement about the calls both accept.  The methods and
  parameter objects that can be sent at all are the same but for those of `swap_get_quote` with
  a `flow`, which only `AsyncClient` can send.
-/
import Exfer.Construct
import Exfer.Wire

namespace Exfer

open Py

variable [CharTables]

/-! ## 1. Simulation -/

/-- The two constructions raise the same exception, or build the same endpoint. -/
def SameConstruction : Except Exc Client → Except Exc AsyncClient → Prop
  | .error e, .error e' => e = e'
  | .ok c, .ok a => c.endpoint = a.endpoint
  | _, _ => False

omit [CharTables] in
theorem sameConstruction_map (result : Except Exc Client) :
    SameConstruction result (result.map Client.toAsync) := by
  cases result with
  | error e => exact rfl
  | ok c => exact c.toAsync_endpoint.symm

/-- Leaving `flow` out is giving it its default. -/
theorem perform_toAsync (E : Endpoint) (call : Client.Call) :
    E.perform (fun result => call.toAsync.unwrap result) call.toAsync.plan
      = E.perform (fun result => call.unwrap result) call.plan := by
  cases call with
  | shared c => rfl
  | swapGetQuote direction amountIn from_ => rfl

/-- **A call is the same coroutine on either class**, at one endpoint. -/
theorem program_toAsync {c : Client} {a : AsyncClient} (h : c.endpoint = a.endpoint)
    (call : Client.Call) : a.program call.toAsync = c.program call := by
  rw [a.program_eq, c.program_eq, ← h, perform_toAsync]

/-- **The clients simulate each other** on the calls both accept. -/
theorem clients_simulate :
    ((∀ url token kwargs,
        SameConstruction (Client.ofKwargs url token kwargs)
          (AsyncClient.ofKwargs url token kwargs)) ∧
      (∀ host urlEnv tokenEnv fingerprintEnv kwargs,
        SameConstruction (Client.fromEnv host urlEnv tokenEnv fingerprintEnv kwargs)
          (AsyncClient.fromEnv host urlEnv tokenEnv fingerprintEnv kwargs)) ∧
      (∀ host url datadir kwargs,
        SameConstruction (Client.fromDatadir host url datadir kwargs)
          (AsyncClient.fromDatadir host url datadir kwargs))) ∧
    ∀ (c : Client) (a : AsyncClient), c.endpoint = a.endpoint →
      ∀ steps : List (Client.Call × Answer),
        let S := Loop.session c.program firstId steps
        let L := Loop.run a.program firstId
          (Loop.blocking 0 (steps.map fun step => (step.1.toAsync, step.2)))
        L.log.map Prod.snd = S.2.1 ∧ L.tasks = S.2.2.map .finished ∧ L.shared = S.1 := by
  refine ⟨⟨?_, ?_, ?_⟩, ?_⟩
  · intro url token kwargs
    rw [ofKwargs_toAsync]
    exact sameConstruction_map _
  · intro host urlEnv tokenEnv fingerprintEnv kwargs
    rw [fromEnv_toAsync]
    exact sameConstruction_map _
  · intro host url datadir kwargs
    rw [fromDatadir_toAsync]
    exact sameConstruction_map _
  · intro c a h steps S L
    have hsession : Loop.session a.program firstId
        (steps.map fun step => (step.1.toAsync, step.2)) = S := by
      rw [Loop.session_map]
      exact congrArg (fun prog => Loop.session prog firstId steps) (funext (program_toAsync h))
    obtain ⟨hshared, hlog, htasks⟩ := Loop.run_blocking a.performs.oneShot firstId
      (steps.map fun step => (step.1.toAsync, step.2))
    rw [hsession] at hshared hlog htasks
    exact ⟨hlog, htasks, hshared⟩

omit [CharTables] in
/-- Two clients of one url: a ping that is answered, and a probe that is not. -/
theorem clients_simulate_local :
    letI : CharTables := asciiTables
    ∃ c a, Client.init "http://127.0.0.1:7448/" "secret" = .ok c ∧
      AsyncClient.init "http://127.0.0.1:7448/" "secret" = .ok a ∧
      let steps : List (Client.Call × Answer) :=
        [(.shared .ping,
            .ok ⟨200, "\x7b\"result\": null\x7d", some (.obj [("result", .null)]), none⟩),
          (.shared .healthz, .error (.httpx .connectError "refused"))]
      (Loop.run a.program firstId (Loop.blocking 0
        (steps.map fun step => (step.1.toAsync, step.2)))).log.map Prod.snd
          = (Loop.session c.program firstId steps).2.1 := by
  let _ : CharTables := asciiTables
  refine ⟨_, _, rfl, rfl, ?_⟩
  exact (clients_simulate.2 _ _ rfl _).1

/-! ## 2. The wire language -/

omit [CharTables] in
/-- Starting the call puts the method with the parameters on the wire. -/
def Sends {κ : Type} (prog : κ → Program) (c : κ) (method : String) (params : Dict) : Prop :=
  ∃ id r, ((prog c).advance id).2.request = some r ∧ r.method? = some method ∧
    r.params? = some params

/-- **A call that is not refused sends its parameters**, whatever id it takes. -/
theorem Performs.sends {κ : Type} {E : Endpoint} {plan : κ → Plan} {prog : κ → Program}
    (h : Performs E plan prog) {c : κ} {method : String} {args : Named} {timeout : Option Int}
    (hplan : plan c = .rpc method args timeout) (id : Nat) :
    ∃ r, ((prog c).advance id).2.request = some r ∧ r.method? = some method ∧
      r.params? = some args.encode := by
  refine ⟨E.post id method args timeout, ?_, rfl, rfl⟩
  rw [(h.advance c id).2, hplan]
  rfl

theorem Performs.sends_iff {κ : Type} {E : Endpoint} {plan : κ → Plan} {prog : κ → Program}
    (h : Performs E plan prog) {c : κ} {method : String} {params : Dict} :
    Sends prog c method params ↔
      ∃ args timeout, plan c = .rpc method args timeout ∧ args.encode = params := by
  constructor
  · rintro ⟨id, r, hr, hmethod, hparams⟩
    rw [(h.advance c id).2] at hr
    cases hp : plan c with
    | reject e => rw [hp] at hr; cases hr
    | probe => rw [hp] at hr; cases hr; cases hmethod
    | rpc method' args timeout =>
      rw [hp] at hr
      cases hr
      rw [post_method, Option.some.injEq] at hmethod
      rw [post_params, Option.some.injEq] at hparams
      subst hmethod
      exact ⟨args, timeout, rfl, hparams⟩
  · rintro ⟨args, timeout, hp, rfl⟩
    exact ⟨firstId, h.sends hp firstId⟩

omit [CharTables] in
/-- `swap_get_quote` is the method of no shared call. -/
theorem SharedCall.plan_ne_swapGetQuote (c : SharedCall) (args : Named) (timeout : Option Int) :
    c.plan ≠ .rpc "swap_get_quote" args timeout := by
  intro h
  cases c with
  | htlcLock _ _ _ _ _ _ _ _ | simulateTransfer _ _ _ _ _ _ | simulateHtlcLock _ _ _ _ _ _ _ _ =>
    simp only [plan, Plan.feeAware] at h
    split at h
    · cases h
    · exact absurd (Plan.rpc.inj h).1 (by decide)
  | healthz => cases h
  | _ => exact absurd (Plan.rpc.inj h).1 (by decide)

/-- The parameters of a `swap_get_quote` with a `flow`. -/
def flowQuote (direction amountIn from_ flow : Json) : Dict :=
  [("direction", direction), ("amount_in", amountIn), ("from", from_), ("flow", flow)]

theorem AsyncClient.sends_flow (self : AsyncClient) (direction amountIn from_ : Json)
    {flow : Json} (hflow : flow ≠ .null) :
    Sends self.program (.swapGetQuote direction amountIn from_ flow) "swap_get_quote"
      (flowQuote direction amountIn from_ flow) := by
  have hsome : flow.isNone = false := by
    rw [Bool.eq_false_iff]
    exact fun hnone => hflow (Json.isNone_iff.mp hnone)
  refine self.performs.sends_iff.mpr ⟨_, _, rfl, ?_⟩
  simp [Named.encode, flowQuote, hsome]

theorem Client.not_sends_flow (self : Client) (direction amountIn from_ flow : Json) :
    ¬ ∃ c, Sends self.program c "swap_get_quote" (flowQuote direction amountIn from_ flow) := by
  rintro ⟨c, hc⟩
  obtain ⟨args, timeout, hplan, hparams⟩ := self.performs.sends_iff.mp hc
  cases c with
  | shared c => exact c.plan_ne_swapGetQuote args timeout hplan
  | swapGetQuote direction' amountIn' from' =>
    cases hplan
    exact absurd (congrArg List.length hparams) (by simp [Named.encode, flowQuote])

/-- Whatever a `Client` sends, an `AsyncClient` can send. -/
theorem Client.sends_toAsync (self : Client) (self' : AsyncClient) {c : Client.Call}
    {method : String} {params : Dict} (h : Sends self.program c method params) :
    Sends self'.program c.toAsync method params := by
  obtain ⟨args, timeout, hplan, hparams⟩ := self.performs.sends_iff.mp h
  rw [self'.performs.sends_iff]
  cases c with
  | shared c => exact ⟨args, timeout, hplan, hparams⟩
  | swapGetQuote direction amountIn from_ =>
    cases hplan
    exact ⟨_, _, rfl, hparams⟩

/-- **One wire language, but for the `flow` of `swap_get_quote`.** -/
theorem wireLanguage_iff (self : Client) (self' : AsyncClient) (method : String) (params : Dict) :
    ((∃ c, Sends self.program c method params) ↔ ∃ c, Sends self'.program c method params) ↔
      ¬ (method = "swap_get_quote" ∧ ∃ direction amountIn from_ flow, flow ≠ Json.null ∧
        params = flowQuote direction amountIn from_ flow) := by
  constructor
  · rintro hiff ⟨rfl, direction, amountIn, from_, flow, hflow, rfl⟩
    exact self.not_sends_flow direction amountIn from_ flow
      (hiff.mpr ⟨_, self'.sends_flow direction amountIn from_ hflow⟩)
  · intro hnot
    constructor
    · rintro ⟨c, hc⟩
      exact ⟨c.toAsync, self.sends_toAsync self' hc⟩
    · rintro ⟨c, hc⟩
      obtain ⟨args, timeout, hplan, hparams⟩ := self'.performs.sends_iff.mp hc
      simp only [self.performs.sends_iff]
      cases c with
      | shared c => exact ⟨.shared c, args, timeout, hplan, hparams⟩
      | swapGetQuote direction amountIn from_ flow =>
        cases hplan
        by_cases hflow : flow = .null
        · subst hflow
          exact ⟨.swapGetQuote direction amountIn from_, _, _, rfl, hparams⟩
        · refine absurd ⟨rfl, direction, amountIn, from_, flow, hflow, ?_⟩ hnot
          have hsome : flow.isNone = false := by
            rw [Bool.eq_false_iff]
            exact fun hnone => hflow (Json.isNone_iff.mp hnone)
          rw [← hparams]
          simp [Named.encode, flowQuote, hsome]

omit [CharTables] in
/-- A quote with a `flow`, which one class can ask for and the other cannot. -/
theorem flow_is_async_only :
    letI : CharTables := asciiTables
    ∃ self self', Client.init "http://127.0.0.1:7448" "secret" = .ok self ∧
      AsyncClient.init "http://127.0.0.1:7448" "secret" = .ok self' ∧
      (∃ c, Sends self'.program c "swap_get_quote"
        (flowQuote (.str "bnb_to_exfer") (.str "0.1") (.str "a1") (.str "v2"))) ∧
      ¬ ∃ c, Sends self.program c "swap_get_quote"
        (flowQuote (.str "bnb_to_exfer") (.str "0.1") (.str "a1") (.str "v2")) := by
  let _ : CharTables := asciiTables
  refine ⟨_, _, rfl, rfl, ?_, ?_⟩
  · exact ⟨_, AsyncClient.sends_flow _ _ _ _ (by simp)⟩
  · exact Client.not_sends_flow _ _ _ _ _

end Exfer
