/-
# What a pin protects, and what it does not

The check runs in the transport, on the reply, once the base transport has handed it over.

* So no reply that fails it is acted on (`pinned_outcome`): for an RPC call and for a probe the
  outcome is an exception of the check, which depends on the certificate alone.
* But the request is out by then.  `pinned_requests_iff` says when a peer with another
  certificate learns nothing of the token and the parameters: when it is never sent an RPC call.
-/
import Exfer.Construct
import Exfer.Wire

namespace Exfer

open Py

/-! ## 1. Replies that fail the check -/

/-- A pin that a `Client` holds is a digest. -/
theorem Client.pin_length {self : Client} {pin : Bytes} (h : self.endpoint.pin = some pin) :
    pin.length = 32 := by
  simp only [Client.endpoint, HttpxClient.pin] at h
  cases ht : self.http.transport with
  | pinning t =>
    rw [ht] at h
    cases h
    exact (self.pinned t ht).2
  | default | custom _ => rw [ht] at h; cases h

theorem AsyncClient.pin_length {self : AsyncClient} {pin : Bytes}
    (h : self.endpoint.pin = some pin) : pin.length = 32 := by
  simp only [AsyncClient.endpoint, HttpxClient.pin] at h
  cases ht : self.http.transport with
  | pinning t =>
    rw [ht] at h
    cases h
    exact (self.pinned t ht).2
  | default | custom _ => rw [ht] at h; cases h

/-- What fails the check fails the exchange, with the check's own exception. -/
theorem accept_unauthenticated {E : Endpoint} {pin : Bytes} (hpin : E.pin = some pin)
    {r : Response} {e : Exc} (h : verifyPeerFingerprint r pin = .error e) :
    E.accept (.ok r) = .error e := by
  simp [Endpoint.accept, hpin, h, bind, Except.bind]

/-- What passes it passes the exchange. -/
theorem accept_authenticated {E : Endpoint} {r : Response}
    (h : ∀ expected, E.pin = some expected → Authenticated expected r) :
    E.accept (.ok r) = .ok r := by
  cases hpin : E.pin with
  | none => simp [Endpoint.accept, hpin, bind, Except.bind, pure, Except.pure]
  | some expected =>
    have hverify := (verify_ok_iff r expected).mpr (h expected hpin)
    simp [Endpoint.accept, hpin, hverify, bind, Except.bind, pure, Except.pure]

/-- The check's own exceptions are the SDK's, so they are no `httpx` exceptions. -/
theorem verify_not_isHTTPError {r : Response} {pin : Bytes} {e : Exc}
    (h : verifyPeerFingerprint r pin = .error e) : e.isHTTPError = false := by
  refine Exc.not_isHTTPError_of_sdkClass ?_
  have hcases := verify_eq r pin
  cases hleaf : r.leaf with
  | none =>
    rw [hleaf] at hcases
    obtain ⟨text, htext⟩ := hcases
    cases h.symm.trans htext
    simp [Exc.sdkClass]
  | some der =>
    rw [hleaf] at hcases
    simp only at hcases
    rw [hcases] at h
    split at h
    · cases h
    · cases h
      simp [Exc.sdkClass]

section Outcome

variable [CharTables]

/-- **A reply that fails the check** ends an RPC call and a probe with the check's exception. -/
theorem outcome_unauthenticated {E : Endpoint} {pin : Bytes} (hpin : E.pin = some pin)
    {r : Response} {e : Exc} (h : verifyPeerFingerprint r pin = .error e)
    (unwrap : Json → Except Exc Ret) {p : Plan} (hp : p.kind ≠ .refused) :
    E.outcome unwrap (.ok r) p = .error e := by
  have hhttp := verify_not_isHTTPError h
  cases p with
  | reject e' => exact absurd rfl hp
  | probe => simp [Endpoint.outcome, Endpoint.alive, accept_unauthenticated hpin h, hhttp]
  | rpc method args timeout =>
    simp only [Endpoint.outcome, Endpoint.settle, accept_unauthenticated hpin h, hhttp]
    rfl

/-- What a call on a client that pins `pin` makes of a reply `r`, which it cannot authenticate.
`outcome` is the outcome of the call as a function of the reply. -/
structure Unmoved (pin : Bytes) (kind : CallKind) (outcome : Response → Option (Except Exc Ret))
    (r : Response) : Prop where
  /-- The status and the body make no difference. -/
  blind : ∀ r', r'.networkStream = r.networkStream → outcome r' = outcome r
  /-- An RPC call with the wrong certificate raises `FingerprintMismatchError`, and the two
  fingerprints can be read back; without a certificate it raises `TransportError`. -/
  rpc : kind = .rpc → match r.leaf with
    | some der => ∃ expected actual,
      outcome r = some (.error (.fingerprintMismatch expected actual)) ∧
        parseFingerprint (.str expected) = .ok pin ∧
        parseFingerprint (.str actual) = .ok (sha256 der)
    | none => ∃ text, outcome r = some (.error (.transport text))
  /-- A probe does not return at all. -/
  probe : kind = .probe → ∃ e, outcome r = some (.error e)

theorem unmoved_of_outcome {E : Endpoint} {pin : Bytes} (hpin : E.pin = some pin)
    (hlen : pin.length = 32) (unwrap : Json → Except Exc Ret) (p : Plan) {r : Response}
    (hr : ¬ Authenticated pin r) {outcome : Response → Option (Except Exc Ret)}
    (houtcome : ∀ r, outcome r = some (E.outcome unwrap (.ok r) p)) :
    Unmoved pin p.kind outcome r := by
  obtain ⟨e, he⟩ : ∃ e, verifyPeerFingerprint r pin = .error e := by
    cases hv : verifyPeerFingerprint r pin with
    | error e => exact ⟨e, rfl⟩
    | ok u => exact absurd ((verify_ok_iff r pin).mp hv) hr
  have hfail : ∀ r', r'.networkStream = r.networkStream → p.kind ≠ .refused →
      outcome r' = some (.error e) := by
    intro r' hsame hp
    rw [houtcome, outcome_unauthenticated hpin ((verify_congr hsame pin).trans he) unwrap hp]
  constructor
  · intro r' hsame
    by_cases hp : p.kind = .refused
    · cases p with
      | reject e' => rw [houtcome, houtcome]; rfl
      | probe => cases hp
      | rpc _ _ _ => cases hp
    · rw [hfail r' hsame hp, hfail r rfl hp]
  · intro hkind
    rw [hfail r rfl (by simp [hkind])]
    have hcases := verify_eq r pin
    cases hleaf : r.leaf with
    | none =>
      rw [hleaf] at hcases
      obtain ⟨text, htext⟩ := hcases
      cases he.symm.trans htext
      exact ⟨text, rfl⟩
    | some der =>
      rw [hleaf] at hcases
      have hne : sha256 der ≠ pin := fun heq => hr ⟨der, hleaf, heq⟩
      simp only [if_neg hne] at hcases
      cases he.symm.trans hcases
      exact ⟨_, _, rfl, parseFingerprint_format hlen, parseFingerprint_format (sha256_length der)⟩
  · intro hkind
    exact ⟨e, hfail r rfl (by simp [hkind])⟩

/-- **A pinned client never acts on a reply it cannot authenticate.**  On `Client` the call is
driven to its end; on `AsyncClient` it waits in any run, and the reply is the next event. -/
theorem pinned_outcome (pin : Bytes) (r : Response) (hr : ¬ Authenticated pin r) :
    (∀ (self : Client) (call : Client.Call) (id : Nat), self.endpoint.pin = some pin →
      Unmoved pin call.kind
        (fun r => some ((self.program call).drive (fun _ _ => .ok r) id []).2.2) r) ∧
    (∀ (self : AsyncClient) (evs : List (Event AsyncClient.Call Answer)) (i : Nat)
      (call : AsyncClient.Call) (req : HttpRequest) (k : Answer → Program),
      self.endpoint.pin = some pin → (Loop.calls evs)[i]? = some call →
      (Loop.run self.program firstId evs).tasks[i]? = some (.waiting req k) →
      Unmoved pin call.kind (fun r => Loop.result
        (Loop.exec self.program (Loop.run self.program firstId evs) (.reply i (.ok r))) i) r) := by
  constructor
  · intro self call id hpin
    rw [← call.plan_kind]
    refine unmoved_of_outcome hpin (Client.pin_length hpin) (fun v => call.unwrap v) call.plan hr
      fun r => ?_
    rw [drive_outcome (self.program_eq call)]
  · intro self evs i call req k hpin hcall hwait
    rw [← call.plan_kind]
    refine unmoved_of_outcome hpin (AsyncClient.pin_length hpin) (fun v => call.unwrap v)
      call.plan hr fun r => ?_
    exact reply_outcome self.performs.oneShot (self.program_eq call) hcall hwait (.ok r)

/-- A client that pins thirty-two zeros. -/
theorem exists_pinned :
    ∃ c, Client.init "https://wallet:7448" "secret" defaultTimeout none
        (.str (formatFingerprint (List.replicate 32 0))) = .ok c ∧
      c.endpoint = ⟨rstrip '/' "https://wallet:7448", "secret", defaultTimeout,
        some (List.replicate 32 0)⟩ :=
  Client.init_format (by decide) (by decide) (by decide)

omit [CharTables] in
/-- A ping on it, answered under another certificate. -/
theorem pinned_outcome_mismatch :
    letI : CharTables := asciiTables
    let pin : Bytes := List.replicate 32 0
    ∃ c, Client.init "https://wallet:7448" "secret" defaultTimeout none
        (.str (formatFingerprint pin)) = .ok c ∧
      Unmoved pin .rpc
        (fun r => some ((c.program (.shared .ping)).drive (fun _ _ => .ok r) firstId []).2.2)
        ⟨401, "", none, some ⟨some ⟨some [0x30]⟩⟩⟩ := by
  let _ : CharTables := asciiTables
  obtain ⟨c, hc, hE⟩ := exists_pinned
  refine ⟨c, hc, (pinned_outcome _ _ ?_).1 c (.shared .ping) firstId (by rw [hE])⟩
  rintro ⟨der, hleaf, hder⟩
  cases hleaf
  exact absurd hder (by decide +kernel)

end Outcome

/-! ## 2. Requests that are out before the check -/

/-- What the base transport has at the other end of a connection: no peer, or one that shows a
leaf certificate.  It completes the handshake with any certificate, and writes the request. -/
inductive Link where
  | unreachable
  | peer (leaf : Bytes)

/-- A peer whose leaf certificate does not hash to the pin. -/
def Link.mismatching (pin : Bytes) : Link → Bool
  | .unreachable => false
  | .peer leaf => sha256 leaf ≠ pin

/-- What a request says to its peer: all of it but the timeout, which the client keeps. -/
structure Written where
  verb : Verb
  url : String
  headers : List (String × String)
  json : Option Dict

def HttpRequest.written (r : HttpRequest) : Written := ⟨r.verb, r.url, r.headers, r.json⟩

/-- What mismatching peers see of the requests, the first of which is number `n`: `route` says
where each request goes. -/
def observed (pin : Bytes) (route : Nat → Link) (n : Nat) (requests : List HttpRequest) :
    List (Nat × Written) :=
  (requests.zipIdx n).filterMap fun (r, k) =>
    if (route k).mismatching pin then some (k, r.written) else none

theorem observed_cons (pin : Bytes) (route : Nat → Link) (n : Nat) (r : HttpRequest)
    (requests : List HttpRequest) :
    observed pin route n (r :: requests) =
      (if (route n).mismatching pin then [(n, r.written)] else []) ++
        observed pin route (n + 1) requests := by
  simp only [observed, List.zipIdx_cons, List.filterMap_cons]
  cases (route n).mismatching pin <;> rfl

/-- Two plans differ in their parameters at most. -/
def Plan.SameShape : Plan → Plan → Prop
  | .reject _, .reject _ => True
  | .probe, .probe => True
  | .rpc method _ _, .rpc method' _ _ => method = method'
  | _, _ => False

theorem Plan.SameShape.refl (p : Plan) : p.SameShape p := by
  cases p with
  | reject e => exact trivial
  | probe => exact trivial
  | rpc method args timeout => exact rfl

/-- No RPC call goes to a mismatching peer.  A call that is refused takes no route, so the calls
are numbered without those. -/
def Spared (pin : Bytes) (route : Nat → Link) (n : Nat) (kinds : List CallKind) : Prop :=
  ∀ k, (kinds.filter (· ≠ .refused))[k]? = some .rpc → (route (n + k)).mismatching pin = false

theorem spared_refused {pin : Bytes} {route : Nat → Link} {n : Nat} {kinds : List CallKind} :
    Spared pin route n (.refused :: kinds) ↔ Spared pin route n kinds :=
  Iff.rfl

theorem spared_probe {pin : Bytes} {route : Nat → Link} {n : Nat} {kinds : List CallKind} :
    Spared pin route n (.probe :: kinds) ↔ Spared pin route (n + 1) kinds := by
  constructor
  · intro h k hk
    rw [Nat.add_right_comm, Nat.add_assoc]
    exact h (k + 1) hk
  · intro h k hk
    cases k with
    | zero => cases hk
    | succ k =>
      have := h k hk
      rwa [Nat.add_right_comm, Nat.add_assoc] at this

theorem spared_rpc {pin : Bytes} {route : Nat → Link} {n : Nat} {kinds : List CallKind} :
    Spared pin route n (.rpc :: kinds) ↔
      (route n).mismatching pin = false ∧ Spared pin route (n + 1) kinds := by
  constructor
  · intro h
    refine ⟨h 0 rfl, fun k hk => ?_⟩
    rw [Nat.add_right_comm, Nat.add_assoc]
    exact h (k + 1) hk
  · rintro ⟨hfirst, h⟩ k hk
    cases k with
    | zero => exact hfirst
    | succ k =>
      have := h k hk
      rwa [Nat.add_right_comm, Nat.add_assoc] at this

/-- **Probes give nothing away**: where no RPC call goes to a mismatching peer, the token and the
parameters cannot be seen. -/
theorem observed_eq_of_spared {E E' : Endpoint} {pin : Bytes} {route : Nat → Link}
    (hget : E'.get = E.get) {plans plans' : List Plan}
    (hshape : List.Forall₂ Plan.SameShape plans plans') (n id : Nat)
    (hspared : Spared pin route n (plans.map Plan.kind)) :
    observed pin route n (E'.requests id plans') = observed pin route n (E.requests id plans) := by
  induction hshape generalizing n id with
  | nil => rfl
  | @cons p p' plans plans' hp _ ih =>
    cases p with
    | reject e =>
      cases p' with
      | reject e' => exact ih n id (spared_refused.mp hspared)
      | probe | rpc _ _ _ => exact hp.elim
    | probe =>
      cases p' with
      | probe =>
        have hrest := ih (n + 1) id (spared_probe.mp hspared)
        simp only [Endpoint.requests, Plan.request, Option.toList_some, List.singleton_append,
          observed_cons, hget]
        exact congrArg _ hrest
      | reject _ | rpc _ _ _ => exact hp.elim
    | rpc method args timeout =>
      cases p' with
      | rpc method' args' timeout' =>
        obtain ⟨hfirst, hspared'⟩ := spared_rpc.mp hspared
        have hrest := ih (n + 1) (id + 1) hspared'
        simp only [Endpoint.requests, Plan.request, Option.toList_some, List.singleton_append,
          observed_cons, hfirst]
        exact hrest
      | reject _ | probe => exact hp.elim

/-- **An RPC call gives the token away**: where one goes to a mismatching peer, another token is
another view. -/
theorem spared_of_observed_eq {E E' : Endpoint} {pin : Bytes} {route : Nat → Link}
    (htoken : E'.token ≠ E.token) (plans : List Plan) (n id : Nat)
    (heq : observed pin route n (E'.requests id plans)
      = observed pin route n (E.requests id plans)) :
    Spared pin route n (plans.map Plan.kind) := by
  induction plans generalizing n id with
  | nil =>
    intro k hk
    cases hk
  | cons p plans ih =>
    cases p with
    | reject e => exact spared_refused.mpr (ih n id heq)
    | probe =>
      simp only [Endpoint.requests, Plan.request, Option.toList_some, List.singleton_append,
        observed_cons] at heq
      exact spared_probe.mpr (ih (n + 1) id (List.append_inj_right heq (by split <;> rfl)))
    | rpc method args timeout =>
      simp only [Endpoint.requests, Plan.request, Option.toList_some, List.singleton_append,
        observed_cons] at heq
      obtain ⟨hfirst, hrest⟩ := List.append_inj heq (by split <;> rfl)
      refine spared_rpc.mpr ⟨?_, ih (n + 1) (id + 1) hrest⟩
      cases hroute : (route n).mismatching pin with
      | false => rfl
      | true =>
        simp only [hroute, if_true, List.cons.injEq, Prod.mk.injEq, HttpRequest.written,
          Endpoint.post, Written.mk.injEq, String.append_right_inj] at hfirst
        exact absurd hfirst.1.2.2.2.1 (by simpa using htoken)

theorem token_append_ne (token : String) : token ++ "x" ≠ token := by
  intro h
  have := congrArg String.length h
  simp at this

section Runs

variable [CharTables]

/-- The client with another token. -/
def Client.withToken (self : Client) (token : String) (h : token ≠ "") : Client :=
  { self with token := token, token_nonempty := h }

def AsyncClient.withToken (self : AsyncClient) (token : String) (h : token ≠ "") : AsyncClient :=
  { self with token := token, token_nonempty := h }

/-- **What a pin protects.**  `route` says where each request of a run goes.  What the mismatching
peers see is the same for all tokens and all parameters if and only if none of them is sent an
RPC call. -/
theorem pinned_requests_iff (pin : Bytes) (route : Nat → Link) :
    (∀ (self : Client) (steps : List (Client.Call × Answer)), self.endpoint.pin = some pin →
      ((∀ (self' : Client) (steps' : List (Client.Call × Answer)),
          self'.endpoint = { self.endpoint with token := self'.token } →
          List.Forall₂ Plan.SameShape ((steps.map Prod.fst).map Client.Call.plan)
            ((steps'.map Prod.fst).map Client.Call.plan) →
          observed pin route 0 (Loop.session self'.program firstId steps').2.1
            = observed pin route 0 (Loop.session self.program firstId steps).2.1) ↔
        Spared pin route 0 ((steps.map Prod.fst).map Client.Call.kind))) ∧
    (∀ (self : AsyncClient) (evs : List (Event AsyncClient.Call Answer)),
      self.endpoint.pin = some pin →
      ((∀ (self' : AsyncClient) (evs' : List (Event AsyncClient.Call Answer)),
          self'.endpoint = { self.endpoint with token := self'.token } →
          List.Forall₂ Plan.SameShape ((Loop.calls evs).map AsyncClient.Call.plan)
            ((Loop.calls evs').map AsyncClient.Call.plan) →
          observed pin route 0 ((Loop.run self'.program firstId evs').log.map Prod.snd)
            = observed pin route 0 ((Loop.run self.program firstId evs).log.map Prod.snd)) ↔
        Spared pin route 0 ((Loop.calls evs).map AsyncClient.Call.kind))) := by
  constructor
  · intro self steps hpin
    have hkinds : (steps.map Prod.fst).map Client.Call.kind
        = ((steps.map Prod.fst).map Client.Call.plan).map Plan.kind := by
      simp [Function.comp_def, Client.Call.plan_kind]
    rw [hkinds]
    constructor
    · intro h
      have heq := h (self.withToken (self.token ++ "x") (by simp)) steps rfl
        (List.forall₂_same.mpr fun p _ => .refl p)
      rw [(Client.performs _).session_log, self.performs.session_log] at heq
      exact spared_of_observed_eq (token_append_ne self.token) _ _ _ heq
    · intro hspared self' steps' hself hshape
      rw [self'.performs.session_log, self.performs.session_log]
      exact observed_eq_of_spared (by rw [hself]; rfl) hshape _ _ hspared
  · intro self evs hpin
    have hkinds : (Loop.calls evs).map AsyncClient.Call.kind
        = ((Loop.calls evs).map AsyncClient.Call.plan).map Plan.kind := by
      simp [Function.comp_def, AsyncClient.Call.plan_kind]
    rw [hkinds]
    constructor
    · intro h
      have heq := h (self.withToken (self.token ++ "x") (by simp)) evs rfl
        (List.forall₂_same.mpr fun p _ => .refl p)
      rw [(AsyncClient.performs _).run_log, self.performs.run_log] at heq
      exact spared_of_observed_eq (token_append_ne self.token) _ _ _ heq
    · intro hspared self' evs' hself hshape
      rw [self'.performs.run_log, self.performs.run_log]
      exact observed_eq_of_spared (by rw [hself]; rfl) hshape _ _ hspared

omit [CharTables] in
/-- A probe on the client that pins thirty-two zeros, in view of a peer with another certificate. -/
theorem pinned_requests_probe :
    letI : CharTables := asciiTables
    let pin : Bytes := List.replicate 32 0
    let steps : List (Client.Call × Answer) :=
      [(.shared .healthz, .ok ⟨200, "ok", none, some ⟨some ⟨some [0x30]⟩⟩⟩)]
    ∃ c, Client.init "https://wallet:7448" "secret" defaultTimeout none
        (.str (formatFingerprint pin)) = .ok c ∧
      observed pin (fun _ => .peer [0x30]) 0
          (Loop.session (c.withToken "other" (by decide)).program firstId steps).2.1
        = observed pin (fun _ => .peer [0x30]) 0
          (Loop.session c.program firstId steps).2.1 := by
  let _ : CharTables := asciiTables
  intro pin steps
  obtain ⟨c, hc, hE⟩ := exists_pinned
  refine ⟨c, hc, ((pinned_requests_iff pin _).1 c steps (by rw [hE])).mpr ?_ _ steps rfl
    (List.forall₂_same.mpr fun p _ => .refl p)⟩
  intro k hk
  match k, hk with
  | 0, hk => cases hk
  | k + 1, hk => cases hk

omit [CharTables] in
/-- **A ping shows its token to a peer with another certificate.** -/
theorem ping_reveals_token :
    letI : CharTables := asciiTables
    let pin : Bytes := List.replicate 32 0
    let steps : List (Client.Call × Answer) :=
      [(.shared .ping, .ok ⟨200, "", none, some ⟨some ⟨some [0x30]⟩⟩⟩)]
    ∃ c, Client.init "https://wallet:7448" "secret" defaultTimeout none
        (.str (formatFingerprint pin)) = .ok c ∧
      observed pin (fun _ => .peer [0x30]) 0
          (Loop.session (c.withToken "other" (by decide)).program firstId steps).2.1
        ≠ observed pin (fun _ => .peer [0x30]) 0
          (Loop.session c.program firstId steps).2.1 := by
  let _ : CharTables := asciiTables
  intro pin steps
  obtain ⟨c, hc, hE⟩ := exists_pinned
  refine ⟨c, hc, fun heq => ?_⟩
  rw [(Client.performs _).session_log, c.performs.session_log] at heq
  have htoken : (c.withToken "other" (by decide)).endpoint.token ≠ c.endpoint.token := by
    rw [hE]
    exact (by decide : "other" ≠ "secret")
  have hspared := spared_of_observed_eq htoken _ _ _ heq 0 rfl
  exact absurd hspared (by decide +kernel)

end Runs

end Exfer
