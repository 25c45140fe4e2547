/-
# The connection pool under a pinned client

`httpx` sends over a pool of connections.  A reply takes one from the moment the base transport
returns it to the moment it is closed, and `httpx` closes what its transport returns to it.  The
pinning transports hold the reply in between, and when the check raises they drop it.

* Section 1 writes the transports, `httpx`'s `send`, `_call` and `healthz` once more, over the
  pool.  `Client.pooledProgram_eq` and its twin say that this is what `Pool.instrument` makes of
  the code without a pool, method by method.
* `pool_kept_iff`: every call of a run leaves the pool as it found it exactly when no reply that
  fails the check is delivered.  Each such reply costs a connection, and `Client.pool_exhausted`
  is where that ends: the mismatch is reported as an unreachable walletd.
-/
import Exfer.Lib.Pool
import Exfer.Pinning

namespace Exfer

open Py

/-! ## 1. The code over the pool -/

/-- What the base transport raises when it finds no connection left. -/
def poolTimeout : Exc := .httpx .poolTimeout ""

/-- Client code over a pool of connections. -/
abbrev PoolSession := ExceptT Exc (Coro (Pooled Nat) HttpRequest Answer)

/-- A reply takes a connection; an error takes none. -/
def takeConnection (capacity : Nat) (x : Answer) (s : Pooled Nat) : Pooled Nat :=
  if s.held < capacity ∧ x.isOk = true then ⟨s.inner, s.held + 1⟩ else s

/-- `httpx.HTTPTransport.handle_request` and its async twin. -/
def pooledBaseHandleRequest (capacity : Nat) (request : HttpRequest) : PoolSession Response :=
  ExceptT.mk (Coro.await request fun x => Coro.update (takeConnection capacity x) fun s =>
    Coro.ret (if s.held < capacity then x else .error poolTimeout))

/-- `response.close()`. -/
def closeResponse : PoolSession Unit :=
  ExceptT.lift (Coro.update Pool.giveBack fun _ => Coro.ret ())

/-- `_IdCounter.next`. -/
def pooledNextId : PoolSession Nat :=
  ExceptT.lift (Coro.update (fun s => ⟨s.inner + 1, s.held⟩) fun s => Coro.ret s.inner)

/-- Raise or return. -/
def pooledExcept {α : Type} (r : Except Exc α) : PoolSession α := ExceptT.mk (pure r)

/-- `_FingerprintHTTPTransport.handle_request`. -/
def FingerprintHTTPTransport.pooledHandleRequest (self : FingerprintHTTPTransport)
    (capacity : Nat) (request : HttpRequest) : PoolSession Response := do
  let response ← pooledBaseHandleRequest capacity request
  -- where this raises, nobody is left to close `response`
  pooledExcept (verifyPeerFingerprint response self.expected)
  return response

/-- `_FingerprintAsyncHTTPTransport.handle_async_request`. -/
def FingerprintAsyncHTTPTransport.pooledHandleAsyncRequest
    (self : FingerprintAsyncHTTPTransport) (capacity : Nat) (request : HttpRequest) :
    PoolSession Response := do
  let response ← pooledBaseHandleRequest capacity request
  pooledExcept (verifyPeerFingerprint response self.expected)
  return response

/-- `httpx`'s `send`, which reads and closes what the transport returns.  An answer is the whole
reply, so nothing else runs between the two. -/
def HttpxClient.pooledSend {Pin : Type} (handle : Pin → Nat → HttpRequest → PoolSession Response)
    (self : HttpxClient Pin) (capacity : Nat) (verb : Verb) (url : String)
    (headers : List (String × String) := []) (json : Option Dict := none)
    (timeout : Option Int := none) : PoolSession Response := do
  let request : HttpRequest :=
    ⟨verb, url, self.headers ++ headers, json, (timeout.map Json.int).getD self.timeout⟩
  let response ← match self.transport with
    | .pinning t => handle t capacity request
    | .default | .custom _ => pooledBaseHandleRequest capacity request
  closeResponse
  return response

section Code

variable [CharTables]

/-- `Client._call`. -/
def Client.pooledCall (self : Client) (capacity : Nat) (method : String) (params : Option Dict)
    (requestTimeout : Option Int := none) : PoolSession Json := do
  let envelope := buildEnvelope method params (← pooledNextId)
  let resp ← try
      self.http.pooledSend FingerprintHTTPTransport.pooledHandleRequest capacity .post
        (self.url ++ "/") [("Authorization", "Bearer " ++ self.token)] (some envelope)
        requestTimeout
    catch exc => throw (if exc.isHTTPError then wrapHttpxError exc else exc)
  pooledExcept (decodeResponse resp)

omit [CharTables] in
/-- `Client.healthz`. -/
def Client.pooledHealthz (self : Client) (capacity : Nat) : PoolSession Ret := do
  let resp ← try
      some <$> self.http.pooledSend FingerprintHTTPTransport.pooledHandleRequest capacity .get
        (self.url ++ "/healthz")
    catch exc => if exc.isHTTPError then pure none else throw exc
  match resp with
  | none => return .value (.bool false)
  | some resp => return .value (.bool (resp.statusCode == 200 && startswith resp.text "ok"))

/-- `AsyncClient._call`. -/
def AsyncClient.pooledCall (self : AsyncClient) (capacity : Nat) (method : String)
    (params : Option Dict) (requestTimeout : Option Int := none) : PoolSession Json := do
  let envelope := buildEnvelope method params (← pooledNextId)
  let resp ← try
      self.http.pooledSend FingerprintAsyncHTTPTransport.pooledHandleAsyncRequest capacity .post
        (self.url ++ "/") [("Authorization", "Bearer " ++ self.token)] (some envelope)
        requestTimeout
    catch exc => throw (if exc.isHTTPError then wrapHttpxError exc else exc)
  pooledExcept (decodeResponse resp)

omit [CharTables] in
/-- `AsyncClient.healthz`. -/
def AsyncClient.pooledHealthz (self : AsyncClient) (capacity : Nat) : PoolSession Ret := do
  let resp ← try
      some <$> self.http.pooledSend FingerprintAsyncHTTPTransport.pooledHandleAsyncRequest
        capacity .get (self.url ++ "/healthz")
    catch exc => if exc.isHTTPError then pure none else throw exc
  match resp with
  | none => return .value (.bool false)
  | some resp => return .value (.bool (resp.statusCode == 200 && startswith resp.text "ok"))

end Code

/-! ## 2. The code over the pool is the code, instrumented -/

/-- The pool of an endpoint.  The reply that is dropped is the one that is not accepted. -/
def Endpoint.pool (E : Endpoint) (capacity : Nat) : Pool Answer where
  capacity := capacity
  opens x := x.isOk
  drops x := !(E.accept x).isOk
  full := .error poolTimeout

/-- A session over the pool. -/
def Session.pooled {α : Type} (P : Pool Answer) (x : Session α) : PoolSession α :=
  ExceptT.mk (P.instrument x.run)

section Morphism

variable (P : Pool Answer) {α β : Type}

theorem pooled_bind (x : Session α) (f : α → Session β) :
    Session.pooled P (x >>= f) = Session.pooled P x >>= fun a => Session.pooled P (f a) := by
  refine P.instrument_bind x.run fun r => ?_
  cases r with
  | ok a => rfl
  | error e => rfl

theorem pooled_map (x : Session α) (f : α → β) :
    Session.pooled P (f <$> x) = f <$> Session.pooled P x := by
  refine P.instrument_bind x.run fun r => ?_
  cases r with
  | ok a => rfl
  | error e => rfl

theorem pooled_tryCatch (x : Session α) (h : Exc → Session α) :
    Session.pooled P (tryCatch x h) = tryCatch (Session.pooled P x) fun e =>
      Session.pooled P (h e) := by
  refine P.instrument_bind x.run fun r => ?_
  cases r with
  | ok a => rfl
  | error e => rfl

theorem pooled_ofExcept (r : Except Exc α) : Session.pooled P (ofExcept r) = pooledExcept r := rfl

theorem pooled_nextId : Session.pooled P nextId = pooledNextId := rfl

theorem pooled_throw (e : Exc) : Session.pooled P (throw e : Session α) = throw e := rfl

theorem pooled_pure (a : α) : Session.pooled P (pure a : Session α) = pure a := rfl

theorem pooled_ite (b : Bool) (x y : Session α) :
    Session.pooled P (if b then x else y)
      = if b then Session.pooled P x else Session.pooled P y := by
  cases b <;> rfl

end Morphism

/-- What `httpx` does with what its transport returned or raised. -/
def closing (v : Answer) : Coro (Pooled Nat) HttpRequest Answer Answer :=
  if v.isOk then Coro.update Pool.giveBack fun _ => Coro.ret v else Coro.ret v

/-- **An exchange over the pool**: the reply that is seen is held against the pin, and closed if
it gets past it. -/
theorem pooled_exchange (E : Endpoint) (capacity : Nat) (request : HttpRequest) :
    Session.pooled (E.pool capacity) (exchange request E.accept)
      = ExceptT.mk (Coro.await request fun x => Coro.update (takeConnection capacity x) fun s =>
          closing (E.accept (if s.held < capacity then x else .error poolTimeout))) := by
  refine Coro.await_congr fun x => Coro.update_congr fun s => ?_
  by_cases hroom : s.held < capacity
  · have hopen : (x.isOk && (E.accept x).isOk) = (E.accept x).isOk := by
      cases x with
      | ok r => rfl
      | error e => rfl
    simp only [Endpoint.pool, Bool.not_not, hroom, if_true, hopen, closing]
    rfl
  · simp only [Endpoint.pool, hroom, if_false]
    rfl

/-- What `send` does, once the transport has handed over `v` or raised. -/
theorem closing_eq (v : Answer) :
    (ExceptT.mk (Coro.ret v) >>= fun response => do
      closeResponse
      return response : PoolSession Response) = ExceptT.mk (closing v) := by
  cases v with
  | ok r => rfl
  | error e => rfl

/-- The pinning transport on what the base transport has returned or raised. -/
theorem pooledCheck_eq (v : Answer) (expected : Bytes) :
    (ExceptT.mk (Coro.ret v) >>= fun response => do
      pooledExcept (verifyPeerFingerprint response expected)
      return response : PoolSession Response)
      = ExceptT.mk (Coro.ret (do
          let response ← v
          verifyPeerFingerprint response expected
          return response)) := by
  cases v with
  | error e => rfl
  | ok r =>
    change (pooledExcept (verifyPeerFingerprint r expected) >>= fun _ => pure r)
      = ExceptT.mk (Coro.ret (verifyPeerFingerprint r expected >>= fun _ => pure r))
    cases verifyPeerFingerprint r expected with
    | ok u => rfl
    | error e => rfl

/-- **Sending over the pool, for either class.** -/
theorem pooled_send {Pin : Type} {handle : Pin → HttpRequest → Session Response}
    {handle' : Pin → Nat → HttpRequest → PoolSession Response} {expected : Pin → Bytes}
    (hhandle : ∀ t request, handle t request = (do
      let response ← baseHandleRequest request
      ofExcept (verifyPeerFingerprint response (expected t))
      return response))
    (hhandle' : ∀ t capacity request, handle' t capacity request = (do
      let response ← pooledBaseHandleRequest capacity request
      pooledExcept (verifyPeerFingerprint response (expected t))
      return response))
    (http : HttpxClient Pin) (E : Endpoint) (hpin : E.pin = http.pin expected) (capacity : Nat)
    (verb : Verb) (url : String) (headers : List (String × String)) (json : Option Dict)
    (timeout : Option Int) :
    Session.pooled (E.pool capacity) (http.send handle verb url headers json timeout)
      = http.pooledSend handle' capacity verb url headers json timeout := by
  rw [send_eq hhandle http E hpin, pooled_exchange, HttpxClient.pooledSend]
  rw [HttpxClient.pin] at hpin
  cases htransport : http.transport with
  | pinning t =>
    rw [htransport] at hpin
    have haccept : ∀ v, E.accept v = (do
        let response ← v
        verifyPeerFingerprint response (expected t)
        return response) := by
      intro v
      rw [Endpoint.accept, hpin]
    simp only [hhandle']
    refine Coro.await_congr fun x => Coro.update_congr fun s => ?_
    rw [haccept]
    refine (closing_eq _).symm.trans ?_
    rw [← pooledCheck_eq]
    rfl
  | default | custom _ =>
    rw [htransport] at hpin
    have haccept : ∀ v, E.accept v = v := by
      intro v
      rw [Endpoint.accept, hpin]
      cases v <;> rfl
    refine Coro.await_congr fun x => Coro.update_congr fun s => ?_
    rw [haccept]
    exact (closing_eq _).symm

namespace Client

theorem pooled_send (self : Client) (capacity : Nat) (verb : Verb) (url : String)
    (headers : List (String × String)) (json : Option Dict) (timeout : Option Int) :
    Session.pooled (self.endpoint.pool capacity)
        (self.http.send FingerprintHTTPTransport.handleRequest verb url headers json timeout)
      = self.http.pooledSend FingerprintHTTPTransport.pooledHandleRequest capacity verb url headers
          json timeout :=
  Exfer.pooled_send (fun _ _ => rfl) (fun _ _ _ => rfl) self.http self.endpoint rfl capacity verb
    url headers json timeout

/-- **`healthz` over the pool** is `healthz`, instrumented. -/
theorem pooled_healthz (self : Client) (capacity : Nat) :
    Session.pooled (self.endpoint.pool capacity) self.healthz = self.pooledHealthz capacity := by
  simp only [healthz, pooledHealthz, pooled_bind, pooled_tryCatch, pooled_map, pooled_send,
    pooled_ite, pooled_pure, pooled_throw]
  refine bind_congr fun resp => ?_
  cases resp <;> rfl

variable [CharTables]

/-- **`_call` over the pool** is `_call`, instrumented. -/
theorem pooled_call (self : Client) (capacity : Nat) (method : String) (params : Option Dict)
    (requestTimeout : Option Int) :
    Session.pooled (self.endpoint.pool capacity) (self.call method params requestTimeout)
      = self.pooledCall capacity method params requestTimeout := by
  simp only [call, pooledCall, pooled_bind, pooled_tryCatch, pooled_nextId, pooled_ofExcept,
    pooled_send, pooled_throw]

end Client

section Twin

/-- The two classes have one `healthz` over the pool. -/
theorem Client.toAsync_pooledHealthz (self : Client) (capacity : Nat) :
    self.toAsync.pooledHealthz capacity = self.pooledHealthz capacity := by
  obtain ⟨url, token, ⟨timeout, transport, headers⟩, htoken, hheaders, hpinned⟩ := self
  cases transport <;> rfl

theorem AsyncClient.pooled_healthz (self : AsyncClient) (capacity : Nat) :
    Session.pooled (self.endpoint.pool capacity) self.healthz = self.pooledHealthz capacity := by
  obtain ⟨c, rfl⟩ := self.exists_toAsync
  rw [c.toAsync_endpoint, c.toAsync_healthz, c.toAsync_pooledHealthz, c.pooled_healthz]

variable [CharTables]

/-- And one `_call`. -/
theorem Client.toAsync_pooledCall (self : Client) (capacity : Nat) (method : String)
    (params : Option Dict) (requestTimeout : Option Int) :
    self.toAsync.pooledCall capacity method params requestTimeout
      = self.pooledCall capacity method params requestTimeout := by
  obtain ⟨url, token, ⟨timeout, transport, headers⟩, htoken, hheaders, hpinned⟩ := self
  cases transport <;> rfl

theorem AsyncClient.pooled_call (self : AsyncClient) (capacity : Nat) (method : String)
    (params : Option Dict) (requestTimeout : Option Int) :
    Session.pooled (self.endpoint.pool capacity) (self.call method params requestTimeout)
      = self.pooledCall capacity method params requestTimeout := by
  obtain ⟨c, rfl⟩ := self.exists_toAsync
  rw [c.toAsync_endpoint, c.toAsync_call, c.toAsync_pooledCall, c.pooled_call]

end Twin

/-! ## 3. Runs over the pool -/

section Runs

variable [CharTables]

/-- The calls of a `Client`, over its pool. -/
def Client.pooledProgram (self : Client) (capacity : Nat) (c : Client.Call) :
    Coro (Pooled Nat) HttpRequest Answer (Except Exc Ret) :=
  (self.endpoint.pool capacity).instrument (self.program c)

/-- The calls of an `AsyncClient`, over its pool. -/
def AsyncClient.pooledProgram (self : AsyncClient) (capacity : Nat) (c : AsyncClient.Call) :
    Coro (Pooled Nat) HttpRequest Answer (Except Exc Ret) :=
  (self.endpoint.pool capacity).instrument (self.program c)

/-- A call over the pool: what it amounts to, carried out with `_call` and `healthz`. -/
def Client.pooledInvoke (self : Client) (capacity : Nat) (c : Client.Call) : PoolSession Ret :=
  match c.plan with
  | .reject e => pooledExcept (.error e)
  | .probe => self.pooledHealthz capacity
  | .rpc method args timeout => do
    let result ← self.pooledCall capacity method (some args.encode) timeout
    pooledExcept (c.unwrap result)

def AsyncClient.pooledInvoke (self : AsyncClient) (capacity : Nat) (c : AsyncClient.Call) :
    PoolSession Ret :=
  match c.plan with
  | .reject e => pooledExcept (.error e)
  | .probe => self.pooledHealthz capacity
  | .rpc method args timeout => do
    let result ← self.pooledCall capacity method (some args.encode) timeout
    pooledExcept (c.unwrap result)

/-- **Every method over the pool** is that method, instrumented. -/
theorem Client.pooledProgram_eq (self : Client) (capacity : Nat) (c : Client.Call) :
    self.pooledProgram capacity c = (self.pooledInvoke capacity c).run := by
  have hprogram : self.pooledProgram capacity c = (Session.pooled (self.endpoint.pool capacity)
      (self.endpoint.perform (fun result => c.unwrap result) c.plan)).run :=
    congrArg _ (self.program_eq c)
  rw [hprogram, pooledInvoke]
  cases c.plan with
  | reject e => rfl
  | probe => rw [← self.pooled_healthz, self.healthz_eq, Endpoint.perform]
  | rpc method args timeout =>
    rw [← unwrapped_eq, ← self.call_eq, pooled_bind, self.pooled_call]
    rfl

theorem AsyncClient.pooledProgram_eq (self : AsyncClient) (capacity : Nat)
    (c : AsyncClient.Call) :
    self.pooledProgram capacity c = (self.pooledInvoke capacity c).run := by
  have hprogram : self.pooledProgram capacity c = (Session.pooled (self.endpoint.pool capacity)
      (self.endpoint.perform (fun result => c.unwrap result) c.plan)).run :=
    congrArg _ (self.program_eq c)
  rw [hprogram, pooledInvoke]
  cases c.plan with
  | reject e => rfl
  | probe => rw [← self.pooled_healthz, self.healthz_eq, Endpoint.perform]
  | rpc method args timeout =>
    rw [← unwrapped_eq, ← self.call_eq, pooled_bind, self.pooled_call]
    rfl

/-- A client that has handed out no id, over a pool that is whole. -/
def wholePool : Pooled Nat := ⟨firstId, 0⟩

/-- What a run of a `Client` leaves of its pool. -/
structure Client.PoolKept (client : Client) (capacity : Nat)
    (steps : List (Client.Call × Answer)) : Prop where
  /-- After each call, as many connections are out as before it. -/
  kept : ∀ n,
    (Loop.session (client.pooledProgram capacity) wholePool (steps.take (n + 1))).1.held
      = (Loop.session (client.pooledProgram capacity) wholePool (steps.take n)).1.held
  /-- No outcome is one of the pool's making. -/
  outcomes : (Loop.session (client.pooledProgram capacity) wholePool steps).2.2
    = (Loop.session client.program firstId steps).2.2

/-- What a run of an `AsyncClient` leaves of its pool. -/
structure AsyncClient.PoolKept (client : AsyncClient) (capacity : Nat)
    (evs : List (Event AsyncClient.Call Answer)) : Prop where
  /-- When a call ends, as many connections are out as before it started. -/
  kept : ∀ i m n, Loop.Spans (client.pooledProgram capacity) wholePool evs i m n →
    (Loop.run (client.pooledProgram capacity) wholePool (evs.take (n + 1))).shared.held
      = (Loop.run (client.pooledProgram capacity) wholePool (evs.take m)).shared.held
  /-- No outcome is one of the pool's making. -/
  outcomes : ∀ i, (Loop.run (client.pooledProgram capacity) wholePool evs).result i
    = (Loop.run client.program firstId evs).result i

omit [CharTables] in
/-- What costs a connection is a reply that fails the check. -/
theorem pool_leaks_iff {E : Endpoint} {pin : Bytes} (hpin : E.pin = some pin) (capacity : Nat)
    (x : Answer) : (E.pool capacity).leaks x = true ↔ ∃ r, x = .ok r ∧ ¬ Authenticated pin r := by
  cases x with
  | error e => simp [Pool.leaks, Endpoint.pool, Except.isOk, Except.toBool]
  | ok r =>
    by_cases hauth : Authenticated pin r
    · have haccept : E.accept (.ok r) = .ok r := by
        refine accept_authenticated fun expected hexpected => ?_
        rw [hpin, Option.some.injEq] at hexpected
        exact hexpected ▸ hauth
      simp [Pool.leaks, Endpoint.pool, haccept, Except.isOk, Except.toBool, hauth]
    · cases hverify : verifyPeerFingerprint r pin with
      | ok u => exact absurd ((verify_ok_iff r pin).mp hverify) hauth
      | error e =>
        have haccept := accept_unauthenticated hpin hverify
        simp [Pool.leaks, Endpoint.pool, haccept, Except.isOk, Except.toBool, hauth]

omit [CharTables] in
/-- Every call that is not refused hands a request over. -/
theorem Plan.request_isSome_iff (p : Plan) (E : Endpoint) (id : Nat) :
    (p.request E id).isSome = true ↔ p.kind ≠ .refused := by
  cases p <;> simp [Plan.request, Plan.kind]

theorem Client.request_isSome_iff (self : Client) (c : Client.Call) (id : Nat) :
    ((self.program c).advance id).2.request.isSome = true ↔ c.kind ≠ .refused := by
  rw [(self.performs.advance c id).2, Plan.request_isSome_iff, Client.Call.plan_kind]

/-- When no blocking call costs a connection. -/
theorem Client.not_leakStep_iff (self : Client) (capacity : Nat) {pin : Bytes}
    (hpin : self.endpoint.pin = some pin) (steps : List (Client.Call × Answer)) :
    (∀ n, ¬ (self.endpoint.pool capacity).LeakStep self.program firstId steps n) ↔
      ∀ step ∈ steps, step.1.kind ≠ .refused → ∀ r, step.2 = .ok r → Authenticated pin r := by
  constructor
  · intro hnone step hstep hkind r hr
    obtain ⟨n, hn⟩ := List.mem_iff_getElem?.mp hstep
    by_contra hauth
    exact hnone n ⟨step.1, step.2, hn, (self.request_isSome_iff _ _).mpr hkind,
      (pool_leaks_iff hpin capacity _).mpr ⟨r, hr, hauth⟩⟩
  · rintro hall n ⟨c, x, hstep, hrequested, hleaks⟩
    obtain ⟨r, hr, hauth⟩ := (pool_leaks_iff hpin capacity x).mp hleaks
    have hkind := (self.request_isSome_iff c _).mp hrequested
    exact hauth (hall (c, x) (List.mem_of_getElem? hstep) hkind r hr)

/-- When no event costs one. -/
theorem AsyncClient.not_leakAt_iff (self : AsyncClient) (capacity : Nat) {pin : Bytes}
    (hpin : self.endpoint.pin = some pin) (evs : List (Event AsyncClient.Call Answer)) :
    (∀ n, ¬ (self.endpoint.pool capacity).LeakAt self.program firstId evs n) ↔
      ∀ n i r, evs[n]? = some (.reply i (.ok r)) →
        (Loop.run (self.pooledProgram capacity) wholePool (evs.take n)).waits i = true →
        Authenticated pin r := by
  constructor
  · intro hnone n i r hreply hwait
    by_contra hauth
    exact hnone n ⟨i, .ok r, hreply, hwait,
      (pool_leaks_iff hpin capacity _).mpr ⟨r, rfl, hauth⟩⟩
  · rintro hall n ⟨i, x, hreply, hwait, hleaks⟩
    obtain ⟨r, rfl, hauth⟩ := (pool_leaks_iff hpin capacity x).mp hleaks
    exact hauth (hall n i r hreply hwait)

/-- **A pinned client keeps its pool as long as no reply fails the check.**  On `Client`, that is
no reply to a call that hands a request over; on `AsyncClient`, none that is delivered to a call
that waits for it. -/
theorem pool_kept_iff (capacity : Nat) (hcap : 0 < capacity) (pin : Bytes) :
    (∀ (self : Client) (steps : List (Client.Call × Answer)), self.endpoint.pin = some pin →
      (self.PoolKept capacity steps ↔
        ∀ step ∈ steps, step.1.kind ≠ .refused → ∀ r, step.2 = .ok r → Authenticated pin r)) ∧
    (∀ (self : AsyncClient) (evs : List (Event AsyncClient.Call Answer)),
      self.endpoint.pin = some pin →
      (self.PoolKept capacity evs ↔
        ∀ n i r, evs[n]? = some (.reply i (.ok r)) →
          (Loop.run (self.pooledProgram capacity) wholePool (evs.take n)).waits i = true →
          Authenticated pin r)) := by
  constructor
  · intro self steps hpin
    have hkept := (self.endpoint.pool capacity).session_kept_iff firstId steps
      self.performs.oneShot hcap
    rw [← self.not_leakStep_iff capacity hpin]
    constructor
    · exact fun h => hkept.mp h.kept
    · intro hnone
      refine ⟨hkept.mpr hnone, ?_⟩
      exact congrArg (fun r => r.2.2)
        (Pool.session_eq_of_not_leak self.performs.oneShot hcap hnone)
  · intro self evs hpin
    have hkept := (self.endpoint.pool capacity).kept_iff firstId evs self.performs.oneShot hcap
    rw [← self.not_leakAt_iff capacity hpin]
    constructor
    · exact fun h => hkept.mp h.kept
    · intro hnone
      refine ⟨hkept.mpr hnone, fun i => ?_⟩
      have hrun := Pool.run_eq_of_not_leak hcap hnone
      refine (congrArg (Loop.result · i) hrun).trans ?_
      exact Pool.loop_result _ _ _ _

/-- As many connections are out as replies have failed the check, while there is room. -/
theorem Client.held_of_mismatches (self : Client) (capacity : Nat) {pin : Bytes}
    (hpin : self.endpoint.pin = some pin) {steps : List (Client.Call × Answer)}
    (hlen : steps.length ≤ capacity)
    (hsteps : ∀ step ∈ steps, step.1.kind ≠ .refused ∧
      ∃ r, step.2 = .ok r ∧ ¬ Authenticated pin r) :
    (Loop.session (self.pooledProgram capacity) wholePool steps).1.held = steps.length := by
  have hcounts := (self.endpoint.pool capacity).counts_session firstId steps
    self.performs.oneShot
  have hheld := hcounts.eq_of_leaks hlen fun m hm => ?_
  · rw [Pool.sessionAt, List.take_length] at hheld
    exact hheld
  · obtain ⟨hkind, r, hr, hauth⟩ := hsteps steps[m] (List.getElem_mem hm)
    exact ⟨steps[m].1, steps[m].2, List.getElem?_eq_getElem hm,
      (self.request_isSome_iff _ _).mpr hkind,
      (pool_leaks_iff hpin capacity _).mpr ⟨r, hr, hauth⟩⟩

/-- **Where mismatches end**: after as many as the pool has connections, every call finds it
empty, whatever its peer would have answered. -/
theorem Client.pool_exhausted (self : Client) (capacity : Nat) {pin : Bytes}
    (hpin : self.endpoint.pin = some pin) {steps : List (Client.Call × Answer)}
    (hlen : steps.length = capacity)
    (hsteps : ∀ step ∈ steps, step.1.kind ≠ .refused ∧
      ∃ r, step.2 = .ok r ∧ ¬ Authenticated pin r) (c : Client.Call) (x : Answer) :
    (Loop.session (self.pooledProgram capacity) wholePool (steps ++ [(c, x)])).2.2.getLast?
      = some (self.endpoint.outcome (fun result => c.unwrap result) (.error poolTimeout)
        c.plan) := by
  have hheld := self.held_of_mismatches capacity hpin (Nat.le_of_eq hlen) hsteps
  have hseen : (self.endpoint.pool capacity).seen steps.length x = .error poolTimeout :=
    if_neg (by rw [hlen]; exact Nat.lt_irrefl capacity)
  have hlast := (self.endpoint.pool capacity).session_concat firstId steps self.performs.oneShot c x
  refine (congrArg (fun r => r.2.2.getLast?) hlast).trans ?_
  simp only [List.getLast?_concat, Option.some.injEq]
  have hout : (Loop.session (fun c => (self.endpoint.pool capacity).instrument (self.program c))
      ⟨firstId, 0⟩ steps).1.held = steps.length := hheld
  rw [hout, hseen, drive_outcome (self.program_eq c)]

/-- A client that pins a digest. -/
theorem exists_pinning {digest : Bytes} (hlen : digest.length = 32) :
    ∃ client, Client.init "https://wallet:7448" "secret" defaultTimeout none
        (.str (formatFingerprint digest)) = .ok client ∧ client.endpoint.pin = some digest := by
  obtain ⟨client, hclient, hE⟩ : ∃ c, Client.init "https://wallet:7448" "secret" defaultTimeout
      none (.str (formatFingerprint digest)) = .ok c ∧ c.endpoint
        = ⟨rstrip '/' "https://wallet:7448", "secret", defaultTimeout, some digest⟩ :=
    Client.init_format (by decide) (by decide) hlen
  exact ⟨client, hclient, by rw [hE]⟩

/-- The result `null`, under a certificate. -/
def nullReply (der : Bytes) : Response :=
  ⟨200, "\x7b\"result\": null\x7d", some (.obj [("result", .null)]), some ⟨some ⟨some der⟩⟩⟩

omit [CharTables] in
/-- A ping that is answered under the pinned certificate. -/
theorem pool_kept_ping :
    letI : CharTables := asciiTables
    ∃ client, Client.init "https://wallet:7448" "secret" defaultTimeout none
        (.str (formatFingerprint (sha256 [0x30]))) = .ok client ∧
      client.PoolKept 100 [(.shared .ping, .ok (nullReply [0x30]))] := by
  let _ : CharTables := asciiTables
  obtain ⟨client, hclient, hpin⟩ := exists_pinning (sha256_length [0x30])
  refine ⟨client, hclient, ((pool_kept_iff 100 (by decide) _).1 client _ hpin).mpr ?_⟩
  intro step hstep _ r hr
  rw [List.mem_singleton.mp hstep] at hr
  cases hr
  exact ⟨[0x30], rfl, rfl⟩

omit [CharTables] in
/-- **A hundred mismatches hide the next one.**  One ping that is answered under another
certificate leaves a connection out.  After a hundred, a ping that walletd itself would have
answered reports that walletd is unreachable. -/
theorem pool_lost :
    letI : CharTables := asciiTables
    ∃ client, Client.init "https://wallet:7448" "secret" defaultTimeout none
        (.str (formatFingerprint (sha256 [0x30]))) = .ok client ∧
      (Loop.session (client.pooledProgram 100) wholePool
        [(.shared .ping, .ok (nullReply [0x31]))]).1.held = 1 ∧
      (Loop.session (client.pooledProgram 100) wholePool
        (List.replicate 100 (.shared .ping, .ok (nullReply [0x31])) ++
          [(.shared .ping, .ok (nullReply [0x30]))])).2.2.getLast?
        = some (.error (.transport "walletd unreachable: ")) := by
  let _ : CharTables := asciiTables
  obtain ⟨client, hclient, hpin⟩ := exists_pinning (sha256_length [0x30])
  have hmismatch : ¬ Authenticated (sha256 [0x30]) (nullReply [0x31]) := by
    rintro ⟨der, hleaf, hder⟩
    cases hleaf
    exact absurd hder (by decide +kernel)
  have hsteps : ∀ n, ∀ step ∈ List.replicate n
      ((.shared .ping, .ok (nullReply [0x31])) : Client.Call × Answer),
      step.1.kind ≠ .refused ∧ ∃ r, step.2 = .ok r ∧ ¬ Authenticated (sha256 [0x30]) r := by
    intro n step hstep
    rw [List.eq_of_mem_replicate hstep]
    exact ⟨by decide, nullReply [0x31], rfl, hmismatch⟩
  refine ⟨client, hclient, ?_, ?_⟩
  · exact client.held_of_mismatches 100 hpin (by decide) (hsteps 1)
  · rw [client.pool_exhausted 100 hpin List.length_replicate (hsteps 100)]
    rfl

end Runs

end Exfer
