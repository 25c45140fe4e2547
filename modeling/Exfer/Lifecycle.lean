/-
# Closing a client

`close`, `aclose`, and the context managers.

`httpx` keeps whether its client has been closed, and a closed client raises before it asks its
transport.  What it raises is `closed` below; it is a `RuntimeError`, so neither `_call` nor
`healthz` catches it.  A close also shuts the connections, and what that does to the exchanges
under way is up to `httpx` and is not fixed here: `AsyncClient.aclose` is an event of a loop, which
answers any tasks with any exceptions or replies, and those that it ends later get an answer later.
Blocking code has no exchange under way when it calls `close`.

* Section 1 writes `httpx`'s `send`, `_call` and `healthz` once more, on a client that may have
  been closed.  `Client.gatedProgram_eq` and its twin say that this is the code of
  `Exfer.Client` behind a gate.
* `closed_for_good`: whatever the interleaving, nothing is handed over once the client is closed.
  A call that was made before comes to what it makes of its answer, which is a `TransportError` if
  `httpx` has ended its exchange.  A call that is made later raises at once.  Both have taken the
  ids they would have taken.
-/
import Exfer.Lib.Gate
import Exfer.Outcomes

namespace Exfer

open Py

/-! ## 1. The code on a client that may be closed -/

/-- Client code on an `httpx` client that may have been closed. -/
abbrev GateSession := ExceptT Exc (Coro (Gated Nat) HttpRequest Answer)

/-- Has the `httpx` client been closed? -/
def isClosed : GateSession Bool :=
  ExceptT.lift (Coro.update id fun s => Coro.ret s.shut)

/-- `httpx.Client.close`, with no exchange under way: from now on the client is closed. -/
def HttpxClient.close : GateSession Unit :=
  ExceptT.lift (Coro.update (fun s => ⟨s.inner, true⟩) fun _ => Coro.ret ())

/-- Code that does not look whether the client has been closed. -/
def Session.unchecked {α : Type} (x : Session α) : GateSession α :=
  ExceptT.mk (Gate.embed x.run)

/-- `httpx`'s `send`, which raises `closed` on a closed client.  Whether the client is closed is
looked up before the request is handed over; a close that comes later reaches the exchange as an
answer to it. -/
def HttpxClient.gatedSend {Pin : Type} (handle : Pin → HttpRequest → Session Response)
    (self : HttpxClient Pin) (closed : Exc) (verb : Verb) (url : String)
    (headers : List (String × String) := []) (json : Option Dict := none)
    (timeout : Option Int := none) : GateSession Response := do
  if ← isClosed then throw closed
  (self.send handle verb url headers json timeout).unchecked

/-- `_IdCounter.next`. -/
def gatedNextId : GateSession Nat := Session.unchecked nextId

/-- Raise or return. -/
def gatedExcept {α : Type} (r : Except Exc α) : GateSession α := ExceptT.mk (pure r)

namespace Client

/-- `close`. -/
def close (_ : Client) : GateSession Unit := HttpxClient.close

/-- `with client: body`.  `__enter__` does nothing, and `__exit__` closes the client and lets
what the body raised through. -/
def withBlock {α : Type} (self : Client) (body : GateSession α) : GateSession α :=
  ExceptT.mk (do
    let outcome ← body.run
    let _ ← self.close.run
    return outcome)

variable [CharTables]

/-- `_call`. -/
def gatedCall (self : Client) (closed : Exc) (method : String) (params : Option Dict)
    (requestTimeout : Option Int := none) : GateSession Json := do
  let envelope := buildEnvelope method params (← gatedNextId)
  let resp ← try
      self.http.gatedSend FingerprintHTTPTransport.handleRequest closed .post (self.url ++ "/")
        [("Authorization", "Bearer " ++ self.token)] (some envelope) requestTimeout
    catch exc => throw (if exc.isHTTPError then wrapHttpxError exc else exc)
  gatedExcept (decodeResponse resp)

omit [CharTables] in
/-- `healthz`. -/
def gatedHealthz (self : Client) (closed : Exc) : GateSession Ret := do
  let resp ← try
      some <$> self.http.gatedSend FingerprintHTTPTransport.handleRequest closed .get
        (self.url ++ "/healthz")
    catch exc => if exc.isHTTPError then pure none else throw exc
  match resp with
  | none => return .value (.bool false)
  | some resp => return .value (.bool (resp.statusCode == 200 && startswith resp.text "ok"))

/-- A call: what it amounts to, carried out with `_call` and `healthz`. -/
def gatedInvoke (self : Client) (closed : Exc) (c : Client.Call) : GateSession Ret :=
  match c.plan with
  | .reject e => gatedExcept (.error e)
  | .probe => self.gatedHealthz closed
  | .rpc method args timeout => do
    let result ← self.gatedCall closed method (some args.encode) timeout
    gatedExcept (c.unwrap result)

end Client

namespace AsyncClient

/-- `aclose`, which is also `__aexit__`.  The client is closed at once, and the tasks in `ended` get
what `httpx` ends their exchanges with. -/
def aclose (_ : AsyncClient) (ended : List (Nat × Answer)) : GateEvent AsyncClient.Call Answer :=
  .close ended

variable [CharTables]

/-- `_call`. -/
def gatedCall (self : AsyncClient) (closed : Exc) (method : String) (params : Option Dict)
    (requestTimeout : Option Int := none) : GateSession Json := do
  let envelope := buildEnvelope method params (← gatedNextId)
  let resp ← try
      self.http.gatedSend FingerprintAsyncHTTPTransport.handleAsyncRequest closed .post
        (self.url ++ "/") [("Authorization", "Bearer " ++ self.token)] (some envelope)
        requestTimeout
    catch exc => throw (if exc.isHTTPError then wrapHttpxError exc else exc)
  gatedExcept (decodeResponse resp)

omit [CharTables] in
/-- `healthz`. -/
def gatedHealthz (self : AsyncClient) (closed : Exc) : GateSession Ret := do
  let resp ← try
      some <$> self.http.gatedSend FingerprintAsyncHTTPTransport.handleAsyncRequest closed .get
        (self.url ++ "/healthz")
    catch exc => if exc.isHTTPError then pure none else throw exc
  match resp with
  | none => return .value (.bool false)
  | some resp => return .value (.bool (resp.statusCode == 200 && startswith resp.text "ok"))

/-- A call: what it amounts to, carried out with `_call` and `healthz`. -/
def gatedInvoke (self : AsyncClient) (closed : Exc) (c : AsyncClient.Call) : GateSession Ret :=
  match c.plan with
  | .reject e => gatedExcept (.error e)
  | .probe => self.gatedHealthz closed
  | .rpc method args timeout => do
    let result ← self.gatedCall closed method (some args.encode) timeout
    gatedExcept (c.unwrap result)

end AsyncClient

/-! ## 2. That is the code behind a gate -/

/-- A session behind the gate. -/
def Session.gated {α : Type} (closed : Exc) (x : Session α) : GateSession α :=
  ExceptT.mk (Gate.guard (.error closed) x.run)

section Morphism

variable (closed : Exc) {α β : Type}

theorem gated_bind (x : Session α) (f : α → Session β) :
    Session.gated closed (x >>= f)
      = Session.gated closed x >>= fun a => Session.gated closed (f a) := by
  refine Gate.guard_bind _ x.run fun r => ?_
  cases r with
  | ok a => rfl
  | error e => rfl

theorem gated_map (x : Session α) (f : α → β) :
    Session.gated closed (f <$> x) = f <$> Session.gated closed x := by
  refine Gate.guard_bind _ x.run fun r => ?_
  cases r with
  | ok a => rfl
  | error e => rfl

theorem gated_tryCatch (x : Session α) (h : Exc → Session α) :
    Session.gated closed (tryCatch x h)
      = tryCatch (Session.gated closed x) fun e => Session.gated closed (h e) := by
  refine Gate.guard_bind _ x.run fun r => ?_
  cases r with
  | ok a => rfl
  | error e => rfl

theorem gated_ofExcept (r : Except Exc α) : Session.gated closed (ofExcept r) = gatedExcept r :=
  rfl

theorem gated_nextId : Session.gated closed nextId = gatedNextId := rfl

theorem gated_throw (e : Exc) : Session.gated closed (throw e : Session α) = throw e := rfl

theorem gated_pure (a : α) : Session.gated closed (pure a : Session α) = pure a := rfl

theorem gated_ite (b : Bool) (x y : Session α) :
    Session.gated closed (if b then x else y)
      = if b then Session.gated closed x else Session.gated closed y := by
  cases b <;> rfl

end Morphism

/-- **Sending, for either class**: the pin has no say in the refusal. -/
theorem gated_send {Pin : Type} {handle : Pin → HttpRequest → Session Response}
    {expected : Pin → Bytes}
    (hhandle : ∀ t request, handle t request = (do
      let response ← baseHandleRequest request
      ofExcept (verifyPeerFingerprint response (expected t))
      return response))
    (http : HttpxClient Pin) (E : Endpoint) (hpin : E.pin = http.pin expected) (closed : Exc)
    (verb : Verb) (url : String) (headers : List (String × String)) (json : Option Dict)
    (timeout : Option Int) :
    Session.gated closed (http.send handle verb url headers json timeout)
      = http.gatedSend handle closed verb url headers json timeout := by
  rw [HttpxClient.gatedSend, send_eq hhandle http E hpin]
  refine Coro.update_congr fun s => ?_
  obtain ⟨s, shut⟩ := s
  cases shut with
  | true => rfl
  | false => rfl

namespace Client

theorem gated_send (self : Client) (closed : Exc) (verb : Verb) (url : String)
    (headers : List (String × String)) (json : Option Dict) (timeout : Option Int) :
    Session.gated closed
        (self.http.send FingerprintHTTPTransport.handleRequest verb url headers json timeout)
      = self.http.gatedSend FingerprintHTTPTransport.handleRequest closed verb url headers json
          timeout :=
  Exfer.gated_send (fun _ _ => rfl) self.http self.endpoint rfl closed verb url headers json
    timeout

/-- **`healthz` behind the gate.** -/
theorem gated_healthz (self : Client) (closed : Exc) :
    Session.gated closed self.healthz = self.gatedHealthz closed := by
  simp only [healthz, gatedHealthz, gated_bind, gated_tryCatch, gated_map, gated_send,
    gated_ite, gated_pure, gated_throw]
  refine bind_congr fun resp => ?_
  cases resp <;> rfl

variable [CharTables]

/-- **`_call` behind the gate.** -/
theorem gated_call (self : Client) (closed : Exc) (method : String) (params : Option Dict)
    (requestTimeout : Option Int) :
    Session.gated closed (self.call method params requestTimeout)
      = self.gatedCall closed method params requestTimeout := by
  simp only [call, gatedCall, gated_bind, gated_tryCatch, gated_nextId, gated_ofExcept,
    gated_send, gated_throw]

/-- The calls of a client that may be closed. -/
def gatedProgram (self : Client) (closed : Exc) (c : Client.Call) :
    Coro (Gated Nat) HttpRequest Answer (Except Exc Ret) :=
  Gate.guard (.error closed) (self.program c)

/-- **Every method** behind the gate is that method on a client that may be closed. -/
theorem gatedProgram_eq (self : Client) (closed : Exc) (c : Client.Call) :
    self.gatedProgram closed c = (self.gatedInvoke closed c).run := by
  have hprogram : self.gatedProgram closed c = (Session.gated closed
      (self.endpoint.perform (fun result => c.unwrap result) c.plan)).run :=
    congrArg _ (self.program_eq c)
  rw [hprogram, gatedInvoke]
  cases c.plan with
  | reject e => rfl
  | probe => rw [← self.gated_healthz, self.healthz_eq, Endpoint.perform]
  | rpc method args timeout =>
    rw [← unwrapped_eq, ← self.call_eq, gated_bind, self.gated_call]
    rfl

end Client

section Twin

/-- The two classes have one `healthz` behind the gate. -/
theorem Client.toAsync_gatedHealthz (self : Client) (closed : Exc) :
    self.toAsync.gatedHealthz closed = self.gatedHealthz closed := by
  obtain ⟨url, token, ⟨timeout, transport, headers⟩, htoken, hheaders, hpinned⟩ := self
  cases transport <;> rfl

theorem AsyncClient.gated_healthz (self : AsyncClient) (closed : Exc) :
    Session.gated closed self.healthz = self.gatedHealthz closed := by
  obtain ⟨c, rfl⟩ := self.exists_toAsync
  rw [c.toAsync_healthz, c.toAsync_gatedHealthz, c.gated_healthz]

variable [CharTables]

/-- And one `_call`. -/
theorem Client.toAsync_gatedCall (self : Client) (closed : Exc) (method : String)
    (params : Option Dict) (requestTimeout : Option Int) :
    self.toAsync.gatedCall closed method params requestTimeout
      = self.gatedCall closed method params requestTimeout := by
  obtain ⟨url, token, ⟨timeout, transport, headers⟩, htoken, hheaders, hpinned⟩ := self
  cases transport <;> rfl

theorem AsyncClient.gated_call (self : AsyncClient) (closed : Exc) (method : String)
    (params : Option Dict) (requestTimeout : Option Int) :
    Session.gated closed (self.call method params requestTimeout)
      = self.gatedCall closed method params requestTimeout := by
  obtain ⟨c, rfl⟩ := self.exists_toAsync
  rw [c.toAsync_call, c.toAsync_gatedCall, c.gated_call]

end Twin

namespace AsyncClient

variable [CharTables]

/-- The calls of a client that may be closed. -/
def gatedProgram (self : AsyncClient) (closed : Exc) (c : AsyncClient.Call) :
    Coro (Gated Nat) HttpRequest Answer (Except Exc Ret) :=
  Gate.guard (.error closed) (self.program c)

/-- **Every method** behind the gate is that method on a client that may be closed. -/
theorem gatedProgram_eq (self : AsyncClient) (closed : Exc) (c : AsyncClient.Call) :
    self.gatedProgram closed c = (self.gatedInvoke closed c).run := by
  have hprogram : self.gatedProgram closed c = (Session.gated closed
      (self.endpoint.perform (fun result => c.unwrap result) c.plan)).run :=
    congrArg _ (self.program_eq c)
  rw [hprogram, gatedInvoke]
  cases c.plan with
  | reject e => rfl
  | probe => rw [← self.gated_healthz, self.healthz_eq, Endpoint.perform]
  | rpc method args timeout =>
    rw [← unwrapped_eq, ← self.call_eq, gated_bind, self.gated_call]
    rfl

end AsyncClient

/-! ## 3. After the close -/

/-- What a call comes to on a closed client. -/
def Plan.closedOutcome (closed : Exc) : Plan → Except Exc Ret
  | .reject e => .error e
  | .probe | .rpc .. => .error closed

/-- **A `with` block** does what its body does, and leaves the client closed. -/
theorem Client.withBlock_drive {α : Type} (self : Client) (body : GateSession α)
    (answer : List HttpRequest → HttpRequest → Answer) (s : Gated Nat) :
    let B := body.run.drive answer s []
    (self.withBlock body).run.drive answer s [] = (⟨B.1.inner, true⟩, B.2) := by
  intro B
  exact Coro.drive_bind answer body.run _ s []

section Closed

variable [CharTables]

/-- A call that is refused its request raises what the refusal raises. -/
theorem PerformsWith.refused {κ : Type} {E : Endpoint} {unwrap : κ → Json → Except Exc Ret}
    {plan : κ → Plan} {prog : κ → Program} (h : PerformsWith E unwrap plan prog) {closed : Exc}
    (hclosed : closed.isHTTPError = false) (c : κ) (id : Nat) :
    (Gate.refused (.error closed) (prog c) id).2 = (plan c).closedOutcome closed := by
  rw [h c]
  cases plan c with
  | reject e => rfl
  | probe =>
    have halive : E.alive (.error closed) = .error closed := if_neg (by simp [hclosed])
    exact halive
  | rpc method args timeout =>
    have hsettle : E.settle (.error closed) = .error closed :=
      congrArg Except.error (if_neg (by simp [hclosed]))
    refine (congrArg (· >>= unwrap c) hsettle).trans ?_
    rfl

/-- What becomes of a run in which the client is closed, any number of times. -/
structure ClosesForGood {κ : Type} (E : Endpoint) (unwrap : κ → Json → Except Exc Ret)
    (plan : κ → Plan) (prog : κ → Program) (closed : Exc) (evs : List (GateEvent κ Answer)) :
    Prop where
  /-- Nothing is handed over afterwards. -/
  sent : (Gate.run (.error closed) prog firstId evs).log
    = (Loop.run prog firstId (Gate.before evs)).log
  /-- Every call takes its id, before and after. -/
  ids : (Gate.run (.error closed) prog firstId evs).shared.inner
    = (Loop.run prog firstId (Gate.events evs)).shared
  /-- A call that was made before comes to what it makes of the first answer to it. -/
  earlier : ∀ i c, (Loop.calls (Gate.before evs))[i]? = some c →
    (Gate.run (.error closed) prog firstId evs).result i
      = E.result (unwrap c) (Loop.answerTo (Gate.events evs) i) (plan c)
  /-- So it has failed, if `httpx` has ended its exchange. -/
  ended : ∀ i c f, (Loop.calls (Gate.before evs))[i]? = some c →
    Loop.answerTo (Gate.events evs) i = some (.error f) → f.isHTTPError = true →
    (Gate.run (.error closed) prog firstId evs).result i = some ((plan c).failed f)
  /-- A call that is made later has ended, without an answer. -/
  later : ∀ i c, (Loop.calls (Gate.before evs)).length ≤ i →
    (Loop.calls (Gate.events evs))[i]? = some c →
    (Gate.run (.error closed) prog firstId evs).result i = some ((plan c).closedOutcome closed)

/-- What a plan has come to when its exchange has failed. -/
theorem result_failed (E : Endpoint) (unwrap : Json → Except Exc Ret) {f : Exc}
    (hf : f.isHTTPError = true) (p : Plan) :
    E.result unwrap (some (.error f)) p = some (p.failed f) := by
  cases p with
  | reject e => rfl
  | probe | rpc _ _ _ => exact congrArg some (outcome_failed E unwrap hf _)

theorem PerformsWith.closesForGood {κ : Type} {E : Endpoint}
    {unwrap : κ → Json → Except Exc Ret} {plan : κ → Plan} {prog : κ → Program}
    (h : PerformsWith E unwrap plan prog) {closed : Exc} (hclosed : closed.isHTTPError = false)
    (evs : List (GateEvent κ Answer)) : ClosesForGood E unwrap plan prog closed evs := by
  have hprog := h.performs.oneShot
  obtain ⟨hbehind, -⟩ := Gate.behind_run (.error closed) hprog firstId evs
  have hearlier : ∀ i c, (Loop.calls (Gate.before evs))[i]? = some c →
      (Gate.run (.error closed) prog firstId evs).result i
        = E.result (unwrap c) (Loop.answerTo (Gate.events evs) i) (plan c) := by
    intro i c hc
    have hi := (List.getElem?_eq_some_iff.mp hc).1
    have hc' : (Loop.calls (Gate.events evs))[i]? = some c := by
      rw [List.prefix_iff_getElem?.mp hbehind.initial i hi, ← List.getElem?_eq_getElem hi, hc]
    have hsame : (Gate.run (.error closed) prog firstId evs).result i
        = (Loop.run prog firstId (Gate.events evs)).result i := by
      rw [Loop.result, Loop.result, hbehind.before i hi]
      cases (Loop.run prog firstId (Gate.events evs)).tasks[i]? with
      | none => rfl
      | some ph => cases ph <;> rfl
    rw [hsame, h.result_run, hc', Option.bind_some]
  constructor
  case sent => rw [hbehind.log, (Loop.run_eq_spawnAll hprog _ _).2.1]
  case ids => rw [hbehind.shared]
  case earlier => exact hearlier
  case ended =>
    intro i c f hc hanswer hf
    rw [hearlier i c hc, hanswer, result_failed E _ hf]
  case later =>
    intro i c hi hc
    obtain ⟨id, htask⟩ := hbehind.after i c hi hc
    rw [Loop.result, htask, h.refused hclosed]

/-- **A client stays closed.**  On an `AsyncClient` that holds in every interleaving, also of
calls that are under way when it is closed, whatever `httpx` does to them; on a `Client`, after
every `with` block. -/
theorem closed_for_good {closed : Exc} (hclosed : closed.isHTTPError = false) :
    (∀ (self : AsyncClient) (evs : List (GateEvent AsyncClient.Call Answer)),
      ClosesForGood self.endpoint (fun c result => c.unwrap result) AsyncClient.Call.plan
        self.program closed evs) ∧
    (∀ (self : Client) (body : GateSession Unit)
        (answer : List HttpRequest → HttpRequest → Answer) (s : Gated Nat),
      let B := body.run.drive answer s []
      let W := (self.withBlock body).run.drive answer s []
      W = (⟨B.1.inner, true⟩, B.2) ∧
        ∀ steps : List (Client.Call × Answer),
          (Loop.session (self.gatedProgram closed) W.1 steps).2
            = ([], steps.map fun step => step.1.plan.closedOutcome closed)) ∧
    (∀ (self : Client) (steps : List (Client.Call × Answer)),
      Loop.session (self.gatedProgram closed) ⟨firstId, false⟩ steps
        = (⟨(Loop.session self.program firstId steps).1, false⟩,
          (Loop.session self.program firstId steps).2)) := by
  refine ⟨?_, ?_, ?_⟩
  · intro self evs
    exact self.performsWith.closesForGood hclosed evs
  · intro self body answer s B W
    have hW : W = (⟨B.1.inner, true⟩, B.2) := self.withBlock_drive body answer s
    refine ⟨hW, fun steps => ?_⟩
    rw [hW]
    exact (Gate.session_shut (self.performsWith.refused hclosed) B.1.inner steps).2
  · intro self steps
    exact Gate.session_open (.error closed) self.program firstId steps

omit [CharTables] in
/-- A client that is closed while a ping is under way, which ends the exchange: the ping raises a
`TransportError`, and a probe that comes after the close raises what the closed client raises. -/
theorem closed_for_good_probe :
    letI : CharTables := asciiTables
    let closed := Exc.runtimeError "Cannot send a request, as the client has been closed."
    let torn := Exc.httpx .readError ""
    ∃ a, AsyncClient.init "http://127.0.0.1:7448" "secret" = .ok a ∧
      let L := Gate.run (.error closed) a.program firstId [.event (.call (.shared .ping)),
        a.aclose [(0, .error torn)], .event (.call (.shared .healthz))]
      L.result 0 = some (.error (wrapHttpxError torn)) ∧ L.result 1 = some (.error closed) := by
  let _ : CharTables := asciiTables
  intro closed torn
  obtain ⟨-, a, -, ha, -⟩ := exists_local (by decide : "secret" ≠ "")
  refine ⟨a, ha, ?_⟩
  intro L
  have hcloses := (@closed_for_good _ closed rfl).1 a [.event (.call (.shared .ping)),
    a.aclose [(0, .error torn)], .event (.call (.shared .healthz))]
  refine ⟨?_, ?_⟩
  · exact hcloses.ended 0 (.shared .ping) torn rfl rfl rfl
  · exact hcloses.later 1 (.shared .healthz) (Nat.le_refl 1) rfl

end Closed

end Exfer
