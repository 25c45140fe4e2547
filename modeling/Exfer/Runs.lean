/-
# Runs of a client

Many calls on one client: one after the other on `Client`, interleaved at will on `AsyncClient`.
A client is a family of coroutines on an event loop whose shared state is the client's id
counter, and `Loop.run` is any interleaving of them.  That the blocking client runs its calls
one after the other is the special case `Loop.blocking` (`Loop.run_blocking`).

What is proved here holds of any family that `Performs` its plans.  Every coroutine of such
a family is one-shot, so the log of a run is `Endpoint.requests` of the plans of its calls: the
answers, and when they come, change nothing.
-/
import Exfer.Refinement

namespace Exfer

open Py

/-- A call, as a coroutine that returns or raises. -/
abbrev Program := Coro Nat HttpRequest Answer (Except Exc Ret)

/-- The loop a client's calls run on. -/
abbrev ClientLoop := Loop Nat HttpRequest Answer (Except Exc Ret)

/-! ## 1. What a plan hands over -/

/-- Does the plan take an id? -/
def Plan.isRpc : Plan → Bool
  | .rpc .. => true
  | .reject _ | .probe => false

/-- The request a plan hands over when `id` is the next id. -/
def Plan.request (E : Endpoint) (id : Nat) : Plan → Option HttpRequest
  | .reject _ => none
  | .probe => some E.get
  | .rpc method args timeout => some (E.post id method args timeout)

/-- The next id once the plans have been started. -/
def idAfter (id : Nat) (plans : List Plan) : Nat := id + plans.countP Plan.isRpc

/-- The requests a list of plans hands over. -/
def Endpoint.requests (E : Endpoint) : Nat → List Plan → List HttpRequest
  | _, [] => []
  | id, p :: plans => (p.request E id).toList ++ E.requests (idAfter id [p]) plans

theorem idAfter_cons (id : Nat) (p : Plan) (plans : List Plan) :
    idAfter id (p :: plans) = idAfter (idAfter id [p]) plans := by
  simp only [idAfter, List.countP_cons, List.countP_nil]
  omega

section Performs

variable [CharTables]

theorem perform_advance (E : Endpoint) (unwrap : Json → Except Exc Ret) (p : Plan) (id : Nat) :
    ((E.perform unwrap p).run.advance id).1 = idAfter id [p] ∧
      ((E.perform unwrap p).run.advance id).2.request = p.request E id := by
  cases p <;> exact ⟨rfl, rfl⟩

theorem perform_oneShot (E : Endpoint) (unwrap : Json → Except Exc Ret) (p : Plan) :
    (E.perform unwrap p).run.OneShot := by
  intro id r k hk x
  cases p with
  | reject e => cases hk
  | probe =>
    cases hk
    exact ⟨_, rfl⟩
  | rpc method args timeout =>
    cases hk
    exact ⟨_, rfl⟩

/-- The family of coroutines performs the plans at the endpoint. -/
def Performs {κ : Type} (E : Endpoint) (plan : κ → Plan) (prog : κ → Program) : Prop :=
  ∀ c, ∃ unwrap, prog c = (E.perform unwrap (plan c)).run

/-- The calls of a `Client`, as coroutines. -/
def Client.program (self : Client) (c : Client.Call) : Program := (self.invoke c).run

/-- The calls of an `AsyncClient`, as coroutines. -/
def AsyncClient.program (self : AsyncClient) (c : AsyncClient.Call) : Program :=
  (self.invoke c).run

theorem Client.program_eq (self : Client) (c : Client.Call) :
    self.program c = (self.endpoint.perform (fun result => c.unwrap result) c.plan).run :=
  congrArg ExceptT.run (self.invoke_eq c)

theorem AsyncClient.program_eq (self : AsyncClient) (c : AsyncClient.Call) :
    self.program c = (self.endpoint.perform (fun result => c.unwrap result) c.plan).run :=
  congrArg ExceptT.run (self.invoke_eq c)

theorem Client.performs (self : Client) :
    Performs self.endpoint Client.Call.plan self.program :=
  fun c => ⟨_, self.program_eq c⟩

theorem AsyncClient.performs (self : AsyncClient) :
    Performs self.endpoint AsyncClient.Call.plan self.program :=
  fun c => ⟨_, self.program_eq c⟩

/-! ## 2. Runs -/

namespace Performs

variable {κ : Type} {E : Endpoint} {plan : κ → Plan} {prog : κ → Program}

theorem oneShot (h : Performs E plan prog) (c : κ) : (prog c).OneShot := by
  obtain ⟨unwrap, hc⟩ := h c
  rw [hc]
  exact perform_oneShot E unwrap (plan c)

theorem advance (h : Performs E plan prog) (c : κ) (id : Nat) :
    ((prog c).advance id).1 = idAfter id [plan c] ∧
      ((prog c).advance id).2.request = (plan c).request E id := by
  obtain ⟨unwrap, hc⟩ := h c
  rw [hc]
  exact perform_advance E unwrap (plan c) id

theorem spawnAll_eq (h : Performs E plan prog) (cs : List κ) (id i : Nat) :
    (Loop.spawnAll prog id i cs).1 = idAfter id (cs.map plan) ∧
      (Loop.spawnAll prog id i cs).2.map Prod.snd = E.requests id (cs.map plan) := by
  induction cs generalizing id i with
  | nil => exact ⟨rfl, rfl⟩
  | cons c cs ih =>
    obtain ⟨hid, hreq⟩ := h.advance c id
    obtain ⟨ih₁, ih₂⟩ := ih ((prog c).advance id).1 (i + 1)
    rw [hid] at ih₁ ih₂
    simp only [Loop.spawnAll, List.map_cons, List.map_append, Endpoint.requests]
    refine ⟨?_, ?_⟩
    · rw [idAfter_cons, hid, ih₁]
    · rw [hid, ih₂, Loop.entry, hreq]
      simp

/-- **The counter of a run**: one more than the RPC calls that were sent. -/
theorem run_shared (h : Performs E plan prog) (evs : List (Event κ Answer)) :
    (Loop.run prog firstId evs).shared = idAfter firstId ((Loop.calls evs).map plan) := by
  rw [(Loop.run_eq_spawnAll h.oneShot firstId evs).1, (h.spawnAll_eq _ _ _).1]

/-- **The log of a run**: the requests of the plans, in the order the calls were started. -/
theorem run_log (h : Performs E plan prog) (evs : List (Event κ Answer)) :
    (Loop.run prog firstId evs).log.map Prod.snd
      = E.requests firstId ((Loop.calls evs).map plan) := by
  rw [(Loop.run_eq_spawnAll h.oneShot firstId evs).2.1, (h.spawnAll_eq _ _ _).2]

/-- **The requests of one call** in a run: that of its plan, under the id that the calls before
it leave. -/
theorem run_requestsOf (h : Performs E plan prog) {evs : List (Event κ Answer)} {i : Nat} {c : κ}
    (hc : (Loop.calls evs)[i]? = some c) :
    (Loop.run prog firstId evs).requestsOf i =
      ((plan c).request E (idAfter firstId (((Loop.calls evs).map plan).take i))).toList := by
  rw [Loop.requestsOf_run h.oneShot firstId hc, (h.advance c _).2, Loop.startState,
    (h.spawnAll_eq _ _ _).1, List.map_take]

/-- The requests of a blocking run. -/
theorem session_log (h : Performs E plan prog) (steps : List (κ × Answer)) :
    (Loop.session prog firstId steps).2.1
      = E.requests firstId ((steps.map Prod.fst).map plan) := by
  rw [← (Loop.run_blocking h.oneShot firstId steps).2.1, h.run_log, Loop.calls_blocking]

end Performs

/-! ## 3. Outcomes -/

/-- What a plan comes to when its request is answered with `x`. -/
def Endpoint.outcome (E : Endpoint) (unwrap : Json → Except Exc Ret) (x : Answer) :
    Plan → Except Exc Ret
  | .reject e => .error e
  | .probe => E.alive x
  | .rpc .. => E.settle x >>= unwrap

omit [CharTables] in
/-- What a call comes to when its exchange fails. -/
def Plan.failed (f : Exc) : Plan → Except Exc Ret
  | .reject e => .error e
  | .probe => .ok (.value (.bool false))
  | .rpc .. => .error (wrapHttpxError f)

/-- An exchange that `httpx` fails. -/
theorem outcome_failed (E : Endpoint) (unwrap : Json → Except Exc Ret) {f : Exc}
    (hf : f.isHTTPError = true) (p : Plan) : E.outcome unwrap (.error f) p = p.failed f := by
  cases p with
  | reject e => rfl
  | probe =>
    simp [Endpoint.outcome, Endpoint.alive, Endpoint.accept, bind, Except.bind, hf, Plan.failed]
  | rpc method args timeout =>
    simp [Endpoint.outcome, Endpoint.settle, Endpoint.accept, bind, Except.bind, hf, Plan.failed]

theorem perform_drive (E : Endpoint) (unwrap : Json → Except Exc Ret) (p : Plan) (x : Answer)
    (id : Nat) :
    ((E.perform unwrap p).run.drive (fun _ _ => x) id []).2.2 = E.outcome unwrap x p := by
  cases p <;> rfl

/-- **A blocking call** returns what its plan comes to. -/
theorem drive_outcome {κ : Type} {E : Endpoint} {prog : κ → Program} {c : κ}
    {unwrap : Json → Except Exc Ret} {p : Plan} (h : prog c = (E.perform unwrap p).run)
    (x : Answer) (id : Nat) :
    ((prog c).drive (fun _ _ => x) id []).2.2 = E.outcome unwrap x p := by
  rw [h, perform_drive]

/-- **An awaited call** returns what its plan comes to, whatever the loop did in the meantime. -/
theorem reply_outcome {κ : Type} {E : Endpoint} {prog : κ → Program} {c : κ}
    {unwrap : Json → Except Exc Ret} {p : Plan} (hprog : ∀ c, (prog c).OneShot)
    (h : prog c = (E.perform unwrap p).run) {evs : List (Event κ Answer)} {i : Nat}
    (hc : (Loop.calls evs)[i]? = some c) {r : HttpRequest} {k : Answer → Program}
    (hwait : (Loop.run prog firstId evs).tasks[i]? = some (.waiting r k)) (x : Answer) :
    Loop.result (Loop.exec prog (Loop.run prog firstId evs) (.reply i x)) i
      = some (E.outcome unwrap x p) := by
  obtain ⟨hstart, hresult⟩ := Loop.result_reply hprog firstId hc hwait x
  rw [h] at hstart
  cases p with
  | reject e => cases hstart
  | probe =>
    cases hstart
    exact hresult _ rfl
  | rpc method args timeout =>
    cases hstart
    exact hresult _ rfl

end Performs

end Exfer
