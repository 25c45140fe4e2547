/-
# What the outcomes of a run depend on

The calls of a client share a loop, an id counter and a token.  None of the three shows in what
they return.

* `PerformsWith.result_run` is the result of every call of a run, as a function of the call and
  the first answer to it.
* `interleaved_blocking`: calls that overlap on an `AsyncClient` send and return what a `Client`
  sends and returns that makes them one after the other.
* `token_isolated`: with another token a client returns and raises the same, and what it sends
  differs in the `Authorization` header alone.
-/
import Exfer.Mirror
import Exfer.Pinning

namespace Exfer

open Py

/-! ## 1. The result of a call -/

section Family

variable [CharTables] {κ : Type} {E : Endpoint} {unwrap : κ → Json → Except Exc Ret}
  {plan : κ → Plan} {prog : κ → Program}

/-- The family performs its plans, and `unwrap` is what it makes of the results. -/
def PerformsWith (E : Endpoint) (unwrap : κ → Json → Except Exc Ret) (plan : κ → Plan)
    (prog : κ → Program) : Prop :=
  ∀ c, prog c = (E.perform (unwrap c) (plan c)).run

theorem PerformsWith.performs (h : PerformsWith E unwrap plan prog) : Performs E plan prog :=
  fun c => ⟨_, h c⟩

/-- Where a call stands once it is started, and how an answer ends it. -/
theorem PerformsWith.start (h : PerformsWith E unwrap plan prog) (c : κ) (id : Nat) :
    (∃ e, plan c = .reject e ∧ ((prog c).advance id).2 = .finished (.error e)) ∨
      ∃ r k, (plan c).request E id = some r ∧ ((prog c).advance id).2 = .waiting r k ∧
        ∀ x, k x = .ret (E.outcome (unwrap c) x (plan c)) := by
  rw [h c]
  cases plan c with
  | reject e => exact Or.inl ⟨e, rfl, rfl⟩
  | probe => exact Or.inr ⟨_, _, rfl, rfl, fun x => rfl⟩
  | rpc method args timeout => exact Or.inr ⟨_, _, rfl, rfl, fun x => rfl⟩

/-- Each call of the family, in whatever state it is started, is refused, or it stops at its one
request, and an answer ends it.  The calls may be those of different clients. -/
def Speaks {κ σ : Type} (E : κ → Endpoint) (unwrap : κ → Json → Except Exc Ret) (plan : κ → Plan)
    (prog : κ → Coro σ HttpRequest Answer (Except Exc Ret)) : Prop :=
  ∀ c s, (∃ e, plan c = .reject e ∧ ((prog c).advance s).2 = .finished (.error e)) ∨
    ∃ id r k, (plan c).request (E c) id = some r ∧ ((prog c).advance s).2 = .waiting r k ∧
      ∀ x, k x = .ret ((E c).outcome (unwrap c) x (plan c))

theorem PerformsWith.speaks (h : PerformsWith E unwrap plan prog) :
    Speaks (fun _ => E) unwrap plan prog := by
  intro c id
  rcases h.start c id with hrefused | ⟨r, k, hr, hstart, hfinish⟩
  · exact Or.inl hrefused
  · exact Or.inr ⟨id, r, k, hr, hstart, hfinish⟩

theorem Speaks.oneShot {κ σ : Type} {E : κ → Endpoint} {unwrap : κ → Json → Except Exc Ret}
    {plan : κ → Plan} {prog : κ → Coro σ HttpRequest Answer (Except Exc Ret)}
    (h : Speaks E unwrap plan prog) (c : κ) : Coro.OneShot (prog c) := by
  intro s r k hwait x
  rcases h c s with ⟨e, -, hstart⟩ | ⟨id, r', k', -, hstart, hfinish⟩
  · cases hstart.symm.trans hwait
  · cases hstart.symm.trans hwait
    exact ⟨_, hfinish x⟩

/-- What a plan has come to, when `x` is the first answer to it, if there is one yet. -/
def Endpoint.result (E : Endpoint) (unwrap : Json → Except Exc Ret) (x : Option Answer)
    (p : Plan) : Option (Except Exc Ret) :=
  match p with
  | .reject e => some (.error e)
  | .probe | .rpc .. => x.map fun x => E.outcome unwrap x p

/-- **The result of every call of a run**, whatever the other calls are. -/
theorem PerformsWith.result_run (h : PerformsWith E unwrap plan prog)
    (evs : List (Event κ Answer)) (i : Nat) :
    (Loop.run prog firstId evs).result i = ((Loop.calls evs)[i]?).bind fun c =>
      E.result (unwrap c) (Loop.answerTo evs i) (plan c) := by
  simp only [Loop.result, Loop.tasks_run h.performs.oneShot]
  cases (Loop.calls evs)[i]? with
  | none => rfl
  | some c =>
    rcases h.start c (Loop.startState prog firstId (Loop.calls evs) i) with
      ⟨e, hp, hstart⟩ | ⟨r, k, hr, hstart, hfinish⟩
    · cases Loop.answerTo evs i <;> simp [hstart, hp, Loop.settled, Endpoint.result]
    · cases hp : plan c with
      | reject e => rw [hp] at hr; cases hr
      | probe | rpc _ _ _ =>
        cases Loop.answerTo evs i <;>
          simp [hstart, hfinish, hp, Loop.settled, Endpoint.result]

/-- The results of blocking calls. -/
theorem PerformsWith.session_results (h : PerformsWith E unwrap plan prog) (id : Nat)
    (steps : List (κ × Answer)) :
    (Loop.session prog id steps).2.2
      = steps.map fun step => E.outcome (unwrap step.1) step.2 (plan step.1) := by
  induction steps generalizing id with
  | nil => rfl
  | cons step steps ih =>
    obtain ⟨c, x⟩ := step
    simp only [Loop.session, List.map_cons, ih, drive_outcome (h c)]

end Family

section Clients

variable [CharTables]

theorem Client.performsWith (self : Client) :
    PerformsWith self.endpoint (fun c result => c.unwrap result) Client.Call.plan self.program :=
  self.program_eq

theorem AsyncClient.performsWith (self : AsyncClient) :
    PerformsWith self.endpoint (fun c result => c.unwrap result) AsyncClient.Call.plan
      self.program :=
  self.program_eq

/-! ## 2. Overlapping calls -/

/-- A call that hands over nothing is refused. -/
theorem Performs.kind_of_request_ne_none {κ : Type} {E : Endpoint} {plan : κ → Plan}
    {prog : κ → Program} (h : Performs E plan prog) {c : κ} {id : Nat}
    (hask : ((prog c).advance id).2.request ≠ none) : (plan c).kind ≠ .refused := by
  rw [(h.advance c id).2] at hask
  intro hkind
  cases hp : plan c with
  | reject e => rw [hp] at hask; exact hask rfl
  | probe | rpc _ _ _ => rw [hp] at hkind; cases hkind

/-- **Overlapping calls do not disturb each other.**  In any run of an `AsyncClient` in which every
call is answered, each at any time after its start, it has sent and returned what a `Client` of
the same endpoint sends and returns that makes the calls one after the other and gets the same
answers. -/
theorem interleaved_blocking (c : Client) (a : AsyncClient) (hE : c.endpoint = a.endpoint)
    (steps : List (Client.Call × Answer)) (evs : List (Event AsyncClient.Call Answer))
    (hcalls : Loop.calls evs = steps.map fun step => step.1.toAsync)
    (hanswers : ∀ i call x, steps[i]? = some (call, x) → call.kind ≠ .refused →
      Loop.answerTo evs i = some x) :
    let S := Loop.session c.program firstId steps
    let L := Loop.run a.program firstId evs
    L.log.map Prod.snd = S.2.1 ∧ L.tasks = S.2.2.map .finished ∧ L.shared = S.1 := by
  have hsession : Loop.session a.program firstId
      (steps.map fun step => (step.1.toAsync, step.2)) = Loop.session c.program firstId steps := by
    rw [Loop.session_map]
    exact congrArg (fun prog => Loop.session prog firstId steps) (funext (program_toAsync hE))
  let steps' := steps.map fun step => (step.1.toAsync, step.2)
  have hcalls' : Loop.calls evs = steps'.map Prod.fst := by simp [steps', hcalls]
  have hrun := Loop.run_interleaved a.performs.oneShot firstId hcalls' ?_
  · rw [hsession] at hrun
    exact ⟨hrun.2.1, hrun.2.2, hrun.1⟩
  · intro i step hstep hask
    rw [List.getElem?_map] at hstep
    obtain ⟨⟨call, x⟩, hstep', rfl⟩ := Option.map_eq_some_iff.mp hstep
    refine hanswers i call x hstep' fun hkind => ?_
    refine a.performs.kind_of_request_ne_none hask ?_
    rw [AsyncClient.Call.plan_kind]
    cases call with
    | shared call => exact hkind
    | swapGetQuote _ _ _ => cases hkind

/-- Clients of a walletd on this host. -/
theorem exists_local {token : String} (htoken : token ≠ "") :
    let E : Endpoint := ⟨rstrip '/' "http://127.0.0.1:7448", token, defaultTimeout, none⟩
    ∃ c a, Client.init "http://127.0.0.1:7448" token = .ok c ∧
      AsyncClient.init "http://127.0.0.1:7448" token = .ok a ∧ c.endpoint = E ∧
      a.endpoint = E := by
  obtain ⟨c, hc, -⟩ := Client.init_unpinned "http://127.0.0.1:7448" htoken defaultTimeout
  obtain ⟨hurl, htok, htime, hpin, -⟩ := Client.init_ok hc
  have hE : c.endpoint = ⟨c.url, c.token, c.http.timeout, c.endpoint.pin⟩ := rfl
  rw [hurl, htok, htime, hpin rfl] at hE
  exact ⟨c, c.toAsync, hc, by rw [init_toAsync, hc]; rfl, hE, by rw [c.toAsync_endpoint, hE]⟩

omit [CharTables] in
/-- A ping that is answered after a probe that was started later. -/
theorem interleaved_blocking_overtaken :
    letI : CharTables := asciiTables
    ∃ c a, Client.init "http://127.0.0.1:7448" "secret" = .ok c ∧
      AsyncClient.init "http://127.0.0.1:7448" "secret" = .ok a ∧
      let pong : Answer := .ok ⟨200, "", some (.obj [("result", .null)]), none⟩
      let down : Answer := .error (.httpx .connectError "refused")
      (Loop.run a.program firstId [.call (.shared .ping), .call (.shared .healthz), .reply 1 down,
          .reply 0 pong]).tasks
        = (Loop.session c.program firstId
            [(.shared .ping, pong), (.shared .healthz, down)]).2.2.map .finished := by
  let _ : CharTables := asciiTables
  obtain ⟨c, a, hc, ha, hE, hE'⟩ := exists_local (by decide : "secret" ≠ "")
  refine ⟨c, a, hc, ha, ?_⟩
  intro pong down
  refine (interleaved_blocking c a (hE.trans hE'.symm)
    [(.shared .ping, pong), (.shared .healthz, down)] _ rfl ?_).2.1
  intro i call x hstep _
  match i with
  | 0 =>
    cases hstep
    rfl
  | 1 =>
    cases hstep
    rfl
  | i + 2 => cases hstep

end Clients

/-! ## 3. The token -/

/-- The request without its credential. -/
def HttpRequest.redacted (r : HttpRequest) : HttpRequest :=
  { r with headers := r.headers.filter (·.1 ≠ "Authorization") }

/-- The endpoint with another token. -/
def Endpoint.withToken (E : Endpoint) (token : String) : Endpoint := { E with token }

theorem request_withToken (E : Endpoint) (token : String) (id : Nat) (p : Plan) :
    (p.request (E.withToken token) id).map HttpRequest.redacted
      = (p.request E id).map HttpRequest.redacted := by
  cases p <;> rfl

theorem requests_withToken (E : Endpoint) (token : String) (id : Nat) (plans : List Plan) :
    ((E.withToken token).requests id plans).map HttpRequest.redacted
      = (E.requests id plans).map HttpRequest.redacted := by
  induction plans generalizing id with
  | nil => rfl
  | cons p plans ih =>
    have hp := congrArg Option.toList (request_withToken E token id p)
    rw [Option.toList_map, Option.toList_map] at hp
    simp only [Endpoint.requests, List.map_append, ih, hp]

section Token

variable [CharTables]

theorem outcome_withToken (E : Endpoint) (token : String) (unwrap : Json → Except Exc Ret)
    (x : Answer) (p : Plan) : (E.withToken token).outcome unwrap x p = E.outcome unwrap x p := by
  cases p <;> rfl

theorem result_withToken (E : Endpoint) (token : String) (unwrap : Json → Except Exc Ret)
    (x : Option Answer) (p : Plan) :
    (E.withToken token).result unwrap x p = E.result unwrap x p := by
  cases p <;> rfl

/-- **The token stays in its header.**  Two clients that differ in the token return and raise the
same in every run, message texts included, and use the same ids; what they send differs in the
`Authorization` header alone. -/
theorem token_isolated :
    (∀ (self self' : Client) (steps : List (Client.Call × Answer)),
      self'.endpoint = self.endpoint.withToken self'.token →
      let S := Loop.session self.program firstId steps
      let S' := Loop.session self'.program firstId steps
      S'.2.2 = S.2.2 ∧ S'.1 = S.1 ∧
        S'.2.1.map HttpRequest.redacted = S.2.1.map HttpRequest.redacted) ∧
    (∀ (self self' : AsyncClient) (evs : List (Event AsyncClient.Call Answer)),
      self'.endpoint = self.endpoint.withToken self'.token →
      let L := Loop.run self.program firstId evs
      let L' := Loop.run self'.program firstId evs
      (∀ i, L'.result i = L.result i) ∧ L'.shared = L.shared ∧
        L'.log.map (HttpRequest.redacted ∘ Prod.snd)
          = L.log.map (HttpRequest.redacted ∘ Prod.snd)) := by
  constructor
  · intro self self' steps hE
    have hshared : ∀ c : Client, (Loop.session c.program firstId steps).1
        = idAfter firstId ((steps.map Prod.fst).map Client.Call.plan) := by
      intro c
      rw [← (Loop.run_blocking c.performs.oneShot firstId steps).1, c.performs.run_shared,
        Loop.calls_blocking]
    refine ⟨?_, ?_, ?_⟩
    · simp only [Client.performsWith _ |>.session_results, hE, outcome_withToken]
    · rw [hshared, hshared]
    · rw [self'.performs.session_log, self.performs.session_log, hE, requests_withToken]
  · intro self self' evs hE
    refine ⟨fun i => ?_, ?_, ?_⟩
    · rw [self'.performsWith.result_run, self.performsWith.result_run, hE]
      simp only [result_withToken]
    · rw [self'.performs.run_shared, self.performs.run_shared]
    · rw [← List.map_map, ← List.map_map, self'.performs.run_log, self.performs.run_log, hE,
        requests_withToken]

omit [CharTables] in
/-- A token that walletd refuses. -/
theorem token_isolated_refused :
    letI : CharTables := asciiTables
    ∃ c c', Client.init "http://127.0.0.1:7448" "secret" = .ok c ∧
      Client.init "http://127.0.0.1:7448" "other" = .ok c' ∧
      let steps : List (Client.Call × Answer) := [(.shared .ping, .ok ⟨401, "", none, none⟩)]
      (Loop.session c'.program firstId steps).2.2 = (Loop.session c.program firstId steps).2.2 := by
  let _ : CharTables := asciiTables
  obtain ⟨c, -, hc, -, hE, -⟩ := exists_local (by decide : "secret" ≠ "")
  obtain ⟨c', -, hc', -, hE', -⟩ := exists_local (by decide : "other" ≠ "")
  have htoken : c'.token = "other" := congrArg Endpoint.token hE'
  refine ⟨c, c', hc, hc', (token_isolated.1 c c' _ ?_).1⟩
  rw [hE', hE, htoken]
  rfl

end Token

end Exfer
