/-
# Wire discipline

What a client sends over a whole run, whatever the answers are and however its calls are
interleaved.

* `WireDiscipline` is the invariant.  An RPC call sends one POST, a probe one GET, and a refused
  call nothing; the ids of the POSTs count up from one without a gap, and the counter is one
  ahead of them.
* `Performs.wireDiscipline` proves it for any family that performs its plans, from two facts
  about the plans (`plan_kind`, `plan_feeSafe`).
-/
import Exfer.Runs

namespace Exfer

open Py

/-! ## 1. Reading a request -/

namespace HttpRequest

/-- The `id` of the envelope. -/
def id? (r : HttpRequest) : Option Int :=
  match r.json with
  | some envelope =>
    match envelope.lookup "id" with
    | some (.int n) => some n
    | _ => none
  | none => none

/-- The `method` of the envelope. -/
def method? (r : HttpRequest) : Option String :=
  match r.json with
  | some envelope =>
    match envelope.lookup "method" with
    | some (.str method) => some method
    | _ => none
  | none => none

/-- The `params` of the envelope. -/
def params? (r : HttpRequest) : Option Dict :=
  match r.json with
  | some envelope =>
    match envelope.lookup "params" with
    | some (.obj params) => some params
    | _ => none
  | none => none

/-- The `Authorization` header. -/
def authorization (r : HttpRequest) : Option String := r.headers.lookup "Authorization"

def isPost (r : HttpRequest) : Bool := r.verb = .post

end HttpRequest

section Post

variable (E : Endpoint) (id : Nat) (method : String) (args : Named) (timeout : Option Int)

@[simp] theorem post_isPost : (E.post id method args timeout).isPost = true := rfl
@[simp] theorem post_id : (E.post id method args timeout).id? = some (id : Int) := rfl
@[simp] theorem post_method : (E.post id method args timeout).method? = some method := rfl
@[simp] theorem post_params : (E.post id method args timeout).params? = some args.encode := rfl
@[simp] theorem get_isPost : E.get.isPost = false := rfl

end Post

/-! ## 2. The plans by kind -/

/-- The kind of a plan. -/
def Plan.kind : Plan → CallKind
  | .reject _ => .refused
  | .probe => .probe
  | .rpc .. => .rpc

/-- The plan refuses nothing but two fees, and sends no two fees. -/
structure Plan.FeeSafe (p : Plan) : Prop where
  refused : p.kind = .refused → p = .reject feeConflict
  fees : ∀ method args timeout, p = .rpc method args timeout →
    args.encode.lookup "fee" = none ∨ args.encode.lookup "fee_rate" = none

theorem Plan.feeAware_kind (fee feeRate : Json) (method : String) (args : Named) :
    (Plan.feeAware fee feeRate method args).kind
      = if BothFees fee feeRate then .refused else .rpc := by
  unfold Plan.feeAware
  split <;> rfl

/-- A fee-aware plan is safe when its arguments name the two fees as the optional ones. -/
theorem Plan.feeAware_safe {fee feeRate : Json} {method : String} {args : Named}
    (hfee : ("fee", fee) ∈ args.optional) (hrate : ("fee_rate", feeRate) ∈ args.optional) :
    (Plan.feeAware fee feeRate method args).FeeSafe := by
  unfold Plan.feeAware
  split
  · exact ⟨fun _ => rfl, fun _ _ _ h => nomatch h⟩
  · rename_i hnot
    refine ⟨(fun h => nomatch h), ?_⟩
    intro _ _ _ h
    cases h
    rw [Named.lookup_optional hfee, Named.lookup_optional hrate]
    by_cases hf : fee = .null
    · exact Or.inl (if_pos (Json.isNone_iff.mpr hf))
    · by_cases hr : feeRate = .null
      · exact Or.inr (if_pos (Json.isNone_iff.mpr hr))
      · exact absurd ⟨hf, hr⟩ hnot

/-- A plan that does not name a fee rate is safe. -/
theorem Plan.rpc_safe {method : String} {args : Named} {timeout : Option Int}
    (h : "fee_rate" ∉ args.args.map Prod.fst) : (Plan.rpc method args timeout).FeeSafe := by
  refine ⟨(fun h => nomatch h), ?_⟩
  intro _ _ _ heq
  cases heq
  exact Or.inr (Named.lookup_other h)

theorem SharedCall.plan_kind (c : SharedCall) : c.plan.kind = c.kind := by
  cases c with
  | htlcLock _ _ _ _ _ _ _ _ | simulateTransfer _ _ _ _ _ _ | simulateHtlcLock _ _ _ _ _ _ _ _ =>
    exact Plan.feeAware_kind _ _ _ _
  | _ => rfl

theorem SharedCall.plan_feeSafe (c : SharedCall) : c.plan.FeeSafe := by
  cases c with
  | healthz => exact ⟨(fun h => nomatch h), fun _ _ _ h => nomatch h⟩
  | htlcLock _ _ _ _ _ _ _ _ | simulateTransfer _ _ _ _ _ _ | simulateHtlcLock _ _ _ _ _ _ _ _ =>
    exact Plan.feeAware_safe (by simp [lockArgs, simulateArgs]) (by simp [lockArgs, simulateArgs])
  | _ => exact Plan.rpc_safe (by simp [Named.args, paymentUriArgs, htlcListArgs, addrPaginatedArgs])

theorem Client.Call.plan_kind (c : Client.Call) : c.plan.kind = c.kind := by
  cases c with
  | shared c => exact c.plan_kind
  | swapGetQuote _ _ _ => rfl

theorem Client.Call.plan_feeSafe (c : Client.Call) : c.plan.FeeSafe := by
  cases c with
  | shared c => exact c.plan_feeSafe
  | swapGetQuote _ _ _ => exact Plan.rpc_safe (by simp [Named.args])

theorem AsyncClient.Call.plan_kind (c : AsyncClient.Call) : c.plan.kind = c.kind := by
  cases c with
  | shared c => exact c.plan_kind
  | swapGetQuote _ _ _ _ => rfl

theorem AsyncClient.Call.plan_feeSafe (c : AsyncClient.Call) : c.plan.FeeSafe := by
  cases c with
  | shared c => exact c.plan_feeSafe
  | swapGetQuote _ _ _ _ => exact Plan.rpc_safe (by simp [Named.args])

/-! ## 3. The requests of a list of plans -/

theorem mem_requests {E : Endpoint} {r : HttpRequest} {plans : List Plan} {id : Nat}
    (h : r ∈ E.requests id plans) : ∃ p ∈ plans, ∃ n, p.request E n = some r := by
  induction plans generalizing id with
  | nil => simp [Endpoint.requests] at h
  | cons p plans ih =>
    rcases List.mem_append.mp h with hp | hrest
    · exact ⟨p, List.mem_cons_self, id, Option.mem_toList.mp hp⟩
    · obtain ⟨q, hq, n, hr⟩ := ih hrest
      exact ⟨q, List.mem_cons_of_mem _ hq, n, hr⟩

/-- **The ids count up without a gap.** -/
theorem requests_ids (E : Endpoint) (plans : List Plan) (id : Nat) :
    ((E.requests id plans).filter HttpRequest.isPost).map HttpRequest.id?
      = (List.range' id (plans.countP Plan.isRpc)).map fun n : Nat => some (n : Int) := by
  induction plans generalizing id with
  | nil => rfl
  | cons p plans ih =>
    rw [Endpoint.requests, List.filter_append, List.map_append, ih, List.countP_cons]
    cases p with
    | reject e => simp [Plan.request, Plan.isRpc, idAfter]
    | probe => simp [Plan.request, Plan.isRpc, idAfter]
    | rpc method args timeout =>
      simp [Plan.request, Plan.isRpc, idAfter, List.range'_succ, List.filter_cons]

/-- An RPC plan takes an id, and no other plan does. -/
theorem isRpc_eq_kind (p : Plan) : p.isRpc = decide (p.kind = .rpc) := by
  cases p <;> rfl

/-- A POST carries the token of the endpoint, and the arguments of a plan. -/
theorem post_of_mem_requests {E : Endpoint} {plans : List Plan} {id : Nat} {r : HttpRequest}
    (h : r ∈ E.requests id plans) (hpost : r.verb = .post) :
    r.authorization = some ("Bearer " ++ E.token) ∧
      ∃ method args timeout, Plan.rpc method args timeout ∈ plans ∧
        r.params? = some args.encode := by
  obtain ⟨p, hp, n, hr⟩ := mem_requests h
  cases p with
  | reject e => cases hr
  | probe =>
    cases hr
    cases hpost
  | rpc method args timeout =>
    cases hr
    exact ⟨rfl, method, args, timeout, hp, rfl⟩

/-! ## 4. The invariant -/

/-- What a run of the calls `cs` has sent, on a client with the token `token`. -/
structure WireDiscipline {κ : Type} (token : String) (kind : κ → CallKind) (prog : κ → Program)
    (cs : List κ) (L : ClientLoop) : Prop where
  /-- An RPC call sends one POST and nothing else.  Its id is its place among the RPC calls. -/
  rpc : ∀ i c, cs[i]? = some c → kind c = .rpc → ∃ r, L.requestsOf i = [r] ∧ r.verb = .post ∧
    r.id? = some ((1 + (cs.take i).countP fun c => kind c = .rpc : Nat) : Int)
  /-- A call with both fees raises `ValueError` and sends nothing. -/
  refused : ∀ i c, cs[i]? = some c → kind c = .refused → L.requestsOf i = [] ∧
    L.tasks[i]? = some (.finished (.error
      (Exc.valueError "`fee` and `fee_rate` are mutually exclusive")))
  /-- A probe sends one GET, without the token. -/
  probe : ∀ i c, cs[i]? = some c → kind c = .probe → ∃ r, L.requestsOf i = [r] ∧
    r.verb = .get ∧ r.authorization = none
  /-- Nothing else is sent. -/
  owned : ∀ p ∈ L.log, p.1 < cs.length
  /-- The ids of all POSTs are 1, 2, and so on. -/
  ids : ((L.log.map Prod.snd).filter HttpRequest.isPost).map HttpRequest.id? =
    (List.range' 1 (cs.countP fun c => kind c = .rpc)).map fun n : Nat => some (n : Int)
  /-- The counter is one ahead of the last id. -/
  counter : L.shared = 1 + cs.countP fun c => kind c = .rpc
  /-- A probe and a refused call leave the counter alone, wherever the run stands. -/
  idle : ∀ c, kind c ≠ .rpc → (Loop.exec prog L (.call c)).shared = L.shared
  /-- Every POST carries the token. -/
  token : ∀ r ∈ L.log.map Prod.snd, r.verb = .post →
    r.authorization = some ("Bearer " ++ token)
  /-- No POST carries both fees. -/
  fees : ∀ r ∈ L.log.map Prod.snd, ∀ params, r.params? = some params →
    params.lookup "fee" = none ∨ params.lookup "fee_rate" = none

variable [CharTables]

/-- **Wire discipline**, for every family that performs its plans and every interleaving. -/
theorem Performs.wireDiscipline {κ : Type} {E : Endpoint} {plan : κ → Plan}
    {prog : κ → Program} {kind : κ → CallKind} (h : Performs E plan prog)
    (hkind : ∀ c, (plan c).kind = kind c) (hsafe : ∀ c, (plan c).FeeSafe)
    (evs : List (Event κ Answer)) :
    WireDiscipline E.token kind prog (Loop.calls evs) (Loop.run prog firstId evs) := by
  have hcount : ∀ cs : List κ, (cs.map plan).countP Plan.isRpc
      = cs.countP fun c => kind c = .rpc := by
    intro cs
    rw [List.countP_map]
    refine List.countP_congr fun c _ => ?_
    simp [isRpc_eq_kind, hkind]
  constructor
  case rpc =>
    intro i c hc hrpc
    have hreq := h.run_requestsOf hc
    cases hp : plan c with
    | rpc method args timeout =>
      rw [hp] at hreq
      refine ⟨_, hreq, rfl, ?_⟩
      rw [post_id, idAfter, ← List.map_take, hcount, firstId]
    | reject _ | probe =>
      rw [← hkind, hp] at hrpc
      cases hrpc
  case refused =>
    intro i c hc hrefused
    have hp := (hsafe c).refused ((hkind c).trans hrefused)
    have hreq := h.run_requestsOf hc
    rw [hp] at hreq
    refine ⟨hreq, ?_⟩
    have hstart : ∀ id, ((prog c).advance id).2 = .finished (.error feeConflict) := by
      intro id
      obtain ⟨unwrap, hprog⟩ := h c
      rw [hprog, hp]
      rfl
    rcases Loop.task_run h.oneShot firstId evs hc with htask | ⟨r, k, _, _, hwait, -⟩
    · rw [htask, hstart]
      rfl
    · rw [hstart] at hwait
      cases hwait
  case probe =>
    intro i c hc hprobe
    have hreq := h.run_requestsOf hc
    cases hp : plan c with
    | probe =>
      rw [hp] at hreq
      exact ⟨_, hreq, rfl, rfl⟩
    | reject _ | rpc _ _ _ =>
      rw [← hkind, hp] at hprobe
      cases hprobe
  case owned => exact Loop.log_tag_lt h.oneShot firstId evs
  case ids =>
    rw [h.run_log, requests_ids, hcount]
    rfl
  case counter =>
    rw [h.run_shared, idAfter, hcount]
    rfl
  case idle =>
    intro c hc
    simp only [Loop.exec]
    rw [(h.advance c _).1, idAfter]
    have hnot : (plan c).isRpc = false := by rw [isRpc_eq_kind, hkind]; simpa using hc
    simp [hnot]
  case token =>
    intro r hr hpost
    rw [h.run_log] at hr
    exact (post_of_mem_requests hr hpost).1
  case fees =>
    intro r hr params hparams
    rw [h.run_log] at hr
    obtain ⟨p, hp, n, hrp⟩ := mem_requests hr
    obtain ⟨c, -, rfl⟩ := List.mem_map.mp hp
    cases hplan : plan c with
    | rpc method args timeout =>
      rw [hplan] at hrp
      cases hrp
      rw [post_params, Option.some.injEq] at hparams
      exact hparams ▸ (hsafe c).fees method args timeout hplan
    | reject _ => rw [hplan] at hrp; cases hrp
    | probe => rw [hplan] at hrp; cases hrp; cases hparams

/-- **Wire discipline of the clients.**  `AsyncClient` keeps it in every interleaving, and
`Client` in every sequence of calls, each answered before the next. -/
theorem clients_wireDiscipline :
    (∀ (self : AsyncClient) (evs : List (Event AsyncClient.Call Answer)),
      WireDiscipline self.token AsyncClient.Call.kind self.program (Loop.calls evs)
        (Loop.run self.program firstId evs)) ∧
    (∀ (self : Client) (steps : List (Client.Call × Answer)),
      let L := Loop.run self.program firstId (Loop.blocking 0 steps)
      WireDiscipline self.token Client.Call.kind self.program (steps.map Prod.fst) L ∧
        Loop.session self.program firstId steps
          = (L.shared, L.log.map Prod.snd, (Loop.session self.program firstId steps).2.2)) := by
  constructor
  · intro self evs
    exact self.performs.wireDiscipline AsyncClient.Call.plan_kind AsyncClient.Call.plan_feeSafe evs
  · intro self steps L
    obtain ⟨hshared, hlog, -⟩ := Loop.run_blocking self.performs.oneShot firstId steps
    refine ⟨?_, ?_⟩
    · rw [← Loop.calls_blocking 0 steps]
      exact self.performs.wireDiscipline Client.Call.plan_kind Client.Call.plan_feeSafe _
    · rw [hshared, hlog]

end Exfer
