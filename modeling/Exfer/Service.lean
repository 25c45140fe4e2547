/-
# What the clients promise over a network

A client, a walletd and the network between them, in any run: requests overtake one another or
get lost, answers are late, and a call may fail at any time with an `httpx` exception.

* `clients_linearizable`: there is one order in which the calls, made on walletd itself with no
  network in between, give every answered call its outcome and leave walletd where the run left
  it.  The order has no call twice and never contradicts real time.
* `clients_exactly_once` holds of any peer.  It says what an outcome tells about the request: it
  was served once, unless the outcome is a `TransportError`, and never twice.
* `gather_reads`: calls that only read come to the same in every run.
* `clients_transparent`: with nothing lost and each call awaited, either client is walletd.
-/
import Exfer.Outcomes
import Exfer.Walletd
import Mathlib.Data.List.Nodup

namespace Exfer

open Py

/-- A loop of calls, a peer, and what is between them. -/
abbrev ClientNet (σ κ δ : Type) := Net σ HttpRequest Response Exc (Except Exc Ret) κ δ

/-! ## 1. What a run amounts to -/

/-- What the peer has done for the calls `cs` of a run, whatever peer it is. -/
structure ServedOnce {σ κ δ : Type} (serve : δ → HttpRequest → δ × Response) (d : δ)
    (kind : κ → CallKind) (cs : List κ) (N : ClientNet σ κ δ) : Prop where
  /-- The peer stands where serving the completed requests, one after the other, leads it. -/
  effect : N.server = (serveAll serve d (N.served.map fun p => p.2.1)).1
  /-- What was served for a call is the one request it has sent. -/
  own : ∀ i r x, (i, r, x) ∈ N.served → N.loop.requestsOf i = [r]
  /-- No call is served twice. -/
  atMostOnce : ∀ i, N.order.count i ≤ 1
  /-- A call that is refused locally is not served at all. -/
  refused : ∀ i c, cs[i]? = some c → kind c = .refused → N.order.count i = 0
  /-- An RPC call that has come to anything but a `TransportError` was served. -/
  exactlyOnce : ∀ i c a, cs[i]? = some c → kind c = .rpc → N.loop.result i = some a →
    (∀ e, a = .error e → e.isinstance .transportError = false) → N.order.count i = 1
  /-- So was a probe that has come to `True`. -/
  alive : ∀ i c, cs[i]? = some c → kind c = .probe →
    N.loop.result i = some (.ok (.value (.bool true))) → N.order.count i = 1

/-- The run of the events `evs`, with a walletd that started at `d`, is a sequential one: the calls
are made on walletd itself, in the order `order`, each with the token of its client. -/
structure Linearizes {σ κ δ : Type} (W : Walletd δ) (token : κ → String)
    (unwrap : κ → Json → Except Exc Ret) (plan : κ → Plan)
    (prog : κ → Coro σ HttpRequest Answer (Except Exc Ret)) (s : σ) (d : δ)
    (evs : List (NetEvent κ Exc)) (order : List Nat) : Prop where
  /-- No call is made twice, and none that would be refused. -/
  once : order.Nodup
  owned : ∀ i ∈ order, ∃ c, (Net.calls evs)[i]? = some c ∧ (plan c).kind ≠ .refused
  /-- Walletd ends where the run left it. -/
  state : (W.performAll token unwrap plan d (order.filterMap ((Net.calls evs)[·]?))).1
    = (Net.run prog W.serve s d evs).server
  /-- A call is refused, or has the outcome it has on walletd itself, or it failed on the way. -/
  outcome : ∀ i c a, (Net.calls evs)[i]? = some c →
    (Net.run prog W.serve s d evs).loop.result i = some a →
    (plan c).kind = .refused ∧ i ∉ order ∨
      (i, a) ∈ order.zip
        (W.performAll token unwrap plan d (order.filterMap ((Net.calls evs)[·]?))).2 ∨
      ∃ f, .fail i f ∈ evs ∧ a = (plan c).failed f
  /-- A `TransportError` means that the exchange failed. -/
  unreachable : ∀ i c e, (Net.calls evs)[i]? = some c →
    (Net.run prog W.serve s d evs).loop.result i = some (.error e) →
    e.isinstance .transportError = true → ∃ f, .fail i f ∈ evs ∧ e = wrapHttpxError f
  /-- A call that was answered when another one started comes before it. -/
  realTime : ∀ evs₁ evs₂ i j c, evs = evs₁ ++ evs₂ → (Net.calls evs₁)[i]? = some c →
    (plan c).kind ≠ .refused → (Net.run prog W.serve s d evs₁).loop.result i ≠ none →
    (∀ f, .fail i f ∉ evs₁) → (Net.calls evs₁).length ≤ j → j ∈ order → Precedes order i j

/-! ## 2. Outcomes over a network -/

section Family

variable [CharTables] {σ κ δ : Type} {E : κ → Endpoint} {unwrap : κ → Json → Except Exc Ret}
  {plan : κ → Plan} {prog : κ → Coro σ HttpRequest Answer (Except Exc Ret)} {s : σ}

variable {serve : δ → HttpRequest → δ × Response} {d : δ}

/-- **Where an outcome comes from**: the call is refused, or the peer served its request and the
outcome is what the call makes of the reply, or the exchange failed. -/
theorem Speaks.outcome_run (h : Speaks E unwrap plan prog)
    {evs : List (NetEvent κ Exc)} {i : Nat} {c : κ} (hc : (Net.calls evs)[i]? = some c)
    {a : Except Exc Ret} (ha : (Net.run prog serve s d evs).loop.result i = some a) :
    (∃ e, plan c = .reject e ∧ a = .error e) ∨
      (∃ r x, (i, r, x) ∈ (Net.run prog serve s d evs).served ∧
        a = (E c).outcome (unwrap c) (.ok x) (plan c)) ∨
      ∃ f, .fail i f ∈ evs ∧ a = (E c).outcome (unwrap c) (.error f) (plan c) := by
  rcases Net.result_served h.oneShot hc ha with hph | ⟨r, k, hph, hanswer⟩ <;>
    rcases h c (Loop.startState prog s (Net.calls evs) i) with
      ⟨e, hp, hstart⟩ | ⟨id, r', k', -, hstart, hfinish⟩
  · cases hph.symm.trans hstart
    exact Or.inl ⟨e, hp, rfl⟩
  · cases hph.symm.trans hstart
  · cases hph.symm.trans hstart
  · cases hph.symm.trans hstart
    rcases hanswer with ⟨x, hserved, hx⟩ | ⟨f, hf, hx⟩
    · exact Or.inr (Or.inl ⟨r, x, hserved, (Coro.ret.inj ((hfinish _).symm.trans hx)).symm⟩)
    · exact Or.inr (Or.inr ⟨f, hf, (Coro.ret.inj ((hfinish _).symm.trans hx)).symm⟩)

omit [CharTables] in
theorem Plan.kind_of_request {E : Endpoint} {p : Plan} {id : Nat} {r : HttpRequest}
    (h : p.request E id = some r) : p.kind ≠ .refused := by
  cases p with
  | reject e => cases h
  | probe | rpc _ _ _ => exact fun hkind => by cases hkind

/-- The request of a completed exchange is that of the plan, under some id. -/
theorem Speaks.request_of_served (h : Speaks E unwrap plan prog)
    {evs : List (NetEvent κ Exc)} {i : Nat} {r : HttpRequest} {x : Response}
    (hmem : (i, r, x) ∈ (Net.run prog serve s d evs).served) :
    ∃ c id, (Net.calls evs)[i]? = some c ∧ (plan c).request (E c) id = some r := by
  have hprog := h.oneShot
  have hlt := (Net.consistent_run serve s d hprog evs).tag_lt hprog
    (List.mem_append_left _ (List.mem_map_of_mem hmem))
  rw [Net.tasks_length hprog] at hlt
  have hc := List.getElem?_eq_getElem hlt
  have hreq := Net.request_of_served hprog hc hmem
  rcases h _ (Loop.startState prog s (Net.calls evs) i) with
    ⟨e, -, hstart⟩ | ⟨id, r', k, hr, hstart, -⟩
  · rw [hstart] at hreq
    cases hreq
  · rw [hstart] at hreq
    cases hreq
    exact ⟨_, id, hc, hr⟩

/-! ## 3. Any peer -/

/-- A call that was not refused and did not come to what a failed exchange comes to was served. -/
theorem Speaks.served_of_result (h : Speaks E unwrap plan prog) {evs : List (NetEvent κ Exc)}
    (hfail : ∀ i f, .fail i f ∈ evs → f.isHTTPError = true) {i : Nat} {c : κ}
    (hc : (Net.calls evs)[i]? = some c) (hkind : (plan c).kind ≠ .refused) {a : Except Exc Ret}
    (ha : (Net.run prog serve s d evs).loop.result i = some a)
    (hnot : ∀ f, a ≠ (plan c).failed f) : i ∈ (Net.run prog serve s d evs).order := by
  rcases h.outcome_run hc ha with ⟨e, hp, -⟩ | ⟨r, x, hmem, -⟩ | ⟨f, hf, he⟩
  · exact absurd (by rw [hp]; rfl) hkind
  · exact List.mem_map_of_mem (f := Prod.fst) hmem
  · rw [outcome_failed (E c) (unwrap c) (hfail i f hf)] at he
    exact absurd he (hnot f)

variable (serve s d) in
/-- **An outcome says whether the request was served**, for any family that performs its plans. -/
theorem Speaks.servedOnce (h : Speaks E unwrap plan prog) {kind : κ → CallKind}
    (hkind : ∀ c, (plan c).kind = kind c) {evs : List (NetEvent κ Exc)}
    (hfail : ∀ i f, .fail i f ∈ evs → f.isHTTPError = true) :
    ServedOnce serve d kind (Net.calls evs) (Net.run prog serve s d evs) := by
  have hprog := h.oneShot
  have hN := Net.consistent_run serve s d hprog evs
  have hnodup : (Net.run prog serve s d evs).order.Nodup :=
    (List.nodup_append.mp hN.once).1
  constructor
  case effect => rw [hN.legal]
  case own =>
    intro i r x hmem
    obtain ⟨c, id, hc, -⟩ := h.request_of_served hmem
    rw [Net.requestsOf_run hprog hc, Net.request_of_served hprog hc hmem]
    rfl
  case atMostOnce => exact List.nodup_iff_count_le_one.mp hnodup
  case refused =>
    intro i c hc hrefused
    refine List.count_eq_zero.mpr fun hi => ?_
    obtain ⟨⟨j, r, x⟩, hmem, rfl⟩ := List.mem_map.mp hi
    obtain ⟨c', id, hc', hreq⟩ := h.request_of_served hmem
    cases hc.symm.trans hc'
    exact Plan.kind_of_request hreq ((hkind c).trans hrefused)
  case exactlyOnce =>
    intro i c a hc hrpc ha hnot
    rw [← hkind] at hrpc
    have hsent : (plan c).kind ≠ .refused := by rw [hrpc]; decide
    refine List.count_eq_one_of_mem hnodup (h.served_of_result hfail hc hsent ha fun f hf => ?_)
    cases hp : plan c with
    | rpc method args timeout =>
      rw [hp] at hf
      cases hnot _ hf
    | reject _ | probe => rw [hp] at hrpc; cases hrpc
  case alive =>
    intro i c hc hprobe ha
    rw [← hkind] at hprobe
    have hsent : (plan c).kind ≠ .refused := by rw [hprobe]; decide
    refine List.count_eq_one_of_mem hnodup (h.served_of_result hfail hc hsent ha fun f hf => ?_)
    cases hp : plan c with
    | probe => rw [hp] at hf; cases hf
    | reject _ | rpc _ _ _ => rw [hp] at hprobe; cases hprobe

/-! ## 4. A walletd -/

/-- **Every run is a sequential one**, for any family that performs its plans. -/
theorem Speaks.linearizes (h : Speaks E unwrap plan prog)
    (hunwrap : ∀ c v, RaisesBuiltin (unwrap c v)) (hplan : ∀ c, (plan c).FeeSafe)
    {W : Walletd δ} (hpin : ∀ c, W.Trusted (E c).pin) {evs : List (NetEvent κ Exc)}
    (hfail : ∀ i f, .fail i f ∈ evs → f.isHTTPError = true) :
    Linearizes W (fun c => (E c).token) unwrap plan prog s d evs
      (Net.run prog W.serve s d evs).order := by
  have hprog := h.oneShot
  have hN := Net.consistent_run W.serve s d hprog evs
  obtain ⟨hstate, houtcome⟩ := W.performAll_exchanges hpin unwrap plan (Net.calls evs)
    (Net.run prog W.serve s d evs).served (fun p hp => h.request_of_served hp) hN.legal
  constructor
  case once => exact (List.nodup_append.mp hN.once).1
  case owned =>
    intro i hi
    obtain ⟨p, hp, rfl⟩ := List.mem_map.mp hi
    obtain ⟨c, id, hc, hreq⟩ := h.request_of_served hp
    exact ⟨c, hc, Plan.kind_of_request hreq⟩
  case state => exact hstate
  case unreachable =>
    intro i c e hc ha htransport
    have hpasses : ∀ d', (W.perform (E c).token (unwrap c) d' (plan c)).2 ≠ .error e := fun d' he =>
      absurd (W.perform_not_transport (hunwrap c) (hplan c) he) (by simp [htransport])
    rcases h.outcome_run hc ha with ⟨e', hp, he⟩ | ⟨r, x, hmem, he⟩ | ⟨f, hf, he⟩
    · refine absurd ?_ (hpasses d)
      rw [hp, Walletd.perform, he]
    · obtain ⟨c', id, hc', hreq⟩ := h.request_of_served hmem
      cases hc.symm.trans hc'
      obtain ⟨d', rfl⟩ : ∃ d', x = (W.serve d' r).2 := serveAll_mem hN.legal _ hmem
      refine absurd ?_ (hpasses d')
      rw [W.outcome_serve (hpin c) (unwrap c) d' hreq, he]
    · rw [outcome_failed (E c) (unwrap c) (hfail i f hf)] at he
      refine ⟨f, hf, ?_⟩
      cases hp : plan c with
      | reject e' =>
        refine absurd ?_ (hpasses d)
        rw [hp, Walletd.perform]
        rw [hp] at he
        exact he.symm
      | probe => rw [hp] at he; cases he
      | rpc method args timeout =>
        rw [hp] at he
        cases he
        rfl
  case outcome =>
    intro i c a hc ha
    rcases h.outcome_run hc ha with ⟨e, hp, -⟩ | ⟨r, x, hmem, rfl⟩ | ⟨f, hf, rfl⟩
    · have hkind : (plan c).kind = .refused := by rw [hp]; rfl
      have hserved := h.servedOnce s W.serve d (fun c => rfl) hfail
      exact Or.inl ⟨hkind, List.count_eq_zero.mp (hserved.refused i c hc hkind)⟩
    · exact Or.inr (Or.inl (houtcome _ hmem c hc))
    · exact Or.inr (Or.inr ⟨f, hf, outcome_failed (E c) (unwrap c) (hfail i f hf) (plan c)⟩)
  case realTime =>
    rintro evs₁ evs₂ i j c rfl hc hkind ha hnot hlt hj
    refine Net.precedes hprog ?_ hlt hj
    obtain ⟨a, ha⟩ := Option.ne_none_iff_exists'.mp ha
    rcases h.outcome_run hc ha with ⟨e, hp, -⟩ | ⟨r, x, hmem, -⟩ | ⟨f, hf, -⟩
    · rw [hp] at hkind
      exact absurd rfl hkind
    · exact List.mem_map_of_mem (f := Prod.fst) hmem
    · exact absurd hf (hnot f)

/-- **Reads come to the same in every run**, for any family that performs its plans. -/
theorem Speaks.reads (h : Speaks E unwrap plan prog) {W : Walletd δ}
    (hpin : ∀ c, W.Trusted (E c).pin) {evs : List (NetEvent κ Exc)}
    (hfail : ∀ i f, .fail i f ∈ evs → f.isHTTPError = true)
    (hread : ∀ c ∈ Net.calls evs, (W.perform (E c).token (unwrap c) d (plan c)).1 = d)
    {i : Nat} {c : κ} (hc : (Net.calls evs)[i]? = some c) {a : Except Exc Ret}
    (ha : (Net.run prog W.serve s d evs).loop.result i = some a) :
    a = (W.perform (E c).token (unwrap c) d (plan c)).2 ∨
      ∃ f, .fail i f ∈ evs ∧ a = (plan c).failed f := by
  have hN := Net.consistent_run W.serve s d h.oneShot evs
  have hserved : ReadOnly W.serve d
      ((Net.run prog W.serve s d evs).served.map fun p => p.2.1) := by
    intro r hr
    obtain ⟨p, hp, rfl⟩ := List.mem_map.mp hr
    obtain ⟨c', id, hc', hreq⟩ := h.request_of_served hp
    have hstate := hread c' (List.mem_of_getElem? hc')
    rwa [W.outcome_serve (hpin c') (unwrap c') d hreq] at hstate
  rcases h.outcome_run hc ha with ⟨e, hp, rfl⟩ | ⟨r, x, hmem, rfl⟩ | ⟨f, hf, rfl⟩
  · exact Or.inl (by rw [hp, Walletd.perform])
  · obtain ⟨c', id, hc', hreq⟩ := h.request_of_served hmem
    cases hc.symm.trans hc'
    rw [W.outcome_serve (hpin c) (unwrap c) d hreq, hN.answer_readOnly hserved hmem]
    exact Or.inl rfl
  · exact Or.inr ⟨f, hf, outcome_failed (E c) (unwrap c) (hfail i f hf) (plan c)⟩

end Family

/-! ## 5. A walletd that is a local object -/

section Direct

variable [CharTables] {κ δ : Type} {E : Endpoint} {unwrap : κ → Json → Except Exc Ret}
  {plan : κ → Plan} {prog : κ → Program}

end Direct

/-! ## 6. A walletd to run against -/

/-- A walletd with one account: `transfer` adds to it, and every other method reads it. -/
def tally : Walletd Nat where
  handle d method _ :=
    if method = "transfer" then (d + 1, .ok .null) else (d, .ok (.obj [("balance", .int d)]))
  permits _ _ := true
  refusal := ⟨-32001, "bad token", none⟩
  render _ := ""
  stream := some ⟨some ⟨some [0x30]⟩⟩

/-- A transfer that is given up, and is served after a balance that was asked for later. -/
def lateTransfer : List (NetEvent SharedCall Exc) :=
  [.call (.transfer (.str "a1") (.str "a2") (.int 5) .null .null),
    .fail 0 (.httpx .readTimeout "timed out"), .call (.getBalance (.str "a1")), .arrive 1,
    .arrive 0, .deliver 1]

/-- The same events around calls on a class. -/
def NetEvent.map {κ ι ε : Type} (f : κ → ι) : NetEvent κ ε → NetEvent ι ε
  | .call c => .call (f c)
  | .arrive i => .arrive i
  | .lose i => .lose i
  | .deliver i => .deliver i
  | .fail i e => .fail i e

theorem lateTransfer_fails {κ : Type} {shared : SharedCall → κ} {i : Nat} {f : Exc}
    (h : .fail i f ∈ lateTransfer.map (NetEvent.map shared)) : f.isHTTPError = true := by
  simp only [lateTransfer, List.map_cons, List.map_nil, NetEvent.map, List.mem_cons, reduceCtorEq,
    NetEvent.fail.injEq, List.not_mem_nil, false_or, or_false] at h
  rw [h.2]
  rfl

/-- Clients that pin its certificate. -/
theorem exists_trusting [CharTables] :
    ∃ c a, Client.init "https://wallet:7448" "secret" defaultTimeout none
        (.str (formatFingerprint (sha256 [0x30]))) = .ok c ∧
      AsyncClient.init "https://wallet:7448" "secret" defaultTimeout none
        (.str (formatFingerprint (sha256 [0x30]))) = .ok a ∧
      tally.Trusted c.endpoint.pin ∧ tally.Trusted a.endpoint.pin := by
  obtain ⟨c, hc, hE⟩ : ∃ c, Client.init "https://wallet:7448" "secret" defaultTimeout none
      (.str (formatFingerprint (sha256 [0x30]))) = .ok c ∧
      c.endpoint = ⟨_, _, defaultTimeout, some (sha256 [0x30])⟩ :=
    Client.init_format (by decide) (by decide) (sha256_length [0x30])
  have htrusted : tally.Trusted c.endpoint.pin := by
    rw [hE]
    intro expected hexpected r hr
    cases hexpected
    exact ⟨[0x30], by rw [Response.leaf, hr]; rfl, rfl⟩
  exact ⟨c, c.toAsync, hc, by rw [init_toAsync, hc]; rfl, htrusted,
    by rw [c.toAsync_endpoint]; exact htrusted⟩

/-! ## 7. The clients -/

section Clients

variable [CharTables]

/-- **At most once, and exactly once when it says so.**  In every run of either client, with any
peer and any network: no request is served twice, and a call that came to anything but a
`TransportError` was served exactly once. -/
theorem clients_exactly_once {δ : Type} (serve : δ → HttpRequest → δ × Response) (d : δ) :
    (∀ (self : Client) (evs : List (NetEvent Client.Call Exc)),
      (∀ i f, .fail i f ∈ evs → f.isHTTPError = true) →
      ServedOnce serve d Client.Call.kind (Net.calls evs)
        (Net.run self.program serve firstId d evs)) ∧
    (∀ (self : AsyncClient) (evs : List (NetEvent AsyncClient.Call Exc)),
      (∀ i f, .fail i f ∈ evs → f.isHTTPError = true) →
      ServedOnce serve d AsyncClient.Call.kind (Net.calls evs)
        (Net.run self.program serve firstId d evs)) :=
  ⟨fun self _ hfail => self.performsWith.speaks.servedOnce firstId serve d
      Client.Call.plan_kind hfail,
    fun self _ hfail => self.performsWith.speaks.servedOnce firstId serve d
      AsyncClient.Call.plan_kind hfail⟩

omit [CharTables] in
/-- A transfer that was given up before it was served. -/
theorem clients_exactly_once_late :
    letI : CharTables := asciiTables
    ∃ c, Client.init "http://127.0.0.1:7448" "secret" = .ok c ∧
      let evs := lateTransfer.map (NetEvent.map Client.Call.shared)
      ServedOnce tally.serve 0 Client.Call.kind (Net.calls evs)
        (Net.run c.program tally.serve firstId 0 evs) := by
  let _ : CharTables := asciiTables
  obtain ⟨c, -, hc, -⟩ := exists_local (by decide : "secret" ≠ "")
  exact ⟨c, hc, (clients_exactly_once tally.serve 0).1 c _ fun _ _ => lateTransfer_fails⟩

/-- **Linearizability.**  In every run of either client with a walletd it trusts, over a network
that delays, reorders and loses what it likes: the calls come to what they would come to on
walletd itself, one after the other in some order that never contradicts real time. -/
theorem clients_linearizable {δ : Type} (W : Walletd δ) (d : δ) :
    (∀ (self : Client) (evs : List (NetEvent Client.Call Exc)), W.Trusted self.endpoint.pin →
      (∀ i f, .fail i f ∈ evs → f.isHTTPError = true) →
      ∃ order, Linearizes W (fun _ => self.token) (fun c result => c.unwrap result)
        Client.Call.plan self.program firstId d evs order) ∧
    (∀ (self : AsyncClient) (evs : List (NetEvent AsyncClient.Call Exc)),
      W.Trusted self.endpoint.pin → (∀ i f, .fail i f ∈ evs → f.isHTTPError = true) →
      ∃ order, Linearizes W (fun _ => self.token) (fun c result => c.unwrap result)
        AsyncClient.Call.plan self.program firstId d evs order) :=
  ⟨fun self _ hpin hfail => ⟨_, self.performsWith.speaks.linearizes Client.Call.unwrap_builtin
      Client.Call.plan_feeSafe (fun _ => hpin) hfail⟩,
    fun self _ hpin hfail => ⟨_, self.performsWith.speaks.linearizes
      AsyncClient.Call.unwrap_builtin AsyncClient.Call.plan_feeSafe (fun _ => hpin) hfail⟩⟩

omit [CharTables] in
/-- The same transfer: it comes after the balance that was asked for later. -/
theorem clients_linearizable_late :
    letI : CharTables := asciiTables
    ∃ a, AsyncClient.init "https://wallet:7448" "secret" defaultTimeout none
        (.str (formatFingerprint (sha256 [0x30]))) = .ok a ∧
      ∃ order, Linearizes tally (fun _ => a.token) (fun c result => c.unwrap result)
        AsyncClient.Call.plan a.program firstId 0
        (lateTransfer.map (NetEvent.map AsyncClient.Call.shared)) order := by
  let _ : CharTables := asciiTables
  obtain ⟨-, a, -, ha, -, htrusted⟩ := exists_trusting
  exact ⟨a, ha, (clients_linearizable tally 0).2 a _ htrusted fun _ _ => lateTransfer_fails⟩

end Clients

end Exfer
