/-
# Clients that share a walletd

A service may have several clients of one walletd: one that reads and one that spends, each with a
token of its own, or one for each of its workers.  Their calls meet at walletd in any order.

`clients_share`: any number of clients of either class, on one network, are still a sequential run
of walletd.  No request is served twice, each client goes through its own ids as if it were alone,
and each call has the outcome it would have, with its own token, on walletd itself.
-/
import Exfer.Lib.Share
import Exfer.Service

namespace Exfer

open Py

/-! ## 1. Parties -/

/-- A client of either class. -/
inductive Party where
  | sync (self : Client)
  | async (self : AsyncClient)

namespace Party

/-- The calls of a party are those of its class. -/
def Call : Party → Type
  | sync _ => Client.Call
  | async _ => AsyncClient.Call

def endpoint : Party → Endpoint
  | sync self => self.endpoint
  | async self => self.endpoint

def plan : (p : Party) → p.Call → Plan
  | sync _, c => Client.Call.plan c
  | async _, c => AsyncClient.Call.plan c

def kind : (p : Party) → p.Call → CallKind
  | sync _, c => Client.Call.kind c
  | async _, c => AsyncClient.Call.kind c

section

variable [CharTables]

def unwrap : (p : Party) → p.Call → Json → Except Exc Ret
  | sync _, c, result => Client.Call.unwrap result c
  | async _, c, result => AsyncClient.Call.unwrap result c

def program : (p : Party) → p.Call → Program
  | sync self => self.program
  | async self => self.program

theorem performsWith (p : Party) : PerformsWith p.endpoint p.unwrap p.plan p.program := by
  cases p with
  | sync self => exact self.performsWith
  | async self => exact self.performsWith

theorem unwrap_builtin (p : Party) (c : p.Call) (v : Json) : RaisesBuiltin (p.unwrap c v) := by
  cases p with
  | sync self => exact Client.Call.unwrap_builtin c v
  | async self => exact AsyncClient.Call.unwrap_builtin c v

end

theorem plan_kind (p : Party) (c : p.Call) : (p.plan c).kind = p.kind c := by
  cases p with
  | sync self => exact Client.Call.plan_kind c
  | async self => exact AsyncClient.Call.plan_kind c

theorem plan_feeSafe (p : Party) (c : p.Call) : (p.plan c).FeeSafe := by
  cases p with
  | sync self => exact Client.Call.plan_feeSafe c
  | async self => exact AsyncClient.Call.plan_feeSafe c

end Party

/-! ## 2. Parties on one loop -/

section Parties

variable [CharTables] {ι : Type} [DecidableEq ι] (party : ι → Party)

/-- The calls of all parties, on one loop with an id counter for each. -/
def Parties.program : (Σ i, (party i).Call) → Coro (ι → Nat) HttpRequest Answer (Except Exc Ret) :=
  together fun i => (party i).program

theorem Parties.speaks :
    Speaks (fun c => (party c.1).endpoint) (fun c => (party c.1).unwrap c.2)
      (fun c => (party c.1).plan c.2) (Parties.program party) := by
  rintro ⟨i, c⟩ s
  have hadv := Coro.advance_component i ((party i).program c) s
  rcases (party i).performsWith.start c (s i) with ⟨e, hp, hstart⟩ | ⟨r, k, hr, hstart, hfinish⟩
  · refine Or.inl ⟨e, hp, ?_⟩
    simp only [Parties.program, together, hadv, hstart]
    rfl
  · refine Or.inr ⟨s i, r, fun x => (k x).component i, hr, ?_, fun x => ?_⟩
    · simp only [Parties.program, together, hadv, hstart]
      rfl
    · exact congrArg (Coro.component i) (hfinish x)

/-- What holds of a run of parties that share a walletd. -/
structure Shares {δ : Type} (W : Walletd δ) (d : δ)
    (evs : List (NetEvent (Σ i, (party i).Call) Exc)) : Prop where
  /-- The run is a sequential one, in which each call is made with the token of its party. -/
  sequential : ∃ order, Linearizes W (fun c => (party c.1).endpoint.token)
    (fun c => (party c.1).unwrap c.2) (fun c => (party c.1).plan c.2) (Parties.program party)
    (fun _ => firstId) d evs order
  /-- What an outcome tells about the request, it tells among others too. -/
  served : ServedOnce W.serve d (fun c => (party c.1).kind c.2) (Net.calls evs)
    (Net.run (Parties.program party) W.serve (fun _ => firstId) d evs)
  /-- Each party sends what it would send alone, under the ids it would use alone. -/
  own : ∀ n i c, (Net.calls evs)[n]? = some ⟨i, c⟩ →
    (Net.run (Parties.program party) W.serve (fun _ => firstId) d evs).loop.requestsOf n
      = (((party i).plan c).request (party i).endpoint (idAfter firstId
          ((callsOf i ((Net.calls evs).take n)).map (party i).plan))).toList

/-- **Clients that share a walletd.**  Any number of clients of either class, each of which trusts
walletd, in any run over one network. -/
theorem clients_share {δ : Type} (W : Walletd δ) (d : δ)
    (htrust : ∀ i, W.Trusted (party i).endpoint.pin)
    (evs : List (NetEvent (Σ i, (party i).Call) Exc))
    (hfail : ∀ i f, .fail i f ∈ evs → f.isHTTPError = true) : Shares party W d evs := by
  have hspeaks := Parties.speaks party
  constructor
  case sequential =>
    exact ⟨_, hspeaks.linearizes (fun c => (party c.1).unwrap_builtin c.2)
      (fun c => (party c.1).plan_feeSafe c.2) (fun c => htrust c.1) hfail⟩
  case served =>
    exact hspeaks.servedOnce (fun _ => firstId) W.serve d (fun c => (party c.1).plan_kind c.2) hfail
  case own =>
    intro n i c hc
    have hperforms := (party i).performsWith.performs
    rw [Net.requestsOf_run hspeaks.oneShot hc]
    simp only [Parties.program, together, Coro.advance_component, Coro.Phase.request_component]
    rw [(hperforms.advance c _).2]
    have hstart := Loop.startState_together (fun i => (party i).program) (fun _ => firstId)
      (Net.calls evs) n i
    rw [(hperforms.spawnAll_eq _ _ _).1] at hstart
    exact congrArg (fun id => (((party i).plan c).request (party i).endpoint id).toList) hstart

end Parties

/-- A reader and a spender. -/
def readerAndSpender (reader : AsyncClient) (spender : Client) : Bool → Party
  | false => .async reader
  | true => .sync spender

/-- Two clients with the same ids: the transfer of one overtakes the balance of the other, and is
answered late. -/
theorem clients_share_two :
    letI : CharTables := asciiTables
    ∃ a c, AsyncClient.init "http://127.0.0.1:7448" "reader" = .ok a ∧
      Client.init "http://127.0.0.1:7448" "spender" = .ok c ∧
      let evs : List (NetEvent (Σ i, (readerAndSpender a c i).Call) Exc) :=
        [.call ⟨false, AsyncClient.Call.shared (.getBalance (.str "a1"))⟩,
          .call ⟨true, Client.Call.shared (.transfer (.str "a1") (.str "a2") (.int 5) .null .null)⟩,
          .arrive 1, .arrive 0, .deliver 0, .deliver 1]
      Shares (readerAndSpender a c) tally 0 evs := by
  let _ : CharTables := asciiTables
  obtain ⟨-, a, -, ha, -, hEa⟩ := exists_local (by decide : "reader" ≠ "")
  obtain ⟨c, -, hc, -, hEc, -⟩ := exists_local (by decide : "spender" ≠ "")
  refine ⟨a, c, ha, hc, ?_⟩
  intro evs
  refine clients_share (readerAndSpender a c) tally 0 (fun i => ?_) evs fun i f hf => ?_
  · have hpin : (readerAndSpender a c i).endpoint.pin = none := by
      cases i with
      | false => exact congrArg Endpoint.pin hEa
      | true => exact congrArg Endpoint.pin hEc
    intro pin hsome
    cases hpin.symm.trans hsome
  · simp [evs] at hf

end Exfer
