/-
# What a pinned client has left after mismatches

`Exfer.Pool` shows that a reply which fails the pin check costs a connection.  Here is what that
comes to over a whole run, for a pool of any size.

* `pool_threshold`: the connections that are out are those that mismatches have cost, and every
  call sees its own answer as long as there have been fewer mismatches than the pool has
  connections, and `PoolTimeout` from then on.
* `Endpoint.outcome_poolTimeout` is what a caller makes of that: walletd is unreachable.
-/
import Exfer.Outcomes
import Exfer.Pool

namespace Exfer

open Py

/-! ## 1. Mismatches -/

/-- A reply that does not get past the pin. -/
def Endpoint.mismatch (E : Endpoint) (x : Answer) : Bool := x.isOk && !(E.accept x).isOk

theorem Endpoint.mismatch_iff {E : Endpoint} {pin : Bytes} (hpin : E.pin = some pin)
    (x : Answer) : E.mismatch x = true ↔ ∃ r, x = .ok r ∧ ¬ Authenticated pin r :=
  pool_leaks_iff hpin 0 x

/-- The mismatches among the answers to blocking calls. -/
def Endpoint.mismatches (E : Endpoint) (steps : List (Client.Call × Answer)) : Nat :=
  steps.countP fun step => step.1.kind != .refused && E.mismatch step.2

theorem Endpoint.mismatches_take_succ (E : Endpoint) {steps : List (Client.Call × Answer)}
    {n : Nat} {c : Client.Call} {x : Answer} (h : steps[n]? = some (c, x)) :
    E.mismatches (steps.take (n + 1)) = E.mismatches (steps.take n) +
      if c.kind != .refused && E.mismatch x then 1 else 0 := by
  rw [mismatches, List.take_add_one, h, Option.toList_some, List.countP_append,
    List.countP_singleton]
  rfl

section Runs

variable [CharTables]

/-- The mismatches among the first `n` events on an `AsyncClient`: those that were delivered to
a call that waited. -/
def AsyncClient.mismatches (self : AsyncClient) (capacity : Nat)
    (evs : List (Event AsyncClient.Call Answer)) (n : Nat) : Nat :=
  (self.endpoint.pool capacity).droppedAt self.program firstId evs n

/-- What a call comes to when no walletd can be reached. -/
def Plan.unreachable : Plan → Except Exc Ret
  | .reject e => .error e
  | .probe => .ok (.value (.bool false))
  | .rpc .. => .error (.transport "walletd unreachable: ")

/-- An empty pool looks like that. -/
theorem Endpoint.outcome_poolTimeout (E : Endpoint) (unwrap : Json → Except Exc Ret) (p : Plan) :
    E.outcome unwrap (.error poolTimeout) p = p.unreachable := by
  cases p with
  | reject e => rfl
  | probe => rfl
  | rpc method args timeout => rfl

/-- The connections that are out after `n` blocking calls. -/
theorem Client.held_eq (self : Client) (capacity : Nat) (steps : List (Client.Call × Answer))
    (n : Nat) :
    (Loop.session (self.pooledProgram capacity) wholePool (steps.take n)).1.held
      = min capacity (self.endpoint.mismatches (steps.take n)) := by
  have hcounts := (self.endpoint.pool capacity).counts_session firstId steps
    self.performs.oneShot
  let spent : Nat → Nat := fun m => self.endpoint.mismatches (steps.take m)
  have hzero : spent 0 = 0 := rfl
  refine hcounts.eq_min hzero (fun m => ?_) n
  simp only [spent]
  cases hstep : steps[m]? with
  | none =>
    refine Or.inr ⟨?_, ?_⟩
    · rintro ⟨c, x, hcall, -⟩
      cases hstep.symm.trans hcall
    · rw [List.take_add_one, hstep, Option.toList_none, List.append_nil]
  | some step =>
    obtain ⟨c, x⟩ := step
    have hleak : (self.endpoint.pool capacity).LeakStep self.program firstId steps m ↔
        (c.kind != .refused && self.endpoint.mismatch x) = true := by
      rw [Bool.and_eq_true, bne_iff_ne]
      constructor
      · rintro ⟨c', x', hcall, hrequested, hleaks⟩
        cases hstep.symm.trans hcall
        exact ⟨(self.request_isSome_iff _ _).mp hrequested, hleaks⟩
      · rintro ⟨hkind, hmismatch⟩
        exact ⟨c, x, hstep, (self.request_isSome_iff _ _).mpr hkind, hmismatch⟩
    rw [hleak, self.endpoint.mismatches_take_succ hstep]
    cases c.kind != .refused && self.endpoint.mismatch x with
    | true => exact Or.inl ⟨rfl, rfl⟩
    | false => exact Or.inr ⟨by simp, rfl⟩

omit [CharTables] in
/-- There is a connection left, or there have been too many mismatches. -/
theorem seen_min (E : Endpoint) (capacity spent : Nat) (x : Answer) :
    (E.pool capacity).seen (min capacity spent) x
      = if spent < capacity then x else .error poolTimeout := by
  have hroom : min capacity spent < capacity ↔ spent < capacity := by omega
  simp only [Pool.seen, Endpoint.pool, hroom]

/-- What blocking call `n` returns. -/
theorem Client.pooled_result (self : Client) (capacity : Nat)
    {steps : List (Client.Call × Answer)} {n : Nat} {c : Client.Call} {x : Answer}
    (hstep : steps[n]? = some (c, x)) :
    (Loop.session (self.pooledProgram capacity) wholePool steps).2.2[n]?
      = some (self.endpoint.outcome (fun result => c.unwrap result)
        (if self.endpoint.mismatches (steps.take n) < capacity then x else .error poolTimeout)
        c.plan) := by
  have hresult := (self.endpoint.pool capacity).session_result firstId steps
    self.performs.oneShot hstep
  have hheld : ((self.endpoint.pool capacity).sessionAt self.program firstId steps n).held
      = min capacity (self.endpoint.mismatches (steps.take n)) := self.held_eq capacity steps n
  simp only [hheld, seen_min] at hresult
  rw [← drive_outcome (self.program_eq c)]
  exact hresult

/-- What an awaited call returns. -/
theorem AsyncClient.pooled_result (self : AsyncClient) (capacity : Nat)
    {evs : List (Event AsyncClient.Call Answer)} {n i : Nat} {c : AsyncClient.Call} {x : Answer}
    (hc : (Loop.calls evs)[i]? = some c) (he : evs[n]? = some (.reply i x))
    (hwait : (Loop.run (self.pooledProgram capacity) wholePool (evs.take n)).waits i = true) :
    (Loop.run (self.pooledProgram capacity) wholePool evs).result i
      = some (self.endpoint.outcome (fun result => c.unwrap result)
        (if self.mismatches capacity evs n < capacity then x else .error poolTimeout)
        c.plan) := by
  obtain ⟨id, r, k, a, hstart, ha, hresult⟩ :=
    Pool.result_delivered (P := self.endpoint.pool capacity) self.performs.oneShot hc he hwait
  rcases self.performsWith.start c id with ⟨e, -, hfinished⟩ | ⟨r', k', -, hwaiting, hfinish⟩
  · cases hstart.symm.trans hfinished
  · cases hstart.symm.trans hwaiting
    rw [hfinish, (self.endpoint.pool capacity).heldAt_eq self.program firstId evs] at ha
    cases ha
    rw [← seen_min self.endpoint]
    exact hresult

/-- **The pool lasts for as many mismatches as it has connections.** -/
theorem pool_threshold (capacity : Nat) :
    (∀ (self : Client) (steps : List (Client.Call × Answer)) (n : Nat),
      let spent := self.endpoint.mismatches (steps.take n)
      (Loop.session (self.pooledProgram capacity) wholePool (steps.take n)).1.held
        = min capacity spent ∧
      ∀ c x, steps[n]? = some (c, x) →
        (Loop.session (self.pooledProgram capacity) wholePool steps).2.2[n]?
          = some (self.endpoint.outcome (fun result => c.unwrap result)
            (if spent < capacity then x else .error poolTimeout) c.plan)) ∧
    (∀ (self : AsyncClient) (evs : List (Event AsyncClient.Call Answer)) (n : Nat),
      let spent := self.mismatches capacity evs n
      (Loop.run (self.pooledProgram capacity) wholePool (evs.take n)).shared.held
        = min capacity spent ∧
      ∀ i c x, (Loop.calls evs)[i]? = some c → evs[n]? = some (.reply i x) →
        (Loop.run (self.pooledProgram capacity) wholePool (evs.take n)).waits i = true →
        (Loop.run (self.pooledProgram capacity) wholePool evs).result i
          = some (self.endpoint.outcome (fun result => c.unwrap result)
            (if spent < capacity then x else .error poolTimeout) c.plan)) :=
  ⟨fun self steps n => ⟨self.held_eq capacity steps n,
      fun _ _ hstep => self.pooled_result capacity hstep⟩,
    fun self evs n => ⟨(self.endpoint.pool capacity).heldAt_eq self.program firstId evs n,
      fun _ _ _ hc he hwait => self.pooled_result capacity hc he hwait⟩⟩

omit [CharTables] in
/-- The mismatch of `pool_lost`. -/
theorem mismatch_nullReply {client : Client}
    (hpin : client.endpoint.pin = some (sha256 [0x30])) :
    client.endpoint.mismatch (.ok (nullReply [0x31])) = true ∧
      client.endpoint.mismatch (.ok (nullReply [0x30])) = false := by
  constructor
  · refine (Endpoint.mismatch_iff hpin _).mpr ⟨_, rfl, ?_⟩
    rintro ⟨der, hleaf, hder⟩
    cases hleaf
    exact absurd hder (by decide +kernel)
  · rw [Bool.eq_false_iff]
    intro h
    obtain ⟨r, hr, hauth⟩ := (Endpoint.mismatch_iff hpin _).mp h
    cases hr
    exact hauth ⟨[0x30], rfl, rfl⟩

omit [CharTables] in
/-- A pool of two connections: walletd is reached after one mismatch and not after two. -/
theorem pool_threshold_two :
    letI : CharTables := asciiTables
    ∃ client, Client.init "https://wallet:7448" "secret" defaultTimeout none
        (.str (formatFingerprint (sha256 [0x30]))) = .ok client ∧
      let wrong : Client.Call × Answer := (.shared .ping, .ok (nullReply [0x31]))
      let right : Client.Call × Answer := (.shared .ping, .ok (nullReply [0x30]))
      let outcomes := (Loop.session (client.pooledProgram 2) wholePool
        [wrong, right, wrong, right]).2.2
      outcomes[1]? = some (client.endpoint.outcome (fun _ => .ok .none) right.2
          (Client.Call.plan (.shared .ping))) ∧
        outcomes[3]? = some (.error (.transport "walletd unreachable: ")) := by
  let _ : CharTables := asciiTables
  obtain ⟨client, hclient, hpin⟩ := exists_pinning (sha256_length [0x30])
  obtain ⟨hwrong, hright⟩ := mismatch_nullReply hpin
  refine ⟨client, hclient, ?_⟩
  intro wrong right outcomes
  have hthreshold := (pool_threshold 2).1 client [wrong, right, wrong, right]
  have hkind : ((Client.Call.shared .ping).kind != .refused) = true := by decide
  have hone : client.endpoint.mismatches [wrong] = 1 := by
    simp [Endpoint.mismatches, wrong, hkind, hwrong]
  have hthree : client.endpoint.mismatches [wrong, right, wrong] = 2 := by
    simp [Endpoint.mismatches, wrong, right, hkind, hwrong, hright]
  refine ⟨?_, ?_⟩
  · have h := (hthreshold 1).2 _ _ rfl
    simp only [List.take_succ_cons, List.take_zero, hone] at h
    exact h
  · have h := (hthreshold 3).2 _ _ rfl
    simp only [List.take_succ_cons, List.take_zero, hthree] at h
    rw [if_neg (by omega), Endpoint.outcome_poolTimeout] at h
    exact h

end Runs

end Exfer
