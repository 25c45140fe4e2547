/-
# A pool of connections under a coroutine

The answers to a coroutine's requests come over connections of a pool with room for `capacity`.
`Pool.instrument` runs the coroutine over the pool: the shared state gets a count of the
connections that are out, an answer that opens a connection takes one, and it is back when the
answer has been taken in, unless the answer is dropped.  While none is left, every answer is
`full`.

* The instrumented coroutine is the coroutine (`advance_instrument`), but for the answers it sees
  and the count (`advance_deliver`).  So the instrumented loop is the loop, event by event
  (`exec_loop`).
* `Counts` is all that the count depends on: when a dropped answer is delivered.  It never goes
  down, and it stays at zero exactly when that never happens (`Counts.zero_iff`).
* `kept_iff` and `session_kept_iff`: every call leaves the count as it found it exactly when no
  dropped answer is delivered, on a loop and for blocking code.
-/
import Mathlib.Order.Monotone.Basic
import Exfer.Lib.Coro

/-- A pool, and how answers use it. -/
structure Pool (Ans : Type) where
  capacity : Nat
  /-- The answer comes over a connection. -/
  opens : Ans → Bool
  /-- Nobody gives that connection back. -/
  drops : Ans → Bool
  /-- The answer when no connection is left. -/
  full : Ans

/-- A shared state with the number of connections that are out. -/
structure Pooled (σ : Type) where
  inner : σ
  held : Nat

variable {σ Req Ans α β κ : Type}

namespace Pool

open Coro

/-! ## 1. Instrumented coroutines -/

/-- Take a connection, if the answer needs one and one is left. -/
def checkOut (P : Pool Ans) (x : Ans) (s : Pooled σ) : Pooled σ :=
  if s.held < P.capacity ∧ P.opens x = true then ⟨s.inner, s.held + 1⟩ else s

/-- Give a connection back. -/
def giveBack (s : Pooled σ) : Pooled σ := ⟨s.inner, s.held - 1⟩

/-- Take an answer in, and go on with what is seen of it. -/
def takeIn (P : Pool Ans) (x : Ans) (next : Ans → Coro (Pooled σ) Req Ans α) :
    Coro (Pooled σ) Req Ans α :=
  update (P.checkOut x) fun s =>
    if s.held < P.capacity then
      if P.opens x && !P.drops x then update giveBack fun _ => next x else next x
    else next P.full

/-- The coroutine over the pool. -/
def instrument (P : Pool Ans) : Coro σ Req Ans α → Coro (Pooled σ) Req Ans α
  | ret a => ret a
  | update f k => update (fun s => ⟨f s.inner, s.held⟩) fun s => P.instrument (k s.inner)
  | await r k => await r fun x => P.takeIn x fun y => P.instrument (k y)

theorem takeIn_bind (P : Pool Ans) (x : Ans) (next : Ans → Coro (Pooled σ) Req Ans α)
    (g : α → Coro (Pooled σ) Req Ans β) :
    (P.takeIn x next).bind g = P.takeIn x fun y => (next y).bind g := by
  refine update_congr fun s => ?_
  by_cases hroom : s.held < P.capacity
  · by_cases hback : (P.opens x && !P.drops x) = true
    · simp only [hroom, hback, if_true]
      rfl
    · simp only [hroom, hback, if_true, if_false, Bool.false_eq_true]
  · simp only [hroom, if_false]

/-- **Instrumentation respects sequencing.** -/
theorem instrument_bind (P : Pool Ans) (p : Coro σ Req Ans α) {g : α → Coro σ Req Ans β}
    {g' : α → Coro (Pooled σ) Req Ans β} (hg : ∀ a, P.instrument (g a) = g' a) :
    P.instrument (p.bind g) = (P.instrument p).bind g' := by
  induction p with
  | ret a => exact hg a
  | update f k ih => exact update_congr fun s => ih s.inner
  | await r k ih =>
    refine await_congr fun x => ?_
    rw [takeIn_bind]
    exact congrArg (P.takeIn x) (funext ih)

/-! ## 2. Between two suspensions -/

/-- The answer a coroutine sees when `h` connections are out. -/
def seen (P : Pool Ans) (h : Nat) (x : Ans) : Ans := if h < P.capacity then x else P.full

/-- The answer takes a connection for good. -/
def leaks (P : Pool Ans) (x : Ans) : Bool := P.opens x && P.drops x

/-- The connections that are out once the answer has been taken in. -/
def after (P : Pool Ans) (h : Nat) (x : Ans) : Nat :=
  if P.leaks x = true ∧ h < P.capacity then h + 1 else h

/-- The count after an answer, which only counts for a coroutine that waits. -/
theorem after_cases (P : Pool Ans) (h : Nat) (x : Ans) (waits : Bool) :
    ((waits = true ∧ P.leaks x = true) ∧ h < P.capacity ∧
      (if waits then P.after h x else h) = h + 1) ∨
    (¬ ((waits = true ∧ P.leaks x = true) ∧ h < P.capacity) ∧
      (if waits then P.after h x else h) = h) := by
  unfold after
  by_cases hleak : (waits = true ∧ P.leaks x = true) ∧ h < P.capacity
  · left
    refine ⟨hleak.1, hleak.2, ?_⟩
    rw [if_pos hleak.1.1, if_pos ⟨hleak.1.2, hleak.2⟩]
  · right
    refine ⟨hleak, ?_⟩
    by_cases hwait : waits = true
    · rw [if_pos hwait, if_neg fun hx => hleak ⟨⟨hwait, hx.1⟩, hx.2⟩]
    · rw [if_neg hwait]

/-- What an instrumented coroutine does with an answer that `k` waits for. -/
def deliver (P : Pool Ans) (k : Ans → Coro σ Req Ans α) (x : Ans) : Coro (Pooled σ) Req Ans α :=
  P.takeIn x fun y => P.instrument (k y)

/-- Where an instrumented coroutine stands. -/
def phase (P : Pool Ans) : Phase σ Req Ans α → Phase (Pooled σ) Req Ans α
  | .waiting r k => .waiting r (P.deliver k)
  | .finished a => .finished a

@[simp] theorem phase_request (P : Pool Ans) (ph : Phase σ Req Ans α) :
    (P.phase ph).request = ph.request := by
  cases ph <;> rfl

/-- **Up to its next suspension** an instrumented coroutine does what the coroutine does. -/
theorem advance_instrument (P : Pool Ans) (p : Coro σ Req Ans α) (s : σ) (h : Nat) :
    (P.instrument p).advance ⟨s, h⟩ = (⟨(p.advance s).1, h⟩, P.phase (p.advance s).2) := by
  induction p generalizing s with
  | ret a => rfl
  | update f k ih => exact ih s (f s)
  | await r k _ => rfl

/-- **Taking in an answer** is taking in the answer that is seen, and the count is `after`. -/
theorem advance_deliver (P : Pool Ans) (k : Ans → Coro σ Req Ans α) (x : Ans) (s : σ) (h : Nat) :
    (P.deliver k x).advance ⟨s, h⟩ =
      (⟨((k (P.seen h x)).advance s).1, P.after h x⟩, P.phase ((k (P.seen h x)).advance s).2) := by
  by_cases hroom : h < P.capacity
  · cases hopens : P.opens x with
    | false =>
      have hafter : P.after h x = h := by simp [after, leaks, hopens]
      simp only [deliver, takeIn, advance, checkOut, hroom, hopens, seen, hafter, if_true,
        and_false, Bool.false_and, Bool.false_eq_true, if_false, advance_instrument]
    | true =>
      cases hdrops : P.drops x with
      | false =>
        have hafter : P.after h x = h := by simp [after, leaks, hdrops]
        simp only [deliver, takeIn, advance, checkOut, hroom, hopens, hdrops, seen, hafter, if_true,
          and_self, Bool.not_false, Bool.and_self, giveBack, Nat.add_sub_cancel,
          advance_instrument]
      | true =>
        have hafter : P.after h x = h + 1 := by simp [after, leaks, hopens, hdrops, hroom]
        simp only [deliver, takeIn, advance, checkOut, hroom, hopens, hdrops, seen, hafter, if_true,
          and_self, Bool.not_true, Bool.and_false, Bool.false_eq_true, if_false,
          advance_instrument]
  · have hafter : P.after h x = h := by simp [after, hroom]
    simp only [deliver, takeIn, advance, checkOut, hroom, seen, hafter, if_false, false_and,
      advance_instrument]

/-! ## 3. The count -/

/-- `held n` is the count after `n` steps of a run, and `leak n` says that the next one delivers a
dropped answer. -/
structure Counts (P : Pool Ans) (held : Nat → Nat) (leak : Nat → Prop) : Prop where
  zero : held 0 = 0
  step : ∀ n, (leak n ∧ held n < P.capacity ∧ held (n + 1) = held n + 1) ∨
    (¬ (leak n ∧ held n < P.capacity) ∧ held (n + 1) = held n)

namespace Counts

variable {P : Pool Ans} {held : Nat → Nat} {leak : Nat → Prop}

/-- **Nothing gives a dropped connection back.** -/
theorem monotone (h : P.Counts held leak) : Monotone held := by
  refine monotone_nat_of_le_succ fun n => ?_
  rcases h.step n with ⟨-, -, hn⟩ | ⟨-, hn⟩ <;> omega

/-- **The pool stays whole** exactly when no answer is dropped. -/
theorem zero_iff (h : P.Counts held leak) (hcap : 0 < P.capacity) :
    (∀ n, held n = 0) ↔ ∀ n, ¬ leak n := by
  constructor
  · intro hzero n hleak
    rcases h.step n with ⟨-, -, hn⟩ | ⟨hno, -⟩
    · rw [hzero, hzero] at hn
      omega
    · exact hno ⟨hleak, by rw [hzero]; exact hcap⟩
  · intro hnone n
    induction n with
    | zero => exact h.zero
    | succ n ih =>
      rcases h.step n with ⟨hleak, -, -⟩ | ⟨-, hn⟩
      · exact absurd hleak (hnone n)
      · rw [hn, ih]

/-- So does one of which no step takes anything away. -/
theorem zero_of_le (h : P.Counts held leak)
    (hle : ∀ n, leak n → held n < P.capacity → held (n + 1) ≤ held n) : ∀ n, held n = 0 := by
  intro n
  induction n with
  | zero => exact h.zero
  | succ n ih =>
    rcases h.step n with ⟨hleak, hroom, hn⟩ | ⟨-, hn⟩
    · have := hle n hleak hroom
      omega
    · rw [hn, ih]

/-- As long as there is room, the count is that of the dropped answers. -/
theorem eq_of_leaks (h : P.Counts held leak) {n : Nat} (hn : n ≤ P.capacity)
    (hleaks : ∀ m < n, leak m) : held n = n := by
  induction n with
  | zero => exact h.zero
  | succ n ih =>
    have hheld := ih (by omega) fun m hm => hleaks m (by omega)
    rcases h.step n with ⟨-, -, hsucc⟩ | ⟨hno, -⟩
    · rw [hsucc, hheld]
    · exact absurd ⟨hleaks n (by omega), by omega⟩ hno

/-- **The count in closed form**: that of the dropped answers, until the pool is empty. -/
theorem eq_min (h : P.Counts held leak) {dropped : Nat → Nat} (hzero : dropped 0 = 0)
    (hstep : ∀ n, (leak n ∧ dropped (n + 1) = dropped n + 1) ∨
      (¬ leak n ∧ dropped (n + 1) = dropped n)) (n : Nat) :
    held n = min P.capacity (dropped n) := by
  induction n with
  | zero => rw [h.zero, hzero, Nat.min_zero]
  | succ n ih =>
    rcases h.step n with ⟨hleak, hroom, hn⟩ | ⟨hno, hn⟩ <;>
      rcases hstep n with ⟨hleak', hk⟩ | ⟨hnot, hk⟩
    · omega
    · exact absurd hleak hnot
    · have hfull : ¬ held n < P.capacity := fun hroom => hno ⟨hleak', hroom⟩
      omega
    · omega

end Counts

/-! ## 4. Loops -/

/-- The loop over the pool, with `h` connections out. -/
def loop (P : Pool Ans) (L : Loop σ Req Ans α) (h : Nat) : Loop (Pooled σ) Req Ans α :=
  ⟨⟨L.shared, h⟩, L.log, L.tasks.map P.phase⟩

/-- The event, with the answer that is seen. -/
def seenBy (P : Pool Ans) (h : Nat) : Event κ Ans → Event κ Ans
  | .call c => .call c
  | .reply i x => .reply i (P.seen h x)

/-- The count after an event. -/
def heldAfter (P : Pool Ans) (L : Loop σ Req Ans α) (h : Nat) : Event κ Ans → Nat
  | .call _ => h
  | .reply i x => if L.waits i then P.after h x else h

@[simp] theorem loop_waits (P : Pool Ans) (L : Loop σ Req Ans α) (h i : Nat) :
    (P.loop L h).waits i = L.waits i := by
  simp only [Loop.waits, loop, List.getElem?_map]
  cases L.tasks[i]? with
  | none => rfl
  | some ph => cases ph <;> rfl

@[simp] theorem loop_result (P : Pool Ans) (L : Loop σ Req Ans α) (h i : Nat) :
    (P.loop L h).result i = L.result i := by
  simp only [Loop.result, loop, List.getElem?_map]
  cases L.tasks[i]? with
  | none => rfl
  | some ph => cases ph <;> rfl

theorem entry_phase (P : Pool Ans) (i : Nat) (ph : Phase σ Req Ans α) :
    Loop.entry i (P.phase ph) = Loop.entry i ph := by
  rw [Loop.entry, phase_request]
  rfl

/-- **An event on the instrumented loop** is that event on the loop, with the answer that is
seen. -/
theorem exec_loop (P : Pool Ans) (prog : κ → Coro σ Req Ans α) (L : Loop σ Req Ans α) (h : Nat)
    (e : Event κ Ans) :
    Loop.exec (fun c => P.instrument (prog c)) (P.loop L h) e
      = P.loop (Loop.exec prog L (P.seenBy h e)) (P.heldAfter L h e) := by
  cases e with
  | call c =>
    simp only [Loop.exec, loop, seenBy, heldAfter, advance_instrument, entry_phase,
      List.length_map, List.map_append, List.map_cons, List.map_nil]
  | reply i x =>
    have htask : (P.loop L h).tasks[i]? = L.tasks[i]?.map P.phase := List.getElem?_map
    cases hi : L.tasks[i]? with
    | none =>
      rw [hi] at htask
      simp only [Loop.exec, seenBy, heldAfter, Loop.waits, hi, htask, Option.map_none,
        Bool.false_eq_true, if_false]
    | some ph =>
      rw [hi] at htask
      cases ph with
      | finished a =>
        simp only [Loop.exec, seenBy, heldAfter, Loop.waits, hi, htask, Option.map_some, phase,
          Bool.false_eq_true, if_false]
      | waiting r k =>
        simp only [Loop.exec, seenBy, heldAfter, Loop.waits, hi, htask, Option.map_some, phase,
          if_true]
        simp only [loop, advance_deliver, entry_phase, List.map_set]

section Runs

variable {P : Pool Ans} {prog : κ → Coro σ Req Ans α} {s : σ} {evs : List (Event κ Ans)}

variable (P prog s evs) in
/-- **A run of the instrumented loop** is the run of the loop on the answers that are seen. -/
theorem run_loop : ∃ evs' h,
    Loop.run (fun c => P.instrument (prog c)) ⟨s, 0⟩ evs = P.loop (Loop.run prog s evs') h ∧
      Loop.calls evs' = Loop.calls evs := by
  induction evs using List.reverseRecOn with
  | nil => exact ⟨[], 0, rfl, rfl⟩
  | append_singleton evs e ih =>
    obtain ⟨evs', h, hrun, hcalls⟩ := ih
    refine ⟨evs' ++ [P.seenBy h e], P.heldAfter (Loop.run prog s evs') h e, ?_, ?_⟩
    · rw [Loop.run_concat, hrun, exec_loop, Loop.run_concat]
    · rw [Loop.calls_append, Loop.calls_append, hcalls]
      cases e <;> rfl

variable (P prog s evs) in
/-- The connections that are out after `n` events. -/
def heldAt (n : Nat) : Nat :=
  (Loop.run (fun c => P.instrument (prog c)) ⟨s, 0⟩ (evs.take n)).shared.held

variable (P prog s evs) in
/-- Event `n` delivers a dropped answer to a task that waits for one. -/
def LeakAt (n : Nat) : Prop :=
  ∃ i x, evs[n]? = some (.reply i x) ∧
    (Loop.run (fun c => P.instrument (prog c)) ⟨s, 0⟩ (evs.take n)).waits i = true ∧
    P.leaks x = true

variable (P prog s evs) in
theorem counts_run : P.Counts (P.heldAt prog s evs) (P.LeakAt prog s evs) := by
  refine ⟨rfl, fun n => ?_⟩
  cases he : evs[n]? with
  | none =>
    right
    refine ⟨?_, ?_⟩
    · rintro ⟨⟨i, x, hreply, -⟩, -⟩
      exact absurd (he.symm.trans hreply) (by simp)
    · rw [heldAt, heldAt, List.take_add_one, he, Option.toList_none, List.append_nil]
  | some e =>
    obtain ⟨evs', h, hrun, -⟩ := P.run_loop prog s (evs.take n)
    have hheld : P.heldAt prog s evs n = h := by rw [heldAt, hrun]; rfl
    have hnext : P.heldAt prog s evs (n + 1) = P.heldAfter (Loop.run prog s evs') h e := by
      rw [heldAt, Loop.run_take_succ _ _ he, hrun, exec_loop]
      rfl
    rw [hheld, hnext]
    unfold LeakAt
    rw [hrun, he]
    cases e with
    | call c =>
      right
      refine ⟨?_, rfl⟩
      rintro ⟨⟨i, x, hreply, -⟩, -⟩
      cases hreply
    | reply i x =>
      simp only [loop_waits]
      rcases P.after_cases h x ((Loop.run prog s evs').waits i) with ⟨hleak, hroom, hafter⟩ | hkeep
      · exact Or.inl ⟨⟨i, x, rfl, hleak⟩, hroom, hafter⟩
      · refine Or.inr ⟨?_, hkeep.2⟩
        rintro ⟨⟨j, y, hreply, hleak⟩, hroom⟩
        cases hreply
        exact hkeep.1 ⟨hleak, hroom⟩

variable (P prog s evs) in
/-- `LeakAt`, computed. -/
def leaksAt (n : Nat) : Bool :=
  match evs[n]? with
  | some (.reply i x) =>
    (Loop.run (fun c => P.instrument (prog c)) ⟨s, 0⟩ (evs.take n)).waits i && P.leaks x
  | _ => false

theorem leaksAt_iff {n : Nat} : P.leaksAt prog s evs n = true ↔ P.LeakAt prog s evs n := by
  unfold leaksAt LeakAt
  constructor
  · intro h
    split at h
    · rename_i i x he
      rw [Bool.and_eq_true] at h
      exact ⟨i, x, he, h⟩
    · cases h
  · rintro ⟨i, x, he, hwait, hleak⟩
    simp only [he, hwait, hleak, Bool.and_self]

variable (P prog s evs) in
/-- The dropped answers among the first `n` events. -/
def droppedAt (n : Nat) : Nat := (List.range n).countP (P.leaksAt prog s evs)

variable (P prog s evs) in
/-- **The connections that are out** after `n` events. -/
theorem heldAt_eq (n : Nat) :
    P.heldAt prog s evs n = min P.capacity (P.droppedAt prog s evs n) := by
  refine (P.counts_run prog s evs).eq_min rfl (fun m => ?_) n
  have hsucc : P.droppedAt prog s evs (m + 1)
      = P.droppedAt prog s evs m + if P.leaksAt prog s evs m then 1 else 0 := by
    rw [droppedAt, List.range_succ, List.countP_append, List.countP_singleton]
    rfl
  rw [← leaksAt_iff, hsucc]
  cases P.leaksAt prog s evs m with
  | true => exact Or.inl ⟨rfl, rfl⟩
  | false => exact Or.inr ⟨by simp, rfl⟩

/-- **An answer over the pool** ends its task, with what the task makes of the answer it sees. -/
theorem result_delivered (hprog : ∀ c, OneShot (prog c)) {n i : Nat} {c : κ} {x : Ans}
    (hc : (Loop.calls evs)[i]? = some c) (he : evs[n]? = some (.reply i x))
    (hwait : (Loop.run (fun c => P.instrument (prog c)) ⟨s, 0⟩ (evs.take n)).waits i = true) :
    ∃ s' r k a, ((prog c).advance s').2 = .waiting r k ∧
      k (P.seen (P.heldAt prog s evs n) x) = ret a ∧
      (Loop.run (fun c => P.instrument (prog c)) ⟨s, 0⟩ evs).result i = some a := by
  obtain ⟨evs', h, hrun, hcalls⟩ := P.run_loop prog s (evs.take n)
  have hheld : P.heldAt prog s evs n = h := by rw [heldAt, hrun]; rfl
  rw [hrun, loop_waits] at hwait
  obtain ⟨r, k, hk⟩ := Loop.waits_iff.mp hwait
  have hc' : (Loop.calls evs')[i]? = some c := by
    have hlt := (List.getElem?_eq_some_iff.mp hk).1
    rw [(Loop.run_eq_spawnAll hprog s evs').2.2, hcalls] at hlt
    rw [hcalls, ← hc]
    conv => rhs; rw [← List.take_append_drop n evs, Loop.calls_append]
    exact (List.getElem?_append_left hlt).symm
  obtain ⟨hstart, hresult⟩ := Loop.result_reply hprog s hc' hk (P.seen h x)
  obtain ⟨a, ha⟩ := hprog c _ r k hstart (P.seen h x)
  refine ⟨_, r, k, a, hstart, hheld ▸ ha, Loop.result_of_take (n := n + 1) ?_⟩
  rw [Loop.run_take_succ _ _ he, hrun, exec_loop, loop_result, seenBy]
  exact hresult a ha

/-- A dropped answer ends the call it is delivered to. -/
theorem spans_of_leak (hprog : ∀ c, OneShot (prog c)) {n i : Nat} {x : Ans}
    (he : evs[n]? = some (.reply i x))
    (hwait : (Loop.run (fun c => P.instrument (prog c)) ⟨s, 0⟩ (evs.take n)).waits i = true) :
    ∃ m ≤ n, Loop.Spans (fun c => P.instrument (prog c)) ⟨s, 0⟩ evs i m n := by
  obtain ⟨evs', h, hrun, hcalls⟩ := P.run_loop prog s (evs.take n)
  rw [hrun, loop_waits] at hwait
  obtain ⟨r, k, hk⟩ := Loop.waits_iff.mp hwait
  obtain ⟨c, hc⟩ : ∃ c, (Loop.calls evs')[i]? = some c := by
    have hlt := (List.getElem?_eq_some_iff.mp hk).1
    rw [(Loop.run_eq_spawnAll hprog s evs').2.2] at hlt
    exact ⟨_, List.getElem?_eq_getElem hlt⟩
  obtain ⟨hstart, hresult⟩ := Loop.result_reply hprog s hc hk (P.seen h x)
  obtain ⟨a, ha⟩ := hprog c _ r k hstart (P.seen h x)
  obtain ⟨m, hm, hnumber⟩ := Loop.exists_call (hcalls ▸ hc)
  have hmn : m < n := by
    have hlt := (List.getElem?_eq_some_iff.mp hm).1
    rw [List.length_take] at hlt
    omega
  rw [List.getElem?_take_of_lt hmn] at hm
  rw [List.take_take, Nat.min_eq_left (Nat.le_of_lt hmn)] at hnumber
  refine ⟨m, Nat.le_of_lt hmn, ⟨c, hm⟩, hnumber, ?_, ?_⟩
  · rw [hrun, loop_result]
    simp only [Loop.result, hk]
  · rw [Loop.run_take_succ _ _ he, hrun, exec_loop, loop_result, seenBy, hresult a ha]
    simp

variable (P s evs) in
/-- **Every call leaves the pool as it found it** exactly when no dropped answer is delivered. -/
theorem kept_iff (hprog : ∀ c, OneShot (prog c)) (hcap : 0 < P.capacity) :
    (∀ i m n, Loop.Spans (fun c => P.instrument (prog c)) ⟨s, 0⟩ evs i m n →
      P.heldAt prog s evs (n + 1) = P.heldAt prog s evs m) ↔
    ∀ n, ¬ P.LeakAt prog s evs n := by
  have hcounts := P.counts_run prog s evs
  constructor
  · intro hkept
    refine (hcounts.zero_iff hcap).mp (hcounts.zero_of_le ?_)
    rintro n ⟨i, x, he, hwait, -⟩ -
    obtain ⟨m, hmn, hspan⟩ := spans_of_leak hprog he hwait
    rw [hkept i m n hspan]
    exact hcounts.monotone hmn
  · intro hnone i m n _
    have hzero := (hcounts.zero_iff hcap).mpr hnone
    rw [hzero, hzero]

theorem seen_zero (hcap : 0 < P.capacity) (x : Ans) : P.seen 0 x = x := if_pos hcap

theorem seenBy_zero (hcap : 0 < P.capacity) (e : Event κ Ans) : P.seenBy 0 e = e := by
  cases e with
  | call c => rfl
  | reply i x => rw [seenBy, seen_zero hcap]

/-- **And then the pool is invisible.** -/
theorem run_eq_of_not_leak (hcap : 0 < P.capacity) (hnone : ∀ n, ¬ P.LeakAt prog s evs n) :
    Loop.run (fun c => P.instrument (prog c)) ⟨s, 0⟩ evs = P.loop (Loop.run prog s evs) 0 := by
  have hzero := ((P.counts_run prog s evs).zero_iff hcap).mpr hnone
  have hall : ∀ n, Loop.run (fun c => P.instrument (prog c)) ⟨s, 0⟩ (evs.take n)
      = P.loop (Loop.run prog s (evs.take n)) 0 := by
    intro n
    induction n with
    | zero => rfl
    | succ n ih =>
      cases he : evs[n]? with
      | none => rw [List.take_add_one, he, Option.toList_none, List.append_nil, ih]
      | some e =>
        have hnext := hzero (n + 1)
        rw [heldAt, Loop.run_take_succ _ _ he, ih, exec_loop] at hnext
        have hheld : P.heldAfter (Loop.run prog s (evs.take n)) 0 e = 0 := hnext
        rw [Loop.run_take_succ _ _ he, Loop.run_take_succ _ _ he, ih, exec_loop, hheld,
          seenBy_zero hcap]
  have := hall evs.length
  rwa [List.take_length] at this

end Runs

/-! ## 5. Blocking code -/

section Sessions

variable {P : Pool Ans} {prog : κ → Coro σ Req Ans α} {s : σ} {steps : List (κ × Ans)}

variable (P) in
/-- **A blocking call over the pool** is the call on the answer that is seen. -/
theorem drive_instrument {p : Coro σ Req Ans α} (hp : p.OneShot) (x : Ans) (s : σ) (h : Nat) :
    let d := p.drive (fun _ _ => P.seen h x) s []
    (P.instrument p).drive (fun _ _ => x) ⟨s, h⟩ []
      = (⟨d.1, if (p.advance s).2.request.isSome then P.after h x else h⟩, d.2.1, d.2.2) := by
  have hplain := drive_eq_advance (fun _ _ => P.seen h x) p s []
  have hpool := drive_eq_advance (fun _ _ => x) (P.instrument p) ⟨s, h⟩ []
  rw [advance_instrument] at hpool
  cases hadv : p.advance s with
  | mk s' ph =>
    rw [hadv] at hplain hpool
    cases ph with
    | finished a =>
      simp only [phase] at hpool
      simp only [hpool, hplain, Phase.request, Option.isSome_none, Bool.false_eq_true, if_false]
    | waiting r k =>
      obtain ⟨a, ha⟩ := hp s r k (by rw [hadv]) (P.seen h x)
      have hdeliver := drive_eq_advance (fun _ _ => x) (P.deliver k x) ⟨s', h⟩ [r]
      rw [advance_deliver, ha] at hdeliver
      simp only [phase, List.nil_append] at hpool
      simp only [advance_ret, phase] at hdeliver
      simp only [List.nil_append, ha, drive] at hplain
      simp only [hpool, hdeliver, hplain, Phase.request, Option.isSome_some, if_true]

variable (P prog s steps) in
/-- The state after `n` calls. -/
def sessionAt (n : Nat) : Pooled σ :=
  (Loop.session (fun c => P.instrument (prog c)) ⟨s, 0⟩ (steps.take n)).1

variable (P prog s steps) in
/-- Call `n` hands a request over, and the answer is dropped. -/
def LeakStep (n : Nat) : Prop :=
  ∃ c x, steps[n]? = some (c, x) ∧
    ((prog c).advance (P.sessionAt prog s steps n).inner).2.request.isSome = true ∧
    P.leaks x = true

theorem sessionAt_succ_of_none {n : Nat} (h : steps[n]? = none) :
    P.sessionAt prog s steps (n + 1) = P.sessionAt prog s steps n := by
  rw [sessionAt, sessionAt, List.take_add_one, h, Option.toList_none, List.append_nil]

variable (P s steps) in
/-- **One more call** is run on the answer that is seen. -/
theorem session_concat (hprog : ∀ c, OneShot (prog c)) (c : κ) (x : Ans) :
    let r := Loop.session (fun c => P.instrument (prog c)) ⟨s, 0⟩ steps
    let d := (prog c).drive (fun _ _ => P.seen r.1.held x) r.1.inner []
    Loop.session (fun c => P.instrument (prog c)) ⟨s, 0⟩ (steps ++ [(c, x)])
      = (⟨d.1, if ((prog c).advance r.1.inner).2.request.isSome then P.after r.1.held x
        else r.1.held⟩, r.2.1 ++ d.2.1, r.2.2 ++ [d.2.2]) := by
  intro r d
  have hdrive := P.drive_instrument (hprog c) x r.1.inner r.1.held
  rw [Loop.session_concat]
  exact congrArg (fun d => (d.1, r.2.1 ++ d.2.1, r.2.2 ++ [d.2.2])) hdrive

variable (P s steps) in
theorem counts_session (hprog : ∀ c, OneShot (prog c)) :
    P.Counts (fun n => (P.sessionAt prog s steps n).held) (P.LeakStep prog s steps) := by
  refine ⟨rfl, fun n => ?_⟩
  cases hstep : steps[n]? with
  | none =>
    right
    refine ⟨?_, ?_⟩
    · rintro ⟨⟨c, x, hcall, -⟩, -⟩
      exact absurd (hstep.symm.trans hcall) (by simp)
    · rw [sessionAt_succ_of_none hstep]
  | some step =>
    obtain ⟨c, x⟩ := step
    let S := P.sessionAt prog s steps n
    let waits := ((prog c).advance S.inner).2.request.isSome
    have hnext : (P.sessionAt prog s steps (n + 1)).held
        = if waits then P.after S.held x else S.held := by
      rw [sessionAt, List.take_add_one, hstep, Option.toList_some, P.session_concat s _ hprog c x]
      rfl
    rw [hnext]
    rcases P.after_cases S.held x waits with ⟨hleak, hroom, hafter⟩ | hkeep
    · exact Or.inl ⟨⟨c, x, hstep, hleak⟩, hroom, hafter⟩
    · refine Or.inr ⟨?_, hkeep.2⟩
      rintro ⟨⟨d, y, hcall, hleak⟩, hroom⟩
      cases hstep.symm.trans hcall
      exact hkeep.1 ⟨hleak, hroom⟩

variable (P s steps) in
/-- **What a blocking call returns** over the pool: what it makes of the answer it sees. -/
theorem session_result (hprog : ∀ c, OneShot (prog c)) {n : Nat} {c : κ} {x : Ans}
    (hstep : steps[n]? = some (c, x)) :
    let S := P.sessionAt prog s steps n
    (Loop.session (fun c => P.instrument (prog c)) ⟨s, 0⟩ steps).2.2[n]?
      = some ((prog c).drive (fun _ _ => P.seen S.held x) S.inner []).2.2 := by
  intro S
  rw [Loop.session_result, hstep, Option.map_some]
  exact congrArg (fun d => some d.2.2) (P.drive_instrument (hprog c) x S.inner S.held)

variable (P s steps) in
/-- **Every blocking call leaves the pool as it found it** exactly when no answer to one is
dropped. -/
theorem session_kept_iff (hprog : ∀ c, OneShot (prog c)) (hcap : 0 < P.capacity) :
    (∀ n, (P.sessionAt prog s steps (n + 1)).held = (P.sessionAt prog s steps n).held) ↔
      ∀ n, ¬ P.LeakStep prog s steps n := by
  have hcounts := P.counts_session s steps hprog
  rw [← hcounts.zero_iff hcap]
  constructor
  · exact fun hkept => hcounts.zero_of_le fun n _ _ => Nat.le_of_eq (hkept n)
  · intro hzero n
    exact (hzero (n + 1)).trans (hzero n).symm

/-- **And then the pool is invisible.** -/
theorem session_eq_of_not_leak (hprog : ∀ c, OneShot (prog c)) (hcap : 0 < P.capacity)
    (hnone : ∀ n, ¬ P.LeakStep prog s steps n) :
    let r := Loop.session prog s steps
    Loop.session (fun c => P.instrument (prog c)) ⟨s, 0⟩ steps = (⟨r.1, 0⟩, r.2.1, r.2.2) := by
  have hzero := ((P.counts_session s steps hprog).zero_iff hcap).mpr hnone
  have hall : ∀ n, Loop.session (fun c => P.instrument (prog c)) ⟨s, 0⟩ (steps.take n)
      = (⟨(Loop.session prog s (steps.take n)).1, 0⟩, (Loop.session prog s (steps.take n)).2) := by
    intro n
    induction n with
    | zero => rfl
    | succ n ih =>
      cases hstep : steps[n]? with
      | none => rw [List.take_add_one, hstep, Option.toList_none, List.append_nil, ih]
      | some step =>
        obtain ⟨c, x⟩ := step
        have htake : steps.take (n + 1) = steps.take n ++ [(c, x)] := by
          rw [List.take_add_one, hstep, Option.toList_some]
        have hnext := P.session_concat s (steps.take n) hprog c x
        have hheld := hzero (n + 1)
        rw [sessionAt, htake, hnext] at hheld
        simp only [ih, seen_zero hcap] at hnext hheld
        rw [htake, hnext, hheld, Loop.session_concat]
  have := hall steps.length
  rwa [List.take_length] at this

end Sessions

end Pool
