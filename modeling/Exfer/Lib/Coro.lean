/-
# Coroutines on one event loop

A coroutine reads and writes a shared state without suspending (`update`), and suspends only
where it hands a request over and waits for the answer (`await`).  This is the execution model
of `asyncio`, and with nothing else on the loop it is that of blocking code.

* `Coro.advance` runs a coroutine up to its next `await` or its end: the part of the execution
  that no other task can interrupt.
* `Loop` holds the tasks of one loop, the shared state, and the log of the requests handed
  over.  A run is a list of events: a new task, or an answer to a waiting one, in any order.
* `Coro.drive` runs one coroutine to its end, answering as it goes: blocking code.

A coroutine is `OneShot` when no answer makes it hand over a second request.  For a family of
these the loop is simple, whatever the interleaving.  An answer changes neither the shared state
nor the log (`Loop.exec_reply`), so both are what starting the tasks one after the other gives
(`Loop.run_eq_spawnAll`).  A task has handed over the request of its start, if it had one, and
nothing else (`Loop.requestsOf_run`).  A run that answers each task at once is the blocking run
(`Loop.run_blocking`).  And a loop is decided by the tasks it starts and the first answer each of
them gets (`Loop.run_eq_of_answers`).
-/
import Mathlib.Data.List.Induction

/-- A coroutine over a shared state `σ`, handing over requests `Req` and receiving answers
`Ans`. -/
inductive Coro (σ Req Ans α : Type) where
  | ret (a : α)
  | update (f : σ → σ) (k : σ → Coro σ Req Ans α)
  | await (r : Req) (k : Ans → Coro σ Req Ans α)

variable {σ Req Ans α β γ κ ι : Type}

namespace Coro

/-! ## 1. Sequencing -/

def bind : Coro σ Req Ans α → (α → Coro σ Req Ans β) → Coro σ Req Ans β
  | ret a, g => g a
  | update f k, g => update f fun s => (k s).bind g
  | await r k, g => await r fun x => (k x).bind g

instance : Monad (Coro σ Req Ans) where
  pure := ret
  bind := bind

theorem update_congr {f : σ → σ} {k k' : σ → Coro σ Req Ans α} (h : ∀ s, k s = k' s) :
    update f k = update f k' :=
  congrArg (update f) (funext h)

theorem await_congr {r : Req} {k k' : Ans → Coro σ Req Ans α} (h : ∀ x, k x = k' x) :
    await r k = await r k' :=
  congrArg (await r) (funext h)

theorem bind_ret (p : Coro σ Req Ans α) : p.bind ret = p := by
  induction p with
  | ret a => rfl
  | update f k ih => exact update_congr ih
  | await r k ih => exact await_congr ih

theorem bind_assoc (p : Coro σ Req Ans α) (g : α → Coro σ Req Ans β)
    (h : β → Coro σ Req Ans γ) : (p.bind g).bind h = p.bind fun a => (g a).bind h := by
  induction p with
  | ret a => rfl
  | update f k ih => exact update_congr ih
  | await r k ih => exact await_congr ih

/-- Sequencing obeys the monad laws. -/
instance : LawfulMonad (Coro σ Req Ans) :=
  LawfulMonad.mk' _ bind_ret (fun _ _ => rfl) bind_assoc

/-! ## 2. Between two suspensions -/

/-- Where a coroutine stands when it does not run: it has handed over a request and waits for
the answer, or it has finished. -/
inductive Phase (σ Req Ans α : Type) where
  | waiting (r : Req) (k : Ans → Coro σ Req Ans α)
  | finished (a : α)

/-- The request a phase waits on. -/
def Phase.request : Phase σ Req Ans α → Option Req
  | .waiting r _ => some r
  | .finished _ => none

/-- Run up to the next `await` or the end. -/
def advance : Coro σ Req Ans α → σ → σ × Phase σ Req Ans α
  | ret a, s => (s, .finished a)
  | update f k, s => (k s).advance (f s)
  | await r k, s => (s, .waiting r k)

@[simp] theorem advance_ret (a : α) (s : σ) :
    (ret a : Coro σ Req Ans α).advance s = (s, .finished a) := rfl

/-- Blocking execution: run to the end, answering each request from the requests so far. -/
def drive (answer : List Req → Req → Ans) :
    Coro σ Req Ans α → σ → List Req → σ × List Req × α
  | ret a, s, hist => (s, hist, a)
  | update f k, s, hist => drive answer (k s) (f s) hist
  | await r k, s, hist => drive answer (k (answer hist r)) s (hist ++ [r])

/-- A blocking run advances, answers the request it stops at, and goes on. -/
theorem drive_eq_advance (answer : List Req → Req → Ans) (p : Coro σ Req Ans α) (s : σ)
    (hist : List Req) :
    p.drive answer s hist = match p.advance s with
      | (s', .waiting r k) => (k (answer hist r)).drive answer s' (hist ++ [r])
      | (s', .finished a) => (s', hist, a) := by
  induction p generalizing s with
  | ret a => rfl
  | update f k ih => exact ih s (f s)
  | await r k _ => rfl

/-- Driving respects sequencing. -/
theorem drive_bind (answer : List Req → Req → Ans) (p : Coro σ Req Ans α)
    (g : α → Coro σ Req Ans β) (s : σ) (hist : List Req) :
    (p.bind g).drive answer s hist =
      (g (p.drive answer s hist).2.2).drive answer (p.drive answer s hist).1
        (p.drive answer s hist).2.1 := by
  induction p generalizing s hist with
  | ret a => rfl
  | update f k ih => exact ih s (f s) hist
  | await r k ih => exact ih (answer hist r) s (hist ++ [r])

/-- The coroutine has nothing left to do once its first request is answered. -/
def OneShot (p : Coro σ Req Ans α) : Prop :=
  ∀ s r k, (p.advance s).2 = .waiting r k → ∀ x, ∃ a, k x = ret a

end Coro

/-! ## 3. The loop -/

open Coro

/-- One event loop: the shared state, the requests handed over so far with the task that handed
each over, and the phase of every task. -/
structure Loop (σ Req Ans α : Type) where
  shared : σ
  log : List (Nat × Req)
  tasks : List (Phase σ Req Ans α)

/-- What happens on a loop: a task is started, or the answer to a task arrives. -/
inductive Event (κ Ans : Type) where
  | call (c : κ)
  | reply (i : Nat) (x : Ans)

namespace Loop

def init (s : σ) : Loop σ Req Ans α := ⟨s, [], []⟩

/-- The log entry of task `i` when it reaches the phase `ph`. -/
def entry (i : Nat) (ph : Phase σ Req Ans α) : List (Nat × Req) :=
  ph.request.toList.map (i, ·)

/-- One event.  An answer to a task that does not wait is dropped. -/
def exec (prog : κ → Coro σ Req Ans α) (L : Loop σ Req Ans α) :
    Event κ Ans → Loop σ Req Ans α
  | .call c =>
    let r := (prog c).advance L.shared
    ⟨r.1, L.log ++ entry L.tasks.length r.2, L.tasks ++ [r.2]⟩
  | .reply i x =>
    match L.tasks[i]? with
    | some (.waiting _ k) =>
      let r := (k x).advance L.shared
      ⟨r.1, L.log ++ entry i r.2, L.tasks.set i r.2⟩
    | _ => L

/-- A run from the shared state `s`. -/
def run (prog : κ → Coro σ Req Ans α) (s : σ) (evs : List (Event κ Ans)) :
    Loop σ Req Ans α :=
  evs.foldl (exec prog) (init s)

/-- The tasks a run starts, in order. -/
def calls : List (Event κ Ans) → List κ
  | [] => []
  | .call c :: evs => c :: calls evs
  | .reply _ _ :: evs => calls evs

/-- The requests task `i` has handed over. -/
def requestsOf (L : Loop σ Req Ans α) (i : Nat) : List Req :=
  (L.log.filter (·.1 == i)).map Prod.snd

/-! ## 4. Loops of one-shot tasks -/

/-- No waiting task has anything left to do but to finish. -/
def Calm (L : Loop σ Req Ans α) : Prop :=
  ∀ (i : Nat) (r : Req) (k : Ans → Coro σ Req Ans α), L.tasks[i]? = some (.waiting r k) →
    ∀ x, ∃ a, k x = ret a

theorem calm_init (s : σ) : Calm (init s : Loop σ Req Ans α) := fun i r k h => by
  simp [init] at h

section OneShot

variable {prog : κ → Coro σ Req Ans α}

variable (prog) in
/-- **An answer is invisible**: on a calm loop it moves neither the shared state nor the log,
and starts no task. -/
theorem exec_reply {L : Loop σ Req Ans α} (hL : Calm L) (i : Nat) (x : Ans) :
    (exec prog L (.reply i x)).shared = L.shared ∧ (exec prog L (.reply i x)).log = L.log ∧
      (exec prog L (.reply i x)).tasks.length = L.tasks.length := by
  simp only [exec]
  split
  · rename_i r k hk
    obtain ⟨a, ha⟩ := hL i r k hk x
    simp [ha, entry, Phase.request]
  · exact ⟨rfl, rfl, rfl⟩

variable (prog) in
/-- What an event hands over: at most one request, of the task it starts. -/
theorem exec_log {L : Loop σ Req Ans α} (hL : Calm L) (e : Event κ Ans) :
    ∃ new, (exec prog L e).log = L.log ++ new ∧ new.length ≤ 1 ∧
      ∀ p ∈ new, p.1 = L.tasks.length := by
  cases e with
  | call c =>
    refine ⟨_, rfl, ?_, ?_⟩
    · rw [entry, List.length_map]
      exact Option.length_toList_le
    · intro p hp
      simp only [entry, List.mem_map] at hp
      obtain ⟨r, -, rfl⟩ := hp
      rfl
  | reply i x => exact ⟨[], by simp [(exec_reply prog hL i x).2.1], by simp, by simp⟩

theorem calm_exec (hprog : ∀ c, OneShot (prog c)) {L : Loop σ Req Ans α} (hL : Calm L)
    (e : Event κ Ans) : Calm (exec prog L e) := by
  intro i r k hk x
  cases e with
  | call c =>
    simp only [exec] at hk
    rcases Nat.lt_or_ge i L.tasks.length with hi | hi
    · rw [List.getElem?_append_left hi] at hk
      exact hL i r k hk x
    · rw [List.getElem?_append_right hi, List.getElem?_singleton] at hk
      split at hk
      · exact hprog c _ r k (Option.some.inj hk) x
      · simp at hk
  | reply j y =>
    simp only [exec] at hk
    split at hk
    · rename_i r' k' hk'
      obtain ⟨a, ha⟩ := hL j r' k' hk' y
      rw [ha, List.getElem?_set] at hk
      split at hk
      · split at hk <;> simp at hk
      · exact hL i r k hk x
    · exact hL i r k hk x

/-- Start the tasks `cs` one after the other, numbered from `i`. -/
def spawnAll (prog : κ → Coro σ Req Ans α) : σ → Nat → List κ → σ × List (Nat × Req)
  | s, _, [] => (s, [])
  | s, i, c :: cs =>
    let r := (prog c).advance s
    let rest := spawnAll prog r.1 (i + 1) cs
    (rest.1, entry i r.2 ++ rest.2)

theorem foldl_eq_spawnAll (hprog : ∀ c, OneShot (prog c)) (evs : List (Event κ Ans))
    (L : Loop σ Req Ans α) (hL : Calm L) :
    (evs.foldl (exec prog) L).shared
        = (spawnAll prog L.shared L.tasks.length (calls evs)).1 ∧
      (evs.foldl (exec prog) L).log
        = L.log ++ (spawnAll prog L.shared L.tasks.length (calls evs)).2 ∧
      (evs.foldl (exec prog) L).tasks.length = L.tasks.length + (calls evs).length := by
  induction evs generalizing L with
  | nil => simp [calls, spawnAll]
  | cons e evs ih =>
    obtain ⟨h1, h2, h3⟩ := ih (exec prog L e) (calm_exec hprog hL e)
    cases e with
    | call c =>
      simp only [List.foldl_cons, calls, spawnAll]
      refine ⟨?_, ?_, ?_⟩
      · rw [h1]; simp [exec]
      · rw [h2]; simp [exec]
      · rw [h3]; simp [exec]; omega
    | reply i x =>
      obtain ⟨e1, e2, e3⟩ := exec_reply prog hL i x
      simp only [List.foldl_cons, calls]
      rw [e1, e3] at h1
      rw [e1, e2, e3] at h2
      rw [e3] at h3
      exact ⟨h1, h2, h3⟩

/-- **The interleaving does not matter.**  Whatever answers arrive, and when, the shared state
and the log are those of starting the tasks in order. -/
theorem run_eq_spawnAll (hprog : ∀ c, OneShot (prog c)) (s : σ) (evs : List (Event κ Ans)) :
    (run prog s evs).shared = (spawnAll prog s 0 (calls evs)).1 ∧
      (run prog s evs).log = (spawnAll prog s 0 (calls evs)).2 ∧
      (run prog s evs).tasks.length = (calls evs).length := by
  obtain ⟨h1, h2, h3⟩ := foldl_eq_spawnAll hprog evs _ (calm_init s)
  refine ⟨h1, ?_, ?_⟩
  · simpa [run, init] using h2
  · simpa [run, init] using h3

end OneShot

/-! ## 5. What one task did -/

section Tasks

variable {prog : κ → Coro σ Req Ans α}

/-- The shared state in which task `i` starts. -/
def startState (prog : κ → Coro σ Req Ans α) (s : σ) (cs : List κ) (i : Nat) : σ :=
  (spawnAll prog s 0 (cs.take i)).1

theorem spawnAll_tag_ge (cs : List κ) (s : σ) (j : Nat) :
    ∀ p ∈ (spawnAll prog s j cs).2, j ≤ p.1 := by
  induction cs generalizing s j with
  | nil => simp [spawnAll]
  | cons c cs ih =>
    intro p hp
    simp only [spawnAll, List.mem_append] at hp
    rcases hp with hp | hp
    · simp only [entry, List.mem_map] at hp
      obtain ⟨r, -, rfl⟩ := hp
      exact Nat.le_refl j
    · exact Nat.le_of_succ_le (ih _ (j + 1) p hp)

theorem filter_entry_self (i : Nat) (ph : Phase σ Req Ans α) :
    ((entry i ph).filter (·.1 == i)).map Prod.snd = ph.request.toList := by
  cases ph <;> simp [entry, Phase.request]

theorem filter_entry_ne {i j : Nat} (h : j ≠ i) (ph : Phase σ Req Ans α) :
    (entry j ph).filter (·.1 == i) = [] := by
  cases ph <;> simp [entry, Phase.request, h]

variable (prog) in
theorem spawnAll_requestsOf (cs : List κ) (s : σ) (j i : Nat) (c : κ) (hc : cs[i]? = some c) :
    ((spawnAll prog s j cs).2.filter (·.1 == j + i)).map Prod.snd
      = ((prog c).advance (spawnAll prog s j (cs.take i)).1).2.request.toList := by
  induction cs generalizing s j i with
  | nil => simp at hc
  | cons d cs ih =>
    cases i with
    | zero =>
      have hdc : d = c := by simpa using hc
      subst hdc
      have hrest : (spawnAll prog ((prog d).advance s).1 (j + 1) cs).2.filter (·.1 == j) = [] := by
        rw [List.filter_eq_nil_iff]
        intro p hp
        have := spawnAll_tag_ge cs _ (j + 1) p hp
        simp only [beq_iff_eq]
        omega
      simp only [spawnAll, List.take_zero, Nat.add_zero, List.filter_append, hrest,
        List.append_nil]
      exact filter_entry_self j _
    | succ i =>
      have htail := ih ((prog d).advance s).1 (j + 1) i (by simpa using hc)
      have hne : j ≠ j + (i + 1) := by omega
      simp only [spawnAll, List.take_succ_cons, List.filter_append, filter_entry_ne hne,
        List.nil_append]
      rw [show j + (i + 1) = j + 1 + i by omega]
      exact htail

/-- **One request a task, at most**: task `i` has handed over the request it stopped at when it
was started, if it stopped, and no other. -/
theorem requestsOf_run (hprog : ∀ c, OneShot (prog c)) (s : σ) {evs : List (Event κ Ans)}
    {i : Nat} {c : κ} (hc : (calls evs)[i]? = some c) :
    (run prog s evs).requestsOf i
      = ((prog c).advance (startState prog s (calls evs) i)).2.request.toList := by
  have h := spawnAll_requestsOf prog (calls evs) s 0 i c hc
  rw [requestsOf, (run_eq_spawnAll hprog s evs).2.1]
  simpa [startState] using h

theorem spawnAll_tag_lt (cs : List κ) (s : σ) (j : Nat) :
    ∀ p ∈ (spawnAll prog s j cs).2, p.1 < j + cs.length := by
  induction cs generalizing s j with
  | nil => simp [spawnAll]
  | cons c cs ih =>
    intro p hp
    simp only [spawnAll, List.mem_append] at hp
    rw [List.length_cons]
    rcases hp with hp | hp
    · simp only [entry, List.mem_map] at hp
      obtain ⟨r, -, rfl⟩ := hp
      exact Nat.lt_add_of_pos_right (Nat.succ_pos _)
    · have := ih _ (j + 1) p hp
      omega

/-- Every request belongs to a task that was started. -/
theorem log_tag_lt (hprog : ∀ c, OneShot (prog c)) (s : σ) (evs : List (Event κ Ans)) :
    ∀ p ∈ (run prog s evs).log, p.1 < (calls evs).length := by
  intro p hp
  rw [(run_eq_spawnAll hprog s evs).2.1] at hp
  simpa using spawnAll_tag_lt (calls evs) s 0 p hp

theorem run_concat (s : σ) (evs : List (Event κ Ans)) (e : Event κ Ans) :
    run prog s (evs ++ [e]) = exec prog (run prog s evs) e := by
  simp [run]

theorem calls_append (evs evs' : List (Event κ Ans)) :
    calls (evs ++ evs') = calls evs ++ calls evs' := by
  induction evs with
  | nil => rfl
  | cons e evs ih =>
    cases e with
    | call c => exact congrArg (c :: ·) ih
    | reply i x => exact ih

/-- **What has become of a task**: it stands where its start left it, or it has received one
answer and is finished. -/
theorem task_run (hprog : ∀ c, OneShot (prog c)) (s : σ) (evs : List (Event κ Ans)) :
    ∀ {i : Nat} {c : κ}, (calls evs)[i]? = some c →
      let ph := ((prog c).advance (startState prog s (calls evs) i)).2
      (run prog s evs).tasks[i]? = some ph ∨
        ∃ (r : Req) (k : Ans → Coro σ Req Ans α) (x : Ans) (a : α), ph = .waiting r k ∧
          k x = ret a ∧ (run prog s evs).tasks[i]? = some (.finished a) := by
  induction evs using List.reverseRecOn with
  | nil => intro i c hc; simp [calls] at hc
  | append_singleton evs e ih =>
    intro i c hc
    obtain ⟨hshared, -, hlen⟩ := run_eq_spawnAll hprog s evs
    rw [run_concat]
    cases e with
    | call d =>
      have hcalls : calls (evs ++ [Event.call d]) = calls evs ++ [d] := calls_append evs _
      rw [hcalls] at hc ⊢
      simp only [exec]
      rcases Nat.lt_or_ge i (calls evs).length with hi | hi
      · rw [List.getElem?_append_left hi] at hc
        have hstart : startState prog s (calls evs ++ [d]) i = startState prog s (calls evs) i := by
          rw [startState, startState, List.take_append_of_le_length (Nat.le_of_lt hi)]
        rw [hstart, List.getElem?_append_left (by rw [hlen]; exact hi)]
        exact ih hc
      · have hi' : i = (calls evs).length := by
          have := (List.getElem?_eq_some_iff.mp hc).1
          simp only [List.length_append, List.length_singleton] at this
          omega
        subst hi'
        have hcd : d = c := by simpa using hc
        subst hcd
        refine Or.inl ?_
        rw [List.getElem?_append_right (Nat.le_of_eq hlen), hlen, Nat.sub_self]
        simp [startState, hshared]
    | reply j x =>
      have hcalls : calls (evs ++ [Event.reply j x]) = calls evs := by
        simp [calls_append, calls]
      rw [hcalls] at hc ⊢
      have hi := ih hc
      simp only [exec]
      split
      · rename_i r k hk
        by_cases hij : j = i
        · -- the answer is for this task, which therefore still waits where it started
          subst hij
          rcases hi with hi | ⟨r', k', x', a', -, -, hi⟩
          · have hph := Option.some.inj (hi.symm.trans hk)
            obtain ⟨a, ha⟩ := hprog c _ r k hph x
            refine Or.inr ⟨r, k, x, a, hph, ha, ?_⟩
            have hlt := (List.getElem?_eq_some_iff.mp hk).1
            rw [List.getElem?_set_self hlt, ha]
            rfl
          · exact absurd (hi.symm.trans hk) (by simp)
        · rw [List.getElem?_set_ne hij]
          exact hi
      · exact hi

/-- What task `i` has returned, once it is finished. -/
def result (L : Loop σ Req Ans α) (i : Nat) : Option α :=
  match L.tasks[i]? with
  | some (.finished a) => some a
  | _ => none

/-- The task waits for an answer. -/
def waits (L : Loop σ Req Ans α) (i : Nat) : Bool :=
  match L.tasks[i]? with
  | some (.waiting _ _) => true
  | _ => false

theorem waits_iff {L : Loop σ Req Ans α} {i : Nat} :
    L.waits i = true ↔ ∃ r k, L.tasks[i]? = some (.waiting r k) := by
  unfold waits
  constructor
  · intro h
    split at h
    · rename_i r k hk
      exact ⟨r, k, hk⟩
    · cases h
  · rintro ⟨r, k, hk⟩
    rw [hk]

/-- **Answering a task that waits** ends it, with what its continuation makes of the answer.  The
continuation is that of the start, whatever has happened since. -/
theorem result_reply (hprog : ∀ c, OneShot (prog c)) (s : σ) {evs : List (Event κ Ans)} {i : Nat}
    {c : κ} (hc : (calls evs)[i]? = some c) {r : Req} {k : Ans → Coro σ Req Ans α}
    (hwait : (run prog s evs).tasks[i]? = some (.waiting r k)) (x : Ans) :
    ((prog c).advance (startState prog s (calls evs) i)).2 = .waiting r k ∧
      ∀ a, k x = ret a → result (exec prog (run prog s evs) (.reply i x)) i = some a := by
  have hstart : ((prog c).advance (startState prog s (calls evs) i)).2 = .waiting r k := by
    rcases task_run hprog s evs hc with h | ⟨_, _, _, _, -, -, h⟩
    · exact Option.some.inj (h.symm.trans hwait)
    · exact absurd (h.symm.trans hwait) (by simp)
  refine ⟨hstart, fun a ha => ?_⟩
  have hlt := (List.getElem?_eq_some_iff.mp hwait).1
  simp only [exec, hwait, result]
  rw [List.getElem?_set_self hlt, ha]
  rfl

/-- **A task that has returned stays returned.** -/
theorem result_exec {L : Loop σ Req Ans α} {i : Nat} {a : α} (h : L.result i = some a)
    (e : Event κ Ans) : (exec prog L e).result i = some a := by
  have htask : L.tasks[i]? = some (.finished a) := by
    unfold result at h
    split at h
    · rename_i b hb
      cases h
      exact hb
    · cases h
  have hsame : (exec prog L e).tasks[i]? = L.tasks[i]? := by
    cases e with
    | call c => exact List.getElem?_append_left (List.getElem?_eq_some_iff.mp htask).1
    | reply j x =>
      simp only [exec]
      split
      · rename_i r k hk
        refine List.getElem?_set_ne ?_
        rintro rfl
        cases htask.symm.trans hk
      · rfl
  rw [result, hsame, htask]

theorem result_of_take {s : σ} {evs : List (Event κ Ans)} {n i : Nat} {a : α}
    (h : (run prog s (evs.take n)).result i = some a) : (run prog s evs).result i = some a := by
  have hfold : ∀ (es : List (Event κ Ans)) (L : Loop σ Req Ans α), L.result i = some a →
      (es.foldl (exec prog) L).result i = some a := by
    intro es
    induction es with
    | nil => exact fun L hL => hL
    | cons e es ih => exact fun L hL => ih _ (result_exec hL e)
  have hsplit : run prog s evs = (evs.drop n).foldl (exec prog) (run prog s (evs.take n)) := by
    rw [run, run, ← List.foldl_append, List.take_append_drop]
  rw [hsplit]
  exact hfold _ _ h

/-- Call `i` of a run is started by event `m` and ended by event `n`. -/
structure Spans (prog : κ → Coro σ Req Ans α) (s : σ) (evs : List (Event κ Ans))
    (i m n : Nat) : Prop where
  starts : ∃ c, evs[m]? = some (.call c)
  number : (calls (evs.take m)).length = i
  pending : (run prog s (evs.take n)).result i = none
  ends : (run prog s (evs.take (n + 1))).result i ≠ none

/-- Every call that a run starts is started by one of its events. -/
theorem exists_call {evs : List (Event κ Ans)} {i : Nat} {c : κ}
    (h : (calls evs)[i]? = some c) :
    ∃ m, evs[m]? = some (.call c) ∧ (calls (evs.take m)).length = i := by
  induction evs generalizing i with
  | nil => simp [calls] at h
  | cons e evs ih =>
    cases e with
    | call d =>
      cases i with
      | zero =>
        have hd : d = c := by simpa [calls] using h
        exact ⟨0, by simp [hd], rfl⟩
      | succ i =>
        obtain ⟨m, hm, hlen⟩ := ih (by simpa [calls] using h)
        exact ⟨m + 1, by simpa using hm, by simp [calls, hlen]⟩
    | reply j x =>
      obtain ⟨m, hm, hlen⟩ := ih h
      exact ⟨m + 1, by simpa using hm, by simpa [calls] using hlen⟩

theorem run_take_succ (prog : κ → Coro σ Req Ans α) (s : σ) {evs : List (Event κ Ans)}
    {n : Nat} {e : Event κ Ans} (h : evs[n]? = some e) :
    run prog s (evs.take (n + 1)) = exec prog (run prog s (evs.take n)) e := by
  rw [List.take_add_one, h, Option.toList_some, run_concat]

end Tasks

/-! ## 6. Blocking runs -/

section Blocking

variable {prog : κ → Coro σ Req Ans α}

/-- Blocking code: one call after the other, each driven to its end before the next. -/
def session (prog : κ → Coro σ Req Ans α) : σ → List (κ × Ans) → σ × List Req × List α
  | s, [] => (s, [], [])
  | s, (c, x) :: steps =>
    let (s', reqs, a) := (prog c).drive (fun _ _ => x) s []
    let (s'', reqs', as) := session prog s' steps
    (s'', reqs ++ reqs', a :: as)

/-- Blocking code sees no more of a call than its coroutine. -/
theorem session_map (f : κ → ι) (prog : ι → Coro σ Req Ans α) (s : σ) (steps : List (κ × Ans)) :
    session prog s (steps.map fun step => (f step.1, step.2))
      = session (fun c => prog (f c)) s steps := by
  induction steps generalizing s with
  | nil => rfl
  | cons step steps ih =>
    obtain ⟨c, x⟩ := step
    simp only [List.map_cons, session, ih]

theorem session_concat (prog : κ → Coro σ Req Ans α) (s : σ) (steps : List (κ × Ans)) (c : κ)
    (x : Ans) :
    let r := session prog s steps
    let d := (prog c).drive (fun _ _ => x) r.1 []
    session prog s (steps ++ [(c, x)]) = (d.1, r.2.1 ++ d.2.1, r.2.2 ++ [d.2.2]) := by
  induction steps generalizing s with
  | nil => simp [session]
  | cons step steps ih =>
    simp only [List.cons_append, session, ih, List.append_assoc]

/-- **The result of call `n`** is that of driving it from where the calls before it end. -/
theorem session_result (prog : κ → Coro σ Req Ans α) (s : σ) (steps : List (κ × Ans)) (n : Nat) :
    (session prog s steps).2.2[n]? = (steps[n]?).map fun step =>
      ((prog step.1).drive (fun _ _ => step.2) (session prog s (steps.take n)).1 []).2.2 := by
  induction steps generalizing s n with
  | nil => rfl
  | cons step steps ih =>
    obtain ⟨c, x⟩ := step
    cases n with
    | zero => rfl
    | succ n => exact ih _ n

/-- The events of the same calls on a loop, each task awaited before the next is started. -/
def blocking : Nat → List (κ × Ans) → List (Event κ Ans)
  | _, [] => []
  | i, (c, x) :: steps => .call c :: .reply i x :: blocking (i + 1) steps

theorem calls_blocking (i : Nat) (steps : List (κ × Ans)) :
    calls (blocking i steps) = steps.map Prod.fst := by
  induction steps generalizing i with
  | nil => rfl
  | cons step steps ih =>
    obtain ⟨c, x⟩ := step
    simp [blocking, calls, ih (i + 1)]

/-- Starting a one-shot task and answering it is driving it. -/
theorem exec_call_reply (hprog : ∀ c, OneShot (prog c)) (L : Loop σ Req Ans α) (c : κ) (x : Ans) :
    let M := exec prog (exec prog L (.call c)) (.reply L.tasks.length x)
    let d := (prog c).drive (fun _ _ => x) L.shared []
    M.shared = d.1 ∧ M.log.map Prod.snd = L.log.map Prod.snd ++ d.2.1 ∧
      M.tasks = L.tasks ++ [.finished d.2.2] := by
  have hdrive := drive_eq_advance (fun _ _ => x) (prog c) L.shared []
  cases hadv : (prog c).advance L.shared with
  | mk s' ph =>
    cases ph with
    | finished a =>
      rw [hadv] at hdrive
      simp [exec, hadv, hdrive, entry, Phase.request]
    | waiting r k =>
      obtain ⟨a, ha⟩ := hprog c L.shared r k (by rw [hadv]) x
      rw [hadv] at hdrive
      simp only [ha, drive] at hdrive
      simp [exec, hadv, hdrive, ha, entry, Phase.request]

theorem foldl_blocking (hprog : ∀ c, OneShot (prog c)) (steps : List (κ × Ans))
    (L : Loop σ Req Ans α) :
    let M := (blocking L.tasks.length steps).foldl (exec prog) L
    let r := session prog L.shared steps
    M.shared = r.1 ∧ M.log.map Prod.snd = L.log.map Prod.snd ++ r.2.1 ∧
      M.tasks = L.tasks ++ r.2.2.map .finished := by
  induction steps generalizing L with
  | nil => simp [blocking, session]
  | cons step steps ih =>
    obtain ⟨c, x⟩ := step
    obtain ⟨e1, e2, e3⟩ := exec_call_reply hprog L c x
    have hlen : (exec prog (exec prog L (.call c)) (.reply L.tasks.length x)).tasks.length
        = L.tasks.length + 1 := by rw [e3]; simp
    have hrest := ih (exec prog (exec prog L (.call c)) (.reply L.tasks.length x))
    rw [hlen, e1, e2, e3] at hrest
    obtain ⟨h1, h2, h3⟩ := hrest
    simp only [blocking, List.foldl_cons, session]
    refine ⟨h1, ?_, ?_⟩
    · rw [h2]; simp
    · rw [h3]; simp

/-- **Awaiting in order is blocking**: a loop that answers each task before it starts the next
hands over the requests of the blocking run and ends with its results. -/
theorem run_blocking (hprog : ∀ c, OneShot (prog c)) (s : σ) (steps : List (κ × Ans)) :
    (run prog s (blocking 0 steps)).shared = (session prog s steps).1 ∧
      (run prog s (blocking 0 steps)).log.map Prod.snd = (session prog s steps).2.1 ∧
      (run prog s (blocking 0 steps)).tasks = (session prog s steps).2.2.map .finished := by
  have h := foldl_blocking hprog steps (init s : Loop σ Req Ans α)
  simpa [run, init] using h

end Blocking

/-! ## 7. The answers decide, not the schedule -/

section Answers

variable {prog : κ → Coro σ Req Ans α}

/-- The first answer that reaches task `i`, on a loop that has started `n` tasks before. -/
def answerFrom (n i : Nat) : List (Event κ Ans) → Option Ans
  | [] => none
  | .call _ :: evs => answerFrom (n + 1) i evs
  | .reply j x :: evs => if j = i ∧ i < n then some x else answerFrom n i evs

/-- The first answer that reaches task `i` in a run. -/
def answerTo (evs : List (Event κ Ans)) (i : Nat) : Option Ans := answerFrom 0 i evs

theorem answerFrom_call (evs : List (Event κ Ans)) (n i : Nat) (c : κ) :
    answerFrom n i (evs ++ [.call c]) = answerFrom n i evs := by
  induction evs generalizing n with
  | nil => rfl
  | cons e evs ih =>
    cases e with
    | call d => exact ih (n + 1)
    | reply j y =>
      simp only [List.cons_append, answerFrom]
      split
      · rfl
      · exact ih n

theorem answerFrom_reply (evs : List (Event κ Ans)) (n i j : Nat) (x : Ans) :
    answerFrom n i (evs ++ [.reply j x]) = (answerFrom n i evs).or
      (if j = i ∧ i < n + (calls evs).length then some x else none) := by
  induction evs generalizing n with
  | nil => rfl
  | cons e evs ih =>
    cases e with
    | call d =>
      have hlen : n + 1 + (calls evs).length = n + (calls (.call d :: evs)).length := by
        simp only [calls, List.length_cons]
        omega
      simp only [List.cons_append, answerFrom, ih, hlen]
    | reply k y =>
      simp only [List.cons_append, answerFrom, calls, ih]
      split <;> rfl

/-- An answer reaches no task that has not been started. -/
theorem answerFrom_eq_none (evs : List (Event κ Ans)) (n i : Nat)
    (h : n + (calls evs).length ≤ i) : answerFrom n i evs = none := by
  induction evs generalizing n with
  | nil => rfl
  | cons e evs ih =>
    cases e with
    | call d =>
      simp only [calls, List.length_cons] at h
      exact ih (n + 1) (by omega)
    | reply j x =>
      simp only [calls] at h
      rw [answerFrom, if_neg (by omega)]
      exact ih n h

theorem mem_of_answerFrom (evs : List (Event κ Ans)) (n i : Nat) {x : Ans}
    (h : answerFrom n i evs = some x) : .reply i x ∈ evs := by
  induction evs generalizing n with
  | nil => cases h
  | cons e evs ih =>
    cases e with
    | call d => exact List.mem_cons_of_mem _ (ih (n + 1) h)
    | reply j y =>
      rw [answerFrom] at h
      split at h
      · rename_i hj
        cases h
        exact hj.1 ▸ List.mem_cons_self
      · exact List.mem_cons_of_mem _ (ih n h)

/-- Where the answer leaves a task that stands at `ph`. -/
def settled (s : σ) (ph : Phase σ Req Ans α) : Option Ans → Phase σ Req Ans α
  | none => ph
  | some x =>
    match ph with
    | .waiting _ k => ((k x).advance s).2
    | .finished a => .finished a

/-- An answer ends a one-shot task. -/
theorem settled_some (hprog : ∀ c, OneShot (prog c)) (c : κ) (s : σ) (x : Ans) :
    ∃ a, ∀ s', settled s' ((prog c).advance s).2 (some x) = .finished a := by
  cases hph : ((prog c).advance s).2 with
  | finished a => exact ⟨a, fun _ => rfl⟩
  | waiting r k =>
    obtain ⟨a, ha⟩ := hprog c s r k hph x
    exact ⟨a, fun s' => by simp only [settled, ha, advance_ret]⟩

/-- An answer moves no task but its own. -/
theorem exec_reply_ne (L : Loop σ Req Ans α) {i j : Nat} (h : j ≠ i) (x : Ans) :
    (exec prog L (.reply j x)).tasks[i]? = L.tasks[i]? := by
  simp only [exec]
  split
  · exact List.getElem?_set_ne h
  · rfl

/-- An answer moves its own task from where it stands to where the answer leaves it. -/
theorem exec_reply_self {L : Loop σ Req Ans α} (hL : Calm L) (s : σ) (i : Nat) (x : Ans) :
    (exec prog L (.reply i x)).tasks[i]? = (L.tasks[i]?).map (settled s · (some x)) := by
  cases hph : L.tasks[i]? with
  | none => simp only [exec, hph, Option.map_none]
  | some ph =>
    cases ph with
    | finished a => simp only [exec, hph, Option.map_some, settled]
    | waiting r k =>
      obtain ⟨a, ha⟩ := hL i r k hph x
      have hlt := (List.getElem?_eq_some_iff.mp hph).1
      simp only [exec, hph, Option.map_some, settled, ha, advance_ret]
      exact List.getElem?_set_self hlt

theorem calm_run (hprog : ∀ c, OneShot (prog c)) (s : σ) (evs : List (Event κ Ans)) :
    Calm (run prog s evs) := by
  induction evs using List.reverseRecOn with
  | nil => exact calm_init s
  | append_singleton evs e ih =>
    rw [run_concat]
    exact calm_exec hprog ih e

/-- **A task is decided by its first answer**: it stands where its start and that answer leave
it. -/
theorem tasks_run (hprog : ∀ c, OneShot (prog c)) (s : σ) (evs : List (Event κ Ans)) (i : Nat) :
    (run prog s evs).tasks[i]? = ((calls evs)[i]?).map fun c =>
      settled s ((prog c).advance (startState prog s (calls evs) i)).2 (answerTo evs i) := by
  induction evs using List.reverseRecOn generalizing i with
  | nil => rfl
  | append_singleton evs e ih =>
    obtain ⟨hshared, -, hlen⟩ := run_eq_spawnAll hprog s evs
    rw [run_concat, calls_append]
    cases e with
    | call d =>
      simp only [answerTo, answerFrom_call, exec, calls]
      rcases Nat.lt_trichotomy i (calls evs).length with hi | hi | hi
      · have hstart : startState prog s (calls evs ++ [d]) i = startState prog s (calls evs) i := by
          rw [startState, startState, List.take_append_of_le_length (Nat.le_of_lt hi)]
        rw [List.getElem?_append_left (hlen ▸ hi), List.getElem?_append_left hi, hstart]
        exact ih i
      · -- the task just started, which nothing has answered yet
        subst hi
        have hnone := answerFrom_eq_none evs 0 (calls evs).length (by omega)
        rw [List.getElem?_append_right (Nat.le_of_eq hlen), hlen, Nat.sub_self, hnone]
        simp [startState, hshared, settled]
      · rw [List.getElem?_eq_none (by simp [hlen]; omega),
          List.getElem?_eq_none (by simp; omega)]
        rfl
    | reply j x =>
      simp only [answerTo, answerFrom_reply, calls, List.append_nil, Nat.zero_add]
      by_cases hij : j = i
      · subst hij
        rw [exec_reply_self (calm_run hprog s evs) s, ih j, Option.map_map]
        cases hc : (calls evs)[j]? with
        | none => rfl
        | some c =>
          have hlt := (List.getElem?_eq_some_iff.mp hc).1
          simp only [Option.map_some, Function.comp_apply, hlt, and_self, if_true, answerTo]
          cases answerFrom 0 j evs with
          | none => rfl
          | some y =>
            obtain ⟨a, ha⟩ := settled_some hprog c (startState prog s (calls evs) j) y
            simp only [Option.some_or, ha]
            rfl
      · rw [exec_reply_ne _ hij, ih i]
        simp [hij, answerTo]

theorem eq_of_fields {L L' : Loop σ Req Ans α} (hshared : L'.shared = L.shared)
    (hlog : L'.log = L.log) (htasks : L'.tasks = L.tasks) : L' = L := by
  obtain ⟨shared, log, tasks⟩ := L
  cases hshared
  cases hlog
  cases htasks
  rfl

/-- **The schedule does not matter**: two runs that start the same tasks, and give each that asks
for something the same first answer, end in the same loop. -/
theorem run_eq_of_answers (hprog : ∀ c, OneShot (prog c)) (s : σ) {evs evs' : List (Event κ Ans)}
    (hcalls : calls evs' = calls evs)
    (hanswers : ∀ i c, (calls evs)[i]? = some c →
      ((prog c).advance (startState prog s (calls evs) i)).2.request ≠ none →
      answerTo evs' i = answerTo evs i) : run prog s evs' = run prog s evs := by
  obtain ⟨hshared, hlog, -⟩ := run_eq_spawnAll hprog s evs
  obtain ⟨hshared', hlog', -⟩ := run_eq_spawnAll hprog s evs'
  have htasks : (run prog s evs').tasks = (run prog s evs).tasks := by
    apply List.ext_getElem?
    intro i
    rw [tasks_run hprog, tasks_run hprog, hcalls]
    cases hc : (calls evs)[i]? with
    | none => rfl
    | some c =>
      have hanswer := hanswers i c hc
      cases hph : ((prog c).advance (startState prog s (calls evs) i)).2 with
      | waiting r k =>
        rw [hph] at hanswer
        simp only [Option.map_some, hph, hanswer (by simp [Phase.request])]
      | finished a =>
        simp only [Option.map_some, hph]
        cases answerTo evs i <;> cases answerTo evs' i <;> rfl
  rw [hcalls] at hshared' hlog'
  exact eq_of_fields (hshared'.trans hshared.symm) (hlog'.trans hlog.symm) htasks

theorem answerFrom_blocking (steps : List (κ × Ans)) (n k : Nat) :
    answerFrom n (n + k) (blocking n steps) = (steps[k]?).map Prod.snd := by
  induction steps generalizing n k with
  | nil => rfl
  | cons step steps ih =>
    obtain ⟨c, x⟩ := step
    simp only [blocking, answerFrom]
    cases k with
    | zero => simp
    | succ k =>
      rw [if_neg (by omega), show n + (k + 1) = n + 1 + k by omega, ih]
      rfl

/-- **Interleaving is invisible**: however the tasks of a loop overlap, they end as blocking code
does that gets the same answers. -/
theorem run_interleaved (hprog : ∀ c, OneShot (prog c)) (s : σ) {evs : List (Event κ Ans)}
    {steps : List (κ × Ans)} (hcalls : calls evs = steps.map Prod.fst)
    (hanswers : ∀ i step, steps[i]? = some step →
      ((prog step.1).advance (startState prog s (calls evs) i)).2.request ≠ none →
      answerTo evs i = some step.2) :
    (run prog s evs).shared = (session prog s steps).1 ∧
      (run prog s evs).log.map Prod.snd = (session prog s steps).2.1 ∧
      (run prog s evs).tasks = (session prog s steps).2.2.map .finished := by
  have hcalls' := calls_blocking 0 steps
  have heq : run prog s evs = run prog s (blocking 0 steps) := by
    refine run_eq_of_answers hprog s (hcalls.trans hcalls'.symm) fun i c hc hask => ?_
    rw [hcalls', List.getElem?_map] at hc
    obtain ⟨step, hstep, rfl⟩ := Option.map_eq_some_iff.mp hc
    rw [hcalls', ← hcalls] at hask
    have hblocking := answerFrom_blocking steps 0 i
    rw [Nat.zero_add, hstep] at hblocking
    rw [hanswers i step hstep hask, answerTo, hblocking]
    rfl
  rw [heq]
  exact run_blocking hprog s steps

/-- **A result is made of one answer**: a task that has returned was finished when it was
started, or the run gave it an answer that its continuation turned into the result. -/
theorem result_run (hprog : ∀ c, OneShot (prog c)) (s : σ) {evs : List (Event κ Ans)} {i : Nat}
    {c : κ} (hc : (calls evs)[i]? = some c) {a : α} (ha : (run prog s evs).result i = some a) :
    ((prog c).advance (startState prog s (calls evs) i)).2 = .finished a ∨
      ∃ r k x, ((prog c).advance (startState prog s (calls evs) i)).2 = .waiting r k ∧
        .reply i x ∈ evs ∧ k x = ret a := by
  have htask := tasks_run hprog s evs i
  rw [hc, Option.map_some] at htask
  simp only [result, htask] at ha
  cases hph : ((prog c).advance (startState prog s (calls evs) i)).2 with
  | finished b =>
    cases hx : answerTo evs i <;> simp_all [settled]
  | waiting r k =>
    cases hx : answerTo evs i with
    | none => simp [hph, hx, settled] at ha
    | some x =>
      obtain ⟨b, hb⟩ := hprog c _ r k hph x
      simp only [hph, hx, settled, hb, advance_ret, Option.some.injEq] at ha
      exact Or.inr ⟨r, k, x, rfl, mem_of_answerFrom evs 0 i hx, ha ▸ hb⟩

end Answers

end Loop
