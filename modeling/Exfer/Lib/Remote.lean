/-
# A server at the other end

The tasks of a loop hand their requests to a network, and a server with a state of its own
answers them.  Requests overtake one another and get lost, and a task may be told that its
exchange failed at any time: before its request arrives, while it travels, or after it was
served.  No request is duplicated, and none is made up.

* `Net` is the client's loop, the requests under way, the server, and the exchanges the server
  has completed, in the order it completed them.
* `Net.Consistent` is the invariant: the completed exchanges are a sequential run of the server,
  no task has two of them, each is of a request that its task handed over, and every answer that
  reached the loop is one of theirs.  `Net.consistent_run` keeps it through every run of one-shot
  tasks.
* `Net.result_served` reads a result off an exchange, and `Net.precedes` says that their order
  never contradicts that of the calls: together, every run is linearizable.
* With each exchange carried out before the next call, the server might as well be a local object
  (`Net.run_blocking`).
* With each exchange given up, the loop does not see what the server did (`Net.run_retries`).
-/
import Exfer.Lib.Coro

variable {σ Req Rep ε α κ δ : Type}

open Coro

/-! ## 1. Sequential runs of a server -/

/-- Serve the requests one after the other. -/
def serveAll (serve : δ → Req → δ × Rep) : δ → List Req → δ × List Rep
  | d, [] => (d, [])
  | d, r :: rs =>
    let (d', x) := serve d r
    let (d'', xs) := serveAll serve d' rs
    (d'', x :: xs)

theorem serveAll_concat (serve : δ → Req → δ × Rep) (d : δ) (rs : List Req) (r : Req) :
    serveAll serve d (rs ++ [r]) =
      ((serve (serveAll serve d rs).1 r).1,
        (serveAll serve d rs).2 ++ [(serve (serveAll serve d rs).1 r).2]) := by
  induction rs generalizing d with
  | nil => rfl
  | cons r' rs ih => simp only [List.cons_append, serveAll, ih]

/-- Each answer of a sequential run is that of the server at some point. -/
theorem serveAll_mem {ι : Type} {serve : δ → Req → δ × Rep} {req : ι → Req} {rep : ι → Rep}
    {l : List ι} {d d' : δ} (h : serveAll serve d (l.map req) = (d', l.map rep)) :
    ∀ p ∈ l, ∃ d₀, rep p = (serve d₀ (req p)).2 := by
  induction l generalizing d with
  | nil => intro p hp; cases hp
  | cons q l ih =>
    simp only [List.map_cons, serveAll, Prod.mk.injEq, List.cons.injEq] at h
    obtain ⟨hstate, hhead, htail⟩ := h
    intro p hp
    rcases List.mem_cons.mp hp with rfl | hp
    · exact ⟨d, hhead.symm⟩
    · exact ih (Prod.ext hstate htail) p hp

/-- The requests leave a server that stands at `d` where it is. -/
def ReadOnly (serve : δ → Req → δ × Rep) (d : δ) (rs : List Req) : Prop :=
  ∀ r ∈ rs, (serve d r).1 = d

/-- A server that only reads answers each request from where it started. -/
theorem serveAll_readOnly {serve : δ → Req → δ × Rep} {d : δ} {rs : List Req}
    (h : ReadOnly serve d rs) : serveAll serve d rs = (d, rs.map fun r => (serve d r).2) := by
  induction rs with
  | nil => rfl
  | cons r rs ih =>
    have hrs : ReadOnly serve d rs := fun r' hr' => h r' (List.mem_cons_of_mem _ hr')
    simp only [serveAll, List.map_cons, h r List.mem_cons_self, ih hrs]

/-- `i` comes before `j`. -/
def Precedes (l : List Nat) (i j : Nat) : Prop := [i, j].Sublist l

/-! ## 2. The network -/

/-- What happens between the client and the server.  `arrive` and `lose` end the way of the
request of a task, `deliver` brings the answer back, and `fail` is what the client makes of an
exchange it gives up. -/
inductive NetEvent (κ ε : Type) where
  | call (c : κ)
  | arrive (i : Nat)
  | lose (i : Nat)
  | deliver (i : Nat)
  | fail (i : Nat) (e : ε)

/-- A client, a server, and what is between them.  `seen` is what has happened on the loop. -/
structure Net (σ Req Rep ε α κ δ : Type) where
  loop : Loop σ Req (Except ε Rep) α
  seen : List (Event κ (Except ε Rep))
  sent : List (Nat × Req)
  server : δ
  served : List (Nat × Req × Rep)

namespace Net

def init (s : σ) (d : δ) : Net σ Req Rep ε α κ δ := ⟨Loop.init s, [], [], d, []⟩

/-- The loop runs on.  What it hands over is sent. -/
def advance (prog : κ → Coro σ Req (Except ε Rep) α) (N : Net σ Req Rep ε α κ δ)
    (e : Event κ (Except ε Rep)) : Net σ Req Rep ε α κ δ :=
  let L := Loop.exec prog N.loop e
  { N with
    loop := L
    seen := N.seen ++ [e]
    sent := N.sent ++ L.log.drop N.loop.log.length }

/-- The server completes an exchange. -/
def complete (serve : δ → Req → δ × Rep) (N : Net σ Req Rep ε α κ δ) (i : Nat) (r : Req) :
    Net σ Req Rep ε α κ δ :=
  { N with
    sent := N.sent.eraseP (·.1 == i)
    server := (serve N.server r).1
    served := N.served ++ [(i, r, (serve N.server r).2)] }

/-- One event.  What concerns no request under way and no completed exchange is void. -/
def step (prog : κ → Coro σ Req (Except ε Rep) α) (serve : δ → Req → δ × Rep)
    (N : Net σ Req Rep ε α κ δ) : NetEvent κ ε → Net σ Req Rep ε α κ δ
  | .call c => advance prog N (.call c)
  | .arrive i =>
    match N.sent.lookup i with
    | some r => complete serve N i r
    | none => N
  | .lose i => { N with sent := N.sent.eraseP (·.1 == i) }
  | .deliver i =>
    match N.served.lookup i with
    | some (_, x) => advance prog N (.reply i (.ok x))
    | none => N
  | .fail i e => advance prog N (.reply i (.error e))

def run (prog : κ → Coro σ Req (Except ε Rep) α) (serve : δ → Req → δ × Rep) (s : σ) (d : δ)
    (evs : List (NetEvent κ ε)) : Net σ Req Rep ε α κ δ :=
  evs.foldl (step prog serve) (init s d)

/-- The calls of a run. -/
def calls : List (NetEvent κ ε) → List κ
  | [] => []
  | .call c :: evs => c :: calls evs
  | _ :: evs => calls evs

/-- The tasks whose exchange the server has completed, in order. -/
def order (N : Net σ Req Rep ε α κ δ) : List Nat := N.served.map Prod.fst

section

variable (prog : κ → Coro σ Req (Except ε Rep) α) (serve : δ → Req → δ × Rep) (s : σ) (d : δ)

/-! ## 3. What one event does -/

/-- What the loop sees of an event. -/
def sees (N : Net σ Req Rep ε α κ δ) : NetEvent κ ε → Option (Event κ (Except ε Rep))
  | .call c => some (.call c)
  | .arrive _ | .lose _ => none
  | .deliver i => (N.served.lookup i).map fun p => .reply i (.ok p.2)
  | .fail i e => some (.reply i (.error e))

/-- The exchange that an event completes. -/
def completes (N : Net σ Req Rep ε α κ δ) : NetEvent κ ε → Option (Nat × Req × Rep)
  | .arrive i => (N.sent.lookup i).map fun r => (i, r, (serve N.server r).2)
  | .call _ | .lose _ | .deliver _ | .fail _ _ => none

theorem seen_step (N : Net σ Req Rep ε α κ δ) (e : NetEvent κ ε) :
    (step prog serve N e).seen = N.seen ++ (N.sees e).toList := by
  cases e with
  | call c | fail i f => rfl
  | lose i => simp [step, sees]
  | arrive i => cases h : N.sent.lookup i <;> simp [step, sees, complete, h]
  | deliver i => cases h : N.served.lookup i <;> simp [step, sees, advance, h]

theorem served_step (N : Net σ Req Rep ε α κ δ) (e : NetEvent κ ε) :
    (step prog serve N e).served = N.served ++ (N.completes serve e).toList := by
  cases e with
  | call c | fail i f | lose i => simp [step, completes, advance]
  | arrive i => cases h : N.sent.lookup i <;> simp [step, completes, complete, h]
  | deliver i => cases h : N.served.lookup i <;> simp [step, completes, advance, h]

theorem run_concat (evs : List (NetEvent κ ε)) (e : NetEvent κ ε) :
    run prog serve s d (evs ++ [e]) = step prog serve (run prog serve s d evs) e := by
  simp [run]

theorem calls_append (evs evs' : List (NetEvent κ ε)) :
    calls (evs ++ evs') = calls evs ++ calls evs' := by
  induction evs with
  | nil => rfl
  | cons e evs ih => cases e <;> simp [calls, ih]

/-- The loop of a run has seen the calls of the run. -/
theorem calls_seen (evs : List (NetEvent κ ε)) :
    Loop.calls (run prog serve s d evs).seen = calls evs := by
  induction evs using List.reverseRecOn with
  | nil => rfl
  | append_singleton evs e ih =>
    rw [run_concat, seen_step, Loop.calls_append, calls_append, ih]
    cases e with
    | call c | fail i f | lose i | arrive i => rfl
    | deliver i =>
      simp only [sees]
      cases (run prog serve s d evs).served.lookup i <;> rfl

/-- A failure that the loop has seen is one of the run's. -/
theorem fail_of_seen {evs : List (NetEvent κ ε)} {i : Nat} {f : ε}
    (h : .reply i (.error f) ∈ (run prog serve s d evs).seen) : .fail i f ∈ evs := by
  induction evs using List.reverseRecOn with
  | nil => cases h
  | append_singleton evs e ih =>
    rw [run_concat, seen_step] at h
    rcases List.mem_append.mp h with h | h
    · exact List.mem_append_left _ (ih h)
    · refine List.mem_append_right _ (List.mem_singleton.mpr ?_)
      rw [Option.mem_toList] at h
      cases e with
      | fail j g =>
        cases h
        rfl
      | call c | lose j | arrive j => cases h
      | deliver j =>
        simp only [sees] at h
        cases hx : (run prog serve s d evs).served.lookup j <;> simp [hx] at h

/-- **The server's history only grows.** -/
theorem served_prefix (evs evs' : List (NetEvent κ ε)) :
    (run prog serve s d evs).served <+: (run prog serve s d (evs ++ evs')).served := by
  induction evs' using List.reverseRecOn with
  | nil => simp
  | append_singleton evs' e ih =>
    rw [← List.append_assoc, run_concat, served_step]
    exact ih.trans (List.prefix_append _ _)

/-! ## 4. The invariant -/

/-- What holds of client, server and network at any time. -/
structure Consistent (N : Net σ Req Rep ε α κ δ) : Prop where
  /-- The loop is the run of what it has seen. -/
  replay : N.loop = Loop.run prog s N.seen
  /-- The completed exchanges are a sequential run of the server. -/
  legal : serveAll serve d (N.served.map fun p => p.2.1) = (N.server, N.served.map fun p => p.2.2)
  /-- No task has two exchanges, complete or under way. -/
  once : (N.order ++ N.sent.map Prod.fst).Nodup
  /-- What is under way was handed over. -/
  sent_logged : ∀ p ∈ N.sent, p ∈ N.loop.log
  /-- So was what has been served. -/
  served_logged : ∀ p ∈ N.served, (p.1, p.2.1) ∈ N.loop.log
  /-- An answer that reached the loop is that of a completed exchange. -/
  answered : ∀ i x, .reply i (.ok x) ∈ N.seen → ∃ r, (i, r, x) ∈ N.served

theorem consistent_init : Consistent prog serve s d (init s d : Net σ Req Rep ε α κ δ) where
  replay := rfl
  legal := rfl
  once := List.nodup_nil
  sent_logged _ h := by cases h
  served_logged _ h := by cases h
  answered _ _ h := by cases h

theorem mem_of_lookup {β : Type} {l : List (Nat × β)} {i : Nat} {b : β}
    (h : l.lookup i = some b) : (i, b) ∈ l := by
  obtain ⟨l₁, l₂, rfl, -⟩ := List.lookup_eq_some_iff.mp h
  simp

/-- What `lookup` finds, `eraseP` takes out. -/
theorem lookup_split {β : Type} {l : List (Nat × β)} {i : Nat} {b : β}
    (h : l.lookup i = some b) :
    ∃ l₁ l₂, l = l₁ ++ (i, b) :: l₂ ∧ l.eraseP (·.1 == i) = l₁ ++ l₂ := by
  obtain ⟨l₁, l₂, rfl, hl₁⟩ := List.lookup_eq_some_iff.mp h
  refine ⟨l₁, l₂, rfl, ?_⟩
  have hnot : ∀ p ∈ l₁, ¬ (p.1 == i) = true := by
    intro p hp hpi
    exact absurd (hl₁ p hp) (by simp [beq_iff_eq.mp hpi])
  rw [List.eraseP_append_right _ hnot, List.eraseP_cons_of_pos (by simp)]

variable {prog serve s d}

/-- The tasks with an exchange, complete or on the way, have been started. -/
theorem Consistent.tag_lt (hprog : ∀ c, OneShot (prog c)) {N : Net σ Req Rep ε α κ δ}
    (h : Consistent prog serve s d N) {i : Nat} (hi : i ∈ N.order ++ N.sent.map Prod.fst) :
    i < N.loop.tasks.length := by
  have hlog : ∀ p ∈ N.loop.log, p.1 < N.loop.tasks.length := by
    rw [h.replay, (Loop.run_eq_spawnAll hprog s N.seen).2.2]
    exact Loop.log_tag_lt hprog s N.seen
  rcases List.mem_append.mp hi with hi | hi
  · obtain ⟨p, hp, rfl⟩ := List.mem_map.mp hi
    exact hlog _ (h.served_logged p hp)
  · obtain ⟨p, hp, rfl⟩ := List.mem_map.mp hi
    exact hlog p (h.sent_logged p hp)

theorem consistent_advance (hprog : ∀ c, OneShot (prog c)) {N : Net σ Req Rep ε α κ δ}
    (h : Consistent prog serve s d N) {e : Event κ (Except ε Rep)}
    (he : ∀ i x, e = .reply i (.ok x) → ∃ r, (i, r, x) ∈ N.served) :
    Consistent prog serve s d (advance prog N e) := by
  have hcalm : Loop.Calm N.loop := h.replay ▸ Loop.calm_run hprog s N.seen
  obtain ⟨new, hlog, hnew, hfresh⟩ := Loop.exec_log prog hcalm e
  have hsent : (advance prog N e).sent = N.sent ++ new := by
    simp only [advance, hlog, List.drop_left]
  constructor
  case replay =>
    simp only [advance]
    rw [Loop.run_concat, ← h.replay]
  case legal => exact h.legal
  case once =>
    -- the new request, if any, is that of a task that has no exchange yet
    have hnodup : (new.map Prod.fst).Nodup := by
      match new, hnew with
      | [], _ => simp
      | [p], _ => simp
    rw [hsent, List.map_append, ← List.append_assoc]
    refine List.nodup_append.mpr ⟨h.once, hnodup, fun i hi j hj hij => ?_⟩
    obtain ⟨p, hp, rfl⟩ := List.mem_map.mp hj
    have hlt := h.tag_lt hprog hi
    rw [hij, hfresh p hp] at hlt
    exact Nat.lt_irrefl _ hlt
  case sent_logged =>
    intro p hp
    rw [hsent, List.mem_append] at hp
    simp only [advance, hlog, List.mem_append]
    exact hp.imp_left (h.sent_logged p)
  case served_logged =>
    intro p hp
    simp only [advance, hlog, List.mem_append]
    exact Or.inl (h.served_logged p hp)
  case answered =>
    intro i x hx
    rcases List.mem_append.mp hx with hx | hx
    · exact h.answered i x hx
    · exact he i x (List.mem_singleton.mp hx).symm

theorem consistent_complete {N : Net σ Req Rep ε α κ δ} (h : Consistent prog serve s d N)
    {i : Nat} {r : Req} (hr : N.sent.lookup i = some r) :
    Consistent prog serve s d (complete serve N i r) := by
  obtain ⟨l₁, l₂, hsent, herase⟩ := lookup_split hr
  constructor
  case replay => exact h.replay
  case legal =>
    simp only [complete, List.map_append, List.map_cons, List.map_nil, serveAll_concat, h.legal]
  case once =>
    -- the exchange has moved from one list to the other
    refine (List.Perm.nodup_iff ?_).mp h.once
    simp only [order, complete]
    rw [herase, hsent]
    simp only [List.map_append, List.map_cons, List.map_nil, List.append_assoc,
      List.singleton_append]
    exact List.perm_middle.append_left _
  case sent_logged =>
    intro p hp
    refine h.sent_logged p (List.mem_of_mem_eraseP hp)
  case served_logged =>
    intro p hp
    rcases List.mem_append.mp hp with hp | hp
    · exact h.served_logged p hp
    · cases List.mem_singleton.mp hp
      exact h.sent_logged _ (mem_of_lookup hr)
  case answered =>
    intro j x hx
    obtain ⟨r', hr'⟩ := h.answered j x hx
    exact ⟨r', List.mem_append_left _ hr'⟩

theorem consistent_lose {N : Net σ Req Rep ε α κ δ} (h : Consistent prog serve s d N) (i : Nat) :
    Consistent prog serve s d (step prog serve N (.lose i : NetEvent κ ε)) where
  replay := h.replay
  legal := h.legal
  once := h.once.sublist ((List.eraseP_sublist.map Prod.fst).append_left _)
  sent_logged p hp := h.sent_logged p (List.mem_of_mem_eraseP hp)
  served_logged := h.served_logged
  answered := h.answered

/-- Every event keeps the invariant. -/
theorem consistent_step (hprog : ∀ c, OneShot (prog c)) {N : Net σ Req Rep ε α κ δ}
    (h : Consistent prog serve s d N) (e : NetEvent κ ε) :
    Consistent prog serve s d (step prog serve N e) := by
  cases e with
  | call c => exact consistent_advance hprog h fun i x hx => by cases hx
  | arrive i =>
    simp only [step]
    split
    · rename_i r hr
      exact consistent_complete h hr
    · exact h
  | lose i => exact consistent_lose h i
  | deliver i =>
    simp only [step]
    split
    · rename_i r x hx
      refine consistent_advance hprog h fun j y hy => ?_
      cases hy
      exact ⟨r, mem_of_lookup hx⟩
    · exact h
  | fail i f => exact consistent_advance hprog h fun i x hx => by cases hx

variable (serve s d) in
/-- **Client, server and network stay consistent**, whatever the network does. -/
theorem consistent_run (hprog : ∀ c, OneShot (prog c)) (evs : List (NetEvent κ ε)) :
    Consistent prog serve s d (run prog serve s d evs) := by
  induction evs using List.reverseRecOn with
  | nil => exact consistent_init prog serve s d
  | append_singleton evs e ih =>
    rw [run_concat]
    exact consistent_step hprog ih e

/-! ## 5. Linearizability -/

/-- The tasks of a run are those of its calls. -/
theorem tasks_length (hprog : ∀ c, OneShot (prog c)) (evs : List (NetEvent κ ε)) :
    (run prog serve s d evs).loop.tasks.length = (calls evs).length := by
  rw [(consistent_run serve s d hprog evs).replay, (Loop.run_eq_spawnAll hprog s _).2.2, calls_seen]

/-- A task has handed over the request it stopped at when it was started, and no other. -/
theorem requestsOf_run (hprog : ∀ c, OneShot (prog c)) {evs : List (NetEvent κ ε)} {i : Nat}
    {c : κ} (hc : (calls evs)[i]? = some c) :
    (run prog serve s d evs).loop.requestsOf i
      = ((prog c).advance (Loop.startState prog s (calls evs) i)).2.request.toList := by
  have hN := consistent_run serve s d hprog evs
  have hseen := calls_seen prog serve s d evs
  rw [hN.replay, Loop.requestsOf_run hprog s (hseen ▸ hc), hseen]

/-- The request of a completed exchange is the one its task stopped at. -/
theorem request_of_served (hprog : ∀ c, OneShot (prog c)) {evs : List (NetEvent κ ε)} {i : Nat}
    {c : κ} (hc : (calls evs)[i]? = some c) {r : Req} {x : Rep}
    (h : (i, r, x) ∈ (run prog serve s d evs).served) :
    ((prog c).advance (Loop.startState prog s (calls evs) i)).2.request = some r := by
  have hN := consistent_run serve s d hprog evs
  have hmem : r ∈ (run prog serve s d evs).loop.requestsOf i :=
    List.mem_map.mpr ⟨(i, r), List.mem_filter.mpr ⟨hN.served_logged _ h, by simp⟩, rfl⟩
  rw [requestsOf_run hprog hc] at hmem
  exact Option.mem_toList.mp hmem

/-- **Where a result comes from**: the task asked for nothing, or the server has completed its
exchange and the result is what the task makes of the answer, or the exchange failed. -/
theorem result_served (hprog : ∀ c, OneShot (prog c)) {evs : List (NetEvent κ ε)} {i : Nat}
    {c : κ} (hc : (calls evs)[i]? = some c) {a : α}
    (ha : (run prog serve s d evs).loop.result i = some a) :
    let ph := ((prog c).advance (Loop.startState prog s (calls evs) i)).2
    ph = .finished a ∨ ∃ r k, ph = .waiting r k ∧
      ((∃ x, (i, r, x) ∈ (run prog serve s d evs).served ∧ k (.ok x) = ret a) ∨
        ∃ f, .fail i f ∈ evs ∧ k (.error f) = ret a) := by
  have hN := consistent_run serve s d hprog evs
  have hseen := calls_seen prog serve s d evs
  rw [hN.replay] at ha
  have hresult := Loop.result_run hprog s (hseen ▸ hc) ha
  rw [hseen] at hresult
  rcases hresult with h | ⟨r, k, x, hph, hx, hk⟩
  · exact Or.inl h
  · refine Or.inr ⟨r, k, hph, ?_⟩
    cases x with
    | error f => exact Or.inr ⟨f, fail_of_seen prog serve s d hx, hk⟩
    | ok x =>
      obtain ⟨r', hserved⟩ := hN.answered i x hx
      have hreq := request_of_served hprog hc hserved
      rw [hph] at hreq
      cases hreq
      exact Or.inl ⟨x, hserved, hk⟩

/-- **Real time**: an exchange that is complete comes before those of the calls that start
later. -/
theorem precedes (hprog : ∀ c, OneShot (prog c)) {evs evs' : List (NetEvent κ ε)} {i j : Nat}
    (hi : i ∈ (run prog serve s d evs).order) (hj : (calls evs).length ≤ j)
    (hj' : j ∈ (run prog serve s d (evs ++ evs')).order) :
    Precedes (run prog serve s d (evs ++ evs')).order i j := by
  obtain ⟨later, hlater⟩ := served_prefix prog serve s d evs evs'
  have horder : (run prog serve s d (evs ++ evs')).order
      = (run prog serve s d evs).order ++ later.map Prod.fst := by
    rw [order, ← hlater, List.map_append]
    rfl
  rw [horder] at hj' ⊢
  have hnot : j ∉ (run prog serve s d evs).order := by
    intro hmem
    have hlt := (consistent_run serve s d hprog evs).tag_lt hprog
      (List.mem_append_left _ hmem)
    rw [tasks_length hprog] at hlt
    omega
  exact (List.singleton_sublist.mpr hi).append
    (List.singleton_sublist.mpr ((List.mem_append.mp hj').resolve_left hnot))

/-- **Reads do not depend on the schedule**: where no request that was served changes the server,
each was answered as if it had been the only one. -/
theorem Consistent.answer_readOnly {N : Net σ Req Rep ε α κ δ} (h : Consistent prog serve s d N)
    (hread : ReadOnly serve d (N.served.map fun p => p.2.1)) {i : Nat} {r : Req} {x : Rep}
    (hmem : (i, r, x) ∈ N.served) : x = (serve d r).2 := by
  have hlegal := h.legal
  rw [serveAll_readOnly hread, Prod.mk.injEq, List.map_map] at hlegal
  exact (List.map_inj_left.mp hlegal.2 _ hmem).symm

/-! ## 6. Blocking runs -/

variable (serve) in
/-- Run to the end on a server that is a local object. -/
def direct : Coro σ Req (Except ε Rep) α → σ → δ → σ × δ × α
  | .ret a, s, d => (s, d, a)
  | .update f k, s, d => direct (k s) (f s) d
  | .await r k, s, d => direct (k (.ok (serve d r).2)) s (serve d r).1

variable (prog serve) in
/-- Such runs, one after the other. -/
def directAll : σ → δ → List κ → σ × δ × List α
  | s, d, [] => (s, d, [])
  | s, d, c :: cs =>
    let (s', d', a) := direct serve (prog c) s d
    let (s'', d'', as) := directAll s' d' cs
    (s'', d'', a :: as)

variable (serve) in
/-- A local run advances, has the request it stops at served, and goes on. -/
theorem direct_eq_advance (p : Coro σ Req (Except ε Rep) α) (s : σ) (d : δ) :
    direct serve p s d = match p.advance s with
      | (s', .waiting r k) => direct serve (k (.ok (serve d r).2)) s' (serve d r).1
      | (s', .finished a) => (s', d, a) := by
  induction p generalizing s with
  | ret a => rfl
  | update f k ih => exact ih s (f s)
  | await r k _ => rfl

/-- The events of calls on a network that loses nothing, each awaited before the next. -/
def blocking : Nat → List κ → List (NetEvent κ ε)
  | _, [] => []
  | i, c :: cs => .call c :: .arrive i :: .deliver i :: blocking (i + 1) cs

/-- Nothing is under way, and no exchange is that of a task to come. -/
def Quiet (N : Net σ Req Rep ε α κ δ) : Prop :=
  N.sent = [] ∧ ∀ p ∈ N.served, p.1 < N.loop.tasks.length

theorem Quiet.lookup {N : Net σ Req Rep ε α κ δ} (hN : Quiet N) :
    N.served.lookup N.loop.tasks.length = none := by
  refine List.lookup_eq_none_iff.mpr fun p hp => ?_
  have hlt := hN.2 p hp
  exact bne_iff_ne.mpr (Nat.ne_of_gt hlt)

variable (serve) in
/-- One call on a quiet network is a local run. -/
theorem quiet_call (hprog : ∀ c, OneShot (prog c)) {N : Net σ Req Rep ε α κ δ} (hN : Quiet N)
    (c : κ) :
    let i := N.loop.tasks.length
    let M := [NetEvent.call c, .arrive i, .deliver i].foldl (step prog serve) N
    let r := direct serve (prog c) N.loop.shared N.server
    Quiet M ∧ M.loop.shared = r.1 ∧ M.server = r.2.1 ∧
      M.loop.tasks = N.loop.tasks ++ [.finished r.2.2] := by
  have hdirect := direct_eq_advance serve (prog c) N.loop.shared N.server
  have hlook := hN.lookup
  obtain ⟨hsent, htags⟩ := hN
  cases hadv : (prog c).advance N.loop.shared with
  | mk s' ph =>
    cases ph with
    | finished a =>
      -- there is no request, and the other two events are void
      rw [hadv] at hdirect
      have hcall : step prog serve N (.call c)
          = { N with
              loop := ⟨s', N.loop.log, N.loop.tasks ++ [.finished a]⟩
              seen := N.seen ++ [.call c] } := by
        simp [step, advance, Loop.exec, hadv, Loop.entry, Phase.request]
      simp only [List.foldl_cons, List.foldl_nil, hcall, hdirect]
      simp only [step, hsent, List.lookup_nil, hlook]
      refine ⟨⟨rfl, fun p hp => ?_⟩, trivial, trivial, trivial⟩
      rw [List.length_append]
      exact Nat.lt_add_right _ (htags p hp)
    | waiting r k =>
      obtain ⟨a, ha⟩ := hprog c N.loop.shared r k (by rw [hadv]) (.ok (serve N.server r).2)
      rw [hadv] at hdirect
      simp only [ha, direct] at hdirect
      have hcall : step prog serve N (.call c)
          = { N with
              loop := ⟨s', N.loop.log ++ [(N.loop.tasks.length, r)],
                N.loop.tasks ++ [.waiting r k]⟩
              seen := N.seen ++ [.call c]
              sent := [(N.loop.tasks.length, r)] } := by
        simp [step, advance, Loop.exec, hadv, Loop.entry, Phase.request, hsent]
      simp only [List.foldl_cons, List.foldl_nil, hcall, hdirect]
      simp [step, complete, List.lookup_append, hlook, advance, Loop.exec, ha, Loop.entry,
        Phase.request, Quiet]
      intro i r' x hmem
      rcases hmem with hmem | ⟨rfl, -⟩
      · have hlt : i < N.loop.tasks.length := htags _ hmem
        omega
      · omega

variable (serve) in
theorem quiet_calls (hprog : ∀ c, OneShot (prog c)) (cs : List κ) {N : Net σ Req Rep ε α κ δ}
    (hN : Quiet N) :
    let M := (blocking N.loop.tasks.length cs).foldl (step prog serve) N
    let r := directAll prog serve N.loop.shared N.server cs
    M.loop.shared = r.1 ∧ M.server = r.2.1 ∧
      M.loop.tasks = N.loop.tasks ++ r.2.2.map .finished := by
  induction cs generalizing N with
  | nil => simp [blocking, directAll]
  | cons c cs ih =>
    obtain ⟨hM, hshared, hserver, htasks⟩ := quiet_call serve hprog hN c
    have hlen := congrArg List.length htasks
    rw [List.length_append, List.length_singleton] at hlen
    have hrest := ih hM
    rw [hlen, hshared, hserver, htasks] at hrest
    obtain ⟨h₁, h₂, h₃⟩ := hrest
    simp only [directAll]
    refine ⟨h₁, h₂, h₃.trans ?_⟩
    simp

variable (serve s d) in
/-- **A server that is awaited is a local object**: on a network that loses nothing, calls that
are awaited one after the other return what they would return on the server itself, and leave it
where they would. -/
theorem run_blocking (hprog : ∀ c, OneShot (prog c)) (cs : List κ) :
    let N := run prog serve s d (blocking 0 cs)
    let r := directAll prog serve s d cs
    N.loop.shared = r.1 ∧ N.server = r.2.1 ∧ N.loop.tasks = r.2.2.map .finished := by
  have hquiet : Quiet (init s d : Net σ Req Rep ε α κ δ) := ⟨rfl, fun p hp => by cases hp⟩
  have h := quiet_calls serve hprog cs hquiet
  simpa [run, init, Loop.init] using h

/-! ## 7. Exchanges that are given up -/

/-- The events of calls made one after the other, each of which gives its exchange up with `f`.
The flag says whether the request arrived all the same. -/
def retries (f : ε) : Nat → List (κ × Bool) → List (NetEvent κ ε)
  | _, [] => []
  | i, (c, arrives) :: steps =>
    .call c :: (if arrives then .arrive i else .lose i) :: .fail i f :: retries f (i + 1) steps

variable (prog serve) in
/-- Where the requests that arrived lead the server. -/
def led : σ → δ → List (κ × Bool) → δ
  | _, d, [] => d
  | s, d, (c, arrives) :: steps =>
    let (s', ph) := (prog c).advance s
    led s' (if arrives then (serveAll serve d ph.request.toList).1 else d) steps

/-- The request of a task that has just been started is the one under way under its number. -/
theorem lookup_sent_call (hprog : ∀ c, OneShot (prog c)) {N : Net σ Req Rep ε α κ δ}
    (hN : Consistent prog serve s d N) (c : κ) :
    (advance prog N (.call c)).sent.lookup N.loop.tasks.length
      = ((prog c).advance N.loop.shared).2.request := by
  have hnone : N.sent.lookup N.loop.tasks.length = none := by
    refine List.lookup_eq_none_iff.mpr fun p hp => ?_
    have hlt := hN.tag_lt hprog (List.mem_append_right _ (List.mem_map_of_mem (f := Prod.fst) hp))
    exact bne_iff_ne.mpr (Nat.ne_of_gt hlt)
  simp only [advance, Loop.exec, List.drop_left, List.lookup_append, hnone, Loop.entry]
  cases ((prog c).advance N.loop.shared).2.request <;> simp

/-- **One exchange that is given up.**  The loop does not see whether the request arrived. -/
theorem giveUp (hprog : ∀ c, OneShot (prog c)) {N : Net σ Req Rep ε α κ δ}
    (hN : Consistent prog serve s d N) (c : κ) (arrives : Bool) (f : ε) :
    let i := N.loop.tasks.length
    let M := [NetEvent.call c, if arrives then .arrive i else .lose i, .fail i f].foldl
      (step prog serve) N
    M.loop = Loop.exec prog (Loop.exec prog N.loop (.call c)) (.reply i (.error f)) ∧
      M.server = if arrives then
        (serveAll serve N.server ((prog c).advance N.loop.shared).2.request.toList).1
        else N.server := by
  have hlookup := lookup_sent_call hprog hN c
  cases arrives with
  | false => exact ⟨rfl, rfl⟩
  | true =>
    simp only [if_true, List.foldl_cons, List.foldl_nil, step, hlookup]
    cases ((prog c).advance N.loop.shared).2.request with
    | none => exact ⟨rfl, rfl⟩
    | some r => exact ⟨rfl, rfl⟩

/-- **Exchanges that are given up leave the server anywhere.**  The loop goes on as if each had
failed before anything arrived, and the server has served what arrived. -/
theorem foldl_retries (hprog : ∀ c, OneShot (prog c)) (f : ε) (steps : List (κ × Bool))
    {N : Net σ Req Rep ε α κ δ} (hN : Consistent prog serve s d N) :
    let M := (retries f N.loop.tasks.length steps).foldl (step prog serve) N
    M.loop = (Loop.blocking N.loop.tasks.length (steps.map fun step => (step.1, .error f))).foldl
        (Loop.exec prog) N.loop ∧
      M.server = led prog serve N.loop.shared N.server steps := by
  induction steps generalizing N with
  | nil => exact ⟨rfl, rfl⟩
  | cons step steps ih =>
    obtain ⟨c, arrives⟩ := step
    have hcall := consistent_step hprog hN (.call c)
    have hM := consistent_step hprog (consistent_step hprog hcall
      (if arrives then .arrive N.loop.tasks.length else .lose N.loop.tasks.length))
      (.fail N.loop.tasks.length f)
    obtain ⟨hloop, hserver⟩ := giveUp hprog hN c arrives f
    simp only [List.foldl_cons, List.foldl_nil] at hloop hserver
    -- the failure starts no task and does not touch the shared state
    have hcalm : Loop.Calm (Loop.exec prog N.loop (.call c)) := by
      have hrun := Loop.calm_run hprog s (step prog serve N (.call c)).seen
      rw [← hcall.replay] at hrun
      exact hrun
    obtain ⟨hshared, -, hlen⟩ :=
      Loop.exec_reply prog hcalm N.loop.tasks.length (.error f : Except ε Rep)
    have hlen' : (Loop.exec prog N.loop (.call c)).tasks.length = N.loop.tasks.length + 1 := by
      simp [Loop.exec]
    have hrest := ih hM
    rw [hloop, hserver, hlen, hlen', hshared] at hrest
    exact hrest

variable (serve s d) in
/-- The same after any run. -/
theorem run_retries (hprog : ∀ c, OneShot (prog c)) (f : ε) (evs : List (NetEvent κ ε))
    (steps : List (κ × Bool)) :
    let N := run prog serve s d evs
    let M := run prog serve s d (evs ++ retries f (calls evs).length steps)
    M.loop = (Loop.blocking N.loop.tasks.length (steps.map fun step => (step.1, .error f))).foldl
        (Loop.exec prog) N.loop ∧
      M.server = led prog serve N.loop.shared N.server steps := by
  have happend : run prog serve s d (evs ++ retries f (calls evs).length steps)
      = (retries f (run prog serve s d evs).loop.tasks.length steps).foldl (step prog serve)
        (run prog serve s d evs) := by
    rw [tasks_length hprog, run, List.foldl_append, ← run]
  rw [happend]
  exact foldl_retries hprog f steps (consistent_run serve s d hprog evs)

end

end Net
