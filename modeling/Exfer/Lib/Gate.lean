/-
# Closing the way out

A coroutine hands its requests over through a gate.  While the gate is open nothing changes.  Once
it is shut, a request is refused where it is made: the coroutine goes on with the refusal as its
answer, and does not suspend.

* `guard` is the coroutine behind the gate, and `advance_guard_open` and `advance_guard_shut` say
  what it does up to its next suspension.
* `GateEvent` adds one event to those of a loop: the gate is shut.  No event opens it again.  What
  shutting it does to the requests under way is part of the event: it may answer any of them.
* `behind_run` is the whole run, for one-shot tasks.  Nothing is handed over behind a shut gate.
  A task that was started before stands where its answers have left it, those of the shutting
  among them, and one that is started later ends at once.
-/
import Exfer.Lib.Coro

/-- A shared state behind a gate. -/
structure Gated (σ : Type) where
  inner : σ
  shut : Bool

/-- What happens on a loop behind a gate.  Shutting it answers the tasks in `ended`. -/
inductive GateEvent (κ Ans : Type) where
  | event (e : Event κ Ans)
  | close (ended : List (Nat × Ans))

variable {σ Req Ans α β κ : Type}

namespace Gate

open Coro

/-! ## 1. Coroutines behind the gate -/

/-- The coroutine behind the gate. -/
def guard (refusal : Ans) : Coro σ Req Ans α → Coro (Gated σ) Req Ans α
  | ret a => ret a
  | update f k => update (fun s => ⟨f s.inner, s.shut⟩) fun s => guard refusal (k s.inner)
  | await r k => update id fun s =>
      if s.shut then guard refusal (k refusal) else await r fun x => guard refusal (k x)

/-- The coroutine past the gate: on the state behind it, and never refused. -/
def embed : Coro σ Req Ans α → Coro (Gated σ) Req Ans α
  | ret a => ret a
  | update f k => update (fun s => ⟨f s.inner, s.shut⟩) fun s => embed (k s.inner)
  | await r k => await r fun x => embed (k x)

/-- **The gate respects sequencing.** -/
theorem guard_bind (refusal : Ans) (p : Coro σ Req Ans α) {g : α → Coro σ Req Ans β}
    {g' : α → Coro (Gated σ) Req Ans β} (hg : ∀ a, guard refusal (g a) = g' a) :
    guard refusal (p.bind g) = (guard refusal p).bind g' := by
  induction p with
  | ret a => exact hg a
  | update f k ih => exact update_congr fun s => ih s.inner
  | await r k ih =>
    refine update_congr fun s => ?_
    obtain ⟨s, shut⟩ := s
    cases shut with
    | true =>
      simp only [if_true]
      exact ih refusal
    | false =>
      simp only [Bool.false_eq_true, if_false]
      exact await_congr ih

/-- Where a coroutine stands behind the gate. -/
def phase (refusal : Ans) : Phase σ Req Ans α → Phase (Gated σ) Req Ans α
  | .waiting r k => .waiting r fun x => guard refusal (k x)
  | .finished a => .finished a

@[simp] theorem phase_request (refusal : Ans) (ph : Phase σ Req Ans α) :
    (phase refusal ph).request = ph.request := by
  cases ph <;> rfl

/-- **Behind an open gate** a coroutine does what it does without one. -/
theorem advance_guard_open (refusal : Ans) (p : Coro σ Req Ans α) (s : σ) :
    (guard refusal p).advance ⟨s, false⟩
      = (⟨(p.advance s).1, false⟩, phase refusal (p.advance s).2) := by
  induction p generalizing s with
  | ret a => rfl
  | update f k ih => exact ih s (f s)
  | await r k _ => rfl

/-- Where a coroutine ends that is refused everything. -/
def refused (refusal : Ans) : Coro σ Req Ans α → σ → σ × α
  | ret a, s => (s, a)
  | update f k, s => refused refusal (k s) (f s)
  | await _ k, s => refused refusal (k refusal) s

/-- **Behind a shut gate** it runs to its end. -/
theorem advance_guard_shut (refusal : Ans) (p : Coro σ Req Ans α) (s : σ) :
    (guard refusal p).advance ⟨s, true⟩
      = (⟨(refused refusal p s).1, true⟩, .finished (refused refusal p s).2) := by
  induction p generalizing s with
  | ret a => rfl
  | update f k ih => exact ih s (f s)
  | await r k ih => exact ih refusal s

/-- Blocking code behind an open gate runs as it does without one. -/
theorem drive_guard_open (refusal : Ans) (answer : List Req → Req → Ans) (p : Coro σ Req Ans α)
    (s : σ) (hist : List Req) :
    (guard refusal p).drive answer ⟨s, false⟩ hist
      = (⟨(p.drive answer s hist).1, false⟩, (p.drive answer s hist).2) := by
  induction p generalizing s hist with
  | ret a => rfl
  | update f k ih => exact ih s (f s) hist
  | await r k ih => exact ih (answer hist r) s (hist ++ [r])

/-- Behind a shut gate it hands nothing over. -/
theorem drive_guard_shut (refusal : Ans) (answer : List Req → Req → Ans) (p : Coro σ Req Ans α)
    (s : σ) (hist : List Req) :
    (guard refusal p).drive answer ⟨s, true⟩ hist
      = (⟨(refused refusal p s).1, true⟩, hist, (refused refusal p s).2) := by
  induction p generalizing s with
  | ret a => rfl
  | update f k ih => exact ih s (f s)
  | await r k ih => exact ih refusal s

/-- Being refused is to advance, and to be refused there. -/
theorem refused_eq_advance (refusal : Ans) (p : Coro σ Req Ans α) (s : σ) :
    (∀ r k, (p.advance s).2 = .waiting r k →
      refused refusal p s = refused refusal (k refusal) (p.advance s).1) ∧
    ∀ a, (p.advance s).2 = .finished a → refused refusal p s = ((p.advance s).1, a) := by
  induction p generalizing s with
  | ret a =>
    refine ⟨(fun r k hk => nomatch hk), ?_⟩
    rintro b ⟨rfl⟩
    rfl
  | update f k ih => exact ih s (f s)
  | await r k _ =>
    refine ⟨?_, (fun a ha => nomatch ha)⟩
    rintro r' k' ⟨rfl, rfl⟩
    rfl

/-- A one-shot coroutine that is refused its request does to the state what its start does. -/
theorem refused_eq {p : Coro σ Req Ans α} (hp : p.OneShot) (refusal : Ans) (s : σ) :
    (refused refusal p s).1 = (p.advance s).1 := by
  obtain ⟨hwaiting, hfinished⟩ := refused_eq_advance refusal p s
  cases hph : (p.advance s).2 with
  | finished a => rw [hfinished a hph]
  | waiting r k =>
    obtain ⟨a, ha⟩ := hp s r k hph refusal
    rw [hwaiting r k hph, ha]
    rfl

/-- Behind the gate a one-shot coroutine is one-shot. -/
theorem guard_oneShot {p : Coro σ Req Ans α} (hp : p.OneShot) (refusal : Ans) :
    (guard refusal p).OneShot := by
  rintro ⟨s, shut⟩ r k hk x
  cases shut with
  | true =>
    rw [advance_guard_shut] at hk
    cases hk
  | false =>
    rw [advance_guard_open] at hk
    cases hph : (p.advance s).2 with
    | finished a => simp [hph, phase] at hk
    | waiting r' k' =>
      obtain ⟨a, ha⟩ := hp s r' k' hph x
      simp only [hph, phase, Phase.waiting.injEq] at hk
      rw [← hk.2]
      exact ⟨a, congrArg (guard refusal) ha⟩

/-- An answer takes a one-shot task to the same end on both sides of the gate. -/
theorem settled_phase {ph : Phase σ Req Ans α} (s : σ) (t : Gated σ) (refusal x : Ans)
    (hph : ∀ r k, ph = .waiting r k → ∃ a, k x = ret a) :
    Loop.settled t (phase refusal ph) (some x) = phase refusal (Loop.settled s ph (some x)) := by
  cases ph with
  | finished a => rfl
  | waiting r k =>
    obtain ⟨a, ha⟩ := hph r k rfl
    simp only [phase, Loop.settled, ha, guard, advance_ret]

/-! ## 2. Loops behind the gate -/

/-- The answers that shutting the gate gives. -/
def endings (ended : List (Nat × Ans)) : List (Event κ Ans) :=
  ended.map fun p => .reply p.1 p.2

/-- One event behind the gate.  It is shut before anything is answered. -/
def exec (refusal : Ans) (prog : κ → Coro σ Req Ans α) (L : Loop (Gated σ) Req Ans α) :
    GateEvent κ Ans → Loop (Gated σ) Req Ans α
  | .event e => Loop.exec (fun c => guard refusal (prog c)) L e
  | .close ended => (endings ended).foldl (Loop.exec fun c => guard refusal (prog c))
      { L with shared := ⟨L.shared.inner, true⟩ }

/-- A run from the shared state `s`, with the gate open. -/
def run (refusal : Ans) (prog : κ → Coro σ Req Ans α) (s : σ) (evs : List (GateEvent κ Ans)) :
    Loop (Gated σ) Req Ans α :=
  evs.foldl (exec refusal prog) (Loop.init ⟨s, false⟩)

/-- The events before the gate is shut. -/
def before : List (GateEvent κ Ans) → List (Event κ Ans)
  | [] => []
  | .event e :: evs => e :: before evs
  | .close _ :: _ => []

/-- The events of the loop, wherever the gate is shut, and the answers that that gives. -/
def events : List (GateEvent κ Ans) → List (Event κ Ans)
  | [] => []
  | .event e :: evs => e :: events evs
  | .close ended :: evs => endings ended ++ events evs

/-- Has the gate been shut? -/
def closes : List (GateEvent κ Ans) → Bool
  | [] => false
  | .event _ :: evs => closes evs
  | .close _ :: _ => true

theorem run_concat (refusal : Ans) (prog : κ → Coro σ Req Ans α) (s : σ)
    (evs : List (GateEvent κ Ans)) (e : GateEvent κ Ans) :
    run refusal prog s (evs ++ [e]) = exec refusal prog (run refusal prog s evs) e := by
  simp [run]

theorem before_concat (evs : List (GateEvent κ Ans)) (e : GateEvent κ Ans) :
    before (evs ++ [e]) = before evs ++ if closes evs then [] else before [e] := by
  induction evs with
  | nil => rfl
  | cons e' evs ih =>
    cases e' with
    | close _ => rfl
    | event e' => exact congrArg (e' :: ·) ih

theorem events_concat (evs : List (GateEvent κ Ans)) (e : GateEvent κ Ans) :
    events (evs ++ [e]) = events evs ++ events [e] := by
  induction evs with
  | nil => rfl
  | cons e' evs ih =>
    cases e' with
    | close ended => exact (congrArg (endings ended ++ ·) ih).trans (List.append_assoc ..).symm
    | event e' => exact congrArg (e' :: ·) ih

theorem closes_concat (evs : List (GateEvent κ Ans)) (e : GateEvent κ Ans) :
    closes (evs ++ [e]) = (closes evs || closes [e]) := by
  induction evs with
  | nil => rfl
  | cons e' evs ih =>
    cases e' with
    | close _ => rfl
    | event e' => exact ih

theorem calls_concat_call (es : List (Event κ Ans)) (c : κ) :
    Loop.calls (es ++ [.call c]) = Loop.calls es ++ [c] :=
  Loop.calls_append es _

theorem calls_concat_reply (es : List (Event κ Ans)) (i : Nat) (x : Ans) :
    Loop.calls (es ++ [.reply i x]) = Loop.calls es :=
  (Loop.calls_append es _).trans (List.append_nil _)

/-! ## 3. Blocking code -/

/-- Blocking calls behind an open gate. -/
theorem session_open (refusal : Ans) (prog : κ → Coro σ Req Ans α) (s : σ)
    (steps : List (κ × Ans)) :
    Loop.session (fun c => guard refusal (prog c)) ⟨s, false⟩ steps
      = (⟨(Loop.session prog s steps).1, false⟩, (Loop.session prog s steps).2) := by
  induction steps generalizing s with
  | nil => rfl
  | cons step steps ih =>
    obtain ⟨c, x⟩ := step
    simp only [Loop.session, drive_guard_open, ih]

/-- Blocking calls behind a shut one: nothing is handed over, and every call is refused. -/
theorem session_shut {refusal : Ans} {prog : κ → Coro σ Req Ans α} {outcome : κ → α}
    (houtcome : ∀ c s, (refused refusal (prog c) s).2 = outcome c) (s : σ)
    (steps : List (κ × Ans)) :
    (Loop.session (fun c => guard refusal (prog c)) ⟨s, true⟩ steps).1.shut = true ∧
      (Loop.session (fun c => guard refusal (prog c)) ⟨s, true⟩ steps).2
        = ([], steps.map fun step => outcome step.1) := by
  induction steps generalizing s with
  | nil => exact ⟨rfl, rfl⟩
  | cons step steps ih =>
    obtain ⟨c, x⟩ := step
    obtain ⟨hshut, hrest⟩ := ih (refused refusal (prog c) s).1
    simp only [Loop.session, drive_guard_shut, hshut, hrest, houtcome, List.nil_append,
      List.map_cons, and_self]

/-! ## 4. Runs -/

section Runs

variable {refusal : Ans} {prog : κ → Coro σ Req Ans α} {s : σ} {old : List κ}
  {evs : List (Event κ Ans)} {shut : Bool} {G : Loop (Gated σ) Req Ans α}

/-- How the loop behind the gate stands to a loop without one on which `evs` has happened.  The
tasks `old` were started before the gate was shut. -/
structure Behind (refusal : Ans) (prog : κ → Coro σ Req Ans α) (s : σ) (old : List κ)
    (evs : List (Event κ Ans)) (shut : Bool) (G : Loop (Gated σ) Req Ans α) : Prop where
  shared : G.shared = ⟨(Loop.run prog s evs).shared, shut⟩
  /-- What has been handed over was handed over before the gate was shut. -/
  log : G.log = (Loop.spawnAll prog s 0 old).2
  length : G.tasks.length = (Loop.calls evs).length
  initial : old <+: Loop.calls evs
  all : shut = false → old = Loop.calls evs
  /-- The tasks that were started before stand where they would stand. -/
  before : ∀ i < old.length,
    G.tasks[i]? = ((Loop.run prog s evs).tasks[i]?).map (phase refusal)
  /-- The others were refused. -/
  after : ∀ i c, old.length ≤ i → (Loop.calls evs)[i]? = some c →
    ∃ t, G.tasks[i]? = some (.finished (refused refusal (prog c) t).2)

/-- Shutting the gate moves nothing. -/
theorem Behind.shutting (h : Behind refusal prog s old evs shut G) :
    Behind refusal prog s old evs true { G with shared := ⟨G.shared.inner, true⟩ } where
  shared := by rw [h.shared]
  log := h.log
  length := h.length
  initial := h.initial
  all := fun hopen => absurd hopen (by decide)
  before := h.before
  after := h.after

/-- An answer reaches the tasks that were started before, and no other. -/
theorem Behind.reply (h : Behind refusal prog s old evs shut G)
    (hprog : ∀ c, OneShot (prog c)) (hG : Loop.Calm G) (i : Nat) (x : Ans) :
    Behind refusal prog s old (evs ++ [.reply i x]) shut
      (Loop.exec (fun c => guard refusal (prog c)) G (.reply i x)) := by
  have hL := Loop.calm_run hprog s evs
  have hcalls := calls_concat_reply evs i x
  obtain ⟨hshared, -, -⟩ := Loop.exec_reply prog hL i x
  obtain ⟨hshared', hlog', hlength'⟩ :=
    Loop.exec_reply (fun c => guard refusal (prog c)) hG i x
  constructor
  case shared => rw [Loop.run_concat, hshared, hshared', h.shared]
  case log => rw [hlog', h.log]
  case length => rw [hcalls, hlength', h.length]
  case initial => rw [hcalls]; exact h.initial
  case all => rw [hcalls]; exact h.all
  case before =>
    rw [Loop.run_concat]
    intro j hj
    have hold := h.before j hj
    by_cases hij : i = j
    · subst hij
      rw [Loop.exec_reply_self hG ⟨s, false⟩, Loop.exec_reply_self hL s, hold, Option.map_map,
        Option.map_map]
      cases hph : (Loop.run prog s evs).tasks[i]? with
      | none => rfl
      | some ph =>
        refine congrArg some (settled_phase s ⟨s, false⟩ refusal x ?_)
        rintro r k rfl
        exact hL i r k hph x
    · rw [Loop.exec_reply_ne _ hij, Loop.exec_reply_ne _ hij, hold]
  case after =>
    rw [hcalls]
    intro j c hj hc
    obtain ⟨t, ht⟩ := h.after j c hj hc
    refine ⟨t, ?_⟩
    by_cases hij : i = j
    · subst hij
      rw [Loop.exec_reply_self hG ⟨s, false⟩, ht]
      rfl
    · rw [Loop.exec_reply_ne _ hij, ht]

/-- So do the answers that shutting the gate gives. -/
theorem Behind.endings (h : Behind refusal prog s old evs shut G)
    (hprog : ∀ c, OneShot (prog c)) (hG : Loop.Calm G) (ended : List (Nat × Ans)) :
    let H := (Gate.endings ended).foldl (Loop.exec fun c => guard refusal (prog c)) G
    Behind refusal prog s old (evs ++ Gate.endings ended) shut H ∧ Loop.Calm H := by
  induction ended generalizing evs G with
  | nil =>
    refine ⟨?_, hG⟩
    rw [Gate.endings, List.map_nil, List.append_nil]
    exact h
  | cons p ended ih =>
    have hcalm := Loop.calm_exec (fun c => guard_oneShot (hprog c) refusal) hG (.reply p.1 p.2)
    have hrest := ih (h.reply hprog hG p.1 p.2) hcalm
    rwa [List.append_assoc] at hrest

/-- A task that is started behind an open gate is one of the old ones. -/
theorem Behind.call_open (h : Behind refusal prog s old evs false G)
    (hprog : ∀ c, OneShot (prog c)) (c : κ) :
    Behind refusal prog s (old ++ [c]) (evs ++ [.call c]) false
      (Loop.exec (fun c => guard refusal (prog c)) G (.call c)) := by
  obtain rfl := h.all rfl
  obtain ⟨-, hlog, hlen⟩ := Loop.run_eq_spawnAll hprog s evs
  have hcalls := calls_concat_call evs c
  have hlog' := (Loop.run_eq_spawnAll hprog s (evs ++ [.call c])).2.1
  rw [hcalls, Loop.run_concat] at hlog'
  constructor
  case shared =>
    rw [Loop.run_concat]
    simp only [Loop.exec, h.shared, advance_guard_open]
  case log =>
    rw [← hlog']
    simp only [Loop.exec, h.shared, advance_guard_open, h.log, h.length, hlog, hlen, Loop.entry,
      phase_request]
  case length =>
    rw [hcalls]
    simp only [Loop.exec, List.length_append, h.length, List.length_singleton]
  case initial => exact hcalls ▸ List.prefix_refl _
  case all => exact fun _ => hcalls.symm
  case before =>
    rw [Loop.run_concat]
    intro j hj
    simp only [Loop.exec, h.shared, advance_guard_open]
    rcases Nat.lt_or_ge j (Loop.calls evs).length with hlt | hge
    · rw [List.getElem?_append_left (h.length ▸ hlt), List.getElem?_append_left (hlen ▸ hlt)]
      exact h.before j hlt
    · rw [List.getElem?_append_right (h.length ▸ hge), List.getElem?_append_right (hlen ▸ hge),
        h.length, hlen, ← List.getElem?_map]
      rfl
  case after =>
    rw [hcalls]
    intro j d hj hd
    rw [List.getElem?_eq_none hj] at hd
    cases hd

/-- And behind a shut gate it is refused. -/
theorem Behind.call_shut (h : Behind refusal prog s old evs true G)
    (hprog : ∀ c, OneShot (prog c)) (c : κ) :
    Behind refusal prog s old (evs ++ [.call c]) true
      (Loop.exec (fun c => guard refusal (prog c)) G (.call c)) := by
  have hlen := (Loop.run_eq_spawnAll hprog s evs).2.2
  have hcalls := calls_concat_call evs c
  constructor
  case shared =>
    rw [Loop.run_concat]
    simp only [Loop.exec, h.shared, advance_guard_shut]
    rw [refused_eq (hprog c) refusal]
  case log =>
    simp only [Loop.exec, h.shared, advance_guard_shut, h.log]
    exact List.append_nil _
  case length =>
    rw [hcalls]
    simp only [Loop.exec, List.length_append, h.length, List.length_singleton]
  case initial => rw [hcalls]; exact h.initial.trans (List.prefix_append _ _)
  case all => exact fun hopen => absurd hopen (by decide)
  case before =>
    rw [Loop.run_concat]
    intro j hj
    have hlt : j < (Loop.calls evs).length := Nat.lt_of_lt_of_le hj h.initial.length_le
    simp only [Loop.exec]
    rw [List.getElem?_append_left (h.length ▸ hlt), List.getElem?_append_left (hlen ▸ hlt)]
    exact h.before j hj
  case after =>
    rw [hcalls]
    intro j d hj hd
    simp only [Loop.exec, h.shared, advance_guard_shut]
    rcases Nat.lt_or_ge j (Loop.calls evs).length with hlt | hge
    · rw [List.getElem?_append_left hlt] at hd
      rw [List.getElem?_append_left (h.length ▸ hlt)]
      exact h.after j d hj hd
    · rw [List.getElem?_append_right hge, List.getElem?_singleton] at hd
      rw [List.getElem?_append_right (h.length ▸ hge), h.length, List.getElem?_singleton]
      split at hd
      · rename_i hj0
        cases hd
        exact ⟨_, if_pos hj0⟩
      · cases hd

/-- **A run behind the gate.** -/
theorem behind_run (refusal : Ans) (hprog : ∀ c, OneShot (prog c)) (s : σ)
    (evs : List (GateEvent κ Ans)) :
    Behind refusal prog s (Loop.calls (before evs)) (events evs) (closes evs)
      (run refusal prog s evs) ∧ Loop.Calm (run refusal prog s evs) := by
  induction evs using List.reverseRecOn with
  | nil =>
    refine ⟨?_, Loop.calm_init _⟩
    constructor
    case shared => rfl
    case log => rfl
    case length => rfl
    case initial => exact List.prefix_refl _
    case all => exact fun _ => rfl
    case before => exact fun i hi => absurd hi (Nat.not_lt_zero i)
    case after => exact fun i c _ hc => nomatch hc
  | append_singleton evs e ih =>
    obtain ⟨h, hcalm⟩ := ih
    rw [run_concat, before_concat, events_concat, closes_concat]
    cases e with
    | close ended =>
      have hbefore : (before evs ++ if closes evs then [] else before [GateEvent.close ended])
          = before evs := by
        cases closes evs <;> exact List.append_nil _
      have hevents : events [GateEvent.close ended] = (endings ended : List (Event κ Ans)) :=
        List.append_nil _
      rw [hbefore, hevents, closes, Bool.or_true]
      exact h.shutting.endings hprog hcalm ended
    | event e =>
      refine ⟨?_, Loop.calm_exec (fun c => guard_oneShot (hprog c) refusal) hcalm e⟩
      have hcloses : closes [GateEvent.event e] = false := rfl
      have hevents : events [GateEvent.event e] = [e] := rfl
      rw [hcloses, Bool.or_false, hevents]
      cases e with
      | call c =>
        cases hshut : closes evs with
        | false =>
          rw [hshut] at h
          have hcalls := calls_concat_call (before evs) c
          exact hcalls ▸ h.call_open hprog c
        | true =>
          rw [hshut] at h
          rw [if_pos rfl, List.append_nil]
          exact h.call_shut hprog c
      | reply i x =>
        have hcalls : Loop.calls (before evs ++ if closes evs then []
            else before [.event (.reply i x)]) = Loop.calls (before evs) := by
          cases closes evs with
          | true => exact congrArg _ (List.append_nil _)
          | false => exact calls_concat_reply _ i x
        rw [hcalls]
        exact h.reply hprog hcalm i x

end Runs

end Gate
