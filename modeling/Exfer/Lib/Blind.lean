/-
# Answers that are not told apart

A coroutine is blind to a relation on answers when related answers leave it with the same to do.
A loop of such coroutines cannot tell runs apart whose answers are related one by one
(`Loop.run_blind`), and blocking code cannot either (`Loop.session_blind`).
-/
import Exfer.Lib.Coro

variable {σ Req Ans α κ : Type}

namespace Coro

/-- Related answers are followed by the same. -/
def Blind (R : Ans → Ans → Prop) : Coro σ Req Ans α → Prop
  | ret _ => True
  | update _ k => ∀ s, (k s).Blind R
  | await _ k => (∀ x, (k x).Blind R) ∧ ∀ x x', R x x' → k x' = k x

/-- A phase that is left the same way by related answers. -/
def Phase.Blind (R : Ans → Ans → Prop) : Phase σ Req Ans α → Prop
  | .finished _ => True
  | .waiting _ k => (∀ x, (k x).Blind R) ∧ ∀ x x', R x x' → k x' = k x

variable {R : Ans → Ans → Prop}

theorem Blind.advance {p : Coro σ Req Ans α} (h : p.Blind R) (s : σ) :
    (p.advance s).2.Blind R := by
  induction p generalizing s with
  | ret a => trivial
  | update f k ih => exact ih s (h s) (f s)
  | await r k _ => exact h

/-- A blocking run that gets one of two related answers does not show which. -/
theorem Blind.drive {p : Coro σ Req Ans α} (h : p.Blind R) {x x' : Ans} (hx : R x x') (s : σ)
    (hist : List Req) :
    p.drive (fun _ _ => x') s hist = p.drive (fun _ _ => x) s hist := by
  induction p generalizing s hist with
  | ret a => rfl
  | update f k ih => exact ih s (h s) (f s) hist
  | await r k ih =>
    obtain ⟨hk, hsame⟩ := h
    simp only [Coro.drive, hsame x x' hx]
    exact ih x (hk x) s (hist ++ [r])

end Coro

open Coro

/-- The same event, up to the answer. -/
inductive Event.Alike (R : Ans → Ans → Prop) : Event κ Ans → Event κ Ans → Prop where
  | call (c : κ) : Alike R (.call c) (.call c)
  | reply (i : Nat) {x x' : Ans} : R x x' → Alike R (.reply i x) (.reply i x')

namespace Loop

variable {prog : κ → Coro σ Req Ans α} {R : Ans → Ans → Prop}

/-- Every task of the loop is left the same way by related answers. -/
def Blind (R : Ans → Ans → Prop) (L : Loop σ Req Ans α) : Prop :=
  ∀ ph ∈ L.tasks, ph.Blind R

/-- An answer is dropped, or a waiting task goes on with it. -/
theorem exec_reply_cases (prog : κ → Coro σ Req Ans α) (L : Loop σ Req Ans α) (i : Nat) :
    (∀ x, L.exec prog (.reply i x) = L) ∨ ∃ r k, L.tasks[i]? = some (.waiting r k) ∧
      ∀ x, L.exec prog (.reply i x) = ⟨((k x).advance L.shared).1,
        L.log ++ entry i ((k x).advance L.shared).2,
        L.tasks.set i ((k x).advance L.shared).2⟩ := by
  cases htask : L.tasks[i]? with
  | none => exact Or.inl fun x => by simp only [Loop.exec, htask]
  | some ph =>
    cases ph with
    | finished a => exact Or.inl fun x => by simp only [Loop.exec, htask]
    | waiting r k => exact Or.inr ⟨r, k, rfl, fun x => by simp only [Loop.exec, htask]⟩

theorem Blind.exec (hprog : ∀ c, (prog c).Blind R) {L : Loop σ Req Ans α} (hL : L.Blind R)
    (e : Event κ Ans) : (L.exec prog e).Blind R := by
  cases e with
  | call c =>
    intro ph hph
    rcases List.mem_append.mp hph with hph | hph
    · exact hL ph hph
    · rw [List.mem_singleton.mp hph]
      exact (hprog c).advance L.shared
  | reply i x =>
    rcases exec_reply_cases prog L i with hsame | ⟨r, k, htask, hnext⟩
    · rw [hsame x]
      exact hL
    · obtain ⟨hk, -⟩ := hL _ (List.mem_of_getElem? htask)
      rw [hnext x]
      intro ph hph
      rcases List.mem_or_eq_of_mem_set hph with hph | rfl
      · exact hL ph hph
      · exact (hk x).advance L.shared

/-- Events with related answers lead to one state. -/
theorem exec_blind {L : Loop σ Req Ans α} (hL : L.Blind R) {e e' : Event κ Ans}
    (he : Event.Alike R e e') : L.exec prog e' = L.exec prog e := by
  cases he with
  | call c => rfl
  | @reply i x x' hx =>
    rcases exec_reply_cases prog L i with hsame | ⟨r, k, htask, hnext⟩
    · rw [hsame x', hsame x]
    · obtain ⟨-, hsame⟩ := hL _ (List.mem_of_getElem? htask)
      rw [hnext x', hnext x, hsame x x' hx]

/-- **Runs with related answers are one run.** -/
theorem run_blind (hprog : ∀ c, (prog c).Blind R) (s : σ) {evs evs' : List (Event κ Ans)}
    (h : List.Forall₂ (Event.Alike R) evs evs') : run prog s evs' = run prog s evs := by
  have hfold : ∀ L : Loop σ Req Ans α, L.Blind R →
      evs'.foldl (exec prog) L = evs.foldl (exec prog) L := by
    induction h with
    | nil => exact fun L _ => rfl
    | @cons e e' evs evs' he _ ih =>
      intro L hL
      rw [List.foldl_cons, List.foldl_cons, exec_blind hL he]
      exact ih _ (hL.exec hprog e)
  exact hfold (init s) fun ph hph => absurd hph List.not_mem_nil

/-- The same for blocking code. -/
theorem session_blind (hprog : ∀ c, (prog c).Blind R) (s : σ) {steps steps' : List (κ × Ans)}
    (h : List.Forall₂ (fun step step' => step'.1 = step.1 ∧ R step.2 step'.2) steps steps') :
    session prog s steps' = session prog s steps := by
  induction h generalizing s with
  | nil => rfl
  | @cons step step' steps steps' hstep _ ih =>
    obtain ⟨c, x⟩ := step
    obtain ⟨c', x'⟩ := step'
    obtain ⟨hc, hx⟩ := hstep
    simp only at hc hx
    subst hc
    simp only [session, (hprog c').drive hx, ih]

end Loop
