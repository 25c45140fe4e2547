/-
# Loops side by side

Families of coroutines, each with a shared state of its own, run on one loop: the state of the
loop has a component for each family, and a task runs on that of its family.

* `Coro.component` runs a coroutine on a component, and `advance_component` says that it does there
  what it does alone.
* `startState_together`: a task starts from where the earlier tasks of its own family have led
  their component, whatever the other families do in between.
-/
import Exfer.Lib.Coro
import Mathlib.Logic.Function.Basic

variable {ι σ Req Ans α : Type} [DecidableEq ι]

namespace Coro

/-! ## 1. One component -/

/-- Run on component `j` of the shared state. -/
def component (j : ι) : Coro σ Req Ans α → Coro (ι → σ) Req Ans α
  | ret a => ret a
  | update f k => update (fun s => Function.update s j (f (s j))) fun s => component j (k (s j))
  | await r k => await r fun x => component j (k x)

def Phase.component (j : ι) : Phase σ Req Ans α → Phase (ι → σ) Req Ans α
  | .waiting r k => .waiting r fun x => (k x).component j
  | .finished a => .finished a

@[simp] theorem Phase.request_component (j : ι) (ph : Phase σ Req Ans α) :
    (ph.component j).request = ph.request := by
  cases ph <;> rfl

/-- **A component is all that a coroutine touches**, and there it does what it does alone. -/
theorem advance_component (j : ι) (p : Coro σ Req Ans α) (s : ι → σ) :
    (p.component j).advance s
      = (Function.update s j (p.advance (s j)).1, (p.advance (s j)).2.component j) := by
  induction p generalizing s with
  | ret a => simp [component, advance, Phase.component]
  | await r k _ => simp [component, advance, Phase.component]
  | update f k ih =>
    simp only [component, advance]
    rw [ih]
    simp only [Function.update_self, Function.update_idem]

end Coro

/-! ## 2. All components -/

variable {κ : ι → Type}

/-- The families on one loop. -/
def together (prog : ∀ i, κ i → Coro σ Req Ans α) (c : Σ i, κ i) : Coro (ι → σ) Req Ans α :=
  (prog c.1 c.2).component c.1

/-- The calls of family `j`. -/
def callsOf (j : ι) (cs : List (Σ i, κ i)) : List (κ j) :=
  cs.filterMap fun c => if h : c.1 = j then some (h ▸ c.2) else none

theorem callsOf_cons_self (j : ι) (c : κ j) (cs : List (Σ i, κ i)) :
    callsOf j (⟨j, c⟩ :: cs) = c :: callsOf j cs := by
  simp [callsOf]

theorem callsOf_cons_ne {i j : ι} (h : i ≠ j) (c : κ i) (cs : List (Σ i, κ i)) :
    callsOf j (⟨i, c⟩ :: cs) = callsOf j cs := by
  simp [callsOf, h]

namespace Loop

/-- Where tasks lead a component is where those of its family lead it. -/
theorem spawnAll_together (prog : ∀ i, κ i → Coro σ Req Ans α) (j : ι) (cs : List (Σ i, κ i))
    (s : ι → σ) (n m : Nat) :
    (spawnAll (together prog) s n cs).1 j = (spawnAll (prog j) (s j) m (callsOf j cs)).1 := by
  induction cs generalizing s n m with
  | nil => rfl
  | cons c cs ih =>
    obtain ⟨i, c⟩ := c
    have hadv := Coro.advance_component i (prog i c) s
    by_cases hij : i = j
    · subst hij
      rw [callsOf_cons_self]
      simp only [spawnAll, together, hadv]
      rw [ih _ _ (m + 1), Function.update_self]
    · rw [callsOf_cons_ne hij]
      simp only [spawnAll, together, hadv]
      rw [ih _ _ m, Function.update_of_ne (Ne.symm hij)]

/-- **A task starts from where its own family has come**, whatever the others do. -/
theorem startState_together (prog : ∀ i, κ i → Coro σ Req Ans α) (s : ι → σ)
    (cs : List (Σ i, κ i)) (n : Nat) (j : ι) :
    startState (together prog) s cs n j
      = (spawnAll (prog j) (s j) 0 (callsOf j (cs.take n))).1 :=
  spawnAll_together prog j _ s 0 0

end Loop
