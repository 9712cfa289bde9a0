import Preflight.Wait

/-!
Waits on two sources, one of which is a view of the other: where the answers agree at every state and
the view follows the states, the two waits go through the same stages.
-/

namespace Preflight.Wait

variable {σ τ : Type}

def Outcome.map (view : σ → τ) (outcome : Outcome σ) : Outcome τ :=
  { outcome with state := view outcome.state }

def Stage.map (view : σ → τ) : Stage σ → Stage τ
  | .waiting pos trace state => .waiting pos trace (view state)
  | .ended outcome => .ended (outcome.map view)

theorem Stage.trace_map (view : σ → τ) (stage : Stage σ) : (stage.map view).trace = stage.trace := by
  cases stage <;> rfl

/-- The source `seen` gives the answers of `watch`, which depend on a view of the states only. -/
def IsView (view : σ → τ) (watch : Watch σ) (seen : Watch τ) : Prop :=
  ∀ state time, seen (view state) time = ((watch state time).1, view (watch state time).2)

variable {view : σ → τ} {watch : Watch σ} {seen : Watch τ}

theorem arrive_map (cancel : Option Nat) (pos : Position) (trace : Trace) (state : σ) :
    (arrive cancel pos trace state).map view = arrive cancel pos trace (view state) := by
  rw [arrive, arrive]
  split
  · rfl
  · rfl

theorem step_map (h : IsView view watch seen) (p : Policy) (cancel : Option Nat)
    (stage : Stage σ) :
    (step p cancel watch stage).map view = step p cancel seen (stage.map view) := by
  cases stage with
  | ended outcome => rfl
  | waiting pos trace state =>
    rw [Stage.map, step, step, h state pos.time]
    -- both take the same turn, so only the states are left to compare
    dsimp only
    split
    · rfl
    · exact arrive_map cancel _ _ _

theorem steps_map (h : IsView view watch seen) (p : Policy) (cancel : Option Nat) (n : Nat)
    (stage : Stage σ) :
    (steps p cancel watch n stage).map view = steps p cancel seen n (stage.map view) := by
  induction n generalizing stage with
  | zero => rfl
  | succ n ih =>
    cases stage with
    | ended outcome => rfl
    | waiting pos trace state =>
      have hstep := step_map h p cancel (.waiting pos trace state)
      show (steps p cancel watch n (step p cancel watch (.waiting pos trace state))).map view
        = steps p cancel seen n (step p cancel seen (.waiting pos trace (view state)))
      rw [ih, hstep]
      rfl

theorem stage_map (h : IsView view watch seen) (checks : Nat) (config : Config)
    (cancel : Option Nat) (state : σ) :
    (stage checks config cancel watch state).map view
      = stage checks config cancel seen (view state) := by
  rw [stage, stage]
  split
  · rfl
  · rw [steps_map h, arrive_map]

end Preflight.Wait
