import Backlog.Proofs.Store.Change

/-!
# Operations that fail leave no trace

An operation on its own fails without an effect (`run_cases`). So those of a run that fail can be
left out: the others find the stores that they found before.

**Main statement (`run_succeeding`).** A run without the operations that failed in it gives the same
answers otherwise, and leads to the same store.
-/

namespace Backlog.Store

/-- The operations of a run that succeed in it. -/
def succeeding (ops : List Operation) (s : Store) : List Operation :=
  ((ops.zip (run ops s).1).filter fun asked => asked.2.toBool).map Prod.fst

section Step

variable {op : Operation} {ops : List Operation} {s s' : Store}

theorem run_cons {r : Except Error Answer} (h : op.run s = (r, s')) :
    run (op :: ops) s = (r :: (run ops s').1, (run ops s').2) := by
  rw [run, h]

/-- The first operation counts among those that succeed, if it does. -/
theorem succeeding_cons {r : Except Error Answer} (h : op.run s = (r, s')) :
    succeeding (op :: ops) s =
      if r.toBool then op :: succeeding ops s' else succeeding ops s' := by
  rw [succeeding, run_cons h, List.zip_cons_cons, List.filter_cons]
  split <;> rfl

end Step

/-- **Operations that fail leave no trace.** -/
theorem run_succeeding (ops : List Operation) (s : Store) :
    run (succeeding ops s) s = ((run ops s).1.filter (·.toBool), (run ops s).2) := by
  induction ops generalizing s with
  | nil => rfl
  | cons op ops ih =>
    rcases op.run_cases s with ⟨e, hfailed⟩ | ⟨a, s', hdone, -⟩
    · -- The rest starts where the operation did, and the operation is not among what is left.
      have hleft : succeeding (op :: ops) s = succeeding ops s := succeeding_cons hfailed
      rw [hleft, ih s, run_cons hfailed]
      rfl
    · have hkept : succeeding (op :: ops) s = op :: succeeding ops s' := succeeding_cons hdone
      rw [hkept, run_cons hdone, ih s', run_cons hdone]
      rfl

end Backlog.Store
