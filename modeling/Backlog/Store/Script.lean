import Backlog.Store.Operation

/-!
# Scripts of operations

A script asks operations of a store, one after the other, and each may depend on the answers
before it. Between two of them other callers can change the store.
-/

namespace Backlog.Store

inductive Script (α : Type)
  | done (result : α)
  | ask (op : Operation) (next : Except Error Answer → Script α)

namespace Script

variable {α : Type}

/-- Runs a script alone on a store. -/
def run : Script α → Store → α × Store
  | done result, s => (result, s)
  | ask op next, s =>
    let (answer, after) := op.run s
    (next answer).run after

/-- Runs a script while others run operations, given for each of its own operations as those that
come before it. -/
def runAmong : Script α → List (List Operation) → Store → α × Store
  | done result, _, s => (result, s)
  | ask op next, others, s =>
    let (answer, after) := op.run (Store.run (others.headD []) s).2
    (next answer).runAmong others.tail after

/-- Runs a script alone where every operation takes its time. `clock` reads a clock; the time that
an operation took is noted under each of its names. -/
def runTimed {m : Type → Type} [Monad m] (clock : m Nat) :
    Script α → Store → m ((α × Store) × List (String × Nat))
  | done result, s => return ((result, s), [])
  | ask op next, s => do
    let start ← clock
    let (answer, after) := op.run s
    let stop ← clock
    let (r, later) ← (next answer).runTimed clock after
    return (r, (op.samples s).map (fun name => (name, stop - start)) ++ later)

end Script

end Backlog.Store
