import Backlog.Command.Run
import Backlog.Proofs.Result

/-!
# What a command line comes to

A host is asked in a state that its answers may change. Whatever it answers, a command that has
opened its project comes to what its script gives on the store (`runAt_of_openAt`), and a command
line exits with zero exactly if its command succeeds, and then writes that (`run_of_runAt_ok`,
`runAt_ok_of_exit`).
-/

namespace Backlog

open Store (Script)

section Hosts

variable {W : Type} {h : Host (StateM W)} {c : Command} {i : Invocation} {p : Project}
  {env : Environment} {place : String} {w : W}

/-- Timing an operation does not change what a script gives. -/
theorem runTimed_eq {α : Type} (clock : StateM W Nat) (script : Script α) (s : Store) (w : W) :
    ((script.runTimed clock s).run w).1.1 = script.run s := by
  induction script generalizing s w with
  | done result => rfl
  | ask op next ih => exact ih _ _ _

theorem exists_fresh_of_runIn : ∃ fresh, ((c.runIn h p).run w).1.1 =
    ((c.script p.config.paging fresh).run p.store).1 := by
  -- The time and the ids are drawn before the script runs.
  refine ⟨⟨(h.now.run w).1, (h.drawId.run (h.now.run w).2).1,
    (h.drawId.run (h.drawId.run (h.now.run w).2).2).1⟩, ?_⟩
  rw [← runTimed_eq h.clock]
  rfl

theorem run_bind {α β : Type} (x : StateM W α) (f : α → StateM W β) (w : W) :
    (x >>= f).run w = (f (x.run w).1).run (x.run w).2 := rfl

/-- What a command comes to that has opened its project. -/
theorem runAt_of_openAt (mode : OutputMode) {w' : W}
    (hproject : (c.projectFor h place).run.run w = (.ok p, w')) :
    ∃ fresh, ((c.runAt h place mode).run w).1.1 =
      ((c.script p.config.paging fresh).run p.store).1.map (fun r => c.written p r mode) := by
  obtain ⟨fresh, hfresh⟩ := exists_fresh_of_runIn (h := h) (c := c) (p := p) (w := w')
  refine ⟨fresh, ?_⟩
  rw [Command.runAt, run_bind, hproject, ← hfresh]
  rfl

/-- A command that succeeds has opened its project, and writes what its script gives. -/
theorem runAt_eq_ok {mode : OutputMode} {output : String}
    (hrun : ((c.runAt h place mode).run w).1.1 = .ok output) :
    ∃ p w' fresh r, (c.projectFor h place).run.run w = (.ok p, w') ∧
      ((c.script p.config.paging fresh).run p.store).1 = .ok r ∧ output = c.written p r mode := by
  rcases hproject : (c.projectFor h place).run.run w with ⟨f | p, w'⟩
  · rw [Command.runAt, run_bind, hproject] at hrun
    cases hrun
  · obtain ⟨fresh, hfresh⟩ := runAt_of_openAt mode hproject
    rw [hfresh, map_eq_ok] at hrun
    obtain ⟨r, hr, rfl⟩ := hrun
    exact ⟨p, w', fresh, r, rfl, hr, rfl⟩

theorem run_of_runAt_ok {output : String}
    (hok : ((i.command.runAt h place (env.mode i.json)).run (h.clock.run w).2).1.1 = .ok output) :
    ((i.run h env place).run w).1.exit = 0 ∧ ((i.run h env place).run w).1.output = output := by
  rcases hrun : (i.command.runAt h place (env.mode i.json)).run (h.clock.run w).2 with
    ⟨⟨result, samples⟩, w'⟩
  obtain rfl : result = .ok output := by rw [← hok, hrun]
  rw [Invocation.run, run_bind, run_bind, hrun]
  exact ⟨rfl, rfl⟩

/-- The exit code is zero only if the command succeeds. -/
theorem runAt_ok_of_exit (hexit : ((i.run h env place).run w).1.exit = 0) :
    ((i.command.runAt h place (env.mode i.json)).run (h.clock.run w).2).1.1 =
      .ok ((i.run h env place).run w).1.output := by
  rcases hresult : ((i.command.runAt h place (env.mode i.json)).run (h.clock.run w).2).1.1 with
    f | output
  · rcases hrun : (i.command.runAt h place (env.mode i.json)).run (h.clock.run w).2 with
      ⟨⟨result, samples⟩, w'⟩
    obtain rfl : result = .error f := by rw [← hresult, hrun]
    rw [Invocation.run, run_bind, run_bind, hrun] at hexit
    cases hexit
  · rw [(run_of_runAt_ok hresult).2]

end Hosts

/-! ## A host that never changes -/

/-- Every place is a project with the standard configuration and the store. -/
def Host.steady (s : Store) : Host (StateM Unit) where
  isThere _ := pure false
  isDirectory _ := pure true
  makeDirectory _ := pure (.ok ())
  readText _ := pure (.error .missing)
  writeText _ _ := pure (.ok ())
  openStore _ := pure (.ok s)
  saveStore _ _ := pure ()
  drawId := pure default
  now := pure 0
  clock := pure 0

theorem openAt_steady (s : Store) (place : String) :
    (Project.openAt (Host.steady s) place).run.run () =
      (.ok ⟨Path.ofParts (Path.parts place), {}, s⟩, ()) := by
  have hnearest : ∃ above, Path.ancestors (Path.parts place) = Path.parts place :: above := by
    rw [Path.ancestors, List.range_succ_eq_map, List.map_cons, Nat.sub_zero, List.take_length]
    exact ⟨_, rfl⟩
  obtain ⟨above, habove⟩ := hnearest
  rw [Project.openAt, Project.find?, habove]
  rfl

end Backlog
