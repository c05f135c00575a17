import Mathlib.Tactic.TypeStar

/-! Programs that change a setting with context managers, which put it back on exit. What such a
program does with its own hands on the setting is what it does when each statement is given the
setting of the managers around it, and nothing has to be put back.
-/

namespace Brackets

/-- A context manager over settings `σ`. Its entry changes the setting or raises; its exit sees the
setting of its entry and the one that it finds.
-/
structure Manager (σ ε : Type*) where
  enter : σ → Except ε σ
  exit : σ → σ → σ × Option ε

variable {μ σ ω ε : Type*}

/-- The manager puts back what its entry changes in this setting. -/
def Manager.Restores (manager : Manager σ ε) (setting : σ) : Prop :=
  ∀ inner, manager.enter setting = .ok inner → manager.exit setting inner = (setting, none)

/-- Programs whose statements read the setting, change the rest of the world and may raise. A
handler runs where its body raises.
-/
inductive Program (μ σ ω ε : Type*) where
  | statement (perform : σ → ω → ω × Option ε)
  | branch (test : σ → ω → Bool) (first second : Program μ σ ω ε)
  | sequence (first second : Program μ σ ω ε)
  | handling (body handler : Program μ σ ω ε)
  | inside (manager : μ) (body : Program μ σ ω ε)

namespace Program

/-- A run of a program that enters and exits its managers: the setting and the world that it leaves,
and what it raises. An exit that raises does so in place of its body.
-/
def exec (managers : μ → Manager σ ε) : Program μ σ ω ε → σ → ω → σ × ω × Option ε
  | statement perform, setting, world => (setting, perform setting world)
  | branch test first second, setting, world =>
      if test setting world then first.exec managers setting world
      else second.exec managers setting world
  | sequence first second, setting, world =>
      match first.exec managers setting world with
      | (setting, world, none) => second.exec managers setting world
      | (setting, world, some error) => (setting, world, some error)
  | handling body handler, setting, world =>
      match body.exec managers setting world with
      | (setting, world, none) => (setting, world, none)
      | (setting, world, some _) => handler.exec managers setting world
  | inside manager body, setting, world =>
      match (managers manager).enter setting with
      | .error error => (setting, world, some error)
      | .ok inner =>
          let (found, world, raised) := body.exec managers inner world
          let (left, failed) := (managers manager).exit setting found
          (left, world, failed.or raised)

/-- The meaning of a program in a setting, which no part of it can change for what follows. -/
def eval (managers : μ → Manager σ ε) : Program μ σ ω ε → σ → ω → ω × Option ε
  | statement perform, setting, world => perform setting world
  | branch test first second, setting, world =>
      if test setting world then first.eval managers setting world
      else second.eval managers setting world
  | sequence first second, setting, world =>
      match first.eval managers setting world with
      | (world, none) => second.eval managers setting world
      | (world, some error) => (world, some error)
  | handling body handler, setting, world =>
      match body.eval managers setting world with
      | (world, none) => (world, none)
      | (world, some _) => handler.eval managers setting world
  | inside manager body, setting, world =>
      match (managers manager).enter setting with
      | .error error => (world, some error)
      | .ok inner => body.eval managers inner world

/-- Each manager of the program restores the setting that it is entered in. -/
def Fits (managers : μ → Manager σ ε) : Program μ σ ω ε → σ → Prop
  | statement _, _ => True
  | branch _ first second, setting | sequence first second, setting
  | handling first second, setting =>
      first.Fits managers setting ∧ second.Fits managers setting
  | inside manager body, setting =>
      (managers manager).Restores setting
      ∧ ∀ inner, (managers manager).enter setting = .ok inner → body.Fits managers inner

/-- A program whose managers restore leaves the setting as it was, however it ends, and does what it
means; by induction on the program.
-/
theorem exec_eq_eval {managers : μ → Manager σ ε} {program : Program μ σ ω ε} {setting : σ}
    (fits : program.Fits managers setting) (world : ω)
    : program.exec managers setting world = (setting, program.eval managers setting world) := by
  induction program generalizing setting world with
  | statement perform => rfl
  | branch test first second ihFirst ihSecond =>
      simp only [exec, eval]
      split
      · exact ihFirst fits.1 world
      · exact ihSecond fits.2 world
  | sequence first second ihFirst ihSecond =>
      simp only [exec, eval, ihFirst fits.1 world]
      rcases first.eval managers setting world with ⟨after, raised⟩
      cases raised with
      | none => exact ihSecond fits.2 after
      | some error => rfl
  | handling body handler ihBody ihHandler =>
      simp only [exec, eval, ihBody fits.1 world]
      rcases body.eval managers setting world with ⟨after, raised⟩
      cases raised with
      | none => rfl
      | some error => exact ihHandler fits.2 after
  | inside manager body ih =>
      simp only [exec, eval]
      cases entered : (managers manager).enter setting with
      | error error => rfl
      | ok inner => simp [ih (fits.2 inner entered) world, fits.1 inner entered]

end Program

end Brackets
