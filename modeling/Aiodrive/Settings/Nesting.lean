import Aiodrive.Settings.Model

/-! Nested uses of the managers leave every setting as they found it, as long as no descriptor is
watched again where it is being watched.
-/

namespace Aiodrive.Settings

open Brackets (Manager Program)

variable {ρ ε ω : Type*}

-----------------------------------------------------------------------------------------
-- What each manager puts back
-----------------------------------------------------------------------------------------

theorem setFileBlocking_restores (files : Files) (fd : Nat) (blocking : Bool)
    (setting : Setting ρ)
    : (setFileBlocking files fd blocking : Manager _ (Error ε)).Restores setting := by
  intro inner entered
  simp only [setFileBlocking] at entered ⊢
  cases opened : files.openFile fd with
  | none => simp [opened] at entered
  | some file =>
      simp only [opened, Except.ok.injEq] at entered ⊢
      subst entered
      simp [Setting.setBlocking]

theorem savingAttributes_restores (files : Files) (fd : Nat) (change : ρ → ρ)
    (setting : Setting ρ)
    : (savingAttributes files fd change : Manager _ (Error ε)).Restores setting := by
  intro inner entered
  simp only [savingAttributes] at entered ⊢
  cases opened : files.terminal fd with
  | none => simp [opened] at entered
  | some terminal =>
      simp only [opened, Except.ok.injEq] at entered ⊢
      subst entered
      simp [Setting.setAttributes]

theorem setEventLoop_restores (loop : Nat) (setting : Setting ρ)
    : (setEventLoop loop : Manager _ (Error ε)).Restores setting := by
  intro inner entered
  simp only [setEventLoop, Except.ok.injEq] at entered ⊢
  subst entered
  rfl

@[simp] theorem setCallback_callbacks (setting : Setting ρ) (side other : Side)
    (loop fd otherLoop otherFd : Nat) (callback : Option Nat)
    : (setting.setCallback side loop fd callback).callbacks other otherLoop otherFd
      = if (other, otherLoop, otherFd) = (side, loop, fd) then callback
        else setting.callbacks other otherLoop otherFd := by
  simp only [Setting.setCallback, Function.update_apply, Prod.mk.injEq]
  by_cases sameSide : other = side
  · by_cases sameLoop : otherLoop = loop
    · simp [sameSide, sameLoop, Function.update_apply]
    · simp [sameSide, sameLoop]
  · simp [sameSide]

/-- A watched descriptor is left alone where nobody else watched it. -/
theorem watching_restores (files : Files) (side : Side) (fd callback : Nat) {setting : Setting ρ}
    (alone : ∀ loop ∈ setting.runningLoop, setting.callbacks side loop fd = none)
    : (watching files side fd callback : Manager _ (Error ε)).Restores setting := by
  intro inner entered
  simp only [watching] at entered ⊢
  cases running : setting.runningLoop with
  | none => simp [running] at entered
  | some loop =>
      cases opened : files.openFile fd with
      | none => simp [running, opened] at entered
      | some file =>
          simp only [running, opened, Except.ok.injEq] at entered ⊢
          subst entered
          have none := alone loop running
          simp only [Setting.setCallback, Function.update_self, Function.update_idem, ← none,
            Function.update_eq_self]

-----------------------------------------------------------------------------------------
-- Programs
-----------------------------------------------------------------------------------------

/-- No descriptor is watched where it is watched already, with the running loop at the program and
what is watched around it.
-/
def Alone (loop : Option Nat) (watched : List (Side × Nat × Nat))
    : Program (Context ρ) (Setting ρ) ω (Error ε) → Prop
  | .statement _ => True
  | .branch _ first second | .sequence first second | .handling first second =>
      Alone loop watched first ∧ Alone loop watched second
  | .inside context body =>
      match context.watched?, loop with
      | some (side, fd), some running =>
          (side, running, fd) ∉ watched
          ∧ Alone (context.loop loop) ((side, running, fd) :: watched) body
      | _, _ => Alone (context.loop loop) watched body

/-- What is known of the setting at a part of a program: its loop, and that nothing is watched
but by the managers around it.
-/
structure Around (loop : Option Nat) (watched : List (Side × Nat × Nat)) (setting : Setting ρ)
    : Prop where
  loop : setting.runningLoop = loop
  watched
    : ∀ side running fd,
        (side, running, fd) ∉ watched → setting.callbacks side running fd = none

theorem Around.setBlocking {loop : Option Nat} {watched : List (Side × Nat × Nat)}
    {setting : Setting ρ} (around : Around loop watched setting) (file : Nat) (blocking : Bool)
    : Around loop watched (setting.setBlocking file blocking) :=
  ⟨around.loop, around.watched⟩

theorem Around.setAttributes {loop : Option Nat} {watched : List (Side × Nat × Nat)}
    {setting : Setting ρ} (around : Around loop watched setting) (terminal : Nat) (attributes : ρ)
    : Around loop watched (setting.setAttributes terminal attributes) :=
  ⟨around.loop, around.watched⟩

theorem Around.setCallback {loop : Option Nat} {watched : List (Side × Nat × Nat)}
    {setting : Setting ρ} (around : Around loop watched setting) (side : Side)
    (running fd callback : Nat)
    : Around loop ((side, running, fd) :: watched)
        (setting.setCallback side running fd (some callback)) := by
  refine ⟨around.loop, fun other otherLoop otherFd absent => ?_⟩
  simp only [List.mem_cons, not_or] at absent
  rw [setCallback_callbacks, if_neg absent.1]
  exact around.watched other otherLoop otherFd absent.2

/-- The entry of a manager that saves attributes watches nothing. -/
theorem Around.savingAttributes {loop : Option Nat} {watched : List (Side × Nat × Nat)}
    {setting inner : Setting ρ} {files : Files} {fd : Nat} {change : ρ → ρ}
    (around : Around loop watched setting)
    (entered
      : (savingAttributes files fd change : Manager _ (Error ε)).enter setting = .ok inner)
    : Around loop watched inner := by
  simp only [Settings.savingAttributes] at entered
  split at entered
  · contradiction
  · exact Except.ok.inj entered ▸ around.setAttributes _ _

/-- A watched descriptor is one of those that are watched inside. -/
theorem Around.watching {loop : Option Nat} {watched : List (Side × Nat × Nat)}
    {setting inner : Setting ρ} {files : Files} {side : Side} {fd callback : Nat}
    (around : Around loop watched setting)
    (entered : (watching files side fd callback : Manager _ (Error ε)).enter setting = .ok inner)
    : ∃ running, loop = some running ∧ Around loop ((side, running, fd) :: watched) inner := by
  simp only [Settings.watching] at entered
  split at entered
  · contradiction
  · contradiction
  · rename_i running file runs opened
    exact ⟨running, around.loop ▸ runs, Except.ok.inj entered ▸ around.setCallback _ _ _ _⟩

/-- A program that watches no descriptor twice fits its managers, by induction on the program. -/
theorem fits_of_alone (files : Files) (tty : Tty ρ)
    {program : Program (Context ρ) (Setting ρ) ω (Error ε)} {loop : Option Nat}
    {watched : List (Side × Nat × Nat)} {setting : Setting ρ}
    (alone : Alone loop watched program) (around : Around loop watched setting)
    : program.Fits (manager files tty) setting := by
  induction program generalizing loop watched setting with
  | statement perform => trivial
  | branch test first second ihFirst ihSecond =>
      exact ⟨ihFirst alone.1 around, ihSecond alone.2 around⟩
  | sequence first second ihFirst ihSecond =>
      exact ⟨ihFirst alone.1 around, ihSecond alone.2 around⟩
  | handling body handler ihBody ihHandler =>
      exact ⟨ihBody alone.1 around, ihHandler alone.2 around⟩
  | inside context body ih =>
      have watches (side : Side) (fd callback : Nat)
          (alone : ∀ running, loop = some running → (side, running, fd) ∉ watched
            ∧ Alone loop ((side, running, fd) :: watched) body)
          : (watching files side fd callback : Manager _ (Error ε)).Restores setting
            ∧ ∀ inner,
                (watching files side fd callback : Manager _ (Error ε)).enter setting = .ok inner
                → body.Fits (manager files tty) inner := by
        refine ⟨watching_restores files side fd callback fun running runs => ?_,
          fun inner entered => ?_⟩
        · exact around.watched side running fd (alone running (around.loop ▸ runs)).1
        · obtain ⟨running, runs, inside⟩ := around.watching entered
          exact ih (alone running runs).2 inside
      have saves (fd : Nat) (change : ρ → ρ) (alone : Alone loop watched body)
          : (savingAttributes files fd change : Manager _ (Error ε)).Restores setting
            ∧ ∀ inner,
                (savingAttributes files fd change : Manager _ (Error ε)).enter setting = .ok inner
                → body.Fits (manager files tty) inner :=
        ⟨savingAttributes_restores files fd change setting,
          fun inner entered => ih alone (around.savingAttributes entered)⟩
      cases context with
      | setFileBlocking fd blocking =>
          refine ⟨setFileBlocking_restores files fd blocking setting, fun inner entered => ?_⟩
          simp only [manager, setFileBlocking] at entered
          split at entered
          · contradiction
          · exact ih alone (Except.ok.inj entered ▸ around.setBlocking _ _)
      | setFileRawmode fd => exact saves fd tty.setraw alone
      | setFileAttribute fd attr => exact saves fd (fun _ => attr) alone
      | setFileUnbuffered fd => exact saves fd tty.setcbreak alone
      | watchReader fd callback =>
          refine watches .reader fd callback fun running runs => ?_
          subst runs
          exact alone
      | watchWriter fd callback =>
          refine watches .writer fd callback fun running runs => ?_
          subst runs
          exact alone
      | setEventLoop running =>
          refine ⟨setEventLoop_restores running setting, fun inner entered => ih alone ?_⟩
          exact Except.ok.inj entered ▸ ⟨rfl, around.watched⟩

/-- However a program nests the managers and however it ends, every mode, callback and loop is left
as it was, and each statement runs under the settings of the managers around it; where nothing is
watched at first, and no descriptor is watched again inside a manager that watches it.
-/
theorem nested_managers_restore (files : Files) (tty : Tty ρ)
    {program : Program (Context ρ) (Setting ρ) ω (Error ε)} {setting : Setting ρ}
    (alone : Alone setting.runningLoop [] program)
    (idle : ∀ side loop fd, setting.callbacks side loop fd = none) (world : ω)
    : program.exec (manager files tty) setting world
      = (setting, program.eval (manager files tty) setting world) :=
  Program.exec_eq_eval (fits_of_alone files tty alone ⟨rfl, fun side loop fd _ => idle side loop fd⟩)
    world

/-- The `with` statement of `prompt()` around its `await`. -/
def promptContexts (input callback : Nat) (body : Program (Context ρ) (Setting ρ) ω (Error ε))
    : Program (Context ρ) (Setting ρ) ω (Error ε) :=
  .inside (.setFileBlocking input false)
    (.inside (.setFileUnbuffered input) (.inside (.watchReader input callback) body))

/-- A prompt on the terminal of the process that ends with an exception. -/
theorem prompt_restores
    : let files : Files := { openFile := fun _ => some 0, terminal := fun _ => some 0 }
      let tty : Tty Nat := { setraw := fun _ => 0, setcbreak := (· + 1) }
      let setting : Setting Nat :=
        { blocking := fun _ => true, attributes := fun _ => 4, callbacks := fun _ _ _ => none,
          runningLoop := some 0 }
      let program : Program (Context Nat) (Setting Nat) (List Nat) (Error String) :=
        promptContexts 0 9
          (.statement fun setting seen =>
            (seen ++ [setting.attributes 0], some (.raised "EOFError")))
      program.exec (manager files tty) setting []
      = (setting, program.eval (manager files tty) setting []) := by
  intro files tty setting program
  have alone : Alone setting.runningLoop [] program := by
    simp [program, setting, promptContexts, Alone, Context.watched?, Context.loop]
  exact nested_managers_restore files tty alone (fun _ _ _ => rfl) []

end Aiodrive.Settings
