import Aiodrive.Brackets.Programs
import Mathlib.Logic.Function.Basic

/-! The context managers that set something for their body: those of `modules/file_modes.py`,
`watch_reader()` and `watch_writer()` of `modules/io.py`, and `set_event_loop()` of
`modules/event_loop.py`. Descriptors, open files, terminals, loops and callbacks are numbered.
-/

namespace Aiodrive.Settings

open Brackets (Manager)

/-- The two lists of watched descriptors of an event loop. -/
inductive Side where
  | reader
  | writer
deriving DecidableEq, Repr

/-- What descriptors stand for: several can be of one open file, and several of one terminal. -/
structure Files where
  openFile : Nat → Option Nat
  terminal : Nat → Option Nat

/-- What `tty` makes of the attributes of a terminal. -/
structure Tty (ρ : Type*) where
  setraw : ρ → ρ
  setcbreak : ρ → ρ

/-- `os.get_blocking()` by open file, `termios.tcgetattr()` by terminal, the callbacks of each
loop by descriptor, and the running loop.
-/
structure Setting (ρ : Type*) where
  blocking : Nat → Bool
  attributes : Nat → ρ
  callbacks : Side → Nat → Nat → Option Nat
  runningLoop : Option Nat

/-- What a manager or its body raises. -/
inductive Error (ε : Type*) where
  | osError
  | termiosError
  | runtimeError
  | raised (error : ε)
deriving DecidableEq, Repr

variable {ρ ε : Type*}

/-- `os.set_blocking()` -/
def Setting.setBlocking (setting : Setting ρ) (file : Nat) (blocking : Bool) : Setting ρ :=
  { setting with blocking := Function.update setting.blocking file blocking }

/-- `termios.tcsetattr()`, once its `when` has come. -/
def Setting.setAttributes (setting : Setting ρ) (terminal : Nat) (attributes : ρ) : Setting ρ :=
  { setting with attributes := Function.update setting.attributes terminal attributes }

/-- `loop.add_reader()`, `loop.remove_reader()` and the same for writers. -/
def Setting.setCallback (setting : Setting ρ) (side : Side) (loop fd : Nat) (callback : Option Nat)
    : Setting ρ :=
  { setting with
    callbacks :=
      Function.update setting.callbacks side
        (Function.update (setting.callbacks side) loop
          (Function.update (setting.callbacks side loop) fd callback)) }

/-- `set_file_blocking()` -/
def setFileBlocking (files : Files) (fd : Nat) (blocking : Bool)
    : Manager (Setting ρ) (Error ε) where
  enter setting :=
    match files.openFile fd with
    | none => .error .osError
    | some file => .ok (setting.setBlocking file blocking)
  exit entered found :=
    match files.openFile fd with
    | none => (found, some .osError)
    | some file => (found.setBlocking file (entered.blocking file), none)

/-- The three managers that change the attributes of a terminal and set the original ones on
exit.
-/
def savingAttributes (files : Files) (fd : Nat) (change : ρ → ρ)
    : Manager (Setting ρ) (Error ε) where
  enter setting :=
    match files.terminal fd with
    | none => .error .termiosError
    | some terminal => .ok (setting.setAttributes terminal (change (setting.attributes terminal)))
  exit entered found :=
    match files.terminal fd with
    | none => (found, some .termiosError)
    | some terminal => (found.setAttributes terminal (entered.attributes terminal), none)

/-- `set_file_rawmode()` -/
def setFileRawmode (files : Files) (tty : Tty ρ) (fd : Nat) : Manager (Setting ρ) (Error ε) :=
  savingAttributes files fd tty.setraw

/-- `set_file_attribute()` -/
def setFileAttribute (files : Files) (fd : Nat) (attr : ρ) : Manager (Setting ρ) (Error ε) :=
  savingAttributes files fd (fun _ => attr)

/-- `set_file_unbuffered()` -/
def setFileUnbuffered (files : Files) (tty : Tty ρ) (fd : Nat) : Manager (Setting ρ) (Error ε) :=
  savingAttributes files fd tty.setcbreak

/-- `watch_reader()` and `watch_writer()`, which take the callback out on exit and put none back. -/
def watching (files : Files) (side : Side) (fd callback : Nat)
    : Manager (Setting ρ) (Error ε) where
  enter setting :=
    match setting.runningLoop, files.openFile fd with
    | none, _ => .error .runtimeError
    | some _, none => .error .osError
    | some loop, some _ => .ok (setting.setCallback side loop fd (some callback))
  exit entered found :=
    match entered.runningLoop with
    | none => (found, some .runtimeError)
    | some loop => (found.setCallback side loop fd none, none)

/-- `watch_reader()` -/
def watchReader (files : Files) (fd callback : Nat) : Manager (Setting ρ) (Error ε) :=
  watching files .reader fd callback

/-- `watch_writer()` -/
def watchWriter (files : Files) (fd callback : Nat) : Manager (Setting ρ) (Error ε) :=
  watching files .writer fd callback

/-- `set_event_loop()` -/
def setEventLoop (loop : Nat) : Manager (Setting ρ) (Error ε) where
  enter setting := .ok { setting with runningLoop := some loop }
  exit entered found := ({ found with runningLoop := entered.runningLoop }, none)

/-- A use of one of the managers. -/
inductive Context (ρ : Type*) where
  | setFileBlocking (fd : Nat) (blocking : Bool)
  | setFileRawmode (fd : Nat)
  | setFileAttribute (fd : Nat) (attr : ρ)
  | setFileUnbuffered (fd : Nat)
  | watchReader (fd callback : Nat)
  | watchWriter (fd callback : Nat)
  | setEventLoop (loop : Nat)
deriving DecidableEq, Repr

def manager (files : Files) (tty : Tty ρ) : Context ρ → Manager (Setting ρ) (Error ε)
  | .setFileBlocking fd blocking => setFileBlocking files fd blocking
  | .setFileRawmode fd => setFileRawmode files tty fd
  | .setFileAttribute fd attr => setFileAttribute files fd attr
  | .setFileUnbuffered fd => setFileUnbuffered files tty fd
  | .watchReader fd callback => watchReader files fd callback
  | .watchWriter fd callback => watchWriter files fd callback
  | .setEventLoop loop => setEventLoop loop

/-- The descriptor that a context watches. -/
def Context.watched? : Context ρ → Option (Side × Nat)
  | watchReader fd _ => some (.reader, fd)
  | watchWriter fd _ => some (.writer, fd)
  | setFileBlocking _ _ | setFileRawmode _ | setFileAttribute _ _ | setFileUnbuffered _
  | setEventLoop _ => none

/-- The running loop inside a context. -/
def Context.loop (outer : Option Nat) : Context ρ → Option Nat
  | setEventLoop loop => some loop
  | setFileBlocking _ _ | setFileRawmode _ | setFileAttribute _ _ | setFileUnbuffered _
  | watchReader _ _ | watchWriter _ _ => outer

end Aiodrive.Settings
