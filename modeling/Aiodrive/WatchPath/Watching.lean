import Aiodrive.Resources.Ledger
import Aiodrive.Transition.Fuel
import Aiodrive.WatchPath.Reports

/-! Which path `watch_path()` of `modules/watch.py` watches: the functions that follow the
target up and down its ancestors, with the descriptors that they open and close, on a file
system that does not change meanwhile.
-/

namespace Aiodrive.WatchPath

open Resources (Ledger)

/-- An absolute path, by its parts after the root. -/
abbrev Path := List String

/-- `path.parent`, which is the root for the root itself. -/
def Path.parent (path : Path) : Path := path.dropLast

/-- An error of `os.open()`; those without a class of their own have their `errno`. -/
inductive OSError where
  | fileNotFoundError
  | isADirectoryError
  | notADirectoryError
  | permissionError
  | osError (errno : Nat)
deriving DecidableEq, Repr

/-- `except (FileNotFoundError, IsADirectoryError, NotADirectoryError)` -/
def OSError.caught : OSError → Bool
  | fileNotFoundError | isADirectoryError | notADirectoryError => true
  | permissionError | osError _ => false

/-- What is asked of the file system: `os.open()`, with `O_DIRECTORY` or not, and
`path.exists()`.
-/
structure FileSystem where
  opens : Path → Bool → Except OSError Unit
  existsAt : Path → Bool

/-- `WatchedInfo` -/
structure WatchedInfo where
  fd : Nat
  path : Path
deriving DecidableEq, Repr

/-- The variables of `watch_path()`: what it watches, its descriptors, and the events that it
has passed to `eager_callback()`.
-/
structure Watcher where
  watched : Option WatchedInfo
  ledger : Ledger
  passed : List WatchPathEvent
deriving DecidableEq, Repr

/-- How a handling fails: out of fuel, by an `IndexError` of `target_path.parts`, by the `assert` of
`internal_callback()`, or by an error of `os.open()`, which leaves the variables as they are.
-/
inductive Failure where
  | outOfFuel
  | indexError
  | assertionError
  | osError (error : OSError) (left : Watcher)
deriving DecidableEq, Repr

/-- The `fflags` of a `kevent`. -/
structure Fflags where
  delete : Bool
  rename : Bool
  write : Bool
deriving DecidableEq, Repr

namespace Watcher

def initial : Watcher := { watched := none, ledger := .new, passed := [] }

/-- `eager_callback(event)` -/
def pass (watcher : Watcher) (event : WatchPathEvent) : Watcher :=
  { watcher with passed := watcher.passed ++ [event] }

/-- `os.close(fd)` -/
def close (watcher : Watcher) (fd : Nat) : Watcher :=
  { watcher with ledger := watcher.ledger.close fd }

section
variable (files : FileSystem) (target : Path)

/-- Whether `try_open(path)` gives a descriptor. -/
def accepts (path : Path) : Bool :=
  match files.opens path (path != target) with
  | .ok () => true
  | .error _ => false

/-- `try_open(path)` -/
def tryOpen (watcher : Watcher) (path : Path) : Except Failure (Option Nat × Watcher) :=
  match files.opens path (path != target) with
  | .ok () => .ok (some watcher.ledger.opened, { watcher with ledger := watcher.ledger.openNext })
  | .error error => if error.caught then .ok (none, watcher) else .error (.osError error watcher)

mutual

/-- `update_down(path)`, from the test of its loop on. -/
def updateDown : Nat → Path → Watcher → Except Failure Watcher
  | 0, _, _ => .error .outOfFuel
  | fuel + 1, path, watcher =>
      match watcher.tryOpen files target path with
      | .ok (some fd, watcher) => updateWatch fuel fd path watcher
      | .ok (none, watcher) => updateDown fuel path.parent watcher
      | .error failure => .error failure

/-- `update_up(path)`, from the test of its loop on, with `current_fd`. -/
def updateUp : Nat → Option Nat → Path → Watcher → Except Failure Watcher
  | 0, _, _, _ => .error .outOfFuel
  | fuel + 1, currentFd, path, watcher =>
      if path = target then endUp fuel currentFd path watcher
      else
        match target[path.length]? with
        | none => .error .indexError
        | some part =>
            let child := path ++ [part]
            match watcher.tryOpen files target child with
            | .ok (none, watcher) => endUp fuel currentFd (Path.parent child) watcher
            | .ok (some fd, watcher) =>
                let watcher :=
                  match currentFd with
                  | some earlier => watcher.close earlier
                  | none => watcher
                updateUp fuel (some fd) child watcher
            | .error failure => .error failure

/-- The end of `update_up()`, after its loop. -/
def endUp : Nat → Option Nat → Path → Watcher → Except Failure Watcher
  | 0, _, _, _ => .error .outOfFuel
  | fuel + 1, currentFd, path, watcher =>
      match currentFd with
      | some fd => updateWatch fuel fd path watcher
      | none => .ok watcher

/-- `update_watch(fd, path)` -/
def updateWatch : Nat → Nat → Path → Watcher → Except Failure Watcher
  | 0, _, _, _ => .error .outOfFuel
  | fuel + 1, fd, path, watcher =>
      match watcher.watched with
      | some info =>
          -- The new descriptor is not closed where the path is the watched one
          if info.path = path then .ok watcher else register fuel fd path (watcher.close info.fd)
      | none => register fuel fd path watcher

/-- `update_watch(fd, path)`, from the assignment to `watched` on. -/
def register : Nat → Nat → Path → Watcher → Except Failure Watcher
  | 0, _, _, _ => .error .outOfFuel
  | fuel + 1, fd, path, watcher =>
      let watcher := { watcher with watched := some { fd, path } }
      if files.existsAt path then
        if path = target then .ok (watcher.pass .create) else updateUp fuel none path watcher
      else
        updateDown fuel path.parent watcher

end

/-- `internal_callback(event)` -/
def internalCallback (fuel : Nat) (fflags : Fflags) (watcher : Watcher)
    : Except Failure Watcher :=
  match watcher.watched with
  | none => .error .assertionError
  | some watched =>
      let watchingAncestor := watched.path != target
      if fflags.delete || fflags.rename then
        let watcher := if watchingAncestor then watcher else watcher.pass .delete
        updateDown files target fuel watched.path.parent watcher
      else if fflags.write then
        if watchingAncestor then updateUp files target fuel none watched.path watcher
        else .ok (watcher.pass .write)
      else
        .ok watcher

/-- What is handled: the start of `watch_path()`, or a kernel event. -/
inductive Occasion where
  | start
  | kevent (fflags : Fflags)
deriving DecidableEq, Repr

def handle (fuel : Nat) (watcher : Watcher) : Occasion → Except Failure Watcher
  | .start => updateDown files target fuel target watcher
  | .kevent fflags => internalCallback files target fuel fflags watcher

end

end Watcher

end Aiodrive.WatchPath
