import Aiodrive.WatchPath.History
import Aiodrive.WatchPath.Watching
import Mathlib.Data.Nat.Find

/-! `watch_path()` follows the deepest ancestor of its target that can be opened, and leaves no
descriptor open but that one, unless `os.open()` raises an error that `try_open()` does not catch.
The prefixes of the target are numbered by their depth; each function that follows them comes to
rest at the same one, or at the same error.
-/

namespace Aiodrive.WatchPath.Watcher

open Transition (Ends)

/-- A file system in which the root can be opened, and with each prefix of the target that can be
opened its parent; paths that can be opened exist.
-/
structure Settled (files : FileSystem) (target : Path) : Prop where
  root : accepts files target [] = true
  parents
    : ∀ path : Path,
        path <+: target
        → accepts files target path = true
        → accepts files target path.parent = true
  existing
    : ∀ path : Path,
        path <+: target → accepts files target path = true → files.existsAt path = true

/-- The longest prefix of the target that can be opened. -/
structure Deepest (files : FileSystem) (target path : Path) : Prop where
  isPrefix : path <+: target
  accepted : accepts files target path = true
  longest
    : ∀ other : Path,
        other <+: target → accepts files target other = true → other.length ≤ path.length

-----------------------------------------------------------------------------------------
-- The depth of the deepest prefix
-----------------------------------------------------------------------------------------

/-- The prefixes of the target that can be opened are those up to a depth. -/
structure Depth (files : FileSystem) (target : Path) (depth : Nat) : Prop where
  bound : depth ≤ target.length
  accepts_iff
    : ∀ other, other ≤ target.length → (accepts files target (target.take other) ↔ other ≤ depth)
  existing : ∀ other, other ≤ depth → files.existsAt (target.take other) = true

theorem parent_take {target : Path} {depth : Nat} (bound : depth < target.length)
    : Path.parent (target.take (depth + 1)) = target.take depth := by
  simp [Path.parent, List.dropLast_eq_take, List.take_take]
  omega

/-- Prefixes of different depths differ. -/
theorem take_ne {target : Path} {depth other : Nat} (bound : depth ≤ target.length)
    (otherBound : other ≤ target.length) (different : depth ≠ other)
    : target.take depth ≠ target.take other := by
  intro same
  have lengths := congrArg List.length same
  rw [List.length_take_of_le bound, List.length_take_of_le otherBound] at lengths
  exact different lengths

/-- With a prefix that can be opened, all shorter ones can, by induction on the difference. -/
theorem Settled.accepts_shorter {files : FileSystem} {target : Path}
    (settled : Settled files target) {depth : Nat} (difference : Nat)
    (bound : depth + difference ≤ target.length)
    (accepted : accepts files target (target.take (depth + difference)) = true)
    : accepts files target (target.take depth) = true := by
  induction difference with
  | zero => exact accepted
  | succ difference ih =>
      apply ih (by omega)
      rw [← parent_take (show depth + difference < target.length by omega)]
      exact settled.parents _ (List.take_prefix _ _) accepted

theorem Settled.exists_depth {files : FileSystem} {target : Path} (settled : Settled files target)
    : ∃ depth, Depth files target depth := by
  let opens (depth : Nat) : Prop := accepts files target (target.take depth) = true
  let depth := Nat.findGreatest opens target.length
  have bound : depth ≤ target.length := Nat.findGreatest_le _
  have accepted : opens depth := Nat.findGreatest_spec (Nat.zero_le _) settled.root
  have shorter (other : Nat) (less : other ≤ depth) : opens other := by
    obtain ⟨difference, same⟩ := Nat.exists_eq_add_of_le less
    exact settled.accepts_shorter difference (same ▸ bound) (same ▸ accepted)
  refine ⟨depth, bound, fun other otherBound => ⟨fun opened => ?_, shorter other⟩, ?_⟩
  · by_contra more
    exact Nat.findGreatest_is_greatest (Nat.lt_of_not_le more) otherBound opened
  · exact fun other less => settled.existing _ (List.take_prefix _ _) (shorter other less)

/-- The prefix at that depth is the deepest one. -/
theorem Depth.deepest {files : FileSystem} {target : Path} {depth : Nat}
    (atDepth : Depth files target depth)
    : Deepest files target (target.take depth) where
  isPrefix := List.take_prefix _ _
  accepted := (atDepth.accepts_iff depth atDepth.bound).mpr (Nat.le_refl _)
  longest := by
    intro other isPrefix accepted
    obtain ⟨rest, rfl⟩ := isPrefix
    rw [List.length_take_of_le atDepth.bound]
    apply (atDepth.accepts_iff other.length (by simp)).mp
    simpa using accepted

-----------------------------------------------------------------------------------------
-- The functions on the prefixes of the target
-----------------------------------------------------------------------------------------

/-- `os.open()` raises an error on the path that `try_open()` does not catch. -/
def Raises (files : FileSystem) (target path : Path) : Prop :=
  ∃ error, files.opens path (path != target) = .error error ∧ error.caught = false

/-- Nothing is raised on the prefixes below a depth that are looked at from a guess on: those down
from the guess, and the next one.
-/
def Quiet (files : FileSystem) (target : Path) (depth guess : Nat) : Prop :=
  ∀ other,
    depth < other
    → other ≤ target.length
    → other ≤ depth + 1 ∨ other ≤ guess
    → ¬Raises files target (target.take other)

section
variable {files : FileSystem} {target : Path} {depth : Nat}

/-- A guess that can be opened adds nothing to look at. -/
theorem quiet_of_le {guess : Nat} (reached : guess ≤ depth)
    : Quiet files target depth guess ↔ Quiet files target depth 0 := by
  refine forall_congr' (fun other => ?_)
  refine forall_congr' (fun below => ?_)
  have same : (other ≤ depth + 1 ∨ other ≤ guess) ↔ (other ≤ depth + 1 ∨ other ≤ 0) := by omega
  rw [same]

/-- A guess that cannot be opened is looked at before the one above it. -/
theorem quiet_succ_iff {guess : Nat} (below : depth < guess + 1) (bound : guess + 1 ≤ target.length)
    : Quiet files target depth (guess + 1)
      ↔ ¬Raises files target (target.take (guess + 1)) ∧ Quiet files target depth guess := by
  constructor
  · intro quiet
    refine ⟨quiet (guess + 1) below bound (.inr (Nat.le_refl _)), fun other less inside looked => ?_⟩
    exact quiet other less inside (looked.imp_right Nat.le_succ_of_le)
  · rintro ⟨here, quiet⟩ other less inside looked
    rcases Nat.eq_or_lt_of_le (show other ≤ guess + 1 by omega) with rfl | before
    · exact here
    · exact quiet other less inside (.inr (by omega))

theorem quiet_zero_iff
    : Quiet files target depth 0
      ↔ (depth < target.length → ¬Raises files target (target.take (depth + 1))) := by
  constructor
  · exact fun quiet bound => quiet (depth + 1) (Nat.lt_succ_self _) bound (.inl (Nat.le_refl _))
  · intro quiet other less bound looked
    obtain rfl : other = depth + 1 := by omega
    exact quiet bound

theorem tryOpen_of_accepts {path : Path} (accepted : accepts files target path = true)
    (watcher : Watcher)
    : watcher.tryOpen files target path
      = .ok (some watcher.ledger.opened, { watcher with ledger := watcher.ledger.openNext }) := by
  unfold accepts at accepted
  unfold tryOpen
  split at accepted
  · rfl
  · contradiction

theorem tryOpen_of_refuses {path : Path} (refused : accepts files target path ≠ true)
    (quiet : ¬Raises files target path) (watcher : Watcher)
    : watcher.tryOpen files target path = .ok (none, watcher) := by
  unfold accepts at refused
  unfold tryOpen
  split at refused <;> rename_i answer
  · contradiction
  · rename_i error
    have caught : error.caught = true := by
      by_contra uncaught
      exact quiet ⟨error, answer, by simpa using uncaught⟩
    simp [caught]

theorem tryOpen_of_raises {path : Path} (raises : Raises files target path)
    : ∃ error,
        ∀ watcher : Watcher,
          watcher.tryOpen files target path = .error (.osError error watcher) := by
  obtain ⟨error, answer, uncaught⟩ := raises
  exact ⟨error, fun watcher => by simp [tryOpen, answer, uncaught]⟩

/-- `update_down()` watches a guess that can be opened. -/
theorem updateDown_of_le (atDepth : Depth files target depth) {current : Nat}
    (reached : current ≤ depth) (fuel : Nat) (watcher : Watcher)
    : updateDown files target (fuel + 1) (target.take current) watcher
      = updateWatch files target fuel watcher.ledger.opened (target.take current)
          { watcher with ledger := watcher.ledger.openNext } := by
  have bound := Nat.le_trans reached atDepth.bound
  conv_lhs => unfold updateDown
  rw [tryOpen_of_accepts ((atDepth.accepts_iff current bound).mpr reached)]

/-- `update_down()` goes on with the parent of a guess that cannot be opened. -/
theorem updateDown_of_lt (atDepth : Depth files target depth) {current : Nat}
    (less : depth < current + 1) (bound : current + 1 ≤ target.length)
    (quiet : ¬Raises files target (target.take (current + 1))) (fuel : Nat) (watcher : Watcher)
    : updateDown files target (fuel + 1) (target.take (current + 1)) watcher
      = updateDown files target fuel (target.take current) watcher := by
  have refused : accepts files target (target.take (current + 1)) ≠ true := fun accepted => by
    have reached := (atDepth.accepts_iff _ bound).mp accepted
    omega
  conv_lhs => unfold updateDown
  rw [tryOpen_of_refuses refused quiet]
  simp only [parent_take (show current < target.length by omega)]

theorem updateDown_of_raises {path : Path} (raises : Raises files target path)
    : ∃ error,
        ∀ fuel watcher,
          updateDown files target (fuel + 1) path watcher = .error (.osError error watcher) := by
  obtain ⟨error, raised⟩ := tryOpen_of_raises raises
  refine ⟨error, fun fuel watcher => ?_⟩
  unfold updateDown
  rw [raised watcher]

/-- `update_up()` opens the next prefix as long as there is one, and closes the one before. -/
theorem updateUp_of_lt (atDepth : Depth files target depth) {current : Nat}
    (less : current < depth) (fuel : Nat) (currentFd : Option Nat) (watcher : Watcher)
    : updateUp files target (fuel + 1) currentFd (target.take current) watcher
      = updateUp files target fuel (some watcher.ledger.opened) (target.take (current + 1))
          { watcher with
            ledger := currentFd.elim watcher.ledger.openNext watcher.ledger.openNext.close } := by
  have bound : current < target.length := Nat.lt_of_lt_of_le less atDepth.bound
  have different : target.take current ≠ target := by
    simpa using take_ne (Nat.le_of_lt bound) (Nat.le_refl _) (Nat.ne_of_lt bound)
  have accepted : accepts files target (target.take (current + 1)) = true :=
    (atDepth.accepts_iff _ bound).mpr less
  have length : (target.take current).length = current := List.length_take_of_le (Nat.le_of_lt bound)
  conv_lhs => unfold updateUp
  simp only [different, if_false, length, List.getElem?_eq_getElem bound,
    List.take_append_getElem bound, tryOpen_of_accepts accepted]
  cases currentFd <;> rfl

/-- The loop of `update_up()` ends at the deepest prefix. -/
theorem updateUp_of_eq (atDepth : Depth files target depth) (quiet : Quiet files target depth 0)
    (fuel : Nat) (currentFd : Option Nat) (watcher : Watcher)
    : updateUp files target (fuel + 1) currentFd (target.take depth) watcher
      = endUp files target fuel currentFd (target.take depth) watcher := by
  conv_lhs => unfold updateUp
  split_ifs with same
  · rfl
  · have bound : depth < target.length := by
      refine Nat.lt_of_le_of_ne atDepth.bound (fun full => same ?_)
      rw [full, List.take_length]
    have refused : accepts files target (target.take (depth + 1)) ≠ true := fun accepted => by
      have more := (atDepth.accepts_iff _ bound).mp accepted
      omega
    have length : (target.take depth).length = depth := List.length_take_of_le atDepth.bound
    simp only [length, List.getElem?_eq_getElem bound, List.take_append_getElem bound,
      tryOpen_of_refuses refused (quiet_zero_iff.mp quiet bound), parent_take bound]

/-- An error of `os.open()` below the deepest prefix leaves the loop of `update_up()`. -/
theorem updateUp_of_raises (atDepth : Depth files target depth)
    (raises : ¬Quiet files target depth 0)
    : ∃ error,
        ∀ fuel currentFd watcher,
          updateUp files target (fuel + 1) currentFd (target.take depth) watcher
          = .error (.osError error watcher) := by
  obtain ⟨bound, raised⟩
      : depth < target.length ∧ Raises files target (target.take (depth + 1)) := by
    simpa only [quiet_zero_iff, not_forall, not_not, exists_prop] using raises
  obtain ⟨error, raised⟩ := tryOpen_of_raises raised
  have different : target.take depth ≠ target := by
    simpa using take_ne atDepth.bound (Nat.le_refl _) (Nat.ne_of_lt bound)
  have length : (target.take depth).length = depth := List.length_take_of_le atDepth.bound
  refine ⟨error, fun fuel currentFd watcher => ?_⟩
  unfold updateUp
  simp only [different, if_false, length, List.getElem?_eq_getElem bound,
    List.take_append_getElem bound, raised watcher]

/-- `update_watch()` of a path that is not the watched one takes the new descriptor in the place
of the one before.
-/
theorem updateWatch_succ (files : FileSystem) (target : Path) {watcher : Watcher} {path : Path}
    {fd : Nat} (elsewhere : ∀ info, watcher.watched = some info → info.path ≠ path)
    (holds : watcher.ledger.Holds (fd :: (watcher.watched.map WatchedInfo.fd).toList))
    : ∃ next : Watcher,
        next.ledger.Holds [fd]
        ∧ next.passed = watcher.passed
        ∧ ∀ fuel,
            updateWatch files target (fuel + 1) fd path watcher
            = register files target fuel fd path next := by
  cases here : watcher.watched with
  | none =>
      refine ⟨watcher, by simpa [here] using holds, rfl, fun fuel => ?_⟩
      simp [updateWatch, here]
  | some info =>
      have different := elsewhere info here
      refine ⟨watcher.close info.fd, ?_, rfl, fun fuel => ?_⟩
      · rw [here] at holds
        exact holds.swap.close
      · simp [updateWatch, here, different]

/-- What comes of following the target: the deepest prefix is watched, with the only descriptor
that is open, and the events have been passed.
-/
structure Arrives (target : Path) (depth : Nat) (watcher : Watcher) (events : List WatchPathEvent)
    (final : Watcher)
    : Prop where
  watched
    : ∃ fd, final.watched = some { fd, path := target.take depth } ∧ final.ledger.Holds [fd]
  passed : final.passed = watcher.passed ++ events

/-- The result of following the target, where nothing is raised on the way or something is. -/
structure Comes (quiet : Prop) (target : Path) (depth : Nat) (watcher : Watcher)
    (events : List WatchPathEvent) (result : Except Failure Watcher)
    : Prop where
  arrives : quiet → ∃ final, result = .ok final ∧ Arrives target depth watcher events final
  fails : ¬quiet → ∃ error left, result = .error (.osError error left)

theorem Comes.of_arrives {quiet : Prop} {watcher final : Watcher} {events : List WatchPathEvent}
    (holds : quiet) (arrives : Arrives target depth watcher events final)
    : Comes quiet target depth watcher events (.ok final) :=
  ⟨fun _ => ⟨final, rfl, arrives⟩, fun raises => absurd holds raises⟩

theorem Comes.of_raises {quiet : Prop} {watcher left : Watcher} {events : List WatchPathEvent}
    (raises : ¬quiet) (error : OSError)
    : Comes quiet target depth watcher events (.error (.osError error left)) :=
  ⟨fun holds => absurd holds raises, fun _ => ⟨error, left, rfl⟩⟩

/-- A watcher that has passed the same events, and a condition that is the same. -/
theorem Comes.congr {quiet own : Prop} {watcher other : Watcher} {events : List WatchPathEvent}
    {result : Except Failure Watcher} (comes : Comes quiet target depth watcher events result)
    (same : quiet ↔ own) (passed : watcher.passed = other.passed)
    : Comes own target depth other events result where
  arrives := by
    intro holds
    obtain ⟨final, ok, arrives⟩ := comes.arrives (same.mpr holds)
    exact ⟨final, ok, arrives.watched, passed ▸ arrives.passed⟩
  fails := fun raises => comes.fails (fun holds => raises (same.mp holds))

/-- The event that is passed when the deepest prefix comes to be watched. -/
def arrival (target : Path) (depth : Nat) : List WatchPathEvent :=
  if depth = target.length then [.create] else []

/-- The watched prefix is the deepest one, and `update_up()` looks at the next. -/
theorem updateUp_rests (atDepth : Depth files target depth) (bound : depth < target.length)
    {watcher : Watcher} {fd : Nat}
    (watched : watcher.watched = some { fd, path := target.take depth })
    (holds : watcher.ledger.Holds [fd])
    : ∃ result,
        Ends (fun fuel => updateUp files target fuel none (target.take depth) watcher) result
        ∧ Comes (Quiet files target depth 0) target depth watcher (arrival target depth)
            result := by
  by_cases quiet : Quiet files target depth 0
  · have ended : Ends (fun fuel => endUp files target fuel none (target.take depth) watcher)
        (.ok watcher) :=
      (Transition.ends_const _).of_succ (fun fuel => by simp [endUp])
    refine ⟨.ok watcher, ended.of_succ (fun fuel => updateUp_of_eq atDepth quiet fuel none watcher),
      .of_arrives quiet ⟨⟨fd, watched, holds⟩, ?_⟩⟩
    simp [arrival, Nat.ne_of_lt bound]
  · obtain ⟨error, raised⟩ := updateUp_of_raises atDepth quiet
    exact ⟨_, (Transition.ends_const _).of_succ (fun fuel => raised fuel none watcher),
      .of_raises quiet error⟩

/-- The deepest prefix comes to be watched. -/
theorem register_deepest (atDepth : Depth files target depth) {watcher : Watcher} {fd : Nat}
    (holds : watcher.ledger.Holds [fd])
    : ∃ result,
        Ends (fun fuel => register files target fuel fd (target.take depth) watcher) result
        ∧ Comes (Quiet files target depth 0) target depth watcher (arrival target depth)
            result := by
  let next : Watcher := { watcher with watched := some { fd, path := target.take depth } }
  have existing := atDepth.existing depth (Nat.le_refl _)
  by_cases full : depth = target.length
  · have quiet : Quiet files target depth 0 := quiet_zero_iff.mpr (fun bound => by omega)
    refine ⟨.ok (next.pass .create), ?_,
      .of_arrives quiet ⟨⟨fd, rfl, holds⟩, by simp [arrival, full, next, pass]⟩⟩
    refine (Transition.ends_const _).of_succ (fun fuel => ?_)
    have whole : target.take depth = target := by rw [full, List.take_length]
    rw [whole] at existing
    simp [register, existing, whole, next]
  · have bound : depth < target.length := Nat.lt_of_le_of_ne atDepth.bound full
    have different : target.take depth ≠ target := by
      simpa using take_ne atDepth.bound (Nat.le_refl _) full
    have watched : next.watched = some { fd, path := target.take depth } := rfl
    obtain ⟨result, ends, comes⟩ := updateUp_rests atDepth bound watched holds
    refine ⟨result, ends.of_succ (fun fuel => ?_), comes.congr Iff.rfl rfl⟩
    simp [register, existing, different, next]

/-- `update_up()` has come to the deepest prefix and watches it in the place of the one before. -/
theorem updateUp_replaces (atDepth : Depth files target depth) {watcher : Watcher} {fd : Nat}
    {watched : WatchedInfo} {start : Nat} (here : watcher.watched = some watched)
    (path : watched.path = target.take start) (holds : watcher.ledger.Holds [fd, watched.fd])
    (above : start < depth)
    : ∃ result,
        Ends (fun fuel => updateUp files target fuel (some fd) (target.take depth) watcher) result
        ∧ Comes (Quiet files target depth 0) target depth watcher (arrival target depth)
            result := by
  by_cases quiet : Quiet files target depth 0
  · have elsewhere (info : WatchedInfo) (same : watcher.watched = some info)
        : info.path ≠ target.take depth := by
      obtain rfl := Option.some.inj (here.symm.trans same)
      rw [path]
      exact take_ne (Nat.le_trans (Nat.le_of_lt above) atDepth.bound) atDepth.bound
        (Nat.ne_of_lt above)
    obtain ⟨next, sole, passed, taken⟩ :=
      updateWatch_succ files target elsewhere (by simpa [here] using holds)
    obtain ⟨result, ends, comes⟩ := register_deepest atDepth sole
    have watches
        : Ends (fun fuel => updateWatch files target fuel fd (target.take depth) watcher)
            result :=
      ends.of_succ taken
    have ended
        : Ends (fun fuel => endUp files target fuel (some fd) (target.take depth) watcher)
            result :=
      watches.of_succ (fun fuel => by simp [endUp])
    exact ⟨result,
      ended.of_succ (fun fuel => updateUp_of_eq atDepth quiet fuel (some fd) watcher),
      comes.congr Iff.rfl passed⟩
  · obtain ⟨error, raised⟩ := updateUp_of_raises atDepth quiet
    exact ⟨_, (Transition.ends_const _).of_succ (fun fuel => raised fuel _ watcher),
      .of_raises quiet error⟩

/-- `update_up()` goes up to the deepest prefix, by induction on what is left. It is given the
descriptor of the prefix that it has come to, unless that is the watched one.
-/
theorem updateUp_comes (atDepth : Depth files target depth) {left current : Nat}
    (distance : current + left = depth) {currentFd : Option Nat} {watcher : Watcher}
    {watched : WatchedInfo} {start : Nat} (here : watcher.watched = some watched)
    (path : watched.path = target.take start)
    (holds : watcher.ledger.Holds (currentFd.toList ++ [watched.fd]))
    (above : match currentFd with
      | some _ => start < current
      | none => start = current ∧ current < target.length)
    : ∃ result,
        Ends (fun fuel => updateUp files target fuel currentFd (target.take current) watcher)
          result
        ∧ Comes (Quiet files target depth 0) target depth watcher (arrival target depth)
            result := by
  induction left generalizing current currentFd watcher with
  | zero =>
      obtain rfl : current = depth := distance
      cases currentFd with
      | none =>
          obtain ⟨rfl, bound⟩ := above
          obtain ⟨fd, own⟩ := watched
          obtain rfl : own = target.take start := path
          exact updateUp_rests atDepth bound here holds
      | some fd => exact updateUp_replaces atDepth here path holds above
  | succ left ih =>
      have less : current < depth := by omega
      let ledger := currentFd.elim watcher.ledger.openNext watcher.ledger.openNext.close
      have opens : ledger.Holds ((some watcher.ledger.opened).toList ++ [watched.fd]) := by
        cases currentFd with
        | none => exact holds.openNext
        | some fd => exact holds.openNext.swap.close
      have higher : start < current + 1 := by
        cases currentFd with
        | none => exact Nat.lt_succ_of_le (Nat.le_of_eq above.1)
        | some fd => exact Nat.lt_succ_of_lt above
      have distance : current + 1 + left = depth := by omega
      have next : { watcher with ledger }.watched = some watched := here
      obtain ⟨result, ends, comes⟩ := ih distance next opens higher
      exact ⟨result, ends.of_succ (fun fuel => updateUp_of_lt atDepth less fuel currentFd watcher),
        comes.congr Iff.rfl rfl⟩

/-- A prefix that can be opened comes to be watched, and the deepest one after it. -/
theorem register_comes (atDepth : Depth files target depth) {watcher : Watcher} {fd current : Nat}
    (reached : current ≤ depth) (holds : watcher.ledger.Holds [fd])
    : ∃ result,
        Ends (fun fuel => register files target fuel fd (target.take current) watcher) result
        ∧ Comes (Quiet files target depth 0) target depth watcher (arrival target depth)
            result := by
  rcases Nat.eq_or_lt_of_le reached with rfl | less
  · exact register_deepest atDepth holds
  · let next : Watcher := { watcher with watched := some { fd, path := target.take current } }
    have bound : current < target.length := Nat.lt_of_lt_of_le less atDepth.bound
    have different : target.take current ≠ target := by
      simpa using take_ne (Nat.le_of_lt bound) (Nat.le_refl _) (Nat.ne_of_lt bound)
    have here : next.watched = some { fd, path := target.take current } := rfl
    have sole : next.ledger.Holds ((none : Option Nat).toList ++ [fd]) := holds
    obtain ⟨result, ends, comes⟩ :=
      updateUp_comes atDepth (Nat.add_sub_of_le reached) here rfl sole ⟨rfl, bound⟩
    refine ⟨result, ends.of_succ (fun fuel => ?_), comes.congr Iff.rfl rfl⟩
    simp [register, atDepth.existing current reached, different, next]

/-- `update_down()` comes to the deepest prefix, by induction on the guess, where no prefix up
to the guess is the watched path.
-/
theorem updateDown_comes (atDepth : Depth files target depth) {current : Nat} {watcher : Watcher}
    (bound : current ≤ target.length)
    (elsewhere
      : ∀ other,
          other ≤ current
          → ∀ info, watcher.watched = some info → info.path ≠ target.take other)
    (holds : watcher.ledger.Holds (watcher.watched.map WatchedInfo.fd).toList)
    : ∃ result,
        Ends (fun fuel => updateDown files target fuel (target.take current) watcher) result
        ∧ Comes (Quiet files target depth current) target depth watcher (arrival target depth)
            result := by
  have opens (guess : Nat) (reached : guess ≤ depth) (inGuess : guess ≤ current)
      : ∃ result,
          Ends (fun fuel => updateDown files target fuel (target.take guess) watcher) result
          ∧ Comes (Quiet files target depth guess) target depth watcher (arrival target depth)
              result := by
    let opened : Watcher := { watcher with ledger := watcher.ledger.openNext }
    have held : opened.ledger.Holds
        (watcher.ledger.opened :: (opened.watched.map WatchedInfo.fd).toList) :=
      holds.openNext
    have other (info : WatchedInfo) (here : opened.watched = some info)
        : info.path ≠ target.take guess :=
      elsewhere guess inGuess info here
    obtain ⟨next, sole, passed, taken⟩ := updateWatch_succ files target other held
    obtain ⟨result, ends, comes⟩ := register_comes atDepth reached sole
    have watches : Ends
        (fun fuel =>
          updateWatch files target fuel watcher.ledger.opened (target.take guess) opened)
        result :=
      ends.of_succ taken
    exact ⟨result, watches.of_succ (fun fuel => updateDown_of_le atDepth reached fuel watcher),
      comes.congr (quiet_of_le reached).symm passed⟩
  clear holds
  induction current with
  | zero => exact opens 0 (Nat.zero_le _) (Nat.le_refl _)
  | succ current ih =>
      by_cases reached : current + 1 ≤ depth
      · exact opens _ reached (Nat.le_refl _)
      · have less : depth < current + 1 := Nat.lt_of_not_le reached
        have looks : Quiet files target depth (current + 1)
            ↔ ¬Raises files target (target.take (current + 1)) ∧ Quiet files target depth current :=
          quiet_succ_iff less bound
        by_cases raises : Raises files target (target.take (current + 1))
        · obtain ⟨error, raised⟩ := updateDown_of_raises raises
          exact ⟨_, (Transition.ends_const _).of_succ (fun fuel => raised fuel watcher),
            .of_raises (fun quiet => (looks.mp quiet).1 raises) error⟩
        · obtain ⟨result, ends, comes⟩ := ih (Nat.le_of_succ_le bound)
            (fun other less => elsewhere other (Nat.le_succ_of_le less))
            (fun guess reached less => opens guess reached (Nat.le_succ_of_le less))
          refine ⟨result, ends.of_succ (fun fuel => ?_), comes.congr ?_ rfl⟩
          · exact updateDown_of_lt atDepth less bound raises fuel watcher
          · rw [looks, and_iff_right raises]

end

-----------------------------------------------------------------------------------------
-- What is handled
-----------------------------------------------------------------------------------------

/-- A watcher that watches a prefix of its target, with the only descriptor that is open, or
that has not started.
-/
structure Accounted (target : Path) (watcher : Watcher) : Prop where
  isPrefix : ∀ info, watcher.watched = some info → info.path <+: target
  holds : watcher.ledger.Holds (watcher.watched.map WatchedInfo.fd).toList

/-- The start; a kernel event that the watched path, not the root, has been deleted or renamed;
and one that it has been written to where it can still be opened.
-/
inductive Covered (files : FileSystem) (target : Path) (watcher : Watcher) : Occasion → Prop where
  | starts (unwatched : watcher.watched = none) : Covered files target watcher .start
  | deleted {fflags : Fflags} {info : WatchedInfo} (watched : watcher.watched = some info)
    (flagged : (fflags.delete || fflags.rename) = true) (below : info.path ≠ [])
    : Covered files target watcher (.kevent fflags)
  | written {fflags : Fflags} {info : WatchedInfo} (watched : watcher.watched = some info)
    (unflagged : (fflags.delete || fflags.rename) = false) (flagged : fflags.write = true)
    (accepted : accepts files target info.path = true)
    : Covered files target watcher (.kevent fflags)

theorem accounted_initial (target : Path) : Accounted target .initial :=
  ⟨nofun, Resources.Ledger.holds_new⟩

/-- An empty list of events, or one that a kernel event makes. -/
def Passes (events : List WatchPathEvent) : Prop := events = [] ∨ events ∈ kernelEvents

theorem passes_arrival (target : Path) (depth : Nat) : Passes (arrival target depth) := by
  unfold arrival
  split
  · exact .inr (by decide)
  · exact .inl rfl

/-- Where the handling begins to look for the deepest prefix. -/
def begins (target : Path) (watcher : Watcher) : Occasion → Path
  | .start => target
  | .kevent fflags =>
      match watcher.watched with
      | none => []
      | some info => if fflags.delete || fflags.rename then info.path.parent else info.path

/-- What is handled brings the watch to the deepest prefix, and passes what one kernel event
passes, unless an error is raised on the way.
-/
def Handles (files : FileSystem) (target : Path) (depth : Nat) (watcher : Watcher)
    (occasion : Occasion)
    : Prop :=
  ∃ result events,
    Ends (fun fuel => handle files target fuel watcher occasion) result
    ∧ Comes (Quiet files target depth (begins target watcher occasion).length) target depth watcher
        events result
    ∧ Passes events

section

variable {files : FileSystem} {target : Path} {depth : Nat} {watcher : Watcher}

/-- The start looks for the deepest prefix from the target on. -/
theorem handles_start (atDepth : Depth files target depth) (accounted : Accounted target watcher)
    (unwatched : watcher.watched = none)
    : Handles files target depth watcher .start := by
  obtain ⟨result, ends, comes⟩ := updateDown_comes atDepth (Nat.le_refl _)
    (fun _ _ info watched => by simp [unwatched] at watched) accounted.holds
  rw [List.take_length] at ends
  exact ⟨result, _, ends, comes, passes_arrival target depth⟩

/-- A watched path is a prefix of the target. -/
theorem Accounted.exists_take (accounted : Accounted target watcher) {info : WatchedInfo}
    (watched : watcher.watched = some info)
    : ∃ start, start ≤ target.length ∧ info.path = target.take start := by
  have isPrefix := accounted.isPrefix info watched
  exact ⟨info.path.length, isPrefix.length_le, List.prefix_iff_eq_take.mp isPrefix⟩

/-- The deletion of a path below the root is passed on if it is the target's, and leads to the
deepest prefix above it.
-/
theorem handles_deleted (atDepth : Depth files target depth)
    (accounted : Accounted target watcher) {fflags : Fflags} {info : WatchedInfo}
    (watched : watcher.watched = some info) (flagged : (fflags.delete || fflags.rename) = true)
    (below : info.path ≠ [])
    : Handles files target depth watcher (.kevent fflags) := by
  obtain ⟨start, bound, path⟩ := accounted.exists_take watched
  obtain ⟨before, rfl⟩ : ∃ before, start = before + 1 := by
    refine Nat.exists_eq_succ_of_ne_zero (fun root => below ?_)
    simp [path, root]
  let told := if info.path != target then watcher else watcher.pass .delete
  have same : told.watched = watcher.watched ∧ told.ledger = watcher.ledger := by
    unfold told
    split <;> exact ⟨rfl, rfl⟩
  have elsewhere (other : Nat) (less : other ≤ before) (own : WatchedInfo)
      (here : told.watched = some own)
      : own.path ≠ target.take other := by
    obtain rfl := Option.some.inj (watched.symm.trans (same.1.symm.trans here))
    rw [path]
    exact take_ne bound (by omega) (by omega)
  obtain ⟨result, ends, comes⟩ := updateDown_comes atDepth (by omega) elsewhere
    (by rw [same.1, same.2]; exact accounted.holds)
  have parent : info.path.parent = target.take before := by rw [path, parent_take bound]
  have handled : Ends (fun fuel => handle files target fuel watcher (.kevent fflags)) result := by
    rw [← parent] at ends
    simpa only [handle, internalCallback, watched, flagged, if_true] using ends
  have begin : (begins target watcher (.kevent fflags)).length = before := by
    simp only [begins, watched, flagged, if_true, parent]
    exact List.length_take_of_le (by omega)
  by_cases atTarget : info.path = target
  · have full : told = watcher.pass .delete := by simp [told, atTarget]
    refine ⟨result, .delete :: arrival target depth, handled, ⟨fun quiet => ?_, ?_⟩, .inr ?_⟩
    · obtain ⟨final, ok, arrives⟩ := comes.arrives (begin ▸ quiet)
      have passed := arrives.passed
      rw [full] at passed
      exact ⟨final, ok, arrives.watched, by simpa [pass] using passed⟩
    · exact fun raises => comes.fails (begin ▸ raises)
    · unfold arrival
      split <;> decide
  · have other : told = watcher := by simp [told, atTarget]
    exact ⟨result, _, handled, comes.congr (by rw [begin]) (by rw [other]),
      passes_arrival target depth⟩

/-- A write to the target is passed on, and one to a path above it leads further down. -/
theorem handles_written (atDepth : Depth files target depth)
    (accounted : Accounted target watcher) {fflags : Fflags} {info : WatchedInfo}
    (watched : watcher.watched = some info)
    (unflagged : (fflags.delete || fflags.rename) = false) (flagged : fflags.write = true)
    (accepted : accepts files target info.path = true)
    : Handles files target depth watcher (.kevent fflags) := by
  obtain ⟨start, bound, path⟩ := accounted.exists_take watched
  have reached : start ≤ depth := (atDepth.accepts_iff start bound).mp (path ▸ accepted)
  have begin : (begins target watcher (.kevent fflags)).length = start := by
    simp only [begins, watched, unflagged, Bool.false_eq_true, if_false, path]
    exact List.length_take_of_le bound
  by_cases atTarget : info.path = target
  · have full : start = target.length := by
      have lengths := congrArg List.length (path.symm.trans atTarget)
      rwa [List.length_take_of_le bound] at lengths
    have deepest : depth = target.length := Nat.le_antisymm atDepth.bound (full ▸ reached)
    have quiet : Quiet files target depth (begins target watcher (.kevent fflags)).length :=
      fun other less inside => by omega
    refine ⟨.ok (watcher.pass .write), [.write], ⟨0, fun fuel _ => ?_⟩,
      .of_arrives quiet ⟨⟨info.fd, ?_, ?_⟩, rfl⟩, .inr (by decide)⟩
    · simp [handle, internalCallback, watched, unflagged, flagged, atTarget]
    · simp only [pass, watched, deepest, List.take_length, ← atTarget]
    · simpa [pass, watched] using accounted.holds
  · have less : start < target.length := by
      refine Nat.lt_of_le_of_ne bound (fun full => atTarget ?_)
      rw [path, full, List.take_length]
    have sole : watcher.ledger.Holds ((none : Option Nat).toList ++ [info.fd]) := by
      simpa [watched] using accounted.holds
    obtain ⟨result, ends, comes⟩ :=
      updateUp_comes atDepth (Nat.add_sub_of_le reached) watched path sole ⟨rfl, less⟩
    have handled : Ends (fun fuel => handle files target fuel watcher (.kevent fflags))
        result := by
      rw [← path] at ends
      simpa [handle, internalCallback, watched, unflagged, flagged, atTarget] using ends
    refine ⟨result, _, handled, comes.congr ?_ rfl, passes_arrival target depth⟩
    rw [begin, quiet_of_le reached]

/-- What is covered is handled, by cases on the occasion. -/
theorem handle_comes {occasion : Occasion} (atDepth : Depth files target depth)
    (accounted : Accounted target watcher) (covered : Covered files target watcher occasion)
    : Handles files target depth watcher occasion := by
  cases covered with
  | starts unwatched => exact handles_start atDepth accounted unwatched
  | deleted watched flagged below => exact handles_deleted atDepth accounted watched flagged below
  | written watched unflagged flagged accepted =>
      exact handles_written atDepth accounted watched unflagged flagged accepted

end

-----------------------------------------------------------------------------------------
-- Which file systems can be followed
-----------------------------------------------------------------------------------------

/-- The handling ends with the deepest prefix of the target watched, its descriptor open, and every
other descriptor that was ever opened closed exactly once.
-/
def Follows (files : FileSystem) (target : Path) (watcher : Watcher) (occasion : Occasion) : Prop :=
  ∃ (final : Watcher) (info : WatchedInfo),
    Ends (fun fuel => handle files target fuel watcher occasion) (.ok final)
    ∧ final.watched = some info
    ∧ Deepest files target info.path
    ∧ (info.fd < final.ledger.opened ∧ info.fd ∉ final.ledger.closed)
    ∧ ∀ other,
        other < final.ledger.opened
        → other ≠ info.fd
        → final.ledger.closed.count other = 1

/-- The prefixes that the handling looks at in vain: the next one below the deepest that can be
opened, and those down to it from where the handling begins.
-/
def Tried (files : FileSystem) (target : Path) (watcher : Watcher) (occasion : Occasion)
    (path : Path)
    : Prop :=
  path <+: target
  ∧ ∃ deepest,
      Deepest files target deepest
      ∧ deepest.length < path.length
      ∧ (path.length ≤ deepest.length + 1
        ∨ path.length ≤ (begins target watcher occasion).length)

section

variable {files : FileSystem} {target : Path} {depth : Nat} {watcher : Watcher}
  {occasion : Occasion}

theorem Depth.length_eq (atDepth : Depth files target depth) {path : Path}
    (deepest : Deepest files target path)
    : path.length = depth := by
  have accepted := deepest.accepted
  rw [List.prefix_iff_eq_take.mp deepest.isPrefix] at accepted
  have reached := (atDepth.accepts_iff _ deepest.isPrefix.length_le).mp accepted
  have longest := deepest.longest _ atDepth.deepest.isPrefix atDepth.deepest.accepted
  rw [List.length_take_of_le atDepth.bound] at longest
  exact Nat.le_antisymm reached longest

/-- The prefixes tried are those that are looked at below the depth. -/
theorem Depth.quiet_iff (atDepth : Depth files target depth)
    : Quiet files target depth (begins target watcher occasion).length
      ↔ ∀ path, Tried files target watcher occasion path → ¬Raises files target path := by
  constructor
  · rintro quiet path ⟨isPrefix, deepest, isDeepest, below, looked⟩
    rw [atDepth.length_eq isDeepest] at below looked
    rw [List.prefix_iff_eq_take.mp isPrefix]
    exact quiet path.length below isPrefix.length_le looked
  · intro none other below bound looked
    refine none _ ⟨List.take_prefix _ _, _, atDepth.deepest, ?_⟩
    rw [List.length_take_of_le atDepth.bound, List.length_take_of_le bound]
    exact ⟨below, looked⟩

/-- However the watch stands, it follows its target exactly if `os.open()` raises no error that
`try_open()` lets through on a prefix that the handling tries. The proof gives the result of the
handling, by induction on the prefixes.
-/
theorem follows_deepest_iff (settled : Settled files target) (accounted : Accounted target watcher)
    (covered : Covered files target watcher occasion)
    : Follows files target watcher occasion
      ↔ ∀ path, Tried files target watcher occasion path → ¬Raises files target path := by
  obtain ⟨depth, atDepth⟩ := settled.exists_depth
  obtain ⟨result, _, ends, comes, _⟩ := handle_comes atDepth accounted covered
  rw [← atDepth.quiet_iff]
  constructor
  · rintro ⟨final, _, returns, _⟩
    by_contra raises
    obtain ⟨error, left, rfl⟩ := comes.fails raises
    cases ends.unique returns
  · intro quiet
    obtain ⟨final, rfl, arrives⟩ := comes.arrives quiet
    obtain ⟨fd, watched, sole⟩ := arrives.watched
    obtain ⟨unclosed, once⟩ := sole.single
    exact ⟨final, _, ends, watched, atDepth.deepest, unclosed, once⟩

/-- What is handled without an error leaves the watch as the next event needs it. -/
theorem accounted_handle {final : Watcher} (settled : Settled files target)
    (accounted : Accounted target watcher) (covered : Covered files target watcher occasion)
    (returns : Ends (fun fuel => handle files target fuel watcher occasion) (.ok final))
    : Accounted target final := by
  obtain ⟨depth, atDepth⟩ := settled.exists_depth
  obtain ⟨result, _, ends, comes, _⟩ := handle_comes atDepth accounted covered
  obtain rfl := ends.unique returns
  by_cases quiet : Quiet files target depth (begins target watcher occasion).length
  · obtain ⟨other, same, arrives⟩ := comes.arrives quiet
    obtain rfl := Except.ok.inj same
    obtain ⟨fd, watched, sole⟩ := arrives.watched
    refine ⟨fun info here => ?_, by simpa [watched] using sole⟩
    obtain rfl := Option.some.inj (watched.symm.trans here)
    exact List.take_prefix _ _
  · obtain ⟨_, _, same⟩ := comes.fails quiet
    cases same

end

/-- A file system in which every path can be opened but the target, where an error is raised. -/
def targetFails (target : Path) (error : OSError) : FileSystem where
  opens path _ := if path = target then .error error else .ok ()
  existsAt _ := true

theorem settled_targetFails {target : Path} (below : target ≠ []) (error : OSError)
    : Settled (targetFails target error) target where
  root := by simp [accepts, targetFails, Ne.symm below]
  parents := by
    intro path isPrefix _
    have other : Path.parent path ≠ target := fun same => by
      have lengths := congrArg List.length same
      have short := isPrefix.length_le
      have long := List.length_pos_iff.mpr below
      simp only [Path.parent, List.length_dropLast] at lengths
      omega
    simp [accepts, targetFails, other]
  existing := fun _ _ _ => rfl

theorem not_raises_targetFails {target : Path} {error : OSError} (caught : error.caught = true)
    (path : Path)
    : ¬Raises (targetFails target error) target path := by
  rintro ⟨raised, answer, uncaught⟩
  simp only [targetFails] at answer
  split_ifs at answer
  obtain rfl := Except.error.inj answer
  simp [caught] at uncaught

/-- The start, where the target is missing in a directory that exists. -/
theorem follows_deepest_iff_missing
    : let target := ["var", "log"]
      let files := targetFails target .fileNotFoundError
      Follows files target .initial .start
      ∧ ∀ path, Tried files target .initial .start path → ¬Raises files target path := by
  intro target files
  have quiet (path : Path) : ¬Raises files target path := not_raises_targetFails rfl path
  have settled : Settled files target := settled_targetFails (List.cons_ne_nil _ _) _
  have follows := follows_deepest_iff settled (accounted_initial target) (.starts rfl)
  exact ⟨follows.mpr (fun path _ => quiet path), fun path _ => quiet path⟩

/-- A target that must not be read comes to be below a watched root, through a directory that can
be opened: the error leaves the handling, and the descriptor of that directory is left open.
-/
theorem follows_deepest_fails
    : let target := ["home", "secret"]
      let files := targetFails target .permissionError
      let watcher : Watcher :=
        { watched := some { fd := 0, path := [] }, ledger := { opened := 1, closed := [] },
          passed := [] }
      let written := Occasion.kevent { delete := false, rename := false, write := true }
      Settled files target
      ∧ Accounted target watcher
      ∧ Covered files target watcher written
      ∧ ¬Follows files target watcher written
      ∧ Ends (fun fuel => handle files target fuel watcher written)
          (.error (.osError .permissionError
            { watcher with ledger := { opened := 2, closed := [] } })) := by
  intro target files watcher written
  have raised : Ends (fun fuel => handle files target fuel watcher written)
      (.error (.osError .permissionError
        { watcher with ledger := { opened := 2, closed := [] } })) := by
    refine ⟨2, fun fuel enough => ?_⟩
    obtain ⟨more, rfl⟩ := Nat.exists_eq_add_of_le' enough
    rfl
  refine ⟨settled_targetFails (List.cons_ne_nil _ _) _, ⟨?_, .refl _⟩, .written rfl rfl rfl rfl, ?_,
    raised⟩
  · intro info watched
    obtain rfl := Option.some.inj watched
    exact List.nil_prefix
  · rintro ⟨final, _, returns, _⟩
    cases raised.unique returns

end Aiodrive.WatchPath.Watcher
