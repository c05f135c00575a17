import Aiodrive.Dict.Entries

/-! A table of waiters from which one compatible waiter at a time becomes an owner. Owners stay in
the table, and a scan of it that finds one of them grants it again. The results say what one grant
keeps, and after which tables it leaves nothing to grant.
-/

/-- The owners, all that wait or own, and the keys of the grants so far. -/
structure GrantTable (κ ω : Type*) where
  owners : Dict κ ω
  waiters : Dict κ ω
  granted : List κ

namespace GrantTable

variable {κ ω : Type*} {blocks : ω → ω → Bool} {table : GrantTable κ ω}

/-- No owner blocks the waiter. -/
def Free (blocks : ω → ω → Bool) (table : GrantTable κ ω) (waiter : ω) : Prop :=
  ∀ owner ∈ table.owners.entries, blocks waiter owner.2 = false

/-- The first entry of the table that no owner blocks. -/
def next? (blocks : ω → ω → Bool) (table : GrantTable κ ω) : Option (κ × ω) :=
  table.waiters.entries.find? (fun entry =>
    !table.owners.entries.any (fun owner => blocks entry.2 owner.2))

/-- The test of the scan. -/
theorem not_any_blocks_iff {waiter : ω}
    : (!table.owners.entries.any (fun owner => blocks waiter owner.2)) = true
      ↔ table.Free blocks waiter := by
  simp [Free]

/-- The entry that is found is a waiter that no owner blocks. -/
theorem free_of_next? {entry : κ × ω} (found : table.next? blocks = some entry)
    : entry ∈ table.waiters.entries ∧ table.Free blocks entry.2 := by
  have tested := List.find?_some found
  exact ⟨List.mem_of_find?_eq_some found, not_any_blocks_iff.mp tested⟩

/-- Nothing is found where owners block all waiters. -/
theorem next?_eq_none_iff
    : table.next? blocks = none ↔ ∀ entry ∈ table.waiters.entries, ¬table.Free blocks entry.2 := by
  unfold next?
  rw [List.find?_eq_none]
  exact forall₂_congr (fun entry _ => not_congr not_any_blocks_iff)

/-- Without owners the scan finds the first waiter. -/
theorem next?_of_no_owners (none : table.owners.entries = [])
    : table.next? blocks = table.waiters.entries.head? := by
  unfold next?
  rw [none]
  cases table.waiters.entries <;> rfl

/-- The owners are in the table, and do not block each other. -/
structure Compatible (blocks : ω → ω → Bool) (table : GrantTable κ ω) : Prop where
  held : ∀ entry ∈ table.owners.entries, entry ∈ table.waiters.entries
  apart
    : ∀ entry ∈ table.owners.entries, ∀ other ∈ table.owners.entries,
        other.1 ≠ entry.1 → blocks entry.2 other.2 = false

/-- A waiter that is not an owner has a key of its own. -/
theorem Compatible.key_ne (compatible : Compatible blocks table) {entry owner : κ × ω}
    (waits : entry ∈ table.waiters.entries) (other : entry ∉ table.owners.entries)
    (owns : owner ∈ table.owners.entries)
    : owner.1 ≠ entry.1 := by
  intro same
  have value : owner.2 = entry.2 :=
    Dict.value_unique (compatible.held owner owns) (by rw [same]; exact waits)
  exact other (Prod.ext same value ▸ owns)

variable [DecidableEq κ]

/-- The entry becomes an owner. -/
def store (table : GrantTable κ ω) (entry : κ × ω) : GrantTable κ ω :=
  { table with
    owners := table.owners.set entry.1 entry.2
    granted := table.granted ++ [entry.1] }

/-- One scan of the table. -/
def grant (blocks : ω → ω → Bool) (table : GrantTable κ ω) : GrantTable κ ω :=
  match table.next? blocks with
  | some entry => table.store entry
  | none => table

/-- A waiter comes to the end of the table. -/
def enter (table : GrantTable κ ω) (key : κ) (waiter : ω) : GrantTable κ ω :=
  { table with waiters := table.waiters.set key waiter }

/-- A waiter or owner leaves the table. -/
def leave (table : GrantTable κ ω) (key : κ) : GrantTable κ ω :=
  { table with owners := table.owners.pop key, waiters := table.waiters.pop key }

/-- A grant that finds an entry stores it, and one that finds none changes nothing. -/
theorem grant_cases (blocks : ω → ω → Bool) (table : GrantTable κ ω)
    : (∃ entry, table.next? blocks = some entry ∧ table.grant blocks = table.store entry)
      ∨ (table.next? blocks = none ∧ table.grant blocks = table) := by
  unfold grant
  cases found : table.next? blocks with
  | some entry => exact .inl ⟨entry, rfl, rfl⟩
  | none => exact .inr ⟨rfl, rfl⟩

@[simp] theorem waiters_grant (blocks : ω → ω → Bool) (table : GrantTable κ ω)
    : (table.grant blocks).waiters = table.waiters := by
  unfold grant
  split <;> rfl

/-- Only waiters are granted. -/
theorem mem_granted_grant {key : κ} (granted : key ∈ (table.grant blocks).granted)
    : key ∈ table.granted ∨ ∃ entry ∈ table.waiters.entries, entry.1 = key := by
  rcases grant_cases blocks table with ⟨entry, found, same⟩ | ⟨-, same⟩
  · rw [same] at granted
    rcases List.mem_append.mp granted with before | now
    · exact .inl before
    · exact .inr ⟨entry, (free_of_next? found).1, (List.mem_singleton.mp now).symm⟩
  · exact .inl (same ▸ granted)

-----------------------------------------------------------------------------------------
-- What every grant keeps
-----------------------------------------------------------------------------------------

/-- A waiter that no owner blocks is compatible with the owners, and they with it. -/
theorem Compatible.store (compatible : Compatible blocks table)
    (symmetric : ∀ left right, blocks left right = blocks right left) {entry : κ × ω}
    (waits : entry ∈ table.waiters.entries) (free : table.Free blocks entry.2)
    : Compatible blocks (table.store entry) where
  held := fun other owns => by
    rcases Dict.mem_set.mp owns with rfl | ⟨owned, -⟩
    · exact waits
    · exact compatible.held other owned
  apart := fun one owns other too different => by
    rcases Dict.mem_set.mp owns with rfl | ⟨owned, -⟩
    · rcases Dict.mem_set.mp too with rfl | ⟨ownedToo, -⟩
      · exact absurd rfl different
      · exact free other ownedToo
    · rcases Dict.mem_set.mp too with rfl | ⟨ownedToo, -⟩
      · rw [symmetric]
        exact free one owned
      · exact compatible.apart one owned other ownedToo different

theorem Compatible.grant (compatible : Compatible blocks table)
    (symmetric : ∀ left right, blocks left right = blocks right left)
    : Compatible blocks (table.grant blocks) := by
  rcases grant_cases blocks table with ⟨entry, found, same⟩ | ⟨-, same⟩
  · obtain ⟨waits, free⟩ := free_of_next? found
    exact same ▸ compatible.store symmetric waits free
  · exact same.symm ▸ compatible

/-- Who owns remains an owner. -/
theorem Compatible.owns_grant (compatible : Compatible blocks table) {owner : κ × ω}
    (owns : owner ∈ table.owners.entries)
    : owner ∈ (table.grant blocks).owners.entries := by
  rcases grant_cases blocks table with ⟨entry, found, same⟩ | ⟨-, same⟩
  · rw [same]
    refine Dict.mem_set.mpr ?_
    by_cases key : owner.1 = entry.1
    · have waits : (entry.1, owner.2) ∈ table.waiters.entries := by
        rw [← key]
        exact compatible.held owner owns
      exact .inl (Prod.ext key (Dict.value_unique waits (free_of_next? found).1))
    · exact .inr ⟨owns, key⟩
  · exact same.symm ▸ owns

theorem Compatible.enter (compatible : Compatible blocks table) {key : κ}
    (fresh : ∀ entry ∈ table.waiters.entries, entry.1 ≠ key) (waiter : ω)
    : Compatible blocks (table.enter key waiter) where
  held := fun entry owns =>
    Dict.mem_set.mpr (.inr ⟨compatible.held entry owns, fresh entry (compatible.held entry owns)⟩)
  apart := compatible.apart

theorem Compatible.leave (compatible : Compatible blocks table) (key : κ)
    : Compatible blocks (table.leave key) where
  held := fun entry owns => by
    obtain ⟨owned, different⟩ := Dict.mem_pop.mp owns
    exact Dict.mem_pop.mpr ⟨compatible.held entry owned, different⟩
  apart := fun entry owns other too =>
    compatible.apart entry (Dict.mem_pop.mp owns).1 other (Dict.mem_pop.mp too).1

-----------------------------------------------------------------------------------------
-- After which tables a grant leaves nothing to grant
-----------------------------------------------------------------------------------------

/-- Each grant was the first of its key, and the waiters that were granted are the owners. -/
structure Once (table : GrantTable κ ω) : Prop where
  nodup : table.granted.Nodup
  owned
    : ∀ entry ∈ table.waiters.entries,
        entry.1 ∈ table.granted ↔ entry ∈ table.owners.entries

/-- Every waiter is an owner, or an owner blocks it. -/
def Served (blocks : ω → ω → Bool) (table : GrantTable κ ω) : Prop :=
  ∀ entry ∈ table.waiters.entries,
    entry ∈ table.owners.entries ∨ ¬table.Free blocks entry.2

/-- The next grant is not one of an owner, and blocks all that wait without being blocked. -/
def Clear (blocks : ω → ω → Bool) (table : GrantTable κ ω) : Prop :=
  ∀ entry,
    table.next? blocks = some entry
    → entry ∉ table.owners.entries
      ∧ ∀ other ∈ table.waiters.entries,
          other ∈ table.owners.entries
          ∨ other = entry
          ∨ ¬table.Free blocks other.2
          ∨ blocks other.2 entry.2 = true

/-- The owners block what they blocked, and the new one blocks more. -/
theorem free_store_iff {entry : κ × ω} (fresh : ∀ owner ∈ table.owners.entries, owner.1 ≠ entry.1)
    {waiter : ω}
    : (table.store entry).Free blocks waiter
      ↔ table.Free blocks waiter ∧ blocks waiter entry.2 = false := by
  constructor
  · intro free
    refine ⟨fun owner owns => free owner ?_, free entry (Dict.mem_set.mpr (.inl rfl))⟩
    exact Dict.mem_set.mpr (.inr ⟨owns, fresh owner owns⟩)
  · rintro ⟨free, unblocked⟩ owner owns
    rcases Dict.mem_set.mp owns with rfl | ⟨owned, -⟩
    · exact unblocked
    · exact free owner owned

theorem Once.store (once : Once table) (compatible : Compatible blocks table) {entry : κ × ω}
    (waits : entry ∈ table.waiters.entries) (other : entry ∉ table.owners.entries)
    : Once (table.store entry) where
  nodup := by
    have ungranted : entry.1 ∉ table.granted := mt (once.owned entry waits).mp other
    exact List.nodup_append'.mpr ⟨once.nodup, List.nodup_singleton _, by simpa using ungranted⟩
  owned := fun waiter here => by
    have kept : waiter ∈ table.owners.entries → waiter.1 ≠ entry.1 :=
      compatible.key_ne waits other
    have same : waiter.1 = entry.1 ↔ waiter = entry :=
      ⟨fun key => Prod.ext key (Dict.value_unique (by rw [← key]; exact here) waits),
        congrArg Prod.fst⟩
    simp only [GrantTable.store, List.mem_append, List.mem_singleton, Dict.mem_set,
      once.owned waiter here, same]
    tauto

theorem Once.enter (once : Once table) (compatible : Compatible blocks table) {key : κ}
    (fresh : ∀ entry ∈ table.waiters.entries, entry.1 ≠ key) (ungranted : key ∉ table.granted)
    (waiter : ω)
    : Once (table.enter key waiter) where
  nodup := once.nodup
  owned := fun entry here => by
    rcases Dict.mem_set.mp here with rfl | ⟨waits, -⟩
    · exact iff_of_false ungranted (fun owns => fresh _ (compatible.held _ owns) rfl)
    · exact once.owned entry waits

theorem Once.leave (once : Once table) (key : κ) : Once (table.leave key) where
  nodup := once.nodup
  owned := fun entry here => by
    obtain ⟨waits, different⟩ := Dict.mem_pop.mp here
    have kept : entry ∈ (table.leave key).owners.entries ↔ entry ∈ table.owners.entries :=
      Dict.mem_pop.trans (and_iff_left different)
    exact (once.owned entry waits).trans kept.symm

/-- A grant of a clear table is the first of its key. -/
theorem Once.grant (once : Once table) (compatible : Compatible blocks table)
    (clear : Clear blocks table)
    : Once (table.grant blocks) := by
  rcases grant_cases blocks table with ⟨entry, found, same⟩ | ⟨-, same⟩
  · exact same ▸ once.store compatible (free_of_next? found).1 (clear entry found).1
  · exact same.symm ▸ once

/-- A grant of a clear table leaves nothing to grant. -/
theorem Clear.served_grant (clear : Clear blocks table) (compatible : Compatible blocks table)
    : Served blocks (table.grant blocks) := by
  rcases grant_cases blocks table with ⟨entry, found, same⟩ | ⟨none, same⟩
  · obtain ⟨other, rest⟩ := clear entry found
    have kept : ∀ owner ∈ table.owners.entries, owner.1 ≠ entry.1 :=
      fun _ owns => compatible.key_ne (free_of_next? found).1 other owns
    rw [same]
    intro waiter here
    rw [free_store_iff kept, not_and_or, Bool.not_eq_false]
    rcases rest waiter here with owns | rfl | blocked
    · exact .inl (Dict.mem_set.mpr (.inr ⟨owns, kept waiter owns⟩))
    · exact .inl (Dict.mem_set.mpr (.inl rfl))
    · exact .inr blocked
  · rw [same]
    exact fun entry waits => .inr (next?_eq_none_iff.mp none entry waits)

/-- A grant that is the first of its key and leaves nothing to grant was one of a clear table. -/
theorem Once.clear (once : Once table) (compatible : Compatible blocks table)
    (first : (table.grant blocks).granted.Nodup) (served : Served blocks (table.grant blocks))
    : Clear blocks table := by
  intro entry found
  have waits := (free_of_next? found).1
  have same : table.grant blocks = table.store entry := by simp only [GrantTable.grant, found]
  rw [same] at first served
  have other : entry ∉ table.owners.entries := by
    intro owns
    have granted : entry.1 ∈ table.granted := (once.owned entry waits).mpr owns
    exact (List.nodup_append'.mp first).2.2 granted (List.mem_singleton_self _)
  have kept : ∀ owner ∈ table.owners.entries, owner.1 ≠ entry.1 :=
    fun _ owns => compatible.key_ne waits other owns
  refine ⟨other, fun waiter here => ?_⟩
  rcases served waiter here with owns | blocked
  · rcases Dict.mem_set.mp owns with rfl | ⟨owned, -⟩
    · exact .inr (.inl rfl)
    · exact .inl owned
  · rw [free_store_iff kept, not_and_or, Bool.not_eq_false] at blocked
    exact .inr (.inr blocked)

/-- An entry into a table that serves is granted well unless an owner is not blocked, since owners
are found before it.
-/
theorem clear_enter_iff (compatible : Compatible blocks table) (served : Served blocks table)
    {key : κ} (fresh : ∀ entry ∈ table.waiters.entries, entry.1 ≠ key) (waiter : ω)
    : Clear blocks (table.enter key waiter)
      ↔ ∀ owner ∈ table.owners.entries, ¬table.Free blocks owner.2 := by
  have entries : (table.enter key waiter).waiters.entries
      = table.waiters.entries ++ [(key, waiter)] :=
    Dict.entries_set_of_fresh fresh waiter
  have scan : (table.enter key waiter).next? blocks
      = (table.next? blocks).or ([(key, waiter)].find? (fun entry =>
          !table.owners.entries.any (fun owner => blocks entry.2 owner.2))) := by
    unfold next?
    rw [entries, List.find?_append]
    rfl
  constructor
  · intro clear owner owns free
    cases found : table.next? blocks with
    | none => exact next?_eq_none_iff.mp found owner (compatible.held owner owns) free
    | some entry =>
        obtain ⟨waits, freeEntry⟩ := free_of_next? found
        have other := (clear entry (by rw [scan, found]; rfl)).1
        exact (served entry waits).elim other (fun blocked => blocked freeEntry)
  · intro blocked entry found
    have old : ∀ other ∈ table.waiters.entries, ¬table.Free blocks other.2 :=
      fun other waits => (served other waits).elim (blocked other) id
    obtain ⟨waits, free⟩ := free_of_next? found
    have last : ∀ other ∈ (table.enter key waiter).waiters.entries,
        table.Free blocks other.2 → other = (key, waiter) := by
      intro other waits free
      rw [entries] at waits
      rcases List.mem_append.mp waits with here | here
      · exact absurd free (old other here)
      · exact List.mem_singleton.mp here
    obtain rfl := last entry waits free
    refine ⟨fun owns => fresh _ (compatible.held _ owns) rfl, fun other here => ?_⟩
    by_cases free : table.Free blocks other.2
    · exact .inr (.inl (last other here free))
    · exact .inr (.inr (.inl free))

end GrantTable
