import Mathlib.Data.List.Nodup
import Mathlib.Tactic.TypeStar

/-! Dicts that remember the order of insertion: a key that is set again keeps its place, and a new
one goes to the end.
-/

variable {κ β γ : Type*}

/-- The entries in order of insertion, with one entry for each key. -/
structure Dict (κ β : Type*) where
  entries : List (κ × β)
  nodup : (entries.map Prod.fst).Nodup

namespace Dict

/-- `{}` -/
def empty : Dict κ β := { entries := [], nodup := List.nodup_nil }

/-- Each value is replaced by one that is computed from its key and itself. -/
def map (dict : Dict κ β) (f : κ → β → γ) : Dict κ γ where
  entries := dict.entries.map (fun entry => (entry.1, f entry.1 entry.2))
  nodup := by simpa [Function.comp_def] using dict.nodup

@[simp] theorem mem_map {dict : Dict κ β} {f : κ → β → γ} {entry : κ × γ}
    : entry ∈ (dict.map f).entries
      ↔ ∃ value, (entry.1, value) ∈ dict.entries ∧ f entry.1 value = entry.2 := by
  simp only [map, List.mem_map, Prod.ext_iff]
  constructor
  · rintro ⟨⟨key, value⟩, member, rfl, same⟩
    exact ⟨value, member, same⟩
  · rintro ⟨value, member, same⟩
    exact ⟨(entry.1, value), member, rfl, same⟩

/-- The entries decide about a dict. -/
theorem ext_entries {dict other : Dict κ β} (same : dict.entries = other.entries)
    : dict = other := by
  cases dict
  cases other
  simpa using same

/-- A key has one value. -/
theorem value_unique {dict : Dict κ β} {key : κ} {value other : β}
    (member : (key, value) ∈ dict.entries) (too : (key, other) ∈ dict.entries)
    : value = other := by
  have same := List.inj_on_of_nodup_map dict.nodup member too rfl
  exact (Prod.mk.inj same).2

/-- The values of a map of a map. -/
theorem map_map {δ : Type*} (dict : Dict κ β) (f : κ → β → γ) (g : κ → γ → δ)
    : (dict.map f).map g = dict.map (fun key value => g key (f key value)) :=
  ext_entries (by simp [map, Function.comp_def])

variable [DecidableEq κ]

/-- `dict.pop(key, None)` and `del dict[key]` -/
def pop (dict : Dict κ β) (key : κ) : Dict κ β where
  entries := dict.entries.filter (fun entry => entry.1 ≠ key)
  nodup := dict.nodup.sublist (List.filter_sublist.map Prod.fst)

@[simp] theorem mem_pop {dict : Dict κ β} {key : κ} {entry : κ × β}
    : entry ∈ (dict.pop key).entries ↔ entry ∈ dict.entries ∧ entry.1 ≠ key := by
  simp [pop]

/-- `dict[key] = value` -/
def set (dict : Dict κ β) (key : κ) (value : β) : Dict κ β where
  entries :=
    if key ∈ dict.entries.map Prod.fst then
      dict.entries.map (fun entry => (entry.1, if entry.1 = key then value else entry.2))
    else dict.entries ++ [(key, value)]
  nodup := by
    split
    · simpa [Function.comp_def] using dict.nodup
    · rename_i fresh
      rw [List.map_append]
      exact dict.nodup.append (List.nodup_singleton key) (by simpa using fresh)

/-- A dict is set at the key and nowhere else. -/
@[simp] theorem mem_set {dict : Dict κ β} {key : κ} {value : β} {entry : κ × β}
    : entry ∈ (dict.set key value).entries
      ↔ entry = (key, value) ∨ entry ∈ dict.entries ∧ entry.1 ≠ key := by
  unfold set
  dsimp only
  split
  · rename_i present
    obtain ⟨⟨found, old⟩, there, same⟩ := List.mem_map.mp present
    obtain rfl : key = found := same.symm
    rw [List.mem_map]
    constructor
    · rintro ⟨⟨other, kept⟩, member, rfl⟩
      by_cases same : other = key <;> simp_all
    · rintro (rfl | ⟨member, different⟩)
      · exact ⟨(key, old), there, by simp⟩
      · exact ⟨entry, member, by simp [different]⟩
  · rename_i fresh
    have different : entry ∈ dict.entries → entry.1 ≠ key :=
      fun member same => fresh (List.mem_map.mpr ⟨entry, member, same⟩)
    rw [List.mem_append, List.mem_singleton, or_comm]
    exact or_congr_right ⟨fun member => ⟨member, different member⟩, And.left⟩

/-- A key that is not there yet is set at the end. -/
theorem entries_set_of_fresh {dict : Dict κ β} {key : κ}
    (fresh : ∀ entry ∈ dict.entries, entry.1 ≠ key) (value : β)
    : (dict.set key value).entries = dict.entries ++ [(key, value)] :=
  if_neg (by simpa using fun other member => fresh _ member rfl)

theorem map_pop (dict : Dict κ β) (f : κ → β → γ) (key : κ)
    : (dict.pop key).map f = (dict.map f).pop key :=
  ext_entries (by simp [map, pop, List.filter_map, Function.comp_def])

theorem map_set (dict : Dict κ β) (f : κ → β → γ) (key : κ) (value : β)
    : (dict.set key value).map f = (dict.map f).set key (f key value) := by
  apply ext_entries
  have keys : (dict.map f).entries.map Prod.fst = dict.entries.map Prod.fst := by
    simp [map, Function.comp_def]
  unfold set
  simp only [keys]
  unfold map
  dsimp only
  split
  · simp only [List.map_map, List.map_inj_left, Function.comp_apply, Prod.mk.injEq, true_and]
    intro entry _
    by_cases same : entry.1 = key <;> simp [same]
  · simp

end Dict
