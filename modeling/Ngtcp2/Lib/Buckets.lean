import Mathlib.Data.List.Nodup
import Mathlib.Data.List.Perm.Basic

/-!
# Tables of buckets

An array of lists, in which every entry has its place: the index of its bucket.
-/

namespace Buckets

variable {α : Type} {table : Array (List α)} {place : α → Nat} {i : Nat} {bucket : List α}

def entries (table : Array (List α)) : List α := table.toList.flatten

/-- Every entry is in the bucket of its place. -/
def Placed (place : α → Nat) (table : Array (List α)) : Prop :=
  ∀ i bucket, table[i]? = some bucket → ∀ e ∈ bucket, place e = i

theorem mem_entries {e : α} : e ∈ entries table ↔ ∃ (i : Nat) (bucket : List α), table[i]? = some bucket ∧ e ∈ bucket := by
  unfold entries
  rw [List.mem_flatten]
  constructor
  · rintro ⟨bucket, member, inside⟩
    obtain ⟨i, slot⟩ := List.mem_iff_getElem?.mp member
    exact ⟨i, bucket, by rwa [Array.getElem?_toList] at slot, inside⟩
  · rintro ⟨i, bucket, slot, inside⟩
    refine ⟨bucket, List.mem_iff_getElem?.mpr ⟨i, ?_⟩, inside⟩
    rwa [Array.getElem?_toList]

theorem entries_set (slot : table[i]? = some bucket) :
    ∃ others, (entries table).Perm (bucket ++ others) ∧
      ∀ bucket', (entries (table.setIfInBounds i bucket')).Perm (bucket' ++ others) := by
  obtain ⟨inside, held⟩ := Array.getElem?_eq_some_iff.mp slot
  have inside : i < table.toList.length := by simpa using inside
  have whole (bucket' : List α) : (entries (table.setIfInBounds i bucket')) =
      (table.toList.take i).flatten ++ (bucket' ++ (table.toList.drop (i + 1)).flatten) := by
    unfold entries
    rw [Array.toList_setIfInBounds, List.set_eq_take_append_cons_drop, if_pos inside, List.flatten_append, List.flatten_cons]
  have same : table.setIfInBounds i bucket = table := by
    apply Array.ext'
    rw [Array.toList_setIfInBounds, ← held, ← Array.getElem_toList, List.set_getElem_self]
  refine ⟨(table.toList.take i).flatten ++ (table.toList.drop (i + 1)).flatten, ?_, fun bucket' => ?_⟩
  · have all := whole bucket
    rw [same] at all
    rw [all]
    exact List.perm_append_comm_assoc ..
  · rw [whole]
    exact List.perm_append_comm_assoc ..

theorem Placed.mem (placed : Placed place table) {e : α} (member : e ∈ entries table) (slot : table[place e]? = some bucket) :
    e ∈ bucket := by
  obtain ⟨i, held, slot', inside⟩ := mem_entries.mp member
  obtain rfl := placed i held slot' e inside
  obtain rfl := Option.some.inj (slot.symm.trans slot')
  exact inside

theorem Placed.set (placed : Placed place table) {bucket' : List α} (here : ∀ e ∈ bucket', place e = i) :
    Placed place (table.setIfInBounds i bucket') := by
  intro j held slot e member
  rw [Array.getElem?_setIfInBounds] at slot
  split at slot
  next same =>
    split at slot
    · obtain rfl := Option.some.inj slot
      exact (here e member).trans same
    · cases slot
  next => exact placed j held slot e member

theorem placed_empty (place : α → Nat) (n : Nat) : Placed place (Array.replicate n []) := by
  intro i bucket slot e member
  rw [Array.getElem?_replicate] at slot
  split at slot
  · obtain rfl := Option.some.inj slot
    cases member
  · cases slot

end Buckets
