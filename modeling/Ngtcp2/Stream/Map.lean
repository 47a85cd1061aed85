import Mathlib.Data.Finmap
import Ngtcp2.Base
import Ngtcp2.Lib.Buckets
import Ngtcp2.Lib.Bytes
import Ngtcp2.Lib.Prog

/-!
# The map of streams

A hash table with chained buckets, which doubles when three quarters of its length are used. It refines a finite
map.
-/

namespace Ngtcp2

open Prog Buckets

/-- `ngtcp2_map`. A bucket is the chain that starts in a slot of the table. An entry that is inserted is a fresh one, with
`next` not set. -/
structure Map (α : Type) where
  table : Array (List α)
  size : UInt64
  tablelen : UInt32

def initialTableLength : UInt32 := 256

def hash (key : UInt64) (mod : UInt32) : UInt32 :=
  let h := (beBytes 8 key.toNat).foldl (fun h b => (h ^^^ b.toUInt32) * 0x01000193) 0x811C9DC5
  h &&& (mod - 1)

section

variable {α : Type}

def ngtcp2MapInit : Map α :=
  { table := Array.replicate initialTableLength.toNat [], size := 0, tablelen := initialTableLength }

def ngtcp2MapSize (map : Map α) : Nat := map.size.toNat

variable (key : α → UInt64)

/-- `insert` with the slot of the entry. A slot outside of the table is an access out of bounds. -/
def mapInsertAt (table : Array (List α)) (h : Nat) (entry : α) : Except Err (Array (List α)) :=
  match table[h]? with
  | none => .error .ABORT
  | some [] => .ok (table.setIfInBounds h [entry])
  | some (p :: rest) =>
    if (p :: rest).any fun p => key p == key entry then .error .INVALID_ARGUMENT
    else .ok (table.setIfInBounds h (entry :: p :: rest))

def mapInsertEntry (table : Array (List α)) (tablelen : UInt32) (entry : α) : Except Err (Array (List α)) :=
  mapInsertAt key table (hash (key entry) tablelen).toNat entry

/-- The loop of `resize`, with the return values of `insert` that it ignores. -/
def mapReinsert (insert : Array (List α) → α → Except Err (Array (List α))) :
    List α → Array (List α) → Array (List α) × List (Except Err Unit)
  | [], table => (table, [])
  | entry :: rest, table =>
    match insert table entry with
    | .ok table =>
      let (table, results) := mapReinsert insert rest table
      (table, .ok () :: results)
    | .error e =>
      let (table, results) := mapReinsert insert rest table
      (table, .error e :: results)

def mapRehash (map : Map α) (newTablelen : UInt32) : Array (List α) × List (Except Err Unit) :=
  mapReinsert (fun table entry => mapInsertEntry key table newTablelen entry) (entries map.table)
    (Array.replicate newTablelen.toNat [])

/-- `memory` is whether there is memory for the new table. -/
def mapResize (memory : Bool) (newTablelen : UInt32) : Prog (Map α) Err Unit := do
  let map ← get
  if !memory then throw .NOMEM
  else set { map with table := (mapRehash key map newTablelen).1, tablelen := newTablelen }

def mapLoaded (map : Map α) : Bool := decide ((map.size + 1) * 4 > (map.tablelen * 3).toUInt64)

def mapPut (entry : α) : Prog (Map α) Err Unit := do
  let map ← get
  let table ← Prog.ofExcept (mapInsertEntry key map.table map.tablelen entry)
  set { map with table := table, size := map.size + 1 }

def ngtcp2MapInsert (memory : Bool) (entry : α) : Prog (Map α) Err Unit := do
  let map ← get
  if mapLoaded map then mapResize key memory (map.tablelen * 2)
  mapPut key entry

def mapFindAt (table : Array (List α)) (h : Nat) (k : UInt64) : Option α :=
  match table[h]? with
  | none => none
  | some bucket => bucket.find? fun entry => key entry == k

def ngtcp2MapFind (map : Map α) (k : UInt64) : Option α := mapFindAt key map.table (hash k map.tablelen).toNat k

def mapUnlink (k : UInt64) : List α → Option (List α)
  | [] => none
  | entry :: rest => if key entry ≠ k then (mapUnlink k rest).map (entry :: ·) else some rest

def mapRemoveAt (h : Nat) (k : UInt64) : Prog (Map α) Err Unit := do
  let map ← get
  match map.table[h]? with
  | none => throw .ABORT
  | some bucket =>
    match mapUnlink key k bucket with
    | none => throw .INVALID_ARGUMENT
    | some bucket => set { map with table := map.table.setIfInBounds h bucket, size := map.size - 1 }

def ngtcp2MapRemove (k : UInt64) : Prog (Map α) Err Unit := fun map =>
  mapRemoveAt key (hash k map.tablelen).toNat k map

end

section Table

variable {α : Type} {key : α → UInt64} {tablelen : UInt32} {table : Array (List α)}

theorem hash_lt (k : UInt64) (positive : 0 < tablelen.toNat) : (hash k tablelen).toNat < tablelen.toNat := by
  unfold hash
  have mask : (tablelen - 1).toNat = tablelen.toNat - 1 := by
    rw [UInt32.toNat_sub_of_le]
    · rfl
    · exact UInt32.le_iff_toNat_le.mpr positive
  rw [UInt32.toNat_and, mask]
  exact Nat.lt_of_le_of_lt Nat.and_le_right (by omega)

structure Laid (key : α → UInt64) (tablelen : UInt32) (table : Array (List α)) : Prop where
  positive : 0 < tablelen.toNat
  slots : table.size = tablelen.toNat
  placed : Placed (fun entry => (hash (key entry) tablelen).toNat) table

theorem Laid.slot (laid : Laid key tablelen table) (k : UInt64) :
    ∃ bucket, table[(hash k tablelen).toNat]? = some bucket := by
  have inside := hash_lt k laid.positive
  rw [← laid.slots] at inside
  exact ⟨_, Array.getElem?_eq_getElem inside⟩

theorem Laid.mem_bucket (laid : Laid key tablelen table) {k : UInt64} {bucket : List α}
    (slot : table[(hash k tablelen).toNat]? = some bucket) {e : α} (same : key e = k) :
    e ∈ bucket ↔ e ∈ entries table := by
  constructor
  · exact fun inside => mem_entries.mpr ⟨_, bucket, slot, inside⟩
  · intro member
    apply laid.placed.mem member
    rwa [same]

theorem Laid.set (laid : Laid key tablelen table) {i : Nat} {bucket : List α}
    (here : ∀ e ∈ bucket, (hash (key e) tablelen).toNat = i) : Laid key tablelen (table.setIfInBounds i bucket) where
  positive := laid.positive
  slots := by rw [Array.size_setIfInBounds, laid.slots]
  placed := laid.placed.set here

theorem laid_empty (key : α → UInt64) (positive : 0 < tablelen.toNat) :
    Laid key tablelen (Array.replicate tablelen.toNat []) where
  positive := positive
  slots := Array.size_replicate
  placed := placed_empty _ _

theorem mapInsertAt_eq {h : Nat} {bucket : List α} (slot : table[h]? = some bucket) (entry : α) :
    mapInsertAt key table h entry =
      if bucket.any fun p => key p == key entry then .error .INVALID_ARGUMENT
      else .ok (table.setIfInBounds h (entry :: bucket)) := by
  unfold mapInsertAt
  rw [slot]
  cases bucket with
  | nil => rfl
  | cons p rest => rfl

theorem mapInsertEntry_present (laid : Laid key tablelen table) {entry e : α} (member : e ∈ entries table)
    (same : key e = key entry) : mapInsertEntry key table tablelen entry = .error .INVALID_ARGUMENT := by
  obtain ⟨bucket, slot⟩ := laid.slot (key entry)
  have inside := (laid.mem_bucket slot same).mpr member
  have found : (bucket.any fun p => key p == key entry) = true :=
    List.any_eq_true.mpr ⟨e, inside, beq_iff_eq.mpr same⟩
  rw [mapInsertEntry, mapInsertAt_eq slot, if_pos found]

theorem mapInsertEntry_absent (laid : Laid key tablelen table) {entry : α}
    (fresh : ∀ e ∈ entries table, key e ≠ key entry) :
    ∃ table', mapInsertEntry key table tablelen entry = .ok table' ∧ Laid key tablelen table' ∧
      (entries table').Perm (entry :: entries table) := by
  obtain ⟨bucket, slot⟩ := laid.slot (key entry)
  obtain ⟨others, before, after⟩ := entries_set slot
  have here : ∀ e ∈ entry :: bucket, (hash (key e) tablelen).toNat = (hash (key entry) tablelen).toNat := by
    intro e member
    rcases List.mem_cons.mp member with rfl | member
    · rfl
    · exact laid.placed _ _ slot e member
  have perm := (after (entry :: bucket)).trans ((before.symm).cons entry)
  refine ⟨table.setIfInBounds (hash (key entry) tablelen).toNat (entry :: bucket), ?_, laid.set here, perm⟩
  have missing : ¬ (bucket.any fun p => key p == key entry) = true := by
    intro found
    obtain ⟨e, inside, same⟩ := List.any_eq_true.mp found
    exact fresh e (mem_entries.mpr ⟨_, _, slot, inside⟩) (beq_iff_eq.mp same)
  rw [mapInsertEntry, mapInsertAt_eq slot, if_neg missing]

theorem mapReinsert_ok {insert : Array (List α) → α → Except Err (Array (List α))} {entry : α} {table' : Array (List α)}
    (inserted : insert table entry = .ok table') (rest : List α) :
    mapReinsert insert (entry :: rest) table =
      ((mapReinsert insert rest table').1, .ok () :: (mapReinsert insert rest table').2) := by
  rw [mapReinsert, inserted]

theorem mapReinsert_spec (es : List α) (laid : Laid key tablelen table)
    (once : ((es ++ entries table).map key).Nodup) {insert : Array (List α) → α → Except Err (Array (List α))}
    (inserts : ∀ table entry, insert table entry = mapInsertEntry key table tablelen entry) :
    (∀ result ∈ (mapReinsert insert es table).2, result = .ok ()) ∧
      Laid key tablelen (mapReinsert insert es table).1 ∧
      (entries (mapReinsert insert es table).1).Perm (es ++ entries table) := by
  induction es generalizing table with
  | nil => exact ⟨nofun, laid, .refl _⟩
  | cons entry rest ih =>
    have fresh : ∀ e ∈ entries table, key e ≠ key entry := by
      intro e member same
      rw [List.cons_append, List.map_cons, List.nodup_cons] at once
      exact once.1 (List.mem_map.mpr ⟨e, List.mem_append_right _ member, same⟩)
    obtain ⟨table', inserted, laid', perm⟩ := mapInsertEntry_absent laid fresh
    have moved : (rest ++ entries table').Perm (entry :: (rest ++ entries table)) :=
      (perm.append_left rest).trans List.perm_middle
    have once' : ((rest ++ entries table').map key).Nodup := (moved.map key).nodup_iff.mpr once
    obtain ⟨results, laidAll, all⟩ := ih laid' once'
    rw [mapReinsert_ok ((inserts table entry).trans inserted)]
    refine ⟨?_, laidAll, all.trans moved⟩
    intro result member
    rcases List.mem_cons.mp member with rfl | member
    · rfl
    · exact results result member

theorem mapUnlink_spec (key : α → UInt64) (k : UInt64) (bucket : List α) :
    match mapUnlink key k bucket with
    | none => ∀ e ∈ bucket, key e ≠ k
    | some rest => ∃ e, key e = k ∧ bucket.Perm (e :: rest) := by
  induction bucket with
  | nil => exact nofun
  | cons p rest ih =>
    unfold mapUnlink
    split_ifs with other
    · cases unlinked : mapUnlink key k rest with
      | none =>
        rw [unlinked] at ih
        intro e member
        rcases List.mem_cons.mp member with rfl | member
        · exact other
        · exact ih e member
      | some rest' =>
        rw [unlinked] at ih
        obtain ⟨e, same, perm⟩ := ih
        exact ⟨e, same, (perm.cons p).trans (.swap _ _ _)⟩
    · exact ⟨p, not_not.mp other, .refl _⟩

end Table

section Map

variable {α : Type} {key : α → UInt64} {map : Map α}

structure Map.Ok (key : α → UInt64) (map : Map α) : Prop where
  laid : Laid key map.tablelen map.table
  once : ((entries map.table).map key).Nodup
  size : map.size.toNat = (entries map.table).length
  power : ∃ n, 8 ≤ n ∧ n ≤ 30 ∧ map.tablelen.toNat = 2 ^ n
  load : map.size.toNat * 4 ≤ map.tablelen.toNat * 3
  few : map.size.toNat < 2 ^ 29

theorem ngtcp2MapInit_ok (key : α → UInt64) : (ngtcp2MapInit : Map α).Ok key where
  laid := laid_empty key (by change 0 < initialTableLength.toNat; decide)
  once := by simp [ngtcp2MapInit, entries]
  size := by simp [ngtcp2MapInit, entries]
  power := ⟨8, by decide, by decide, rfl⟩
  load := by change 0 * 4 ≤ initialTableLength.toNat * 3; decide
  few := by change 0 < 2 ^ 29; decide

-- the arithmetic of the table length does not wrap

theorem Map.Ok.tablelen_le (ok : map.Ok key) : 256 ≤ map.tablelen.toNat ∧ map.tablelen.toNat ≤ 2 ^ 30 := by
  obtain ⟨n, lower, upper, length⟩ := ok.power
  rw [length]
  exact ⟨Nat.pow_le_pow_right Nat.zero_lt_two lower, Nat.pow_le_pow_right Nat.zero_lt_two upper⟩

theorem Map.Ok.loaded_iff (ok : map.Ok key) : mapLoaded map = true ↔ map.tablelen.toNat * 3 < (map.size.toNat + 1) * 4 := by
  obtain ⟨lower, upper⟩ := ok.tablelen_le
  have few := ok.few
  unfold mapLoaded
  rw [decide_eq_true_iff, gt_iff_lt, UInt64.lt_iff_toNat_lt]
  have left : (map.tablelen * 3).toUInt64.toNat = map.tablelen.toNat * 3 := by
    rw [UInt32.toNat_toUInt64, UInt32.toNat_mul]
    exact Nat.mod_eq_of_lt (by change _ * 3 < _; omega)
  have right : ((map.size + 1) * 4).toNat = (map.size.toNat + 1) * 4 := by
    rw [UInt64.toNat_mul, UInt64.toNat_add]
    change (map.size.toNat + 1) % 2 ^ 64 * 4 % 2 ^ 64 = _
    omega
  rw [left, right]

theorem Map.Ok.rehash (ok : map.Ok key) (loaded : mapLoaded map = true) :
    (∀ result ∈ (mapRehash key map (map.tablelen * 2)).2, result = .ok ()) ∧
      ({ map with table := (mapRehash key map (map.tablelen * 2)).1, tablelen := map.tablelen * 2 } : Map α).Ok key ∧
      (entries (mapRehash key map (map.tablelen * 2)).1).Perm (entries map.table) ∧
      (map.tablelen * 2).toNat = map.tablelen.toNat * 2 := by
  obtain ⟨n, lower, upper, length⟩ := ok.power
  obtain ⟨least, _⟩ := ok.tablelen_le
  have full := ok.loaded_iff.mp loaded
  have few := ok.few
  have load := ok.load
  have short : n ≤ 29 := by
    by_contra long
    have : n = 30 := by omega
    subst this
    omega
  have double : (map.tablelen * 2).toNat = 2 ^ (n + 1) := by
    have bound : (2 : Nat) ^ n ≤ 2 ^ 29 := Nat.pow_le_pow_right (by decide) short
    rw [UInt32.toNat_mul, length, pow_succ]
    exact Nat.mod_eq_of_lt (by change _ * 2 < _; omega)
  have positive : 0 < (map.tablelen * 2).toNat := by
    rw [double]
    exact Nat.two_pow_pos _
  have empty : entries (Array.replicate (map.tablelen * 2).toNat ([] : List α)) = [] := by simp [entries]
  have once : ((entries map.table ++ entries (Array.replicate (map.tablelen * 2).toNat ([] : List α))).map key).Nodup := by
    rw [empty, List.append_nil]
    exact ok.once
  obtain ⟨results, laid, perm⟩ := mapReinsert_spec (entries map.table) (laid_empty key positive) once fun _ _ => rfl
  rw [empty, List.append_nil] at perm
  refine ⟨results, ?_, perm, by rw [double, length, pow_succ]⟩
  exact {
    laid := laid
    once := (perm.map key).nodup_iff.mpr ok.once
    size := ok.size.trans perm.length_eq.symm
    power := ⟨n + 1, by omega, by omega, double⟩
    load := by
      dsimp only
      rw [double, pow_succ, ← length]
      omega
    few := few }

theorem mapPut_ok {grown : Map α} {entry : α} {table : Array (List α)}
    (inserted : mapInsertEntry key grown.table grown.tablelen entry = .ok table) :
    mapPut key entry grown = (.ok (), { grown with table := table, size := grown.size + 1 }) := by
  have first : Prog.ofExcept (mapInsertEntry key grown.table grown.tablelen entry) grown = (.ok table, grown) := by
    rw [inserted]
    rfl
  exact (Prog.bind_ok rfl).trans (Prog.bind_ok first)

theorem mapPut_error {grown : Map α} {entry : α} {e : Err}
    (refused : mapInsertEntry key grown.table grown.tablelen entry = .error e) : mapPut key entry grown = (.error e, grown) := by
  have first : Prog.ofExcept (mapInsertEntry key grown.table grown.tablelen entry) grown = (.error e, grown) := by
    rw [refused]
    rfl
  exact (Prog.bind_ok rfl).trans (Prog.bind_error first)

theorem Map.Ok.grown (ok : map.Ok key) (memory : Bool) (entry : α) :
    (memory = false ∧ ngtcp2MapInsert key memory entry map = (.error .NOMEM, map)) ∨
      ∃ grown : Map α, grown.Ok key ∧ (entries grown.table).Perm (entries map.table) ∧ grown.size = map.size ∧
        (grown.size.toNat + 1) * 4 ≤ grown.tablelen.toNat * 3 ∧ ngtcp2MapInsert key memory entry map = mapPut key entry grown := by
  have start : ngtcp2MapInsert key memory entry map =
      (if mapLoaded map then mapResize key memory (map.tablelen * 2) >>= fun _ => mapPut key entry else mapPut key entry) map :=
    rfl
  rw [start]
  by_cases loaded : mapLoaded map = true
  · rw [if_pos loaded]
    cases memory with
    | false =>
      have failed : mapResize key false (map.tablelen * 2) map = (.error .NOMEM, map) := Prog.bind_ok rfl
      exact .inl ⟨rfl, Prog.bind_error failed⟩
    | true =>
      obtain ⟨_, grown, perm, double⟩ := ok.rehash loaded
      have resized : mapResize key true (map.tablelen * 2) map = (.ok (),
          { map with table := (mapRehash key map (map.tablelen * 2)).1, tablelen := map.tablelen * 2 }) := Prog.bind_ok rfl
      refine .inr ⟨_, grown, perm, rfl, ?_, Prog.bind_ok resized⟩
      have load := ok.load
      have least := ok.tablelen_le.1
      dsimp only
      omega
  · rw [if_neg loaded]
    refine .inr ⟨map, ok, .refl _, rfl, ?_, rfl⟩
    exact Nat.le_of_not_lt (ok.loaded_iff.not.mp loaded)

theorem ngtcp2MapInsert_spec (ok : map.Ok key) (memory : Bool) (entry : α) :
    ∃ result map', ngtcp2MapInsert key memory entry map = (result, map') ∧
      (result = .error .NOMEM ∧ memory = false ∧ map' = map ∨
        result = .error .INVALID_ARGUMENT ∧ (∃ e ∈ entries map.table, key e = key entry) ∧ map'.Ok key ∧
          (entries map'.table).Perm (entries map.table) ∨
        result = .ok () ∧ (∀ e ∈ entries map.table, key e ≠ key entry) ∧
          (map.size.toNat + 1 < 2 ^ 29 → map'.Ok key) ∧ (entries map'.table).Perm (entry :: entries map.table)) := by
  rcases ok.grown memory entry with ⟨none, run⟩ | ⟨grown, okGrown, perm, size, load, run⟩
  · exact ⟨_, _, run, .inl ⟨rfl, none, rfl⟩⟩
  by_cases present : ∃ e ∈ entries map.table, key e = key entry
  · obtain ⟨e, member, same⟩ := present
    have refused := mapInsertEntry_present okGrown.laid (perm.mem_iff.mpr member) same
    rw [mapPut_error refused] at run
    exact ⟨_, _, run, .inr (.inl ⟨rfl, ⟨e, member, same⟩, okGrown, perm⟩)⟩
  · have fresh : ∀ e ∈ entries map.table, key e ≠ key entry := fun e member same => present ⟨e, member, same⟩
    obtain ⟨table, inserted, laid, more⟩ :=
      mapInsertEntry_absent okGrown.laid fun e member => fresh e (perm.mem_iff.mp member)
    rw [mapPut_ok inserted] at run
    have all := more.trans (perm.cons entry)
    refine ⟨_, _, run, .inr (.inr ⟨rfl, fresh, fun few => ?_, all⟩)⟩
    have next : (grown.size + 1).toNat = grown.size.toNat + 1 := by
      rw [UInt64.toNat_add, size]
      change (map.size.toNat + 1) % 2 ^ 64 = _
      omega
    exact {
      laid := laid
      once := by
        have once := ok.once
        rw [(all.map key).nodup_iff, List.map_cons, List.nodup_cons]
        refine ⟨fun member => ?_, once⟩
        obtain ⟨e, inside, same⟩ := List.mem_map.mp member
        exact fresh e inside same
      size := by
        rw [next, okGrown.size, more.length_eq]
        rfl
      power := okGrown.power
      load := by
        dsimp only
        rw [next]
        exact load
      few := by
        dsimp only
        rw [next, size]
        exact few }

theorem mapFindAt_eq {table : Array (List α)} {h : Nat} {bucket : List α} (slot : table[h]? = some bucket) (k : UInt64) :
    mapFindAt key table h k = bucket.find? fun entry => key entry == k := by
  unfold mapFindAt
  rw [slot]

theorem mapRemoveAt_none {h : Nat} {k : UInt64} {bucket : List α} (slot : map.table[h]? = some bucket)
    (unlinked : mapUnlink key k bucket = none) : mapRemoveAt key h k map = (.error .INVALID_ARGUMENT, map) := by
  change (match map.table[h]? with
    | none => throw .ABORT
    | some bucket =>
      match mapUnlink key k bucket with
      | none => throw .INVALID_ARGUMENT
      | some bucket => set { map with table := map.table.setIfInBounds h bucket, size := map.size - 1 } :
    Prog (Map α) Err Unit) map = _
  rw [slot]
  dsimp only
  rw [unlinked]
  rfl

theorem mapRemoveAt_some {h : Nat} {k : UInt64} {bucket rest : List α} (slot : map.table[h]? = some bucket)
    (unlinked : mapUnlink key k bucket = some rest) :
    mapRemoveAt key h k map = (.ok (), { map with table := map.table.setIfInBounds h rest, size := map.size - 1 }) := by
  change (match map.table[h]? with
    | none => throw .ABORT
    | some bucket =>
      match mapUnlink key k bucket with
      | none => throw .INVALID_ARGUMENT
      | some bucket => set { map with table := map.table.setIfInBounds h bucket, size := map.size - 1 } :
    Prog (Map α) Err Unit) map = _
  rw [slot]
  dsimp only
  rw [unlinked]
  rfl

theorem ngtcp2MapRemove_eq (key : α → UInt64) (map : Map α) (k : UInt64) :
    ngtcp2MapRemove key k map = mapRemoveAt key (hash k map.tablelen).toNat k map := rfl

theorem ngtcp2MapFind_iff (ok : map.Ok key) (k : UInt64) (e : α) :
    ngtcp2MapFind key map k = some e ↔ e ∈ entries map.table ∧ key e = k := by
  obtain ⟨bucket, slot⟩ := ok.laid.slot k
  rw [ngtcp2MapFind, mapFindAt_eq slot]
  constructor
  · intro found
    have hit : (key e == k) = true := List.find?_some (p := fun entry => key entry == k) found
    have same : key e = k := beq_iff_eq.mp hit
    exact ⟨(ok.laid.mem_bucket slot same).mp (List.mem_of_find?_eq_some found), same⟩
  · rintro ⟨member, same⟩
    have inside := (ok.laid.mem_bucket slot same).mpr member
    cases found : bucket.find? fun entry => key entry == k with
    | none => exact absurd (beq_iff_eq.mpr same) (List.find?_eq_none.mp found e inside)
    | some e' =>
      -- one entry has the key
      have hit : (key e' == k) = true := List.find?_some (p := fun entry => key entry == k) found
      have same' : key e' = k := beq_iff_eq.mp hit
      have member' := (ok.laid.mem_bucket slot same').mp (List.mem_of_find?_eq_some found)
      rw [List.inj_on_of_nodup_map ok.once member' member (same'.trans same.symm)]

theorem mapRemoveAt_spec (ok : map.Ok key) {h : Nat} {k : UInt64} {bucket : List α} (slot : map.table[h]? = some bucket)
    (placed : ∀ e ∈ bucket, (hash (key e) map.tablelen).toNat = h) :
    ∃ result map', mapRemoveAt key h k map = (result, map') ∧
      (result = .error .INVALID_ARGUMENT ∧ (∀ e ∈ bucket, key e ≠ k) ∧ map' = map ∨
        result = .ok () ∧ map'.Ok key ∧ ∃ e, key e = k ∧ (entries map.table).Perm (e :: entries map'.table)) := by
  obtain ⟨others, before, after⟩ := entries_set slot
  have spec := mapUnlink_spec key k bucket
  cases unlinked : mapUnlink key k bucket with
  | none =>
    rw [unlinked] at spec
    exact ⟨_, _, mapRemoveAt_none slot unlinked, .inl ⟨rfl, spec, rfl⟩⟩
  | some rest =>
    rw [unlinked] at spec
    obtain ⟨e, same, perm⟩ := spec
    have fewer := before.trans ((perm.append_right others).trans (.cons e (after rest).symm))
    have positive : 0 < map.size.toNat := by
      rw [ok.size, fewer.length_eq]
      exact Nat.succ_pos _
    have next : (map.size - 1).toNat = map.size.toNat - 1 := by
      rw [UInt64.toNat_sub_of_le]
      · rfl
      · exact UInt64.le_iff_toNat_le.mpr positive
    have load := ok.load
    have few := ok.few
    refine ⟨_, _, mapRemoveAt_some slot unlinked, .inr ⟨rfl, ?_, e, same, fewer⟩⟩
    exact {
      laid := ok.laid.set fun e member => placed e (perm.mem_iff.mpr (List.mem_cons_of_mem _ member))
      once := by
        have once := (fewer.map key).nodup_iff.mp ok.once
        exact (List.nodup_cons.mp once).2
      size := by
        dsimp only
        rw [next, ok.size, fewer.length_eq, List.length_cons, Nat.add_sub_cancel]
      power := ok.power
      load := by
        dsimp only
        omega
      few := by
        dsimp only
        omega }

theorem ngtcp2MapRemove_spec (ok : map.Ok key) (k : UInt64) :
    ∃ result map', ngtcp2MapRemove key k map = (result, map') ∧
      (result = .error .INVALID_ARGUMENT ∧ (∀ e ∈ entries map.table, key e ≠ k) ∧ map' = map ∨
        result = .ok () ∧ map'.Ok key ∧ ∃ e, key e = k ∧ (entries map.table).Perm (e :: entries map'.table)) := by
  obtain ⟨bucket, slot⟩ := ok.laid.slot k
  obtain ⟨result, map', run, cases⟩ := mapRemoveAt_spec (k := k) ok slot (ok.laid.placed _ _ slot)
  refine ⟨result, map', (ngtcp2MapRemove_eq key map k).trans run, ?_⟩
  rcases cases with ⟨refused, fresh, same⟩ | removed
  · exact .inl ⟨refused, fun e member alike => fresh e ((ok.laid.mem_bucket slot alike).mpr member) alike, same⟩
  · exact .inr removed

def Map.Denotes (key : α → UInt64) (map : Map α) (M : Finmap fun _ : UInt64 => α) : Prop :=
  ∀ k e, M.lookup k = some e ↔ e ∈ entries map.table ∧ key e = k

variable {M : Finmap fun _ : UInt64 => α} {map' : Map α}

theorem Map.Denotes.perm (denotes : map.Denotes key M) (perm : (entries map'.table).Perm (entries map.table)) :
    map'.Denotes key M := by
  intro k e
  rw [denotes, perm.mem_iff]

theorem Map.Denotes.mem_iff (denotes : map.Denotes key M) (k : UInt64) :
    k ∈ M ↔ ∃ e ∈ entries map.table, key e = k := by
  rw [← Finmap.lookup_isSome, Option.isSome_iff_exists]
  simp only [denotes k]

theorem Map.Denotes.insert (denotes : map.Denotes key M) {entry : α} (fresh : ∀ e ∈ entries map.table, key e ≠ key entry)
    (perm : (entries map'.table).Perm (entry :: entries map.table)) :
    map'.Denotes key (M.insert (key entry) entry) := by
  intro k e
  rw [perm.mem_iff, List.mem_cons]
  by_cases same : k = key entry
  · subst same
    rw [Finmap.lookup_insert, Option.some.injEq]
    constructor
    · rintro rfl
      exact ⟨.inl rfl, rfl⟩
    · rintro ⟨rfl | member, alike⟩
      · rfl
      · exact absurd alike (fresh e member)
  · rw [Finmap.lookup_insert_of_ne _ same, denotes]
    constructor
    · rintro ⟨member, rfl⟩
      exact ⟨.inr member, rfl⟩
    · rintro ⟨rfl | member, rfl⟩
      · exact absurd rfl same
      · exact ⟨member, rfl⟩

theorem Map.Denotes.erase (denotes : map.Denotes key M) (once : ((entries map.table).map key).Nodup) {k : UInt64} {e : α}
    (same : key e = k) (perm : (entries map.table).Perm (e :: entries map'.table)) : map'.Denotes key (M.erase k) := by
  have gone : ∀ e' ∈ entries map'.table, key e' ≠ k := by
    intro e' member alike
    have once := (perm.map key).nodup_iff.mp once
    rw [List.map_cons, List.nodup_cons] at once
    exact once.1 (List.mem_map.mpr ⟨e', member, alike.trans same.symm⟩)
  intro k' e'
  by_cases here : k' = k
  · subst here
    rw [Finmap.lookup_erase]
    constructor
    · exact nofun
    · rintro ⟨member, alike⟩
      exact absurd alike (gone e' member)
  · rw [Finmap.lookup_erase_ne here, denotes, perm.mem_iff, List.mem_cons]
    constructor
    · rintro ⟨rfl | member, rfl⟩
      · exact absurd same here
      · exact ⟨member, rfl⟩
    · rintro ⟨member, rfl⟩
      exact ⟨.inr member, rfl⟩

theorem Map.Denotes.card (denotes : map.Denotes key M) (ok : map.Ok key) : M.keys.card = map.size.toNat := by
  have keys : M.keys = ((entries map.table).map key).toFinset := by
    ext k
    rw [Finmap.mem_keys, denotes.mem_iff, List.mem_toFinset, List.mem_map]
  rw [keys, List.toFinset_card_of_nodup ok.once, List.length_map, ok.size]

/-- The tables that operations on fresh entries lead to, and the finite maps that they stand for, as long as there are
fewer than 2^29 keys. -/
inductive MapReached (key : α → UInt64) : Map α → Finmap (fun _ : UInt64 => α) → Prop
  | init : MapReached key ngtcp2MapInit ∅
  | inserted {map map' : Map α} {M : Finmap fun _ : UInt64 => α} {memory : Bool} {entry : α}
    (reached : MapReached key map M) (run : ngtcp2MapInsert key memory entry map = (.ok (), map'))
    (few : (M.insert (key entry) entry).keys.card < 2 ^ 29) : MapReached key map' (M.insert (key entry) entry)
  | refused {map map' : Map α} {M : Finmap fun _ : UInt64 => α} {memory : Bool} {entry : α} {e : Err}
    (reached : MapReached key map M) (run : ngtcp2MapInsert key memory entry map = (.error e, map')) :
    MapReached key map' M
  | removed {map map' : Map α} {M : Finmap fun _ : UInt64 => α} {k : UInt64} (reached : MapReached key map M)
    (run : ngtcp2MapRemove key k map = (.ok (), map')) : MapReached key map' (M.erase k)
  | missed {map map' : Map α} {M : Finmap fun _ : UInt64 => α} {k : UInt64} {e : Err} (reached : MapReached key map M)
    (run : ngtcp2MapRemove key k map = (.error e, map')) : MapReached key map' M

theorem MapReached.ok (reached : MapReached key map M) : map.Ok key ∧ map.Denotes key M := by
  induction reached with
  | init =>
    refine ⟨ngtcp2MapInit_ok key, fun k e => ?_⟩
    simp [ngtcp2MapInit, entries]
  | @inserted map map' M memory entry _ run few ih =>
    obtain ⟨ok, denotes⟩ := ih
    obtain ⟨result, next, run', cases⟩ := ngtcp2MapInsert_spec ok memory entry
    obtain ⟨rfl, rfl⟩ := Prod.mk.inj (run.symm.trans run')
    rcases cases with ⟨never, _⟩ | ⟨never, _⟩ | ⟨_, fresh, okNext, perm⟩
    · cases never
    · cases never
    · have absent : key entry ∉ M.keys := by
        rw [Finmap.mem_keys, denotes.mem_iff]
        rintro ⟨e, member, same⟩
        exact fresh e member same
      have keys : (M.insert (key entry) entry).keys = insert (key entry) M.keys := by
        ext k
        rw [Finmap.mem_keys, Finmap.mem_insert, Finset.mem_insert, Finmap.mem_keys]
      rw [keys, Finset.card_insert_of_notMem absent, denotes.card ok] at few
      exact ⟨okNext few, denotes.insert fresh perm⟩
  | @refused map map' M memory entry e _ run ih =>
    obtain ⟨ok, denotes⟩ := ih
    obtain ⟨result, next, run', cases⟩ := ngtcp2MapInsert_spec ok memory entry
    obtain ⟨rfl, rfl⟩ := Prod.mk.inj (run.symm.trans run')
    rcases cases with ⟨_, _, rfl⟩ | ⟨_, _, okNext, perm⟩ | ⟨never, _⟩
    · exact ⟨ok, denotes⟩
    · exact ⟨okNext, denotes.perm perm⟩
    · cases never
  | @removed map map' M k _ run ih =>
    obtain ⟨ok, denotes⟩ := ih
    obtain ⟨result, next, run', cases⟩ := ngtcp2MapRemove_spec ok k
    obtain ⟨rfl, rfl⟩ := Prod.mk.inj (run.symm.trans run')
    rcases cases with ⟨never, _⟩ | ⟨_, okNext, e, same, perm⟩
    · cases never
    · exact ⟨okNext, denotes.erase ok.once same perm⟩
  | @missed map map' M k e _ run ih =>
    obtain ⟨ok, denotes⟩ := ih
    obtain ⟨result, next, run', cases⟩ := ngtcp2MapRemove_spec ok k
    obtain ⟨rfl, rfl⟩ := Prod.mk.inj (run.symm.trans run')
    rcases cases with ⟨_, _, rfl⟩ | ⟨never, _⟩
    · exact ⟨ok, denotes⟩
    · cases never

end Map

/-- The hash table refines a finite map, and a table that is doubled keeps all entries. -/
theorem map_refines {α : Type} (key : α → UInt64) (map : Map α) (M : Finmap fun _ : UInt64 => α)
    (reached : MapReached key map M) :
    (∀ k, ngtcp2MapFind key map k = M.lookup k) ∧
    ngtcp2MapSize map = M.keys.card ∧
    (∃ n, map.tablelen.toNat = 2 ^ n) ∧ map.size.toNat * 4 ≤ map.tablelen.toNat * 3 ∧
    (∀ entry, if key entry ∈ M then
        ∃ map', ngtcp2MapInsert key true entry map = (.error .INVALID_ARGUMENT, map') ∧
          ∀ k, ngtcp2MapFind key map' k = ngtcp2MapFind key map k
      else ∃ map', ngtcp2MapInsert key true entry map = (.ok (), map')) ∧
    (∀ k, if k ∈ M then ∃ map', ngtcp2MapRemove key k map = (.ok (), map')
      else ngtcp2MapRemove key k map = (.error .INVALID_ARGUMENT, map)) ∧
    (mapLoaded map = true → ∀ result ∈ (mapRehash key map (map.tablelen * 2)).2, result = .ok ()) := by
  obtain ⟨ok, denotes⟩ := reached.ok
  have finds {map : Map α} (ok : map.Ok key) (denotes : map.Denotes key M) (k : UInt64) :
      ngtcp2MapFind key map k = M.lookup k := by
    apply Option.ext
    intro e
    rw [ngtcp2MapFind_iff ok, denotes]
  obtain ⟨n, _, _, power⟩ := ok.power
  refine ⟨finds ok denotes, (denotes.card ok).symm, ⟨n, power⟩, ok.load, fun entry => ?_, fun k => ?_,
    fun loaded => (ok.rehash loaded).1⟩
  · obtain ⟨result, map', run, cases⟩ := ngtcp2MapInsert_spec ok true entry
    rcases cases with ⟨_, never, _⟩ | ⟨rfl, present, okNext, perm⟩ | ⟨rfl, fresh, _, _⟩
    · cases never
    · rw [if_pos ((denotes.mem_iff _).mpr present)]
      exact ⟨map', run, fun k => (finds okNext (denotes.perm perm) k).trans (finds ok denotes k).symm⟩
    · have missing : key entry ∉ M := by
        rw [denotes.mem_iff]
        rintro ⟨e, member, same⟩
        exact fresh e member same
      rw [if_neg missing]
      exact ⟨map', run⟩
  · obtain ⟨result, map', run, cases⟩ := ngtcp2MapRemove_spec ok k
    rcases cases with ⟨rfl, fresh, rfl⟩ | ⟨rfl, _, e, same, perm⟩
    · have missing : k ∉ M := by
        rw [denotes.mem_iff]
        rintro ⟨e, member, same⟩
        exact fresh e member same
      rw [if_neg missing]
      exact run
    · rw [if_pos ((denotes.mem_iff k).mpr ⟨e, perm.mem_iff.mpr List.mem_cons_self, same⟩)]
      exact ⟨map', run⟩

theorem map_refines_inserted :
    ∃ map : Map UInt64, ngtcp2MapInsert id true 5 ngtcp2MapInit = (.ok (), map) ∧ ngtcp2MapSize map = 1 ∧
      ngtcp2MapFind id map 5 = some 5 ∧ ngtcp2MapRemove id 7 map = (.error .INVALID_ARGUMENT, map) := by
  have empty := map_refines id ngtcp2MapInit ∅ .init
  obtain ⟨map, run⟩ := empty.2.2.2.2.1 5
  have few : ((∅ : Finmap fun _ : UInt64 => UInt64).insert 5 5).keys.card = 1 := by decide
  have reached : MapReached id map ((∅ : Finmap fun _ : UInt64 => UInt64).insert 5 5) := by
    apply MapReached.inserted (.init : MapReached id ngtcp2MapInit ∅) run
    change ((∅ : Finmap fun _ : UInt64 => UInt64).insert 5 5).keys.card < _
    rw [few]
    decide
  obtain ⟨finds, size, _, _, _, removes, _⟩ := map_refines id map _ reached
  refine ⟨map, run, size.trans few, (finds 5).trans (Finmap.lookup_insert _), ?_⟩
  have missing : (7 : UInt64) ∉ (∅ : Finmap fun _ : UInt64 => UInt64).insert 5 5 := by decide
  have removed := removes 7
  rwa [if_neg missing] at removed

end Ngtcp2
