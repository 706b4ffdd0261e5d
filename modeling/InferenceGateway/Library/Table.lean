import Mathlib.Data.List.Nodup
import Mathlib.Data.List.Basic

/-!
# Keyed tables

A table with a primary key, seen as the list of its rows in insertion order.
`update`, `insert` and `delete` are the statements `UPDATE … WHERE`, `INSERT`
and `DELETE … WHERE`; `changes` is the number of rows a statement would touch.
Every statement is described by what it does to the row found under a key.
-/

namespace InferenceGateway.Library

universe u v

/-- Rows in insertion order, no two of them under the same key. -/
structure Table {Key : Type u} {Row : Type v} (key : Row → Key) where
  rows : List Row
  nodup : (rows.map key).Nodup

namespace Table

variable {Key : Type u} {Row : Type v} {key : Row → Key}

def empty : Table key := ⟨[], List.nodup_nil⟩

/-- `UPDATE … SET f WHERE p`, for an assignment that leaves the key alone. -/
def update (table : Table key) (p : Row → Bool) (f : Row → Row)
    (keeps : ∀ row, key (f row) = key row) : Table key where
  rows := table.rows.map fun row => if p row then f row else row
  nodup := by
    have same : (key ∘ fun row => if p row then f row else row) = key := by
      funext row
      by_cases selected : p row <;> simp [selected, keeps]
    rw [List.map_map, same]
    exact table.nodup

/-- The number of rows a `WHERE` clause selects. -/
def changes (table : Table key) (p : Row → Bool) : Nat := table.rows.countP p

/-- `DELETE … WHERE p`. -/
def delete (table : Table key) (p : Row → Bool) : Table key where
  rows := table.rows.filter fun row => !p row
  nodup := table.nodup.sublist (List.filter_sublist.map key)

variable [DecidableEq Key]

/-- `SELECT … WHERE key = k`. -/
def get? (table : Table key) (k : Key) : Option Row :=
  table.rows.find? fun row => key row = k

/-- `INSERT`, refused when the key is taken. -/
def insert? (table : Table key) (row : Row) : Option (Table key) :=
  if taken : key row ∈ table.rows.map key then none
  else some {
    rows := table.rows ++ [row]
    nodup := by
      rw [List.map_append, List.map_singleton]
      exact List.nodup_append.mpr ⟨table.nodup, List.nodup_singleton _, by
        rintro k member _ hk rfl
        exact taken (List.mem_singleton.mp hk ▸ member)⟩ }

@[simp] theorem get?_empty (k : Key) : (empty : Table key).get? k = none := rfl

theorem key_of_get? {table : Table key} {k : Key} {row : Row}
    (found : table.get? k = some row) : key row = k := by
  simpa using List.find?_some found

theorem mem_of_get? {table : Table key} {k : Key} {row : Row}
    (found : table.get? k = some row) : row ∈ table.rows :=
  List.mem_of_find?_eq_some found

omit [DecidableEq Key] in
/-- Two rows of a table with the same key are the same row. -/
theorem eq_of_key_eq {table : Table key} {first second : Row}
    (hfirst : first ∈ table.rows) (hsecond : second ∈ table.rows)
    (same : key first = key second) : first = second :=
  List.inj_on_of_nodup_map table.nodup hfirst hsecond same

theorem get?_of_mem {table : Table key} {row : Row} (member : row ∈ table.rows) :
    table.get? (key row) = some row := by
  cases found : table.get? (key row) with
  | none =>
    have absent := List.find?_eq_none.mp found row member
    simp at absent
  | some other =>
    rw [eq_of_key_eq (mem_of_get? found) member (key_of_get? found)]

theorem get?_eq_some_iff {table : Table key} {k : Key} {row : Row} :
    table.get? k = some row ↔ row ∈ table.rows ∧ key row = k := by
  constructor
  · exact fun found => ⟨mem_of_get? found, key_of_get? found⟩
  · rintro ⟨member, rfl⟩
    exact get?_of_mem member

theorem get?_eq_none_iff {table : Table key} {k : Key} :
    table.get? k = none ↔ k ∉ table.rows.map key := by
  simp [get?]

theorem get?_update (table : Table key) (p : Row → Bool) (f : Row → Row)
    (keeps : ∀ row, key (f row) = key row) (k : Key) :
    (table.update p f keeps).get? k =
      (table.get? k).map fun row => if p row then f row else row := by
  unfold get? update
  rw [List.find?_map]
  congr 2
  funext row
  by_cases selected : p row <;> simp [selected, keeps]

theorem get?_delete (table : Table key) (p : Row → Bool) (k : Key) :
    (table.delete p).get? k = (table.get? k).filter fun row => !p row := by
  apply Option.ext
  intro row
  rw [get?_eq_some_iff, Option.filter_eq_some_iff, get?_eq_some_iff]
  simp only [delete, List.mem_filter]
  tauto

theorem insert?_eq_none_iff {table : Table key} {row : Row} :
    table.insert? row = none ↔ key row ∈ table.rows.map key := by
  unfold insert?
  split <;> simp_all

theorem rows_insert? {table table' : Table key} {row : Row}
    (inserted : table.insert? row = some table') : table'.rows = table.rows ++ [row] := by
  unfold insert? at inserted
  split at inserted
  · simp at inserted
  · cases inserted
    rfl

theorem get?_insert? {table table' : Table key} {row : Row}
    (inserted : table.insert? row = some table') (k : Key) :
    table'.get? k = if k = key row then some row else table.get? k := by
  have fresh : key row ∉ table.rows.map key := fun taken => by
    simp [insert?_eq_none_iff.mpr taken] at inserted
  have absent : table.get? (key row) = none := get?_eq_none_iff.mpr fresh
  unfold get? at absent ⊢
  rw [rows_insert? inserted, List.find?_append]
  by_cases same : k = key row
  · subst same
    simp [absent]
  · simp [same, Ne.symm same]

/-- A table whose rows correspond to those of another, whatever the order. -/
theorem perm_of_get? {table table' : Table key} {f : Row → Row}
    (keeps : ∀ row, key (f row) = key row)
    (same : ∀ k, table'.get? k = (table.get? k).map f) : table'.rows.Perm (table.rows.map f) := by
  have keys : (table.rows.map f).map key = table.rows.map key := by
    rw [List.map_map]
    exact List.map_congr_left fun row _ => keeps row
  have distinct : (table.rows.map f).Nodup := List.Nodup.of_map key (keys ▸ table.nodup)
  rw [List.perm_ext_iff_of_nodup (List.Nodup.of_map key table'.nodup) distinct]
  intro row'
  rw [List.mem_map]
  constructor
  · intro member
    have found := get?_of_mem member
    rw [same] at found
    obtain ⟨row, before, rfl⟩ := Option.map_eq_some_iff.mp found
    exact ⟨row, mem_of_get? before, rfl⟩
  · rintro ⟨row, member, rfl⟩
    have found : table'.get? (key row) = some (f row) := by
      rw [same, get?_of_mem member, Option.map_some]
    exact mem_of_get? found

theorem countP_of_get? {table table' : Table key} {f : Row → Row}
    (keeps : ∀ row, key (f row) = key row)
    (same : ∀ k, table'.get? k = (table.get? k).map f) (q : Row → Bool) :
    table'.rows.countP q = table.rows.countP fun row => q (f row) := by
  rw [(perm_of_get? keeps same).countP_eq, List.countP_map]
  rfl

/-! ### Statements about the row under one key -/

section AtKey

variable (table : Table key) (k : Key) (p : Row → Bool)

theorem changes_at :
    table.changes (fun row => key row = k && p row) =
      if (table.get? k).any p then 1 else 0 := by
  cases found : table.get? k with
  | none =>
    have absent := List.find?_eq_none.mp found
    rw [changes, List.countP_eq_zero.mpr]
    · simp
    · intro row member
      simp [show key row ≠ k by simpa using absent row member]
  | some row =>
    have hkey := key_of_get? found
    have member := mem_of_get? found
    have others : ∀ other ∈ table.rows, (key other = k && p other) = true ↔
        (other = row ∧ p row = true) := by
      intro other hother
      constructor
      · intro selected
        simp only [Bool.and_eq_true, decide_eq_true_eq] at selected
        have same := eq_of_key_eq hother member (selected.1.trans hkey.symm)
        exact ⟨same, same ▸ selected.2⟩
      · rintro ⟨rfl, selected⟩
        simp [hkey, selected]
    by_cases selected : p row
    · have unique : table.rows.countP (fun r => key r = k && p r) =
          table.rows.countP (fun r => key r = k) := by
        apply List.countP_congr
        intro other hother
        rw [others other hother]
        constructor
        · rintro ⟨rfl, -⟩
          simp [hkey]
        · intro same
          exact ⟨eq_of_key_eq hother member
            ((of_decide_eq_true same).trans hkey.symm), selected⟩
      have once : (table.rows.map key).count k = 1 :=
        List.count_eq_one_of_mem table.nodup (List.mem_map.mpr ⟨row, member, hkey⟩)
      rw [List.count, List.countP_map] at once
      simp only [changes, unique, Option.any_some, selected, if_true]
      rw [← once]
      apply List.countP_congr
      intro other _
      simp
    · rw [changes, List.countP_eq_zero.mpr]
      · simp [selected]
      · intro other hother
        rw [others other hother]
        simp [selected]

/-- Counting after a statement about one key: only the row under that key
can enter or leave the count. -/
theorem countP_update_at {row : Row} (found : table.get? k = some row)
    (selected : p row = true) (f : Row → Row) (keeps : ∀ row, key (f row) = key row)
    (q : Row → Bool) :
    (table.update (fun row => key row = k && p row) f keeps).rows.countP q +
        (if q row then 1 else 0) =
      table.rows.countP q + (if q (f row) then 1 else 0) := by
  obtain ⟨before, after, split⟩ := List.append_of_mem (mem_of_get? found)
  have hkey := key_of_get? found
  have nodup := table.nodup
  rw [split, List.map_append, List.map_cons, List.nodup_append] at nodup
  obtain ⟨-, nodupRest, apart⟩ := nodup
  have outside : ∀ other ∈ before ++ after, (key other = k && p other) = false := by
    intro other member
    have different : key other ≠ k := by
      rcases List.mem_append.mp member with left | right
      · exact fun same => apart _ (List.mem_map_of_mem left) _ List.mem_cons_self
          (same.trans hkey.symm)
      · exact fun same => (List.nodup_cons.mp nodupRest).1
          (hkey ▸ same ▸ List.mem_map_of_mem right)
    simp [different]
  have unchanged : ∀ part : List Row, (∀ other ∈ part, other ∈ before ++ after) →
      part.map (fun other => if (key other = k && p other) = true then f other else other) =
        part := by
    intro part inside
    rw [List.map_congr_left (g := id)]
    · simp
    · intro other member
      simp [outside other (inside other member)]
  simp only [update, split, List.map_append, List.map_cons]
  rw [unchanged before (fun _ h => List.mem_append_left _ h),
    unchanged after (fun _ h => List.mem_append_right _ h)]
  simp only [hkey, selected, List.countP_append, List.countP_cons]
  by_cases hq : q row <;> by_cases hf : q (f row) <;> simp [hq, hf] <;> omega

end AtKey

end Table

end InferenceGateway.Library
