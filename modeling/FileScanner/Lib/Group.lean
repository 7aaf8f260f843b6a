import FileScanner.Lib.Dict
import Mathlib.Data.List.Induction

namespace Collections
set_option autoImplicit true

variable {κ α β : Type} [DecidableEq κ] {key : α → κ} {xs ys : List α} {k : κ} {v : α}

/-- Append to the list under a key, opening an empty one first when there is none. -/
def Dict.push (d : Dict κ (List α)) (k : κ) (x : α) : Dict κ (List α) :=
  d.set k (((d.lookup k).getD []) ++ [x])

/-- Group a list by a key, the groups in first-seen order and each in list order. -/
def groupBy (key : α → κ) (xs : List α) : Dict κ (List α) :=
  xs.foldl (fun d x => d.push (key x) x) []

theorem Dict.lookup_push (d : Dict κ (List α)) (k k' : κ) (x : α) :
    (d.push k x).lookup k' =
      if k' = k then some (((d.lookup k).getD []) ++ [x]) else d.lookup k' :=
  d.lookup_set k k' _

theorem groupBy_append (key : α → κ) (xs : List α) (x : α) :
    groupBy key (xs ++ [x]) = (groupBy key xs).push (key x) x := by
  simp only [groupBy, List.foldl_append, List.foldl_cons, List.foldl_nil]

/-- A group is present exactly for the keys that occur, and holds their elements in order. -/
theorem lookup_groupBy (key : α → κ) (xs : List α) (k : κ) :
    (groupBy key xs).lookup k =
      if k ∈ xs.map key then some (xs.filter (fun x => key x = k)) else none := by
  induction xs using List.reverseRecOn with
  | nil => rfl
  | append_singleton xs x ih =>
    rw [groupBy_append, Dict.lookup_push]
    by_cases hk : k = key x
    · subst hk
      rw [if_pos rfl, ih]
      by_cases hm : key x ∈ xs.map key
      · simp [hm]
      · have hnil : xs.filter (fun y => key y = key x) = [] := by
          rw [List.filter_eq_nil_iff]
          intro y hy he
          exact hm (List.mem_map.2 ⟨y, hy, of_decide_eq_true he⟩)
        simp [hm, hnil]
    · have hx : ¬ key x = k := fun he => hk he.symm
      simp [hk, hx, ih, List.filter_append]

theorem lookup_groupBy_some (h : (groupBy key xs).lookup k = some ys) :
    k ∈ xs.map key ∧ ys = xs.filter (fun x => key x = k) := by
  rw [lookup_groupBy] at h
  split at h
  · rename_i hk
    exact ⟨hk, (Option.some.inj h).symm⟩
  · cases h

/-- A dictionary each of whose entries is the one a lookup finds. -/
def Dict.Unique (d : Dict κ α) : Prop := (d.map Prod.fst).Nodup

theorem Dict.mem_keys_set (d : Dict κ α) (k k' : κ) (v : α) :
    k' ∈ (d.set k v).map Prod.fst ↔ k' = k ∨ k' ∈ d.map Prod.fst := by
  induction d with
  | nil => simp [Dict.set]
  | cons e d ih =>
    obtain ⟨k₀, v₀⟩ := e
    simp only [Dict.set]
    split
    · rename_i hk
      subst hk
      simp
    · simp only [List.map_cons, List.mem_cons, ih]
      tauto

theorem Dict.Unique.set {d : Dict κ α} (h : d.Unique) (k : κ) (v : α) : (d.set k v).Unique := by
  induction d with
  | nil => simp [Dict.Unique, Dict.set]
  | cons e d ih =>
    obtain ⟨k₀, v₀⟩ := e
    simp only [Dict.Unique, List.map_cons, List.nodup_cons] at h
    simp only [Dict.set]
    split
    · rename_i hk
      subst hk
      simpa only [Dict.Unique, List.map_cons, List.nodup_cons] using h
    · rename_i hk
      simp only [Dict.Unique, List.map_cons, List.nodup_cons]
      refine ⟨?_, ih h.2⟩
      rw [Dict.mem_keys_set]
      rintro (he | hm)
      · exact hk he
      · exact h.1 hm

theorem groupBy_unique (key : α → κ) (xs : List α) : (groupBy key xs).Unique := by
  induction xs using List.reverseRecOn with
  | nil => exact List.nodup_nil
  | append_singleton xs x ih =>
    rw [groupBy_append]
    exact ih.set _ _

theorem Dict.Unique.lookup_of_mem {d : Dict κ α} (h : d.Unique) (hm : (k, v) ∈ d) :
    d.lookup k = some v := by
  induction d with
  | nil => cases hm
  | cons e d ih =>
    obtain ⟨k₀, v₀⟩ := e
    simp only [Dict.Unique, List.map_cons, List.nodup_cons] at h
    rcases List.mem_cons.1 hm with he | hm
    · cases he
      exact lookup_cons_eq k v d
    · have hne : k₀ ≠ k := by
        rintro rfl
        exact h.1 (List.mem_map.2 ⟨_, hm, rfl⟩)
      rw [lookup_cons_ne hne]
      exact ih h.2 hm

theorem Dict.lookup_mapValues (d : Dict κ α) (f : α → β) (k : κ) :
    (d.map (fun e => (e.1, f e.2))).lookup k = (d.lookup k).map f :=
  d.lookup_mapEntries (fun _ => f) k

end Collections
