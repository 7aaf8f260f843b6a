import Mathlib.Algebra.GroupWithZero.Nat
import Mathlib.Data.List.Basic
import Mathlib.Data.List.Forall2

namespace Collections
set_option autoImplicit true

/-- A dictionary that keeps its keys in insertion order. -/
abbrev Dict (κ α : Type) := List (κ × α)

variable {κ α β : Type} [DecidableEq κ]

/-- Assigning to a key keeps its place; a new key goes last. -/
def Dict.set : Dict κ α → κ → α → Dict κ α
  | [], k, v => [(k, v)]
  | (k', v') :: d, k, v => if k' = k then (k, v) :: d else (k', v') :: Dict.set d k v

def Dict.update (d d' : Dict κ α) : Dict κ α :=
  d'.foldl (fun acc e => acc.set e.1 e.2) d

def Dict.setdefault (d : Dict κ α) (k : κ) (v : α) : Dict κ α :=
  if (d.lookup k).isSome then d else d.set k v

theorem lookup_cons_eq (k : κ) (v : α) (d : Dict κ α) : ((k, v) :: d).lookup k = some v := by
  simp only [List.lookup_cons, beq_self_eq_true]

theorem lookup_cons_ne {k k' : κ} (h : k' ≠ k) (v : α) (d : Dict κ α) :
    ((k', v) :: d).lookup k = d.lookup k := by
  have hb : (k == k') = false := by simpa only [beq_eq_false_iff_ne] using h.symm
  simp only [List.lookup_cons, hb]

theorem Dict.mem_of_lookup {d : Dict κ α} {k : κ} {v : α} (h : d.lookup k = some v) :
    (k, v) ∈ d := by
  obtain ⟨l₁, l₂, he, -⟩ := List.lookup_eq_some_iff.1 h
  rw [he]
  exact List.mem_append_right _ List.mem_cons_self

theorem Dict.mem_keys {d : Dict κ α} {k : κ} :
    k ∈ d.map Prod.fst ↔ ∃ v, d.lookup k = some v := by
  constructor
  · intro h
    obtain ⟨e, he, hk⟩ := List.mem_map.1 h
    have hsome : (d.lookup k).isSome = true := List.lookup_isSome_iff.2 ⟨e, he, by simp [hk]⟩
    exact Option.isSome_iff_exists.1 hsome
  · intro h
    obtain ⟨v, hv⟩ := h
    exact List.mem_map.2 ⟨_, Dict.mem_of_lookup hv, rfl⟩

@[simp] theorem Dict.lookup_set_self (d : Dict κ α) (k : κ) (v : α) :
    (d.set k v).lookup k = some v := by
  induction d with
  | nil => exact lookup_cons_eq k v []
  | cons e d ih =>
    obtain ⟨k', v'⟩ := e
    simp only [Dict.set]
    split
    · exact lookup_cons_eq k v d
    · rename_i hk
      rw [lookup_cons_ne hk]
      exact ih

theorem Dict.lookup_set_ne (d : Dict κ α) {k k' : κ} (h : k' ≠ k) (v : α) :
    (d.set k v).lookup k' = d.lookup k' := by
  induction d with
  | nil => exact lookup_cons_ne h.symm v []
  | cons e d ih =>
    obtain ⟨k₀, v₀⟩ := e
    simp only [Dict.set]
    split
    · rename_i hk
      subst hk
      rw [lookup_cons_ne h.symm, lookup_cons_ne h.symm]
    · by_cases hk' : k₀ = k'
      · subst hk'
        rw [lookup_cons_eq, lookup_cons_eq]
      · rw [lookup_cons_ne hk', lookup_cons_ne hk', ih]

theorem Dict.lookup_set (d : Dict κ α) (k k' : κ) (v : α) :
    (d.set k v).lookup k' = if k' = k then some v else d.lookup k' := by
  by_cases h : k' = k
  · subst h
    rw [if_pos rfl, d.lookup_set_self]
  · rw [if_neg h, d.lookup_set_ne h]

theorem Dict.lookup_setdefault_ne (d : Dict κ α) {k k' : κ} (h : k' ≠ k) (v : α) :
    (d.setdefault k v).lookup k' = d.lookup k' := by
  simp only [Dict.setdefault]
  split
  · rfl
  · exact d.lookup_set_ne h v

theorem Dict.lookup_filter_self (d : Dict κ α) (k : κ) :
    (d.filter (fun e => e.1 ≠ k)).lookup k = none := by
  rw [List.lookup_eq_none_iff]
  intro e he
  have hk := of_decide_eq_true (List.mem_filter.1 he).2
  exact bne_iff_ne.2 hk.symm

theorem Dict.lookup_mapEntries (d : Dict κ α) (f : κ → α → β) (k : κ) :
    (d.map (fun e => (e.1, f e.1 e.2))).lookup k = (d.lookup k).map (f k) := by
  induction d with
  | nil => rfl
  | cons e d ih =>
    obtain ⟨k₀, v₀⟩ := e
    rw [List.map_cons]
    by_cases hk : k₀ = k
    · subst hk
      rw [lookup_cons_eq, lookup_cons_eq]
      rfl
    · rw [lookup_cons_ne hk, lookup_cons_ne hk, ih]

/-- A map of the values commutes with an assignment. -/
theorem Dict.map_set (d : Dict κ α) (f : α → β) (k : κ) (v : α) :
    (d.set k v).map (fun e => (e.1, f e.2)) = Dict.set (d.map (fun e => (e.1, f e.2))) k (f v) := by
  induction d with
  | nil => rfl
  | cons e d ih =>
    obtain ⟨k₀, v₀⟩ := e
    rw [List.map_cons, Dict.set, Dict.set]
    split
    · rfl
    · rw [List.map_cons, ih]

theorem Dict.lookup_filter_ne (d : Dict κ α) {k k' : κ} (h : k' ≠ k) :
    (d.filter (fun e => e.1 ≠ k)).lookup k' = d.lookup k' := by
  induction d with
  | nil => rfl
  | cons e d ih =>
    obtain ⟨k₀, v₀⟩ := e
    by_cases hk : k₀ = k
    · subst hk
      rw [List.filter_cons_of_neg (by simp), ih, lookup_cons_ne h.symm]
    · rw [List.filter_cons_of_pos (by simpa using hk)]
      by_cases hk' : k₀ = k'
      · subst hk'
        rw [lookup_cons_eq, lookup_cons_eq]
      · rw [lookup_cons_ne hk', lookup_cons_ne hk', ih]

theorem Dict.length_set {d : Dict κ α} {k : κ} {v : α} (h : d.lookup k = some v) (v' : α) :
    (d.set k v').length = d.length := by
  induction d with
  | nil => cases h
  | cons e d ih =>
    obtain ⟨k₁, v₁⟩ := e
    rw [Dict.set]
    split
    · rfl
    · rename_i hk
      rw [lookup_cons_ne hk] at h
      rw [List.length_cons, List.length_cons, ih h]

theorem Dict.length_set_new {d : Dict κ α} {k : κ} (h : d.lookup k = none) (v : α) :
    (d.set k v).length = d.length + 1 := by
  induction d with
  | nil => rfl
  | cons e d ih =>
    obtain ⟨k₁, v₁⟩ := e
    rw [Dict.set]
    split
    · rename_i hk
      rw [hk, lookup_cons_eq] at h
      cases h
    · rename_i hk
      rw [lookup_cons_ne hk] at h
      rw [List.length_cons, List.length_cons, ih h]

/-- Assigning to a key that is there exchanges its share of a sum. -/
theorem Dict.sum_set {d : Dict κ α} {k : κ} {v : α} (f : α → Nat) (h : d.lookup k = some v)
    (v' : α) :
    ((d.set k v').map (fun e => f e.2)).sum + f v = (d.map (fun e => f e.2)).sum + f v' := by
  induction d with
  | nil => cases h
  | cons e d ih =>
    obtain ⟨k₀, v₀⟩ := e
    by_cases hk : k₀ = k
    · subst hk
      rw [lookup_cons_eq, Option.some.injEq] at h
      subst h
      rw [Dict.set, if_pos rfl, List.map_cons, List.map_cons, List.sum_cons, List.sum_cons]
      dsimp only
      omega
    · rw [lookup_cons_ne hk] at h
      have hrest := ih h
      rw [Dict.set, if_neg hk, List.map_cons, List.map_cons, List.sum_cons, List.sum_cons]
      dsimp only
      omega

theorem Dict.sum_set_new {d : Dict κ α} {k : κ} (f : α → Nat) (h : d.lookup k = none) (v : α) :
    ((d.set k v).map (fun e => f e.2)).sum = (d.map (fun e => f e.2)).sum + f v := by
  induction d with
  | nil => exact Nat.add_comm _ _
  | cons e d ih =>
    obtain ⟨k₀, v₀⟩ := e
    by_cases hk : k₀ = k
    · subst hk
      rw [lookup_cons_eq] at h
      cases h
    · rw [lookup_cons_ne hk] at h
      have hrest := ih h
      rw [Dict.set, if_neg hk, List.map_cons, List.map_cons, List.sum_cons, List.sum_cons]
      dsimp only
      omega

/-- The same dictionary, but for new entries under some of these keys. -/
def Dict.Extends (keys : List κ) (d d' : Dict κ α) : Prop :=
  ∀ k, d'.lookup k = d.lookup k ∨ k ∈ keys ∧ d.lookup k = none

section Extends
variable {keys : List κ} {d d' : Dict κ α}

theorem Dict.Extends.set (h : Dict.Extends keys d d') (k : κ) (v : α) :
    Dict.Extends keys (d.set k v) (d'.set k v) := by
  intro k'
  rw [Dict.lookup_set, Dict.lookup_set]
  by_cases hk : k' = k
  · rw [if_pos hk, if_pos hk]
    exact .inl rfl
  · rw [if_neg hk, if_neg hk]
    exact h k'

theorem Dict.Extends.setdefault (h : Dict.Extends keys d d') {k : κ} (hk : k ∉ keys) (v : α) :
    Dict.Extends keys (d.setdefault k v) (d'.setdefault k v) := by
  have hsame : d'.lookup k = d.lookup k := by
    rcases h k with hsame | ⟨hmem, -⟩
    · exact hsame
    · exact absurd hmem hk
  rw [Dict.setdefault, Dict.setdefault, hsame]
  split
  · exact h
  · exact h.set k v

theorem Dict.Extends.filter_ne (h : Dict.Extends keys d d') (k : κ) :
    Dict.Extends keys (d.filter (fun e => e.1 ≠ k)) (d'.filter (fun e => e.1 ≠ k)) := by
  intro k'
  by_cases hk : k' = k
  · rw [hk, Dict.lookup_filter_self, Dict.lookup_filter_self]
    exact .inl rfl
  · rw [Dict.lookup_filter_ne d hk, Dict.lookup_filter_ne d' hk]
    exact h k'

end Extends

/-- Two dictionaries with the same keys, in the same order, whose values are related. -/
def Dict.Rel (R : α → β → Prop) : Dict κ α → Dict κ β → Prop :=
  List.Forall₂ (fun e e' => e.1 = e'.1 ∧ R e.2 e'.2)

theorem Dict.Rel.lookup {R : α → β → Prop} {d : Dict κ α} {d' : Dict κ β} (h : d.Rel R d') (k : κ) :
    Option.Rel R (d.lookup k) (d'.lookup k) := by
  induction h with
  | nil => exact .none
  | @cons e e' _ _ he _ ih =>
    obtain ⟨k₀, v⟩ := e
    obtain ⟨k₀', v'⟩ := e'
    obtain ⟨rfl, hv⟩ : k₀ = k₀' ∧ R v v' := he
    by_cases hk : k₀ = k
    · subst hk
      rw [lookup_cons_eq, lookup_cons_eq]
      exact .some hv
    · rw [lookup_cons_ne hk, lookup_cons_ne hk]
      exact ih

theorem Dict.Rel.set {R : α → β → Prop} {d : Dict κ α} {d' : Dict κ β} (h : d.Rel R d') (k : κ)
    {v : α} {v' : β} (hv : R v v') : (d.set k v).Rel R (d'.set k v') := by
  induction h with
  | nil => exact .cons ⟨rfl, hv⟩ .nil
  | @cons e e' _ _ he hrest ih =>
    obtain ⟨k₀, v₀⟩ := e
    obtain ⟨k₀', v₀'⟩ := e'
    obtain ⟨rfl, hv₀⟩ : k₀ = k₀' ∧ R v₀ v₀' := he
    rw [Dict.set, Dict.set]
    split
    · exact .cons ⟨rfl, hv⟩ hrest
    · exact .cons ⟨rfl, hv₀⟩ ih

end Collections
