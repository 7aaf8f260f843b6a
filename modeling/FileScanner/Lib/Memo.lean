import FileScanner.Lib.Dict
import Mathlib.Logic.Function.Basic

namespace Memos
open Collections
set_option autoImplicit true

/-- Where a thread's call stands: the key to be looked up, missing from the table, built but not
stored yet, or in the table and to be read. -/
inductive Call (κ α : Type) where
  | idle
  | asked (key : κ)
  | missed (key : κ)
  | built (key : κ) (value : α)
  | stored (key : κ)
  deriving DecidableEq, Repr

/-- The turns a call still needs, at most. -/
def Call.left : Call κ α → Nat
  | .idle => 0
  | .stored _ => 1
  | .built _ _ => 2
  | .missed _ => 3
  | .asked _ => 4

theorem Call.left_le (call : Call κ α) : call.left ≤ 4 := by
  cases call with
  | _ => simp [left]

theorem left_eq_zero {call : Call κ α} (h : call.left ≤ 0) : call = .idle := by
  cases call with
  | idle => rfl
  | _ => exact absurd h (Nat.not_succ_le_zero _)

/-- A table filled on demand by several threads: the keys built and the answers given so far, in
order, and where the call of each thread stands. -/
structure Memo (ι κ α ε : Type) where
  table : Dict κ α
  builds : List κ
  answers : List (κ × Except ε α)
  calls : ι → Call κ α

inductive Turn (ι κ : Type) where
  | call (i : ι) (key : κ)
  | go (i : ι)
  deriving DecidableEq, Repr

variable {ι κ α ε : Type}

def Memo.start : Memo ι κ α ε := ⟨[], [], [], fun _ => .idle⟩

def Memo.Quiet (m : Memo ι κ α ε) : Prop := ∀ i, m.calls i = .idle

def Memo.count (m : Memo ι κ α ε) (key : κ) : Memo ι κ α ε :=
  { m with builds := m.builds ++ [key] }

/-- This was the outcome of one of the builds of the key. -/
def Memo.Made (build : Nat → κ → Except ε α) (m : Memo ι κ α ε) (key : κ)
    (result : Except ε α) : Prop :=
  ∃ n, m.builds[n]? = some key ∧ build n key = result

theorem Memo.Made.count {build : Nat → κ → Except ε α} {m : Memo ι κ α ε} {key : κ}
    {result : Except ε α} (h : m.Made build key result) (key' : κ) :
    (m.count key').Made build key result := by
  obtain ⟨n, hn, hbuild⟩ := h
  have hlt : n < m.builds.length := (List.getElem?_eq_some_iff.1 hn).1
  exact ⟨n, (List.getElem?_append_left hlt).trans hn, hbuild⟩

theorem made_count {build : Nat → κ → Except ε α} {m : Memo ι κ α ε} {key : κ}
    {result : Except ε α} (h : build m.builds.length key = result) :
    (m.count key).Made build key result :=
  ⟨m.builds.length, List.getElem?_concat_length, h⟩

section Threads
variable [DecidableEq ι]

def Memo.move (m : Memo ι κ α ε) (i : ι) (call : Call κ α) : Memo ι κ α ε :=
  { m with calls := Function.update m.calls i call }

def Memo.answer (m : Memo ι κ α ε) (i : ι) (key : κ) (result : Except ε α) : Memo ι κ α ε :=
  { m.move i .idle with answers := m.answers ++ [(key, result)] }

@[simp] theorem move_calls_self (m : Memo ι κ α ε) (i : ι) (call : Call κ α) :
    (m.move i call).calls i = call := by
  simp only [Memo.move, Function.update_self]

theorem move_calls_ne (m : Memo ι κ α ε) {i j : ι} (h : j ≠ i) (call : Call κ α) :
    (m.move i call).calls j = m.calls j := by
  simp only [Memo.move, Function.update_of_ne h]

/-- A call that moves leaves the calls of the others where they are. -/
theorem call_of_move {m : Memo ι κ α ε} {i j : ι} {call call' : Call κ α}
    (h : (m.move i call).calls j = call') : call = call' ∨ m.calls j = call' := by
  by_cases hj : j = i
  · rw [hj, move_calls_self] at h
    exact .inl h
  · rw [move_calls_ne m hj] at h
    exact .inr h

end Threads

section Table
variable [DecidableEq κ]

def Memo.store (m : Memo ι κ α ε) (key : κ) (value : α) : Memo ι κ α ε :=
  { m with table := m.table.set key value }

theorem lookup_store {m : Memo ι κ α ε} {key key' : κ} {value : α}
    (h : (m.table.lookup key).isSome) : ((m.store key' value).table.lookup key).isSome := by
  by_cases hkey : key' = key
  · simp only [hkey, Memo.store, Dict.lookup_set_self, Option.isSome_some]
  · simpa only [Memo.store, Dict.lookup_set_ne _ (Ne.symm hkey)] using h

/-- Everything in the table, on the way to it or answered comes from a build of its key. -/
structure Memo.Sound (build : Nat → κ → Except ε α) (m : Memo ι κ α ε) : Prop where
  table : ∀ key value, m.table.lookup key = some value → m.Made build key (.ok value)
  built : ∀ i key value, m.calls i = .built key value → m.Made build key (.ok value)
  stored : ∀ i key, m.calls i = .stored key → (m.table.lookup key).isSome
  answers : ∀ key result, (key, result) ∈ m.answers → m.Made build key result

/-- The key has its value, and no call is on the way to replace it. -/
structure Memo.Settled (m : Memo ι κ α ε) (key : κ) (value : α) : Prop where
  table : m.table.lookup key = some value
  missed : ∀ i, m.calls i ≠ .missed key
  built : ∀ i value', m.calls i ≠ .built key value'

theorem Memo.Quiet.settled {m : Memo ι κ α ε} {key : κ} {value : α} (h : m.Quiet)
    (hlookup : m.table.lookup key = some value) : m.Settled key value where
  table := hlookup
  missed i := by
    rw [h i]
    exact fun hcall => by cases hcall
  built i value' := by
    rw [h i]
    exact fun hcall => by cases hcall

/-- Between the two, the key was not built, and whoever asked for it got the value. -/
def Memo.Serves (m m' : Memo ι κ α ε) (key : κ) (value : α) : Prop :=
  m'.builds.count key = m.builds.count key ∧
    ∃ given, m'.answers = m.answers ++ given ∧
      ∀ result, (key, result) ∈ given → result = .ok value

variable {build : Nat → κ → Except ε α} {m m' m'' : Memo ι κ α ε} {key key' : κ} {value : α}

theorem sound_start : (Memo.start : Memo ι κ α ε).Sound build :=
  ⟨(fun _ _ h => by cases h), (fun _ _ _ h => by cases h), (fun _ _ h => by cases h),
    fun _ _ h => absurd h List.not_mem_nil⟩

theorem Memo.Sound.count (h : m.Sound build) (key : κ) : (m.count key).Sound build where
  table key' value hlookup := (h.table key' value hlookup).count key
  built i key' value hcall := (h.built i key' value hcall).count key
  stored := h.stored
  answers key' result hmem := (h.answers key' result hmem).count key

theorem Memo.Sound.store (h : m.Sound build) (hmade : m.Made build key (.ok value)) :
    (m.store key value).Sound build where
  table := by
    intro key' value' hlookup
    by_cases hkey : key = key'
    · simp only [Memo.store, ← hkey, Dict.lookup_set_self] at hlookup
      cases hlookup
      exact hkey ▸ hmade
    · simp only [Memo.store, Dict.lookup_set_ne _ (Ne.symm hkey)] at hlookup
      exact h.table key' value' hlookup
  built := h.built
  stored i key' hcall := lookup_store (h.stored i key' hcall)
  answers := h.answers

theorem Memo.Serves.rfl : m.Serves m key value :=
  ⟨Eq.refl _, [], (List.append_nil _).symm, fun _ h => absurd h List.not_mem_nil⟩

theorem Memo.Serves.trans (h : m.Serves m' key value) (h' : m'.Serves m'' key value) :
    m.Serves m'' key value := by
  obtain ⟨hcount, given, hgiven, hall⟩ := h
  obtain ⟨hcount', given', hgiven', hall'⟩ := h'
  refine ⟨hcount'.trans hcount, given ++ given', ?_, ?_⟩
  · rw [hgiven', hgiven, List.append_assoc]
  · intro result hmem
    rcases List.mem_append.1 hmem with hmem | hmem
    · exact hall result hmem
    · exact hall' result hmem

theorem serves_count (h : key' ≠ key) : m.Serves (m.count key') key value := by
  refine ⟨?_, [], (List.append_nil _).symm, fun _ hmem => absurd hmem List.not_mem_nil⟩
  rw [Memo.count, List.count_append, List.count_singleton, if_neg, Nat.add_zero]
  exact fun hbeq => h (beq_iff_eq.1 hbeq)

end Table

section Memo
variable [DecidableEq ι] [DecidableEq κ] (build : Nat → κ → Except ε α) (absent : κ → ε)

/-- One turn of the threads; `build` is given how many builds came before. -/
def Memo.turn (m : Memo ι κ α ε) : Turn ι κ → Memo ι κ α ε
  | .call i key =>
    match m.calls i with
    | .idle => m.move i (.asked key)
    | _ => m
  | .go i =>
    match m.calls i with
    | .idle => m
    | .asked key =>
      if (m.table.lookup key).isSome then m.move i (.stored key) else m.move i (.missed key)
    | .missed key =>
      match build m.builds.length key with
      | .error e => (m.count key).answer i key (.error e)
      | .ok value => (m.count key).move i (.built key value)
    | .built key value => (m.store key value).move i (.stored key)
    | .stored key =>
      match m.table.lookup key with
      | some value => m.answer i key (.ok value)
      | none => m.answer i key (.error (absent key))

def Memo.run (m : Memo ι κ α ε) (turns : List (Turn ι κ)) : Memo ι κ α ε :=
  turns.foldl (Memo.turn build absent) m

/-- What a turn can do. -/
inductive Memo.Change (m : Memo ι κ α ε) : Memo ι κ α ε → Prop where
  | rests : Change m m
  | asks (i : ι) (key : κ) : m.calls i = .idle → Change m (m.move i (.asked key))
  | hits (i : ι) (key : κ) : m.calls i = .asked key → (m.table.lookup key).isSome →
      Change m (m.move i (.stored key))
  | misses (i : ι) (key : κ) : m.calls i = .asked key → m.table.lookup key = none →
      Change m (m.move i (.missed key))
  | fails (i : ι) (key : κ) (e : ε) : m.calls i = .missed key →
      build m.builds.length key = .error e →
      Change m ((m.count key).answer i key (.error e))
  | builds (i : ι) (key : κ) (value : α) : m.calls i = .missed key →
      build m.builds.length key = .ok value →
      Change m ((m.count key).move i (.built key value))
  | stores (i : ι) (key : κ) (value : α) : m.calls i = .built key value →
      Change m ((m.store key value).move i (.stored key))
  | reads (i : ι) (key : κ) (value : α) : m.calls i = .stored key →
      m.table.lookup key = some value → Change m (m.answer i key (.ok value))
  | loses (i : ι) (key : κ) : m.calls i = .stored key → m.table.lookup key = none →
      Change m (m.answer i key (.error (absent key)))

theorem turn_change (m : Memo ι κ α ε) (t : Turn ι κ) :
    m.Change build absent (m.turn build absent t) := by
  cases t with
  | call i key =>
    rw [Memo.turn]
    cases hcall : m.calls i with
    | idle => exact .asks i key hcall
    | asked key' => exact .rests
    | missed key' => exact .rests
    | built key' value => exact .rests
    | stored key' => exact .rests
  | go i =>
    rw [Memo.turn]
    cases hcall : m.calls i with
    | idle => exact .rests
    | asked key =>
      dsimp only
      split
      · rename_i hhit
        exact .hits i key hcall hhit
      · rename_i hmiss
        exact .misses i key hcall (Option.not_isSome_iff_eq_none.1 hmiss)
    | missed key =>
      dsimp only
      cases hbuild : build m.builds.length key with
      | error e => exact .fails i key e hcall hbuild
      | ok value => exact .builds i key value hcall hbuild
    | built key value => exact .stores i key value hcall
    | stored key =>
      dsimp only
      cases hlookup : m.table.lookup key with
      | none => exact .loses i key hcall hlookup
      | some value => exact .reads i key value hcall hlookup

variable {build absent} {m m' : Memo ι κ α ε} {key : κ} {value : α}

theorem Memo.Sound.move (h : m.Sound build) (i : ι) {call : Call κ α}
    (hbuilt : ∀ key value, call = .built key value → m.Made build key (.ok value))
    (hstored : ∀ key, call = .stored key → (m.table.lookup key).isSome) :
    (m.move i call).Sound build where
  table := h.table
  answers := h.answers
  built := by
    intro j key value hj
    rcases call_of_move hj with hcall | hcall
    · exact hbuilt key value hcall
    · exact h.built j key value hcall
  stored := by
    intro j key hj
    rcases call_of_move hj with hcall | hcall
    · exact hstored key hcall
    · exact h.stored j key hcall

theorem Memo.Sound.answer (h : m.Sound build) (i : ι) {result : Except ε α}
    (hmade : m.Made build key result) : (m.answer i key result).Sound build := by
  have hmove : (m.move i .idle).Sound build :=
    h.move i (fun _ _ hcall => by cases hcall) (fun _ hcall => by cases hcall)
  refine ⟨hmove.table, hmove.built, hmove.stored, ?_⟩
  intro key' result' hmem
  rcases List.mem_append.1 hmem with hmem | hmem
  · exact h.answers key' result' hmem
  · cases List.mem_singleton.1 hmem
    exact hmade

theorem Memo.Sound.change (h : m.Sound build) (hchange : m.Change build absent m') :
    m'.Sound build := by
  cases hchange with
  | rests => exact h
  | asks i key =>
    exact h.move i (fun _ _ hcall => by cases hcall) (fun _ hcall => by cases hcall)
  | hits i key hcall hhit =>
    refine h.move i (fun _ _ hbuilt => by cases hbuilt) ?_
    intro key' hstored
    cases hstored
    exact hhit
  | misses i key =>
    exact h.move i (fun _ _ hcall => by cases hcall) (fun _ hcall => by cases hcall)
  | fails i key e hcall hbuild => exact (h.count key).answer i (made_count hbuild)
  | builds i key value hcall hbuild =>
    refine (h.count key).move i ?_ (fun _ hstored => by cases hstored)
    intro key' value' hbuilt
    cases hbuilt
    exact made_count hbuild
  | stores i key value hcall =>
    refine (h.store (h.built i key value hcall)).move i (fun _ _ hbuilt => by cases hbuilt) ?_
    intro key' hstored
    cases hstored
    rw [Memo.store, Dict.lookup_set_self]
    rfl
  | reads i key value hcall hlookup => exact h.answer i (h.table key value hlookup)
  | loses i key hcall hlookup =>
    have hsome := h.stored i key hcall
    rw [hlookup] at hsome
    cases hsome

/-- An answer is always the outcome of a build of the very key that was asked. -/
theorem sound_run (h : m.Sound build) (turns : List (Turn ι κ)) :
    (m.run build absent turns).Sound build := by
  induction turns generalizing m with
  | nil => exact h
  | cons t turns ih => exact ih (h.change (turn_change build absent m t))

theorem Memo.Settled.move (h : m.Settled key value) (i : ι) {call : Call κ α}
    (hmissed : call ≠ .missed key) (hbuilt : ∀ value', call ≠ .built key value') :
    (m.move i call).Settled key value where
  table := h.table
  missed := by
    intro j hj
    rcases call_of_move hj with hcall | hcall
    · exact hmissed hcall
    · exact h.missed j hcall
  built := by
    intro j value' hj
    rcases call_of_move hj with hcall | hcall
    · exact hbuilt value' hcall
    · exact h.built j value' hcall

theorem Memo.Settled.answer (h : m.Settled key value) (i : ι) (key' : κ)
    (result : Except ε α) : (m.answer i key' result).Settled key value := by
  have hmove : (m.move i .idle).Settled key value :=
    h.move i (fun hcall => by cases hcall) (fun _ hcall => by cases hcall)
  exact ⟨hmove.table, hmove.missed, hmove.built⟩

theorem serves_answer (i : ι) {key' : κ} {result : Except ε α}
    (h : key' = key → result = .ok value) : m.Serves (m.answer i key' result) key value := by
  refine ⟨rfl, [(key', result)], rfl, ?_⟩
  intro result' hmem
  cases List.mem_singleton.1 hmem
  exact h rfl

theorem Memo.Settled.change (h : m.Settled key value) (hchange : m.Change build absent m') :
    m'.Settled key value ∧ m.Serves m' key value := by
  cases hchange with
  | rests => exact ⟨h, .rfl⟩
  | asks i key' =>
    exact ⟨h.move i (fun hcall => by cases hcall) (fun _ hcall => by cases hcall), .rfl⟩
  | hits i key' =>
    exact ⟨h.move i (fun hcall => by cases hcall) (fun _ hcall => by cases hcall), .rfl⟩
  | misses i key' hcall hmiss =>
    refine ⟨h.move i ?_ (fun _ hcall => by cases hcall), .rfl⟩
    intro hkey
    cases hkey
    rw [h.table] at hmiss
    cases hmiss
  | fails i key' e hcall hbuild =>
    have hkey : key' ≠ key := fun heq => h.missed i (heq ▸ hcall)
    have hcount : (m.count key').Settled key value := ⟨h.table, h.missed, h.built⟩
    exact ⟨hcount.answer i key' _,
      (serves_count hkey).trans (serves_answer i (fun heq => absurd heq hkey))⟩
  | builds i key' value' hcall hbuild =>
    have hkey : key' ≠ key := fun heq => h.missed i (heq ▸ hcall)
    have hcount : (m.count key').Settled key value := ⟨h.table, h.missed, h.built⟩
    refine ⟨hcount.move i (fun hmissed => by cases hmissed) ?_, serves_count hkey⟩
    intro value'' hbuilt
    cases hbuilt
    exact hkey rfl
  | stores i key' value' hcall =>
    have hkey : key' ≠ key := fun heq => h.built i value' (heq ▸ hcall)
    have hstore : (m.store key' value').Settled key value :=
      ⟨(Dict.lookup_set_ne _ hkey.symm _).trans h.table, h.missed, h.built⟩
    exact ⟨hstore.move i (fun hmissed => by cases hmissed) (fun _ hbuilt => by cases hbuilt),
      .rfl⟩
  | reads i key' value' hcall hlookup =>
    refine ⟨h.answer i key' _, serves_answer i ?_⟩
    intro hkey
    rw [hkey, h.table] at hlookup
    cases hlookup
    rfl
  | loses i key' hcall hlookup =>
    refine ⟨h.answer i key' _, serves_answer i ?_⟩
    intro hkey
    rw [hkey, h.table] at hlookup
    cases hlookup

/-- A settled key stays settled: it is never built again, and every answer is its one value. -/
theorem settled_run (h : m.Settled key value) (turns : List (Turn ι κ)) :
    (m.run build absent turns).Settled key value ∧
      m.Serves (m.run build absent turns) key value := by
  induction turns generalizing m with
  | nil => exact ⟨h, .rfl⟩
  | cons t turns ih =>
    obtain ⟨hsettled, hserves⟩ := h.change (turn_change build absent m t)
    obtain ⟨hrest, hthen⟩ := ih hsettled
    exact ⟨hrest, hserves.trans hthen⟩

theorem lookup_change (hchange : m.Change build absent m') (h : (m.table.lookup key).isSome) :
    (m'.table.lookup key).isSome := by
  cases hchange with
  | stores i key' value' => exact lookup_store h
  | _ => exact h

theorem lookup_run (turns : List (Turn ι κ)) (h : (m.table.lookup key).isSome) :
    ((m.run build absent turns).table.lookup key).isSome := by
  induction turns generalizing m with
  | nil => exact h
  | cons t turns ih => exact ih (lookup_change (turn_change build absent m t) h)

def Turn.thread : Turn ι κ → ι
  | .call i _ | .go i => i

variable (build absent m) in
theorem turn_calls_ne {t : Turn ι κ} {i : ι} (h : i ≠ t.thread) :
    (m.turn build absent t).calls i = m.calls i := by
  cases t with
  | call j key =>
    rw [Memo.turn]
    cases m.calls j with
    | idle => exact move_calls_ne m h _
    | _ => rfl
  | go j =>
    rw [Memo.turn]
    cases m.calls j with
    | idle => rfl
    | asked key =>
      dsimp only
      split <;> exact move_calls_ne m h _
    | missed key =>
      dsimp only
      split <;> exact move_calls_ne (m.count key) h _
    | built key value => exact move_calls_ne (m.store key value) h _
    | stored key =>
      dsimp only
      split <;> exact move_calls_ne m h _

variable (build absent m) in
theorem left_go (i : ι) : ((m.turn build absent (.go i)).calls i).left ≤ (m.calls i).left - 1 := by
  rw [Memo.turn]
  cases hcall : m.calls i with
  | idle =>
    dsimp only
    rw [hcall]
    exact Nat.le_refl 0
  | asked key =>
    dsimp only
    split <;> simp [Call.left]
  | missed key =>
    dsimp only
    split
    · simp [Memo.answer, Call.left]
    · simp [Call.left]
  | built key value =>
    simp [Call.left]
  | stored key =>
    dsimp only
    split <;> simp [Memo.answer, Call.left]

/-- Each of its own turns brings a call nearer to its answer, whatever the others do. -/
theorem left_run (i : ι) {turns : List (Turn ι κ)} (h : ∀ key, .call i key ∉ turns) :
    ((m.run build absent turns).calls i).left ≤ (m.calls i).left - turns.count (.go i) := by
  induction turns generalizing m with
  | nil => exact Nat.le_refl _
  | cons t turns ih =>
    have ih' := @ih (m.turn build absent t) (fun key hmem => h key (List.mem_cons_of_mem _ hmem))
    rw [List.count_cons]
    by_cases ht : t = .go i
    · have hgo := left_go build absent m i
      rw [ht] at ih' ⊢
      rw [if_pos (beq_self_eq_true _)]
      exact Nat.le_trans ih' (by omega)
    · have hne : i ≠ t.thread := by
        intro hi
        cases t with
        | call j key =>
          cases hi
          exact h key List.mem_cons_self
        | go j =>
          cases hi
          exact ht rfl
      rw [turn_calls_ne build absent m hne] at ih'
      rwa [if_neg (fun hbeq => ht (beq_iff_eq.1 hbeq)), Nat.add_zero]

/-- One thread's call, with the turns it takes at most. -/
def ask (i : ι) (key : κ) : List (Turn ι κ) := .call i key :: List.replicate 4 (.go i)

variable (build absent) in
theorem run_calls_ne {i : ι} {turns : List (Turn ι κ)} (h : ∀ t ∈ turns, i ≠ t.thread) :
    (m.run build absent turns).calls i = m.calls i := by
  induction turns generalizing m with
  | nil => rfl
  | cons t turns ih =>
    exact (ih (fun t' hmem => h t' (List.mem_cons_of_mem _ hmem))).trans
      (turn_calls_ne build absent m (h t List.mem_cons_self))

/-- The key is in the table, or this call is about to put it there. -/
def Memo.Heads (m : Memo ι κ α ε) (i : ι) (key : κ) : Prop :=
  (m.table.lookup key).isSome ∨ m.calls i = .asked key ∨ m.calls i = .missed key ∨
    ∃ value, m.calls i = .built key value

theorem Memo.Heads.go {i : ι} (h : m.Heads i key)
    (hbuild : ∀ n, ∃ value, build n key = .ok value) :
    (m.turn build absent (.go i)).Heads i key := by
  rcases h with hlookup | hcall | hcall | ⟨value, hcall⟩
  · exact .inl (lookup_change (turn_change build absent m _) hlookup)
  · simp only [Memo.turn, hcall]
    split
    · rename_i hhit
      exact .inl hhit
    · exact .inr (.inr (.inl (move_calls_self m i _)))
  · obtain ⟨value, hvalue⟩ := hbuild m.builds.length
    simp only [Memo.turn, hcall, hvalue]
    exact .inr (.inr (.inr ⟨value, move_calls_self _ i _⟩))
  · simp only [Memo.turn, hcall]
    refine .inl ?_
    simp only [Memo.move, Memo.store, Dict.lookup_set_self, Option.isSome_some]

theorem heads_run {i : ι} (h : m.Heads i key)
    (hbuild : ∀ n, ∃ value, build n key = .ok value) (k : Nat) :
    (m.run build absent (List.replicate k (.go i))).Heads i key := by
  induction k generalizing m with
  | zero => exact h
  | succ k ih => exact ih (h.go hbuild)

/-- A call that finds the threads quiet leaves them so, with its key in the table. -/
theorem ask_quiet (h : m.Quiet) (i : ι) (hbuild : ∀ n, ∃ value, build n key = .ok value) :
    (m.run build absent (ask i key)).Quiet ∧
      ((m.run build absent (ask i key)).table.lookup key).isSome := by
  have hasked : m.turn build absent (.call i key) = m.move i (.asked key) := by
    simp only [Memo.turn, h i]
  have hrun : m.run build absent (ask i key) =
      (m.move i (.asked key)).run build absent (List.replicate 4 (.go i)) :=
    congrArg (fun m' => Memo.run build absent m' (List.replicate 4 (.go i))) hasked
  have hidle : (m.run build absent (ask i key)).calls i = .idle := by
    have hleft := @left_run ι κ α ε _ _ build absent (m.move i (.asked key)) i
      (List.replicate 4 (.go i)) (fun key' hmem => by cases List.eq_of_mem_replicate hmem)
    rw [move_calls_self, List.count_replicate_self] at hleft
    rw [hrun]
    exact left_eq_zero hleft
  constructor
  · intro j
    by_cases hj : j = i
    · rw [hj]
      exact hidle
    · rw [run_calls_ne build absent, h j]
      intro t hmem
      rcases List.mem_cons.1 hmem with rfl | hmem
      · exact hj
      · rw [List.eq_of_mem_replicate hmem]
        exact hj
  · have hheads : (m.move i (.asked key)).Heads i key := .inr (.inl (move_calls_self m i _))
    have hends := @heads_run ι κ α ε _ _ build absent _ key i hheads hbuild 4
    rw [← hrun] at hends
    rcases hends with hlookup | hcall | hcall | ⟨value, hcall⟩
    · exact hlookup
    all_goals (rw [hidle] at hcall; cases hcall)

/-- Called for one key after the other, by one thread and with no one else about, the table ends
up with them all. -/
theorem asks_quiet (h : m.Quiet) (i : ι) {keys : List κ}
    (hbuild : ∀ key ∈ keys, ∀ n, ∃ value, build n key = .ok value) :
    (m.run build absent (keys.flatMap (ask i))).Quiet ∧
      ∀ key ∈ keys, ((m.run build absent (keys.flatMap (ask i))).table.lookup key).isSome := by
  induction keys generalizing m with
  | nil => exact ⟨h, fun key hmem => absurd hmem List.not_mem_nil⟩
  | cons key keys ih =>
    obtain ⟨hquiet, hkey⟩ := @ask_quiet ι κ α ε _ _ build absent m key h i
      (hbuild key List.mem_cons_self)
    obtain ⟨hends, hkeys⟩ := ih hquiet (fun key' hmem => hbuild key' (List.mem_cons_of_mem _ hmem))
    have hrun : m.run build absent ((key :: keys).flatMap (ask i)) =
        (m.run build absent (ask i key)).run build absent (keys.flatMap (ask i)) := by
      rw [List.flatMap_cons, Memo.run, List.foldl_append]
      rfl
    rw [hrun]
    refine ⟨hends, ?_⟩
    intro key' hmem
    rcases List.mem_cons.1 hmem with rfl | hmem
    · exact lookup_run _ hkey
    · exact hkeys key' hmem

end Memo

end Memos
