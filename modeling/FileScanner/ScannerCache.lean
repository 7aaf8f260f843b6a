import FileScanner.Lib.Memo
import FileScanner.Selection

namespace FileScanner
open Collections Memos
set_option autoImplicit true

/-- A scanner object: what its builder gave, and which build made it. -/
structure Instance where
  serial : Nat
  scanner : Scanner

/-- `_cache` in a process, with the calls of `get_scanner` that its threads are in. -/
abbrev ScannerCache (ι : Type) := Memo ι String Instance Exc

/-- `_BUILDERS[name]()`. -/
def newInstance (registry : Registry) (serial : Nat) (name : String) : Except Exc Instance :=
  (getScanner registry name).map (Instance.mk serial)

section Cache
variable {ι : Type} [DecidableEq ι]

def ScannerCache.run (registry : Registry) (cache : ScannerCache ι)
    (turns : List (Turn ι String)) : ScannerCache ι :=
  Memo.run (newInstance registry) .keyError cache turns

/-- The names `validate_registry` looks up: those of each category, once for each check. -/
def bootLookups (catMap : Dict String (List Json)) : List String :=
  catMap.flatMap (fun entry => entry.2.filterMap Json.text? ++ entry.2.filterMap Json.text?)

/-- The cache at boot, filled by the thread that validates the configuration. -/
def bootCache (registry : Registry) (catMap : Dict String (List Json)) (main : ι) :
    ScannerCache ι :=
  ScannerCache.run registry Memo.start ((bootLookups catMap).flatMap (ask main))

/-- Between the two, no scanner was built for the name and every call for it gave this one. -/
abbrev ScannerCache.Serves (cache cache' : ScannerCache ι) (name : String)
    (scanner : Instance) : Prop :=
  Memo.Serves cache cache' name scanner

theorem newInstance_map (registry : Registry) (serial : Nat) (name : String) :
    (newInstance registry serial name).map Instance.scanner = getScanner registry name := by
  rw [newInstance]
  cases getScanner registry name with
  | error e => rfl
  | ok scanner => rfl

theorem newInstance_ok {registry : Registry} {name : String} {scanner : Scanner}
    (h : getScanner registry name = .ok scanner) (serial : Nat) :
    newInstance registry serial name = .ok ⟨serial, scanner⟩ := by
  rw [newInstance, h]
  rfl

omit [DecidableEq ι] in
theorem getScanner_of_made {registry : Registry} {cache : ScannerCache ι} {name : String}
    {result : Except Exc Instance} (h : cache.Made (newInstance registry) name result) :
    result.map Instance.scanner = getScanner registry name := by
  obtain ⟨n, -, rfl⟩ := h
  exact newInstance_map registry n name

theorem getScanner_bootLookups {registry : Registry} {catMap : Dict String (List Json)}
    (hfit : ∀ entry ∈ catMap, CategoryFit registry entry) {name : String}
    (h : name ∈ bootLookups catMap) : ∃ scanner, getScanner registry name = .ok scanner := by
  obtain ⟨entry, hentry, hname⟩ := List.mem_flatMap.1 h
  rw [List.mem_append, or_self, List.mem_filterMap] at hname
  obtain ⟨value, hvalue, htext⟩ := hname
  obtain ⟨s, scanner, rfl, hlookup, -⟩ := (hfit entry hentry).fit value hvalue
  cases htext
  exact ⟨scanner, getScanner_of_lookup hlookup⟩

theorem bootCache_settled {registry : Registry} {catMap : Dict String (List Json)}
    (hfit : ∀ entry ∈ catMap, CategoryFit registry entry) (main : ι) {name : String}
    (h : name ∈ bootLookups catMap) :
    ∃ scanner, (bootCache registry catMap main).Settled name scanner := by
  have hbuild : ∀ key ∈ bootLookups catMap, ∀ n, ∃ value,
      newInstance registry n key = .ok value := by
    intro key hkey n
    obtain ⟨scanner, hscanner⟩ := getScanner_bootLookups hfit hkey
    exact ⟨_, newInstance_ok hscanner n⟩
  have hstart : (Memo.start : ScannerCache ι).Quiet := fun _ => rfl
  obtain ⟨hquiet, hfilled⟩ := @asks_quiet ι String Instance Exc _ _ (newInstance registry)
    .keyError _ hstart main _ hbuild
  obtain ⟨scanner, hlookup⟩ := Option.isSome_iff_exists.1 (hfilled name h)
  exact ⟨scanner, hquiet.settled hlookup⟩

/-- The cache changes nothing: whatever the threads do after boot, and in whatever order, a call
of `get_scanner` gives what the builder of its name gives, the engines of the configuration are
the ones built at boot, and a call is answered by four turns of its own. -/
theorem get_scanner_transparent (py : Python) (settings : Settings) (registry : Registry)
    (catMap : Dict String (List Json)) (main : ι)
    (hmap : categoryMap py settings = .ok catMap)
    (hboot : validateRegistry py settings registry = .ok ()) (turns : List (Turn ι String)) :
    let booted := bootCache registry catMap main
    let cache := booted.run registry turns
    (∀ name result, (name, result) ∈ cache.answers →
      result.map Instance.scanner = getScanner registry name) ∧
    (∀ name ∈ bootLookups catMap, ∃ scanner, booted.table.lookup name = some scanner ∧
      getScanner registry name = .ok scanner.scanner ∧ booted.Serves cache name scanner) ∧
    ∀ later : List (Turn ι String),
      (∀ name scanner, cache.Settled name scanner →
        cache.Serves (cache.run registry later) name scanner) ∧
      ∀ i, (∀ name, .call i name ∉ later) → 4 ≤ later.count (.go i) →
        (cache.run registry later).calls i = .idle := by
  intro booted cache
  have hbooted : booted.Sound (newInstance registry) := sound_run sound_start _
  have hsound : cache.Sound (newInstance registry) := sound_run hbooted turns
  refine ⟨?_, ?_, ?_⟩
  · intro name result hmem
    exact getScanner_of_made (hsound.answers name result hmem)
  · intro name hname
    obtain ⟨catMap', hmap', hfit⟩ := validateRegistry_ok hboot
    cases hmap.symm.trans hmap'
    obtain ⟨scanner, hsettled⟩ := bootCache_settled hfit main hname
    have hmade := hbooted.table name scanner hsettled.table
    exact ⟨scanner, hsettled.table, (getScanner_of_made hmade).symm,
      (settled_run hsettled turns).2⟩
  · intro later
    refine ⟨fun name scanner hsettled => (settled_run hsettled later).2, ?_⟩
    intro i hcalls hgoes
    have hleft := @left_run ι String Instance Exc _ _ (newInstance registry) .keyError cache i
      later hcalls
    have hbound := (cache.calls i).left_le
    exact left_eq_zero (Nat.le_trans hleft (by omega))

end Cache

/-- Two threads that ask for an engine at the same time may both build it. -/
def race : List (Turn Nat String) :=
  [.call 1 "nudenet", .call 2 "nudenet", .go 1, .go 2, .go 1, .go 2, .go 1, .go 2, .go 1, .go 2]

theorem get_scanner_transparent_race :
    let booted := bootCache threeBackends [("malware", [.str "clamav", .str "exav"])] 0
    let cache := booted.run threeBackends race
    cache.builds.count "nudenet" = 2 ∧
      (∀ name result, (name, result) ∈ cache.answers →
        result.map Instance.scanner = getScanner threeBackends name) ∧
      ∃ scanner, booted.table.lookup "exav" = some scanner ∧
        booted.Serves cache "exav" scanner := by
  obtain ⟨hanswers, hserves, -⟩ :=
    get_scanner_transparent (mappingPython twoEngines) twoEnginesSettings threeBackends
      [("malware", [.str "clamav", .str "exav"])] 0 rfl rfl race
  obtain ⟨scanner, hlookup, -, hexav⟩ := hserves "exav" (by decide)
  exact ⟨rfl, hanswers, scanner, hlookup, hexav⟩

end FileScanner
