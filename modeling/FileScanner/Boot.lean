import FileScanner.Lib.Fallible
import FileScanner.Registry

namespace FileScanner
open Collections Fallible
set_option autoImplicit true

def listedUnder (py : Python) (cat : String) : String :=
  "DEFAULT_SCANNERS[" ++ py.repr (.str cat) ++ "]"

/-- An engine listed under a category exists, is configured and declares that category. -/
def checkListed (py : Python) (registry : Registry) (cat : String) (name : Json) :
    Except Exc (String × Scanner) :=
  let unknown := Exc.runtimeError (listedUnder py cat ++ " names unknown scanner " ++ py.repr name
    ++ "; available: " ++ sortedRepr py (registry.map Prod.fst))
  match name with
  | .list _ | .obj _ => .error (.typeError ("unhashable type: '" ++ name.typeName ++ "'"))
  | .str s =>
    match registry.lookup s with
    | none => .error unknown
    | some (.error (.runtimeError m)) =>
      .error (.runtimeError ("scanner " ++ py.repr name ++ " in " ++ listedUnder py cat
        ++ " is not configured: " ++ m))
    | some (.error e) => .error e
    | some (.ok scanner) =>
      if scanner.category ≠ cat then
        .error (.runtimeError ("scanner " ++ py.repr name ++ " declares category "
          ++ py.repr (.str scanner.category) ++ " but is listed under " ++ py.repr (.str cat)
          ++ " in DEFAULT_SCANNERS"))
      else .ok (s, scanner)
  | _ => .error unknown

/-- One category of the map: not empty, every engine fit for it, and one axis type. -/
def checkCategory (py : Python) (registry : Registry) (entry : String × List Json) :
    Except Exc (List String) := do
  raiseIf (entry.2.isEmpty = true) (.runtimeError (listedUnder py entry.1 ++ " is empty"))
  let listed ← entry.2.mapM (checkListed py registry entry.1)
  raiseIf (1 < (listed.map (·.2.scored)).eraseDups.length)
    (.runtimeError (listedUnder py entry.1 ++ " mixes scored and unscored scanners; "
      ++ "a category must be a single axis type"))
  pure (listed.map Prod.fst)

def checkDefaultCategory (py : Python) (catMap : Dict String (List Json)) (cat : String) :
    Except Exc Unit :=
  raiseIf ((catMap.lookup cat).isNone = true)
    (.runtimeError ("DEFAULT_CATEGORIES names " ++ py.repr (.str cat)
      ++ ", absent from DEFAULT_SCANNERS (configured: " ++ sortedRepr py (catMap.map Prod.fst)
      ++ ")"))

def checkAdvisory (py : Python) (registry : Registry) (name : String) : Except Exc Unit :=
  raiseIf ((registry.lookup name).isNone = true)
    (.runtimeError ("ADVISORY_SCANNERS names unknown scanner " ++ py.repr (.str name)
      ++ "; available: " ++ sortedRepr py (registry.map Prod.fst)))

def checkCap (clamavDecides : Bool) (cap : String × Nat) : Except Exc Unit :=
  raiseIf (CLAMAV_MAX_FILE_BYTES < cap.2 ∧ clamavDecides = true)
    (.runtimeError (cap.1 ++ " (" ++ toString cap.2 ++ ") is above what clamav can scan ("
      ++ toString CLAMAV_MAX_FILE_BYTES ++ " bytes): lower it, or drop clamav from "
      ++ "DEFAULT_SCANNERS or make it advisory (exav streams any size)"))

/-- The check of the category configuration at boot. -/
def validateRegistry (py : Python) (settings : Settings) (registry : Registry) :
    Except Exc Unit := do
  let catMap ← categoryMap py settings
  let named ← catMap.mapM (checkCategory py registry)
  (defaultCategories settings).forM (checkDefaultCategory py catMap)
  (advisoryScanners settings).forM (checkAdvisory py registry)
  let clamavDecides := named.any (fun names => decide ("clamav" ∈ decidingScanners settings names))
  [("MAX_URL_SIZE", settings.maxUrlSize), ("MAX_UPLOAD_SIZE", settings.maxUploadSize)].forM
    (checkCap clamavDecides)

theorem checkListed_ok {py : Python} {registry : Registry} {cat : String} {name : Json}
    {listed : String × Scanner} (h : checkListed py registry cat name = .ok listed) :
    name = .str listed.1 ∧ registry.lookup listed.1 = some (.ok listed.2) ∧
      listed.2.category = cat := by
  cases name with
  | str s =>
    simp only [checkListed] at h
    split at h
    · cases h
    · cases h
    · cases h
    · rename_i scanner hs
      split at h
      · cases h
      · rename_i hcat
        cases h
        exact ⟨rfl, hs, not_not.1 hcat⟩
  | _ => cases h

/-- What a boot that succeeds has established about one category of the map. -/
structure CategoryFit (registry : Registry) (entry : String × List Json) : Prop where
  nonempty : entry.2 ≠ []
  fit : ∀ name ∈ entry.2, ∃ s scanner, name = .str s ∧ registry.lookup s = some (.ok scanner) ∧
    scanner.category = entry.1

theorem checkCategory_ok {py : Python} {registry : Registry} {entry : String × List Json}
    {names : List String} (h : checkCategory py registry entry = .ok names) :
    CategoryFit registry entry := by
  rw [checkCategory] at h
  obtain ⟨⟨⟩, hempty, h⟩ := bind_eq_ok.1 h
  obtain ⟨listed, hlisted, -⟩ := bind_eq_ok.1 h
  constructor
  · intro hnil
    rw [hnil] at hempty
    exact raiseIf_eq_ok.1 hempty rfl
  · intro name hname
    obtain ⟨l, -, hl⟩ := forall₂_exists_right (mapM_ok_forall₂ hlisted) hname
    obtain ⟨hs, hlookup, hcat⟩ := checkListed_ok hl
    exact ⟨l.1, l.2, hs, hlookup, hcat⟩

theorem validateRegistry_checked {py : Python} {settings : Settings} {registry : Registry}
    (h : validateRegistry py settings registry = .ok ()) :
    ∃ catMap, categoryMap py settings = .ok catMap ∧
      ∀ entry ∈ catMap, ∃ names, checkCategory py registry entry = .ok names := by
  rw [validateRegistry] at h
  obtain ⟨catMap, hmap, h⟩ := bind_eq_ok.1 h
  obtain ⟨named, hnamed, -⟩ := bind_eq_ok.1 h
  apply Exists.intro catMap
  apply And.intro hmap
  intro entry hentry
  obtain ⟨names, -, hcheck⟩ := forall₂_exists_right (mapM_ok_forall₂ hnamed) hentry
  exact ⟨names, hcheck⟩

theorem validateRegistry_ok {py : Python} {settings : Settings} {registry : Registry}
    (h : validateRegistry py settings registry = .ok ()) :
    ∃ catMap, categoryMap py settings = .ok catMap ∧
      ∀ entry ∈ catMap, CategoryFit registry entry := by
  obtain ⟨catMap, hmap, hchecked⟩ := validateRegistry_checked h
  apply Exists.intro catMap
  apply And.intro hmap
  intro entry hentry
  obtain ⟨names, hcheck⟩ := hchecked entry hentry
  exact checkCategory_ok hcheck

end FileScanner
