import FileScanner.Report

namespace FileScanner
open Collections
set_option autoImplicit true

def V1 : String := "v1.0"

def V2 : String := "v2.0"

/-- Every version this service answers on, with the path it is served under. -/
def PREFIXES : Dict String String := [("/api/v2.0/", V2), ("/api/v1.0/", V1)]

def ofPath (path : String) : String :=
  ((PREFIXES.find? (fun e => e.1.toList.isPrefixOf path.toList)).map Prod.snd).getD V2

def getKey (payload : Dict String Json) (key : String) : Json := (payload.lookup key).getD .null

def Json.orIfNone (value default : Json) : Json :=
  match value with
  | .null => default
  | v => v

def scalar (verdict : Dict String Json) : Json :=
  let kind := getKey verdict "kind"
  let score := getKey verdict "score"
  if kind.isStr "malware" then .bool true
  else if kind.isStr "flagged" then score.orIfNone (.bool true)
  else if kind.isStr "clean" then score.orIfNone (.bool false)
  else .null

def addScalar (out : Dict String Json) (e : String × Json) : Dict String Json :=
  match e.2 with
  | .obj verdict => out.set e.1 (scalar verdict)
  | _ => out

def qualify (out verdicts : Dict String Json) : Dict String Json :=
  match getKey verdicts "malware" with
  | .obj malware =>
    let kind := getKey malware "kind"
    if kind.isStr "partial" || kind.isStr "error" then
      let out := out.setdefault "error_kind"
        (.str (if kind.isStr "partial" then "file" else "transient"))
      let reason := getKey malware "reason"
      if reason.truthy then out.setdefault "error" reason else out
    else out
  | _ => out

def toV1 (payload : Dict String Json) : Dict String Json :=
  let out := payload.filter (fun e => e.1 ≠ "verdicts")
  match getKey payload "verdicts" with
  | .obj verdicts => qualify (verdicts.foldl addScalar out) verdicts
  | _ => out

/-- A payload in the shape a version asks for, stamped with that version. -/
def serialize (payload : Dict String Json) (version : String) : Dict String Json :=
  (if version = V1 then toV1 payload else payload).set "api_version" (.str version)

theorem getKey_of_lookup {d : Dict String Json} {k : String} {v : Json}
    (h : d.lookup k = some v) : getKey d k = v := by
  rw [getKey, h, Option.getD_some]

theorem lookup_of_getKey {d : Dict String Json} {k : String} {v : Json} (h : getKey d k = v)
    (hv : v ≠ .null) : d.lookup k = some v := by
  rw [getKey] at h
  cases hl : d.lookup k with
  | none =>
    rw [hl] at h
    exact absurd h.symm hv
  | some v' =>
    rw [hl, Option.getD_some] at h
    rw [h]

theorem lookup_foldl_addScalar_of_absent {d : Dict String Json} {c : String}
    (h : c ∉ d.map Prod.fst) (out : Dict String Json) :
    (d.foldl addScalar out).lookup c = out.lookup c := by
  induction d generalizing out with
  | nil => rfl
  | cons e d ih =>
    rw [List.map_cons, List.mem_cons, not_or] at h
    rw [List.foldl_cons, ih h.2]
    simp only [addScalar]
    split
    · exact Dict.lookup_set_ne out h.1 _
    · rfl

theorem lookup_foldl_addScalar {d : Dict String Json} (hd : d.Unique) {c : String}
    {verdict : Dict String Json} (h : d.lookup c = some (.obj verdict)) (out : Dict String Json) :
    (d.foldl addScalar out).lookup c = some (scalar verdict) := by
  induction d generalizing out with
  | nil => cases h
  | cons e d ih =>
    obtain ⟨k, v⟩ := e
    obtain ⟨hk, hd'⟩ := List.nodup_cons.1 hd
    rw [List.foldl_cons]
    by_cases hc : k = c
    · subst hc
      rw [lookup_cons_eq, Option.some.injEq] at h
      subst h
      rw [lookup_foldl_addScalar_of_absent hk]
      exact Dict.lookup_set_self out k _
    · rw [lookup_cons_ne hc] at h
      exact ih hd' h _

theorem lookup_qualify_of_some {out verdicts : Dict String Json} {c : String} {v : Json}
    (h : out.lookup c = some v) : (qualify out verdicts).lookup c = some v := by
  have hset (k : String) (w : Json) {d : Dict String Json} (hd : d.lookup c = some v) :
      (d.setdefault k w).lookup c = some v := by
    by_cases hk : c = k
    · subst hk
      rw [Dict.setdefault, hd]
      exact hd
    · rw [Dict.lookup_setdefault_ne d hk, hd]
  simp only [qualify]
  split
  · split
    · split
      · exact hset _ _ (hset _ _ h)
      · exact hset _ _ h
    · exact h
  · exact h

theorem lookup_toV1 {payload verdicts : Dict String Json} {c : String}
    {verdict : Dict String Json} (hp : payload.lookup "verdicts" = some (.obj verdicts))
    (hu : verdicts.Unique) (hc : verdicts.lookup c = some (.obj verdict)) :
    (toV1 payload).lookup c = some (scalar verdict) := by
  rw [toV1, getKey_of_lookup hp]
  exact lookup_qualify_of_some (lookup_foldl_addScalar hu hc _)

theorem lookup_serialize_v2 {payload : Dict String Json} {c : String} (hc : c ≠ "api_version") :
    (serialize payload V2).lookup c = payload.lookup c := by
  rw [serialize, if_neg (by decide), Dict.lookup_set_ne _ hc]

theorem ScanReport.verdicts_unique (report : ScanReport) : report.verdicts.Unique := by
  have h := groupBy_unique ScannerResult.category report.results
  rwa [Dict.Unique, verdicts, List.map_map, Function.comp_def]

theorem ScanReport.lookup_asDict (report : ScanReport) :
    report.asDict.lookup "verdicts" =
      some (.obj (report.verdicts.map (fun e => (e.1, .obj e.2.asDict)))) := rfl

theorem ScanReport.lookup_wire (report : ScanReport) (c : String) :
    (report.verdicts.map (fun e => (e.1, Json.obj e.2.asDict))).lookup c =
      (report.verdicts.lookup c).map (fun v => .obj v.asDict) :=
  Dict.lookup_mapValues report.verdicts (fun v : CategoryVerdict => Json.obj v.asDict) c

/-- The v1 view of a payload with the verdicts of a report has, for each axis that ran, the
scalar of its verdict. -/
theorem ScanReport.lookup_toV1 {report : ScanReport} {payload : Dict String Json}
    (hp : payload.lookup "verdicts" = report.asDict.lookup "verdicts") {c : String}
    {v : CategoryVerdict} (h : report.verdicts.lookup c = some v) :
    (toV1 payload).lookup c = some (scalar v.asDict) := by
  rw [report.lookup_asDict] at hp
  apply FileScanner.lookup_toV1 hp
  · have hu := report.verdicts_unique
    rwa [Dict.Unique, List.map_map, Function.comp_def]
  · rw [report.lookup_wire, h]
    rfl

theorem getKey_kind_asDict (v : CategoryVerdict) :
    getKey v.asDict "kind" = .str v.kind.word := rfl

theorem getKey_score_asDict (v : CategoryVerdict) :
    getKey v.asDict "score" = (v.score.map (fun s => Json.float (round4 s))).getD .null := by
  obtain ⟨kind, reason, score, location⟩ := v
  cases score <;> cases reason <;> cases location <;> rfl

end FileScanner
