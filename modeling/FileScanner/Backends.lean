import FileScanner.Backends.Clamd
import FileScanner.Backends.Jcop

namespace FileScanner
open Collections Fallible
set_option autoImplicit true

/-- The behaviour of every engine a deployment may use, towards one file. -/
structure Engines where
  instream : Bytes → Except ClamdError ClamdReply
  exinstream : Bytes → Except ClamdError String
  jcopReply : Nat → Except String JcopReply
  clock : Clock
  sha256 : Bytes → String

def rstripSlash (text : String) : String :=
  String.ofList (text.toList.reverse.dropWhile (· = '/')).reverse

def buildClamav (py : Python) (engines : Engines) : Except Exc Scanner :=
  .ok { scan := clamavScan py engines.instream }

def buildExav (py : Python) (settings : Settings) (engines : Engines) : Except Exc Scanner :=
  if settings.exavHosts = "" then
    .error (.runtimeError "exav backend requires EXAV_HOSTS (host:port,...)")
  else .ok { scan := exavScan py engines.exinstream }

def jcopService (settings : Settings) (engines : Engines) : JcopService where
  baseUrl := rstripSlash settings.jcopBaseUrl
  submitTimeout := settings.jcopSubmitTimeout
  sha256 := engines.sha256
  reply := engines.jcopReply
  clock := engines.clock

def buildJcop (py : Python) (settings : Settings) (engines : Engines) : Except Exc Scanner :=
  if rstripSlash settings.jcopBaseUrl = "" ∨ settings.jcopApiKey = "" then
    .error (.runtimeError "JCOP backend requires JCOP_BASE_URL and JCOP_API_KEY")
  else .ok { scan := jcopScan py (jcopService settings engines) }

def BUILDERS (py : Python) (settings : Settings) (engines : Engines) : Registry :=
  [("clamav", buildClamav py engines), ("exav", buildExav py settings engines),
    ("jcop", buildJcop py settings engines)]

def jcopExchanges (py : Python) (settings : Settings) (engines : Engines) (data : Bytes) :
    List Exchange :=
  (analyse py (jcopService settings engines) (engines.sha256 data) data).2

/-- The engine of this name gave its explicit all-clear for the file. -/
def AllClear (py : Python) (settings : Settings) (engines : Engines) (name : String)
    (data : Bytes) : Prop :=
  (name = "clamav" ∧ ClamdOk (engines.instream data)) ∨
    (name = "exav" ∧ ExavStatus py "OK" (engines.exinstream data)) ∨
    (name = "jcop" ∧ ∃ content, DoneReply (jcopExchanges py settings engines data) content ∧
      IsMalware content false)

/-- The engine of this name reported a detection in the file. -/
def Detects (py : Python) (settings : Settings) (engines : Engines) (name : String)
    (data : Bytes) : Prop :=
  (name = "clamav" ∧ ClamdFound (engines.instream data)) ∨
    (name = "exav" ∧ ExavStatus py "FOUND" (engines.exinstream data)) ∨
    (name = "jcop" ∧ ∃ content, DoneReply (jcopExchanges py settings engines data) content ∧
      IsMalware content true)

/-- A translator of replies that clears a file only on an explicit all-clear, and that passes
every detection on. -/
structure Faithful (scan : Bytes → Except Exc Verdict) (cleared found : Bytes → Prop) :
    Prop where
  clears : ∀ data v, scan data = .ok v → v.kind = .clean → cleared data
  finds : ∀ data, found data → ∃ v, scan data = .ok v ∧ v.kind = .malware

theorem jcopScan_clean {py : Python} {svc : JcopService} {data : Bytes} {v : Verdict}
    (h : jcopScan py svc data = .ok v) (hv : v.kind = .clean) :
    ∃ content, DoneReply (analyse py svc (svc.sha256 data) data).2 content ∧
      IsMalware content false := by
  obtain ⟨content, hc, hverdict⟩ := bind_eq_ok.1 h
  exact ⟨content, (analyse_answersFor py svc _ data content).1 hc, jcopVerdict_clean hverdict hv⟩

theorem jcopScan_found {py : Python} {svc : JcopService} {data : Bytes} {content : Json}
    (hdone : DoneReply (analyse py svc (svc.sha256 data) data).2 content)
    (hm : IsMalware content true) :
    ∃ v, jcopScan py svc data = .ok v ∧ v.kind = .malware := by
  obtain ⟨signature, hs⟩ := jcopVerdict_malware hm
  refine ⟨malware signature, bind_eq_ok.2 ⟨content, ?_, hs⟩, rfl⟩
  exact (analyse_answersFor py svc _ data content).2 hdone

theorem getScanner_builders {py : Python} {settings : Settings} {engines : Engines}
    {name : String} {scanner : Scanner}
    (h : getScanner (BUILDERS py settings engines) name = .ok scanner) :
    (name = "clamav" ∧ buildClamav py engines = .ok scanner) ∨
      (name = "exav" ∧ buildExav py settings engines = .ok scanner) ∨
      (name = "jcop" ∧ buildJcop py settings engines = .ok scanner) := by
  rw [getScanner, BUILDERS] at h
  by_cases hc : "clamav" = name
  · subst hc
    exact .inl ⟨rfl, h⟩
  rw [lookup_cons_ne hc] at h
  by_cases he : "exav" = name
  · subst he
    exact .inr (.inl ⟨rfl, h⟩)
  rw [lookup_cons_ne he] at h
  by_cases hj : "jcop" = name
  · subst hj
    exact .inr (.inr ⟨rfl, h⟩)
  rw [lookup_cons_ne hj] at h
  cases h

/-- A shipped backend that can be built feeds the malware axis, unscored, and translates its
engine's replies faithfully. -/
theorem builders_faithful {py : Python} {settings : Settings} {engines : Engines} {name : String}
    {scanner : Scanner} (h : getScanner (BUILDERS py settings engines) name = .ok scanner) :
    scanner.category = "malware" ∧ scanner.scored = false ∧
      Faithful scanner.scan (AllClear py settings engines name)
        (Detects py settings engines name) := by
  rcases getScanner_builders h with ⟨rfl, hb⟩ | ⟨rfl, hb⟩ | ⟨rfl, hb⟩
  · cases hb
    refine ⟨rfl, rfl, fun data v hv hc => .inl ⟨rfl, clamavScan_clean hv hc⟩, ?_⟩
    rintro data (⟨-, hf⟩ | ⟨hn, -⟩ | ⟨hn, -⟩)
    · exact clamavScan_found py hf
    · exact absurd hn (by decide)
    · exact absurd hn (by decide)
  · rw [buildExav] at hb
    split at hb
    · cases hb
    cases hb
    refine ⟨rfl, rfl, fun data v hv hc => .inr (.inl ⟨rfl, exavScan_clean hv hc⟩), ?_⟩
    rintro data (⟨hn, -⟩ | ⟨-, hf⟩ | ⟨hn, -⟩)
    · exact absurd hn (by decide)
    · exact exavScan_found hf
    · exact absurd hn (by decide)
  · rw [buildJcop] at hb
    split at hb
    · cases hb
    cases hb
    refine ⟨rfl, rfl, fun data v hv hc => .inr (.inr ⟨rfl, jcopScan_clean hv hc⟩), ?_⟩
    rintro data (⟨hn, -⟩ | ⟨hn, -⟩ | ⟨-, content, hdone, hm⟩)
    · exact absurd hn (by decide)
    · exact absurd hn (by decide)
    · exact jcopScan_found hdone hm

end FileScanner
