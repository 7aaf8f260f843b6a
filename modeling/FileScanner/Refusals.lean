import FileScanner.DownloadErrors
import FileScanner.Webhook

namespace FileScanner
open Collections Fallible
set_option autoImplicit true

/-- The class both verdicts of the guard are raised in. -/
def IsRefusal : Exc → Prop
  | .ssrfValidationError _ => True
  | _ => False

abbrev Unrefused (x : Except Exc α) : Prop := RaisesOnly (fun e => ¬ IsRefusal e) x

theorem fileFailures_unrefused : FileFailures (fun e => ¬ IsRefusal e) :=
  ⟨fun _ => id, fun _ => id⟩

section Url
variable (py : Python)

theorem checkBracketedHost_unrefused (hostname : List Char) :
    Unrefused (checkBracketedHost py hostname) := by
  rw [checkBracketedHost]
  split
  · split
    · exact .ok _
    · exact .error id
  · split
    · exact .error id
    · split
      · exact .error id
      · exact .ok _

theorem checkBrackets_unrefused (netloc : List Char) : Unrefused (checkBrackets py netloc) := by
  rw [checkBrackets]
  split
  · exact .error id
  · split
    · rw [checkBracketedNetloc]
      split
      · dsimp only
        split
        · exact .error id
        · exact checkBracketedHost_unrefused py _
      · exact checkBracketedHost_unrefused py _
    · exact .ok _

theorem checkNetloc_unrefused (netloc : List Char) : Unrefused (checkNetloc py netloc) := by
  rw [checkNetloc]
  split
  · exact .ok _
  · dsimp only
    split
    · exact .error id
    · exact .ok _

theorem urlparse_unrefused (url : String) : Unrefused (urlparse py url) := by
  rw [urlparse]
  dsimp only
  split
  · apply (checkBrackets_unrefused py _).bind
    intro _ _
    apply (checkNetloc_unrefused py _).bind
    intro _ _
    exact .ok _
  · exact .ok _

theorem port_unrefused (parsed : SplitResult) : Unrefused (parsed.port py) := by
  rw [SplitResult.port]
  split
  · exact .ok _
  · split
    · split
      · exact .ok _
      · exact .error id
    · exact .error id

end Url

section Params
variable (py : Python) (settings : Settings) (enc : Json)

theorem item_unrefused (key : String) : Unrefused (enc.item key) := by
  cases enc with
  | obj entries =>
    rw [Json.item]
    split
    · exact .ok _
    · exact .error id
  | _ => exact .error id

theorem toInt_unrefused (value : Json) : Unrefused (value.toInt py) := by
  cases value with
  | bool b => exact .ok _
  | int n => exact .ok _
  | float q => exact .ok _
  | nonFinite literal =>
    rw [Json.toInt]
    split
    · exact .error id
    · exact .error id
  | str s =>
    rw [Json.toInt]
    split
    · exact .ok _
    · exact .error id
  | _ => exact .error id

theorem decodeKey_unrefused (fragment : Json) : Unrefused (decodeKey fragment) := by
  have hdecode (text : String) : Unrefused (decodeFragment text) :=
    decodeFragment_raises (fun _ => id) (fun _ => id) text
  cases fragment with
  | str text => exact hdecode text
  | _ =>
    rw [decodeKey]
    · split
      · exact .error id
      · exact hdecode ""
    · intro text h
      cases h

theorem readParams_unrefused : Unrefused (readParams py enc) := by
  apply (item_unrefused enc "key").bind
  intro fragment _
  apply (decodeKey_unrefused fragment).bind
  intro _ _
  apply (item_unrefused enc "file_id").bind
  intro _ _
  apply (item_unrefused enc "chunk_size").bind
  intro chunkSize _
  apply (toInt_unrefused py chunkSize).bind
  intro _ _
  apply (item_unrefused enc "parts").bind
  intro parts _
  apply (toInt_unrefused py parts).bind
  intro _ _
  exact .ok _

theorem checkScheme_unrefused : Unrefused (checkScheme py enc) := by
  cases enc with
  | obj entries =>
    rw [checkScheme]
    split
    · exact .raiseIf id
    · exact .error id
    · exact .error id
    · exact .error id
  | _ => exact .error id

theorem decryptionParams_unrefused : Unrefused (decryptionParams py settings enc) := by
  apply (checkScheme_unrefused py enc).bind
  intro _ _
  have hinvalid (e : Exc) (he : ¬ IsRefusal e) : ¬ IsRefusal (invalidParams e) := by
    cases e <;> first | exact id | exact he
  have hread : Unrefused ((readParams py enc).mapError invalidParams) :=
    RaisesOnly.mapError (readParams_unrefused py enc) hinvalid
  apply hread.bind
  intro _ _
  exact checkRanges_raises fileFailures_unrefused.decryption settings _ _ _ _

theorem wireCap_unrefused : Unrefused (wireCap py settings enc) := by
  have hchunk : Unrefused ((enc.item "chunk_size").bind (·.toInt py)) :=
    (item_unrefused enc "chunk_size").bind (fun value _ => toInt_unrefused py value)
  rw [wireCap]
  split
  · exact .ok _
  · split
    · exact .ok _
    · exact .ok _
    · exact .ok _
    · rename_i he
      exact .error (hchunk _ he)
    · split
      · exact .ok _
      · exact .ok _

theorem bodyWriter_unrefused (gcm : AesGcm) : Unrefused (bodyWriter py gcm settings enc) := by
  rw [bodyWriter]
  split
  · apply (decryptionParams_unrefused py settings enc).bind
    intro _ _
    apply (wireCap_unrefused py settings enc).bind
    intro _ _
    exact .ok _
  · exact .ok _

theorem write_unrefused {gcm : AesGcm} {write : Body → Except Exc (Nat × Bytes)}
    (h : bodyWriter py gcm settings enc = .ok write) {body : Body}
    (hend : ∀ e, body.ending = some e → ¬ IsRefusal e) : Unrefused (write body) := by
  rw [bodyWriter] at h
  split at h
  · obtain ⟨params, -, h⟩ := bind_eq_ok.1 h
    obtain ⟨cap, -, h⟩ := bind_eq_ok.1 h
    cases h
    exact decryptStream_raises fileFailures_unrefused hend
  · cases h
    exact writePlaintext_raises fileFailures_unrefused hend

end Params

theorem raiseForStatus_unrefused (response : Response) : Unrefused (raiseForStatus response) := by
  rw [raiseForStatus]
  split
  · exact .error id
  · split
    · exact .error id
    · exact .ok _

theorem requireAccepted_unrefused (py : Python) (response : Response) :
    Unrefused (requireAccepted py response) := by
  rw [requireAccepted]
  apply RaisesOnly.bind
  · exact .raiseIf id
  · intro _ _
    exact raiseForStatus_unrefused response

/-- What surrounds the guard raises no exception of its class: that one is raised in `ssrf.py`
and in `validation.py` alone. -/
def Dns.Foreign (dns : Dns) : Prop :=
  ∀ hostname e, dns hostname = .error (.other e) → ¬ IsRefusal e

structure Network.Foreign (net : Network) : Prop where
  dns : ∀ hop, (net.dns hop).Foreign
  serve : ∀ hop url, Unrefused (net.serve hop url)
  body : ∀ hop url response e, net.serve hop url = .ok response → response.body.ending = some e →
    ¬ IsRefusal e

structure Env.Foreign (env : Env) : Prop where
  dns : env.dns.Foreign
  net : env.net.Foreign
  fault : ∀ step e, env.fault step = some e → ¬ IsRefusal e
  registry : ∀ name e, env.registry.lookup name = some (.error e) → ¬ IsRefusal e

def Python.Foreign (py : Python) : Prop := ∀ base url, Unrefused (py.urljoin base url)

section Scan
variable {settings : Settings} {env : Env}

theorem at_unrefused (henv : env.Foreign) {step : Step} {x : Except Exc α} (hx : Unrefused x) :
    Unrefused (env.at step x) := by
  rw [Env.at]
  cases hfault : env.fault step with
  | none => exact hx
  | some e => exact .error (henv.fault step e hfault)

theorem runOne_unrefused (henv : env.Foreign) (file : Bytes) (name : String) :
    Unrefused (runOne settings (env.scanEnv file) name) := by
  rw [runOne, getScanner]
  cases hbuilt : (env.scanEnv file).registry.lookup name with
  | none => exact .error id
  | some built =>
    cases built with
    | ok scanner => exact .ok _
    | error e => exact .error (henv.registry name e hbuilt)

theorem runScanners_unrefused (henv : env.Foreign) (file : Bytes) (names : List String) :
    Unrefused (runScanners settings (env.scanEnv file) names) := by
  by_cases hne : names = []
  · rw [hne]
    exact .error id
  · rw [runScanners_eq settings _ hne]
    exact (RaisesOnly.mapM (runOne_unrefused henv file) names).bind (fun _ _ => .ok _)

end Scan

end FileScanner
