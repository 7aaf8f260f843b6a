import FileScanner.DownloadStatus

namespace FileScanner
open Collections Fallible
set_option autoImplicit true

/-- The connections the download of a job opens, in order; none before the policy passes. -/
def downloadDials (py : Python) (settings : Settings) (env : Env) (msg : ScanMessage) :
    List Dial :=
  match env.at .policy (assertScannable py settings env.dns msg.url msg.webhookUrl) with
  | .error _ => []
  | .ok () => (requestWithRedirects py settings env.net true msg.url).2

/-- The connections of a request from a hop on: each one validated and pinned, and each further
one a redirect by the answer before it. -/
inductive RedirectChain (py : Python) (settings : Settings) (net : Network) :
    Nat → String → List Dial → Prop where
  | refused : RedirectChain py settings net hop url []
  | final (hdial : validateAndUnpack py settings (net.dns hop) url = .ok dial) :
      RedirectChain py settings net hop url [dial]
  | redirected (hdial : validateAndUnpack py settings (net.dns hop) url = .ok dial)
      (hserve : net.serve hop url = .ok response)
      (hnext : nextUrl py true url response = .ok (some next))
      (hrest : RedirectChain py settings net (hop + 1) next dials) :
      RedirectChain py settings net hop url (dial :: dials)

section Hops
variable {py : Python} {settings : Settings} {net : Network}

theorem hops_chain (left hop : Nat) (url : String) :
    RedirectChain py settings net hop url (hops py settings net true left hop url).2 := by
  induction left generalizing hop url with
  | zero => exact .refused
  | succ left ih =>
    rw [hops]
    split
    · exact .refused
    · rename_i dial hdial
      split
      · exact .final hdial
      · rename_i response hserve
        split
        · exact .final hdial
        · exact .final hdial
        · rename_i next hnext
          exact .redirected hdial hserve hnext (ih (hop + 1) next)

theorem length_hops_le (follow : Bool) (left hop : Nat) (url : String) :
    (hops py settings net follow left hop url).2.length ≤ left := by
  induction left generalizing hop url with
  | zero => exact Nat.le_refl 0
  | succ left ih =>
    rw [hops]
    split
    · exact Nat.zero_le _
    · split
      · exact Nat.succ_le_succ (Nat.zero_le left)
      · split
        · exact Nat.succ_le_succ (Nat.zero_le left)
        · exact Nat.succ_le_succ (Nat.zero_le left)
        · rename_i next _
          exact Nat.succ_le_succ (ih (hop + 1) next)

theorem RedirectChain.pinned {hop : Nat} {url : String} {dials : List Dial}
    (h : RedirectChain py settings net hop url dials) : ∀ dial ∈ dials, ∃ hop' ips,
      validateHostname py settings (net.dns hop') dial.hostname = .ok ips ∧ dial.ip ∈ ips := by
  induction h with
  | refused => exact fun _ hd => absurd hd List.not_mem_nil
  | final hdial =>
    intro dial hd
    rw [List.mem_singleton.1 hd]
    exact ⟨_, (validateAndUnpack_ok hdial).pinned⟩
  | redirected hdial _ _ _ ih =>
    exact List.forall_mem_cons.2 ⟨⟨_, (validateAndUnpack_ok hdial).pinned⟩, ih⟩

theorem RedirectChain.head {hop : Nat} {url : String} {dial : Dial} {dials : List Dial}
    (h : RedirectChain py settings net hop url (dial :: dials)) :
    DialChecked py settings (net.dns hop) url dial := by
  cases h with
  | final hdial => exact validateAndUnpack_ok hdial
  | redirected hdial => exact validateAndUnpack_ok hdial

end Hops

theorem hostAllowed_of_assertScannable {py : Python} {settings : Settings} {dns : Dns}
    {url : String} {webhookUrl : Option String}
    (h : assertScannable py settings dns url webhookUrl = .ok ()) :
    ∃ parsed hostname, urlparse py url = .ok parsed ∧ parsed.hostname py = some hostname ∧
      hostAllowed py settings hostname = true := by
  rw [assertScannable] at h
  obtain ⟨parsed, hparsed, h⟩ := bind_eq_ok.1 h
  obtain ⟨hostname, hhost, h⟩ := bind_eq_ok.1 h
  obtain ⟨⟨⟩, hallowed, -⟩ := bind_eq_ok.1 h
  exact ⟨parsed, hostname, hparsed, (SplitResult.requireHostname_eq_ok.1 hhost).1,
    Bool.eq_true_of_not_eq_false (raiseIf_eq_ok.1 hallowed)⟩

/-- How far the allowlist bounds a download: the submitted host is on it, and each further host is
one that the host before it redirects to, past the guard against internal addresses. -/
structure DownloadBounded (py : Python) (settings : Settings) (env : Env) (msg : ScanMessage) :
    Prop where
  submitted : ∀ first rest, downloadDials py settings env msg = first :: rest →
    first.url = msg.url ∧ hostAllowed py settings first.hostname = true
  chain : RedirectChain py settings env.net 0 msg.url (downloadDials py settings env msg)
  few : (downloadDials py settings env msg).length ≤ MAX_REDIRECTS + 1
  pinned : ∀ dial ∈ downloadDials py settings env msg, ∃ hop ips,
    validateHostname py settings (env.net.dns hop) dial.hostname = .ok ips ∧ dial.ip ∈ ips
  served : ∀ file ∈ (tryBlock py settings env msg).scanned, ∃ init last response,
    downloadDials py settings env msg = init ++ [last] ∧
      env.net.serve init.length last.url = .ok response ∧
      fetch py settings env msg = .ok response ∧
      writeBody py env.gcm settings msg.encryptionParams response = .ok file

section Download
variable {py : Python} {settings : Settings} {env : Env} {msg : ScanMessage}

theorem downloadDials_chain :
    RedirectChain py settings env.net 0 msg.url (downloadDials py settings env msg) := by
  rw [downloadDials]
  split
  · exact .refused
  · exact hops_chain _ _ _

theorem length_downloadDials_le : (downloadDials py settings env msg).length ≤ MAX_REDIRECTS + 1 := by
  rw [downloadDials]
  split
  · exact Nat.zero_le _
  · exact length_hops_le _ _ _ _

/-- The first host dialled is the submitted one, which the policy has let through. -/
theorem submitted_allowed {first : Dial} {rest : List Dial}
    (h : downloadDials py settings env msg = first :: rest) :
    first.url = msg.url ∧ hostAllowed py settings first.hostname = true := by
  have hchain : RedirectChain py settings env.net 0 msg.url (first :: rest) :=
    h ▸ downloadDials_chain
  obtain ⟨hurl, ⟨parsed, hparsed, hhost⟩, -⟩ := hchain.head
  rw [downloadDials] at h
  split at h
  · cases h
  · rename_i hpolicy
    obtain ⟨parsed', hostname, hparsed', hhost', hallowed⟩ :=
      hostAllowed_of_assertScannable (at_eq_ok.1 hpolicy).2
    rw [hparsed, Except.ok.injEq] at hparsed'
    rw [← hparsed', hhost, Option.some.injEq] at hhost'
    rw [hhost']
    exact ⟨hurl, hallowed⟩

theorem fetch_served {response : Response} (h : fetch py settings env msg = .ok response) :
    ∃ init last, downloadDials py settings env msg = init ++ [last] ∧
      env.net.serve init.length last.url = .ok response := by
  rw [fetch] at h
  obtain ⟨⟨⟩, hpolicy, h⟩ := bind_eq_ok.1 h
  obtain ⟨answer, hanswer, h⟩ := bind_eq_ok.1 h
  obtain ⟨⟨⟩, -, h⟩ := bind_eq_ok.1 h
  obtain ⟨⟨⟩, -, h⟩ := bind_eq_ok.1 h
  cases h
  obtain ⟨init, last, hdials, hserve⟩ := hops_final (at_eq_ok.1 hanswer).2
  rw [Nat.zero_add] at hserve
  refine ⟨init, last, ?_, hserve⟩
  rw [downloadDials, hpolicy]
  exact hdials

/-- What is scanned was written from the body of what the last host answered. -/
theorem scanned_served {file : Bytes} (h : file ∈ (tryBlock py settings env msg).scanned) :
    ∃ init last response, downloadDials py settings env msg = init ++ [last] ∧
      env.net.serve init.length last.url = .ok response ∧
      fetch py settings env msg = .ok response ∧
      writeBody py env.gcm settings msg.encryptionParams response = .ok file := by
  rcases tryBlock_cases py settings env msg with
    ⟨e, scratch, he⟩ | ⟨response, file', hfetch, hbody, he⟩
  · rw [he] at h
    cases h
  · rw [he] at h
    cases List.mem_singleton.1 h
    obtain ⟨init, last, hdials, hserve⟩ := fetch_served hfetch
    exact ⟨init, last, response, hdials, hserve, hfetch, hbody⟩

end Download

/-- The allowlist holds the submitted host of every download, and no more than the submitted one:
the hosts contacted are all listed exactly when the targets of the redirects are. -/
theorem allowlist_bounds_submitted_host (py : Python) (settings : Settings) (env : Env)
    (msg : ScanMessage) :
    DownloadBounded py settings env msg ∧
      ((∀ dial ∈ downloadDials py settings env msg, hostAllowed py settings dial.hostname = true) ↔
        ∀ dial ∈ (downloadDials py settings env msg).tail,
          hostAllowed py settings dial.hostname = true) := by
  refine ⟨⟨fun _ _ => submitted_allowed, downloadDials_chain, length_downloadDials_le,
    downloadDials_chain.pinned, fun _ => scanned_served⟩, ?_⟩
  cases hdials : downloadDials py settings env msg with
  | nil => exact Iff.rfl
  | cons first rest =>
    rw [List.forall_mem_cons, List.tail_cons]
    exact and_iff_right (submitted_allowed hdials).2

def listedSettings : Settings := { allowedUrlHosts := "files.example" }

def listedJob : ScanMessage := { plainJob with url := "https://files.example/f" }

def away : Response := { nowhere with location := some "https://elsewhere.example/f" }

def elsewhere : Response where
  statusCode := 200
  reason := "OK"
  url := "https://elsewhere.example/f"
  location := none
  contentLength := none
  body := ⟨[⟨encode "elsewhere", 0⟩], none⟩

/-- The listed host redirects its first request away. -/
def redirecting : Env :=
  { answering away with
    net := ⟨fun _ => publicDns, fun hop _ => .ok (if hop = 0 then away else elsewhere)⟩ }

/-- A redirect by the listed host has bytes scanned that come from a host that is not listed. -/
theorem redirect_leaves_allowlist :
    commaList listedSettings.allowedUrlHosts = ["files.example"] ∧
      (downloadDials publicPython listedSettings redirecting listedJob).map (·.hostname) =
        ["files.example", "elsewhere.example"] ∧
      ¬ (∀ dial ∈ downloadDials publicPython listedSettings redirecting listedJob,
        hostAllowed publicPython listedSettings dial.hostname = true) ∧
      (tryBlock publicPython listedSettings redirecting listedJob).scanned =
        [encode "elsewhere"] := by
  refine ⟨by decide, by decide, by decide, rfl⟩

end FileScanner
