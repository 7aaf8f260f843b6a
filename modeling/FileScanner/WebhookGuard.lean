import FileScanner.Lib.Fallible
import FileScanner.Validation

namespace FileScanner
open Fallible
set_option autoImplicit true

/-- What delivery asks of a URL beyond a safe host: its scheme and its port. -/
def DialableUrl (py : Python) (url : String) : Prop :=
  ∃ parsed, urlparse py url = .ok parsed ∧ (parsed.scheme = "http" ∨ parsed.scheme = "https") ∧
    ∃ port, parsed.port py = .ok port

/-- What both guards ask of a URL: a host that is safe to dial. -/
def SafeHost (py : Python) (settings : Settings) (dns : Dns) (url : String) : Prop :=
  ∃ parsed hostname, urlparse py url = .ok parsed ∧
    (parsed.hostname py = some hostname ∧ hostname ≠ "") ∧
    ∃ ips, validateHostname py settings dns hostname = .ok ips

theorem assertWebhookScannable_ok_iff {py : Python} {settings : Settings} {dns : Dns}
    {webhook : String} (hw : webhook ≠ "") :
    assertWebhookScannable py settings dns (some webhook) = .ok () ↔
      SafeHost py settings dns webhook := by
  rw [assertWebhookScannable, if_neg hw]
  constructor
  · intro h
    obtain ⟨parsed, hp, h⟩ := bind_eq_ok.1 h
    obtain ⟨hostname, hh, h⟩ := bind_eq_ok.1 h
    obtain ⟨ips, hips, -⟩ := bind_eq_ok.1 h
    exact ⟨parsed, hostname, hp, SplitResult.requireHostname_eq_ok.1 hh, ips, hips⟩
  · rintro ⟨parsed, hostname, hp, hh, ips, hips⟩
    rw [hp, ok_bind, SplitResult.requireHostname_eq_ok.2 hh, ok_bind, hips]
    rfl

theorem safeHost_of_assertScannable {py : Python} {settings : Settings} {dns : Dns} {url : String}
    {webhook : String} (htest : settings.testing = false) (hw : webhook ≠ "")
    (h : assertScannable py settings dns url (some webhook) = .ok ()) :
    SafeHost py settings dns webhook := by
  rw [assertScannable] at h
  obtain ⟨parsed, -, h⟩ := bind_eq_ok.1 h
  obtain ⟨hostname, -, h⟩ := bind_eq_ok.1 h
  obtain ⟨-, -, h⟩ := bind_eq_ok.1 h
  rw [assertHostsSafe, htest, if_neg Bool.false_ne_true] at h
  obtain ⟨ips, -, h⟩ := bind_eq_ok.1 h
  exact (assertWebhookScannable_ok_iff hw).1 h

/-- The delivery guard accepts a URL exactly when its host is safe and it can be dialled. -/
theorem validateAndUnpack_ok_iff {py : Python} {settings : Settings} {dns : Dns} {url : String} :
    (∃ dial, validateAndUnpack py settings dns url = .ok dial) ↔
      SafeHost py settings dns url ∧ DialableUrl py url := by
  rw [validateAndUnpack]
  constructor
  · rintro ⟨dial, h⟩
    obtain ⟨parsed, hp, h⟩ := bind_eq_ok.1 h
    obtain ⟨⟨⟩, hscheme, h⟩ := bind_eq_ok.1 h
    obtain ⟨hostname, hh, h⟩ := bind_eq_ok.1 h
    obtain ⟨ips, hips, h⟩ := bind_eq_ok.1 h
    obtain ⟨port, hport, -⟩ := bind_eq_ok.1 h
    refine ⟨⟨parsed, hostname, hp, SplitResult.requireHostname_eq_ok.1 hh, ips, hips⟩,
      parsed, hp, ?_, port, hport⟩
    have hs := raiseIf_eq_ok.1 hscheme
    tauto
  · rintro ⟨⟨parsed, hostname, hp, hh, ips, hips⟩, parsed', hp', hscheme, port, hport⟩
    rw [hp, Except.ok.injEq] at hp'
    subst hp'
    have hs : ¬ (parsed.scheme ≠ "http" ∧ parsed.scheme ≠ "https") := by tauto
    rw [hp, ok_bind, raiseIf_neg hs, ok_bind, SplitResult.requireHostname_eq_ok.2 hh, ok_bind,
      hips, ok_bind, hport]
    exact ⟨_, rfl⟩

/-- An accepted webhook is one delivery will dial exactly when its scheme is `http` or `https`
and its port, if it names one, is a port number. -/
theorem accepted_webhook_dialled_iff (py : Python) (settings : Settings) (dns : Dns)
    (url webhook : String) (htest : settings.testing = false) (hw : webhook ≠ "")
    (hacc : assertScannable py settings dns url (some webhook) = .ok ()) :
    (∃ dial, validateAndUnpack py settings dns webhook = .ok dial) ↔ DialableUrl py webhook := by
  rw [validateAndUnpack_ok_iff]
  exact and_iff_right (safeHost_of_assertScannable htest hw hacc)

/-- The library on ASCII text, knowing one public address. -/
def publicPython : Python :=
  { asciiPython with
    ipAddress := fun text =>
      if text = "93.184.216.34" then
        some { text := text, version := 4, isLoopback := false, isLinkLocal := false,
               isMulticast := false, isReserved := false, isPrivate := false, isGlobal := true }
      else none }

def publicDns : Dns := fun _ => .ok ["93.184.216.34"]

/-- The endpoint accepts callbacks that delivery drops (a scheme) or fails on (a port). -/
theorem accepted_webhook_never_dialled :
    assertScannable publicPython {} publicDns "https://example.com/f"
        (some "ftp://example.com/hook") = .ok () ∧
      validateAndUnpack publicPython {} publicDns "ftp://example.com/hook"
        = .error (.ssrfValidationError "Invalid URL scheme (only http/https allowed)") ∧
      assertScannable publicPython {} publicDns "https://example.com/f"
        (some "https://example.com:99999/hook") = .ok () ∧
      validateAndUnpack publicPython {} publicDns "https://example.com:99999/hook"
        = .error (.valueError "Port out of range 0-65535") :=
  ⟨by decide, by decide, by decide, by decide⟩

theorem accepted_webhook_dialled_https :
    ∃ dial, validateAndUnpack publicPython {} publicDns "https://example.com/hook" = .ok dial :=
  (accepted_webhook_dialled_iff publicPython {} publicDns "https://example.com/f"
    "https://example.com/hook" rfl (by decide) (by decide)).2
    ⟨⟨"https", "example.com".toList⟩, by decide, .inr rfl, none, by decide⟩

end FileScanner
