import FileScanner.Ssrf

namespace FileScanner
open Fallible
set_option autoImplicit true

def hostAllowed (py : Python) (settings : Settings) (hostname : String) : Bool :=
  if settings.allowedUrlHosts = "" then true
  else
    let hosts := (commaList settings.allowedUrlHosts).map py.lower
    hosts.isEmpty || decide (py.lower hostname ∈ hosts)

/-- The part of the check about `webhook_url`, made when one is given. -/
def assertWebhookScannable (py : Python) (settings : Settings) (dns : Dns) :
    Option String → Except Exc Unit
  | none => .ok ()
  | some webhookUrl =>
    if webhookUrl = "" then .ok ()
    else do
      let parsed ← urlparse py webhookUrl
      let webhookHost ← parsed.requireHostname py
        (.ssrfValidationError "invalid webhook_url (missing hostname)")
      let _ ← validateHostname py settings dns webhookHost
      pure ()

def assertHostsSafe (py : Python) (settings : Settings) (dns : Dns) (hostname : String)
    (webhookUrl : Option String) : Except Exc Unit :=
  if settings.testing then .ok ()
  else do
    let _ ← validateHostname py settings dns hostname
    assertWebhookScannable py settings dns webhookUrl

/-- Refuse a `url` or a `webhook_url` that is not safe to dial. -/
def assertScannable (py : Python) (settings : Settings) (dns : Dns) (url : String)
    (webhookUrl : Option String) : Except Exc Unit := do
  let parsed ← urlparse py url
  let hostname ← parsed.requireHostname py
    (.ssrfValidationError "invalid url (missing hostname)")
  raiseIf (hostAllowed py settings hostname = false)
    (.ssrfValidationError ("host " ++ hostname ++ " not allowed"))
  assertHostsSafe py settings dns hostname webhookUrl

end FileScanner
