import FileScanner.Custody
import FileScanner.Signing

namespace FileScanner
open Collections Fallible Queues Unwinding
set_option autoImplicit true

/-- The service signs what it delivers with the time of the attempt. -/
def PipelineEvent.Signs (py : JwtPython) (signer : Signer) (signing : SigningSettings) :
    PipelineEvent → Prop
  | .serve _ => True
  | .deliver _ env => ∃ now, env.sign = fun url body =>
      (signWebhook py signer signing now url body).mapError JwtFailure.toExc

/-- A POST carries a token that authenticates it to a receiver who reads the published key, for
its own URL and its own body; without a signing key it carries none. -/
def Verifiable (py : JwtPython) (lib : PyJwt) (signer : Signer) (signing : SigningSettings)
    (webhookUrl : String) (post : Post) : Prop :=
  match signing.privateKey with
  | none => post.headers.lookup "Authorization" = none ∧ jwks signer signing = [("keys", .list [])]
  | some _ => ∃ jwk x point token now,
      jwks signer signing = [("keys", .list [.obj jwk])] ∧ jwk.lookup "x" = some (.str x) ∧
      keyBytes x.toList = .ok point ∧
      post.headers.lookup "Authorization" = some ("Bearer " ++ token) ∧
      Authenticates py lib (webhookClaims py signing now webhookUrl post.body) point token

/-- Every POST so far can be verified by the receiver it went to. -/
def Callback.AllVerifiable (py : JwtPython) (lib : PyJwt) (signer : Signer)
    (signing : SigningSettings) (c : Callback) : Prop :=
  ∀ post ∈ c.ticket.state, Verifiable py lib signer signing c.webhookUrl post

section Callbacks
variable {py : JwtPython} {lib : PyJwt} {signer : Signer} {signing : SigningSettings}
  {settings : Settings}

theorem signWebhook_none (h : signing.privateKey = none) (now : Rat) (url : String) (body : Bytes) :
    signWebhook py signer signing now url body = .ok none := by
  rw [signWebhook, SigningSettings.canSign, h]
  rfl

theorem signWebhook_some (py : JwtPython) (signer : Signer) {key : Ed25519Key}
    (h : signing.privateKey = some key) (now : Rat) (url : String) (body : Bytes) :
    ∃ kid, signWebhook py signer signing now url body =
      .ok (some (signer.encode (webhookClaims py signing now url body).payload key kid)) := by
  rw [signWebhook, SigningSettings.canSign, h, Option.isSome_some, if_pos rfl]
  unfold encodeToken
  rw [h]
  exact ⟨_, rfl⟩

/-- The published document holds the public half of the signing key. -/
theorem jwks_some (signer : Signer) {key : Ed25519Key} (h : signing.privateKey = some key) :
    ∃ jwk, jwks signer signing = [("keys", .list [.obj jwk])] ∧
      jwk.lookup "x" = some (.str (b64urlEncode (signer.publicKey key).bytes)) := by
  have hne : publicJwk signer signing ≠ [] := by
    rw [publicJwk, h]
    dsimp only
    split
    · exact List.cons_ne_nil _ _
    · rw [Dict.set]
      exact List.cons_ne_nil _ _
  refine ⟨publicJwk signer signing, ?_, ?_⟩
  · rw [jwks, if_neg hne]
  · rw [publicJwk, h]
    dsimp only
    split
    · rfl
    · rw [Dict.lookup_set_ne _ (by decide)]
      rfl

theorem webhookHeaders_some {token : String} (h : token ≠ "") :
    (webhookHeaders (some token)).lookup "Authorization" = some ("Bearer " ++ token) := by
  unfold webhookHeaders
  split
  · rename_i hnone
    cases hnone
  · rename_i hempty
    exact absurd (Option.some.inj hempty) h
  · rename_i token' hsome
    cases hsome
    rfl

theorem verifiable_post (hsigner : signer.Verifies lib) (now : Rat) {url : String} {body : Bytes}
    {token : Option String} (h : signWebhook py signer signing now url body = .ok token)
    (dial : Dial) (answer : Except Exc Response) :
    Verifiable py lib signer signing url ⟨dial, webhookHeaders token, body, answer⟩ := by
  rw [Verifiable]
  split
  · rename_i hnone
    rw [signWebhook_none hnone, Except.ok.injEq] at h
    subst h
    refine ⟨rfl, ?_⟩
    rw [jwks, publicJwk, hnone]
    rfl
  · rename_i key hkey
    obtain ⟨jwk, hjwks, hx⟩ := jwks_some signer hkey
    obtain ⟨kid, hsign⟩ := signWebhook_some py signer hkey now url body
    rw [hsign, Except.ok.injEq] at h
    subst h
    exact ⟨jwk, _, signer.publicKey key, _, now, hjwks, hx, keyBytes_encode _,
      webhookHeaders_some (hsigner.nonempty _ key kid), encode_authenticates hsigner _ key kid⟩

theorem attempt_verifiable (hsigner : signer.Verifies lib) {env : DeliveryEnv} {now : Rat}
    (hsign : env.sign = fun url body =>
      (signWebhook py signer signing now url body).mapError JwtFailure.toExc) {c : Callback}
    (h : c.AllVerifiable py lib signer signing) :
    (c.attempt py.toPython settings env).AllVerifiable py lib signer signing := by
  intro post hpost
  simp only [Callback.attempt, Ticket.attempt] at hpost
  split at hpost
  · simp only [delivery, deliverWebhook, hsign] at hpost
    split at hpost
    · exact h post hpost
    · rename_i token htoken
      rcases List.mem_append.1 hpost with hold | hnew
      · exact h post hold
      · obtain ⟨dial, -, rfl⟩ := List.mem_map.1 hnew
        exact verifiable_post hsigner now (mapError_eq_ok.1 htoken) dial _
  · exact h post hpost

end Callbacks

/-- Over any history, every POST of a callback can be verified against the published key, by the
receiver it is for, and authenticates no other URL and no body with another hash. -/
theorem callbacks_verify (py : JwtPython) (lib : PyJwt) (signer : Signer)
    (hsigner : signer.Verifies lib) (signing : SigningSettings) (settings : Settings)
    (history : List PipelineEvent) (h : ∀ e ∈ history, e.Signs py signer signing) :
    ∀ c ∈ (pipeline py.toPython settings history).callbacks,
      c.AllVerifiable py lib signer signing := by
  apply @Unwinding.run_invariant _ _ _ (PipelineEvent.Signs py signer signing)
    (fun p : Pipeline => ∀ c ∈ p.callbacks, c.AllVerifiable py lib signer signing) _ _ _ h
  · exact fun c hc => absurd hc List.not_mem_nil
  · intro p e he hp
    cases e with
    | deliver i env =>
      obtain ⟨now, hsign⟩ := he
      exact forall_modify (fun c hc => attempt_verifiable hsigner hsign hc) hp i
    | serve e =>
      intro c hc
      rw [pipelineStep] at hc
      rcases List.mem_append.1 hc with hold | hnew
      · exact hp c hold
      · obtain ⟨m, -, rfl⟩ := List.mem_map.1 hnew
        exact fun post hpost => absurd hpost List.not_mem_nil

/-- The callback of one job as it is posted. -/
def hookBody : String :=
  "\x7b\"job_id\":\"job\",\"filename\":null,\"metadata\":null,\"status\":\"error\","
    ++ "\"error_kind\":\"file\",\"error\":\"ssrf_blocked: Unable to resolve hostname\","
    ++ "\"api_version\":\"v2.0\"\x7d"

def hookBytes : Bytes := encode hookBody

def hookDigest : Bytes :=
  [74, 195, 13, 91, 163, 6, 207, 159, 51, 103, 106, 166, 254, 110, 168, 105,
    86, 128, 94, 151, 182, 149, 232, 165, 212, 230, 183, 161, 224, 29, 227, 41]

def hookPython : JwtPython :=
  { publicPython with
    dumps := fun v => match v with
      | .obj (("job_id", .str "job") :: _) => hookBody
      | v => publicPython.dumps v
    upper := asciiJwtPython.upper
    floatSub := asciiJwtPython.floatSub
    sha256 := fun raw => if raw = hookBytes then hookDigest else emptyDigest }

/-- One job, whose callback is signed. -/
def signedJob : List PipelineEvent :=
  [.serve (.submit "drive" "job" "/api/v2.0/scan-async" oneScanner publicDns
      { url := "https://example.com/f", webhookUrl := some "https://example.com/hook",
        scanners := ["clamav"] }),
    .serve (.job "job" .enqueue), .serve (.job "job" (.attempt unresolvable)),
    .deliver 0 { receiver [204] 0 with
      sign := fun url body => (signWebhook hookPython tableSigner
        { privateKey := some zeroSeed } 1700000000 url body).mapError JwtFailure.toExc }]

theorem signedJob_signs :
    ∀ e ∈ signedJob, e.Signs hookPython tableSigner { privateKey := some zeroSeed } := by
  simp only [signedJob, List.forall_mem_cons]
  exact ⟨trivial, trivial, trivial, ⟨1700000000, rfl⟩, List.forall_mem_nil _⟩

theorem bodyHash_hookBytes :
    bodyHash hookPython hookBytes = "SsMNW6MGz58zZ2qm_m6oaVaAXpe2leil1Oa3oeAd4yk" := by
  have hdigest : hookPython.sha256 hookBytes = hookDigest := by
    dsimp only [hookPython]
    exact if_pos rfl
  rw [bodyHash, hdigest]
  decide

theorem webhookClaims_hookBytes :
    webhookClaims hookPython { privateKey := some zeroSeed } 1700000000 "https://example.com/hook"
      hookBytes = hookClaims := by
  have htime : truncate 1700000000 = 1700000000 := by decide +kernel
  rw [webhookClaims, bodyHash_hookBytes, htime]
  rfl

set_option maxRecDepth 4000 in
theorem callbacks_verify_signed :
    ∃ c ∈ (pipeline hookPython.toPython unmapped signedJob).callbacks,
      ∃ post, c.ticket.state = [post] ∧ post.body = hookBytes ∧
        post.headers = webhookHeaders (some hookToken) ∧
        Verifiable hookPython tablePyJwt tableSigner { privateKey := some zeroSeed }
          "https://example.com/hook" post := by
  have hverify := callbacks_verify hookPython tablePyJwt tableSigner tableSigner_verifies
    { privateKey := some zeroSeed } unmapped signedJob signedJob_signs
  have hcallbacks : ∃ c post, (pipeline hookPython.toPython unmapped signedJob).callbacks = [c] ∧
      c.ticket.state = [post] ∧ c.webhookUrl = "https://example.com/hook" ∧ post.body = hookBytes ∧
      post.headers = webhookHeaders (some (tableSigner.encode
        (webhookClaims hookPython { privateKey := some zeroSeed } 1700000000
          "https://example.com/hook" post.body).payload zeroSeed none)) :=
    ⟨_, _, rfl, rfl, rfl, rfl, rfl⟩
  obtain ⟨c, post, hc, hpost, hurl, hbody, hheaders⟩ := hcallbacks
  have hmem : c ∈ (pipeline hookPython.toPython unmapped signedJob).callbacks := by
    rw [hc]
    exact List.mem_singleton.2 rfl
  have hone := hverify c hmem post (by rw [hpost]; exact List.mem_singleton.2 rfl)
  have htoken : tableSigner.encode hookClaims.payload zeroSeed none = hookToken := rfl
  rw [hurl] at hone
  rw [hbody, webhookClaims_hookBytes, htoken] at hheaders
  exact ⟨c, hmem, post, hpost, hbody, hheaders, hone⟩

end FileScanner
