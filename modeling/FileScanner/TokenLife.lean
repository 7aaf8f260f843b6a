import FileScanner.Jwt
import Mathlib.Algebra.Order.Field.Rat
import Mathlib.Tactic.Linarith

namespace FileScanner
open Collections Fallible
set_option autoImplicit true

/-- What the code relies on in PyJWT: a token that is accepted gives the claims it carries, at an
instant between `iat` and `exp` up to the leeway. -/
structure PyJwt.Checks (py : Python) (lib : PyJwt) : Prop where
  carried : lib.ReturnsCarried
  window : ∀ now key audience leeway token claims,
    lib.verified now key audience leeway token = .ok claims →
    ∃ iat exp, (getKey claims "iat").toInt py = .ok iat ∧ (getKey claims "exp").toInt py = .ok exp ∧
      (iat : Rat) ≤ now + leeway ∧ now - leeway < exp

def BoundedLife (py : JwtPython) (lib : PyJwt) (cfg : JwtSettings) (token : String) : Prop :=
  ∀ t₁ t₂ c₁ c₂, t₁ ≤ t₂ → decode py lib cfg t₁ token = .ok c₁ →
    decode py lib cfg t₂ token = .ok c₂ → t₂ - t₁ ≤ cfg.maxAge + 2 * cfg.leeway

/-- The cap does not reject a lifetime of `exp` and `iat`: one of them is no number, or their
difference is within the cap. -/
def PassesCap (py : JwtPython) (maxAge : Int) (claims : Dict String Json) : Prop :=
  (getKey claims "iat").isNumber = false ∨ (getKey claims "exp").isNumber = false ∨
    ∃ life, subtract py (getKey claims "exp") (getKey claims "iat") = .ok life ∧
      life.exceeds maxAge = false

/-- Claims of an issuer that live longer than the cap, for the integers PyJWT reads in them, and
that the cap lets pass. -/
def OutlivesCap (py : JwtPython) (maxAge : Int) (claims : Dict String Json) : Prop :=
  (∃ iss, getKey claims "iss" = .str iss) ∧ PassesCap py maxAge claims ∧
    ∃ iat exp, (getKey claims "iat").toInt py.toPython = .ok iat ∧
      (getKey claims "exp").toInt py.toPython = .ok exp ∧ maxAge < exp - iat

theorem checkLifetime_ok_iff {py : JwtPython} {maxAge : Int} (h : maxAge ≠ 0)
    {claims : Dict String Json} :
    checkLifetime py maxAge claims = .ok () ↔ PassesCap py maxAge claims := by
  simp only [checkLifetime, PassesCap]
  cases hiat : (getKey claims "iat").isNumber with
  | false => exact iff_of_true (if_neg (fun hc => Bool.false_ne_true hc.2.1)) (.inl rfl)
  | true =>
    cases hexp : (getKey claims "exp").isNumber with
    | false => exact iff_of_true (if_neg (fun hc => Bool.false_ne_true hc.2.2)) (.inr (.inl rfl))
    | true =>
      rw [if_pos ⟨h, rfl, rfl⟩, or_iff_right Bool.true_eq_false.mp,
        or_iff_right Bool.true_eq_false.mp]
      cases subtract py (getKey claims "exp") (getKey claims "iat") with
      | error e => exact iff_of_false (nomatch ·) (fun hc => nomatch hc.choose_spec.1)
      | ok life =>
        simp only [raiseIf_eq_ok, Except.ok.injEq, exists_eq_left', Bool.not_eq_true]

theorem toInt_asInteger {v : Json} {n : Int} (h : v.asInteger = some n) (py : Python) :
    v.toInt py = .ok n := by
  cases v with
  | bool b =>
    cases h
    rfl
  | int m =>
    cases h
    rfl
  | _ => cases h

/-- The cap holds what it is meant to hold as long as both claims are integers. -/
theorem not_outlivesCap_of_integers {py : JwtPython} {maxAge iat exp : Int}
    {claims : Dict String Json} (hiat : (getKey claims "iat").asInteger = some iat)
    (hexp : (getKey claims "exp").asInteger = some exp) : ¬ OutlivesCap py maxAge claims := by
  have hnumber {v : Json} {n : Int} (h : v.asInteger = some n) : v.isNumber ≠ false := by
    cases v with
    | bool b => exact Bool.noConfusion
    | int m => exact Bool.noConfusion
    | _ => cases h
  intro h
  obtain ⟨-, hpasses, iat', exp', hi, he, hlong⟩ := h
  rw [toInt_asInteger hiat, Except.ok.injEq] at hi
  rw [toInt_asInteger hexp, Except.ok.injEq] at he
  subst hi he
  rcases hpasses with hn | hn | ⟨life, hlife, hwithin⟩
  · exact hnumber hiat hn
  · exact hnumber hexp hn
  · rw [subtract, hiat, hexp] at hlife
    cases hlife
    exact of_decide_eq_false hwithin hlong

section Life
variable {py : JwtPython} {lib : PyJwt} {cfg : JwtSettings} {token : String}
  {claims : Dict String Json}

theorem boundedLife_of_not_outlivesCap (hlib : lib.Checks py.toPython) (hage : 0 < cfg.maxAge)
    (hcarried : lib.unverified token = .ok claims) (h : ¬ OutlivesCap py cfg.maxAge claims) :
    BoundedLife py lib cfg token := by
  intro t₁ t₂ c₁ c₂ hle h₁ h₂
  obtain ⟨iss, _, hc₁, hiss, -, hv₁, hlife⟩ := decode_carried hlib.carried h₁
  obtain ⟨_, _, hc₂, -, -, hv₂, -⟩ := decode_carried hlib.carried h₂
  rw [hcarried, Except.ok.injEq] at hc₁ hc₂
  subst hc₁ hc₂
  obtain ⟨iat, exp, hiat, hexp, hfrom, -⟩ := hlib.window _ _ _ _ _ _ hv₁
  obtain ⟨iat', exp', -, hexp', -, huntil⟩ := hlib.window _ _ _ _ _ _ hv₂
  rw [hexp, Except.ok.injEq] at hexp'
  subst hexp'
  have hshort : exp - iat ≤ cfg.maxAge := by
    by_contra hlong
    exact h ⟨⟨iss, hiss⟩, (checkLifetime_ok_iff hage.ne').1 hlife, iat, exp, hiat, hexp,
      not_le.1 hlong⟩
  have hshort' : (exp : Rat) - iat ≤ cfg.maxAge := by exact_mod_cast hshort
  linarith

end Life

/-- The library that accepts one token, whatever the key, for as long as PyJWT can. -/
def windowLibrary (py : Python) (claims : Dict String Json) : PyJwt where
  unverified _ := .ok claims
  verified now _ _ leeway _ :=
    match (getKey claims "iat").toInt py, (getKey claims "exp").toInt py with
    | .ok iat, .ok exp =>
      if (iat : Rat) ≤ now + leeway ∧ now - leeway < exp then .ok claims
      else .error (.pyJwtError .expiredSignature "Signature has expired")
    | _, _ => .error (.pyJwtError .other "Issued At claim (iat) must be an integer.")

theorem windowLibrary_checks (py : Python) (claims : Dict String Json) :
    (windowLibrary py claims).Checks py := by
  have hverified {now : Rat} {key : PublicKey} {audience : String} {leeway : Int} {token : String}
      {c : Dict String Json}
      (h : (windowLibrary py claims).verified now key audience leeway token = .ok c) :
      c = claims ∧ ∃ iat exp, (getKey claims "iat").toInt py = .ok iat ∧
        (getKey claims "exp").toInt py = .ok exp ∧
        (iat : Rat) ≤ now + leeway ∧ now - leeway < exp := by
    simp only [windowLibrary] at h
    split at h
    · rename_i iat exp hiat hexp
      split at h
      · rename_i hwindow
        cases h
        exact ⟨rfl, iat, exp, hiat, hexp, hwindow⟩
      · cases h
    · cases h
  constructor
  · intro now key audience leeway token c h
    rw [(hverified h).1]
    rfl
  · intro now key audience leeway token c h
    obtain ⟨hc, hwindow⟩ := hverified h
    rw [hc]
    exact hwindow

/-- A library and an issuer under which every text is a token with these claims. -/
def windowSettings (iss : String) (maxAge leeway : Int) : JwtSettings where
  issuerKeys := [(iss, [])]
  maxAge := maxAge
  leeway := leeway

theorem decode_windowLibrary {py : JwtPython} {maxAge leeway : Int} (hage : maxAge ≠ 0)
    {claims : Dict String Json} {iss : String} (hiss : getKey claims "iss" = .str iss)
    (hpasses : PassesCap py maxAge claims) {iat exp : Int}
    (hiat : (getKey claims "iat").toInt py.toPython = .ok iat)
    (hexp : (getKey claims "exp").toInt py.toPython = .ok exp) {now : Rat}
    (hfrom : (iat : Rat) ≤ now + leeway) (huntil : now - leeway < exp) (token : String) :
    decode py (windowLibrary py.toPython claims) (windowSettings iss maxAge leeway) now token =
      .ok claims := by
  apply decode_ok.2
  refine ⟨claims, [], rfl, ?_, ?_, (checkLifetime_ok_iff hage).2 hpasses⟩
  · rw [hiss]
    simp only [issuerKey, windowSettings, lookup_cons_eq]
  · simp only [windowLibrary, hiat, hexp]
    exact if_pos ⟨hfrom, huntil⟩

theorem not_boundedLife_of_outlivesCap {py : JwtPython} {maxAge leeway : Int} (hage : 0 < maxAge)
    (hleeway : 0 ≤ leeway) {claims : Dict String Json} (h : OutlivesCap py maxAge claims)
    (token : String) :
    ∃ cfg, cfg.maxAge = maxAge ∧ cfg.leeway = leeway ∧
      ¬ BoundedLife py (windowLibrary py.toPython claims) cfg token := by
  obtain ⟨⟨iss, hiss⟩, hpasses, iat, exp, hiat, hexp, hlong⟩ := h
  refine ⟨windowSettings iss maxAge leeway, rfl, rfl, ?_⟩
  have hlong' : (maxAge : Rat) + 1 ≤ exp - iat := by exact_mod_cast hlong
  have hage' : (0 : Rat) < maxAge := by exact_mod_cast hage
  have hleeway' : (0 : Rat) ≤ leeway := by exact_mod_cast hleeway
  have hdecode {now : Rat} (hfrom : (iat : Rat) ≤ now + leeway) (huntil : now - leeway < exp) :=
    decode_windowLibrary hage.ne' hiss hpasses hiat hexp hfrom huntil token
  intro hbounded
  -- from the first instant of the window to half a second before its end
  have hspan := hbounded (iat - leeway) (exp + leeway - 1 / 2) claims claims (by linarith)
    (hdecode (by linarith) (by linarith)) (hdecode (by linarith) (by linarith))
  have hspan' : (exp : Rat) + leeway - 1 / 2 - (iat - leeway) ≤ maxAge + 2 * leeway := hspan
  linarith

/-- Which claims a token may carry for its life to be bounded, whatever PyJWT does beyond its
checks, whatever the keys, and whatever the token. -/
theorem token_life_bounded_iff (py : JwtPython) (claims : Dict String Json) (maxAge leeway : Int)
    (hage : 0 < maxAge) (hleeway : 0 ≤ leeway) :
    (∀ lib cfg token, lib.Checks py.toPython → cfg.maxAge = maxAge → cfg.leeway = leeway →
      lib.unverified token = .ok claims → BoundedLife py lib cfg token) ↔
      ¬ OutlivesCap py maxAge claims := by
  constructor
  · intro hbounded hout
    obtain ⟨cfg, hcfg, hcfg', hnot⟩ := not_boundedLife_of_outlivesCap hage hleeway hout "token"
    exact hnot (hbounded _ cfg "token" (windowLibrary_checks py.toPython claims) hcfg hcfg' rfl)
  · intro hnot lib cfg token hlib hcfg _ hcarried
    subst hcfg
    exact boundedLife_of_not_outlivesCap hlib hage hcarried hnot

/-- The claims of a caller that writes `exp` as a text, twelve days after `iat`. -/
def textualClaims : Dict String Json :=
  [("iss", .str "drive"), ("iat", .int 1700000000), ("exp", .str "1701036800")]

theorem textual_exp_outlives_cap :
    (windowLibrary asciiPython textualClaims).Checks asciiPython ∧
      ¬ BoundedLife asciiJwtPython (windowLibrary asciiPython textualClaims)
        (windowSettings "drive" 300 60) "token" := by
  apply And.intro (windowLibrary_checks asciiPython textualClaims)
  intro hbounded
  have hexp : (getKey textualClaims "exp").toInt asciiPython = .ok 1701036800 := by decide
  have hdecode {now : Rat} (hfrom : ((1700000000 : Int) : Rat) ≤ now + (60 : Int))
      (huntil : now - (60 : Int) < ((1701036800 : Int) : Rat)) :
      decode asciiJwtPython (windowLibrary asciiPython textualClaims) (windowSettings "drive" 300 60)
        now "token" = .ok textualClaims :=
    decode_windowLibrary (by decide) rfl (.inr (.inl rfl)) rfl hexp hfrom huntil "token"
  have hspan := hbounded 1700000000 1701036800 _ _ (by norm_num)
    (hdecode (by norm_num) (by norm_num))
    (hdecode (by norm_num) (by norm_num))
  norm_num [windowSettings] at hspan

def fiveMinutes : Dict String Json :=
  [("iss", .str "drive"), ("iat", .int 1700000000), ("exp", .int 1700000300)]

theorem token_life_bounded_five_minutes :
    BoundedLife asciiJwtPython (windowLibrary asciiPython fiveMinutes)
      (windowSettings "drive" 300 60) "token" :=
  (token_life_bounded_iff asciiJwtPython fiveMinutes 300 60 (by decide) (by decide)).2
    (not_outlivesCap_of_integers rfl rfl) (windowLibrary asciiPython fiveMinutes)
    (windowSettings "drive" 300 60) "token" (windowLibrary_checks asciiPython fiveMinutes) rfl rfl
    rfl

end FileScanner
