import FileScanner.HostAllowlist
import FileScanner.Lib.Traverse
import FileScanner.UrlParts

namespace FileScanner
open Collections Fallible
set_option autoImplicit true

structure PreparedRequest where
  url : String
  host : String
  deriving DecidableEq, Repr

def ipNetloc (dial : Dial) : List Char :=
  if dial.ip.toList.contains ':' then
    '[' :: (dial.ip.toList ++ ']' :: ':' :: (toString dial.port).toList)
  else dial.ip.toList ++ ':' :: (toString dial.port).toList

def hostHeader (dial : Dial) : Option Nat → String
  | some (p + 1) =>
    if p + 1 = 80 ∨ p + 1 = 443 then dial.hostname
    else dial.hostname ++ ":" ++ toString (p + 1)
  | _ => dial.hostname

/-- What the adapter of a connection makes of a request before it is sent. -/
def send (py : Python) (dial : Dial) (url : String) : Except Exc PreparedRequest := do
  let parsed ← urlsplit py url
  let (path, params) := parsed.params
  let port ← parsed.port py
  pure ⟨urlunparse parsed.scheme (ipNetloc dial) path params parsed.query parsed.fragment,
    hostHeader dial port⟩

/-- The text of an address without a zone. -/
def PlainAddress (ip : String) : Prop :=
  ip ≠ "" ∧ ∀ c ∈ ip.toList, isHexDigit c = true ∨ c = '.' ∨ c = ':'

/-- An address with a colon in it is not an address of version 4. -/
def ColonIsV6 (py : Python) : Prop :=
  ∀ text ip, py.ipAddress text = some ip → ':' ∈ text.toList → ip.version ≠ 4

/-- The characters of an address and of a port, as they stand in an authority. -/
def IsAuthorityChar (c : Char) : Prop := isHexDigit c = true ∨ c ∈ ['.', ':', '[', ']']

instance (c : Char) : Decidable (IsAuthorityChar c) :=
  inferInstanceAs (Decidable (isHexDigit c = true ∨ c ∈ ['.', ':', '[', ']']))

theorem IsAuthorityChar.ascii {c : Char} (h : IsAuthorityChar c) : c.toNat < 128 := by
  have hle {d : Char} (hd : d.toNat < 128) (hc : c ≤ d) : c.toNat < 128 :=
    lt_of_le_of_lt (UInt32.le_iff_toNat_le.1 (Char.le_def.1 hc)) hd
  rcases h with hhex | hmark
  · rw [isHexDigit, Bool.or_eq_true, Bool.or_eq_true, Bool.and_eq_true, Bool.and_eq_true] at hhex
    rcases hhex with (hdigit | ⟨-, hlower⟩) | ⟨-, hupper⟩
    · exact lt_of_le_of_lt (Char.isDigit_iff_toNat.1 hdigit).2 (by decide)
    · exact hle (by decide) (of_decide_eq_true hlower)
    · exact hle (by decide) (of_decide_eq_true hupper)
  · have hmarks : ∀ d ∈ ['.', ':', '[', ']'], d.toNat < 128 :=
      List.all_iff_forall_prop.1 (by decide)
    exact hmarks c hmark

section Authority
variable {py : Python} {dial : Dial}

theorem PlainAddress.authorityChar {ip : String} (h : PlainAddress ip) :
    ∀ c ∈ ip.toList, IsAuthorityChar c := by
  intro c hc
  rcases h.2 c hc with hhex | rfl | rfl
  · exact .inl hhex
  · decide
  · decide

theorem PlainAddress.not_mem {ip : String} (h : PlainAddress ip) {c : Char}
    (hc : isHexDigit c = false ∧ c ≠ '.' ∧ c ≠ ':') : c ∉ ip.toList := by
  intro hmem
  rcases h.2 c hmem with hhex | hdot | hcolon
  · rw [hc.1] at hhex
    cases hhex
  · exact hc.2.1 hdot
  · exact hc.2.2 hcolon

theorem authorityChar_port : ∀ c ∈ (toString dial.port).toList, IsAuthorityChar c := by
  intro c hc
  have hdigit := List.all_eq_true.1 (isDigit_toString (n := dial.port)) c hc
  left
  rw [isHexDigit, hdigit]
  rfl

theorem authorityChar_ipNetloc (h : PlainAddress dial.ip) : ∀ c ∈ ipNetloc dial, IsAuthorityChar c := by
  have hport : ∀ c ∈ ':' :: (toString dial.port).toList, IsAuthorityChar c :=
    List.forall_mem_cons.2 ⟨by decide, authorityChar_port⟩
  rw [ipNetloc]
  split
  · exact List.forall_mem_cons.2 ⟨by decide, List.forall_mem_append.2
      ⟨h.authorityChar, List.forall_mem_cons.2 ⟨by decide, hport⟩⟩⟩
  · exact List.forall_mem_append.2 ⟨h.authorityChar, hport⟩

theorem not_mem_ipNetloc (h : PlainAddress dial.ip) {c : Char} (hc : ¬ IsAuthorityChar c) :
    c ∉ ipNetloc dial := fun hmem => hc (authorityChar_ipNetloc h c hmem)

/-- The authority holds none of the marks that end one. -/
theorem unmarked_ipNetloc (h : PlainAddress dial.ip) {marks : List Char}
    (hmarks : marks.all (fun c => ¬ IsAuthorityChar c) = true) : ∀ c ∈ ipNetloc dial, c ∉ marks :=
  fun c hc hmark => List.all_iff_forall_prop.1 hmarks c hmark (authorityChar_ipNetloc h c hc)

theorem ipNetloc_bracketed (h : ':' ∈ dial.ip.toList) :
    ipNetloc dial = '[' :: (dial.ip.toList ++ ']' :: ':' :: (toString dial.port).toList) := by
  rw [ipNetloc, if_pos (List.contains_iff_mem.2 h)]

theorem ipNetloc_plain (h : ':' ∉ dial.ip.toList) :
    ipNetloc dial = dial.ip.toList ++ ':' :: (toString dial.port).toList := by
  rw [ipNetloc, if_neg (mt List.contains_iff_mem.1 h)]

theorem not_mem_ipNetloc_plain (h : PlainAddress dial.ip) (hcolon : ':' ∉ dial.ip.toList) {c : Char}
    (hc : isHexDigit c = false ∧ c ≠ '.' ∧ c ≠ ':') : c ∉ ipNetloc dial := by
  have hdigit : c.isDigit = false := by
    have hhex := hc.1
    rw [isHexDigit, Bool.or_eq_false_iff, Bool.or_eq_false_iff] at hhex
    exact hhex.1.1
  rw [ipNetloc_plain hcolon, List.mem_append, not_or]
  exact ⟨h.not_mem hc,
    List.not_mem_cons_of_ne_of_not_mem hc.2.2 (Text.sep_not_mem_nat hdigit dial.port)⟩

/-- The authority names the address and the port, and nothing else. -/
theorem hostinfo_ipNetloc (h : PlainAddress dial.ip) :
    hostinfo (ipNetloc dial) = (dial.ip.toList, (toString dial.port).toList) := by
  have hat : '@' ∉ ipNetloc dial := not_mem_ipNetloc h (by decide)
  rw [hostinfo, afterLast_of_not_mem hat]
  by_cases hcolon : ':' ∈ dial.ip.toList
  · have hclosing : ']' ∉ dial.ip.toList := h.not_mem (by decide)
    have hopen := partitionAt_append (List.not_mem_nil (a := '['))
      (dial.ip.toList ++ ']' :: ':' :: (toString dial.port).toList)
    have hport := partitionAt_append (List.not_mem_nil (a := ':')) (toString dial.port).toList
    rw [List.nil_append] at hopen hport
    rw [ipNetloc_bracketed hcolon, hopen]
    dsimp only
    rw [partitionAt_append hclosing]
    dsimp only
    rw [hport]
  · have hopening : '[' ∉ ipNetloc dial := not_mem_ipNetloc_plain h hcolon (by decide)
    rw [partitionAt_of_not_mem hopening]
    dsimp only
    rw [ipNetloc_plain hcolon, partitionAt_append hcolon]

theorem checkBrackets_ipNetloc (hv6 : ColonIsV6 py) {ip : IpAddress}
    (hip : py.ipAddress dial.ip = some ip) (h : PlainAddress dial.ip) :
    checkBrackets py (ipNetloc dial) = .ok () := by
  rw [checkBrackets]
  by_cases hcolon : ':' ∈ dial.ip.toList
  · have hat : '@' ∉ ipNetloc dial := not_mem_ipNetloc h (by decide)
    have hclosing : ']' ∉ dial.ip.toList := h.not_mem (by decide)
    have hfuture : dial.ip.toList.head? ≠ some 'v' := by
      intro hhead
      exact h.not_mem (c := 'v') (by decide) (List.mem_of_head? hhead)
    have hopen := partitionAt_append (List.not_mem_nil (a := '['))
      (dial.ip.toList ++ ']' :: ':' :: (toString dial.port).toList)
    rw [List.nil_append] at hopen
    have hleft : (ipNetloc dial).contains '[' = true := by
      rw [List.contains_iff_mem, ipNetloc_bracketed hcolon]
      exact List.mem_cons_self
    have hright : (ipNetloc dial).contains ']' = true := by
      rw [List.contains_iff_mem, ipNetloc_bracketed hcolon]
      exact List.mem_cons_of_mem _ (List.mem_append_right _ List.mem_cons_self)
    rw [hleft, hright, bne_self_eq_false, if_neg Bool.false_ne_true, if_pos rfl,
      checkBracketedNetloc, afterLast_of_not_mem hat, ipNetloc_bracketed hcolon, hopen]
    dsimp only
    rw [partitionAt_append hclosing]
    dsimp only
    rw [if_neg (by simp), checkBracketedHost, if_neg hfuture, String.ofList_toList, hip]
    dsimp only
    rw [if_neg (hv6 dial.ip ip hip hcolon)]
  · have hleft : (ipNetloc dial).contains '[' = false := by
      rw [List.contains_eq_mem]
      exact decide_eq_false (not_mem_ipNetloc_plain h hcolon (by decide))
    have hright : (ipNetloc dial).contains ']' = false := by
      rw [List.contains_eq_mem]
      exact decide_eq_false (not_mem_ipNetloc_plain h hcolon (by decide))
    rw [hleft, hright, bne_self_eq_false, if_neg Bool.false_ne_true, if_neg Bool.false_ne_true]

theorem checkNetloc_ipNetloc (h : PlainAddress dial.ip) : checkNetloc py (ipNetloc dial) = .ok () := by
  have hascii : isAscii (ipNetloc dial) = true := by
    rw [isAscii, List.all_eq_true]
    exact fun c hc => decide_eq_true (authorityChar_ipNetloc h c hc).ascii
  rw [checkNetloc, if_pos (.inr hascii)]

theorem hostname_ipNetloc (h : PlainAddress dial.ip) (scheme : String) :
    (SplitResult.mk scheme (ipNetloc dial)).hostname py = some (py.lower dial.ip) := by
  have hpercent : '%' ∉ dial.ip.toList := h.not_mem (by decide)
  have hne : dial.ip.toList ≠ [] := mt String.toList_eq_nil_iff.1 h.1
  rw [SplitResult.hostname, hostinfo_ipNetloc h]
  dsimp only
  rw [if_neg hne, partitionAt_of_not_mem hpercent, String.ofList_toList]
  exact congrArg some (by simp)

theorem port_ipNetloc (h : PlainAddress dial.ip) (hport : dial.port ≤ 65535) (scheme : String) :
    (SplitResult.mk scheme (ipNetloc dial)).port py = .ok (some dial.port) := by
  have hne : (toString dial.port).toList ≠ [] := by
    rw [Text.toList_toString_nat]
    exact Nat.toDigits_ne_nil
  rw [SplitResult.port, hostinfo_ipNetloc h]
  dsimp only
  rw [if_neg hne, if_pos isDigit_toString, digitsToNat_toString, if_pos hport]

end Authority

/-- An address that the guard lets a request reach, whatever its host. -/
structure IpAddress.Public (ip : IpAddress) : Prop where
  metadata : ip.text ∉ CLOUD_METADATA_IPS
  isLoopback : ip.isLoopback = false
  isLinkLocal : ip.isLinkLocal = false
  isMulticast : ip.isMulticast = false
  isReserved : ip.isReserved = false
  isPrivate : ip.isPrivate = false
  isGlobal : ip.isGlobal = true

/-- What the guard has established about a connection: it is to the host and the port of its URL,
at an address that the lookup of this host gave, and that is public unless the host is trusted. -/
structure Guarded (py : Python) (settings : Settings) (dns : Dns) (dial : Dial) : Prop where
  scheme : dial.scheme = "http" ∨ dial.scheme = "https"
  port : 0 < dial.port ∧ dial.port ≤ 65535
  asked : ∃ parsed port, urlparse py dial.url = .ok parsed ∧ parsed.scheme = dial.scheme ∧
    parsed.hostname py = some dial.hostname ∧ parsed.port py = .ok port ∧
    dial.port = effectivePort parsed.scheme port
  named : py.ipAddress dial.hostname = none
  resolved : ∃ addrInfo, dns dial.hostname = .ok addrInfo ∧ dial.ip ∈ addrInfo
  address : ∃ ip, py.ipAddress dial.ip = some ip ∧
    (isAllowlistedHost py settings dial.hostname = true ∨ ip.Public)

/-- The URL of a connection is the one that was requested, or the one to which the answer over the
connection before it redirects. The hops are counted from a given one on. -/
def Led (py : Python) (net : Network) (follow : Bool) (start : Nat) (url : String)
    (dials : List Dial) (dial : Dial) : Nat → Prop
  | 0 => dial.url = url
  | hop + 1 => ∃ prev response, dials[hop]? = some prev ∧
      net.serve (start + hop) prev.url = .ok response ∧
      nextUrl py follow prev.url response = .ok (some dial.url)

section Guard
variable {py : Python} {settings : Settings}

theorem checkIp_ok {ip : IpAddress} {hostname : String} (h : checkIp ip hostname = .ok ()) :
    ip.Public := by
  rw [checkIp] at h
  dsimp only at h
  split at h
  · cases h
  · rename_i hmetadata
    split at h
    · cases h
    · rename_i hloopback
      split at h
      · cases h
      · rename_i hlink
        split at h
        · cases h
        · rename_i hmulticast
          split at h
          · cases h
          · rename_i hreserved
            split at h
            · cases h
            · rename_i hprivate
              split at h
              · cases h
              · rename_i hglobal
                exact ⟨hmetadata, Bool.eq_false_iff.2 hloopback, Bool.eq_false_iff.2 hlink,
                  Bool.eq_false_iff.2 hmulticast, Bool.eq_false_iff.2 hreserved,
                  Bool.eq_false_iff.2 hprivate, by simpa using hglobal⟩

theorem validIp_ok {allowlisted : Bool} {hostname ipStr text : String}
    (h : validIp py allowlisted hostname ipStr = .ok text) :
    text = ipStr ∧ ∃ ip, py.ipAddress ipStr = some ip ∧ (allowlisted = true ∨ ip.Public) := by
  rw [validIp] at h
  cases hip : py.ipAddress ipStr with
  | none =>
    rw [hip] at h
    cases h
  | some ip =>
    rw [hip] at h
    cases allowlisted with
    | true =>
      cases h
      exact ⟨rfl, ip, rfl, .inl rfl⟩
    | false =>
      dsimp only at h
      rw [if_neg Bool.false_ne_true] at h
      cases hcheck : checkIp ip hostname with
      | error e =>
        rw [hcheck] at h
        cases h
      | ok u =>
        rw [hcheck] at h
        cases h
        exact ⟨rfl, ip, rfl, .inr (checkIp_ok hcheck)⟩

/-- Every address that a lookup is trusted for is one that it gave, and is public, or its host is on
the allowlist. -/
theorem validateHostname_ok {dns : Dns} {hostname : String} {ips : List String}
    (h : validateHostname py settings dns hostname = .ok ips) :
    py.ipAddress hostname = none ∧ ∃ addrInfo, dns hostname = .ok addrInfo ∧
      ∀ text ∈ ips, text ∈ addrInfo ∧ ∃ ip, py.ipAddress text = some ip ∧
        (isAllowlistedHost py settings hostname = true ∨ ip.Public) := by
  rw [validateHostname] at h
  split at h
  · cases h
  · split at h
    · cases h
    · rename_i hliteral
      refine ⟨Option.not_isSome_iff_eq_none.1 hliteral, ?_⟩
      split at h
      · cases h
      · cases h
      · rename_i addrInfo hlookup
        obtain ⟨validIps, hvalid, h⟩ := bind_eq_ok.1 h
        obtain ⟨⟨⟩, -, h⟩ := bind_eq_ok.1 h
        cases h
        refine ⟨addrInfo, hlookup, fun text htext => ?_⟩
        obtain ⟨ipStr, hgiven, hone⟩ := forall₂_exists_left (mapM_ok_forall₂ hvalid) htext
        obtain ⟨rfl, hip⟩ := validIp_ok hone
        exact ⟨hgiven, hip⟩

theorem port_le {parsed : SplitResult} {port : Nat} (h : parsed.port py = .ok (some port)) :
    port ≤ 65535 := by
  rw [SplitResult.port] at h
  split at h
  · cases h
  · split at h
    · split at h
      · rename_i hle
        cases h
        exact hle
      · cases h
    · cases h

theorem effectivePort_range {parsed : SplitResult} {port : Option Nat} (scheme : String)
    (h : parsed.port py = .ok port) :
    0 < effectivePort scheme port ∧ effectivePort scheme port ≤ 65535 := by
  have hdefault : 0 < (if scheme = "http" then 80 else 443) ∧
      (if scheme = "http" then 80 else 443) ≤ 65535 := by
    split <;> decide
  cases port with
  | none => exact hdefault
  | some port =>
    cases port with
    | zero => exact hdefault
    | succ p => exact ⟨Nat.succ_pos p, port_le h⟩

theorem validateAndUnpack_guarded {dns : Dns} {url : String} {dial : Dial}
    (h : validateAndUnpack py settings dns url = .ok dial) : Guarded py settings dns dial := by
  rw [validateAndUnpack] at h
  obtain ⟨parsed, hparsed, h⟩ := bind_eq_ok.1 h
  obtain ⟨⟨⟩, hscheme, h⟩ := bind_eq_ok.1 h
  obtain ⟨hostname, hhost, h⟩ := bind_eq_ok.1 h
  obtain ⟨ips, hips, h⟩ := bind_eq_ok.1 h
  obtain ⟨port, hport, h⟩ := bind_eq_ok.1 h
  have hweb := raiseIf_eq_ok.1 hscheme
  obtain ⟨hnamed, addrInfo, hlookup, haddresses⟩ := validateHostname_ok hips
  have hfirst : ips.headD "" ∈ ips := by
    cases ips with
    | nil => exact absurd rfl (validateHostname_ne_nil hips)
    | cons ip ips => exact List.mem_cons_self
  obtain ⟨hgiven, haddress⟩ := haddresses _ hfirst
  cases h
  exact ⟨by tauto, effectivePort_range _ hport,
    ⟨parsed, port, hparsed, rfl, (SplitResult.requireHostname_eq_ok.1 hhost).1, hport, rfl⟩,
    hnamed, ⟨addrInfo, hlookup, hgiven⟩, haddress⟩

/-- Every connection of a request has passed the guard at its own hop, with the URL that led
there. -/
theorem hops_guarded (net : Network) (follow : Bool) {left start : Nat} {url : String} {i : Nat}
    {dial : Dial} (h : (hops py settings net follow left start url).2[i]? = some dial) :
    Guarded py settings (net.dns (start + i)) dial ∧
      Led py net follow start url (hops py settings net follow left start url).2 dial i := by
  induction left generalizing start url i with
  | zero => cases h
  | succ left ih =>
    rw [hops] at h ⊢
    split at h
    · cases h
    · rename_i first hfirst
      have hguarded := validateAndUnpack_guarded hfirst
      have hurl := (validateAndUnpack_ok hfirst).url_eq
      have hone {i : Nat} (h : [first][i]? = some dial) :
          Guarded py settings (net.dns (start + i)) dial ∧
            Led py net follow start url [first] dial i := by
        cases i with
        | zero =>
          cases h
          exact ⟨hguarded, hurl⟩
        | succ i => cases h
      split at h
      · exact hone h
      · rename_i response hserve
        split at h
        · exact hone h
        · exact hone h
        · rename_i next hnext
          cases i with
          | zero =>
            cases h
            exact ⟨hguarded, hurl⟩
          | succ i =>
            have hrest := ih h
            have hshift : start + 1 + i = start + (i + 1) := by omega
            rw [hshift] at hrest
            refine ⟨hrest.1, ?_⟩
            cases i with
            | zero =>
              have hlast : dial.url = next := hrest.2
              rw [← hurl] at hserve hnext
              exact ⟨first, response, rfl, hserve, hlast ▸ hnext⟩
            | succ i =>
              obtain ⟨prev, answer, hprev, hanswer, hlast⟩ := hrest.2
              have hshift : start + 1 + i = start + (i + 1) := by omega
              rw [hshift] at hanswer
              exact ⟨prev, answer, hprev, hanswer, hlast⟩

end Guard

/-- A request that is sent over a connection: read back, its URL names the address and the port of
the connection, and for the rest what the prepared URL asks for. -/
structure Pinned (py : Python) (dial : Dial) (parsed : UrlParts) (request : PreparedRequest)
    (target : UrlParts) : Prop where
  read : urlsplit py request.url = .ok target
  split : urlparse py request.url = .ok target.toSplitResult
  scheme : target.scheme = parsed.scheme
  authority : target.netloc = ipNetloc dial
  address : target.hostname py = some (py.lower dial.ip)
  port : target.port py = .ok (some dial.port)
  path : parsed.path = target.path ∨ parsed.path = target.path ++ [';']
  query : target.query = parsed.query
  fragment : target.fragment = parsed.fragment
  host : request.host = dial.hostname ∨ ∃ port, parsed.port py = .ok (some port) ∧
    request.host = dial.hostname ++ ":" ++ toString port

theorem hostHeader_cases (dial : Dial) {py : Python} {parsed : SplitResult} {port : Option Nat}
    (h : parsed.port py = .ok port) : hostHeader dial port = dial.hostname ∨
      ∃ named, parsed.port py = .ok (some named) ∧
        hostHeader dial port = dial.hostname ++ ":" ++ toString named := by
  cases port with
  | none => exact .inl rfl
  | some port =>
    cases port with
    | zero => exact .inl rfl
    | succ p =>
      rw [hostHeader]
      split
      · exact .inl rfl
      · exact .inr ⟨p + 1, h, rfl⟩

/-- The path that is sent is the one asked for, but for a trailing bare `;`. -/
theorem splitParams_prefix (path : List Char) :
    (splitParams path).1 ++ following ';' (splitParams path).2 <+: path := by
  rcases splitParams_rejoin path with he | he
  · exact ⟨[], (List.append_nil _).trans he.symm⟩
  · exact ⟨[';'], he.symm⟩

/-- The URL at the address of a connection is read back part by part. -/
theorem urlsplit_pinned {py : Python} (hv6 : ColonIsV6 py) {settings : Settings} {dns : Dns}
    {dial : Dial} (h : Guarded py settings dns dial) (hip : PlainAddress dial.ip)
    {parsed : UrlParts} (hwell : parsed.WellFormed)
    (hscheme : parsed.scheme = "http" ∨ parsed.scheme = "https") (hnetloc : parsed.netloc ≠ [])
    {path : List Char} (hle : path <+: parsed.path) :
    urlsplit py (urlunparse parsed.scheme (ipNetloc dial) path [] parsed.query parsed.fragment) =
      .ok (parsed.at (ipNetloc dial) path) := by
  obtain ⟨ip, hknown, -⟩ := h.address
  have hrooted := (hwell.rooted hnetloc).mono hle
  have hdelimiters : ∀ c ∈ ipNetloc dial, c ∉ "/?#".toList := unmarked_ipNetloc hip (by decide)
  have hunbroken : Unbroken (ipNetloc dial) := unmarked_ipNetloc hip (by decide)
  exact @urlsplit_urlunparse py (parsed.at (ipNetloc dial) path)
    (hwell.at (ipNetloc dial) hle hrooted) hscheme hrooted hdelimiters hunbroken
    (checkBrackets_ipNetloc hv6 hknown hip) (checkNetloc_ipNetloc hip)

theorem send_pinned {py : Python} (hv6 : ColonIsV6 py) {settings : Settings} {dns : Dns}
    {dial : Dial} (h : Guarded py settings dns dial) (hip : PlainAddress dial.ip) {url : String}
    {parsed : UrlParts} (hparsed : urlsplit py url = .ok parsed)
    (hscheme : parsed.scheme = "http" ∨ parsed.scheme = "https") (hnetloc : parsed.netloc ≠ [])
    {port : Option Nat} (hport : parsed.port py = .ok port) :
    ∃ request target, send py dial url = .ok request ∧ Pinned py dial parsed request target := by
  have hsend : send py dial url = .ok
      ⟨urlunparse parsed.scheme (ipNetloc dial) (splitParams parsed.path).1
        (splitParams parsed.path).2 parsed.query parsed.fragment,
        hostHeader dial port⟩ := by
    rw [send, hparsed, ok_bind, UrlParts.params, if_pos (mem_usesParams hscheme)]
    dsimp only
    rw [hport]
    rfl
  rw [urlunparse_params] at hsend
  have hpath := splitParams_rejoin parsed.path
  dsimp only at hpath
  have hle := splitParams_prefix parsed.path
  generalize (splitParams parsed.path).1 ++ following ';' (splitParams parsed.path).2 = path
    at hsend hpath hle
  have hread := urlsplit_pinned hv6 h hip (urlsplit_wellFormed hparsed) hscheme hnetloc hle
  have hauthority : (parsed.at (ipNetloc dial) path).toSplitResult =
      ⟨parsed.scheme, ipNetloc dial⟩ := rfl
  refine ⟨_, parsed.at (ipNetloc dial) path, hsend, ?_⟩
  exact {
    read := hread
    split := by rw [urlparse_eq_urlsplit, hread]; rfl
    scheme := rfl
    authority := rfl
    address := by rw [hauthority]; exact hostname_ipNetloc hip _
    port := by rw [hauthority]; exact port_ipNetloc hip h.port.2 _
    path := hpath
    query := rfl
    fragment := rfl
    host := hostHeader_cases dial hport }

theorem publicPython_colonIsV6 : ColonIsV6 publicPython := by
  intro text ip hip hcolon
  simp only [publicPython] at hip
  split at hip
  · rename_i htext
    rw [htext] at hcolon
    exact absurd hcolon (by decide)
  · cases hip

end FileScanner
