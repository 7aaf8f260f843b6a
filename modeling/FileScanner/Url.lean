import FileScanner.Lib.Fallible
import FileScanner.Python

namespace FileScanner
open Fallible
set_option autoImplicit true

structure SplitResult where
  scheme : String
  netloc : List Char
  deriving DecidableEq

def partitionAt (sep : Char) (text : List Char) : List Char × Bool × List Char :=
  let before := text.takeWhile (· ≠ sep)
  (before, text.contains sep, text.drop (before.length + 1))

def afterLast (sep : Char) (text : List Char) : List Char :=
  (text.reverse.takeWhile (· ≠ sep)).reverse

def isAscii (text : List Char) : Bool := text.all (fun c => c.toNat < 128)

def isSchemeChar (c : Char) : Bool := c.isAlpha || c.isDigit || c = '+' || c = '-' || c = '.'

/-- A scheme is only taken when all of it is made of scheme characters. -/
def splitScheme (url : List Char) : String × List Char :=
  match partitionAt ':' url with
  | (c :: head, true, rest) =>
    if c.isAlpha ∧ (c :: head).all isSchemeChar then
      (String.ofList ((c :: head).map Char.toLower), rest)
    else ("", url)
  | _ => ("", url)

def isHexDigit (c : Char) : Bool :=
  c.isDigit || ('a' ≤ c && c ≤ 'f') || ('A' ≤ c && c ≤ 'F')

/-- A full match of `v[a-fA-F0-9]+\..+`, the text being free of line breaks. -/
def isIpvFuture (hostname : List Char) : Bool :=
  match hostname with
  | 'v' :: rest =>
    match rest.takeWhile isHexDigit, rest.dropWhile isHexDigit with
    | _ :: _, '.' :: _ :: _ => true
    | _, _ => false
  | _ => false

def checkBracketedHost (py : Python) (hostname : List Char) : Except Exc Unit :=
  if hostname.head? = some 'v' then
    if isIpvFuture hostname then .ok () else .error (.valueError "IPvFuture address is invalid")
  else
    match py.ipAddress (String.ofList hostname) with
    | none => .error (.valueError (py.repr (.str (String.ofList hostname))
        ++ " does not appear to be an IPv4 or IPv6 address"))
    | some ip =>
      if ip.version = 4 then
        .error (.valueError "An IPv4 address cannot be in brackets")
      else .ok ()

def checkBracketedNetloc (py : Python) (netloc : List Char) : Except Exc Unit :=
  let hostnameAndPort := afterLast '@' netloc
  match partitionAt '[' hostnameAndPort with
  | (beforeBracket, true, bracketed) =>
    let (hostname, _, port) := partitionAt ']' bracketed
    if beforeBracket ≠ [] ∨ (port ≠ [] ∧ port.head? ≠ some ':') then
      .error (.valueError "Invalid IPv6 URL")
    else checkBracketedHost py hostname
  | _ => checkBracketedHost py (partitionAt ':' hostnameAndPort).1

/-- Characters that would expand into a delimiter once the host is normalized. -/
def checkNetloc (py : Python) (netloc : List Char) : Except Exc Unit :=
  if netloc = [] ∨ isAscii netloc then .ok ()
  else
    let n := netloc.filter (fun c => !"@:#?".toList.contains c)
    let netloc2 := (py.nfkc (String.ofList n)).toList
    if n ≠ netloc2 ∧ "/?#@:".toList.any netloc2.contains then
      .error (.valueError ("netloc '" ++ String.ofList netloc
        ++ "' contains invalid characters under NFKC normalization"))
    else .ok ()

def checkBrackets (py : Python) (netloc : List Char) : Except Exc Unit :=
  if netloc.contains '[' != netloc.contains ']' then .error (.valueError "Invalid IPv6 URL")
  else if netloc.contains '[' then checkBracketedNetloc py netloc
  else .ok ()

def urlparse (py : Python) (url : String) : Except Exc SplitResult := do
  let stripped := url.toList.dropWhile (fun c => c.toNat ≤ 32)
  let cleaned := stripped.filter (fun c => !"\t\r\n".toList.contains c)
  let (scheme, rest) := splitScheme cleaned
  match rest with
  | '/' :: '/' :: rest =>
    let netloc := rest.takeWhile (fun c => !"/?#".toList.contains c)
    checkBrackets py netloc
    checkNetloc py netloc
    pure ⟨scheme, netloc⟩
  | _ => pure ⟨scheme, []⟩

def hostinfo (netloc : List Char) : List Char × List Char :=
  let info := afterLast '@' netloc
  match partitionAt '[' info with
  | (_, true, bracketed) =>
    let (hostname, _, rest) := partitionAt ']' bracketed
    (hostname, (partitionAt ':' rest).2.2)
  | _ =>
    let (hostname, _, port) := partitionAt ':' info
    (hostname, port)

def SplitResult.hostname (py : Python) (parsed : SplitResult) : Option String :=
  let host := (hostinfo parsed.netloc).1
  if host = [] then none
  else
    let (name, percent, zone) := partitionAt '%' host
    some (py.lower (String.ofList name) ++ (if percent then "%" else "") ++ String.ofList zone)

/-- `if not parsed.hostname: raise`, with the exception that a missing one raises. -/
def SplitResult.requireHostname (py : Python) (parsed : SplitResult) (missing : Exc) :
    Except Exc String :=
  match parsed.hostname py with
  | none => .error missing
  | some hostname => if hostname = "" then .error missing else .ok hostname

def SplitResult.port (py : Python) (parsed : SplitResult) : Except Exc (Option Nat) :=
  let port := (hostinfo parsed.netloc).2
  if port = [] then .ok none
  else if port.all Char.isDigit then
    if digitsToNat port ≤ 65535 then .ok (some (digitsToNat port))
    else .error (.valueError "Port out of range 0-65535")
  else
    .error (.valueError ("Port could not be cast to integer value as "
      ++ py.repr (.str (String.ofList port))))

theorem partitionAt_append {sep : Char} {before : List Char} (h : sep ∉ before)
    (after : List Char) : partitionAt sep (before ++ sep :: after) = (before, true, after) := by
  have hbefore : ∀ c ∈ before, decide (c ≠ sep) = true := by
    intro c hc
    apply decide_eq_true
    intro he
    exact h (he ▸ hc)
  have htake : (before ++ sep :: after).takeWhile (· ≠ sep) = before := by
    rw [List.takeWhile_append_of_pos hbefore, List.takeWhile_cons_of_neg (by simp),
      List.append_nil]
  have hcontains : (before ++ sep :: after).contains sep = true :=
    List.contains_iff_mem.2 (List.mem_append_right before List.mem_cons_self)
  rw [partitionAt, htake, hcontains, List.drop_append, List.drop_of_length_le (Nat.le_succ _)]
  simp

theorem SplitResult.requireHostname_eq_ok {py : Python} {parsed : SplitResult} {missing : Exc}
    {hostname : String} : parsed.requireHostname py missing = .ok hostname ↔
      parsed.hostname py = some hostname ∧ hostname ≠ "" := by
  rw [requireHostname]
  cases parsed.hostname py with
  | none => exact iff_of_false (nomatch ·) (fun h => nomatch h.1)
  | some host =>
    simp only [Option.some.injEq]
    split
    · rename_i he
      subst he
      exact iff_of_false (nomatch ·) (fun h => h.2 h.1.symm)
    · rename_i hne
      rw [Except.ok.injEq]
      refine ⟨fun h => ⟨h, h ▸ hne⟩, fun h => h.1⟩

example : (urlparse asciiPython " https://User@Example.COM:8443/a?b").map
    (fun p => (p.scheme, p.hostname asciiPython, p.port asciiPython)) =
      .ok ("https", some "example.com", .ok (some 8443)) := by decide

end FileScanner
