import FileScanner.Lib.Join
import FileScanner.Url
import Mathlib.Data.Bool.AllAny
import Mathlib.Data.List.TakeWhile

namespace FileScanner
open Fallible
set_option autoImplicit true

structure UrlParts extends SplitResult where
  path : List Char
  query : List Char
  fragment : List Char
  deriving DecidableEq

def splitNetloc (rest : List Char) : List Char × List Char :=
  match rest with
  | '/' :: '/' :: rest =>
    (rest.takeWhile (fun c => !"/?#".toList.contains c),
      rest.dropWhile (fun c => !"/?#".toList.contains c))
  | rest => ([], rest)

/-- A URL split into all its parts; `urlparse` keeps the first two. -/
def urlsplit (py : Python) (url : String) : Except Exc UrlParts := do
  let stripped := url.toList.dropWhile (fun c => c.toNat ≤ 32)
  let cleaned := stripped.filter (fun c => !"\t\r\n".toList.contains c)
  let scheme := splitScheme cleaned
  let netloc := splitNetloc scheme.2
  checkBrackets py netloc.1
  let fragment := partitionAt '#' netloc.2
  let query := partitionAt '?' fragment.1
  checkNetloc py netloc.1
  pure ⟨⟨scheme.1, netloc.1⟩, query.1, query.2.2, fragment.2.2⟩

def usesParams : List String :=
  ["", "ftp", "hdl", "prospero", "http", "imap", "https", "shttp", "rtsp", "rtspu", "rtsps", "sip",
    "sips", "mms", "sftp", "tel"]

/-- The parameters of the last segment of a path. -/
def splitParams (path : List Char) : List Char × List Char :=
  let segment := afterLast '/' path
  match partitionAt ';' segment with
  | (before, true, params) => (path.take (path.length - segment.length) ++ before, params)
  | _ => (path, [])

def UrlParts.params (parsed : UrlParts) : List Char × List Char :=
  if parsed.scheme ∈ usesParams then splitParams parsed.path else (parsed.path, [])

/-- An optional part of a URL, after the character that announces it. -/
def following (sep : Char) (part : List Char) : List Char := if part = [] then [] else sep :: part

/-- A URL put together from its parts, its authority being given. -/
def urlunparse (scheme : String) (netloc path params query fragment : List Char) : String :=
  let path := path ++ following ';' params
  let path := if path = [] ∨ path.head? = some '/' then path else '/' :: path
  let scheme := if scheme = "" then [] else scheme.toList ++ [':']
  String.ofList (scheme ++ '/' :: '/' :: (netloc ++
    (path ++ (following '?' query ++ following '#' fragment))))

section Text
variable {text before after : List Char} {sep : Char}

theorem partitionAt_of_not_mem (h : sep ∉ text) : partitionAt sep text = (text, false, []) := by
  have hkeep : ∀ c ∈ text, decide (c ≠ sep) = true := by
    intro c hc
    apply decide_eq_true
    rintro rfl
    exact h hc
  have hcontains : text.contains sep = false := by
    rw [List.contains_eq_mem]
    exact decide_eq_false h
  rw [partitionAt, List.takeWhile_eq_self_iff.2 hkeep, hcontains,
    List.drop_of_length_le (Nat.le_succ _)]

theorem partitionAt_cases (sep : Char) (text : List Char) :
    (sep ∉ text ∧ partitionAt sep text = (text, false, [])) ∨
      ∃ before after, sep ∉ before ∧ text = before ++ sep :: after ∧
        partitionAt sep text = (before, true, after) := by
  by_cases h : sep ∈ text
  · obtain ⟨before, after, rfl, hbefore⟩ := List.eq_append_cons_of_mem h
    exact .inr ⟨before, after, hbefore, rfl, partitionAt_append hbefore after⟩
  · exact .inl ⟨h, partitionAt_of_not_mem h⟩

theorem afterLast_of_not_mem (h : sep ∉ text) : afterLast sep text = text := by
  have hkeep : ∀ c ∈ text.reverse, decide (c ≠ sep) = true := by
    intro c hc
    apply decide_eq_true
    rintro rfl
    exact h (List.mem_reverse.1 hc)
  rw [afterLast, List.takeWhile_eq_self_iff.2 hkeep, List.reverse_reverse]

theorem take_afterLast (sep : Char) (text : List Char) :
    text.take (text.length - (afterLast sep text).length) ++ afterLast sep text = text := by
  apply List.suffix_iff_eq_append.1
  rw [← List.reverse_prefix, afterLast, List.reverse_reverse]
  exact List.takeWhile_prefix _

theorem not_mem_partitionAt (sep : Char) (text : List Char) : sep ∉ (partitionAt sep text).1 := by
  rcases partitionAt_cases sep text with ⟨h, heq⟩ | ⟨before, after, h, -, heq⟩
  · rw [heq]
    exact h
  · rw [heq]
    exact h

theorem partitionAt_before_le (sep : Char) (text : List Char) : (partitionAt sep text).1 <+: text := by
  rw [partitionAt]
  exact List.takeWhile_prefix _

theorem partitionAt_after_subset (sep : Char) (text : List Char) :
    (partitionAt sep text).2.2 ⊆ text := by
  rw [partitionAt]
  exact List.drop_subset _ _

end Text

theorem digitsToNat_toString (n : Nat) : digitsToNat (toString n).toList = n := by
  rw [Text.toList_toString_nat, digitsToNat]
  have h := Nat.ofDigitChars_ten_toDigits (n := n)
  rw [Nat.ofDigitChars_eq_foldl] at h
  simpa only [Nat.mul_comm] using h

theorem isDigit_toString {n : Nat} : (toString n).toList.all Char.isDigit = true := by
  rw [List.all_eq_true, Text.toList_toString_nat]
  exact fun c hc => Nat.isDigit_of_mem_toDigits (by decide) (by decide) hc

/-- Parameters are put back as they were, but for a separator that nothing follows. -/
theorem splitParams_rejoin (path : List Char) :
    let rejoined := (splitParams path).1 ++ following ';' (splitParams path).2
    path = rejoined ∨ path = rejoined ++ [';'] := by
  rw [splitParams]
  rcases partitionAt_cases ';' (afterLast '/' path) with ⟨-, heq⟩ | ⟨before, after, -, hsplit, heq⟩
  · rw [heq]
    exact .inl (List.append_nil path).symm
  · have hpath := take_afterLast '/' path
    rw [heq]
    dsimp only
    cases after with
    | nil =>
      rw [following, if_pos rfl, List.append_nil, List.append_assoc, ← hsplit]
      exact .inr hpath.symm
    | cons c rest =>
      rw [following, if_neg (List.cons_ne_nil c rest), List.append_assoc, ← hsplit]
      exact .inl hpath.symm

theorem splitNetloc_authority (rest : List Char) : splitNetloc ('/' :: '/' :: rest) =
    (rest.takeWhile (fun c => !"/?#".toList.contains c),
      rest.dropWhile (fun c => !"/?#".toList.contains c)) := rfl

theorem splitNetloc_other {rest : List Char} (h : ∀ tail, rest ≠ '/' :: '/' :: tail) :
    splitNetloc rest = ([], rest) := by
  unfold splitNetloc
  split
  · rename_i tail
    exact absurd rfl (h tail)
  · rfl

/-- The parts that `urlparse` keeps are those of the whole split. -/
theorem urlparse_eq_urlsplit (py : Python) (url : String) :
    urlparse py url = (urlsplit py url).map (·.toSplitResult) := by
  rw [urlparse, urlsplit]
  dsimp only
  generalize splitScheme ((url.toList.dropWhile (fun c => c.toNat ≤ 32)).filter
    (fun c => !"\t\r\n".toList.contains c)) = schemed
  obtain ⟨scheme, rest⟩ := schemed
  dsimp only
  split
  · rename_i tail
    rw [splitNetloc_authority]
    dsimp only
    generalize tail.takeWhile (fun c => !"/?#".toList.contains c) = netloc
    cases checkBrackets py netloc with
    | error e => rfl
    | ok _ => cases checkNetloc py netloc <;> rfl
  · rename_i hother
    rw [splitNetloc_other hother]
    rfl

/-- A path as it follows an authority. -/
def Rooted (path : List Char) : Prop := path = [] ∨ path.head? = some '/'

theorem Rooted.mono {path rest : List Char} (h : Rooted rest) (hle : path <+: rest) :
    Rooted path := by
  cases path with
  | nil => exact .inl rfl
  | cons c path =>
    obtain ⟨tail, rfl⟩ := hle
    exact .inr (h.resolve_left (List.cons_ne_nil _ _))

def Unbroken (text : List Char) : Prop := ∀ c ∈ text, c ∉ "\t\r\n".toList

/-- What the parts of a URL are free of once it has been split. -/
structure UrlParts.WellFormed (parsed : UrlParts) : Prop where
  path : Unbroken parsed.path ∧ '?' ∉ parsed.path ∧ '#' ∉ parsed.path
  query : Unbroken parsed.query ∧ '#' ∉ parsed.query
  fragment : Unbroken parsed.fragment
  rooted : parsed.netloc ≠ [] → Rooted parsed.path

theorem splitScheme_subset (url : List Char) : (splitScheme url).2 ⊆ url := by
  rw [splitScheme]
  have hafter := partitionAt_after_subset ':' url
  split
  · rename_i c head rest heq
    split
    · rw [heq] at hafter
      exact hafter
    · exact List.Subset.refl _
  · exact List.Subset.refl _

theorem splitNetloc_subset (rest : List Char) : (splitNetloc rest).2 ⊆ rest := by
  unfold splitNetloc
  split
  · intro c hc
    exact List.mem_cons_of_mem _ (List.mem_cons_of_mem _ ((List.dropWhile_sublist _).subset hc))
  · exact List.Subset.refl _

theorem splitNetloc_head {rest : List Char} (h : (splitNetloc rest).1 ≠ []) {c : Char}
    (hc : (splitNetloc rest).2.head? = some c) : c ∈ "/?#".toList := by
  unfold splitNetloc at h hc
  split at h
  · rename_i rest
    have hstop := List.head?_dropWhile_not (fun c => !"/?#".toList.contains c) rest
    change (rest.dropWhile (fun c => !"/?#".toList.contains c)).head? = some c at hc
    rw [hc] at hstop
    dsimp only at hstop
    rw [Bool.not_eq_false'] at hstop
    exact List.contains_iff_mem.1 hstop
  · exact absurd rfl h

theorem urlsplit_wellFormed {py : Python} {url : String} {parsed : UrlParts}
    (h : urlsplit py url = .ok parsed) : parsed.WellFormed := by
  rw [urlsplit] at h
  obtain ⟨⟨⟩, -, h⟩ := bind_eq_ok.1 h
  obtain ⟨⟨⟩, -, h⟩ := bind_eq_ok.1 h
  cases h
  generalize hcleaned : (url.toList.dropWhile (fun c => c.toNat ≤ 32)).filter
    (fun c => !"\t\r\n".toList.contains c) = cleaned
  have hplain : Unbroken cleaned := by
    intro c hc
    rw [← hcleaned] at hc
    have hkept := (List.mem_filter.1 hc).2
    rw [Bool.not_eq_true', List.contains_eq_mem] at hkept
    exact of_decide_eq_false hkept
  have hrest : Unbroken (splitNetloc (splitScheme cleaned).2).2 := fun c hc =>
    hplain c (splitScheme_subset cleaned (splitNetloc_subset _ hc))
  have hhead := @splitNetloc_head (splitScheme cleaned).2
  generalize splitNetloc (splitScheme cleaned).2 = netloc at hrest hhead ⊢
  have hbefore := (partitionAt_before_le '#' netloc.2).subset
  have hpath := partitionAt_before_le '?' (partitionAt '#' netloc.2).1
  have hfragment : '#' ∉ (partitionAt '?' (partitionAt '#' netloc.2).1).1 := fun hc =>
    not_mem_partitionAt '#' netloc.2 (hpath.subset hc)
  refine ⟨⟨fun c hc => hrest c (hbefore (hpath.subset hc)), not_mem_partitionAt _ _, hfragment⟩,
    ⟨fun c hc => hrest c (hbefore (partitionAt_after_subset _ _ hc)), fun hc =>
      not_mem_partitionAt '#' netloc.2 (partitionAt_after_subset _ _ hc)⟩,
    fun c hc => hrest c (partitionAt_after_subset _ _ hc), fun hne => ?_⟩
  have hprefix := hpath.trans (partitionAt_before_le '#' netloc.2)
  have hquery := not_mem_partitionAt '?' (partitionAt '#' netloc.2).1
  dsimp only at hne ⊢
  generalize (partitionAt '?' (partitionAt '#' netloc.2).1).1 = path at hprefix hquery hfragment ⊢
  cases path with
  | nil => exact .inl rfl
  | cons c path =>
    obtain ⟨tail, htail⟩ := hprefix
    have hdelimiter := hhead hne (c := c) (by rw [← htail]; rfl)
    have hslash : c = '/' := by
      simp only [String.reduceToList, List.mem_cons, List.not_mem_nil, or_false] at hdelimiter
      rcases hdelimiter with hc | hc | hc
      · exact hc
      · exact absurd (hc ▸ List.mem_cons_self) hquery
      · exact absurd (hc ▸ List.mem_cons_self) hfragment
    exact .inr (congrArg some hslash)

theorem partitionAt_following {sep : Char} {before : List Char} (h : sep ∉ before)
    (after : List Char) : (partitionAt sep (before ++ following sep after)).1 = before ∧
      (partitionAt sep (before ++ following sep after)).2.2 = after := by
  rw [following]
  split
  · rename_i hnil
    rw [List.append_nil, partitionAt_of_not_mem h, hnil]
    exact ⟨rfl, rfl⟩
  · rw [partitionAt_append h]
    exact ⟨rfl, rfl⟩

theorem head?_following {sep c : Char} {part : List Char}
    (h : (following sep part).head? = some c) : c = sep := by
  rw [following] at h
  split at h
  · cases h
  · exact (Option.some.inj h).symm

theorem Unbroken.append {text text' : List Char} (h : Unbroken text) (h' : Unbroken text') :
    Unbroken (text ++ text') := List.forall_mem_append.2 ⟨h, h'⟩

theorem Unbroken.following {sep : Char} {part : List Char} (h : Unbroken part)
    (hsep : sep ∉ "\t\r\n".toList) : Unbroken (following sep part) := by
  rw [FileScanner.following]
  split
  · exact fun c hc => absurd hc List.not_mem_nil
  · exact List.forall_mem_cons.2 ⟨hsep, h⟩

theorem splitScheme_web {scheme : String} (h : scheme = "http" ∨ scheme = "https")
    (rest : List Char) : splitScheme (scheme.toList ++ ':' :: rest) = (scheme, rest) := by
  have hplain : ':' ∉ scheme.toList := by
    rcases h with rfl | rfl <;> decide
  rw [splitScheme, partitionAt_append hplain]
  rcases h with rfl | rfl <;> rfl

theorem splitNetloc_append {netloc tail : List Char} (h : ∀ c ∈ netloc, c ∉ "/?#".toList)
    (htail : ∀ c, tail.head? = some c → c ∈ "/?#".toList) :
    splitNetloc ('/' :: '/' :: (netloc ++ tail)) = (netloc, tail) := by
  have hkeep : ∀ c ∈ netloc, (!"/?#".toList.contains c) = true := by
    intro c hc
    rw [Bool.not_eq_true', List.contains_eq_mem]
    exact decide_eq_false (h c hc)
  rw [splitNetloc, List.takeWhile_append_of_pos hkeep, List.dropWhile_append_of_pos hkeep]
  cases tail with
  | nil => simp
  | cons c tail =>
    have hstop : (!"/?#".toList.contains c) = false := by
      rw [Bool.not_eq_false', List.contains_iff_mem]
      exact htail c rfl
    rw [List.takeWhile_cons, List.dropWhile_cons, hstop, if_neg Bool.false_ne_true,
      if_neg Bool.false_ne_true, List.append_nil]

theorem not_mem_following {c sep : Char} {part : List Char} (h : c ∉ part) (hsep : c ≠ sep) :
    c ∉ following sep part := by
  rw [following]
  split
  · exact List.not_mem_nil
  · exact List.not_mem_cons_of_ne_of_not_mem hsep h

/-- What follows the authority begins with a delimiter. -/
theorem head?_afterNetloc {path : List Char} (h : Rooted path) (query fragment : List Char)
    {c : Char} (hc : (path ++ (following '?' query ++ following '#' fragment)).head? = some c) :
    c ∈ "/?#".toList := by
  rw [List.head?_append] at hc
  rcases h with rfl | hslash
  · rw [List.head?_nil, Option.none_or, List.head?_append] at hc
    cases hmark : (following '?' query).head? with
    | some d =>
      rw [hmark, Option.some_or, Option.some.injEq] at hc
      rw [← hc, head?_following hmark]
      decide
    | none =>
      rw [hmark, Option.none_or] at hc
      rw [head?_following hc]
      decide
  · rw [hslash, Option.some_or, Option.some.injEq] at hc
    rw [← hc]
    decide

theorem toList_urlunparse {scheme : String} (hscheme : scheme = "http" ∨ scheme = "https")
    {path : List Char} (hrooted : Rooted path) (netloc query fragment : List Char) :
    (urlunparse scheme netloc path [] query fragment).toList =
      scheme.toList ++ (':' :: '/' :: '/' :: (netloc ++
        (path ++ (following '?' query ++ following '#' fragment)))) := by
  have hne : scheme ≠ "" := by
    rcases hscheme with rfl | rfl <;> decide
  have hroot : path = [] ∨ path.head? = some '/' := hrooted
  have hnone : following ';' [] = [] := rfl
  rw [urlunparse, String.toList_ofList, hnone, List.append_nil, if_pos hroot, if_neg hne,
    List.append_assoc]
  rfl

theorem unbroken_web {scheme : String} (h : scheme = "http" ∨ scheme = "https")
    {rest : List Char} (hrest : Unbroken rest) :
    Unbroken (scheme.toList ++ ':' :: '/' :: '/' :: rest) := by
  have hletters : Unbroken scheme.toList := by
    rcases h with rfl | rfl <;> exact List.all_iff_forall_prop.1 (by decide)
  have hmarks : Unbroken [':', '/', '/'] := List.all_iff_forall_prop.1 (by decide)
  exact hletters.append (hmarks.append hrest)

/-- Nothing is cleaned out of an unbroken URL. -/
theorem cleaned_web {scheme : String} (h : scheme = "http" ∨ scheme = "https") {rest : List Char}
    (hplain : Unbroken (scheme.toList ++ rest)) :
    ((scheme.toList ++ rest).dropWhile (fun c => c.toNat ≤ 32)).filter
      (fun c => !"\t\r\n".toList.contains c) = scheme.toList ++ rest := by
  have hfirst : (scheme.toList ++ rest).dropWhile (fun c => c.toNat ≤ 32) =
      scheme.toList ++ rest := by
    rcases h with rfl | rfl <;> rfl
  rw [hfirst, List.filter_eq_self]
  intro c hc
  rw [Bool.not_eq_true', List.contains_eq_mem]
  exact decide_eq_false (hplain c hc)

/-- A URL put together from well formed parts is split into the same parts. -/
theorem urlsplit_urlunparse {py : Python} {parsed : UrlParts} (h : parsed.WellFormed)
    (hscheme : parsed.scheme = "http" ∨ parsed.scheme = "https") (hrooted : Rooted parsed.path)
    (hnetloc : ∀ c ∈ parsed.netloc, c ∉ "/?#".toList) (hplain : Unbroken parsed.netloc)
    (hbrackets : checkBrackets py parsed.netloc = .ok ())
    (hchars : checkNetloc py parsed.netloc = .ok ()) :
    urlsplit py (urlunparse parsed.scheme parsed.netloc parsed.path [] parsed.query
      parsed.fragment) = .ok parsed := by
  obtain ⟨⟨scheme, netloc⟩, path, query, fragment⟩ := parsed
  dsimp only at hscheme hrooted hnetloc hplain hbrackets hchars
  obtain ⟨⟨hpath, hquestion, hhash⟩, ⟨hquery, hqueryHash⟩, hfragment, -⟩ := h
  dsimp only at hpath hquestion hhash hquery hqueryHash hfragment
  have hafter : Unbroken (path ++ (following '?' query ++ following '#' fragment)) :=
    hpath.append ((hquery.following (by decide)).append (hfragment.following (by decide)))
  have hnohash : '#' ∉ path ++ following '?' query :=
    fun hc => (List.mem_append.1 hc).elim hhash (not_mem_following hqueryHash (by decide))
  rw [urlsplit, toList_urlunparse hscheme hrooted]
  dsimp only
  rw [cleaned_web hscheme (unbroken_web hscheme (hplain.append hafter)), splitScheme_web hscheme]
  dsimp only
  rw [splitNetloc_append hnetloc (fun _ => head?_afterNetloc hrooted query fragment),
    ← List.append_assoc]
  dsimp only
  rw [(partitionAt_following hnohash fragment).1, (partitionAt_following hnohash fragment).2,
    (partitionAt_following hquestion query).1, (partitionAt_following hquestion query).2, hbrackets,
    hchars]
  rfl

theorem urlunparse_params (scheme : String) (netloc path params query fragment : List Char) :
    urlunparse scheme netloc path params query fragment =
      urlunparse scheme netloc (path ++ following ';' params) [] query fragment := by
  have hnone : following ';' [] = [] := rfl
  rw [urlunparse, urlunparse, hnone, List.append_nil]

/-- The parts of a URL at another authority. -/
def UrlParts.at (parsed : UrlParts) (netloc path : List Char) : UrlParts :=
  { parsed with netloc := netloc, path := path }

theorem UrlParts.WellFormed.at {parsed : UrlParts} (h : parsed.WellFormed) (netloc : List Char)
    {path : List Char} (hle : path <+: parsed.path) (hrooted : Rooted path) :
    (parsed.at netloc path).WellFormed where
  path := ⟨fun c hc => h.path.1 c (hle.subset hc), fun hc => h.path.2.1 (hle.subset hc),
    fun hc => h.path.2.2 (hle.subset hc)⟩
  query := h.query
  fragment := h.fragment
  rooted _ := hrooted

theorem mem_usesParams {scheme : String} (h : scheme = "http" ∨ scheme = "https") :
    scheme ∈ usesParams := by
  rcases h with rfl | rfl <;> decide

end FileScanner
