import Mathlib.Data.List.DropRight
import Mathlib.Data.List.GetD
import Mathlib.Data.List.Nodup
import Mathlib.Tactic.Common

namespace Base64
set_option autoImplicit true

/-- The groups of six bits of a text of bytes, the last one filled up with zeros. -/
def sextets : List UInt8 → List Nat
  | [] => []
  | [a] => [a.toNat / 4, a.toNat % 4 * 16]
  | [a, b] => [a.toNat / 4, a.toNat % 4 * 16 + b.toNat / 16, b.toNat % 16 * 4]
  | a :: b :: c :: rest =>
    a.toNat / 4 :: (a.toNat % 4 * 16 + b.toNat / 16) :: (b.toNat % 16 * 4 + c.toNat / 64)
      :: c.toNat % 64 :: sextets rest

def urlAlphabet : List Char :=
  "ABCDEFGHIJKLMNOPQRSTUVWXYZabcdefghijklmnopqrstuvwxyz0123456789-_".toList

def digit (n : Nat) : Char := urlAlphabet.getD n '='

def padding (bytes : List UInt8) : List Char :=
  List.replicate ((3 - bytes.length % 3) % 3) '='

def urlsafeEncode (bytes : List UInt8) : List Char :=
  (sextets bytes).map digit ++ padding bytes

def rstrip (c : Char) (text : List Char) : List Char := text.rdropWhile (· = c)

/-- The bytes of groups of six bits. -/
def bytesOf : List Nat → List UInt8
  | p :: q :: r :: s :: rest =>
    UInt8.ofNat (p * 4 + q / 16) :: UInt8.ofNat (q % 16 * 16 + r / 4)
      :: UInt8.ofNat (r % 4 * 64 + s) :: bytesOf rest
  | [p, q, r] => [UInt8.ofNat (p * 4 + q / 16), UInt8.ofNat (q % 16 * 16 + r / 4)]
  | [p, q] => [UInt8.ofNat (p * 4 + q / 16)]
  | _ => []

theorem ofNat_of_eq {b : UInt8} {n : Nat} (h : n = b.toNat) : UInt8.ofNat n = b := by
  rw [h, UInt8.ofNat_toNat]

theorem bytesOf_sextets : Function.LeftInverse bytesOf sextets := by
  have hlt (b : UInt8) : b.toNat < 256 := b.toNat_lt
  intro bytes
  induction bytes using sextets.induct with
  | case1 => rfl
  | case2 a =>
    have ha := hlt a
    rw [sextets, bytesOf, ofNat_of_eq (b := a) (by omega)]
  | case3 a b =>
    have ha := hlt a
    have hb := hlt b
    rw [sextets, bytesOf, ofNat_of_eq (b := a) (by omega), ofNat_of_eq (b := b) (by omega)]
  | case4 a b c rest ih =>
    have ha := hlt a
    have hb := hlt b
    have hc := hlt c
    rw [sextets, bytesOf, ofNat_of_eq (b := a) (by omega), ofNat_of_eq (b := b) (by omega),
      ofNat_of_eq (b := c) (by omega), ih]

theorem sextets_lt (bytes : List UInt8) : ∀ n ∈ sextets bytes, n < 64 := by
  have hlt (b : UInt8) : b.toNat < 256 := b.toNat_lt
  induction bytes using sextets.induct with
  | case1 => exact List.forall_mem_nil _
  | case2 a =>
    have ha := hlt a
    simp only [sextets, List.forall_mem_cons]
    exact ⟨by omega, by omega, List.forall_mem_nil _⟩
  | case3 a b =>
    have ha := hlt a
    have hb := hlt b
    simp only [sextets, List.forall_mem_cons]
    exact ⟨by omega, by omega, by omega, List.forall_mem_nil _⟩
  | case4 a b c rest ih =>
    have ha := hlt a
    have hb := hlt b
    have hc := hlt c
    simp only [sextets, List.forall_mem_cons]
    exact ⟨by omega, by omega, by omega, by omega, ih⟩

theorem digit_of_lt {n : Nat} (h : n < 64) : ∃ hn : n < urlAlphabet.length,
    digit n = urlAlphabet[n] := by
  have hn : n < urlAlphabet.length := h
  exact ⟨hn, List.getD_eq_getElem _ _ hn⟩

theorem digit_injOn {m n : Nat} (hm : m < 64) (hn : n < 64) (h : digit m = digit n) : m = n := by
  have hnodup : urlAlphabet.Nodup := by decide +kernel
  obtain ⟨hm', hdm⟩ := digit_of_lt hm
  obtain ⟨hn', hdn⟩ := digit_of_lt hn
  rw [hdm, hdn] at h
  exact (hnodup.getElem_inj_iff).1 h

theorem digit_ne_pad {n : Nat} (hn : n < 64) : digit n ≠ '=' := by
  have hpad : '=' ∉ urlAlphabet := by decide +kernel
  obtain ⟨hn', hd⟩ := digit_of_lt hn
  intro he
  rw [hd] at he
  exact hpad (he ▸ List.getElem_mem hn')

theorem digits_injective {ms ns : List Nat} (hm : ∀ n ∈ ms, n < 64) (hn : ∀ n ∈ ns, n < 64)
    (h : ms.map digit = ns.map digit) : ms = ns := by
  induction ms generalizing ns with
  | nil => exact (List.map_eq_nil_iff.1 h.symm).symm
  | cons m ms ih =>
    cases ns with
    | nil => cases h
    | cons n ns =>
      obtain ⟨hm, hms⟩ := List.forall_mem_cons.1 hm
      obtain ⟨hn, hns⟩ := List.forall_mem_cons.1 hn
      rw [List.map_cons, List.map_cons, List.cons.injEq] at h
      rw [digit_injOn hm hn h.1, ih hms hns h.2]

theorem rstrip_append_replicate {c : Char} {text : List Char} (h : c ∉ text) (n : Nat) :
    rstrip c (text ++ List.replicate n c) = text := by
  induction n with
  | zero =>
    rw [List.replicate_zero, List.append_nil, rstrip, List.rdropWhile_eq_self_iff]
    intro hne hlast
    exact h (of_decide_eq_true hlast ▸ List.getLast_mem hne)
  | succ n ih =>
    rw [List.replicate_succ', ← List.append_assoc, rstrip, List.rdropWhile_concat,
      if_pos (decide_eq_true rfl)]
    exact ih

/-- Without its padding, the encoding still determines the bytes. -/
theorem rstrip_urlsafeEncode_injective :
    Function.Injective (fun bytes => rstrip '=' (urlsafeEncode bytes)) := by
  have hstrip (bytes : List UInt8) :
      rstrip '=' (urlsafeEncode bytes) = (sextets bytes).map digit := by
    apply rstrip_append_replicate
    intro hmem
    obtain ⟨n, hn, he⟩ := List.mem_map.1 hmem
    exact digit_ne_pad (sextets_lt bytes n hn) he
  intro xs ys h
  have hdigits : (sextets xs).map digit = (sextets ys).map digit := by
    rw [← hstrip xs, ← hstrip ys]
    exact h
  exact bytesOf_sextets.injective (digits_injective (sextets_lt xs) (sextets_lt ys) hdigits)

end Base64
