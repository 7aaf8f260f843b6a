import FileScanner.Dashboard
import FileScanner.Lib.Base64

namespace FileScanner
open Base64 Collections Fallible
set_option autoImplicit true

def standardAlphabet : List Char :=
  "ABCDEFGHIJKLMNOPQRSTUVWXYZabcdefghijklmnopqrstuvwxyz0123456789+/".toList

def standardDigit (n : Nat) : Char := standardAlphabet.getD n '='

/-- `base64.b64encode`. -/
def b64encode (bytes : Bytes) : List Char := (sextets bytes).map standardDigit ++ padding bytes

/-- The header by which a client gives a user and a password. -/
def basic (user password : String) : String :=
  "Basic " ++ String.ofList (b64encode (encode (user ++ ":" ++ password)))

theorem base64Value_standardDigit : ∀ n < 64, base64Value (standardDigit n) = some n := by
  decide +kernel

theorem standardDigit_plain : ∀ n < 64, standardDigit n ≠ '=' ∧ standardDigit n ≠ '-' ∧
    standardDigit n ≠ '_' ∧ (standardDigit n).toNat < 128 := by
  decide +kernel

theorem base64Decode_digit {n : Nat} (h : n < 64) (cs : List Char) (quad left pads : Nat)
    (out : Bytes) :
    base64Decode (standardDigit n :: cs) quad left pads out =
      match quad with
      | 0 => base64Decode cs 1 n 0 out
      | 1 => base64Decode cs 2 (n % 16) 0 (out ++ [UInt8.ofNat (left * 4 + n / 16)])
      | 2 => base64Decode cs 3 (n % 4) 0 (out ++ [UInt8.ofNat (left * 16 + n / 4)])
      | _ => base64Decode cs 0 0 0 (out ++ [UInt8.ofNat (left * 64 + n)]) :=
  base64Decode_value (standardDigit_plain n h).1 (base64Value_standardDigit n h) cs quad left pads
    out

section Decode
variable {p q r t : Nat} (hp : p < 64) (hq : q < 64) (cs : List Char) (left pads : Nat)
  (out : Bytes)
include hp hq

theorem base64Decode_two :
    base64Decode (standardDigit p :: standardDigit q :: cs) 0 left pads out =
      base64Decode cs 2 (q % 16) 0 (out ++ [UInt8.ofNat (p * 4 + q / 16)]) :=
  (base64Decode_digit hp _ 0 left pads out).trans (base64Decode_digit hq cs 1 p 0 out)

theorem base64Decode_three (hr : r < 64) :
    base64Decode (standardDigit p :: standardDigit q :: standardDigit r :: cs) 0 left pads out =
      base64Decode cs 3 (r % 4) 0
        (out ++ [UInt8.ofNat (p * 4 + q / 16), UInt8.ofNat (q % 16 * 16 + r / 4)]) := by
  rw [base64Decode_two hp hq]
  apply (base64Decode_digit hr cs 2 _ 0 _).trans
  exact congrArg (base64Decode cs 3 (r % 4) 0) (List.append_assoc out _ _)

theorem base64Decode_four (hr : r < 64) (ht : t < 64) :
    base64Decode (standardDigit p :: standardDigit q :: standardDigit r :: standardDigit t :: cs)
        0 left pads out =
      base64Decode cs 0 0 0 (out ++ [UInt8.ofNat (p * 4 + q / 16),
        UInt8.ofNat (q % 16 * 16 + r / 4), UInt8.ofNat (r % 4 * 64 + t)]) := by
  rw [base64Decode_three hp hq _ _ _ _ hr]
  apply (base64Decode_digit ht cs 3 _ 0 _).trans
  exact congrArg (base64Decode cs 0 0 0) (List.append_assoc out _ _)

end Decode

theorem base64Decode_b64encode (bytes out : Bytes) :
    base64Decode (b64encode bytes) 0 0 0 out = .ok (out ++ bytes) := by
  have hlt (b : UInt8) : b.toNat < 256 := b.toNat_lt
  induction bytes using sextets.induct generalizing out with
  | case1 =>
    rw [List.append_nil]
    rfl
  | case2 a =>
    have ha := hlt a
    apply (base64Decode_two (by omega) (by omega) _ _ _ _).trans
    rw [ofNat_of_eq (b := a) (by omega)]
    rfl
  | case3 a b =>
    have ha := hlt a
    have hb := hlt b
    apply (base64Decode_three (by omega) (by omega) _ _ _ _ (by omega)).trans
    rw [ofNat_of_eq (b := a) (by omega), ofNat_of_eq (b := b) (by omega)]
    rfl
  | case4 a b c rest ih =>
    have ha := hlt a
    have hb := hlt b
    have hc := hlt c
    have hpadding : padding (a :: b :: c :: rest) = padding rest := by
      rw [padding, padding, List.length_cons, List.length_cons, List.length_cons,
        Nat.add_assoc, Nat.add_assoc, Nat.add_mod_right]
    apply (base64Decode_four (by omega) (by omega) _ _ _ _ (by omega) (by omega)).trans
    rw [ofNat_of_eq (b := a) (by omega), ofNat_of_eq (b := b) (by omega),
      ofNat_of_eq (b := c) (by omega), hpadding]
    apply (ih _).trans
    rw [List.append_assoc]
    rfl

theorem b64encode_plain (bytes : Bytes) :
    ∀ c ∈ b64encode bytes, c ≠ '-' ∧ c ≠ '_' ∧ c.toNat < 128 := by
  intro c hc
  rcases List.mem_append.1 hc with hdigit | hpad
  · obtain ⟨n, hn, rfl⟩ := List.mem_map.1 hdigit
    exact (standardDigit_plain n (sextets_lt bytes n hn)).2
  · rw [(List.mem_replicate.1 hpad).2]
    decide

theorem b64encode_isAscii (bytes : Bytes) :
    isAscii (String.ofList (b64encode bytes)).toList = true := by
  rw [String.toList_ofList, isAscii, List.all_eq_true]
  intro c hc
  exact decide_eq_true (b64encode_plain bytes c hc).2.2

theorem b64decode_b64encode (bytes : Bytes) :
    b64decode (String.ofList (b64encode bytes)) = .ok bytes := by
  have hplain := b64encode_plain bytes
  have hfilter : (b64encode bytes).filter (fun c => c ≠ '-' ∧ c ≠ '_') = b64encode bytes := by
    rw [List.filter_eq_self]
    intro c hc
    exact decide_eq_true ⟨(hplain c hc).1, (hplain c hc).2.1⟩
  rw [b64decode, if_pos (b64encode_isAscii bytes), String.toList_ofList, hfilter,
    base64Decode_b64encode]
  rfl

/-- The header of a client carries the user and the password it was made from. -/
theorem carriesCredentials_basic {user : String} (h : ':' ∉ user.toList) (password : String) :
    CarriesCredentials (String.ofList (b64encode (encode (user ++ ":" ++ password))))
      user password := by
  have htext : (user ++ ":" ++ password).toList = user.toList ++ ':' :: password.toList := by
    rw [String.toList_append, String.toList_append, List.append_assoc]
    rfl
  refine ⟨_, _, b64decode_b64encode _, utf8Decode_eq_some.2 rfl, ?_⟩
  rw [htext, partitionAt_append h]
  exact ⟨rfl, rfl⟩

section Client
variable {cfg : GateSettings} {user : String} (hplain : ':' ∉ user.toList) (password : String)
include hplain

theorem admits_basic :
    Admits cfg (some (basic user password)) ↔ cfg.workerDashboardPassword ≠ "" ∧
      password = cfg.workerDashboardPassword ∧
      (cfg.workerDashboardUser ≠ "" → user = cfg.workerDashboardUser) := by
  rw [basic, admits_payload, exists_carried (carriesCredentials_basic hplain password)]

theorem credentialsCrash_basic :
    CredentialsCrash cfg (some (basic user password)) ↔
      cfg.workerDashboardPassword ≠ "" ∧ ¬ Comparable cfg user password := by
  rw [basic, credentialsCrash_payload, b64encode_isAscii,
    exists_carried (carriesCredentials_basic hplain password), or_iff_right Bool.true_eq_false.mp]

end Client

end FileScanner
