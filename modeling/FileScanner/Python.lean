import FileScanner.Lib.Dict
import Mathlib.Data.Rat.Defs

namespace FileScanner
open Collections
set_option autoImplicit true

abbrev Bytes := List UInt8

inductive Json where
  | null
  | bool (b : Bool)
  | int (n : Int)
  | float (q : Rat)
  | nonFinite (literal : String)
  | str (s : String)
  | list (xs : List Json)
  | obj (entries : List (String × Json))

inductive Exc where
  | scannerError (msg : String)
  | fileError (msg : String)
  | decryptionError (msg : String)
  | ssrfValidationError (msg : String)
  | requestException (msg : String)
  | jsonDecodeError (msg : String)
  | typeError (msg : String)
  | attributeError (msg : String)
  | keyError (msg : String)
  | valueError (msg : String)
  | runtimeError (msg : String)
  /-- Any other subclass of `Exception`. -/
  | exception (msg : String)
  deriving DecidableEq, Repr

def Exc.msg : Exc → String
  | .scannerError m | .fileError m | .decryptionError m | .ssrfValidationError m
  | .requestException m | .jsonDecodeError m | .typeError m | .attributeError m
  | .valueError m | .runtimeError m | .exception m => m
  | .keyError key => "'" ++ key ++ "'"

def Json.truthy : Json → Bool
  | .null => false
  | .bool b => b
  | .int n => n != 0
  | .float q => q != 0
  | .nonFinite _ => true
  | .str s => s != ""
  | .list xs => !xs.isEmpty
  | .obj entries => !entries.isEmpty

def Json.orElse (a b : Json) : Json := if a.truthy then a else b

def Json.isStr (text : String) : Json → Bool
  | .str s => s == text
  | _ => false

theorem Json.isStr_iff {text : String} {v : Json} : v.isStr text = true ↔ v = .str text := by
  cases v with
  | str s => simp only [isStr, beq_iff_eq, Json.str.injEq]
  | _ => exact iff_of_false Bool.false_ne_true Json.noConfusion

def Json.isInt (n : Int) : Json → Bool
  | .bool b => (if b then 1 else 0) == n
  | .int m => m == n
  | .float q => q == n
  | _ => false

def Json.typeName : Json → String
  | .null => "NoneType"
  | .bool _ => "bool"
  | .int _ => "int"
  | .float _ | .nonFinite _ => "float"
  | .str _ => "str"
  | .list _ => "list"
  | .obj _ => "dict"

def Json.get (value : Json) (key : String) : Except Exc Json :=
  match value with
  | .obj entries => .ok ((entries.lookup key).getD .null)
  | v => .error (.attributeError ("'" ++ v.typeName ++ "' object has no attribute 'get'"))

def Json.item (value : Json) (key : String) : Except Exc Json :=
  match value with
  | .obj entries =>
    match entries.lookup key with
    | some v => .ok v
    | none => .error (.keyError key)
  | .list _ => .error (.typeError "list indices must be integers or slices, not str")
  | .str _ => .error (.typeError "string indices must be integers, not 'str'")
  | v => .error (.typeError ("'" ++ v.typeName ++ "' object is not subscriptable"))

structure IpAddress where
  text : String
  version : Nat
  isLoopback : Bool
  isLinkLocal : Bool
  isMulticast : Bool
  isReserved : Bool
  isPrivate : Bool
  isGlobal : Bool
  deriving DecidableEq, Repr

/-- The library functions the code calls on arbitrary text, on which nothing is assumed. -/
structure Python where
  repr : Json → String
  str : Json → String
  lower : String → String
  /-- `int(text)`; none is the `ValueError`. -/
  int : String → Option Int
  loads : String → Except Exc Json
  /-- `json.dumps(value, separators=(",", ":"))`. -/
  dumps : Json → String
  /-- `unicodedata.normalize("NFKC", text)`. -/
  nfkc : String → String
  /-- `ipaddress.ip_address(text)`; none is the `ValueError`. -/
  ipAddress : String → Option IpAddress
  urljoin : String → String → Except Exc String

def digitsToNat (digits : List Char) : Nat :=
  digits.foldl (fun n c => n * 10 + (c.toNat - '0'.toNat)) 0

/-- The library on plain ASCII text that is neither JSON nor an address, and on a dictionary of
one text. -/
def asciiPython : Python where
  repr v := match v with
    | .str s => "'" ++ s ++ "'"
    | _ => "None"
  str v := match v with
    | .str s => s
    | _ => "None"
  lower s := String.ofList (s.toList.map Char.toLower)
  int s :=
    if s ≠ "" ∧ s.toList.all Char.isDigit then some (digitsToNat s.toList) else none
  loads _ := .error (.jsonDecodeError "Expecting value: line 1 column 1 (char 0)")
  dumps v := match v with
    | .obj [(key, .str s)] => "\x7b\"" ++ key ++ "\":\"" ++ s ++ "\"\x7d"
    | _ => "null"
  nfkc := id
  ipAddress _ := none
  urljoin _ location := .ok location

def Python.format (py : Python) : Json → String
  | .str s => s
  | v => py.str v

def truncate (q : Rat) : Int := if 0 ≤ q then q.floor else q.ceil

def Json.toInt (py : Python) : Json → Except Exc Int
  | .bool b => .ok (if b then 1 else 0)
  | .int n => .ok n
  | .float q => .ok (truncate q)
  | .nonFinite literal =>
    if literal = "NaN" then .error (.valueError "cannot convert float NaN to integer")
    else .error (.exception "cannot convert float infinity to integer")
  | .str s =>
    match py.int s with
    | some n => .ok n
    | none => .error (.valueError ("invalid literal for int() with base 10: " ++ py.repr (.str s)))
  | v => .error (.typeError ("int() argument must be a string, a bytes-like object or a real "
      ++ "number, not '" ++ v.typeName ++ "'"))

def encode (text : String) : Bytes := text.toUTF8.data.toList

theorem encode_injective : Function.Injective encode := by
  intro s t h
  rw [encode, encode, String.toUTF8_eq_toByteArray, String.toUTF8_eq_toByteArray] at h
  exact String.toByteArray_inj.1 (ByteArray.ext (Array.toList_inj.1 h))

def isSpace (c : Char) : Bool :=
  let n := c.toNat
  [9, 10, 11, 12, 13, 28, 29, 30, 31, 32, 133, 160, 5760, 8232, 8233, 8239, 8287, 12288].contains n
    || (8192 ≤ n && n ≤ 8202)

def strip (text : List Char) : List Char :=
  ((text.dropWhile isSpace).reverse.dropWhile isSpace).reverse

def commaList (text : String) : List String :=
  ((text.toList.splitOn ',').map (fun part => String.ofList (strip part))).filter (· ≠ "")

example : commaList " clamav, ,exav " = ["clamav", "exav"] := by decide

end FileScanner
