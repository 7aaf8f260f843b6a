import Mathlib.Data.List.Basic
import Mathlib.Tactic.Common

namespace Gcm
set_option autoImplicit true

abbrev Octets := List UInt8

/-- The substitution of AES. -/
def sbox : Octets :=
  [0x63, 0x7c, 0x77, 0x7b, 0xf2, 0x6b, 0x6f, 0xc5, 0x30, 0x01, 0x67, 0x2b, 0xfe, 0xd7, 0xab, 0x76,
    0xca, 0x82, 0xc9, 0x7d, 0xfa, 0x59, 0x47, 0xf0, 0xad, 0xd4, 0xa2, 0xaf, 0x9c, 0xa4, 0x72, 0xc0,
    0xb7, 0xfd, 0x93, 0x26, 0x36, 0x3f, 0xf7, 0xcc, 0x34, 0xa5, 0xe5, 0xf1, 0x71, 0xd8, 0x31, 0x15,
    0x04, 0xc7, 0x23, 0xc3, 0x18, 0x96, 0x05, 0x9a, 0x07, 0x12, 0x80, 0xe2, 0xeb, 0x27, 0xb2, 0x75,
    0x09, 0x83, 0x2c, 0x1a, 0x1b, 0x6e, 0x5a, 0xa0, 0x52, 0x3b, 0xd6, 0xb3, 0x29, 0xe3, 0x2f, 0x84,
    0x53, 0xd1, 0x00, 0xed, 0x20, 0xfc, 0xb1, 0x5b, 0x6a, 0xcb, 0xbe, 0x39, 0x4a, 0x4c, 0x58, 0xcf,
    0xd0, 0xef, 0xaa, 0xfb, 0x43, 0x4d, 0x33, 0x85, 0x45, 0xf9, 0x02, 0x7f, 0x50, 0x3c, 0x9f, 0xa8,
    0x51, 0xa3, 0x40, 0x8f, 0x92, 0x9d, 0x38, 0xf5, 0xbc, 0xb6, 0xda, 0x21, 0x10, 0xff, 0xf3, 0xd2,
    0xcd, 0x0c, 0x13, 0xec, 0x5f, 0x97, 0x44, 0x17, 0xc4, 0xa7, 0x7e, 0x3d, 0x64, 0x5d, 0x19, 0x73,
    0x60, 0x81, 0x4f, 0xdc, 0x22, 0x2a, 0x90, 0x88, 0x46, 0xee, 0xb8, 0x14, 0xde, 0x5e, 0x0b, 0xdb,
    0xe0, 0x32, 0x3a, 0x0a, 0x49, 0x06, 0x24, 0x5c, 0xc2, 0xd3, 0xac, 0x62, 0x91, 0x95, 0xe4, 0x79,
    0xe7, 0xc8, 0x37, 0x6d, 0x8d, 0xd5, 0x4e, 0xa9, 0x6c, 0x56, 0xf4, 0xea, 0x65, 0x7a, 0xae, 0x08,
    0xba, 0x78, 0x25, 0x2e, 0x1c, 0xa6, 0xb4, 0xc6, 0xe8, 0xdd, 0x74, 0x1f, 0x4b, 0xbd, 0x8b, 0x8a,
    0x70, 0x3e, 0xb5, 0x66, 0x48, 0x03, 0xf6, 0x0e, 0x61, 0x35, 0x57, 0xb9, 0x86, 0xc1, 0x1d, 0x9e,
    0xe1, 0xf8, 0x98, 0x11, 0x69, 0xd9, 0x8e, 0x94, 0x9b, 0x1e, 0x87, 0xe9, 0xce, 0x55, 0x28, 0xdf,
    0x8c, 0xa1, 0x89, 0x0d, 0xbf, 0xe6, 0x42, 0x68, 0x41, 0x99, 0x2d, 0x0f, 0xb0, 0x54, 0xbb, 0x16]

def substitute (xs : Octets) : Octets := xs.map (fun b => sbox.getD b.toNat 0)

def xor (xs ys : Octets) : Octets := List.zipWith (· ^^^ ·) xs ys

/-- The pieces of four bytes that a text starts with. -/
def words (n : Nat) (xs : Octets) : List Octets :=
  (List.range n).map (fun i => (xs.drop (4 * i)).take 4)

/-- The next eight words of the key schedule. -/
def nextWords (rcon : UInt8) : List Octets → List Octets
  | [w0, w1, w2, w3, w4, w5, w6, w7] =>
    let v0 := xor w0 (xor (substitute (w7.drop 1 ++ w7.take 1)) [rcon, 0, 0, 0])
    let v1 := xor w1 v0
    let v2 := xor w2 v1
    let v3 := xor w3 v2
    let v4 := xor w4 (substitute v3)
    let v5 := xor w5 v4
    let v6 := xor w6 v5
    [v0, v1, v2, v3, v4, v5, v6, xor w7 v6]
  | ws => ws

/-- The round keys of AES-256, for the whitening and the fourteen rounds. -/
def roundKeys (key : Octets) : List Octets :=
  let schedule :=
    (List.scanl (fun ws rcon => nextWords rcon ws) (words 8 key)
      [0x01, 0x02, 0x04, 0x08, 0x10, 0x20, 0x40]).flatten
  (List.range 15).map (fun r => ((schedule.drop (4 * r)).take 4).flatten)

/-- The state is kept column by column. -/
def shiftRows (xs : Octets) : Octets :=
  (List.range 16).map (fun i => xs.getD ((i + 4 * (i % 4)) % 16) 0)

def xtime (b : UInt8) : UInt8 := (b <<< 1) ^^^ (if b < 0x80 then 0 else 0x1b)

def mixColumn : Octets → Octets
  | [a, b, c, d] =>
    [xtime a ^^^ xtime b ^^^ b ^^^ c ^^^ d, a ^^^ xtime b ^^^ xtime c ^^^ c ^^^ d,
      a ^^^ b ^^^ xtime c ^^^ xtime d ^^^ d, xtime a ^^^ a ^^^ b ^^^ c ^^^ xtime d]
  | column => column

/-- The rounds of AES under their keys; the last one does not mix the columns. -/
def rounds : List Octets → Octets → Octets
  | [], state => state
  | [key], state => xor (shiftRows (substitute state)) key
  | key :: keys, state =>
    rounds keys (xor ((words 4 (shiftRows (substitute state))).flatMap mixColumn) key)

/-- AES-256 on one block. -/
def cipher (key block : Octets) : Octets :=
  match roundKeys key with
  | [] => block
  | whitening :: keys => rounds keys (xor block whitening)

def bigEndian (n value : Nat) : Octets :=
  (List.range n).map (fun i => UInt8.ofNat (value >>> (8 * (n - 1 - i))))

def ofBigEndian (xs : Octets) : Nat := xs.foldl (fun value b => value * 256 + b.toNat) 0

/-- The product in the field of 2^128 elements, with the bits of a block from the left on. -/
def mul (x y : Nat) : Nat :=
  ((List.range 128).foldl (fun (z, v) i =>
    (if x.testBit (127 - i) then z ^^^ v else z,
      if v % 2 = 1 then (v >>> 1) ^^^ (0xe1 <<< 120) else v >>> 1)) (0, y)).1

def pad (xs : Octets) : Octets := xs ++ List.replicate ((16 - xs.length % 16) % 16) 0

def ghash (h : Nat) (xs : Octets) : Nat :=
  (List.range (xs.length / 16)).foldl
    (fun y i => mul (y ^^^ ofBigEndian ((xs.drop (16 * i)).take 16)) h) 0

section Mode
variable (key iv : Octets)

/-- The blocks whose ciphertexts make up the key stream, for a nonce of twelve bytes. -/
def counterBlock (i : Nat) : Octets := iv ++ bigEndian 4 i

def keyStream (i : Nat) : UInt8 := (cipher key (counterBlock iv (i / 16 + 2))).getD (i % 16) 0

def counterMode (xs : Octets) : Octets := xs.mapIdx (fun i b => b ^^^ keyStream key iv i)

def tag (sealed aad : Octets) : Octets :=
  let h := ofBigEndian (cipher key (List.replicate 16 0))
  let s := ghash h (pad aad ++ pad sealed ++ bigEndian 8 (8 * aad.length) ++
    bigEndian 8 (8 * sealed.length))
  bigEndian 16 (s ^^^ ofBigEndian (cipher key (counterBlock iv 1)))

/-- The text under the key stream, and the tag that binds it and the associated data. -/
def encrypt (plain aad : Octets) : Octets :=
  counterMode key iv plain ++ tag key iv (counterMode key iv plain) aad

def decrypt (body aad : Octets) : Option Octets :=
  let sealed := body.take (body.length - 16)
  if body.drop (body.length - 16) = tag key iv sealed aad then some (counterMode key iv sealed)
  else none

variable {key iv}

theorem length_counterMode (xs : Octets) : (counterMode key iv xs).length = xs.length :=
  List.length_mapIdx

theorem length_tag (sealed aad : Octets) : (tag key iv sealed aad).length = 16 := by
  rw [tag, bigEndian, List.length_map, List.length_range]

/-- The key stream taken away again. -/
theorem counterMode_counterMode (xs : Octets) :
    counterMode key iv (counterMode key iv xs) = xs := by
  apply List.ext_getElem?
  intro i
  rw [counterMode, counterMode, List.getElem?_mapIdx, List.getElem?_mapIdx, Option.map_map]
  have hself : (fun b => b ^^^ keyStream key iv i) ∘ (fun b => b ^^^ keyStream key iv i) = id := by
    funext b
    rw [Function.comp_apply, UInt8.xor_assoc, UInt8.xor_self, UInt8.xor_zero, id]
  rw [hself, Option.map_id, id]

theorem length_encrypt (plain aad : Octets) :
    (encrypt key iv plain aad).length = plain.length + 16 := by
  rw [encrypt, List.length_append, length_counterMode, length_tag]

/-- Decryption undoes encryption. -/
theorem decrypt_encrypt (plain aad : Octets) :
    decrypt key iv (encrypt key iv plain aad) aad = some plain := by
  have hlength : (encrypt key iv plain aad).length - 16 = (counterMode key iv plain).length := by
    rw [length_encrypt, Nat.add_sub_cancel, length_counterMode]
  rw [decrypt, hlength, encrypt, List.take_left, List.drop_left, if_pos rfl,
    counterMode_counterMode]

end Mode

end Gcm
