import Vscp.StringSearch
import Vscp.Lib.Base64

set_option autoImplicit false

namespace Vscp.Helper

open Base64

@[grind =] def write (dst : Bytes) (place : Int) (letter : UInt8) : Option Bytes :=
  if 0 ≤ place ∧ place < dst.length then some (dst.set place.toNat letter) else none

def ascii (text : String) : Bytes := text.toList.map fun letter => UInt8.ofNat letter.toNat

def b64Table : Bytes := ascii "ABCDEFGHIJKLMNOPQRSTUVWXYZabcdefghijklmnopqrstuvwxyz0123456789+/"

def b64 (index : UInt8) : UInt8 := b64Table.getD index.toNat 0

structure Encoder where
  j : Int32
  dst : Bytes

@[grind =] def put (letter : UInt8) (out : Encoder) : Option Encoder :=
  (write out.dst out.j.toInt letter).map fun dst => ⟨out.j + 1, dst⟩

-- What is left of the source from i on. An i that overflows comes after a j that has left the buffer.
@[grind =] def encodeLoop : Bytes → Encoder → Option Encoder
  | [], out => some out
  | [a], out => do
      let b : UInt8 := 0
      let out ← put (b64 (a >>> 2)) out
      put (b64 ((a &&& 3) <<< 4 ||| b >>> 4)) out
  | [a, b], out => do
      let c : UInt8 := 0
      let out ← put (b64 (a >>> 2)) out
      let out ← put (b64 ((a &&& 3) <<< 4 ||| b >>> 4)) out
      put (b64 ((b &&& 15) <<< 2 ||| c >>> 6)) out
  | a :: b :: c :: src, out => do
      let out ← put (b64 (a >>> 2)) out
      let out ← put (b64 ((a &&& 3) <<< 4 ||| b >>> 4)) out
      let out ← put (b64 ((b &&& 15) <<< 2 ||| c >>> 6)) out
      let out ← put (b64 (c &&& 63)) out
      encodeLoop src out

def padding : UInt8 := 61

-- Three rounds are enough for j to be a multiple of four.
@[grind =] def padLoop : Nat → Encoder → Option Encoder
  | 0, out => some out
  | rounds + 1, out => if out.j % 4 ≠ 0 then (put padding out).bind (padLoop rounds) else some out

def vscpBase64Encode (src : Bytes) (srcLen : Int32) (dst : Bytes) : Option Bytes := do
  let out ← encodeLoop (src.take srcLen.toInt.toNat) ⟨0, dst⟩
  let out ← padLoop 3 out
  let out ← put 0 out
  pure out.dst

-- A string made of a buffer ends at its first zero; without one it would go on behind the buffer.
def fromBuffer (buffer : Bytes) : Option Bytes := if 0 ∈ buffer then some (buffer.takeWhile (· ≠ 0)) else none

def vscpBase64StdEncode (str : Bytes) : Option Bytes :=
  let strlen := (str.takeWhile (· ≠ 0)).length
  (vscpBase64Encode str (Int32.ofNat strlen) (List.replicate (2 * strlen) 0)).bind fromBuffer

def b64reverse (letter : UInt8) : UInt8 :=
  if 65 ≤ letter ∧ letter ≤ 90 then letter - 65
  else if 97 ≤ letter ∧ letter ≤ 122 then letter - 97 + 26
  else if 48 ≤ letter ∧ letter ≤ 57 then letter - 48 + 52
  else if letter = 43 then 62
  else if letter = 47 then 63
  else if letter = padding then 255
  else 254

structure Decoder where
  dstLen : Nat
  dst : Bytes

@[grind =] def append (letter : UInt8) (out : Decoder) : Option Decoder :=
  (write out.dst out.dstLen letter).map fun dst => ⟨out.dstLen + 1, dst⟩

-- A letter behind the end of the source is a zero; none is a read outside the source.
@[grind =] def readLetter (src : Bytes) (srcLen place : Nat) : Option UInt8 := if place ≥ srcLen then some 0 else src[place]?

structure Group where
  a : UInt8
  b : UInt8
  c : UInt8
  d : UInt8

-- The four letters from i on, or the place of the first one that is wrong.
@[grind =] def readGroup (src : Bytes) (srcLen i : Nat) : Option (Except Int Group) :=
  src[i]?.bind fun letter =>
    let a := b64reverse letter
    if a ≥ 254 then some (.error i)
    else (readLetter src srcLen (i + 1)).bind fun letter =>
      let b := b64reverse letter
      if b ≥ 254 then some (.error (i + 1))
      else (readLetter src srcLen (i + 2)).bind fun letter =>
        let c := b64reverse letter
        if c = 254 then some (.error (i + 2))
        else (readLetter src srcLen (i + 3)).bind fun letter =>
          let d := b64reverse letter
          if d = 254 then some (.error (i + 3)) else some (.ok ⟨a, b, c, d⟩)

@[grind =] def writeGroup (group : Group) (out : Decoder) : Option Decoder :=
  (append ((group.a <<< 2) + (group.b >>> 4)) out).bind fun out =>
    if group.c ≠ 255 then
      (append ((group.b <<< 4) + (group.c >>> 2)) out).bind fun out =>
        if group.d ≠ 255 then append ((group.c <<< 6) + group.d) out else some out
    else some out

-- An int i does not overflow: a group that is cut off at the end of the source ends the loop.
@[grind =] def decodeLoop (src : Bytes) (srcLen i : Nat) (out : Decoder) : Option (Int × Decoder) :=
  if i < srcLen then
    (readGroup src srcLen i).bind fun read =>
      match read with
      | .error place => some (place, out)
      | .ok group => (writeGroup group out).bind (decodeLoop src srcLen (i + 4))
  else some (-1, out)
termination_by srcLen - i

def vscpBase64Decode (src : Bytes) (srcLen : Int32) (dst : Bytes) : Option (Int × Decoder) :=
  decodeLoop src srcLen.toInt.toNat 0 ⟨0, dst⟩

def vscpBase64StdDecode (str : Bytes) : Option Bytes :=
  if str = [] then some []
  else (vscpBase64Decode str (Int32.ofNat str.length) (List.replicate (2 * str.length) 0)).bind fun decoded =>
    fromBuffer decoded.2.dst

structure Base64Right (str : CString) (text : Bytes) : Prop where
  roundTrip : ∃ encoded, vscpBase64StdEncode str.bytes = some encoded ∧ vscpBase64StdDecode encoded = some str.bytes
  inside : ∃ decoded, vscpBase64Decode text (Int32.ofNat text.length) (List.replicate (2 * text.length) 0) = some decoded

def FitsBuffer (length : Nat) : Prop :=
  length ≠ 0 ∧ length ≠ 1 ∧ length ≠ 2 ∧ length ≠ 4 ∧ 4 * ((length + 2) / 3) < 2 ^ 31

variable (letter : UInt8) (front rest : Bytes)

theorem write_next (old letter : UInt8) :
    write (front ++ old :: rest) front.length letter = some (front ++ letter :: rest) := by
  have inside : (0 : Int) ≤ front.length ∧ (front.length : Int) < (front ++ old :: rest).length := by
    rw [List.length_append, List.length_cons]
    omega
  rw [write, if_pos inside, Int.toNat_natCast, List.set_append_right _ _ le_rfl, Nat.sub_self]
  rfl

@[grind =] def putAll : Bytes → Encoder → Option Encoder
  | [], out => some out
  | letter :: letters, out => (put letter out).bind (putAll letters)

theorem put_all_append (first second : Bytes) (out : Encoder) :
    putAll (first ++ second) out = (putAll first out).bind (putAll second) := by
  induction first generalizing out with
  | nil => rfl
  | cons letter first ih =>
      rw [List.cons_append, putAll, putAll, Option.bind_assoc]
      exact congrArg _ (funext ih)

theorem put_all_room (letters front rest : Bytes) (room : letters.length ≤ rest.length)
    (small : front.length + letters.length ≤ 2 ^ 31) :
    putAll letters ⟨Int32.ofNat front.length, front ++ rest⟩ =
      some ⟨Int32.ofNat (front.length + letters.length), front ++ letters ++ rest.drop letters.length⟩ := by
  induction letters generalizing front rest with
  | nil => simp [putAll]
  | cons letter letters ih =>
      cases rest with
      | nil => exact absurd room (Nat.not_succ_le_zero _)
      | cons old rest =>
          rw [List.length_cons] at room small
          have next : put letter ⟨Int32.ofNat front.length, front ++ old :: rest⟩ =
              some ⟨Int32.ofNat (front ++ [letter]).length, front ++ [letter] ++ rest⟩ := by
            rw [put, Int32.toInt_ofNat_of_lt (by omega), write_next, Option.map_some, List.length_append,
              List.append_assoc, Int32.ofNat_add]
            rfl
          rw [putAll, next, Option.bind_some, ih (front ++ [letter]) rest (by rw [List.length_cons] at room; omega)
            (by rw [List.length_append]; simp only [List.length_singleton]; omega)]
          simp [Nat.add_assoc, Nat.add_comm 1]

theorem put_fits (out : Encoder) (small : front.length ≤ 2 ^ 31)
    (done : put letter ⟨Int32.ofNat front.length, front ++ rest⟩ = some out) :
    ∃ old left, rest = old :: left ∧ front.length < 2 ^ 31 ∧
      out = ⟨Int32.ofNat (front ++ [letter]).length, front ++ [letter] ++ left⟩ := by
  have below : front.length < 2 ^ 31 := by
    by_contra top
    have last : front.length = 2 ^ 31 := by omega
    have outside : ¬ (0 ≤ (Int32.ofNat front.length).toInt ∧ (Int32.ofNat front.length).toInt < (front ++ rest).length) := by
      rw [last]
      exact fun inside => absurd inside.1 (by decide)
    rw [put, write, if_neg outside] at done
    cases done
  cases rest with
  | nil =>
      have outside : ¬ ((0 : Int) ≤ front.length ∧ (front.length : Int) < (front ++ []).length) := by
        rw [List.append_nil]
        omega
      rw [put, Int32.toInt_ofNat_of_lt below, write, if_neg outside] at done
      cases done
  | cons old left =>
      refine ⟨old, left, rfl, below, ?_⟩
      rw [put, Int32.toInt_ofNat_of_lt below, write_next, Option.map_some] at done
      rw [← Option.some.inj done, List.length_append, List.append_assoc, Int32.ofNat_add]
      rfl

theorem put_all_fits (letters front rest : Bytes) (out : Encoder) (small : front.length ≤ 2 ^ 31)
    (done : putAll letters ⟨Int32.ofNat front.length, front ++ rest⟩ = some out) :
    letters.length ≤ rest.length ∧ front.length + letters.length ≤ 2 ^ 31 := by
  induction letters generalizing front rest with
  | nil => exact ⟨Nat.zero_le _, small⟩
  | cons letter letters ih =>
      rw [putAll] at done
      cases first : put letter ⟨Int32.ofNat front.length, front ++ rest⟩ with
      | none =>
          rw [first] at done
          cases done
      | some next =>
          rw [first, Option.bind_some] at done
          obtain ⟨old, left, rfl, below, rfl⟩ := put_fits letter front rest next small first
          have more := ih (front ++ [letter]) left (by rw [List.length_append]; simp only [List.length_singleton]; omega) done
          rw [List.length_append, List.length_singleton] at more
          rw [List.length_cons, List.length_cons]
          omega

@[grind =] def unpadded : Bytes → Bytes
  | [] => []
  | [a] => [b64 (first a), b64 (second a 0)]
  | [a, b] => [b64 (first a), b64 (second a b), b64 (third b 0)]
  | a :: b :: c :: src => [b64 (first a), b64 (second a b), b64 (third b c), b64 (fourth c)] ++ unpadded src

def pads (count : Nat) : Bytes := List.replicate ((4 - count % 4) % 4) padding

variable (src : Bytes)

theorem encode_unpadded : encode b64 padding src = unpadded src ++ pads (unpadded src).length := by
  induction src using encode.induct with
  | case1 => rfl
  | case2 a => rfl
  | case3 a b => rfl
  | case4 a b c src ih =>
      have same : pads ([b64 (first a), b64 (second a b), b64 (third b c), b64 (fourth c)] ++ unpadded src).length =
          pads (unpadded src).length := by
        rw [pads, pads, List.length_append]
        congr 2
        simp only [List.length_cons, List.length_nil]
        omega
      rw [encode, ih, unpadded, same]
      rfl

theorem encode_loop_puts (out : Encoder) : encodeLoop src out = putAll (unpadded src) out := by
  induction src using encode.induct generalizing out with
  | case1 => rfl
  | case2 a =>
      simp only [encodeLoop, unpadded, putAll, Option.bind_eq_bind, Option.bind_fun_some]
      rfl
  | case3 a b =>
      simp only [encodeLoop, unpadded, putAll, Option.bind_eq_bind, Option.bind_fun_some]
      rfl
  | case4 a b c src ih =>
      simp only [encodeLoop, unpadded, putAll, List.cons_append, List.nil_append, Option.bind_eq_bind, ih]
      rfl

variable (bytes : Bytes) (count : Nat)

theorem place_in_group (small : count ≤ 2 ^ 31) : Int32.ofNat count % 4 = 0 ↔ count % 4 = 0 := by
  rw [← Int32.toInt_inj, Int32.toInt_mod]
  by_cases below : count < 2 ^ 31
  · rw [Int32.toInt_ofNat_of_lt below]
    have cut : (count : Int).tmod 4 = count % 4 := Int.tmod_eq_emod_of_nonneg (Int.natCast_nonneg count)
    have four : (4 : Int32).toInt = 4 := rfl
    have zero : (0 : Int32).toInt = 0 := rfl
    rw [four, zero, cut]
    omega
  · have last : count = 2 ^ 31 := by omega
    rw [last]
    decide

theorem pad_loop_puts (rounds : Nat) (front rest : Bytes) (small : front.length ≤ 2 ^ 31)
    (enough : (4 - front.length % 4) % 4 ≤ rounds) :
    padLoop rounds ⟨Int32.ofNat front.length, front ++ rest⟩ =
      putAll (pads front.length) ⟨Int32.ofNat front.length, front ++ rest⟩ := by
  induction rounds generalizing front rest with
  | zero =>
      have none : (4 - front.length % 4) % 4 = 0 := by omega
      rw [pads, none]
      rfl
  | succ rounds ih =>
      by_cases whole : front.length % 4 = 0
      · have none : (4 - front.length % 4) % 4 = 0 := by omega
        rw [padLoop, if_neg (not_not.mpr ((place_in_group _ small).mpr whole)), pads, none]
        rfl
      · have one : (4 - front.length % 4) % 4 = (4 - (front.length + 1) % 4) % 4 + 1 := by omega
        rw [padLoop, if_pos (fun same => whole ((place_in_group _ small).mp same)), pads, one, List.replicate_succ,
          putAll]
        cases done : put padding ⟨Int32.ofNat front.length, front ++ rest⟩ with
        | none => rfl
        | some next =>
            obtain ⟨old, left, rfl, below, rfl⟩ := put_fits padding front rest next small done
            have length : (front ++ [padding]).length = front.length + 1 := List.length_append
            rw [Option.bind_some, Option.bind_some,
              ih (front ++ [padding]) left (by omega) (by rw [length]; omega), pads, length]

theorem base64_encode_puts (src dst : Bytes) (srcLen : Int32) :
    vscpBase64Encode src srcLen dst =
      (putAll (encode b64 padding (src.take srcLen.toInt.toNat) ++ [0]) ⟨0, dst⟩).map Encoder.dst := by
  generalize takenIs : src.take srcLen.toInt.toNat = taken
  rw [encode_unpadded, put_all_append, put_all_append]
  simp only [vscpBase64Encode, takenIs, encode_loop_puts, Option.bind_eq_bind]
  cases done : putAll (unpadded taken) ⟨0, dst⟩ with
  | none => rfl
  | some out =>
      obtain ⟨room, small⟩ := put_all_fits (unpadded taken) [] dst out (Nat.zero_le _) done
      have state := put_all_room (unpadded taken) [] dst room small
      rw [List.length_nil, Nat.zero_add, List.nil_append, List.nil_append] at state
      cases state.symm.trans done
      rw [List.length_nil, Nat.zero_add] at small
      rw [Option.bind_some, Option.bind_some, pad_loop_puts 3 _ _ small (by omega), Option.map_bind]
      congr 1
      funext out
      rw [Function.comp_apply, putAll]
      cases put 0 out <;> rfl

theorem base64_encode_iff (src dst buffer : Bytes) (srcLen : Int32) :
    vscpBase64Encode src srcLen dst = some buffer ↔
      (encode b64 padding (src.take srcLen.toInt.toNat)).length + 1 ≤ dst.length ∧
        (encode b64 padding (src.take srcLen.toInt.toNat)).length + 1 ≤ 2 ^ 31 ∧
        buffer = encode b64 padding (src.take srcLen.toInt.toNat) ++ [0] ++
          dst.drop ((encode b64 padding (src.take srcLen.toInt.toNat)).length + 1) := by
  rw [base64_encode_puts]
  generalize encode b64 padding (src.take srcLen.toInt.toNat) = text
  have length : (text ++ [0]).length = text.length + 1 := List.length_append
  constructor
  · intro done
    obtain ⟨out, put, same⟩ := Option.map_eq_some_iff.mp done
    have fits := put_all_fits (text ++ [0]) [] dst out (Nat.zero_le _) put
    rw [length, List.length_nil, Nat.zero_add] at fits
    have state := put_all_room (text ++ [0]) [] dst (by omega) (by rw [List.length_nil]; omega)
    cases state.symm.trans put
    refine ⟨fits.1, fits.2, ?_⟩
    rw [← same, length, List.nil_append]
  · rintro ⟨room, small, rfl⟩
    have state := put_all_room (text ++ [0]) [] dst (by omega) (by rw [List.length_nil]; omega)
    rw [List.length_nil, List.nil_append] at state
    rw [show (0 : Int32) = Int32.ofNat 0 from rfl, state, length]
    rfl

theorem read_letter_inside (srcLen place : Nat) (size : srcLen ≤ src.length) :
    ∃ letter, readLetter src srcLen place = some letter ∧ (b64reverse letter ≠ 254 → place < srcLen) := by
  by_cases behind : place ≥ srcLen
  · rw [readLetter, if_pos behind]
    exact ⟨0, rfl, fun known => absurd (by decide) known⟩
  · rw [readLetter, if_neg behind]
    exact ⟨src[place], List.getElem?_eq_getElem (by omega), fun _ => by omega⟩

variable (srcLen i : Nat)

theorem read_group_inside (size : srcLen ≤ src.length) (inside : i < srcLen) :
    ∃ read, readGroup src srcLen i = some read ∧ ∀ group, read = .ok group → i + 4 ≤ srcLen := by
  obtain ⟨second, readSecond, -⟩ := read_letter_inside src srcLen (i + 1) size
  obtain ⟨third, readThird, -⟩ := read_letter_inside src srcLen (i + 2) size
  obtain ⟨fourth, readFourth, last⟩ := read_letter_inside src srcLen (i + 3) size
  simp only [readGroup, List.getElem?_eq_getElem (show i < src.length by omega), readSecond, readThird, readFourth,
    Option.bind_some]
  split
  · exact ⟨_, rfl, nofun⟩
  split
  · exact ⟨_, rfl, nofun⟩
  split
  · exact ⟨_, rfl, nofun⟩
  split
  · exact ⟨_, rfl, nofun⟩
  · rename_i known
    exact ⟨_, rfl, fun _ _ => last known⟩

variable (out : Decoder)

theorem append_room (room : out.dstLen < out.dst.length) :
    ∃ next, append letter out = some next ∧ next.dstLen = out.dstLen + 1 ∧ next.dst.length = out.dst.length := by
  have inside : (0 : Int) ≤ out.dstLen ∧ (out.dstLen : Int) < out.dst.length := by omega
  rw [append, write, if_pos inside]
  exact ⟨_, rfl, rfl, List.length_set⟩

theorem write_group_room (group : Group) (out : Decoder) (room : out.dstLen + 3 ≤ out.dst.length) :
    ∃ next, writeGroup group out = some next ∧ next.dstLen ≤ out.dstLen + 3 ∧ next.dst.length = out.dst.length := by
  obtain ⟨one, first, oneLen, oneSize⟩ := append_room ((group.a <<< 2) + (group.b >>> 4)) out (by omega)
  obtain ⟨two, second, twoLen, twoSize⟩ := append_room ((group.b <<< 4) + (group.c >>> 2)) one (by omega)
  obtain ⟨three, third, threeLen, threeSize⟩ := append_room ((group.c <<< 6) + group.d) two (by omega)
  rw [writeGroup, first, Option.bind_some]
  split
  · rw [second, Option.bind_some]
    split
    · exact ⟨three, third, by omega, by omega⟩
    · exact ⟨two, rfl, by omega, by omega⟩
  · exact ⟨one, rfl, by omega, by omega⟩

theorem decode_loop_inside (size : srcLen ≤ src.length)
    (room : out.dstLen + 3 * ((srcLen - i) / 4) ≤ out.dst.length) : ∃ decoded, decodeLoop src srcLen i out = some decoded := by
  induction i, out using decodeLoop.induct srcLen with
  | case1 i out inside ih =>
      obtain ⟨read, readIs, whole⟩ := read_group_inside src srcLen i size inside
      rw [decodeLoop, if_pos inside, readIs, Option.bind_some]
      cases read with
      | error place => exact ⟨_, rfl⟩
      | ok group =>
          have last := whole group rfl
          obtain ⟨next, nextIs, nextLen, nextSize⟩ := write_group_room group out (by omega)
          simp only [nextIs, Option.bind_some]
          exact ih next (by omega)
  | case2 i out behind =>
      rw [decodeLoop, if_neg behind]
      exact ⟨_, rfl⟩

theorem append_next (old letter : UInt8) :
    append letter ⟨front.length, front ++ old :: rest⟩ = some ⟨(front ++ [letter]).length, front ++ [letter] ++ rest⟩ := by
  rw [append, write_next, Option.map_some, List.length_append, List.append_assoc]
  rfl

variable (value : UInt8)

theorem b64reverse_of_b64 (small : value.toNat < 64) : b64reverse (b64 value) = value := by
  revert value
  decide +kernel

theorem b64_plain (small : value.toNat < 64) : b64 value ≠ 0 := by
  revert value
  decide +kernel

theorem read_letter_at (letter : UInt8) (offset : Nat) (inside : rest[offset]? = some letter) :
    readLetter (front ++ rest) (front ++ rest).length (front.length + offset) = some letter := by
  have known : offset < rest.length := (List.getElem?_eq_some_iff.mp inside).1
  have size : (front ++ rest).length = front.length + rest.length := List.length_append
  rw [readLetter, if_neg (by omega), List.getElem?_append_right (by omega), Nat.add_sub_cancel_left, inside]

theorem read_group_letters (front back : Bytes) (one two three four a b c d : UInt8)
    (first : b64reverse one = a ∧ a.toNat < 64) (second : b64reverse two = b ∧ b.toNat < 64)
    (third : b64reverse three = c ∧ c ≠ 254) (fourth : b64reverse four = d ∧ d ≠ 254) :
    readGroup (front ++ one :: two :: three :: four :: back) (front ++ one :: two :: three :: four :: back).length
      front.length = some (.ok ⟨a, b, c, d⟩) := by
  have digit {value : UInt8} (small : value.toNat < 64) : ¬ value ≥ 254 := by
    intro large
    have bound : 254 ≤ value.toNat := UInt8.le_iff_toNat_le.mp large
    omega
  have start : (front ++ one :: two :: three :: four :: back)[front.length]? = some one := by
    rw [List.getElem?_append_right le_rfl, Nat.sub_self]
    rfl
  rw [readGroup, start, read_letter_at front _ two 1 rfl, read_letter_at front _ three 2 rfl,
    read_letter_at front _ four 3 rfl]
  simp only [Option.bind_some, first.1, second.1, third.1, fourth.1]
  rw [if_neg (digit first.2), if_neg (digit second.2), if_neg third.2, if_neg fourth.2]

theorem decode_group (front back : Bytes) (one two three four a b c d : UInt8)
    (first : b64reverse one = a ∧ a.toNat < 64) (second : b64reverse two = b ∧ b.toNat < 64)
    (third : b64reverse three = c ∧ c ≠ 254) (fourth : b64reverse four = d ∧ d ≠ 254) (out : Decoder) :
    decodeLoop (front ++ one :: two :: three :: four :: back) (front ++ one :: two :: three :: four :: back).length
        front.length out =
      (writeGroup ⟨a, b, c, d⟩ out).bind
        (decodeLoop (front ++ one :: two :: three :: four :: back)
          (front ++ one :: two :: three :: four :: back).length (front.length + 4)) := by
  have inside : front.length < (front ++ one :: two :: three :: four :: back).length := by
    rw [List.length_append, List.length_cons]
    omega
  rw [decodeLoop, if_pos inside, read_group_letters front back one two three four a b c d first second third fourth]
  rfl

theorem decode_end : decodeLoop src src.length src.length out = some (-1, out) := by
  rw [decodeLoop, if_neg (Nat.lt_irrefl _)]

theorem digit_read (small : value.toNat < 64) : b64reverse (b64 value) = value ∧ value ≠ 254 := by
  refine ⟨b64reverse_of_b64 value small, ?_⟩
  rintro rfl
  exact absurd small (by decide)

theorem not_padding (small : value.toNat < 64) : value ≠ 255 := by
  rintro rfl
  exact absurd small (by decide)

theorem decode_encoded (bytes front done rest : Bytes) (room : bytes.length < rest.length) :
    decodeLoop (front ++ encode b64 padding bytes) (front ++ encode b64 padding bytes).length front.length
        ⟨done.length, done ++ rest⟩ =
      some (-1, ⟨(done ++ bytes).length, done ++ bytes ++ rest.drop bytes.length⟩) := by
  have pad : b64reverse padding = 255 ∧ (255 : UInt8) ≠ 254 := by decide
  induction bytes using encode.induct generalizing front done rest with
  | case1 =>
      rw [encode, List.append_nil, List.append_nil, decode_end]
      rfl
  | case2 a =>
      obtain ⟨one, two, -⟩ := digits_small a 0 0
      obtain ⟨old, rest, rfl⟩ := List.exists_cons_of_length_pos (Nat.lt_of_le_of_lt (Nat.zero_le _) room)
      rw [encode, decode_group front [] _ _ _ _ _ _ _ _ ⟨(digit_read _ one).1, one⟩ ⟨(digit_read _ two).1, two⟩ pad pad]
      have size : front.length + 4 = (front ++ [b64 (first a), b64 (second a 0), padding, padding]).length := by
        rw [List.length_append]
        rfl
      rw [writeGroup, first_byte, append_next, Option.bind_some, if_neg (not_not.mpr rfl), Option.bind_some, size,
        decode_end]
      rfl
  | case3 a b =>
      obtain ⟨one, two, three, -⟩ := digits_small a b 0
      obtain ⟨old, rest, rfl⟩ := List.exists_cons_of_length_pos (Nat.lt_of_le_of_lt (Nat.zero_le _) room)
      obtain ⟨next, rest, rfl⟩ := List.exists_cons_of_length_pos (l := rest) (by
        rw [List.length_cons, List.length_cons, List.length_cons] at room
        omega)
      rw [encode, decode_group front [] _ _ _ _ _ _ _ _ ⟨(digit_read _ one).1, one⟩ ⟨(digit_read _ two).1, two⟩
        (digit_read _ three) pad]
      have size : front.length + 4 = (front ++ [b64 (first a), b64 (second a b), b64 (third b 0), padding]).length := by
        rw [List.length_append]
        rfl
      rw [writeGroup, first_byte, append_next, Option.bind_some, if_pos (not_padding _ three), second_byte, append_next,
        Option.bind_some, if_neg (not_not.mpr rfl), Option.bind_some, size, decode_end]
      simp
  | case4 a b c bytes ih =>
      obtain ⟨one, two, three, four⟩ := digits_small a b c
      obtain ⟨old, rest, rfl⟩ := List.exists_cons_of_length_pos (Nat.lt_of_le_of_lt (Nat.zero_le _) room)
      obtain ⟨next, rest, rfl⟩ := List.exists_cons_of_length_pos (l := rest) (by
        simp only [List.length_cons] at room
        omega)
      obtain ⟨last, rest, rfl⟩ := List.exists_cons_of_length_pos (l := rest) (by
        simp only [List.length_cons] at room
        omega)
      simp only [List.length_cons] at room
      rw [encode, decode_group front _ _ _ _ _ _ _ _ _ ⟨(digit_read _ one).1, one⟩ ⟨(digit_read _ two).1, two⟩
        (digit_read _ three) (digit_read _ four)]
      rw [writeGroup, first_byte, append_next, Option.bind_some, if_pos (not_padding _ three), second_byte, append_next,
        Option.bind_some, if_pos (not_padding _ four), third_byte, append_next, Option.bind_some]
      have behind := ih (front ++ [b64 (first a), b64 (second a b), b64 (third b c), b64 (fourth c)])
        (done ++ [a] ++ [b] ++ [c]) rest (by omega)
      have size : front.length + 4 =
          (front ++ [b64 (first a), b64 (second a b), b64 (third b c), b64 (fourth c)]).length := by
        rw [List.length_append]
        rfl
      simp only [List.append_assoc, List.cons_append, List.nil_append] at behind ⊢
      rw [size, behind]
      rfl

theorem encode_plain : 0 ∉ encode b64 padding bytes := by
  intro zero
  exact encode_letters b64 padding (· ≠ 0) b64_plain (by decide) bytes 0 zero rfl

theorem from_buffer_plain (text rest : Bytes) (plain : 0 ∉ text) : fromBuffer (text ++ 0 :: rest) = some text := by
  have zero : 0 ∈ text ++ 0 :: rest := by simp
  have front : text.takeWhile (· ≠ 0) = text :=
    List.takeWhile_eq_self_iff.mpr fun letter inside => decide_eq_true fun same => plain (same ▸ inside)
  rw [fromBuffer, if_pos zero, List.takeWhile_append, front, if_pos rfl]
  simp

theorem std_decode_encoded (plain : 0 ∉ bytes) (small : 4 * ((bytes.length + 2) / 3) < 2 ^ 31) :
    vscpBase64StdDecode (encode b64 padding bytes) = some bytes := by
  have length := encode_length b64 padding bytes
  by_cases empty : encode b64 padding bytes = []
  · have none : bytes = [] := by
      rw [empty, List.length_nil] at length
      exact List.eq_nil_of_length_eq_zero (by omega)
    rw [vscpBase64StdDecode, if_pos empty, none]
  · have some' : bytes.length < (List.replicate (2 * (encode b64 padding bytes).length) (0 : UInt8)).length := by
      have positive := List.length_pos_iff.mpr empty
      rw [List.length_replicate]
      omega
    have decoded := decode_encoded bytes [] [] _ some'
    rw [List.nil_append, List.nil_append, List.nil_append, List.length_nil] at decoded
    rw [vscpBase64StdDecode, if_neg empty, vscpBase64Decode, Int32.toInt_ofNat_of_lt (by omega), Int.toNat_natCast, decoded,
      Option.bind_some, List.drop_replicate]
    rw [List.length_replicate] at some'
    obtain ⟨more, moreIs⟩ := Nat.exists_eq_add_of_lt some'
    have left : 2 * (encode b64 padding bytes).length - bytes.length = more + 1 := by omega
    rw [left, List.replicate_succ]
    exact from_buffer_plain bytes _ plain

theorem int_of_length (length : Nat) : (Int32.ofNat length).toInt.toNat ≤ length := by
  have size : (Int32.size : Int) = 2 ^ 32 := rfl
  rw [Int32.toInt_ofNat', Int.bmod, size]
  split <;> omega

theorem take_plain (plain : 0 ∉ bytes) : 0 ∉ bytes.take count :=
  fun zero => plain (List.mem_of_mem_take zero)

variable (str : CString)

theorem std_encode_iff (encoded : Bytes) :
    vscpBase64StdEncode str.bytes = some encoded ↔
      4 * (((str.bytes.take (Int32.ofNat str.bytes.length).toInt.toNat).length + 2) / 3) + 1 ≤ 2 * str.bytes.length ∧
        4 * (((str.bytes.take (Int32.ofNat str.bytes.length).toInt.toNat).length + 2) / 3) + 1 ≤ 2 ^ 31 ∧
        encoded = encode b64 padding (str.bytes.take (Int32.ofNat str.bytes.length).toInt.toNat) := by
  have whole : str.bytes.takeWhile (· ≠ 0) = str.bytes :=
    List.takeWhile_eq_self_iff.mpr fun letter inside => decide_eq_true fun same => str.plain (same ▸ inside)
  have read (rest : Bytes) := from_buffer_plain
    (encode b64 padding (str.bytes.take (Int32.ofNat str.bytes.length).toInt.toNat)) rest (encode_plain _)
  rw [vscpBase64StdEncode, whole, ← encode_length b64 padding, Option.bind_eq_some_iff]
  simp only [base64_encode_iff, List.length_replicate]
  constructor
  · rintro ⟨buffer, ⟨room, small, rfl⟩, text⟩
    rw [List.append_assoc, List.singleton_append, read] at text
    exact ⟨room, small, (Option.some.inj text).symm⟩
  · rintro ⟨room, small, rfl⟩
    refine ⟨_, ⟨room, small, rfl⟩, ?_⟩
    rw [List.append_assoc, List.singleton_append, read]

theorem round_trip_iff :
    (∃ encoded, vscpBase64StdEncode str.bytes = some encoded ∧ vscpBase64StdDecode encoded = some str.bytes) ↔
      FitsBuffer str.bytes.length := by
  have most := int_of_length str.bytes.length
  constructor
  · rintro ⟨encoded, written, back⟩
    obtain ⟨room, small, rfl⟩ := (std_encode_iff str encoded).mp written
    rw [std_decode_encoded _ (take_plain _ _ str.plain) (by omega)] at back
    rw [Option.some.inj back] at room small
    exact ⟨by omega, by omega, by omega, by omega, by omega⟩
  · rintro ⟨notZero, notOne, notTwo, notFour, small⟩
    have all : str.bytes.take (Int32.ofNat str.bytes.length).toInt.toNat = str.bytes := by
      rw [Int32.toInt_ofNat_of_lt (by omega), Int.toNat_natCast, List.take_length]
    refine ⟨encode b64 padding str.bytes, (std_encode_iff str _).mpr ?_, std_decode_encoded _ str.plain small⟩
    rw [all]
    exact ⟨by omega, by omega, rfl⟩

theorem base64_right_iff (str : CString) (text : Bytes) : Base64Right str text ↔ FitsBuffer str.bytes.length := by
  have inside : ∃ decoded, vscpBase64Decode text (Int32.ofNat text.length) (List.replicate (2 * text.length) 0) =
      some decoded := by
    have most := int_of_length text.length
    refine decode_loop_inside text _ 0 _ most ?_
    simp only [List.length_replicate]
    omega
  constructor
  · intro right
    exact (round_trip_iff str).mp right.roundTrip
  · intro fits
    exact ⟨(round_trip_iff str).mpr fits, inside⟩

-- The zero behind the text of no letters, the five bytes for one letter and the nine for four do not fit.
theorem short_string_overflows :
    vscpBase64StdEncode [] = none ∧ vscpBase64StdEncode (ascii "a") = none ∧ vscpBase64StdEncode (ascii "abcd") = none ∧
      vscpBase64StdEncode (ascii "abc") = some (ascii "YWJj") ∧ ¬ Base64Right ⟨[], by decide⟩ [] := by
  refine ⟨by decide, by decide, by decide, by decide, fun right => ?_⟩
  obtain ⟨encoded, written, -⟩ := right.roundTrip
  have overflow : vscpBase64StdEncode [] = none := by decide
  rw [overflow] at written
  cases written

end Vscp.Helper
