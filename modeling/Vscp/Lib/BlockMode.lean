import Vscp.Lib.ByteMemory

set_option autoImplicit false

namespace BlockMode

open ByteMemory

section Chaining

variable {Block : Type} (mix : Block → Block → Block)

@[grind =] def cbcEncrypt (encipher : Block → Block) (iv : Block) : List Block → List Block
  | [] => []
  | block :: rest => encipher (mix block iv) :: cbcEncrypt encipher (encipher (mix block iv)) rest

@[grind =] def cbcDecrypt (decipher : Block → Block) (iv : Block) : List Block → List Block
  | [] => []
  | block :: rest => mix (decipher block) iv :: cbcDecrypt decipher block rest

theorem cbc_encrypt_length (encipher : Block → Block) (iv : Block) (blocks : List Block) :
    (cbcEncrypt mix encipher iv blocks).length = blocks.length := by
  induction blocks generalizing iv with
  | nil => rfl
  | cons block rest ih => rw [cbcEncrypt, List.length_cons, ih, List.length_cons]

theorem cbc_decrypt_length (decipher : Block → Block) (iv : Block) (blocks : List Block) :
    (cbcDecrypt mix decipher iv blocks).length = blocks.length := by
  induction blocks generalizing iv with
  | nil => rfl
  | cons block rest ih => rw [cbcDecrypt, List.length_cons, ih, List.length_cons]

variable (encipher decipher : Block → Block) (iv : Block) (blocks : List Block)

theorem cbc_decrypt_encrypt (inverse : ∀ block, decipher (encipher block) = block) (cancel : ∀ a b, mix (mix a b) b = a) :
    cbcDecrypt mix decipher iv (cbcEncrypt mix encipher iv blocks) = blocks := by
  induction blocks generalizing iv with
  | nil => rfl
  | cons block rest ih => rw [cbcEncrypt, cbcDecrypt, ih, inverse, cancel]

theorem cbc_encrypt_decrypt (inverse : ∀ block, encipher (decipher block) = block) (cancel : ∀ a b, mix (mix a b) b = a) :
    cbcEncrypt mix encipher iv (cbcDecrypt mix decipher iv blocks) = blocks := by
  induction blocks generalizing iv with
  | nil => rfl
  | cons block rest ih => rw [cbcDecrypt, cbcEncrypt, cancel, inverse, ih]

end Chaining

-- A cipher of rounds is undone round by round, the last one first, if each is undone behind the layer `front`.
theorem rounds_undone {State Round : Type} (round unround : State → Round → State) (front : State → State)
    (step : ∀ state next, unround (front (round state next)) next = front state) (rounds : List Round) (state : State) :
    rounds.reverse.foldl unround (front (rounds.foldl round state)) = front state := by
  induction rounds generalizing state with
  | nil => rfl
  | cons next rest ih =>
      rw [List.foldl_cons, List.reverse_cons, List.foldl_append, ih, List.foldl_cons, List.foldl_nil, step]

section Blocks

variable {size : Nat}

def xorBlocks (left right : Vector UInt8 size) : Vector UInt8 size := Vector.ofFn fun i => left[i] ^^^ right[i]

theorem xor_blocks_cancel (left right : Vector UInt8 size) : xorBlocks (xorBlocks left right) right = left := by
  apply Vector.ext
  intro i bound
  simp [xorBlocks]

instance finiteBlock : Finite (Vector UInt8 size) := by
  apply Finite.of_injective fun (block : Vector UInt8 size) (i : Fin size) => block[i].toFin
  intro left right same
  apply Vector.ext
  intro i bound
  exact UInt8.toFin_inj.mp (congrFun same ⟨i, bound⟩)

theorem inverse_both_sides (encipher decipher : Vector UInt8 size → Vector UInt8 size)
    (inverse : ∀ block, decipher (encipher block) = block) (block : Vector UInt8 size) :
    encipher (decipher block) = block := by
  have injective : Function.Injective encipher := Function.LeftInverse.injective inverse
  obtain ⟨source, rfl⟩ := Finite.surjective_of_injective injective block
  rw [inverse]

def readBlock (memory : Memory) (offset : Nat) : Vector UInt8 size := Vector.ofFn fun i => memory (offset + i.val)

@[grind =] def readBlocks (memory : Memory) (offset : Nat) : Nat → List (Vector UInt8 size)
  | 0 => []
  | count + 1 => readBlock memory offset :: readBlocks memory (offset + size) count

def joinBlocks (blocks : List (Vector UInt8 size)) : List UInt8 := blocks.flatMap Vector.toList

variable (memory : Memory) (offset count : Nat)

@[simp] theorem read_blocks_length :
    (@readBlocks size memory offset count).length = count := by
  induction count generalizing offset with
  | zero => rfl
  | succ count ih => rw [readBlocks, List.length_cons, ih]

theorem join_blocks_cons (block : Vector UInt8 size) (rest : List (Vector UInt8 size)) :
    joinBlocks (block :: rest) = block.toList ++ joinBlocks rest := rfl

@[simp] theorem join_blocks_length (blocks : List (Vector UInt8 size)) :
    (joinBlocks blocks).length = blocks.length * size := by
  induction blocks with
  | nil => simp [joinBlocks]
  | cons block rest ih =>
      rw [join_blocks_cons, List.length_append, ih, List.length_cons, Vector.length_toList, Nat.succ_mul, Nat.add_comm]

theorem read_block_bytes (offset : Nat) :
    (@readBlock size memory offset).toList = bytesAt memory offset size := by
  apply List.ext_getElem
  · simp
  · intro i _ bound
    simp [readBlock, bytesAt]

theorem join_read_blocks :
    joinBlocks (@readBlocks size memory offset count) = bytesAt memory offset (count * size) := by
  induction count generalizing offset with
  | zero => simp [joinBlocks, readBlocks, bytesAt]
  | succ count ih =>
      rw [readBlocks, join_blocks_cons, ih, read_block_bytes, Nat.succ_mul, Nat.add_comm (count * size),
        bytes_at_append]

theorem read_join_blocks (blocks : List (Vector UInt8 size)) (front rest : List UInt8) (beyond : Memory) :
    readBlocks (ofBytes (front ++ (joinBlocks blocks ++ rest)) beyond) front.length blocks.length = blocks := by
  induction blocks generalizing front with
  | nil => rfl
  | cons block tail ih =>
      have first : readBlock (ofBytes (front ++ (joinBlocks (block :: tail) ++ rest)) beyond) front.length = block := by
        apply Vector.toList_inj.mp
        rw [read_block_bytes, join_blocks_cons, List.append_assoc]
        exact bytes_at_middle front block.toList _ beyond _ _ rfl (by simp)
      have later := ih (front ++ block.toList)
      rw [List.length_append, Vector.length_toList] at later
      rw [List.length_cons, readBlocks, first, join_blocks_cons]
      simp only [List.append_assoc] at later ⊢
      rw [later]

def blocksOf (bytes : List UInt8) : List (Vector UInt8 size) :=
  readBlocks (ofBytes bytes fun _ => 0) 0 (bytes.length / size)

theorem blocks_of_join (positive : 0 < size) (blocks : List (Vector UInt8 size)) : blocksOf (joinBlocks blocks) = blocks := by
  have same := read_join_blocks blocks [] [] fun _ => 0
  simp only [List.nil_append, List.append_nil, List.length_nil] at same
  rw [blocksOf, join_blocks_length, Nat.mul_div_cancel _ positive, same]

variable (bytes : List UInt8)

theorem join_blocks_of (whole : bytes.length % size = 0) :
    joinBlocks (@blocksOf size bytes) = bytes := by
  have long : bytes.length / size * size = bytes.length := Nat.div_mul_cancel (Nat.dvd_of_mod_eq_zero whole)
  have all := bytes_at_prefix bytes [] (fun _ => 0) _ long
  rwa [List.append_nil, ← join_read_blocks] at all

theorem blocks_of_length : (@blocksOf size bytes).length = bytes.length / size := by
  simp [blocksOf]

end Blocks

-- PKCS#7: the padding is never empty and each of its bytes is its length.
section Padding

def padLength (size length : Nat) : Nat := size - length % size

def pad (size : Nat) (bytes : List UInt8) : List UInt8 :=
  bytes ++ List.replicate (padLength size bytes.length) (UInt8.ofNat (padLength size bytes.length))

def unpad (size : Nat) (padded : List UInt8) : Option (List UInt8) :=
  let count := (padded.getLastD 0).toNat
  if 0 < count ∧ count ≤ size ∧ count ≤ padded.length ∧
      padded.drop (padded.length - count) = List.replicate count (padded.getLastD 0) then
    some (padded.take (padded.length - count))
  else none

theorem pad_length_bounds (size length : Nat) (positive : 0 < size) :
    0 < padLength size length ∧ padLength size length ≤ size := by
  have bound := Nat.mod_lt length positive
  unfold padLength
  omega

theorem padded_length (size : Nat) (bytes : List UInt8) (positive : 0 < size) :
    (pad size bytes).length = (bytes.length / size + 1) * size := by
  have bound := Nat.mod_lt bytes.length positive
  have split := Nat.div_add_mod bytes.length size
  rw [pad, List.length_append, List.length_replicate, padLength, Nat.succ_mul, Nat.mul_comm]
  omega

theorem padded_whole (size : Nat) (bytes : List UInt8) (positive : 0 < size) : (pad size bytes).length % size = 0 := by
  rw [padded_length size bytes positive, Nat.mul_mod_left]

theorem unpad_pad (size : Nat) (bytes : List UInt8) (positive : 0 < size) (small : size < 256) :
    unpad size (pad size bytes) = some bytes := by
  obtain ⟨nonempty, bound⟩ := pad_length_bounds size bytes.length positive
  obtain ⟨fewer, count⟩ : ∃ fewer, padLength size bytes.length = fewer + 1 := ⟨_, (Nat.sub_add_cancel nonempty).symm⟩
  have last : (pad size bytes).getLastD 0 = UInt8.ofNat (padLength size bytes.length) := by
    rw [pad, count, List.replicate_succ', ← List.append_assoc, List.getLastD_concat]
  have byte : (UInt8.ofNat (padLength size bytes.length)).toNat = padLength size bytes.length := by
    rw [UInt8.toNat_ofNat', Nat.mod_eq_of_lt (by omega)]
  have long : (pad size bytes).length = bytes.length + padLength size bytes.length := by simp [pad]
  have rest : (pad size bytes).length - padLength size bytes.length = bytes.length := by omega
  simp only [unpad, last, byte, rest]
  rw [if_pos]
  · rw [pad, List.take_left']
    rfl
  · refine ⟨nonempty, bound, by omega, ?_⟩
    rw [pad, List.drop_left']
    rfl

theorem pad_length_unique (size length count : Nat) (nonempty : 0 < count) (bound : count ≤ size)
    (whole : (length + count) % size = 0) : padLength size length = count := by
  have positive : 0 < size := by omega
  have below := Nat.mod_lt length positive
  have sum : (length % size + count) % size = 0 := by rw [← whole, Nat.mod_add_mod]
  by_cases full : length % size + count < size
  · rw [Nat.mod_eq_of_lt full] at sum
    omega
  · rw [Nat.mod_eq_sub_mod (by omega)] at sum
    by_cases again : length % size + count - size < size
    · rw [Nat.mod_eq_of_lt again] at sum
      rw [padLength]
      omega
    · omega

theorem pad_unpad (size : Nat) (padded bytes : List UInt8) (whole : padded.length % size = 0)
    (opened : unpad size padded = some bytes) : pad size bytes = padded := by
  unfold unpad at opened
  dsimp only at opened
  split at opened
  · rename_i parts
    obtain ⟨nonempty, bound, inside, filled⟩ := parts
    generalize last : padded.getLastD 0 = byte at *
    have long : (padded.take (padded.length - byte.toNat)).length + byte.toNat = padded.length := by
      rw [List.length_take]
      omega
    rw [← Option.some.inj opened, pad, pad_length_unique size _ byte.toNat nonempty bound (by rw [long]; exact whole),
      UInt8.ofNat_toNat, ← filled, List.take_append_drop]
  · cases opened

theorem unpad_shorter (size : Nat) (padded bytes : List UInt8) (opened : unpad size padded = some bytes) :
    bytes.length ≤ padded.length := by
  unfold unpad at opened
  dsimp only at opened
  split at opened
  · rw [← Option.some.inj opened, List.length_take]
    exact Nat.min_le_right _ _
  · cases opened

end Padding

end BlockMode
