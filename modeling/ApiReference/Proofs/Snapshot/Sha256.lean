import Mathlib
import ApiReference.Snapshot.Sha256

/-!
Digests by the standard. SHA-256 is stated here as it is published: the constants are bits of roots
of primes, the schedule of a block is a recurrence, the rounds and the blocks are counted, and a
padded message is one of a given form. What is computed, with its table of constants, its window of
sixteen words and its blocks taken off a list, comes to the same text for every sequence of bytes.
-/

namespace ApiReference.Sha256

/-! ## The standard -/

/-- A word turned right by `n` bits. -/
def rotr (n : Nat) (x : UInt32) : UInt32 := ⟨x.toBitVec.rotateRight n⟩

def bigSigma0 (x : UInt32) : UInt32 := rotr 2 x ^^^ rotr 13 x ^^^ rotr 22 x

def bigSigma1 (x : UInt32) : UInt32 := rotr 6 x ^^^ rotr 11 x ^^^ rotr 25 x

def smallSigma0 (x : UInt32) : UInt32 := rotr 7 x ^^^ rotr 18 x ^^^ (x >>> 3)

def smallSigma1 (x : UInt32) : UInt32 := rotr 17 x ^^^ rotr 19 x ^^^ (x >>> 10)

def choice (x y z : UInt32) : UInt32 := (x &&& y) ^^^ (~~~x &&& z)

def majority (x y z : UInt32) : UInt32 := (x &&& y) ^^^ (x &&& z) ^^^ (y &&& z)

/-- The first sixty-four primes are those below 312. -/
def primes : List Nat := (List.range 312).filter fun n => Nat.Prime n

/-- The first 32 bits of the fractional part of the `r`th root of a number. -/
def rootBits (r n : Nat) : UInt32 := .ofNat (Nat.nthRoot r (n * 2 ^ (32 * r)))

def constant (t : Nat) : UInt32 := rootBits 3 (primes.getD t 0)

/-- The words that the first block is folded into. -/
def startWords : Words :=
  let word (i : Nat) := rootBits 2 (primes.getD i 0)
  ⟨word 0, word 1, word 2, word 3, word 4, word 5, word 6, word 7⟩

def scheduled (block : Nat → UInt32) (t : Nat) : UInt32 :=
  if t < 16 then block t
  else
    smallSigma1 (scheduled block (t - 2)) + scheduled block (t - 7) +
      smallSigma0 (scheduled block (t - 15)) + scheduled block (t - 16)
termination_by t
decreasing_by all_goals omega

def nextWords (k w : UInt32) (s : Words) : Words :=
  let t1 := s.h + bigSigma1 s.e + choice s.e s.f s.g + k + w
  let t2 := bigSigma0 s.a + majority s.a s.b s.c
  ⟨t1 + t2, s.a, s.b, s.c, s.d + t1, s.e, s.f, s.g⟩

/-- The eight words after `t` rounds on a block. -/
def wordsAfter (block : Nat → UInt32) (s : Words) : Nat → Words
  | 0 => s
  | t + 1 => nextWords (constant t) (scheduled block t) (wordsAfter block s t)

def Words.add (s t : Words) : Words :=
  ⟨s.a + t.a, s.b + t.b, s.c + t.c, s.d + t.d, s.e + t.e, s.f + t.f, s.g + t.g, s.h + t.h⟩

def Words.toList (s : Words) : List UInt32 := [s.a, s.b, s.c, s.d, s.e, s.f, s.g, s.h]

/-- The bits of four bytes in a row. -/
def wordAt (bytes : List UInt8) (i : Nat) : UInt32 :=
  let byte (k : Nat) := (bytes.getD (4 * i + k) 0).toBitVec
  ⟨byte 0 ++ byte 1 ++ byte 2 ++ byte 3⟩

/-- The eight words after `n` blocks of a padded message. -/
def hashAfter (padded : List UInt8) : Nat → Words
  | 0 => startWords
  | n + 1 =>
    let s := hashAfter padded n
    s.add (wordsAfter (fun t => wordAt padded (16 * n + t)) s 64)

/-- A message with a one bit, the fewest nought bits that will do, and its length in bits after it,
in whole blocks. -/
structure IsPadded (bytes padded : List UInt8) : Prop where
  parts : ∃ zeros < 64, padded = bytes ++ 0x80 :: (List.replicate zeros 0 ++
    (List.range 8).map fun i => UInt8.ofNat (8 * bytes.length / 256 ^ (7 - i)))
  whole : 64 ∣ padded.length

def hexDigits (w : UInt32) : List Char :=
  (List.range 8).map fun i => Nat.digitChar (w.toNat / 16 ^ (7 - i) % 16)

/-- Whether a text is the digest of bytes by the standard. -/
def IsDigest (bytes : List UInt8) (text : String) : Prop :=
  ∃ padded, IsPadded bytes padded ∧
    text = String.ofList ((hashAfter padded (padded.length / 64)).toList.flatMap hexDigits)

/-! ## Words -/

theorem rotate_eq (x : UInt32) {n : UInt32} (some : 0 < n.toNat) (small : n.toNat < 32) :
    rotate x n = rotr n.toNat x := by
  have right : (n.toBitVec % 32).toNat = n.toNat := by
    rw [BitVec.toNat_umod, UInt32.toNat_toBitVec]
    exact Nat.mod_eq_of_lt small
  have left : ((32 - n).toBitVec % 32).toNat = 32 - n.toNat := by
    rw [BitVec.toNat_umod, UInt32.toNat_toBitVec, UInt32.toNat_sub_of_le]
    · exact Nat.mod_eq_of_lt (Nat.sub_lt (by decide) some)
    · exact UInt32.le_iff_toNat_le.mpr (Nat.le_of_lt small)
  apply UInt32.toBitVec_inj.mp
  rw [rotate, rotr, UInt32.toBitVec_or, UInt32.toBitVec_shiftRight, UInt32.toBitVec_shiftLeft,
    BitVec.ushiftRight_eq', BitVec.shiftLeft_eq', left, right, BitVec.rotateRight,
    Nat.mod_eq_of_lt small]
  rfl

theorem round_eq (s : Words) (k w : UInt32) : round s k w = nextWords k w s := by
  simp only [round, nextWords, bigSigma0, bigSigma1, choice, majority]
  rw [rotate_eq (n := 6) _ (by decide) (by decide), rotate_eq (n := 11) _ (by decide) (by decide),
    rotate_eq (n := 25) _ (by decide) (by decide), rotate_eq (n := 2) _ (by decide) (by decide),
    rotate_eq (n := 13) _ (by decide) (by decide), rotate_eq (n := 22) _ (by decide) (by decide)]
  rfl

/-! ## Constants -/

theorem prime_iff {n : Nat} (small : n < 18 * 18) :
    n.Prime ↔ 2 ≤ n ∧ ∀ d ∈ List.range 18, 2 ≤ d → d < n → n % d ≠ 0 := by
  rw [Nat.prime_def_le_sqrt]
  refine and_congr_right fun _ => ⟨fun h d _ two less divides => ?_, fun h d two root divides => ?_⟩
  · -- A divisor that is too large has a partner that is not.
    obtain ⟨e, rfl⟩ := Nat.dvd_of_mod_eq_zero divides
    have several : 2 ≤ e := by
      by_contra few
      interval_cases e <;> omega
    rcases Nat.le_total d e with order | order
    · exact h d two (Nat.le_sqrt.mpr (Nat.mul_le_mul_left d order)) ⟨e, rfl⟩
    · exact h e several (Nat.le_sqrt.mpr (Nat.mul_le_mul_right e order)) ⟨d, Nat.mul_comm d e⟩
  · have tried : d < 18 := Nat.lt_of_le_of_lt root (Nat.sqrt_lt.mpr small)
    have less : d < n := by
      have := Nat.le_sqrt.mp root
      nlinarith
    exact h d (List.mem_range.mpr tried) two less (Nat.mod_eq_zero_of_dvd divides)

theorem primes_eq : primes =
    [2, 3, 5, 7, 11, 13, 17, 19, 23, 29, 31, 37, 41, 43, 47, 53, 59, 61, 67, 71, 73, 79, 83, 89, 97,
      101, 103, 107, 109, 113, 127, 131, 137, 139, 149, 151, 157, 163, 167, 173, 179, 181, 191, 193,
      197, 199, 211, 223, 227, 229, 233, 239, 241, 251, 257, 263, 269, 271, 277, 281, 283, 293, 307,
      311] := by
  have tested : primes = (List.range 312).filter fun n =>
      decide (2 ≤ n ∧ ∀ d ∈ List.range 18, 2 ≤ d → d < n → n % d ≠ 0) := by
    refine List.filter_congr fun n hn => ?_
    have small : n < 18 * 18 := Nat.lt_trans (List.mem_range.mp hn) (by decide)
    exact decide_eq_decide.mpr (prime_iff small)
  rw [tested]
  decide +kernel

theorem roundConstants_eq : roundConstants = (List.range 64).map constant := by
  change roundConstants = (List.range 64).map fun t => rootBits 3 (primes.getD t 0)
  rw [primes_eq]
  decide +kernel

theorem initial_eq : initial = startWords := by
  rw [startWords, primes_eq]
  decide +kernel

/-! ## Schedule -/

theorem scheduled_start {block : Nat → UInt32} {t : Nat} (h : t < 16) :
    scheduled block t = block t := by
  rw [scheduled, if_pos h]

theorem scheduled_later (block : Nat → UInt32) (t : Nat) :
    scheduled block (t + 16) = smallSigma1 (scheduled block (t + 14)) + scheduled block (t + 9) +
      smallSigma0 (scheduled block (t + 1)) + scheduled block t := by
  rw [scheduled, if_neg (by omega)]
  rfl

/-- The last sixteen words of the schedule before a round, the latest first. -/
def recent (block : Nat → UInt32) (t : Nat) : List UInt32 :=
  [scheduled block (t + 15), scheduled block (t + 14), scheduled block (t + 13),
    scheduled block (t + 12), scheduled block (t + 11), scheduled block (t + 10),
    scheduled block (t + 9), scheduled block (t + 8), scheduled block (t + 7),
    scheduled block (t + 6), scheduled block (t + 5), scheduled block (t + 4),
    scheduled block (t + 3), scheduled block (t + 2), scheduled block (t + 1), scheduled block t]

theorem scheduleFrom_succ_recent (block : Nat → UInt32) (n t : Nat) :
    scheduleFrom (n + 1) (recent block t) =
      scheduled block (t + 16) :: scheduleFrom n (recent block (t + 1)) := by
  have next : scheduled block t + (rotate (scheduled block (t + 1)) 7 ^^^
        rotate (scheduled block (t + 1)) 18 ^^^ (scheduled block (t + 1) >>> 3)) +
      scheduled block (t + 9) + (rotate (scheduled block (t + 14)) 17 ^^^
        rotate (scheduled block (t + 14)) 19 ^^^ (scheduled block (t + 14) >>> 10)) =
      scheduled block (t + 16) := by
    rw [rotate_eq (n := 7) _ (by decide) (by decide), rotate_eq (n := 18) _ (by decide) (by decide),
      rotate_eq (n := 17) _ (by decide) (by decide), rotate_eq (n := 19) _ (by decide) (by decide),
      scheduled_later]
    change scheduled block t + smallSigma0 (scheduled block (t + 1)) + scheduled block (t + 9) +
      smallSigma1 (scheduled block (t + 14)) = _
    ac_rfl
  obtain ⟨w, step, same⟩ : ∃ w, scheduleFrom (n + 1) (recent block t) =
      w :: scheduleFrom n (w :: (recent block t).take 15) ∧ w = scheduled block (t + 16) :=
    ⟨_, rfl, next⟩
  rw [step, same]
  rfl

theorem scheduleFrom_recent (block : Nat → UInt32) (n t : Nat) :
    scheduleFrom n (recent block t) = (List.range' (t + 16) n).map (scheduled block) := by
  induction n generalizing t with
  | zero => rfl
  | succ n ih =>
    rw [scheduleFrom_succ_recent, ih, List.range'_succ, List.map_cons]

/-- A block of sixteen words is expanded to the words of its schedule. -/
theorem schedule_eq (block : Nat → UInt32) :
    schedule ((List.range 16).map block) = (List.range 64).map (scheduled block) := by
  have start : (List.range 16).map block = (List.range' 0 16).map (scheduled block) := by
    rw [← List.range_eq_range']
    exact List.map_congr_left fun t ht => (scheduled_start (List.mem_range.mp ht)).symm
  have latest : ((List.range' 0 16).map (scheduled block)).reverse = recent block 0 := rfl
  rw [schedule, start, latest, scheduleFrom_recent, ← List.map_append, List.range'_append,
    List.range_eq_range']

/-! ## Blocks -/

theorem foldl_rounds (block : Nat → UInt32) (s : Words) (n : Nat) :
    (((List.range n).map constant).zip ((List.range n).map (scheduled block))).foldl
      (fun s (k, w) => round s k w) s = wordsAfter block s n := by
  rw [List.zip_map', List.foldl_map]
  induction n with
  | zero => rfl
  | succ n ih =>
    rw [List.range_succ, List.foldl_append, ih]
    exact round_eq _ _ _

theorem compress_eq (block : Nat → UInt32) (s : Words) :
    compress s ((List.range 16).map block) = s.add (wordsAfter block s 64) := by
  rw [compress, roundConstants_eq, schedule_eq]
  dsimp only
  rw [foldl_rounds]
  rfl

/-- Words that follow those of `m` blocks are folded in block by block. -/
theorem compressAll_eq (padded : List UInt8) {n fuel : Nat} (enough : n ≤ fuel) (m : Nat) :
    compressAll fuel (hashAfter padded m) ((List.range' (16 * m) (16 * n)).map (wordAt padded)) =
      hashAfter padded (m + n) := by
  induction n generalizing m fuel with
  | zero => cases fuel <;> rfl
  | succ n ih =>
    obtain ⟨fuel, rfl⟩ : ∃ k, fuel = k + 1 := ⟨fuel - 1, by omega⟩
    have words : (List.range' (16 * m) (16 * (n + 1))).map (wordAt padded) =
        (List.range 16).map (fun t => wordAt padded (16 * m + t)) ++
          (List.range' (16 * (m + 1)) (16 * n)).map (wordAt padded) := by
      rw [Nat.mul_succ, Nat.add_comm, ← List.range'_append_1, List.map_append,
        List.range'_eq_map_range, List.map_map]
      rfl
    have block : ((List.range 16).map fun t => wordAt padded (16 * m + t)).length = 16 := by simp
    rw [words, compressAll, if_neg (by simp), List.take_left' block, List.drop_left' block,
      compress_eq]
    exact (ih (Nat.le_of_succ_le_succ enough) (m + 1)).trans (by rw [Nat.succ_add_eq_add_succ])

/-! ## Bytes -/

theorem word_of_bytes (a b c d : UInt8) :
    ((a.toUInt32 <<< 24) ||| (b.toUInt32 <<< 16) ||| (c.toUInt32 <<< 8) ||| d.toUInt32) =
      ⟨a.toBitVec ++ b.toBitVec ++ c.toBitVec ++ d.toBitVec⟩ := by
  have shifted (x : UInt8) (n : Nat) (few : n ≤ 24) : x.toNat <<< n % 2 ^ 32 = x.toNat <<< n := by
    refine Nat.mod_eq_of_lt ?_
    rw [Nat.shiftLeft_eq]
    calc x.toNat * 2 ^ n < 2 ^ 8 * 2 ^ n := Nat.mul_lt_mul_of_pos_right x.toNat_lt (by positivity)
      _ ≤ 2 ^ 8 * 2 ^ 24 := Nat.mul_le_mul_left _ (Nat.pow_le_pow_right (by decide) few)
  apply UInt32.toNat_inj.mp
  simp only [UInt32.toNat_or, UInt32.toNat_shiftLeft, UInt8.toNat_toUInt32]
  change (a.toNat <<< 24 % 2 ^ 32 ||| b.toNat <<< 16 % 2 ^ 32 ||| c.toNat <<< 8 % 2 ^ 32 |||
    d.toNat) = (a.toBitVec ++ b.toBitVec ++ c.toBitVec ++ d.toBitVec).toNat
  rw [shifted a 24 (by decide), shifted b 16 (by decide), shifted c 8 (by decide)]
  simp only [BitVec.toNat_append, UInt8.toNat_toBitVec, Nat.shiftLeft_or_distrib,
    ← Nat.shiftLeft_add]

theorem wordsOf_eq {bytes : List UInt8} {n : Nat} (h : bytes.length = 4 * n) :
    wordsOf bytes = (List.range n).map (wordAt bytes) := by
  induction n generalizing bytes with
  | zero =>
    rw [List.length_eq_zero_iff.mp h]
    rfl
  | succ n ih =>
    match bytes, h with
    | a :: b :: c :: d :: rest, h =>
      have shorter : rest.length = 4 * n := by
        simp only [List.length_cons] at h
        omega
      have later (i : Nat) : wordAt rest i = wordAt (a :: b :: c :: d :: rest) (i + 1) := by
        have shift (k : Nat) : (a :: b :: c :: d :: rest).getD (4 * (i + 1) + k) 0 =
            rest.getD (4 * i + k) 0 := by
          rw [show 4 * (i + 1) + k = 4 * i + k + 4 by omega]
          rfl
        simp only [wordAt, shift]
      rw [wordsOf, word_of_bytes, ih shorter, List.range_succ_eq_map, List.map_cons, List.map_map]
      refine congrArg₂ List.cons rfl (List.map_congr_left fun i _ => later i)

/-- The bytes of a number, greatest first, are its digits to the base 256. -/
theorem bigEndian_eq (count n : Nat) :
    bigEndian count n =
      (List.range count).map fun i => UInt8.ofNat (n / 256 ^ (count - 1 - i)) := by
  refine List.ext_getElem (by simp [bigEndian]) fun i _ _ => ?_
  simp only [bigEndian, List.getElem_map, List.getElem_reverse, List.getElem_range,
    List.length_range]
  rw [Nat.shiftRight_eq_div_pow, pow_mul]
  rfl

theorem hexByte_ofNat (n : Nat) :
    hexByte (UInt8.ofNat n) = [Nat.digitChar (n / 16 % 16), Nat.digitChar (n % 16)] := by
  have high : n % 2 ^ 8 / 16 = n / 16 % 16 := by omega
  have low : n % 2 ^ 8 % 16 = n % 16 := by omega
  rw [hexByte, UInt8.toNat_ofNat', high, low]

/-- The bytes of a word give its digits two by two. -/
theorem hexBytes_eq (w : UInt32) : (bigEndian 4 w.toNat).flatMap hexByte = hexDigits w := by
  simp only [bigEndian_eq, List.flatMap_map, hexByte_ofNat]
  simp only [hexDigits, List.range_succ, List.range_zero, List.nil_append, List.map_cons,
    List.map_nil, List.cons_append, List.flatMap_cons, List.flatMap_nil, Nat.div_div_eq_div_mul]
  rfl

/-! ## Digests -/

theorem isPadded_pad (bytes : List UInt8) : IsPadded bytes (pad bytes) := by
  refine ⟨⟨(119 - bytes.length % 64) % 64, Nat.mod_lt _ (by decide), ?_⟩, ?_⟩
  · rw [pad, bigEndian_eq, List.append_assoc]
    rfl
  · have eight : (bigEndian 8 (8 * bytes.length)).length = 8 := by simp [bigEndian]
    simp only [pad, List.length_append, List.length_cons, List.length_replicate, eight]
    omega

theorem IsPadded.unique {bytes p q : List UInt8} (h : IsPadded bytes p) (k : IsPadded bytes q) :
    p = q := by
  obtain ⟨⟨m, fewM, rfl⟩, wholeM⟩ := h
  obtain ⟨⟨n, fewN, rfl⟩, wholeN⟩ := k
  simp only [List.length_append, List.length_cons, List.length_replicate, List.length_map,
    List.length_range] at wholeM wholeN
  obtain rfl : m = n := by omega
  rfl

private theorem toListLoop_eq (content : ByteArray) (i : Nat) (before : List UInt8) :
    ByteArray.toList.loop content i before = before.reverse ++ content.data.toList.drop i := by
  induction i, before using ByteArray.toList.loop.induct content with
  | case1 i before inside ih =>
    have here : i < content.data.toList.length := by simpa using inside
    have byte : content.get! i = content.data.toList[i] := by
      simp only [ByteArray.get!, Array.getElem_toList]
      exact getElem!_pos content.data i (by simpa using inside)
    rw [ByteArray.toList.loop, if_pos inside, ih, List.drop_eq_getElem_cons here, byte]
    simp
  | case2 i before outside =>
    have past : content.data.toList.length ≤ i := by simpa using outside
    rw [ByteArray.toList.loop, if_neg outside, List.drop_eq_nil_of_le past, List.append_nil]

theorem toList_eq_data (content : ByteArray) : content.toList = content.data.toList := by
  rw [ByteArray.toList, toListLoop_eq, List.reverse_nil, List.nil_append, List.drop_zero]

/-- The digest by the list that the bytes are kept in. This is how to compute one: `ByteArray.toList`
looks each byte up from the start of that list. -/
theorem digest_eq (content : ByteArray) :
    digest content = String.ofList ((wordsOfDigest content.data.toList).toList.flatMap fun w =>
      (bigEndian 4 w.toNat).flatMap hexByte) := by
  rw [digest, toList_eq_data]
  rfl

/-- The digest of bytes is the text that the standard gives for them, and no other. -/
theorem isDigest_iff {content : ByteArray} {text : String} :
    IsDigest content.toList text ↔ text = digest content := by
  have padded := isPadded_pad content.toList
  obtain ⟨blocks, length⟩ := padded.whole
  have words : wordsOf (pad content.toList) =
      (List.range' (16 * 0) (16 * blocks)).map (wordAt (pad content.toList)) := by
    rw [← List.range_eq_range']
    exact wordsOf_eq (by omega)
  have folded : wordsOfDigest content.toList = hashAfter (pad content.toList) blocks := by
    have enough : blocks ≤ (wordsOf (pad content.toList)).length := by
      rw [words, List.length_map, List.length_range']
      omega
    have all := compressAll_eq (pad content.toList) enough 0
    rw [← words, Nat.zero_add] at all
    rw [wordsOfDigest, ← all, hashAfter, initial_eq]
  have count : (pad content.toList).length / 64 = blocks := by omega
  have written : digest content =
      String.ofList ((hashAfter (pad content.toList) blocks).toList.flatMap hexDigits) := by
    rw [digest, folded]
    simp only [hexBytes_eq]
    rfl
  constructor
  · rintro ⟨other, isPadded, rfl⟩
    rw [isPadded.unique padded, count, written]
  · rintro rfl
    exact ⟨_, padded, by rw [count, written]⟩

/-- A message of the standard whose padding takes a second block. -/
example : IsDigest "abcdbcdecdefdefgefghfghighijhijkijkljklmklmnlmnomnopnopq".toUTF8.toList
    "248d6a61d20638b8e5c026930c3e6039a33ce45964ff2167f6ecedd419db06c1" :=
  isDigest_iff.mpr (by rw [digest_eq]; decide +kernel)

end ApiReference.Sha256
