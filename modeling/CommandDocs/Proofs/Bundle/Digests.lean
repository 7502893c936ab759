import CommandDocs.Digest
import Mathlib.Data.Fin.VecNotation
import Mathlib.Data.Fintype.Basic
import Mathlib.Data.Nat.NthRoot.Defs
import Mathlib.Data.Nat.Prime.Defs
import Mathlib.Tactic.FinCases
import Mathlib.Tactic.IntervalCases

/-!
# The standard digest

SHA-256 as its standard (FIPS 180-4) states it: the constants come of the roots of the first primes,
the words of a block are given by their index, and the working variables by the number of rounds.
The digest that is computed block by block is the one of the standard.
-/

namespace CommandDocs.Sha256

/-! ## The standard -/

def choice (x y z : BitVec 32) : BitVec 32 :=
  (x &&& y) ^^^ (~~~x &&& z)

def majority (x y z : BitVec 32) : BitVec 32 :=
  (x &&& y) ^^^ (x &&& z) ^^^ (y &&& z)

def upperSigma0 (x : BitVec 32) : BitVec 32 :=
  x.rotateRight 2 ^^^ x.rotateRight 13 ^^^ x.rotateRight 22

def upperSigma1 (x : BitVec 32) : BitVec 32 :=
  x.rotateRight 6 ^^^ x.rotateRight 11 ^^^ x.rotateRight 25

def lowerSigma0 (x : BitVec 32) : BitVec 32 :=
  x.rotateRight 7 ^^^ x.rotateRight 18 ^^^ (x >>> 3)

def lowerSigma1 (x : BitVec 32) : BitVec 32 :=
  x.rotateRight 17 ^^^ x.rotateRight 19 ^^^ (x >>> 10)

def primes : List Nat :=
  (List.range 312).filter fun n => n.Prime

/-- The first 32 bits of the fractional part of a root of a number. -/
def rootFraction (degree n : Nat) : BitVec 32 :=
  BitVec.ofNat 32 (Nat.nthRoot degree (n * 2 ^ (32 * degree)))

def constant (t : Nat) : BitVec 32 :=
  rootFraction 3 (primes.getD t 0)

/-- The eight working variables, or the eight words of a hash. -/
abbrev Words := Fin 8 → BitVec 32

def initial : Words := fun i =>
  rootFraction 2 (primes.getD i 0)

/-- The message schedule of a block, given the sixteen words of the block. -/
def schedule (block : Nat → BitVec 32) (t : Nat) : BitVec 32 :=
  if t < 16 then block t
  else lowerSigma1 (schedule block (t - 2)) + schedule block (t - 7) +
    lowerSigma0 (schedule block (t - 15)) + schedule block (t - 16)

def round (constant word : BitVec 32) (v : Words) : Words :=
  let first := v 7 + upperSigma1 (v 4) + choice (v 4) (v 5) (v 6) + constant + word
  let second := upperSigma0 (v 0) + majority (v 0) (v 1) (v 2)
  ![first + second, v 0, v 1, v 2, v 3 + first, v 4, v 5, v 6]

def rounds (words : Nat → BitVec 32) (v : Words) : Nat → Words
  | 0 => v
  | t + 1 => round (constant t) (words t) (rounds words v t)

/-- The hash after a block, given the hash before it. -/
def compress (block : Nat → BitVec 32) (hash : Words) : Words := fun i =>
  hash i + rounds (schedule block) hash 64 i

/-- The 64-bit length of a message in bits, as eight bytes with the greatest first. -/
def lengthBytes (message : List UInt8) : List UInt8 :=
  (List.range 8).reverse.map fun i =>
    .ofBitVec ((BitVec.ofNat 64 (8 * message.length)).extractLsb' (8 * i) 8)

/-- A message with the bit one behind it, as few zeros as fill up its last block, and its length. -/
def padded (message : List UInt8) : List UInt8 :=
  message ++ 0x80 :: List.replicate ((55 - (message.length : Int)) % 64).toNat 0 ++
    lengthBytes message

def wordAt (bytes : List UInt8) (index : Nat) : BitVec 32 :=
  (bytes.getD (4 * index) 0).toBitVec ++ (bytes.getD (4 * index + 1) 0).toBitVec ++
    (bytes.getD (4 * index + 2) 0).toBitVec ++ (bytes.getD (4 * index + 3) 0).toBitVec

/-- The hash of the first blocks of a byte sequence. -/
def hash (bytes : List UInt8) : Nat → Words
  | 0 => initial
  | i + 1 => compress (fun t => wordAt bytes (16 * i + t)) (hash bytes i)

/-- A word in hexadecimal, with zeros before it up to eight digits. -/
def hex (word : BitVec 32) : List Char :=
  (Nat.toDigits 16 word.toNat).leftpad 8 '0'

/-- The digest of a message: the words of its hash in hexadecimal, one after the other. -/
def digest (message : List UInt8) : String :=
  String.ofList ((List.finRange 8).flatMap fun i =>
    hex (hash (padded message) ((padded message).length / 64) i))

end CommandDocs.Sha256

namespace CommandDocs.Digest

/-! ## Words -/

theorem toBitVec_rotate (x n : Word) (positive : 0 < n.toNat) (small : n.toNat < 32) :
    (rotate x n).toBitVec = x.toBitVec.rotateRight n.toNat := by
  have right : (n.toBitVec % 32).toNat = n.toNat := by
    simpa using Nat.mod_eq_of_lt small
  have left : ((32 - n).toBitVec % 32).toNat = 32 - n.toNat := by
    have below : n ≤ 32 := UInt32.le_iff_toNat_le.mpr small.le
    have apart := UInt32.toNat_sub_of_le 32 n below
    rw [BitVec.toNat_umod]
    change (32 - n).toNat % 32 = _
    rw [apart]
    exact Nat.mod_eq_of_lt (Nat.sub_lt (by decide) positive)
  rw [rotate, UInt32.toBitVec_or, UInt32.toBitVec_shiftRight, UInt32.toBitVec_shiftLeft,
    BitVec.ushiftRight_eq', BitVec.shiftLeft_eq', right, left, BitVec.rotateRight_def,
    Nat.mod_eq_of_lt small]

/-- The working variables of a state. -/
def State.words (s : State) : Sha256.Words :=
  ![s.a.toBitVec, s.b.toBitVec, s.c.toBitVec, s.d.toBitVec, s.e.toBitVec, s.f.toBitVec,
    s.g.toBitVec, s.h.toBitVec]

theorem words_start : start.words = Sha256.initial := by
  rw [funext_iff]
  decide +kernel

theorem map_roundConstants :
    roundConstants.map UInt32.toBitVec = (List.range 64).map Sha256.constant := by
  decide +kernel

theorem words_round (s : State) (constant word : Word) :
    (round s constant word).words =
      Sha256.round constant.toBitVec word.toBitVec s.words := by
  simp only [round, Sha256.round, State.words, Sha256.upperSigma0, Sha256.upperSigma1,
    Sha256.choice, Sha256.majority, UInt32.toBitVec_add, UInt32.toBitVec_xor,
    UInt32.toBitVec_and, UInt32.toBitVec_not,
    toBitVec_rotate _ 2 (by decide) (by decide), toBitVec_rotate _ 13 (by decide) (by decide),
    toBitVec_rotate _ 22 (by decide) (by decide), toBitVec_rotate _ 6 (by decide) (by decide),
    toBitVec_rotate _ 11 (by decide) (by decide), toBitVec_rotate _ 25 (by decide) (by decide)]
  rfl

/-! ## Blocks -/

theorem toBitVec_getD {latest : List Word} {f : Nat → BitVec 32} {m : Nat}
    (same : latest.map UInt32.toBitVec = ((List.range m).map f).reverse) {k : Nat} (below : k < m) :
    (latest.getD k 0).toBitVec = f (m - 1 - k) := by
  have length : latest.length = m := by
    simpa using congrArg List.length same
  have found := congrArg (·[k]?) same
  simp only [List.getElem?_map, List.getElem?_reverse, List.length_map, List.length_range,
    below] at found
  rw [List.getElem?_range (by omega)] at found
  obtain ⟨word, held, value⟩ := Option.map_eq_some_iff.mp found
  rw [List.getD_eq_getElem?_getD, held]
  exact value

theorem toBitVec_lowerSigma0 (x : Word) :
    (rotate x 7 ^^^ rotate x 18 ^^^ (x >>> 3)).toBitVec = Sha256.lowerSigma0 x.toBitVec := by
  rw [Sha256.lowerSigma0, UInt32.toBitVec_xor, UInt32.toBitVec_xor,
    toBitVec_rotate x 7 (by decide) (by decide), toBitVec_rotate x 18 (by decide) (by decide)]
  rfl

theorem toBitVec_lowerSigma1 (x : Word) :
    (rotate x 17 ^^^ rotate x 19 ^^^ (x >>> 10)).toBitVec = Sha256.lowerSigma1 x.toBitVec := by
  rw [Sha256.lowerSigma1, UInt32.toBitVec_xor, UInt32.toBitVec_xor,
    toBitVec_rotate x 17 (by decide) (by decide), toBitVec_rotate x 19 (by decide) (by decide)]
  rfl

section Extending

variable {block : Nat → BitVec 32} {m : Nat} {latest : List Word} (full : 16 ≤ m)
  (same : latest.map UInt32.toBitVec = ((List.range m).map (Sha256.schedule block)).reverse)
include full same

theorem toBitVec_next :
    (latest.getD 15 0 +
        (rotate (latest.getD 14 0) 7 ^^^ rotate (latest.getD 14 0) 18 ^^^ (latest.getD 14 0 >>> 3)) +
        latest.getD 6 0 +
        (rotate (latest.getD 1 0) 17 ^^^ rotate (latest.getD 1 0) 19 ^^^
          (latest.getD 1 0 >>> 10))).toBitVec = Sha256.schedule block m := by
  have oldest := toBitVec_getD same (show 15 < m by omega)
  have older := toBitVec_getD same (show 14 < m by omega)
  have middle := toBitVec_getD same (show 6 < m by omega)
  have newer := toBitVec_getD same (show 1 < m by omega)
  rw [show m - 1 - 15 = m - 16 by omega] at oldest
  rw [show m - 1 - 14 = m - 15 by omega] at older
  rw [show m - 1 - 6 = m - 7 by omega] at middle
  rw [show m - 1 - 1 = m - 2 by omega] at newer
  rw [Sha256.schedule, if_neg (by omega), ← oldest, ← older, ← middle, ← newer,
    UInt32.toBitVec_add, UInt32.toBitVec_add, UInt32.toBitVec_add, toBitVec_lowerSigma0,
    toBitVec_lowerSigma1]
  ac_rfl

/-- The words of all rounds are those of the message schedule. -/
theorem map_extend (n : Nat) :
    (extend n latest).map UInt32.toBitVec =
      ((List.range (m + n)).map (Sha256.schedule block)).reverse := by
  induction n generalizing m latest with
  | zero => exact same
  | succ n ih =>
      rw [extend, show m + (n + 1) = m + 1 + n by omega]
      refine ih (by omega) ?_
      rw [List.map_cons, List.range_succ, List.map_append, List.reverse_append, same]
      exact congrArg (· :: _) (toBitVec_next full same)

end Extending

/-- The rounds of a block, taken one after the other. -/
theorem words_foldl_round {constants words : List Word} {k w : Nat → BitVec 32} {n : Nat}
    (sameConstants : constants.map UInt32.toBitVec = (List.range n).map k)
    (sameWords : words.map UInt32.toBitVec = (List.range n).map w) (s : State) :
    ((constants.zip words).foldl (fun state (constant, word) => round state constant word) s).words =
      (List.range n).foldl (fun v t => Sha256.round (k t) (w t) v) s.words := by
  have paired : (constants.zip words).map (Prod.map UInt32.toBitVec UInt32.toBitVec) =
      (List.range n).map fun t => (k t, w t) := by
    rw [← List.zip_map, sameConstants, sameWords, List.zip_map']
  have folded (pairs : List (Word × Word)) (s : State) :
      (pairs.foldl (fun state (constant, word) => round state constant word) s).words =
        (pairs.map (Prod.map UInt32.toBitVec UInt32.toBitVec)).foldl
          (fun v (constant, word) => Sha256.round constant word v) s.words := by
    induction pairs generalizing s with
    | nil => rfl
    | cons pair pairs ih =>
        rw [List.foldl_cons, ih, words_round, List.map_cons, List.foldl_cons]
        rfl
  rw [folded, paired, List.foldl_map]

theorem rounds_eq_foldl (w : Nat → BitVec 32) (v : Sha256.Words) (n : Nat) :
    Sha256.rounds w v n =
      (List.range n).foldl (fun v t => Sha256.round (Sha256.constant t) (w t) v) v := by
  induction n with
  | zero => rfl
  | succ n ih => rw [Sha256.rounds, ih, List.range_succ, List.foldl_append]; rfl

/-- A block is absorbed as the standard says. -/
theorem words_absorb {block : Nat → BitVec 32} {words : List Word}
    (same : words.map UInt32.toBitVec = (List.range 16).map block) (s : State) :
    (absorb s words).words = Sha256.compress block s.words := by
  have scheduled : words.reverse.map UInt32.toBitVec =
      ((List.range 16).map (Sha256.schedule block)).reverse := by
    rw [List.map_reverse, same]
    refine congrArg List.reverse (List.map_congr_left fun t member => ?_)
    rw [Sha256.schedule, if_pos (List.mem_range.mp member)]
  have extended : (extend 48 words.reverse).reverse.map UInt32.toBitVec =
      (List.range 64).map (Sha256.schedule block) := by
    rw [List.map_reverse, map_extend (Nat.le_refl 16) scheduled, List.reverse_reverse]
  have turned := words_foldl_round map_roundConstants extended s
  rw [← rounds_eq_foldl] at turned
  unfold Sha256.compress
  rw [← turned]
  funext i
  fin_cases i <;> exact UInt32.toBitVec_add

/-! ## Messages -/

theorem toBitVec_word (a b c d : UInt8) :
    ((a.toUInt32 <<< 24) ||| (b.toUInt32 <<< 16) ||| (c.toUInt32 <<< 8) ||| d.toUInt32).toBitVec =
      a.toBitVec ++ b.toBitVec ++ c.toBitVec ++ d.toBitVec := by
  refine BitVec.eq_of_getLsbD_eq fun i below => ?_
  have above (x : UInt8) {j : Nat} (high : ¬j < 8) : x.toBitVec.getLsbD j = false :=
    BitVec.getLsbD_of_ge _ _ (Nat.le_of_not_lt high)
  have shifted : ((a.toUInt32 <<< 24) ||| (b.toUInt32 <<< 16) ||| (c.toUInt32 <<< 8) |||
      d.toUInt32).toBitVec.getLsbD i =
        (!decide (i < 24) && a.toBitVec.getLsbD (i - 24) ||
          !decide (i < 16) && b.toBitVec.getLsbD (i - 16) ||
          !decide (i < 8) && c.toBitVec.getLsbD (i - 8) || d.toBitVec.getLsbD i) := by
    simp [below]
  rw [shifted, BitVec.getLsbD_append, BitVec.getLsbD_append, BitVec.getLsbD_append, Nat.sub_sub,
    Nat.sub_sub]
  by_cases first : i < 8
  · simp [first, show i < 16 by omega, show i < 24 by omega]
  by_cases second : i - 8 < 8
  · simp [first, second, show i < 16 by omega, show i < 24 by omega, above d first]
  by_cases third : i - 16 < 8
  · simp [first, second, third, show ¬i < 16 by omega, show i < 24 by omega, above d first,
      above c second]
  · simp [first, second, third, show ¬i < 16 by omega, show ¬i < 24 by omega, above d first,
      above c second, above b third]

theorem length_lt_of_short {bytes : List UInt8}
    (short : ∀ a b c d rest, bytes = a :: b :: c :: d :: rest → False) : bytes.length < 4 := by
  rcases bytes with _ | ⟨a, _ | ⟨b, _ | ⟨c, _ | ⟨d, rest⟩⟩⟩⟩
  · simp
  · simp
  · simp
  · simp
  · exact (short a b c d rest rfl).elim

theorem length_words (bytes : List UInt8) : (words bytes).length = bytes.length / 4 := by
  induction bytes using words.induct with
  | case1 a b c d rest ih =>
      rw [words, List.length_cons, ih]
      simp only [List.length_cons]
      omega
  | case2 bytes short =>
      rw [words.eq_2 bytes short, Nat.div_eq_of_lt (length_lt_of_short short)]
      rfl

theorem toBitVec_getD_words {bytes : List UInt8} {t : Nat} (below : t < bytes.length / 4) :
    ((words bytes).getD t 0).toBitVec = Sha256.wordAt bytes t := by
  induction bytes using words.induct generalizing t with
  | case1 a b c d rest ih =>
      rw [words]
      cases t with
      | zero => exact toBitVec_word a b c d
      | succ t =>
          have later : t < rest.length / 4 := by
            simp only [List.length_cons] at below
            omega
          exact ih later
  | case2 bytes short =>
      rw [Nat.div_eq_of_lt (length_lt_of_short short)] at below
      exact absurd below (Nat.not_lt_zero t)

/-- The blocks of a byte sequence are absorbed one after the other. -/
theorem words_absorbAll (bytes : List UInt8) {n k : Nat} {s : State} {ws : List Word}
    (enough : 16 * n ≤ ws.length) (begun : s.words = Sha256.hash bytes k)
    (same : ∀ t < ws.length, (ws.getD t 0).toBitVec = Sha256.wordAt bytes (16 * k + t)) :
    (absorbAll n s ws).words = Sha256.hash bytes (k + n) := by
  induction n generalizing k s ws with
  | zero => exact begun
  | succ n ih =>
      have block : (ws.take 16).map UInt32.toBitVec =
          (List.range 16).map fun t => Sha256.wordAt bytes (16 * k + t) := by
        refine List.ext_getElem (by simp; omega) fun t inside small => ?_
        rw [List.length_map, List.length_range] at small
        have found := same t (by omega)
        rw [List.getD_eq_getElem?_getD, List.getElem?_eq_getElem (by omega)] at found
        simpa using found
      rw [absorbAll, show k + (n + 1) = k + 1 + n by omega]
      refine ih ?_ ?_ fun t below => ?_
      · rw [List.length_drop]
        omega
      · rw [words_absorb block, begun]
        rfl
      · rw [List.length_drop] at below
        rw [List.getD_eq_getElem?_getD, List.getElem?_drop, ← List.getD_eq_getElem?_getD,
          same _ (by omega), Nat.mul_succ, Nat.add_assoc]

theorem toUInt8_byte (n : Nat) {i : Nat} (small : i < 8) :
    (n / Nat.pow 256 i % 256).toUInt8 =
      .ofBitVec ((BitVec.ofNat 64 n).extractLsb' (8 * i) 8) := by
  have low : n % 2 ^ 64 / 2 ^ (8 * i) % 2 ^ 8 = n / 2 ^ (8 * i) % 2 ^ 8 := by
    interval_cases i <;> omega
  have power : Nat.pow 256 i = 2 ^ (8 * i) := by
    rw [Nat.pow_mul]
    rfl
  apply UInt8.toNat_inj.mp
  simp only [BitVec.extractLsb'_toNat, Nat.shiftRight_eq_div_pow, UInt8.toNat_ofBitVec,
    BitVec.toNat_ofNat, low, power]
  simp

theorem pad_eq (message : List UInt8) : pad message = Sha256.padded message := by
  have zeros : (119 - message.length % 64) % 64 = ((55 - (message.length : Int)) % 64).toNat := by
    omega
  rw [pad, Sha256.padded, Sha256.lengthBytes, zeros, Nat.mul_comm message.length 8]
  refine congrArg _ (List.map_congr_left fun i member => ?_)
  exact toUInt8_byte _ (List.mem_range.mp (List.mem_reverse.mp member))

theorem length_padded (message : List UInt8) : (Sha256.padded message).length % 64 = 0 := by
  simp only [Sha256.padded, Sha256.lengthBytes, List.length_append, List.length_cons,
    List.length_replicate, List.length_map, List.length_reverse, List.length_range]
  omega

theorem words_final (message : List UInt8) :
    (final message).words =
      Sha256.hash (Sha256.padded message) ((Sha256.padded message).length / 64) := by
  have whole := length_padded message
  have count : (words (Sha256.padded message)).length / 16 =
      (Sha256.padded message).length / 64 := by
    rw [length_words]
    omega
  rw [final, pad_eq, words_absorbAll (Sha256.padded message) (k := 0) ?_ words_start
    fun t below => ?_, Nat.zero_add, count]
  · rw [length_words]
    omega
  · rw [length_words] at below
    rw [toBitVec_getD_words below, Nat.mul_zero, Nat.zero_add]

/-! ## Hexadecimal -/

theorem replicate_append_toDigits (count : Nat) {n : Nat} (small : n < 16 ^ (count + 1)) :
    List.replicate (count + 1 - (Nat.toDigits 16 n).length) '0' ++ Nat.toDigits 16 n =
      (List.range (count + 1)).reverse.map fun i => Nat.digitChar (n / 16 ^ i % 16) := by
  induction count generalizing n with
  | zero =>
      have digit : n < 16 := by simpa using small
      rw [Nat.toDigits_of_lt_base digit]
      simp [Nat.mod_eq_of_lt digit]
  | succ count ih =>
      have less : n / 16 < 16 ^ (count + 1) := by
        rw [Nat.div_lt_iff_lt_mul (by decide)]
        exact small
      have shift : ((List.range (count + 1 + 1)).reverse.map fun i =>
          Nat.digitChar (n / 16 ^ i % 16)) =
            ((List.range (count + 1)).reverse.map fun i => Nat.digitChar (n / 16 / 16 ^ i % 16)) ++
              [Nat.digitChar (n % 16)] := by
        rw [List.range_succ_eq_map, List.reverse_cons, List.map_append, ← List.map_reverse,
          List.map_map]
        simp [Function.comp_def, Nat.pow_succ', Nat.div_div_eq_div_mul]
      rw [shift, ← ih less]
      by_cases digit : n < 16
      · rw [Nat.toDigits_of_lt_base digit, Nat.div_eq_of_lt digit, Nat.mod_eq_of_lt digit]
        simp [List.replicate_succ']
      · rw [Nat.toDigits_of_base_le (by decide) (Nat.le_of_not_lt digit)]
        simp

theorem hexWord_eq (w : Word) : hexWord w = Sha256.hex w.toBitVec :=
  (replicate_append_toDigits 7 w.toNat_lt).symm

/-- **The digest of a message is its SHA-256 digest.** -/
theorem hexDigest_eq (message : List UInt8) : hexDigest message = Sha256.digest message := by
  rw [Sha256.digest, ← words_final, hexDigest, funext hexWord_eq]
  rfl

example : hexDigest [0x61, 0x62, 0x63] =
    "ba7816bf8f01cfea414140de5dae2223b00361a396177a9cb410ff61f20015ad" := by
  decide +kernel

end CommandDocs.Digest
