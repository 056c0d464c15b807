import AsCensus.Text.Utf8
import Mathlib.Algebra.Group.Nat.Defs
import Mathlib.Data.Nat.Find
import Mathlib.Tactic.SplitIfs

namespace AsCensus
namespace Text

/-!
# Text out of any bytes

Bytes are decoded by reading characters where there are any, and one replacement character
for every maximal part that is no text (`readsAs_iff`).  Such a part is the longest one that
some character starts with, or a single byte that no character starts with.

The decoder does not look at the bytes of a character again.  So within a character its
state must tell which bytes may still come: those that complete one of the characters that
start with what was read (`Completes`).  A byte is read within a character exactly when some
character goes on with it (`completes_cons`, `completes_of_step`, `exists_completes`).

A character that takes several bytes is none of ASCII (`Sound`), and so a byte of ASCII is
always read as itself (`decode_append_ascii`), and nothing else is read as it
(`mem_of_mem_decode`).
-/

/-- The last bytes of the character with a number, as many as are told. -/
def continuation : Nat -> Nat -> List UInt8
  | 0, _ => []
  | more + 1, number => UInt8.ofNat (number / 64 ^ more % 64 + 128) :: continuation more number

theorem toNat_byte {number : Nat} (bound : number < 256) : (UInt8.ofNat number).toNat = number :=
  UInt8.toNat_ofNat_of_lt' bound

theorem toNat_continuation (number : Nat) :
    (UInt8.ofNat (number % 64 + 128)).toNat = number % 64 + 128 :=
  toNat_byte (by omega)

/-! ## The bytes of a character -/

theorem encodeChar_of_one {c : Char} (bound : c.toNat < 0x80) :
    String.utf8EncodeChar c = [UInt8.ofNat c.toNat] := by
  have number : c.val.toNat = c.toNat := rfl
  rw [String.utf8EncodeChar, number, if_pos (by omega)]

theorem encodeChar_of_two {c : Char} (least : 0x80 ≤ c.toNat) (bound : c.toNat < 0x800) :
    String.utf8EncodeChar c = UInt8.ofNat (c.toNat / 64 + 0xc0) :: continuation 1 c.toNat := by
  have number : c.val.toNat = c.toNat := rfl
  have lead : c.toNat / 64 % 32 = c.toNat / 64 := by omega
  rw [String.utf8EncodeChar, number, if_neg (by omega), if_pos (by omega), lead]
  simp [continuation]

theorem encodeChar_of_three {c : Char} (least : 0x800 ≤ c.toNat) (bound : c.toNat < 0x10000) :
    String.utf8EncodeChar c = UInt8.ofNat (c.toNat / 4096 + 0xe0) :: continuation 2 c.toNat := by
  have number : c.val.toNat = c.toNat := rfl
  have lead : c.toNat / 4096 % 16 = c.toNat / 4096 := by omega
  rw [String.utf8EncodeChar, number, if_neg (by omega), if_neg (by omega), if_pos (by omega), lead]
  simp [continuation]

theorem char_toNat_ofNat {number : Nat} (valid : number.isValidChar) :
    (Char.ofNat number).toNat = number := by
  rw [Char.ofNat, dif_pos valid]
  rfl

theorem char_toNat_lt (c : Char) : c.toNat < 0x110000 := by
  rcases c.valid with low | high
  · exact Nat.lt_trans low (by decide)
  · exact high.2

theorem encodeChar_of_four {c : Char} (least : 0x10000 ≤ c.toNat) :
    String.utf8EncodeChar c = UInt8.ofNat (c.toNat / 262144 + 0xf0) :: continuation 3 c.toNat := by
  have number : c.val.toNat = c.toNat := rfl
  have bound := char_toNat_lt c
  have lead : c.toNat / 262144 % 8 = c.toNat / 262144 := by omega
  rw [String.utf8EncodeChar, number, if_neg (by omega), if_neg (by omega), if_neg (by omega), lead]
  simp [continuation]

namespace Utf8State

/-! ## The first byte -/

theorem start_two {bits : Nat} (least : 2 ≤ bits) (bound : bits < 32) :
    start (bits + 0xc0) = ([], inside bits 0 0x80 0xbf) := by
  have all : forall bits, bits < 32 -> 2 ≤ bits ->
      start (bits + 0xc0) = ([], inside bits 0 0x80 0xbf) := by decide
  exact all bits bound least

theorem start_three {bits : Nat} (bound : bits < 16) :
    start (bits + 0xe0) =
      ([], inside bits 1 (if bits = 0 then 0xa0 else 0x80) (if bits = 13 then 0x9f else 0xbf)) := by
  have all : forall bits, bits < 16 -> start (bits + 0xe0) =
      ([], inside bits 1 (if bits = 0 then 0xa0 else 0x80)
        (if bits = 13 then 0x9f else 0xbf)) := by decide
  exact all bits bound

theorem start_four {bits : Nat} (bound : bits < 5) :
    start (bits + 0xf0) =
      ([], inside bits 2 (if bits = 0 then 0x90 else 0x80) (if bits = 4 then 0x8f else 0xbf)) := by
  have all : forall bits, bits < 5 -> start (bits + 0xf0) =
      ([], inside bits 2 (if bits = 0 then 0x90 else 0x80)
        (if bits = 4 then 0x8f else 0xbf)) := by decide
  exact all bits bound

/-- A first byte is a character, starts one of two, three or four bytes, or does neither. -/
theorem start_cases (byte : Nat) :
    (byte < 0x80 ∧ start byte = ([Char.ofNat byte], ready)) ∨
      start byte = ([replacement], ready) ∨
      (exists bits, 2 ≤ bits ∧ bits < 32 ∧ byte = bits + 0xc0) ∨
      (exists bits, bits < 16 ∧ byte = bits + 0xe0) ∨
      exists bits, bits < 5 ∧ byte = bits + 0xf0 := by
  by_cases ascii : byte < 0x80
  · exact Or.inl ⟨ascii, by simp [start, ascii]⟩
  · by_cases outside : byte < 0xc2 ∨ 0xf5 ≤ byte
    · refine Or.inr (Or.inl ?_)
      unfold start
      split_ifs <;> first | rfl | omega
    · by_cases two : byte < 0xe0
      · exact Or.inr (Or.inr (Or.inl ⟨byte - 0xc0, by omega, by omega, by omega⟩))
      · by_cases three : byte < 0xf0
        · exact Or.inr (Or.inr (Or.inr (Or.inl ⟨byte - 0xe0, by omega, by omega⟩)))
        · exact Or.inr (Or.inr (Or.inr (Or.inr ⟨byte - 0xf0, by omega, by omega⟩)))

/-! ## What a state tells -/

/-- Whether bytes complete a character in some state. -/
def Completes : Utf8State -> Char -> List UInt8 -> Prop
  | ready, c, tail => tail = String.utf8EncodeChar c
  | inside bits more low high, c, tail =>
      c.toNat / 64 ^ (more + 1) = bits ∧ low ≤ c.toNat / 64 ^ more % 64 + 128 ∧
        c.toNat / 64 ^ more % 64 + 128 ≤ high ∧ tail = continuation (more + 1) c.toNat

/-- Within a character, any number that fits is the number of a character beyond ASCII. -/
def Sound : Utf8State -> Prop
  | ready => True
  | inside bits more low high =>
      0x80 ≤ low ∧ low ≤ high ∧ high ≤ 0xbf ∧
        forall number, number / 64 ^ (more + 1) = bits ->
          low ≤ number / 64 ^ more % 64 + 128 -> number / 64 ^ more % 64 + 128 ≤ high ->
            0x80 ≤ number ∧ number.isValidChar

theorem sound_ready : ready.Sound := trivial

theorem sound_start (byte : Nat) : (start byte).2.Sound := by
  rcases start_cases byte with ⟨_, ascii⟩ | none | ⟨bits, least, bound, rfl⟩ |
    ⟨bits, bound, rfl⟩ | ⟨bits, bound, rfl⟩
  · rw [ascii]
    trivial
  · rw [none]
    trivial
  · rw [start_two least bound]
    refine ⟨by decide, by decide, by decide, ?_⟩
    intro number lead _ _
    simp only [Nat.isValidChar]
    omega
  · rw [start_three bound]
    refine ⟨by split_ifs <;> omega, by split_ifs <;> omega, by split_ifs <;> omega, ?_⟩
    intro number lead low high
    simp only [Nat.isValidChar]
    split_ifs at low high <;> omega
  · rw [start_four bound]
    refine ⟨by split_ifs <;> omega, by split_ifs <;> omega, by split_ifs <;> omega, ?_⟩
    intro number lead low high
    simp only [Nat.isValidChar]
    split_ifs at low high <;> omega

/-- The first byte of a character leads to a state that the others complete. -/
theorem completes_start {c : Char} {byte : UInt8} {tail : List UInt8}
    (encoded : String.utf8EncodeChar c = byte :: tail) :
    tail = [] ∧ start byte.toNat = ([c], ready) ∨
      exists state, state ≠ ready ∧ start byte.toNat = ([], state) ∧ state.Completes c tail := by
  have bound := char_toNat_lt c
  by_cases one : c.toNat < 0x80
  · left
    rw [encodeChar_of_one one] at encoded
    cases encoded
    have code : (UInt8.ofNat c.toNat).toNat = c.toNat := toNat_byte (by omega)
    rw [code, start, if_pos one, Char.ofNat_toNat]
    exact ⟨rfl, rfl⟩
  · right
    by_cases two : c.toNat < 0x800
    · rw [encodeChar_of_two (by omega) two] at encoded
      cases encoded
      have code : (UInt8.ofNat (c.toNat / 64 + 0xc0)).toNat = c.toNat / 64 + 0xc0 :=
        toNat_byte (by omega)
      rw [code, start_two (by omega) (by omega)]
      exact ⟨_, by simp, rfl, by omega, by omega, by omega, rfl⟩
    · by_cases three : c.toNat < 0x10000
      · rw [encodeChar_of_three (by omega) three] at encoded
        cases encoded
        have code : (UInt8.ofNat (c.toNat / 4096 + 0xe0)).toNat = c.toNat / 4096 + 0xe0 :=
          toNat_byte (by omega)
        have valid : c.toNat < 0xd800 ∨ 0xdfff < c.toNat ∧ c.toNat < 0x110000 := c.valid
        rw [code, start_three (by omega)]
        refine ⟨_, by simp, rfl, by omega, ?_, ?_, rfl⟩
        · split_ifs <;> omega
        · split_ifs <;> omega
      · rw [encodeChar_of_four (by omega)] at encoded
        cases encoded
        have code : (UInt8.ofNat (c.toNat / 262144 + 0xf0)).toNat = c.toNat / 262144 + 0xf0 :=
          toNat_byte (by omega)
        rw [code, start_four (by omega)]
        refine ⟨_, by simp, rfl, by omega, ?_, ?_, rfl⟩
        · split_ifs <;> omega
        · split_ifs <;> omega

theorem ofNat_eq {byte : UInt8} {number : Nat} (same : byte.toNat = number) :
    UInt8.ofNat number = byte := by
  rw [← same, UInt8.ofNat_toNat]

theorem completes_of_start {c : Char} {byte : UInt8} {state : Utf8State} {tail : List UInt8}
    (started : start byte.toNat = ([], state)) (completes : state.Completes c tail) :
    String.utf8EncodeChar c = byte :: tail := by
  rcases start_cases byte.toNat with ⟨_, ascii⟩ | none | ⟨bits, least, bound, same⟩ |
    ⟨bits, bound, same⟩ | ⟨bits, bound, same⟩
  · rw [ascii] at started
    cases started
  · rw [none] at started
    cases started
  · rw [same, start_two least bound] at started
    cases started
    rcases completes with ⟨lead, _, _, rfl⟩
    have code : UInt8.ofNat (c.toNat / 64 + 0xc0) = byte := ofNat_eq (by omega)
    rw [encodeChar_of_two (by omega) (by omega), code]
  · rw [same, start_three bound] at started
    cases started
    rcases completes with ⟨lead, low, _, rfl⟩
    have long : 0x800 ≤ c.toNat := by split_ifs at low <;> omega
    have code : UInt8.ofNat (c.toNat / 4096 + 0xe0) = byte := ofNat_eq (by omega)
    rw [encodeChar_of_three long (by omega), code]
  · rw [same, start_four bound] at started
    cases started
    rcases completes with ⟨lead, low, _, rfl⟩
    have long : 0x10000 ≤ c.toNat := by split_ifs at low <;> omega
    have code : UInt8.ofNat (c.toNat / 262144 + 0xf0) = byte := ofNat_eq (by omega)
    rw [encodeChar_of_four long, code]

/-! ## One byte -/

section
variable {bits more low high byte : Nat}

theorem step_last (fits : low ≤ byte ∧ byte ≤ high) :
    (inside bits 0 low high).step byte =
      ([Char.ofNat (bits * 64 + (byte - 0x80))], ready) := by
  simp [step, fits]

theorem step_more (fits : low ≤ byte ∧ byte ≤ high) :
    (inside bits (more + 1) low high).step byte =
      ([], inside (bits * 64 + (byte - 0x80)) more 0x80 0xbf) := by
  simp [step, fits]

theorem step_outside (outside : ¬ (low ≤ byte ∧ byte ≤ high)) :
    (inside bits more low high).step byte =
      (replacement :: (start byte).1, (start byte).2) := by
  cases more <;> simp [step, outside]

end

theorem div_pow_succ (number more : Nat) :
    number / 64 ^ (more + 1) = number / 64 ^ more / 64 := by
  rw [Nat.div_div_eq_div_mul, ← Nat.pow_succ]

theorem sound_step {state : Utf8State} (sound : state.Sound) (byte : Nat) :
    (state.step byte).2.Sound := by
  cases state with
  | ready => exact sound_start byte
  | inside bits more low high =>
      by_cases fits : low ≤ byte ∧ byte ≤ high
      · cases more with
        | zero =>
            rw [step_last fits]
            trivial
        | succ more =>
            rw [step_more fits]
            rcases sound with ⟨least, _, greatest, valid⟩
            refine ⟨by omega, by omega, by omega, ?_⟩
            intro number lead _ _
            have split := div_pow_succ number (more + 1)
            exact valid number (by omega) (by omega) (by omega)
      · rw [step_outside fits]
        exact sound_start byte

/-- What completes a character goes on with a byte that is read without any other character. -/
theorem completes_cons {state : Utf8State} {c : Char} {byte : UInt8} {tail : List UInt8}
    (completes : state.Completes c (byte :: tail)) :
    tail = [] ∧ state.step byte.toNat = ([c], ready) ∨
      exists after, after ≠ ready ∧ state.step byte.toNat = ([], after) ∧
        after.Completes c tail := by
  cases state with
  | ready => exact completes_start completes.symm
  | inside bits more low high =>
      rcases completes with ⟨lead, least, greatest, shape⟩
      rw [continuation] at shape
      cases shape
      rw [toNat_continuation]
      cases more with
      | zero =>
          left
          have whole : bits * 64 + (c.toNat / 64 ^ 0 % 64 + 128 - 0x80) = c.toNat := by omega
          rw [step_last ⟨least, greatest⟩, whole, Char.ofNat_toNat]
          exact ⟨rfl, rfl⟩
      | succ more =>
          right
          have split := div_pow_succ c.toNat (more + 1)
          exact ⟨_, by simp, step_more ⟨least, greatest⟩, by omega, by omega, by omega, rfl⟩

theorem completes_of_step {state after : Utf8State} {c : Char} {byte : UInt8} {tail : List UInt8}
    (sound : state.Sound) (stepped : state.step byte.toNat = ([], after))
    (completes : after.Completes c tail) : state.Completes c (byte :: tail) := by
  cases state with
  | ready => exact (completes_of_start stepped completes).symm
  | inside bits more low high =>
      rcases sound with ⟨least, _, greatest, _⟩
      by_cases fits : low ≤ byte.toNat ∧ byte.toNat ≤ high
      · cases more with
        | zero =>
            rw [step_last fits] at stepped
            cases stepped
        | succ more =>
            rw [step_more fits] at stepped
            cases stepped
            rcases completes with ⟨lead, _, _, rfl⟩
            have split := div_pow_succ c.toNat (more + 1)
            refine ⟨by omega, by omega, by omega, ?_⟩
            have code : UInt8.ofNat (c.toNat / 64 ^ (more + 1) % 64 + 128) = byte :=
              ofNat_eq (by omega)
            rw [← code]
            rfl
      · rw [step_outside fits] at stepped
        cases stepped

/-- A byte in the range goes on with some character. -/
theorem exists_completes {bits more low high : Nat} {byte : UInt8}
    (sound : (inside bits more low high).Sound) (least : low ≤ byte.toNat)
    (greatest : byte.toNat ≤ high) :
    exists c tail, (inside bits more low high).Completes c (byte :: tail) := by
  rcases sound with ⟨_, _, _, valid⟩
  -- The least character that goes on with the byte has zeros behind it.
  let number := (bits * 64 + (byte.toNat - 0x80)) * 64 ^ more
  have pos : 0 < 64 ^ more := Nat.pow_pos (by decide)
  have lead : number / 64 ^ more = bits * 64 + (byte.toNat - 0x80) := Nat.mul_div_cancel _ pos
  have split := div_pow_succ number more
  have fits := (valid number (by omega) (by omega) (by omega)).2
  have code : (Char.ofNat number).toNat = number := char_toNat_ofNat fits
  refine ⟨Char.ofNat number, continuation more number, ?_⟩
  rw [Completes, code]
  refine ⟨by omega, by omega, by omega, ?_⟩
  have first : UInt8.ofNat (number / 64 ^ more % 64 + 128) = byte := ofNat_eq (by omega)
  rw [continuation, first]

/-! ## Many bytes -/

theorem not_completes_nil (state : Utf8State) (c : Char) : ¬ state.Completes c [] := by
  intro completes
  cases state with
  | ready => exact String.utf8EncodeChar_ne_nil completes.symm
  | inside bits more low high => cases completes.2.2.2

/-- Bytes that complete a character are read as this character. -/
theorem decode_of_completes {state : Utf8State} {c : Char} {tail : List UInt8}
    (completes : state.Completes c tail) (rest : List UInt8) :
    state.decode (tail ++ rest) = c :: ready.decode rest := by
  induction tail generalizing state with
  | nil => exact absurd completes (not_completes_nil state c)
  | cons byte tail ih =>
      rw [List.cons_append, decode]
      rcases completes_cons completes with ⟨rfl, last⟩ | ⟨after, _, stepped, later⟩
      · rw [last]
        rfl
      · rw [stepped]
        exact ih later

/-- Bytes that a character starts with, but no longer one does, are read as a replacement. -/
theorem decode_of_stuck {state : Utf8State} (sound : state.Sound) {part rest tail : List UInt8}
    {c : Char} (begun : part ≠ [] ∨ state ≠ ready) (someLeft : tail ≠ [])
    (completes : state.Completes c (part ++ tail))
    (stops : forall byte, rest.head? = some byte ->
      forall c tail, ¬ state.Completes c (part ++ byte :: tail)) :
    state.decode (part ++ rest) = replacement :: ready.decode rest := by
  -- What the state tells of the part is kept from byte to byte: some character goes on with it,
  -- and none goes on with it and the byte after it.
  induction part generalizing state with
  | nil =>
      cases state with
      | ready => simp at begun
      | inside bits more low high =>
          cases rest with
          | nil => rfl
          | cons byte rest =>
              have outside : ¬ (low ≤ byte.toNat ∧ byte.toNat ≤ high) := by
                intro fits
                rcases exists_completes sound fits.1 fits.2 with ⟨c, tail, goesOn⟩
                exact stops byte rfl c tail goesOn
              rw [List.nil_append, decode, step_outside outside]
              rfl
  | cons byte part ih =>
      rcases completes_cons completes with ⟨none, _⟩ | ⟨after, notReady, stepped, later⟩
      · exact absurd (List.append_eq_nil_iff.mp none).2 someLeft
      · have soundAfter := sound_step sound byte.toNat
        rw [stepped] at soundAfter
        rw [List.cons_append, decode, stepped]
        refine ih soundAfter (Or.inr notReady) later ?_
        intro next isNext c tail goesOn
        exact stops next isNext c tail (completes_of_step sound stepped goesOn)

/-! ## ASCII -/

/-- A byte of ASCII is read as its character in every state, after what it cuts short. -/
theorem decode_ascii_cons {state : Utf8State} (sound : state.Sound) {byte : UInt8}
    (ascii : byte.toNat < 0x80) (rest : List UInt8) :
    state.decode (byte :: rest) =
      state.finish ++ Char.ofNat byte.toNat :: ready.decode rest := by
  have started : start byte.toNat = ([Char.ofNat byte.toNat], ready) := by simp [start, ascii]
  rw [decode]
  cases state with
  | ready =>
      rw [step, started]
      rfl
  | inside bits more low high =>
      have outside : ¬ (low ≤ byte.toNat ∧ byte.toNat ≤ high) := by
        have least := sound.1
        omega
      rw [step_outside outside, started]
      rfl

theorem decode_append_ascii {state : Utf8State} (sound : state.Sound) {byte : UInt8}
    (ascii : byte.toNat < 0x80) (front rest : List UInt8) :
    state.decode (front ++ byte :: rest) =
      state.decode front ++ Char.ofNat byte.toNat :: ready.decode rest := by
  induction front generalizing state with
  | nil => exact decode_ascii_cons sound ascii rest
  | cons first front ih =>
      rw [List.cons_append, decode, ih (sound_step sound first.toNat), decode, List.append_assoc]

theorem toNat_of_mem_start {byte : Nat} {c : Char} (ascii : c.toNat < 0x80)
    (member : c ∈ (start byte).1) : byte = c.toNat := by
  rcases start_cases byte with ⟨small, one⟩ | none | ⟨bits, least, bound, rfl⟩ |
    ⟨bits, bound, rfl⟩ | ⟨bits, bound, rfl⟩
  · rw [one, List.mem_singleton] at member
    rw [member, char_toNat_ofNat (Or.inl (Nat.lt_trans small (by decide)))]
  · rw [none, List.mem_singleton] at member
    rw [member] at ascii
    exact absurd ascii (by decide)
  · rw [start_two least bound] at member
    cases member
  · rw [start_three bound] at member
    cases member
  · rw [start_four bound] at member
    cases member

theorem toNat_of_mem_step {state : Utf8State} (sound : state.Sound) {byte : Nat} {c : Char}
    (ascii : c.toNat < 0x80) (member : c ∈ (state.step byte).1) : byte = c.toNat := by
  cases state with
  | ready => exact toNat_of_mem_start ascii member
  | inside bits more low high =>
      by_cases fits : low ≤ byte ∧ byte ≤ high
      · cases more with
        | zero =>
            rcases sound with ⟨_, _, _, valid⟩
            have wide := valid (bits * 64 + (byte - 0x80)) (by omega) (by omega) (by omega)
            rw [step_last fits, List.mem_singleton] at member
            rw [member, char_toNat_ofNat wide.2] at ascii
            omega
        | succ more =>
            rw [step_more fits] at member
            cases member
      · rw [step_outside fits] at member
        rcases List.mem_cons.mp member with rfl | later
        · exact absurd ascii (by decide)
        · exact toNat_of_mem_start ascii later

/-- A character of ASCII is read from its byte alone. -/
theorem mem_of_mem_decode {state : Utf8State} (sound : state.Sound) {bytes : List UInt8}
    {c : Char} (ascii : c.toNat < 0x80) (member : c ∈ state.decode bytes) :
    UInt8.ofNat c.toNat ∈ bytes := by
  induction bytes generalizing state with
  | nil =>
      cases state with
      | ready => cases member
      | inside bits more low high =>
          rw [List.mem_singleton.mp member] at ascii
          exact absurd ascii (by decide)
  | cons byte bytes ih =>
      rw [decode] at member
      rcases List.mem_append.mp member with now | later
      · rw [← toNat_of_mem_step sound ascii now, UInt8.ofNat_toNat]
        exact List.mem_cons_self
      · exact List.mem_cons_of_mem byte (ih (sound_step sound byte.toNat) later)

end Utf8State

/-! ## Maximal parts that are no text -/

/-- Whether the bytes of some character start with given bytes. -/
def CanStart (part : List UInt8) : Prop :=
  exists c, part <+: String.utf8EncodeChar c

/-- A part of bytes is no text when it is no character and none can start with it and the byte
after it.  It is as long as possible when a character can start with it.  A single byte may
be one that no character starts with. -/
structure IsMaximalPart (part rest : List UInt8) : Prop where
  begun : part ≠ [] ∧ CanStart part ∨ exists byte, part = [byte]
  incomplete : forall c, part ≠ String.utf8EncodeChar c
  stops : forall byte, rest.head? = some byte -> ¬ CanStart (part ++ [byte])

/-- How bytes are read as text if every maximal part that is none stands for one replacement
character. -/
inductive ReadsAs : List UInt8 -> List Char -> Prop
  | done : ReadsAs [] []
  | character (c : Char) {rest : List UInt8} {text : List Char} (later : ReadsAs rest text) :
      ReadsAs (String.utf8EncodeChar c ++ rest) (c :: text)
  | replaced {part rest : List UInt8} {text : List Char} (isPart : IsMaximalPart part rest)
      (later : ReadsAs rest text) : ReadsAs (part ++ rest) (replacement :: text)

theorem decode_encodeChar_append (c : Char) (rest : List UInt8) :
    decode (String.utf8EncodeChar c ++ rest) = c :: decode rest :=
  Utf8State.decode_of_completes (show Utf8State.ready.Completes c _ from rfl) rest

theorem canStart_append {part : List UInt8} (byte : UInt8) {c : Char} {tail : List UInt8}
    (completes : Utf8State.ready.Completes c (part ++ byte :: tail)) : CanStart (part ++ [byte]) :=
  ⟨c, tail, by rw [List.append_assoc]; exact completes⟩

theorem canStart_of_start {byte : UInt8} {bits more low high : Nat}
    (started : Utf8State.start byte.toNat = ([], .inside bits more low high)) :
    CanStart [byte] := by
  have sound := Utf8State.sound_start byte.toNat
  rw [started] at sound
  rcases sound.2 with ⟨ordered, bounded, _⟩
  have code : (UInt8.ofNat low).toNat = low := toNat_byte (by omega)
  rcases @Utf8State.exists_completes bits more low high (UInt8.ofNat low) sound (by omega)
    (by omega) with ⟨c, tail, completes⟩
  exact ⟨c, _, (Utf8State.completes_of_start started completes).symm⟩

/-- A byte that no character starts with is read as a replacement. -/
theorem start_of_not_canStart {byte : UInt8} (never : ¬ CanStart [byte]) :
    Utf8State.start byte.toNat = ([replacement], .ready) := by
  rcases Utf8State.start_cases byte.toNat with ⟨small, _⟩ | none | ⟨bits, least, bound, same⟩ |
    ⟨bits, bound, same⟩ | ⟨bits, bound, same⟩
  · have code : (Char.ofNat byte.toNat).toNat = byte.toNat :=
      char_toNat_ofNat (Or.inl (Nat.lt_trans small (by decide)))
    have encoded : String.utf8EncodeChar (Char.ofNat byte.toNat) = [byte] := by
      rw [encodeChar_of_one (code.symm ▸ small), code, UInt8.ofNat_toNat]
    exact absurd ⟨Char.ofNat byte.toNat, [], encoded.symm⟩ never
  · exact none
  · exact absurd (canStart_of_start (by rw [same, Utf8State.start_two least bound])) never
  · exact absurd (canStart_of_start (by rw [same, Utf8State.start_three bound])) never
  · exact absurd (canStart_of_start (by rw [same, Utf8State.start_four bound])) never

theorem decode_of_isMaximalPart {part rest : List UInt8} (isPart : IsMaximalPart part rest) :
    decode (part ++ rest) = replacement :: decode rest := by
  by_cases begun : part ≠ [] ∧ CanStart part
  · rcases begun with ⟨nonempty, c, tail, shape⟩
    have someLeft : tail ≠ [] := by
      rintro rfl
      exact isPart.incomplete c (by rw [← shape, List.append_nil])
    refine Utf8State.decode_of_stuck Utf8State.sound_ready (Or.inl nonempty) someLeft shape ?_
    intro byte isNext c tail goesOn
    exact isPart.stops byte isNext (canStart_append byte goesOn)
  · rcases isPart.begun.resolve_left begun with ⟨byte, rfl⟩
    have never : ¬ CanStart [byte] := fun can => begun ⟨by simp, can⟩
    rw [List.singleton_append, decode, Utf8State.decode, Utf8State.step,
      start_of_not_canStart never]
    rfl

/-- Bytes that start with no character start with a maximal part that is none. -/
theorem exists_isMaximalPart {bytes : List UInt8} (someLeft : bytes ≠ [])
    (none : forall c, ¬ String.utf8EncodeChar c <+: bytes) :
    exists part rest, bytes = part ++ rest ∧ part ≠ [] ∧ IsMaximalPart part rest := by
  classical
  rcases List.exists_cons_of_ne_nil someLeft with ⟨first, others, rfl⟩
  have incomplete (size : Nat) (c : Char) :
      (first :: others).take size ≠ String.utf8EncodeChar c := by
    intro same
    exact none c (same ▸ List.take_prefix size _)
  -- Every prefix of what a character starts with is such a prefix, so the longest one decides.
  by_cases can : CanStart [first]
  · let size := Nat.findGreatest (fun size => CanStart ((first :: others).take size))
      (first :: others).length
    have starts : CanStart ((first :: others).take size) :=
      Nat.findGreatest_spec (P := fun size => CanStart ((first :: others).take size))
        (m := 1) (by simp) can
    have positive : 1 ≤ size := Nat.le_findGreatest (by simp) can
    refine ⟨(first :: others).take size, (first :: others).drop size,
      (List.take_append_drop size _).symm, ?_, ?_, incomplete size, ?_⟩
    · simp
      omega
    · refine Or.inl ⟨?_, starts⟩
      simp
      omega
    · intro byte isNext longer
      rw [List.head?_drop] at isNext
      have inside := (List.getElem?_eq_some_iff.mp isNext).1
      have next : (first :: others).take (size + 1) = (first :: others).take size ++ [byte] := by
        rw [List.take_add_one, isNext]
        rfl
      rw [← next] at longer
      have greatest : size + 1 ≤ size := Nat.le_findGreatest inside longer
      omega
  · refine ⟨[first], others, rfl, by simp, Or.inr ⟨first, rfl⟩, incomplete 1, ?_⟩
    intro byte _ longer
    rcases longer with ⟨c, tail, shape⟩
    exact can ⟨c, [byte] ++ tail, by rw [← shape, List.append_assoc]⟩

/-- Bytes are decoded by replacing every maximal part that is no text. -/
theorem readsAs_iff {bytes : List UInt8} {text : List Char} :
    ReadsAs bytes text <-> text = decode bytes := by
  constructor
  · intro reads
    induction reads with
    | done => rfl
    | character c later ih => rw [decode_encodeChar_append, ih]
    | replaced isPart later ih => rw [decode_of_isMaximalPart isPart, ih]
  · rintro rfl
    induction size : bytes.length using Nat.strongRecOn generalizing bytes with
    | ind size ih =>
        by_cases empty : bytes = []
        · rw [empty]
          exact ReadsAs.done
        · by_cases complete : exists c, String.utf8EncodeChar c <+: bytes
          · rcases complete with ⟨c, rest, rfl⟩
            rw [decode_encodeChar_append]
            have shorter := List.length_pos_iff.mpr (String.utf8EncodeChar_ne_nil (c := c))
            rw [List.length_append] at size
            exact ReadsAs.character c (ih _ (by omega) rfl)
          · rcases exists_isMaximalPart empty (not_exists.mp complete) with
              ⟨part, rest, rfl, nonempty, isPart⟩
            rw [decode_of_isMaximalPart isPart]
            have shorter := List.length_pos_iff.mpr nonempty
            rw [List.length_append] at size
            exact ReadsAs.replaced isPart (ih _ (by omega) rfl)

end Text
end AsCensus
