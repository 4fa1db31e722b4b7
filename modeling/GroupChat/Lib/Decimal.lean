import GroupChat.Lib.Bytes

namespace GroupChat

/-! Decimal texts, as the C library writes and reads them. -/

namespace Decimal

def ofNat (number : Nat) : Buffer :=
  (Nat.toDigits 10 number).map fun digit => digit.toNat.toUInt8

def ofInt : Int → Buffer
  | .ofNat number => ofNat number
  | .negSucc number => 45 :: ofNat (number + 1)

def isSpace (byte : UInt8) : Bool :=
  byte = 32 || (9 ≤ byte && byte ≤ 13)

/-- The number the digits at the front stand for, after those already read. -/
def digits : Buffer → Nat → Nat
  | [], value => value
  | byte :: rest, value =>
      if 48 ≤ byte ∧ byte ≤ 57 then
        digits rest (value * 10 + (byte.toNat - 48))
      else value

/-- A number out of the range of a 64-bit integer becomes its nearest end. -/
def clamp (number : Int) : Int :=
  max (-9223372036854775808) (min 9223372036854775807 number)

def strtol (text : Buffer) : Int :=
  match text.dropWhile isSpace with
  | 45 :: rest => clamp (-(digits rest 0 : Int))
  | 43 :: rest => clamp (digits rest 0)
  | rest => clamp (digits rest 0)

def atoll (text : Buffer) : Int := strtol text

def atoi (text : Buffer) : Int := Int.bmod (strtol text) 4294967296

/-! What is written is read back. -/

def IsDigit (byte : UInt8) : Prop := 48 ≤ byte ∧ byte ≤ 57

theorem digitChar_toUInt8 : ∀ digit < 10,
    (Nat.digitChar digit).toNat.toUInt8 = UInt8.ofNat (48 + digit) := by
  decide

theorem isDigit_ofNat : ∀ digit < 10, 48 ≤ UInt8.ofNat (48 + digit) ∧
    UInt8.ofNat (48 + digit) ≤ 57 ∧
    (UInt8.ofNat (48 + digit)).toNat = 48 + digit := by
  decide

theorem ofNat_eq (number : Nat) :
    ofNat number = (if number < 10 then [] else ofNat (number / 10)) ++
      [UInt8.ofNat (48 + number % 10)] := by
  unfold ofNat
  rw [Nat.toDigits_eq_if (by decide)]
  split
  · rename_i small
    simp [digitChar_toUInt8 number small, Nat.mod_eq_of_lt small]
  · simp [digitChar_toUInt8 (number % 10) (Nat.mod_lt _ (by decide))]

theorem isDigit_of_mem (number : Nat) :
    ∀ byte ∈ ofNat number, IsDigit byte := by
  induction number using Nat.strongRecOn with
  | ind number induction =>
      intro byte member
      obtain ⟨low, high, _⟩ := isDigit_ofNat (number % 10)
        (Nat.mod_lt _ (by decide))
      rw [ofNat_eq] at member
      rcases List.mem_append.mp member with front | last
      · split at front
        · cases front
        · exact induction (number / 10) (by omega) byte front
      · rw [List.mem_singleton.mp last]
        exact ⟨low, high⟩

theorem notMem_ofInt {byte : UInt8} (other : ¬ IsDigit byte)
    (sign : byte ≠ 45) (number : Int) : byte ∉ ofInt number := by
  cases number with
  | ofNat natural => exact fun member => other (isDigit_of_mem natural _ member)
  | negSucc natural =>
      apply List.not_mem_cons_of_ne_of_not_mem sign
      exact fun member => other (isDigit_of_mem (natural + 1) _ member)

theorem digits_append {front : Buffer}
    (all : ∀ byte ∈ front, IsDigit byte) (rest : Buffer) (value : Nat) :
    digits (front ++ rest) value = digits rest (digits front value) := by
  induction front generalizing value with
  | nil => rfl
  | cons byte front induction =>
      have here : 48 ≤ byte ∧ byte ≤ 57 := all byte List.mem_cons_self
      simp only [List.cons_append, digits, here, and_self, if_true]
      exact induction (fun other member =>
        all other (List.mem_cons_of_mem _ member)) _

theorem digits_ofNat (number : Nat) : digits (ofNat number) 0 = number := by
  induction number using Nat.strongRecOn with
  | ind number induction =>
      obtain ⟨low, high, value⟩ := isDigit_ofNat (number % 10)
        (Nat.mod_lt _ (by decide))
      have last (front : Nat) :
          digits [UInt8.ofNat (48 + number % 10)] front =
            front * 10 + number % 10 := by
        simp only [digits, low, high, and_self, if_true, value]
        omega
      rw [ofNat_eq]
      split
      · rw [List.nil_append, last]
        omega
      · rw [digits_append (isDigit_of_mem _), induction _ (by omega), last]
        omega

theorem ofNat_cons (number : Nat) :
    ∃ byte rest, ofNat number = byte :: rest ∧ IsDigit byte := by
  cases text : ofNat number with
  | nil =>
      rw [ofNat_eq] at text
      simp at text
  | cons byte rest =>
      exact ⟨byte, rest, rfl, isDigit_of_mem number byte (text ▸
        List.mem_cons_self)⟩

theorem IsDigit.notSpace {byte : UInt8} (digit : IsDigit byte) :
    isSpace byte = false := by
  obtain ⟨low, high⟩ := digit
  simp only [UInt8.le_iff_toNat_le] at low high
  have notBlank : byte ≠ 32 := by
    intro same
    rw [same] at low
    contradiction
  have above : ¬ byte ≤ 13 := by
    rw [UInt8.le_iff_toNat_le]
    intro below
    have := Nat.le_trans low below
    contradiction
  simp [isSpace, notBlank, above]

theorem strtol_ofNat {number : Nat} (small : number ≤ 9223372036854775807) :
    strtol (ofNat number) = number := by
  obtain ⟨byte, rest, text, digit⟩ := ofNat_cons number
  have notMinus : byte ≠ 45 := by
    rintro rfl
    exact absurd digit.1 (by decide)
  have notPlus : byte ≠ 43 := by
    rintro rfl
    exact absurd digit.1 (by decide)
  have front : (ofNat number).dropWhile isSpace = ofNat number := by
    rw [text, List.dropWhile_cons_of_neg (by simp [digit.notSpace])]
  unfold strtol
  rw [front]
  split
  · rename_i same
    rw [text] at same
    exact absurd (List.cons.inj same).1 notMinus
  · rename_i same
    rw [text] at same
    exact absurd (List.cons.inj same).1 notPlus
  · rw [digits_ofNat, clamp]
    omega

theorem strtol_ofInt {number : Int} (low : -9223372036854775808 ≤ number)
    (high : number ≤ 9223372036854775807) :
    strtol (ofInt number) = number := by
  cases number with
  | ofNat number => exact strtol_ofNat (Int.ofNat_le.mp high)
  | negSucc number =>
      have front : (ofInt (.negSucc number)).dropWhile isSpace =
          45 :: ofNat (number + 1) := rfl
      unfold strtol
      rw [front]
      simp only [digits_ofNat, clamp]
      omega

theorem atoi_ofInt {number : Int} (low : -2147483648 ≤ number)
    (high : number < 2147483648) : atoi (ofInt number) = number := by
  rw [atoi, strtol_ofInt (by omega) (by omega)]
  exact Int.bmod_eq_of_le (by omega) (by omega)

theorem ofInt_atoi_ofNat (word : UInt32) :
    UInt32.ofInt (atoi (ofNat word.toNat)) = word := by
  have bound := word.toNat_lt
  rw [atoi, strtol_ofNat (by omega)]
  apply UInt32.toNat.inj
  rw [UInt32.ofInt, UInt32.toNat_ofNat',
    show (4294967296 : Nat) = 2 ^ 32 from rfl]
  have same := Int.bmod_emod (x := (word.toNat : Int)) (m := 2 ^ 32)
  omega

theorem atoi_ofNat_eq_one_iff {number : Nat} (small : number ≤ 4294967296) :
    atoi (ofNat number) = 1 ↔ number = 1 := by
  rw [atoi, strtol_ofNat (by omega), Int.bmod_def]
  omega

theorem cString_ofNat (number : Nat) :
    (ofNat number).cString = ofNat number := by
  apply Buffer.cString_of_clean
  intro member
  exact absurd (isDigit_of_mem number 0 member).1 (by decide)

end Decimal

end GroupChat
