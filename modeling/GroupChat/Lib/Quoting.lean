import Mathlib.Algebra.GroupWithZero.Nat
import GroupChat.Lib.Bytes

namespace GroupChat

/-! Statements with texts in single quotes, and how they are read: a literal
ends at a quote that is neither doubled nor behind a backslash, and a statement
ends at its first NUL. -/

namespace Quoting

def quote : UInt8 := 0x27

def backslash : UInt8 := 0x5C

inductive Token where
  | plain (byte : UInt8)
  | literal (value : Buffer)
  deriving DecidableEq, Repr

section Reading

variable (unescape : UInt8 → UInt8)

/-- The tokens of a statement from outside of a literal, or from inside of one
with the value read so far.  No statement ends inside a literal. -/
def lex : Option Buffer → Buffer → Option (List Token)
  | none, [] => some []
  | none, c :: rest =>
      if c = quote then
        lex (some []) rest
      else
        (lex none rest).map (.plain c :: ·)
  | some _, [] => none
  | some value, [c] =>
      if c = quote then some [.literal value] else none
  | some value, c :: d :: rest =>
      if c = quote then
        if d = quote then
          lex (some (value ++ [quote])) rest
        else
          (lex none (d :: rest)).map (.literal value :: ·)
      else if c = backslash then
        lex (some (value ++ [unescape d])) rest
      else
        lex (some (value ++ [c])) (d :: rest)

def read (sqlstr : Buffer) : Option (List Token) :=
  lex unescape none sqlstr.cString

end Reading

/-- A part of the statement one means. -/
inductive Piece where
  | plain (text : Buffer)
  | literal (value : Buffer)
  deriving DecidableEq, Repr

namespace Piece

def text : Piece → Buffer
  | .plain text => text
  | .literal value => quote :: value ++ [quote]

def tokens : Piece → List Token
  | .plain text => text.map .plain
  | .literal value => [.literal value]

end Piece

def render (pieces : List Piece) : Buffer :=
  pieces.flatMap Piece.text

def tokens (pieces : List Piece) : List Token :=
  pieces.flatMap Piece.tokens

def Unquoted (text : Buffer) : Prop :=
  quote ∉ text ∧ backslash ∉ text

/-- A text that stands for itself between quotes. -/
def Clean (text : Buffer) : Prop :=
  0 ∉ text ∧ Unquoted text

instance (text : Buffer) : Decidable (Clean text) :=
  inferInstanceAs (Decidable (_ ∧ _ ∧ _))

/-- The parts around the literals open and end no literal themselves. -/
def Sound : List Piece → Prop
  | [] => True
  | .plain text :: pieces => 0 ∉ text ∧ quote ∉ text ∧ Sound pieces
  | .literal _ :: pieces =>
      (render pieces).head? ≠ some quote ∧ Sound pieces

variable {unescape : UInt8 → UInt8}

/-! A literal takes at least as many bytes as its value and two quotes. -/

def Token.size : Token → Nat
  | .plain _ => 1
  | .literal value => value.length + 2

def sizes (tokens : List Token) : Nat :=
  (tokens.map Token.size).sum

/-- What has been read of the literal one is in. -/
def pending : Option Buffer → Nat
  | none => 0
  | some value => value.length + 1

theorem lex_sizes {mode : Option Buffer} {text : Buffer}
    {tokens : List Token} (taken : lex unescape mode text = some tokens) :
    sizes tokens ≤ text.length + pending mode ∧
      (sizes tokens = text.length + pending mode →
        (∀ value, mode = some value → Unquoted value) →
        ∀ value, .literal value ∈ tokens → Unquoted value) := by
  induction mode, text using lex.induct unescape generalizing tokens with
  | case1 =>
      cases taken
      simp [sizes]
  | case2 rest induction =>
      simp only [lex, if_true] at taken
      obtain ⟨bound, clean⟩ := induction taken
      simp only [pending, List.length_nil, List.length_cons] at bound clean ⊢
      refine ⟨by omega, fun same _ => clean (by omega) ?_⟩
      intro value empty
      cases empty
      exact ⟨List.not_mem_nil, List.not_mem_nil⟩
  | case3 c rest plain induction =>
      simp only [lex, plain, if_false] at taken
      obtain ⟨tail, first, rfl⟩ := Option.map_eq_some_iff.mp taken
      obtain ⟨bound, clean⟩ := induction first
      have grown : sizes (.plain c :: tail) = 1 + sizes tail := rfl
      simp only [pending, List.length_cons] at bound clean ⊢
      refine ⟨by omega, ?_⟩
      intro same _ value member
      have inTail : .literal value ∈ tail := by simpa using member
      exact clean (by omega) (fun _ impossible => nomatch impossible) value
        inTail
  | case4 value => cases taken
  | case5 value =>
      simp only [lex, if_true] at taken
      cases taken
      have alone : sizes [.literal value] = value.length + 2 := rfl
      simp only [pending, List.length_cons, List.length_nil]
      refine ⟨by omega, ?_⟩
      intro _ clean other member
      have same : other = value := by simpa using member
      exact same ▸ clean value rfl
  | case6 value c other =>
      simp only [lex, other, if_false] at taken
      cases taken
  | case7 value rest induction =>
      simp only [lex, if_true] at taken
      obtain ⟨bound, _⟩ := induction taken
      simp only [pending, List.length_cons, List.length_append,
        List.length_nil] at bound ⊢
      exact ⟨by omega, fun same => absurd same (by omega)⟩
  | case8 value d rest single induction =>
      rw [lex, if_pos rfl, if_neg single] at taken
      obtain ⟨tail, ended, rfl⟩ := Option.map_eq_some_iff.mp taken
      obtain ⟨bound, clean⟩ := induction ended
      have grown : sizes (.literal value :: tail) =
          value.length + 2 + sizes tail := rfl
      simp only [pending, List.length_cons] at bound clean ⊢
      refine ⟨by omega, ?_⟩
      intro same unquoted other member
      rcases List.mem_cons.mp member with here | inTail
      · cases here
        exact unquoted value rfl
      · exact clean (by omega) (fun _ impossible => nomatch impossible) other
          inTail
  | case9 value d rest different induction =>
      have escaping : backslash ≠ quote := by decide
      simp only [lex, if_true, escaping, if_false] at taken
      obtain ⟨bound, _⟩ := induction taken
      simp only [pending, List.length_cons, List.length_append,
        List.length_nil] at bound ⊢
      exact ⟨by omega, fun same => absurd same (by omega)⟩
  | case10 value c d rest other plain induction =>
      simp only [lex, other, plain, if_false] at taken
      obtain ⟨bound, clean⟩ := induction taken
      simp only [pending, List.length_cons, List.length_append,
        List.length_nil] at bound clean ⊢
      refine ⟨by omega, fun same unquoted => clean (by omega) ?_⟩
      intro longer grown
      cases grown
      obtain ⟨noQuote, noBackslash⟩ := unquoted value rfl
      constructor
      · simp [noQuote, Ne.symm other]
      · simp [noBackslash, Ne.symm plain]

/-! Reading back what was rendered. -/

theorem sizes_append (first second : List Token) :
    sizes (first ++ second) = sizes first + sizes second := by
  simp [sizes]

theorem sizes_plain (text : Buffer) :
    sizes (text.map .plain) = text.length := by
  induction text with
  | nil => rfl
  | cons c text induction =>
      have grown : sizes ((c :: text).map .plain) =
          1 + sizes (text.map .plain) := rfl
      rw [grown, induction, List.length_cons, Nat.add_comm]

theorem sizes_tokens (pieces : List Piece) :
    sizes (tokens pieces) = (render pieces).length := by
  induction pieces with
  | nil => rfl
  | cons piece pieces induction =>
      have grown : tokens (piece :: pieces) =
          piece.tokens ++ tokens pieces := rfl
      have longer : render (piece :: pieces) =
          piece.text ++ render pieces := rfl
      have here : sizes piece.tokens = piece.text.length := by
        cases piece with
        | plain text => exact sizes_plain text
        | literal value =>
            have alone : sizes (Piece.literal value).tokens =
                value.length + 2 := rfl
            simp [alone, Piece.text]
      rw [grown, longer, sizes_append, induction, here, List.length_append]

theorem cString_length (text : Buffer) :
    text.cString.length ≤ text.length ∧
      (text.cString.length = text.length → (0 : UInt8) ∉ text) := by
  have front : text.cString <+: text := List.takeWhile_prefix _
  refine ⟨front.length_le, ?_⟩
  intro same member
  have whole : text.cString = text := front.eq_of_length same
  have all := List.takeWhile_eq_self_iff.mp whole 0 member
  simp at all

theorem literal_mem {value : Buffer} {pieces : List Piece}
    (member : .literal value ∈ pieces) :
    .literal value ∈ tokens pieces ∧ ∀ c ∈ value, c ∈ render pieces := by
  constructor
  · exact List.mem_flatMap.mpr ⟨_, member, List.mem_singleton.mpr rfl⟩
  · intro c inside
    refine List.mem_flatMap.mpr ⟨_, member, ?_⟩
    simp [Piece.text, inside]

theorem lex_plain {text : Buffer} (free : quote ∉ text) (rest : Buffer) :
    lex unescape none (text ++ rest) =
      (lex unescape none rest).map (text.map .plain ++ ·) := by
  induction text with
  | nil => simp
  | cons c text induction =>
      have differs : c ≠ quote := fun same => free (by simp [same])
      have fewer : quote ∉ text := fun member =>
        free (List.mem_cons_of_mem c member)
      rw [List.cons_append, lex, if_neg differs, induction fewer,
        Option.map_map]
      rfl

theorem lex_value {value : Buffer} (unquoted : Unquoted value)
    (start rest : Buffer) (last : rest ≠ []) :
    lex unescape (some start) (value ++ rest) =
      lex unescape (some (start ++ value)) rest := by
  induction value generalizing start with
  | nil => simp
  | cons c value induction =>
      have differs : c ≠ quote := fun same => unquoted.1 (by simp [same])
      have plain : c ≠ backslash := fun same => unquoted.2 (by simp [same])
      have fewer : Unquoted value :=
        ⟨fun member => unquoted.1 (List.mem_cons_of_mem c member),
          fun member => unquoted.2 (List.mem_cons_of_mem c member)⟩
      obtain ⟨d, tail, split⟩ := List.exists_cons_of_ne_nil
        (List.append_ne_nil_of_right_ne_nil value last)
      rw [List.cons_append, split, lex, if_neg differs, if_neg plain, ← split,
        induction fewer, List.append_assoc]
      rfl

theorem lex_close (value : Buffer) {rest : Buffer}
    (apart : rest.head? ≠ some quote) :
    lex unescape (some value) (quote :: rest) =
      (lex unescape none rest).map (.literal value :: ·) := by
  cases rest with
  | nil => rfl
  | cons d rest =>
      have differs : d ≠ quote := fun same => apart (by simp [same])
      have closed : lex unescape (some value) (quote :: d :: rest) =
          if d = quote then lex unescape (some (value ++ [quote])) rest
          else (lex unescape none (d :: rest)).map (.literal value :: ·) :=
        if_pos rfl
      rw [closed, if_neg differs]

theorem lex_render {pieces : List Piece} (sound : Sound pieces)
    (clean : ∀ value, .literal value ∈ pieces → Clean value) :
    lex unescape none (render pieces) = some (tokens pieces) := by
  induction pieces with
  | nil => rfl
  | cons piece pieces induction =>
      have rest : Sound pieces := by
        cases piece with
        | plain text => exact sound.2.2
        | literal value => exact sound.2
      have tail := induction rest fun value member =>
        clean value (List.mem_cons_of_mem piece member)
      have grown : tokens (piece :: pieces) =
          piece.tokens ++ tokens pieces := rfl
      cases piece with
      | plain text =>
          have longer : render (.plain text :: pieces) =
              text ++ render pieces := rfl
          rw [longer, lex_plain sound.2.1, tail, grown]
          rfl
      | literal value =>
          have longer : render (.literal value :: pieces) =
              quote :: (value ++ quote :: render pieces) := by
            simp [render, Piece.text]
          have unquoted := (clean value (List.mem_cons_self ..)).2
          rw [longer, lex, if_pos rfl, lex_value unquoted _ _ (by simp),
            List.nil_append, lex_close value sound.1, tail, grown]
          rfl

theorem cString_render {pieces : List Piece} (sound : Sound pieces)
    (clean : ∀ value, .literal value ∈ pieces → Clean value) :
    (render pieces).cString = render pieces := by
  apply Buffer.cString_of_clean
  intro member
  induction pieces with
  | nil => cases member
  | cons piece pieces induction =>
      have longer : render (piece :: pieces) =
          piece.text ++ render pieces := rfl
      rw [longer] at member
      rcases List.mem_append.mp member with here | later
      · cases piece with
        | plain text => exact sound.1 here
        | literal value =>
            have free := (clean value (List.mem_cons_self ..)).1
            simp [Piece.text, free, quote] at here
      · have rest : Sound pieces := by
          cases piece with
          | plain text => exact sound.2.2
          | literal value => exact sound.2
        exact induction rest (fun value member =>
          clean value (List.mem_cons_of_mem piece member)) later

/-- A statement is read as it was meant exactly if each of its literals stands
for itself. -/
theorem read_render_iff {pieces : List Piece} (sound : Sound pieces) :
    read unescape (render pieces) = some (tokens pieces) ↔
      ∀ value, .literal value ∈ pieces → Clean value := by
  constructor
  · intro taken value member
    obtain ⟨bound, unquoted⟩ := lex_sizes taken
    obtain ⟨short, free⟩ := cString_length (render pieces)
    rw [sizes_tokens] at bound unquoted
    simp only [pending, Nat.add_zero] at bound unquoted
    obtain ⟨asToken, asBytes⟩ := literal_mem member
    have whole : (render pieces).cString.length = (render pieces).length :=
      Nat.le_antisymm short bound
    refine ⟨fun nul => free whole (asBytes 0 nul), ?_⟩
    exact unquoted whole.symm (fun _ impossible => nomatch impossible) value
      asToken
  · intro clean
    rw [read, cString_render sound clean]
    exact lex_render sound clean

end Quoting

/-! Texts in a character set with characters of one and of two bytes. -/

/-- The first 128 bytes are characters of their own; `wide` tells the
characters of two bytes. -/
structure Charset where
  wide : UInt8 → UInt8 → Bool
  high : ∀ lead trail, wide lead trail = true → 0x80 ≤ lead ∧ 0x40 ≤ trail

namespace Charset

open Quoting

def single (byte : UInt8) : Bool :=
  byte < 0x80 && byte ≠ 0 && byte ≠ quote && byte ≠ backslash

/-- A text of whole characters, none of them a NUL, a quote or a backslash.
The second byte of a character may well be that of a backslash. -/
def literal (charset : Charset) : Buffer → Bool
  | [] => true
  | [c] => single c
  | c :: d :: rest =>
      if charset.wide c d then charset.literal rest
      else single c && charset.literal (d :: rest)

/-- A text that stands for itself between quotes. -/
def Literal (charset : Charset) (text : Buffer) : Prop :=
  charset.literal text = true

instance (charset : Charset) (text : Buffer) :
    Decidable (charset.Literal text) :=
  inferInstanceAs (Decidable (_ = true))

theorem single_iff {byte : UInt8} : single byte = true ↔
    byte < 0x80 ∧ byte ≠ 0 ∧ byte ≠ quote ∧ byte ≠ backslash := by
  simp [single, and_assoc]

namespace Literal

variable {charset : Charset}

theorem nil : charset.Literal [] := by
  rw [Literal, literal]

theorem free {text : Buffer} (literal : charset.Literal text) :
    (0 : UInt8) ∉ text ∧ quote ∉ text := by
  unfold Literal at literal
  induction text using Charset.literal.induct charset with
  | case1 => exact ⟨List.not_mem_nil, List.not_mem_nil⟩
  | case2 c =>
      obtain ⟨_, nul, quoted, _⟩ := single_iff.mp literal
      exact ⟨by simpa using nul.symm, by simpa using quoted.symm⟩
  | case3 c d rest wide induction =>
      rw [Charset.literal, if_pos wide] at literal
      obtain ⟨nul, quoted⟩ := induction literal
      obtain ⟨lead, trail⟩ := charset.high c d wide
      have above (byte : UInt8) (high : 0x40 ≤ byte) :
          byte ≠ 0 ∧ byte ≠ quote := by
        constructor
        · rintro rfl
          exact absurd high (by decide)
        · rintro rfl
          exact absurd high (by decide)
      have first := above c (UInt8.le_trans (by decide) lead)
      have second := above d trail
      constructor
      · simp [nul, first.1.symm, second.1.symm]
      · simp [quoted, first.2.symm, second.2.symm]
  | case4 c d rest narrow induction =>
      rw [Charset.literal, if_neg narrow, Bool.and_eq_true] at literal
      obtain ⟨alone, rest'⟩ := literal
      obtain ⟨nul, quoted⟩ := induction rest'
      obtain ⟨_, first, second, _⟩ := single_iff.mp alone
      exact ⟨List.not_mem_cons_of_ne_of_not_mem first.symm nul,
        List.not_mem_cons_of_ne_of_not_mem second.symm quoted⟩

end Literal

/-- The codes of two bytes that gbk has. -/
def gbk : Charset where
  wide := fun lead trail =>
    0x81 ≤ lead && lead ≤ 0xFE && 0x40 ≤ trail && trail ≠ 0x7F &&
      trail ≤ 0xFE
  high := by
    intro lead trail wide
    simp only [Bool.and_eq_true, decide_eq_true_iff] at wide
    obtain ⟨⟨⟨⟨low, _⟩, trail⟩, _⟩, _⟩ := wide
    exact ⟨UInt8.le_trans (by decide) low, trail⟩

example : gbk.Literal [0xD5, 0x5C, 0x61] := by decide

example : ¬ gbk.Literal [0xBF, 0x5C, 0x27] := by decide

end Charset

end GroupChat
