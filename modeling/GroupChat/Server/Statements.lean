import GroupChat.Lib.Quoting
import GroupChat.Server.Connections

namespace GroupChat.Server

/-! The statements that hold a text of a client, against the way the database
server reads them. -/

open Buffer (ofText)
open Decimal Quoting

theorem clean_ofInt (number : Int) : Clean (ofInt number) := by
  refine ⟨?_, ?_, ?_⟩
  · exact notMem_ofInt (by unfold IsDigit; decide) (by decide) number
  · exact notMem_ofInt (by unfold IsDigit; decide) (by decide) number
  · exact notMem_ofInt (by unfold IsDigit; decide) (by decide) number

theorem clean_hexDigit : ∀ digit < 16,
    MD5.hexDigit (UInt8.ofNat digit) ∉ [0, quote, backslash] := by
  decide

theorem clean_hexdigest (text : Buffer) : Clean (MD5.hexdigest text) := by
  have free : ∀ c ∈ MD5.hexdigest text, c ∉ [0, quote, backslash] := by
    intro c member
    obtain ⟨byte, _, digit⟩ := List.mem_flatMap.mp member
    have high : (byte >>> 4).toNat < 16 := by
      have bound := byte.toNat_lt
      have shifted : (byte >>> 4).toNat = byte.toNat / 16 := by
        simp [Nat.shiftRight_eq_div_pow]
      omega
    have low : (byte &&& 0x0f).toNat < 16 := by
      have masked : (byte &&& 0x0f).toNat = byte.toNat % 16 := by
        rw [UInt8.toNat_and]
        exact Nat.and_two_pow_sub_one_eq_mod byte.toNat 4
      omega
    simp only [List.mem_cons, List.not_mem_nil, or_false] at digit
    rcases digit with rfl | rfl
    · have checked := clean_hexDigit _ high
      rwa [UInt8.ofNat_toNat] at checked
    · have checked := clean_hexDigit _ low
      rwa [UInt8.ofNat_toNat] at checked
  refine ⟨fun member => free 0 member (by decide),
    fun member => free quote member (by decide),
    fun member => free backslash member (by decide)⟩

/-- The statements a text of a client is put in, with their other arguments. -/
inductive Statement where
  | loginCount (passwd : Buffer)
  | loginUid (passwd : Buffer)
  | saveMessage (sendid recvid time : Int)
  | insertFileRecord (sendid recvid allsiz : Int)

namespace Statement

/-- The statement as it is built. -/
def sqlstr (text : Buffer) : Statement → Buffer
  | .loginCount passwd => Database.loginCountSql text (MD5.hexdigest passwd)
  | .loginUid passwd => Database.loginUidSql text (MD5.hexdigest passwd)
  | .saveMessage sendid recvid time =>
      Database.saveMessageSql sendid recvid time text
  | .insertFileRecord sendid recvid allsiz =>
      Database.insertFileRecordSql sendid recvid allsiz text

/-- The statement that is meant. -/
def intended (text : Buffer) : Statement → List Piece
  | .loginCount passwd =>
      [.plain (ofText "select count(*) from login where username="),
        .literal text, .plain (ofText " and password="),
        .literal (MD5.hexdigest passwd)]
  | .loginUid passwd =>
      [.plain (ofText "select uid,first from login where username="),
        .literal text, .plain (ofText " and password="),
        .literal (MD5.hexdigest passwd)]
  | .saveMessage sendid recvid time =>
      [.plain (ofText "insert into record(sendid,recvid,time,message) values("),
        .literal (ofInt sendid), .plain (ofText ","),
        .literal (ofInt recvid), .plain (ofText ","),
        .literal (ofInt time), .plain (ofText ","),
        .literal text, .plain (ofText ")")]
  | .insertFileRecord sendid recvid allsiz =>
      [.plain (ofText
          "insert into filetrans(sendid,recvid,allsiz,filename) values("),
        .literal (ofInt sendid), .plain (ofText ","),
        .literal (ofInt recvid), .plain (ofText ","),
        .literal (ofInt allsiz), .plain (ofText ","),
        .literal text, .plain (ofText ")")]

theorem sqlstr_eq (text : Buffer) (statement : Statement) :
    statement.sqlstr text = render (statement.intended text) := by
  have single : ofText "'" = [quote] := by decide
  have between : ofText "','" = quote :: (ofText "," ++ [quote]) := by decide
  have ending : ofText "')" = quote :: ofText ")" := by decide
  have field : ofText " from login where username='" =
      ofText " from login where username=" ++ [quote] := by
    rw [← single]
    exact Buffer.ofText_split (by decide)
  have condition : ofText "' and password='" =
      quote :: (ofText " and password=" ++ [quote]) := by
    rw [← single, ← @Buffer.ofText_split " and password='" _ _ (by decide)]
    exact @Buffer.ofText_split _ "'" " and password='" (by decide)
  have count : ofText "select count(*) from login where username=" =
      ofText "select count(*)" ++ ofText " from login where username=" :=
    Buffer.ofText_split (by decide)
  have uid : ofText "select uid,first from login where username=" =
      ofText "select uid,first" ++ ofText " from login where username=" :=
    Buffer.ofText_split (by decide)
  have record :
      ofText "insert into record(sendid,recvid,time,message) values('" =
      ofText "insert into record(sendid,recvid,time,message) values(" ++
        [quote] := by
    rw [← single]
    exact Buffer.ofText_split (by decide)
  have filetrans :
      ofText "insert into filetrans(sendid,recvid,allsiz,filename) values('" =
      ofText "insert into filetrans(sendid,recvid,allsiz,filename) values(" ++
        [quote] := by
    rw [← single]
    exact Buffer.ofText_split (by decide)
  cases statement with
  | loginCount passwd =>
      simp [sqlstr, intended, render, Piece.text, Database.loginCountSql,
        Database.loginCondition, field, condition, count, single]
  | loginUid passwd =>
      simp [sqlstr, intended, render, Piece.text, Database.loginUidSql,
        Database.loginCondition, field, condition, uid, single]
  | saveMessage sendid recvid time =>
      simp [sqlstr, intended, render, Piece.text, Database.saveMessageSql,
        record, between, ending]
  | insertFileRecord sendid recvid allsiz =>
      simp [sqlstr, intended, render, Piece.text,
        Database.insertFileRecordSql, filetrans, between, ending]

theorem intended_sound (text : Buffer) (statement : Statement) :
    Sound (statement.intended text) := by
  cases statement with
  | loginCount passwd =>
      refine ⟨by decide, by decide, ?_, by decide, by decide, ?_, trivial⟩
      · exact fun same => absurd (Option.some.inj same) (by decide)
      · exact fun impossible => nomatch impossible
  | loginUid passwd =>
      refine ⟨by decide, by decide, ?_, by decide, by decide, ?_, trivial⟩
      · exact fun same => absurd (Option.some.inj same) (by decide)
      · exact fun impossible => nomatch impossible
  | saveMessage sendid recvid time =>
      refine ⟨by decide, by decide, ?_, by decide, by decide, ?_, by decide,
        by decide, ?_, by decide, by decide, ?_, by decide, by decide,
        trivial⟩
      all_goals exact fun same => absurd (Option.some.inj same) (by decide)
  | insertFileRecord sendid recvid allsiz =>
      refine ⟨by decide, by decide, ?_, by decide, by decide, ?_, by decide,
        by decide, ?_, by decide, by decide, ?_, by decide, by decide,
        trivial⟩
      all_goals exact fun same => absurd (Option.some.inj same) (by decide)

/-- All literals but the one with the client's text stand for themselves. -/
theorem literals_clean_iff (text : Buffer) (statement : Statement) :
    (∀ value, .literal value ∈ statement.intended text → Clean value) ↔
      Clean text := by
  cases statement with
  | loginCount passwd => simp [intended, clean_hexdigest]
  | loginUid passwd => simp [intended, clean_hexdigest]
  | saveMessage sendid recvid time => simp [intended, clean_ofInt]
  | insertFileRecord sendid recvid allsiz => simp [intended, clean_ofInt]

end Statement

/-- A statement with a text of a client is read as it was meant, the text being
the value of one literal, exactly if the text holds no NUL, no quote and no
backslash. -/
theorem client_text_quoted_iff (unescape : UInt8 → UInt8)
    (statement : Statement) (text : Buffer) :
    read unescape (statement.sqlstr text) =
        some (tokens (statement.intended text)) ↔ Clean text := by
  rw [Statement.sqlstr_eq,
    read_render_iff (Statement.intended_sound text statement)]
  exact Statement.literals_clean_iff text statement

/-- The user name of a login that needs no password. -/
def bypass : Buffer := ofText "' or 1 or '"

/-- The count is asked for under another condition than the one meant. -/
theorem login_text_escapes :
    Connections.fixedField (bypass.resize 56) 0 28 = bypass ∧
      read id ((Statement.loginCount []).sqlstr bypass) =
        some (tokens [.plain (ofText
            "select count(*) from login where username="), .literal [],
          .plain (ofText " or 1 or "), .literal [],
          .plain (ofText " and password="),
          .literal (MD5.hexdigest [])]) ∧
      read id ((Statement.loginCount []).sqlstr bypass) ≠
        some (tokens ((Statement.loginCount []).intended bypass)) := by
  decide +kernel

end GroupChat.Server
