import GroupChat.Server.Absent
import GroupChat.Server.Answering
import GroupChat.Server.Passwords

namespace GroupChat.Server

variable {ω : Type} {env : Env ω} {users : List Uid} {charset : Charset}

/-! What the replies to the two questions for credentials come to. -/

section Credentials

open Database Decimal

def countAnswer (env : Env ω) (world : ω) (username passwd : Buffer) :
    Reply × ω :=
  mysqlQuery env world (loginCountSql username (MD5.hexdigest passwd))

def uidAnswer (env : Env ω) (world : ω) (username passwd : Buffer) :
    Reply × ω :=
  mysqlQuery env (countAnswer env world username passwd).2
    (loginUidSql username (MD5.hexdigest passwd))

def Row.Tells (row : Row) (uid : Uid) (first : Bool) : Prop :=
  ∃ uidText firstText, row.text 0 = .ok uidText ∧ row.text 1 = .ok firstText ∧
    UInt32.ofInt (atoi uidText) = uid ∧ decide (atoi firstText ≠ 0) = first

variable {world : ω} {username passwd secuPasswd : Buffer}
variable {legal first : Bool} {uid : Uid}

/-- The second question is asked: one row is counted, or the first brought no
row. -/
def AsksUid (env : Env ω) (world : ω) (username passwd : Buffer) : Prop :=
  (countAnswer env world username passwd).1 ≠ .failed ∧
    ∀ row, (countAnswer env world username passwd).1.first = some row →
      row.CountsOne

/-- A row, or a text in it, that the replies do not have is read. -/
inductive Unread (env : Env ω) (world : ω) (username passwd : Buffer) : Prop
  | count {row : Row}
      (counted : (countAnswer env world username passwd).1.first = some row)
      (missing : ∀ count, row.text 0 ≠ .ok count)
  | uid {rows : List Row} (asks : AsksUid env world username passwd)
      (found : (uidAnswer env world username passwd).1 = .rows rows)
      (missing : ∀ row,
        (uidAnswer env world username passwd).1.first = some row →
          ∀ uid first, ¬ row.Tells uid first)

/-- The verdict that the replies come to, whatever the name makes of the
questions. -/
inductive Concluded (env : Env ω) (world : ω) (username passwd : Buffer) :
    Verdict → Prop
  | right {count row : Row} {uid : Uid} {first : Bool}
      (counted : (countAnswer env world username passwd).1.first = some count)
      (one : count.CountsOne)
      (found : (uidAnswer env world username passwd).1.first = some row)
      (tells : row.Tells uid first) :
      Concluded env world username passwd (.right uid first)
  | rowless {count : Row}
      (counted : (countAnswer env world username passwd).1.first = some count)
      (one : count.CountsOne)
      (done : (uidAnswer env world username passwd).1 = .done) :
      Concluded env world username passwd (.right 0 true)
  | wrong {count : Row} {text : Buffer}
      (counted : (countAnswer env world username passwd).1.first = some count)
      (read : count.text 0 = .ok text) (other : atoi text ≠ 1) :
      Concluded env world username passwd .wrong
  | uncounted (answered : (countAnswer env world username passwd).1 ≠ .failed)
      (none : (countAnswer env world username passwd).1.first = none)
      (found : (uidAnswer env world username passwd).1 = .done ∨
        ∃ row uid first,
          (uidAnswer env world username passwd).1.first = some row ∧
            row.Tells uid first) :
      Concluded env world username passwd .wrong

/-- The verdict that `login_check` leaves in its reference arguments. -/
def Database.LoginCheck.Gives (login : LoginCheck ω) : Verdict → Prop
  | .right uid first =>
      login.legal = true ∧ login.uid = uid ∧ login.first = first
  | .wrong => login.legal = false

section Replies

variable {answer : Reply × ω}

theorem loginUid_failed
    (asked : mysqlQuery env world (loginUidSql username secuPasswd) = answer)
    (failed : answer.1 = .failed) :
    loginUid env world username secuPasswd legal first uid =
      .ok ⟨-1, legal, first, uid, answer.2⟩ := by
  simp only [loginUid, asked, failed]

theorem loginUid_done
    (asked : mysqlQuery env world (loginUidSql username secuPasswd) = answer)
    (done : answer.1 = .done) :
    loginUid env world username secuPasswd legal first uid =
      .ok ⟨0, legal, first, uid, answer.2⟩ := by
  simp only [loginUid, asked, done]

theorem loginUid_found {row : Row} {uid' : Uid} {first' : Bool}
    (asked : mysqlQuery env world (loginUidSql username secuPasswd) = answer)
    (found : answer.1.first = some row) (tells : row.Tells uid' first') :
    loginUid env world username secuPasswd legal first uid =
      .ok ⟨0, legal, first', uid', answer.2⟩ := by
  obtain ⟨rows, reply⟩ := Reply.rows_of_first found
  obtain ⟨uidText, firstText, uidRead, firstRead, rfl, rfl⟩ := tells
  simp only [loginUid, asked, reply, List.head?_cons, Exec.demand_some,
    Exec.bind_ok, uidRead, firstRead]

theorem loginUid_reads {rows : List Row} {login : LoginCheck ω}
    (asked : mysqlQuery env world (loginUidSql username secuPasswd) = answer)
    (found : answer.1 = .rows rows)
    (returned : loginUid env world username secuPasswd legal first uid =
      .ok login) :
    ∃ row uid first, answer.1.first = some row ∧ row.Tells uid first := by
  simp only [loginUid, asked, found] at returned
  obtain ⟨row, head, rest⟩ := Exec.of_bind_ok returned
  obtain ⟨uidText, uidRead, rest⟩ := Exec.of_bind_ok rest
  obtain ⟨firstText, firstRead, _⟩ := Exec.of_bind_ok rest
  have head : rows.head? = some row := by
    rwa [Exec.demand_eq_ok] at head
  obtain ⟨others, rfl⟩ := List.head?_eq_some_iff.mp head
  exact ⟨row, _, _, by rw [found]; rfl, uidText, firstText, uidRead, firstRead,
    rfl, rfl⟩

theorem loginCheck_failed
    (failed : (countAnswer env world username passwd).1 = .failed) :
    loginCheck env world username passwd legal first uid =
      .ok ⟨-1, legal, first, uid,
        (countAnswer env world username passwd).2⟩ := by
  unfold countAnswer at failed ⊢
  simp only [loginCheck, failed]

theorem loginCheck_other {row : Row} {count : Buffer}
    (counted : (countAnswer env world username passwd).1.first = some row)
    (read : row.text 0 = .ok count) (other : atoi count ≠ 1) :
    loginCheck env world username passwd legal first uid =
      .ok ⟨0, false, first, uid,
        (countAnswer env world username passwd).2⟩ := by
  obtain ⟨rows, reply⟩ := Reply.rows_of_first counted
  unfold countAnswer at reply ⊢
  simp only [loginCheck, reply, read, Exec.bind_ok, if_neg other]

theorem loginCheck_one {row : Row}
    (counted : (countAnswer env world username passwd).1.first = some row)
    (one : row.CountsOne) :
    loginCheck env world username passwd legal first uid =
      loginUid env (countAnswer env world username passwd).2 username
        (MD5.hexdigest passwd) true first uid := by
  obtain ⟨rows, reply⟩ := Reply.rows_of_first counted
  obtain ⟨count, read, one⟩ := one
  unfold countAnswer at reply ⊢
  simp only [loginCheck, reply, read, Exec.bind_ok, if_pos one]

theorem loginCheck_uncounted
    (answered : (countAnswer env world username passwd).1 ≠ .failed)
    (none : (countAnswer env world username passwd).1.first = none) :
    loginCheck env world username passwd legal first uid =
      loginUid env (countAnswer env world username passwd).2 username
        (MD5.hexdigest passwd) legal first uid := by
  unfold countAnswer at answered none ⊢
  cases asked : mysqlQuery env world (loginCountSql username
    (MD5.hexdigest passwd)) with
  | mk reply after =>
      rw [asked] at answered none
      cases reply with
      | failed => exact absurd rfl answered
      | done => simp only [loginCheck, asked]
      | rows rows =>
          cases rows with
          | nil => simp only [loginCheck, asked]
          | cons row rows => cases none

theorem loginCheck_reads {row : Row} {login : LoginCheck ω}
    (counted : (countAnswer env world username passwd).1.first = some row)
    (returned : loginCheck env world username passwd legal first uid =
      .ok login) :
    ∃ count, row.text 0 = .ok count := by
  obtain ⟨rows, reply⟩ := Reply.rows_of_first counted
  unfold countAnswer at reply
  simp only [loginCheck, reply] at returned
  obtain ⟨count, read, _⟩ := Exec.of_bind_ok returned
  exact ⟨count, read⟩

theorem loginCheck_fetches (asks : AsksUid env world username passwd)
    (legal first : Bool) (uid : Uid) :
    ∃ legal', loginCheck env world username passwd legal first uid =
      loginUid env (countAnswer env world username passwd).2 username
        (MD5.hexdigest passwd) legal' first uid := by
  cases counted : (countAnswer env world username passwd).1.first with
  | none => exact ⟨legal, loginCheck_uncounted asks.1 counted⟩
  | some row => exact ⟨true, loginCheck_one counted (asks.2 row counted)⟩

theorem loginUid_completes
    (known : ∀ rows, (uidAnswer env world username passwd).1 = .rows rows →
      ∃ row uid first,
        (uidAnswer env world username passwd).1.first = some row ∧
          row.Tells uid first) :
    ∃ login, loginUid env (countAnswer env world username passwd).2 username
      (MD5.hexdigest passwd) legal first uid = .ok login := by
  cases reply : (uidAnswer env world username passwd).1 with
  | failed => exact ⟨_, loginUid_failed rfl reply⟩
  | done => exact ⟨_, loginUid_done rfl reply⟩
  | rows rows =>
      obtain ⟨row, uid', first', found, tells⟩ := known rows reply
      exact ⟨_, loginUid_found rfl found tells⟩

/-- `login_check` returns where everything it reads is there. -/
theorem loginCheck_completes_iff :
    (∃ login, loginCheck env world username passwd legal first uid =
      .ok login) ↔ ¬ Unread env world username passwd := by
  constructor
  · intro completes unread
    obtain ⟨login, returned⟩ := completes
    cases unread with
    | count counted missing =>
        obtain ⟨count, read⟩ := loginCheck_reads counted returned
        exact missing count read
    | uid asks found missing =>
        obtain ⟨legal', same⟩ := loginCheck_fetches asks legal first uid
        obtain ⟨row, uid', first', here, tells⟩ :=
          loginUid_reads rfl found (same.symm.trans returned)
        exact missing row here uid' first' tells
  · intro readable
    have later (asks : AsksUid env world username passwd) :
        ∃ login, loginCheck env world username passwd legal first uid =
          .ok login := by
      obtain ⟨legal', same⟩ := loginCheck_fetches asks legal first uid
      rw [same]
      apply loginUid_completes
      intro rows found
      by_contra missing
      refine readable (.uid asks found ?_)
      intro row here uid' first' tells
      exact missing ⟨row, uid', first', here, tells⟩
    cases counted : (countAnswer env world username passwd).1.first with
    | none =>
        by_cases failed : (countAnswer env world username passwd).1 = .failed
        · exact ⟨_, loginCheck_failed failed⟩
        · refine later ⟨failed, ?_⟩
          intro row here
          rw [counted] at here
          cases here
    | some row =>
        cases read : row.text 0 with
        | error fault =>
            refine absurd (.count counted ?_) readable
            intro count here
            cases read.symm.trans here
        | ok count =>
            by_cases one : atoi count = 1
            · apply later
              constructor
              · intro failed
                rw [failed] at counted
                cases counted
              · intro other here
                cases counted.symm.trans here
                exact ⟨count, read, one⟩
            · exact ⟨_, loginCheck_other counted read one⟩

theorem Concluded.gives {verdict : Verdict}
    (concluded : Concluded env world username passwd verdict) :
    ∃ login, loginCheck env world username passwd false true 0 = .ok login ∧
      0 ≤ login.ret ∧ login.Gives verdict := by
  cases concluded with
  | right counted one found tells =>
      exact ⟨_, (loginCheck_one counted one).trans
        (loginUid_found rfl found tells), Int.le_refl 0, rfl, rfl, rfl⟩
  | rowless counted one done =>
      exact ⟨_, (loginCheck_one counted one).trans (loginUid_done rfl done),
        Int.le_refl 0, rfl, rfl, rfl⟩
  | wrong counted read other =>
      exact ⟨_, loginCheck_other counted read other, Int.le_refl 0, rfl⟩
  | uncounted answered none found =>
      rcases found with done | ⟨row, uid, first, found, tells⟩
      · exact ⟨_, (loginCheck_uncounted answered none).trans
          (loginUid_done rfl done), Int.le_refl 0, rfl⟩
      · exact ⟨_, (loginCheck_uncounted answered none).trans
          (loginUid_found rfl found tells), Int.le_refl 0, rfl⟩

/-- The second question answered, the result is what it was before or what the
row tells. -/
theorem loginUid_answered {login : LoginCheck ω}
    (returned : loginUid env (countAnswer env world username passwd).2 username
      (MD5.hexdigest passwd) legal first uid = .ok login)
    (answered : 0 ≤ login.ret) :
    (uidAnswer env world username passwd).1 = .done ∧ login.legal = legal ∧
        login.uid = uid ∧ login.first = first ∨
      ∃ row uid' first',
        (uidAnswer env world username passwd).1.first = some row ∧
          row.Tells uid' first' ∧ login.legal = legal ∧ login.uid = uid' ∧
            login.first = first' := by
  cases reply : (uidAnswer env world username passwd).1 with
  | failed =>
      cases returned.symm.trans (loginUid_failed rfl reply)
      contradiction
  | done =>
      cases returned.symm.trans (loginUid_done rfl reply)
      exact .inl ⟨rfl, rfl, rfl, rfl⟩
  | rows rows =>
      obtain ⟨row, uid', first', found, tells⟩ :=
        loginUid_reads rfl reply returned
      cases returned.symm.trans (loginUid_found rfl found tells)
      exact .inr ⟨row, uid', first', reply ▸ found, tells, rfl, rfl, rfl⟩

/-- Where no question failed, the replies come to a verdict. -/
theorem concluded_of_loginCheck {login : LoginCheck ω}
    (returned : loginCheck env world username passwd false true 0 = .ok login)
    (answered : 0 ≤ login.ret) :
    ∃ verdict, Concluded env world username passwd verdict ∧
      login.Gives verdict := by
  cases counted : (countAnswer env world username passwd).1.first with
  | none =>
      have heard : (countAnswer env world username passwd).1 ≠ .failed := by
        intro failed
        cases returned.symm.trans (loginCheck_failed failed)
        contradiction
      rw [loginCheck_uncounted heard counted] at returned
      rcases loginUid_answered returned answered with
        ⟨done, legal, _⟩ | ⟨row, uid, first, found, tells, legal, _⟩
      · exact ⟨.wrong, .uncounted heard counted (.inl done), legal⟩
      · exact ⟨.wrong, .uncounted heard counted
          (.inr ⟨row, uid, first, found, tells⟩), legal⟩
  | some row =>
      obtain ⟨count, read⟩ := loginCheck_reads counted returned
      cases single : decide (atoi count = 1) with
      | true =>
          have one : row.CountsOne :=
            ⟨count, read, of_decide_eq_true single⟩
          rw [loginCheck_one counted one] at returned
          rcases loginUid_answered returned answered with
            ⟨done, gives⟩ | ⟨found, uid, first, here, tells, gives⟩
          · exact ⟨.right 0 true, .rowless counted one done, gives⟩
          · exact ⟨.right uid first, .right counted one here tells, gives⟩
      | false =>
          have other := of_decide_eq_false single
          cases returned.symm.trans (loginCheck_other counted read other)
          exact ⟨.wrong, .wrong counted read other, rfl⟩

theorem Judged.read {verdict : Verdict} {asked : ω}
    (judged : Judged env world username passwd verdict asked) :
    ¬ Unread env world username passwd := by
  apply loginCheck_completes_iff.mp
  cases verdict with
  | right uid first => exact ⟨_, loginCheck_right judged⟩
  | wrong => exact ⟨_, loginCheck_wrong judged⟩

end Replies

end Credentials

/-! A database server as the program relies on it. -/

/-- A database server as the program relies on it.  Every list is answered; for
a name of the character set of the connection what is read of the replies on
credentials is there, if they come; names and records are there in the rows that
are found; and the rows of a history and the count of them to show stay within
an `int`. -/
structure Working (env : Env ω) (users : List Uid) (charset : Charset) : Prop
    extends Directory env users where
  answers : ∀ world, Listed env world
  judges : ∀ world username passwd, charset.Literal username →
    ¬ Unread env world username passwd
  named : ∀ world uid row rows,
    (Database.mysqlQuery env world (Database.checkUidSql uid)).1 =
      .rows (row :: rows) → ∃ name, row.text 0 = .ok name
  counted : ∀ world uid, ∃ count,
    Database.getRecordCnt env world uid = .ok (count,
      (Database.mysqlQuery env world (Database.recordCntSql uid)).2) ∧
    ∀ world myid srid rows,
      (Database.mysqlQuery env world (Database.serhMessageSql myid srid)).1 =
        .rows rows → count + rows.length ≤ 2147483648
  recorded : ∀ world myid srid rows,
    (Database.mysqlQuery env world (Database.serhMessageSql myid srid)).1 =
      .rows rows → ∀ row ∈ rows, ∀ column ∈ ([1, 3, 4] : List Nat),
        ∃ text, row.text column = .ok text

namespace Working

variable {world : ω}

theorem checkUid_completes (working : Working env users charset)
    (uid : Int) (exist : Bool) (username : Buffer) :
    ∃ checked, Database.checkUid env world uid exist username =
      .ok checked := by
  unfold Database.checkUid
  dsimp only
  cases reply : (Database.mysqlQuery env world
    (Database.checkUidSql uid)).1 with
  | failed => exact ⟨_, rfl⟩
  | done => exact ⟨_, rfl⟩
  | rows rows =>
      cases rows with
      | nil => exact ⟨_, rfl⟩
      | cons row rows =>
          obtain ⟨name, read⟩ := working.named world uid row rows reply
          simp only [read, Exec.bind_ok]
          exact ⟨_, rfl⟩

theorem partyExists_completes (working : Working env users charset)
    (isPrivate : Bool) (uid : Uid) (exist publicExist : Bool) :
    ∃ checked, Connections.partyExists env world isPrivate uid exist
      publicExist = .ok checked := by
  unfold Connections.partyExists
  split
  next => exact working.checkUid_completes (toSigned uid) exist []
  next => exact ⟨_, rfl⟩

theorem updatePasswd_completes_iff (working : Working env users charset)
    (uid : Int) (newpasswd oldpasswd : Buffer) :
    (∃ result, Database.updatePasswd env world uid newpasswd oldpasswd =
      .ok result) ↔
      ¬ Unread env (nameReply env world uid).2
        (nameIn (nameReply env world uid).1) oldpasswd := by
  obtain ⟨checked, named⟩ : ∃ checked,
      Database.checkUid env world uid (env.stray world) [] = .ok checked :=
    working.checkUid_completes uid (env.stray world) []
  obtain ⟨asked, name, _⟩ := checkUid_ok named
  rw [← asked, ← name]
  constructor
  · intro completes
    obtain ⟨⟨ret, after⟩, returned⟩ := completes
    obtain ⟨found, login, named', judged, _⟩ := updatePasswd_ok returned
    cases named.symm.trans named'
    exact loginCheck_completes_iff.mp ⟨login, judged⟩
  · intro readable
    obtain ⟨login, judged⟩ : ∃ login, Database.loginCheck env checked.world
        checked.username oldpasswd checked.exist (env.stray world) 0 =
          .ok login :=
      loginCheck_completes_iff.mpr readable
    unfold Database.updatePasswd
    simp only [named, Exec.bind_ok, judged]
    split
    next =>
      split
      next => exact ⟨_, rfl⟩
      next => exact ⟨_, rfl⟩
    next => exact ⟨_, rfl⟩

theorem serhLoop_completes {count rownum tcnt : Int} {rows : List Row}
    {records : Buffer} (small : tcnt + count + rows.length ≤ 2147483648)
    (recorded : ∀ row ∈ rows, ∀ column ∈ ([1, 3, 4] : List Nat),
      ∃ text, row.text column = .ok text) :
    ∃ bytes, Database.serhLoop count rownum rows tcnt records = .ok bytes := by
  induction rows generalizing tcnt records with
  | nil => exact ⟨_, rfl⟩
  | cons row rows induction =>
      rw [List.length_cons] at small
      have later (records : Buffer) :
          ∃ bytes, Database.serhLoop count rownum rows (tcnt + 1) records =
            .ok bytes := by
        apply induction
        · omega
        · intro other member
          exact recorded other (List.mem_cons_of_mem row member)
      have texts := recorded row List.mem_cons_self
      obtain ⟨sendid, sender⟩ := texts 1 (by simp)
      obtain ⟨time, at'⟩ := texts 3 (by simp)
      obtain ⟨message, text⟩ := texts 4 (by simp)
      rw [Database.serhLoop, if_neg (by omega)]
      split
      next => exact later records
      next =>
        simp only [text, sender, at', Exec.bind_ok]
        exact later _

theorem serhMessage_completes (working : Working env users charset)
    (myid srid : Int) :
    ∃ found, Database.serhMessage env world myid srid = .ok found := by
  obtain ⟨count, counts, small⟩ := working.counted world myid
  unfold Database.serhMessage
  simp only [counts, Exec.bind_ok]
  split
  next => exact ⟨_, rfl⟩
  next => exact ⟨_, rfl⟩
  next rows reply =>
    have within := small _ myid srid rows reply
    obtain ⟨bytes, stored⟩ := @serhLoop_completes count rows.length 0 rows []
      (by omega) (working.recorded _ myid srid rows reply)
    simp only [stored, Exec.bind_ok]
    exact ⟨_, rfl⟩

end Working

namespace Tables

open Buffer (ofText)
open Database Decimal

/-- The environment of a server whose accounts stay as they are and whose
messages are nowhere kept. -/
def quietEnv (accounts : List Account) : Env Unit where
  query := fun _ sqlstr => (answer ⟨accounts, []⟩ sqlstr, ())
  time := fun _ => 0
  stray := fun _ => false

def fitting (accounts : List Account) (username passwd : Buffer) :
    List Account :=
  accounts.filter fun account =>
    (loginCondition username (MD5.hexdigest passwd)).cString =
      loginCondition account.username account.password

variable {accounts : List Account}

theorem condition_of_begins {begins condition condition' : Buffer}
    (clean : (0 : UInt8) ∉ begins) :
    decide ((begins ++ condition).cString = begins ++ condition') =
      decide (condition.cString = condition') := by
  have whole : (begins ++ condition).cString = begins ++ condition.cString :=
    List.takeWhile_append_of_pos fun byte member =>
      decide_eq_true fun zero => clean (zero ▸ member)
  rw [whole, decide_eq_decide]
  exact List.append_right_inj begins

theorem quiet_counts (username passwd : Buffer) :
    mysqlQuery (quietEnv accounts) ()
        (loginCountSql username (MD5.hexdigest passwd)) =
      (.rows [[some (ofNat (fitting accounts username passwd).length)]],
        ()) := by
  have reply := answer_loginCount ⟨accounts, []⟩ username
    (MD5.hexdigest passwd)
  refine Prod.ext (reply.trans ?_) rfl
  have same := funext fun account : Account =>
    @condition_of_begins (ofText "select count(*)")
      (loginCondition username (MD5.hexdigest passwd))
      (loginCondition account.username account.password) (by decide)
  rw [fitting, ← List.countP_eq_length_filter]
  exact congrArg (fun fits => Reply.rows [[some (ofNat
    (accounts.countP fits))]]) same

theorem quiet_finds (username passwd : Buffer) :
    mysqlQuery (quietEnv accounts) ()
        (loginUidSql username (MD5.hexdigest passwd)) =
      (.rows ((fitting accounts username passwd).map fun account =>
        [some (ofNat account.uid.toNat),
          some (ofNat account.first.toNat)]), ()) := by
  have reply := answer_loginUid ⟨accounts, []⟩ username
    (MD5.hexdigest passwd)
  refine Prod.ext (reply.trans ?_) rfl
  have same := funext fun account : Account =>
    @condition_of_begins (ofText "select uid,first")
      (loginCondition username (MD5.hexdigest passwd))
      (loginCondition account.username account.password) (by decide)
  exact congrArg (fun fits => Reply.rows ((accounts.filter fits).map
    fun account => [some (ofNat account.uid.toNat),
      some (ofNat account.first.toNat)])) same

theorem quiet_judges (few : accounts.length < 2147483648)
    (username passwd : Buffer) :
    Judged (quietEnv accounts) () username passwd .wrong () ∨
      ∃ account ∈ accounts, Judged (quietEnv accounts) () username passwd
        (.right account.uid account.first) () := by
  have counts := @quiet_counts accounts username passwd
  have finds := @quiet_finds accounts username passwd
  cases fits : fitting accounts username passwd with
  | nil =>
      rw [fits] at counts
      exact .inl (.wrong counts (by decide))
  | cons account others =>
      cases others with
      | nil =>
          rw [fits] at counts finds
          have member : account ∈ accounts :=
            List.mem_of_mem_filter (fits ▸ List.mem_cons_self :
              account ∈ fitting accounts username passwd)
          have one : atoi (ofNat 1).cString = 1 := by decide
          have judged := Judged.right counts one finds
          have flag : decide (atoi (ofNat account.first.toNat).cString ≠ 0) =
              account.first := by
            cases account.first with
            | true => decide
            | false => decide
          rw [flag, cString_ofNat, ofInt_atoi_ofNat] at judged
          exact .inr ⟨account, member, judged⟩
      | cons other others =>
          have within := List.length_filter_le (fun account =>
            decide ((loginCondition username (MD5.hexdigest passwd)).cString =
              loginCondition account.username account.password)) accounts
          have many : (fitting accounts username passwd).length =
              others.length + 2 := by
            rw [fits]
            rfl
          have number : atoi (ofNat (fitting accounts username
              passwd).length).cString =
                (fitting accounts username passwd).length := by
            rw [cString_ofNat]
            exact @atoi_ofInt (fitting accounts username passwd).length
              (by omega) (by rw [fitting]; omega)
          refine .inl (.wrong counts ?_)
          rw [number]
          omega

theorem quiet_history (world : Unit) (myid srid : Int) :
    (mysqlQuery (quietEnv accounts) world (serhMessageSql myid srid)).1 =
      .rows [] := by
  unfold serhMessageSql
  split
  next => rfl
  next => rfl

theorem quiet_working (distinct : (accounts.map Account.uid).Nodup)
    (few : accounts.length < 2147483648) :
    Working (quietEnv accounts) (accounts.map Account.uid) charset where
  distinct := distinct
  listed := by
    intro world rows reply
    have answered : (mysqlQuery (quietEnv accounts) world allUidSql).1 = _ :=
      answer_allUid ⟨accounts, []⟩
    rw [answered] at reply
    cases reply
    exact uidsOf_accounts accounts
  granted := by
    rintro uid ⟨world, username, passwd, checked, login, legal, _, rfl⟩
    rcases quiet_judges few username passwd with wrong | right
    · rw [loginCheck_wrong wrong] at login
      cases login
      cases legal
    · obtain ⟨account, member, judged⟩ := right
      rw [loginCheck_right judged] at login
      cases login
      exact List.mem_map_of_mem member
  colored := by
    intro world uid row rows reply
    have answered : (mysqlQuery (quietEnv accounts) world
        (loginColorSql uid)).1 = _ := answer_loginColor ⟨accounts, []⟩ uid
    rw [answered] at reply
    cases reply
    exact ⟨_, rfl⟩
  answers := fun _ => ⟨_, answer_allUid ⟨accounts, []⟩⟩
  judges := by
    intro world username passwd _
    rcases quiet_judges few username passwd with wrong | right
    · exact wrong.read
    · obtain ⟨account, _, judged⟩ := right
      exact judged.read
  named := by
    intro world uid row rows reply
    have answered : (mysqlQuery (quietEnv accounts) world
        (checkUidSql uid)).1 = .rows ((accounts.filter fun account =>
          (checkUidSql uid).cString =
            checkUidSql (toSigned account.uid)).map
              fun account => [some account.username]) := rfl
    rw [answered] at reply
    have first := List.mem_of_mem_head? (List.head?_eq_some_iff.mpr
      ⟨rows, Reply.rows.inj reply⟩)
    obtain ⟨account, _, rfl⟩ := List.mem_map.mp first
    exact ⟨_, rfl⟩
  counted := by
    intro world uid
    refine ⟨100, rfl, ?_⟩
    intro world myid srid rows reply
    rw [quiet_history world myid srid] at reply
    cases reply
    decide
  recorded := by
    intro world myid srid rows reply row member
    rw [quiet_history world myid srid] at reply
    cases reply
    cases member

end Tables

end GroupChat.Server
