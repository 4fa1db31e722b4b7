import GroupChat.Server.Statements
import GroupChat.Server.Storage

namespace GroupChat.Server

/-! A change of password, and what it makes of the login table. -/

variable {ω : Type} {env : Env ω}

open Database Decimal
open Buffer (ofText)
open Quoting (render)

namespace Account

/-- A row with a new hash, which ends the first login. -/
def withPassword (account : Account) (secuPasswd : Buffer) : Account :=
  { account with password := secuPasswd, first := false }

/-- The account is the one of a name and a hash, texts being compared as the
database server does. -/
def fits (same : Buffer → Buffer → Bool) (username secuPasswd : Buffer)
    (account : Account) : Bool :=
  same account.password secuPasswd && same account.username username

end Account

/-! The statements that are meant to ask for a user's name and to write a hash
into a user's row. -/

def naming (uid : Uid) : Buffer :=
  ofText "select username from login where uid='" ++ ofInt (toSigned uid) ++
    ofText "'"

def writing (uid : Uid) (secuPasswd : Buffer) : Buffer :=
  ofText "update login set password='" ++ secuPasswd ++
    ofText "',first=0 where uid='" ++ ofInt (toSigned uid) ++ ofText "'"

theorem writing_eq (uid : Uid) (secuPasswd : Buffer) :
    writing uid secuPasswd = updatePasswdSql (toSigned uid) secuPasswd := rfl

/-- A database server with a login table.  A select leaves the table as it is;
the update of a password, if it succeeds, writes the hash into the rows of the
user. -/
structure LoginTable (env : Env ω) where
  rows : ω → List Account
  kept : ∀ world sqlstr, ofText "select " <+: sqlstr →
    rows (mysqlQuery env world sqlstr).2 = rows world
  updated : ∀ world uid passwd,
    rows (mysqlQuery env world (writing uid (MD5.hexdigest passwd))).2 =
      if (mysqlQuery env world (writing uid (MD5.hexdigest passwd))).1 =
        .failed then rows world
      else (rows world).map fun account =>
        if account.uid = uid then account.withPassword (MD5.hexdigest passwd)
        else account

/-- How the database server compares names and hashes, and that it counts the
rows that fit if it answers the question for them, where the name is a text of
the character set of the connection. -/
structure Comparison (table : LoginTable env) (charset : Charset) where
  same : Buffer → Buffer → Bool
  counted : ∀ world username passwd rows, charset.Literal username →
    (mysqlQuery env world (render (Statement.intended username
      (.loginCount passwd)))).1 = .rows rows →
    rows = [[some (ofNat ((table.rows world).countP
      (Account.fits same username (MD5.hexdigest passwd))))]]

/-- Every text compares as equal to itself, and the question for the name of a
user, if it is answered, gives the user's row. -/
structure LoginAnswers (table : LoginTable env) (charset : Charset)
    extends Comparison table charset where
  reflexive : ∀ text, same text text = true
  named : ∀ world uid rows,
    (mysqlQuery env world (naming uid)).1 = .rows rows →
    rows = ((table.rows world).filter fun account => account.uid = uid).map
      fun account => [some account.username]

namespace LoginTable

variable (table : LoginTable env)

def hashOf (world : ω) (uid : Uid) : Option Buffer :=
  ((table.rows world).find? fun account => account.uid = uid).map
    Account.password

def others (world : ω) (uid : Uid) : List Account :=
  (table.rows world).filter fun account => account.uid ≠ uid

/-- The hash of the user's row changed only for the old password and another
new one, 0 was returned exactly if it changed, and no other row changed. -/
structure ChangedProperly (world after : ω) (uid : Uid)
    (newpasswd oldpasswd : Buffer) (ret : Int) : Prop where
  guarded : table.hashOf after uid ≠ table.hashOf world uid →
    table.hashOf world uid = some (MD5.hexdigest oldpasswd) ∧
      newpasswd ≠ oldpasswd
  reported : ret = 0 ↔ table.hashOf after uid ≠ table.hashOf world uid
  others : table.others after uid = table.others world uid

end LoginTable

/-- The first row of a reply. -/
def Reply.first : Reply → Option Row
  | .rows (row :: _) => some row
  | .rows [] | .done | .failed => none

theorem Reply.rows_of_first {reply : Reply} {row : Row}
    (first : reply.first = some row) : ∃ rows, reply = .rows (row :: rows) := by
  cases reply with
  | failed | done => cases first
  | rows rows =>
      cases rows with
      | nil => cases first
      | cons other rows =>
          cases first
          exact ⟨rows, rfl⟩

/-! The queries of a change of password up to its update, as they come one after
the other. -/

def nameReply (env : Env ω) (world : ω) (uid : Int) : Reply × ω :=
  mysqlQuery env world (checkUidSql uid)

/-- The name that a reply gives. -/
def nameIn (reply : Reply) : Buffer :=
  match reply.first with
  | some (some text :: _) => text.cString
  | _ => []

def countReply (env : Env ω) (world : ω) (uid : Int) (oldpasswd : Buffer) :
    Reply × ω :=
  mysqlQuery env (nameReply env world uid).2 (loginCountSql
    (nameIn (nameReply env world uid).1) (MD5.hexdigest oldpasswd))

/-- Where the update is sent. -/
def changing (env : Env ω) (world : ω) (uid : Int) (oldpasswd : Buffer) : ω :=
  if (countReply env world uid oldpasswd).1 = .failed then
    (countReply env world uid oldpasswd).2
  else
    (mysqlQuery env (countReply env world uid oldpasswd).2 (loginUidSql
      (nameIn (nameReply env world uid).1) (MD5.hexdigest oldpasswd))).2

/-- What is left in `legal` where nothing is counted: whether the user was
found or, where that query failed, what it held uninitialised. -/
def legalLeft (env : Env ω) (world : ω) (uid : Int) : Bool :=
  match (nameReply env world uid).1 with
  | .failed => env.stray world
  | reply => reply.first.isSome

def Row.CountsOne (row : Row) : Prop :=
  ∃ count, row.text 0 = .ok count ∧ atoi count = 1

/-- The database lets a password pass, by its replies: it counts one row for the
name that was found, or it counts nothing and `legal` is left true. -/
def Passes (env : Env ω) (world : ω) (uid : Int) (oldpasswd : Buffer) : Prop :=
  match (countReply env world uid oldpasswd).1.first with
  | some row => row.CountsOne
  | none => legalLeft env world uid = true

theorem checkUid_ok {world : ω} {uid : Int} {exist : Bool}
    {found : CheckUid ω}
    (named : checkUid env world uid exist [] = .ok found) :
    found.world = (nameReply env world uid).2 ∧
      found.username = nameIn (nameReply env world uid).1 ∧
      found.exist = match (nameReply env world uid).1 with
        | .failed => exist
        | reply => reply.first.isSome := by
  unfold checkUid at named
  unfold nameReply nameIn
  cases answered : mysqlQuery env world (checkUidSql uid) with
  | mk reply asked =>
      rw [answered] at named
      cases reply with
      | failed =>
          cases named
          exact ⟨rfl, rfl, rfl⟩
      | done =>
          cases named
          exact ⟨rfl, rfl, rfl⟩
      | rows rows =>
          cases rows with
          | nil =>
              cases named
              exact ⟨rfl, rfl, rfl⟩
          | cons row rows =>
              obtain ⟨name, read, rest⟩ := Exec.of_bind_ok named
              cases rest
              refine ⟨rfl, ?_, rfl⟩
              cases row with
              | nil => cases read
              | cons column row =>
                  cases column with
                  | none => cases read
                  | some text => exact (Except.ok.inj read).symm

theorem loginUid_ok {world : ω} {username secuPasswd : Buffer}
    {legal first : Bool} {uid : Uid} {login : LoginCheck ω}
    (found : loginUid env world username secuPasswd legal first uid =
      .ok login) :
    login.legal = legal ∧
      login.world = (mysqlQuery env world (loginUidSql username
        secuPasswd)).2 := by
  unfold loginUid at found
  dsimp only at found
  split at found
  · cases found
    exact ⟨rfl, rfl⟩
  · cases found
    exact ⟨rfl, rfl⟩
  · obtain ⟨_, _, rest⟩ := Exec.of_bind_ok found
    obtain ⟨_, _, rest⟩ := Exec.of_bind_ok rest
    obtain ⟨_, _, rest⟩ := Exec.of_bind_ok rest
    cases rest
    exact ⟨rfl, rfl⟩

/-- What the two checks before a change leave in `legal`, and where the update
is sent then. -/
theorem passes_iff {world : ω} {uid : Int} {oldpasswd : Buffer}
    {first : Bool} {found : CheckUid ω} {login : LoginCheck ω}
    (named : checkUid env world uid (env.stray world) [] = .ok found)
    (checked : loginCheck env found.world found.username oldpasswd found.exist
      first 0 = .ok login) :
    (Passes env world uid oldpasswd ↔ login.legal = true) ∧
      (login.legal = true →
        login.world = changing env world uid oldpasswd) := by
  obtain ⟨asked, name, exist⟩ := checkUid_ok named
  unfold loginCheck at checked
  dsimp only at checked
  rw [asked, name] at checked
  have left : legalLeft env world uid = found.exist := exist.symm
  unfold Passes changing
  unfold countReply
  cases answered : mysqlQuery env (nameReply env world uid).2 (loginCountSql
      (nameIn (nameReply env world uid).1) (MD5.hexdigest oldpasswd)) with
  | mk reply after =>
      rw [answered] at checked
      dsimp only at checked ⊢
      cases reply with
      | failed =>
          cases checked
          exact ⟨by rw [Reply.first, left], fun _ => (if_pos rfl).symm⟩
      | done =>
          obtain ⟨legal, ended⟩ := loginUid_ok checked
          rw [legal, ended, if_neg Reply.noConfusion]
          exact ⟨by rw [Reply.first, left], fun _ => rfl⟩
      | rows rows =>
          rw [if_neg Reply.noConfusion]
          cases rows with
          | nil =>
              obtain ⟨legal, ended⟩ := loginUid_ok checked
              rw [legal, ended]
              exact ⟨by rw [Reply.first, left], fun _ => rfl⟩
          | cons row rows =>
              obtain ⟨count, read, rest⟩ := Exec.of_bind_ok checked
              rw [Reply.first]
              split at rest
              next one =>
                obtain ⟨legal, ended⟩ := loginUid_ok rest
                rw [legal, ended]
                exact ⟨iff_of_true ⟨count, read, one⟩ rfl, fun _ => rfl⟩
              next other =>
                cases rest
                constructor
                · constructor
                  · rintro ⟨count', read', one⟩
                    cases read.symm.trans read'
                    exact absurd one other
                  · intro impossible
                    cases impossible
                · intro impossible
                  cases impossible

theorem updatePasswd_ok {world after : ω} {uid ret : Int}
    {newpasswd oldpasswd : Buffer}
    (returned : updatePasswd env world uid newpasswd oldpasswd =
      .ok (ret, after)) :
    ∃ found login,
      checkUid env world uid (env.stray world) [] = .ok found ∧
      loginCheck env found.world found.username oldpasswd found.exist
        (env.stray world) 0 = .ok login ∧
      if login.legal = true ∧ newpasswd ≠ oldpasswd then
        after = (mysqlQuery env login.world
          (updatePasswdSql uid (MD5.hexdigest newpasswd))).2 ∧
        ret = if (mysqlQuery env login.world
          (updatePasswdSql uid (MD5.hexdigest newpasswd))).1 = .failed then -1
          else 0
      else after = login.world ∧ ret = 1 := by
  obtain ⟨found, named, rest⟩ := Exec.of_bind_ok returned
  obtain ⟨login, checked, rest⟩ := Exec.of_bind_ok rest
  refine ⟨found, login, named, checked, ?_⟩
  split at rest
  · rename_i goes
    rw [if_pos goes]
    cases answered : mysqlQuery env login.world (updatePasswdSql uid
      (MD5.hexdigest newpasswd)) with
    | mk reply asked =>
        rw [answered] at rest
        cases reply <;> cases rest <;> simp
  · rename_i stays
    rw [if_neg stays]
    cases rest
    exact ⟨rfl, rfl⟩

namespace LoginTable

variable {table : LoginTable env} {world after : ω} {uid : Uid}

theorem rows_checkUid (table : LoginTable env) {number : Int} {exist : Bool}
    {username : Buffer} {found : CheckUid ω}
    (named : checkUid env world number exist username = .ok found) :
    table.rows found.world = table.rows world := by
  have select := table.kept world (checkUidSql number) ⟨_, rfl⟩
  unfold checkUid at named
  dsimp only at named
  split at named
  · cases named
    exact select
  · obtain ⟨_, _, rest⟩ := Exec.of_bind_ok named
    cases rest
    exact select
  · cases named
    exact select

theorem rows_loginUid (table : LoginTable env) {username secuPasswd : Buffer}
    {legal first : Bool} {login : LoginCheck ω}
    (found : loginUid env world username secuPasswd legal first uid =
      .ok login) : table.rows login.world = table.rows world := by
  rw [(loginUid_ok found).2]
  exact table.kept world (loginUidSql username secuPasswd) ⟨_, rfl⟩

theorem rows_loginCheck (table : LoginTable env) {username passwd : Buffer}
    {legal first : Bool} {login : LoginCheck ω}
    (checked : loginCheck env world username passwd legal first uid =
      .ok login) : table.rows login.world = table.rows world := by
  have select := table.kept world
    (loginCountSql username (MD5.hexdigest passwd)) ⟨_, rfl⟩
  unfold loginCheck at checked
  dsimp only at checked
  split at checked
  · cases checked
    exact select
  · obtain ⟨_, _, rest⟩ := Exec.of_bind_ok checked
    split at rest
    · exact (table.rows_loginUid rest).trans select
    · cases rest
      exact select
  · exact (table.rows_loginUid checked).trans select

theorem ChangedProperly.of_same {newpasswd oldpasswd : Buffer} {ret : Int}
    (same : table.rows after = table.rows world) (other : ret ≠ 0) :
    table.ChangedProperly world after uid newpasswd oldpasswd ret where
  guarded := fun changed => absurd (by simp only [hashOf, same]) changed
  reported := by simp [hashOf, same, other]
  others := by simp only [LoginTable.others, same]

/-- The rows once a hash was written into those of a user. -/
def written (rows : List Account) (uid : Uid) (secuPasswd : Buffer) :
    List Account :=
  rows.map fun account =>
    if account.uid = uid then account.withPassword secuPasswd else account

theorem find_written (rows : List Account) (uid : Uid)
    (secuPasswd : Buffer) :
    ((written rows uid secuPasswd).find? fun account =>
        account.uid = uid).map Account.password =
      (rows.find? fun account => account.uid = uid).map
        fun _ => secuPasswd := by
  induction rows with
  | nil => rfl
  | cons account rows induction =>
      rw [written, List.map_cons, List.find?_cons, List.find?_cons]
      cases own : decide (account.uid = uid) with
      | true =>
          have same := of_decide_eq_true own
          simp [same, Account.withPassword]
      | false =>
          have other := of_decide_eq_false own
          simp only [other, if_false, decide_false]
          exact induction

theorem others_written (rows : List Account) (uid : Uid)
    (secuPasswd : Buffer) :
    (written rows uid secuPasswd).filter (fun account => account.uid ≠ uid) =
      rows.filter fun account => account.uid ≠ uid := by
  induction rows with
  | nil => rfl
  | cons account rows induction =>
      rw [written, List.map_cons, List.filter_cons, List.filter_cons]
      cases own : decide (account.uid = uid) with
      | true =>
          have same := of_decide_eq_true own
          simpa [same, Account.withPassword, written] using induction
      | false =>
          have other := of_decide_eq_false own
          simpa [other, written] using induction

/-- A hash that was written is a proper change where it takes the place of
another one, that of the old password. -/
theorem changedProperly_written {newpasswd oldpasswd : Buffer}
    (different : newpasswd ≠ oldpasswd)
    (wrote : table.rows after =
      written (table.rows world) uid (MD5.hexdigest newpasswd)) :
    table.ChangedProperly world after uid newpasswd oldpasswd 0 ↔
      table.hashOf world uid = some (MD5.hexdigest oldpasswd) ∧
        MD5.hexdigest newpasswd ≠ MD5.hexdigest oldpasswd := by
  have hash : table.hashOf after uid =
      (table.hashOf world uid).map fun _ => MD5.hexdigest newpasswd := by
    rw [hashOf, wrote, find_written, hashOf, Option.map_map]
    rfl
  constructor
  · rintro ⟨guarded, reported, _⟩
    have changed := reported.mp rfl
    obtain ⟨old, _⟩ := guarded changed
    refine ⟨old, ?_⟩
    intro same
    rw [hash, old, Option.map_some, same] at changed
    exact changed rfl
  · rintro ⟨old, fresh⟩
    have changed : table.hashOf after uid ≠ table.hashOf world uid := by
      rw [hash, old, Option.map_some]
      exact fun same => fresh (Option.some.inj same)
    refine ⟨fun _ => ⟨old, different⟩, by simp [changed], ?_⟩
    rw [LoginTable.others, wrote, others_written]
    rfl

end LoginTable

namespace LoginTable

variable {table : LoginTable env} {charset : Charset} {world after : ω}
  {uid : Uid}

/-- The old password is the user's own, and the new one has another hash. -/
def Due (table : LoginTable env) (world : ω) (uid : Uid)
    (newpasswd oldpasswd : Buffer) : Prop :=
  table.hashOf world uid = some (MD5.hexdigest oldpasswd) ∧
    MD5.hexdigest newpasswd ≠ MD5.hexdigest oldpasswd

/-- A change goes on to its update only where it is due.  If the rows of the
user's name are counted, the user's own one fits and there is a rival or the
change is due, or it does not and there is not exactly one rival; else it
depends on what is counted for an empty or an escaping name, or on what the
failed queries leave in `legal`. -/
structure Guarded (answers : LoginAnswers table charset) (world : ω)
    (uid : Uid) (newpasswd oldpasswd : Buffer) : Prop where
  counted : ∀ own ∈ table.rows world, own.uid = uid →
    charset.Literal own.username →
    (nameReply env world (toSigned uid)).1.first.isSome = true →
    (countReply env world (toSigned uid) oldpasswd).1.first.isSome = true →
    let rivals := (table.others world uid).countP (Account.fits answers.same
      own.username (MD5.hexdigest oldpasswd))
    if own.fits answers.same own.username (MD5.hexdigest oldpasswd) then
      rivals = 0 → table.Due world uid newpasswd oldpasswd
    else rivals ≠ 1
  escaped : ∀ own ∈ table.rows world, own.uid = uid →
    ¬ charset.Literal own.username →
    (nameReply env world (toSigned uid)).1.first.isSome = true →
    ∀ row, (countReply env world (toSigned uid) oldpasswd).1.first = some row →
      row.CountsOne → table.Due world uid newpasswd oldpasswd
  unnamed : (nameReply env world (toSigned uid)).1.first = none →
    (countReply env world (toSigned uid) oldpasswd).1.first.isSome = true →
    (table.rows world).countP (Account.fits answers.same []
      (MD5.hexdigest oldpasswd)) = 1 →
    table.Due world uid newpasswd oldpasswd
  uncounted : (countReply env world (toSigned uid) oldpasswd).1.first = none →
    legalLeft env world (toSigned uid) = true →
    table.Due world uid newpasswd oldpasswd

theorem length_le_of_keyed {rows : List Account}
    (keyed : (rows.map Account.uid).Nodup) : rows.length ≤ 4294967296 := by
  have distinct : (rows.map fun account => account.uid.toNat).Nodup := by
    have injective := keyed.map (f := UInt32.toNat)
      fun first second same => UInt32.toNat.inj same
    rwa [List.map_map] at injective
  have within : (rows.map fun account => account.uid.toNat) ⊆
      List.range 4294967296 := by
    intro number member
    obtain ⟨account, _, rfl⟩ := List.mem_map.mp member
    exact List.mem_range.mpr account.uid.toNat_lt
  have bound := distinct.length_le_of_subset within
  rwa [List.length_map, List.length_range] at bound

theorem filter_own {rows : List Account} {own : Account}
    (keyed : (rows.map Account.uid).Nodup) (member : own ∈ rows) :
    (rows.filter fun account => account.uid = own.uid) = [own] := by
  induction rows with
  | nil => cases member
  | cons account rows induction =>
      rw [List.map_cons, List.nodup_cons] at keyed
      rcases List.mem_cons.mp member with rfl | later
      · have others : (rows.filter fun account =>
            account.uid = own.uid) = [] := by
          apply List.filter_eq_nil_iff.mpr
          intro other there
          have differs : other.uid ≠ own.uid := fun same =>
            keyed.1 (same ▸ List.mem_map_of_mem there)
          simpa using differs
        rw [List.filter_cons_of_pos (by simp), others]
      · have differs : account.uid ≠ own.uid := fun same =>
          keyed.1 (same ▸ List.mem_map_of_mem later)
        rw [List.filter_cons_of_neg (by simpa using differs),
          induction keyed.2 later]

theorem countP_own {own : Account} (keyed : ((table.rows world).map
      Account.uid).Nodup) (member : own ∈ table.rows world)
    (fits : Account → Bool) :
    (table.rows world).countP fits =
      (if fits own then 1 else 0) +
        (table.others world own.uid).countP fits := by
  have split := (table.rows world).countP_eq_countP_filter_add fits
    fun account => decide (account.uid = own.uid)
  have rest : ((table.rows world).filter fun account =>
      !decide (account.uid = own.uid)) = table.others world own.uid := by
    unfold others
    congr
    funext account
    exact decide_not.symm
  rw [filter_own keyed member, List.countP_singleton] at split
  rw [split, ← rest]

theorem own_of_named (answers : LoginAnswers table charset)
    (found : (nameReply env world (toSigned uid)).1.first.isSome = true) :
    ∃ own ∈ table.rows world, own.uid = uid ∧
      nameIn (nameReply env world (toSigned uid)).1 = own.username.cString := by
  obtain ⟨row, first⟩ := Option.isSome_iff_exists.mp found
  obtain ⟨rows, reply⟩ := Reply.rows_of_first first
  have listed := answers.named world uid _ reply
  have head : row ∈ ((table.rows world).filter fun account =>
      account.uid = uid).map fun account => [some account.username] :=
    listed ▸ List.mem_cons_self
  obtain ⟨own, member, rfl⟩ := List.mem_map.mp head
  obtain ⟨there, same⟩ := List.mem_filter.mp member
  refine ⟨own, there, of_decide_eq_true same, ?_⟩
  rw [nameIn, first]

theorem countsOne_iff (answers : LoginAnswers table charset)
    (keyed : ((table.rows world).map Account.uid).Nodup)
    {username oldpasswd : Buffer} {row : Row}
    (literal : charset.Literal username)
    (name : nameIn (nameReply env world (toSigned uid)).1 = username)
    (first : (countReply env world (toSigned uid) oldpasswd).1.first =
      some row) :
    row.CountsOne ↔ (table.rows world).countP (Account.fits answers.same
      username (MD5.hexdigest oldpasswd)) = 1 := by
  obtain ⟨rows, reply⟩ := Reply.rows_of_first first
  have asked : loginCountSql username (MD5.hexdigest oldpasswd) = _ :=
    Statement.sqlstr_eq username (.loginCount oldpasswd)
  rw [countReply, name, asked] at reply
  have same : table.rows (nameReply env world (toSigned uid)).2 =
      table.rows world :=
    table.kept world (checkUidSql (toSigned uid)) ⟨_, rfl⟩
  have counted := answers.counted _ username oldpasswd _ literal reply
  rw [same] at counted
  cases counted
  have few : (table.rows world).countP (Account.fits answers.same username
      (MD5.hexdigest oldpasswd)) ≤ 4294967296 :=
    List.countP_le_length.trans (length_le_of_keyed keyed)
  have text : Row.text [some (ofNat ((table.rows world).countP (Account.fits
      answers.same username (MD5.hexdigest oldpasswd))))] 0 = .ok (ofNat _) :=
    congrArg Except.ok (cString_ofNat _)
  rw [← atoi_ofNat_eq_one_iff few]
  constructor
  · rintro ⟨count, read, one⟩
    cases text.symm.trans read
    exact one
  · intro one
    exact ⟨_, text, one⟩

theorem fits_of_hash (answers : LoginAnswers table charset) {own : Account}
    (keyed : ((table.rows world).map Account.uid).Nodup)
    (member : own ∈ table.rows world) {secuPasswd : Buffer}
    (hash : table.hashOf world own.uid = some secuPasswd) :
    own.fits answers.same own.username secuPasswd = true := by
  have head : (table.rows world).find? (fun account =>
      decide (account.uid = own.uid)) = some own := by
    rw [← List.head?_filter, filter_own keyed member]
    rfl
  rw [hashOf, head, Option.map_some, Option.some.injEq] at hash
  rw [Account.fits, hash, answers.reflexive, answers.reflexive]
  rfl

/-- Where the rows of the user's name are counted, one is the user's own, or it
is one of the rivals. -/
theorem rivals_iff (answers : LoginAnswers table charset) {own : Account}
    (keyed : ((table.rows world).map Account.uid).Nodup)
    (member : own ∈ table.rows world) {newpasswd oldpasswd : Buffer} :
    (if own.fits answers.same own.username (MD5.hexdigest oldpasswd) then
      (table.others world own.uid).countP (Account.fits answers.same
        own.username (MD5.hexdigest oldpasswd)) = 0 →
          table.Due world own.uid newpasswd oldpasswd
      else (table.others world own.uid).countP (Account.fits answers.same
        own.username (MD5.hexdigest oldpasswd)) ≠ 1) ↔
      ((table.rows world).countP (Account.fits answers.same own.username
        (MD5.hexdigest oldpasswd)) = 1 →
          table.Due world own.uid newpasswd oldpasswd) := by
  rw [countP_own keyed member]
  split
  next fits =>
    rw [Nat.add_eq_left]
  next other =>
    rw [Nat.zero_add]
    constructor
    · intro none one
      exact absurd one none
    · intro due one
      exact other (fits_of_hash answers keyed member (due one).1)

theorem guarded_iff (answers : LoginAnswers table charset)
    (keyed : ((table.rows world).map Account.uid).Nodup)
    {newpasswd oldpasswd : Buffer} :
    Guarded answers world uid newpasswd oldpasswd ↔
      (Passes env world (toSigned uid) oldpasswd →
        table.Due world uid newpasswd oldpasswd) := by
  unfold Passes
  have empty (found : (nameReply env world (toSigned uid)).1.first = none) :
      nameIn (nameReply env world (toSigned uid)).1 = [] := by
    rw [nameIn, found]
  constructor
  · intro guarded
    cases counted : (countReply env world (toSigned uid) oldpasswd).1.first with
    | none => exact guarded.uncounted counted
    | some row =>
        dsimp only
        have some' := Option.isSome_iff_exists.mpr ⟨row, counted⟩
        cases found : (nameReply env world (toSigned uid)).1.first with
        | none =>
            rw [countsOne_iff answers keyed .nil (empty found) counted]
            exact guarded.unnamed found some'
        | some name =>
            have found := Option.isSome_iff_exists.mpr ⟨name, found⟩
            obtain ⟨own, member, rfl, name⟩ := own_of_named answers found
            by_cases literal : charset.Literal own.username
            · rw [Buffer.cString_of_clean literal.free.1] at name
              rw [countsOne_iff answers keyed literal name counted]
              exact (rivals_iff answers keyed member).mp
                (guarded.counted own member rfl literal found some')
            · exact guarded.escaped own member rfl literal found row counted
  · intro due
    refine ⟨?_, ?_, ?_, ?_⟩
    · intro own member same literal found counted
      obtain ⟨row, counted⟩ := Option.isSome_iff_exists.mp counted
      obtain ⟨own', member', rfl, name⟩ := own_of_named answers found
      cases List.inj_on_of_nodup_map keyed member member' same
      rw [Buffer.cString_of_clean literal.free.1] at name
      rw [counted] at due
      apply (rivals_iff answers keyed member).mpr
      rw [← countsOne_iff answers keyed literal name counted]
      exact due
    · intro own member same other found row counted
      rw [counted] at due
      exact due
    · intro found counted one
      obtain ⟨row, counted⟩ := Option.isSome_iff_exists.mp counted
      rw [counted] at due
      exact due
        ((countsOne_iff answers keyed .nil (empty found) counted).mpr one)
    · intro counted left
      rw [counted] at due
      exact due left

/-- A change is a proper one exactly if it is due where it goes on to an update
that succeeds. -/
theorem changedProperly_iff {newpasswd oldpasswd : Buffer} {ret : Int}
    (returned : updatePasswd env world (toSigned uid) newpasswd oldpasswd =
      .ok (ret, after)) :
    table.ChangedProperly world after uid newpasswd oldpasswd ret ↔
      (newpasswd ≠ oldpasswd →
        (mysqlQuery env (changing env world (toSigned uid) oldpasswd)
          (updatePasswdSql (toSigned uid) (MD5.hexdigest newpasswd))).1 ≠
            .failed →
        Passes env world (toSigned uid) oldpasswd →
        table.Due world uid newpasswd oldpasswd) := by
  obtain ⟨found, login, named, checked, ended⟩ := updatePasswd_ok returned
  obtain ⟨passes, asked⟩ := passes_iff named checked
  have same : table.rows login.world = table.rows world :=
    (table.rows_loginCheck checked).trans (table.rows_checkUid named)
  have updated : table.rows (mysqlQuery env login.world (updatePasswdSql
      (toSigned uid) (MD5.hexdigest newpasswd))).2 = _ :=
    table.updated login.world uid newpasswd
  rw [passes]
  split at ended
  next goes =>
    obtain ⟨legal, different⟩ := goes
    obtain ⟨rfl, rfl⟩ := ended
    rw [← asked legal]
    cases failed : decide ((mysqlQuery env login.world (updatePasswdSql
      (toSigned uid) (MD5.hexdigest newpasswd))).1 = .failed) with
    | true =>
        have failed := of_decide_eq_true failed
        rw [if_pos failed]
        refine iff_of_true (.of_same ?_ (by decide))
          fun _ answered => absurd failed answered
        exact (updated.trans (if_pos failed)).trans same
    | false =>
        have answered := of_decide_eq_false failed
        have wrote := updated.trans (if_neg answered)
        rw [same] at wrote
        rw [if_neg answered, changedProperly_written different wrote]
        exact ⟨fun due _ _ _ => due, fun due => due different answered legal⟩
  next stays =>
    obtain ⟨rfl, rfl⟩ := ended
    exact iff_of_true (.of_same same (by decide))
      fun different _ legal => absurd ⟨legal, different⟩ stays

end LoginTable

/-- A password is changed as it should be exactly if, where the new one differs
and the update succeeds, the table and the failing queries let no other password
pass than the user's own one, and the new one has another hash. -/
theorem passwd_changed_iff (env : Env ω) (table : LoginTable env)
    (charset : Charset) (answers : LoginAnswers table charset) (world : ω)
    (keyed : ((table.rows world).map Account.uid).Nodup)
    (uid : Uid) (newpasswd oldpasswd : Buffer) (ret : Int) (after : ω)
    (returned : updatePasswd env world (toSigned uid) newpasswd oldpasswd =
      .ok (ret, after)) :
    table.ChangedProperly world after uid newpasswd oldpasswd ret ↔
      (newpasswd ≠ oldpasswd →
        (mysqlQuery env (changing env world (toSigned uid) oldpasswd)
          (updatePasswdSql (toSigned uid) (MD5.hexdigest newpasswd))).1 ≠
            .failed →
        LoginTable.Guarded answers world uid newpasswd oldpasswd) := by
  rw [LoginTable.changedProperly_iff returned,
    LoginTable.guarded_iff answers keyed]

namespace Tables

open Quoting (quote)

def hashIn (sqlstr : Buffer) : Buffer :=
  unquoted (behind sqlstr 0)

def updates (accounts : List Account) (sqlstr : Buffer) : List Account :=
  if (ofText "update login").isPrefixOf sqlstr then
    accounts.map fun account =>
      if sqlstr = updatePasswdSql (toSigned account.uid) (hashIn sqlstr) then
        account.withPassword (hashIn sqlstr)
      else account
  else accounts

def loginEnv : Env (List Account) where
  query := fun accounts sqlstr =>
    (answer ⟨accounts, []⟩ sqlstr, updates accounts sqlstr)
  time := fun _ => 0
  stray := fun _ => false

theorem updatePasswdSql_clean (uid : Int) (passwd : Buffer) :
    (updatePasswdSql uid (MD5.hexdigest passwd)).cString =
      updatePasswdSql uid (MD5.hexdigest passwd) := by
  apply Buffer.cString_of_clean
  intro member
  have number := (clean_ofInt uid).1
  have hash := (clean_hexdigest passwd).1
  have texts : (0 : UInt8) ∉ ofText "update login set password='" ∧
      (0 : UInt8) ∉ ofText "',first=0 where uid='" ∧
      (0 : UInt8) ∉ ofText "'" := by
    decide
  simp [updatePasswdSql, texts, number, hash] at member

theorem hashIn_updatePasswdSql (uid : Int) (passwd : Buffer) :
    hashIn (updatePasswdSql uid (MD5.hexdigest passwd)) =
      MD5.hexdigest passwd := by
  have hash : (0x27 : UInt8) ∉ MD5.hexdigest passwd :=
    (clean_hexdigest passwd).2.1
  have front : hashIn (updatePasswdSql uid (MD5.hexdigest passwd)) =
      unquoted (MD5.hexdigest passwd ++ 0x27 :: (ofText ",first=0 where uid='" ++
        ofInt uid ++ ofText "'")) := by
    simp only [updatePasswdSql, List.append_assoc]
    rfl
  rw [front, unquoted, List.takeWhile_append_of_pos,
    List.takeWhile_cons_of_neg (by simp), List.append_nil]
  intro byte member
  exact decide_eq_true fun single => hash (single ▸ member)

theorem updatePasswdSql_injective {first second : Uid} {secuPasswd : Buffer}
    (same : updatePasswdSql (toSigned first) secuPasswd =
      updatePasswdSql (toSigned second) secuPasswd) : first = second := by
  unfold updatePasswdSql at same
  exact toSigned_injective (ofInt_injective (toSigned_inInt first)
    (toSigned_inInt second)
    (List.append_cancel_left (List.append_cancel_right same)))

def loginTable : LoginTable loginEnv where
  rows := id
  kept := by
    rintro accounts _ ⟨rest, rfl⟩
    rfl
  updated := by
    intro accounts uid passwd
    have clean := updatePasswdSql_clean (toSigned uid) passwd
    have hash := hashIn_updatePasswdSql (toSigned uid) passwd
    have done : (mysqlQuery loginEnv accounts (updatePasswdSql (toSigned uid)
        (MD5.hexdigest passwd))).1 = .done := rfl
    have update : (mysqlQuery loginEnv accounts (updatePasswdSql (toSigned uid)
        (MD5.hexdigest passwd))).2 = updates accounts (updatePasswdSql
          (toSigned uid) (MD5.hexdigest passwd)) := by
      rw [mysqlQuery, clean]
      rfl
    have here : (ofText "update login").isPrefixOf (updatePasswdSql
        (toSigned uid) (MD5.hexdigest passwd)) = true := rfl
    rw [writing_eq, done, if_neg (by decide), update, id_eq, id_eq, updates,
      if_pos here, hash]
    apply List.map_congr_left
    intro account _
    have own : updatePasswdSql (toSigned uid) (MD5.hexdigest passwd) =
        updatePasswdSql (toSigned account.uid) (MD5.hexdigest passwd) ↔
          account.uid = uid :=
      ⟨fun same => (updatePasswdSql_injective same).symm, fun same => by
        rw [same]⟩
    simp only [own]

theorem loginCondition_injective {username secuPasswd : Buffer}
    {username' secuPasswd' : Buffer} (plain : quote ∉ username)
    (free : quote ∉ secuPasswd)
    (same : loginCondition username secuPasswd =
      loginCondition username' secuPasswd') :
    username = username' ∧ secuPasswd = secuPasswd' := by
  have counted := congrArg (List.count quote) same
  simp only [loginCondition, List.count_append, List.count_eq_zero.mpr plain,
    List.count_eq_zero.mpr free] at counted
  have plain' : quote ∉ username' := List.count_eq_zero.mp (by omega)
  have behind (username secuPasswd : Buffer) :
      loginCondition username secuPasswd =
        ofText " from login where username='" ++ (username ++ quote ::
          (ofText " and password='" ++ (secuPasswd ++ ofText "'"))) := by
    simp only [loginCondition, List.append_assoc]
    rfl
  rw [behind, behind] at same
  have names := List.append_cancel_left same
  have first := congrArg unquoted names
  rw [unquoted_append plain, unquoted_append plain'] at first
  subst first
  have hashes := List.append_cancel_left (List.cons.inj
    (List.append_cancel_left names)).2
  exact ⟨rfl, List.append_cancel_right hashes⟩

variable {charset : Charset} {username : Buffer} {account : Account}

/-- Texts are compared byte by byte. -/
abbrev bytewise (first second : Buffer) : Bool :=
  decide (first = second)

/-- A statement about a name of the character set and a hash is that of the
accounts that have them. -/
theorem condition_fits {begins : Buffer} (passwd : Buffer)
    (whole : (0 : UInt8) ∉ begins) (literal : charset.Literal username) :
    decide ((begins ++ loginCondition username
        (MD5.hexdigest passwd)).cString =
      begins ++ loginCondition account.username account.password) =
    account.fits bytewise username (MD5.hexdigest passwd) := by
  obtain ⟨clean, plain⟩ := literal.free
  have hash := clean_hexdigest passwd
  have texts : (0 : UInt8) ∉ ofText " from login where username='" ∧
      (0 : UInt8) ∉ ofText "' and password='" ∧
      (0 : UInt8) ∉ ofText "'" := by
    decide
  have reads : (begins ++ loginCondition username
      (MD5.hexdigest passwd)).cString =
        begins ++ loginCondition username (MD5.hexdigest passwd) := by
    apply Buffer.cString_of_clean
    intro member
    simp [loginCondition, texts, whole, clean, hash.1] at member
  rw [reads, Account.fits, ← Bool.decide_and, decide_eq_decide]
  constructor
  · intro same
    obtain ⟨name, password⟩ := loginCondition_injective plain hash.2.1
      (List.append_cancel_left same)
    exact ⟨password.symm, name.symm⟩
  · intro same
    rw [same.1, same.2]

theorem login_counts (accounts : List Account) (passwd : Buffer)
    (literal : charset.Literal username) :
    (answer ⟨accounts, []⟩
        (loginCountSql username (MD5.hexdigest passwd)).cString) =
      .rows [[some (ofNat (accounts.countP (Account.fits bytewise username
        (MD5.hexdigest passwd))))]] := by
  have counts := funext fun account =>
    @condition_fits charset username account (ofText "select count(*)") passwd
      (by decide) literal
  rw [answer_loginCount]
  exact congrArg (fun fits => Reply.rows [[some (ofNat
    (accounts.countP fits))]]) counts

theorem login_names (accounts : List Account) (uid : Uid) :
    answer ⟨accounts, []⟩ (naming uid).cString =
      .rows ((accounts.filter fun account => account.uid = uid).map
        fun account => [some account.username]) := by
  have number := (clean_ofInt (toSigned uid)).1
  have whole : (naming uid).cString = naming uid := by
    apply Buffer.cString_of_clean
    intro member
    have texts : (0 : UInt8) ∉
        ofText "select username from login where uid='" ∧
        (0 : UInt8) ∉ ofText "'" := by
      decide
    simp [naming, texts, number] at member
  have reply : answer ⟨accounts, []⟩ (naming uid) =
      .rows ((accounts.filter fun account =>
        naming uid = checkUidSql (toSigned account.uid)).map
          fun account => [some account.username]) := rfl
  rw [whole, reply]
  refine congrArg (fun found : List Account => Reply.rows (found.map _))
    (List.filter_congr fun account _ => decide_eq_decide.mpr ?_)
  constructor
  · intro same
    have numbers := List.append_cancel_left (List.append_cancel_right same)
    exact (toSigned_injective (ofInt_injective (toSigned_inInt uid)
      (toSigned_inInt account.uid) numbers)).symm
  · rintro rfl
    rfl

def loginAnswers (charset : Charset) : LoginAnswers loginTable charset where
  same := bytewise
  counted := by
    intro accounts username passwd rows literal reply
    have asked : loginCountSql username (MD5.hexdigest passwd) = _ :=
      Statement.sqlstr_eq username (.loginCount passwd)
    rw [← asked] at reply
    exact (Reply.rows.inj ((login_counts accounts passwd literal).symm.trans
      reply)).symm
  reflexive := fun _ => decide_eq_true rfl
  named := by
    intro accounts uid rows reply
    exact (Reply.rows.inj ((login_names accounts uid).symm.trans reply)).symm

end Tables

/-- Two users of one name, with the passwords "p" and "q". -/
def namesakes : List Account :=
  [⟨ofText "a", MD5.hexdigest (ofText "p"), 1, false⟩,
    ⟨ofText "a", MD5.hexdigest (ofText "q"), 2, false⟩]

theorem passwd_changed_own : ∃ after,
    updatePasswd Tables.loginEnv namesakes (toSigned 1) (ofText "r")
      (ofText "p") = .ok (0, after) ∧
    Tables.loginTable.ChangedProperly namesakes after 1 (ofText "r")
      (ofText "p") 0 := by
  have changed : (updatePasswd Tables.loginEnv namesakes (toSigned 1)
      (ofText "r") (ofText "p")).any (fun result => result.1 = 0) = true := by
    decide +kernel
  obtain ⟨⟨ret, after⟩, returned, zero⟩ := Exec.any_iff.mp changed
  cases of_decide_eq_true zero
  have due : Tables.loginTable.Due namesakes 1 (ofText "r") (ofText "p") :=
    ⟨by decide +kernel, by decide +kernel⟩
  refine ⟨after, returned, (passwd_changed_iff _ Tables.loginTable .gbk
    (Tables.loginAnswers .gbk) _ (by decide) _ _ _ _ _ returned).mpr ?_⟩
  intro _ _
  refine ⟨?_, fun _ _ _ _ _ _ _ _ => due, fun _ _ _ => due, fun _ _ => due⟩
  intro own member same _ _ _
  have first : own = ⟨ofText "a", MD5.hexdigest (ofText "p"), 1, false⟩ := by
    rcases List.mem_cons.mp member with first | second
    · exact first
    · rw [List.mem_singleton.mp second] at same
      exact absurd same (by decide)
  rw [first]
  dsimp only
  rw [if_pos (by decide +kernel)]
  exact fun _ => due

/-- The password of the other user of that name is as good as one's own. -/
theorem namesake_changes : ¬ ∀ (world : List Account) (uid : Uid)
    (newpasswd oldpasswd : Buffer) (ret : Int) (after : List Account),
    (world.map Account.uid).Nodup →
    updatePasswd Tables.loginEnv world (toSigned uid) newpasswd oldpasswd =
      .ok (ret, after) →
    Tables.loginTable.ChangedProperly world after uid newpasswd oldpasswd
      ret := by
  intro always
  have changed : (updatePasswd Tables.loginEnv namesakes (toSigned 1)
      (ofText "r") (ofText "q")).any (fun result => result.1 = 0) = true := by
    decide +kernel
  obtain ⟨⟨ret, after⟩, returned, zero⟩ := Exec.any_iff.mp changed
  cases of_decide_eq_true zero
  obtain ⟨guarded, reported, _⟩ := always _ 1 _ _ _ after (by decide) returned
  obtain ⟨own, _⟩ := guarded (reported.mp rfl)
  have foreign : Tables.loginTable.hashOf namesakes 1 ≠
      some (MD5.hexdigest (ofText "q")) := by
    decide +kernel
  exact foreign own

end GroupChat.Server
