import GroupChat.Server.Chat

namespace GroupChat.Server

/-! Which password a user logs in with, after any part of a run. -/

open Machine (Path Enacts)
open Quoting (render)
open Decimal (ofNat atoi)
open Database (mysqlQuery loginCountSql loginUidSql)

variable {ω : Type} {env : Env ω} {store : Store env}

namespace Account

/-- An account once a deed was done. -/
def done (account : Account) : Deed → Account
  | .change uid secuPasswd =>
      if account.uid = uid then account.withPassword secuPasswd else account
  | .login _ _ | .leave _ | .write _ _ _ _ | .offer _ _ _ _ _
  | .answer _ _ _ | .count _ _ _ => account

/-- An account once some deeds were done: the last change of its user's
password counts. -/
def after (account : Account) (deeds : List Deed) : Account :=
  deeds.foldl done account

variable {account : Account}

theorem done_username (deed : Deed) :
    (account.done deed).username = account.username := by
  cases deed with
  | change uid secuPasswd =>
      simp only [done]
      split
      next => rfl
      next => rfl
  | login | leave | write | offer | answer | count => rfl

theorem done_uid (deed : Deed) : (account.done deed).uid = account.uid := by
  cases deed with
  | change uid secuPasswd =>
      simp only [done]
      split
      next => rfl
      next => rfl
  | login | leave | write | offer | answer | count => rfl

theorem after_username (deeds : List Deed) :
    (account.after deeds).username = account.username := by
  induction deeds generalizing account with
  | nil => rfl
  | cons deed deeds induction => exact induction.trans (done_username deed)

theorem after_uid (deeds : List Deed) :
    (account.after deeds).uid = account.uid := by
  induction deeds generalizing account with
  | nil => rfl
  | cons deed deeds induction => exact induction.trans (done_uid deed)

theorem after_hashed {deeds : List Deed}
    (hashed : ∃ passwd, account.password = MD5.hexdigest passwd)
    (changes : ∀ uid secuPasswd, .change uid secuPasswd ∈ deeds →
      ∃ passwd, secuPasswd = MD5.hexdigest passwd) :
    ∃ passwd, (account.after deeds).password = MD5.hexdigest passwd := by
  induction deeds generalizing account with
  | nil => exact hashed
  | cons deed deeds induction =>
      apply induction
      · cases deed with
        | change uid secuPasswd =>
            simp only [done]
            split
            next => exact changes uid secuPasswd List.mem_cons_self
            next => exact hashed
        | login | leave | write | offer | answer | count => exact hashed
      · intro uid secuPasswd member
        exact changes uid secuPasswd (List.mem_cons_of_mem deed member)

end Account

theorem Service.next_accounts (a : Service) (deed : Deed) :
    (a.next deed).accounts = a.accounts.map fun account =>
      account.done deed := by
  cases deed with
  | change uid secuPasswd => rfl
  | answer uid srcUid accepted =>
      cases accepted with
      | true => exact (List.map_id' a.accounts).symm
      | false => exact (List.map_id' a.accounts).symm
  | login | leave | write | offer | count =>
      exact (List.map_id' a.accounts).symm

theorem Service.accounts_after {a a' : Service} {deeds : List Deed}
    (path : Path service a deeds a') :
    a'.accounts = a.accounts.map fun account => account.after deeds := by
  induction path with
  | nil a => exact (List.map_id' a.accounts).symm
  | @cons before middle after deed deeds possible moved rest induction =>
      cases moved
      rw [induction, Service.next_accounts, List.map_map]
      rfl

/-- Two hashes compare as the same only if they are equal, and the question for
the one account that fits, if it is answered, gives its id and its flag. -/
structure Credentials (store : Store env) extends
    Comparison store.accounts store.charset where
  hashes : ∀ first second,
    same (MD5.hexdigest first) (MD5.hexdigest second) = true ↔
      MD5.hexdigest first = MD5.hexdigest second
  found : ∀ world username passwd account rows,
    store.charset.Literal username →
    (store.accounts.rows world).filter
        (Account.fits same username (MD5.hexdigest passwd)) = [account] →
    (mysqlQuery env world (render (Statement.intended username
      (.loginUid passwd)))).1 = .rows rows →
    ∃ uid first, rows = [[some uid, some first]] ∧
      UInt32.ofInt (atoi uid.cString) = account.uid ∧
      decide (atoi first.cString ≠ 0) = account.first

/-- What the questions for credentials come to: the verdict, unless one that is
asked is not answered. -/
inductive Tried (env : Env ω) (world : ω) (username passwd : Buffer)
    (verdict : Verdict) : Prop
  | judged {asked : ω}
      (judged : Judged env world username passwd verdict asked)
  | uncounted (none : ∀ rows, (mysqlQuery env world (loginCountSql username
      (MD5.hexdigest passwd))).1 ≠ .rows rows)
  | unfound {uid : Uid} {first : Bool} (right : verdict = .right uid first)
      (none : ∀ rows, (mysqlQuery env (mysqlQuery env world
        (loginCountSql username (MD5.hexdigest passwd))).2
          (loginUidSql username (MD5.hexdigest passwd))).1 ≠ .rows rows)

theorem Reply.answered_or (reply : Reply) :
    (∃ rows, reply = .rows rows) ∨ ∀ rows, reply ≠ .rows rows := by
  cases reply with
  | rows rows => exact .inl ⟨rows, rfl⟩
  | failed | done => exact .inr fun _ impossible => by cases impossible

namespace Credentials

variable {username : Buffer} {account : Account}

theorem tried (credentials : Credentials store) {world : ω}
    (literal : store.charset.Literal username)
    (alone : (store.accounts.rows world).filter (fun account =>
      credentials.same account.username username) = [account])
    (hashed : ∃ passwd, account.password = MD5.hexdigest passwd)
    (passwd : Buffer) :
    Tried env world username passwd
      (if MD5.hexdigest passwd = account.password then
        .right account.uid account.first else .wrong) := by
  obtain ⟨old, hash⟩ := hashed
  have fitting : (store.accounts.rows world).filter
      (Account.fits credentials.same username (MD5.hexdigest passwd)) =
        [account].filter fun account =>
          credentials.same account.password (MD5.hexdigest passwd) := by
    rw [← alone, List.filter_filter]
    rfl
  have count : loginCountSql username (MD5.hexdigest passwd) = _ :=
    Statement.sqlstr_eq username (.loginCount passwd)
  have ask : loginUidSql username (MD5.hexdigest passwd) = _ :=
    Statement.sqlstr_eq username (.loginUid passwd)
  have kept : store.accounts.rows (mysqlQuery env world (loginCountSql username
      (MD5.hexdigest passwd))).2 = store.accounts.rows world :=
    store.accounts.kept world _ ⟨_, rfl⟩
  rcases Reply.answered_or (mysqlQuery env world (loginCountSql username
    (MD5.hexdigest passwd))).1 with ⟨rows, counts⟩ | none
  swap
  · exact .uncounted none
  have counted := credentials.counted world username passwd rows literal
    (count ▸ counts)
  rw [List.countP_eq_length_filter, fitting] at counted
  cases right : decide (MD5.hexdigest passwd = account.password) with
  | true =>
      have right := of_decide_eq_true right
      have here : credentials.same account.password (MD5.hexdigest passwd) =
          true := by
        rw [hash] at right ⊢
        exact (credentials.hashes old passwd).mpr right.symm
      rw [List.filter_singleton, here, cond_true] at fitting counted
      rw [if_pos right]
      rcases Reply.answered_or (mysqlQuery env (mysqlQuery env world
        (loginCountSql username (MD5.hexdigest passwd))).2 (loginUidSql username
          (MD5.hexdigest passwd))).1 with ⟨rows', finds⟩ | none
      swap
      · exact .unfound rfl none
      obtain ⟨uid, first, row, own, flag⟩ := credentials.found _ username
        passwd account rows' literal ((congrArg _ kept).trans fitting)
        (ask ▸ finds)
      rw [← own, ← flag]
      rw [counted] at counts
      rw [row] at finds
      have one : atoi (ofNat 1).cString = 1 := by decide
      exact .judged (.right (Prod.ext counts rfl) one (Prod.ext finds rfl))
  | false =>
      have wrong := of_decide_eq_false right
      have away : credentials.same account.password (MD5.hexdigest passwd) =
          false := by
        apply Bool.eq_false_iff.mpr
        intro here
        rw [hash] at wrong here
        exact wrong ((credentials.hashes old passwd).mp here).symm
      rw [List.filter_singleton, away, cond_false] at counted
      rw [counted] at counts
      rw [if_neg wrong]
      exact .judged (.wrong (Prod.ext counts rfl) (by decide))

end Credentials

theorem Store.Means.hashed {s : State ω} {step : Step} {uid : Uid}
    {secuPasswd : Buffer}
    (means : Store.Means env s step (.change uid secuPasswd)) :
    ∃ passwd, secuPasswd = MD5.hexdigest passwd := by
  rcases means with ⟨fd, conns, _, frame⟩ | ⟨_, _, _, _, leaves⟩
  · cases frame with
    | change => exact ⟨_, rfl⟩
    | file asked mine succeeds file => cases file
  · cases leaves

/-- Whatever the users do in a part of a run, at its end the password that lets
a user in is the one that the user last changed to, or the one from before, as
far as the database server answers. -/
theorem password_decides (env : Env ω) (store : Store env)
    (credentials : Credentials store) (s s' : State ω) (steps : List Step)
    (reached : (plainly store).Reachable s)
    (path : Path (plainly store) s steps s') (username : Buffer)
    (account : Account) (literal : store.charset.Literal username)
    (alone : (store.accounts.rows s.conns.db).filter (fun account =>
      credentials.same account.username username) = [account])
    (hashed : ∃ passwd, account.password = MD5.hexdigest passwd) :
    ∃ deeds, Enacts (plainly store) service (fun s => store.service s.conns)
        (Store.Means env) s steps deeds s' ∧
      ∀ passwd, Tried env s'.conns.db username passwd
        (if MD5.hexdigest passwd = (account.after deeds).password then
          .right account.uid (account.after deeds).first
        else .wrong) := by
  obtain ⟨deeds, enacts⟩ := (server_refines env store).enacts_all path reached
  refine ⟨deeds, enacts, fun passwd => ?_⟩
  have accounts : store.accounts.rows s'.conns.db =
      (store.accounts.rows s.conns.db).map fun account =>
        account.after deeds :=
    Service.accounts_after enacts.path
  have found : (store.accounts.rows s'.conns.db).filter (fun account =>
      credentials.same account.username username) = [account.after deeds] := by
    rw [accounts, List.filter_map]
    simp only [Function.comp_def, Account.after_username]
    rw [alone]
    rfl
  have changed := Account.after_hashed hashed fun uid secuPasswd member => by
    obtain ⟨state, step, _, _, means⟩ := enacts.meant trivial
      (fun _ _ _ _ _ _ => trivial) _ member
    exact means.hashed
  have tried := credentials.tried literal found changed passwd
  rw [Account.after_uid] at tried
  exact tried

namespace Tables

open Buffer (ofText)

def wholeCredentials : Credentials wholeStore where
  same := bytewise
  counted := by
    intro whole username passwd rows literal reply
    have asked : loginCountSql username (MD5.hexdigest passwd) = _ :=
      Statement.sqlstr_eq username (.loginCount passwd)
    rw [← asked] at reply
    have counts := login_counts whole.accounts passwd literal
    exact (Reply.rows.inj (counts.symm.trans reply)).symm
  hashes := fun _ _ => decide_eq_true_iff
  found := by
    intro whole username passwd account rows literal alone reply
    have asked : loginUidSql username (MD5.hexdigest passwd) = _ :=
      Statement.sqlstr_eq username (.loginUid passwd)
    rw [← asked] at reply
    have finds := funext fun account =>
      @condition_fits _ username account (ofText "select uid,first") passwd
        (by decide) literal
    have only := (congrArg (whole.accounts.filter ·) finds).trans alone
    have row := congrArg (fun rows : List Account => Reply.rows (rows.map
      fun account => [some (ofNat account.uid.toNat),
        some (ofNat account.first.toNat)])) only
    refine ⟨_, _, Reply.rows.inj (reply.symm.trans row), ?_, ?_⟩
    · rw [Decimal.cString_ofNat, Decimal.ofInt_atoi_ofNat]
    · cases account.first with
      | true => decide
      | false => decide

theorem whole_judges {whole : Whole} {username passwd : Buffer}
    {verdict : Verdict} (tried : Tried wholeEnv whole username passwd verdict) :
    ∃ asked, Judged wholeEnv whole username passwd verdict asked := by
  cases tried with
  | judged judged => exact ⟨_, judged⟩
  | uncounted none => exact absurd rfl (none _)
  | unfound right none => exact absurd rfl (none _)

end Tables

def changesPassword : List Step :=
  [.recvMsg 4 [.data (Message.ofData 0x15 0x00
    ((Buffer.ofText "a").resize 28 ++ (Buffer.ofText "z").resize 28)).wire]]

/-- The new password lets the user in and the old one does not. -/
theorem password_decides_changed : ∃ s : State Tables.Whole,
    (plainly Tables.wholeStore).Reachable s ∧
    (∃ asked, Judged Tables.wholeEnv s.conns.db (Buffer.ofText "a")
      (Buffer.ofText "z") (.right 1 false) asked) ∧
    ∃ asked, Judged Tables.wholeEnv s.conns.db (Buffer.ofText "a")
      (Buffer.ofText "a") .wrong asked := by
  have replayed : ((plainly Tables.wholeStore).replay wholeStart
      (arrives 4 [loginFrame "a"])).any (fun s =>
        s.conns.db.accounts = threeAccounts ∧
        (((plainly Tables.wholeStore).replay s changesPassword).any fun s' =>
          s'.conns.db.accounts.head? = some ⟨Buffer.ofText "a",
            MD5.hexdigest (Buffer.ofText "z"), 1, false⟩)) = true := by
    decide +kernel
  obtain ⟨s, reached, holds⟩ :=
    Machine.Reachable.of_replay replayed wholeStart_initial
  obtain ⟨before, later⟩ := of_decide_eq_true holds
  obtain ⟨s', taken, changed⟩ := (Option.any_eq_true _ _).mp later
  have alone : threeAccounts.filter (fun account =>
      decide (account.username = Buffer.ofText "a")) =
        [⟨Buffer.ofText "a", MD5.hexdigest (Buffer.ofText "a"), 1, false⟩] := by
    decide +kernel
  rw [← before] at alone
  obtain ⟨deeds, enacts, tried⟩ := password_decides Tables.wholeEnv
    Tables.wholeStore Tables.wholeCredentials s s' changesPassword reached
    (.of_replay taken) (Buffer.ofText "a") _ (by decide) alone
    ⟨Buffer.ofText "a", rfl⟩
  have accounts : s'.conns.db.accounts =
      s.conns.db.accounts.map fun account => account.after deeds :=
    Service.accounts_after enacts.path
  rw [accounts, before] at changed
  have same : Account.after ⟨Buffer.ofText "a",
      MD5.hexdigest (Buffer.ofText "a"), 1, false⟩ deeds =
        ⟨Buffer.ofText "a", MD5.hexdigest (Buffer.ofText "z"), 1, false⟩ :=
    Option.some.inj (of_decide_eq_true changed)
  rw [same] at tried
  refine ⟨s', (Machine.Path.of_replay taken).reached reached, ?_, ?_⟩
  · have right := tried (Buffer.ofText "z")
    rw [if_pos rfl] at right
    exact Tables.whole_judges right
  · have wrong := tried (Buffer.ofText "a")
    rw [if_neg (by decide +kernel)] at wrong
    exact Tables.whole_judges wrong

end GroupChat.Server
