import GroupChat.Server.Directory
import GroupChat.Server.Streams

namespace GroupChat.Server

/-! When a login is handled to its end, and what it leaves of the sessions. -/

variable {ω : Type} {env : Env ω} {users : List Uid}

/-- What the login table says to credentials: they match exactly one row, with
its id and first-login flag, or not. -/
inductive Verdict where
  | right (uid : Uid) (first : Bool)
  | wrong
  deriving DecidableEq, Repr

open Database Decimal in
/-- How the database server tells a verdict on credentials. -/
inductive Judged (env : Env ω) (world : ω) (username passwd : Buffer) :
    Verdict → ω → Prop
  | right {count uidText firstText : Buffer} {middle after : ω}
      (counted : mysqlQuery env world
        (loginCountSql username (MD5.hexdigest passwd)) =
          (.rows [[some count]], middle))
      (one : atoi count.cString = 1)
      (found : mysqlQuery env middle
        (loginUidSql username (MD5.hexdigest passwd)) =
          (.rows [[some uidText, some firstText]], after)) :
      Judged env world username passwd
        (.right (UInt32.ofInt (atoi uidText.cString))
          (atoi firstText.cString ≠ 0)) after
  | wrong {count : Buffer} {after : ω}
      (counted : mysqlQuery env world
        (loginCountSql username (MD5.hexdigest passwd)) =
          (.rows [[some count]], after))
      (other : atoi count.cString ≠ 1) :
      Judged env world username passwd .wrong after

theorem loginCheck_right {world after : ω} {username passwd : Buffer}
    {uid : Uid} {first : Bool}
    (judged : Judged env world username passwd (.right uid first) after) :
    Database.loginCheck env world username passwd false true 0 =
      .ok ⟨0, true, first, uid, after⟩ := by
  cases judged with
  | @right count uidText firstText middle after counted one found =>
      have read : Row.text [some count] 0 = .ok count.cString := rfl
      have uidRead : Row.text [some uidText, some firstText] 0 =
          .ok uidText.cString := rfl
      have firstRead : Row.text [some uidText, some firstText] 1 =
          .ok firstText.cString := rfl
      simp only [Database.loginCheck, counted, read, Exec.bind_ok, one, if_true,
        Database.loginUid, found, List.head?_cons, Exec.demand_some, uidRead,
        firstRead]

theorem loginCheck_wrong {world after : ω} {username passwd : Buffer}
    (judged : Judged env world username passwd .wrong after) :
    Database.loginCheck env world username passwd false true 0 =
      .ok ⟨0, false, true, 0, after⟩ := by
  cases judged with
  | @wrong count after counted other =>
      have read : Row.text [some count] 0 = .ok count.cString := rfl
      simp only [Database.loginCheck, counted, read, Exec.bind_ok, other,
        if_false]

namespace Connections

variable {s s' : Connections ω} {fd : Fd} {uid : Uid} {first : Bool}

structure LoginFrame (s : Connections ω) (fd : Fd) : Prop where
  type : (s.frame fd).header.type = 0x10
  kind : (s.frame fd).header.subType = 0x00
  size : (s.frame fd).header.length.toNat = sizeofHeader + 56
  data : (s.frame fd).data.length = 56

def Asks (env : Env ω) (s : Connections ω) (fd : Fd) (verdict : Verdict)
    (asked : ω) : Prop :=
  Judged env s.db (fixedField (s.frame fd).data 0 28)
    (fixedField (s.frame fd).data 28 28) verdict asked

theorem parseLogin_right {asked : ω} (login : s.LoginFrame fd)
    (asks : s.Asks env fd (.right uid first) asked) :
    s.parseLogin env fd = loginChecked env
      ({ s with db := asked }.noteLogin fd true uid) fd true first uid := by
  have shaped : ¬ ((s.frame fd).header.subType ≠ 0x00 ∨
      (s.frame fd).header.length.toNat ≠ sizeofHeader + 56) := by
    simp [login.kind, login.size]
  have checked := loginCheck_right asks
  simp only [parseLogin, shaped, if_false, Exec.require_of login.data,
    Exec.bind_ok, checked]
  rfl

theorem parseLogin_wrong {asked : ω} (login : s.LoginFrame fd)
    (asks : s.Asks env fd .wrong asked) :
    s.parseLogin env fd =
      loginChecked env { s with db := asked } fd false true 0 := by
  have shaped : ¬ ((s.frame fd).header.subType ≠ 0x00 ∨
      (s.frame fd).header.length.toNat ≠ sizeofHeader + 56) := by
    simp [login.kind, login.size]
  have checked := loginCheck_wrong asks
  simp only [parseLogin, shaped, if_false, Exec.require_of login.data,
    Exec.bind_ok, checked]
  rfl

theorem loginChecked_refused (directory : Directory env users) :
    (∃ s', loginChecked env s fd false first uid = .ok s') ↔
      s.fdToUid.lookup fd = none := by
  obtain ⟨color, colored⟩ :=
    directory.getLoginColor_completes s.db (toSigned uid)
  simp only [loginChecked, colored, Exec.bind_ok, Bool.false_eq_true, if_false]
  constructor
  · intro handled
    obtain ⟨_, completed⟩ := handled
    obtain ⟨_, free, _⟩ := Exec.of_bind_ok completed
    rwa [Exec.require_eq_ok] at free
  · intro free
    rw [push_fdToUid, Exec.require_of free]
    exact ⟨_, rfl⟩

/-- Only the session of the user elsewhere is given up. -/
inductive TakesOver (s : Connections ω) (uid : Uid) (first : Bool) :
    UInt8 → Connections ω → Prop
  | skipped (flag : first = true) : TakesOver s uid first 0x01 s
  | absent (flag : first = false) (away : s.uidToFd.lookup uid = none) :
      TakesOver s uid first 0x00 s
  | shut {other : Fd} (flag : first = false)
      (found : s.uidToFd.lookup uid = some other) :
      TakesOver s uid first 0x02
        ((s.pushShutdown other).unbind other uid)

theorem takeover_takesOver (inverse : FinMap.Inverse s.fdToUid s.uidToFd)
    (uid : Uid) (first : Bool) :
    ∃ subType taken, takeover s uid first = .ok (subType, taken) ∧
      TakesOver s uid first subType taken := by
  cases first with
  | true => exact ⟨0x01, s, rfl, .skipped rfl⟩
  | false =>
      cases found : s.uidToFd.lookup uid with
      | none =>
          refine ⟨0x00, s, ?_, .absent rfl found⟩
          simp [takeover, found]
      | some other =>
          have back := (inverse other uid).mpr found
          refine ⟨0x02, _, ?_, .shut rfl found⟩
          simp [takeover, found, back, Exec.require_of, unbind, pushShutdown]

namespace TakesOver

variable {subType : UInt8} {taken : Connections ω}

theorem inverse (taking : TakesOver s uid first subType taken)
    (inverse : FinMap.Inverse s.fdToUid s.uidToFd) :
    FinMap.Inverse taken.fdToUid taken.uidToFd := by
  cases taking with
  | skipped flag => exact inverse
  | absent flag away => exact inverse
  | @shut other flag found => exact inverse.erase ((inverse other uid).mpr found)

theorem registered (taking : TakesOver s uid first subType taken)
    (registered : s.Registered users) : taken.Registered users := by
  cases taking with
  | skipped flag => exact registered
  | absent flag away => exact registered
  | @shut other flag found =>
      intro user bound
      apply registered
      obtain ⟨owner, kept⟩ := bound_iff.mp bound
      simp only [unbind, FinMap.lookup_erase_eq] at kept
      split at kept
      · contradiction
      · exact bound_iff.mpr ⟨owner, kept⟩

end TakesOver

/-- A login that finds its connection free, or as the user's own, and has
nothing to take over with the first-login flag set. -/
def Fits (s : Connections ω) (fd : Fd) (uid : Uid) (first : Bool) : Prop :=
  s.fdToUid.lookup fd = none ∧ (first = true → s.uidToFd.lookup uid = none) ∨
    s.fdToUid.lookup fd = some uid ∧ first = false

theorem TakesOver.fits {subType : UInt8} {taken : Connections ω}
    (taking : TakesOver s uid first subType taken)
    (inverse : FinMap.Inverse s.fdToUid s.uidToFd) :
    taken.fdToUid.lookup fd = none ∧ taken.uidToFd.lookup uid = none ↔
      s.Fits fd uid first := by
  cases taking with
  | skipped flag => simp [Fits, flag]
  | absent flag away =>
      have foreign : s.fdToUid.lookup fd ≠ some uid := by
        intro own
        rw [(inverse fd uid).mp own] at away
        contradiction
      simp [Fits, flag, away, foreign]
  | @shut other flag found =>
      have back := (inverse other uid).mpr found
      have left : ((s.pushShutdown other).unbind other uid).fdToUid.lookup fd =
          if fd = other then none else s.fdToUid.lookup fd :=
        FinMap.lookup_erase_eq s.fdToUid other fd
      have away : ((s.pushShutdown other).unbind other uid).uidToFd.lookup
          uid = none := by
        simp [unbind]
      rw [left, away]
      by_cases same : fd = other
      · subst same
        simp [Fits, flag, back]
      · have foreign : s.fdToUid.lookup fd ≠ some uid := fun own =>
          same (inverse.value_injective own back)
        simp [Fits, flag, same, foreign]

def colorAsked (env : Env ω) (world : ω) (uid : Uid) : ω :=
  (Database.mysqlQuery env world
    (Database.loginColorSql (toSigned uid))).2

theorem welcomed_uidToFd (taken : Connections ω) (fd : Fd) (uid : Uid)
    (subType : UInt8) (color : Int) :
    (taken.welcomed fd uid subType color).uidToFd =
      taken.uidToFd.insert uid fd := by
  simp [welcomed, bind]

theorem welcomed_fdToUid (taken : Connections ω) (fd : Fd) (uid : Uid)
    (subType : UInt8) (color : Int) :
    (taken.welcomed fd uid subType color).fdToUid =
      taken.fdToUid.insert fd uid := by
  simp [welcomed, bind]

theorem welcomed_db (taken : Connections ω) (fd : Fd) (uid : Uid)
    (subType : UInt8) (color : Int) :
    (taken.welcomed fd uid subType color).db = taken.db := by
  simp [welcomed, bind]

theorem welcomed_conns (taken : Connections ω) (fd : Fd) (uid : Uid)
    (subType : UInt8) (color : Int) (other : Fd) :
    (taken.welcomed fd uid subType color).conns other =
      ((taken.push fd (loginMsg subType uid color)).conns other).pushAll
        (if (taken.fdToUid.lookup other).isSome then [onlineMsg uid true]
          else []) := by
  simp only [welcomed, bind, pushes_conns, sentTo_entries]

theorem welcomed_loginMark (taken : Connections ω) (fd : Fd) (uid : Uid)
    (subType : UInt8) (color : Int) :
    (taken.welcomed fd uid subType color).loginMark =
      Function.update taken.loginMark fd
        ((taken.welcomed fd uid subType color).conns
          fd).history.pushed.length := by
  simp [welcomed, bind]

theorem welcomed_bound (taken : Connections ω) (fd : Fd) (uid : Uid)
    (subType : UInt8) (color : Int) (user : Uid) :
    (taken.welcomed fd uid subType color).bound user =
      (decide (user = uid) || taken.bound user) := by
  simp only [bound, welcomed_uidToFd, FinMap.lookup_insert_eq]
  split <;> simp [*]

/-- When a legal login is handled to its end. -/
theorem loginChecked_legal (directory : Directory env users)
    (inverse : FinMap.Inverse s.fdToUid s.uidToFd)
    (registered : s.Registered users) (known : uid ∈ users) :
    (∃ s', loginChecked env s fd true first uid = .ok s') ↔
      s.Fits fd uid first ∧ Listed env (colorAsked env s.db uid) := by
  obtain ⟨color, colored⟩ :=
    directory.getLoginColor_completes s.db (toSigned uid)
  obtain ⟨subType, taken, took, taking⟩ := @takeover_takesOver ω
    { s with db := colorAsked env s.db uid } inverse uid first
  have takenInverse := taking.inverse inverse
  have asked : (taken.welcomed fd uid subType color).db =
      colorAsked env s.db uid := by
    rw [welcomed_db]
    cases taking <;> rfl
  have fits := @TakesOver.fits ω { s with db := colorAsked env s.db uid } fd
    uid first subType taken taking inverse
  rw [← takenInverse.fresh_iff] at fits
  constructor
  · intro handled
    obtain ⟨s', completed⟩ := handled
    obtain ⟨color', db, colored', refused | legal⟩ := loginChecked_eq completed
    · exact absurd refused.1 (by decide)
    · obtain ⟨_, subType', taken', took', free, fresh, listed⟩ := legal
      rw [colored] at colored'
      cases colored'
      rw [show (Database.mysqlQuery env s.db (Database.loginColorSql
        (toSigned uid))).2 = colorAsked env s.db uid from rfl, took] at took'
      cases took'
      refine ⟨fits.mp ⟨free, fresh⟩, ?_⟩
      have here : (taken.welcomed fd uid subType color).bound uid = true := by
        simp [welcomed_bound]
      by_contra silent
      rw [← asked] at silent
      exact pushUserlist_unlisted silent here s' listed
  · intro fitting
    obtain ⟨fit, answered⟩ := fitting
    obtain ⟨free, fresh⟩ := fits.mpr fit
    have told : (taken.push fd (loginMsg subType uid color)).pushOnline uid
        true = .ok _ := pushOnline_eq.mpr ⟨fresh, rfl⟩
    have known' : (taken.welcomed fd uid subType color).Registered users := by
      intro user bound
      rw [welcomed_bound] at bound
      by_cases same : user = uid
      · rw [same]
        exact known
      · exact taking.registered registered user (by simpa [same] using bound)
    rw [← asked] at answered
    have listed := pushUserlist_listed directory known' answered
      (by rw [welcomed_fdToUid, AList.lookup_insert])
      (by simp [welcomed_bound])
    have handled : loginChecked env s fd true first uid =
        (taken.welcomed fd uid subType color).pushUserlist env fd := by
      simp only [loginChecked, colored, Exec.bind_ok, if_true]
      rw [show (Database.mysqlQuery env s.db (Database.loginColorSql
        (toSigned uid))).2 = colorAsked env s.db uid from rfl, took]
      have free : (taken.push fd
          (loginMsg subType uid color)).fdToUid.lookup fd = none := free
      simp only [Exec.bind_ok, Exec.require_of free, told]
      rfl
    exact ⟨_, handled.trans listed⟩

/-- What decides whether a login is handled to its end. -/
def LoginSafe (env : Env ω) (s : Connections ω) (fd : Fd) (asked : ω) :
    Verdict → Prop
  | .right uid first =>
      s.Fits fd uid first ∧ Listed env (colorAsked env asked uid)
  | .wrong => s.fdToUid.lookup fd = none

theorem parseLogin_completes (directory : Directory env users)
    (inverse : FinMap.Inverse s.fdToUid s.uidToFd)
    (registered : s.Registered users) {verdict : Verdict} {asked : ω}
    (login : s.LoginFrame fd) (asks : s.Asks env fd verdict asked) :
    (∃ s', s.parseLogin env fd = .ok s') ↔ s.LoginSafe env fd asked verdict := by
  cases verdict with
  | right uid first =>
      have known : uid ∈ users := directory.granted uid
        ⟨_, _, _, _, loginCheck_right asks, rfl, Int.le_refl 0, rfl⟩
      rw [parseLogin_right login asks]
      exact @loginChecked_legal ω env users
        ({ s with db := asked }.noteLogin fd true uid) fd uid first directory
        inverse registered known
  | wrong =>
      rw [parseLogin_wrong login asks]
      exact @loginChecked_refused ω env users { s with db := asked } fd 0 true
        directory

/-- What the login of a user on a free connection leaves behind. -/
structure Settled (s s' : Connections ω) (fd : Fd) (uid : Uid) : Prop where
  bound : s'.uidToFd.lookup uid = some fd
  alone : ∀ other, s'.fdToUid.lookup other = some uid ↔ other = fd
  taken : ∀ other, other ≠ fd → s.fdToUid.lookup other = some uid →
    shutdownMsg ∈ (s'.conns other).sendQue ∧ s'.fdToUid.lookup other = none
  others : ∀ user, user ≠ uid →
    s'.uidToFd.lookup user = s.uidToFd.lookup user ∧
    ∀ other, s'.fdToUid.lookup other = some user ↔
      s.fdToUid.lookup other = some user

theorem TakesOver.others {subType : UInt8} {taken : Connections ω}
    (taking : TakesOver s uid first subType taken)
    (inverse : FinMap.Inverse s.fdToUid s.uidToFd) {user : Uid}
    (different : user ≠ uid) :
    taken.uidToFd.lookup user = s.uidToFd.lookup user ∧
      ∀ other, taken.fdToUid.lookup other = some user ↔
        s.fdToUid.lookup other = some user := by
  cases taking with
  | skipped flag => exact ⟨rfl, fun _ => Iff.rfl⟩
  | absent flag away => exact ⟨rfl, fun _ => Iff.rfl⟩
  | @shut owner flag found =>
      refine ⟨by simp [unbind, different, pushShutdown], ?_⟩
      intro other
      have back := (inverse owner uid).mpr found
      by_cases same : other = owner
      · subst same
        simp [unbind, back, Ne.symm different]
      · simp [unbind, same, pushShutdown]

theorem TakesOver.shutdown {subType : UInt8} {taken : Connections ω}
    (taking : TakesOver s uid first subType taken)
    (inverse : FinMap.Inverse s.fdToUid s.uidToFd)
    (vacant : taken.uidToFd.lookup uid = none) {other : Fd}
    (bound : s.fdToUid.lookup other = some uid) :
    shutdownMsg ∈ (taken.conns other).sendQue ∧
      taken.fdToUid.lookup other = none := by
  have forward := (inverse other uid).mp bound
  cases taking with
  | skipped flag =>
      rw [forward] at vacant
      contradiction
  | absent flag away =>
      rw [forward] at away
      contradiction
  | @shut owner flag found =>
      have same : owner = other := by
        rw [forward] at found
        exact (Option.some.inj found).symm
      subst same
      constructor
      · simp [unbind, pushShutdown, push, Conn.push]
      · simp [unbind]

theorem login_kept {taken : Connections ω} {subType : UInt8} {color : Int}
    (listed : (taken.welcomed fd uid subType color).pushUserlist env fd =
      .ok s') (other : Fd) {msg : Message}
    (queued : msg ∈ (taken.conns other).sendQue) :
    msg ∈ (s'.conns other).sendQue := by
  obtain ⟨l, listing, _⟩ := pushUserlist_emits listed s'
  rw [listing.conns, Conn.pushAll_sendQue]
  apply List.mem_append_left
  simp only [welcomed, bind, pushes_conns, Conn.pushAll_sendQue, push_conns]
  apply List.mem_append_left
  split
  · exact List.mem_append_left _ queued
  · exact queued

theorem loginChecked_settled (inverse : FinMap.Inverse s.fdToUid s.uidToFd)
    (free : s.fdToUid.lookup fd = none)
    (completed : loginChecked env s fd true first uid = .ok s') :
    s.Settled s' fd uid := by
  obtain ⟨color, db, _, refused | legal⟩ := loginChecked_eq completed
  · exact absurd refused.1 (by decide)
  · obtain ⟨_, subType, taken, took, _, fresh, listed⟩ := legal
    obtain ⟨subType', taken', took', taking⟩ := @takeover_takesOver ω
      { s with db := db } inverse uid first
    rw [took'] at took
    cases took
    have vacant := ((taking.inverse inverse).fresh_iff uid).mp fresh
    have same := pushUserlist_bindings listed
    have forward : s'.fdToUid = taken.fdToUid.insert fd uid := by
      rw [same.fdToUid, welcomed_fdToUid]
    have backward : s'.uidToFd = taken.uidToFd.insert uid fd := by
      rw [same.uidToFd, welcomed_uidToFd]
    refine ⟨by simp [backward], ?_, ?_, ?_⟩
    · intro other
      have foreign : taken.fdToUid.lookup other ≠ some uid := fun bound =>
        fresh ⟨other, uid⟩ (FinMap.mem_entries.mpr bound) rfl
      rw [forward, FinMap.lookup_insert_eq]
      split
      · simp [*]
      · simp [*]
    · intro other different bound
      obtain ⟨told, left⟩ := taking.shutdown inverse vacant bound
      refine ⟨login_kept listed other told, ?_⟩
      rw [forward, FinMap.lookup_insert_eq, if_neg different]
      exact left
    · intro user different
      obtain ⟨backKept, forwardKept⟩ := taking.others inverse different
      constructor
      · rw [backward, FinMap.lookup_insert_eq, if_neg different]
        exact backKept
      · intro other
        rw [forward, FinMap.lookup_insert_eq]
        split
        · rename_i here
          subst here
          simp [free, Ne.symm different]
        · exact forwardKept other

theorem Settled.congr {origin : Connections ω}
    (settled : origin.Settled s' fd uid)
    (forward : origin.fdToUid = s.fdToUid)
    (backward : origin.uidToFd = s.uidToFd) : s.Settled s' fd uid where
  bound := settled.bound
  alone := settled.alone
  taken := by
    rw [← forward]
    exact settled.taken
  others := by
    rw [← forward, ← backward]
    exact settled.others

theorem frame_handed {net : List ReadResult} {frame : Message}
    (handed : s.Handed fd net frame) :
    (s.setConn fd ((s.conns fd).receive net).2).frame fd = frame := by
  rw [Connections.frame, setConn_conns_self, handed.2]

theorem data_handed {net : List ReadResult} {frame : Message}
    (proper : (s.conns fd).Receiving) (handed : s.Handed fd net frame)
    (payload : sizeofHeader < frame.header.length.toNat) :
    sizeofHeader + frame.data.length = frame.header.length.toNat := by
  obtain ⟨_, received⟩ := Conn.receive_received net proper
  obtain ⟨_, size⟩ := (received.completed handed.1).size
  rw [← handed.2, Conn.expectLen, ← handed.2] at size
  have same := size (by omega)
  omega

end Connections

namespace State

open Connections

variable {s : State ω} {fd : Fd} {net : List ReadResult} {frame : Message}

/-- A frame that was handed over is what `parse` gets. -/
theorem next_handed {s' : State ω} (inside : fd < s.conns.size)
    (handed : s.conns.Handed fd net frame) :
    s.next env (.recvMsg fd net) = .ok s' ↔
      ∃ conns, (s.conns.setConn fd
        ((s.conns.conns fd).receive net).2).parse env fd = .ok conns ∧
        s' = s.called fd true conns := by
  simp only [next, recvMsg, Exec.require_of inside, Exec.bind_ok, handed.1]
  cases (s.conns.setConn fd ((s.conns.conns fd).receive net).2).parse env fd with
  | error fault => simp
  | ok conns => simp [eq_comm]

/-- What is asked of the handling of a login: the server goes on, a connection
without a session is given the user's if the credentials are right, and one
with a session leaves the two maps inverse to each other. -/
def LoginHandled (env : Env ω) (s : State ω) (fd : Fd)
    (net : List ReadResult) (verdict : Verdict) : Prop :=
  ∃ s', s.next env (.recvMsg fd net) = .ok s' ∧
    match s.conns.fdToUid.lookup fd, verdict with
    | none, .right uid _ => s.conns.Settled s'.conns fd uid
    | none, .wrong => True
    | some _, _ => FinMap.Inverse s'.conns.fdToUid s'.conns.uidToFd

end State

/-- A login frame is handled as it should be exactly if, where the credentials
are right, the connection is free (and the user too if the row has its
first-login flag set) or is the user's own without the flag, and the list of
all ids is answered; and, where they are wrong, the connection is free. -/
theorem login_handled_iff (env : Env ω) (users : List Uid)
    (directory : Directory env users) (s : State ω)
    (reached : (machine env).Reachable s) (fd : Fd)
    (opened : s.clientFds fd = true) (net : List ReadResult) (frame : Message)
    (handed : s.conns.Handed fd net frame) (type : frame.header.type = 0x10)
    (kind : frame.header.subType = 0x00) (size : frame.header.length = 60)
    (verdict : Verdict) (asked : ω)
    (judged : Judged env s.conns.db (Connections.fixedField frame.data 0 28)
      (Connections.fixedField frame.data 28 28) verdict asked) :
    s.LoginHandled env fd net verdict ↔
      s.conns.LoginSafe env fd asked verdict := by
  have kept := sessions_invariant.holds reached
  have inside := opened_inside reached fd opened
  have proper := (queues_invariant.holds reached fd).receiving
  have same := Connections.frame_handed handed
  have length : frame.header.length.toNat = sizeofHeader + 56 := by
    rw [size]
    rfl
  have whole := Connections.data_handed proper handed (by rw [length]; decide)
  have registered := directory.registered reached
  have login : (s.conns.setConn fd
      ((s.conns.conns fd).receive net).2).LoginFrame fd := by
    constructor <;> rw [same]
    · exact type
    · exact kind
    · exact length
    · omega
  have asks : (s.conns.setConn fd
      ((s.conns.conns fd).receive net).2).Asks env fd verdict asked := by
    rw [Connections.Asks, same]
    exact judged
  have parsed : (s.conns.setConn fd
      ((s.conns.conns fd).receive net).2).parse env fd =
        (s.conns.setConn fd
          ((s.conns.conns fd).receive net).2).parseLogin env fd := by
    simp only [Connections.parse, login.type]
  have completes := @Connections.parseLogin_completes ω env users
    (s.conns.setConn fd ((s.conns.conns fd).receive net).2) fd directory
    kept.inverse registered verdict asked login asks
  refine Iff.trans ?_ completes
  constructor
  · intro handled
    obtain ⟨s', moved, _⟩ := handled
    obtain ⟨conns, handled, _⟩ := (State.next_handed inside handed).mp moved
    exact ⟨conns, parsed.symm.trans handled⟩
  · intro handled
    obtain ⟨conns, handled⟩ := handled
    have moved := (State.next_handed inside handed).mpr
      ⟨conns, parsed.trans handled, rfl⟩
    refine ⟨_, moved, ?_⟩
    have allowed : (machine env).enabled s (.recvMsg fd net) := opened
    have after := sessions_invariant.holds (.step reached allowed moved)
    cases bound : s.conns.fdToUid.lookup fd with
    | some uid => exact after.inverse
    | none =>
        cases verdict with
        | wrong => trivial
        | right uid first =>
            rw [Connections.parseLogin_right login asks] at handled
            have settled := @Connections.loginChecked_settled ω env
              ({ s.conns.setConn fd ((s.conns.conns fd).receive net).2 with
                db := asked }.noteLogin fd true uid) conns fd uid first
              kept.inverse bound handled
            exact settled.congr rfl rfl

open Database Decimal Tables in
theorem keptEnv_judged {accounts : List Account} {username passwd : Buffer}
    {uid : Uid} {first : Bool}
    (counted : (accounts.countP fun account =>
      (loginCountSql username (MD5.hexdigest passwd)).cString =
        loginCountSql account.username account.password) = 1)
    (found : ((accounts.filter fun account =>
      (loginUidSql username (MD5.hexdigest passwd)).cString =
        loginUidSql account.username account.password).map fun account =>
          (account.uid, account.first)) = [(uid, first)])
    (records : List Record) :
    Judged (keptEnv accounts) records username passwd (.right uid first)
      records := by
  obtain ⟨account, only, same⟩ := List.map_eq_singleton_iff.mp found
  cases same
  have count : mysqlQuery (keptEnv accounts) records
      (loginCountSql username (MD5.hexdigest passwd)) =
        (.rows [[some (ofNat 1)]], records) := by
    rw [← counted]
    rfl
  have row : mysqlQuery (keptEnv accounts) records
      (loginUidSql username (MD5.hexdigest passwd)) =
        (.rows [[some (ofNat account.uid.toNat),
          some (ofNat account.first.toNat)]], records) := by
    have reply := answer_loginUid ⟨accounts, records⟩ username
      (MD5.hexdigest passwd)
    simp only [only] at reply
    exact Prod.ext reply rfl
  have judged := Judged.right count (by decide) row
  have flag : decide (atoi (ofNat account.first.toNat).cString ≠ 0) =
      account.first := by
    cases account.first <;> decide
  rw [flag, cString_ofNat, ofInt_atoi_ofNat] at judged
  exact judged

/-- Three accounts, the last of them on a first login. -/
def threeAccounts : List Account :=
  Tables.accountsOf [("a", 1, false), ("b", 2, false), ("c", 3, true)]

theorem keptEnv_initial (accounts : List Account) :
    (machine (Tables.keptEnv accounts)).initial (.init [] 1024) :=
  ⟨_, _, rfl⟩

def whole (frame : Message) : List ReadResult := [.data frame.wire]

theorem threeAccounts_directory :
    Directory (Tables.keptEnv threeAccounts) [1, 2, 3] :=
  Tables.keptEnv_directory (show (threeAccounts.map Account.uid).Nodup by
    decide)

/-- Whether a login that arrives whole on a connection is handed over. -/
def handsOver (s : State ω) (fd : Fd) (frame : Message) : Bool :=
  s.clientFds fd ∧ ((s.conns.conns fd).receive (whole frame)).1 = .complete ∧
    frame = ((s.conns.conns fd).receive (whole frame)).2.recvMsg

/-- The second login of a user takes the first one over. -/
theorem login_handled_iff_second : ∃ s : State (List Record),
    s.conns.fdToUid.lookup 4 = some 1 ∧
    s.LoginHandled (Tables.keptEnv threeAccounts) 5 (whole (loginFrame "a"))
      (.right 1 false) := by
  have replayed : ((machine (Tables.keptEnv threeAccounts)).replay
      (.init [] 1024) (arrives 4 [loginFrame "a"] ++ [.accept 5])).any
        (fun s => handsOver s 5 (loginFrame "a") ∧
          s.conns.fdToUid.lookup 4 = some 1 ∧
          s.conns.fdToUid.lookup 5 = none) = true := by
    decide +kernel
  obtain ⟨s, reached, holds⟩ :=
    Machine.Reachable.of_replay replayed (keptEnv_initial threeAccounts)
  obtain ⟨taking, bound, free⟩ := of_decide_eq_true holds
  obtain ⟨opened, handed⟩ := of_decide_eq_true taking
  have judged : Judged (Tables.keptEnv threeAccounts) s.conns.db
      (Connections.fixedField (loginFrame "a").data 0 28)
      (Connections.fixedField (loginFrame "a").data 28 28) (.right 1 false)
      s.conns.db :=
    keptEnv_judged (by decide +kernel) (by decide +kernel) s.conns.db
  refine ⟨s, bound, (login_handled_iff _ _ threeAccounts_directory s reached 5
    opened _ _ handed rfl rfl rfl _ _ judged).mpr ?_⟩
  exact ⟨.inl ⟨free, by simp⟩, Tables.keptEnv_listed _⟩

/-- The second login of a user whose first-login flag is set stops the
server. -/
theorem first_login_stops : ∃ s : State (List Record),
    (machine (Tables.keptEnv threeAccounts)).Reachable s ∧
    s.clientFds 5 = true ∧
    s.conns.Handed 5 (whole (loginFrame "c")) (loginFrame "c") ∧
    Judged (Tables.keptEnv threeAccounts) s.conns.db
      (Connections.fixedField (loginFrame "c").data 0 28)
      (Connections.fixedField (loginFrame "c").data 28 28) (.right 3 true)
      s.conns.db ∧
    s.conns.fdToUid.lookup 4 = some 3 ∧
    ¬ s.LoginHandled (Tables.keptEnv threeAccounts) 5
      (whole (loginFrame "c")) (.right 3 true) := by
  have replayed : ((machine (Tables.keptEnv threeAccounts)).replay
      (.init [] 1024) (arrives 4 [loginFrame "c"] ++ [.accept 5])).any
        (fun s => handsOver s 5 (loginFrame "c") ∧
          s.conns.fdToUid.lookup 4 = some 3 ∧
          (s.next (Tables.keptEnv threeAccounts)
            (.recvMsg 5 (whole (loginFrame "c")))).completes = false) =
        true := by
    decide +kernel
  obtain ⟨s, reached, holds⟩ :=
    Machine.Reachable.of_replay replayed (keptEnv_initial threeAccounts)
  obtain ⟨taking, bound, stops⟩ := of_decide_eq_true holds
  obtain ⟨opened, handed⟩ := of_decide_eq_true taking
  refine ⟨s, reached, opened, handed, ?_, bound, ?_⟩
  · exact keptEnv_judged (by decide +kernel) (by decide +kernel) s.conns.db
  · intro handled
    obtain ⟨s', moved, _⟩ := handled
    rw [moved, Exec.completes_ok] at stops
    cases stops

end GroupChat.Server
