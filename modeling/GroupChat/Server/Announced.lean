import GroupChat.Server.Displaced
import GroupChat.Server.Serving

namespace GroupChat.Server

/-! What the messages queued to a connection tell of its session. -/

variable {ω : Type} {env : Env ω}

/-- The message tells its receiver that the session was given to another
connection. -/
def isShutdown (msg : Message) : Bool :=
  msg.header.type = 0xA0 && msg.header.subType = 0x00

/-- The session a receiver knows of after a message: a welcome begins one and a
shutdown ends one; where there is none to end, or one already, there is no
result. -/
def hear (session : Option Uid) (msg : Message) : Option (Option Uid) :=
  if isWelcome msg then
    if session = none then (msg.data.wordAt 0).toOption.map some else none
  else if isShutdown msg then
    if session = none then none else some none
  else
    some session

/-- The session that all the messages to a receiver amount to. -/
def hearAll (session : Option Uid) (msgs : List Message) :
    Option (Option Uid) :=
  msgs.foldlM hear session

def Neutral (msg : Message) : Prop :=
  isWelcome msg = false ∧ isShutdown msg = false

theorem hear_neutral {msg : Message} (neutral : Neutral msg)
    (session : Option Uid) : hear session msg = some session := by
  simp only [hear, neutral.1, neutral.2, Bool.false_eq_true, if_false]

theorem hear_shutdown (uid : Uid) :
    hear (some uid) Connections.shutdownMsg = some none := rfl

theorem hear_welcome {subType : UInt8}
    (code : subType = 0x00 ∨ subType = 0x01 ∨ subType = 0x02) (uid : Uid)
    (primaryColor : Int) :
    hear none (Connections.loginMsg subType uid primaryColor) =
      some (some uid) := by
  have plain : subType &&& 0xF0 = 0 := by
    rcases code with rfl | rfl | rfl <;> decide
  have welcome : isWelcome (Connections.loginMsg subType uid primaryColor) =
      true := by
    simp [isWelcome, Connections.loginMsg, plain]
  have word : (Connections.loginMsg subType uid primaryColor).data.wordAt 0 =
      .ok uid := Buffer.wordAt_ofWord uid _
  simp only [hear, welcome, word, if_true]
  rfl

theorem hearAll_append (session : Option Uid) (first second : List Message) :
    hearAll session (first ++ second) =
      (hearAll session first).bind fun middle => hearAll middle second :=
  List.foldlM_append

theorem hearAll_neutral {msgs : List Message}
    (neutral : ∀ msg ∈ msgs, Neutral msg) (session : Option Uid) :
    hearAll session msgs = some session := by
  induction msgs with
  | nil => rfl
  | cons msg msgs induction =>
      have here := hear_neutral (neutral msg List.mem_cons_self) session
      have rest := induction fun other member =>
        neutral other (List.mem_cons_of_mem msg member)
      rw [hearAll, List.foldlM_cons, here]
      exact rest

namespace Connections

variable {s s' s'' : Connections ω} {fd : Fd}

/-! The messages of the server that are about no session. -/

theorem Answer.neutral {msg : Message} (made : Answer msg) : Neutral msg := by
  cases made with
  | unknown type =>
      have code : (0xFF : UInt8) &&& 0xF0 ≠ 0 := by decide
      constructor
      · simp [isWelcome, unknownMsg, code]
      · simp [isShutdown, unknownMsg]
  | refused => exact ⟨rfl, rfl⟩
  | username name => exact ⟨rfl, rfl⟩
  | absentUser => exact ⟨rfl, rfl⟩
  | absentParty => exact ⟨rfl, rfl⟩
  | records records => exact ⟨rfl, rfl⟩
  | text exist online => exact ⟨rfl, rfl⟩
  | changePwd succeed => exact ⟨rfl, rfl⟩

theorem textMsg_neutral (srcUid : Uid) (msg : Message) :
    Neutral (textMsg srcUid msg) := ⟨rfl, rfl⟩

theorem transfileMsg_neutral {type : UInt8} {msg : Message}
    (kind : (msg.header.type, type) ∈ transfileTypes) :
    Neutral (transfileMsg type msg) := by
  simp only [transfileTypes, List.mem_cons, Prod.mk.injEq, List.not_mem_nil,
    or_false] at kind
  rcases kind with ⟨_, rfl⟩ | ⟨_, rfl⟩ | ⟨_, rfl⟩ | ⟨_, rfl⟩ <;>
    exact ⟨rfl, rfl⟩

theorem onlineMsg_neutral (uid : Uid) (online : Bool) :
    Neutral (onlineMsg uid online) := ⟨rfl, rfl⟩

theorem listMsg_neutral (subType : UInt8) (len bytes : Nat)
    (uids : List Uid) : Neutral (listMsg subType len bytes uids) := ⟨rfl, rfl⟩

/-- What is queued to a connection between two states takes the session it was
bound to before to the one it is bound to after. -/
def Announces (s s' : Connections ω) (fd : Fd) : Prop :=
  ∃ msgs, (s'.conns fd).history.pushed =
      (s.conns fd).history.pushed ++ msgs ∧
    hearAll (s.fdToUid.lookup fd) msgs = some (s'.fdToUid.lookup fd)

theorem Announces.trans (first : Announces s s' fd)
    (second : Announces s' s'' fd) : Announces s s'' fd := by
  obtain ⟨early, before, heard⟩ := first
  obtain ⟨late, after, heard'⟩ := second
  refine ⟨early ++ late, ?_, ?_⟩
  · rw [after, before, List.append_assoc]
  · rw [hearAll_append, heard]
    exact heard'

theorem Announces.of_queued {l : List (Fd × Message)}
    (queued : Queued s s' l) (same : s'.fdToUid = s.fdToUid)
    (neutral : ∀ push ∈ l, Neutral push.2) (fd : Fd) : Announces s s' fd := by
  refine ⟨sentTo fd l, by rw [queued.conns, Conn.pushAll_pushed], ?_⟩
  rw [same]
  apply hearAll_neutral
  intro msg member
  exact neutral (fd, msg) (mem_sentTo.mp member)

theorem takeover_announces {uid : Uid} {first : Bool} {subType : UInt8}
    (took : takeover s uid first = .ok (subType, s')) (fd : Fd) :
    Announces s s' fd := by
  rcases takeover_eq took with ⟨_, _, rfl⟩ | ⟨_, _, _, rfl⟩ |
    ⟨other, _, _, bound, _, rfl⟩
  · exact ⟨[], by simp, rfl⟩
  · exact ⟨[], by simp, rfl⟩
  · have queued := Queued.of_push s s.db other shutdownMsg
    refine ⟨sentTo fd [(other, shutdownMsg)], ?_, ?_⟩
    · exact congrArg (fun conn => conn.history.pushed) (queued.conns fd)
    · rw [sentTo_cons, sentTo_nil, FinMap.lookup_erase_eq]
      cases same : decide (fd = other) with
      | true =>
          have here := of_decide_eq_true same
          subst here
          rw [if_pos rfl, if_pos rfl, bound]
          exact hear_shutdown uid
      | false =>
          have away := of_decide_eq_false same
          rw [if_neg (Ne.symm away), if_neg away]
          rfl

theorem welcomed_announces {uid : Uid} {subType : UInt8} {primaryColor : Int}
    {target : Fd} (code : subType = 0x00 ∨ subType = 0x01 ∨ subType = 0x02)
    (free : s.fdToUid.lookup target = none) (fd : Fd) :
    Announces s (s.welcomed target uid subType primaryColor) fd := by
  have queued := Queued.pushes s ((target, loginMsg subType uid
    primaryColor) :: s.fdToUid.entries.map fun entry =>
      (entry.1, onlineMsg uid true))
  refine ⟨sentTo fd ((target, loginMsg subType uid primaryColor) ::
    s.fdToUid.entries.map fun entry => (entry.1, onlineMsg uid true)), ?_, ?_⟩
  · exact congrArg (fun conn => conn.history.pushed) (queued.conns fd)
  · have others : ∀ session, hearAll session (sentTo fd
        (s.fdToUid.entries.map fun entry => (entry.1, onlineMsg uid true))) =
          some session := by
      apply hearAll_neutral
      intro msg member
      obtain ⟨_, _, sent⟩ := List.mem_map.mp (mem_sentTo.mp member)
      rw [← (Prod.mk.inj sent).2]
      exact onlineMsg_neutral uid true
    rw [welcomed_fdToUid, FinMap.lookup_insert_eq, sentTo_cons]
    cases same : decide (fd = target) with
    | true =>
        have here := of_decide_eq_true same
        subst here
        rw [if_pos rfl, if_pos rfl, free, hearAll, List.foldlM_cons,
          hear_welcome code]
        exact others (some uid)
    | false =>
        have away := of_decide_eq_false same
        rw [if_neg (Ne.symm away), if_neg away]
        exact others _

theorem pushUserlist_announces {target : Fd}
    (listed : s.pushUserlist env target = .ok s') (fd : Fd) :
    Announces s s' fd := by
  obtain ⟨_, _, db, _, onlineBytes, offlineBytes, online, offline, _, _, _, _,
    _, rfl⟩ := pushUserlist_eq listed
  refine .of_queued (Queued.of_pushes s db _) (by simp) ?_ fd
  intro push member
  simp only [List.mem_cons, List.not_mem_nil, or_false] at member
  rcases member with rfl | rfl
  · exact listMsg_neutral _ _ _ _
  · exact listMsg_neutral _ _ _ _

theorem Handled.announces {target : Fd} (handled : Handled env s target s')
    (fd : Fd) : Announces s s' fd := by
  cases handled with
  | @answer db msg made =>
      refine .of_queued (Queued.of_push s db target msg) rfl ?_ fd
      intro push member
      rw [List.mem_singleton.mp member]
      exact made.neutral
  | @text db exist uid dstUid type kind size read bound =>
      refine .of_queued (Queued.of_pushes s db ((target,
        textAnswer exist true) :: (s.textTargets uid dstUid).map fun other =>
          (other, textMsg uid (s.frame target)))) (by simp) ?_ fd
      intro push member
      rcases List.mem_cons.mp member with rfl | forwarded
      · exact (Answer.text exist true).neutral
      · obtain ⟨other, _, rfl⟩ := List.mem_map.mp forwarded
        exact textMsg_neutral uid _
  | @file db uid dstUid other type kind size read bound found =>
      refine .of_queued (Queued.of_push s db other _) rfl ?_ fd
      intro push member
      rw [List.mem_singleton.mp member]
      exact transfileMsg_neutral kind
  | @login db uid first subType primaryColor taken after verified took free
      fresh listed =>
      have code := (takeover_emits target rfl took).1
      have noted : Announces s ({ s with db := db }.noteLogin target true uid)
          fd := ⟨[], (List.append_nil _).symm, rfl⟩
      have shut := takeover_announces took fd
      have welcome : Announces taken (taken.welcomed target uid subType
          primaryColor) fd := welcomed_announces code free fd
      have told := pushUserlist_announces listed fd
      exact ((noted.trans shut).trans welcome).trans told

theorem closeConn_announces {target : Fd} (ended : s.closeConn target = .ok s')
    (other : fd ≠ target) : Announces s s' fd := by
  obtain ⟨_, ⟨_, rfl⟩ | ⟨uid, _, _, _, rfl⟩⟩ := closeConn_ok ended
  · refine ⟨[], ?_, rfl⟩
    rw [closed, setConn_conns, if_neg other, List.append_nil]
  · have queued := Queued.pushes (s.unbind target uid)
      ((s.unbind target uid).farewell uid)
    refine ⟨sentTo fd ((s.unbind target uid).farewell uid), ?_, ?_⟩
    · rw [closed, setConn_conns, if_neg other, queued.conns,
        Conn.pushAll_pushed]
      rfl
    · have kept : (((s.unbind target uid).pushes
          ((s.unbind target uid).farewell uid)).closed target).fdToUid.lookup
            fd = s.fdToUid.lookup fd := by
        simp [closed, setConn, unbind, other]
      rw [kept]
      apply hearAll_neutral
      intro msg member
      rw [(mem_farewell member).1]
      exact onlineMsg_neutral uid false

end Connections

open Connections

theorem announced_invariant : (machine env).Invariant fun s =>
    ∀ fd, s.clientFds fd = true →
      hearAll none (s.conns.conns fd).history.pushed =
        some (s.conns.fdToUid.lookup fd) where
  start := by
    rintro _ ⟨db, size, rfl⟩ fd opened
    cases opened
  kept := by
    intro before step after reached heard allowed moved fd opened
    have later (announces : Announces before.conns after.conns fd)
        (earlier : before.clientFds fd = true) :
        hearAll none (after.conns.conns fd).history.pushed =
          some (after.conns.fdToUid.lookup fd) := by
      obtain ⟨msgs, pushed, told⟩ := announces
      rw [pushed, hearAll_append, heard fd earlier]
      exact told
    rw [State.next_clientFds moved] at opened
    cases step with
    | accept target =>
        cases moved
        cases same : decide (fd = target) with
        | true =>
            have here := of_decide_eq_true same
            subst here
            have free : before.conns.fdToUid.lookup fd = none := by
              cases bound : before.conns.fdToUid.lookup fd with
              | none => rfl
              | some uid =>
                  have open' := (sessions_invariant.holds reached).opened fd
                    uid bound
                  rw [allowed.2] at open'
                  cases open'
            have fresh : ((before.conns.accepted fd).conns fd).history.pushed =
                [] := by
              simp [accepted]
            change hearAll none ((before.conns.accepted fd).conns
              fd).history.pushed = some (before.conns.fdToUid.lookup fd)
            rw [fresh, free]
            rfl
        | false =>
            have away := of_decide_eq_false same
            refine later ⟨[], ?_, rfl⟩ ?_
            · simp [accepted, setConn_conns, away]
            · simpa [away] using opened
    | recvMsg target net =>
        refine later ?_ opened
        obtain ⟨⟨keep, conns⟩, received, rest⟩ := Exec.of_bind_ok moved
        cases rest
        have taken : Announces before.conns (before.conns.setConn target
            ((before.conns.conns target).receive net).2) fd := by
          refine ⟨[], ?_, rfl⟩
          rw [setConn_pushed reached target fd net, List.append_nil]
        rcases recvMsg_handled received with rfl | handled
        · exact taken
        · exact taken.trans (handled.announces fd)
    | sendMsg target net =>
        refine later ?_ opened
        obtain ⟨⟨keep, conns⟩, sent, rest⟩ := Exec.of_bind_ok moved
        cases rest
        obtain ⟨_, _, _, outlet, conn, _, wrote, _, rfl⟩ := sendMsg_ok sent
        obtain ⟨reported, chunk, transmitted⟩ := Conn.transmit_transmitted wrote
        refine ⟨[], ?_, rfl⟩
        change ((before.conns.setConn target conn).conns fd).history.pushed = _
        rw [setConn_conns, List.append_nil]
        split
        next here => rw [here, transmitted.pushed]
        next => rfl
    | closeConn target =>
        obtain ⟨conns, ended, rest⟩ := Exec.of_bind_ok moved
        cases rest
        have other : fd ≠ target := by
          rintro rfl
          simp at opened
        refine later (closeConn_announces ended other) ?_
        simpa [other] using opened

/-- The session of an open connection is what the messages queued to it say:
taken in order, each welcome meets a connection without a session and each
shutdown one with a session, and all of them amount to the user the connection
is bound to. -/
theorem session_announced (env : Env ω) (s : State ω)
    (reached : (machine env).Reachable s) (fd : Fd)
    (opened : s.clientFds fd = true) :
    hearAll none (s.conns.conns fd).history.pushed =
      some (s.conns.fdToUid.lookup fd) :=
  announced_invariant.holds reached fd opened

/-- A user who logs in on a second connection and then on it again. -/
def threeLogins : List Step :=
  arrives 4 [loginFrame "a"] ++ arrives 5 [loginFrame "a", loginFrame "a"]

/-- The first connection was shut down, the second one has been twice
welcomed. -/
theorem session_announced_again : ∃ s : State (List Record),
    hearAll none (s.conns.conns 4).history.pushed = some none ∧
    hearAll none (s.conns.conns 5).history.pushed = some (some 1) ∧
    (s.conns.conns 5).history.pushed.countP isWelcome = 2 := by
  have replayed : ((machine (Tables.keptEnv threeAccounts)).replay
      (.init [] 1024) threeLogins).any (fun s =>
        s.clientFds 4 ∧ s.clientFds 5 ∧
        s.conns.fdToUid.lookup 4 = none ∧
        s.conns.fdToUid.lookup 5 = some 1 ∧
        (s.conns.conns 5).history.pushed.countP isWelcome = 2) = true := by
    decide +kernel
  obtain ⟨s, reached, holds⟩ :=
    Machine.Reachable.of_replay replayed (keptEnv_initial threeAccounts)
  obtain ⟨opened, opened', free, bound, count⟩ := of_decide_eq_true holds
  refine ⟨s, ?_, ?_, count⟩
  · rw [session_announced _ s reached 4 opened, free]
  · rw [session_announced _ s reached 5 opened', bound]

end GroupChat.Server
