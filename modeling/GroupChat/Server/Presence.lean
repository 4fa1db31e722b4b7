import GroupChat.Server.Login

namespace GroupChat.Server

/-! Who a client takes to be online, from the lists and notices queued to it. -/

variable {ω : Type} {env : Env ω} {users : List Uid}

def idsOf : Buffer → List Uid
  | b3 :: b2 :: b1 :: b0 :: rest => Buffer.toWord b3 b2 b1 b0 :: idsOf rest
  | _ => []

theorem idsOf_flatMap (uids : List Uid) :
    idsOf (uids.flatMap Buffer.ofWord) = uids := by
  induction uids with
  | nil => rfl
  | cons uid uids induction =>
      rw [List.flatMap_cons]
      simp only [Buffer.ofWord, List.cons_append, List.nil_append, idsOf,
        Buffer.toWord_ofWord]
      rw [induction]

/-- What a client knows of each user: nothing, or whether it is online. -/
abbrev View := Uid → Option Bool

def View.mark (view : View) (uids : List Uid) (online : Bool) : View :=
  fun uid => if uid ∈ uids then some online else view uid

@[simp] theorem View.mark_nil (view : View) (online : Bool) :
    view.mark [] online = view := by
  funext uid
  simp [View.mark]

def View.apply (view : View) (msg : Message) : View :=
  if msg.header.subType = 0x00 then view.mark (idsOf msg.data) true
  else if msg.header.subType = 0x01 then view.mark (idsOf msg.data) false
  else view

/-- What a client knows once it has read these messages. -/
def viewOf (msgs : List Message) : View :=
  msgs.foldl View.apply fun _ => none

theorem viewOf_append (first second : List Message) :
    viewOf (first ++ second) = second.foldl View.apply (viewOf first) :=
  List.foldl_append

def isPresence (msg : Message) : Bool :=
  msg.header.type = 0xA1

/-- A message that tells nothing about who is online: of another type, or the
answer to a frame whose type is not known. -/
def Silent (msg : Message) : Prop :=
  isPresence msg = true → msg.data = []

theorem View.apply_empty (view : View) {msg : Message}
    (empty : msg.data = []) : view.apply msg = view := by
  simp [View.apply, empty, idsOf]

theorem foldl_silent {msgs : List Message} (silent : ∀ msg ∈ msgs, Silent msg)
    (view : View) : (msgs.filter isPresence).foldl View.apply view = view := by
  induction msgs generalizing view with
  | nil => rfl
  | cons msg msgs induction =>
      have rest := fun view => induction (fun other member =>
        silent other (List.mem_cons_of_mem _ member)) view
      cases presence : isPresence msg with
      | false => simpa [presence] using rest view
      | true =>
          have empty := silent msg List.mem_cons_self presence
          simpa [presence, View.apply_empty view empty] using rest view

namespace Connections

variable {s s' : Connections ω} {fd : Fd} {uid : Uid}

/-- What a bound connection was told about who is online since it was bound. -/
def told (s : Connections ω) (fd : Fd) : List Message :=
  ((s.conns fd).history.pushed.drop (s.loginMark fd)).filter isPresence

theorem Answer.silent {msg : Message} (made : Answer msg) : Silent msg := by
  intro presence
  cases made with
  | unknown type => rfl
  | refused => cases presence
  | username name => cases presence
  | absentUser => cases presence
  | absentParty => cases presence
  | records records => cases presence
  | text exist online => cases presence
  | changePwd succeed => cases presence

theorem textMsg_silent (srcUid : Uid) (msg : Message) :
    Silent (textMsg srcUid msg) := by
  intro presence
  cases presence

theorem transfileMsg_silent {type : UInt8} {msg : Message}
    (kind : (msg.header.type, type) ∈ transfileTypes) :
    Silent (transfileMsg type msg) := by
  intro presence
  simp only [transfileTypes, List.mem_cons, Prod.mk.injEq, List.not_mem_nil,
    or_false] at kind
  rcases kind with ⟨_, rfl⟩ | ⟨_, rfl⟩ | ⟨_, rfl⟩ | ⟨_, rfl⟩ <;> cases presence

/-- What a step tells a connection that is bound after it. -/
inductive Tells (users : List Uid) (s s' : Connections ω) (fd : Fd)
    (uid : Uid) : Prop
  | nothing {l : List Message} (before : s.fdToUid.lookup fd = some uid)
      (mark : s'.loginMark fd = s.loginMark fd)
      (pushed : (s'.conns fd).history.pushed =
        (s.conns fd).history.pushed ++ l)
      (silent : ∀ msg ∈ l, Silent msg)
      (same : s'.uidToFd = s.uidToFd)
  | notice {user : Uid} {online : Bool}
      (before : s.fdToUid.lookup fd = some uid)
      (mark : s'.loginMark fd = s.loginMark fd)
      (pushed : (s'.conns fd).history.pushed =
        (s.conns fd).history.pushed ++ [onlineMsg user online])
      (other : user ≠ uid) (known : user ∈ users)
      (changed : ∀ other, s'.bound other =
        if other = user then online else s.bound other)
  | lists (pushed : (s'.conns fd).history.pushed.drop (s'.loginMark fd) =
      [rosterMsg 0x00 (s'.onlineOthers users uid),
        rosterMsg 0x01 (s'.offlineOthers users uid)])
      (mark : s'.loginMark fd ≤ (s'.conns fd).history.pushed.length)

/-- What a bound connection knows about who is online. -/
structure Present (users : List Uid) (s : Connections ω) (fd : Fd)
    (uid : Uid) : Prop where
  mark : s.loginMark fd ≤ (s.conns fd).history.pushed.length
  lists : ∃ online offline rest,
    s.told fd = rosterMsg 0x00 online :: rosterMsg 0x01 offline :: rest ∧
      (online ++ offline).Perm (users.erase uid)
  view : ∀ user, viewOf (s.told fd) user =
    if user = uid then none else if s.bound user = true then some true
      else if user ∈ users then some false else none
  unnamed : ∀ msg ∈ s.told fd, uid ∉ idsOf msg.data

theorem told_append {l : List Message}
    (within : s.loginMark fd ≤ (s.conns fd).history.pushed.length)
    (mark : s'.loginMark fd = s.loginMark fd)
    (pushed : (s'.conns fd).history.pushed =
      (s.conns fd).history.pushed ++ l) :
    s'.loginMark fd ≤ (s'.conns fd).history.pushed.length ∧
      s'.told fd = s.told fd ++ l.filter isPresence := by
  constructor
  · rw [mark, pushed, List.length_append]
    omega
  · rw [told, told, mark, pushed, List.drop_append_of_le_length within,
      List.filter_append]

theorem rosters_perm (distinct : users.Nodup) (s : Connections ω)
    (uid : Uid) :
    (s.onlineOthers users uid ++ s.offlineOthers users uid).Perm
      (users.erase uid) := by
  have online : s.onlineOthers users uid =
      (users.erase uid).filter fun user => s.bound user := by
    rw [distinct.erase_eq_filter, List.filter_filter]
    apply List.filter_congr
    intro user _
    cases same : decide (user = uid) <;> simp_all
  have offline : s.offlineOthers users uid =
      (users.erase uid).filter fun user => ! s.bound user := by
    rw [distinct.erase_eq_filter, List.filter_filter]
    apply List.filter_congr
    intro user _
    cases same : decide (user = uid) <;> simp_all
  rw [online, offline]
  exact List.filter_append_perm _ _

theorem idsOf_roster (subType : UInt8) (uids : List Uid) :
    idsOf (rosterMsg subType uids).data = uids :=
  idsOf_flatMap uids

theorem idsOf_online (user : Uid) (online : Bool) :
    idsOf (onlineMsg user online).data = [user] :=
  idsOf_flatMap [user]

theorem View.apply_online (view : View) (user : Uid) (online : Bool) :
    view.apply (onlineMsg user online) = view.mark [user] online := by
  rw [View.apply, idsOf_online]
  cases online <;> rfl

theorem Present.of_lists (distinct : users.Nodup)
    (registered : s.Registered users)
    (pushed : (s.conns fd).history.pushed.drop (s.loginMark fd) =
      [rosterMsg 0x00 (s.onlineOthers users uid),
        rosterMsg 0x01 (s.offlineOthers users uid)])
    (mark : s.loginMark fd ≤ (s.conns fd).history.pushed.length) :
    Present users s fd uid := by
  have told : s.told fd = [rosterMsg 0x00 (s.onlineOthers users uid),
      rosterMsg 0x01 (s.offlineOthers users uid)] := by
    rw [Connections.told, pushed]
    rfl
  refine ⟨mark, ⟨_, _, [], told, rosters_perm distinct s uid⟩, ?_, ?_⟩
  · intro user
    have view : viewOf (s.told fd) =
        View.mark (View.mark (fun _ => none) (s.onlineOthers users uid) true)
          (s.offlineOthers users uid) false := by
      rw [told]
      simp only [viewOf, List.foldl_cons, List.foldl_nil, View.apply,
        idsOf_roster]
      rfl
    rw [view]
    simp only [View.mark, onlineOthers, offlineOthers, List.mem_filter,
      decide_eq_true_eq]
    have known := registered user
    by_cases self : user = uid
    · simp [self]
    · cases here : s.bound user with
      | true => simp [self, known here]
      | false => simp [self]
  · intro msg member
    rw [told] at member
    simp only [List.mem_cons, List.not_mem_nil, or_false] at member
    rcases member with rfl | rfl <;> rw [idsOf_roster] <;>
      simp [onlineOthers, offlineOthers]

theorem Present.of_tells (distinct : users.Nodup)
    (registered : s'.Registered users) (tells : Tells users s s' fd uid)
    (before : s.fdToUid.lookup fd = some uid → Present users s fd uid) :
    Present users s' fd uid := by
  cases tells with
  | lists pushed mark => exact .of_lists distinct registered pushed mark
  | @nothing l bound mark pushed silent same =>
      have present := before bound
      obtain ⟨within, told⟩ := told_append present.mark mark pushed
      obtain ⟨online, offline, rest, lists, perm⟩ := present.lists
      refine ⟨within, ⟨online, offline, rest ++ l.filter isPresence, ?_, perm⟩,
        ?_, ?_⟩
      · rw [told, lists]
        rfl
      · intro user
        rw [told, viewOf_append, foldl_silent silent, present.view,
          bound_congr same]
      · intro msg member
        rw [told] at member
        rcases List.mem_append.mp member with old | new
        · exact present.unnamed msg old
        · obtain ⟨queued, presence⟩ := List.mem_filter.mp new
          rw [silent msg queued presence]
          exact List.not_mem_nil
  | @notice user online bound mark pushed other known changed =>
      have present := before bound
      obtain ⟨within, told⟩ := told_append present.mark mark pushed
      have only : [onlineMsg user online].filter isPresence =
          [onlineMsg user online] := rfl
      rw [only] at told
      obtain ⟨first, second, rest, lists, perm⟩ := present.lists
      refine ⟨within, ⟨first, second, rest ++ [onlineMsg user online], ?_,
        perm⟩, ?_, ?_⟩
      · rw [told, lists]
        rfl
      · intro target
        rw [told, viewOf_append]
        simp only [List.foldl_cons, List.foldl_nil, View.apply_online,
          View.mark, List.mem_singleton]
        rw [changed, present.view]
        by_cases same : target = user
        · subst same
          cases online <;> simp [other, known]
        · simp [same]
      · intro msg member
        rw [told] at member
        rcases List.mem_append.mp member with old | new
        · exact present.unnamed msg old
        · rw [List.mem_singleton.mp new, idsOf_online, List.mem_singleton]
          exact Ne.symm other

/-! What each step tells. -/

theorem Tells.congr {origin : Connections ω}
    (tells : Tells users origin s' fd uid)
    (forward : origin.fdToUid = s.fdToUid)
    (backward : origin.uidToFd = s.uidToFd)
    (mark : origin.loginMark fd = s.loginMark fd)
    (pushed : (origin.conns fd).history.pushed =
      (s.conns fd).history.pushed) : Tells users s s' fd uid := by
  cases tells with
  | nothing bound mark' pushed' silent same =>
      exact .nothing (forward ▸ bound) (mark'.trans mark)
        (by rw [pushed', pushed]) silent (same.trans backward)
  | notice bound mark' pushed' other known changed =>
      refine .notice (forward ▸ bound) (mark'.trans mark)
        (by rw [pushed', pushed]) other known ?_
      intro target
      rw [changed, bound_congr backward]
  | lists pushed' mark' => exact .lists pushed' mark'

theorem Tells.of_pushes {db : ω} {l : List (Fd × Message)}
    (silent : ∀ push ∈ l, Silent push.2)
    (bound : ({ s with db := db }.pushes l).fdToUid.lookup fd = some uid) :
    Tells users s ({ s with db := db }.pushes l) fd uid := by
  refine @Tells.nothing ω users s _ fd uid (sentTo fd l) ?_ ?_ ?_ ?_ ?_
  · simpa using bound
  · simp
  · rw [pushes_conns, Conn.pushAll_pushed]
  · intro msg member
    exact silent (fd, msg) (mem_sentTo.mp member)
  · simp

/-- Two lists queued right after a connection was bound. -/
theorem Tells.of_listed {w : Connections ω} {db : ω}
    (mark : w.loginMark fd = (w.conns fd).history.pushed.length) :
    Tells users s ({ w with db := db }.pushes
      [(fd, rosterMsg 0x00 (w.onlineOthers users uid)),
        (fd, rosterMsg 0x01 (w.offlineOthers users uid))]) fd uid := by
  have same : ({ w with db := db }.pushes
      [(fd, rosterMsg 0x00 (w.onlineOthers users uid)),
        (fd, rosterMsg 0x01 (w.offlineOthers users uid))]).uidToFd =
      w.uidToFd := pushes_uidToFd _ _
  have sent : sentTo fd [(fd, rosterMsg 0x00 (w.onlineOthers users uid)),
      (fd, rosterMsg 0x01 (w.offlineOthers users uid))] =
      [rosterMsg 0x00 (w.onlineOthers users uid),
        rosterMsg 0x01 (w.offlineOthers users uid)] := by
    simp [sentTo_cons]
  refine .lists ?_ ?_
  · rw [pushes_conns, pushes_loginMark, mark, sent, Conn.pushAll_pushed,
      List.drop_left, onlineOthers_congr same, offlineOthers_congr same]
  · rw [pushes_conns, pushes_loginMark, mark, Conn.pushAll_pushed,
      List.length_append]
    exact Nat.le_add_right _ _

theorem TakesOver.kept {uid : Uid} {first : Bool} {subType : UInt8}
    {taken : Connections ω} (taking : TakesOver s uid first subType taken)
    {other : Fd} {user : Uid} (bound : taken.fdToUid.lookup other = some user) :
    s.fdToUid.lookup other = some user ∧ taken.conns other = s.conns other ∧
      taken.loginMark = s.loginMark := by
  cases taking with
  | skipped flag => exact ⟨bound, rfl, rfl⟩
  | absent flag away => exact ⟨bound, rfl, rfl⟩
  | @shut owner flag found =>
      have left : (s.fdToUid.erase owner).lookup other = some user := bound
      rw [FinMap.lookup_erase_eq] at left
      split at left
      · contradiction
      · rename_i different
        refine ⟨left, ?_, rfl⟩
        simp [unbind, pushShutdown, push_conns, Ne.symm different]

theorem TakesOver.welcomed_registered {user : Uid} {first : Bool}
    {subType : UInt8} {taken : Connections ω}
    (taking : TakesOver s user first subType taken)
    (registered : s.Registered users) (known : user ∈ users) (target : Fd)
    (color : Int) :
    (taken.welcomed target user subType color).Registered users := by
  intro other here
  rw [welcomed_bound] at here
  by_cases same : other = user
  · rw [same]
    exact known
  · exact taking.registered registered other (by simpa [same] using here)

/-- What a login tells the connections that are bound after it. -/
theorem login_tells (directory : Directory env users)
    (inverse : FinMap.Inverse s.fdToUid s.uidToFd)
    (registered : s.Registered users) {target : Fd} {user : Uid}
    {first : Bool} {subType : UInt8} {color : Int} {taken : Connections ω}
    (known : user ∈ users)
    (took : takeover s user first = .ok (subType, taken))
    (fresh : ∀ entry ∈ taken.fdToUid.entries, entry.2 ≠ user)
    (answered : Listed env taken.db)
    (listed : (taken.welcomed target user subType color).pushUserlist env
      target = .ok s')
    (bound : s'.fdToUid.lookup fd = some uid) :
    Tells users s s' fd uid := by
  obtain ⟨subType', taken', took', taking⟩ := takeover_takesOver inverse user
    first
  rw [took'] at took
  cases took
  have known' := taking.welcomed_registered registered known target color
  have lists := pushUserlist_listed directory known'
    (by rw [welcomed_db]; exact answered)
    (show _ = some user by rw [welcomed_fdToUid, AList.lookup_insert])
    (by simp [welcomed_bound])
  rw [lists] at listed
  cases listed
  rw [pushes_fdToUid, welcomed_fdToUid, FinMap.lookup_insert_eq] at bound
  split at bound
  · rename_i here
    cases bound
    subst here
    have marked : (taken.welcomed fd uid subType color).loginMark fd =
        ((taken.welcomed fd uid subType color).conns
          fd).history.pushed.length := by
      rw [welcomed_loginMark, Function.update_self]
    refine .of_listed marked
  · rename_i elsewhere
    obtain ⟨before, conn, mark⟩ := taking.kept bound
    refine @Tells.notice ω users s _ fd uid user true before ?_ ?_ ?_ known ?_
    · rw [pushes_loginMark, welcomed_loginMark,
        Function.update_of_ne elsewhere, mark]
    · rw [pushes_conns]
      simp [sentTo_cons, Ne.symm elsewhere, welcomed_conns, push_conns, bound,
        conn]
    · exact Ne.symm (fresh ⟨fd, uid⟩ (FinMap.mem_entries.mpr bound))
    · intro other
      refine Eq.trans (congrFun (@bound_congr ω
        (taken.welcomed target user subType color) _ ?_) other) ?_
      · exact pushes_uidToFd _ _
      rw [welcomed_bound]
      by_cases same : other = user
      · simp [same]
      · simp only [same, decide_false, Bool.false_or, if_false]
        rw [Connections.bound, (taking.others inverse same).1]
        rfl

theorem Handled.tells (directory : Directory env users)
    (answered : ∀ world, Listed env world)
    (inverse : FinMap.Inverse s.fdToUid s.uidToFd)
    (registered : s.Registered users) {target : Fd}
    (handled : Handled env s target s')
    (bound : s'.fdToUid.lookup fd = some uid) :
    Tells users s s' fd uid := by
  cases handled with
  | @answer db msg made =>
      refine @Tells.of_pushes ω users s fd uid db [(target, msg)] ?_ bound
      intro push member
      rw [List.mem_singleton.mp member]
      exact made.silent
  | @text db exist user dstUid type kind size read sender =>
      refine @Tells.of_pushes ω users s fd uid db
        ((target, textAnswer exist true) :: (s.textTargets user dstUid).map
          fun other => (other, textMsg user (s.frame target))) ?_ bound
      intro push member
      rcases List.mem_cons.mp member with rfl | forwarded
      · exact (Answer.text exist true).silent
      · obtain ⟨other, _, rfl⟩ := List.mem_map.mp forwarded
        exact textMsg_silent user _
  | @file db user dstUid other type kind size read sender found =>
      refine @Tells.of_pushes ω users s fd uid db
        [(other, transfileMsg type (s.frame target))] ?_ bound
      intro push member
      rw [List.mem_singleton.mp member]
      exact transfileMsg_silent kind
  | @login db user first subType color taken after verified took free fresh
      listed =>
      have tells := @login_tells ω env users
        ({ s with db := db }.noteLogin target true user) s' fd uid directory
        inverse registered target user first subType color taken
        (directory.granted user verified) took fresh (answered _) listed bound
      exact tells.congr rfl rfl rfl rfl

theorem closeConn_tells (inverse : FinMap.Inverse s.fdToUid s.uidToFd)
    (registered : s.Registered users) {target : Fd}
    (ended : s.closeConn target = .ok s')
    (bound : s'.fdToUid.lookup fd = some uid) :
    Tells users s s' fd uid := by
  obtain ⟨_, ⟨free, rfl⟩ | ⟨user, own, back, _, rfl⟩⟩ := closeConn_ok ended
  · have elsewhere : fd ≠ target := by
      intro same
      rw [same] at bound
      rw [show (s.closed target).fdToUid = s.fdToUid from rfl, free] at bound
      cases bound
    refine @Tells.nothing ω users s _ fd uid [] bound rfl ?_ (by simp) rfl
    simp [closed, setConn, elsewhere]
  · have left : (s.fdToUid.erase target).lookup fd = some uid := by
      simpa [closed, setConn, unbind] using bound
    have others := left
    rw [FinMap.lookup_erase_eq] at others
    split at others
    · contradiction
    · rename_i elsewhere
      refine @Tells.notice ω users s _ fd uid user false others ?_ ?_ ?_ ?_ ?_
      · simp [closed, setConn, unbind]
      · have sent : sentTo fd ((s.unbind target user).farewell user) =
            [onlineMsg user false] := by
          rw [farewell, sentTo_entries]
          simp [unbind, left]
        simp only [closed, setConn, Function.update_of_ne elsewhere,
          pushes_conns, sent, Conn.pushAll_pushed]
        rfl
      · intro same
        rw [same] at own
        exact elsewhere (inverse.value_injective others own)
      · exact registered user (bound_iff.mpr ⟨target, back⟩)
      · intro other
        have gone : ((((s.unbind target user).pushes
            ((s.unbind target user).farewell user)).closed target).uidToFd) =
              s.uidToFd.erase user := by
          simp [closed, setConn, unbind]
        rw [Connections.bound, gone, FinMap.lookup_erase_eq]
        split <;> rfl

end Connections

open Connections in
/-- What one step tells a connection that is bound after it. -/
theorem State.tells (directory : Directory env users)
    (answered : ∀ world, Listed env world) {s s' : State ω} {step : Step}
    (kept : SessionsKept s) (registered : s.conns.Registered users)
    (proper : ∀ fd, (s.conns.conns fd).Receiving)
    (allowed : s.Enabled step) (moved : s.next env step = .ok s') {fd : Fd}
    {uid : Uid} (bound : s'.conns.fdToUid.lookup fd = some uid) :
    Tells users s.conns s'.conns fd uid := by
  cases step with
  | accept target =>
      cases moved
      have elsewhere : fd ≠ target := by
        intro same
        have opened := kept.opened fd uid bound
        rw [same, allowed.2] at opened
        contradiction
      refine @Tells.nothing ω users s.conns _ fd uid [] bound ?_ ?_ (by simp)
        rfl
      · simp [accepted, elsewhere]
      · simp [accepted, setConn, elsewhere]
  | recvMsg target net =>
      obtain ⟨⟨keep, conns⟩, received, rest⟩ := Exec.of_bind_ok moved
      cases rest
      obtain ⟨_, reception⟩ := Conn.receive_received net (proper target)
      have pushed : ((s.conns.setConn target
          ((s.conns.conns target).receive net).2).conns fd).history.pushed =
            (s.conns.conns fd).history.pushed := by
        rw [setConn_conns]
        split
        · rename_i same
          rw [reception.same.pushed, same]
        · rfl
      rcases recvMsg_handled received with rfl | handled
      · exact @Tells.nothing ω users s.conns _ fd uid [] bound rfl
          (by rw [List.append_nil]; exact pushed) (by simp) rfl
      · have tells := @Handled.tells ω env users (s.conns.setConn target
          ((s.conns.conns target).receive net).2) conns fd uid directory
          answered kept.inverse registered target handled bound
        exact tells.congr rfl rfl rfl pushed
  | sendMsg target net =>
      obtain ⟨⟨keep, conns⟩, sent, rest⟩ := Exec.of_bind_ok moved
      cases rest
      obtain ⟨_, _, msg, outlet, conn, _, transmitted, _, rfl⟩ :=
        sendMsg_ok sent
      obtain ⟨_, _, sending⟩ := Conn.transmit_transmitted transmitted
      refine @Tells.nothing ω users s.conns _ fd uid [] bound rfl ?_ (by simp)
        rfl
      simp only [State.called, setConn_conns, List.append_nil]
      split
      · rename_i same
        rw [sending.pushed, same]
      · rfl
  | closeConn target =>
      obtain ⟨conns, ended, rest⟩ := Exec.of_bind_ok moved
      cases rest
      exact closeConn_tells kept.inverse registered ended bound

theorem presence_invariant (directory : Directory env users)
    (answered : ∀ world, Listed env world) :
    (machine env).Invariant fun s => ∀ fd uid,
      s.conns.fdToUid.lookup fd = some uid →
        Connections.Present users s.conns fd uid where
  start := by
    intro s first fd uid bound
    obtain ⟨db, size, rfl⟩ := first
    simp [State.init, Connections.init] at bound
  kept := by
    intro before step after reached present allowed moved fd uid bound
    have tells := State.tells directory answered
      (sessions_invariant.holds reached) (directory.registered reached)
      (fun fd => (queues_invariant.holds reached fd).receiving) allowed moved
      bound
    exact .of_tells directory.distinct
      (directory.registered (.step reached allowed moved)) tells
      (present fd uid)

/-- In every running state the messages about who is online that a connection
was told since it was bound, applied in order, mark as online exactly the other
bound users and as offline exactly the other registered ones; the two lists at
their front name each other user once, and none of them names the connection's
own. -/
theorem presence_views (env : Env ω) (users : List Uid)
    (directory : Directory env users) (answered : ∀ world, Listed env world)
    (s : State ω) (reached : (machine env).Reachable s) (fd : Fd) (uid : Uid)
    (bound : s.conns.fdToUid.lookup fd = some uid) :
    (∀ user, viewOf (s.conns.told fd) user = some true ↔
      user ≠ uid ∧ ∃ other, s.conns.uidToFd.lookup user = some other) ∧
    (∀ user, viewOf (s.conns.told fd) user = some false ↔
      user ≠ uid ∧ user ∈ users ∧ s.conns.uidToFd.lookup user = none) ∧
    (∃ online offline rest, s.conns.told fd =
      rosterMsg 0x00 online :: rosterMsg 0x01 offline :: rest ∧
      (online ++ offline).Perm (users.erase uid)) ∧
    ∀ msg ∈ s.conns.told fd, uid ∉ idsOf msg.data := by
  have present := (presence_invariant directory answered).holds reached fd uid
    bound
  refine ⟨?_, ?_, present.lists, present.unnamed⟩
  · intro user
    rw [present.view, ← Connections.bound_iff]
    by_cases self : user = uid
    · simp [self]
    · cases here : s.conns.bound user with
      | true => simp [self]
      | false =>
          simp only [self, if_false, Bool.false_eq_true]
          split <;> simp
  · intro user
    have away : s.conns.uidToFd.lookup user = none ↔
        s.conns.bound user = false := by
      rw [Connections.bound, Option.isSome_eq_false_iff, Option.isNone_iff_eq_none]
    rw [present.view, away]
    by_cases self : user = uid
    · simp [self]
    · cases here : s.conns.bound user with
      | true => simp [self]
      | false =>
          simp only [self, if_false, Bool.false_eq_true]
          split <;> simp [*]

/-- A takeover and a close, as a third user sees them. -/
theorem presence_views_third : ∃ s : State (List Record),
    (machine (Tables.keptEnv threeAccounts)).Reachable s ∧
    viewOf (s.conns.told 4) 2 = some true ∧
    viewOf (s.conns.told 4) 3 = some false := by
  have replayed : ((machine (Tables.keptEnv threeAccounts)).replay
      (.init [] 1024) (arrives 4 [loginFrame "a"] ++
        arrives 5 [loginFrame "c"] ++ arrives 6 [loginFrame "b"] ++
        [.closeConn 5] ++ arrives 5 [loginFrame "b"] ++ [.closeConn 6])).any
        (fun s => s.conns.fdToUid.lookup 4 = some 1 ∧
          s.conns.uidToFd.lookup 2 = some 5 ∧
          s.conns.uidToFd.lookup 3 = none) = true := by
    decide +kernel
  obtain ⟨s, reached, holds⟩ :=
    Machine.Reachable.of_replay replayed (keptEnv_initial threeAccounts)
  obtain ⟨bound, online, offline⟩ := of_decide_eq_true holds
  obtain ⟨marked, unmarked, _⟩ := presence_views _ _ threeAccounts_directory
    Tables.keptEnv_listed s reached 4 1 bound
  exact ⟨s, reached, (marked 2).mpr ⟨by decide, 5, online⟩,
    (unmarked 3).mpr ⟨by decide, by decide, offline⟩⟩

end GroupChat.Server
