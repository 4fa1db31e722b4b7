import GroupChat.Server.Presence
import GroupChat.Server.Serving

namespace GroupChat.Server

/-! The users named in the messages about who is online: registered ones. -/

variable {ω : Type} {env : Env ω} {users : List Uid}

/-- A message about who is online is a list of registered users. -/
def Names (users : List Uid) (msg : Message) : Prop :=
  isPresence msg = true →
    ∃ uids, uids ⊆ users ∧ msg.data = uids.flatMap Buffer.ofWord

theorem Silent.names {msg : Message} (silent : Silent msg) :
    Names users msg :=
  fun presence => ⟨[], List.nil_subset users, silent presence⟩

theorem names_online {user : Uid} (known : user ∈ users) (online : Bool) :
    Names users (Connections.onlineMsg user online) := fun _ =>
  ⟨[user], List.cons_subset.mpr ⟨known, List.nil_subset users⟩,
    (List.append_nil _).symm⟩

theorem names_roster (subType : UInt8) {uids : List Uid}
    (known : uids ⊆ users) : Names users (rosterMsg subType uids) :=
  fun _ => ⟨uids, known, rfl⟩

namespace Connections

variable {s s' : Connections ω} {fd : Fd}

/-- All that was queued names registered users only. -/
def Named (users : List Uid) (s : Connections ω) : Prop :=
  ∀ fd, ∀ msg ∈ (s.conns fd).history.pushed, Names users msg

theorem Named.queued {l : List (Fd × Message)} (named : s.Named users)
    (queued : Queued s s' l) (fresh : ∀ push ∈ l, Names users push.2) :
    s'.Named users := by
  intro fd msg member
  rw [queued.conns, Conn.pushAll_pushed] at member
  rcases List.mem_append.mp member with before | here
  · exact named fd msg before
  · exact fresh (fd, msg) (mem_sentTo.mp here)

theorem Named.congr (named : s.Named users) (same : ∀ fd,
    (s'.conns fd).history.pushed = (s.conns fd).history.pushed ∨
      (s'.conns fd).history.pushed = []) : s'.Named users := by
  intro fd msg member
  rcases same fd with same | none
  · exact named fd msg (same ▸ member)
  · rw [none] at member
    cases member

theorem login_names (directory : Directory env users)
    (inverse : FinMap.Inverse s.fdToUid s.uidToFd)
    (registered : s.Registered users) {user : Uid} {first : Bool}
    {subType : UInt8} {color : Int} {taken : Connections ω}
    (known : user ∈ users)
    (took : takeover s user first = .ok (subType, taken))
    (listed : (taken.welcomed fd user subType color).pushUserlist env fd =
      .ok s') :
    ∃ l, Queued s s' l ∧ ∀ push ∈ l, Names users push.2 := by
  obtain ⟨early, queued, shuts⟩ := takeover_queued took
  obtain ⟨_, _, took', taking⟩ := takeover_takesOver inverse user first
  rw [took'] at took
  cases took
  have bound : (taken.welcomed fd user subType color).bound user = true := by
    simp [welcomed_bound]
  have answered : Listed env (taken.welcomed fd user subType color).db := by
    by_contra silent
    exact pushUserlist_unlisted silent bound s' listed
  have lists := pushUserlist_listed directory
    (taking.welcomed_registered registered known fd color) answered
    (show _ = some user by rw [welcomed_fdToUid, AList.lookup_insert]) bound
  rw [lists] at listed
  cases listed
  have told := Queued.pushes taken ((fd, loginMsg subType user color) ::
    taken.fdToUid.entries.map fun entry => (entry.1, onlineMsg user true))
  have welcomed : Queued taken (taken.welcomed fd user subType color) _ :=
    ⟨told.size, told.conns, told.wfds⟩
  refine ⟨_, (queued.trans welcomed).trans (Queued.of_pushes _ _ _), ?_⟩
  intro push member
  simp only [List.mem_append, List.mem_cons, List.mem_map,
    List.not_mem_nil, or_false] at member
  rcases member with (shut | rfl | ⟨entry, _, rfl⟩) | rfl | rfl
  · rw [(shuts push shut).1]
    intro presence
    cases presence
  · intro presence
    cases presence
  · exact names_online known true
  · exact names_roster 0x00 List.filter_sublist.subset
  · exact names_roster 0x01 List.filter_sublist.subset

theorem Handled.names (directory : Directory env users)
    (inverse : FinMap.Inverse s.fdToUid s.uidToFd)
    (registered : s.Registered users) (handled : Handled env s fd s') :
    ∃ l, Queued s s' l ∧ ∀ push ∈ l, Names users push.2 := by
  cases handled with
  | answer db made =>
      refine ⟨_, Queued.of_push s db fd _, ?_⟩
      intro push member
      rw [List.mem_singleton.mp member]
      exact made.silent.names
  | @text db exist user dstUid type kind size read bound =>
      refine ⟨_, Queued.of_pushes s db
        ((fd, textAnswer exist true) :: (s.textTargets user dstUid).map
          fun other => (other, textMsg user (s.frame fd))), ?_⟩
      intro push member
      rcases List.mem_cons.mp member with rfl | forwarded
      · exact (Answer.text exist true).silent.names
      · obtain ⟨other, _, rfl⟩ := List.mem_map.mp forwarded
        exact (textMsg_silent user _).names
  | file db kind size read bound found =>
      refine ⟨_, Queued.of_push s db _ _, ?_⟩
      intro push member
      rw [List.mem_singleton.mp member]
      exact (transfileMsg_silent kind).names
  | @login db user first subType color taken after verified took free fresh
      listed =>
      obtain ⟨l, queued, names⟩ := @login_names ω env users
        ({ s with db := db }.noteLogin fd true user) s' fd directory inverse
        registered user first subType color taken
        (directory.granted user verified) took listed
      exact ⟨l, ⟨queued.size, queued.conns, queued.wfds⟩, names⟩

end Connections

open Connections

theorem named_invariant (directory : Directory env users) :
    (machine env).Invariant fun s => s.conns.Named users where
  start := by
    rintro _ ⟨db, size, rfl⟩ fd msg member
    cases member
  kept := by
    intro before step after reached named allowed moved
    have kept := sessions_invariant.holds reached
    have registered := directory.registered reached
    cases step with
    | accept target =>
        cases moved
        apply named.congr
        intro fd
        by_cases same : fd = target
        · exact .inr (by simp [accepted, same])
        · exact .inl (by simp [accepted, setConn_conns, same])
    | recvMsg target net =>
        obtain ⟨⟨keep, conns⟩, received, rest⟩ := Exec.of_bind_ok moved
        cases rest
        have read : (before.conns.setConn target
            ((before.conns.conns target).receive net).2).Named users :=
          named.congr fun fd => .inl (setConn_pushed reached target fd net)
        rcases recvMsg_handled received with rfl | handled
        · exact read
        · obtain ⟨l, queued, names⟩ := @Handled.names ω env users
            (before.conns.setConn target
              ((before.conns.conns target).receive net).2) conns target
            directory kept.inverse registered handled
          exact Named.queued read queued names
    | sendMsg target net =>
        obtain ⟨⟨keep, conns⟩, sent, rest⟩ := Exec.of_bind_ok moved
        cases rest
        obtain ⟨_, _, _, outlet, conn, _, wrote, _, rfl⟩ := sendMsg_ok sent
        obtain ⟨_, _, transmitted⟩ := Conn.transmit_transmitted wrote
        apply named.congr
        intro fd
        left
        change ((before.conns.setConn target conn).conns fd).history.pushed = _
        rw [setConn_conns]
        split
        · rename_i here
          rw [here, transmitted.pushed]
        · rfl
    | closeConn target =>
        obtain ⟨conns, ended, rest⟩ := Exec.of_bind_ok moved
        cases rest
        have reset (after : Connections ω) (kept : after.Named users) :
            (after.closed target).Named users := by
          apply kept.congr
          intro fd
          left
          rw [closed, setConn_conns]
          split
          · rename_i here
            rw [here]
            rfl
          · rfl
        obtain ⟨_, ⟨_, rfl⟩ | ⟨uid, _, back, _, rfl⟩⟩ := closeConn_ok ended
        · exact reset _ named
        · apply reset
          apply Named.queued (s := before.conns.unbind target uid) named
            (Queued.pushes (before.conns.unbind target uid) _)
          intro push member
          obtain ⟨entry, _, rfl⟩ := List.mem_map.mp member
          exact names_online (registered uid
            (bound_iff.mpr ⟨target, back⟩)) false

end GroupChat.Server
