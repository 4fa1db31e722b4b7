import GroupChat.Server.Run
import GroupChat.Server.Tables

namespace GroupChat.Server

/-! Which user is bound to which connection, over whole runs. -/

variable {ω : Type} {env : Env ω}

namespace Connections

/-- Two states bind the same users to the same connections. -/
structure SameBindings (s s' : Connections ω) : Prop where
  fdToUid : s'.fdToUid = s.fdToUid
  uidToFd : s'.uidToFd = s.uidToFd
  logins : s'.logins = s.logins
  loginMark : s'.loginMark = s.loginMark

/-- The two maps a login finds once a session of the user elsewhere is shut
down. -/
inductive Vacated (forward : FinMap Fd Uid) (backward : FinMap Uid Fd)
    (uid : Uid) : FinMap Fd Uid → FinMap Uid Fd → Prop
  | already : Vacated forward backward uid forward backward
  | taken {other : Fd} (found : backward.lookup uid = some other)
      (back : forward.lookup other = some uid) :
      Vacated forward backward uid (forward.erase other) (backward.erase uid)

/-- A user is bound to a connection that was free. -/
structure Binds (env : Env ω) (s s' : Connections ω) (fd : Fd) (uid : Uid) :
    Prop where
  verified : Verified env uid
  vacated : ∃ forward backward,
    Vacated s.fdToUid s.uidToFd uid forward backward ∧
    forward.lookup fd = none ∧ (∀ entry ∈ forward.entries, entry.2 ≠ uid) ∧
    s'.fdToUid = forward.insert fd uid ∧ s'.uidToFd = backward.insert uid fd
  logins : s'.logins = Function.update s.logins fd (s.logins fd ++ [uid])

theorem takeover_vacated {s taken : Connections ω} {uid : Uid} {first : Bool}
    {subType : UInt8}
    (took : takeover s uid first = .ok (subType, taken)) :
    Vacated s.fdToUid s.uidToFd uid taken.fdToUid taken.uidToFd ∧
      taken.logins = s.logins := by
  rcases takeover_eq took with ⟨_, _, rfl⟩ | ⟨_, _, _, rfl⟩ |
    ⟨other, _, found, back, _, rfl⟩
  · exact ⟨.already, rfl⟩
  · exact ⟨.already, rfl⟩
  · exact ⟨.taken found back, rfl⟩

theorem pushUserlist_bindings {s s' : Connections ω} {fd : Fd}
    (pushed : s.pushUserlist env fd = .ok s') : SameBindings s s' := by
  obtain ⟨_, _, _, _, _, _, _, _, _, _, _, _, _, rfl⟩ := pushUserlist_eq pushed
  constructor <;> simp

/-- Handling a frame changes no binding, or it is a login. -/
theorem Handled.bindings {s s' : Connections ω} {fd : Fd}
    (handled : Handled env s fd s') :
    SameBindings s s' ∨ ∃ uid, Binds env s s' fd uid := by
  cases handled with
  | answer db made => exact .inl ⟨rfl, rfl, rfl, rfl⟩
  | text db exist type kind size read bound =>
      left
      constructor <;> simp
  | file db kind size read bound found => exact .inl ⟨rfl, rfl, rfl, rfl⟩
  | @login db uid first subType primaryColor taken after verified took free
      fresh listed =>
      right
      obtain ⟨vacated, logins⟩ := takeover_vacated took
      have same := pushUserlist_bindings listed
      refine ⟨uid, verified, ⟨taken.fdToUid, taken.uidToFd, vacated, free, fresh, ?_, ?_⟩,
        ?_⟩
      · rw [same.fdToUid]
        simp [welcomed, bind]
      · rw [same.uidToFd]
        simp [welcomed, bind]
      · rw [same.logins]
        simp only [welcomed, bind, pushes_logins, push_logins]
        exact logins

end Connections

/-- What holds of the bindings between two steps. -/
structure SessionsKept (s : State ω) : Prop where
  inverse : FinMap.Inverse s.conns.fdToUid s.conns.uidToFd
  opened : ∀ fd uid, s.conns.fdToUid.lookup fd = some uid →
    s.clientFds fd = true
  legal : ∀ fd uid, s.conns.fdToUid.lookup fd = some uid →
    uid ∈ s.conns.logins fd

namespace SessionsKept

open Connections

theorem init (db : ω) (size : Nat) : SessionsKept (State.init db size) where
  inverse := FinMap.Inverse.empty
  opened := fun fd uid bound => by
    simp [State.init, Connections.init] at bound
  legal := fun fd uid bound => by
    simp [State.init, Connections.init] at bound

theorem accept {s : State ω} {fd : Fd} (kept : SessionsKept s)
    (closed : s.clientFds fd = false) :
    SessionsKept { conns := s.conns.accepted fd
                   clientFds := Function.update s.clientFds fd true
                   hung := Function.update s.hung fd false } where
  inverse := kept.inverse
  opened := fun other uid bound => by
    by_cases same : other = fd
    · simp [same]
    · simpa [Function.update_of_ne same] using kept.opened other uid bound
  legal := fun other uid bound => by
    have different : other ≠ fd := by
      rintro rfl
      rw [kept.opened other uid bound] at closed
      contradiction
    simpa [accepted, Function.update_of_ne different]
      using kept.legal other uid bound

theorem same {s : State ω} {conns : Connections ω} {hung : Fd → Bool}
    (kept : SessionsKept s) (unchanged : SameBindings s.conns conns) :
    SessionsKept { s with conns := conns, hung := hung } where
  inverse := by
    simpa only [unchanged.fdToUid, unchanged.uidToFd] using kept.inverse
  opened := by simpa only [unchanged.fdToUid] using kept.opened
  legal := by
    simpa only [unchanged.fdToUid, unchanged.logins] using kept.legal

theorem vacated {s : State ω} {uid : Uid} {forward : FinMap Fd Uid}
    {backward : FinMap Uid Fd} (kept : SessionsKept s)
    (vacated : Vacated s.conns.fdToUid s.conns.uidToFd uid forward backward) :
    FinMap.Inverse forward backward ∧
      ∀ fd other, forward.lookup fd = some other →
        s.conns.fdToUid.lookup fd = some other := by
  cases vacated with
  | already => exact ⟨kept.inverse, fun _ _ bound => bound⟩
  | taken found back =>
      refine ⟨kept.inverse.erase back, ?_⟩
      intro fd other bound
      rw [FinMap.lookup_erase_eq] at bound
      split at bound
      · contradiction
      · exact bound

theorem binds {s : State ω} {conns : Connections ω} {hung : Fd → Bool}
    {fd : Fd} {uid : Uid} (kept : SessionsKept s)
    (here : s.clientFds fd = true) (bound : Binds env s.conns conns fd uid) :
    SessionsKept { s with conns := conns, hung := hung } := by
  obtain ⟨_, ⟨forward, backward, left, free, fresh, forwardEq, backwardEq⟩,
    logins⟩ := bound
  obtain ⟨inverse, fewer⟩ := kept.vacated left
  have unused := (inverse.fresh_iff uid).mp fresh
  constructor
  · simpa only [forwardEq, backwardEq] using inverse.insert free unused
  · intro other image present
    simp only [forwardEq, FinMap.lookup_insert_eq] at present
    split at present
    · rename_i same
      rw [same]
      exact here
    · exact kept.opened other image (fewer other image present)
  · intro other image present
    simp only [forwardEq, FinMap.lookup_insert_eq] at present
    simp only [logins]
    by_cases same : other = fd
    · simp only [same, if_true, Option.some.injEq] at present
      simp [same, present]
    · simp only [same, if_false] at present
      rw [Function.update_of_ne same]
      exact kept.legal other image (fewer other image present)

theorem handled {s : State ω} {conns after : Connections ω}
    {hung : Fd → Bool} {fd : Fd} (kept : SessionsKept s)
    (here : s.clientFds fd = true) (unchanged : SameBindings s.conns conns)
    (handled : Handled env conns fd after) :
    SessionsKept { s with conns := after, hung := hung } := by
  have middle : SessionsKept { s with conns := conns } := kept.same unchanged
  rcases handled.bindings with same | ⟨uid, binds⟩
  · exact middle.same same
  · exact middle.binds here binds

theorem close {s : State ω} {conns : Connections ω} {fd : Fd}
    (kept : SessionsKept s) (ended : s.conns.closeConn fd = .ok conns) :
    SessionsKept { conns := conns
                   clientFds := Function.update s.clientFds fd false
                   hung := Function.update s.hung fd false } := by
  obtain ⟨_, ⟨free, rfl⟩ | ⟨uid, bound, _, _, rfl⟩⟩ := closeConn_ok ended
  · have elsewhere : ∀ other image,
        s.conns.fdToUid.lookup other = some image → other ≠ fd := by
      rintro other image present rfl
      rw [free] at present
      contradiction
    refine ⟨kept.inverse, ?_, kept.legal⟩
    intro other image present
    simpa [Function.update_of_ne (elsewhere other image present)]
      using kept.opened other image present
  · have remaining : ∀ other image,
        (s.conns.fdToUid.erase fd).lookup other = some image →
          other ≠ fd ∧ s.conns.fdToUid.lookup other = some image := by
      intro other image present
      rw [FinMap.lookup_erase_eq] at present
      split at present
      · contradiction
      · rename_i different
        exact ⟨different, present⟩
    constructor
    · simpa [Connections.closed, unbind, setConn] using kept.inverse.erase bound
    · intro other image present
      obtain ⟨different, before⟩ := remaining other image
        (by simpa [Connections.closed, unbind, setConn] using present)
      simpa [Function.update_of_ne different]
        using kept.opened other image before
    · intro other image present
      obtain ⟨_, before⟩ := remaining other image
        (by simpa [Connections.closed, unbind, setConn] using present)
      simpa [Connections.closed, unbind, setConn]
        using kept.legal other image before

end SessionsKept

theorem sessions_invariant :
    (machine env).Invariant SessionsKept where
  start := by
    rintro _ ⟨db, size, rfl⟩
    exact SessionsKept.init db size
  kept := by
    intro before step after _ kept allowed moved
    cases step with
    | accept fd =>
        cases moved
        exact kept.accept allowed.2
    | recvMsg fd net =>
        obtain ⟨⟨keep, conns⟩, received, rest⟩ := Exec.of_bind_ok moved
        cases rest
        have unchanged : Connections.SameBindings before.conns
            (before.conns.setConn fd ((before.conns.conns fd).receive net).2) :=
          ⟨rfl, rfl, rfl, rfl⟩
        rcases Connections.recvMsg_handled received with rfl | handled
        · exact kept.same unchanged
        · exact kept.handled allowed unchanged handled
    | sendMsg fd net =>
        obtain ⟨⟨keep, conns⟩, sent, rest⟩ := Exec.of_bind_ok moved
        cases rest
        obtain ⟨_, _, _, _, _, _, _, _, rfl⟩ := Connections.sendMsg_ok sent
        exact kept.same ⟨rfl, rfl, rfl, rfl⟩
    | closeConn fd =>
        obtain ⟨conns, ended, rest⟩ := Exec.of_bind_ok moved
        cases rest
        exact kept.close ended

/-- What a step makes of the ids whose logins were found legal. -/
theorem verified_invariant : (machine env).Invariant fun s =>
    ∀ fd, ∀ uid ∈ s.conns.logins fd, Connections.Verified env uid where
  start := by
    rintro _ ⟨db, size, rfl⟩ fd uid member
    cases member
  kept := by
    intro before step after _ verified allowed moved fd uid member
    cases step with
    | accept target =>
        cases moved
        by_cases same : fd = target
        · simp [Connections.accepted, same] at member
        · exact verified fd uid
            (by simpa [Connections.accepted, same] using member)
    | recvMsg target net =>
        obtain ⟨⟨keep, conns⟩, received, rest⟩ := Exec.of_bind_ok moved
        cases rest
        rcases Connections.recvMsg_handled received with rfl | handled
        · exact verified fd uid member
        · rcases handled.bindings with same | ⟨user, binds⟩
          · exact verified fd uid (same.logins ▸ member)
          · have logins : conns.logins = Function.update before.conns.logins
                target (before.conns.logins target ++ [user]) := binds.logins
            simp only [State.called, logins] at member
            by_cases same : fd = target
            · rw [same, Function.update_self] at member
              rcases List.mem_append.mp member with old | new
              · exact verified target uid old
              · rw [List.mem_singleton.mp new]
                exact binds.verified
            · rw [Function.update_of_ne same] at member
              exact verified fd uid member
    | sendMsg target net =>
        obtain ⟨⟨keep, conns⟩, sent, rest⟩ := Exec.of_bind_ok moved
        cases rest
        obtain ⟨_, _, _, _, _, _, _, _, rfl⟩ := Connections.sendMsg_ok sent
        exact verified fd uid member
    | closeConn target =>
        obtain ⟨conns, ended, rest⟩ := Exec.of_bind_ok moved
        cases rest
        obtain ⟨_, ⟨_, rfl⟩ | ⟨_, _, _, _, rfl⟩⟩ :=
          Connections.closeConn_ok ended
        · exact verified fd uid member
        · exact verified fd uid (by
            simpa [Connections.closed, Connections.setConn,
              Connections.unbind] using member)

theorem bound_verified {s : State ω} (reached : (machine env).Reachable s)
    {fd : Fd} {uid : Uid} (bound : s.conns.fdToUid.lookup fd = some uid) :
    Connections.Verified env uid :=
  verified_invariant.holds reached fd uid
    ((sessions_invariant.holds reached).legal fd uid bound)

theorem closeConn_completes {s : State ω} (kept : SessionsKept s) {fd : Fd}
    (inside : fd < s.conns.size) :
    ∃ after, s.conns.closeConn fd = .ok after := by
  cases bound : s.conns.fdToUid.lookup fd with
  | none => exact ⟨_, Connections.closeConn_free inside bound⟩
  | some uid =>
      refine ⟨_, Connections.closeConn_bound inside bound
        ((kept.inverse fd uid).mp bound) ?_⟩
      rintro ⟨other, image⟩ member rfl
      have present := FinMap.mem_entries.mp member
      rw [FinMap.lookup_erase_eq] at present
      split at present
      · contradiction
      · rename_i different
        exact different (kept.inverse.value_injective present bound)

/-- In every running state the session maps are inverse to each other, bind
open connections only, each to a user whose login was found legal on it, and
any open connection can be closed. -/
theorem sessions_bijective (env : Env ω) (s : State ω)
    (reached : (machine env).Reachable s) :
    (∀ fd uid, s.conns.fdToUid.lookup fd = some uid ↔
      s.conns.uidToFd.lookup uid = some fd) ∧
    (∀ fd uid, s.conns.fdToUid.lookup fd = some uid →
      s.clientFds fd = true ∧ uid ∈ s.conns.logins fd) ∧
    (∀ fd, s.clientFds fd = true →
      ∃ after, s.conns.closeConn fd = .ok after) := by
  have kept := sessions_invariant.holds reached
  refine ⟨kept.inverse, ?_, ?_⟩
  · intro fd uid bound
    exact ⟨kept.opened fd uid bound, kept.legal fd uid bound⟩
  · intro fd opened
    exact closeConn_completes kept (opened_inside reached fd opened)

/-- The login of a user whose password is the user's name. -/
def loginFrame (name : String) : Message :=
  .ofData 0x10 0x00 ((Buffer.ofText name).resize 28 ++
    (Buffer.ofText name).resize 28)

/-- Accept a connection and read one frame after the other from it. -/
def arrives (fd : Fd) (frames : List Message) : List Step :=
  .accept fd :: frames.map fun frame => .recvMsg fd [.data frame.wire]

def threeUsers : State Tables :=
  .init (.ofUsers [("a", 1, false), ("b", 2, false), ("c", 3, true)]) 1024

theorem threeUsers_initial : (machine Tables.env).initial threeUsers :=
  ⟨_, _, rfl⟩

theorem sessions_bijective_two : ∃ s, (machine Tables.env).Reachable s ∧
    s.clientFds 5 = true ∧ 2 ∈ s.conns.logins 5 ∧
    ∃ after, s.conns.closeConn 5 = .ok after := by
  have replayed : ((machine Tables.env).replay threeUsers
      (arrives 4 [loginFrame "a"] ++ arrives 5 [loginFrame "b"])).any
        (fun s => s.conns.fdToUid.lookup 5 = some 2) = true := by
    decide +kernel
  obtain ⟨s, reached, bound⟩ :=
    Machine.Reachable.of_replay replayed threeUsers_initial
  obtain ⟨_, opened, closes⟩ := sessions_bijective Tables.env s reached
  obtain ⟨here, legal⟩ := opened 5 2 (of_decide_eq_true bound)
  exact ⟨s, reached, here, legal, closes 5 here⟩

end GroupChat.Server
