import GroupChat.Server.Privacy
import GroupChat.Server.Shown

namespace GroupChat.Server

/-! Whether the response to a text message tells what became of it. -/

variable {ω : Type} {env : Env ω}

def isTextResponse (msg : Message) : Bool := msg.header.type = 0x93

def textResponse (code : UInt8) : Message where
  header := ⟨0x93, code, Message.netLength 0⟩

theorem textResponse_injective {code code' : UInt8}
    (same : [textResponse code] = [textResponse code']) : code = code' :=
  congrArg (fun msg : Message => msg.header.subType) (List.cons.inj same).1

/-- A text frame as it is to arrive: with the sender's id, the text
unchanged. -/
def arrivingText (uid : Uid) (frame : Message) : Message where
  header := ⟨0xA3, frame.header.subType, htons frame.header.length⟩
  data := Buffer.ofWord uid ++ frame.data.drop 4

/-- What becomes of a text message, by the code of the response. -/
structure Truthful (rows rows' : List Stored) (fd : Fd)
    (intended : Fd → Prop) (text : Message) (sent : Fd → List Message)
    (code : UInt8) : Prop where
  known : code ∈ ([0x00, 0xF0, 0xF1, 0xFF] : List UInt8)
  response : (sent fd).filter isTextResponse = [textResponse code]
  alone : ∀ other, other ≠ fd → (sent other).filter isTextResponse = []
  refused : code = 0xF0 ∨ code = 0xFF →
    rows' = rows ∧ ∀ other, other ≠ fd → sent other = []
  kept : code = 0xF1 → (∃ row, rows' = rows ++ [row]) ∧
    ∀ other, other ≠ fd → sent other = []
  delivered : code = 0x00 → (∃ row, rows' = rows ++ [row]) ∧ ∀ other,
    (intended other → (sent other).filter (! isTextResponse ·) = [text]) ∧
    (¬ intended other → (sent other).filter (! isTextResponse ·) = [])

namespace Connections

variable {s s' : Connections ω} {fd : Fd} {uid dstUid : Uid}

/-- The sessions a text message is meant for. -/
def Intended (s : Connections ω) (fd : Fd) (frame : Message) (dstUid : Uid)
    (other : Fd) : Prop :=
  if frame.header.subType = 0x00 then
    s.uidToFd.lookup dstUid = some other
  else
    other ≠ fd ∧ ∃ user, s.fdToUid.lookup other = some user

theorem textMsg_arrives (uid : Uid) (frame : Message) :
    textMsg uid frame = arrivingText uid frame := by
  simp only [textMsg, arrivingText, Buffer.overwrite, Buffer.length_ofWord,
    List.take_zero, List.nil_append, Nat.zero_add]

theorem mem_textTargets {other : Fd} :
    other ∈ s.textTargets uid dstUid ↔
      if dstUid = 0xFFFF then
        ∃ user, s.fdToUid.lookup other = some user ∧ user ≠ uid
      else s.uidToFd.lookup dstUid = some other := by
  unfold textTargets
  split
  · rw [List.mem_map]
    constructor
    · rintro ⟨entry, member, rfl⟩
      obtain ⟨listed, different⟩ := List.mem_filter.mp member
      exact ⟨entry.2, FinMap.mem_entries.mp listed,
        of_decide_eq_true different⟩
    · rintro ⟨user, bound, different⟩
      exact ⟨⟨other, user⟩, List.mem_filter.mpr
        ⟨FinMap.mem_entries.mpr bound, decide_eq_true different⟩, rfl⟩
  · exact Option.mem_toList

end Connections

open Connections

def responds (fd : Fd) (code : UInt8) (text : Message) (targets : List Fd) :
    List (Fd × Message) :=
  (fd, textResponse code) :: targets.map fun target => (target, text)

theorem sentTo_responds {fd : Fd} {code : UInt8} {text : Message}
    {targets : List Fd} (distinct : targets.Nodup) (other : Fd) :
    sentTo other (responds fd code text targets) =
      (if other = fd then [textResponse code] else []) ++
        if other ∈ targets then [text] else [] := by
  rw [responds, sentTo_cons, sentTo_targets distinct]
  by_cases here : fd = other
  · rw [if_pos here, if_pos here.symm]
    rfl
  · rw [if_neg here, if_neg (Ne.symm here)]
    rfl

section Responds

variable {rows rows' : List Stored} {fd : Fd} {intended : Fd → Prop}
  {text : Message} {code : UInt8} {targets : List Fd}

theorem filter_responds (distinct : targets.Nodup)
    (type : text.header.type = 0xA3) (other : Fd) :
    (sentTo other (responds fd code text targets)).filter isTextResponse =
        (if other = fd then [textResponse code] else []) ∧
      (sentTo other (responds fd code text targets)).filter
          (! isTextResponse ·) = if other ∈ targets then [text] else [] := by
  have here : isTextResponse (textResponse code) = true := rfl
  have away : isTextResponse text = false := by
    simp [isTextResponse, type]
  rw [sentTo_responds distinct]
  constructor
  · by_cases own : other = fd <;> by_cases target : other ∈ targets <;>
      simp [own, target, here, away]
  · by_cases own : other = fd <;> by_cases target : other ∈ targets <;>
      simp [own, target, here, away]

theorem truthful_iff (distinct : targets.Nodup)
    (type : text.header.type = 0xA3)
    (known : code ∈ ([0x00, 0xF0, 0xF1, 0xFF] : List UInt8)) :
    (∃ code', Truthful rows rows' fd intended text
        (fun other => sentTo other (responds fd code text targets)) code') ↔
      (code = 0xF0 ∨ code = 0xFF →
        rows' = rows ∧ ∀ target ∈ targets, target = fd) ∧
      (code = 0xF1 → (∃ row, rows' = rows ++ [row]) ∧
        ∀ target ∈ targets, target = fd) ∧
      (code = 0x00 → (∃ row, rows' = rows ++ [row]) ∧
        ∀ other, other ∈ targets ↔ intended other) := by
  have silent : (∀ other, other ≠ fd →
      sentTo other (responds fd code text targets) = []) ↔
        ∀ target ∈ targets, target = fd := by
    constructor
    · intro none target member
      by_contra other
      have sent := none target other
      rw [sentTo_responds distinct, if_neg other, if_pos member] at sent
      cases sent
    · intro own other different
      have away : other ∉ targets := fun member =>
        different (own other member)
      rw [sentTo_responds distinct, if_neg different, if_neg away]
      rfl
  constructor
  · rintro ⟨code', truthful⟩
    have same : code' = code := by
      have response := truthful.response
      rw [(filter_responds distinct type fd).1, if_pos rfl] at response
      exact (textResponse_injective response).symm
    subst same
    rw [← silent]
    refine ⟨truthful.refused, truthful.kept, ?_⟩
    intro success
    obtain ⟨stored, pushed⟩ := truthful.delivered success
    refine ⟨stored, ?_⟩
    intro other
    obtain ⟨there, elsewhere⟩ := pushed other
    rw [(filter_responds distinct type other).2] at there elsewhere
    constructor
    · intro member
      by_contra unintended
      have none := elsewhere unintended
      rw [if_pos member] at none
      cases none
    · intro intended
      by_contra absent
      have one := there intended
      rw [if_neg absent] at one
      cases one
  · rintro ⟨refused, kept, delivered⟩
    rw [← silent] at refused kept
    refine ⟨code, known, ?_, ?_, refused, kept, ?_⟩
    · rw [(filter_responds distinct type fd).1, if_pos rfl]
    · intro other different
      rw [(filter_responds distinct type other).1, if_neg different]
    · intro success
      obtain ⟨stored, exactly⟩ := delivered success
      refine ⟨stored, ?_⟩
      intro other
      rw [(filter_responds distinct type other).2]
      constructor
      · intro intended
        rw [if_pos ((exactly other).mpr intended)]
      · intro unintended
        rw [if_neg fun member => unintended ((exactly other).mp member)]

end Responds

namespace Connections

variable {s s' : Connections ω} {fd : Fd} {uid dstUid : Uid}

/-- Whether the other side of a text message is there to receive it. -/
def reaches (s : Connections ω) (frame : Message) (dstUid : Uid) : Bool :=
  if frame.header.subType = 0x00 then s.bound dstUid else true

def saved (env : Env ω) (world : ω) (frame : Message) (uid dstUid : Uid) :
    Int × ω :=
  Database.saveMessage env world (toSigned uid) (toSigned dstUid)
    (frame.data.drop 4)

/-- Whether the other side of a text message exists, as it is asked for. -/
def party (env : Env ω) (s : Connections ω) (frame : Message) (dstUid : Uid) :
    Exec (Database.CheckUid ω) :=
  partyExists env s.db (frame.header.subType = 0x00) dstUid false
    (dstUid = 0xFFFF)

theorem parse_misshapenText (type : (s.frame fd).header.type = 0x13)
    (misshapen : ¬ TextShape (s.frame fd)) :
    s.parse env fd = .ok (s.parseUnknown fd) := by
  have refused := not_not.mp (mt textShape_iff.mpr misshapen)
  simp only [parse, type, parseTextmsg, if_pos refused]

/-- A text that is handled to its end was read, is a user's, and its other side
was asked for. -/
theorem parse_text_reads (type : (s.frame fd).header.type = 0x13)
    (shape : TextShape (s.frame fd)) (parsed : s.parse env fd = .ok s') :
    sizeofHeader + (s.frame fd).data.length =
        (s.frame fd).header.length.toNat ∧
      ∃ dstUid, (s.frame fd).data.wordAt 0 = .ok dstUid ∧
        ∃ uid checked, s.myUid fd = .ok uid ∧
          s.party env (s.frame fd) dstUid = .ok checked := by
  simp only [parse, type] at parsed
  unfold parseTextmsg at parsed
  dsimp only at parsed
  split at parsed
  next refused => exact absurd refused (textShape_iff.mp shape)
  next =>
    obtain ⟨_, size, rest⟩ := Exec.of_bind_ok parsed
    obtain ⟨dstUid, read, rest⟩ := Exec.of_bind_ok rest
    obtain ⟨uid, mine, rest⟩ := Exec.of_bind_ok rest
    obtain ⟨checked, found, _⟩ := Exec.of_bind_ok rest
    exact ⟨Exec.require_eq_ok.mp size, dstUid, read, uid, checked, mine,
      found⟩

theorem parse_text {checked : Database.CheckUid ω}
    (type : (s.frame fd).header.type = 0x13)
    (shape : TextShape (s.frame fd))
    (size : sizeofHeader + (s.frame fd).data.length =
      (s.frame fd).header.length.toNat)
    (read : (s.frame fd).data.wordAt 0 = .ok dstUid)
    (mine : s.myUid fd = .ok uid)
    (found : s.party env (s.frame fd) dstUid = .ok checked) :
    s.parse env fd =
      if checked.ret < 0 then
        .ok ({ s with db := checked.world }.parseUnknown fd)
      else
        let (ret, db) := saved env checked.world (s.frame fd) uid dstUid
        if ret < 0 then
          .ok ({ s with db := db }.parseUnknown fd)
        else
          let answered := { s with db := db }.push fd
            (textAnswer checked.exist (s.reaches (s.frame fd) dstUid))
          if s.reaches (s.frame fd) dstUid then
            answered.pushTextmsg uid dstUid (s.frame fd)
          else .ok answered := by
  have accepted := textShape_iff.mp shape
  rw [party] at found
  simp only [parse, type, parseTextmsg, if_neg accepted,
    Exec.require_of size, Exec.bind_ok, read, mine, found, push_frame, saved,
    reaches, bound]
  rfl

/-- A private text for everybody finds the session of that user, and no other
but the sender's own. -/
def Single (s : Connections ω) (frame : Message) (uid dstUid : Uid) : Prop :=
  frame.header.subType = 0x00 → dstUid = 0xFFFF → s.bound dstUid = true →
    uid ≠ dstUid ∧ ∀ user, s.bound user = true → user = uid ∨ user = dstUid

/-- The text is forwarded to nobody, or to the sender only. -/
def Unheard (s : Connections ω) (frame : Message) (uid dstUid : Uid) : Prop :=
  frame.header.subType = 0x00 ∧ s.bound dstUid = false ∨
    dstUid = uid ∧ (dstUid = 0xFFFF →
      ∀ user, s.bound user = true → user = uid)

/-- A text frame whose response will be true: it is refused for its shape, or
because the user cannot be asked for; or the insert fails and leaves no row; or
it leaves one, for a user who exists, with nobody else to forward it to; or it
leaves none and nobody else hears of it. -/
inductive Answerable (table : RecordTable env) (s : Connections ω)
    (frame : Message) (uid dstUid : Uid) : Prop
  | misshapen (shape : ¬ TextShape frame)
  | unchecked {checked : Database.CheckUid ω}
      (found : s.party env frame dstUid = .ok checked)
      (failed : checked.ret < 0)
  | unsaved {checked : Database.CheckUid ω}
      (found : s.party env frame dstUid = .ok checked)
      (answered : 0 ≤ checked.ret)
      (failed : (saved env checked.world frame uid dstUid).1 < 0)
      (none : table.rows (saved env checked.world frame uid dstUid).2 =
        table.rows s.db)
  | stored {checked : Database.CheckUid ω}
      (found : s.party env frame dstUid = .ok checked)
      (answered : 0 ≤ checked.ret)
      (done : 0 ≤ (saved env checked.world frame uid dstUid).1)
      (one : ∃ row, table.rows (saved env checked.world frame uid dstUid).2 =
        table.rows s.db ++ [row])
      (exist : checked.exist = true) (single : s.Single frame uid dstUid)
  | unkept {checked : Database.CheckUid ω}
      (found : s.party env frame dstUid = .ok checked)
      (answered : 0 ≤ checked.ret)
      (done : 0 ≤ (saved env checked.world frame uid dstUid).1)
      (none : table.rows (saved env checked.world frame uid dstUid).2 =
        table.rows s.db)
      (absent : checked.exist = false) (unheard : s.Unheard frame uid dstUid)

theorem answerable_iff (table : RecordTable env) {frame : Message}
    {checked : Database.CheckUid ω} (shape : TextShape frame)
    (found : s.party env frame dstUid = .ok checked)
    (answered : 0 ≤ checked.ret) :
    s.Answerable table frame uid dstUid ↔
      if (saved env checked.world frame uid dstUid).1 < 0 then
        table.rows (saved env checked.world frame uid dstUid).2 =
          table.rows s.db
      else if checked.exist = true then
        (∃ row, table.rows (saved env checked.world frame uid dstUid).2 =
          table.rows s.db ++ [row]) ∧ s.Single frame uid dstUid
      else
        table.rows (saved env checked.world frame uid dstUid).2 =
          table.rows s.db ∧ s.Unheard frame uid dstUid := by
  constructor
  · intro answerable
    cases answerable with
    | misshapen other => exact absurd shape other
    | unchecked found' failed =>
        cases found.symm.trans found'
        omega
    | unsaved found' _ failed none =>
        cases found.symm.trans found'
        rw [if_pos failed]
        exact none
    | stored found' _ done one exist single =>
        cases found.symm.trans found'
        rw [if_neg (Int.not_lt.mpr done), if_pos exist]
        exact ⟨one, single⟩
    | unkept found' _ done none absent unheard =>
        cases found.symm.trans found'
        rw [if_neg (Int.not_lt.mpr done), if_neg (by simp [absent])]
        exact ⟨none, unheard⟩
  · intro holds
    split at holds
    · rename_i failed
      exact .unsaved found answered failed holds
    · rename_i done
      split at holds
      · rename_i exist
        exact .stored found answered (Int.not_lt.mp done) holds.1 exist holds.2
      · rename_i absent
        exact .unkept found answered (Int.not_lt.mp done) holds.1
          (by simpa using absent) holds.2

theorem party_public {frame : Message} {checked : Database.CheckUid ω}
    (public' : frame.header.subType ≠ 0x00)
    (found : s.party env frame dstUid = .ok checked) :
    checked.exist = decide (dstUid = 0xFFFF) := by
  simp only [party, partyExists, public', decide_false, Bool.false_eq_true,
    if_false] at found
  cases found
  rfl

theorem party_queried {frame : Message} {checked : Database.CheckUid ω}
    (found : s.party env frame dstUid = .ok checked) :
    Database.Queried env s.db checked.world :=
  Database.partyExists_queried found

theorem rows_saved {table : RecordTable env} {charset : Charset}
    (inserts : table.Inserts charset) {frame : Message}
    {checked : Database.CheckUid ω}
    (found : s.party env frame dstUid = .ok checked)
    (literal : charset.Literal (frame.data.drop 4))
    (short : (frame.data.drop 4).length ≤ 1024) :
    if (saved env checked.world frame uid dstUid).1 < 0 then
      table.rows (saved env checked.world frame uid dstUid).2 =
        table.rows s.db
    else
      ∃ row, table.rows (saved env checked.world frame uid dstUid).2 =
        table.rows s.db ++ [row] := by
  have stored := RecordTable.rows_saved inserts checked.world
    (toSigned_inInt uid) (toSigned_inInt dstUid) literal short
  rw [table.rows_queried (party_queried found)] at stored
  split
  · rename_i failed
    exact stored.trans (if_pos failed)
  · rename_i done
    exact ⟨_, stored.trans (if_neg done)⟩

section Targets

variable {frame : Message}

/-- The text goes to those it is meant for. -/
theorem targets_intended (inverse : FinMap.Inverse s.fdToUid s.uidToFd)
    (mine : s.fdToUid.lookup fd = some uid)
    (public' : frame.header.subType ≠ 0x00 → dstUid = 0xFFFF)
    (reached : s.reaches frame dstUid = true) :
    (∀ other, other ∈ s.textTargets uid dstUid ↔
      s.Intended fd frame dstUid other) ↔ s.Single frame uid dstUid := by
  by_cases kind : frame.header.subType = 0x00
  · rw [reaches, if_pos kind] at reached
    obtain ⟨session, found⟩ := Option.isSome_iff_exists.mp reached
    by_cases everybody : dstUid = 0xFFFF
    · simp only [mem_textTargets, if_pos everybody, Intended, if_pos kind]
      constructor
      · intro same _ _ _
        obtain ⟨user, bound, different⟩ := (same session).mpr found
        rw [(inverse session dstUid).mpr found] at bound
        cases bound
        refine ⟨Ne.symm different, ?_⟩
        intro user bound
        obtain ⟨other, back⟩ := Option.isSome_iff_exists.mp bound
        by_cases own : user = uid
        · exact .inl own
        · have here := (same other).mp
            ⟨user, (inverse other user).mpr back, own⟩
          have there := (inverse other dstUid).mpr here
          rw [(inverse other user).mpr back] at there
          exact .inr (Option.some.inj there)
      · intro single other
        obtain ⟨different, only⟩ := single kind everybody reached
        constructor
        · rintro ⟨user, bound, foreign⟩
          have back := (inverse other user).mp bound
          have one := (only user (Option.isSome_iff_exists.mpr
            ⟨other, back⟩)).resolve_left foreign
          rw [← one]
          exact back
        · intro here
          exact ⟨dstUid, (inverse other dstUid).mpr here, Ne.symm different⟩
    · simp only [mem_textTargets, if_neg everybody, Intended, if_pos kind,
        implies_true, true_iff]
      intro _ same
      exact absurd same everybody
  · have everybody := public' kind
    simp only [mem_textTargets, if_pos everybody, Intended, if_neg kind]
    constructor
    · intro _ impossible
      exact absurd impossible kind
    · intro _ other
      constructor
      · rintro ⟨user, bound, different⟩
        refine ⟨?_, user, bound⟩
        rintro rfl
        rw [mine] at bound
        exact different (Option.some.inj bound).symm
      · rintro ⟨different, user, bound⟩
        refine ⟨user, bound, ?_⟩
        rintro rfl
        have back := (inverse other user).mp bound
        rw [(inverse fd user).mp mine] at back
        exact different (Option.some.inj back).symm

theorem targets_unheard (inverse : FinMap.Inverse s.fdToUid s.uidToFd)
    (mine : s.fdToUid.lookup fd = some uid)
    (public' : frame.header.subType ≠ 0x00 → dstUid ≠ 0xFFFF)
    (reached : s.reaches frame dstUid = true) :
    ((dstUid = 0xFFFF ∨ ∃ session, s.uidToFd.lookup dstUid = some session) ∧
      ∀ target ∈ s.textTargets uid dstUid, target = fd) ↔
    s.Unheard frame uid dstUid := by
  have own := (inverse fd uid).mp mine
  constructor
  · rintro ⟨there, none⟩
    right
    by_cases everybody : dstUid = 0xFFFF
    · have users (user : Uid) (bound : s.bound user = true) : user = uid := by
        obtain ⟨other, back⟩ := Option.isSome_iff_exists.mp bound
        by_contra foreign
        have forward := (inverse other user).mpr back
        have here := none other (mem_textTargets.mpr (by
          rw [if_pos everybody]
          exact ⟨user, forward, foreign⟩))
        rw [here, mine] at forward
        exact foreign (Option.some.inj forward).symm
      have kind : frame.header.subType = 0x00 := by
        by_contra other
        exact public' other everybody
      rw [reaches, if_pos kind] at reached
      exact ⟨users dstUid reached, fun _ => users⟩
    · obtain ⟨session, found⟩ := there.resolve_left everybody
      have here := none session (mem_textTargets.mpr (by
        rw [if_neg everybody]
        exact found))
      have bound := (inverse session dstUid).mpr found
      rw [here, mine] at bound
      exact ⟨(Option.some.inj bound).symm, fun same => absurd same everybody⟩
  · rintro (⟨kind, away⟩ | ⟨rfl, nobody⟩)
    · rw [reaches, if_pos kind, away] at reached
      cases reached
    · refine ⟨.inr ⟨fd, own⟩, ?_⟩
      intro target member
      rw [mem_textTargets] at member
      split at member
      · rename_i everybody
        obtain ⟨user, bound, foreign⟩ := member
        have back := (inverse target user).mp bound
        exact absurd (nobody everybody user
          (Option.isSome_iff_exists.mpr ⟨target, back⟩)) foreign
      · rw [own] at member
        exact (Option.some.inj member).symm

end Targets

end Connections

namespace State

variable {s : State ω} {fd : Fd} {net : List ReadResult} {frame : Message}
  {uid dstUid : Uid}

/-- The server goes on, and the response to a text message is true. -/
def TextAnswered (table : RecordTable env) (s : State ω) (fd : Fd)
    (net : List ReadResult) (frame : Message) (uid dstUid : Uid) : Prop :=
  ∃ s' sent code, s.next env (.recvMsg fd net) = .ok s' ∧
    (∀ other, (s'.conns.conns other).sendQue =
      (s.conns.conns other).sendQue ++ sent other) ∧
    Truthful (table.rows s.conns.db) (table.rows s'.conns.db) fd
      (s.conns.Intended fd frame dstUid) (arrivingText uid frame) sent code

theorem setConn_sendQue (reached : (machine env).Reachable s) (other : Fd) :
    ((s.conns.setConn fd ((s.conns.conns fd).receive net).2).conns
      other).sendQue = (s.conns.conns other).sendQue := by
  obtain ⟨reported, received⟩ := Conn.receive_received net
    (queues_invariant.holds reached fd).receiving
  rw [setConn_conns]
  split
  · rename_i same
    rw [same, received.same.sendQue]
  · rfl

theorem textAnswered_of_parsed (table : RecordTable env)
    (reached : (machine env).Reachable s) (opened : s.clientFds fd = true)
    (handed : s.conns.Handed fd net frame) {conns : Connections ω}
    (parsed : (s.conns.setConn fd ((s.conns.conns fd).receive net).2).parse
      env fd = .ok conns) {l : List (Fd × Message)}
    (queued : Queued (s.conns.setConn fd
      ((s.conns.conns fd).receive net).2) conns l) :
    s.TextAnswered table fd net frame uid dstUid ↔
      ∃ code, Truthful (table.rows s.conns.db) (table.rows conns.db) fd
        (s.conns.Intended fd frame dstUid) (arrivingText uid frame)
        (fun other => sentTo other l) code := by
  have inside := opened_inside reached fd opened
  have queues (other : Fd) : (conns.conns other).sendQue =
      (s.conns.conns other).sendQue ++ sentTo other l := by
    rw [queued.conns, Conn.pushAll_sendQue, setConn_sendQue reached]
  constructor
  · rintro ⟨s', sent, code, moved, pushed, truthful⟩
    obtain ⟨conns', parsed', rfl⟩ := (next_handed inside handed).mp moved
    cases parsed.symm.trans parsed'
    have same : sent = fun other => sentTo other l := by
      funext other
      exact List.append_cancel_left ((pushed other).symm.trans (queues other))
    rw [same] at truthful
    exact ⟨code, truthful⟩
  · rintro ⟨code, truthful⟩
    exact ⟨_, _, code, (next_handed inside handed).mpr ⟨conns, parsed, rfl⟩,
      queues, truthful⟩

end State

section Branches

variable {c : Connections ω} {fd : Fd} {frame : Message} {uid dstUid : Uid}

theorem refusal_queued (world : ω)
    (type : (c.frame fd).header.type = 0x13) (text : Message) :
    Queued c ({ c with db := world }.parseUnknown fd)
      (responds fd 0xFF text []) := by
  have own : unknownMsg (c.frame fd).header.type = textResponse 0xFF := by
    rw [type]
    rfl
  have queued := Queued.of_push c world fd
    (unknownMsg (c.frame fd).header.type)
  rw [own] at queued
  rw [parseUnknown, show unknownMsg (({ c with db := world } :
    Connections ω).frame fd).header.type = textResponse 0xFF from own]
  exact queued

theorem text_forwarded {code : UInt8} {s' : Connections ω} (world : ω) :
    ({ c with db := world }.push fd (textResponse code)).pushTextmsg uid dstUid
        frame = .ok s' ↔
      (dstUid = 0xFFFF ∨
        ∃ session, c.uidToFd.lookup dstUid = some session) ∧
      s' = { c with db := world }.pushes (responds fd code
        (arrivingText uid frame) (c.textTargets uid dstUid)) := by
  rw [pushTextmsg_eq, textMsg_arrives]
  rfl

end Branches

theorem textAnswer_code (exist online : Bool) :
    textAnswer exist online = textResponse
      (if exist = true then if online = true then 0x00 else 0xF1
      else 0xF0) := by
  cases exist <;> cases online <;> rfl

section Main

variable {s : State ω} {fd : Fd} {net : List ReadResult} {frame : Message}
  {uid dstUid : Uid}

theorem refused_answered (table : RecordTable env)
    (reached : (machine env).Reachable s) (opened : s.clientFds fd = true)
    (handed : s.conns.Handed fd net frame) (type : frame.header.type = 0x13)
    {world : ω}
    (parsed : (s.conns.setConn fd ((s.conns.conns fd).receive net).2).parse
      env fd = .ok ({ s.conns.setConn fd
        ((s.conns.conns fd).receive net).2 with db := world }.parseUnknown
          fd)) :
    s.TextAnswered table fd net frame uid dstUid ↔
      table.rows world = table.rows s.conns.db := by
  have kind := type
  rw [← frame_handed handed] at kind
  rw [State.textAnswered_of_parsed table reached opened handed parsed
    (refusal_queued world kind (arrivingText uid frame)),
    truthful_iff List.nodup_nil rfl (by decide)]
  simp [parseUnknown]

theorem offline_answered (table : RecordTable env)
    (reached : (machine env).Reachable s) (opened : s.clientFds fd = true)
    (handed : s.conns.Handed fd net frame) {exist : Bool} {world : ω}
    (parsed : (s.conns.setConn fd ((s.conns.conns fd).receive net).2).parse
      env fd = .ok ({ s.conns.setConn fd
        ((s.conns.conns fd).receive net).2 with db := world }.push fd
          (textResponse (if exist = true then 0xF1 else 0xF0))))
    (private' : frame.header.subType = 0x00)
    (away : s.conns.bound dstUid = false) :
    s.TextAnswered table fd net frame uid dstUid ↔
      if exist = true then
        (∃ row, table.rows world = table.rows s.conns.db ++ [row]) ∧
          s.conns.Single frame uid dstUid
      else
        table.rows world = table.rows s.conns.db ∧
          s.conns.Unheard frame uid dstUid := by
  have queued : Queued (s.conns.setConn fd
      ((s.conns.conns fd).receive net).2) _
        (responds fd _ (arrivingText uid frame) []) :=
    Queued.of_push _ world fd
      (textResponse (if exist = true then 0xF1 else 0xF0))
  rw [State.textAnswered_of_parsed table reached opened handed parsed queued,
    truthful_iff List.nodup_nil rfl (by cases exist <;> decide)]
  cases exist with
  | true => simp [Single, private', away]
  | false => simp [Unheard, private', away]

theorem forwarded_answered (table : RecordTable env)
    (reached : (machine env).Reachable s) (opened : s.clientFds fd = true)
    (handed : s.conns.Handed fd net frame) {code : UInt8} {world : ω}
    (parsed : (s.conns.setConn fd ((s.conns.conns fd).receive net).2).parse
      env fd = ({ s.conns.setConn fd
        ((s.conns.conns fd).receive net).2 with db := world }.push fd
          (textResponse code)).pushTextmsg uid dstUid frame) :
    s.TextAnswered table fd net frame uid dstUid ↔
      (dstUid = 0xFFFF ∨
        ∃ session, s.conns.uidToFd.lookup dstUid = some session) ∧
      ∃ answer, Truthful (table.rows s.conns.db) (table.rows world) fd
        (s.conns.Intended fd frame dstUid) (arrivingText uid frame)
        (fun other => sentTo other (responds fd code (arrivingText uid frame)
          (s.conns.textTargets uid dstUid))) answer := by
  have forwards (there : dstUid = 0xFFFF ∨
      ∃ session, s.conns.uidToFd.lookup dstUid = some session) :=
    @State.textAnswered_of_parsed ω env s fd net frame uid dstUid table
      reached opened handed _
      (parsed.trans ((text_forwarded world).mpr ⟨there, rfl⟩)) _
      (Queued.of_pushes (s.conns.setConn fd
        ((s.conns.conns fd).receive net).2) world (responds fd code
          (arrivingText uid frame) (s.conns.textTargets uid dstUid)))
  simp only [pushes_db] at forwards
  constructor
  · intro answered
    have there : dstUid = 0xFFFF ∨
        ∃ session, s.conns.uidToFd.lookup dstUid = some session := by
      obtain ⟨s', _, _, moved, _⟩ := answered
      obtain ⟨conns, parsed', _⟩ := (State.next_handed
        (opened_inside reached fd opened) handed).mp moved
      exact ((text_forwarded world).mp (parsed.symm.trans parsed')).1
    exact ⟨there, (forwards there).mp answered⟩
  · intro both
    exact (forwards both.1).mpr both.2

theorem stored_answered (table : RecordTable env)
    (reached : (machine env).Reachable s) (opened : s.clientFds fd = true)
    (handed : s.conns.Handed fd net frame)
    (bound : s.conns.fdToUid.lookup fd = some uid)
    {checked : Database.CheckUid ω} {world : ω}
    (found : s.conns.party env frame dstUid = .ok checked)
    (parsed : (s.conns.setConn fd ((s.conns.conns fd).receive net).2).parse
      env fd =
        let answered := { s.conns.setConn fd
          ((s.conns.conns fd).receive net).2 with db := world }.push fd
            (textAnswer checked.exist (s.conns.reaches frame dstUid))
        if s.conns.reaches frame dstUid then
          answered.pushTextmsg uid dstUid frame
        else .ok answered) :
    s.TextAnswered table fd net frame uid dstUid ↔
      if checked.exist = true then
        (∃ row, table.rows world = table.rows s.conns.db ++ [row]) ∧
          s.conns.Single frame uid dstUid
      else
        table.rows world = table.rows s.conns.db ∧
          s.conns.Unheard frame uid dstUid := by
  have inverse := (sessions_invariant.holds reached).inverse
  have distinct := textTargets_nodup s.conns uid dstUid
  have everybody (other : frame.header.subType ≠ 0x00) :=
    party_public other found
  cases reaching : s.conns.reaches frame dstUid with
  | false =>
      simp only [reaching, textAnswer_code, Bool.false_eq_true, if_false]
        at parsed
      rw [reaches] at reaching
      split at reaching
      · rename_i private'
        exact offline_answered table reached opened handed parsed private'
          reaching
      · cases reaching
  | true =>
      simp only [reaching, textAnswer_code, if_true] at parsed
      rw [forwarded_answered table reached opened handed parsed]
      cases exist : checked.exist with
      | true =>
          rw [exist] at everybody
          have public' (other : frame.header.subType ≠ 0x00) :
              dstUid = 0xFFFF := of_decide_eq_true (everybody other).symm
          have there : dstUid = 0xFFFF ∨
              ∃ session, s.conns.uidToFd.lookup dstUid = some session := by
            rw [reaches] at reaching
            split at reaching
            · exact .inr (Option.isSome_iff_exists.mp reaching)
            · exact .inl (public' ‹_›)
          rw [if_pos rfl, if_pos rfl, truthful_iff distinct rfl (by decide),
            ← targets_intended inverse bound public' reaching]
          simp [there]
      | false =>
          rw [exist] at everybody
          have public' (other : frame.header.subType ≠ 0x00) :
              dstUid ≠ 0xFFFF := of_decide_eq_false (everybody other).symm
          rw [if_neg Bool.false_ne_true, if_neg Bool.false_ne_true,
            truthful_iff distinct rfl (by decide),
            ← targets_unheard inverse bound public' reaching]
          constructor
          · intro both
            obtain ⟨there, holds⟩ := both
            obtain ⟨same, own⟩ := holds.1 (.inl rfl)
            exact ⟨same, there, own⟩
          · intro both
            obtain ⟨same, there, own⟩ := both
            exact ⟨there, fun _ => ⟨same, own⟩, by simp, by simp⟩

end Main

/-- The response to a text message is true exactly if the message is one that
can be answered truly. -/
theorem text_answered_iff (env : Env ω) (table : RecordTable env)
    (names : ∀ world uid, ∃ checked,
      Database.checkUid env world uid false [] = .ok checked)
    (s : State ω) (reached : (machine env).Reachable s) (fd : Fd)
    (opened : s.clientFds fd = true) (net : List ReadResult) (frame : Message)
    (handed : s.conns.Handed fd net frame) (type : frame.header.type = 0x13)
    (payload : sizeofHeader + 4 ≤ frame.header.length.toNat)
    (uid dstUid : Uid) (read : frame.data.wordAt 0 = .ok dstUid)
    (bound : s.conns.fdToUid.lookup fd = some uid) :
    s.TextAnswered table fd net frame uid dstUid ↔
      s.conns.Answerable table frame uid dstUid := by
  have inverse := (sessions_invariant.holds reached).inverse
  have same := frame_handed handed
  have kind := type
  rw [← same] at kind
  by_cases shape : TextShape frame
  · obtain ⟨checked, found⟩ : ∃ checked,
        s.conns.party env frame dstUid = .ok checked := by
      unfold party partyExists
      split
      · exact names _ _
      · exact ⟨_, rfl⟩
    have size := data_handed (queues_invariant.holds reached fd).receiving
      handed (by rw [sizeofHeader] at payload ⊢; omega)
    have asked := table.rows_queried (party_queried found)
    have mine : (s.conns.setConn fd ((s.conns.conns fd).receive net).2).myUid
        fd = .ok uid := myUid_eq.mpr ⟨bound, (inverse fd uid).mp bound⟩
    have parsed := @parse_text ω env (s.conns.setConn fd
      ((s.conns.conns fd).receive net).2) fd uid dstUid checked kind
        (by rw [same]; exact shape) (by rw [same]; exact size)
        (by rw [same]; exact read) mine (by rw [same]; exact found)
    rw [same] at parsed
    by_cases failed : checked.ret < 0
    · rw [if_pos failed] at parsed
      exact iff_of_true ((refused_answered table reached opened handed type
        parsed).mpr asked) (.unchecked found failed)
    · rw [if_neg failed] at parsed
      rw [answerable_iff table shape found (Int.not_lt.mp failed)]
      dsimp only at parsed
      split
      · rename_i lost
        rw [if_pos lost] at parsed
        exact refused_answered table reached opened handed type parsed
      · rename_i kept
        rw [if_neg kept] at parsed
        exact stored_answered table reached opened handed bound found parsed
  · have parsed := @parse_misshapenText ω env (s.conns.setConn fd
      ((s.conns.conns fd).receive net).2) fd kind (by rw [same]; exact shape)
    exact iff_of_true ((refused_answered table reached opened handed type
      parsed).mpr rfl) (.misshapen shape)

namespace Tables

theorem storedEnv_names (accounts : List Account) (rows : Rows) (uid : Int) :
    ∃ checked, Database.checkUid (storedEnv accounts) rows uid false [] =
      .ok checked := by
  have reply : Database.mysqlQuery (storedEnv accounts) rows
      (Database.checkUidSql uid) = (.rows ((accounts.filter fun account =>
        (Database.checkUidSql uid).cString =
          Database.checkUidSql (toSigned account.uid)).map
            fun account => [some account.username]), rows) := rfl
  unfold Database.checkUid
  simp only [reply]
  cases accounts.filter fun account => (Database.checkUidSql uid).cString =
      Database.checkUidSql (toSigned account.uid) with
  | nil => exact ⟨_, rfl⟩
  | cons account accounts => exact ⟨_, rfl⟩

end Tables

theorem text_answered_two : ∃ s : State Tables.Rows,
    s.conns.fdToUid.lookup 5 = some 2 ∧
    s.TextAnswered (Tables.storedTable threeAccounts) 4
      (whole (privateFrame 2 "hi")) (privateFrame 2 "hi") 1 2 := by
  have replayed : ((machine (Tables.storedEnv threeAccounts)).replay
      (.init ⟨[], by simp⟩ 1024) twoLogins).any
        (fun s => handsOver s 4 (privateFrame 2 "hi") ∧
          s.conns.fdToUid.lookup 4 = some 1 ∧
          s.conns.fdToUid.lookup 5 = some 2 ∧
          (s.conns.party (Tables.storedEnv threeAccounts)
            (privateFrame 2 "hi") 2).any fun checked =>
              0 ≤ checked.ret ∧ checked.exist = true ∧
                0 ≤ (saved (Tables.storedEnv threeAccounts) checked.world
                  (privateFrame 2 "hi") 1 2).1) = true := by
    decide +kernel
  obtain ⟨s, reached, holds⟩ := Machine.Reachable.of_replay replayed
    (storedEnv_initial threeAccounts)
  obtain ⟨ended, mine, theirs, party⟩ := of_decide_eq_true holds
  obtain ⟨opened, handed⟩ := of_decide_eq_true ended
  obtain ⟨checked, found, holds⟩ := Exec.any_iff.mp party
  obtain ⟨answered, exist, done⟩ := of_decide_eq_true holds
  have one := @rows_saved _ _ s.conns 1 2 _ .gbk
    (Tables.storedTable_inserts threeAccounts .gbk) (privateFrame 2 "hi")
    checked found (by decide) (by decide)
  rw [if_neg (Int.not_lt.mpr done)] at one
  refine ⟨s, theirs, (text_answered_iff _ _
    (Tables.storedEnv_names threeAccounts) s reached 4 opened _ _ handed rfl
    (by decide) 1 2 (by decide) mine).mpr ?_⟩
  refine .stored found answered done one exist ?_
  intro _ everybody
  exact absurd everybody (by decide)

/-- A text for a user who does not exist is refused and stored. -/
theorem refused_text_stored : ¬ ∀ (s : State Tables.Rows) (fd : Fd)
    (net : List ReadResult) (frame : Message) (uid dstUid : Uid),
    (machine (Tables.storedEnv threeAccounts)).Reachable s →
    s.clientFds fd = true → s.conns.Handed fd net frame →
    frame.header.type = 0x13 →
    sizeofHeader + 4 ≤ frame.header.length.toNat →
    frame.data.wordAt 0 = .ok dstUid →
    s.conns.fdToUid.lookup fd = some uid →
    s.TextAnswered (Tables.storedTable threeAccounts) fd net frame uid
      dstUid := by
  intro always
  have replayed : ((machine (Tables.storedEnv threeAccounts)).replay
      (.init ⟨[], by simp⟩ 1024)
        (arrives 4 [loginFrame "a"])).any
        (fun s => handsOver s 4 (privateFrame 9 "hi") ∧
          s.conns.fdToUid.lookup 4 = some 1 ∧
          (s.next (Tables.storedEnv threeAccounts)
            (.recvMsg 4 (whole (privateFrame 9 "hi")))).any fun s' =>
              s'.conns.db.val.length = s.conns.db.val.length + 1 ∧
              (s'.conns.conns 4).sendQue =
                (s.conns.conns 4).sendQue ++ [textResponse 0xF0]) = true := by
    decide +kernel
  obtain ⟨s, reached, holds⟩ := Machine.Reachable.of_replay replayed
    (storedEnv_initial threeAccounts)
  obtain ⟨ended, mine, moves⟩ := of_decide_eq_true holds
  obtain ⟨opened, handed⟩ := of_decide_eq_true ended
  obtain ⟨after, moved, holds⟩ := Exec.any_iff.mp moves
  obtain ⟨longer, queued⟩ := of_decide_eq_true holds
  obtain ⟨s', sent, code, moved', queues, truthful⟩ := always s 4 _ _ 1 9
    reached opened handed rfl (by decide) (by decide) mine
  cases moved.symm.trans moved'
  have one : sent 4 = [textResponse 0xF0] :=
    List.append_cancel_left ((queues 4).symm.trans queued)
  have response := truthful.response
  rw [one] at response
  have refused : code = 0xF0 := (textResponse_injective response).symm
  have same : after.conns.db.val = s.conns.db.val :=
    (truthful.refused (.inl refused)).1
  rw [same] at longer
  omega

end GroupChat.Server
