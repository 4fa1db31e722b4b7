import GroupChat.Client.Qt
import GroupChat.Lib.InverseMaps

namespace GroupChat.Client

/-! The record lists and the contact list behind the views. -/

abbrev Uid := UInt32

/-- The id that stands for the conversation with everybody. -/
def uidForAll : Uid := 0xFFFF

structure Record where
  sentByMe : Bool
  name : QString
  txt : QString
  time : QString
  deriving DecidableEq, Repr

structure RecordModel where
  curUid : Uid := 0
  records : Uid → List Record := fun _ => []

namespace RecordModel

def setUid (model : RecordModel) (uid : Uid) : RecordModel :=
  { model with curUid := uid }

/-- The newest record stands at the front of its conversation. -/
def addRecord (host : Host) (model : RecordModel) (uid : Uid)
    (sentByMe : Bool) (name txt : QString) (time : Int) : RecordModel :=
  { model with
    records := Function.update model.records uid
      (⟨sentByMe, name, txt, host.showTime time⟩ :: model.records uid) }

def clear (model : RecordModel) : RecordModel :=
  { model with records := fun _ => [] }

end RecordModel

structure Contact where
  uid : Uid
  isOffline : Bool
  name : QString
  deriving DecidableEq, Repr

abbrev ContactsModel := List Contact

namespace ContactsModel

def insertContact (contacts : ContactsModel) (uid : Uid) (isOffline : Bool)
    (name : QString) : ContactsModel :=
  contacts ++ [⟨uid, isOffline, name⟩]

/-- A contact that is there goes to the end, or to the second place. -/
def updateContact (contacts : ContactsModel) (uid : Uid) (isOffline : Bool)
    (name : QString) : ContactsModel :=
  if contacts.any (fun contact => contact.uid = uid) then
    let others := contacts.eraseP fun contact => contact.uid = uid
    if isOffline then
      others ++ [⟨uid, isOffline, name⟩]
    else
      others.take 1 ++ ⟨uid, isOffline, name⟩ :: others.drop 1
  else
    contacts

end ContactsModel

end GroupChat.Client
