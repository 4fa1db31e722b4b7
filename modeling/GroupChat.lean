import GroupChat.System.Merging
import GroupChat.System.Limits
import GroupChat.System.History
import GroupChat.Server.Forwarding
import GroupChat.Server.Statements
import GroupChat.Server.TCPServer
import GroupChat.Server.Displaced
import GroupChat.Server.Presence
import GroupChat.Client.Selection
import GroupChat.Server.Privacy
import GroupChat.System.Conversations
import GroupChat.Server.Framing
import GroupChat.Server.TooShort
import GroupChat.Server.Absent
import GroupChat.Server.Roster
import GroupChat.Server.Passwords
import GroupChat.Server.Descriptors
import GroupChat.Server.Reading
import GroupChat.Server.Sizes
import GroupChat.Server.Answering
import GroupChat.Server.Strangers
import GroupChat.Server.Encoding
import GroupChat.Client.Writing
import GroupChat.Client.Receiving
import GroupChat.System.Fields
import GroupChat.System.ContactList
import GroupChat.Server.Bookkeeping
import GroupChat.Server.Digest
import GroupChat.System.Channel
import GroupChat.Server.Outgoing
import GroupChat.Server.Rounds
import GroupChat.Server.Announced
import GroupChat.Lib.Refinement
import GroupChat.Server.Service
import GroupChat.Server.Store
import GroupChat.Server.Chat
import GroupChat.Server.Credentials
import GroupChat.Server.Stopping
import GroupChat.Server.Exchange
