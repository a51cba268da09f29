import ChatCore.Lib.Bimap
import ChatCore.Server.Database

/-!
# `ChatCore.Server.ChannelStore`: cached channels and the channel of each connection

`ChatChannelStore` (`chat_channel_store.cpp`). The container `channels_` is ordered by the
channel's id, which is unique in it (`Lib.Table`). `connection_channel_map_` gives each
connection at most one channel and each channel any number of connections
(`Lib.MultiBimap`).
-/

set_option autoImplicit false

namespace ChatCore.Server

open ChatCore.Api
open ChatCore.Lib (MultiBimap Table)

/-- `ChatChannelStore`. -/
structure ChannelStore where
  channels : Table ChatChannel ChatChannel.id := Table.empty
  connectionChannelMap : MultiBimap Nat Nat := MultiBimap.empty

namespace ChannelStore

/-- `CacheChannel`. On a taken id `emplace` returns the channel that has it. -/
def cacheChannel (s : ChannelStore) (channel : ChatChannel) : ChannelStore × ChatChannel :=
  match s.channels.insert channel with
  | some channels => ({ s with channels := channels }, channel)
  | none => (s, (s.channels.find (·.id = channel.id)).getD channel)

/-- `Prewarm`. -/
def prewarm (s : ChannelStore) (db : Database) : ChannelStore :=
  db.getChatChannels.foldl (fun s channel => (s.cacheChannel channel).1) s

/-- `GetChannels`. -/
def getChannels (s : ChannelStore) : List ChatChannel := s.channels.rows

/-- `UnassignConnection`. -/
def unassignConnection (s : ChannelStore) (connectionId : Nat) : ChannelStore :=
  { s with connectionChannelMap := s.connectionChannelMap.eraseLeft connectionId }

/-- `AssignConnection`. -/
def assignConnection (s : ChannelStore) (connectionId channelId : Nat) : ChannelStore :=
  -- Without the erase the insertion would keep the channel that the connection has.
  let s := s.unassignConnection connectionId
  { s with connectionChannelMap := s.connectionChannelMap.insert connectionId channelId }

/-- `GetConnections`: `nullopt` for an empty range. -/
def getConnections (s : ChannelStore) (channelId : Nat) : Option (List Nat) :=
  let range := s.connectionChannelMap.rangeRight channelId
  if range.isEmpty then none else some range

/-- The result of a lookup that missed the cache: what the adapter returned is cached. -/
def cacheFound (s : ChannelStore) : Option ChatChannel → ChannelStore × Option ChatChannel
  | none => (s, none)
  | some channel =>
    let (s, channel) := s.cacheChannel channel
    (s, some channel)

/-- `GetChannel(channel_id)`. -/
def getChannel (s : ChannelStore) (db : Database) (channelId : Nat) :
    ChannelStore × Option ChatChannel :=
  match s.channels.find (·.id = channelId) with
  | some channel => (s, some channel)
  | none => s.cacheFound (db.getChatChannel channelId)

/-- `GetChannel(channel_name)`. -/
def getChannelByName (s : ChannelStore) (db : Database) (channelName : String) :
    ChannelStore × Option ChatChannel :=
  match s.channels.find (·.name = channelName) with
  | some channel => (s, some channel)
  | none => s.cacheFound (db.getChatChannelByName channelName)

/-- `GetAssignedChannel`. -/
def getAssignedChannel (s : ChannelStore) (db : Database) (connectionId : Nat) :
    ChannelStore × Option ChatChannel :=
  match s.connectionChannelMap.findLeft connectionId with
  | none => (s, none)
  | some channelId => s.getChannel db channelId

end ChannelStore

end ChatCore.Server
