import ChatCore.Lib.Bimap
import ChatCore.Server.Database

/-!
# `ChatCore.Server.UserStore`: cached users and sessions

`UserStore` (`user_store.cpp`). The container `users_` has a unique index on the id and one
on the name, and `user_sessions_` relates connections and users one to one. Both are a
`Lib.Bimap`. An insertion with a taken key does nothing in either of them.

The functions that read through the cache take the database that the adapter of the source
queries, and return the store with what they cached.
-/

set_option autoImplicit false

namespace ChatCore.Server

open ChatCore.Api
open ChatCore.Lib (Bimap)

/-- `UserStore`. -/
structure UserStore where
  users : Bimap Nat String := Bimap.empty
  userSessions : Bimap Nat Nat := Bimap.empty

namespace UserStore

/-- `CacheUser`. On a conflict `emplace` returns the element that is in the way, and it looks
at the id first. -/
def cacheUser (s : UserStore) (user : User) : UserStore × User :=
  match s.users.findLeft user.id with
  | some name => (s, ⟨user.id, name⟩)
  | none =>
    match s.users.findRight user.name with
    | some id => (s, ⟨id, user.name⟩)
    | none => ({ s with users := s.users.insert user.id user.name }, user)

/-- `Prewarm`. -/
def prewarm (s : UserStore) (db : Database) : UserStore :=
  db.getUsers.foldl (fun s user => (s.cacheUser user).1) s

/-- `HasUser(name)`. -/
def hasUserNamed (s : UserStore) (name : String) : Bool := (s.users.findRight name).isSome

/-- `HasSession(connection_id)`. -/
def hasSession (s : UserStore) (connectionId : Nat) : Bool :=
  (s.userSessions.findLeft connectionId).isSome

/-- `HasSession(user_id)`. -/
def hasUserSession (s : UserStore) (userId : Nat) : Bool :=
  (s.userSessions.findRight userId).isSome

/-- `AssignSession`. -/
def assignSession (s : UserStore) (connectionId userId : Nat) : UserStore :=
  { s with userSessions := s.userSessions.insert connectionId userId }

/-- `RemoveSession`. -/
def removeSession (s : UserStore) (connectionId : Nat) : UserStore :=
  { s with userSessions := s.userSessions.eraseLeft connectionId }

/-- The result of a lookup that missed the cache: what the adapter returned is cached. -/
def cacheFound (s : UserStore) : Option User → UserStore × Option User
  | none => (s, none)
  | some user =>
    let (s, user) := s.cacheUser user
    (s, some user)

/-- `GetUser(user_id)`. -/
def getUser (s : UserStore) (db : Database) (userId : Nat) : UserStore × Option User :=
  match s.users.findLeft userId with
  | some name => (s, some ⟨userId, name⟩)
  | none => s.cacheFound (db.getUser userId)

/-- `GetUser(name)`. -/
def getUserByName (s : UserStore) (db : Database) (name : String) : UserStore × Option User :=
  match s.users.findRight name with
  | some id => (s, some ⟨id, name⟩)
  | none => s.cacheFound (db.getUserByName name)

/-- `GetSessionUser`. -/
def getSessionUser (s : UserStore) (db : Database) (connectionId : Nat) :
    UserStore × Option User :=
  match s.userSessions.findLeft connectionId with
  | none => (s, none)
  -- The user of a session is cached here, if it registered after `Prewarm`.
  | some userId => s.getUser db userId

/-- `GetUsers`. -/
def getUsers (s : UserStore) (db : Database) : List Nat → UserStore × List User
  | [] => (s, [])
  | userId :: userIds =>
    let (s, potentialUser) := s.getUser db userId
    let (s, result) := s.getUsers db userIds
    -- The result has no entry for an id without a user.
    (s, potentialUser.toList ++ result)

end UserStore

end ChatCore.Server
