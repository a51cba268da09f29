import ChatCore.Lib.Lts
import ChatCore.Server.UserStore

/-!
# `ChatCore.Server.UserCalls`: calls of the user store and of its adapter

A run of `UserStore` alone, in front of a database that somebody else extends. Its callers may
call `Prewarm` at any time, create users through the adapter behind the back of the cache, cache a
user that the adapter returned some time ago, look users up and open and close sessions.

No statement of the adapter changes or deletes a user. The names of the table are unique, and so
are the ids (`Database`).
-/

set_option autoImplicit false

namespace ChatCore.Server

open ChatCore.Api
open ChatCore.Lib (Lts)

/-- A user store with the database of its adapter. -/
structure UserCalls where
  db : Database
  store : UserStore := {}
  /-- The users that the adapter has returned to a caller. A ghost. -/
  returned : List User := []

/-- A call. -/
inductive UserCallsOp where
  /-- `UserPersistenceAdapter::CreateUser`. -/
  | createUser (name password : String)
  /-- `UserPersistenceAdapter::GetUser(id)`. -/
  | queryUser (userId : Nat)
  /-- `UserPersistenceAdapter::GetUser(name)`. -/
  | queryUserByName (name : String)
  /-- `UserPersistenceAdapter::GetUsers`. -/
  | queryUsers
  /-- `UserPersistenceAdapter::MatchUserCredentials`. -/
  | matchUserCredentials (name password : String)
  | prewarm
  | cacheUser (user : User)
  | getUser (userId : Nat)
  | getUserByName (name : String)
  | getUsers (userIds : List Nat)
  | getSessionUser (connectionId : Nat)
  | assignSession (connectionId userId : Nat)
  | removeSession (connectionId : Nat)

namespace UserCalls

/-- The adapter returns users. -/
def answer (s : UserCalls) (users : List User) : UserCalls :=
  { s with returned := s.returned ++ users }

/-- One call. -/
def step (s : UserCalls) : UserCallsOp → Option UserCalls
  | .createUser name password =>
    let (db, user) := s.db.createUser name password
    some ({ s with db := db }.answer user.toList)
  | .queryUser userId => some (s.answer (s.db.getUser userId).toList)
  | .queryUserByName name => some (s.answer (s.db.getUserByName name).toList)
  | .queryUsers => some (s.answer s.db.getUsers)
  | .matchUserCredentials name password =>
    some (s.answer (s.db.matchUserCredentials name password).toList)
  | .prewarm => some { s with store := s.store.prewarm s.db }
  | .cacheUser user =>
    if user ∈ s.returned then some { s with store := (s.store.cacheUser user).1 } else none
  | .getUser userId => some { s with store := (s.store.getUser s.db userId).1 }
  | .getUserByName name => some { s with store := (s.store.getUserByName s.db name).1 }
  | .getUsers userIds => some { s with store := (s.store.getUsers s.db userIds).1 }
  | .getSessionUser connectionId =>
    some { s with store := (s.store.getSessionUser s.db connectionId).1 }
  | .assignSession connectionId userId =>
    some { s with store := s.store.assignSession connectionId userId }
  | .removeSession connectionId => some { s with store := s.store.removeSession connectionId }

end UserCalls

end ChatCore.Server
