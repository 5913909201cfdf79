import LineShell.Session.Basic

/-!
# Sessions by name

The store keeps sessions under their ids, so that several of them can be driven independently.  The
ids are made elsewhere: nothing here says how, or that no two of them are the same.
-/

namespace LineShell

/-- The sessions that are open, and how many have been opened so far. -/
structure SessionStore where
  sessions : List Session := []
  opened : Nat := 0
  deriving DecidableEq

namespace SessionStore

/-- The store without sessions. -/
def empty : SessionStore := {}

/-- The open session of an id. -/
def get? (store : SessionStore) (id : Text) : Option Session :=
  store.sessions.find? fun session => session.id == id

/-- The store with a session put in the place of the open one of its id. -/
def update (store : SessionStore) (session : Session) : SessionStore :=
  { store with
    sessions := store.sessions.map fun open_ => if open_.id = session.id then session else open_ }

/-- The number of the first id of `idAfter`: the least one whose thirty-two digits are those of a
UUID of version 4, which has a 4 and an 8 at two fixed places. -/
def firstNumber : Nat :=
  10000000_0000_4000_8000_000000000000

/-- Ids to run the program with when its answers are to be the same each time. -/
def idAfter (opened : Nat) : Text :=
  Text.ofNat (firstNumber + opened)

/-- Opens a session in a directory under an id, in place of the session that has the id already. -/
def create (store : SessionStore) (directory : Text) (id : Text := idAfter store.opened) :
    Session × SessionStore :=
  let session : Session := { id, directory }
  let kept := match store.get? id with
    | some _ => store.update session
    | none => { store with sessions := store.sessions ++ [session] }
  (session, { kept with opened := store.opened + 1 })

/-- The store without the session of an id, if there was one. -/
def close? (store : SessionStore) (id : Text) : Option SessionStore :=
  match store.get? id with
  | none => none
  | some _ => some { store with sessions := store.sessions.filter fun session => session.id ≠ id }

/-- How many sessions are open. -/
def size (store : SessionStore) : Nat :=
  store.sessions.length

/-- The wording for an id without a session. -/
def notFoundMessage (id : Text) : Text :=
  "Session not found: " ++ id

end SessionStore

end LineShell
