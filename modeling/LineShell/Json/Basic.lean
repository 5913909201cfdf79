import LineShell.Text.Basic

/-!
# JSON values

What a request body can hold.  No request has a number in it that counts; but a number beyond the
range of double precision cannot be written again, so this much is kept of each.
-/

namespace LineShell.Json

/-- A value in JSON notation. -/
inductive Value where
  | null
  | bool (value : Bool)
  /-- A number, and whether it is one within the range of double precision. -/
  | number (inRange : Bool)
  | text (value : Text)
  | array (items : List Value)
  | object (members : List (Text × Value))

/-- The members of an object as they are written.  Of several with one name the last one counts. -/
def lastOfEach (members : List (Text × Value)) : List (Text × Value) :=
  members.foldr
    (fun member later =>
      if later.any fun other => other.1 == member.1 then later else member :: later)
    []

namespace Value

/-- The member of a name. -/
def member? (members : List (Text × Value)) (name : Text) : Option Value :=
  members.lookup name

mutual

/-- Whether all numbers in a value are within the range. -/
def isWritable : Value → Bool
  | .number inRange => inRange
  | .array items => areWritable items
  | .object members => areWritableMembers members
  | _ => true

/-- Whether all numbers in the items are within the range. -/
def areWritable : List Value → Bool
  | [] => true
  | item :: rest => item.isWritable && areWritable rest

/-- Whether all numbers in the members are within the range. -/
def areWritableMembers : List (Text × Value) → Bool
  | [] => true
  | (_, value) :: rest => value.isWritable && areWritableMembers rest

end

end Value

/-- Why a text is not read as a value. -/
inductive Fault where
  /-- The notation is broken at a position, counted in characters. -/
  | malformed (position : Nat)
  /-- The value is beyond what is read: stored as no text is, nested too deeply or too long a
  number. -/
  | unreadable
  deriving DecidableEq

end LineShell.Json
