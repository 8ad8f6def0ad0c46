import Tint.Json.Value

/-!
# Records

A record is written as an object with its members in any order, or as an array of them
in the declared order. Members are read into a draft, from which the record is made
when the text is through.

## The model

* `Member` has a name, says whether it may be left out, and how it is read.
* `Record` has its members in the declared order. An open record passes over members
  of other names, a closed one refuses them.
-/

namespace Tint.Json

/-- A member of a record that is drafted as a `σ`. -/
structure Member (σ : Type) where
  /-- The name. -/
  name : String
  /-- The member has to be there. -/
  required : Bool
  /-- The draft has the member. -/
  present : σ → Bool
  /-- Read the member's value into a draft. -/
  read : σ → Reader σ

/-- How a record of type `α` is written. -/
structure Record (σ α : Type) where
  /-- The name of the record. -/
  name : String
  /-- The members in the declared order. -/
  members : List (Member σ)
  /-- Members of other names are passed over. -/
  isOpen : Bool
  /-- The draft without members. -/
  empty : σ
  /-- The record of a draft that has all required members. -/
  finish : σ → Option α

namespace Record

variable {σ α : Type} (record : Record σ α)

/-- The names of the members. -/
def names : List String := record.members.map (·.name)

/-- Make the record, or stop at the first required member that is missing. -/
def complete (draft : σ) : Reader α :=
  match record.members.find? fun m => m.required && !m.present draft with
  | some m => .float (.missingField m.name)
  | none =>
    match record.finish draft with
    | some a => pure a
    | none => .float (.missingField record.name)

/-- Read the elements of the record written as an array, `count` of them being read. -/
def readElements (count : Nat) (draft : σ) : List (Member σ) → Reader σ
  | [] => pure draft
  | m :: rest => do
    if ← Reader.element (count == 0) then
      let draft ← m.read draft
      readElements (count + 1) draft rest
    else if m.required then
      .float (.wrongLength count record.name record.members.length)
    else readElements count draft rest

/-- Read one member of the record written as an object, if there is another one. -/
def readMember (first : Bool) (draft : σ) : Reader ((Bool × σ) ⊕ σ) := do
  match ← Reader.key first with
  | none => return .inr draft
  | some key =>
    match record.members.find? fun m => m.name.toList = key with
    | some m =>
      if m.present draft then .float (.duplicateField m.name)
      else
        Reader.colon
        let draft ← m.read draft
        return .inl (false, draft)
    | none =>
      if record.isOpen then
        Reader.colon
        Reader.passValue
        return .inl (false, draft)
      else .float (.unknownField (String.ofList key) record.names)

/-- Read the members of the record written as an object. -/
def readMembers : Reader σ :=
  Reader.loop (fun (state : Bool × σ) => record.readMember state.1 state.2) (true, record.empty)

/-- Read the record. -/
def read : Reader α := Reader.fixed do
  match ← Reader.next with
  | none => .stopAfter .endInValue
  | some '[' => do
    Reader.skip
    Reader.closedBy
      (do record.complete (← record.readElements 0 record.empty record.members))
      Reader.endArray
  | some '\x7b' => do
    Reader.skip
    Reader.closedBy (do record.complete (← record.readMembers)) Reader.endObject
  | some _ => Reader.wrongType ("struct " ++ record.name)

end Record

end Tint.Json
