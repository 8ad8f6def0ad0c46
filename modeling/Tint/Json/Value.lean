import Tint.Json.Number

/-!
# Reading and passing over values

Values of a wanted kind, and values of any kind that are passed over. A value of a
kind that is not wanted is read just far enough to say what it is.
-/

namespace Tint.Json.Reader

variable {α : Type}

/-- Stop at a value of a kind that is not wanted, after reading enough to name it. -/
def wrongType (expected : String) : Reader α := fixed do
  match (← look).head? with
  | some 'n' => do skip; word "ull".toList; float (.wrongType .null expected)
  | some 't' => do skip; word "rue".toList; float (.wrongType (.boolean true) expected)
  | some 'f' => do skip; word "alse".toList; float (.wrongType (.boolean false) expected)
  | some '"' => do
    skip
    let content ← string
    float (.wrongType (.string content) expected)
  | some '[' => float (.wrongType .sequence expected)
  | some '\x7b' => float (.wrongType .map expected)
  | some c =>
    if c = '-' || isDigit c then
      match ← number with
      | .integer n => float (.wrongType (.integer n) expected)
      | .float v => float (.wrongType (.float v) expected)
    else stopAfter .expectedValue
  | none => stopAfter .expectedValue

/-- A whole number from `low` to `high`. -/
def integerWithin (low high : Int) (expected : String) : Reader Int := fixed do
  match ← next with
  | none => stopAfter .endInValue
  | some c =>
    if c = '-' || isDigit c then
      match ← number with
      | .integer n => if low ≤ n ∧ n ≤ high then return n else float (.wrongValue n expected)
      | .float v => float (.wrongType (.float v) expected)
    else wrongType expected

/-- A byte. -/
def byte : Reader UInt8 := do
  let n ← integerWithin 0 255 "u8"
  return UInt8.ofNat n.toNat

/-- Null, or a value. -/
def optional (r : Reader α) : Reader (Option α) := do
  match ← next with
  | some 'n' => do skip; word "ull".toList; return none
  | _ => some <$> r

/-! ### Names -/

/-- The value of a name in a table; the table also lists the names for messages. -/
def named (table : List (String × α)) : Reader α := fixed do
  let content ← string
  match table.find? fun (name, _) => name.toList = content with
  | some (_, value) => return value
  | none => float (.unknownVariant (String.ofList content) (table.map (·.1)))

/-- Null and nothing else. -/
def nothing : Reader Unit := fixed do
  match ← next with
  | none => stopAfter .endInValue
  | some 'n' => do skip; word "ull".toList
  | some _ => wrongType "unit"

/-- A name of a table: as a string, or as the only key of an object with a null
value. -/
def oneName (table : List (String × α)) : Reader α := do
  match ← next with
  | none => stopAfter .endInValue
  | some '"' => do skip; named table
  | some '\x7b' => do
    skip
    match ← next with
    | none => stopAfter .endInObject
    | some '\x7d' => stopAfter .expectedValue
    | some '"' => do
      skip
      let value ← named table
      colon
      nothing
      match ← next with
      | none => stop .endInObject
      | some '\x7d' => do skip; return value
      | some _ => stop .expectedValue
    | some _ => stopAfter .keyNotString
  | some _ => stopAfter .expectedValue

/-! ### Arrays and objects -/

/-- Whether an array has another element; if so, it is at the front. -/
def element (first : Bool) : Reader Bool := do
  match ← next with
  | none => stopAfter .endInList
  | some ']' => return false
  | some c =>
    if first then return true
    else if c = ',' then
      skip
      match ← next with
      | none => stopAfter .endInValue
      | some ']' => stopAfter .trailingComma
      | some _ => return true
    else stopAfter .expectedListComma

/-- Take the end of an array. -/
def endArray : Reader Unit := do
  match ← next with
  | none => stopAfter .endInList
  | some ']' => skip
  | some ',' => do
    skip
    match ← next with
    | some ']' => stopAfter .trailingComma
    | _ => stopAfter .trailingCharacters
  | some _ => stopAfter .trailingCharacters

/-- The key of the next member of an object, if there is one. -/
def key (first : Bool) : Reader (Option (List Char)) := do
  match ← next with
  | none => stopAfter .endInObject
  | some '\x7d' => return none
  | some c =>
    if first then
      if c = '"' then
        skip
        some <$> string
      else stopAfter .keyNotString
    else if c = ',' then
      skip
      match ← next with
      | none => stopAfter .endInValue
      | some '"' => do skip; some <$> string
      | some '\x7d' => stopAfter .trailingComma
      | some _ => stopAfter .keyNotString
    else stopAfter .expectedObjectComma

/-- Take the end of an object. -/
def endObject : Reader Unit := do
  match ← next with
  | none => stopAfter .endInObject
  | some '\x7d' => skip
  | some ',' => stopAfter .trailingComma
  | some _ => stopAfter .trailingCharacters

/-- The elements of an array, after its opening bracket. -/
def elements (r : Reader α) : Reader (List α) :=
  loop (fun read => do
    if ← element read.isEmpty then
      let a ← r
      return .inl (a :: read)
    else return .inr read.reverse) []

/-- An array. -/
def array (r : Reader α) : Reader (List α) := fixed do
  match ← next with
  | none => stopAfter .endInValue
  | some '[' => do skip; (elements r).closedBy endArray
  | some _ => wrongType "a sequence"

/-! ### Values that are passed over -/

/-- What encloses the value that is passed over. -/
inductive Enclosure where
  /-- An array. -/
  | array
  /-- An object. -/
  | object
deriving DecidableEq, Repr

/-- The bracket that ends an enclosure. -/
def Enclosure.closing : Enclosure → Char
  | array => ']'
  | object => '\x7d'

/-- The issue of a text that ends in an enclosure. -/
def Enclosure.ending : Enclosure → Issue
  | array => .endInList
  | object => .endInObject

/-- The issue of a value that is followed by neither a comma nor the end. -/
def Enclosure.separator : Enclosure → Issue
  | array => .expectedListComma
  | object => .expectedObjectComma

/-- Pass over a key and its colon. -/
def passKey : Reader Unit := do
  match ← next with
  | none => stopAfter .endInObject
  | some '"' => do skip; passString; colon
  | some _ => stopAfter .keyNotString

/-- Pass over what stands before the value of an enclosure. -/
def passLead : Enclosure → Reader Unit
  | .array => pure ()
  | .object => passKey

/-- What passing over a value does next. -/
inductive Passing where
  /-- A value follows. -/
  | value
  /-- A value has ended. -/
  | ended
deriving DecidableEq, Repr

/-- Open an enclosure: it may end at once. -/
def passOpen (enclosure : Enclosure) (outer : List Enclosure) :
    Reader (Passing × List Enclosure) := do
  skip
  match ← next with
  | none => stopAfter enclosure.ending
  | some c =>
    if c = enclosure.closing then
      skip
      return (.ended, outer)
    else
      passLead enclosure
      return (.value, enclosure :: outer)

/-- Pass over the front of a value within enclosures, innermost first. -/
def passFront (enclosures : List Enclosure) : Reader (Passing × List Enclosure) := do
  match ← next with
  | none => stopAfter .endInValue
  | some 'n' => do skip; word "ull".toList; return (.ended, enclosures)
  | some 't' => do skip; word "rue".toList; return (.ended, enclosures)
  | some 'f' => do skip; word "alse".toList; return (.ended, enclosures)
  | some '"' => do skip; passString; return (.ended, enclosures)
  | some '[' => passOpen .array enclosures
  | some '\x7b' => passOpen .object enclosures
  | some c =>
    if c = '-' || isDigit c then
      passNumber
      return (.ended, enclosures)
    else stopAfter .expectedValue

/-- Pass over what follows a value in an enclosure. -/
def passNext (enclosure : Enclosure) (outer : List Enclosure) :
    Reader (Passing × List Enclosure) := do
  match ← next with
  | none => stopAfter enclosure.ending
  | some c =>
    if c = ',' then
      skip
      passLead enclosure
      return (.value, enclosure :: outer)
    else if c = enclosure.closing then
      skip
      return (.ended, outer)
    else stopAfter enclosure.separator

/-- Pass over a value of any kind, however deep. -/
def passValue : Reader Unit :=
  loop (fun (state : Passing × List Enclosure) =>
    match state with
    | (.value, enclosures) => .inl <$> passFront enclosures
    | (.ended, enclosure :: outer) => .inl <$> passNext enclosure outer
    | (.ended, []) => pure (.inr ())) (.value, [])

end Tint.Json.Reader
