import Catalog.Json.Token

/-! What a JSON text says, as far as it can be read.
A reading keeps the order and the repetitions of object keys, and it keeps what stands before
the place where a text breaks off: whoever reads it from left to right meets a fault of
content before a later fault of form. Parts that are form but have no value, such as a number
too large for a float, only matter to those who ask for their value.
-/

namespace Catalog.Json

/-- A JSON text that has been read from left to right. The key of an entry is absent when it
cannot be read or holds a lone surrogate.
-/
inductive Reading
  /-- Here the text stops being JSON; nothing follows. -/
  | malformed
  | null
  | bool (value : Bool)
  | number (value : Option Number)
  | string (value : Option String)
  | array (items : List Reading)
  | object (entries : List (Option String × Reading))
  /-- An array or object that is nested too deeply to have a value. -/
  | deep (container : Reading)

/-- Arrays and objects may be nested this deeply. -/
def depthLimit : Nat := 127

namespace Reading

/-- An array or object that is being read, with what it holds so far in reverse. -/
inductive Frame
  | array (items : List Reading)
  | object (entries : List (Option String × Reading)) (key : Option String)

/-- What may come next. -/
inductive Expectation
  | value
  | firstItem
  | afterItem
  | firstKey
  | key
  | colon
  | afterEntry

/-- Wraps a finished container if it lies below the depth limit; the argument counts the
containers around it.
-/
def place (depth : Nat) (container : Reading) : Reading :=
  if depth < depthLimit then container else deep container

/-- The frame with a value that has just been read. -/
def Frame.add (value : Reading) : Frame → Frame
  | .array items => .array (value :: items)
  | .object entries key => .object ((key, value) :: entries) none

/-- The container of a frame that ends. -/
def Frame.close : Frame → Reading
  | .array items => .array items.reverse
  | .object entries _ => .object entries.reverse

/-- What may follow a value in a frame. -/
def Frame.afterValue : Frame → Expectation
  | .array _ => .afterItem
  | .object _ _ => .afterEntry

/-- The reading of a text that breaks off: everything that is open ends there. -/
def abandon (value : Reading) : List Frame → Reading
  | [] => value
  | frame :: outer => abandon (place outer.length (frame.add value).close) outer

/-- Reads the tokens that follow, and returns the value with the tokens left after it. -/
def ofTokensFrom (stack : List Frame) (expected : Expectation)
    : List Token → Reading × List Token
  | [] => (abandon malformed stack, [])
  | token :: rest =>
    let broken : Reading × List Token := (abandon malformed stack, [])
    let complete (value : Reading) (stack : List Frame) : Reading × List Token :=
      match stack with
      | [] => (value, rest)
      | frame :: outer => ofTokensFrom (frame.add value :: outer) frame.afterValue rest
    let start (frame : Frame) (next : Expectation) : Reading × List Token :=
      ofTokensFrom (frame :: stack) next rest
    let value : Reading × List Token :=
      match token with
      | .null => complete null stack
      | .bool b => complete (bool b) stack
      | .number n => complete (number n) stack
      | .string s => complete (string s) stack
      | .openArray => start (.array []) .firstItem
      | .openObject => start (.object [] none) .firstKey
      | _ => broken
    match expected, token, stack with
    | .value, _, _ => value
    | .firstItem, .closeArray, frame :: outer
    | .afterItem, .closeArray, frame :: outer
    | .firstKey, .closeObject, frame :: outer
    | .afterEntry, .closeObject, frame :: outer =>
      complete (place outer.length frame.close) outer
    | .firstItem, _, _ => value
    | .afterItem, .comma, _ => ofTokensFrom stack .value rest
    | .firstKey, .string s, .object entries _ :: outer
    | .key, .string s, .object entries _ :: outer =>
      ofTokensFrom (.object entries s :: outer) .colon rest
    | .colon, .colon, _ => ofTokensFrom stack .value rest
    | .afterEntry, .comma, _ => ofTokensFrom stack .key rest
    | _, _, _ => broken

/-- The first value of a text, and whether nothing but white space follows it. -/
def ofText (text : String) : Reading × Bool :=
  let (reading, rest) := ofTokensFrom [] .value (tokens text)
  (reading, rest.isEmpty)

mutual

/-- The value of a reading; there is none when any part of it has none. The last entry of a
repeated key wins.
-/
def value? : Reading → Option Json
  | malformed => none
  | null => some .null
  | bool b => some (.bool b)
  | number n => n.map .number
  | string s => s.map .string
  | array items => (values? items).map .array
  | object entries => (entryValues? entries).map (.object ∘ Entries.ofList)
  | deep _ => none

/-- The values of all items, if each has one. -/
def values? : List Reading → Option (List Json)
  | [] => some []
  | item :: rest => do
    let value ← item.value?
    let values ← values? rest
    return value :: values

/-- The entries with their values, if each has a key and a value. -/
def entryValues? : List (Option String × Reading) → Option (List (String × Json))
  | [] => some []
  | (key, item) :: rest => do
    let key ← key
    let value ← item.value?
    let values ← entryValues? rest
    return (key, value) :: values

end

mutual

/-- Whether a reading is complete, so that it can be passed over. -/
def isComplete : Reading → Bool
  | malformed => false
  | null | bool _ | number _ | string _ => true
  | array items => allComplete items
  | object entries => entriesComplete entries
  | deep container => container.isComplete

/-- Whether all items are complete. -/
def allComplete : List Reading → Bool
  | [] => true
  | item :: rest => item.isComplete && allComplete rest

/-- Whether all entries are complete. -/
def entriesComplete : List (Option String × Reading) → Bool
  | [] => true
  | (_, item) :: rest => item.isComplete && entriesComplete rest

end

end Reading

mutual

/-- A value as a reading. -/
def toReading : Json → Reading
  | null => .null
  | bool b => .bool b
  | number n => .number (some n)
  | string s => .string (some s)
  | array items => .array (toReadings items)
  | object entries => .object (toEntryReadings entries)

/-- The items of an array as readings. -/
def toReadings : List Json → List Reading
  | [] => []
  | item :: rest => item.toReading :: toReadings rest

/-- The entries of an object as readings. -/
def toEntryReadings : List (String × Json) → List (Option String × Reading)
  | [] => []
  | (key, value) :: rest => (some key, value.toReading) :: toEntryReadings rest

end

/-- The value of a text that holds one JSON value and nothing else. -/
def parse? (text : String) : Option Json :=
  match Reading.ofText text with
  | (reading, true) => reading.value?
  | (_, false) => none

end Catalog.Json
