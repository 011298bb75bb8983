import Catalog.Yaml.Token.Reading

/-! The nodes of YAML texts.
Where the tokens break off, or do not fit, everything that is open ends with a broken node: what
stands before it is kept. Readers of a part of the text return the tokens after it, and no tokens
after a broken node.
-/

namespace Catalog.Yaml

/-- What is written before a node. -/
structure Properties where
  anchor? : Option String := none
  tag? : Option String := none
  deriving DecidableEq, Repr

/-- A node. -/
inductive Node
  /-- Here the text stops being YAML. -/
  | broken
  /-- The node of another place, by its anchor. -/
  | aliasOf (anchor : String)
  | scalar (properties : Properties) (text : String) (style : Style)
  | sequence (properties : Properties) (items : List Node)
  | mapping (properties : Properties) (entries : List (Node × Node))

/-- What handles of tags stand for. -/
abbrev Handles := List (String × String)

/-- The handles that every document has, unless it changes their meaning. -/
def Handles.default : Handles :=
  [("!", "!"), ("!!", "tag:yaml.org,2002:")]

/-- The tag that a handle and a suffix stand for. -/
def Handles.resolve (handles : Handles) (handle suffix : String) : Option String :=
  if handle.isEmpty then some suffix
  else (handles.lookup handle).map (· ++ suffix)

/-- A node that is not written. -/
def Node.empty (properties : Properties := {}) : Node :=
  .scalar properties "" .plain

namespace Node

/-- Nodes that have been read, and the tokens after them. -/
abbrev Read (α : Type) := α × List Token

/-- Whether a node of the block around ends before the next token, or is not written. -/
def endsItem : List Token → Bool
  | .dash :: _ | .blockEnd :: _ => true
  | _ => false

/-- Whether an item of an unindented list is not written. -/
def endsUnindentedItem : List Token → Bool
  | .dash :: _ | .key :: _ | .value :: _ | .blockEnd :: _ => true
  | _ => false

/-- Whether a key or a value of a block is not written. -/
def endsEntry : List Token → Bool
  | .key :: _ | .value :: _ | .blockEnd :: _ => true
  | _ => false

/-- Whether a key in braces is not written. -/
def endsFlowKey : List Token → Bool
  | .value :: _ | .comma :: _ | .flowMappingEnd :: _ => true
  | _ => false

/-- Whether a value in braces is not written. -/
def endsFlowValue : List Token → Bool
  | .comma :: _ | .flowMappingEnd :: _ => true
  | _ => false

/-- Whether the key of a pair in brackets is not written. -/
def endsPairKey : List Token → Bool
  | .value :: _ | .comma :: _ | .flowSequenceEnd :: _ => true
  | _ => false

/-- Whether the value of a pair in brackets is not written. -/
def endsPairValue : List Token → Bool
  | .comma :: _ | .flowSequenceEnd :: _ => true
  | _ => false

/-- Where a node stands: in a block or in brackets, and whether dashes that are not indented
may start it.
-/
structure Context where
  block : Bool
  unindented : Bool := false

/-- A node of which only properties are written; there has to be at least one. -/
def unwritten (properties : Properties) (tokens : List Token) : Read Node :=
  if properties = {} ∨ tokens.isEmpty then (broken, []) else (empty properties, tokens)

mutual

/-- Reads a node: an alias, or the content after its properties. -/
def read (handles : Handles) (context : Context) (tokens : List Token) : Read Node :=
  match tokens with
  | .aliasOf anchor :: rest => (aliasOf anchor, rest)
  | .anchor anchor :: .tag handle suffix :: rest
  | .tag handle suffix :: .anchor anchor :: rest =>
    match handles.resolve handle suffix with
    | some tag => content handles context ⟨some anchor, some tag⟩ rest
    | none => (broken, [])
  | .tag handle suffix :: rest =>
    match handles.resolve handle suffix with
    | some tag => content handles context ⟨none, some tag⟩ rest
    | none => (broken, [])
  | .anchor anchor :: rest => content handles context ⟨some anchor, none⟩ rest
  | tokens => content handles context {} tokens
termination_by (tokens.length, 2)

/-- Reads the content of a node. -/
def content (handles : Handles) (context : Context) (properties : Properties)
    (tokens : List Token) : Read Node :=
  match tokens with
  | .scalar text style :: rest =>
    let tag? := properties.tag?.filter (· ≠ "!")
    (scalar { properties with tag? } text style, rest)
  | .flowSequenceStart :: rest =>
    let (items, rest) := flowItems handles true rest
    (sequence properties items, rest)
  | .flowMappingStart :: rest =>
    let (entries, rest) := flowEntries handles true rest
    (mapping properties entries, rest)
  | .dash :: rest =>
    if context.unindented then
      let (items, rest) := unindentedItems handles (.dash :: rest)
      (sequence properties items, rest)
    else unwritten properties (.dash :: rest)
  | .blockSequenceStart :: rest =>
    if context.block then
      let (items, rest) := blockItems handles rest
      (sequence properties items, rest)
    else unwritten properties (.blockSequenceStart :: rest)
  | .blockMappingStart :: rest =>
    if context.block then
      let (entries, rest) := blockEntries handles rest
      (mapping properties entries, rest)
    else unwritten properties (.blockMappingStart :: rest)
  | tokens => unwritten properties tokens
termination_by (tokens.length, 1)

/-- Reads the items of a list in a block, up to its end. -/
def blockItems (handles : Handles) (tokens : List Token) : Read (List Node) :=
  match tokens with
  | .dash :: rest =>
    let (item, after) :=
      if endsItem rest then (empty, rest) else read handles ⟨true, false⟩ rest
    if after.length ≤ rest.length then
      let (items, after) := blockItems handles after
      (item :: items, after)
    else ([item, broken], [])
  | .blockEnd :: rest => ([], rest)
  | _ => ([broken], [])
termination_by (tokens.length, 0)

/-- Reads the items of a list that is not indented; it ends where no dash follows. -/
def unindentedItems (handles : Handles) (tokens : List Token) : Read (List Node) :=
  match tokens with
  | .dash :: rest =>
    let (item, after) :=
      if endsUnindentedItem rest then (empty, rest) else read handles ⟨true, false⟩ rest
    if after.length ≤ rest.length then
      let (items, after) := unindentedItems handles after
      (item :: items, after)
    else ([item, broken], [])
  | [] => ([broken], [])
  | tokens => ([], tokens)
termination_by (tokens.length, 0)

/-- Reads the entries of a mapping in a block, up to its end. -/
def blockEntries (handles : Handles) (tokens : List Token) : Read (List (Node × Node)) :=
  match tokens with
  | .key :: rest =>
    let (key, after) :=
      if endsEntry rest then (empty, rest) else read handles ⟨true, true⟩ rest
    if after.length ≤ rest.length then
      let (value, last) := blockValue handles after
      if last.length ≤ rest.length then
        let (entries, last) := blockEntries handles last
        ((key, value) :: entries, last)
      else ([(key, value), (broken, broken)], [])
    else ([(key, broken)], [])
  | .blockEnd :: rest => ([], rest)
  | _ => ([(broken, broken)], [])
termination_by (tokens.length, 0)

/-- Reads the value of a key in a block, which may be missing. -/
def blockValue (handles : Handles) (tokens : List Token) : Read Node :=
  match tokens with
  | .value :: rest =>
    if endsEntry rest then (empty, rest) else read handles ⟨true, true⟩ rest
  | [] => (broken, [])
  | tokens => (empty, tokens)
termination_by (tokens.length, 0)

/-- Reads the items of a list in brackets, up to its end. -/
def flowItems (handles : Handles) (first : Bool) (tokens : List Token) : Read (List Node) :=
  match first, tokens with
  | _, .flowSequenceEnd :: rest | false, .comma :: .flowSequenceEnd :: rest => ([], rest)
  | true, tokens =>
    let (item, after) := flowItem handles tokens
    if after.length < tokens.length then
      let (items, after) := flowItems handles false after
      (item :: items, after)
    else ([item, broken], [])
  | false, .comma :: rest =>
    let (item, after) := flowItem handles rest
    if after.length ≤ rest.length then
      let (items, after) := flowItems handles false after
      (item :: items, after)
    else ([item, broken], [])
  | false, _ => ([broken], [])
termination_by (tokens.length, 4)

/-- Reads an item in brackets: a node, or a single pair of a key and a value. What follows the
mark of a key that is not written is passed over.
-/
def flowItem (handles : Handles) (tokens : List Token) : Read Node :=
  match tokens with
  | .key :: rest =>
    let (key, after) :=
      if endsPairKey rest then (empty, rest.tail) else read handles ⟨false, false⟩ rest
    if after.length ≤ rest.length then
      let (value, last) := flowValue handles endsPairValue after
      (mapping {} [(key, value)], last)
    else (mapping {} [(key, broken)], [])
  | tokens => read handles ⟨false, false⟩ tokens
termination_by (tokens.length, 3)

/-- Reads the value of a key in brackets or braces, which may be missing. -/
def flowValue (handles : Handles) (ends : List Token → Bool) (tokens : List Token)
    : Read Node :=
  match tokens with
  | .value :: rest =>
    if ends rest then (empty, rest) else read handles ⟨false, false⟩ rest
  | [] => (broken, [])
  | tokens => (empty, tokens)
termination_by (tokens.length, 0)

/-- Reads the entries of a mapping in braces, up to its end. -/
def flowEntries (handles : Handles) (first : Bool) (tokens : List Token)
    : Read (List (Node × Node)) :=
  match first, tokens with
  | _, .flowMappingEnd :: rest | false, .comma :: .flowMappingEnd :: rest => ([], rest)
  | true, tokens =>
    let (entry, after) := flowEntry handles tokens
    if after.length < tokens.length then
      let (entries, after) := flowEntries handles false after
      (entry :: entries, after)
    else ([entry, (broken, broken)], [])
  | false, .comma :: rest =>
    let (entry, after) := flowEntry handles rest
    if after.length ≤ rest.length then
      let (entries, after) := flowEntries handles false after
      (entry :: entries, after)
    else ([entry, (broken, broken)], [])
  | false, _ => ([(broken, broken)], [])
termination_by (tokens.length, 4)

/-- Reads an entry in braces. A node without the mark of a key has an empty value. -/
def flowEntry (handles : Handles) (tokens : List Token) : Read (Node × Node) :=
  match tokens with
  | .key :: rest =>
    let (key, after) :=
      if endsFlowKey rest then (empty, rest) else read handles ⟨false, false⟩ rest
    if after.length ≤ rest.length then
      let (value, last) := flowValue handles endsFlowValue after
      ((key, value), last)
    else ((key, broken), [])
  | tokens =>
    let (key, after) := read handles ⟨false, false⟩ tokens
    ((key, if after.isEmpty then broken else empty), after)
termination_by (tokens.length, 3)

end

/-- Reads the directives before a document; none may be given twice, and only the versions 1.1
and 1.2 are known.
-/
def directives (version : Bool) (handles : Handles) : List Token → Option (Handles × List Token)
  | .version major minor :: rest =>
    if version ∨ major ≠ 1 ∨ minor ≠ 1 ∧ minor ≠ 2 then none
    else directives true handles rest
  | .handle handle expansion :: rest =>
    if (handles.lookup handle).isSome then none
    else directives version (handles ++ [(handle, expansion)]) rest
  | tokens => some (handles ++ Handles.default, tokens)

/-- Whether the content of a document that has been started is not written. -/
def endsDocument : List Token → Bool
  | .version _ _ :: _ | .handle _ _ :: _ | .documentStart :: _ | .documentEnd :: _
  | .streamEnd :: _ => true
  | _ => false

/-- Reads the first document of a text. A text without any document holds an empty node. -/
def ofTokens (tokens : List Token) : Read Node :=
  match tokens with
  | .streamEnd :: _ => (empty, tokens)
  | .version _ _ :: _ | .handle _ _ :: _ | .documentStart :: _ =>
    match directives false [] tokens with
    | some (handles, .documentStart :: rest) =>
      if endsDocument rest then (empty, rest) else read handles ⟨true, false⟩ rest
    | _ => (broken, [])
  | tokens => read Handles.default ⟨true, false⟩ tokens

/-- Whether nothing follows a document. -/
def isLast : List Token → Bool
  | .documentEnd :: rest => isLast rest
  | .streamEnd :: _ => true
  | _ => false

/-- The first document of a text, and whether it is the only one and the text is YAML up to its
end.
-/
def ofText (text : String) : Node × Bool :=
  let (node, rest) := ofTokens (Token.number [] (tokens text))
  (node, isLast rest)

end Node

end Catalog.Yaml
