import Catalog.Source.Token

/-! The parts of source code that are passed over: types, generics and expressions.
A form says what has to come next. Expanding it looks at the tokens ahead, takes some of them
and says which forms follow, so a text is passed over with a stack of forms and without
recursion into the grammar.
-/

namespace Catalog.Source

/-- What has to come next in source code. -/
inductive Form
  | keyword (text : String)
  | mark (mark : Char)
  /-- Two punctuation characters without a gap. -/
  | pair (first second : Char)
  /-- A word that can name something. -/
  | name
  | closing (bracket : Bracket)
  /-- Anything up to the bracket that closes the innermost open one. -/
  | untilClosed
  /-- A type. Only where it is `bounded` may several bounds follow. -/
  | type (bounded : Bool)
  | typeEnd (bounded : Bool)
  /-- Types up to the end of a group. -/
  | types
  | typesEnd
  | arrayEnd
  | function
  | parameters
  | parameter
  | parametersEnd
  /-- The types that a call takes and returns. -/
  | optionalCall
  | result
  /-- A path from a type seen as another one. -/
  | qualified
  | optionalAs
  | path
  | segments
  | segmentEnd
  | arguments
  | argument
  | argumentsEnd
  | binder
  | lifetimes
  | lifetimesEnd
  | bounds
  | boundsEnd
  | bound
  | traitBound
  | optionalGenerics
  | generics
  | optionalBounds
  | optionalDefault
  | genericsEnd
  | optionalConditions
  | conditions
  | conditionBounds
  | conditionsEnd
  /-- An expression. Unless it may have `structs`, a curly bracket after a path is not part of it.
  -/
  | expression (structs : Bool)
  | pathEnd (structs : Bool)
  | operandEnd (structs : Bool)
  /-- The rest of an operator, of so many characters at most, and its second operand. -/
  | operator (structs : Bool) (characters : Nat)
  /-- What is chosen from an operand after a dot. -/
  | part
  | partEnd (structs : Bool)
  | rangeEnd (structs : Bool)
  /-- What a range ends with, or what is returned, if anything. -/
  | optionalOperand (structs : Bool)
  | optionalLabel
  | block
  | optionalElse
  /-- A loop or a block, without its label. -/
  | loop
  /-- A closure, or a block in its place, without the words before it. -/
  | closure (structs : Bool)
  | closureBody (structs : Bool)
  /-- A pattern or parameters, up to what they end with. -/
  | untilMark (mark : Char)
  | untilWord (text : String)
  | visibility
  | attributes
  | namedFields
  | fieldName
  | namedFieldsEnd
  | tupleFields
  | tupleFieldsEnd
  | variants
  | variantFields
  | optionalValue
  | variantsEnd
  deriving DecidableEq, Repr

/-- The forms that come next, and the tokens that are left for them. -/
abbrev Expansion := Option (List Form × List Token)

/-- A word that is not raw. -/
def plain (name : String) : Token :=
  .word ⟨name, false⟩

/-- Whether the tokens start with a punctuation character. -/
def startsWithMark (mark : Char) : List Token → Bool
  | .mark c _ :: _ => c = mark
  | _ => false

/-- Whether the tokens start with two punctuation characters without a gap. -/
def startsWithPair (first second : Char) : List Token → Bool
  | .mark a true :: .mark b _ :: _ => a = first && b = second
  | _ => false

/-- The tokens after a pair of colons. -/
def afterColons? : List Token → Option (List Token)
  | .mark ':' true :: .mark ':' _ :: rest => some rest
  | _ => none

/-- Whether a colon comes next that is not one of a pair. -/
def startsWithColon (tokens : List Token) : Bool :=
  startsWithMark ':' tokens && !startsWithPair ':' ':' tokens

/-- Whether a bound can start here. -/
def startsBound : List Token → Bool
  | .word _ :: _ | .lifetime :: _ | .opening .round :: _ | .mark '?' _ :: _ => true
  | tokens => startsWithPair ':' ':' tokens

/-- Whether the conditions on generics end here. -/
def endsConditions : List Token → Bool
  | [] | .opening .curly :: _ | .mark ',' _ :: _ | .mark ';' _ :: _ | .mark '=' _ :: _ => true
  | tokens => startsWithColon tokens

/-- Punctuation characters that operators consist of. -/
def operatorMarks : List Char :=
  "+-*/%^&|<>=!".toList

namespace Form

/-- Expands a form that is one token or two, or what stands in brackets. -/
def expandToken : Form → List Token → Expansion
  | keyword text, .word word :: rest => if word = ⟨text, false⟩ then some ([], rest) else none
  | mark c, tokens => if startsWithMark c tokens then some ([], tokens.drop 1) else none
  | pair a b, tokens => if startsWithPair a b tokens then some ([], tokens.drop 2) else none
  | name, .word word :: rest => if word.isName then some ([], rest) else none
  | closing bracket, .closing other :: rest => if bracket = other then some ([], rest) else none
  | untilClosed, .closing _ :: rest => some ([], rest)
  | untilClosed, .opening _ :: rest => some ([untilClosed, untilClosed], rest)
  | untilClosed, _ :: rest => some ([untilClosed], rest)
  | _, _ => none

/-- Expands a reference type after its sign. -/
def expandReference (tokens : List Token) : Expansion :=
  let rest :=
    match tokens with
    | .lifetime :: rest => rest
    | rest => rest
  match rest with
  | .word ⟨"mut", false⟩ :: rest => some ([type false], rest)
  | rest => some ([type false], rest)

/-- Expands a type that starts with a word. -/
def expandTypeWord (bounded : Bool) (word : Word) (rest : List Token) : Expansion :=
  match word with
  | ⟨"for", false⟩ => some ([binder, type bounded], rest)
  | ⟨"fn", false⟩ | ⟨"unsafe", false⟩ | ⟨"extern", false⟩ => some ([function], .word word :: rest)
  | ⟨"dyn", false⟩ | ⟨"impl", false⟩ => some ([bounds], rest)
  | ⟨"_", false⟩ => some ([], rest)
  | word => some ([path, typeEnd bounded], .word word :: rest)

/-- Expands a type. -/
def expandType (bounded : Bool) : List Token → Expansion
  | .opening .round :: .closing .round :: rest => some ([], rest)
  | .opening .round :: .lifetime :: rest => some ([bounds, closing .round], .lifetime :: rest)
  | .opening .round :: .mark '?' _ :: rest => some ([traitBound, closing .round, boundsEnd], rest)
  | .opening .round :: rest =>
    some ([type true, typesEnd] ++ (if bounded then [boundsEnd] else []), rest)
  | .opening .square :: rest => some ([type true, arrayEnd], rest)
  | .lifetime :: rest => some ([bounds], .lifetime :: rest)
  | .mark '*' _ :: .word word :: rest =>
    if word = ⟨"const", false⟩ ∨ word = ⟨"mut", false⟩ then some ([type false], rest) else none
  | .mark '&' _ :: rest => expandReference rest
  | .mark '!' _ :: rest => some ([], rest)
  | .mark '<' _ :: rest => some ([qualified, typeEnd bounded], rest)
  | .word word :: rest => expandTypeWord bounded word rest
  | tokens => if (afterColons? tokens).isSome then some ([path, typeEnd bounded], tokens) else none

/-- Expands what follows a path that is a type. -/
def expandTypeEnd (bounded : Bool) (tokens : List Token) : Expansion :=
  let more : List Form := if bounded then [boundsEnd] else []
  match tokens with
  | .mark '!' _ :: .opening _ :: rest => some ([untilClosed], rest)
  | tokens => some (optionalCall :: more, tokens)

/-- Expands a group of types, the length of an array, or the rest of a function type. -/
def expandTypes : Form → List Token → Expansion
  | types, .closing .round :: rest => some ([], rest)
  | types, tokens => some ([type true, typesEnd], tokens)
  | typesEnd, .closing .round :: rest => some ([], rest)
  | typesEnd, .mark ',' _ :: rest => some ([types], rest)
  | arrayEnd, .mark ';' _ :: rest => some ([expression true, closing .square], rest)
  | arrayEnd, tokens => some ([closing .square], tokens)
  | function, .word ⟨"unsafe", false⟩ :: rest => some ([function], rest)
  | function, .word ⟨"extern", false⟩ :: .text _ :: rest => some ([function], rest)
  | function, .word ⟨"extern", false⟩ :: rest => some ([function], rest)
  | function, .word ⟨"fn", false⟩ :: .opening .round :: rest => some ([parameters, result], rest)
  | parameters, .closing .round :: rest => some ([], rest)
  | parameters, .mark '.' true :: .mark '.' true :: .mark '.' _ :: rest =>
    some ([closing .round], rest)
  | parameters, tokens => some ([attributes, parameter, parametersEnd], tokens)
  | parameter, .word word :: rest =>
    if startsWithColon rest then some ([type true], rest.drop 1)
    else some ([type true], .word word :: rest)
  | parameter, tokens => some ([type true], tokens)
  | parametersEnd, .closing .round :: rest => some ([], rest)
  | parametersEnd, .mark ',' _ :: rest => some ([parameters], rest)
  | optionalCall, .opening .round :: rest => some ([types, result], rest)
  | optionalCall, tokens =>
    match afterColons? tokens with
    | some (.opening .round :: rest) => some ([types, result], rest)
    | _ => some ([], tokens)
  | result, tokens =>
    if startsWithPair '-' '>' tokens then some ([type false], tokens.drop 2)
    else some ([], tokens)
  | _, _ => none

/-- Expands one segment of a path. The words for places in the tree of modules stand alone. -/
def expandSegment (word : Word) (rest : List Token) : Expansion :=
  if word.isName ∨ word.name = "Self" then some ([segmentEnd], rest)
  else if ["super", "self", "crate"].contains word.name then
    match afterColons? rest with
    | some rest => some ([segments], rest)
    | none => some ([], rest)
  else none

/-- Expands what follows a segment of a path: arguments, or a further segment. -/
def expandSegmentEnd (tokens : List Token) : Expansion :=
  match tokens with
  | .mark '<' _ :: rest =>
    if startsWithPair '<' '=' tokens then some ([], tokens)
    else some ([arguments, segmentEnd], rest)
  | tokens =>
    match afterColons? tokens with
    | none | some (.opening .round :: _) => some ([], tokens)
    | some (.mark '<' _ :: rest) => some ([arguments, segmentEnd], rest)
    | some rest => some ([segments], rest)

/-- Expands a path or a part of it. -/
def expandPath : Form → List Token → Expansion
  | qualified, tokens => some ([type true, optionalAs, mark '>', pair ':' ':', segments], tokens)
  | optionalAs, .word ⟨"as", false⟩ :: rest => some ([path], rest)
  | optionalAs, tokens => some ([], tokens)
  | path, tokens => some ([segments], (afterColons? tokens).getD tokens)
  | segments, .word word :: rest => expandSegment word rest
  | segmentEnd, tokens => expandSegmentEnd tokens
  | _, _ => none

/-- Expands an argument that starts with a word. -/
def expandArgumentWord (word : Word) (rest : List Token) : Expansion :=
  if word.isName && startsWithMark '=' rest then some ([argument], rest.drop 1)
  else if word.isName && startsWithColon rest then some ([bounds], rest.drop 1)
  else if word = ⟨"true", false⟩ ∨ word = ⟨"false", false⟩ then some ([], rest)
  else some ([type true], .word word :: rest)

/-- Expands the arguments of a generic type. -/
def expandArguments : Form → List Token → Expansion
  | arguments, .mark '>' _ :: rest => some ([], rest)
  | arguments, tokens => some ([argument, argumentsEnd], tokens)
  | argument, .text _ :: rest | argument, .integer _ :: rest | argument, .literal :: rest
  | argument, .mark '-' _ :: .integer _ :: rest | argument, .mark '-' _ :: .literal :: rest =>
    some ([], rest)
  | argument, .opening .curly :: rest => some ([untilClosed], rest)
  | argument, .lifetime :: rest =>
    if startsWithMark '+' rest then some ([bounds], .lifetime :: rest) else some ([], rest)
  | argument, .word word :: rest => expandArgumentWord word rest
  | argument, tokens => some ([type true], tokens)
  | argumentsEnd, .mark '>' _ :: rest => some ([], rest)
  | argumentsEnd, .mark ',' _ :: rest => some ([arguments], rest)
  | _, _ => none

/-- Expands bounds, and the lifetimes that they may be for. -/
def expandBounds : Form → List Token → Expansion
  | binder, .mark '<' _ :: rest => some ([lifetimes], rest)
  | lifetimes, .mark '>' _ :: rest => some ([], rest)
  | lifetimes, .lifetime :: rest => some ([lifetimesEnd], rest)
  | lifetimesEnd, .mark '>' _ :: rest => some ([], rest)
  | lifetimesEnd, .mark ',' _ :: rest => some ([lifetimes], rest)
  | lifetimesEnd, .mark ':' _ :: rest => some ([bounds, lifetimesEnd], rest)
  | bounds, tokens => some ([bound, boundsEnd], tokens)
  | boundsEnd, .mark '+' _ :: rest =>
    some (if startsBound rest then [bound, boundsEnd] else [], rest)
  | boundsEnd, tokens => some ([], tokens)
  | bound, .lifetime :: rest => some ([], rest)
  | bound, .opening .round :: rest => some ([traitBound, closing .round], rest)
  | bound, tokens => some ([traitBound], tokens)
  | traitBound, .mark '?' _ :: rest => some ([traitBound], rest)
  | traitBound, .word ⟨"for", false⟩ :: rest => some ([binder, traitBound], rest)
  | traitBound, tokens => some ([path, optionalCall], tokens)
  | _, _ => none

/-- Expands the generics of an item and the conditions on them. -/
def expandGenerics : Form → List Token → Expansion
  | optionalGenerics, .mark '<' _ :: rest => some ([generics], rest)
  | optionalGenerics, tokens => some ([], tokens)
  | generics, .mark '>' _ :: rest => some ([], rest)
  | generics, .mark '#' joint :: rest => some ([attributes, generics], .mark '#' joint :: rest)
  | generics, .lifetime :: rest => some ([optionalBounds, genericsEnd], rest)
  | generics, .word ⟨"const", false⟩ :: rest =>
    some ([name, mark ':', type true, optionalDefault, genericsEnd], rest)
  | generics, .word word :: rest =>
    if word.isName ∨ word.name = "_" then
      some ([optionalBounds, optionalDefault, genericsEnd], rest)
    else none
  | optionalBounds, .mark ':' _ :: rest => some (if startsBound rest then [bounds] else [], rest)
  | optionalBounds, tokens => some ([], tokens)
  | optionalDefault, .mark '=' _ :: rest => some ([argument], rest)
  | optionalDefault, tokens => some ([], tokens)
  | genericsEnd, .mark '>' _ :: rest => some ([], rest)
  | genericsEnd, .mark ',' _ :: rest => some ([generics], rest)
  | optionalConditions, .word ⟨"where", false⟩ :: rest => some ([conditions], rest)
  | optionalConditions, tokens => some ([], tokens)
  | conditions, tokens =>
    some (if endsConditions tokens then []
      else [type true, mark ':', conditionBounds, conditionsEnd], tokens)
  | conditionBounds, tokens => some (if endsConditions tokens then [] else [bounds], tokens)
  | conditionsEnd, .mark ',' _ :: rest => some ([conditions], rest)
  | conditionsEnd, tokens => some ([], tokens)
  | _, _ => none

/-- Expands a pattern or parameters. -/
def expandUntil : Form → List Token → Expansion
  | untilMark c, .mark '.' true :: .mark '=' _ :: rest => some ([untilMark c], rest)
  | untilMark c, .mark other _ :: rest => some (if other = c then [] else [untilMark c], rest)
  | untilWord text, .word word :: rest =>
    some (if word = ⟨text, false⟩ then [] else [untilWord text], rest)
  | form, .opening _ :: rest => some ([untilClosed, form], rest)
  | _, .closing _ :: _ => none
  | form, _ :: rest => some ([form], rest)
  | _, [] => none

/-- Expands a part of an expression that consists of blocks. -/
def expandBlocks : Form → List Token → Expansion
  | optionalLabel, .lifetime :: rest => some ([], rest)
  | optionalLabel, tokens => some ([], tokens)
  | block, .opening .curly :: rest => some ([untilClosed], rest)
  | optionalElse, .word ⟨"else", false⟩ :: .word ⟨"if", false⟩ :: rest =>
    some ([expression false, block, optionalElse], rest)
  | optionalElse, .word ⟨"else", false⟩ :: rest => some ([block], rest)
  | optionalElse, tokens => some ([], tokens)
  | loop, .word ⟨"for", false⟩ :: rest => some ([untilWord "in", expression false, block], rest)
  | loop, .word ⟨"while", false⟩ :: rest => some ([expression false, block], rest)
  | loop, .word ⟨"loop", false⟩ :: rest => some ([block], rest)
  | loop, tokens => some ([block], tokens)
  | closure structs, .mark '|' _ :: rest => some ([untilMark '|', closureBody structs], rest)
  | closure structs, .word ⟨"async", false⟩ :: rest => some ([closure structs], rest)
  | closure structs, .word ⟨"move", false⟩ :: rest => some ([closure structs], rest)
  | closure _, tokens => some ([block], tokens)
  | closureBody structs, tokens =>
    if startsWithPair '-' '>' tokens then some ([type false, block], tokens.drop 2)
    else some ([expression structs], tokens)
  | _, _ => none

/-- Expands what follows a word that starts a closure or a block, or else is a path. -/
def expandAsync (structs : Bool) : List Token → Expansion
  | .word ⟨"move", false⟩ :: rest => some ([closure structs, operandEnd structs], rest)
  | .opening .curly :: rest =>
    some ([closure structs, operandEnd structs], .opening .curly :: rest)
  | .mark '|' joint :: rest =>
    some ([closure structs, operandEnd structs], .mark '|' joint :: rest)
  | rest => some ([pathEnd structs], rest)

/-- Expands an expression that starts with a word. -/
def expandOperandWord (structs : Bool) (word : Word) (rest : List Token) : Expansion :=
  match word with
  | ⟨"if", false⟩ => some ([expression false, block, optionalElse, operandEnd structs], rest)
  | ⟨"match", false⟩ => some ([expression false, block, operandEnd structs], rest)
  | ⟨"for", false⟩ | ⟨"while", false⟩ | ⟨"loop", false⟩ =>
    some ([loop, operandEnd structs], .word word :: rest)
  | ⟨"unsafe", false⟩ | ⟨"const", false⟩ => some ([block, operandEnd structs], rest)
  | ⟨"move", false⟩ | ⟨"static", false⟩ => some ([closure structs, operandEnd structs], rest)
  | ⟨"async", false⟩ => expandAsync structs rest
  | ⟨"let", false⟩ => some ([untilMark '=', expression structs], rest)
  | ⟨"return", false⟩ => some ([optionalOperand structs], rest)
  | ⟨"break", false⟩ => some ([optionalLabel, optionalOperand structs], rest)
  | ⟨"continue", false⟩ => some ([optionalLabel, operandEnd structs], rest)
  | ⟨"true", false⟩ | ⟨"false", false⟩ | ⟨"_", false⟩ => some ([operandEnd structs], rest)
  | word =>
    if word.isName ∨ ["super", "self", "Self", "crate"].contains word.name then
      some ([pathEnd structs], rest)
    else none

/-- Expands an expression that starts with a sign. -/
def expandSign (structs : Bool) (sign : Char) (rest : List Token) : Expansion :=
  if sign = '<' then some ([qualified, pathEnd structs], rest)
  else if sign = '|' then
    some ([untilMark '|', closureBody structs, operandEnd structs], rest)
  else if ['-', '!', '*', '&'].contains sign then
    match rest with
    | .word ⟨"mut", false⟩ :: rest => some ([expression structs], rest)
    | rest => some ([expression structs], rest)
  else none

/-- Expands an expression. What stands in brackets is not looked into. -/
def expandOperand (structs : Bool) : List Token → Expansion
  | .opening _ :: rest => some ([untilClosed, operandEnd structs], rest)
  | .text _ :: rest | .integer _ :: rest | .literal :: rest => some ([operandEnd structs], rest)
  | .lifetime :: .mark ':' _ :: rest => some ([loop, operandEnd structs], rest)
  | .word word :: rest => expandOperandWord structs word rest
  | .mark c joint :: rest =>
    if startsWithPair '.' '.' (.mark c joint :: rest) then
      some ([rangeEnd structs], rest.drop 1)
    else match afterColons? (.mark c joint :: rest) with
    | some (.word _ :: rest) => some ([pathEnd structs], rest)
    | some _ => none
    | none => expandSign structs c rest
  | _ => none

/-- Expands what follows a path in an expression. -/
def expandPathEnd (structs : Bool) (tokens : List Token) : Expansion :=
  match afterColons? tokens, tokens with
  | some (.mark '<' _ :: rest), _ => some ([arguments, pathEnd structs], rest)
  | some (.word _ :: rest), _ => some ([pathEnd structs], rest)
  | some _, _ => none
  | none, .mark '!' _ :: .opening _ :: rest => some ([untilClosed, operandEnd structs], rest)
  | none, .opening .curly :: rest =>
    if structs then some ([untilClosed, operandEnd structs], rest)
    else some ([], .opening .curly :: rest)
  | none, tokens => some ([operandEnd structs], tokens)

/-- Expands what follows an operand. -/
def expandOperandEnd (structs : Bool) (tokens : List Token) : Expansion :=
  if startsWithPair '.' '.' tokens then some ([rangeEnd structs], tokens.drop 2)
  else match tokens with
  | .opening .round :: rest | .opening .square :: rest =>
    some ([untilClosed, operandEnd structs], rest)
  | .mark '?' _ :: rest => some ([operandEnd structs], rest)
  | .mark '.' _ :: rest => some ([part, partEnd structs], rest)
  | .word word :: rest =>
    if word = ⟨"as", false⟩ then some ([type false, operandEnd structs], rest)
    else some ([], .word word :: rest)
  | .mark c joint :: rest =>
    if operatorMarks.contains c then
      if joint then some ([operator structs 2], rest) else some ([expression structs], rest)
    else some ([], .mark c joint :: rest)
  | tokens => some ([], tokens)

/-- Expands what may follow a word or a range. -/
def expandOptionalOperand (structs : Bool) : List Token → Expansion
  | [] => some ([], [])
  | .closing bracket :: rest => some ([], .closing bracket :: rest)
  | .opening .curly :: rest =>
    some (if structs then [expression structs] else [], .opening .curly :: rest)
  | .mark c joint :: rest =>
    some (if c = ',' ∨ c = ';' then [] else [expression structs], .mark c joint :: rest)
  | tokens => some ([expression structs], tokens)

/-- Expands an expression or a part of it. -/
def expandExpression : Form → List Token → Expansion
  | expression structs, tokens => expandOperand structs tokens
  | pathEnd structs, tokens => expandPathEnd structs tokens
  | operandEnd structs, tokens => expandOperandEnd structs tokens
  | operator structs (more + 1), .mark c joint :: rest =>
    if operatorMarks.contains c then
      if joint then some ([operator structs more], rest) else some ([expression structs], rest)
    else some ([expression structs], .mark c joint :: rest)
  | operator structs _, tokens => some ([expression structs], tokens)
  | part, .word _ :: rest | part, .integer _ :: rest | part, .literal :: rest => some ([], rest)
  | partEnd structs, tokens =>
    match afterColons? tokens with
    | some (.mark '<' _ :: rest) => some ([arguments, operandEnd structs], rest)
    | _ => some ([operandEnd structs], tokens)
  | rangeEnd structs, .mark '=' _ :: rest => some ([optionalOperand structs], rest)
  | rangeEnd structs, tokens => some ([optionalOperand structs], tokens)
  | optionalOperand structs, tokens => expandOptionalOperand structs tokens
  | _, _ => none

/-- Expands what says where an item is visible. -/
def expandVisibility : List Token → Expansion
  | .word ⟨"pub", false⟩ :: .opening .round :: .word ⟨"in", false⟩ :: rest =>
    some ([path, closing .round], rest)
  | .word ⟨"pub", false⟩ :: .opening .round :: .word word :: .closing .round :: rest =>
    if [⟨"crate", false⟩, ⟨"self", false⟩, ⟨"super", false⟩].contains word then some ([], rest)
    else some ([], .opening .round :: .word word :: .closing .round :: rest)
  | .word ⟨"pub", false⟩ :: rest => some ([], rest)
  | .word ⟨"crate", false⟩ :: rest =>
    if startsWithPair ':' ':' rest then some ([], plain "crate" :: rest) else some ([], rest)
  | tokens => some ([], tokens)

/-- Expands the parts of an item: its attributes, fields and variants. -/
def expandItem : Form → List Token → Expansion
  | visibility, tokens => expandVisibility tokens
  | attributes, .mark '#' _ :: .opening .square :: rest => some ([untilClosed, attributes], rest)
  | attributes, tokens => some ([], tokens)
  | namedFields, .closing .curly :: rest => some ([], rest)
  | namedFields, tokens =>
    some ([attributes, visibility, fieldName, mark ':', type true, namedFieldsEnd], tokens)
  | fieldName, .word word :: rest =>
    if word.isName ∨ word.name = "_" then some ([], rest) else none
  | namedFieldsEnd, .closing .curly :: rest => some ([], rest)
  | namedFieldsEnd, .mark ',' _ :: rest => some ([namedFields], rest)
  | tupleFields, .closing .round :: rest => some ([], rest)
  | tupleFields, tokens => some ([attributes, visibility, type true, tupleFieldsEnd], tokens)
  | tupleFieldsEnd, .closing .round :: rest => some ([], rest)
  | tupleFieldsEnd, .mark ',' _ :: rest => some ([tupleFields], rest)
  | variants, .closing .curly :: rest => some ([], rest)
  | variants, tokens =>
    some ([attributes, visibility, name, variantFields, optionalValue, variantsEnd], tokens)
  | variantFields, .opening .curly :: rest => some ([namedFields], rest)
  | variantFields, .opening .round :: rest => some ([tupleFields], rest)
  | variantFields, tokens => some ([], tokens)
  | optionalValue, .mark '=' _ :: rest => some ([expression true], rest)
  | optionalValue, tokens => some ([], tokens)
  | variantsEnd, .closing .curly :: rest => some ([], rest)
  | variantsEnd, .mark ',' _ :: rest => some ([variants], rest)
  | _, _ => none

/-- The forms that a form consists of here, and the tokens after those it takes at once. There
are none where the form does not fit.
-/
def expand (form : Form) (tokens : List Token) : Expansion :=
  match form with
  | keyword _ | mark _ | pair _ _ | name | closing _ | untilClosed => form.expandToken tokens
  | type bounded => expandType bounded tokens
  | typeEnd bounded => expandTypeEnd bounded tokens
  | types | typesEnd | arrayEnd | function | parameters | parameter | parametersEnd
  | optionalCall | result => form.expandTypes tokens
  | qualified | optionalAs | path | segments | segmentEnd => form.expandPath tokens
  | arguments | argument | argumentsEnd => form.expandArguments tokens
  | binder | lifetimes | lifetimesEnd | bounds | boundsEnd | bound | traitBound =>
    form.expandBounds tokens
  | optionalGenerics | generics | optionalBounds | optionalDefault | genericsEnd
  | optionalConditions | conditions | conditionBounds | conditionsEnd =>
    form.expandGenerics tokens
  | untilMark _ | untilWord _ => form.expandUntil tokens
  | optionalLabel | block | optionalElse | loop | closure _ | closureBody _ =>
    form.expandBlocks tokens
  | expression _ | pathEnd _ | operandEnd _ | operator _ _ | part | partEnd _ | rangeEnd _
  | optionalOperand _ => form.expandExpression tokens
  | visibility | attributes | namedFields | fieldName | namedFieldsEnd | tupleFields
  | tupleFieldsEnd | variants | variantFields | optionalValue | variantsEnd =>
    form.expandItem tokens

end Form

/-- Passes over forms, in so many steps at most. -/
def skipForms : Nat → List Form → List Token → Option (List Token)
  | _, [], tokens => some tokens
  | 0, _ :: _, _ => none
  | fuel + 1, form :: forms, tokens => do
    let (parts, rest) ← form.expand tokens
    skipForms fuel (parts ++ forms) rest

/-- Passes over forms. A form leads to a few others at most before a token is taken, so the
steps suffice.
-/
def skip (forms : List Form) (tokens : List Token) : Option (List Token) :=
  skipForms (64 * (tokens.length + forms.length + 1)) forms tokens

end Catalog.Source
