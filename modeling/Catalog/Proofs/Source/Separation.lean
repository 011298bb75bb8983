import Catalog.Proofs.Source.Remainder

/-! Source code is read alike before a comma.
What tokens are read as does not change where they go on with a comma: no form that can occur in
a path takes a comma that stands outside of all brackets, or depends on it.
-/

namespace Catalog.Source

/-- What is read of tokens is read of them as well where they go on with a comma. -/
def Separable {α : Type} (read : List Token → Option (α × List Token)) : Prop :=
  ∀ tokens value rest joint more, read tokens = some (value, rest)
    → read (tokens ++ .mark ',' joint :: more) = some (value, rest ++ .mark ',' joint :: more)

-----------------------------------------------------------------------------------------
-- Looking at the tokens ahead
-----------------------------------------------------------------------------------------

section Ahead

variable {tokens after more : List Token} {token : Token} {joint : Bool}

/-- A token other than a comma stands before the comma. -/
theorem cons_of_before (same : tokens ++ .mark ',' joint :: more = token :: after)
    (other : startsWithMark ',' [token] = false)
    : ∃ following, tokens = token :: following ∧ following ++ .mark ',' joint :: more = after := by
  cases tokens with
  | nil =>
      obtain ⟨rfl, _⟩ := List.cons.inj same
      exact absurd other (by simp [startsWithMark])
  | cons first following =>
      obtain ⟨rfl, rfl⟩ := List.cons.inj same
      exact ⟨following, rfl, rfl⟩

/-- Before the comma no token comes next that does not come next without it. -/
theorem ne_before (ne : ∀ after, tokens = token :: after → False)
    (same : tokens ++ .mark ',' joint :: more = token :: after)
    (other : startsWithMark ',' [token] = false)
    : False := by
  obtain ⟨following, same, _⟩ := cons_of_before same other
  exact ne following same

/-- The same for two tokens. -/
theorem ne_ne_before {next : Token} (ne : ∀ after, tokens = token :: next :: after → False)
    (same : tokens ++ .mark ',' joint :: more = token :: next :: after)
    (other : startsWithMark ',' [token] = false) (another : startsWithMark ',' [next] = false)
    : False := by
  obtain ⟨_, rfl, sameNext⟩ := cons_of_before same other
  exact ne_before (fun _ same => ne _ (congrArg _ same)) sameNext another

theorem startsWithMark_before {c : Char} (other : c ≠ ',')
    : startsWithMark c (tokens ++ .mark ',' joint :: more) = startsWithMark c tokens := by
  cases tokens with
  | nil => simp [startsWithMark, other.symm]
  | cons token rest => cases token <;> rfl

theorem startsWithPair_before {first second : Char} (other : first ≠ ',') (another : second ≠ ',')
    : startsWithPair first second (tokens ++ .mark ',' joint :: more)
      = startsWithPair first second tokens := by
  unfold startsWithPair
  match tokens with
  | [] | [_] | _ :: _ :: _ => grind

theorem afterColons?_before
    : afterColons? (tokens ++ .mark ',' joint :: more)
      = (afterColons? tokens).map (· ++ .mark ',' joint :: more) := by
  unfold afterColons?
  match tokens with
  | [] | [_] | _ :: _ :: _ => grind

theorem startsWithColon_before
    : startsWithColon (tokens ++ .mark ',' joint :: more) = startsWithColon tokens := by
  rw [startsWithColon, startsWithColon, startsWithMark_before (by simp),
    startsWithPair_before (by simp) (by simp)]

theorem startsBound_before
    : startsBound (tokens ++ .mark ',' joint :: more) = startsBound tokens := by
  have pair := @startsWithPair_before tokens more joint ':' ':' (by simp) (by simp)
  cases tokens with
  | nil => exact pair
  | cons token rest =>
      rw [List.cons_append] at pair ⊢
      unfold startsBound
      grind

theorem startsWithMark_append {c : Char} (starts : startsWithMark c tokens) (others : List Token)
    : startsWithMark c (tokens ++ others) := by
  unfold startsWithMark at starts
  split at starts
  case h_1 => exact starts
  case h_2 => cases starts

theorem startsWithPair_append {first second : Char} (starts : startsWithPair first second tokens)
    (others : List Token)
    : startsWithPair first second (tokens ++ others) := by
  unfold startsWithPair at starts
  split at starts
  case h_1 => exact starts
  case h_2 => cases starts

/-- What the tokens start with is dropped from them. -/
theorem drop_one_append {c : Char} (starts : startsWithMark c tokens) (others : List Token)
    : (tokens ++ others).drop 1 = tokens.drop 1 ++ others := by
  cases tokens with
  | nil => cases starts
  | cons => rfl

theorem drop_two_append {first second : Char} (starts : startsWithPair first second tokens)
    (others : List Token)
    : (tokens ++ others).drop 2 = tokens.drop 2 ++ others := by
  unfold startsWithPair at starts
  split at starts
  case h_1 => rfl
  case h_2 => cases starts

end Ahead

-----------------------------------------------------------------------------------------
-- Expanding a form
-----------------------------------------------------------------------------------------

namespace Form

variable {form : Form} {bounded : Bool} {word : Word}

/-- Forms that can occur in a path. Among them are expressions, which stand in the types of
arrays, but no conditions on generics, which may go on after a comma.
-/
def inPath : Form → Bool
  | optionalGenerics | generics | optionalBounds | optionalDefault | genericsEnd
  | optionalConditions | conditions | conditionBounds | conditionsEnd => false
  | visibility | namedFields | fieldName | namedFieldsEnd | tupleFields | tupleFieldsEnd
  | variants | variantFields | optionalValue | variantsEnd => false
  | _ => true

theorem expandToken_separable : Separable form.expandToken := by
  intro tokens parts rest joint more expanded
  cases form with
  | mark c =>
      obtain ⟨starts, taken⟩ := Option.ite_none_right_eq_some.mp expanded
      cases taken
      rw [← drop_one_append starts]
      exact if_pos (startsWithMark_append starts _)
  | pair first second =>
      obtain ⟨starts, taken⟩ := Option.ite_none_right_eq_some.mp expanded
      cases taken
      rw [← drop_two_append starts]
      exact if_pos (startsWithPair_append starts _)
  | keyword | name =>
      match tokens with
      | .word _ :: _ =>
          obtain ⟨fits, taken⟩ := Option.ite_none_right_eq_some.mp expanded
          cases taken
          exact if_pos fits
  | closing =>
      match tokens with
      | .closing _ :: _ =>
          obtain ⟨fits, taken⟩ := Option.ite_none_right_eq_some.mp expanded
          cases taken
          exact if_pos fits
  | untilClosed =>
      match tokens with
      | token :: _ =>
          cases token <;> cases expanded <;> rfl
  | _ => cases expanded

theorem expandReference_separable : Separable expandReference := by
  intro tokens parts rest joint more expanded
  unfold expandReference at *
  match tokens with
  | [] | [_] | _ :: _ :: _ => grind

theorem expandTypeWord_separable : Separable (expandTypeWord bounded word) := by
  intro after parts rest joint more expanded
  unfold expandTypeWord at *
  split at expanded <;> grind

theorem expandType_separable : Separable (expandType bounded) := by
  intro tokens parts rest joint more expanded
  unfold expandType at expanded
  split at expanded
  case h_4 unclosed noLifetime required =>
    cases expanded
    rw [List.cons_append, expandType]
    · exact fun _ same => ne_before unclosed same rfl
    · exact fun _ same => ne_before noLifetime same rfl
    · exact fun _ _ same => ne_before (required _) same rfl
  case h_7 pointed _ =>
    obtain ⟨sign, taken⟩ := Option.ite_none_right_eq_some.mp expanded
    cases taken
    exact if_pos sign
  case h_8 => exact expandReference_separable _ _ _ _ _ expanded
  case h_11 => exact expandTypeWord_separable _ _ _ _ _ expanded
  case h_12 =>
    obtain ⟨colons, taken⟩ := Option.ite_none_right_eq_some.mp expanded
    cases taken
    unfold afterColons? at colons
    split at colons
    case h_1 => rfl
    case h_2 => cases colons
  all_goals
    cases expanded
    rfl

theorem expandTypeEnd_separable : Separable (expandTypeEnd bounded) := by
  intro tokens parts rest joint more expanded
  unfold expandTypeEnd at *
  generalize (if bounded then [boundsEnd] else []) = bounds at *
  split at expanded
  case h_1 =>
    cases expanded
    rfl
  case h_2 noCall =>
    cases expanded
    split
    case h_1 call => exact (ne_ne_before (noCall _ _) call rfl rfl).elim
    case h_2 => rfl

theorem expandTypes_separable : Separable form.expandTypes := by
  intro tokens parts rest joint more expanded
  unfold expandTypes at expanded
  split at expanded
  case h_2 unclosed =>
    cases expanded
    rw [expandTypes]
    exact fun _ same => ne_before unclosed same rfl
  case h_9 unnamed =>
    cases expanded
    rw [List.cons_append, expandTypes]
    exact fun _ _ same => ne_before (unnamed _) same rfl
  case h_6 other | h_15 other =>
    cases expanded
    rw [expandTypes]
    exact fun _ _ same => ne_before (other _) same rfl
  case h_13 unclosed fixed =>
    cases expanded
    rw [expandTypes]
    case refl.x_2 => exact fun _ same => ne_before unclosed same rfl
    case refl.x_3 =>
      intro _ after same
      obtain ⟨_, first, same⟩ := cons_of_before same rfl
      obtain ⟨_, second, same⟩ := cons_of_before same rfl
      obtain ⟨_, third, _⟩ := cons_of_before same rfl
      subst first second third
      exact fixed _ _ rfl
  case h_14 =>
    rw [List.cons_append, expandTypes, startsWithColon_before]
    grind [drop_one_append, startsWithColon]
  case h_19 closed =>
    rw [expandTypes, afterColons?_before]
    case x_2 => exact fun _ same => ne_before closed same rfl
    split at expanded
    case h_1 call =>
      cases expanded
      rw [call]
      rfl
    case h_2 noCall =>
      cases expanded
      cases colons : afterColons? tokens with
      | none => rfl
      | some after =>
          split
          case h_1 call =>
            obtain ⟨_, rfl, _⟩ := cons_of_before (Option.some.inj call) rfl
            exact absurd colons (noCall _)
          case h_2 => rfl
  case h_20 =>
    rw [expandTypes, startsWithPair_before (by simp) (by simp)]
    grind [drop_two_append]
  case h_21 => cases expanded
  all_goals
    cases expanded
    rfl

theorem expandSegment_separable : Separable (expandSegment word) := by
  intro after parts rest joint more expanded
  have colons := @afterColons?_before after more joint
  unfold expandSegment at *
  grind

theorem expandSegmentEnd_separable : Separable expandSegmentEnd := by
  intro tokens parts rest joint more expanded
  have pair := @startsWithPair_before tokens more joint '<' '=' (by simp) (by simp)
  unfold expandSegmentEnd at *
  split at expanded
  case h_1 => grind
  case h_2 closed =>
    split
    case h_1 found => exact (ne_before (closed _) found rfl).elim
    case h_2 =>
      rw [afterColons?_before]
      cases colons : afterColons? tokens with
      | none => grind
      | some after =>
          rw [colons] at expanded
          cases after with
          | nil =>
              cases expanded
              rfl
          | cons token _ => cases token <;> grind

theorem expandPath_separable : Separable form.expandPath := by
  intro tokens parts rest joint more expanded
  unfold expandPath at expanded
  split at expanded
  case h_3 other =>
    cases expanded
    rw [expandPath]
    exact fun _ same => ne_before other same rfl
  case h_4 =>
    rw [expandPath, afterColons?_before]
    cases colons : afterColons? tokens <;> grind
  case h_5 => exact expandSegment_separable _ _ _ _ _ expanded
  case h_6 => exact expandSegmentEnd_separable _ _ _ _ _ expanded
  case h_7 => cases expanded
  all_goals
    cases expanded
    rfl

theorem expandArgumentWord_separable : Separable (expandArgumentWord word) := by
  intro after parts rest joint more expanded
  rw [expandArgumentWord, startsWithMark_before (by simp), startsWithColon_before]
  grind [expandArgumentWord, drop_one_append, startsWithColon]

theorem expandArguments_separable : Separable form.expandArguments := by
  intro tokens parts rest joint more expanded
  unfold expandArguments at expanded
  split at expanded
  case h_2 unclosed =>
    cases expanded
    rw [expandArguments]
    exact fun _ _ same => ne_before (unclosed _) same rfl
  case h_9 =>
    rw [List.cons_append, expandArguments, startsWithMark_before (by simp)]
    grind
  case h_10 => exact expandArgumentWord_separable _ _ _ _ _ expanded
  case h_11 noText noInteger noLiteral noNegative noOther noBlock noLifetime noWord =>
    cases expanded
    rw [expandArguments]
    · exact fun _ _ same => ne_before (noText _) same rfl
    · exact fun _ _ same => ne_before (noInteger _) same rfl
    · exact fun _ same => ne_before noLiteral same rfl
    · exact fun _ _ _ same => ne_ne_before (noNegative _ _) same rfl rfl
    · exact fun _ _ same => ne_ne_before (noOther _) same rfl rfl
    · exact fun _ same => ne_before noBlock same rfl
    · exact fun _ same => ne_before noLifetime same rfl
    · exact fun _ _ same => ne_before (noWord _) same rfl
  case h_14 => cases expanded
  all_goals
    cases expanded
    rfl

theorem expandBounds_separable : Separable form.expandBounds := by
  intro tokens parts rest joint more expanded
  unfold expandBounds at expanded
  split at expanded
  case h_8 =>
    cases expanded
    rw [List.cons_append, expandBounds, startsBound_before]
  case h_9 last =>
    cases expanded
    rw [expandBounds]
    exact fun _ _ same => ne_before (last _) same rfl
  case h_12 noLifetime unclosed =>
    cases expanded
    rw [expandBounds]
    · exact fun _ same => ne_before noLifetime same rfl
    · exact fun _ same => ne_before unclosed same rfl
  case h_15 required unbound =>
    cases expanded
    rw [expandBounds]
    · exact fun _ _ same => ne_before (required _) same rfl
    · exact fun _ same => ne_before unbound same rfl
  case h_16 => cases expanded
  all_goals
    cases expanded
    rfl

theorem expandUntil_separable : Separable form.expandUntil := by
  intro tokens parts rest joint more expanded
  unfold expandUntil at *
  match tokens with
  | [] | [_] | _ :: _ :: _ => grind

theorem expandBlocks_separable : Separable form.expandBlocks := by
  intro tokens parts rest joint more expanded
  unfold expandBlocks at expanded
  split at expanded
  case h_2 unlabelled =>
    cases expanded
    rw [expandBlocks]
    exact fun _ same => ne_before unlabelled same rfl
  case h_5 unconditional =>
    cases expanded
    rw [List.cons_append, expandBlocks]
    exact fun _ same => ne_before unconditional same rfl
  case h_6 conditional other =>
    cases expanded
    rw [expandBlocks]
    · exact fun _ same => ne_ne_before conditional same rfl rfl
    · exact fun _ same => ne_before other same rfl
  case h_10 noFor noWhile noLoop =>
    cases expanded
    rw [expandBlocks]
    · exact fun _ same => ne_before noFor same rfl
    · exact fun _ same => ne_before noWhile same rfl
    · exact fun _ same => ne_before noLoop same rfl
  case h_14 noParameters noAsync noMove =>
    cases expanded
    rw [expandBlocks]
    · exact fun _ _ same => ne_before (noParameters _) same rfl
    · exact fun _ same => ne_before noAsync same rfl
    · exact fun _ same => ne_before noMove same rfl
  case h_15 =>
    rw [expandBlocks, startsWithPair_before (by simp) (by simp)]
    grind [drop_two_append]
  case h_16 => cases expanded
  all_goals
    cases expanded
    rfl

variable {structs : Bool}

theorem expandAsync_separable : Separable (expandAsync structs) := by
  intro after parts rest joint more expanded
  unfold expandAsync at *
  match after with
  | [] | _ :: _ => grind

theorem expandOperandWord_separable : Separable (expandOperandWord structs word) := by
  intro after parts rest joint more expanded
  unfold expandOperandWord at *
  split at expanded
  case h_10 => exact expandAsync_separable _ _ _ _ _ expanded
  all_goals grind

theorem expandSign_separable {sign : Char} : Separable (expandSign structs sign) := by
  intro after parts rest joint more expanded
  unfold expandSign at *
  generalize ['-', '!', '*', '&'].contains sign = known at *
  match after with
  | [] | _ :: _ => grind

theorem expandOperand_separable : Separable (expandOperand structs) := by
  intro tokens parts rest joint more expanded
  unfold expandOperand at expanded
  split at expanded
  case h_6 => exact expandOperandWord_separable _ _ _ _ _ expanded
  case h_7 c joined after =>
    have pair := @startsWithPair_before (.mark c joined :: after) more joint '.' '.'
      (by simp) (by simp)
    have colons := @afterColons?_before (.mark c joined :: after) more joint
    rw [List.cons_append] at pair colons
    rw [List.cons_append, expandOperand, pair, colons]
    split at expanded
    case isTrue range =>
      cases expanded
      rw [if_pos range]
      cases after with
      | nil => simp [startsWithPair] at range
      | cons => rfl
    case isFalse single =>
      rw [if_neg single]
      split at expanded
      case h_1 found =>
        cases expanded
        rw [found]
        rfl
      case h_2 => cases expanded
      case h_3 found =>
        rw [found]
        exact expandSign_separable _ _ _ _ _ expanded
  case h_8 => cases expanded
  all_goals
    cases expanded
    rfl

theorem expandPathEnd_separable : Separable (expandPathEnd structs) := by
  intro tokens parts rest joint more expanded
  unfold expandPathEnd at *
  rw [afterColons?_before]
  split at expanded
  case h_1 found | h_2 found =>
    cases expanded
    rw [found]
    rfl
  case h_3 => cases expanded
  case h_4 found =>
    cases expanded
    rw [found]
    rfl
  case h_5 found =>
    rw [found]
    cases structs <;> cases expanded <;> rfl
  case h_6 noCall noStruct found =>
    cases expanded
    rw [found, Option.map_none]
    split
    case h_4 same => exact (ne_ne_before (noCall _ _) same rfl rfl).elim
    case h_5 same => exact (ne_before noStruct same rfl).elim
    case h_6 => rfl
    all_goals grind

theorem expandOperandEnd_separable : Separable (expandOperandEnd structs) := by
  intro tokens parts rest joint more expanded
  unfold expandOperandEnd at *
  rw [startsWithPair_before (by simp) (by simp)]
  split at expanded
  case isTrue range =>
    cases expanded
    rw [if_pos range, drop_two_append range]
  case isFalse single =>
    rw [if_neg single]
    cases tokens with
    | nil =>
        cases expanded
        rfl
    | cons token _ => cases token <;> grind

theorem expandOptionalOperand_separable : Separable (expandOptionalOperand structs) := by
  intro tokens parts rest joint more expanded
  unfold expandOptionalOperand at *
  cases tokens with
  | nil =>
      cases expanded
      rfl
  | cons token _ => cases token <;> grind

theorem expandExpression_separable : Separable form.expandExpression := by
  intro tokens parts rest joint more expanded
  unfold expandExpression at expanded
  split at expanded
  case h_1 => exact expandOperand_separable _ _ _ _ _ expanded
  case h_2 => exact expandPathEnd_separable _ _ _ _ _ expanded
  case h_3 => exact expandOperandEnd_separable _ _ _ _ _ expanded
  case h_4 =>
    rw [List.cons_append, expandExpression]
    grind
  case h_5 characters single =>
    cases expanded
    cases characters with
    | zero => rfl
    | succ =>
        cases tokens with
        | nil => rfl
        | cons token following =>
            rw [List.cons_append, expandExpression]
            intro _ _ _ _ same next
            cases same
            exact single _ _ _ following rfl next
  case h_9 => 
    rw [expandExpression, afterColons?_before]
    cases colons : afterColons? tokens with
    | none => grind
    | some after =>
        rw [colons] at expanded
        cases after with
        | nil =>
            cases expanded
            rfl
        | cons token _ => cases token <;> grind
  case h_11 single =>
    cases expanded
    rw [expandExpression]
    exact fun _ _ same => ne_before (single _) same rfl
  case h_12 => exact expandOptionalOperand_separable _ _ _ _ _ expanded
  case h_13 => cases expanded
  all_goals
    cases expanded
    rfl

theorem expandAttributes_separable : Separable attributes.expandItem := by
  intro tokens parts rest joint more expanded
  unfold expandItem at expanded
  split at expanded
  case h_2 =>
    cases expanded
    rfl
  case h_3 done =>
    cases expanded
    unfold expandItem
    split
    case h_2 found => exact (ne_ne_before (done _) found rfl rfl).elim
    all_goals grind
  all_goals grind

/-- A form that can occur in a path is expanded alike before a comma, by the kinds of forms. -/
theorem expand_separable (within : form.inPath) : Separable form.expand := by
  have token := @expandToken_separable form
  have types := @expandTypes_separable form
  have paths := @expandPath_separable form
  have arguments := @expandArguments_separable form
  have bounds := @expandBounds_separable form
  have patterns := @expandUntil_separable form
  have blocks := @expandBlocks_separable form
  have expressions := @expandExpression_separable form
  cases form with
  | keyword | mark | pair | name | closing | untilClosed => exact token
  | type => exact expandType_separable
  | typeEnd => exact expandTypeEnd_separable
  | types | typesEnd | arrayEnd | function | parameters | parameter | parametersEnd
  | optionalCall | result => exact types
  | qualified | optionalAs | path | segments | segmentEnd => exact paths
  | arguments | argument | argumentsEnd => exact arguments
  | binder | lifetimes | lifetimesEnd | bounds | boundsEnd | bound | traitBound => exact bounds
  | untilMark | untilWord => exact patterns
  | optionalLabel | block | optionalElse | loop | closure | closureBody => exact blocks
  | expression | pathEnd | operandEnd | operator | part | partEnd | rangeEnd | optionalOperand =>
      exact expressions
  | attributes => exact expandAttributes_separable
  | _ => cases within

variable {tokens after rest : List Token} {parts : List Form}

theorem expandToken_inPath (expanded : form.expandToken tokens = some (parts, rest))
    : parts.all inPath := by
  cases form with
  | mark | pair =>
      obtain ⟨_, taken⟩ := Option.ite_none_right_eq_some.mp expanded
      cases taken
      rfl
  | keyword | name =>
      match tokens with
      | .word _ :: _ =>
          obtain ⟨_, taken⟩ := Option.ite_none_right_eq_some.mp expanded
          cases taken
          rfl
  | closing =>
      match tokens with
      | .closing _ :: _ =>
          obtain ⟨_, taken⟩ := Option.ite_none_right_eq_some.mp expanded
          cases taken
          rfl
  | untilClosed =>
      match tokens with
      | token :: _ => cases token <;> cases expanded <;> rfl
  | _ => cases expanded

theorem expandReference_inPath (expanded : expandReference tokens = some (parts, rest))
    : parts.all inPath := by
  have reference : parts = [type false] := by
    unfold expandReference at expanded
    grind
  rw [reference]
  rfl

theorem expandTypeWord_inPath (expanded : expandTypeWord bounded word after = some (parts, rest))
    : parts.all inPath := by
  unfold expandTypeWord at expanded
  split at expanded <;> cases expanded <;> rfl

theorem expandTypeEnd_inPath (expanded : expandTypeEnd bounded tokens = some (parts, rest))
    : parts.all inPath := by
  unfold expandTypeEnd at expanded
  cases bounded <;> simp only at expanded <;> split at expanded <;> cases expanded <;> rfl

theorem expandType_inPath (expanded : expandType bounded tokens = some (parts, rest))
    : parts.all inPath := by
  unfold expandType at expanded
  split at expanded
  case h_4 => cases bounded <;> cases expanded <;> rfl
  case h_7 | h_12 =>
    obtain ⟨_, taken⟩ := Option.ite_none_right_eq_some.mp expanded
    cases taken
    rfl
  case h_8 => exact expandReference_inPath expanded
  case h_11 => exact expandTypeWord_inPath expanded
  all_goals
    cases expanded
    rfl

theorem expandTypes_inPath (expanded : form.expandTypes tokens = some (parts, rest))
    : parts.all inPath := by
  unfold expandTypes at expanded
  split at expanded
  case h_14 | h_19 | h_20 => split at expanded <;> cases expanded <;> rfl
  case h_21 => cases expanded
  all_goals
    cases expanded
    rfl

theorem expandSegment_inPath (expanded : expandSegment word after = some (parts, rest))
    : parts.all inPath := by
  unfold expandSegment at expanded
  split at expanded
  case isTrue =>
    cases expanded
    rfl
  case isFalse =>
    obtain ⟨_, expanded⟩ := Option.ite_none_right_eq_some.mp expanded
    split at expanded <;> cases expanded <;> rfl

theorem expandSegmentEnd_inPath (expanded : expandSegmentEnd tokens = some (parts, rest))
    : parts.all inPath := by
  unfold expandSegmentEnd at expanded
  split at expanded <;> split at expanded <;> cases expanded <;> rfl

theorem expandPath_inPath (expanded : form.expandPath tokens = some (parts, rest))
    : parts.all inPath := by
  unfold expandPath at expanded
  split at expanded
  case h_5 => exact expandSegment_inPath expanded
  case h_6 => exact expandSegmentEnd_inPath expanded
  case h_7 => cases expanded
  all_goals
    cases expanded
    rfl

theorem expandArgumentWord_inPath
    (expanded : expandArgumentWord word after = some (parts, rest))
    : parts.all inPath := by
  unfold expandArgumentWord at expanded
  repeat' split at expanded
  all_goals
    cases expanded
    rfl

theorem expandArguments_inPath (expanded : form.expandArguments tokens = some (parts, rest))
    : parts.all inPath := by
  unfold expandArguments at expanded
  split at expanded
  case h_9 => split at expanded <;> cases expanded <;> rfl
  case h_10 => exact expandArgumentWord_inPath expanded
  case h_14 => cases expanded
  all_goals
    cases expanded
    rfl

theorem expandBounds_inPath (expanded : form.expandBounds tokens = some (parts, rest))
    : parts.all inPath := by
  unfold expandBounds at expanded
  split at expanded
  case h_8 =>
    cases expanded
    split <;> rfl
  case h_16 => cases expanded
  all_goals
    cases expanded
    rfl

theorem expandUntil_inPath (within : form.inPath)
    (expanded : form.expandUntil tokens = some (parts, rest))
    : parts.all inPath := by
  unfold expandUntil at expanded
  split at expanded
  case h_1 =>
    cases expanded
    rfl
  case h_2 | h_3 =>
    cases expanded
    split <;> rfl
  case h_4 | h_6 =>
    cases expanded
    simpa [inPath] using within
  case h_5 | h_7 => cases expanded

theorem expandBlocks_inPath (expanded : form.expandBlocks tokens = some (parts, rest))
    : parts.all inPath := by
  unfold expandBlocks at expanded
  split at expanded
  case h_15 => split at expanded <;> cases expanded <;> rfl
  case h_16 => cases expanded
  all_goals
    cases expanded
    rfl

theorem expandAsync_inPath (expanded : expandAsync structs tokens = some (parts, rest))
    : parts.all inPath := by
  unfold expandAsync at expanded
  split at expanded <;> cases expanded <;> rfl

theorem expandOperandWord_inPath
    (expanded : expandOperandWord structs word after = some (parts, rest))
    : parts.all inPath := by
  unfold expandOperandWord at expanded
  split at expanded
  case h_10 => exact expandAsync_inPath expanded
  case h_18 =>
    split at expanded
    case isTrue =>
      cases expanded
      rfl
    case isFalse => cases expanded
  all_goals
    cases expanded
    rfl

theorem expandSign_inPath {sign : Char}
    (expanded : expandSign structs sign after = some (parts, rest))
    : parts.all inPath := by
  unfold expandSign at expanded
  grind [inPath]

theorem expandOperand_inPath (expanded : expandOperand structs tokens = some (parts, rest))
    : parts.all inPath := by
  unfold expandOperand at expanded
  split at expanded
  case h_6 => exact expandOperandWord_inPath expanded
  case h_7 =>
    split at expanded
    case isTrue =>
      cases expanded
      rfl
    case isFalse =>
      split at expanded
      case h_1 =>
        cases expanded
        rfl
      case h_2 => cases expanded
      case h_3 => exact expandSign_inPath expanded
  case h_8 => cases expanded
  all_goals
    cases expanded
    rfl

theorem expandPathEnd_inPath (expanded : expandPathEnd structs tokens = some (parts, rest))
    : parts.all inPath := by
  unfold expandPathEnd at expanded
  grind [inPath]

theorem expandOperandEnd_inPath (expanded : expandOperandEnd structs tokens = some (parts, rest))
    : parts.all inPath := by
  unfold expandOperandEnd at expanded
  repeat' split at expanded
  all_goals
    cases expanded
    rfl

theorem expandOptionalOperand_inPath
    (expanded : expandOptionalOperand structs tokens = some (parts, rest))
    : parts.all inPath := by
  unfold expandOptionalOperand at expanded
  split at expanded
  case h_3 | h_4 =>
    cases expanded
    split <;> rfl
  all_goals
    cases expanded
    rfl

theorem expandExpression_inPath (expanded : form.expandExpression tokens = some (parts, rest))
    : parts.all inPath := by
  unfold expandExpression at expanded
  split at expanded
  case h_1 => exact expandOperand_inPath expanded
  case h_2 => exact expandPathEnd_inPath expanded
  case h_3 => exact expandOperandEnd_inPath expanded
  case h_4 =>
    repeat' split at expanded
    all_goals
      cases expanded
      rfl
  case h_9 => split at expanded <;> cases expanded <;> rfl
  case h_12 => exact expandOptionalOperand_inPath expanded
  case h_13 => cases expanded
  all_goals
    cases expanded
    rfl

theorem expandAttributes_inPath (expanded : attributes.expandItem tokens = some (parts, rest))
    : parts.all inPath := by
  unfold expandItem at expanded
  split at expanded
  case h_2 | h_3 =>
    cases expanded
    rfl
  all_goals grind

/-- The parts of such a form are such forms as well, by the kinds of forms. -/
theorem expand_inPath (within : form.inPath) (expanded : form.expand tokens = some (parts, rest))
    : parts.all inPath := by
  have token := @expandToken_inPath form tokens rest parts
  have types := @expandTypes_inPath form tokens rest parts
  have paths := @expandPath_inPath form tokens rest parts
  have arguments := @expandArguments_inPath form tokens rest parts
  have bounds := @expandBounds_inPath form tokens rest parts
  have patterns := @expandUntil_inPath form tokens rest parts
  have blocks := @expandBlocks_inPath form tokens rest parts
  have expressions := @expandExpression_inPath form tokens rest parts
  cases form with
  | keyword | mark | pair | name | closing | untilClosed => exact token expanded
  | type => exact expandType_inPath expanded
  | typeEnd => exact expandTypeEnd_inPath expanded
  | types | typesEnd | arrayEnd | function | parameters | parameter | parametersEnd
  | optionalCall | result => exact types expanded
  | qualified | optionalAs | path | segments | segmentEnd => exact paths expanded
  | arguments | argument | argumentsEnd => exact arguments expanded
  | binder | lifetimes | lifetimesEnd | bounds | boundsEnd | bound | traitBound =>
      exact bounds expanded
  | untilMark | untilWord => exact patterns within expanded
  | optionalLabel | block | optionalElse | loop | closure | closureBody => exact blocks expanded
  | expression | pathEnd | operandEnd | operator | part | partEnd | rangeEnd | optionalOperand =>
      exact expressions expanded
  | attributes => exact expandAttributes_inPath expanded
  | _ => cases within

end Form

-----------------------------------------------------------------------------------------
-- Passing over forms
-----------------------------------------------------------------------------------------

/-- Further steps change nothing once all forms are passed over, by induction on the steps. -/
theorem skipForms_mono {fuel other : Nat} {forms : List Form} {tokens rest : List Token}
    (skipped : skipForms fuel forms tokens = some rest) (enough : fuel ≤ other)
    : skipForms other forms tokens = some rest := by
  induction fuel generalizing forms tokens other with
  | zero =>
      cases forms with
      | nil =>
        cases other <;> exact skipped
      | cons => cases skipped
  | succ fuel ih =>
      obtain ⟨other, rfl⟩ := Nat.exists_eq_add_one.mpr (Nat.lt_of_lt_of_le (Nat.succ_pos _) enough)
      cases forms with
      | nil => exact skipped
      | cons form forms =>
          obtain ⟨⟨parts, middle⟩, expanded, later⟩ := Option.bind_eq_some_iff.mp skipped
          rw [skipForms, expanded]
          exact ih later (Nat.le_of_succ_le_succ enough)

/-- Forms that can occur in a path are passed over alike before a comma, by induction on the
steps.
-/
theorem skipForms_separable {fuel : Nat} {forms : List Form} {tokens rest : List Token}
    (within : forms.all Form.inPath) (skipped : skipForms fuel forms tokens = some rest)
    (joint : Bool) (more : List Token)
    : skipForms fuel forms (tokens ++ .mark ',' joint :: more)
      = some (rest ++ .mark ',' joint :: more) := by
  induction fuel generalizing forms tokens with
  | zero =>
      cases forms with
      | nil =>
        cases skipped
        rfl
      | cons => cases skipped
  | succ fuel ih =>
      cases forms with
      | nil =>
        cases skipped
        rfl
      | cons form forms =>
          obtain ⟨first, others⟩ := (Bool.and_eq_true _ _).mp within
          obtain ⟨⟨parts, middle⟩, expanded, later⟩ := Option.bind_eq_some_iff.mp skipped
          have all : (parts ++ forms).all Form.inPath := by
            rw [List.all_append, Form.expand_inPath first expanded, others]
            rfl
          rw [skipForms, Form.expand_separable first _ _ _ joint more expanded]
          exact ih all later

/-- Forms that can occur in a path are passed over alike before a comma. -/
theorem skip_separable {forms : List Form} {tokens rest : List Token}
    (within : forms.all Form.inPath) (skipped : skip forms tokens = some rest)
    (joint : Bool) (more : List Token)
    : skip forms (tokens ++ .mark ',' joint :: more) = some (rest ++ .mark ',' joint :: more) := by
  refine skipForms_mono (skipForms_separable within skipped joint more) ?_
  rw [List.length_append]
  omega

end Catalog.Source
