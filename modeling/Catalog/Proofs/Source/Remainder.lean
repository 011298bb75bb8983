import Catalog.Source.Item
import Mathlib.Data.List.Infix

/-! Reading source code takes tokens from the front.
Whatever a form is expanded to, the tokens that are left are a suffix of those that were there;
so are the tokens after all forms that are passed over, after attributes and after brackets.
-/

namespace Catalog.Source

variable {tokens rest : List Token}

/-- What stands after the first token of a suffix is a suffix as well. -/
theorem suffix_of_cons {token : Token} (suffix : token :: rest <:+ tokens) : rest <:+ tokens :=
  (List.suffix_cons token rest).trans suffix

/-- What stands after a pair of colons is a suffix. -/
theorem afterColons?_suffix (found : afterColons? tokens = some rest) : rest <:+ tokens := by
  unfold afterColons? at found
  grind [List.suffix_cons_iff]

/-- Passing over a pair of colons, if there is one, leaves a suffix. -/
theorem afterColons?_getD_suffix (tokens : List Token)
    : (afterColons? tokens).getD tokens <:+ tokens := by
  cases found : afterColons? tokens with
  | none => exact List.suffix_rfl
  | some rest => exact afterColons?_suffix found

namespace Form

-----------------------------------------------------------------------------------------
-- Expanding a form
-----------------------------------------------------------------------------------------

variable {form : Form} {parts : List Form} {bounded : Bool} {word : Word} {after : List Token}

/-- A form of one token or two takes no others, by the kinds of forms and of tokens. -/
theorem expandToken_suffix (expanded : form.expandToken tokens = some (parts, rest))
    : rest <:+ tokens := by
  cases form with
  | mark | pair =>
      obtain ⟨_, taken⟩ := Option.ite_none_right_eq_some.mp expanded
      cases taken
      exact List.drop_suffix _ _
  | keyword | name =>
      match tokens with
      | .word _ :: _ =>
          obtain ⟨_, taken⟩ := Option.ite_none_right_eq_some.mp expanded
          cases taken
          exact List.suffix_cons _ _
  | closing =>
      match tokens with
      | .closing _ :: _ =>
          obtain ⟨_, taken⟩ := Option.ite_none_right_eq_some.mp expanded
          cases taken
          exact List.suffix_cons _ _
  | untilClosed =>
      match tokens with
      | token :: _ =>
          cases token <;> cases expanded <;> exact List.suffix_cons _ _
  | _ => nomatch expanded

theorem expandReference_suffix (expanded : expandReference tokens = some (parts, rest))
    : rest <:+ tokens := by
  unfold expandReference at expanded
  grind [List.suffix_cons_iff]

theorem expandTypeWord_suffix
    (expanded : expandTypeWord bounded word after = some (parts, rest))
    : rest <:+ .word word :: after := by
  unfold expandTypeWord at expanded
  grind [List.suffix_cons_iff]

theorem expandType_suffix (expanded : expandType bounded tokens = some (parts, rest))
    : rest <:+ tokens := by
  unfold expandType at expanded
  grind [List.suffix_cons_iff, expandReference_suffix, expandTypeWord_suffix]

theorem expandTypeEnd_suffix (expanded : expandTypeEnd bounded tokens = some (parts, rest))
    : rest <:+ tokens := by
  unfold expandTypeEnd at expanded
  grind [List.suffix_cons_iff]

theorem expandTypes_suffix (expanded : form.expandTypes tokens = some (parts, rest))
    : rest <:+ tokens := by
  unfold expandTypes at expanded
  grind [List.suffix_cons_iff, List.drop_suffix, afterColons?_suffix, suffix_of_cons]

theorem expandSegment_suffix (expanded : expandSegment word after = some (parts, rest))
    : rest <:+ .word word :: after := by
  unfold expandSegment at expanded
  grind [List.suffix_cons_iff, afterColons?_suffix, suffix_of_cons]

theorem expandSegmentEnd_suffix (expanded : expandSegmentEnd tokens = some (parts, rest))
    : rest <:+ tokens := by
  unfold expandSegmentEnd at expanded
  grind [List.suffix_cons_iff, afterColons?_suffix, suffix_of_cons]

theorem expandPath_suffix (expanded : form.expandPath tokens = some (parts, rest))
    : rest <:+ tokens := by
  unfold expandPath at expanded
  grind [List.suffix_cons_iff, afterColons?_getD_suffix, expandSegment_suffix,
    expandSegmentEnd_suffix]

theorem expandArgumentWord_suffix
    (expanded : expandArgumentWord word after = some (parts, rest))
    : rest <:+ .word word :: after := by
  unfold expandArgumentWord at expanded
  grind [List.suffix_cons_iff, List.drop_suffix]

theorem expandArguments_suffix (expanded : form.expandArguments tokens = some (parts, rest))
    : rest <:+ tokens := by
  unfold expandArguments at expanded
  grind [List.suffix_cons_iff, expandArgumentWord_suffix]

theorem expandBounds_suffix (expanded : form.expandBounds tokens = some (parts, rest))
    : rest <:+ tokens := by
  unfold expandBounds at expanded
  grind [List.suffix_cons_iff]

theorem expandGenerics_suffix (expanded : form.expandGenerics tokens = some (parts, rest))
    : rest <:+ tokens := by
  unfold expandGenerics at expanded
  split at expanded
  all_goals grind [List.suffix_cons_iff]

variable {structs : Bool}

theorem expandUntil_suffix (expanded : form.expandUntil tokens = some (parts, rest))
    : rest <:+ tokens := by
  unfold expandUntil at expanded
  grind [List.suffix_cons_iff]

theorem expandBlocks_suffix (expanded : form.expandBlocks tokens = some (parts, rest))
    : rest <:+ tokens := by
  unfold expandBlocks at expanded
  grind [List.suffix_cons_iff, List.drop_suffix]

theorem expandAsync_suffix (expanded : expandAsync structs tokens = some (parts, rest))
    : rest <:+ tokens := by
  unfold expandAsync at expanded
  grind [List.suffix_cons_iff]

theorem expandOperandWord_suffix
    (expanded : expandOperandWord structs word after = some (parts, rest))
    : rest <:+ .word word :: after := by
  unfold expandOperandWord at expanded
  split at expanded
  case h_10 => exact (expandAsync_suffix expanded).trans (List.suffix_cons _ _)
  case h_18 => grind [List.suffix_cons]
  all_goals
    cases expanded
    simp

theorem expandSign_suffix {sign : Char}
    (expanded : expandSign structs sign after = some (parts, rest))
    : rest <:+ after := by
  unfold expandSign at expanded
  grind [List.suffix_cons_iff]

theorem expandOperand_suffix (expanded : expandOperand structs tokens = some (parts, rest))
    : rest <:+ tokens := by
  unfold expandOperand at expanded
  grind [List.suffix_cons_iff, List.drop_suffix, afterColons?_suffix, suffix_of_cons,
    expandOperandWord_suffix, expandSign_suffix]

theorem expandPathEnd_suffix (expanded : expandPathEnd structs tokens = some (parts, rest))
    : rest <:+ tokens := by
  unfold expandPathEnd at expanded
  grind [List.suffix_cons_iff, afterColons?_suffix, suffix_of_cons]

theorem expandOperandEnd_suffix (expanded : expandOperandEnd structs tokens = some (parts, rest))
    : rest <:+ tokens := by
  unfold expandOperandEnd at expanded
  grind [List.suffix_cons_iff, List.drop_suffix]

theorem expandOptionalOperand_suffix
    (expanded : expandOptionalOperand structs tokens = some (parts, rest))
    : rest <:+ tokens := by
  unfold expandOptionalOperand at expanded
  grind [List.suffix_cons_iff]

theorem expandExpression_suffix (expanded : form.expandExpression tokens = some (parts, rest))
    : rest <:+ tokens := by
  unfold expandExpression at expanded
  grind [List.suffix_cons_iff, afterColons?_suffix, suffix_of_cons, expandOperand_suffix,
    expandPathEnd_suffix, expandOperandEnd_suffix, expandOptionalOperand_suffix]

theorem expandVisibility_suffix (expanded : expandVisibility tokens = some (parts, rest))
    : rest <:+ tokens := by
  unfold expandVisibility at expanded
  grind [List.suffix_cons_iff, plain]

theorem expandItem_suffix (expanded : form.expandItem tokens = some (parts, rest))
    : rest <:+ tokens := by
  unfold expandItem at expanded
  grind [List.suffix_cons_iff, expandVisibility_suffix]

/-- What a form leaves is a suffix, by the kinds of forms. -/
theorem expand_suffix (expanded : form.expand tokens = some (parts, rest))
    : rest <:+ tokens := by
  unfold expand at expanded
  grind [expandToken_suffix, expandType_suffix, expandTypeEnd_suffix, expandTypes_suffix,
    expandPath_suffix, expandArguments_suffix, expandBounds_suffix, expandGenerics_suffix,
    expandUntil_suffix, expandBlocks_suffix, expandExpression_suffix, expandItem_suffix]

end Form

-----------------------------------------------------------------------------------------
-- Passing over forms, paths and brackets
-----------------------------------------------------------------------------------------

/-- Forms that are passed over leave a suffix, by induction on the steps. -/
theorem skipForms_suffix {fuel : Nat} {forms : List Form}
    (skipped : skipForms fuel forms tokens = some rest)
    : rest <:+ tokens := by
  induction fuel generalizing forms tokens with
  | zero =>
      cases forms with
      | nil => exact Option.some.inj skipped ▸ List.suffix_rfl
      | cons => nomatch skipped
  | succ fuel ih =>
      cases forms with
      | nil => exact Option.some.inj skipped ▸ List.suffix_rfl
      | cons form forms =>
          obtain ⟨⟨parts, middle⟩, expanded, later⟩ := Option.bind_eq_some_iff.mp skipped
          exact (ih later).trans (Form.expand_suffix expanded)

theorem skip_suffix {forms : List Form} (skipped : skip forms tokens = some rest)
    : rest <:+ tokens :=
  skipForms_suffix skipped

/-- What a path leaves is a suffix, by recursion on its segments. -/
theorem dropPlainPath?_suffix (dropped : dropPlainPath? tokens = some rest)
    : rest <:+ tokens := by
  fun_induction dropPlainPath? tokens with
  | case1 word joint later named ih =>
      exact (ih dropped).trans ⟨[.word word, .mark ':' true, .mark ':' joint], rfl⟩
  | case3 => exact Option.some.inj dropped ▸ List.suffix_cons _ _
  | case2 | case4 | case5 => nomatch dropped

/-- What follows the name of an attribute is a suffix of the attribute. -/
theorem Attribute.tokens_suffix {found : Attribute}
    (read : Attribute.ofTokens? tokens = some found)
    : found.tokens <:+ tokens := by
  obtain ⟨rest, dropped, made⟩ := Option.bind_eq_some_iff.mp read
  obtain rfl := Option.some.inj made
  exact (dropPlainPath?_suffix dropped).trans (afterColons?_getD_suffix tokens)

-----------------------------------------------------------------------------------------
-- Brackets
-----------------------------------------------------------------------------------------

/-- All brackets are closed: those that are opened here, and the given number of others that are
open before. Brackets of different kinds count alike.
-/
inductive BracketsClosed : Nat → List Token → Prop
  | none : BracketsClosed 0 []
  | opening {depth : Nat} {tokens : List Token} (bracket : Bracket)
      (later : BracketsClosed (depth + 1) tokens)
      : BracketsClosed depth (.opening bracket :: tokens)
  | closing {depth : Nat} {tokens : List Token} (bracket : Bracket)
      (later : BracketsClosed depth tokens)
      : BracketsClosed (depth + 1) (.closing bracket :: tokens)
  | other {depth : Nat} {token : Token} {tokens : List Token}
      (noOpening : ∀ bracket, token ≠ .opening bracket)
      (noClosing : ∀ bracket, token ≠ .closing bracket)
      (later : BracketsClosed depth tokens)
      : BracketsClosed depth (token :: tokens)

/-- A token that is kept stands before what the tokens after it are split into. -/
theorem keep_eq_some {token : Token} {split : Option (List Token × List Token)}
    {inside after : List Token}
    : (do let (inside, after) ← split; return (token :: inside, after)) = some (inside, after)
      ↔ ∃ others, split = some (others, after) ∧ token :: others = inside := by
  simp only [Option.bind_eq_bind, Option.bind_eq_some_iff, Option.pure_def, Option.some.injEq,
    Prod.mk.injEq, Prod.exists]
  constructor
  · rintro ⟨others, _, found, same, rfl⟩
    exact ⟨others, found, same⟩
  · rintro ⟨others, found, same⟩
    exact ⟨others, after, found, same, rfl⟩

/-- Tokens are split at the first bracket before which all others are closed. -/
theorem splitClosing_eq_some {depth : Nat} {inside after : List Token}
    : splitClosing depth tokens = some (inside, after)
      ↔ BracketsClosed depth inside ∧ ∃ bracket, tokens = inside ++ .closing bracket :: after := by
  constructor
  · intro split
    fun_induction splitClosing depth tokens generalizing inside after with
    | case1 => cases split
    | case2 rest bracket =>
        cases split
        exact ⟨.none, bracket, rfl⟩
    | case3 rest bracket depth =>
        rename_i ih
        obtain ⟨others, found, rfl⟩ := keep_eq_some.mp split
        obtain ⟨closed, last, rfl⟩ := ih depth found
        exact ⟨.closing bracket closed, last, rfl⟩
    | case4 rest bracket depth =>
        rename_i ih
        obtain ⟨others, found, rfl⟩ := keep_eq_some.mp split
        obtain ⟨closed, last, rfl⟩ := ih (depth + 1) found
        exact ⟨.opening bracket closed, last, rfl⟩
    | case5 token rest keep depth noClosing noClosingBelow noOpening =>
        rename_i ih
        obtain ⟨others, found, rfl⟩ := keep_eq_some.mp split
        obtain ⟨closed, last, rfl⟩ := ih depth found
        refine ⟨.other noOpening (fun bracket same => ?_) closed, last, rfl⟩
        cases depth with
        | zero => exact noClosing bracket same rfl
        | succ depth => exact noClosingBelow bracket depth same rfl
  · rintro ⟨closed, bracket, rfl⟩
    induction closed with
    | none => rfl
    | opening _ _ ih | closing _ _ ih =>
        rw [List.cons_append, splitClosing]
        exact keep_eq_some.mpr ⟨_, ih, rfl⟩
    | other noOpening noClosing _ ih =>
        rw [List.cons_append, splitClosing]
        · exact keep_eq_some.mpr ⟨_, ih, rfl⟩
        · exact noOpening
        · exact fun bracket same => (noClosing bracket same).elim
        · exact fun bracket _ same => (noClosing bracket same).elim

/-- Brackets are closed in tokens and further ones if they are in both, by recursion on the
tokens.
-/
theorem closesBrackets_append {stack : List Bracket} {more : List Token}
    (first : closesBrackets stack tokens) (second : closesBrackets [] more)
    : closesBrackets stack (tokens ++ more) := by
  fun_induction closesBrackets stack tokens with
  | case1 stack =>
      obtain rfl := List.isEmpty_iff.mp first
      exact second
  | case2 stack bracket rest ih => exact ih first
  | case3 => nomatch first
  | case4 bracket rest top below ih =>
      obtain ⟨same, closed⟩ := (Bool.and_eq_true _ _).mp first
      rw [List.cons_append, closesBrackets, same, Bool.true_and]
      exact ih closed
  | case5 stack token rest noOpening noClosing ih =>
      rw [List.cons_append, closesBrackets]
      · exact ih first
      · exact noOpening
      · exact noClosing

/-- Brackets that are closed by those of their kinds are closed, by recursion on the tokens. -/
theorem bracketsClosed_of_closes {stack : List Bracket} (closed : closesBrackets stack tokens)
    : BracketsClosed stack.length tokens := by
  fun_induction closesBrackets stack tokens with
  | case1 stack =>
      obtain rfl := List.isEmpty_iff.mp closed
      exact .none
  | case2 _ bracket _ ih => exact .opening bracket (ih closed)
  | case3 => nomatch closed
  | case4 bracket _ _ _ ih => exact .closing bracket (ih ((Bool.and_eq_true _ _).mp closed).2)
  | case5 _ _ _ noOpening noClosing ih => exact .other noOpening noClosing (ih closed)

end Catalog.Source
