import Catalog.Proofs.Source.Separation

/-! How paths are written.
A path consists of segments with pairs of colons between them and maybe one in front. A segment is
a word that may have arguments in angle brackets, which are passed over. Where an entry of a list
ends, a path is read exactly if it is written so.
-/

namespace Catalog.Source

/-- An entry of a list ends here: nothing follows, or a comma. -/
def EndsEntry (after : List Token) : Prop :=
  after = [] ∨ ∃ joint later, after = .mark ',' joint :: later

/-- How arguments are written before further tokens. Colons may stand before the bracket. -/
inductive ArgumentsSpelled : List Token → List Token → Prop
  | opened {inside after : List Token} (joint : Bool)
      (single : startsWithPair '<' '=' (.mark '<' joint :: inside ++ after) = false)
      (passed : skip [.arguments] (inside ++ after) = some after)
      : ArgumentsSpelled (.mark '<' joint :: inside) after
  | afterColons {inside after : List Token} (joint opened : Bool)
      (passed : skip [.arguments] (inside ++ after) = some after)
      : ArgumentsSpelled (.mark ':' true :: .mark ':' joint :: .mark '<' opened :: inside) after

/-- How the arguments of a word are written, if it has some. The words for places in the tree of
modules have none.
-/
def OptionalArguments (word : Word) (arguments after : List Token) : Prop :=
  arguments = [] ∨ (word.isName ∨ word.name = "Self") ∧ ArgumentsSpelled arguments after

/-- How the segments of a path are written before further tokens. -/
inductive SegmentsSpelled : List Token → List Token → Prop
  | last {word : Word} {arguments after : List Token} (named : isPathWord word)
      (given : OptionalArguments word arguments after)
      : SegmentsSpelled (.word word :: arguments) after
  | more {word : Word} {arguments others after : List Token} (joint : Bool)
      (named : isPathWord word)
      (given : OptionalArguments word arguments
        (.mark ':' true :: .mark ':' joint :: (others ++ after)))
      (rest : SegmentsSpelled others after)
      : SegmentsSpelled
          (.word word :: (arguments ++ .mark ':' true :: .mark ':' joint :: others)) after

/-- How a path is written before further tokens. -/
def Path.Spelled (path : Path) (after : List Token) : Prop :=
  ∃ segments, SegmentsSpelled segments after
    ∧ (path.tokens = segments
      ∨ ∃ joint, path.tokens = .mark ':' true :: .mark ':' joint :: segments)

variable {tokens taken after : List Token}

-----------------------------------------------------------------------------------------
-- Reading arguments
-----------------------------------------------------------------------------------------

/-- A pair of colons stands before what follows it. -/
theorem eq_of_afterColons? (found : afterColons? tokens = some after)
    : ∃ joint, tokens = .mark ':' true :: .mark ':' joint :: after := by
  unfold afterColons? at found
  split at found
  case h_1 joint rest =>
    cases found
    exact ⟨joint, rfl⟩
  case h_2 => cases found

theorem EndsEntry.afterColons? (ends : EndsEntry after) : afterColons? after = none := by
  rcases ends with rfl | ⟨joint, later, rfl⟩ <;> rfl

/-- There are no arguments where an entry ends. -/
theorem EndsEntry.dropArguments? (ends : EndsEntry after) : dropArguments? after = some after := by
  rcases ends with rfl | ⟨joint, later, rfl⟩ <;> rfl

theorem ArgumentsSpelled.dropArguments? (spelled : ArgumentsSpelled taken after)
    : dropArguments? (taken ++ after) = some after := by
  cases spelled with
  | opened joint single passed =>
      rw [List.cons_append] at single ⊢
      simp only [Source.dropArguments?, single, passed]
      rfl
  | afterColons joint opened passed => exact passed

/-- Arguments that are dropped are written as such, or there are none. -/
theorem argumentsSpelled_of_drop (dropped : dropArguments? tokens = some after)
    : tokens = after ∨ ∃ taken, tokens = taken ++ after ∧ ArgumentsSpelled taken after := by
  unfold dropArguments? at dropped
  split at dropped
  case h_1 _ joint inside =>
    split at dropped
    case isTrue => exact .inl (Option.some.inj dropped)
    case isFalse single =>
      obtain ⟨taken, rfl⟩ := skip_suffix dropped
      exact .inr ⟨_, rfl, .opened joint (by simpa using single) dropped⟩
  case h_2 opened inside _ colons =>
    obtain ⟨joint, rfl⟩ := eq_of_afterColons? colons
    obtain ⟨taken, rfl⟩ := skip_suffix dropped
    exact .inr ⟨_, rfl, .afterColons joint opened dropped⟩
  case h_3 => exact .inl (Option.some.inj dropped)

/-- The tokens after the arguments of a word, if it may have some. -/
def dropOptional? (word : Word) (tokens : List Token) : Option (List Token) :=
  if word.isName || word.name = "Self" then dropArguments? tokens else some tokens

/-- The arguments of a word are dropped up to tokens that start with none. -/
theorem OptionalArguments.drop {word : Word} (given : OptionalArguments word taken after)
    (none : dropArguments? after = some after)
    : dropOptional? word (taken ++ after) = some after := by
  unfold dropOptional?
  rcases given with rfl | ⟨named, spelled⟩
  · split
    case isTrue => exact none
    case isFalse => rfl
  · rw [if_pos (by simpa using named)]
    exact spelled.dropArguments?

theorem optionalArguments_of_drop {word : Word} (dropped : dropOptional? word tokens = some after)
    : ∃ taken, tokens = taken ++ after ∧ OptionalArguments word taken after := by
  unfold dropOptional? at dropped
  split at dropped
  case isTrue named =>
    rcases argumentsSpelled_of_drop dropped with rfl | ⟨taken, rfl, spelled⟩
    · exact ⟨[], rfl, .inl rfl⟩
    · exact ⟨taken, rfl, .inr ⟨by simpa using named, spelled⟩⟩
  case isFalse =>
    cases dropped
    exact ⟨[], rfl, .inl rfl⟩

-----------------------------------------------------------------------------------------
-- Reading segments
-----------------------------------------------------------------------------------------

/-- A segment, and the segments that follow it. -/
theorem readSegments?_word (word : Word) (rest : List Token)
    : readSegments? (.word word :: rest) =
      if isPathWord word then
        (dropOptional? word rest).bind fun after =>
          match afterColons? after with
          | none | some (.opening .round :: _) => some (word.name, after)
          | some next => if next.length ≤ rest.length then readSegments? next else none
      else none := by
  rw [readSegments?]
  split
  case isFalse => rfl
  case isTrue =>
    rw [dropOptional?]
    split <;> rfl

/-- Segments start with a word. -/
theorem SegmentsSpelled.exists_word (spelled : SegmentsSpelled taken after)
    : ∃ word following, taken = .word word :: following := by
  cases spelled with
  | last => exact ⟨_, _, rfl⟩
  | more => exact ⟨_, _, rfl⟩

/-- Segments that are written are read, by induction on the segments. -/
theorem SegmentsSpelled.read (spelled : SegmentsSpelled taken after) (ends : EndsEntry after)
    : ∃ name, readSegments? (taken ++ after) = some (name, after) := by
  induction spelled with
  | @last word arguments after named given =>
      refine ⟨word.name, ?_⟩
      rw [List.cons_append, readSegments?_word, if_pos named, given.drop ends.dropArguments?,
        Option.bind_some, ends.afterColons?]
  | @more word arguments others after joint named given rest ih =>
      obtain ⟨name, read⟩ := ih ends
      obtain ⟨next, following, rfl⟩ := rest.exists_word
      refine ⟨name, ?_⟩
      have dropped := given.drop rfl
      rw [List.cons_append, List.append_assoc, List.cons_append, List.cons_append,
        readSegments?_word, if_pos named, dropped, Option.bind_some]
      have shorter : (.word next :: following ++ after).length
          ≤ (arguments ++ .mark ':' true :: .mark ':' joint
            :: (.word next :: following ++ after)).length := by
        simp only [List.length_append, List.length_cons]
        omega
      exact (if_pos shorter).trans read

/-- Segments that are read up to the end of an entry are written as such, by recursion on the
tokens.
-/
theorem segmentsSpelled_of_read {tokens after : List Token} {name : String}
    (read : readSegments? tokens = some (name, after)) (ends : EndsEntry after)
    : ∃ taken, tokens = taken ++ after ∧ SegmentsSpelled taken after := by
  unfold readSegments? at read
  split at read
  case h_2 => cases read
  case h_1 word following =>
    rw [← readSegments?, readSegments?_word] at read
    obtain ⟨named, read⟩ := Option.ite_none_right_eq_some.mp read
    obtain ⟨middle, dropped, continued⟩ := Option.bind_eq_some_iff.mp read
    obtain ⟨arguments, rfl, given⟩ := optionalArguments_of_drop dropped
    split at continued
    case h_1 =>
      cases continued
      exact ⟨_, rfl, .last named given⟩
    case h_2 call =>
      cases continued
      cases ends.afterColons?.symm.trans call
    case h_3 next _ colons =>
      obtain ⟨shorter, readNext⟩ := Option.ite_none_right_eq_some.mp continued
      obtain ⟨joint, rfl⟩ := eq_of_afterColons? colons
      obtain ⟨others, rfl, rest⟩ := segmentsSpelled_of_read readNext ends
      exact ⟨_, by simp, .more joint named given rest⟩
termination_by tokens.length
decreasing_by
  subst_vars
  exact Nat.lt_succ_of_le shorter

-----------------------------------------------------------------------------------------
-- Reading paths
-----------------------------------------------------------------------------------------

/-- Up to the end of an entry, a path is read exactly if it is written there. -/
theorem readPath?_eq_some {path : Path} (ends : EndsEntry after)
    : readPath? tokens = some (path, after)
      ↔ tokens = path.tokens ++ after ∧ path.Spelled after := by
  obtain ⟨written⟩ := path
  simp only [readPath?, Option.bind_eq_bind, Option.bind_eq_some_iff, Option.pure_def,
    Option.some.injEq, Prod.mk.injEq, Path.mk.injEq, Prod.exists, Path.Spelled]
  constructor
  · rintro ⟨name, rest, read, same, rfl⟩
    obtain ⟨segments, split, spelled⟩ := segmentsSpelled_of_read read ends
    cases colons : afterColons? tokens with
    | none =>
        rw [colons, Option.getD_none] at split
        subst split
        obtain rfl : segments = written := by simpa using same
        exact ⟨rfl, segments, spelled, .inl rfl⟩
    | some following =>
        rw [colons, Option.getD_some] at split
        subst split
        obtain ⟨joint, rfl⟩ := eq_of_afterColons? colons
        obtain rfl : .mark ':' true :: .mark ':' joint :: segments = written := by
          rw [← same, ← List.cons_append, ← List.cons_append, List.length_append,
            Nat.add_sub_cancel, List.take_left]
        exact ⟨rfl, segments, spelled, .inr ⟨joint, rfl⟩⟩
  · rintro ⟨rfl, segments, spelled, written⟩
    obtain ⟨name, read⟩ := spelled.read ends
    refine ⟨name, after, ?_, by simp, rfl⟩
    rcases written with rfl | ⟨joint, rfl⟩
    · obtain ⟨word, following, rfl⟩ := spelled.exists_word
      exact read
    · exact read

-----------------------------------------------------------------------------------------
-- Before a comma
-----------------------------------------------------------------------------------------

variable (joint : Bool) (more : List Token)

theorem ArgumentsSpelled.beforeComma (spelled : ArgumentsSpelled taken after)
    : ArgumentsSpelled taken (after ++ .mark ',' joint :: more) := by
  cases spelled with
  | opened joined single passed =>
      refine .opened joined ?_ ?_
      · rw [← List.append_assoc, startsWithPair_before (by simp) (by simp)]
        exact single
      · rw [← List.append_assoc]
        exact skip_separable rfl passed joint more
  | afterColons joined opened passed =>
      refine .afterColons joined opened ?_
      rw [← List.append_assoc]
      exact skip_separable rfl passed joint more

theorem OptionalArguments.beforeComma {word : Word} (given : OptionalArguments word taken after)
    : OptionalArguments word taken (after ++ .mark ',' joint :: more) :=
  given.imp_right fun ⟨named, spelled⟩ => ⟨named, spelled.beforeComma joint more⟩

/-- Segments are written alike before a comma, by induction on the segments. -/
theorem SegmentsSpelled.beforeComma (spelled : SegmentsSpelled taken after)
    : SegmentsSpelled taken (after ++ .mark ',' joint :: more) := by
  induction spelled with
  | last named given => exact .last named (given.beforeComma joint more)
  | more joined named given _ ih =>
      refine .more joined named ?_ ih
      simpa using given.beforeComma joint more

/-- A path is written alike before a comma. -/
theorem Path.Spelled.beforeComma {path : Path} (spelled : path.Spelled after)
    : path.Spelled (after ++ .mark ',' joint :: more) := by
  obtain ⟨segments, spelled, written⟩ := spelled
  exact ⟨segments, spelled.beforeComma joint more, written⟩

end Catalog.Source
