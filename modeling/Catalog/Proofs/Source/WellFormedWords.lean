import Catalog.Proofs.Source.Remainder

/-! Words of source code have a first character that words can start with.
This holds for every word that is read from a text, and so for the names in an item and for the
words in its attributes, which all stand in the text. In particular no name is empty.
-/

namespace Catalog.Source

/-- A word is well-formed if it has a first character, and words can start with it. -/
def Word.WellFormed (word : Word) : Prop :=
  word.name.toList.head?.any startsWord = true

/-- All words among the tokens are well-formed. -/
def WordsWellFormed (tokens : List Token) : Prop :=
  ∀ word, Token.word word ∈ tokens → word.WellFormed

/-- A well-formed word has a name. -/
theorem Word.WellFormed.name_ne {word : Word} (wellFormed : word.WellFormed) : word.name ≠ "" := by
  intro empty
  rw [WellFormed, empty] at wellFormed
  nomatch wellFormed

/-- A name does not start with a character that no word can start with. -/
theorem Word.WellFormed.head?_ne {word : Word} (wellFormed : word.WellFormed) {c : Char}
    (other : startsWord c = false)
    : word.name.toList.head? ≠ some c := by
  intro first
  rw [WellFormed, first, Option.any_some, other] at wellFormed
  nomatch wellFormed

theorem WordsWellFormed.mono {some_tokens tokens : List Token} (wellFormed : WordsWellFormed tokens)
    (subset : some_tokens ⊆ tokens)
    : WordsWellFormed some_tokens :=
  fun word member => wellFormed word (subset member)

-----------------------------------------------------------------------------------------
-- Reading tokens
-----------------------------------------------------------------------------------------

section Reading

variable {text rest : List Char} {word : Word} {quoted : Quoted}

/-- What starts with a character that a word can start with is well-formed. -/
theorem wellFormed_of_startsWord {c : Char} {raw : Bool} (starts : startsWord c = true)
    : Word.WellFormed ⟨String.ofList (c :: rest), raw⟩ := by
  simpa [Word.WellFormed] using starts

theorem readWord?_wellFormed (read : readWord? text = some (word, rest)) : word.WellFormed := by
  unfold readWord? at read
  split at read
  · dsimp only at read
    split at read
    case isTrue fits =>
      obtain ⟨rfl, _⟩ := Prod.mk.inj (Option.some.inj read)
      exact wellFormed_of_startsWord (Bool.and_eq_true_iff.mp fits).1
    case isFalse => nomatch read
  · split at read
    case isTrue starts =>
      obtain ⟨rfl, _⟩ := Prod.mk.inj (Option.some.inj read)
      exact wellFormed_of_startsWord starts
    case isFalse => nomatch read
  · nomatch read

/-- A literal is not a word, whatever it is a literal of. -/
theorem readCharacter_ne_word : readCharacter quoted text ≠ some (.word word, rest) := by
  unfold readCharacter
  simp only [Option.bind_eq_bind, Option.pure_def]
  grind [Option.bind_eq_some_iff]

theorem readString?_ne_word : readString? text ≠ some (.word word, rest) := by
  unfold readString?
  simp only [Option.bind_eq_bind, Option.pure_def]
  grind [Option.bind_eq_some_iff]

theorem readInteger?_ne_word : readInteger? text ≠ some (.word word, rest) := by
  unfold readInteger?
  simp only [Option.bind_eq_bind, Option.pure_def]
  grind [Option.bind_eq_some_iff]

theorem readNumber?_ne_word : readNumber? text ≠ some (.word word, rest) := by
  unfold readNumber?
  split
  · exact fun same => nomatch same
  · exact readInteger?_ne_word

theorem readLifetime?_ne_word : readLifetime? text ≠ some (.word word, rest) := by
  unfold readLifetime?
  simp only [Option.bind_eq_bind]
  grind [Option.bind_eq_some_iff]

/-- A word that is read as a leaf is well-formed, as literals are not words. -/
theorem readLeaf_wellFormed (read : readLeaf text = some (.word word, rest))
    : word.WellFormed := by
  unfold readLeaf at read
  simp only [Option.orElse_eq_orElse, Option.orElse_eq_or, Option.or_eq_some_iff] at read
  rcases read with literal | ⟨_, other⟩
  · split at literal
    · exact absurd literal readCharacter_ne_word
    · exact absurd literal readCharacter_ne_word
    · rcases Option.or_eq_some_iff.mp literal with string | ⟨_, number⟩
      · exact absurd string readString?_ne_word
      · exact absurd number readNumber?_ne_word
  · split at other
    case h_1 => exact absurd other readLifetime?_ne_word
    case h_9 =>
      split at other
      · nomatch other
      · obtain ⟨⟨found, after⟩, named, same⟩ := Option.map_eq_some_iff.mp other
        cases same
        exact readWord?_wellFormed named
    all_goals nomatch other

/-- The only word that a comment stands for is `doc`. -/
theorem documentation_wellFormed (inner : Bool) : WordsWellFormed (documentation inner) := by
  intro word member
  obtain rfl : word = ⟨"doc", false⟩ := by
    cases inner <;> simpa [documentation] using member
  rfl

theorem WordsWellFormed.nil : WordsWellFormed [] :=
  fun _ member => nomatch member

theorem readComment_wellFormed {tokens : List Token}
    (read : readComment text = some (tokens, rest))
    : WordsWellFormed tokens := by
  unfold readComment at read
  grind [Option.map_eq_some_iff, documentation_wellFormed, WordsWellFormed.nil]

theorem readNext_wellFormed {tokens : List Token} (read : readNext text = some (tokens, rest))
    : WordsWellFormed tokens := by
  unfold readNext at read
  split at read
  case h_7 =>
    split at read
    · cases read
      exact .nil
    · split at read
      · exact readComment_wellFormed read
      · obtain ⟨⟨token, after⟩, leaf, same⟩ := Option.map_eq_some_iff.mp read
        cases same
        intro word member
        cases List.mem_singleton.mp member
        exact readLeaf_wellFormed leaf
  case h_8 => nomatch read
  -- A bracket is not a word.
  all_goals
    cases read
    intro word member
    nomatch List.mem_singleton.mp member

/-- All words that are read are well-formed, by recursion on the text. -/
theorem readTokens_wellFormed {tokens : List Token} (read : readTokens text = some tokens)
    : WordsWellFormed tokens := by
  fun_induction readTokens text generalizing tokens with
  | case1 =>
      cases read
      exact .nil
  | case2 c following ih =>
      obtain ⟨⟨first, next⟩, firstRead, continued⟩ := Option.bind_eq_some_iff.mp read
      dsimp only at continued
      split at continued
      case isTrue shorter =>
        obtain ⟨others, othersRead, joined⟩ := Option.bind_eq_some_iff.mp continued
        cases joined
        intro word member
        rcases List.mem_append.mp member with present | present
        · exact readNext_wellFormed firstRead word present
        · exact ih next shorter othersRead word present
      case isFalse => nomatch continued

end Reading

/-- All words of a source text are well-formed. -/
theorem tokens?_wellFormed {source : String} {tokens : List Token}
    (read : tokens? source = some tokens)
    : WordsWellFormed tokens := by
  obtain ⟨found, foundRead, same⟩ := Option.bind_eq_some_iff.mp read
  obtain ⟨_, same⟩ := Option.ite_none_right_eq_some.mp same
  cases same
  exact readTokens_wellFormed foundRead

-----------------------------------------------------------------------------------------
-- The words of an item
-----------------------------------------------------------------------------------------

/-- The members of a struct that has named ones or none at all. -/
def Body.members? : Body → Option (List Member)
  | .named members => some members
  | .unit => some []
  | .tuple | .other => none

/-- The name of an item, the tokens of its attributes and the names of its members are among
the tokens.
-/
structure Item.WrittenIn (item : Item) (tokens : List Token) : Prop where
  name : .word item.word ∈ tokens
  of_attribute : ∀ found ∈ item.attributes, found.tokens ⊆ tokens
  of_member : ∀ members, item.body.members? = some members
    → ∀ member ∈ members, .word member.word ∈ tokens

variable {tokens rest : List Token}

/-- Attributes are read from the front: their tokens are among those that are read, and the
others are a suffix. By recursion on the tokens.
-/
theorem readAttributes_writtenIn {attributes : List Attribute}
    (read : readAttributes tokens = some (attributes, rest))
    : (∀ found ∈ attributes, found.tokens ⊆ tokens) ∧ rest <:+ tokens := by
  fun_induction readAttributes tokens generalizing attributes rest with
  | case1 joint following ih =>
      obtain ⟨⟨inside, after⟩, enclosed, read⟩ := Option.bind_eq_some_iff.mp read
      obtain ⟨first, firstRead, read⟩ := Option.bind_eq_some_iff.mp read
      dsimp only at read
      split at read
      case isFalse => nomatch read
      case isTrue shorter =>
        obtain ⟨⟨others, last⟩, othersRead, same⟩ := Option.bind_eq_some_iff.mp read
        cases same
        obtain ⟨_, bracket, split⟩ := splitClosing_eq_some.mp enclosed
        obtain ⟨others_in, last_suffix⟩ := ih after shorter othersRead
        have following_suffix : following <:+ .mark '#' joint :: .opening .square :: following :=
          ⟨[.mark '#' joint, .opening .square], rfl⟩
        have inside_subset : inside ⊆ following := split ▸ List.subset_append_left _ _
        have after_suffix : after <:+ following :=
          split ▸ suffix_of_cons (List.suffix_append inside _)
        refine ⟨?_, last_suffix.trans (after_suffix.trans following_suffix)⟩
        intro found member
        refine List.Subset.trans ?_ following_suffix.subset
        rcases List.mem_cons.mp member with rfl | later
        · exact List.Subset.trans (Attribute.tokens_suffix firstRead).subset inside_subset
        · exact List.Subset.trans (others_in found later) after_suffix.subset
  | case2 =>
      nomatch read
  | case3 =>
      cases read
      exact ⟨nofun, List.suffix_rfl⟩

/-- The names of members are among the tokens they are read from, by recursion on the tokens. -/
theorem readMembers_writtenIn {members : List Member} (read : readMembers tokens = some members)
    : ∀ member ∈ members, .word member.word ∈ tokens := by
  fun_induction readMembers tokens generalizing members with
  | case1 =>
      cases read
      exact fun _ member => absurd member List.not_mem_nil
  | case2 tokens present ih =>
      obtain ⟨⟨attributes, rest⟩, attributesRead, read⟩ := Option.bind_eq_some_iff.mp read
      obtain ⟨visible, skipped, read⟩ := Option.bind_eq_some_iff.mp read
      split at read
      case h_2 => cases read
      case h_1 word following =>
        obtain ⟨after, typed, read⟩ := Option.bind_eq_some_iff.mp read
        have visible_suffix :=
          (skip_suffix skipped).trans (readAttributes_writtenIn attributesRead).2
        have word_in : .word word ∈ tokens := visible_suffix.subset List.mem_cons_self
        split at read
        case h_1 =>
          cases read
          intro member only
          cases List.mem_singleton.mp only
          exact word_in
        case h_2 joint later =>
          split at read
          case isFalse => cases read
          case isTrue shorter =>
            obtain ⟨others, othersRead, same⟩ := Option.bind_eq_some_iff.mp read
            cases same
            have later_suffix : later <:+ tokens :=
              suffix_of_cons ((skip_suffix typed).trans visible_suffix)
            intro member found
            rcases List.mem_cons.mp found with rfl | other
            · exact word_in
            · exact later_suffix.subset (ih later shorter othersRead member other)
        case h_3 => cases read

/-- The names of the members of a struct are among the tokens of its body. -/
theorem readStruct?_writtenIn {body : Body} (read : readStruct? tokens = some body)
    {members : List Member} (named : body.members? = some members)
    : ∀ member ∈ members, .word member.word ∈ tokens := by
  unfold readStruct? at read
  split at read
  · split at read
    · cases read
      nomatch named
    · nomatch read
  · obtain ⟨after, skipped, read⟩ := Option.bind_eq_some_iff.mp read
    split at read
    · cases read
      cases named
      exact fun _ member => nomatch member
    · rename_i following
      obtain ⟨⟨inside, last⟩, enclosed, read⟩ := Option.bind_eq_some_iff.mp read
      split at read
      case h_2 => nomatch read
      case h_1 inside same =>
        obtain ⟨found, foundRead, made⟩ := Option.bind_eq_some_iff.mp read
        cases same
        cases made
        cases named
        obtain ⟨_, bracket, rfl⟩ := splitClosing_eq_some.mp enclosed
        intro member present
        have inside_has := readMembers_writtenIn foundRead member present
        exact (suffix_of_cons (skip_suffix skipped)).subset (List.mem_append_left _ inside_has)
    · nomatch read

/-- An item that is no struct has no members. -/
theorem readOther?_members? {parts : Form} {body : Body}
    (read : readOther? parts tokens = some body)
    : body.members? = none := by
  unfold readOther? at read
  obtain ⟨after, skipped, read⟩ := Option.bind_eq_some_iff.mp read
  split at read
  · obtain ⟨last, _, read⟩ := Option.bind_eq_some_iff.mp read
    split at read
    · cases read
      rfl
    · nomatch read
  · nomatch read

/-- Whatever an item consists of stands in the tokens that it is read from. -/
theorem Item.ofTokens?_writtenIn {item : Item} (read : Item.ofTokens? tokens = some item)
    : item.WrittenIn tokens := by
  obtain ⟨⟨attributes, rest⟩, attributesRead, read⟩ := Option.bind_eq_some_iff.mp read
  obtain ⟨visible, skipped, read⟩ := Option.bind_eq_some_iff.mp read
  obtain ⟨attributes_in, rest_suffix⟩ := readAttributes_writtenIn attributesRead
  split at read
  case h_2 => nomatch read
  case h_1 kind word following =>
    obtain ⟨after, named, read⟩ := Option.bind_eq_some_iff.mp read
    have word_suffix : .word word :: following <:+ tokens :=
      suffix_of_cons ((skip_suffix skipped).trans rest_suffix)
    have after_suffix := (skip_suffix named).trans word_suffix
    -- The kinds of items differ in how their body is read.
    have written {body : Body}
        (of_member : ∀ members, body.members? = some members
          → ∀ member ∈ members, .word member.word ∈ tokens)
        : WrittenIn ⟨attributes, word, body⟩ tokens :=
      ⟨word_suffix.subset List.mem_cons_self, attributes_in, of_member⟩
    split at read
    · obtain ⟨body, bodyRead, same⟩ := Option.bind_eq_some_iff.mp read
      cases same
      exact written fun members found member present =>
        after_suffix.subset (readStruct?_writtenIn bodyRead found member present)
    · obtain ⟨body, bodyRead, same⟩ := Option.bind_eq_some_iff.mp read
      cases same
      exact written fun members found => nomatch (readOther?_members? bodyRead).symm.trans found
    · obtain ⟨body, bodyRead, same⟩ := Option.bind_eq_some_iff.mp read
      cases same
      exact written fun members found => nomatch (readOther?_members? bodyRead).symm.trans found
    · nomatch read

/-- The words of an item: its name, those of its members, and those in its attributes are
well-formed.
-/
structure Item.WellFormed (item : Item) : Prop where
  name : item.word.WellFormed
  of_attribute : ∀ found ∈ item.attributes, WordsWellFormed found.tokens
  of_member : ∀ members, item.body.members? = some members
    → ∀ member ∈ members, member.word.WellFormed

/-- An item that a text holds consists of well-formed words. -/
theorem Item.parse?_wellFormed {source : String} {item : Item}
    (parsed : Item.parse? source = some item)
    : item.WellFormed := by
  obtain ⟨tokens, tokensRead, read⟩ := Option.bind_eq_some_iff.mp parsed
  have wellFormed := tokens?_wellFormed tokensRead
  have written := Item.ofTokens?_writtenIn read
  exact {
    name := wellFormed _ written.name
    of_attribute := fun found member => wellFormed.mono (written.of_attribute found member)
    of_member := fun members named member present =>
      wellFormed _ (written.of_member members named member present) }

end Catalog.Source
