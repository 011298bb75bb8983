import Catalog.Proofs.Annotated.Settings
import Catalog.Proofs.Source.PathGrammar

/-! How the settings of attributes are spelled.
The spelling is stated on the tokens of an attribute, without any of its readers: the key of a
setting, an equals sign and the literal that stands for the value; settings with commas between
them; parentheses around all. Each reader reads exactly what is spelled so.
-/

namespace Catalog.Annotated

open Outcome
open Source (EndsEntry Token Word plain)

variable {α β : Type}

/-- How values are spelled: by which tokens, before which others. -/
abbrev Spelling (α : Type) :=
  α → List Token → List Token → Prop

-----------------------------------------------------------------------------------------
-- Values
-----------------------------------------------------------------------------------------

/-- A text after an equals sign. -/
def TextSpelled : Spelling String := fun text taken _ =>
  ∃ joint, taken = [.mark '=' joint, .text text]

/-- A number of days after an equals sign. -/
def DaysSpelled : Spelling Days := fun days taken _ =>
  ∃ joint, taken = [.mark '=' joint, .integer days.toNat]

/-- A truth value after an equals sign. Nothing at all means that the key holds. -/
def FlagSpelled : Spelling Bool := fun value taken _ =>
  (taken = [] ∧ value = true)
    ∨ ∃ joint, taken = [.mark '=' joint, plain (if value then "true" else "false")]

/-- Names with commas between them and maybe one after the last. -/
inductive NamesSpelled : List Word → List Token → Prop
  | none : NamesSpelled [] []
  | last {word : Word} (named : word.isName) : NamesSpelled [word] [.word word]
  | more {word : Word} (joint : Bool) {words : List Word} {tokens : List Token}
      (named : word.isName) (others : NamesSpelled words tokens)
      : NamesSpelled (word :: words) (.word word :: .mark ',' joint :: tokens)

/-- Names in square brackets after an equals sign. -/
def ElementsSpelled : Spelling (List Word) := fun words taken _ =>
  ∃ joint names, NamesSpelled words names
    ∧ taken = .mark '=' joint :: .opening .square :: (names ++ [.closing .square])

/-- A path after an equals sign. -/
def PathSpelled : Spelling Source.Path := fun path taken after =>
  ∃ joint, taken = .mark '=' joint :: path.tokens ∧ path.Spelled after

-----------------------------------------------------------------------------------------
-- Settings
-----------------------------------------------------------------------------------------

/-- A setting that has a key: the key as a word that is not raw, and then the value. -/
def Keyed (key : α → String) (valueSpelled : Spelling α) : Spelling α :=
  fun setting taken after =>
    ∃ value, taken = plain (key setting) :: value ∧ valueSpelled setting value after

/-- The key that a setting is written with. -/
def CollectionSetting.key : CollectionSetting → String
  | .name _ => "name"
  | .ttlDays _ => "ttl_days"
  | .historyDays _ => "history_days"
  | .noHistory => "no_history"
  | .data _ => "data"
  | .permissions _ => "permissions"
  | .base _ => "extends"
  | .renameAll _ => "rename_all"

/-- How the value of a setting is spelled after its key. -/
def CollectionSetting.ValueSpelled : Spelling CollectionSetting
  | .name text | .data text | .permissions text | .renameAll text => TextSpelled text
  | .ttlDays days | .historyDays days => DaysSpelled days
  | .base path => PathSpelled path
  | .noHistory => fun taken _ => taken = []

/-- How a setting of the collection attribute is spelled. -/
def CollectionSetting.Spelled : Spelling CollectionSetting :=
  Keyed key ValueSpelled

/-- The key that a setting is written with. -/
def IndexSetting.key : IndexSetting → String
  | .name _ => "name"
  | .terms _ => "terms"
  | .values _ => "values"
  | .unique _ => "unique"
  | .serialized _ => "serialized"
  | .data _ => "data"
  | .permissions _ => "permissions"

/-- How the value of a setting is spelled after its key. -/
def IndexSetting.ValueSpelled : Spelling IndexSetting
  | .name text | .data text | .permissions text => TextSpelled text
  | .terms elements | .values elements => ElementsSpelled elements
  | .unique value | .serialized value => FlagSpelled value

/-- How a setting of the index attribute is spelled. -/
def IndexSetting.Spelled : Spelling IndexSetting :=
  Keyed key ValueSpelled

/-- The key that a setting is written with. -/
def FieldSetting.key : FieldSetting → String
  | .name _ => "name"
  | .skip => "skip"

/-- How the value of a setting is spelled after its key. -/
def FieldSetting.ValueSpelled : Spelling FieldSetting
  | .name text => TextSpelled text
  | .skip => fun taken _ => taken = []

/-- How a setting of the field attribute is spelled. -/
def FieldSetting.Spelled : Spelling FieldSetting :=
  Keyed key ValueSpelled

-----------------------------------------------------------------------------------------
-- Attributes
-----------------------------------------------------------------------------------------

/-- Settings with commas between them and maybe one after the last. -/
inductive SettingsSpelled (spelled : Spelling β) : List β → List Token → Prop
  | none : SettingsSpelled spelled [] []
  | last {setting : β} {entry : List Token} (first : spelled setting entry [])
      : SettingsSpelled spelled [setting] entry
  | more {setting : β} {entry : List Token} (joint : Bool) {settings : List β}
      {tokens : List Token} (first : spelled setting entry (.mark ',' joint :: tokens))
      (others : SettingsSpelled spelled settings tokens)
      : SettingsSpelled spelled (setting :: settings) (entry ++ .mark ',' joint :: tokens)

/-- Settings in parentheses, after which nothing follows. The bracket at the end is the one that
closes the first; that it is round is left to the text, of which brackets match throughout.
-/
def EnclosedSpelled (spelled : Spelling β) (settings : List β) (tokens : List Token) : Prop :=
  ∃ inside bracket, tokens = .opening .round :: (inside ++ [.closing bracket])
    ∧ Source.BracketsClosed 0 inside
    ∧ SettingsSpelled spelled settings inside

/-- The settings of an attribute. If it stands without parentheses, there are none. -/
def AttributeSpelled (spelled : Spelling β) (settings : List β) (tokens : List Token) : Prop :=
  (tokens = [] ∧ settings = []) ∨ EnclosedSpelled spelled settings tokens

-----------------------------------------------------------------------------------------
-- Reading values
-----------------------------------------------------------------------------------------

/-- Up to the end of an entry, exactly those values are read that are spelled there. -/
def Reader.Reads (read : Reader α) (spelled : Spelling α) : Prop :=
  ∀ tokens value after, EndsEntry after
    → (read tokens = .ok (value, after)
      ↔ ∃ taken, tokens = taken ++ after ∧ spelled value taken after)

theorem readText_reads : Reader.Reads readText TextSpelled := by
  intro tokens text after _
  constructor
  · intro read
    unfold readText at read
    split at read
    case h_1 joint _ _ =>
      cases read
      exact ⟨_, rfl, joint, rfl⟩
    case h_2 => cases read
  · rintro ⟨_, rfl, joint, rfl⟩
    rfl

theorem readDays_reads : Reader.Reads readDays DaysSpelled := by
  intro tokens days after _
  constructor
  · intro read
    unfold readDays at read
    split at read
    case h_1 joint given _ =>
      split at read
      case h_1 found fits =>
        cases read
        have written := Int.ofNat.inj (Number.uint32?_eq_some_iff.mp fits)
        exact ⟨[.mark '=' joint, .integer given], rfl, joint, by rw [written]⟩
      case h_2 => cases read
    case h_2 => cases read
  · rintro ⟨_, rfl, joint, rfl⟩
    have fits : Number.uint32? days.toNat = some days := Number.uint32?_eq_some_iff.mpr rfl
    rw [List.cons_append, List.singleton_append]
    unfold readDays
    simp only [fits]

theorem readFlag_reads : Reader.Reads readFlag FlagSpelled := by
  intro tokens value after ends
  constructor
  · intro read
    unfold readFlag at read
    split at read
    case h_1 joint _ | h_2 joint _ =>
      cases read
      exact ⟨_, rfl, .inr ⟨joint, rfl⟩⟩
    case h_3 => cases read
    case h_4 =>
      cases read
      exact ⟨[], rfl, .inl ⟨rfl, rfl⟩⟩
  · rintro ⟨_, rfl, ⟨rfl, rfl⟩ | ⟨joint, rfl⟩⟩
    · rcases ends with rfl | ⟨joint, later, rfl⟩ <;> rfl
    · cases value <;> rfl

/-- Names are read up to a bracket exactly if they are spelled before it. -/
theorem readNames_eq_ok {tokens after : List Token} {words : List Word}
    : readNames tokens = .ok (words, after)
      ↔ ∃ names, tokens = names ++ .closing .square :: after ∧ NamesSpelled words names := by
  constructor
  · intro read
    fun_induction readNames tokens generalizing words with
    | case1 =>
        cases read
        exact ⟨[], rfl, .none⟩
    | case2 word _ named =>
        cases read
        exact ⟨[.word word], rfl, .last named⟩
    | case4 word joint _ named ih =>
        obtain ⟨⟨others, last⟩, readOthers, same⟩ := bind_eq_ok.mp read
        cases same
        obtain ⟨names, rfl, spelled⟩ := ih readOthers
        exact ⟨.word word :: .mark ',' joint :: names, rfl, .more joint named spelled⟩
    | case3 | case5 | case6 => cases read
  · rintro ⟨names, rfl, spelled⟩
    induction spelled with
    | none => rfl
    | last named => exact if_pos named
    | more joint named _ ih =>
        rw [List.cons_append, List.cons_append, readNames, if_pos named, ih]
        rfl

theorem readElements_reads : Reader.Reads readElements ElementsSpelled := by
  intro tokens words after _
  constructor
  · intro read
    unfold readElements at read
    split at read
    case h_1 joint following =>
      obtain ⟨names, rfl, spelled⟩ := readNames_eq_ok.mp read
      exact ⟨.mark '=' joint :: .opening .square :: (names ++ [.closing .square]), by simp,
        joint, names, spelled, rfl⟩
    case h_2 => cases read
  · rintro ⟨_, rfl, joint, names, spelled, rfl⟩
    exact readNames_eq_ok.mpr ⟨names, by simp, spelled⟩

theorem readPath_reads : Reader.Reads readPath PathSpelled := by
  intro tokens path after ends
  constructor
  · intro read
    unfold readPath at read
    split at read
    case h_1 joint following =>
      split at read
      case h_1 found =>
        cases read
        obtain ⟨rfl, spelled⟩ := (Source.readPath?_eq_some ends).mp found
        exact ⟨_, rfl, joint, rfl, spelled⟩
      case h_2 => cases read
    case h_2 => cases read
  · rintro ⟨_, rfl, joint, rfl, spelled⟩
    have read := (Source.readPath?_eq_some ends).mpr ⟨rfl, spelled⟩
    simp only [List.cons_append, readPath, read]

-----------------------------------------------------------------------------------------
-- Reading settings
-----------------------------------------------------------------------------------------

/-- A value is made a setting exactly if it is read and the setting is the one it makes. -/
theorem Reader.Reads.setting {read : Reader α} {valueSpelled : Spelling α}
    (reads : read.Reads valueSpelled) {make : α → β} {spelled : Spelling β}
    (made : ∀ setting taken after, spelled setting taken after
      ↔ ∃ value, valueSpelled value taken after ∧ make value = setting)
    : (read.setting make).Reads spelled := by
  intro tokens setting after ends
  simp only [Reader.setting, bind_eq_ok, pure_eq_ok, Prod.exists, Prod.mk.injEq, made]
  constructor
  · rintro ⟨value, _, first, same, rfl⟩
    obtain ⟨taken, split, spelled⟩ := (reads _ _ _ ends).mp first
    exact ⟨taken, split, value, spelled, same⟩
  · rintro ⟨taken, split, value, spelled, same⟩
    exact ⟨value, after, (reads _ _ _ ends).mpr ⟨taken, split, spelled⟩, same, rfl⟩

/-- A key without a value is read as its setting. -/
theorem bare_reads {setting : α} {spelled : Spelling α}
    (bare : ∀ other taken after, spelled other taken after ↔ other = setting ∧ taken = [])
    : Reader.Reads (fun rest => .ok (setting, rest)) spelled := by
  intro tokens other after _
  simp only [bare]
  constructor
  · rintro ⟨⟩
    exact ⟨[], rfl, rfl, rfl⟩
  · rintro ⟨_, rfl, rfl, rfl⟩
    rfl

/-- A setting is read by its key exactly if it is spelled with the key and its value. Each reader
has to read the settings of its key, and each setting has to have a reader.
-/
theorem readKeyed_reads {kind : AttributeKind} {reader? : String → Option (Reader α)}
    {key : α → String} {valueSpelled : Spelling α}
    (reads : ∀ name reader, reader? name = some reader
      → reader.Reads fun setting taken after =>
        key setting = name ∧ valueSpelled setting taken after)
    (known : ∀ setting, (reader? (key setting)).isSome)
    (named : ∀ setting, Word.isName ⟨key setting, false⟩)
    : (readKeyed kind reader?).Reads (Keyed key valueSpelled) := by
  intro tokens setting after ends
  constructor
  · intro read
    unfold readKeyed at read
    split at read
    case h_2 => cases read
    case h_1 word rest =>
      split at read
      case isTrue => cases read
      case isFalse =>
        split at read
        case h_2 => cases read
        case h_1 reader chosen =>
          obtain ⟨name, raw⟩ := word
          cases raw with
          | true => cases chosen
          | false =>
              obtain ⟨value, rfl, rfl, spelled⟩ := (reads name reader chosen _ _ _ ends).mp read
              exact ⟨_, rfl, value, rfl, spelled⟩
  · rintro ⟨_, rfl, value, rfl, spelled⟩
    obtain ⟨reader, chosen⟩ := Option.isSome_iff_exists.mp (known setting)
    have read := (reads _ _ chosen (value ++ after) setting after ends).mpr
      ⟨value, rfl, rfl, spelled⟩
    have noKeyword : ¬(!Word.isName ⟨key setting, false⟩) = true := by simp [named setting]
    rw [List.cons_append, plain, readKeyed, if_neg noKeyword]
    simp only [Bool.false_eq_true, if_false, chosen, read]

/-- The reader of a key reads the settings that have it. -/
theorem CollectionSetting.reader?_reads (name : String) (reader : Reader CollectionSetting)
    (known : reader? name = some reader)
    : reader.Reads fun setting taken after =>
        setting.key = name ∧ setting.ValueSpelled taken after := by
  unfold reader? at known
  split at known
  case h_1 | h_5 | h_6 | h_8 =>
    cases known
    refine readText_reads.setting fun setting taken after => ?_
    cases setting <;> simp [key, ValueSpelled]
  case h_2 | h_3 =>
    cases known
    refine readDays_reads.setting fun setting taken after => ?_
    cases setting <;> simp [key, ValueSpelled]
  case h_4 =>
    cases known
    refine bare_reads fun setting taken after => ?_
    cases setting <;> simp [key, ValueSpelled]
  case h_7 =>
    cases known
    refine readPath_reads.setting fun setting taken after => ?_
    cases setting <;> simp [key, ValueSpelled]
  case h_9 => cases known

/-- A setting of the collection attribute is read exactly if it is spelled so. -/
theorem CollectionSetting.read_reads : Reader.Reads CollectionSetting.read Spelled := by
  refine readKeyed_reads reader?_reads (fun setting => ?_) fun setting => ?_
  · cases setting <;> rfl
  · cases setting <;> rfl

/-- The reader of a key reads the settings that have it. -/
theorem IndexSetting.reader?_reads (name : String) (reader : Reader IndexSetting)
    (known : reader? name = some reader)
    : reader.Reads fun setting taken after =>
        setting.key = name ∧ setting.ValueSpelled taken after := by
  unfold reader? at known
  split at known
  case h_1 | h_6 | h_7 =>
    cases known
    refine readText_reads.setting fun setting taken after => ?_
    cases setting <;> simp [key, ValueSpelled]
  case h_2 | h_3 =>
    cases known
    refine readElements_reads.setting fun setting taken after => ?_
    cases setting <;> simp [key, ValueSpelled]
  case h_4 | h_5 =>
    cases known
    refine readFlag_reads.setting fun setting taken after => ?_
    cases setting <;> simp [key, ValueSpelled]
  case h_8 => cases known

/-- A setting of the index attribute is read exactly if it is spelled so. -/
theorem IndexSetting.read_reads : Reader.Reads IndexSetting.read Spelled := by
  refine readKeyed_reads reader?_reads (fun setting => ?_) fun setting => ?_
  · cases setting <;> rfl
  · cases setting <;> rfl

/-- The reader of a key reads the settings that have it. -/
theorem FieldSetting.reader?_reads (name : String) (reader : Reader FieldSetting)
    (known : reader? name = some reader)
    : reader.Reads fun setting taken after =>
        setting.key = name ∧ setting.ValueSpelled taken after := by
  unfold reader? at known
  split at known
  case h_1 =>
    cases known
    refine readText_reads.setting fun setting taken after => ?_
    cases setting <;> simp [key, ValueSpelled]
  case h_2 =>
    cases known
    refine bare_reads fun setting taken after => ?_
    cases setting <;> simp [key, ValueSpelled]
  case h_3 => cases known

/-- A setting of the field attribute is read exactly if it is spelled so. -/
theorem FieldSetting.read_reads : Reader.Reads FieldSetting.read Spelled := by
  refine readKeyed_reads reader?_reads (fun setting => ?_) fun setting => ?_
  · cases setting <;> rfl
  · cases setting <;> rfl

-----------------------------------------------------------------------------------------
-- Reading attributes
-----------------------------------------------------------------------------------------

section Attributes

variable {read : Reader β} {key : β → String} {valueSpelled : Spelling β} {settings : List β}
  {tokens : List Token}

/-- Settings that are read one after another are spelled so, by recursion on the tokens. -/
theorem settingsSpelled_of_add (reads : read.Reads (Keyed key valueSpelled)) {before : List β}
    (added : addSettings read (fun settings setting => .ok (settings ++ [setting])) before tokens
      = .ok settings)
    : ∃ others, settings = before ++ others
        ∧ SettingsSpelled (Keyed key valueSpelled) others tokens := by
  fun_induction addSettings read
    (fun (settings : List β) setting => .ok (settings ++ [setting])) before tokens with
  | case1 before =>
      cases added
      exact ⟨[], (List.append_nil _).symm, .none⟩
  | case2 before token following ih =>
      obtain ⟨⟨setting, rest⟩, first, afterFirst⟩ := bind_eq_ok.mp added
      dsimp only [ok_bind] at afterFirst
      split at afterFirst
      case h_1 =>
        cases afterFirst
        obtain ⟨entry, split, spelled⟩ := (reads _ _ _ (.inl rfl)).mp first
        rw [split, List.append_nil]
        exact ⟨[setting], rfl, .last spelled⟩
      case h_2 joint later =>
        split at afterFirst
        case isFalse => cases afterFirst
        case isTrue shorter =>
          obtain ⟨others, rfl, spelledOthers⟩ := ih _ later shorter afterFirst
          obtain ⟨entry, split, spelled⟩ := (reads _ _ _ (.inr ⟨joint, later, rfl⟩)).mp first
          rw [split]
          exact ⟨setting :: others, by simp, .more joint spelled spelledOthers⟩
      case h_3 => cases afterFirst

/-- Settings that are spelled one after another are read so, by induction on the settings. -/
theorem SettingsSpelled.add (spelled : SettingsSpelled (Keyed key valueSpelled) settings tokens)
    (reads : read.Reads (Keyed key valueSpelled)) (before : List β)
    : addSettings read (fun settings setting => .ok (settings ++ [setting])) before tokens
      = .ok (before ++ settings) := by
  induction spelled generalizing before with
  | none => rw [addSettings, List.append_nil]
  | @last setting _ first =>
      have read := (reads _ _ _ (.inl rfl)).mpr ⟨_, rfl, first⟩
      obtain ⟨value, rfl, _⟩ := first
      rw [List.append_nil] at read
      rw [addSettings, read]
      rfl
  | @more setting _ joint settings tokens first _ ih =>
      have read := (reads _ _ _ (.inr ⟨joint, tokens, rfl⟩)).mpr ⟨_, rfl, first⟩
      obtain ⟨value, rfl, _⟩ := first
      have shorter : tokens.length ≤ (value ++ .mark ',' joint :: tokens).length := by
        rw [List.length_append, List.length_cons]
        omega
      rw [List.cons_append] at read ⊢
      rw [addSettings, read, ok_bind]
      simp only [ok_bind, if_pos shorter, ih, List.append_assoc, List.singleton_append]

/-- Tokens consist of settings exactly if these are spelled there. -/
theorem readSettings_eq_ok (reads : read.Reads (Keyed key valueSpelled))
    : readSettings read tokens = .ok settings
      ↔ SettingsSpelled (Keyed key valueSpelled) settings tokens := by
  constructor
  · intro consist
    obtain ⟨others, rfl, spelled⟩ := settingsSpelled_of_add reads consist
    exact spelled
  · intro spelled
    exact spelled.add reads []

/-- Settings in parentheses are read exactly if they are spelled there. -/
theorem inParentheses_readSettings_eq_ok (reads : read.Reads (Keyed key valueSpelled))
    : inParentheses (readSettings read) tokens = .ok settings
      ↔ EnclosedSpelled (Keyed key valueSpelled) settings tokens := by
  simp only [inParentheses_eq_ok, readSettings_eq_ok reads, Source.splitClosing_eq_some]
  constructor
  · rintro ⟨_, inside, rfl, ⟨closed, bracket, rfl⟩, spelled⟩
    exact ⟨inside, bracket, rfl, closed, spelled⟩
  · rintro ⟨inside, bracket, rfl, closed, spelled⟩
    exact ⟨_, inside, rfl, ⟨closed, bracket, rfl⟩, spelled⟩

/-- The settings of an attribute are read exactly if they are spelled there. -/
theorem attributeSettings_eq_ok (reads : read.Reads (Keyed key valueSpelled))
    : attributeSettings read tokens = .ok settings
      ↔ AttributeSpelled (Keyed key valueSpelled) settings tokens := by
  rw [attributeSettings, AttributeSpelled]
  cases tokens with
  | nil =>
      have unopened : ¬EnclosedSpelled (Keyed key valueSpelled) settings [] :=
        fun ⟨_, _, opened, _⟩ => nomatch opened
      simp [unopened, eq_comm]
  | cons token rest => simp [inParentheses_readSettings_eq_ok reads]

end Attributes

end Catalog.Annotated
