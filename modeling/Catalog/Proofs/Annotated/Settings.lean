import Catalog.Annotated.Attribute
import Catalog.Proofs.Outcome
import Mathlib.Data.List.Nodup

/-! Attributes as lists of settings.
Reading an attribute takes its settings one after another and adds each of them to those before.
So the attribute holds what its settings say together, whatever they are added to: of settings
that are repeated, the last one.
-/

namespace Catalog.Annotated

open Outcome
open Source (Token Word)

-----------------------------------------------------------------------------------------
-- Reading settings apart from adding them
-----------------------------------------------------------------------------------------

section Reading

variable {α β : Type} {read : Reader β} {add : α → β → Except Fault α} {given so_far : α}
  {tokens : List Token} {settings : List β}

/-- The settings that tokens consist of, whatever they mean together. -/
def readSettings (read : Reader β) (tokens : List Token) : Except Fault (List β) :=
  addSettings read (fun settings setting => .ok (settings ++ [setting])) [] tokens

/-- Tokens from which an attribute is made consist of settings, whatever these are added to; by
recursion on the tokens.
-/
theorem exists_settings (added : addSettings read add so_far tokens = .ok given)
    : ∃ settings : List β, ∀ {γ : Type} (add : γ → β → Except Fault γ) (so_far : γ),
        addSettings read add so_far tokens = settings.foldlM add so_far := by
  fun_induction addSettings read add so_far tokens with
  | case1 so_far =>
      refine ⟨[], fun add so_far => ?_⟩
      rw [addSettings, List.foldlM_nil]
      rfl
  | case2 so_far token following ih =>
      obtain ⟨⟨setting, rest⟩, first, afterFirst⟩ := bind_eq_ok.mp added
      obtain ⟨next, _, continued⟩ := bind_eq_ok.mp afterFirst
      split at continued
      case h_1 =>
        refine ⟨[setting], fun add so_far => ?_⟩
        rw [addSettings, first]
        rfl
      case h_2 joint later =>
        split at continued
        case isFalse => cases continued
        case isTrue shorter =>
          obtain ⟨settings, others⟩ := ih next later shorter continued
          refine ⟨setting :: settings, fun add so_far => ?_⟩
          rw [addSettings, first, ok_bind, List.foldlM_cons]
          simp only [others, if_pos shorter]
      case h_3 => cases continued

/-- Adding one setting after another to a list yields the list of all. -/
theorem foldlM_append (settings before : List β)
    : settings.foldlM (fun settings setting => .ok (settings ++ [setting])) before
      = (.ok (before ++ settings) : Except Fault (List β)) := by
  induction settings generalizing before with
  | nil =>
      rw [List.foldlM_nil, List.append_nil]
      rfl
  | cons setting rest ih =>
      rw [List.foldlM_cons, ok_bind, ih, List.append_assoc, List.singleton_append]

/-- Settings that tokens consist of are added one after another. -/
theorem addSettings_of_readSettings (consist : readSettings read tokens = .ok settings)
    (add : α → β → Except Fault α) (so_far : α)
    : addSettings read add so_far tokens = settings.foldlM add so_far := by
  obtain ⟨others, same⟩ := exists_settings consist
  rw [readSettings, same, foldlM_append, List.nil_append] at consist
  rw [same, Except.ok.inj consist]

/-- An attribute is made of tokens exactly if they consist of settings that can be added one
after another.
-/
theorem addSettings_eq_ok
    : addSettings read add so_far tokens = .ok given
      ↔ ∃ settings, readSettings read tokens = .ok settings
        ∧ settings.foldlM add so_far = .ok given := by
  constructor
  · intro added
    obtain ⟨settings, same⟩ := exists_settings added
    refine ⟨settings, ?_, (same add so_far).symm.trans added⟩
    rw [readSettings, same, foldlM_append, List.nil_append]
  · rintro ⟨settings, consist, added⟩
    rw [addSettings_of_readSettings consist, added]

/-- There are no settings exactly if there are no tokens. -/
theorem isEmpty_of_readSettings (consist : readSettings read tokens = .ok settings)
    : tokens.isEmpty = settings.isEmpty := by
  cases tokens with
  | nil =>
      rw [readSettings, addSettings] at consist
      cases consist
      rfl
  | cons token following =>
      cases settings with
      | cons => rfl
      | nil =>
          -- The first setting would be refused if no setting could be added.
          have added := addSettings_of_readSettings consist (fun _ _ => .error .unexpected) ()
          rw [addSettings] at added
          obtain ⟨_, _, added⟩ := bind_eq_ok.mp added
          obtain ⟨_, refused, _⟩ := bind_eq_ok.mp added
          cases refused

/-- What stands in parentheses is read if nothing follows them. -/
theorem inParentheses_eq_ok {read : List Token → Except Fault α} {value : α}
    : inParentheses read tokens = .ok value
      ↔ ∃ rest inside, tokens = .opening .round :: rest
        ∧ Source.splitClosing 0 rest = some (inside, [])
        ∧ read inside = .ok value := by
  constructor
  · intro enclosed
    unfold inParentheses at enclosed
    split at enclosed
    case h_2 => nomatch enclosed
    case h_1 rest =>
      split at enclosed
      case h_2 => nomatch enclosed
      case h_1 inside after split =>
        obtain ⟨found, foundRead, last⟩ := bind_eq_ok.mp enclosed
        split at last
        case isFalse => nomatch last
        case isTrue empty =>
          cases last
          rw [List.isEmpty_iff.mp empty] at split
          exact ⟨rest, inside, rfl, split, foundRead⟩
  · rintro ⟨rest, inside, rfl, split, found⟩
    simp only [inParentheses, split, found, ok_bind]
    rfl

/-- What is made of settings in parentheses is made of the settings that stand there. -/
theorem inParentheses_settings {make : List Token → Except Fault α}
    {ofSettings : List β → Except Fault α}
    (made : ∀ inside given, make inside = .ok given
      ↔ ∃ settings, readSettings read inside = .ok settings ∧ ofSettings settings = .ok given)
    : inParentheses make tokens = .ok given
      ↔ ∃ settings, inParentheses (readSettings read) tokens = .ok settings
        ∧ ofSettings settings = .ok given := by
  simp only [inParentheses_eq_ok, made]
  constructor
  · rintro ⟨rest, inside, opened, split, settings, consist, given⟩
    exact ⟨settings, ⟨rest, inside, opened, split, consist⟩, given⟩
  · rintro ⟨settings, ⟨rest, inside, opened, split, consist⟩, given⟩
    exact ⟨rest, inside, opened, split, settings, consist, given⟩

/-- The settings of an attribute, which may stand without parentheses. -/
def attributeSettings (read : Reader β) (tokens : List Token) : Except Fault (List β) :=
  if tokens.isEmpty then .ok [] else inParentheses (readSettings read) tokens

end Reading

-----------------------------------------------------------------------------------------
-- What settings say together
-----------------------------------------------------------------------------------------

section Together

variable {α β γ : Type} {so_far given : α} {settings : List β}

/-- The last value that one of the settings gives. -/
def lastGiven (select : β → Option γ) (settings : List β) : Option γ :=
  settings.reverse.findSome? select

theorem lastGiven_cons (select : β → Option γ) (setting : β) (rest : List β)
    : lastGiven select (setting :: rest) = (lastGiven select rest).or (select setting) := by
  rw [lastGiven, List.reverse_cons, List.findSome?_append, lastGiven]
  cases selected : select setting <;> simp [selected]

/-- A value that is given is given by a setting. -/
theorem mem_of_lastGiven {select : β → Option γ} {value : γ}
    (given : lastGiven select settings = some value)
    : ∃ setting ∈ settings, select setting = some value := by
  obtain ⟨setting, member, selected⟩ := List.exists_of_findSome?_eq_some given
  exact ⟨setting, List.mem_reverse.mp member, selected⟩

/-- If no key is repeated, the value of a key is the last one given. -/
theorem lastGiven_of_mem {key : β → String} (distinct : (settings.map key).Nodup)
    {select : β → Option γ} {setting : β} {value : γ} (member : setting ∈ settings)
    (selected : select setting = some value)
    (keyed : ∀ other, (select other).isSome → key other = key setting)
    : lastGiven select settings = some value := by
  cases found : lastGiven select settings with
  | none =>
      have unselected := List.findSome?_eq_none_iff.mp found setting (List.mem_reverse.mpr member)
      nomatch unselected.symm.trans selected
  | some last =>
      obtain ⟨other, present, otherSelected⟩ := mem_of_lastGiven found
      have same := keyed other (Option.isSome_of_eq_some otherSelected)
      obtain rfl := List.inj_on_of_nodup_map distinct present member same
      exact otherSelected.symm.trans selected

variable {put : α → β → α}

/-- What is kept of the last setting that gives it is the last value given, by induction on the
settings.
-/
theorem foldl_lastGiven {get : α → Option γ} {select : β → Option γ}
    (step : ∀ so_far setting, get (put so_far setting) = (select setting).or (get so_far))
    : get (settings.foldl put so_far) = (lastGiven select settings).or (get so_far) := by
  induction settings generalizing so_far with
  | nil => rfl
  | cons setting rest ih => rw [List.foldl_cons, ih, step, lastGiven_cons, Option.or_assoc]

/-- What is replaced by each setting that gives it is the last value given, by induction on the
settings.
-/
theorem foldl_lastGiven_getD {get : α → γ} {select : β → Option γ}
    (step : ∀ so_far setting, get (put so_far setting) = (select setting).getD (get so_far))
    : get (settings.foldl put so_far) = (lastGiven select settings).getD (get so_far) := by
  induction settings generalizing so_far with
  | nil => rfl
  | cons setting rest ih => rw [List.foldl_cons, ih, step, lastGiven_cons, Option.getD_or]

/-- What any setting can set is set if one of them does, by induction on the settings. -/
theorem foldl_any {get : α → Bool} {test : β → Bool}
    (step : ∀ so_far setting, get (put so_far setting) = (test setting || get so_far))
    : get (settings.foldl put so_far) = (settings.any test || get so_far) := by
  induction settings generalizing so_far with
  | nil => rfl
  | cons setting rest ih =>
      rw [List.foldl_cons, ih, step, List.any_cons, Bool.or_left_comm, Bool.or_assoc]

/-- Settings can be added exactly if each of them is sound, by induction on the settings. -/
theorem foldlM_eq_ok {add : α → β → Except Fault α} {sound : β → Prop}
    (step : ∀ so_far setting next,
      add so_far setting = .ok next ↔ sound setting ∧ put so_far setting = next)
    : settings.foldlM add so_far = .ok given
      ↔ (∀ setting ∈ settings, sound setting) ∧ settings.foldl put so_far = given := by
  induction settings generalizing so_far with
  | nil =>
      rw [List.foldlM_nil, pure_eq_ok, List.foldl_nil]
      exact ⟨fun same => ⟨nofun, same⟩, fun added => added.2⟩
  | cons setting rest ih =>
      rw [List.foldlM_cons, bind_eq_ok, List.foldl_cons, List.forall_mem_cons]
      simp only [step, ih]
      constructor
      · rintro ⟨_, ⟨first, rfl⟩, others, added⟩
        exact ⟨⟨first, others⟩, added⟩
      · rintro ⟨⟨first, others⟩, added⟩
        exact ⟨_, ⟨first, rfl⟩, others, added⟩

end Together

end Catalog.Annotated
