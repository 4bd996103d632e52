import SparSomnong.Semantics.Run

/-! The language of the app: the locale of LanguageWrapper, the table of texts, the
suffix of the data fields, and the saved preference.

The table is a static map that every load overwrites when it comes. A load is
started by the constructor of LanguageConfig while there is no table, and by
every choice of a flag; the second kind sets the locale as well.
-/

set_option autoImplicit false

namespace SparSomnong.Localisation

open Semantics

/-- The flags, one for each table under assets/locale. -/
inductive Language where
  | en
  | km
  | zh
  deriving DecidableEq, Repr

namespace Language

def code : Language → String
  | en => "en"
  | km => "km"
  | zh => "zh"

def suffix : Language → String
  | en => "en"
  | km => "kh"
  | zh => "ch"

end Language

def languageKey (locale : String) : String :=
  if locale = "ch" then "ch" else if locale = "km" then "kh" else "en"

theorem languageKey_cases (locale : String) :
    languageKey locale = "ch" ∨ languageKey locale = "kh" ∨ languageKey locale = "en" := by
  unfold languageKey
  split
  · exact Or.inl rfl
  · split
    · exact Or.inr (Or.inl rfl)
    · exact Or.inr (Or.inr rfl)

inductive Load where
  | constructor (locale : String)
  | updateLocale (locale : String)
  deriving DecidableEq, Repr

namespace Load

def locale : Load → String
  | constructor locale => locale
  | updateLocale locale => locale

def wrapper : Load → Option String
  | constructor _ => none
  | updateLocale locale => some locale

end Load

/-- A table is known by the locale of its asset. The last two fields are history: the
flags chosen, and the loads in the order they were done. -/
structure Wrapper where
  locale : String
  localisedValues : Option String := none
  preference : Option String
  loads : List Load
  saves : List String := []
  selections : List Language := []
  completed : List Load := []
  deriving DecidableEq, Repr

inductive WrapperAction where
  | select (language : Language)
  | rebuild
  | loaded (index : Nat)
  | saved (index : Nat)
  deriving DecidableEq, Repr

def readLanguage (preference : Option String) : String := preference.getD "en"

namespace Wrapper

/-- The app comes up in the language saved before, and the first build starts a load. -/
def start (preference : Option Language) : Wrapper :=
  let locale := readLanguage (preference.map Language.code)
  { locale, preference := preference.map Language.code, loads := [.constructor locale] }

def rebuild (wrapper : Wrapper) : Wrapper :=
  match wrapper.localisedValues with
  | none => { wrapper with loads := wrapper.loads ++ [.constructor wrapper.locale] }
  | some _ => wrapper

def changeTo (saved : String) (language : Language) (wrapper : Wrapper) : Wrapper :=
  -- neither of the two is awaited
  { wrapper with
    saves := wrapper.saves ++ [saved]
    loads := wrapper.loads ++ [.updateLocale language.code] }

def changeToEn := changeTo "en"

def changeToKm := changeTo "km"

def changeToZh := changeTo "zh"

def onPressed (wrapper : Wrapper) : Language → Wrapper
  | .km => changeToKm .km wrapper
  | .en => changeToKm .en wrapper
  | .zh => changeToKm .zh wrapper

def loaded (wrapper : Wrapper) (load : Load) : Wrapper :=
  -- after `updateLocale` the wrapper is built again, with a table
  { wrapper with
    localisedValues := some load.locale
    locale := load.wrapper.getD wrapper.locale
    completed := wrapper.completed ++ [load] }

def step (wrapper : Wrapper) : WrapperAction → Option Wrapper
  | .select language => some { wrapper.onPressed language with
      selections := wrapper.selections ++ [language] }
  | .rebuild => some wrapper.rebuild
  | .loaded index =>
    match wrapper.loads[index]? with
    | some load => some (loaded { wrapper with loads := wrapper.loads.eraseIdx index } load)
    | none => none
  | .saved index =>
    match wrapper.saves[index]? with
    | some language => some { wrapper with
        preference := some language
        saves := wrapper.saves.eraseIdx index }
    | none => none

def Settled (wrapper : Wrapper) : Prop := wrapper.loads = [] ∧ wrapper.saves = []

/-- Locale, table, suffix and preference denote the language. -/
structure Denotes (wrapper : Wrapper) (language : Language) : Prop where
  locale : wrapper.locale = language.code
  table : wrapper.localisedValues = some language.code
  suffix : languageKey wrapper.locale = language.suffix
  preference : readLanguage wrapper.preference = language.code

def language (preference : Option Language) (wrapper : Wrapper) : Language :=
  wrapper.selections.getLast?.getD (preference.getD .en)

/-- Nothing was selected and the app did not come up in Chinese; or Khmer was selected
last, and of the loads the last one done is for Khmer, and so is the last one done of
those that set the locale. -/
def Consistent (preference : Option Language) (wrapper : Wrapper) : Prop :=
  match wrapper.selections.getLast? with
  | none => preference ≠ some .zh
  | some last => last = .km ∧ wrapper.completed.getLast?.map Load.locale = some "km" ∧
    (wrapper.completed.filterMap Load.wrapper).getLast? = some "km"

/-- Whatever a button is for, Khmer is saved. -/
theorem onPressed_eq (wrapper : Wrapper) (language : Language) :
    wrapper.onPressed language = changeTo "km" language wrapper := by
  cases language <;> rfl

structure Recorded (preference : Option Language) (wrapper : Wrapper) : Prop where
  locale : wrapper.locale = (wrapper.completed.filterMap Load.wrapper).getLast?.getD
    (start preference).locale
  table : wrapper.localisedValues = wrapper.completed.getLast?.map Load.locale
  begun : wrapper.loads ≠ [] ∨ wrapper.completed ≠ []
  saving : ∀ language ∈ wrapper.saves, language = "km"
  saved : wrapper.preference = some "km" ∨ wrapper.selections = [] ∨ wrapper.saves ≠ []
  updating : wrapper.selections = [] ∨
    ∃ load, (load ∈ wrapper.loads ∨ load ∈ wrapper.completed) ∧ load.wrapper.isSome
  unselected : wrapper.selections = [] → wrapper.saves = [] ∧
    wrapper.preference = preference.map Language.code ∧
    (∀ load ∈ wrapper.loads, load = .constructor (start preference).locale) ∧
    ∀ load ∈ wrapper.completed, load = .constructor (start preference).locale

namespace Recorded

variable {preference : Option Language} {wrapper next : Wrapper} {action : WrapperAction}

theorem start (preference : Option Language) : Recorded preference (Wrapper.start preference) := by
  constructor <;> simp [Wrapper.start]

/-- Constructors do not set the locale. -/
theorem unselected_locale (recorded : Recorded preference wrapper)
    (unselected : wrapper.selections = []) :
    wrapper.locale = (Wrapper.start preference).locale := by
  have constructors := (recorded.unselected unselected).2.2.2
  have none : wrapper.completed.filterMap Load.wrapper = [] := by
    rw [List.filterMap_eq_nil_iff]
    intro load member
    rw [constructors load member]
    rfl
  rw [recorded.locale, none]
  rfl

theorem select (recorded : Recorded preference wrapper) (language : Language) :
    Recorded preference { wrapper.onPressed language with
      selections := wrapper.selections ++ [language] } := by
  rw [onPressed_eq]
  constructor
  · exact recorded.locale
  · exact recorded.table
  · exact Or.inl (by simp [changeTo])
  · intro saved member
    rcases List.mem_append.mp member with old | new
    · exact recorded.saving saved old
    · exact List.mem_singleton.mp new
  · exact Or.inr (Or.inr (by simp [changeTo]))
  · exact Or.inr ⟨.updateLocale language.code, Or.inl (by simp [changeTo]), rfl⟩
  · intro empty
    simp at empty

theorem rebuild (recorded : Recorded preference wrapper) :
    Recorded preference wrapper.rebuild := by
  unfold Wrapper.rebuild
  split
  · constructor
    · exact recorded.locale
    · exact recorded.table
    · exact Or.inl (by simp)
    · exact recorded.saving
    · exact recorded.saved
    · apply recorded.updating.imp_right
      rintro ⟨load, member, updates⟩
      exact ⟨load, member.imp_left (List.mem_append_left _), updates⟩
    · intro empty
      obtain ⟨saves, same, loads, completed⟩ := recorded.unselected empty
      refine ⟨saves, same, ?_, completed⟩
      intro load member
      rcases List.mem_append.mp member with old | new
      · exact loads load old
      · rw [List.mem_singleton.mp new, recorded.unselected_locale empty]
  · exact recorded

theorem loaded {index : Nat} {load : Load} (recorded : Recorded preference wrapper)
    (found : wrapper.loads[index]? = some load) :
    Recorded preference
      (Wrapper.loaded { wrapper with loads := wrapper.loads.eraseIdx index } load) := by
  constructor
  · cases sets : load.wrapper with
    | none => simp [Wrapper.loaded, sets, recorded.locale]
    | some locale => simp [Wrapper.loaded, sets]
  · simp [Wrapper.loaded]
  · exact Or.inr (by simp [Wrapper.loaded])
  · exact recorded.saving
  · exact recorded.saved
  · apply recorded.updating.imp_right
    rintro ⟨other, pending | done, updates⟩
    · refine ⟨other, ?_, updates⟩
      obtain ⟨place, here⟩ := List.mem_iff_getElem?.mp pending
      by_cases same : place = index
      · rw [same, found] at here
        cases here
        exact Or.inr (by simp [Wrapper.loaded])
      · exact Or.inl (List.mem_eraseIdx_iff_getElem?.mpr ⟨place, same, here⟩)
    · exact ⟨other, Or.inr (List.mem_append_left _ done), updates⟩
  · intro empty
    obtain ⟨saves, same, loads, completed⟩ := recorded.unselected empty
    refine ⟨saves, same, ?_, ?_⟩
    · intro other member
      exact loads other (List.mem_of_mem_eraseIdx member)
    · intro other member
      rcases List.mem_append.mp member with old | new
      · exact completed other old
      · rw [List.mem_singleton.mp new]
        exact loads load (List.mem_of_getElem? found)

theorem step (recorded : Recorded preference wrapper)
    (taken : wrapper.step action = some next) : Recorded preference next := by
  cases action with
  | select language =>
    cases taken
    exact recorded.select language
  | rebuild =>
    cases taken
    exact recorded.rebuild
  | loaded index =>
    simp only [Wrapper.step] at taken
    split at taken
    · next load found =>
      cases taken
      exact recorded.loaded found
    · cases taken
  | saved index =>
    simp only [Wrapper.step] at taken
    split at taken
    · next language found =>
      cases taken
      have member := List.mem_of_getElem? found
      constructor
      · exact recorded.locale
      · exact recorded.table
      · exact recorded.begun
      · intro other still
        exact recorded.saving other (List.mem_of_mem_eraseIdx still)
      · exact Or.inl (congrArg some (recorded.saving language member))
      · exact recorded.updating
      · intro empty
        rw [(recorded.unselected empty).1] at member
        cases member
    · cases taken

theorem unselected_iff (recorded : Recorded preference wrapper) (settled : wrapper.Settled)
    (empty : wrapper.selections = []) :
    wrapper.Denotes (preference.getD .en) ↔ preference ≠ some .zh := by
  obtain ⟨saves, same, -, completed⟩ := recorded.unselected empty
  have locale := recorded.unselected_locale empty
  have code : (Wrapper.start preference).locale = (preference.getD .en).code := by
    cases preference <;> rfl
  have table : wrapper.localisedValues = some (preference.getD .en).code := by
    rw [recorded.table, ← code]
    cases last : wrapper.completed.getLast? with
    | none =>
      rw [List.getLast?_eq_none_iff] at last
      exact absurd last (recorded.begun.resolve_left (absurd settled.1))
    | some load =>
      rw [completed load (List.mem_of_getLast? last)]
      rfl
  -- only the suffix is left
  have suffix : languageKey (preference.getD .en).code = (preference.getD .en).suffix ↔
      preference ≠ some .zh := by
    rcases preference with _ | ⟨_ | _ | _⟩ <;> decide
  rw [← suffix]
  constructor
  · intro denotes
    rw [← denotes.locale]
    exact denotes.suffix
  · intro suffix
    refine ⟨locale.trans code, table, ?_, ?_⟩
    · rw [locale, code]
      exact suffix
    · rw [same]
      cases preference <;> rfl

theorem selected_iff (recorded : Recorded preference wrapper) (settled : wrapper.Settled)
    {last : Language} (selected : wrapper.selections.getLast? = some last) :
    wrapper.Denotes last ↔ last = .km ∧ wrapper.completed.getLast?.map Load.locale = some "km" ∧
      (wrapper.completed.filterMap Load.wrapper).getLast? = some "km" := by
  have nonempty : wrapper.selections ≠ [] := by
    intro empty
    simp [empty] at selected
  have saved : wrapper.preference = some "km" := by
    rcases recorded.saved with saved | empty | saving
    · exact saved
    · exact absurd empty nonempty
    · exact absurd settled.2 saving
  -- a choice has come to its end, so some load has set the locale
  have updated : wrapper.completed.filterMap Load.wrapper ≠ [] := by
    obtain ⟨load, pending | done, updates⟩ := recorded.updating.resolve_left nonempty
    · rw [settled.1] at pending
      cases pending
    · obtain ⟨locale, sets⟩ := Option.isSome_iff_exists.mp updates
      exact List.ne_nil_of_mem (List.mem_filterMap.mpr ⟨load, done, sets⟩)
  obtain ⟨locale, latest⟩ := List.getLast?_isSome.mpr updated |> Option.isSome_iff_exists.mp
  have placed : wrapper.locale = locale := by rw [recorded.locale, latest]; rfl
  rw [← recorded.table, latest]
  constructor
  · intro denotes
    have khmer : last = .km := by
      have written := denotes.preference
      rw [saved] at written
      cases last
      · exact absurd written (by decide)
      · rfl
      · exact absurd written (by decide)
    subst khmer
    exact ⟨rfl, denotes.table, congrArg some (placed.symm.trans denotes.locale)⟩
  · rintro ⟨rfl, table, same⟩
    have khmer := placed.trans (Option.some.inj same)
    refine ⟨khmer, table, ?_, ?_⟩
    · rw [khmer]
      rfl
    · rw [saved]
      rfl

end Recorded

end Wrapper

/-- In every run, once everything has settled, all four denote the language selected
last if and only if the history is consistent. -/
theorem denotes_iff_consistent {preference : Option Language} {actions : List WrapperAction}
    {final : Wrapper} (reached : run Wrapper.step (Wrapper.start preference) actions = some final)
    (settled : final.Settled) :
    final.Denotes (final.language preference) ↔ final.Consistent preference := by
  have recorded : Wrapper.Recorded preference final :=
    run_invariant_of_step (Wrapper.Recorded preference)
      (fun _ _ _ recorded taken => recorded.step taken) (Wrapper.Recorded.start preference) reached
  unfold Wrapper.language Wrapper.Consistent
  cases selected : final.selections.getLast? with
  | none => exact recorded.unselected_iff settled (List.getLast?_eq_none_iff.mp selected)
  | some last => exact recorded.selected_iff settled selected

def toKhmer : List WrapperAction := [.loaded 0, .select .km, .saved 0, .loaded 0]

theorem toKhmer_denotes :
    ∃ final, run Wrapper.step (Wrapper.start none) toKhmer = some final ∧
      final.Denotes (final.language none) :=
  ⟨_, rfl, (@denotes_iff_consistent none toKhmer _ rfl ⟨rfl, rfl⟩).mpr ⟨rfl, rfl, rfl⟩⟩

def toChinese : List WrapperAction := [.loaded 0, .select .zh, .saved 0, .loaded 0]

def racingLoads : List WrapperAction :=
  [.loaded 0, .select .km, .select .en, .saved 0, .saved 0, .loaded 1, .loaded 0]

/-- After Chinese was chosen, the fields are read in English and Khmer is saved; and where
the loads race, texts and locale are not those of the last choice. -/
theorem choices_notDenoted :
    (∃ final, run Wrapper.step (Wrapper.start none) toChinese = some final ∧ final.Settled ∧
      final.language none = .zh ∧ languageKey final.locale = "en" ∧
      final.preference = some "km" ∧ ¬ final.Denotes (final.language none)) ∧
    ∃ final, run Wrapper.step (Wrapper.start none) racingLoads = some final ∧ final.Settled ∧
      final.language none = .en ∧ final.locale = "km" ∧ final.localisedValues = some "km" ∧
      ¬ final.Denotes (final.language none) := by
  constructor
  · refine ⟨_, rfl, ⟨rfl, rfl⟩, rfl, rfl, rfl, ?_⟩
    intro denotes
    exact absurd denotes.suffix (by decide)
  · refine ⟨_, rfl, ⟨rfl, rfl⟩, rfl, rfl, rfl, ?_⟩
    intro denotes
    exact absurd denotes.locale (by decide)

end SparSomnong.Localisation
