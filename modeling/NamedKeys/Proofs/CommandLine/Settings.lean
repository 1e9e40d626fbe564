import Mathlib.Data.Bool.AllAny
import Mathlib.Data.List.Forall2
import Mathlib.Data.List.Induction
import Mathlib.Tactic.ByContra
import NamedKeys.CommandLine.Command
import NamedKeys.Keychain
import NamedKeys.Proofs.Frame
import NamedKeys.Proofs.Text.Words

/-!
# Settings of keychains

A text spells a setting if it has an equality sign: the key stands before the first one, and the value after
it, both with blanks around (`Spells`).  The texts given for settings are refused if one of them spells none,
and else they come to a table in which each key that is spelled has the value that the last text gives it
(`IsFolded`).  Only the order of the texts of one key counts (`Interchanged.lookup_eq`), and the platform's
keychain is that of the last user who is named:

    settings_last_wins
-/

namespace NamedKeys

namespace CommandLine

theorem collectSettings_concat (settings : List (String × String)) (last : String × String) :
    collectSettings (settings ++ [last]) = (collectSettings settings).put last.1 last.2 :=
  List.foldl_concat ..

/-- The table of settings finds the last value of a key. -/
theorem lookup_collectSettings (settings : List (String × String)) (key : String) :
    (collectSettings settings).lookup key = settings.reverse.lookup key := by
  induction settings using List.reverseRecOn with
  | nil => rfl
  | append_singleton settings last ih =>
    rw [collectSettings_concat, Table.lookup_put, ih, List.reverse_concat, List.lookup_cons]
    cases key == last.1 <;> rfl

theorem nodup_collectSettings (settings : List (String × String)) :
    ((collectSettings settings).map Prod.fst).Nodup := by
  induction settings using List.reverseRecOn with
  | nil => exact List.nodup_nil
  | append_singleton settings last ih =>
    rw [collectSettings_concat]
    exact Table.nodup_keys_put ih last.1 last.2

/-! ## One text -/

/-- A text spells a setting: its key stands before the first equality sign and its value after it, both
with blanks around. -/
def Spells (text key value : String) : Prop :=
  ∃ before after, text.toList = before ++ '=' :: after ∧ '=' ∉ before ∧
    Text.Trims before key.toList ∧ Text.Trims after value.toList

/-- Why a text without an equality sign is no setting. -/
def noSetting : UsageFault :=
  .invalid .setting "not enough values to unpack (expected 2, got 1)"

theorem asSetting_of_append {text : String} {before after : List Char} (h : '=' ∉ before)
    (htext : text.toList = before ++ '=' :: after) : (Given.text text).asSetting =
      .ok (String.ofList (Text.trim before), String.ofList (Text.trim after)) := by
  have hasked : (Given.text text).asText = .ok text := rfl
  rw [Given.asSetting, hasked, ok_bind, htext, Text.cut_append h]
  rfl

theorem asSetting_of_not_mem {text : String} (h : '=' ∉ text.toList) :
    readAs .setting (Given.text text).asSetting = .error noSetting := by
  have hasked : (Given.text text).asText = .ok text := rfl
  rw [Given.asSetting, hasked, ok_bind, Text.cut_of_not_mem h]
  rfl

/-- A text is read as the setting that it spells. -/
theorem asSetting_eq_ok_iff {text key value : String} :
    (Given.text text).asSetting = .ok (key, value) ↔ Spells text key value := by
  constructor
  · intro h
    by_cases hmem : '=' ∈ text.toList
    · obtain ⟨before, after, htext, hbefore⟩ := List.eq_append_cons_of_mem hmem
      rw [asSetting_of_append hbefore htext] at h
      obtain ⟨rfl, rfl⟩ := Prod.mk.inj (Except.ok.inj h)
      exact ⟨before, after, htext, hbefore, Text.trims_iff.2 String.toList_ofList.symm,
        Text.trims_iff.2 String.toList_ofList.symm⟩
    · have hread := asSetting_of_not_mem hmem
      rw [h] at hread
      cases hread
  · rintro ⟨before, after, htext, hbefore, hkey, hvalue⟩
    rw [asSetting_of_append hbefore htext, Text.trims_iff.1 hkey, Text.trims_iff.1 hvalue,
      String.ofList_toList, String.ofList_toList]

/-- A text spells a setting if it has an equality sign. -/
theorem exists_spells_iff {text : String} :
    (∃ key value, Spells text key value) ↔ '=' ∈ text.toList := by
  constructor
  · rintro ⟨key, value, before, after, htext, -⟩
    rw [htext]
    exact List.mem_append_right before List.mem_cons_self
  · intro hmem
    obtain ⟨before, after, htext, hbefore⟩ := List.eq_append_cons_of_mem hmem
    exact ⟨_, _, asSetting_eq_ok_iff.1 (asSetting_of_append hbefore htext)⟩

/-- And it spells only one. -/
theorem Spells.unique {text key value key' value' : String} (h : Spells text key value)
    (h' : Spells text key' value') : key = key' ∧ value = value' := by
  rw [← asSetting_eq_ok_iff] at h h'
  exact Prod.mk.inj (Except.ok.inj (h.symm.trans h'))

/-! ## All texts -/

/-- Texts spell settings, one each. -/
abbrev SpellAll (texts : List String) (settings : List (String × String)) : Prop :=
  List.Forall₂ (fun text setting => Spells text setting.1 setting.2) texts settings

theorem exists_spellAll {texts : List String} (h : ∀ text ∈ texts, '=' ∈ text.toList) :
    ∃ settings, SpellAll texts settings := by
  induction texts with
  | nil => exact ⟨[], .nil⟩
  | cons text texts ih =>
    obtain ⟨key, value, htext⟩ := exists_spells_iff.2 (h text List.mem_cons_self)
    obtain ⟨settings, hsettings⟩ := ih fun other hother => h other (List.mem_cons_of_mem _ hother)
    exact ⟨(key, value) :: settings, .cons htext hsettings⟩

theorem SpellAll.mapM_asSetting {texts : List String} {settings : List (String × String)}
    (h : SpellAll texts settings) :
    (texts.mapM fun text => readAs .setting (Given.text text).asSetting) = .ok settings := by
  induction h with
  | nil => rfl
  | cons htext _ ih =>
    rw [List.mapM_cons, asSetting_eq_ok_iff.2 htext, ih]
    rfl

theorem mapM_asSetting_of_not_mem {texts : List String} {text : String} (htext : text ∈ texts)
    (h : '=' ∉ text.toList) :
    (texts.mapM fun text => readAs .setting (Given.text text).asSetting) = .error noSetting := by
  induction texts with
  | nil => cases htext
  | cons first texts ih =>
    rw [List.mapM_cons]
    by_cases hfirst : '=' ∈ first.toList
    · obtain ⟨key, value, hspells⟩ := exists_spells_iff.2 hfirst
      have hrest : text ∈ texts := by
        rcases List.mem_cons.1 htext with rfl | hrest
        · exact absurd hfirst h
        · exact hrest
      rw [asSetting_eq_ok_iff.2 hspells, ih hrest]
      rfl
    · rw [asSetting_of_not_mem hfirst]
      rfl

/-- Texts that spell settings are read as these. -/
theorem ofArguments_of_spellAll (world : World) {arguments : Arguments}
    {settings : List (String × String)} (h : SpellAll (arguments.values .setting) settings) :
    ∃ general, General.ofArguments world arguments = .ok general ∧
      general.settings = collectSettings settings := by
  rw [General.ofArguments, h.mapM_asSetting]
  exact ⟨_, rfl, rfl⟩

/-- Texts of which one spells no setting are refused. -/
theorem ofArguments_of_not_mem (world : World) {arguments : Arguments} {text : String}
    (htext : text ∈ arguments.values .setting) (h : '=' ∉ text.toList) :
    General.ofArguments world arguments = .error noSetting := by
  rw [General.ofArguments, mapM_asSetting_of_not_mem htext h]
  rfl

/-! ## The last text of a key -/

/-- The last of the texts that spell a key gives it a value. -/
def IsLast (texts : List String) (key value : String) : Prop :=
  ∃ earlier text later, texts = earlier ++ text :: later ∧ Spells text key value ∧
    ∀ other ∈ later, ∀ value', ¬ Spells other key value'

theorem isLast_nil {key value : String} : ¬ IsLast [] key value := by
  rintro ⟨earlier, text, later, htexts, -⟩
  cases earlier <;> cases htexts

/-- The first text gives a value to a key that no other one spells. -/
theorem isLast_cons_iff {text : String} {texts : List String} {key value : String} :
    IsLast (text :: texts) key value ↔ IsLast texts key value ∨
      (∀ other ∈ texts, ∀ value', ¬ Spells other key value') ∧ Spells text key value := by
  constructor
  · rintro ⟨earlier, last, later, htexts, hlast, hlater⟩
    cases earlier with
    | nil =>
      obtain ⟨rfl, rfl⟩ := List.cons.inj htexts
      exact .inr ⟨hlater, hlast⟩
    | cons first earlier => exact .inl ⟨earlier, last, later, (List.cons.inj htexts).2, hlast, hlater⟩
  · rintro (⟨earlier, last, later, rfl, hlast, hlater⟩ | ⟨hlater, hlast⟩)
    · exact ⟨text :: earlier, last, later, rfl, hlast, hlater⟩
    · exact ⟨[], text, texts, rfl, hlast, hlater⟩

theorem lookup_reverse_cons (settings : List (String × String)) (first : String × String) (key : String) :
    (first :: settings).reverse.lookup key =
      (settings.reverse.lookup key).or (if key = first.1 then some first.2 else none) := by
  rw [List.reverse_cons, List.lookup_append, List.lookup_cons]
  by_cases h : key = first.1
  · rw [if_pos h, beq_iff_eq.2 h]
  · rw [if_neg h, beq_false_of_ne h]
    rfl

section

variable {texts : List String} {settings : List (String × String)} (h : SpellAll texts settings)

include h

/-- A key has no value among settings if no text spells it. -/
theorem SpellAll.lookup_eq_none_iff {key : String} :
    settings.reverse.lookup key = none ↔ ∀ text ∈ texts, ∀ value, ¬ Spells text key value := by
  induction h with
  | nil => exact iff_of_true rfl nofun
  | @cons text first texts settings htext _ ih =>
    rw [lookup_reverse_cons, Option.or_eq_none_iff, ih, List.forall_mem_cons, and_comm]
    refine and_congr_left fun _ => ?_
    constructor
    · rintro hnone value hspells
      rw [if_pos (hspells.unique htext).1] at hnone
      cases hnone
    · intro hnone
      refine if_neg ?_
      rintro rfl
      exact hnone first.2 htext

/-- The last value of a key among settings is the one that the last text gives it. -/
theorem SpellAll.lookup_eq_some_iff {key value : String} :
    settings.reverse.lookup key = some value ↔ IsLast texts key value := by
  induction h with
  | nil => exact iff_of_false nofun isLast_nil
  | @cons text first texts settings htext hrest ih =>
    have hfirst : (if key = first.1 then some first.2 else none) = some value ↔
        Spells text key value := by
      rw [Option.ite_none_right_eq_some, Option.some.injEq]
      constructor
      · rintro ⟨rfl, rfl⟩
        exact htext
      · exact fun hspells => ⟨(hspells.unique htext).1, (hspells.unique htext).2.symm⟩
    rw [lookup_reverse_cons, Option.or_eq_some_iff, ih, SpellAll.lookup_eq_none_iff hrest,
      isLast_cons_iff, hfirst]

end

/-- A table has the keys that texts spell, once each and with the values that the last texts give them. -/
structure IsFolded (texts : List String) (table : Table String String) : Prop where
  distinct : (table.map Prod.fst).Nodup
  keys : ∀ key, key ∈ table.map Prod.fst ↔ ∃ text ∈ texts, ∃ value, Spells text key value
  values : ∀ key value, table.lookup key = some value ↔ IsLast texts key value

theorem SpellAll.isFolded {texts : List String} {settings : List (String × String)}
    (h : SpellAll texts settings) : IsFolded texts (collectSettings settings) where
  distinct := nodup_collectSettings settings
  keys key := by
    rw [← not_iff_not, ← Table.lookup_eq_none_iff, lookup_collectSettings, h.lookup_eq_none_iff]
    simp only [not_exists, not_and]
  values key value := by rw [lookup_collectSettings, h.lookup_eq_some_iff]

/-! ## The order of texts -/

/-- Settings in another order, which those of one key keep. -/
inductive Interchanged : List (String × String) → List (String × String) → Prop
  | nil : Interchanged [] []
  | cons (first : String × String) {settings others : List (String × String)}
      (h : Interchanged settings others) : Interchanged (first :: settings) (first :: others)
  | swap {first second : String × String} (h : first.1 ≠ second.1) (settings : List (String × String)) :
      Interchanged (first :: second :: settings) (second :: first :: settings)
  | trans {settings middle others : List (String × String)} (h : Interchanged settings middle)
      (h' : Interchanged middle others) : Interchanged settings others

/-- Settings whose keys are all different may stand in any order. -/
theorem Interchanged.of_perm {settings others : List (String × String)} (h : settings.Perm others)
    (hkeys : (settings.map Prod.fst).Nodup) : Interchanged settings others := by
  induction h with
  | nil => exact .nil
  | cons first _ ih => exact .cons first (ih (List.nodup_cons.1 hkeys).2)
  | swap first second settings =>
    refine .swap (fun heq => (List.nodup_cons.1 hkeys).1 ?_) settings
    rw [heq]
    exact List.mem_cons_self
  | trans hfirst _ ih ih' => exact (ih hkeys).trans (ih' ((hfirst.map Prod.fst).nodup_iff.1 hkeys))

/-- The last value of each key stays. -/
theorem Interchanged.lookup_eq {settings others : List (String × String)} (h : Interchanged settings others)
    (key : String) : settings.reverse.lookup key = others.reverse.lookup key := by
  induction h with
  | nil => rfl
  | cons first _ ih => rw [lookup_reverse_cons, lookup_reverse_cons, ih]
  | @swap first second hne settings =>
    rw [lookup_reverse_cons, lookup_reverse_cons, lookup_reverse_cons, lookup_reverse_cons,
      Option.or_assoc, Option.or_assoc]
    by_cases hkey : key = first.1
    · rw [if_neg (hkey ▸ hne), Option.none_or, Option.or_none]
    · rw [if_neg hkey, Option.none_or, Option.or_none]
  | trans _ _ ih ih' => exact ih.trans ih'

/-- A key and a value that can be joined by an equality sign. -/
structure IsJoinable (setting : String × String) : Prop where
  key : Text.IsTrimmed setting.1.toList
  value : Text.IsTrimmed setting.2.toList
  noSign : '=' ∉ setting.1.toList

def joined (setting : String × String) : String :=
  setting.1 ++ "=" ++ setting.2

theorem isJoinable_of_no_blank {setting : String × String}
    (hblank : ∀ c ∈ setting.1.toList ++ setting.2.toList, Text.isBlank c = false)
    (hsign : '=' ∉ setting.1.toList) : IsJoinable setting where
  key := Text.isTrimmed_of_no_blank fun c hc => hblank c (List.mem_append_left _ hc)
  value := Text.isTrimmed_of_no_blank fun c hc => hblank c (List.mem_append_right _ hc)
  noSign := hsign

theorem IsJoinable.spells {setting : String × String} (h : IsJoinable setting) :
    Spells (joined setting) setting.1 setting.2 := by
  refine ⟨setting.1.toList, setting.2.toList, ?_, h.noSign, Text.trims_iff.2 (Text.trim_eq_self h.key),
    Text.trims_iff.2 (Text.trim_eq_self h.value)⟩
  rw [joined, String.toList_append, String.toList_append, List.append_assoc]
  rfl

theorem spellAll_joined {settings : List (String × String)} (h : ∀ setting ∈ settings, IsJoinable setting) :
    SpellAll (settings.map joined) settings := by
  rw [SpellAll, List.forall₂_map_left_iff, List.forall₂_same]
  exact fun setting hsetting => (h setting hsetting).spells

theorem Interchanged.forall_iff {settings others : List (String × String)} (h : Interchanged settings others)
    {P : String × String → Prop} : (∀ setting ∈ settings, P setting) ↔ ∀ setting ∈ others, P setting := by
  induction h with
  | nil => rfl
  | cons first _ ih => rw [List.forall_mem_cons, List.forall_mem_cons, ih]
  | swap hne settings => simp only [List.forall_mem_cons, and_left_comm]
  | trans _ _ ih ih' => exact ih.trans ih'

/-! ## Where settings are given and used -/

/-- Texts that follow a word for settings are texts of settings, whatever words follow. -/
theorem read_settings {word : String} (hword : word ∈ Parameter.setting.words) (texts rest : List String) :
    Arguments.read generalOptions false none (texts.flatMap (fun text => [word, text]) ++ rest) =
      (Arguments.read generalOptions false none rest).map
        (Arguments.prepend (texts.map fun text => (.setting, text))) := by
  have hoption : word ≠ "--" ∧ (word.toList.head? = some '-' ∧ word ≠ "-") ∧
      Arguments.readOption generalOptions word = .ok ([], some (.setting, word)) := by
    rcases List.mem_pair.1 hword with rfl | rfl <;> exact ⟨by decide, by decide, rfl⟩
  obtain ⟨hend, hhyphen, hread⟩ := hoption
  induction texts with
  | nil =>
    rw [List.flatMap_nil, List.nil_append]
    cases Arguments.read generalOptions false none rest <;> rfl
  | cons text texts ih =>
    rw [List.flatMap_cons, List.append_assoc, List.cons_append, List.singleton_append, Arguments.read]
    dsimp only
    rw [if_neg hend, if_pos hhyphen, hread, ok_bind]
    dsimp only
    rw [Arguments.read, ih]
    cases Arguments.read generalOptions false none rest <;> rfl

theorem values_settings (texts : List String) (arguments : Arguments) :
    (arguments.prepend (texts.map fun text => (.setting, text))).values .setting =
      texts ++ arguments.values .setting := by
  have hfilter : (texts.map fun text => (Parameter.setting, text)).filter (·.1 = .setting) =
      texts.map fun text => (.setting, text) := by
    rw [List.filter_eq_self]
    intro option hoption
    obtain ⟨text, -, rfl⟩ := List.mem_map.1 hoption
    rfl
  rw [Arguments.values, Arguments.prepend, List.filter_append, hfilter, List.map_append, List.map_map]
  exact congrArg (· ++ arguments.values .setting) (List.map_id texts)

end CommandLine

/-- The platform's keychain is that of the user whom settings name, or else of the one whom the system knows. -/
theorem Keychain.runOn_ofBackend_system (settings : Table String String) (world : World) :
    ((ofBackend .system settings).runOn world).1 =
      .ok (.system ((settings.lookup "username").getD (userName world))) := by
  rw [ofBackend]
  cases settings.lookup "username" <;> rfl

namespace CommandLine

/-- With a table of settings the platform's keychain is that of the last user whom texts name, or else of
the one whom the system knows. -/
structure ChoosesUser (texts : List String) (table : Table String String) : Prop where
  named : ∀ user, IsLast texts "username" user → ∀ world,
    ((Keychain.ofBackend .system table).runOn world).1 = .ok (.system user)
  unnamed : (∀ text ∈ texts, ∀ user, ¬ Spells text "username" user) → ∀ world,
    ((Keychain.ofBackend .system table).runOn world).1 = .ok (.system (Keychain.userName world))

theorem IsFolded.choosesUser {texts : List String} {table : Table String String}
    (h : IsFolded texts table) : ChoosesUser texts table where
  named user huser world := by
    rw [Keychain.runOn_ofBackend_system, (h.values _ _).2 huser]
    rfl
  unnamed hnone world := by
    have hkey : "username" ∉ table.map Prod.fst := by
      rw [h.keys]
      rintro ⟨text, htext, user, hspells⟩
      exact hnone text htext user hspells
    rw [Keychain.runOn_ofBackend_system, Table.lookup_eq_none_iff.2 hkey]
    rfl

/-- The texts of settings are refused exactly if one of them has no equality sign.  Else they come to a table
of the keys that they spell, each with the value of the last text that spells it, and the platform's keychain
is that of the last user whom they name.  Of joined settings each key has its last value, and so it has in any
other order that settings of one key keep.  Any texts can be given in words, whatever words follow. -/
theorem settings_last_wins (world : World) (arguments : Arguments) :
    ((∃ text ∈ arguments.values .setting, '=' ∉ text.toList) ↔
      General.ofArguments world arguments = .error noSetting) ∧
    ((∀ text ∈ arguments.values .setting, '=' ∈ text.toList) →
      ∃ general, General.ofArguments world arguments = .ok general ∧
        IsFolded (arguments.values .setting) general.settings ∧
        ChoosesUser (arguments.values .setting) general.settings) ∧
    (∀ settings, (∀ setting ∈ settings, IsJoinable setting) →
      arguments.values .setting = settings.map joined →
      ∃ general, General.ofArguments world arguments = .ok general ∧
        (∀ key, general.settings.lookup key = settings.reverse.lookup key) ∧
        ∀ (others : List (String × String)) (reordered : Arguments),
          Interchanged settings others ∨ (settings.map Prod.fst).Nodup ∧ settings.Perm others →
          reordered.values .setting = others.map joined →
          ∃ same, General.ofArguments world reordered = .ok same ∧
            ∀ key, same.settings.lookup key = general.settings.lookup key) ∧
    ∀ word ∈ Parameter.setting.words, ∀ texts rest : List String,
      Arguments.read generalOptions false none rest = .ok arguments →
      ∃ read, Arguments.read generalOptions false none
          (texts.flatMap (fun text => [word, text]) ++ rest) = .ok read ∧
        read.values .setting = texts ++ arguments.values .setting := by
  refine ⟨?refused, ?folded, ?joined, ?words⟩
  case refused =>
    constructor
    · rintro ⟨text, htext, hsign⟩
      exact ofArguments_of_not_mem world htext hsign
    · intro herror
      by_contra hall
      simp only [not_exists, not_and, not_not] at hall
      obtain ⟨settings, hsettings⟩ := exists_spellAll hall
      obtain ⟨general, hgeneral, -⟩ := ofArguments_of_spellAll world hsettings
      rw [herror] at hgeneral
      cases hgeneral
  case folded =>
    intro hall
    obtain ⟨settings, hsettings⟩ := exists_spellAll hall
    obtain ⟨general, hgeneral, htable⟩ := ofArguments_of_spellAll world hsettings
    have hfolded : IsFolded (arguments.values .setting) general.settings := htable ▸ hsettings.isFolded
    exact ⟨general, hgeneral, hfolded, hfolded.choosesUser⟩
  case joined =>
    intro settings hjoinable hvalues
    obtain ⟨general, hgeneral, htable⟩ :=
      ofArguments_of_spellAll world (hvalues ▸ spellAll_joined hjoinable)
    refine ⟨general, hgeneral, fun key => by rw [htable, lookup_collectSettings],
      fun others reordered horder hothers => ?_⟩
    have horder : Interchanged settings others := by
      rcases horder with horder | ⟨hkeys, hperm⟩
      · exact horder
      · exact .of_perm hperm hkeys
    obtain ⟨same, hsame, hothertable⟩ :=
      ofArguments_of_spellAll world (hothers ▸ spellAll_joined (horder.forall_iff.1 hjoinable))
    refine ⟨same, hsame, fun key => ?_⟩
    rw [htable, hothertable, lookup_collectSettings, lookup_collectSettings, horder.lookup_eq]
  case words =>
    intro word hword texts rest hread
    exact ⟨_, by rw [read_settings hword, hread]; rfl, values_settings texts arguments⟩

/-- Of two users the last counts, whose name keeps its equality sign, also when settings of other keys stand
elsewhere.  A text without the sign is refused. -/
theorem settings_last_wins_users :
    (∃ general, General.ofArguments World.bare
        ⟨[(.setting, "username=a"), (.quiet, ""), (.setting, " username = b=c ")], []⟩ = .ok general ∧
      general.settings.lookup "username" = some "b=c" ∧
      ((Keychain.ofBackend .system general.settings).runOn World.bare).1 = .ok (.system "b=c")) ∧
    (∃ general same,
      General.ofArguments World.bare ⟨[(.setting, "k=1"), (.setting, "k=2"), (.setting, "l=3")], []⟩ =
        .ok general ∧
      General.ofArguments World.bare ⟨[(.setting, "k=1"), (.setting, "l=3"), (.setting, "k=2")], []⟩ =
        .ok same ∧
      general.settings.lookup "k" = some "2" ∧ same.settings.lookup "k" = some "2") ∧
    General.ofArguments World.bare ⟨[(.setting, "k=1"), (.setting, "k")], []⟩ = .error noSetting ∧
    ∃ read, Arguments.read generalOptions false none ["-c", "k=1", "ls"] = .ok read ∧
      read.values .setting = ["k=1"] := by
  refine ⟨?users, ?orders, ?refused, ?words⟩
  case users =>
    have huser : IsLast ["username=a", " username = b=c "] "username" "b=c" :=
      ⟨["username=a"], " username = b=c ", [], rfl, asSetting_eq_ok_iff.1 rfl, nofun⟩
    obtain ⟨general, hgeneral, hfolded, hchooses⟩ := (settings_last_wins World.bare
      ⟨[(.setting, "username=a"), (.quiet, ""), (.setting, " username = b=c ")], []⟩).2.1 (by decide)
    exact ⟨general, hgeneral, (hfolded.values _ _).2 huser, hchooses.named _ huser World.bare⟩
  case orders =>
    have hjoinable : ∀ setting ∈ [("k", "1"), ("k", "2"), ("l", "3")], IsJoinable setting := by
      simp only [List.forall_mem_cons]
      refine ⟨?_, ?_, ?_, nofun⟩
      all_goals exact isJoinable_of_no_blank (List.all_iff_forall_prop.1 (by decide)) (by decide)
    obtain ⟨general, hgeneral, hlookup, horders⟩ := (settings_last_wins World.bare
      ⟨[(.setting, "k=1"), (.setting, "k=2"), (.setting, "l=3")], []⟩).2.2.1 _ hjoinable (by decide)
    obtain ⟨same, hsame, hequal⟩ := horders [("k", "1"), ("l", "3"), ("k", "2")]
      ⟨[(.setting, "k=1"), (.setting, "l=3"), (.setting, "k=2")], []⟩
      (.inl (.cons _ (.swap (by decide) []))) (by decide)
    exact ⟨general, same, hgeneral, hsame, by rw [hlookup]; rfl, by rw [hequal, hlookup]; rfl⟩
  case refused => exact (settings_last_wins World.bare _).1.1 ⟨"k", by decide, by decide⟩
  case words =>
    exact (settings_last_wins World.bare ⟨[], ["ls"]⟩).2.2.2 "-c" (by decide) ["k=1"] ["ls"] rfl

end CommandLine

end NamedKeys
