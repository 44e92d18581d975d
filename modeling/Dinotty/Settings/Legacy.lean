/-
This file is what older clients do to newer settings. A put replaces all settings, so what a client
does not know comes back with its default. The server puts back the newer fields, each by the
version that brought it.
-/

import Dinotty.Settings.Updates

namespace Dinotty.SettingsState

/-! ### The migrations -/

/-- What a host makes of the old and the new directory for uploads. -/
structure UploadDirs where
  oldResolved : String
  default : String

def legacyUploadDir : String := "~/.dinotty/uploads"

variable (settings : Settings)

def Settings.setOther (name : String) (value : Json) : Settings :=
  { settings with others := fun other => if other = name then value else settings.others other }

def systemKey (label kind send : String) (action special display : Json) : Json :=
  .obj [("label", .str label), ("kind", .str kind), ("action", action), ("display", display),
    ("send", .str send), ("style", .null), ("shape", .null), ("repeat", .bool false),
    ("special", special), ("auto_enter", .null), ("grow", .null)]

def systemAction (label action : String) : Json :=
  systemKey label "action" "" (.str action) .null .null

def systemSend (label send : String) : Json := systemKey label "send" send .null .null .null

def systemModifier (label special : String) : Json :=
  systemKey label "send" "" .null (.str special) (.str "text")

def factorySystemKeyboard : Json :=
  .obj [("upper", .arr [systemAction "History" "system.history",
      systemAction "Bookmarks" "openBookmarks", systemAction "Extended" "system.extended",
      systemAction "Actions" "system.actions"]),
    ("pages", .arr [
      .arr [systemSend "Esc" "\x1b", systemSend "Tab" "\t", systemModifier "Ctrl" "ctrl",
        systemModifier "Alt" "alt", systemSend "/" "/", systemSend "|" "|"],
      .arr [systemSend "~" "~", systemSend "-" "-", systemSend "^C" "\x03",
        systemSend "^I" "\t", systemSend "^S" "\x13", systemSend "^Z" "\x1a"]]),
    ("lower_enabled", .bool true), ("upper_pinned", .num 0), ("lower_pinned", .num 0)]

def itemsOf (value : Json) : List Json := value.asArray.getD []

/-- The nearest whole number, from the middle away from zero. -/
def roundNumber (value : Rat) : Int :=
  if value < 0 then -⌊-value + 1 / 2⌋ else ⌊value + 1 / 2⌋

def roundGrow (key : Json) : Json :=
  match key.get "grow" with
  | some (.num grow) => key.set "grow" (.num (max 1 (min (roundNumber grow) 10) : Int))
  | _ => key

def migrateUploadDir (dirs : UploadDirs) (settings : Settings) : Settings :=
  if settings.others "upload_dir" = .str "" ∨ settings.others "upload_dir" = .str legacyUploadDir ∨
      settings.others "upload_dir" = .str dirs.oldResolved then
    settings.setOther "upload_dir" (.str dirs.default)
  else settings

def migrateToV4 : Settings :=
  if settings.settingsVersion < 4 ∧ settings.others "show_workspace_badge_on_tab" = .bool true then
    settings.setOther "show_workspace_badge_on_tab" .null
  else settings

/-- The mode that stands for the switch that came before it. -/
def badgeMode : Json → Json
  | .bool true => .str "tab"
  | .bool false => .str "off"
  | _ => .null

def migrateToV5 : Settings :=
  if settings.settingsVersion < 5 then
    let mode :=
      if settings.others "workspace_badge_mode" = .null then
        badgeMode (settings.others "show_workspace_badge_on_tab")
      else settings.others "workspace_badge_mode"
    (settings.setOther "workspace_badge_mode" mode).setOther "show_workspace_badge_on_tab" .null
  else settings

def migrateToV7 : Settings :=
  if settings.settingsVersion < 7 then
    settings.setOther "keyboard_guard_mode"
      (if settings.others "keyboard_keep_on_scroll" = .bool true then .str "collapse_only"
      else .str "off")
  else settings

def migrateToV8 : Settings :=
  if settings.settingsVersion < 8 then
    settings.setOther "system_toolbar_quick_keys" (settings.others "toolbar_quick_keys")
  else settings

/-- The keys of the old toolbar follow those that the factory puts into the upper row. -/
def migrateToV9 : Settings :=
  if settings.settingsVersion < 9 then
    match itemsOf (settings.others "system_toolbar_quick_keys") with
    | [] => { settings with systemToolbarMode := .followIme, systemKeyboard := .null }
    | keys =>
        let upper := (factorySystemKeyboard.getArray "upper").getD [] ++ keys
        { settings.setOther "system_toolbar_quick_keys" (.arr []) with
          systemToolbarMode := .followIme
          systemKeyboard := factorySystemKeyboard.set "upper" (.arr upper) }
  else settings

/-- The pages become one row, and the widths of the keys whole numbers. -/
def migrateKeyboard (keyboard : Json) : Json :=
  let upper := ((keyboard.getArray "upper").getD []).map roundGrow
  let lower := (((keyboard.getArray "pages").getD []).flatMap itemsOf).map roundGrow
  ((((keyboard.set "upper" (.arr upper)).set "pages" (.arr [.arr lower])).set
    "lower_enabled" (.bool true)).set "upper_pinned" (.num 0)).set "lower_pinned" (.num 0)

def migrateToV10 : Settings :=
  if settings.settingsVersion < 10 ∧ settings.systemKeyboard ≠ .null then
    { settings with systemKeyboard := migrateKeyboard settings.systemKeyboard }
  else settings

/-- All steps from an older version on. -/
def migrate (dirs : UploadDirs) (settings : Settings) : Settings :=
  { migrateToV10 <| migrateToV9 <| migrateToV8 <| migrateToV7 <| migrateToV5 <| migrateToV4 <|
      migrateUploadDir dirs settings with
    settingsVersion := currentSettingsVersion }

def Config.migrating (config : Config) (dirs : UploadDirs) : Config :=
  { config with upgrade := migrate dirs }

/-! ### Fields and their versions -/

def Field.since : Field → Nat
  | .systemKeyboard | .systemKeyboardUserDefault | .systemToolbarMode => 12
  | .imeKeyboardOverlapPx => 13
  | .inheritCwdForNewTab => 14
  | .remoteServers => 15
  | _ => 0

/-- The values of the newer fields where a client does not send them. -/
def unsent : Settings :=
  { settings with
    systemKeyboard := .null
    systemKeyboardUserDefault := .null
    systemToolbarMode := .followIme
    imeKeyboardOverlapPx := none
    inheritCwdForNewTab := false
    remoteServers := [] }

/-- A client sends the defaults of the fields that it does not know. -/
def SentBy (version : Option Nat) (body : Settings) : Prop :=
  ∀ field : Field, version.getD 0 < field.since → body.get field = (unsent body).get field

/-- What a client sends, migrated and tidied. A token that it leaves out is the stored one. -/
def sent (config : Config) (body existing : Settings) : Settings :=
  { tidied config body with
    remoteServers :=
      inheritRemoteServerTokens (tidied config body).remoteServers existing.remoteServers }

/-- A put leaves the fields that its client does not know, and sets the others but the active
workspace. -/
def Respects (config : Config) (version : Option Nat) (body existing : Settings) : Prop :=
  ∀ field : Field, (version.getD 0 < field.since →
      (putSettings config version body existing).get field = existing.get field) ∧
    (field.since ≤ version.getD 0 → field ≠ .activeWorkspaceId →
      (putSettings config version body existing).get field = (sent config body existing).get field)

/-! ### What a migration leaves alone -/

variable {config : Config} {dirs : UploadDirs} {version : Option Nat} {body existing : Settings}

/-- The fields that are newer than every migration. -/
def newer : Option Nat × List RemoteServer :=
  (settings.imeKeyboardOverlapPx, settings.remoteServers)

theorem newer_migrate : newer (migrate dirs settings) = newer settings := by
  have v10 (settings : Settings) : newer (migrateToV10 settings) = newer settings := by
    unfold migrateToV10 newer
    split <;> rfl
  have v9 (settings : Settings) : newer (migrateToV9 settings) = newer settings := by
    unfold migrateToV9 newer
    split
    · split <;> rfl
    · rfl
  have v8 (settings : Settings) : newer (migrateToV8 settings) = newer settings := by
    unfold migrateToV8 newer
    split <;> rfl
  have v7 (settings : Settings) : newer (migrateToV7 settings) = newer settings := by
    unfold migrateToV7 newer
    split <;> rfl
  have v5 (settings : Settings) : newer (migrateToV5 settings) = newer settings := by
    unfold migrateToV5 newer
    split <;> rfl
  have v4 (settings : Settings) : newer (migrateToV4 settings) = newer settings := by
    unfold migrateToV4 newer
    split <;> rfl
  have uploads (settings : Settings) : newer (migrateUploadDir dirs settings) = newer settings := by
    unfold migrateUploadDir newer
    split <;> rfl
  calc newer (migrate dirs settings)
    _ = newer (migrateToV10 (migrateToV9 (migrateToV8 (migrateToV7 (migrateToV5 (migrateToV4
          (migrateUploadDir dirs settings))))))) := by
      unfold newer migrate
      rfl
    _ = newer settings := by rw [v10, v9, v8, v7, v5, v4, uploads]

theorem newer_tidied (config : Config) (body : Settings) :
    newer (tidied (config.migrating dirs) body) =
      (body.imeKeyboardOverlapPx.map (min · imeKeyboardOverlapMax), body.remoteServers) := by
  have migrated : newer (migrateSettings (config.migrating dirs) body) = newer body := by
    unfold migrateSettings
    split
    · rfl
    · exact newer_migrate body
  obtain ⟨overlap, servers⟩ := Prod.mk.inj migrated
  calc newer (tidied (config.migrating dirs) body)
    _ = ((migrateSettings (config.migrating dirs) body).imeKeyboardOverlapPx.map
          (min · imeKeyboardOverlapMax),
          (migrateSettings (config.migrating dirs) body).remoteServers) := by
      unfold newer
      rfl
    _ = (body.imeKeyboardOverlapPx.map (min · imeKeyboardOverlapMax), body.remoteServers) := by
      rw [overlap, servers]

/-! ### What a put leaves and sets -/

theorem isBefore_iff {number : Nat} (positive : 0 < number) :
    isBefore version number = true ↔ version.getD 0 < number := by
  cases version with
  | none => exact iff_of_true rfl positive
  | some version => exact decide_eq_true_iff

section

variable (incoming : Settings)
include incoming

theorem preserveSystemKeyboard_older (older : version.getD 0 < 12)
    (cur : existing.settingsVersion = currentSettingsVersion) :
    preserveSystemKeyboard version existing incoming =
      { incoming with
        systemKeyboard := existing.systemKeyboard
        systemKeyboardUserDefault := existing.systemKeyboardUserDefault
        systemToolbarMode := existing.systemToolbarMode } :=
  if_pos ⟨(isBefore_iff (by decide)).mpr older, by rw [cur]; decide⟩

theorem preserveSystemKeyboard_newer (known : 12 ≤ version.getD 0) :
    preserveSystemKeyboard version existing incoming = incoming :=
  if_neg fun both => absurd ((isBefore_iff (by decide)).mp both.1) (not_lt_of_ge known)

theorem preserveImeKeyboardOverlap_older (older : version.getD 0 < 13)
    (cur : existing.settingsVersion = currentSettingsVersion)
    (unset : existing.imeKeyboardOverlapPx = none → incoming.imeKeyboardOverlapPx = none) :
    preserveImeKeyboardOverlap version existing incoming =
      { incoming with imeKeyboardOverlapPx := existing.imeKeyboardOverlapPx } := by
  have before := (isBefore_iff (by decide : 0 < 13)).mpr older
  unfold preserveImeKeyboardOverlap
  cases there : existing.imeKeyboardOverlapPx with
  | none =>
    rw [if_neg (by simp), ← unset there]
  | some overlap => exact if_pos ⟨before, by rw [cur]; decide, rfl⟩

theorem preserveImeKeyboardOverlap_newer (known : 13 ≤ version.getD 0) :
    preserveImeKeyboardOverlap version existing incoming = incoming :=
  if_neg fun both => absurd ((isBefore_iff (by decide)).mp both.1) (not_lt_of_ge known)

theorem preserveInheritCwd_older (older : version.getD 0 < 14)
    (cur : existing.settingsVersion = currentSettingsVersion) :
    preserveInheritCwd version existing incoming =
      { incoming with inheritCwdForNewTab := existing.inheritCwdForNewTab } :=
  if_pos ⟨(isBefore_iff (by decide)).mpr older, by rw [cur]; decide⟩

theorem preserveInheritCwd_newer (known : 14 ≤ version.getD 0) :
    preserveInheritCwd version existing incoming = incoming :=
  if_neg fun both => absurd ((isBefore_iff (by decide)).mp both.1) (not_lt_of_ge known)

theorem preserveCurrentSettings_known {field : Field} (known : field.since ≤ version.getD 0) :
    (preserveCurrentSettingsOnLegacyPut version existing incoming).get field =
      incoming.get field := by
  have keyboard : (preserveSystemKeyboard version existing incoming).get field =
      incoming.get field := by
    by_cases older : version.getD 0 < 12
    · have earlier : field.since < 12 := lt_of_le_of_lt known older
      unfold preserveSystemKeyboard
      split
      · cases field <;> first | rfl | exact absurd earlier (by decide)
      · rfl
    · rw [preserveSystemKeyboard_newer incoming (not_lt.mp older)]
  have overlap (middle : Settings) :
      (preserveImeKeyboardOverlap version existing middle).get field = middle.get field := by
    by_cases older : version.getD 0 < 13
    · have earlier : field.since < 13 := lt_of_le_of_lt known older
      unfold preserveImeKeyboardOverlap
      split
      · cases field <;> first | rfl | exact absurd earlier (by decide)
      · rfl
    · rw [preserveImeKeyboardOverlap_newer middle (not_lt.mp older)]
  have inherit (middle : Settings) :
      (preserveInheritCwd version existing middle).get field = middle.get field := by
    by_cases older : version.getD 0 < 14
    · have earlier : field.since < 14 := lt_of_le_of_lt known older
      unfold preserveInheritCwd
      split
      · cases field <;> first | rfl | exact absurd earlier (by decide)
      · rfl
    · rw [preserveInheritCwd_newer middle (not_lt.mp older)]
  rw [preserveCurrentSettingsOnLegacyPut, inherit, overlap, keyboard]

end

theorem preserveCurrentSettings_unknown {incoming : Settings} {field : Field}
    (unknown : version.getD 0 < field.since) (notRoster : field ≠ .remoteServers)
    (cur : existing.settingsVersion = currentSettingsVersion)
    (unset : version.getD 0 < 13 → incoming.imeKeyboardOverlapPx = none) :
    (preserveCurrentSettingsOnLegacyPut version existing incoming).get field =
      existing.get field := by
  have overlapOf (middle : Settings) (older : version.getD 0 < 13) :
      existing.imeKeyboardOverlapPx = none →
        (preserveSystemKeyboard version existing incoming).imeKeyboardOverlapPx = none := by
    intro _
    unfold preserveSystemKeyboard
    split <;> exact unset older
  cases field with
  | systemKeyboard | systemKeyboardUserDefault | systemToolbarMode =>
    have older : version.getD 0 < 12 := unknown
    rw [preserveCurrentSettingsOnLegacyPut, preserveInheritCwd_older _ (by omega) cur,
      preserveImeKeyboardOverlap_older _ (by omega) cur (overlapOf incoming (by omega)),
      preserveSystemKeyboard_older _ older cur]
    rfl
  | imeKeyboardOverlapPx =>
    have older : version.getD 0 < 13 := unknown
    rw [preserveCurrentSettingsOnLegacyPut, preserveInheritCwd_older _ (by omega) cur,
      preserveImeKeyboardOverlap_older _ older cur (overlapOf incoming older)]
    rfl
  | inheritCwdForNewTab =>
    have older : version.getD 0 < 14 := unknown
    rw [preserveCurrentSettingsOnLegacyPut, preserveInheritCwd_older _ older cur]
    rfl
  | remoteServers => exact absurd rfl notRoster
  | _ => exact absurd unknown (Nat.not_lt_zero _)

theorem putSettings_remoteServers (config : Config) (version : Option Nat)
    (body existing : Settings) :
    (putSettings config version body existing).remoteServers =
      inheritRemoteServerTokens (tidied config body).remoteServers existing.remoteServers := by
  rw [putSettings, remoteServers_preserveCurrentSettings]

/-- A put respects the fields that its client does not know exactly if the client knows the
roster, or no server is on it: nothing puts the roster back. -/
theorem putSettings_respects (current : existing.settingsVersion = currentSettingsVersion)
    (sentBy : SentBy version body) :
    Respects (config.migrating dirs) version body existing ↔
      15 ≤ version.getD 0 ∨ existing.remoteServers = [] := by
  have newest : newer (tidied (config.migrating dirs) body) =
      (body.imeKeyboardOverlapPx.map (min · imeKeyboardOverlapMax), body.remoteServers) :=
    newer_tidied config body
  obtain ⟨overlap, roster⟩ := Prod.mk.inj newest
  have unset (older : version.getD 0 < 13) :
      (tidied (config.migrating dirs) body).imeKeyboardOverlapPx = none := by
    have default : body.imeKeyboardOverlapPx = none := sentBy .imeKeyboardOverlapPx older
    rw [overlap, default]
    rfl
  have emptied (older : version.getD 0 < 15) :
      (putSettings (config.migrating dirs) version body existing).remoteServers = [] := by
    have default : body.remoteServers = [] := sentBy .remoteServers older
    rw [putSettings_remoteServers, roster, default]
    rfl
  constructor
  · intro respects
    by_cases known : 15 ≤ version.getD 0
    · exact Or.inl known
    · have older : version.getD 0 < 15 := not_le.mp known
      have kept : (putSettings (config.migrating dirs) version body existing).remoteServers =
          existing.remoteServers := (respects .remoteServers).1 older
      exact Or.inr (kept.symm.trans (emptied older))
  · intro condition field
    constructor
    · intro unknown
      by_cases isRoster : field = .remoteServers
      · subst isRoster
        have older : version.getD 0 < 15 := unknown
        have none : existing.remoteServers = [] := condition.resolve_left (not_le_of_gt older)
        exact (emptied older).trans none.symm
      · have owned : field ≠ .activeWorkspaceId := by
          rintro rfl
          exact absurd unknown (Nat.not_lt_zero _)
        rw [putSettings_get _ _ _ _ owned isRoster]
        exact preserveCurrentSettings_unknown unknown isRoster current unset
    · intro known owned
      by_cases isRoster : field = .remoteServers
      · subst isRoster
        exact putSettings_remoteServers _ _ _ _
      · rw [putSettings_get _ _ _ _ owned isRoster, preserveCurrentSettings_known _ known]
        cases field with
        | remoteServers => exact absurd rfl isRoster
        | _ => rfl

/-- The uploads of a host that has no other directory for them. -/
def plainDirs : UploadDirs := { oldResolved := "/tmp/dinotty", default := "/var/uploads" }

/-- A client without a roster puts a threshold. -/
def legacyBody : Settings := { unsent sampleSettings with quickSendThreshold := 100 }

theorem legacyBody_sentBy : SentBy none legacyBody := by
  intro field _
  cases field <;> rfl

/-- No server is lost where there is none. -/
theorem putSettings_respects_unrostered : Respects (plainConfig.migrating plainDirs) none legacyBody
      { sampleSettings with remoteServers := [] } :=
  (putSettings_respects rfl legacyBody_sentBy).mpr (Or.inr rfl)

/-- The same client where there is one takes it from the roster. -/
theorem legacyBody_erases :
    SentBy none legacyBody ∧ sampleSettings.settingsVersion = currentSettingsVersion ∧
      ¬ Respects (plainConfig.migrating plainDirs) none legacyBody sampleSettings := by
  refine ⟨legacyBody_sentBy, rfl, fun respects => ?_⟩
  have kept : (putSettings (plainConfig.migrating plainDirs) none legacyBody
      sampleSettings).remoteServers = sampleSettings.remoteServers :=
    (respects .remoteServers).1 (by decide)
  exact absurd kept (by decide +kernel)

end Dinotty.SettingsState
