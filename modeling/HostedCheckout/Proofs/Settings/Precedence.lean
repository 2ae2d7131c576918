import HostedCheckout.Proofs.Gateway.Turns
import HostedCheckout.Proofs.Settings.Layers

/-!
# Which layer wins

What has been loaded is, field by field, what the highest layer gives.  This needs that no
layer sets a section as a whole to something other than a table, or a place in it: a place
turns the section into a list, and all that lower layers have said about it is gone.
-/

namespace HostedCheckout.Settings

open Toml

/-- The layers of files, the lowest one first: `default`, the run mode, and `local`. -/
def fileLayers? (files : List (String × String)) (mode : String) :
    Except SettingsError (List Layer) := do
  let some defaults ← fileLayer? files "default" | throw .noDefaults
  let forMode ← fileLayer? files mode
  let forPlace ← fileLayer? files "local"
  return [defaults, forMode.getD [], forPlace.getD []]

/-- All layers, the lowest one first; the environment is the highest one. -/
def layers? (files environment : List (String × String)) : Except SettingsError (List Layer) :=
  (fileLayers? files (runMode environment)).map (· ++ [environmentLayer environment])

theorem load_eq (files environment : List (String × String)) :
    load files environment =
      layers? files environment >>= fun layers =>
        readService (stack layers) >>= ServiceSettings.check := by
  unfold load layers? fileLayers?
  rcases fileLayer? files "default" with fault | _ | defaults
  · rfl
  · rfl
  · rcases fileLayer? files (runMode environment) with fault | forMode
    · rfl
    · rcases fileLayer? files "local" with fault | forPlace
      · rfl
      · rfl

/-- Settings are accepted as they are, if they make sense. -/
theorem check_eq_ok_iff {settings other : ServiceSettings} :
    settings.check = .ok other ↔
      settings = other ∧ other.gateway.credentials.clientId.value ≠ "" ∧
        other.gateway.credentials.apiKey.value ≠ "" ∧ 1 ≤ other.gateway.timeoutSeconds := by
  unfold ServiceSettings.check
  constructor
  · intro accepted
    dsimp only at accepted
    split_ifs at accepted with empty instant
    obtain rfl := Except.ok.inj accepted
    rw [not_or] at empty
    exact ⟨rfl, empty.1, empty.2, Nat.one_le_iff_ne_zero.mpr instant⟩
  · rintro ⟨rfl, clientId, apiKey, timeout⟩
    simp [clientId, apiKey, Nat.one_le_iff_ne_zero.mp timeout]

variable {files environment : List (String × String)} {layers : List Layer}
  {settings : ServiceSettings}

theorem readService_of_load (found : layers? files environment = .ok layers)
    (loaded : load files environment = .ok settings) :
    readService (stack layers) = .ok settings ∧
      settings.gateway.credentials.clientId.value ≠ "" ∧
        settings.gateway.credentials.apiKey.value ≠ "" ∧ 1 ≤ settings.gateway.timeoutSeconds := by
  rw [load_eq, found] at loaded
  obtain ⟨_, same, stacked⟩ := bind_eq_ok_iff.mp loaded
  obtain rfl := Except.ok.inj same
  obtain ⟨read, readLayers, checked⟩ := bind_eq_ok_iff.mp stacked
  obtain ⟨rfl, sensible⟩ := check_eq_ok_iff.mp checked
  exact ⟨readLayers, sensible⟩

/-- What has been loaded means what the highest layers give. -/
theorem means_of_load (found : layers? files environment = .ok layers)
    (regular : ∀ layer ∈ layers, Layer.keepsSections layer = true)
    (loaded : load files environment = .ok settings) {field : Field} (among : field ∈ fields) :
    Means field.convert field.fallback (highest? layers field.setting) (field.get settings) :=
  means_highest? regular (readService_of_load found loaded).1 among

/-- Nothing but what the highest layers give makes a difference. -/
theorem load_congr {otherFiles otherEnvironment : List (String × String)} {others : List Layer}
    {otherSettings : ServiceSettings} (found : layers? files environment = .ok layers)
    (regular : ∀ layer ∈ layers, Layer.keepsSections layer = true)
    (loaded : load files environment = .ok settings)
    (otherFound : layers? otherFiles otherEnvironment = .ok others)
    (otherRegular : ∀ layer ∈ others, Layer.keepsSections layer = true)
    (otherLoaded : load otherFiles otherEnvironment = .ok otherSettings)
    (same : ∀ setting, highest? layers setting = highest? others setting) :
    settings = otherSettings := by
  apply eq_of_fields
  intro field among
  have means := means_of_load found regular loaded among
  rw [same] at means
  exact means.unique (means_of_load otherFound otherRegular otherLoaded among)

/-- A setting that a layer gives as before is given as before by the highest layer. -/
theorem highest?_congr (lower upper : List Layer) {layer other : Layer} {setting : Setting}
    (same : Layer.gives? setting other = Layer.gives? setting layer) :
    highest? (lower ++ other :: upper) setting = highest? (lower ++ layer :: upper) setting := by
  simp [highest?, List.findSome?_append, List.findSome?_cons, same]

/-! ## Variables -/

section Variable

variable {name key : String} (sets : variableKey? name = some key) (text : String)

include sets

/-- A variable that is a setting does not choose the run mode. -/
theorem runMode_append (environment : List (String × String)) :
    runMode (environment ++ [(name, text)]) = runMode environment := by
  have other : "RUN_MODE" ≠ name := by
    rintro rfl
    have nothing : variableKey? "RUN_MODE" = none := by decide
    rw [nothing] at sets
    cases sets
  rw [runMode, List.lookup_append, lookup_cons_eq, if_neg other, List.lookup_nil, Option.or_none,
    runMode]

/-- The layer of the environment is in the order of the variables. -/
theorem environmentLayer_append (environment : List (String × String)) :
    environmentLayer (environment ++ [(name, text)]) =
      environmentLayer environment ++ [(key, .string text)] := by
  simp [environmentLayer, List.filterMap_append, sets]

theorem layers?_append (files environment : List (String × String)) :
    layers? files (environment ++ [(name, text)]) =
      (fileLayers? files (runMode environment)).map
        (· ++ [environmentLayer environment ++ [(key, .string text)]]) := by
  rw [layers?, runMode_append sets, environmentLayer_append sets]

end Variable

theorem exists_fileLayers (found : layers? files environment = .ok layers) :
    ∃ lower, fileLayers? files (runMode environment) = .ok lower ∧
      layers = lower ++ [environmentLayer environment] := by
  unfold layers? at found
  cases outcome : fileLayers? files (runMode environment) with
  | error fault =>
      rw [outcome] at found
      cases found
  | ok lower =>
      rw [outcome] at found
      exact ⟨lower, rfl, (Except.ok.inj found).symm⟩

/-- Setting a variable changes the field that it is for, and no other one. -/
theorem load_variable (found : layers? files environment = .ok layers)
    (regular : ∀ layer ∈ layers, Layer.keepsSections layer = true)
    (loaded : load files environment = .ok settings) {name key text : String} {changed : Setting}
    (sets : variableKey? name = some key)
    (path : stepsOf key = [.key changed.group, .key changed.name])
    {otherSettings : ServiceSettings}
    (otherLoaded : load files (environment ++ [(name, text)]) = .ok otherSettings) :
    ∀ field ∈ fields,
      if field.setting = changed then
        field.convert (.string text) = some (field.get otherSettings)
      else field.get otherSettings = field.get settings := by
  intro field among
  obtain ⟨lower, below, rfl⟩ := exists_fileLayers found
  have otherFound := layers?_append sets text files environment
  rw [below] at otherFound
  have otherRegular : ∀ layer ∈
      lower ++ [environmentLayer environment ++ [(key, .string text)]],
      Layer.keepsSections layer = true := by
    intro layer present
    rcases List.mem_append.mp present with fromFile | highest
    · exact regular layer (List.mem_append_left _ fromFile)
    · obtain rfl := List.mem_singleton.mp highest
      exact Layer.keepsSections_append
        (regular _ (List.mem_append_right _ (List.mem_singleton_self _)))
        (Layer.keepsSections_path path text)
  have after := means_of_load otherFound otherRegular otherLoaded among
  have given := Layer.gives?_path path text field.setting
  by_cases same : field.setting = changed
  · rw [if_pos same]
    rw [if_pos same] at given
    rw [highest?, List.reverse_append, List.reverse_singleton, List.singleton_append,
      List.findSome?_cons, Layer.gives?_append, given] at after
    exact after
  · rw [if_neg same]
    rw [if_neg same] at given
    have unchanged : Layer.gives? field.setting
        (environmentLayer environment ++ [(key, .string text)]) =
          Layer.gives? field.setting (environmentLayer environment) := by
      rw [Layer.gives?_append, given, Option.none_or]
    rw [highest?_congr lower [] unchanged] at after
    exact after.unique (means_of_load found regular loaded among)

/-! ## Loading -/

/-- Layers override one another setting by setting.  Each field is what the highest layer gives
that gives its setting, or what is usual; a layer that is changed in one setting changes no
other field; and there are a client id, a key and some time to wait. -/
theorem load_overrides (found : layers? files environment = .ok layers)
    (regular : ∀ layer ∈ layers, Layer.keepsSections layer = true)
    (loaded : load files environment = .ok settings) :
    (∀ field ∈ fields,
        Means field.convert field.fallback (highest? layers field.setting)
          (field.get settings)) ∧
      (∀ (otherFiles otherEnvironment : List (String × String)) (lower upper : List Layer)
          (layer changed : Layer) (setting : Setting) (otherSettings : ServiceSettings),
        layers = lower ++ layer :: upper →
        layers? otherFiles otherEnvironment = .ok (lower ++ changed :: upper) →
        Layer.keepsSections changed = true →
        (∀ other ≠ setting, Layer.gives? other changed = Layer.gives? other layer) →
        load otherFiles otherEnvironment = .ok otherSettings →
        ∀ field ∈ fields, field.setting ≠ setting →
          field.get otherSettings = field.get settings) ∧
      settings.gateway.credentials.clientId.value ≠ "" ∧
      settings.gateway.credentials.apiKey.value ≠ "" ∧
      1 ≤ settings.gateway.timeoutSeconds := by
  refine ⟨fun field among => means_of_load found regular loaded among, ?_,
    (readService_of_load found loaded).2⟩
  rintro otherFiles otherEnvironment lower upper layer changed setting otherSettings rfl
    otherFound kept same otherLoaded field among unchanged
  have otherRegular : ∀ layer ∈ lower ++ changed :: upper, Layer.keepsSections layer = true := by
    intro one present
    rcases List.mem_append.mp present with below | present
    · exact regular one (List.mem_append_left _ below)
    · rcases List.mem_cons.mp present with rfl | above
      · exact kept
      · exact regular one (List.mem_append_right _ (List.mem_cons_of_mem _ above))
  have before := means_of_load found regular loaded among
  have after := means_of_load otherFound otherRegular otherLoaded among
  rw [highest?_congr lower upper (same field.setting unchanged)] at after
  exact after.unique before

/-- A lowest layer that is enough. -/
def Sample.defaults : String :=
  "[server]\nport = 8080\n[airwallex]\nclient_id = 'id'\napi_key = 'key'\ntimeout_seconds = 3"

/-- Files that override one another. -/
def Sample.layered : List (String × String) :=
  [("default", Sample.defaults),
    ("production", "[airwallex]\napi_key = 'real'\ntimeout_seconds = 5"),
    ("local", "[server]\nport = 8081")]

/-- Variables that override the files. -/
def Sample.variables : List (String × String) :=
  [("RUN_MODE", "production"), ("PAYBRIDGE__SERVER__PORT", "8082")]

/-- Variables that set places in a section. -/
def Sample.places : List (String × String) :=
  [("PAYBRIDGE__AIRWALLEX[0]", "id"), ("PAYBRIDGE__AIRWALLEX[1]", "key")]

theorem load_overrides_of_samples :
    ∃ lower settings otherSettings,
      layers? Sample.layered Sample.variables =
        .ok (lower ++ [environmentLayer Sample.variables]) ∧
      load Sample.layered Sample.variables = .ok settings ∧
      (∀ field ∈ fields,
        Means field.convert field.fallback
          (highest? (lower ++ [environmentLayer Sample.variables]) field.setting)
          (field.get settings)) ∧
      load Sample.layered
        (Sample.variables ++ [("PAYBRIDGE__AIRWALLEX__TIMEOUT_SECONDS", "7")]) =
          .ok otherSettings ∧
      settings.gateway.timeoutSeconds = 5 ∧ otherSettings.gateway.timeoutSeconds = 7 ∧
      ∀ field ∈ fields, field.setting ≠ ⟨"airwallex", "timeout_seconds"⟩ →
        field.get otherSettings = field.get settings := by
  have regular : ((layers? Sample.layered Sample.variables).toOption.map
      (List.all · Layer.keepsSections)) = some true := by decide +kernel
  obtain ⟨layers, known, kept⟩ := Option.map_eq_some_iff.mp regular
  have found := toOption_eq_some_iff.mp known
  obtain ⟨lower, below, rfl⟩ := exists_fileLayers found
  have kept := List.all_eq_true.mp kept
  have loaded : load Sample.layered Sample.variables =
      .ok ⟨⟨8082⟩, ⟨⟨"id"⟩, ⟨"real"⟩⟩, MerchantOptions.defaultEndpoint,
        MerchantOptions.defaultCheckoutUrl, 5, 0, .requery⟩ :=
    toOption_eq_some_iff.mp (by decide +kernel)
  have otherLoaded : load Sample.layered
      (Sample.variables ++ [("PAYBRIDGE__AIRWALLEX__TIMEOUT_SECONDS", "7")]) =
      .ok ⟨⟨8082⟩, ⟨⟨"id"⟩, ⟨"real"⟩⟩, MerchantOptions.defaultEndpoint,
        MerchantOptions.defaultCheckoutUrl, 7, 0, .requery⟩ :=
    toOption_eq_some_iff.mp (by decide +kernel)
  have sets : variableKey? "PAYBRIDGE__AIRWALLEX__TIMEOUT_SECONDS" =
      some "airwallex.timeout_seconds" := by decide +kernel
  have path : stepsOf "airwallex.timeout_seconds" =
      [.key "airwallex", .key "timeout_seconds"] := by decide +kernel
  have otherFound := layers?_append sets "7" Sample.layered Sample.variables
  rw [below] at otherFound
  have added : Layer.keepsSections
      (environmentLayer Sample.variables ++ [("airwallex.timeout_seconds", .string "7")]) =
        true := by decide +kernel
  have overrides := load_overrides found kept loaded
  refine ⟨lower, _, _, found, loaded, overrides.1, otherLoaded, rfl, rfl, ?_⟩
  apply overrides.2.1 _ _ lower [] _ _ _ _ rfl otherFound added _ otherLoaded
  intro other different
  have given := @Layer.gives?_path _ ⟨"airwallex", "timeout_seconds"⟩ path "7" other
  rw [Layer.gives?_append, given, if_neg different, Option.none_or]

/-- A variable that sets a place in a section takes away what the file says about it: the time
to wait is given as three seconds, and is ten. -/
theorem not_overrides_of_places :
    ∃ layers settings,
      layers? [("default", Sample.defaults)] Sample.places = .ok layers ∧
      load [("default", Sample.defaults)] Sample.places = .ok settings ∧
      ¬ ∀ field ∈ fields,
        Means field.convert field.fallback (highest? layers field.setting)
          (field.get settings) := by
  have given : ((layers? [("default", Sample.defaults)] Sample.places).toOption.map fun layers =>
      (highest? layers ⟨"airwallex", "timeout_seconds"⟩).bind (number? largest)) =
        some (some 3) := by decide +kernel
  obtain ⟨layers, known, three⟩ := Option.map_eq_some_iff.mp given
  have loaded : load [("default", Sample.defaults)] Sample.places =
      .ok ⟨⟨8080⟩, ⟨⟨"id"⟩, ⟨"key"⟩⟩, MerchantOptions.defaultEndpoint,
        MerchantOptions.defaultCheckoutUrl, 10, 0, .requery⟩ :=
    toOption_eq_some_iff.mp (by decide +kernel)
  refine ⟨layers, _, toOption_eq_some_iff.mp known, loaded, ?_⟩
  intro means
  have ten : Means (number? largest) (some 10) (highest? layers ⟨"airwallex", "timeout_seconds"⟩)
      10 := means
    ⟨⟨"airwallex", "timeout_seconds"⟩, Nat, number? largest, some 10, (·.gateway.timeoutSeconds)⟩
    (by simp [fields, gatewayFields])
  obtain ⟨value, found, number⟩ := Option.bind_eq_some_iff.mp three
  rw [found, Means] at ten
  rw [number] at ten
  cases ten

end HostedCheckout.Settings
