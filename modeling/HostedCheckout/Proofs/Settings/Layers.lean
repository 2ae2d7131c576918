import HostedCheckout.Proofs.Json.Record
import HostedCheckout.Proofs.Settings.Conversion
import HostedCheckout.Settings.Load

/-!
# Settings from layers

The fields of the settings are listed once, each with the setting that it comes from, its
conversion, and what it is when nothing is given.  If every layer gives the sections as
tables, a field is what the highest layer that gives its setting gives; so a layer that is
changed in one setting changes one field.
-/

namespace HostedCheckout.Settings

open Toml

/-! ## Fields -/

/-- A field of the settings. -/
structure Field where
  setting : Setting
  Carrier : Type
  convert : Value → Option Carrier
  fallback : Option Carrier
  get : ServiceSettings → Carrier

/-- The field of the server. -/
def serverFields : List Field :=
  [⟨⟨"server", "port"⟩, Nat, number? 65535, none, (·.server.port)⟩]

/-- The fields of the gateway. -/
def gatewayFields : List Field :=
  [⟨⟨"airwallex", "client_id"⟩, String, text?, none, (·.gateway.credentials.clientId.value)⟩,
    ⟨⟨"airwallex", "api_key"⟩, String, text?, none, (·.gateway.credentials.apiKey.value)⟩,
    ⟨⟨"airwallex", "api_endpoint"⟩, String, text?, some MerchantOptions.defaultEndpoint,
      (·.gateway.endpoint)⟩,
    ⟨⟨"airwallex", "checkout_url"⟩, String, text?, some MerchantOptions.defaultCheckoutUrl,
      (·.gateway.checkoutUrl)⟩,
    ⟨⟨"airwallex", "timeout_seconds"⟩, Nat, number? largest, some 10, (·.gateway.timeoutSeconds)⟩,
    ⟨⟨"airwallex", "token_expiry_skew_seconds"⟩, Nat, number? largest, some 0,
      (·.gateway.marginSeconds)⟩,
    ⟨⟨"airwallex", "notify_mode"⟩, NotifyMode, mode?, some .requery, (·.gateway.mode)⟩]

/-- All fields. -/
def fields : List Field := serverFields ++ gatewayFields

/-- The sections. -/
def groups : List String := ["server", "airwallex"]

theorem group_eq_server : ∀ field ∈ serverFields, field.setting.group = "server" := by
  simp [serverFields]

theorem group_eq_airwallex : ∀ field ∈ gatewayFields, field.setting.group = "airwallex" := by
  simp [gatewayFields]

theorem group_mem_groups {field : Field} (among : field ∈ fields) :
    field.setting.group ∈ groups := by
  revert field
  simp [fields, serverFields, gatewayFields, groups]

theorem steady_convert {field : Field} (among : field ∈ fields) : Steady field.convert := by
  revert field
  simp [fields, serverFields, gatewayFields, steady_text?, steady_number?, steady_mode?]

/-- The settings have no other fields. -/
theorem eq_of_fields {settings other : ServiceSettings}
    (same : ∀ field ∈ fields, field.get settings = field.get other) : settings = other := by
  obtain ⟨⟨port⟩, ⟨⟨clientId⟩, ⟨apiKey⟩⟩, endpoint, checkoutUrl, timeout, margin, mode⟩ := settings
  obtain ⟨⟨port'⟩, ⟨⟨clientId'⟩, ⟨apiKey'⟩⟩, endpoint', checkoutUrl', timeout', margin', mode'⟩ :=
    other
  simpa [fields, serverFields, gatewayFields, and_assoc] using same

/-! ## Reading a section -/

namespace Section

variable {α : Type} {group : Section} {name : String} {convert : Value → Option α}
  {given : Option α}

/-- What has been read is what is found, converted. -/
def Reads (group : Section) (name : String) (convert : Value → Option α) (given : Option α) :
    Prop :=
  match group.find name with
  | none => given = none
  | some held => ∃ result, convert held = some result ∧ given = some result

theorem reads_of_read {checked : Value → Except SettingsError α}
    (sound : ∀ {held result}, checked held = .ok result → convert held = some result)
    (read : group.read name checked = .ok given) : Reads group name convert given := by
  unfold Section.read at read
  unfold Reads
  cases found : group.find name with
  | none =>
      rw [found] at read
      exact (Except.ok.inj read).symm
  | some held =>
      rw [found] at read
      cases outcome : checked held with
      | error fault =>
          simp only [outcome] at read
          cases read
      | ok result =>
          simp only [outcome] at read
          exact ⟨result, sound outcome, (Except.ok.inj read).symm⟩

theorem reads_text {given : Option String} (read : group.text name = .ok given) :
    Reads group name text? given := by
  apply reads_of_read _ read
  intro held result outcome
  split at outcome
  · rename_i converted
    exact converted.trans (congrArg some (Except.ok.inj outcome))
  · cases outcome

theorem reads_number {limit : Nat} {given : Option Nat}
    (read : group.number limit name = .ok given) : Reads group name (number? limit) given := by
  apply reads_of_read _ read
  intro held result outcome
  split at outcome
  · rename_i converted
    exact converted.trans (congrArg some (Except.ok.inj outcome))
  · cases outcome

theorem reads_mode {given : Option NotifyMode} (read : group.mode name = .ok given) :
    Reads group name mode? given := by
  apply reads_of_read _ read
  intro held result outcome
  split at outcome
  · rename_i converted
    exact converted.trans (congrArg some (Except.ok.inj outcome))
  · cases outcome

/-- A setting that has to be given means what is found. -/
theorem Reads.means_need (reads : Reads group name convert given) {value : α}
    (needed : group.need name given = .ok value) :
    Means convert none (group.find name) value := by
  unfold Reads at reads
  cases found : group.find name with
  | none =>
      rw [found] at reads
      subst reads
      cases needed
  | some held =>
      rw [found] at reads
      obtain ⟨result, converted, rfl⟩ := reads
      cases needed
      exact converted

/-- A setting that need not be given means what is found, or what is usual. -/
theorem Reads.means_getD (reads : Reads group name convert given) (usual : α) :
    Means convert (some usual) (group.find name) (given.getD usual) := by
  unfold Reads at reads
  cases found : group.find name with
  | none =>
      rw [found] at reads
      subst reads
      rfl
  | some held =>
      rw [found] at reads
      obtain ⟨result, converted, rfl⟩ := reads
      exact converted

end Section

theorem means_of_readServer {entries : Entries} {server : ServerSettings}
    (read : readServer (.table entries) = .ok server) (gateway : GatewaySettings) :
    ∀ field ∈ serverFields,
      Means field.convert field.fallback (entries.lookup field.setting.name)
        (field.get ⟨server, gateway⟩) := by
  simp only [readServer, bind_eq_ok_iff] at read
  obtain ⟨group, opened, port, readPort, value, needed, built⟩ := read
  cases opened
  have means := (Section.reads_number readPort).means_need needed
  have same : value = server.port := congrArg ServerSettings.port (Except.ok.inj built)
  simpa [serverFields, same] using means

theorem means_of_readGateway {entries : Entries} {gateway : GatewaySettings}
    (read : readGateway (.table entries) = .ok gateway) (server : ServerSettings) :
    ∀ field ∈ gatewayFields,
      Means field.convert field.fallback (entries.lookup field.setting.name)
        (field.get ⟨server, gateway⟩) := by
  simp only [readGateway, bind_eq_ok_iff] at read
  obtain ⟨group, opened, clientId, readId, apiKey, readKey, endpoint, readEndpoint, checkoutUrl,
    readUrl, timeout, readTimeout, margin, readMargin, mode, readMode, neededId, needId,
    neededKey, needKey, built⟩ := read
  cases opened
  have same := Except.ok.inj built
  have idMeans := (Section.reads_text readId).means_need needId
  have keyMeans := (Section.reads_text readKey).means_need needKey
  have endpointMeans := (Section.reads_text readEndpoint).means_getD MerchantOptions.defaultEndpoint
  have urlMeans := (Section.reads_text readUrl).means_getD MerchantOptions.defaultCheckoutUrl
  have timeoutMeans := (Section.reads_number readTimeout).means_getD 10
  have marginMeans := (Section.reads_number readMargin).means_getD 0
  have modeMeans := (Section.reads_mode readMode).means_getD NotifyMode.requery
  simp only [gatewayFields, List.forall_mem_cons, ← same]
  exact ⟨idMeans, keyMeans, endpointMeans, urlMeans, timeoutMeans, marginMeans, modeMeans,
    fun _ among => by cases among⟩

theorem exists_readSection {α : Type} {tree : Entries} {key : String}
    {reader : Value → Except SettingsError α} {given : Option α} {value : α}
    (read : Section.read ⟨fun name => tree.lookup name, .missing⟩ key reader = .ok given)
    (needed : Section.need ⟨fun name => tree.lookup name, .missing⟩ key given = .ok value) :
    ∃ held, tree.lookup key = some held ∧ reader held = .ok value := by
  unfold Section.read at read
  cases found : tree.lookup key with
  | none =>
      simp only [found] at read
      cases read
      cases needed
  | some held =>
      simp only [found] at read
      cases outcome : reader held with
      | error fault =>
          rw [outcome] at read
          cases read
      | ok result =>
          rw [outcome] at read
          cases read
          cases needed
          exact ⟨held, rfl, outcome⟩

/-- If the sections are tables, a field means what its section has under its name. -/
theorem means_of_readService {tree : Entries} {settings : ServiceSettings}
    (tables : ∀ group ∈ groups, IsTable (tree.lookup group))
    (read : readService tree = .ok settings) :
    ∀ field ∈ fields,
      Means field.convert field.fallback
        (member? field.setting.name (tree.lookup field.setting.group)) (field.get settings) := by
  simp only [readService, bind_eq_ok_iff] at read
  obtain ⟨server, readOne, gateway, readOther, serverSettings, needOne, gatewaySettings,
    needOther, built⟩ := read
  obtain rfl := Except.ok.inj built
  obtain ⟨one, foundOne, serverRead⟩ := exists_readSection readOne needOne
  obtain ⟨other, foundOther, gatewayRead⟩ := exists_readSection readOther needOther
  obtain ⟨oneEntries, rfl⟩ := tables "server" List.mem_cons_self one foundOne
  obtain ⟨otherEntries, rfl⟩ :=
    tables "airwallex" (List.mem_cons_of_mem _ List.mem_cons_self) other foundOther
  intro field among
  rcases List.mem_append.mp among with ofServer | ofGateway
  · rw [group_eq_server field ofServer, foundOne]
    exact means_of_readServer serverRead gatewaySettings field ofServer
  · rw [group_eq_airwallex field ofGateway, foundOther]
    exact means_of_readGateway gatewayRead serverSettings field ofGateway

/-! ## Layers -/

/-- Whether a layer gives the sections as tables only: it leads on to a name in them, or has
a table for them. -/
def Layer.keepsSections (layer : Layer) : Bool :=
  groups.all fun group => (toMember group (Layer.writes layer)).all Write.keepsTable

/-- What a layer gives for a setting. -/
def Layer.gives? (setting : Setting) (layer : Layer) : Option Value :=
  lastGiven? (setting.writes (Layer.writes layer))

/-- What the highest layer that gives a setting gives for it. -/
def highest? (layers : List Layer) (setting : Setting) : Option Value :=
  layers.reverse.findSome? (Layer.gives? setting)

theorem highest?_eq (layers : List Layer) (setting : Setting) :
    highest? layers setting = lastGiven? (setting.writes (layers.flatMap Layer.writes)) := by
  rw [Setting.writes_flatMap]
  induction layers using List.reverseRecOn with
  | nil => rfl
  | append_singleton lower layer ih =>
      rw [List.flatMap_append, lastGiven?_append, ← ih, List.flatMap_singleton, highest?,
        List.reverse_append, List.reverse_singleton, List.singleton_append, List.findSome?_cons]
      cases given : Layer.gives? setting layer with
      | none =>
          rw [Layer.gives?] at given
          rw [given]
          rfl
      | some value =>
          rw [Layer.gives?] at given
          rw [given]
          rfl

theorem Layer.gives?_append (setting : Setting) (layer added : Layer) :
    Layer.gives? setting (layer ++ added) =
      (Layer.gives? setting added).or (Layer.gives? setting layer) := by
  have writes : setting.writes (Layer.writes (layer ++ added)) =
      setting.writes (Layer.writes layer) ++ setting.writes (Layer.writes added) := by
    simp only [Layer.writes, Setting.writes, toMember, List.map_append, List.flatMap_append]
  rw [Layer.gives?, writes, lastGiven?_append]
  rfl

theorem Layer.keepsSections_append {layer added : Layer} (kept : layer.keepsSections = true)
    (also : added.keepsSections = true) : Layer.keepsSections (layer ++ added) = true := by
  apply List.all_eq_true.mpr
  intro group known
  have first := List.all_eq_true.mp kept group known
  have second := List.all_eq_true.mp also group known
  rw [Layer.writes, List.map_append, toMember, List.flatMap_append, List.all_append]
  exact Bool.and_eq_true_iff.mpr ⟨first, second⟩

section Path

variable {key : String} {changed : Setting}
  (path : stepsOf key = [.key changed.group, .key changed.name]) (text : String)

include path

/-- A path to a setting gives this one and no other. -/
theorem Layer.gives?_path (setting : Setting) :
    Layer.gives? setting [(key, .string text)] =
      if setting = changed then some (.string text) else none := by
  obtain ⟨group, name⟩ := setting
  obtain ⟨changedGroup, changedName⟩ := changed
  have written : Layer.writes [(key, .string text)] =
      [⟨[.key changedGroup, .key changedName], .string text⟩] := by
    rw [Layer.writes, List.map_singleton, path]
  rw [Layer.gives?, written]
  by_cases sameGroup : changedGroup = group
  · by_cases sameName : changedName = name
    · subst sameGroup sameName
      simp [Setting.writes, toMember, Write.toMember, lastGiven?, Write.gives?, Write.alone, assign,
        overlay]
    · simp [Setting.writes, toMember, Write.toMember, sameGroup, sameName, Ne.symm sameName]
  · simp [Setting.writes, toMember, Write.toMember, sameGroup, Ne.symm sameGroup]

/-- A path to a setting leads on to a name. -/
theorem Layer.keepsSections_path : Layer.keepsSections [(key, .string text)] = true := by
  apply List.all_eq_true.mpr
  intro group _
  have written : Layer.writes [(key, .string text)] =
      [⟨[.key changed.group, .key changed.name], .string text⟩] := by
    rw [Layer.writes, List.map_singleton, path]
  rw [written]
  by_cases same : changed.group = group
  · simp [toMember, Write.toMember, same, Write.keepsTable]
  · simp [toMember, Write.toMember, same]

end Path

section Stack

variable {layers : List Layer} (regular : ∀ layer ∈ layers, Layer.keepsSections layer = true)

/-- A section holds what the layers write to it. -/
theorem lookup_stack (layers : List Layer) (group : String) :
    (stack layers).lookup group = settle none (toMember group (layers.flatMap Layer.writes)) := by
  have keeps : ∀ write ∈ layers.flatMap Layer.writes, write.keepsTable = true := by
    intro write among
    obtain ⟨layer, -, within⟩ := List.mem_flatMap.mp among
    exact keepsTable_of_mem_writes within
  rw [stack_eq]
  exact member?_settle group (some (.table [])) keeps

include regular

theorem keepsTable_of_mem_section {group : String} (known : group ∈ groups) :
    ∀ write ∈ toMember group (layers.flatMap Layer.writes), write.keepsTable = true := by
  intro write among
  rw [toMember, List.flatMap_assoc] at among
  obtain ⟨layer, present, within⟩ := List.mem_flatMap.mp among
  exact List.all_eq_true.mp (List.all_eq_true.mp (regular layer present) group known) write within

theorem isTable_lookup_stack {group : String} (known : group ∈ groups) :
    IsTable ((stack layers).lookup group) := by
  rw [lookup_stack]
  exact isTable_none.settle (keepsTable_of_mem_section regular known)

theorem member?_lookup_stack {setting : Setting} (known : setting.group ∈ groups) :
    member? setting.name ((stack layers).lookup setting.group) =
      settle none (setting.writes (layers.flatMap Layer.writes)) := by
  rw [lookup_stack]
  exact member?_settle setting.name none (keepsTable_of_mem_section regular known)

/-- A field means what the highest layer gives that gives its setting. -/
theorem means_highest? {settings : ServiceSettings}
    (read : readService (stack layers) = .ok settings) {field : Field} (among : field ∈ fields) :
    Means field.convert field.fallback (highest? layers field.setting) (field.get settings) := by
  have means := means_of_readService (fun group known => isTable_lookup_stack regular known)
    read field among
  rw [member?_lookup_stack regular (group_mem_groups among)] at means
  rw [highest?_eq]
  exact (steady_convert among).means_lastGiven? means

end Stack

end HostedCheckout.Settings
