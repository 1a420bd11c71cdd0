import PairedContacts.Proofs.VCard.MetadataLine
import PairedContacts.Settings

/-!
# Settings that fit a line

The rules of the device id and of the namespace let no line break through, so whatever settings
accept can stand in the lines of a footer.
-/

set_option autoImplicit false

namespace PairedContacts

namespace Settings

theorem not_isAlphanumeric_of_isLineBreak {c : Char} (breaks : Text.isLineBreak c = true) :
    Text.isAlphanumeric c = false := by
  have listed : (Text.lineBreaks.all fun c => !Text.isAlphanumeric c) = true := by decide +kernel
  simpa using Text.of_isLineBreak listed breaks

theorem isUnbroken_of_deviceRule {device settled : String}
    (accepted : deviceRule (.text device) = .ok settled) :
    VCard.admitsDevice device.toList = true ∧ Text.isUnbroken device.toList = true := by
  have clean : device.isEmpty = false ∧
      ∀ c ∈ device.toList, c ≠ ':' ∧ Text.isBlank c = false := by
    simp only [deviceRule, Field.text, bind, Except.bind] at accepted
    split at accepted
    · cases accepted
    · rename_i clean
      simpa using clean
  obtain ⟨nonempty, inked⟩ := clean
  have whole : Text.isUnbroken device.toList = true := by
    refine Text.isUnbroken_of_forall fun c member breaks => ?_
    have blank := Text.isBlank_of_isLineBreak breaks
    rw [(inked c member).2] at blank
    cases blank
  refine ⟨VCard.admitsDevice_of_isUnbroken ?_ ?_ whole, whole⟩
  · simpa [String.isEmpty_iff] using nonempty
  · intro colon
    exact (inked ':' colon).1 rfl

theorem admitted_of_spaceRule {given settled : String}
    (accepted : spaceRule (.text given) = .ok settled) :
    (∀ c ∈ given.toList, c = '-' ∨ Text.isAlphanumeric c = true) ∧
      settled.toList = Text.upper given.toList := by
  simp only [spaceRule, Field.text, bind, Except.bind] at accepted
  split at accepted
  · rename_i admitted
    obtain rfl := Except.ok.inj accepted
    rw [admitsSpace, Bool.and_eq_true, List.all_eq_true] at admitted
    refine ⟨fun c member => ?_, String.toList_ofList⟩
    by_cases dash : c = '-'
    · exact .inl dash
    · exact .inr (admitted.2 c (List.mem_filter.mpr ⟨member, by simpa using dash⟩))
  · cases accepted

theorem isUnbroken_of_spaceRule {given settled : String}
    (accepted : spaceRule (.text given) = .ok settled) :
    Text.isUnbroken given.toList = true ∧ Text.isUnbroken settled.toList = true := by
  obtain ⟨letters, capital⟩ := admitted_of_spaceRule accepted
  have whole : Text.isUnbroken given.toList = true := by
    refine Text.isUnbroken_of_forall fun c member breaks => ?_
    rcases letters c member with rfl | letter
    · revert breaks
      decide
    · rw [not_isAlphanumeric_of_isLineBreak breaks] at letter
      cases letter
  rw [capital, Text.isUnbroken_upper]
  exact ⟨whole, whole⟩

/-- A namespace that settings accept, as it was given or as it was settled. -/
def IsSpace (space : String) : Prop :=
  ∃ given settled, spaceRule (.text given) = .ok settled ∧ (space = given ∨ space = settled)

theorem IsSpace.isUnbroken {space : String} (accepted : IsSpace space) :
    Text.isUnbroken space.toList = true := by
  obtain ⟨given, settled, ruled, rfl | rfl⟩ := accepted
  · exact (isUnbroken_of_spaceRule ruled).1
  · exact (isUnbroken_of_spaceRule ruled).2

/-- The metadata lines of an accepted namespace have no colon before their marks. -/
theorem IsSpace.noColon {space : String} (accepted : IsSpace space) :
    ':' ∉ Text.upper space.toList := by
  obtain ⟨given, settled, ruled, same⟩ := accepted
  obtain ⟨letters, capital⟩ := admitted_of_spaceRule ruled
  have plain : ':' ∉ Text.upper given.toList := by
    refine Text.noColon_upper fun member => ?_
    have letter := letters ':' member
    revert letter
    decide
  rcases same with rfl | rfl
  · exact plain
  · rwa [capital, Text.upper_upper]

end Settings

/-- A sender whose device id and namespace settings accept, the namespace as it was given or as it
was settled. -/
structure Sender.IsSettled (sender : Sender) : Prop where
  device : ∃ settled, Settings.deviceRule (.text sender.deviceId) = .ok settled
  space : ∃ given settled, Settings.spaceRule (.text given) = .ok settled ∧
    (sender.space = given ∨ sender.space = settled)

namespace Sender.IsSettled

variable {sender : Sender}

theorem admitted (settled : sender.IsSettled) :
    VCard.admitsDevice sender.deviceId.toList = true := by
  obtain ⟨device, accepted⟩ := settled.device
  exact (Settings.isUnbroken_of_deviceRule accepted).1

theorem wholeDevice (settled : sender.IsSettled) :
    Text.isUnbroken sender.deviceId.toList = true := by
  obtain ⟨device, accepted⟩ := settled.device
  exact (Settings.isUnbroken_of_deviceRule accepted).2

theorem wholeSpace (settled : sender.IsSettled) : Text.isUnbroken sender.space.toList = true :=
  Settings.IsSpace.isUnbroken settled.space

end Sender.IsSettled

/-! ## What settings load -/

namespace Settings

theorem exists_of_together {α β : Type} {build : Checked (α -> β)} {part : Checked α} {result : β}
    (done : together build part = .ok result) :
    ∃ make value, build = .ok make ∧ part = .ok value ∧ make value = result := by
  cases build with
  | error faults => cases part <;> cases done
  | ok make =>
      cases part with
      | error faults => cases done
      | ok value => exact ⟨make, value, rfl, rfl, Except.ok.inj done⟩

/-- A setting has its standard value, or one that its rule made of a given value. -/
theorem check_cases {α : Type} {values : KeyedList String Value} {name : String} {standard : α}
    {rule : Value -> Except FieldProblem α} {setting : α}
    (checked : check values name standard rule = .ok setting) :
    setting = standard ∨ ∃ value, rule value = .ok setting := by
  rw [check] at checked
  split at checked
  · exact .inl (Except.ok.inj checked).symm
  · rename_i value _
    cases ruled : rule value with
    | error problem =>
        rw [ruled] at checked
        cases checked
    | ok result =>
        rw [ruled] at checked
        obtain rfl := Except.ok.inj checked
        exact .inr ⟨value, ruled⟩

theorem deviceRule_eq_ok {value : Value} {device : String}
    (accepted : deviceRule value = .ok device) : value = .text device := by
  cases value with
  | text given =>
      simp only [deviceRule, Field.text, bind, Except.bind] at accepted
      split at accepted
      · cases accepted
      · rw [Except.ok.inj accepted]
  | _ => cases accepted

theorem spaceRule_eq_ok {value : Value} {space : String} (accepted : spaceRule value = .ok space) :
    ∃ given, value = .text given := by
  cases value with
  | text given => exact ⟨given, rfl⟩
  | _ => cases accepted

/-- The settings that stand in a footer are checked like all others. -/
theorem checks_of_ofValues {values : KeyedList String Value} {settings : Settings}
    (made : ofValues values = .ok settings) :
    check values "device_id" placeholderDevice deviceRule = .ok settings.deviceId ∧
      check values "metadata_namespace" VCard.defaultNamespace spaceRule = .ok settings.space := by
  rw [ofValues] at made
  obtain ⟨_, access, toLayout, -, rfl⟩ := exists_of_together made
  obtain ⟨_, layout, toSpace, -, rfl⟩ := exists_of_together toLayout
  obtain ⟨_, space, toName, spaceChecked, rfl⟩ := exists_of_together toSpace
  obtain ⟨_, name, toDevice, -, rfl⟩ := exists_of_together toName
  obtain ⟨_, device, toHosts, deviceChecked, rfl⟩ := exists_of_together toDevice
  obtain ⟨_, hosts, toPort, -, rfl⟩ := exists_of_together toHosts
  obtain ⟨_, port, toHost, -, rfl⟩ := exists_of_together toPort
  obtain ⟨_, host, toDatabase, -, rfl⟩ := exists_of_together toHost
  obtain ⟨_, database, toDebug, -, rfl⟩ := exists_of_together toDatabase
  obtain ⟨_, debug, start, -, rfl⟩ := exists_of_together toDebug
  obtain rfl := Except.ok.inj start
  exact ⟨deviceChecked, spaceChecked⟩

theorem exists_ofValues_of_load {values : KeyedList String Value}
    {environment : KeyedList String String} {settings : Settings}
    (loaded : load values environment = .ok settings) :
    ∃ given, ofValues given = .ok settings := by
  rw [load] at loaded
  cases read : ofEnvironment environment with
  | error fault =>
      rw [read] at loaded
      cases loaded
  | ok given =>
      rw [read] at loaded
      cases made : ofValues (given ++ values) with
      | error faults =>
          simp only [bind, Except.bind, made] at loaded
          cases loaded
      | ok checked =>
          simp only [bind, Except.bind, made] at loaded
          obtain rfl := Except.ok.inj loaded
          exact ⟨_, made⟩

/-- Whatever is loaded can sign a footer. -/
theorem isSettled_of_load {values : KeyedList String Value} {environment : KeyedList String String}
    {settings : Settings} (loaded : load values environment = .ok settings) :
    settings.service.sender.IsSettled := by
  obtain ⟨given, made⟩ := exists_ofValues_of_load loaded
  obtain ⟨deviceChecked, spaceChecked⟩ := checks_of_ofValues made
  constructor
  · rcases check_cases deviceChecked with standard | ⟨value, accepted⟩
    · have accepted : deviceRule (.text placeholderDevice) = .ok placeholderDevice := by decide
      exact ⟨placeholderDevice, standard ▸ accepted⟩
    · obtain rfl := deviceRule_eq_ok accepted
      exact ⟨_, accepted⟩
  · rcases check_cases spaceChecked with standard | ⟨value, accepted⟩
    · exact ⟨VCard.defaultNamespace, VCard.defaultNamespace, by decide, .inl standard⟩
    · obtain ⟨given, rfl⟩ := spaceRule_eq_ok accepted
      exact ⟨given, _, accepted, .inr rfl⟩

end Settings

end PairedContacts
