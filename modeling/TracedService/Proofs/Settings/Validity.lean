import TracedService.Proofs.Fallible
import TracedService.Proofs.Text.Lowercase
import TracedService.Settings.Loading

/-! Settings that a service can be started with. Four fields are looked at, one after the other;
each is sound or not by itself, and the first one that is not is told. -/

namespace TracedService.Settings

variable {s : Settings} {text : String}

/-- A level's name, but for the case of letters of ASCII. -/
def NamesLevel (text : String) : Prop :=
  ∃ l : Log.Level, Text.lowered text = l.name

/-- The fields that are looked at. -/
inductive Field where
  | address
  | name
  | level
  | format
  deriving DecidableEq, Repr

namespace Field

/-- The order in which the fields are looked at. -/
def all : List Field :=
  [address, name, level, format]

/-- The field has a value that a service can be started with. -/
def Sound (s : Settings) : Field → Prop
  | address => ∃ a, SocketAddress.read? s.serverAddress = some a
  | name => ∃ c ∈ s.identity.name.toList, Text.isBlank c = false
  | level => NamesLevel s.logging.level
  | format => s.logging.format = "json" ∨ s.logging.format = "pretty"

/-- What is told of the field if its value is not sound. -/
def fault (s : Settings) : Field → RuleFault
  | address => .badAddress s.serverAddress
  | name => .blankName
  | level => .badLevel s.logging.level
  | format => .badFormat s.logging.format

/-- The first field whose value is not sound. -/
def FirstUnsound (s : Settings) (field : Field) : Prop :=
  ¬ field.Sound s ∧ ∃ before after, all = before ++ field :: after ∧ ∀ f ∈ before, f.Sound s

end Field

theorem plain_name (l : Log.Level) : Text.Plain l.name.toList := by
  cases l <;> decide

theorem mem_all (l : Log.Level) : l ∈ Log.Level.all := by
  cases l <;> decide

/-- Letters past ASCII are no part of a level's name, whatever they become in lower case. -/
theorem level?_isSome_iff : (level? text).isSome = true ↔ NamesLevel text := by
  have hname (l : Log.Level) : (l.name == Text.lowercase text) = true ↔
      Text.lowered text = l.name := by
    rw [beq_iff_eq, eq_comm, Text.lowercase_eq_iff (plain_name l)]
  rw [level?, List.find?_isSome]
  constructor
  · rintro ⟨l, -, hl⟩
    exact ⟨l, (hname l).mp hl⟩
  · rintro ⟨l, hl⟩
    exact ⟨l, mem_all l, (hname l).mpr hl⟩

instance (text : String) : Decidable (NamesLevel text) :=
  decidable_of_iff _ level?_isSome_iff

theorem NamesLevel.isAscii (h : NamesLevel text) : ∀ c ∈ text.toList, Text.isAscii c = true := by
  obtain ⟨l, hl⟩ := h
  refine Text.isAscii_of_lowered ?_
  rw [hl]
  exact fun c hc => (plain_name l c hc).1

namespace Field

theorem address_sound_iff :
    address.Sound s ↔ (SocketAddress.read? s.serverAddress).isSome = true :=
  Option.isSome_iff_exists.symm

theorem name_sound_iff : name.Sound s ↔ Text.isBlankText s.identity.name = false := by
  simp [Sound, Text.isBlankText]

theorem level_sound_iff : level.Sound s ↔ (level? s.logging.level).isSome = true :=
  level?_isSome_iff.symm

theorem format_sound_iff :
    format.Sound s ↔ RuleFault.formats.contains s.logging.format = true := by
  simp [Sound, RuleFault.formats]

instance (s : Settings) : (field : Field) → Decidable (field.Sound s)
  | address => decidable_of_iff _ address_sound_iff.symm
  | name => decidable_of_iff _ name_sound_iff.symm
  | level => decidable_of_iff _ level_sound_iff.symm
  | format => decidable_of_iff _ format_sound_iff.symm

end Field

theorem fault?_eq_find (s : Settings) :
    s.fault? = (Field.all.find? fun field => ¬ field.Sound s).map (Field.fault s) := by
  have haddress :
      (SocketAddress.read? s.serverAddress).isNone = true ↔ ¬ Field.address.Sound s := by
    simp [Field.address_sound_iff]
  have hname : Text.isBlankText s.identity.name = true ↔ ¬ Field.name.Sound s := by
    simp [Field.name_sound_iff]
  have hlevel : (level? s.logging.level).isNone = true ↔ ¬ Field.level.Sound s := by
    simp [Field.level_sound_iff]
  have hformat :
      (!RuleFault.formats.contains s.logging.format) = true ↔ ¬ Field.format.Sound s := by
    simp [Field.format_sound_iff]
  simp only [fault?, haddress, hname, hlevel, hformat, Field.all]
  by_cases ha : Field.address.Sound s
  case neg => simp [ha, Field.fault]
  by_cases hn : Field.name.Sound s
  case neg => simp [ha, hn, Field.fault]
  by_cases hl : Field.level.Sound s
  case neg => simp [ha, hn, hl, Field.fault]
  by_cases hf : Field.format.Sound s
  case neg => simp [ha, hn, hl, hf, Field.fault]
  simp [ha, hn, hl, hf]

theorem fault?_eq_some_iff {f : RuleFault} :
    s.fault? = some f ↔ ∃ field : Field, field.FirstUnsound s ∧ field.fault s = f := by
  simp [fault?_eq_find, List.find?_eq_some_iff_append, Field.FirstUnsound]

theorem fault?_eq_none_iff : s.fault? = none ↔ ∀ field : Field, field.Sound s := by
  have hall (field : Field) : field ∈ Field.all := by
    cases field <;> decide
  simp [fault?_eq_find, hall]

theorem validate_eq_ok_iff : s.validate = .ok () ↔ ∀ field : Field, field.Sound s := by
  rw [← fault?_eq_none_iff]
  unfold validate
  cases s.fault? <;> simp

theorem validate_eq_error_iff {e : SettingsFault} : s.validate = .error e ↔
    ∃ field : Field, field.FirstUnsound s ∧ .rule (field.fault s) = e := by
  have hfault : s.validate = .error e ↔ ∃ f, s.fault? = some f ∧ .rule f = e := by
    unfold validate
    cases s.fault? <;> simp
  constructor
  · intro h
    obtain ⟨f, hf, rfl⟩ := hfault.mp h
    obtain ⟨field, hfirst, rfl⟩ := fault?_eq_some_iff.mp hf
    exact ⟨field, hfirst, rfl⟩
  · rintro ⟨field, hfirst, rfl⟩
    exact hfault.mpr ⟨_, fault?_eq_some_iff.mpr ⟨field, hfirst, rfl⟩, rfl⟩

theorem validate_withLevel (h : s.validate = .ok ()) (level : String) :
    (s.withLevel level).validate =
      if NamesLevel level then .ok () else .error (.rule (.badLevel level)) := by
  have hsound := validate_eq_ok_iff.mp h
  split
  · next hlevel =>
    refine validate_eq_ok_iff.mpr fun field => ?_
    cases field with
    | address => exact hsound .address
    | name => exact hsound .name
    | level => exact hlevel
    | format => exact hsound .format
  · next hlevel =>
    have hbefore : ∀ f ∈ [Field.address, .name], f.Sound (s.withLevel level) := by
      simp only [List.forall_mem_cons, List.not_mem_nil, false_imp_iff, implies_true, and_true]
      exact ⟨hsound .address, hsound .name⟩
    exact validate_eq_error_iff.mpr
      ⟨.level, ⟨hlevel, [.address, .name], [.format], rfl, hbefore⟩, rfl⟩

variable {env : Environment} {file : FileContent}

theorem ofText_eq_ok_iff : ofText env text = .ok s ↔
    Reader.read (expand env text.toList) = .ok s ∧ s.validate = .ok () := by
  simp only [ofText, bind_eq_ok, mapError_eq_ok]
  constructor
  · rintro ⟨_, hread, _, hvalid, ⟨⟩⟩
    exact ⟨hread, hvalid⟩
  · rintro ⟨hread, hvalid⟩
    exact ⟨s, hread, (), hvalid, rfl⟩

theorem load_eq_ok_iff : load env file = .ok s ↔ ∃ content, file.text = .ok content ∧
    Reader.read (expand env content.toList) = .ok s ∧ s.validate = .ok () := by
  simp only [load, bind_eq_ok, mapError_eq_ok, ofText_eq_ok_iff]

theorem validate_of_load (h : load env file = .ok s) : s.validate = .ok () := by
  obtain ⟨content, -, -, hvalid⟩ := load_eq_ok_iff.mp h
  exact hvalid

theorem listenAddress_eq_ok_iff {a : SocketAddress} :
    s.listenAddress = .ok a ↔ SocketAddress.read? s.serverAddress = some a := by
  unfold listenAddress address?
  cases SocketAddress.read? s.serverAddress <;> simp

end TracedService.Settings
