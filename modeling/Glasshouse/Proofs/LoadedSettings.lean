import Mathlib.Data.List.Nodup
import Mathlib.Data.List.TakeWhile
import Glasshouse.Proofs.Numerals
import Glasshouse.Service.Rendering
import Glasshouse.Service.Sections

/-!
# Settings read back from the environment

An environment that holds the values of some settings, each in one variable, gives these settings
their values and all others their initial ones, wherever the variables stand and whatever the case
of their names; and the sections hand on the values under their own names. Main statement:
`environment_gives_settings`.
-/

namespace Glasshouse.Service

open Text

/-! ## Names without steps -/

/-- A path that has no step consists of characters of keys. -/
theorem isKeyChar_of_foldlM {rest : List Char} (hdot : '.' ∉ rest) (hbracket : '[' ∉ rest)
    {state final : PathState} (hstate : state = .keyStart ∨ state = .key)
    (h : rest.foldlM PathState.next state = some final) : ∀ c ∈ rest, isKeyChar c = true := by
  induction rest generalizing state with
  | nil => exact nofun
  | cons c rest ih =>
      obtain ⟨hc, hdots⟩ := not_or.mp (mt List.mem_cons.mpr hdot)
      obtain ⟨hc', hbrackets⟩ := not_or.mp (mt List.mem_cons.mpr hbracket)
      rw [List.foldlM_cons] at h
      obtain ⟨next, hnext, hrest⟩ := Option.bind_eq_some_iff.mp h
      have hkey : isKeyChar c = true ∧ next = .key := by
        rcases hstate with rfl | rfl
        · rw [PathState.next] at hnext
          split at hnext
          · next hchar => exact ⟨hchar, (Option.some.inj hnext).symm⟩
          · cases hnext
        · rw [PathState.next] at hnext
          split at hnext
          · next hchar => exact ⟨hchar, (Option.some.inj hnext).symm⟩
          · rw [PathState.opening, if_neg (Ne.symm hc), if_neg (Ne.symm hc')] at hnext
            cases hnext
      exact List.forall_mem_cons.mpr ⟨hkey.1, ih hdots hbrackets (Or.inr hkey.2) hrest⟩

/-- A rest of a name that has no step is a name as a whole. -/
theorem assignmentOf_of_plain {rest : List Char} (hdot : '.' ∉ rest) (hbracket : '[' ∉ rest)
    (value : String) : assignmentOf rest value = (String.ofList rest, .text value) := by
  rw [assignmentOf]
  by_cases hpath : isPath rest = true
  · rw [if_pos hpath]
    obtain ⟨final, hfinal, _⟩ := (Option.any_eq_true _ _).mp hpath
    have hchars := isKeyChar_of_foldlM hdot hbracket (Or.inl rfl) hfinal
    have hroot : rest.takeWhile isKeyChar = rest := List.takeWhile_eq_self_iff.mpr hchars
    have hend : rest.dropWhile isKeyChar = [] := List.dropWhile_eq_nil_iff.mpr hchars
    simp only [hroot, hend]
  · rw [if_neg hpath]

/-! ## Names of settings -/

namespace Setting

/-- Settings have different names. -/
theorem name_inj {a b : Setting} : a.name = b.name ↔ a = b := by
  have hnodup : (all.map name).Nodup := by decide +kernel
  refine ⟨fun h => ?_, fun h => congrArg name h⟩
  exact List.inj_on_of_nodup_map hnodup (mem_all a) (mem_all b) h

/-- No name of a setting has a step. -/
theorem name_plain (setting : Setting) : '.' ∉ setting.name.toList ∧ '[' ∉ setting.name.toList := by
  have hall : ∀ setting ∈ all, '.' ∉ setting.name.toList ∧ '[' ∉ setting.name.toList := by
    decide +kernel
  exact hall setting (mem_all setting)

end Setting

/-! ## Values -/

/-- The words for truth values are no numbers. -/
theorem flagWord?_toString (n : Nat) : flagWord? (toString n) = none := by
  have hletters : ["true", "on", "yes", "false", "off", "no"].all
      (fun word => !word.toList.all Char.isDigit) = true := by decide +kernel
  have hdigits : (toString n).toList.all Char.isDigit = true :=
    List.all_eq_true.mpr fun c hc => isDigit_of_mem_toString hc
  have hword : toString n ∉ ["true", "on", "yes", "false", "off", "no"] := by
    intro hmem
    have hletter := List.all_eq_true.mp hletters _ hmem
    rw [hdigits] at hletter
    cases hletter
  have hparts := List.mem_append.not.mp
    (show toString n ∉ ["true", "on", "yes"] ++ ["false", "off", "no"] from hword)
  obtain ⟨htrue, hfalse⟩ := not_or.mp hparts
  rw [flagWord?, if_neg htrue, if_neg hfalse]

/-- A number that fits 64 bits is read back. -/
theorem number?_toString {n : Nat} (h : n < Nat.pow 2 64) : number? (toString n) = some n := by
  rw [number?, lowerCase_toString, flagWord?_toString]
  exact unsigned?_toString h

/-- The text of a value is read as this value. -/
theorem readText_render (setting : Setting) (form : Form) (value : form.Value) :
    readText setting form (form.render value) = .ok value := by
  cases form with
  | text => rfl
  | count =>
      have hread : number? (toString (UInt64.toNat value)) = some (UInt64.toNat value) :=
        number?_toString (UInt64.toNat_lt value)
      rw [Form.render, readText, hread]
      exact congrArg Except.ok (UInt64.ofNat_toNat)
  | port =>
      have hfits : UInt16.toNat value < Nat.pow 2 16 := UInt16.toNat_lt value
      have hread : number? (toString (UInt16.toNat value)) = some (UInt16.toNat value) :=
        number?_toString (Nat.lt_trans hfits (by decide))
      rw [Form.render, readText, hread]
      dsimp only
      rw [if_pos hfits]
      exact congrArg Except.ok UInt16.ofNat_toNat
  | flag =>
      cases value with
      | false => rfl
      | true => rfl

/-! ## Variables -/

/-- A lowered name with the prefix, and what is left without it. -/
theorem drop_variablePrefix {variableName : String} {rest : List Char}
    (h : (lowerCase variableName).toList = variablePrefix.toList ++ rest) :
    variablePrefix.toList.isPrefixOf (lowerCase variableName).toList = true ∧
      (lowerCase variableName).toList.drop variablePrefix.length = rest := by
  rw [h]
  exact ⟨List.isPrefixOf_iff_prefix.mpr (List.prefix_append _ _), List.drop_left⟩

/-- A variable is named by a setting if its name in lower case is the prefix and the setting's
name. -/
theorem Setting.isNamedBy_iff {setting : Setting} {variableName : String} :
    setting.isNamedBy variableName = true ↔
      (lowerCase variableName).toList = variablePrefix.toList ++ setting.name.toList := by
  rw [isNamedBy, beq_iff_eq, ← String.toList_inj, String.toList_append]

/-- A variable whose name has no step assigns a setting exactly if it is named by it, and then its
value. -/
theorem assignment?_eq_some_iff {entry : String × String}
    (hplain : ∀ rest, (lowerCase entry.1).toList = variablePrefix.toList ++ rest →
      '.' ∉ rest ∧ '[' ∉ rest) {setting : Setting} {content : Content} :
    assignment? entry = some (setting.name, content) ↔
      setting.isNamedBy entry.1 = true ∧ content = .text entry.2 := by
  rw [Setting.isNamedBy_iff, assignment?]
  by_cases hprefix : variablePrefix.toList <+: (lowerCase entry.1).toList
  · obtain ⟨rest, hrest⟩ := hprefix
    obtain ⟨hdot, hbracket⟩ := hplain rest hrest.symm
    obtain ⟨hstarts, hdrop⟩ := drop_variablePrefix hrest.symm
    rw [if_pos hstarts, hdrop, assignmentOf_of_plain hdot hbracket, ← hrest, List.append_right_inj,
      Option.some_inj, Prod.mk.injEq, ← String.toList_inj, String.toList_ofList]
    exact and_congr_right fun _ => eq_comm
  · have hstarts : ¬ variablePrefix.toList.isPrefixOf (lowerCase entry.1).toList = true :=
      fun h => hprefix (List.isPrefixOf_iff_prefix.mp h)
    rw [if_neg hstarts]
    refine ⟨nofun, fun ⟨hname, _⟩ => ?_⟩
    exact absurd ⟨_, hname.symm⟩ hprefix

/-- What the variables of an environment assign to a name, if they agree. -/
theorem content?_eq_some {environment : Environment} {name : String} {content : Content}
    (hsome : ∃ entry ∈ environment, assignment? entry = some (name, content))
    (hall : ∀ entry ∈ environment, ∀ other, assignment? entry = some (name, other) →
      other = content) : environment.content? name = some content := by
  rw [Environment.content?]
  cases hlookup : (environment.filterMap assignment?).reverse.lookup name with
  | none =>
      obtain ⟨entry, hentry, hassigns⟩ := hsome
      have hmem : (name, content) ∈ (environment.filterMap assignment?).reverse :=
        List.mem_reverse.mpr (List.mem_filterMap.mpr ⟨entry, hentry, hassigns⟩)
      have hne := List.lookup_eq_none_iff.mp hlookup _ hmem
      simp at hne
  | some other =>
      obtain ⟨front, back, hsplit, _⟩ := List.lookup_eq_some_iff.mp hlookup
      have hmem : (name, other) ∈ (environment.filterMap assignment?).reverse := by
        rw [hsplit]
        exact List.mem_append_right _ List.mem_cons_self
      obtain ⟨entry, hentry, hassigns⟩ := List.mem_filterMap.mp (List.mem_reverse.mp hmem)
      rw [hall entry hentry other hassigns]

/-- A name to which no variable assigns anything has no content. -/
theorem content?_eq_none {environment : Environment} {name : String}
    (h : ∀ entry ∈ environment, ∀ content, assignment? entry ≠ some (name, content)) :
    environment.content? name = none := by
  refine List.lookup_eq_none_iff.mpr fun assigned hmem => ?_
  obtain ⟨entry, hentry, hassigns⟩ := List.mem_filterMap.mp (List.mem_reverse.mp hmem)
  have hne : name ≠ assigned.1 := by
    rintro rfl
    exact h entry hentry assigned.2 hassigns
  simpa using hne

/-! ## Environments that hold settings -/

/-- A variable with its name in lower case. -/
def inLowerCase (entry : String × String) : String × String :=
  (lowerCase entry.1, entry.2)

/-- Being named by a setting depends on the name in lower case only. -/
theorem map_inLowerCase_filter (environment : Environment) (setting : Setting) :
    (environment.filter fun entry => setting.isNamedBy entry.1).map inLowerCase =
      (environment.map inLowerCase).filter fun entry =>
        entry.1 == variablePrefix ++ setting.name := by
  simp only [List.filter_map, Function.comp_def, inLowerCase, Setting.isNamedBy]

namespace Environment.Renders

variable {environment other : Environment} {settings : Settings} {chosen : Setting → Prop}
  {setting : Setting} {entry : String × String}

/-- No name of a variable has a step behind the prefix. -/
theorem plain (h : environment.Renders settings chosen) (hentry : entry ∈ environment) :
    ∀ rest, (lowerCase entry.1).toList = variablePrefix.toList ++ rest →
      '.' ∉ rest ∧ '[' ∉ rest := by
  intro rest hrest
  rcases h.covered entry hentry with ⟨named, _, hname⟩ | hforeign
  · rw [Setting.isNamedBy_iff, hrest, List.append_right_inj] at hname
    rw [hname]
    exact named.name_plain
  · exact (hforeign rest hrest).2

/-- Only chosen settings name a variable. -/
theorem chosen_of_isNamedBy (h : environment.Renders settings chosen) (hentry : entry ∈ environment)
    (hname : setting.isNamedBy entry.1 = true) : chosen setting := by
  rw [Setting.isNamedBy_iff] at hname
  rcases h.covered entry hentry with ⟨named, hchosen, hnamed⟩ | hforeign
  · rw [Setting.isNamedBy_iff, hname, List.append_right_inj, String.toList_inj,
      Setting.name_inj] at hnamed
    rwa [hnamed]
  · exact absurd rfl ((hforeign _ hname).1 setting)

/-- A chosen setting has the text of its value. -/
theorem content?_of_chosen (h : environment.Renders settings chosen) (hchosen : chosen setting) :
    environment.content? setting.name = some (.text (setting.form.render (settings setting))) := by
  obtain ⟨name, hfilter⟩ := h.unique setting hchosen
  -- The variables that assign this setting are those named by it, and there is one of them.
  have hassigns {entry : String × String} (hentry : entry ∈ environment) {content : Content}
      (hassigned : assignment? entry = some (setting.name, content)) :
      content = .text (setting.form.render (settings setting)) := by
    obtain ⟨hname, rfl⟩ := (assignment?_eq_some_iff (h.plain hentry)).mp hassigned
    have hmem : entry ∈ environment.filter fun entry => setting.isNamedBy entry.1 :=
      List.mem_filter.mpr ⟨hentry, hname⟩
    rw [hfilter, List.mem_singleton] at hmem
    rw [hmem]
  have hmem : (name, setting.form.render (settings setting)) ∈
      environment.filter fun entry => setting.isNamedBy entry.1 := by
    rw [hfilter]
    exact List.mem_singleton_self _
  obtain ⟨hentry, hname⟩ := List.mem_filter.mp hmem
  refine content?_eq_some ⟨_, hentry, ?_⟩ fun entry hentry other => hassigns hentry
  exact (assignment?_eq_some_iff (h.plain hentry)).mpr ⟨hname, rfl⟩

/-- A setting that is not chosen has no content. -/
theorem content?_of_not_chosen (h : environment.Renders settings chosen)
    (hchosen : ¬ chosen setting) : environment.content? setting.name = none := by
  refine content?_eq_none fun entry hentry content hassigned => hchosen ?_
  obtain ⟨hname, _⟩ := (assignment?_eq_some_iff (h.plain hentry)).mp hassigned
  exact h.chosen_of_isNamedBy hentry hname

/-- A setting is read as its value if it is chosen and as its initial value if not. -/
theorem read_eq_ok [DecidablePred chosen] (h : environment.Renders settings chosen)
    (setting : Setting) : environment.read setting =
      .ok (if chosen setting then settings setting else setting.initial) := by
  rw [Environment.read]
  by_cases hchosen : chosen setting
  · rw [h.content?_of_chosen hchosen, if_pos hchosen]
    exact readText_render setting setting.form (settings setting)
  · rw [h.content?_of_not_chosen hchosen, if_neg hchosen]

/-- The order of the variables and the case of their names do not matter. -/
theorem reordered (h : environment.Renders settings chosen)
    (hperm : (other.map inLowerCase).Perm (environment.map inLowerCase)) :
    other.Renders settings chosen := by
  constructor
  · intro setting hchosen
    obtain ⟨name, hfilter⟩ := h.unique setting hchosen
    have hnamed := hperm.filter fun entry => entry.1 == variablePrefix ++ setting.name
    rw [← map_inLowerCase_filter, ← map_inLowerCase_filter, hfilter, List.map_singleton,
      List.perm_singleton, List.map_eq_singleton_iff] at hnamed
    obtain ⟨⟨otherName, value⟩, hone, hsame⟩ := hnamed
    obtain ⟨_, rfl⟩ := Prod.mk.inj hsame
    exact ⟨otherName, hone⟩
  · intro entry hentry
    have hmem := hperm.subset (List.mem_map_of_mem hentry)
    obtain ⟨twin, htwin, hsame⟩ := List.mem_map.mp hmem
    have hlower : lowerCase twin.1 = lowerCase entry.1 := congrArg Prod.fst hsame
    rcases h.covered twin htwin with ⟨setting, hchosen, hname⟩ | hforeign
    · refine Or.inl ⟨setting, hchosen, ?_⟩
      rwa [Setting.isNamedBy, ← hlower]
    · exact Or.inr fun rest hrest => hforeign rest (hlower ▸ hrest)

end Environment.Renders

/-- Settings that can all be read are those of the environment. -/
theorem settings_eq_ok {environment : Environment} {values : Settings}
    (h : ∀ setting, environment.read setting = .ok (values setting)) :
    environment.settings = .ok values := by
  have hfaultless :
      (Setting.all.findSome? fun setting => faultOf? (environment.read setting)) = none := by
    refine List.findSome?_eq_none_iff.mpr fun setting _ => ?_
    rw [h setting]
    rfl
  rw [Environment.settings, hfaultless]
  refine congrArg Except.ok (funext fun setting => ?_)
  rw [h setting]
  rfl

/-- An environment that holds the values of the chosen settings, each in one variable of that name
in any case, among others that denote no setting and no part of one, is read without a fault: each
chosen setting has its value, as the same text, number or truth value, and every other setting its
initial value. So it is for every environment with the same variables in another order or with their
names in another case. Each section holds the values of its own settings, each in its own place. -/
theorem environment_gives_settings (environment : Environment) (settings : Settings)
    (chosen : Setting → Prop) [DecidablePred chosen] (h : environment.Renders settings chosen) :
    let value : Settings := fun setting =>
      if chosen setting then settings setting else setting.initial
    environment.settings = .ok value ∧
    (∀ other : Environment, (other.map inLowerCase).Perm (environment.map inLowerCase) →
      other.settings = .ok value) ∧
    value.ingest = ⟨value .ignoreSuffix, value .analyticsDataset, value .analyticsTable⟩ ∧
    value.consumer =
      { stream := value .natsStream
        consumer := value .natsConsumerName
        filter := value .natsSubject
        batchSize := UInt64.toNat (value .natsBatchSize)
        maxWait := UInt64.toNat (value .natsBatchWaitSecs) * 1000000000 } ∧
    value.snapshots =
      { host := value .postgresHost
        port := value .postgresPort
        database := value .postgresDatabase
        username := value .postgresUsername
        password := value .postgresPassword
        poolSize := value .postgresMaxPoolSize } ∧
    value.analytics =
      { url := value .clickhouseUrl
        username := value .clickhouseUsername
        password := value .clickhousePassword } ∧
    value.reporting =
      { serviceName := value .otelServiceName
        endpoint := value .otelEndpoint
        enabled := value .otelEnabled
        logLevel := value .logLevel } := by
  intro value
  refine ⟨settings_eq_ok h.read_eq_ok, fun other hperm => ?_, rfl, rfl, rfl, rfl, rfl⟩
  exact settings_eq_ok (h.reordered hperm).read_eq_ok

/-- A name stands for no setting if it lacks the prefix, or if what follows the prefix is no name of
a setting and has no step. -/
theorem isForeign_iff {variableName : String} :
    IsForeign variableName ↔
      (variablePrefix.toList.isPrefixOf (lowerCase variableName).toList = true →
        let rest := (lowerCase variableName).toList.drop variablePrefix.length
        (∀ setting ∈ Setting.all, rest ≠ setting.name.toList) ∧ '.' ∉ rest ∧ '[' ∉ rest) := by
  constructor
  · intro hforeign hstarts
    obtain ⟨rest, hrest⟩ := List.isPrefixOf_iff_prefix.mp hstarts
    obtain ⟨hnames, hsteps⟩ := hforeign rest hrest.symm
    rw [(drop_variablePrefix hrest.symm).2]
    exact ⟨fun setting _ => hnames setting, hsteps⟩
  · intro h rest hrest
    obtain ⟨hstarts, hdrop⟩ := drop_variablePrefix hrest
    rw [hdrop] at h
    obtain ⟨hnames, hsteps⟩ := h hstarts
    exact ⟨fun setting => hnames setting (Setting.mem_all setting), hsteps⟩

instance (variableName : String) : Decidable (IsForeign variableName) :=
  decidable_of_iff' _ isForeign_iff

/-- Settings of which some look like values of another form, among them the largest numbers. -/
def unusualSettings : Settings
  | .natsBatchSize => (18446744073709551615 : UInt64)
  | .postgresPort => (65535 : UInt16)
  | .postgresPassword => "true"
  | .clickhousePassword => "17"
  | .otelEnabled => true
  | setting => setting.initial

/-- The variables of the unusual settings, in letters of either case and among others. -/
def unusualEnvironment : Environment :=
  [("PATH", "/usr/bin"), ("Hydroponics_Nats_Batch_Size", "18446744073709551615"),
    ("hydroponics_postgres_port", "65535"), ("HYDROPONICS_POSTGRES_PASSWORD", "true"),
    ("HYDROPONICS_CLICKHOUSE_PASS", "1"), ("HYDROPONICS_clickhouse_password", "17"),
    ("HYDROPONICS_OTEL_ENABLED", "true")]

/-- The settings in the unusual environment. -/
def unusualChoice : List Setting :=
  [.natsBatchSize, .postgresPort, .postgresPassword, .clickhousePassword, .otelEnabled]

/-- The unusual environment holds the unusual settings. -/
theorem unusualEnvironment_renders :
    unusualEnvironment.Renders unusualSettings fun setting => setting ∈ unusualChoice := by
  constructor
  · intro setting hchosen
    simp only [unusualChoice, List.mem_cons, List.not_mem_nil, or_false] at hchosen
    rcases hchosen with rfl | rfl | rfl | rfl | rfl
    · exact ⟨"Hydroponics_Nats_Batch_Size", by decide +kernel⟩
    · exact ⟨"hydroponics_postgres_port", by decide +kernel⟩
    · exact ⟨"HYDROPONICS_POSTGRES_PASSWORD", by decide +kernel⟩
    · exact ⟨"HYDROPONICS_clickhouse_password", by decide +kernel⟩
    · exact ⟨"HYDROPONICS_OTEL_ENABLED", by decide +kernel⟩
  · decide +kernel

/-- The unusual settings are read from their environment, forwards and backwards: passwords that
look like a truth value and a number stay texts, and a setting without a variable has its initial
value. -/
theorem unusualEnvironment_read :
    ∃ value : Settings, unusualEnvironment.settings = .ok value ∧
      Environment.settings unusualEnvironment.reverse = .ok value ∧
      value .natsBatchSize = (18446744073709551615 : UInt64) ∧
      value.snapshots = ⟨"localhost", 65535, "hydroponics", "hydroponics", "true", 10⟩ ∧
      value.analytics = ⟨"http://localhost:8123", "default", "17"⟩ ∧
      value .otelEnabled = true := by
  obtain ⟨hread, hothers, _, _, hsnapshots, hanalytics, _⟩ := environment_gives_settings
    unusualEnvironment unusualSettings (fun setting => setting ∈ unusualChoice)
    unusualEnvironment_renders
  refine ⟨_, hread, hothers _ ?_, rfl, hsnapshots.trans rfl, hanalytics.trans rfl, rfl⟩
  exact (unusualEnvironment.reverse_perm).map inLowerCase

end Glasshouse.Service
