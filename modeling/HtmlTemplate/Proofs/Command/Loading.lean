import HtmlTemplate.Command
import HtmlTemplate.Proofs.FileSystem

/-!
# Loading settings and models

Settings come from a file, and which file it is depends on what is there. What comes of a file is
told by what can be read from it: a file that cannot be read or has no meaning is a failure, and
each failure has its own kind (`loadsSettings_iff`, `loadsModel_iff`).
-/

set_option autoImplicit false

namespace HtmlTemplate.Command

/-- The file to read the settings from: the one that is given, or else the one of the working
directory, or else the one of the platform. -/
inductive SettingsFile (fs : FileSystem) (platform : Option String) :
    Option String → Option String → Prop
  | given (path : String) : SettingsFile fs platform (some path) (some path)
  | working : fs.exists? "plume/config.toml" = true →
      SettingsFile fs platform none (some "plume/config.toml")
  | shared {directory : String} : fs.exists? "plume/config.toml" = false →
      platform = some directory →
      fs.exists? (Path.join directory "plume/config.toml") = true →
      SettingsFile fs platform none (some (Path.join directory "plume/config.toml"))
  | nowhere : fs.exists? "plume/config.toml" = false →
      (∀ directory, platform = some directory →
        fs.exists? (Path.join directory "plume/config.toml") = false) →
      SettingsFile fs platform none none

/-- What comes of reading a file of settings. -/
inductive ReadsSettings (fs : FileSystem) (path : String) : Except Failure Settings → Prop
  | missing : fs.exists? path = false → ReadsSettings fs path (.error (.settings (.missing path)))
  | unreadable {reason : IoError} : fs.exists? path = true → fs.readText path = .error reason →
      ReadsSettings fs path (.error (.io reason))
  | malformed {text : String} : fs.readText path = .ok text →
      (Toml.parse? text).bind Settings.ofData? = none →
      ReadsSettings fs path (.error (.settings .malformed))
  | loaded {text : String} {settings : Settings} : fs.readText path = .ok text →
      (Toml.parse? text).bind Settings.ofData? = some settings →
      ReadsSettings fs path (.ok settings)

/-- What comes of loading the settings. Without a file there are no views, and no elements but those
of HTML. -/
inductive LoadsSettings (fs : FileSystem) (platform given : Option String) :
    Except Failure Settings → Prop
  | standard : SettingsFile fs platform given none →
      LoadsSettings fs platform given (.ok ⟨⟨none, "plume"⟩, ⟨true, []⟩⟩)
  | file {path : String} {outcome : Except Failure Settings} :
      SettingsFile fs platform given (some path) → ReadsSettings fs path outcome →
      LoadsSettings fs platform given outcome

/-- What comes of loading the model. Without a file it is null. -/
inductive LoadsModel (fs : FileSystem) : Option String → Except Failure Value → Prop
  | standard : LoadsModel fs none (.ok .null)
  | unreadable {path : String} {reason : IoError} : fs.readText path = .error reason →
      LoadsModel fs (some path) (.error (.io reason))
  | malformed {path text : String} : fs.readText path = .ok text →
      (Toml.parse? text).bind Value.ofToml? = none →
      LoadsModel fs (some path) (.error (.settings (.malformedModel path)))
  | loaded {path text : String} {model : Value} : fs.readText path = .ok text →
      (Toml.parse? text).bind Value.ofToml? = some model → LoadsModel fs (some path) (.ok model)

variable {fs : FileSystem} {platform given : Option String} {path : String}

theorem exists_settingsFile (fs : FileSystem) (platform given : Option String) :
    ∃ place, SettingsFile fs platform given place := by
  cases given with
  | some path => exact ⟨_, .given path⟩
  | none =>
    by_cases here : fs.exists? "plume/config.toml" = true
    · exact ⟨_, .working here⟩
    have absent := Bool.eq_false_iff.mpr here
    cases platform with
    | none => exact ⟨_, .nowhere absent nofun⟩
    | some directory =>
      by_cases there : fs.exists? (Path.join directory "plume/config.toml") = true
      · exact ⟨_, .shared absent rfl there⟩
      · refine ⟨_, .nowhere absent ?_⟩
        rintro _ ⟨⟩
        exact Bool.eq_false_iff.mpr there

theorem loadSettings_eq_elim {place : Option String}
    (found : SettingsFile fs platform given place) :
    loadSettings fs platform given = place.elim (.ok {}) (settingsIn fs) := by
  cases found with
  | given path => rfl
  | working here => simp [loadSettings, settingsPath, here]
  | shared absent named there => simp [loadSettings, settingsPath, absent, named, there]
  | nowhere absent absent' =>
    cases platform with
    | none => simp [loadSettings, settingsPath, absent]
    | some directory => simp [loadSettings, settingsPath, absent, absent' directory rfl]

theorem readText_eq_ok {text : String} (read : fs.readText path = .ok text) :
    readText fs path = .ok text :=
  Except.mapError_eq_ok_iff.mpr read

theorem readText_eq_error {reason : IoError} (unread : fs.readText path = .error reason) :
    readText fs path = .error (.io reason) :=
  Except.mapError_eq_error_iff.mpr ⟨reason, unread, rfl⟩

theorem settingsIn_eq {outcome : Except Failure Settings}
    (reads : ReadsSettings fs path outcome) : settingsIn fs path = outcome := by
  cases reads with
  | missing absent => simp [settingsIn, absent]
  | unreadable there unread =>
    simp [settingsIn, there, readText_eq_error unread, bind, Except.bind]
  | malformed read wrong =>
    have there := FileSystem.exists?_of_readText read
    simp [settingsIn, there, readText_eq_ok read, wrong, bind, Except.bind]
  | loaded read right =>
    have there := FileSystem.exists?_of_readText read
    simp [settingsIn, there, readText_eq_ok read, right, bind, Except.bind]

theorem exists_readsSettings (fs : FileSystem) (path : String) :
    ∃ outcome, ReadsSettings fs path outcome := by
  by_cases there : fs.exists? path = true
  · cases read : fs.readText path with
    | error reason => exact ⟨_, .unreadable there read⟩
    | ok text =>
      cases decoded : (Toml.parse? text).bind Settings.ofData? with
      | none => exact ⟨_, .malformed read decoded⟩
      | some settings => exact ⟨_, .loaded read decoded⟩
  · exact ⟨_, .missing (Bool.eq_false_iff.mpr there)⟩

theorem loadSettings_eq {outcome : Except Failure Settings}
    (loads : LoadsSettings fs platform given outcome) :
    loadSettings fs platform given = outcome := by
  cases loads with
  | standard nowhere => exact loadSettings_eq_elim nowhere
  | file found reads => exact (loadSettings_eq_elim found).trans (settingsIn_eq reads)

theorem loadsSettings_iff {outcome : Except Failure Settings} :
    LoadsSettings fs platform given outcome ↔ loadSettings fs platform given = outcome := by
  refine ⟨loadSettings_eq, ?_⟩
  rintro rfl
  have ⟨outcome, loads⟩ : ∃ outcome, LoadsSettings fs platform given outcome := by
    obtain ⟨place, found⟩ := exists_settingsFile fs platform given
    cases place with
    | none => exact ⟨_, .standard found⟩
    | some path =>
      obtain ⟨outcome, reads⟩ := exists_readsSettings fs path
      exact ⟨_, .file found reads⟩
  rwa [loadSettings_eq loads]

theorem LoadsSettings.unique {outcome other : Except Failure Settings}
    (loads : LoadsSettings fs platform given outcome)
    (loads' : LoadsSettings fs platform given other) : outcome = other :=
  (loadSettings_eq loads).symm.trans (loadSettings_eq loads')

theorem loadModel_eq {outcome : Except Failure Value} (loads : LoadsModel fs given outcome) :
    loadModel fs given = outcome := by
  cases loads with
  | standard => rfl
  | unreadable unread =>
    simp [loadModel, readText_eq_error unread, bind, Except.bind]
  | malformed read wrong =>
    simp [loadModel, readText_eq_ok read, wrong, bind, Except.bind]
  | loaded read right =>
    simp [loadModel, readText_eq_ok read, right, bind, Except.bind]

theorem loadsModel_iff {outcome : Except Failure Value} :
    LoadsModel fs given outcome ↔ loadModel fs given = outcome := by
  refine ⟨loadModel_eq, ?_⟩
  rintro rfl
  have ⟨outcome, loads⟩ : ∃ outcome, LoadsModel fs given outcome := by
    cases given with
    | none => exact ⟨_, .standard⟩
    | some path =>
      cases read : fs.readText path with
      | error reason => exact ⟨_, .unreadable read⟩
      | ok text =>
        cases decoded : (Toml.parse? text).bind Value.ofToml? with
        | none => exact ⟨_, .malformed read decoded⟩
        | some model => exact ⟨_, .loaded read decoded⟩
  rwa [loadModel_eq loads]

theorem LoadsModel.unique {outcome other : Except Failure Value}
    (loads : LoadsModel fs given outcome) (loads' : LoadsModel fs given other) : outcome = other :=
  (loadModel_eq loads).symm.trans (loadModel_eq loads')

end HtmlTemplate.Command
