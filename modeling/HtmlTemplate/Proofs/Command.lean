import HtmlTemplate.Proofs.Command.Loading
import HtmlTemplate.Proofs.Engine

/-!
# What a run of the command leaves

A run has five stages before it writes, and each of them may fail for reasons of its own (`Fails`).
The failure of the first stage that fails is the one that the run ends with, and it leaves the files
as they were. A run that ends well has written one file (`first_failure_or_page`). The page is made
of the files as they were before, so that file may well be one of those that the page is made of.
-/

set_option autoImplicit false

namespace HtmlTemplate

/-- The settings that a run goes by: those that it loads, but with the views in the directory that
the arguments name, if they name one. -/
def Arguments.settingsFrom (arguments : Arguments) (settings : Settings) : Settings where
  views := ⟨arguments.views.or settings.views.root, settings.views.extension⟩
  elements := settings.elements

namespace Command

/-! ## Stages -/

/-- What a run has to do before it writes. -/
inductive Stage
  | settings
  | model
  | input
  | template
  | page
deriving DecidableEq, Repr

def Stage.inOrder : List Stage :=
  [.settings, .model, .input, .template, .page]

/-- The stages before a stage. -/
def Stage.earlier (stage : Stage) : List Stage :=
  inOrder.takeWhile (· ≠ stage)

variable {fs : FileSystem} {platform : Option String} {arguments : Arguments}
  {failure : Failure} {html : String}

/-- A stage fails, whatever becomes of the stages before it. Only making the page needs what they
give: each of the others is a matter of the files that it reads itself. -/
inductive Fails (fs : FileSystem) (platform : Option String) (arguments : Arguments) :
    Stage → Failure → Prop
  | settings {failure : Failure} : LoadsSettings fs platform arguments.config (.error failure) →
      Fails fs platform arguments .settings failure
  | model {failure : Failure} : LoadsModel fs arguments.model (.error failure) →
      Fails fs platform arguments .model failure
  | input {reason : IoError} : fs.readText arguments.input = .error reason →
      Fails fs platform arguments .input (.io reason)
  | template {source : String} {reason : ParseError} : fs.readText arguments.input = .ok source →
      Document.parse source = .error reason →
      Fails fs platform arguments .template (.parse reason source)
  | page {settings : Settings} {model : Value} {source : String} {document : Document}
      {engine : Engine} {reason : RenderError} :
      LoadsSettings fs platform arguments.config (.ok settings) →
      LoadsModel fs arguments.model (.ok model) → fs.readText arguments.input = .ok source →
      Document.parse source = .ok document →
      engine.GoesBy (arguments.settingsFrom settings) fs →
      engine.toEnvironment.render model document.roots = .error reason →
      Fails fs platform arguments .page (.render reason)

def Passes (fs : FileSystem) (platform : Option String) (arguments : Arguments)
    (stage : Stage) : Prop :=
  ∀ failure, ¬ Fails fs platform arguments stage failure

/-- A stage fails, and every stage before it passes. -/
structure FailsFirst (fs : FileSystem) (platform : Option String) (arguments : Arguments)
    (stage : Stage) (failure : Failure) : Prop where
  fails : Fails fs platform arguments stage failure
  earlier : ∀ before ∈ stage.earlier, Passes fs platform arguments before

/-- The page of the input against the model, by the engine that goes by the settings of the run and
finds the views that there are before it. -/
inductive Makes (fs : FileSystem) (platform : Option String) (arguments : Arguments) :
    String → Prop
  | intro {settings : Settings} {model : Value} {source html : String} {engine : Engine} :
      LoadsSettings fs platform arguments.config (.ok settings) →
      LoadsModel fs arguments.model (.ok model) → fs.readText arguments.input = .ok source →
      engine.GoesBy (arguments.settingsFrom settings) fs →
      engine.renderSource source model = .ok html →
      Makes fs platform arguments html

theorem settingsFrom_eq_elim (arguments : Arguments) (settings : Settings) :
    arguments.settingsFrom settings = arguments.views.elim settings settings.withRoot := by
  unfold Arguments.settingsFrom
  cases arguments.views with
  | none => rfl
  | some root => rfl

theorem passes_settings {settings : Settings}
    (loaded : LoadsSettings fs platform arguments.config (.ok settings)) :
    Passes fs platform arguments .settings := by
  intro failure fails
  cases fails with
  | settings failed => cases loaded.unique failed

theorem passes_model {model : Value} (modelled : LoadsModel fs arguments.model (.ok model)) :
    Passes fs platform arguments .model := by
  intro failure fails
  cases fails with
  | model failed => cases modelled.unique failed

theorem passes_input {source : String} (read : fs.readText arguments.input = .ok source) :
    Passes fs platform arguments .input := by
  intro failure fails
  cases fails with
  | input unread => cases read.symm.trans unread

theorem passes_template {source : String} {document : Document}
    (read : fs.readText arguments.input = .ok source)
    (parsed : Document.parse source = .ok document) :
    Passes fs platform arguments .template := by
  intro failure fails
  cases fails with
  | template read' unparsed =>
    cases read.symm.trans read'
    cases parsed.symm.trans unparsed

theorem page_eq_ok_iff :
    page fs platform arguments = .ok html ↔ Makes fs platform arguments html := by
  constructor
  · intro made
    obtain ⟨settings, loaded, made⟩ := Except.bind_eq_ok_iff.mp made
    obtain ⟨model, modelled, made⟩ := Except.bind_eq_ok_iff.mp made
    obtain ⟨source, read, made⟩ := Except.bind_eq_ok_iff.mp made
    rw [← settingsFrom_eq_elim] at made
    exact .intro (loadsSettings_iff.mpr loaded) (loadsModel_iff.mpr modelled)
      (Except.mapError_eq_ok_iff.mp read) (Engine.goesBy_ofSettings _ fs) made
  · rintro ⟨loaded, modelled, read, goes, made⟩
    obtain rfl := Engine.goesBy_iff.mp goes
    refine Except.bind_eq_ok_iff.mpr ⟨_, loadSettings_eq loaded, ?_⟩
    refine Except.bind_eq_ok_iff.mpr ⟨_, loadModel_eq modelled, ?_⟩
    refine Except.bind_eq_ok_iff.mpr ⟨_, Except.mapError_eq_ok_iff.mpr read, ?_⟩
    rwa [← settingsFrom_eq_elim]

theorem Makes.unique {html' : String} (made : Makes fs platform arguments html)
    (made' : Makes fs platform arguments html') : html = html' :=
  Except.ok.inj ((page_eq_ok_iff.mpr made).symm.trans (page_eq_ok_iff.mpr made'))

theorem exists_failsFirst_of_page (failed : page fs platform arguments = .error failure) :
    ∃ stage, FailsFirst fs platform arguments stage failure := by
  -- stage by stage: the failure is that of this stage, or it passes and the failure comes later
  rcases Except.bind_eq_error_iff.mp failed with failed | ⟨settings, loaded, failed⟩
  · exact ⟨.settings, .settings (loadsSettings_iff.mpr failed), nofun⟩
  replace loaded := loadsSettings_iff.mpr loaded
  have settingsPass : Passes fs platform arguments .settings := passes_settings loaded
  rcases Except.bind_eq_error_iff.mp failed with failed | ⟨model, modelled, failed⟩
  · exact ⟨.model, .model (loadsModel_iff.mpr failed),
      by simpa [Stage.earlier, Stage.inOrder]⟩
  replace modelled := loadsModel_iff.mpr modelled
  have modelPass : Passes fs platform arguments .model := passes_model modelled
  rcases Except.bind_eq_error_iff.mp failed with failed | ⟨source, read, failed⟩
  · obtain ⟨reason, unread, rfl⟩ := Except.mapError_eq_error_iff.mp failed
    exact ⟨.input, .input unread, by simp [Stage.earlier, Stage.inOrder, *]⟩
  replace read := Except.mapError_eq_ok_iff.mp read
  have inputPass : Passes fs platform arguments .input := passes_input read
  rcases Except.bind_eq_error_iff.mp failed with failed | ⟨document, parsed, failed⟩
  · obtain ⟨reason, unparsed, rfl⟩ := Except.mapError_eq_error_iff.mp failed
    exact ⟨.template, .template read unparsed, by simp [Stage.earlier, Stage.inOrder, *]⟩
  replace parsed := Except.mapError_eq_ok_iff.mp parsed
  have templatePass : Passes fs platform arguments .template := passes_template read parsed
  rw [← settingsFrom_eq_elim] at failed
  obtain ⟨reason, unrendered, rfl⟩ := Except.mapError_eq_error_iff.mp failed
  exact ⟨.page, .page loaded modelled read parsed (Engine.goesBy_ofSettings _ fs) unrendered,
    by simp [Stage.earlier, Stage.inOrder, *]⟩

theorem Makes.passes (made : Makes fs platform arguments html) (stage : Stage) :
    Passes fs platform arguments stage := by
  obtain ⟨loaded, modelled, read, goes, made⟩ := made
  obtain ⟨document, parsed, made⟩ := Except.bind_eq_ok_iff.mp made
  replace parsed := Except.mapError_eq_ok_iff.mp parsed
  replace made := Except.mapError_eq_ok_iff.mp made
  cases stage with
  | settings => exact passes_settings loaded
  | model => exact passes_model modelled
  | input => exact passes_input read
  | template => exact passes_template read parsed
  | page =>
    intro other fails
    cases fails with
    | page loaded' modelled' read' parsed' goes' failed =>
      cases loaded.unique loaded'
      cases modelled.unique modelled'
      cases read.symm.trans read'
      cases parsed.symm.trans parsed'
      cases goes.unique goes'
      cases made.symm.trans failed

theorem Fails.unique {stage : Stage} {other : Failure}
    (fails : Fails fs platform arguments stage failure)
    (fails' : Fails fs platform arguments stage other) : failure = other := by
  cases fails with
  | settings loads =>
    cases fails' with
    | settings loads' => exact Except.error.inj (loads.unique loads')
  | model loads =>
    cases fails' with
    | model loads' => exact Except.error.inj (loads.unique loads')
  | input unread =>
    cases fails' with
    | input unread' => exact congrArg _ (Except.error.inj (unread.symm.trans unread'))
  | template read unparsed =>
    cases fails' with
    | template read' unparsed' =>
      cases read.symm.trans read'
      cases unparsed.symm.trans unparsed'
      rfl
  | page loads modelled read parsed goes failed =>
    cases fails' with
    | page loads' modelled' read' parsed' goes' failed' =>
      cases loads.unique loads'
      cases modelled.unique modelled'
      cases read.symm.trans read'
      cases parsed.symm.trans parsed'
      cases goes.unique goes'
      exact congrArg _ (Except.error.inj (failed.symm.trans failed'))

theorem Stage.mem_earlier_or (a b : Stage) : a = b ∨ a ∈ b.earlier ∨ b ∈ a.earlier := by
  cases a <;> cases b <;> decide

/-- There is at most one first failure. -/
theorem FailsFirst.unique {stage stage' : Stage} {other : Failure}
    (first : FailsFirst fs platform arguments stage failure)
    (first' : FailsFirst fs platform arguments stage' other) : failure = other := by
  rcases Stage.mem_earlier_or stage stage' with rfl | before | before
  · exact first.fails.unique first'.fails
  · exact absurd first.fails (first'.earlier stage before failure)
  · exact absurd first'.fails (first.earlier stage' before other)

theorem page_eq_error_iff : page fs platform arguments = .error failure ↔
    ∃ stage, FailsFirst fs platform arguments stage failure := by
  refine ⟨exists_failsFirst_of_page, fun ⟨stage, first⟩ => ?_⟩
  cases outcome : page fs platform arguments with
  | ok html => exact absurd first.fails ((page_eq_ok_iff.mp outcome).passes stage failure)
  | error other =>
    obtain ⟨stage', first'⟩ := exists_failsFirst_of_page outcome
    rw [first.unique first']

/-! ## Runs -/

/-- The three ways in which a run may end. -/
theorem run_cases (fs : FileSystem) (platform : Option String) (arguments : Arguments) :
    (∃ failure, page fs platform arguments = .error failure ∧
        run fs platform arguments = (.error failure, fs)) ∨
      (∃ html reason, page fs platform arguments = .ok html ∧
        fs.writeText arguments.output html = .error reason ∧
        run fs platform arguments = (.error (.io reason), fs)) ∨
      ∃ html written, page fs platform arguments = .ok html ∧
        fs.writeText arguments.output html = .ok written ∧
        run fs platform arguments = (.ok (), written) := by
  unfold run
  cases page fs platform arguments with
  | error failure => exact Or.inl ⟨failure, rfl, rfl⟩
  | ok html =>
    refine Or.inr ?_
    cases outcome : fs.writeText arguments.output html with
    | error reason => exact Or.inl ⟨html, reason, rfl, outcome, by simp only [outcome]⟩
    | ok written => exact Or.inr ⟨html, written, rfl, outcome, by simp only [outcome]⟩

/-- If a stage fails and no earlier one does, the run ends with the failure of this stage and leaves
the files as they were. There is no other failure but that of writing a complete page, and this one
leaves the files as they were too. A run without a failure writes the output and nothing else. The
output then reads as the page that the files gave as they were before, whether or not it was one of
them. -/
theorem first_failure_or_page (fs : FileSystem) (platform : Option String) (arguments : Arguments) :
    (∀ stage failure, FailsFirst fs platform arguments stage failure →
        run fs platform arguments = (.error failure, fs)) ∧
      (∀ failure after, run fs platform arguments = (.error failure, after) → after = fs ∧
        ((∃ stage, FailsFirst fs platform arguments stage failure) ∨
          ∃ html reason, Makes fs platform arguments html ∧
            fs.writeText arguments.output html = .error reason ∧ failure = .io reason)) ∧
      ∀ after, run fs platform arguments = (.ok (), after) →
        ∃ html location, Makes fs platform arguments html ∧
          fs.locate arguments.output = .ok location ∧ fs.WrittenAt location html after ∧
          after.readText arguments.output = .ok html := by
  refine ⟨fun stage failure first => ?_, ?_⟩
  · rw [run, page_eq_error_iff.mpr ⟨stage, first⟩]
  rcases run_cases fs platform arguments with ⟨failure, failed, ends⟩ |
    ⟨html, reason, made, refused, ends⟩ | ⟨html, written, made, done, ends⟩
  · refine ⟨fun failure' after ended => ?_, fun after ended => ?_⟩
    · cases ends.symm.trans ended
      exact ⟨rfl, Or.inl (page_eq_error_iff.mp failed)⟩
    · cases ends.symm.trans ended
  · refine ⟨fun failure' after ended => ?_, fun after ended => ?_⟩
    · cases ends.symm.trans ended
      exact ⟨rfl, Or.inr ⟨html, reason, page_eq_ok_iff.mp made, refused, rfl⟩⟩
    · cases ends.symm.trans ended
  · refine ⟨fun failure' after ended => ?_, fun after ended => ?_⟩
    · cases ends.symm.trans ended
    · cases ends.symm.trans ended
      obtain ⟨location, leads, free, writtenAt⟩ := FileSystem.exists_writtenAt_of_writeText done
      exact ⟨html, location, page_eq_ok_iff.mp made, leads, writtenAt,
        writtenAt.readText free leads⟩

/-- The page takes the place of the view that is in it. It is found in the directory of the
arguments and not in that of the settings, which name its extension and its element, and its text is
from the model. -/
theorem first_failure_or_page_over_view :
    let settings := "views.root = 'other'\nviews.extension = 'view'\n" ++
      "elements.html = false\nelements.extra = ['note']"
    let fs := (FileSystem.empty []).add ["page"] (.file "partial(card)".toUTF8)
      |>.add ["settings"] (.file settings.toUTF8)
      |>.add ["model"] (.file "name = 'Ada'".toUTF8)
      |>.add ["views", "card.view"] (.file "note(name)".toUTF8)
    let arguments : Arguments :=
      ⟨"page", "views/card.view", some "model", some "settings", some "views", "info"⟩
    ∃ after, run fs none arguments = (.ok (), after) ∧
      fs.readText "views/card.view" = .ok "note(name)" ∧
      after.readText "views/card.view" = .ok "<note>Ada</note>" := by
  intro settings fs arguments
  have leads : ∀ path ∈ ["page", "settings", "model"], fs.locate path = .ok [path] := by
    simp only [FileSystem.locate_eq_ok_iff]
    simp only [← Except.toOption_eq_some_iff]
    decide +kernel
  have viewLeads : fs.locate "views/card.view" = .ok ["views", "card.view"] := by
    rw [FileSystem.locate_eq_ok_iff, ← Except.toOption_eq_some_iff]
    decide +kernel
  have inputRead : fs.readText "page" = .ok "partial(card)" :=
    FileSystem.readText_eq_ok_iff.mpr ⟨_, leads _ (by decide), rfl⟩
  have settingsRead : fs.readText "settings" = .ok settings :=
    FileSystem.readText_eq_ok_iff.mpr ⟨_, leads _ (by decide), rfl⟩
  have modelRead : fs.readText "model" = .ok "name = 'Ada'" :=
    FileSystem.readText_eq_ok_iff.mpr ⟨_, leads _ (by decide), rfl⟩
  have viewHeld : fs.entry? ["views", "card.view"] = some (.file "note(name)".toUTF8) := rfl
  have viewRead : fs.readText "views/card.view" = .ok "note(name)" :=
    FileSystem.readText_eq_ok_iff.mpr ⟨_, viewLeads, viewHeld⟩
  have loaded : (Toml.parse? settings).bind Settings.ofData? =
      some ⟨⟨some "other", "view"⟩, ⟨false, ["note"]⟩⟩ := by decide +kernel
  obtain ⟨model, modelled⟩ : ∃ model,
      (Toml.parse? "name = 'Ada'").bind Value.ofToml? = some model :=
    Option.isSome_iff_exists.mp (by decide +kernel)
  let chosen : Settings := ⟨⟨some "views", "view"⟩, ⟨false, ["note"]⟩⟩
  have found : (Engine.ofSettings chosen fs).views.find? "card" = some (.ok "note(name)") :=
    Engine.find?_views_ofSettings_iff.mpr ⟨"views", "views/card.view", rfl, by decide +kernel,
      FileSystem.isFile_eq_true_iff.mpr ⟨_, _, viewLeads, viewHeld⟩, viewRead⟩
  -- Looking up a path does not evaluate, so the view is said in advance for the rendering.
  have rendered : ((Toml.parse? "name = 'Ada'").bind Value.ofToml?).map (fun model =>
      (Engine.renderSource ⟨⟨(Engine.ofSettings chosen fs).registry, .standard,
        ⟨fun name => if name = "card" then some (.ok "note(name)")
          else (Engine.ofSettings chosen fs).views.find? name⟩⟩, chosen⟩
        "partial(card)" model).toOption) = some (some "<note>Ada</note>") := by decide +kernel
  rw [modelled, Option.map_some, Option.some_inj, Except.toOption_eq_some_iff,
    ← Views.eq_ite_of_find? found] at rendered
  have made : Makes fs none arguments "<note>Ada</note>" :=
    .intro (.file (.given _) (.loaded settingsRead loaded)) (.loaded modelRead modelled) inputRead
      (Engine.goesBy_ofSettings chosen fs) rendered
  have written : fs.writeText "views/card.view" "<note>Ada</note>" =
      .ok (fs.set ["views", "card.view"] (.file "<note>Ada</note>".toUTF8)) :=
    FileSystem.writeText_of_locate (by decide) viewLeads
      fun directory => nomatch viewHeld.symm.trans directory
  have ended : run fs none arguments =
      (.ok (), fs.set ["views", "card.view"] (.file "<note>Ada</note>".toUTF8)) := by
    simp only [run, page_eq_ok_iff.mpr made, arguments, written]
  obtain ⟨html, -, made', -, -, holds⟩ := (first_failure_or_page fs none _).2.2 _ ended
  obtain rfl := made.unique made'
  exact ⟨_, ended, viewRead, holds⟩

end Command

end HtmlTemplate
