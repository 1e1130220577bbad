import Aegis.History.Service
import Aegis.Lib.Run
import Aegis.Subscriptions.Keys

/-!
# Template profiles

The `history` section of the active indicator stack says how many frames are kept and how far
back the engine looks.  `IndicatorHistoryService` copies the one when the server starts;
`BrainCVService` copies the other then, and again on every activation of a profile.
`covers_iff` says when the copies still fit.
-/

namespace Aegis.Vision

open Aegis.History Aegis.Lib Aegis.Rulebook Aegis.Subscriptions

/-- The `history` section; a key that is absent is `none`. -/
structure HistoryConfig where
  maxFramesKept : Option ℤ := none
  divergenceLookbackFrames : Option ℤ := none
  ttlSeconds : Option ℤ := none

/-- What `IndicatorHistoryService.__init__` makes of it. -/
def HistoryConfig.service (config : HistoryConfig) : IndicatorHistoryService where
  maxFrames := config.maxFramesKept.getD 60
  ttlSeconds := config.ttlSeconds.getD 600

/-- The engine that `BrainCVService` makes of it. -/
def HistoryConfig.ruleEngine (config : HistoryConfig) : SignalRuleEngine where
  divergenceLookback := config.divergenceLookbackFrames.getD 12

/-- The section keeps as many frames as it looks back over. -/
def HistoryConfig.Consistent (config : HistoryConfig) : Prop :=
  config.ruleEngine.divergenceLookback ≤ config.service.maxFrames

instance (config : HistoryConfig) : Decidable config.Consistent :=
  inferInstanceAs (Decidable (_ ≤ _))

/-- `app/templates`: the stacks, by their `history`, and the rulebooks, by the number in the name
of the file. -/
structure TemplatesDir where
  path : String
  indicatorStack : String → Option HistoryConfig
  rulebook : String → Bool

/-- `colors_config.json`, if it is there. -/
structure ColorsConfig where
  path : String
  history : Option HistoryConfig

/-- `active_profile.json`. -/
structure ActiveProfile where
  indicatorStackVersion : Option String
  rulebookVersion : Option String

/-- `version.lstrip("v")`. -/
def lstripV (version : String) : String :=
  String.ofList (version.toList.dropWhile (· = 'v'))

/-- The version with a `v` in front. -/
def withV (version : String) : String :=
  if version.toList.head? = some 'v' then version else "v" ++ version

namespace TemplatesDir

variable (templates : TemplatesDir)

def fileNotFound (name : String) : String := s!"Template missing: {templates.path}/{name}"

/-- `get_indicator_stack`, with the text of its `FileNotFoundError`. -/
def getIndicatorStack (version : String) : Except String HistoryConfig :=
  let ver := lstripV version
  match templates.indicatorStack ver with
  | some stack => .ok stack
  | none => .error (templates.fileNotFound s!"indicator_stack_v{ver}.json")

def getRulebook (version : String) : Except String Unit :=
  let ver := lstripV version
  if templates.rulebook ver then .ok ()
  else .error (templates.fileNotFound s!"rulebook_v{ver}.json")

/-- `activate`, up to the writing of the pointer. -/
def activate (indicatorStackVersion rulebookVersion : String) : Except String ActiveProfile := do
  let _ ← templates.getIndicatorStack indicatorStackVersion
  templates.getRulebook rulebookVersion
  return ⟨some (withV indicatorStackVersion), some (withV rulebookVersion)⟩

/-- `vision_config_for_brain`, as far as its `history`. -/
def visionConfigForBrain (pointer : Option ActiveProfile) : Except String HistoryConfig := do
  let ptr := pointer.getD ⟨some "v1", some "v1"⟩
  let stack ← templates.getIndicatorStack (ptr.indicatorStackVersion.getD "v1")
  templates.getRulebook (ptr.rulebookVersion.getD "v1")
  return stack

/-- `_load_config`: without a template, `colors_config.json` if it is there. -/
def loadConfig (pointer : Option ActiveProfile) (colorsConfig : ColorsConfig) :
    Except String HistoryConfig :=
  match templates.visionConfigForBrain pointer with
  | .ok config => .ok config
  | .error _ =>
      match colorsConfig.history with
      | some config => .ok config
      | none => .error s!"Config not found: {colorsConfig.path}"

end TemplatesDir

/-- What a running server has of the profiles. -/
structure VisionApp where
  /-- `active_profile.json` -/
  pointer : Option ActiveProfile
  colorsConfig : ColorsConfig
  /-- of `brain_cv_service` -/
  ruleEngine : SignalRuleEngine
  indicatorHistory : IndicatorHistoryService

/-- The wiring of `on_startup`, which raises without any configuration. -/
def onStartup (templates : TemplatesDir) (pointer : Option ActiveProfile)
    (colorsConfig : ColorsConfig) : Except String VisionApp := do
  let config ← templates.loadConfig pointer colorsConfig
  return ⟨pointer, colorsConfig, config.ruleEngine, config.service⟩

/-- How `activate_profile` can end without a result. -/
inductive ProfileFailure where
  | refused (failure : Failure)
  | fileNotFoundError (text : String)

namespace VisionApp

/-- `reload_config`. -/
def reloadConfig (templates : TemplatesDir) (app : VisionApp) : Except String VisionApp := do
  let config ← templates.loadConfig app.pointer app.colorsConfig
  return { app with ruleEngine := config.ruleEngine }

/-- `POST /api/templates/activate`: the outcome, and what is left. -/
def activateProfile (auth : AuthContext) (templates : TemplatesDir)
    (indicatorStackVersion rulebookVersion : String) (app : VisionApp) :
    Except ProfileFailure Unit × VisionApp :=
  match requireAdmin auth with
  | .error failure => (.error (.refused failure), app)
  | .ok _ =>
      match templates.activate indicatorStackVersion rulebookVersion with
      | .error missing => (.error (.refused (.httpException 404 missing)), app)
      | .ok ptr =>
          let written := { app with pointer := some ptr }
          match written.reloadConfig templates with
          | .error text => (.error (.fileNotFoundError text), written)
          | .ok reloaded => (.ok (), reloaded)

end VisionApp

/-- A request to activate a profile, with the templates that are installed by then. -/
structure ProfileActivation where
  auth : AuthContext
  templates : TemplatesDir
  indicatorStackVersion : String
  rulebookVersion : String

namespace ProfileActivation

def take (app : VisionApp) (activation : ProfileActivation) : VisionApp :=
  (app.activateProfile activation.auth activation.templates activation.indicatorStackVersion
    activation.rulebookVersion).2

/-- The request activates the stack. -/
def Activates (activation : ProfileActivation) (stack : HistoryConfig) : Prop :=
  activation.auth.isAdmin = true ∧
    activation.templates.indicatorStack (lstripV activation.indicatorStackVersion) = some stack ∧
      activation.templates.rulebook (lstripV activation.rulebookVersion) = true

end ProfileActivation

/-- The history keeps the frames that the engine looks back over. -/
def VisionApp.Covers (app : VisionApp) : Prop :=
  app.ruleEngine.divergenceLookback ≤ app.indicatorHistory.maxFrames

instance (app : VisionApp) : Decidable app.Covers := inferInstanceAs (Decidable (_ ≤ _))

/-! ## One activation -/

section Activation

variable {app : VisionApp} {activation : ProfileActivation}

theorem lstripV_withV (version : String) : lstripV (withV version) = lstripV version := by
  unfold withV
  split
  next => rfl
  next =>
    rw [lstripV, String.toList_append]
    rfl

/-- What the pointer that `activate` writes loads. -/
theorem loadConfig_activated {stack : HistoryConfig} (activates : activation.Activates stack)
    (colorsConfig : ColorsConfig) :
    activation.templates.activate activation.indicatorStackVersion activation.rulebookVersion =
        .ok ⟨some (withV activation.indicatorStackVersion),
          some (withV activation.rulebookVersion)⟩ ∧
      activation.templates.loadConfig (some ⟨some (withV activation.indicatorStackVersion),
        some (withV activation.rulebookVersion)⟩) colorsConfig = .ok stack := by
  obtain ⟨_, installed, rulebook⟩ := activates
  refine ⟨?_, ?_⟩
  · simp only [TemplatesDir.activate, TemplatesDir.getIndicatorStack, TemplatesDir.getRulebook,
      installed, rulebook, if_true, ok_bind]
    rfl
  · simp only [TemplatesDir.loadConfig, TemplatesDir.visionConfigForBrain,
      TemplatesDir.getIndicatorStack, TemplatesDir.getRulebook, Option.getD_some, lstripV_withV,
      installed, rulebook, if_true, ok_bind]
    rfl

/-- Without the files `activate` raises. -/
theorem activate_missing (missing : ∀ stack, ¬ activation.Activates stack)
    (admin : activation.auth.isAdmin = true) :
    ∃ text, activation.templates.activate activation.indicatorStackVersion
      activation.rulebookVersion = .error text := by
  simp only [TemplatesDir.activate, TemplatesDir.getIndicatorStack, TemplatesDir.getRulebook]
  cases installed : activation.templates.indicatorStack
      (lstripV activation.indicatorStackVersion) with
  | none => exact ⟨_, rfl⟩
  | some stack =>
      have absent : ¬ activation.templates.rulebook (lstripV activation.rulebookVersion) = true :=
        fun rulebook => missing stack ⟨admin, installed, rulebook⟩
      rw [if_neg absent]
      exact ⟨_, rfl⟩

/-- **Activation**, inverted: it installs the engine of the stack, or it changes nothing. -/
theorem take_cases (app : VisionApp) (activation : ProfileActivation) :
    (∃ stack, activation.Activates stack ∧
        (activation.take app).ruleEngine = stack.ruleEngine ∧
          (activation.take app).indicatorHistory = app.indicatorHistory) ∨
      (∀ stack, ¬ activation.Activates stack) ∧ activation.take app = app := by
  unfold ProfileActivation.take VisionApp.activateProfile requireAdmin
  by_cases some : ∃ stack, activation.Activates stack
  · obtain ⟨stack, activates⟩ := some
    obtain ⟨written, loaded⟩ := loadConfig_activated activates app.colorsConfig
    rw [if_pos activates.1, written]
    simp only [VisionApp.reloadConfig, loaded, ok_bind]
    exact .inl ⟨stack, activates, rfl, rfl⟩
  · refine .inr ⟨not_exists.mp some, ?_⟩
    split
    next => rfl
    next passed =>
      have admin : activation.auth.isAdmin = true := by
        by_contra refused
        rw [if_neg refused] at passed
        cases passed
      obtain ⟨text, missing⟩ := activate_missing (not_exists.mp some) admin
      rw [missing]

/-- An activation keeps the frames covered exactly when its stack asks for no more than are
kept. -/
theorem covers_take_iff (covered : app.Covers) :
    (activation.take app).Covers ↔ ∀ stack, activation.Activates stack →
      stack.ruleEngine.divergenceLookback ≤ app.indicatorHistory.maxFrames := by
  rcases take_cases app activation with ⟨stack, activates, engine, history⟩ | ⟨none, same⟩
  · rw [VisionApp.Covers, engine, history]
    refine ⟨fun covers other also => ?_, fun all => all stack activates⟩
    cases activates.2.1.symm.trans also.2.1
    exact covers
  · rw [same]
    exact iff_of_true covered fun stack activates => (none stack activates).elim

theorem indicatorHistory_take (app : VisionApp) (activation : ProfileActivation) :
    (activation.take app).indicatorHistory = app.indicatorHistory := by
  rcases take_cases app activation with ⟨_, _, _, history⟩ | ⟨_, same⟩
  · exact history
  · rw [same]

end Activation

/-- **Cap and lookback.**  The history covers the engine's window in every state exactly when no
activated stack looks further back than the stack of the start keeps. -/
theorem covers_iff {templates : TemplatesDir} {pointer : Option ActiveProfile}
    {colorsConfig : ColorsConfig} {config : HistoryConfig} {app : VisionApp}
    (loaded : templates.loadConfig pointer colorsConfig = .ok config)
    (started : onStartup templates pointer colorsConfig = .ok app)
    (consistent : config.Consistent) (activations : List ProfileActivation) :
    Throughout ProfileActivation.take VisionApp.Covers app activations ↔
      ∀ activation ∈ activations, ∀ stack, activation.Activates stack →
        stack.ruleEngine.divergenceLookback ≤ config.service.maxFrames := by
  rw [onStartup, loaded] at started
  cases started
  -- The condition speaks of the activation alone, as the cap stays what it was at the start.
  let E : ProfileActivation → Prop := fun activation => ∀ stack, activation.Activates stack →
    stack.ruleEngine.divergenceLookback ≤ config.service.maxFrames
  have each : EachStep ProfileActivation.take (fun _ activation => E activation)
      ⟨pointer, colorsConfig, config.ruleEngine, config.service⟩ activations ↔
        ∀ activation ∈ activations, E activation := eachStep_iff_forall_mem
  rw [← each]
  refine throughout_iff_eachStep (I := fun app => app.indicatorHistory = config.service) rfl
    consistent (fun app activation kept => ?_) fun app activation kept covered => ?_
  · exact (indicatorHistory_take app activation).trans kept
  · rw [covers_take_iff covered, kept]

/-- Two consistent stacks, of which the second keeps and looks back over more. -/
def twoStacks : TemplatesDir where
  path := "/app/templates"
  indicatorStack
    | "1" => some ⟨some 60, some 12, some 600⟩
    | "2" => some ⟨some 200, some 100, some 600⟩
    | _ => none
  rulebook _ := true

/-- The server starts with `v1`. -/
def startedApp : VisionApp :=
  ⟨some ⟨some "v1", some "v1"⟩, ⟨"/app/colors_config.json", none⟩, ⟨12⟩, ⟨60, 600⟩⟩

def rootAuth : AuthContext := ⟨none, true, none, some 1, false, none, none⟩

theorem covers_iff_again : Throughout ProfileActivation.take VisionApp.Covers startedApp
    [⟨rootAuth, twoStacks, "v1", "v1"⟩] := by
  have loaded : twoStacks.loadConfig startedApp.pointer startedApp.colorsConfig =
      .ok ⟨some 60, some 12, some 600⟩ := rfl
  refine (covers_iff loaded rfl (by decide) _).mpr fun activation member stack activates => ?_
  rw [List.mem_singleton.mp member] at activates
  cases activates.2.1
  decide

theorem not_covers_secondStack : ¬ Throughout ProfileActivation.take VisionApp.Covers startedApp
    [⟨rootAuth, twoStacks, "v2", "v2"⟩] := by
  intro covered
  exact absurd covered.2.start (by decide)

end Aegis.Vision
