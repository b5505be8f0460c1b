import FlutterInstaller.Cli.Run
import FlutterInstaller.Proofs.Steps

/-!
The tools of a run: flutter for the app, and the compiler for its installer. A step that runs a tool
records one attempt, changes the files only as the tool does, and succeeds exactly when the tool was
there, could be started and ended with the exit code for success. What is logged before makes no
difference.
-/
namespace FlutterInstaller

def ToolResult.Succeeded (r : ToolResult) : Prop := ∃ launch, r = .ended launch (some 0)

namespace Host

variable {h : Host}

def logged (h : Host) (lines : List LogLine) : Host := { h with log := h.log ++ lines }

def recorded (h : Host) (run : ToolRun) : Host :=
  { h.leftBy run.result with runs := h.runs ++ [run] }

@[simp] theorem files_logged (lines : List LogLine) : (h.logged lines).files = h.files := rfl

@[simp] theorem workingDirectory_logged (lines : List LogLine) :
    (h.logged lines).workingDirectory = h.workingDirectory := rfl

@[simp] theorem runs_logged (lines : List LogLine) : (h.logged lines).runs = h.runs := rfl

@[simp] theorem runs_recorded (run : ToolRun) : (h.recorded run).runs = h.runs ++ [run] := rfl

theorem leftBy_logged (lines : List LogLine) (result : ToolResult) :
    (h.logged lines).leftBy result = (h.leftBy result).logged lines := by
  cases result <;> rfl

@[simp] theorem runs_leftBy (result : ToolResult) : (h.leftBy result).runs = h.runs := by
  cases result <;> rfl

def attempted (h : Host) (tool : Tool) (command : Option String) (arguments : List String)
    (directory : Option String) : ToolRun where
  tool
  arguments
  directory
  result := match command with
    | some c => h.attempt c arguments directory
    | none => .missing

def flutterRun (h : Host) (project : String) (mode : BuildMode) : ToolRun :=
  h.attempted .flutter (h.findProgram? "flutter") ["build", "windows", "--" ++ mode.name]
    (some project)

def compiler? (h : Host) : Option String :=
  match h.findProgram? Bundle.compilerName with
  | some path => some path
  | none => if h.isFile Bundle.usualCompiler then some Bundle.usualCompiler else none

def compilerRun (h : Host) (script : String) : ToolRun :=
  h.attempted .compiler h.compiler? [script] none

theorem tryAll_logged (lines : List LogLine) (directory : Standpoint) (arguments : List String)
    (e : OsError) (ps : List String) :
    (h.logged lines).tryAll directory arguments e ps = h.tryAll directory arguments e ps := by
  induction ps generalizing e with
  | nil => rfl
  | cons p ps ih =>
    simp only [tryAll, ih]
    rfl

theorem attempted_logged (lines : List LogLine) (tool : Tool) (command : Option String)
    (arguments : List String) (directory : Option String) :
    (h.logged lines).attempted tool command arguments directory =
      h.attempted tool command arguments directory := by
  cases command with
  | none => rfl
  | some c =>
    simp only [attempted, attempt, start, tryAll_logged]
    rfl

@[simp] theorem logged_logged (lines lines' : List LogLine) :
    (h.logged lines).logged lines' = h.logged (lines ++ lines') := by
  simp [logged]

@[simp] theorem logged_nil : h.logged [] = h := by simp [logged]

end Host

theorem perform_debug (h : Host) (message : String) :
    perform (Action.debug message) h = (.ok ⟨⟩, h.logged [⟨.debug, message⟩]) := rfl

theorem perform_info (h : Host) (message : String) :
    perform (Action.info message) h = (.ok ⟨⟩, h.logged [⟨.info, message⟩]) := rfl

theorem perform_ite_info_bind {α : Type} (h : Host) (b : Bool) (message : String)
    (next : PUnit → Action α) :
    ∃ lines, perform (if b = true then Action.info message >>= next else next ⟨⟩) h =
      perform (next ⟨⟩) (h.logged lines) := by
  split
  · exact ⟨_, perform_bind_of_ok (perform_info h message)⟩
  · exact ⟨[], by rw [Host.logged_nil]⟩

theorem perform_runTool (h : Host) (tool : Tool) (command : Option String) (arguments : List String)
    (directory : Option String) :
    perform (Action.runTool tool command arguments directory) h =
      (.ok (h.attempted tool command arguments directory).result,
        h.recorded (h.attempted tool command arguments directory)) := rfl

/-- What a step makes of the result of its tool: it goes on after success, and fails otherwise. -/
def Proceeds (next : ToolResult → Action Unit) : Prop :=
  ∀ result (h : Host), ∃ x, perform (next result) h = (x, h) ∧ (x = .ok () ↔ result.Succeeded)

theorem Proceeds.of_cases {next : ToolResult → Action Unit}
    (hmissing : ∃ e, next .missing = throw e) (hrefused : ∀ c, ∃ e, next (.refused c) = throw e)
    (hkilled : ∀ l, ∃ e, next (.ended l none) = throw e)
    (hfailed : ∀ l n, ∃ e, next (.ended l (some (n + 1))) = throw e)
    (hended : ∀ l, next (.ended l (some 0)) = pure ()) : Proceeds next := by
  have hthrow : ∀ {result : ToolResult} (h : Host), (∃ e, next result = throw e) →
      ¬ result.Succeeded →
        ∃ x, perform (next result) h = (x, h) ∧ (x = .ok () ↔ result.Succeeded) := by
    rintro result h ⟨e, he⟩ hfail
    rw [he]
    exact ⟨.error e, rfl, by simp [hfail]⟩
  intro result h
  cases result with
  | missing => exact hthrow h hmissing (by simp [ToolResult.Succeeded])
  | refused c => exact hthrow h (hrefused c) (by simp [ToolResult.Succeeded])
  | ended l code =>
    match code with
    | none => exact hthrow h (hkilled l) (by simp [ToolResult.Succeeded])
    | some (n + 1) => exact hthrow h (hfailed l n) (by simp [ToolResult.Succeeded])
    | some 0 =>
      rw [hended]
      exact ⟨.ok (), rfl, by simp [ToolResult.Succeeded]⟩

theorem Proceeds.perform_runTool_bind {next : ToolResult → Action Unit} (hnext : Proceeds next)
    (h : Host) (lines : List LogLine) (tool : Tool) (command : Option String)
    (arguments : List String) (directory : Option String) :
    let run := h.attempted tool command arguments directory
    ∃ x, perform (Action.runTool tool command arguments directory >>= next) (h.logged lines) =
        (x, (h.logged lines).recorded run) ∧ (x = .ok () ↔ run.result.Succeeded) := by
  rw [perform_bind_of_ok (perform_runTool _ _ _ _ _), Host.attempted_logged]
  exact hnext _ _

theorem perform_buildApp (h : Host) (project : String) (mode : BuildMode) :
    ∃ lines x, perform (Cli.buildApp project mode) h =
        (x, (h.logged lines).recorded (h.flutterRun project mode)) ∧
      (x = .ok () ↔ (h.flutterRun project mode).result.Succeeded) := by
  unfold Cli.buildApp
  rw [perform_get_bind]
  obtain ⟨lines, hlog⟩ := perform_ite_info_bind h (h.findProgram? "flutter").isSome _ _
  refine ⟨lines, ?_⟩
  rw [hlog]
  exact Proceeds.perform_runTool_bind (.of_cases ⟨_, rfl⟩ (fun _ => ⟨_, rfl⟩) (fun _ => ⟨_, rfl⟩)
    (fun _ _ => ⟨_, rfl⟩) fun _ => rfl) h lines _ _ _ _

theorem perform_findCompiler? (h : Host) :
    ∃ lines, perform Bundle.findCompiler? h = (.ok h.compiler?, h.logged lines) := by
  unfold Bundle.findCompiler? Host.compiler?
  rw [perform_get_bind]
  cases h.findProgram? Bundle.compilerName with
  | some path => exact ⟨_, rfl⟩
  | none =>
    cases h.isFile Bundle.usualCompiler with
    | true => exact ⟨_, rfl⟩
    | false => exact ⟨[], by rw [Host.logged_nil]; rfl⟩

theorem perform_compile (h : Host) (script : String) :
    ∃ lines x, perform (Bundle.compile script) h =
        (x, (h.logged lines).recorded (h.compilerRun script)) ∧
      (x = .ok () ↔ (h.compilerRun script).result.Succeeded) := by
  unfold Bundle.compile
  obtain ⟨found, hfind⟩ := perform_findCompiler? h
  rw [perform_bind_of_ok hfind]
  obtain ⟨lines, hlog⟩ := perform_ite_info_bind (h.logged found) h.compiler?.isSome _ _
  refine ⟨found ++ lines, ?_⟩
  rw [hlog, Host.logged_logged]
  exact Proceeds.perform_runTool_bind (.of_cases ⟨_, rfl⟩ (fun _ => ⟨_, rfl⟩) (fun _ => ⟨_, rfl⟩)
    (fun _ _ => ⟨_, rfl⟩) fun _ => rfl) h _ _ _ _ _

end FlutterInstaller
