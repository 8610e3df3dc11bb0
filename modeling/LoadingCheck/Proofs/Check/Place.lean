import LoadingCheck.Proofs.Check.Log
import LoadingCheck.Proofs.FileTree.Growth
import LoadingCheck.Proofs.Script.Literals

set_option relaxedAutoImplicit false
set_option autoImplicit false

/-!
# Where the screenshot of a check goes

A check makes the directory that its screenshot goes to before it writes the script that saves it, and the two
are worked out apart from each other. They agree if the current directory is known and all of the path is text:
the script saves the screenshot in the directory that was made, and reports it from there. A script is text,
though, and the directory need not be, so they may disagree where the current directory is no text. Nothing else
is made than this directory and those above it that were missing.

## Main definitions

* `LoadingCheck.Path.Above` — the parents of a path, and the path.
* `LoadingCheck.Script.shotCall`, `LoadingCheck.Script.fromShot` — the part of a script that saves the screenshot.

## Main results

* `LoadingCheck.Check.screenshot_place` — where the screenshot goes, and what is made for it.
* `LoadingCheck.Check.screenshot_elsewhere` — scripts that save the screenshot somewhere else.
-/

namespace LoadingCheck

open Fragment (render)

/-! ### Parents -/

/-- The path itself, its parent, the parent of its parent, and so on. -/
inductive Path.Above (p : Path) : Path → Prop where
  | self : p.Above p
  | parent {q r : Path} (above : p.Above q) (parent : q.parent? = some r) : p.Above r

lemma Path.Above.of_parent {p q r : Path} (parent : p.parent? = some q) (above : q.Above r) : p.Above r := by
  induction above with
  | self => exact .parent .self parent
  | parent _ next ih => exact .parent ih next

/-- The parent of an absolute path is not empty. -/
lemma Path.bytes_ne_nil_of_parent? {p q : Path} (absolute : p.isAbsolute = true) (parent : p.parent? = some q) :
    q.bytes ≠ [] := by
  rw [parent?.eq_def, if_pos absolute] at parent
  split at parent
  · cases parent
  · rw [← Option.some.inj parent]
    exact List.cons_ne_nil _ _

/-- A path is absolute as seen from an absolute one. -/
lemma Path.isAbsolute_join {base : Path} (absolute : base.isAbsolute = true) (p : Path) :
    (base.join p).isAbsolute = true := by
  rw [join]
  split_ifs with own ended
  · exact own
  all_goals
    rw [isAbsolute, beq_iff_eq] at absolute ⊢
    obtain ⟨bytes⟩ := base
    cases bytes with
    | nil => cases absolute
    | cons b rest => exact absolute

lemma Path.isAbsolute_absolute {cwd : Option Path} {p : Path}
    (h : p.isAbsolute = true ∨ ∃ base ∈ cwd, base.isAbsolute = true) : (p.absolute cwd).isAbsolute = true := by
  rcases h with own | ⟨base, here, absolute⟩
  · cases cwd with
    | none => exact own
    | some base =>
      change (base.join p).isAbsolute = true
      rwa [join, if_pos own]
  · rw [Option.mem_def.mp here]
    exact isAbsolute_join absolute p

lemma Path.above_of_mem_ancestors {p q : Path} (h : q ∈ p.ancestors) : p.Above q := by
  rw [ancestors] at h
  generalize p.bytes.length + 1 = fuel at h
  induction fuel generalizing p with
  | zero => exact absurd h List.not_mem_nil
  | succ fuel ih =>
    rw [ancestorsUpTo] at h
    split at h
    · rw [List.mem_singleton.mp h]
      exact .self
    · rename_i next parent
      rcases List.mem_cons.mp h with rfl | further
      · exact .self
      · exact .of_parent parent (ih further)

/-! ### The end of a script -/

namespace Script

/-- The code in front of the path that the screenshot goes to. -/
def shotCall : String :=
  "await page.screenshot(\x7b path: "

/-- The code between the path that the screenshot goes to and the one that is reported. -/
def shotEvent : String :=
  ", fullPage: " ++ "false" ++ " \x7d);\n" ++ "      emit(\x7b event: 'screenshot', path: "

/-- The code behind the path that is reported. -/
def shotEnd : String :=
  " \x7d);\n" ++ ("    \x7d catch (error) \x7b\n" ++
    ("      emit(\x7b event: 'failed', error: describe(error) \x7d);\n    \x7d\n" ++
      ("  \x7d finally \x7b\n    await browser.close();\n    emit(\x7b event: 'closed' \x7d);\n  \x7d\n" ++
        ("\x7d)().catch(error => \x7b\n" ++
          "  emit(\x7b event: 'failed', error: describe(error) \x7d);\n  process.exitCode = 1;\n\x7d);\n"))))

/-- A script from the path of its screenshot on. -/
def fromShot (path : String) : List Char :=
  (Json.quote path).toList ++ (shotEvent.toList ++ ((Json.quote path).toList ++ shotEnd.toList))

/-- A script without a step left ends with its screenshot. -/
lemma exists_closing (path : String) :
    ∃ lead, render (closing path false) = lead ++ (shotCall.toList ++ fromShot path) := by
  have call : "    try \x7b\n      await page.screenshot(\x7b path: " = "    try \x7b\n      " ++ shotCall := by
    decide +kernel
  simp only [closing, flag, Fragment.render_cons, Fragment.render_nil, Fragment.text, List.append_nil, fromShot,
    call, Bool.false_eq_true, if_false, shotEvent, shotEnd, String.toList_append]
  simp only [← List.append_assoc]
  exact ⟨_, rfl⟩

/-- The path that the screenshot goes to and the one that is reported are literals of the same value. -/
lemma literals_fromShot (path : String) :
    Reading.literals (fromShot path) = some [path, "screenshot", path, "failed", "closed", "failed"] := by
  have event : Reading.literals shotEvent.toList = some ["screenshot"] := by
    simp only [shotEvent, String.toList_append]
    decide +kernel
  have rest : Reading.literals shotEnd.toList = some ["failed", "closed", "failed"] := by
    simp only [shotEnd, String.toList_append]
    decide +kernel
  rw [fromShot, Reading.literals_quote, Reading.literals_append (by decide +kernel) event, Reading.literals_quote,
    rest]
  rfl

end Script

/-! ### Trees and scripts of checks -/

namespace Check

variable {config : Config} {machine : Machine}

lemma screenshot_of_accepted {o : Scenario.Options} {s : Scenario} (accepted : Scenario.loadingState o = .ok s) :
    s.screenshot = ⟨o.screenshot, false⟩ := by
  obtain ⟨pattern, _, done⟩ := bind_eq_ok.mp accepted
  cases done
  rfl

lemma Reaches.tree_eq {scenario : Scenario} {node : Node} (h : Reaches config machine scenario node) :
    (run config machine).tree = Stage.directory.tree config machine := by
  have left : (run config machine).tree = (prepareDirectory machine scenario.screenshot.path).1 := by
    rw [h.run_eq, runScenario]
    dsimp only
    split <;> rfl
  rw [left, screenshot_of_accepted h.accepted, prepareDirectory_eq]

/-- A check leaves the tree as it was or makes the directory of its screenshot. -/
lemma tree_run (config : Config) (machine : Machine) :
    (run config machine).tree = machine.tree ∨
      ∃ directory, shotDirectory? config machine = some directory ∧
        (run config machine).tree = (machine.tree.makeDirectories directory).1 := by
  have prepared : Stage.directory.tree config machine = machine.tree ∨
      ∃ directory, shotDirectory? config machine = some directory ∧
        Stage.directory.tree config machine = (machine.tree.makeDirectories directory).1 := by
    rw [Stage.tree]
    cases shotDirectory? config machine with
    | none => exact .inl rfl
    | some directory => exact .inr ⟨directory, rfl, rfl⟩
  cases first : firstFailure? config machine with
  | none =>
    obtain ⟨scenario, node, reaches⟩ := exists_reaches (firstFailure?_eq_none.mp first)
    rw [reaches.tree_eq]
    exact prepared
  | some stopped =>
    rw [run_of_firstFailure? first]
    cases stage : stopped.1 with
    | pattern | timing => exact .inl rfl
    | directory | toolchain => exact prepared

/-- A check that gives its program a script has made the directory of its screenshot, unless that has no name. -/
lemma isDirectory_of_script {script : String} (h : (run config machine).script = some script) {directory : Path}
    (place : shotDirectory? config machine = some directory) (full : directory.bytes ≠ []) :
    (run config machine).tree.isDirectory directory = true := by
  obtain ⟨scenario, node, reaches, _⟩ := exists_reaches_of_script (Option.isSome_of_eq_some h)
  have success := reaches.prepared
  rw [screenshot_of_accepted reaches.accepted, prepareDirectory_eq] at success
  simp only [Stage.failure?, place, Option.bind_some, Option.map_eq_none_iff] at success
  rw [reaches.tree_eq, Stage.tree, place]
  exact FileTree.isDirectory_makeDirectories success full

/-- The script of a check ends with its screenshot. -/
lemma exists_fromShot {script : String} (h : (run config machine).script = some script) :
    ∃ lead, script.toList = lead ++ (Script.shotCall.toList ++
      Script.fromShot (config.options.screenshot.absolute machine.cwd).display) := by
  obtain ⟨scenario, node, reaches, given⟩ := exists_reaches_of_script (Option.isSome_of_eq_some h)
  rw [script_of_given reaches given] at h
  cases h
  obtain ⟨lead, closing⟩ := Script.exists_closing (config.options.screenshot.absolute machine.cwd).display
  rw [Script.source, String.toList_ofList, Script.fragments, Fragment.render_append,
    screenshot_of_accepted reaches.accepted, closing, ← List.append_assoc]
  exact ⟨_, rfl⟩

/-- **The directory that a check makes is the one that its script writes into, and no other.** Let the path of the
screenshot be made absolute as the current directory has it. For all checks and machines:

* a check that gives its program a script ends the script with saving the screenshot and reporting it, and both are
  told a literal of the same value, which is this path with the replacement character where it is no text;
* the parent of this path, if it has one and that is not empty, is then a directory;
* if the path is a text, and it is absolute itself, or the current directory is known and a text, then the value is
  the absolute path, and its parent, if it has one, is a directory;
* whether or not there is a script, files and directories stay where they were, and every directory that was not
  there before is at the place that this parent or one of its own parents leads to.

**Proof sketch.** The script is written with the path that the directory was made for. Making directories only adds
places, each for the path or a parent of it, and it fails unless the path leads to a directory in the end. -/
theorem screenshot_place (config : Config) (machine : Machine) :
    (∀ script, (run config machine).script = some script →
      ∃ value : String,
        (∃ lead, script.toList = lead ++ (Script.shotCall.toList ++ Script.fromShot value)) ∧
        Reading.literals (Script.fromShot value) =
          some [value, "screenshot", value, "failed", "closed", "failed"] ∧
        value = (config.options.screenshot.absolute machine.cwd).display ∧
        (∀ directory ∈ shotDirectory? config machine, directory.bytes ≠ [] →
          (run config machine).tree.isDirectory directory = true) ∧
        (config.options.screenshot.IsText →
          (config.options.screenshot.isAbsolute = true ∨
            ∃ base ∈ machine.cwd, base.isAbsolute = true ∧ base.IsText) →
          (config.options.screenshot.absolute machine.cwd).isAbsolute = true ∧
            Path.ofString value = config.options.screenshot.absolute machine.cwd ∧
            ∀ directory ∈ shotDirectory? config machine,
              (run config machine).tree.isDirectory directory = true)) ∧
    (run config machine).tree.files = machine.tree.files ∧
    machine.tree.directories <+: (run config machine).tree.directories ∧
    ∀ place ∈ (run config machine).tree.directories, place ∉ machine.tree.directories →
      ∃ directory ∈ shotDirectory? config machine, ∃ above, directory.Above above ∧
        (run config machine).tree.Leads above place := by
  constructor
  · intro script h
    have made : ∀ directory ∈ shotDirectory? config machine, directory.bytes ≠ [] →
        (run config machine).tree.isDirectory directory = true := fun _ => isDirectory_of_script h
    refine ⟨_, exists_fromShot h, Script.literals_fromShot _, rfl, made, fun text known => ?_⟩
    have absolute : (config.options.screenshot.absolute machine.cwd).isAbsolute = true :=
      Path.isAbsolute_absolute (known.imp_right fun ⟨base, here, absolute, _⟩ => ⟨base, here, absolute⟩)
    have texts : config.options.screenshot.isAbsolute = true ∨ ∀ base ∈ machine.cwd, base.IsText := by
      refine known.imp_right ?_
      rintro ⟨base, here, _, text⟩ other there
      rwa [Option.mem_unique there here]
    refine ⟨absolute, ?_, fun directory parent => made directory parent ?_⟩
    · obtain ⟨s, same⟩ := text.absolute texts
      rw [same, Path.display_ofString]
    · exact Path.bytes_ne_nil_of_parent? absolute parent
  · rcases tree_run config machine with same | ⟨directory, place, made⟩
    · rw [same]
      exact ⟨rfl, List.prefix_rfl, fun place here new => absurd here new⟩
    · have grows := machine.tree.grows_makeDirectories directory
      rw [made]
      refine ⟨grows.files, grows.kept, fun other here new => ?_⟩
      obtain ⟨above, mem, leads⟩ := grows.made other here new
      exact ⟨directory, place, above, Path.above_of_mem_ancestors mem, leads⟩

/-- A check whose screenshot goes to a path with dots and empty pieces. -/
def dottedConfig : Config :=
  { options := { screenshot := .ofString "./a/..//b/shot.png" } }

/-- The check makes two directories, one of which it only goes through, and its script saves the screenshot at the
absolute path, dots and all. -/
theorem screenshot_place_dotted :
    dottedConfig.options.screenshot.IsText ∧ (machineWriting []).cwd = some workPlace ∧ workPlace.IsText ∧
      (run dottedConfig (machineWriting [])).tree.directories =
        ["work", "work/a", "work/b"].map (fun place => (Path.ofString place).pieces) ∧
      ∃ script value, (run dottedConfig (machineWriting [])).script = some script ∧
        Path.ofString value = .ofString "/work/./a/..//b/shot.png" ∧
        (∃ lead, script.toList = lead ++ (Script.shotCall.toList ++ Script.fromShot value)) ∧
        (run dottedConfig (machineWriting [])).tree.isDirectory (.ofString "/work/./a/..//b") = true := by
  have text : dottedConfig.options.screenshot.IsText := ⟨_, rfl⟩
  have base : workPlace.IsText := ⟨_, rfl⟩
  have launched : (run dottedConfig (machineWriting [])).script.isSome = true := by decide +kernel
  obtain ⟨script, written⟩ := Option.isSome_iff_exists.mp launched
  obtain ⟨value, ends, _, _, _, whole⟩ := (screenshot_place dottedConfig (machineWriting [])).1 script written
  obtain ⟨_, absolute, made⟩ := whole text (.inr ⟨workPlace, rfl, by decide, base⟩)
  have path : Path.ofString value = .ofString "/work/./a/..//b/shot.png" := absolute.trans (by decide)
  exact ⟨text, rfl, base, by decide +kernel, script, value, written, path, ends, made _ (by decide +kernel)⟩

/-- A machine in a directory whose name is no text. -/
def strayMachine : Machine :=
  { machineWriting [] with
    cwd := some ⟨[0x2F, 0xFF]⟩, tree := { directories := [[[0xFF]]], files := [] } }

/-- A check whose screenshot goes to a name alone. -/
def bareConfig : Config :=
  { options := { screenshot := .ofString "shot.png" } }

/-- **Scripts that save the screenshot somewhere else.** Both checks have a path that is text, and both give their
program a script. In a directory whose name is no text, the directory for the screenshot is made, but the script
saves the screenshot at another path, whose parent is not there. Where there is no current directory, the script
saves the screenshot at a path that is not absolute. -/
theorem screenshot_elsewhere :
    (∃ script lead value, (run {} strayMachine).script = some script ∧
      ({} : Scenario.Options).screenshot.IsText ∧
      script.toList = lead ++ (Script.shotCall.toList ++ Script.fromShot value) ∧
      Reading.literals (Script.fromShot value) =
        some [value, "screenshot", value, "failed", "closed", "failed"] ∧
      value = "/\uFFFD/verification/ux_verification_refined.png" ∧
      Path.ofString value ≠ ({} : Scenario.Options).screenshot.absolute strayMachine.cwd ∧
      (run {} strayMachine).tree.directories = [[[0xFF]], [[0xFF], Utf8.encode "verification".toList]] ∧
      (run {} strayMachine).tree.isDirectory (.ofString "/\uFFFD/verification") = false) ∧
    ∃ script lead value, (run bareConfig { machineWriting [] with cwd := none }).script = some script ∧
      bareConfig.options.screenshot.IsText ∧
      script.toList = lead ++ (Script.shotCall.toList ++ Script.fromShot value) ∧
      Reading.literals (Script.fromShot value) =
        some [value, "screenshot", value, "failed", "closed", "failed"] ∧
      value = "shot.png" ∧ (Path.ofString value).isAbsolute = false := by
  constructor
  · have launched : (run {} strayMachine).script.isSome = true := by decide +kernel
    obtain ⟨script, written⟩ := Option.isSome_iff_exists.mp launched
    obtain ⟨lead, ends⟩ := exists_fromShot written
    have value : (({} : Config).options.screenshot.absolute strayMachine.cwd).display =
        "/\uFFFD/verification/ux_verification_refined.png" := by decide +kernel
    refine ⟨script, lead, _, written, ⟨_, rfl⟩, ends, Script.literals_fromShot _, value, ?_,
      by decide +kernel, by decide +kernel⟩
    rw [value]
    decide +kernel
  · have launched : (run bareConfig { machineWriting [] with cwd := none }).script.isSome = true := by
      decide +kernel
    obtain ⟨script, written⟩ := Option.isSome_iff_exists.mp launched
    obtain ⟨lead, ends⟩ := exists_fromShot written
    have value : (bareConfig.options.screenshot.absolute none).display = "shot.png" := by decide +kernel
    refine ⟨script, lead, _, written, ⟨_, rfl⟩, ends, Script.literals_fromShot _, value, ?_⟩
    rw [value]
    decide +kernel

end Check

end LoadingCheck
