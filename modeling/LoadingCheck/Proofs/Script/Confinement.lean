import LoadingCheck.Proofs.Script.Reading
import LoadingCheck.Script.Basic
import Mathlib.Data.List.Forall2

set_option relaxedAutoImplicit false
set_option autoImplicit false

/-!
# Texts of a scenario and the code of its script

The texts of a scenario come from outside: urls, roles and names of elements, patterns, responses, paths.
They go into the script as literals, which keeps them out of the code, and the name of a step also goes
into a remark as it stands. A line end in a name ends that remark, and what follows it is code.

## Main definitions

* `LoadingCheck.Scenario.SameShape` — two scenarios differ in nothing but their texts and delays.
* `LoadingCheck.Scenario.NamesOneLine` — no name of a step has a line end in it.
* `LoadingCheck.Step.ShowsText` — a text from outside is part of the name of a step.

## Main results

* `LoadingCheck.Script.confinement` — the texts of a scenario stay outside the code of its script exactly
  if its names are of one line each; then scenarios of one shape have the same code; and the texts never
  matter exactly for the shapes whose names show no text.
-/

namespace LoadingCheck

open Reading

/-! ### Shapes -/

/-- Two steps differ in nothing but their texts and delays. -/
def Step.SameShape : Step → Step → Prop
  | .installBridge _ p, .installBridge _ q => p = q
  | .navigate _, .navigate _ => True
  | .click _, .click _ => True
  | .settle m, .settle n => m = n
  | .assertClass _ _, .assertClass _ _ => True
  | _, _ => False

/-- Whether a text from outside is part of the name of a step. -/
def Step.ShowsText : Step → Prop
  | .installBridge _ _ => False
  | .navigate _ => True
  | .click _ => True
  | .settle _ => False
  | .assertClass _ _ => True

/-- Two scenarios differ in nothing but their texts and delays: they have the same kinds of steps, which
are taken at the same points and wait as long, and the same kind of screenshot. -/
def Scenario.SameShape (s t : Scenario) : Prop :=
  List.Forall₂ Step.SameShape s.steps t.steps ∧ s.screenshot.fullPage = t.screenshot.fullPage

/-- The name of every step is one line. -/
def Scenario.NamesOneLine (s : Scenario) : Prop :=
  ∀ step ∈ s.steps, OneLine step.name.toList

lemma Step.SameShape.refl (a : Step) : a.SameShape a := by
  cases a <;> simp [Step.SameShape]

lemma Step.SameShape.showsText {a b : Step} (h : a.SameShape b) : a.ShowsText ↔ b.ShowsText := by
  cases a <;> cases b <;> simp_all [Step.SameShape, Step.ShowsText]

lemma Step.name_navigate (url : String) : (Step.navigate url).name = "navigate:" ++ url := rfl

lemma Step.name_click (t : Target) : (Step.click t).name = "click:" ++ t.display := rfl

lemma Step.name_settle (ms : ℕ) : (Step.settle ms).name = "settle:" ++ toString ms ++ "ms" := rfl

lemma Step.name_assertClass (t : Target) (p : ClassPattern) :
    (Step.assertClass t p).name = "assert-class:" ++ t.display ++ "~/" ++ p.source ++ "/" := rfl

/-- A navigation has a name of one line if its url is one. -/
lemma Step.oneLine_navigate {url : String} (h : OneLine url.toList) :
    OneLine (Step.navigate url).name.toList := by
  rw [name_navigate, String.toList_append, oneLine_append]
  exact ⟨oneLine_of_all (by decide), h⟩

/-- A name that shows no text is one line. -/
lemma Step.oneLine_name {a : Step} (h : ¬ a.ShowsText) : OneLine a.name.toList := by
  cases a with
  | installBridge b p =>
    cases p
    · exact oneLine_of_all (by decide)
    · exact oneLine_of_all (by decide)
  | navigate url => exact absurd trivial h
  | click t => exact absurd trivial h
  | settle ms =>
    rw [name_settle, String.toList_append, String.toList_append, oneLine_append, oneLine_append]
    exact ⟨⟨oneLine_of_all (by decide), oneLine_number ms⟩,
      oneLine_of_all (by decide)⟩
  | assertClass t p => exact absurd trivial h

namespace Script

/-! ### The frame of a script -/

section

variable {st : State} {fs : List Fragment}

lemma framed_flag (b : Bool) (h : Framed .code fs st) : Framed .code (flag b :: fs) st := by
  cases b <;> exact .code .code (by decide) h

lemma framed_browser (b : Browser) (h : Framed .code fs st) :
    Framed .code (.code b.name :: fs) st := by
  cases b <;> exact .code .code (by decide) h

end

lemma framed_opening (settings : Settings) : Framed .code (opening settings) .code := by
  refine .code .code (by decide) (.literal _ ?_)
  refine .code .code (by decide) (.code .code (by decide) ?_)
  refine .code .code (by decide) (framed_browser _ ?_)
  refine .code .code (by decide) (framed_flag _ ?_)
  refine .code .code (by decide) (.code .code (by decide) (.number _ ?_))
  refine .code .code (by decide) (.number _ ?_)
  refine .code .code (by decide) (.code .code (by decide) ?_)
  exact .code .code (by decide) .nil

lemma framed_locator (t : Target) : Framed .code t.locator .code := by
  refine .code .code (by decide) (.literal _ ?_)
  exact .code .code (by decide) (.literal _ (.code .code (by decide) .nil))

lemma framed_expression (p : ClassPattern) : Framed .code p.expression .code :=
  .code .code (by decide) (.literal _ (.code .code (by decide) .nil))

lemma framed_statement (step : Step) : Framed .code step.statement .code := by
  rcases step with ⟨b, _ | _⟩ | url | target | ms | ⟨target, pattern⟩
  · exact .code .code (by decide) (.literal _ (.code .code (by decide) .nil))
  · exact .code .code (by decide) (.literal _ (.code .code (by decide) .nil))
  · exact .code .code (by decide) (.literal _ (.code .code (by decide) .nil))
  · exact .append (.append (.code .code (by decide) .nil) (framed_locator target))
      (.code .code (by decide) .nil)
  · exact .code .code (by decide) (.number _ (.code .code (by decide) .nil))
  · exact .append (.append (.append (.append (.code .code (by decide) .nil)
      (framed_locator target)) (.code .code (by decide) .nil)) (framed_expression pattern))
      (.code .code (by decide) .nil)

lemma framed_stepBlock (index : ℕ) (step : Step) : Framed .code (stepBlock index step) .code := by
  refine .append (.append ?_ (framed_statement step)) ?_
  · refine .code .remark (by decide) (.number_remark _ ?_)
    exact .code .remark (by decide) (.remark _ (.code .code (by decide) .nil))
  · refine .code .code (by decide) (.number _ ?_)
    exact .code .code (by decide) (.literal _ (.code .code (by decide) .nil))

lemma framed_stepBlocks (index : ℕ) (steps : List Step) :
    Framed .code (stepBlocks index steps) .code := by
  induction steps generalizing index with
  | nil => exact .nil
  | cons step rest ih => exact .append (framed_stepBlock index step) (ih (index + 1))

lemma framed_closing (path : String) (fullPage : Bool) :
    Framed .code (closing path fullPage) .code := by
  refine .code .code (by decide) (.code .code (by decide) ?_)
  refine .code .code (by decide) (.literal _ ?_)
  refine .code .code (by decide) (framed_flag _ ?_)
  refine .code .code (by decide) (.code .code (by decide) (.literal _ ?_))
  refine .code .code (by decide) (.code .code (by decide) ?_)
  refine .code .code (by decide) (.code .code (by decide) ?_)
  exact .code .code (by decide) (.code .code (by decide) .nil)

lemma framed_fragments (settings : Settings) (cwd : Option Path) (s : Scenario) :
    Framed .code (fragments settings cwd s) .code :=
  .append (.append (framed_opening settings) (framed_stepBlocks 0 s.steps)) (framed_closing _ _)

/-! ### Scripts of one shape -/

lemma map_blank_stepBlock (index : ℕ) {a b : Step} (h : a.SameShape b) :
    (stepBlock index a).map blank = (stepBlock index b).map blank := by
  cases a <;> cases b <;> simp only [Step.SameShape] at h
  case installBridge.installBridge b p b' q =>
    subst h
    cases p <;> simp only [stepBlock, Step.statement, Bridge.installation, List.map_append,
      List.map_cons, List.map_nil, blank]
  case settle.settle m n => rw [h]
  all_goals
    simp only [stepBlock, Step.statement, Target.locator, ClassPattern.expression, List.map_append,
      List.map_cons, List.map_nil, blank]

lemma map_blank_stepBlocks (index : ℕ) {as bs : List Step} (h : List.Forall₂ Step.SameShape as bs) :
    (stepBlocks index as).map blank = (stepBlocks index bs).map blank := by
  induction h generalizing index with
  | nil => rfl
  | cons hab _ ih => simp only [stepBlocks, List.map_append, map_blank_stepBlock index hab, ih]

/-- Scripts of one shape are the same fragments but for the texts in them. -/
lemma map_blank_fragments (settings : Settings) (cwd : Option Path) {s t : Scenario}
    (h : s.SameShape t) :
    (fragments settings cwd s).map blank = (fragments settings cwd t).map blank := by
  have hclosing : ∀ path path' : String, (closing path t.screenshot.fullPage).map blank =
      (closing path' t.screenshot.fullPage).map blank := fun _ _ => rfl
  simp only [fragments, List.map_append, map_blank_stepBlocks 0 h.1, h.2]
  rw [hclosing]

/-! ### The remarks of a script -/

lemma tidy_stepBlock (index : ℕ) {step : Step} (h : OneLine step.name.toList) :
    Tidy (stepBlock index step) := by
  have hstatement : ∀ r, Fragment.remark r ∉ step.statement := by
    intro r hr
    rcases step with ⟨b, _ | _⟩ | url | target | ms | ⟨target, pattern⟩ <;>
      simp [Step.statement, Bridge.installation, Target.locator, ClassPattern.expression] at hr
  intro r hr
  simp [stepBlock, hstatement] at hr
  rwa [hr]

lemma tidy_stepBlocks {steps : List Step} (h : ∀ step ∈ steps, OneLine step.name.toList) (index : ℕ) :
    Tidy (stepBlocks index steps) := by
  induction steps generalizing index with
  | nil => exact fun s hs => by simp [stepBlocks] at hs
  | cons step rest ih =>
    exact tidy_append.mpr ⟨tidy_stepBlock index (h step (by simp)),
      ih (fun a ha => h a (by simp [ha])) (index + 1)⟩

lemma tidy_opening (settings : Settings) : Tidy (opening settings) := by
  intro s hs
  simp only [opening, flag, List.mem_cons, List.not_mem_nil, reduceCtorEq, or_self] at hs

lemma tidy_closing (path : String) (fullPage : Bool) : Tidy (closing path fullPage) := by
  intro s hs
  simp only [closing, flag, List.mem_cons, List.not_mem_nil, reduceCtorEq, or_self] at hs

lemma tidy_fragments (settings : Settings) (cwd : Option Path) {s : Scenario} (h : s.NamesOneLine) :
    Tidy (fragments settings cwd s) :=
  tidy_append.mpr ⟨tidy_append.mpr ⟨tidy_opening settings, tidy_stepBlocks h 0⟩, tidy_closing _ _⟩

/-- Scenarios of one shape whose names are of one line each have scripts with the same code.

**Proof sketch.** Both scripts are read as their frames say, and the frames do not depend on the texts. -/
lemma codeOf_source_congr (settings : Settings) (cwd : Option Path) {s t : Scenario}
    (hs : s.NamesOneLine) (ht : t.NamesOneLine) (h : s.SameShape t) :
    codeOf (source settings cwd s).toList = codeOf (source settings cwd t).toList := by
  obtain ⟨ts, hts⟩ := framed_fragments settings cwd s
  have hts' : frame .code (fragments settings cwd t) = some (ts, .code) := by
    rw [← frame_map_blank, ← map_blank_fragments settings cwd h, frame_map_blank, hts]
  obtain ⟨hread, hafter⟩ := read_of_frame hts (tidy_fragments settings cwd hs)
  obtain ⟨hread', hafter'⟩ := read_of_frame hts' (tidy_fragments settings cwd ht)
  simp only [codeOf, source, String.toList_ofList, hread, hread', hafter, hafter']

/-! ### Up to the remark of a step -/

/-- The script up to the name of the step that follows the given ones. -/
def lead (settings : Settings) (steps : List Step) : List Fragment :=
  opening settings ++ stepBlocks 0 steps ++
    [.code "\n    // Step ", .number (steps.length + 1), .code ": "]

lemma stepBlocks_append (index : ℕ) (as bs : List Step) :
    stepBlocks index (as ++ bs) = stepBlocks index as ++ stepBlocks (index + as.length) bs := by
  induction as generalizing index with
  | nil => rfl
  | cons a as ih =>
    simp only [List.cons_append, stepBlocks, ih, List.append_assoc, List.length_cons]
    rw [Nat.add_assoc, Nat.add_comm 1]

/-- The name of a step stands behind the lead of the steps before it, and the statement of the step on
the line after it. -/
lemma fragments_eq_lead (settings : Settings) (cwd : Option Path) {s : Scenario} {pre post : List Step}
    {step : Step} (h : s.steps = pre ++ step :: post) :
    ∃ rest, fragments settings cwd s =
      lead settings pre ++ .remark step.name :: .code "\n" :: (step.statement ++ rest) := by
  refine ⟨[.code "\n    emit(\x7b event: 'step', index: ", .number pre.length, .code ", name: ",
    .literal step.name, .code " \x7d);\n"] ++ (stepBlocks (pre.length + 1) post ++
      closing (s.screenshot.path.absolute cwd).display s.screenshot.fullPage), ?_⟩
  simp only [fragments, h, stepBlocks_append, stepBlocks, stepBlock, lead, List.append_assoc,
    List.cons_append, List.nil_append, Nat.zero_add]

/-- After a lead a reader stands in a remark. -/
lemma after_lead (settings : Settings) {pre : List Step}
    (h : ∀ step ∈ pre, OneLine step.name.toList) :
    after .code (Fragment.render (lead settings pre)) = .remark := by
  have hmark : Framed .code [.code "\n    // Step ", .number (pre.length + 1), .code ": "] .remark :=
    .code .remark (by decide) (.number_remark _ (.code .remark (by decide) .nil))
  have hframe : Framed .code (lead settings pre) .remark :=
    .append (.append (framed_opening settings) (framed_stepBlocks 0 pre)) hmark
  have htidy : Tidy (lead settings pre) :=
    tidy_append.mpr ⟨tidy_append.mpr ⟨tidy_opening settings, tidy_stepBlocks h 0⟩,
      fun s hs => by simp at hs⟩
  exact hframe.after_render htidy

/-- The code of a script, from the remark of one of its steps on. -/
lemma codeOf_source_eq_lead (settings : Settings) (cwd : Option Path) {s : Scenario}
    {pre post : List Step} {step : Step} (h : s.steps = pre ++ step :: post)
    (hpre : ∀ a ∈ pre, OneLine a.name.toList) :
    ∃ rest, codeOf (source settings cwd s).toList =
      tokens .code (Fragment.render (lead settings pre)) ++
        (tokens .remark (step.name.toList ++ '\n' :: (Fragment.render step.statement ++ rest)) ++
          (after .remark
            (step.name.toList ++ '\n' :: (Fragment.render step.statement ++ rest))).held) := by
  obtain ⟨rest, hrest⟩ := fragments_eq_lead settings cwd h
  refine ⟨Fragment.render rest, ?_⟩
  have hrender : Fragment.render (fragments settings cwd s) = Fragment.render (lead settings pre) ++
      (step.name.toList ++ '\n' :: (Fragment.render step.statement ++ Fragment.render rest)) := by
    rw [hrest]
    simp [Fragment.text]
  rw [codeOf, source, String.toList_ofList, hrender, tokens_append, after_append,
    after_lead settings hpre, List.append_assoc]

/-- The first element of a list without a property, if there is one. -/
lemma exists_first_not {α : Type} {p : α → Prop} {l : List α} (h : ¬ ∀ a ∈ l, p a) :
    ∃ pre a post, l = pre ++ a :: post ∧ (∀ b ∈ pre, p b) ∧ ¬ p a := by
  induction l with
  | nil => exact absurd (fun a ha => by simp at ha) h
  | cons a l ih =>
    by_cases ha : p a
    · have hl : ¬ ∀ b ∈ l, p b := fun hl => h (List.forall_mem_cons.mpr ⟨ha, hl⟩)
      obtain ⟨pre, b, post, rfl, hpre, hb⟩ := ih hl
      exact ⟨a :: pre, b, post, rfl, List.forall_mem_cons.mpr ⟨ha, hpre⟩, hb⟩
    · exact ⟨[], a, l, rfl, fun b hb => by simp at hb, ha⟩

/-- The texts of a scenario stay outside the code of its script exactly if its names are of one line
each.

**Proof sketch.** If they are, the frame of the script says so. If not, take the first step with a line
end in its name: a reader comes to that name in a remark and reads it as code from the line end on. -/
lemma confined_iff (settings : Settings) (cwd : Option Path) (s : Scenario) :
    Confined (fragments settings cwd s) ↔ s.NamesOneLine := by
  constructor
  · intro hconf
    by_contra hnames
    obtain ⟨pre, step, post, hsteps, hpre, hstep⟩ := exists_first_not hnames
    obtain ⟨rest, hrest⟩ := fragments_eq_lead settings cwd hsteps
    obtain ⟨c, hc⟩ := exists_char_of_not_oneLine hstep
    have htoken := hconf (lead settings pre) (.remark step.name) _ hrest rfl (.char c)
    rw [after_lead settings hpre] at htoken
    exact absurd (htoken hc) (by simp)
  · intro hnames
    exact confined_of_framed (framed_fragments settings cwd s) (tidy_fragments settings cwd hnames)

/-! ### Shapes whose names show a text -/

/-- The step with `text` for the first text in its name. -/
def showing (text : String) : Step → Step
  | .navigate _ => .navigate text
  | .click _ => .click ⟨text, ""⟩
  | .assertClass _ pattern => .assertClass ⟨text, ""⟩ pattern
  | a => a

lemma sameShape_showing (text : String) (a : Step) : a.SameShape (showing text a) := by
  cases a <;> simp [showing, Step.SameShape]

/-- A line of one text stands before the text that a step shows. -/
lemma name_showing {a : Step} (h : a.ShowsText) :
    ∃ before rest : List Char, OneLine before ∧
      ∀ text, (showing text a).name.toList = before ++ (text.toList ++ rest) := by
  cases a with
  | installBridge b p => exact absurd h (by simp [Step.ShowsText])
  | navigate url =>
    exact ⟨"navigate:".toList, [], oneLine_of_all (by decide),
      fun text => by simp [showing, Step.name_navigate]⟩
  | click t =>
    exact ⟨"click:".toList, "[name=\"\"]".toList, oneLine_of_all (by decide),
      fun text => by simp [showing, Step.name_click, Target.display]⟩
  | settle ms => exact absurd h (by simp [Step.ShowsText])
  | assertClass t p =>
    exact ⟨"assert-class:".toList, "[name=\"\"]~/".toList ++ (p.source.toList ++ "/".toList),
      oneLine_of_all (by decide),
      fun text => by simp [showing, Step.name_assertClass, Target.display]⟩

/-- A line end that a step shows is the next character of the code.

**Proof sketch.** What stands before it in the name is passed over as part of the remark, which the line
end closes. -/
lemma codeOf_source_showing (settings : Settings) (cwd : Option Path) (s : Scenario)
    {pre : List Step} (post : List Step) {a : Step} (hpre : ∀ b ∈ pre, OneLine b.name.toList) (ha : a.ShowsText)
    {c : Char} (hc : isLineEnd c = true) :
    ∃ rest, codeOf (source settings cwd
        { s with steps := pre ++ showing (String.singleton c) a :: post }).toList =
      tokens .code (Fragment.render (lead settings pre)) ++ .char c :: rest := by
  obtain ⟨before, behind, hbefore, hname⟩ := name_showing ha
  have hsteps : { s with steps := pre ++ showing (String.singleton c) a :: post }.steps =
      pre ++ showing (String.singleton c) a :: post := rfl
  obtain ⟨rest, hrest⟩ := codeOf_source_eq_lead settings cwd hsteps hpre
  rw [hrest, hname, List.append_assoc, List.append_assoc, String.toList_singleton,
    List.singleton_append, tokens_remark_lineEnd hbefore hc]
  exact ⟨_, rfl⟩

/-- The texts of a shape whose names show one matter for the code: two of its scenarios, with different
line ends in the place of one text, have different code. -/
lemma exists_codeOf_source_ne (settings : Settings) (cwd : Option Path) {s : Scenario}
    (h : ¬ ∀ a ∈ s.steps, ¬ a.ShowsText) :
    ∃ t u : Scenario, s.SameShape t ∧ s.SameShape u ∧
      codeOf (source settings cwd t).toList ≠ codeOf (source settings cwd u).toList := by
  obtain ⟨pre, a, post, hsteps, hpre, ha⟩ := exists_first_not h
  have hlines : ∀ b ∈ pre, OneLine b.name.toList := fun b hb => Step.oneLine_name (hpre b hb)
  have hshape : ∀ text, s.SameShape { s with steps := pre ++ showing text a :: post } := by
    intro text
    refine ⟨?_, rfl⟩
    rw [hsteps]
    exact List.rel_append (List.forall₂_same.2 fun b _ => Step.SameShape.refl b)
      (.cons (sameShape_showing text a) (List.forall₂_same.2 fun b _ => Step.SameShape.refl b))
  refine ⟨_, _, hshape (String.singleton '\u2028'), hshape (String.singleton '\u2029'), ?_⟩
  obtain ⟨rest, hrest⟩ := codeOf_source_showing settings cwd s post hlines (not_not.mp ha)
    (show isLineEnd '\u2028' = true by decide)
  obtain ⟨rest', hrest'⟩ := codeOf_source_showing settings cwd s post hlines (not_not.mp ha)
    (show isLineEnd '\u2029' = true by decide)
  rw [hrest, hrest']
  intro heq
  exact absurd (List.append_cancel_left heq) (by simp)

lemma exists_sameShape {as bs : List Step} (h : List.Forall₂ Step.SameShape as bs) {b : Step}
    (hb : b ∈ bs) : ∃ a ∈ as, a.SameShape b := by
  induction h with
  | nil => simp at hb
  | @cons a b' as bs hab _ ih =>
    rcases List.mem_cons.mp hb with rfl | hb
    · exact ⟨a, by simp, hab⟩
    · obtain ⟨a', ha', hab'⟩ := ih hb
      exact ⟨a', by simp [ha'], hab'⟩

/-- **Texts and the code of a script.** For all settings and current directories:

* the texts of a scenario stay outside the code of its script exactly if the name of each of its steps is
  one line;
* two scenarios of one shape whose names are of one line each have scripts with the same code;
* all scenarios of a shape have scripts with the same code exactly if no name of a step shows a text.

**Proof sketch.** The first two parts are `confined_iff` and `codeOf_source_congr`. For the third, a name
that shows no text is one line, and a name that shows one can be given different line ends. -/
theorem confinement (settings : Settings) (cwd : Option Path) (s : Scenario) :
    (Confined (fragments settings cwd s) ↔ s.NamesOneLine) ∧
    (s.NamesOneLine → ∀ t : Scenario, t.NamesOneLine → s.SameShape t →
      codeOf (source settings cwd s).toList = codeOf (source settings cwd t).toList) ∧
    ((∀ t : Scenario, s.SameShape t →
        codeOf (source settings cwd s).toList = codeOf (source settings cwd t).toList) ↔
      ∀ a ∈ s.steps, ¬ a.ShowsText) := by
  refine ⟨confined_iff settings cwd s,
    fun hs t ht hst => codeOf_source_congr settings cwd hs ht hst, ?_, ?_⟩
  · intro hsame
    by_contra hshows
    obtain ⟨t, u, ht, hu, hne⟩ := exists_codeOf_source_ne settings cwd hshows
    exact hne ((hsame t ht).symm.trans (hsame u hu))
  · intro hshows t hst
    refine codeOf_source_congr settings cwd (fun a ha => Step.oneLine_name (hshows a ha)) ?_ hst
    intro b hb
    obtain ⟨a, ha, hab⟩ := exists_sameShape hst.1 hb
    exact Step.oneLine_name fun h => hshows a ha (hab.showsText.mpr h)

/-- A scenario that opens one page. -/
def visit (url : String) : Scenario :=
  ⟨"visit", [.navigate url], ⟨.ofString "shot.png", false⟩⟩

/-- A url with quotation marks and code in it is no part of the code. -/
theorem confinement_visit :
    (visit "http://localhost:3000").NamesOneLine ∧
    (visit "http://localhost:3000/?q='); process.exit(0); ('").NamesOneLine ∧
    (visit "http://localhost:3000").SameShape
      (visit "http://localhost:3000/?q='); process.exit(0); ('") ∧
    codeOf (source {} none (visit "http://localhost:3000")).toList =
      codeOf (source {} none (visit "http://localhost:3000/?q='); process.exit(0); ('")).toList := by
  have hs : (visit "http://localhost:3000").NamesOneLine := by
    intro a ha
    rw [List.mem_singleton.mp ha]
    exact Step.oneLine_navigate (oneLine_of_all (by decide))
  have ht : (visit "http://localhost:3000/?q='); process.exit(0); ('").NamesOneLine := by
    intro a ha
    rw [List.mem_singleton.mp ha]
    exact Step.oneLine_navigate (oneLine_of_all (by decide))
  have hst : (visit "http://localhost:3000").SameShape
      (visit "http://localhost:3000/?q='); process.exit(0); ('") := ⟨.cons trivial .nil, rfl⟩
  exact ⟨hs, ht, hst, (confinement {} none _).2.1 hs _ ht hst⟩

/-- What stands behind a line end in a url is code: here it ends the program before the page is opened.

**Proof sketch.** Both scripts agree up to the name of their step. Behind the line end that closes the
remark one goes on with the blanks before the statement, and the other with the code from the url. -/
theorem code_ne_of_lineEnd :
    (visit "http://localhost:3000").SameShape (visit "http://localhost:3000\nprocess.exit(0);//") ∧
    codeOf (source {} none (visit "http://localhost:3000")).toList ≠
      codeOf (source {} none (visit "http://localhost:3000\nprocess.exit(0);//")).toList := by
  refine ⟨⟨.cons trivial .nil, rfl⟩, ?_⟩
  obtain ⟨rest, hrest⟩ := codeOf_source_eq_lead {} none
    (show (visit "http://localhost:3000").steps = [] ++ .navigate "http://localhost:3000" :: [] from rfl)
    (by simp)
  obtain ⟨rest', hrest'⟩ := codeOf_source_eq_lead {} none
    (show (visit "http://localhost:3000\nprocess.exit(0);//").steps =
      [] ++ .navigate "http://localhost:3000\nprocess.exit(0);//" :: [] from rfl) (by simp)
  have hname : (Step.navigate "http://localhost:3000\nprocess.exit(0);//").name.toList =
      (Step.navigate "http://localhost:3000").name.toList ++ '\n' :: "process.exit(0);//".toList := by
    simp [Step.name_navigate]
  have hline : OneLine (Step.navigate "http://localhost:3000").name.toList :=
    Step.oneLine_navigate (oneLine_of_all (by decide))
  rw [hrest, hrest', hname, List.append_assoc, List.cons_append, tokens_remark_lineEnd hline rfl,
    tokens_remark_lineEnd hline rfl]
  intro heq
  replace heq := List.append_cancel_left heq
  simp [Step.statement, Fragment.text, tokens, step, readCode] at heq

end Script

end LoadingCheck
