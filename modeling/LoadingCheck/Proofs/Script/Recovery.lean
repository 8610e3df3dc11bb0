import LoadingCheck.Proofs.Script.Cancellation
import LoadingCheck.Proofs.Script.Confinement
import Mathlib.Data.List.Induction

set_option relaxedAutoImplicit false
set_option autoImplicit false

/-!
# A script tells its scenario

The name of a step goes into a remark as it stands, and a name can be made to look like whole steps. Read
from the front, a script may therefore be taken apart in several ways. Read from the back it cannot: the
event behind a step tells the name and the place of the step, the statement is the line in front of it, and
what the remark says is known by then.

## Main definitions

* `LoadingCheck.Step.Agrees` — two steps are the same but for parts of a millisecond.

## Main results

* `LoadingCheck.Script.source_eq_iff` — scripts are equal exactly if the steps agree one by one and the
  screenshots are the same.
-/

namespace LoadingCheck

open Fragment (render)

/-- Two steps are the same but for the parts of a millisecond in a delay. -/
def Step.Agrees : Step → Step → Prop
  | .installBridge b p, .installBridge c q =>
    b.response = c.response ∧ b.delay.millis = c.delay.millis ∧ p = q
  | .navigate url, .navigate url' => url = url'
  | .click t, .click u => t.role = u.role ∧ t.name = u.name
  | .settle m, .settle n => m = n
  | .assertClass t p, .assertClass u q => t.role = u.role ∧ t.name = u.name ∧ p.source = q.source
  | _, _ => False

/-! ### Handlers -/

/-- The source of a handler tells the response and the delay. -/
lemma Bridge.handlerSource_eq_iff {b c : Bridge} :
    b.handlerSource = c.handlerSource ↔ b.response = c.response ∧ b.delay.millis = c.delay.millis := by
  constructor
  · intro h
    have same : render b.handler = render c.handler := String.ofList_injective h
    simp only [handler, Response.members, memberFragments, List.cons_append, List.nil_append,
      Fragment.render_code_inj, Fragment.render_literal_inj, true_and] at same
    obtain ⟨delay, members⟩ := Fragment.render_number_inj (d := ')') rfl (by decide) same
    simp only [Fragment.render_code_inj, Fragment.render_literal_inj, true_and] at members
    obtain ⟨client, server, clientKey, serverKey, _⟩ := members
    refine ⟨?_, delay⟩
    cases hb : b.response
    cases hc : c.response
    rw [hb, hc] at client server clientKey serverKey
    dsimp only at client server clientKey serverKey
    rw [client, server, clientKey, serverKey]
  · rintro ⟨response, delay⟩
    rw [handlerSource, handlerSource, handler, handler, response, delay]

/-! ### Names -/

lemma Step.name_beforeNavigation (b : Bridge) :
    (Step.installBridge b .beforeNavigation).name = "install-bridge:init-script" := rfl

lemma Step.name_afterLoad (b : Bridge) :
    (Step.installBridge b .afterLoad).name = "install-bridge:evaluate" := rfl

/-- The first character of a name. -/
def Step.initial : Step → Char
  | .installBridge _ _ => 'i'
  | .navigate _ => 'n'
  | .click _ => 'c'
  | .settle _ => 's'
  | .assertClass _ _ => 'a'

lemma Step.head?_name (a : Step) : a.name.toList.head? = some a.initial := by
  rcases a with ⟨b, _ | _⟩ | url | target | ms | ⟨target, pattern⟩
  · rw [name_beforeNavigation, initial]
    decide
  · rw [name_afterLoad, initial]
    decide
  · rw [name_navigate, String.toList_append]
    rfl
  · rw [name_click, String.toList_append]
    rfl
  · rw [name_settle, String.toList_append, String.toList_append]
    rfl
  · rw [name_assertClass, String.toList_append, String.toList_append, String.toList_append,
      String.toList_append]
    rfl

/-- The name of a step tells its kind and, for those whose names show no text, when it is taken or how long
it waits. -/
lemma Step.sameShape_of_name_eq {a b : Step} (h : a.name = b.name) : a.SameShape b := by
  have first : a.initial = b.initial := by
    have heads := a.head?_name
    rw [h, b.head?_name] at heads
    exact (Option.some.inj heads).symm
  cases a <;> cases b
  case installBridge.installBridge b p c q =>
    cases p <;> cases q
    case beforeNavigation.afterLoad =>
      rw [name_beforeNavigation, name_afterLoad] at h
      exact absurd h (by decide)
    case afterLoad.beforeNavigation =>
      rw [name_beforeNavigation, name_afterLoad] at h
      exact absurd h (by decide)
    all_goals rfl
  case navigate.navigate => trivial
  case click.click => trivial
  case settle.settle m n =>
    rw [name_settle, name_settle, ← String.toList_inj, String.toList_append, String.toList_append,
      String.toList_append, String.toList_append] at h
    have digits : (Fragment.number m).text = (Fragment.number n).text :=
      List.append_cancel_left (List.append_cancel_right h)
    exact Fragment.text_number_injective digits
  case assertClass.assertClass => trivial
  all_goals exact absurd first (by simp [Step.initial])

/-! ### What a script keeps of a step -/

lemma Step.Agrees.name_eq {a b : Step} (h : a.Agrees b) : a.name = b.name := by
  cases a <;> cases b <;> simp only [Agrees] at h
  case installBridge.installBridge b p c q =>
    obtain ⟨_, _, rfl⟩ := h
    cases p
    · rw [name_beforeNavigation, name_beforeNavigation]
    · rw [name_afterLoad, name_afterLoad]
  case navigate.navigate => rw [h]
  case click.click => rw [name_click, name_click, Target.display, Target.display, h.1, h.2]
  case settle.settle => rw [h]
  case assertClass.assertClass =>
    rw [name_assertClass, name_assertClass, Target.display, Target.display, h.1, h.2.1, h.2.2]

lemma Step.Agrees.statement_eq {a b : Step} (h : a.Agrees b) : a.statement = b.statement := by
  cases a <;> cases b <;> simp only [Agrees] at h
  case installBridge.installBridge b p c q =>
    obtain ⟨response, delay, rfl⟩ := h
    have source := Bridge.handlerSource_eq_iff.mpr ⟨response, delay⟩
    cases p
    · rw [statement, statement, Bridge.installation, Bridge.installation, source]
    · rw [statement, statement, Bridge.installation, Bridge.installation, source]
  case navigate.navigate => rw [h]
  case click.click => rw [statement, statement, Target.locator, Target.locator, h.1, h.2]
  case settle.settle => rw [h]
  case assertClass.assertClass =>
    rw [statement, statement, Target.locator, Target.locator, ClassPattern.expression,
      ClassPattern.expression, h.1, h.2.1, h.2.2]

namespace Script

/-! ### Steps -/

lemma agrees_of_statement_eq {a b : Step} (shape : a.SameShape b)
    (h : render a.statement = render b.statement) : a.Agrees b := by
  cases a <;> cases b <;> simp only [Step.SameShape] at shape
  case installBridge.installBridge b p c q =>
    subst shape
    have handlers : b.handlerSource = c.handlerSource := by
      cases p
      all_goals
        simp only [Step.statement, Bridge.installation, Fragment.render_code_inj,
          Fragment.render_literal_inj] at h
        exact h.1
    obtain ⟨response, delay⟩ := Bridge.handlerSource_eq_iff.mp handlers
    exact ⟨response, delay, rfl⟩
  case navigate.navigate =>
    simp only [Step.statement, Fragment.render_code_inj, Fragment.render_literal_inj] at h
    exact h.1
  case click.click =>
    simp only [Step.statement, Target.locator, List.cons_append, List.nil_append,
      Fragment.render_code_inj, Fragment.render_literal_inj] at h
    exact ⟨h.1, h.2.1⟩
  case settle.settle => exact shape
  case assertClass.assertClass =>
    simp only [Step.statement, Target.locator, ClassPattern.expression, List.cons_append,
      List.nil_append, Fragment.render_code_inj, Fragment.render_literal_inj] at h
    exact ⟨h.1, h.2.1, h.2.2.1⟩

/-- The statement of a step is one line. -/
lemma inLine_statement (a : Step) : InLine a.statement := by
  rcases a with ⟨b, _ | _⟩ | url | target | ms | ⟨target, pattern⟩
  · exact .code (by decide) (.literal _ (.code (by decide) .nil))
  · exact .code (by decide) (.literal _ (.code (by decide) .nil))
  · exact .code (by decide) (.literal _ (.code (by decide) .nil))
  · refine .code (by decide) (.code (by decide) (.literal _ ?_))
    exact .code (by decide) (.literal _ (.code (by decide) (.code (by decide) .nil)))
  · exact .code (by decide) (.number _ (.code (by decide) .nil))
  · refine .code (by decide) (.code (by decide) (.literal _ ?_))
    refine .code (by decide) (.literal _ (.code (by decide) (.code (by decide) ?_)))
    exact .code (by decide) (.literal _ (.code (by decide) (.code (by decide) .nil)))

/-! ### Blocks -/

/-- The text up to the statement of a step: the remark with its name. -/
def remarked (index : ℕ) (name : String) : List Fragment :=
  [.code "\n    // Step ", .number (index + 1), .code ": ", .remark name]

/-- A block, with what the search for its parts from the back goes past. -/
lemma append_stepBlock (x : List Char) (i : ℕ) (a : Step) :
    x ++ render (stepBlock i a) =
      x ++ render (remarked i a.name) ++ '\n' :: render a.statement ++
        (Fragment.code "\n    emit(\x7b event: 'step', index: ").text ++ (Fragment.number i).text ++
          (Fragment.code ", name: ").text ++ (Fragment.literal a.name).text ++
            (Fragment.code " \x7d);\n").text := by
  simp [stepBlock, remarked, Fragment.text]

/-- The last block of a text tells its place and its step, and nothing in front of it matters.

**Proof sketch.** From the back: the name in the event, the place in the event, and the statement up to the
last line feed. The remark is then the same, and so is what stands in front of it. -/
lemma append_stepBlock_inj {x y : List Char} {i j : ℕ} {a b : Step}
    (h : x ++ render (stepBlock i a) = y ++ render (stepBlock j b)) : x = y ∧ i = j ∧ a.Agrees b := by
  rw [append_stepBlock, append_stepBlock] at h
  have event := List.append_cancel_right h
  obtain ⟨event, name⟩ := foundAtEnd_literal _ _ _ _ (getLast?_append_code (by decide))
    (getLast?_append_code (by decide)) event
  have place := List.append_cancel_right event
  obtain ⟨place, index⟩ := foundAtEnd_number _ _ _ _ (getLast?_append_code (by decide))
    (getLast?_append_code (by decide)) place
  have line := List.append_cancel_right place
  have plain : ∀ step : Step, ∀ c ∈ render step.statement, (c != '\n') = true := by
    intro step c hc
    rw [bne_iff_ne]
    rintro rfl
    exact inLine_statement step hc
  obtain ⟨remark, _, statement⟩ := append_cons_inj_of_last (plain a) (plain b) (by decide) (by decide) line
  rw [name, index] at remark
  have shape := Step.sameShape_of_name_eq name
  exact ⟨List.append_cancel_right remark, index, agrees_of_statement_eq shape statement⟩

lemma stepBlock_eq_of_agrees {i : ℕ} {a b : Step} (h : a.Agrees b) : stepBlock i a = stepBlock i b := by
  rw [stepBlock, stepBlock, h.name_eq, h.statement_eq]

lemma render_stepBlocks_concat (as : List Step) (a : Step) :
    render (stepBlocks 0 (as ++ [a])) = render (stepBlocks 0 as) ++ render (stepBlock as.length a) := by
  simp [stepBlocks_append, stepBlocks]

lemma render_stepBlocks_concat_ne_nil (as : List Step) (a : Step) :
    render (stepBlocks 0 (as ++ [a])) ≠ [] := by
  intro h
  rw [render_stepBlocks_concat] at h
  have length := congrArg List.length (List.append_eq_nil_iff.mp h).2
  simp [stepBlock, Fragment.text] at length

/-- Rows of blocks are equal exactly if their steps agree one by one.

**Proof sketch.** Induction from the back, as the last block of a row can be told from those in front of
it. -/
lemma render_stepBlocks_eq_iff {as bs : List Step} :
    render (stepBlocks 0 as) = render (stepBlocks 0 bs) ↔ List.Forall₂ Step.Agrees as bs := by
  constructor
  · intro h
    induction as using List.reverseRecOn generalizing bs with
    | nil =>
      rcases bs.eq_nil_or_concat' with rfl | ⟨bs, b, rfl⟩
      · exact .nil
      · exact absurd h.symm (render_stepBlocks_concat_ne_nil bs b)
    | append_singleton as a ih =>
      rcases bs.eq_nil_or_concat' with rfl | ⟨bs, b, rfl⟩
      · exact absurd h (render_stepBlocks_concat_ne_nil as a)
      · rw [render_stepBlocks_concat, render_stepBlocks_concat] at h
        obtain ⟨front, _, last⟩ := append_stepBlock_inj h
        exact List.rel_append (ih front) (.cons last .nil)
  · intro h
    have same : ∀ index, stepBlocks index as = stepBlocks index bs := by
      induction h with
      | nil => exact fun _ => rfl
      | cons agrees _ ih =>
        intro index
        rw [stepBlocks, stepBlocks, stepBlock_eq_of_agrees agrees, ih]
    rw [same]

/-! ### Scripts -/

/-- The fragments of the closing before its first literal. -/
def beforeShot : List Fragment :=
  [.code "\n    \x7d catch (error) \x7b\n",
    .code "      emit(\x7b event: 'failed', error: describe(error) \x7d);\n    \x7d\n\n",
    .code "    try \x7b\n      await page.screenshot(\x7b path: "]

/-- The fragments of the closing behind its last literal. -/
def behindShot : List Fragment :=
  [.code " \x7d);\n", .code "    \x7d catch (error) \x7b\n",
    .code "      emit(\x7b event: 'failed', error: describe(error) \x7d);\n    \x7d\n",
    .code "  \x7d finally \x7b\n    await browser.close();\n    emit(\x7b event: 'closed' \x7d);\n  \x7d\n",
    .code "\x7d)().catch(error => \x7b\n",
    .code "  emit(\x7b event: 'failed', error: describe(error) \x7d);\n  process.exitCode = 1;\n\x7d);\n"]

lemma append_closing (x : List Char) (path : String) (full : Bool) :
    x ++ render (closing path full) =
      x ++ render beforeShot ++ (Fragment.literal path).text ++ (Fragment.code ", fullPage: ").text ++
        (flag full).text ++ (Fragment.code " \x7d);\n").text ++
          (Fragment.code "      emit(\x7b event: 'screenshot', path: ").text ++
            (Fragment.literal path).text ++ render behindShot := by
  simp [closing, beforeShot, behindShot]

/-- The end of a script tells the screenshot. -/
lemma append_closing_inj {x y : List Char} {path path' : String} {full full' : Bool}
    (h : x ++ render (closing path full) = y ++ render (closing path' full')) :
    x = y ∧ path = path' ∧ full = full' := by
  rw [append_closing, append_closing] at h
  have event := List.append_cancel_right h
  obtain ⟨event, rfl⟩ := foundAtEnd_literal _ _ _ _ (getLast?_append_code (by decide))
    (getLast?_append_code (by decide)) event
  have shot := List.append_cancel_right (List.append_cancel_right event)
  obtain ⟨shot, rfl⟩ := foundAtEnd_flag _ _ _ _ (getLast?_append_code (by decide))
    (getLast?_append_code (by decide)) shot
  have front := List.append_cancel_right (List.append_cancel_right shot)
  exact ⟨List.append_cancel_right (List.append_cancel_right front), rfl, rfl⟩

/-- **A script tells its scenario.** For all settings and current directories, two scenarios have the same
script exactly if they have as many steps, which agree one by one, and the same screenshot: the same path,
as it is shown, and the same extent. Steps agree if nothing but parts of a millisecond of a delay is
different.

**Proof sketch.** The opening is the same in both scripts, and the closing is taken off from the back. The
blocks in between are then told one after the other, the last one first. -/
theorem source_eq_iff (settings : Settings) (cwd : Option Path) (s t : Scenario) :
    source settings cwd s = source settings cwd t ↔
      List.Forall₂ Step.Agrees s.steps t.steps ∧ s.screenshot.fullPage = t.screenshot.fullPage ∧
        (s.screenshot.path.absolute cwd).display = (t.screenshot.path.absolute cwd).display := by
  constructor
  · intro h
    have same := String.ofList_injective h
    simp only [fragments, Fragment.render_append] at same
    obtain ⟨front, path, full⟩ := append_closing_inj same
    have blocks := List.append_cancel_left front
    exact ⟨render_stepBlocks_eq_iff.mp blocks, full, path⟩
  · rintro ⟨steps, full, path⟩
    have blocks := render_stepBlocks_eq_iff.mpr steps
    rw [source, source, fragments, fragments, full, path]
    simp only [Fragment.render_append, blocks]

end Script

end LoadingCheck
