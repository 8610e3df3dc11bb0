import LoadingCheck.Failure
import LoadingCheck.Proofs.Text.Blank
import LoadingCheck.Proofs.Text.Search

set_option relaxedAutoImplicit false
set_option autoImplicit false

/-!
# What tells the cause of a failure

The first line of a message names the call that failed. What stands below it can name any other call, and a
log of calls usually names many. The cause is told from the first line alone, and the log of calls is no part
of what a failed assertion shows. So messages that start with the same line have the same cause, and a log
of calls behind a message changes nothing at all.

## Main definitions

* `LoadingCheck.Failure.told` — the failure that a headline and a text without its log tell.

## Main results

* `LoadingCheck.Failure.headline_append` — the headline of a message with other lines below it.
* `LoadingCheck.Failure.withoutCallLog_append` — a message with a log of calls below it.
* `LoadingCheck.Failure.ofScriptMessage_below` — what stands below a message, and its log of calls.
-/

namespace LoadingCheck.Failure

/-- The failure that a headline tells, with the text of a message without its log of calls for the case of an
assertion. -/
def told (head log : List Char) (url : String) : Failure :=
  if mentions navigationWords head then .navigation url (String.ofList head)
  else if mentions assertionWords head then .assertion (String.ofList log)
  else if mentions elementWords head then .elementMissing (String.ofList head)
  else .script (String.ofList head)

lemma ofScriptMessage_eq_told (message url : String) :
    ofScriptMessage message url =
      told (headline message.toList) (withoutCallLog message.toList) url := rfl

/-- The text of the message matters for an assertion only. -/
lemma told_eq_or_assertion (head log log' : List Char) (url : String) :
    told head log url = told head log' url ∨
      ∃ detail detail', told head log url = .assertion detail ∧ told head log' url = .assertion detail' := by
  unfold told
  split_ifs
  · exact .inl rfl
  · exact .inr ⟨_, _, rfl, rfl⟩
  · exact .inl rfl
  · exact .inl rfl

/-- A failed assertion shows the text of the message. -/
lemma eq_of_told_eq_assertion {head log : List Char} {url detail : String}
    (h : told head log url = .assertion detail) : detail.toList = log := by
  unfold told at h
  split_ifs at h
  cases h
  exact String.toList_ofList

/-- Lines below a message are no part of its headline. -/
lemma headline_append (m t : List Char) : headline (m ++ '\n' :: t) = headline m :=
  Text.trim_firstLine_append m t

lemma callLogMark_ne_nil : callLogMark ≠ [] := by decide

lemma lineFeed_notMem_callLogMark : '\n' ∉ callLogMark := by decide

/-- A log of calls below a message is no part of its text.

**Proof sketch.** The words of the log have no line feed, so they occur in the message or below it. Of the
message without them only the line feed is left, which is a blank. -/
lemma withoutCallLog_append (m t : List Char) :
    withoutCallLog (m ++ '\n' :: (callLogMark ++ t)) = withoutCallLog m := by
  have here : Text.before? callLogMark (callLogMark ++ t) = some [] := by
    have start : callLogMark.isPrefixOf (callLogMark ++ t) = true :=
      List.isPrefixOf_iff_prefix.mpr (List.prefix_append _ _)
    exact if_pos start
  have search := Text.before?_append_cons (s := m) callLogMark_ne_nil lineFeed_notMem_callLogMark
    (callLogMark ++ t)
  rw [here] at search
  unfold withoutCallLog
  rw [search]
  cases Text.before? callLogMark m with
  | some b => rfl
  | none =>
    have blank : ∀ c ∈ ['\n'], Text.isBlank c = true := List.forall_mem_singleton.mpr rfl
    exact Text.trim_append_blank m blank

/-- The words of the log do not occur in a text without its log. -/
lemma not_infix_withoutCallLog (m : List Char) : ¬ callLogMark <:+: withoutCallLog m := by
  intro occurs
  have inside := occurs.trans (Text.trim_infix _)
  cases search : Text.before? callLogMark m with
  | some b =>
    rw [search] at inside
    exact Text.not_infix_of_before? callLogMark_ne_nil search inside
  | none =>
    rw [search, Option.getD_none, ← Text.contains_iff, Text.contains, search] at inside
    cases inside

/-- **What tells the cause of a failure.** A log of calls below a message changes nothing. Other lines below
it leave the cause and its wording as they are, except that a failed assertion may show them. What it shows
has no log of calls in it, and no blanks at its ends. -/
theorem ofScriptMessage_below (m t url : String) :
    ofScriptMessage (m ++ "\nCall log:" ++ t) url = ofScriptMessage m url ∧
      (ofScriptMessage (m ++ "\n" ++ t) url = ofScriptMessage m url ∨
        ∃ detail detail', ofScriptMessage (m ++ "\n" ++ t) url = .assertion detail ∧
          ofScriptMessage m url = .assertion detail') ∧
      ∀ detail, ofScriptMessage m url = .assertion detail →
        ¬ "Call log:".toList <:+: detail.toList ∧
          ∀ c, detail.toList.head? = some c ∨ detail.toList.getLast? = some c →
            Text.isBlank c = false := by
  have log : (m ++ "\nCall log:" ++ t).toList = m.toList ++ '\n' :: (callLogMark ++ t.toList) := by
    rw [String.toList_append, String.toList_append, List.append_assoc]
    rfl
  have lines : (m ++ "\n" ++ t).toList = m.toList ++ '\n' :: t.toList := by
    rw [String.toList_append, String.toList_append, List.append_assoc]
    rfl
  refine ⟨?_, ?_, fun detail failed => ?_⟩
  · rw [ofScriptMessage_eq_told, ofScriptMessage_eq_told, log, headline_append, withoutCallLog_append]
  · rw [ofScriptMessage_eq_told, ofScriptMessage_eq_told, lines, headline_append]
    exact told_eq_or_assertion _ _ _ _
  · rw [ofScriptMessage_eq_told] at failed
    rw [eq_of_told_eq_assertion failed]
    refine ⟨not_infix_withoutCallLog _, fun c ends => ?_⟩
    rcases ends with first | last
    · exact Text.isBlank_of_head?_trim first
    · exact Text.isBlank_of_getLast?_trim last

/-- A failed assertion whose first line ends in blanks and a carriage return, with calls of other kinds in
its text and in its log. -/
def shownMessage : String :=
  "expect(locator).toHaveClass \r\nReceived: page.goto\u3000\nCall log:\n - locator.click"

/-- What it shows, with another log below it or without one, and the same cause with other lines below it. -/
theorem ofScriptMessage_shown :
    ofScriptMessage (shownMessage ++ "\nCall log:" ++ " page.goto") "/" =
        .assertion "expect(locator).toHaveClass \r\nReceived: page.goto" ∧
      ¬ "Call log:".toList <:+: "expect(locator).toHaveClass \r\nReceived: page.goto".toList := by
  have failed : ofScriptMessage shownMessage "/" =
      .assertion "expect(locator).toHaveClass \r\nReceived: page.goto" := by
    decide
  obtain ⟨same, _, shown⟩ := ofScriptMessage_below shownMessage " page.goto" "/"
  exact ⟨same.trans failed, (shown _ failed).1⟩

end LoadingCheck.Failure
