import LoadingCheck.Bridge.Basic
import LoadingCheck.Proofs.Script.Cancellation
import LoadingCheck.Proofs.Script.Literals
import LoadingCheck.Proofs.Text.Search

set_option relaxedAutoImplicit false
set_option autoImplicit false

/-!
# What a handler says

A response goes into the handler as string literals, and the handler as a whole goes into the script as one
literal again. Neither of these texts can leave its literal. So the code of a handler is the same for all
responses, the response can be read off its literals, and the script puts in place the very same handler at
either point of time.

## Main results

* `LoadingCheck.Bridge.codeOf_handlerSource` — the code of a handler.
* `LoadingCheck.Bridge.literals_handlerSource` — its literals.
* `LoadingCheck.Bridge.literals_installation` — the only literal of the statement that runs it.
* `LoadingCheck.Bridge.handlerSource_faithful` — all of them, for every bridge.
-/

namespace LoadingCheck.Bridge

open Fragment (render)
open Reading (Plain Token codeOf literals marks)

/-- A handler is a plain row. -/
lemma plain_handler (b : Bridge) : Plain b.handler := by
  unfold handler Response.members memberFragments
  refine .append (.append ?_ ?_) (.code (by decide) .nil)
  · refine .code (by decide) (.code (by decide) (.literal _ (.code (by decide) (.number _ ?_))))
    exact .code (by decide) .nil
  · refine .literal _ (.code (by decide) (.literal _ (.code (by decide) ?_)))
    refine .literal _ (.code (by decide) (.literal _ (.code (by decide) ?_)))
    refine .literal _ (.code (by decide) (.literal _ (.code (by decide) ?_)))
    exact .literal _ (.code (by decide) (.literal _ .nil))

lemma plain_installation (b : Bridge) (point : InjectionPoint) : Plain (b.installation point) := by
  cases point
  all_goals exact .code (by decide) (.literal _ (.code (by decide) .nil))

/-! ### The code -/

/-- The code of a handler in front of the delay. -/
def opening : List Token :=
  (standard.handler.take 4).flatMap marks

/-- The code of a handler behind the delay. -/
def closing : List Token :=
  (standard.handler.drop 5).flatMap marks

/-- **The code of a handler** is the same for all bridges, but for the delay. -/
theorem codeOf_handlerSource (b : Bridge) :
    codeOf b.handlerSource.toList = opening ++ (marks (.number b.delay.millis) ++ closing) := by
  unfold handlerSource
  rw [String.toList_ofList, Reading.codeOf_render b.plain_handler]
  rfl

/-- The code of handlers is the same exactly if they wait for the same number of milliseconds. -/
lemma codeOf_handlerSource_eq_iff {b c : Bridge} :
    codeOf c.handlerSource.toList = codeOf b.handlerSource.toList ↔ c.delay.millis = b.delay.millis := by
  rw [codeOf_handlerSource, codeOf_handlerSource]
  constructor
  · intro h
    have digits := List.append_cancel_right (List.append_cancel_left h)
    have same : (Fragment.number c.delay.millis).text = (Fragment.number b.delay.millis).text :=
      List.map_injective_iff.mpr (fun _ _ => Token.char.inj) digits
    exact Fragment.text_number_injective same
  · intro h
    rw [h]

/-- The name that a handler gives to the message of a call. -/
def parameter : List Token :=
  "message".toList.map .char

/-- **A handler names its parameter twice**: where it takes the message, and where it writes it to the log. -/
theorem occurrences_parameter (b : Bridge) :
    Text.occurrences parameter (codeOf b.handlerSource.toList) = 2 := by
  have present : parameter ≠ [] := by decide
  have before : Text.occurrences parameter opening = 2 := by decide
  have behind : Text.occurrences parameter closing = 0 := by decide
  have digits : ∀ t ∈ marks (.number b.delay.millis), t ∉ parameter := by
    intro t ht named
    obtain ⟨c, hc, rfl⟩ := List.mem_map.mp ht
    rw [Fragment.text_number] at hc
    have digit := Nat.isDigit_of_mem_toDigits (by decide) (by decide) hc
    obtain ⟨d, letter, same⟩ := List.mem_map.mp named
    obtain rfl := Token.char.inj same
    have none_digit : "message".toList.all (fun d => !d.isDigit) = true := by decide
    have no_digit := List.all_eq_true.mp none_digit d letter
    rw [digit] at no_digit
    cases no_digit
  -- neither the digits nor the code behind them go on with a name from the code in front of them
  have stop : ∀ t ∈ closing.head?, t ∉ parameter := by decide
  have start : ∀ t ∈ (marks (.number b.delay.millis) ++ closing).head?, t ∉ parameter := by
    intro t ht
    rw [List.head?_append, Option.mem_def, Option.or_eq_some_iff] at ht
    rcases ht with number | ⟨_, rest⟩
    · exact digits t (List.mem_of_mem_head? number)
    · exact stop t rest
  rw [codeOf_handlerSource, Text.occurrences_append present start, Text.occurrences_append present stop,
    Text.occurrences_eq_zero present digits, before, behind]

/-! ### The literals -/

/-- **The literals of a handler** are the mark of the log and the response, name by name. -/
theorem literals_handlerSource (b : Bridge) :
    literals b.handlerSource.toList =
      some (logMark :: b.response.members.flatMap fun m => [m.1, m.2]) := by
  unfold handlerSource
  rw [String.toList_ofList, Reading.literals_render b.plain_handler]
  rfl

/-- **The only literal of the statement that puts a handler in place** is the handler. -/
theorem literals_installation (b : Bridge) (point : InjectionPoint) :
    literals (render (b.installation point)) = some [b.handlerSource] := by
  rw [Reading.literals_render (b.plain_installation point)]
  cases point <;> rfl

/-- **A handler says what its bridge holds, and nothing of that is code.** The code of a handler tells the
delay in milliseconds and nothing else of a bridge, and names the message of a call twice. The literals of a
handler are the mark of the log and the response, each text behind its name. The statement that puts a handler
in place has one literal at either point of time, and this is the handler. -/
theorem handlerSource_faithful (b : Bridge) :
    (∀ c : Bridge,
        codeOf c.handlerSource.toList = codeOf b.handlerSource.toList ↔
          c.delay.millis = b.delay.millis) ∧
      Text.occurrences ("message".toList.map Token.char) (codeOf b.handlerSource.toList) = 2 ∧
      literals b.handlerSource.toList =
        some ["IPC call:", "client_yaml", b.response.clientConfig, "server_yaml", b.response.serverConfig,
          "client_public_key", b.response.clientKey, "server_public_key", b.response.serverKey] ∧
      ∀ point, literals (render (b.installation point)) = some [b.handlerSource] :=
  ⟨fun _ => codeOf_handlerSource_eq_iff, b.occurrences_parameter, b.literals_handlerSource,
    b.literals_installation⟩

end LoadingCheck.Bridge
