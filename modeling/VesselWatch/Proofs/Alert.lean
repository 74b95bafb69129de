/-
  Proofs/Alert.lean --- an alert reads back from its line.

  The JSON form of an alert is made of texts alone, so its line holds no line feed of its own,
  whatever stands in the texts of the alert.  Behind that line stands the alert, as long as its
  time is one that can be written (`Alert.ofLine?_render`).
-/
import VesselWatch.Alert
import VesselWatch.Proofs.Instant.Text
import VesselWatch.Proofs.Json.Reader
import VesselWatch.Proofs.Rule.Written
import VesselWatch.Proofs.Uuid

set_option autoImplicit false

namespace VesselWatch.Alert

/-- Reads an alert from a line. -/
def ofLine? (line : String) : Option Alert := (Json.read? line).bind ofNode?

theorem textual_receivers (receivers : List String) :
    Json.TextualItems (receivers.map .text) := by
  induction receivers with
  | nil => exact trivial
  | cons r rest ih => exact ⟨trivial, ih⟩

theorem textual_toJson (a : Alert) : a.toJson.Textual :=
  ⟨trivial, trivial, trivial, trivial, trivial, trivial, trivial, textual_receivers a.notify,
    trivial⟩

theorem depth_receivers (receivers : List String) :
    Json.itemsDepth (receivers.map .text) = 0 := by
  induction receivers with
  | nil => rfl
  | cons r rest ih => exact (Nat.zero_max _).trans ih

theorem depth_toJson (a : Alert) : a.toJson.depth = 2 := by
  simp [toJson, Json.depth, Json.fieldsDepth, depth_receivers]

theorem slots_toJson (a : Alert) :
    a.toJson.toNode.slots .json
        ["id", "ruleId", "alertType", "severity", "entityId", "eventId", "timestamp", "notify"] =
      some [some (.text a.id.render), some (.text a.ruleId), some (.text a.alertType),
        some (.text a.severity), some (.text a.entityId), some (.text a.eventId),
        some (.text a.timestamp.render), some (Json.array (a.notify.map .text)).toNode] := by
  rw [toJson, Node.slots_object .json (by simp)]
  rfl

theorem ofNode?_toJson {a : Alert} (valid : a.timestamp.Valid) :
    ofNode? a.toJson.toNode = some a := by
  have htext (s : String) : (Node.text s).text? .json = some s := rfl
  unfold ofNode?
  rw [slots_toJson, Option.bind_eq_bind, Option.bind_some]
  dsimp only
  simp only [Option.bind_eq_bind, Option.bind_some, Option.pure_def, VesselEvent.time?, htext,
    Uuid.ofText?_render, valid.ofText?_render, texts?_written]

/-- An alert is behind its own line. -/
theorem ofLine?_render {a : Alert} (valid : a.timestamp.Valid) :
    ofLine? a.toJson.render = some a := by
  have shallow : a.toJson.depth ≤ Json.depthLimit := by
    rw [depth_toJson]
    decide
  rw [ofLine?, Json.read?_render a.textual_toJson shallow, Option.bind_some, ofNode?_toJson valid]

/-- The text of an alert is one line, up to its brace. -/
theorem exists_render (a : Alert) :
    ∃ body, a.toJson.render.toList = body ++ ['}'] ∧ '\n' ∉ a.toJson.render.toList := by
  have hclean := Json.newline_notMem_chars a.toJson a.textual_toJson
  rw [Json.render, String.toList_ofList]
  exact ⟨'{' :: _, rfl, hclean⟩

end VesselWatch.Alert
