import InterBridge.Foundations.JsonText

namespace InterBridge
open Foundations

/-- The JSON library the firmware links against: `deserializeJson` decodes the leading value of
a text and fails where its `DeserializationError` is set. -/
class ArduinoJson where
  serializeJson : Json → Bytes
  deserializeJson : Bytes → Option Json

export ArduinoJson (serializeJson deserializeJson)

/-- Documents within the default nesting limit are read back as they were written, and an empty
input is an error. -/
structure ArduinoJson.RoundTrips [ArduinoJson] : Prop where
  storable : ∀ v : Json, v.StorableWithin 10 → deserializeJson (serializeJson v) = some v
  emptyInput : deserializeJson [] = none

theorem ArduinoJson.RoundTrips.serializeJson_ne_nil [ArduinoJson] (h : ArduinoJson.RoundTrips)
    {v : Json} (hv : v.StorableWithin 10) : serializeJson v ≠ [] := by
  intro he
  have hr := h.storable v hv
  rw [he, h.emptyInput] at hr
  cases hr

/-- The compact text codec, which writes what the library writes for these documents. -/
@[reducible] def compactJson : ArduinoJson :=
  ⟨JsonText.print, JsonText.parse⟩

theorem compactJson_roundTrips : @ArduinoJson.RoundTrips compactJson :=
  letI := compactJson
  ⟨fun _ hv => JsonText.parse_print hv, rfl⟩

end InterBridge
