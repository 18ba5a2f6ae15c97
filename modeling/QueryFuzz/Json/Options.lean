/-
  QueryFuzz.Json.Options
  ──────────────────────
  **OPTIONS AND PROFILES AS JSON DOCUMENTS.**
-/
import QueryFuzz.Json.Typed
import QueryFuzz.Profile

namespace QueryFuzz

/-- Knobs in JSON. -/
def Json.knobs : KnobReaders Json where
  count32 := Json.readWord32
  count32? := Json.readOption Json.readWord32
  count64 := Json.readWord64
  double := Json.readDouble
  skip := Json.skip

/-- Read options. -/
def Options.ofJson : Json.Reader Options := Json.readRecord (Options.shape Json.knobs)

/-- Read a profile. -/
def Profile.ofJson : Json.Reader Profile :=
  Json.readRecord (Profile.shape Json.knobs Options.ofJson)

end QueryFuzz
