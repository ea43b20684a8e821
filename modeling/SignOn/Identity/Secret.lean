import SignOn.Json.Fault

/-! # Secrets

A token, code or verifier. Its text is for the server; every message shows a stand-in. -/

namespace SignOn

open Json

/-- A text that no message may show. -/
structure Secret where
  text : String
  deriving DecidableEq, Inhabited

namespace Secret

/-- What a message shows instead of the text. -/
def redacted : String := "<redacted>"

/-- The stand-in with the name of the type, for messages that show data. -/
def shown (_ : Secret) : String := "TokenSecret(" ++ Text.quoted redacted ++ ")"

/-- Is the text empty? -/
def isEmpty (s : Secret) : Bool := s.text = ""

instance : Wire Secret := ⟨fun s => .string s.text, fun v => (Decoder.string v).map Secret.mk⟩

end Secret

end SignOn
