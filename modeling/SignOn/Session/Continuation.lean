import SignOn.Broker.Bundle

/-! # Continuations

An interactive sign-on leaves the application: a browser or the broker's own screen talks to the
person. What comes back from there is a continuation. It says which screen it is from, how that
ended, and what it brought. -/

namespace SignOn

/-- What a screen sends back. -/
structure Continuation where
  requestCode : Int
  resultCode : Int
  data : Bundle
  deriving DecidableEq, Inhabited

namespace Continuation

/-! ### Which screen -/

/-- A browser that shows the authorization page. -/
def browserFlow : Int := 1001

/-- The broker's own screen. -/
def brokerFlow : Int := 1003

/-! ### How it ended -/

/-- The person closed the screen. -/
def cancelled : Int := 2001

/-- The screen ended with an error. -/
def failed : Int := 2002

/-- The browser came back with a code. -/
def completed : Int := 2003

/-- The broker came back with a result. -/
def brokerSucceeded : Int := 2004

/-- The screen was taken down for a newer request. -/
def replaced : Int := 2008

end Continuation

/-- How an interactive session ended. -/
inductive Signal where
  | completed (continuation : Continuation)
  | cancelled
  deriving DecidableEq, Inhabited

end SignOn
