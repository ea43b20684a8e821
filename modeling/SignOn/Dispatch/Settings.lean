import SignOn.Json.Form
import SignOn.Time.Duration
import SignOn.Broker.HelloCache

/-! # Settings of the dispatcher

How many workers the silent lane has, how long waits last, and how much is cached for how long. A
dispatcher is built only with settings that it can run with. -/

namespace SignOn

open Json

/-- The settings. A missing interactive timeout means to wait without end. -/
structure Settings where
  silentWorkers : UInt64
  interactiveTimeout : Option Duration
  silentSyncTimeout : Duration
  resultCacheCapacity : UInt64
  resultCacheTtl : Duration
  helloCacheTtl : Duration
  deriving DecidableEq

/-- Why a dispatcher cannot run with some settings. -/
inductive SettingsProblem where
  | noWorkers
  | noCapacity
  | notPositive (field : String)
  deriving DecidableEq, Repr

/-- The message of a problem. -/
def SettingsProblem.message : SettingsProblem → String
  | .noWorkers => "Silent lane requires at least one worker."
  | .noCapacity => "Result cache capacity must be at least one."
  | .notPositive field => "The " ++ field ++ " duration must be positive."

namespace Settings

/-- The settings unless something else is asked for. -/
def standard : Settings where
  silentWorkers := 5
  interactiveTimeout := some (.ofMinutes 10)
  silentSyncTimeout := .ofSeconds 30
  resultCacheCapacity := 250
  resultCacheTtl := .ofSeconds 30
  helloCacheTtl := HelloCache.defaultTtl

instance : Inhabited Settings := ⟨standard⟩

/-- The durations by the name of their field; no timeout at all is as good as the longest. -/
def durations (s : Settings) : List (String × Duration) :=
  [("interactive_timeout", s.interactiveTimeout.getD Duration.longest),
    ("silent_sync_timeout", s.silentSyncTimeout), ("result_cache_ttl", s.resultCacheTtl),
    ("hello_cache_ttl", s.helloCacheTtl)]

/-- The first thing that keeps a dispatcher from running with the settings. -/
def problem? (s : Settings) : Option SettingsProblem :=
  if s.silentWorkers = 0 then some .noWorkers
  else if s.resultCacheCapacity = 0 then some .noCapacity
  else (s.durations.find? fun d => !d.2.isPositive).map fun d => .notPositive d.1

/-- A cache of handshakes that keeps them as long as the settings say. -/
def helloCache (s : Settings) : HelloCache := .new HelloCache.protocolName s.helloCacheTtl

/-- The written fields. -/
def form : Form Settings :=
  Settings.mk <$> .defaulted "silent_workers" standard.silentWorkers
    <*> .defaulted "interactive_timeout" standard.interactiveTimeout
    <*> .defaulted "silent_sync_timeout" standard.silentSyncTimeout
    <*> .defaulted "result_cache_capacity" standard.resultCacheCapacity
    <*> .defaulted "result_cache_ttl" standard.resultCacheTtl
    <*> .defaulted "hello_cache_ttl" standard.helloCacheTtl

instance : Wire Settings where
  encode s := .ofMembers
    [("silent_workers", Wire.encode s.silentWorkers),
      ("interactive_timeout", Wire.encode s.interactiveTimeout),
      ("silent_sync_timeout", Wire.encode s.silentSyncTimeout),
      ("result_cache_capacity", Wire.encode s.resultCacheCapacity),
      ("result_cache_ttl", Wire.encode s.resultCacheTtl),
      ("hello_cache_ttl", Wire.encode s.helloCacheTtl)]
  decode := form.decode "DispatcherConfig"

end Settings

end SignOn
