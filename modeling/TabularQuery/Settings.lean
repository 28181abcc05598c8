import TabularQuery.Service.Request

/-!
# Settings

What the program needs to know to reach the service.  It is looked up under names such as
those of the environment.

## Main definitions

* `Settings.ofLookup` — the settings of a look-up.
* `SettingsFault` — why there are none.
-/

namespace TabularQuery

/-- What the program needs to know. -/
structure Settings where
  /-- Where the service is, without slashes at the end. -/
  url : String
  key : String
  schema : Option String
  /-- Which events are reported. -/
  logFilter : String
  deriving DecidableEq, Repr

/-- Why there are no settings. -/
inductive SettingsFault where
  | missingUrl
  | invalidUrl (fault : UrlFault)
  | missingKey
  deriving DecidableEq, Repr

namespace SettingsFault

/-- The wording of a fault. -/
def message : SettingsFault → String
  | missingUrl => "SUPABASE_URL is required"
  | invalidUrl _ => "Invalid SUPABASE_URL"
  | missingKey => "SUPABASE_SERVICE_KEY or SUPABASE_ANON_KEY is required"

/-- What brought the fault about, if it is known. -/
def cause? : SettingsFault → Option String
  | invalidUrl f => some f.message
  | _ => none

end SettingsFault

namespace Settings

/-- The settings that a look-up finds.  The key of the service comes before the anonymous
one, and an empty schema is none. -/
def ofLookup (lookup : String → Option String) : Except SettingsFault Settings := do
  let url ← (lookup "SUPABASE_URL").elim (.error .missingUrl) .ok
  let _ ← (Url.read url.toList).mapError .invalidUrl
  let key ←
    ((lookup "SUPABASE_SERVICE_KEY") <|> (lookup "SUPABASE_ANON_KEY")).elim
      (.error .missingKey) .ok
  .ok
    { url := String.ofList (url.toList.reverse.dropWhile (· == '/')).reverse
      key
      schema := (lookup "SUPABASE_SCHEMA").filter fun s => !s.isEmpty
      logFilter := (lookup "LOG_FILTER").getD "crm_data=info" }

/-- The connection of some settings. -/
def connection (s : Settings) : Connection :=
  { base := s.url, key := s.key, schema := s.schema }

end Settings

end TabularQuery
