/-!
The settings of a run: whether warnings stand in the way, which events are told, and how.
-/

namespace ModelLinker

/-- Settings. -/
structure Settings where
  warningsAsErrors : Bool
  logFilter : String
  logJson : Bool
deriving DecidableEq, Repr

namespace Settings

/-- What holds where no settings are made. -/
def default : Settings := ⟨false, "warn", false⟩

/-- The settings file that is read if there is one and no other is named. -/
def defaultFile : String := "schemalink.toml"

end Settings

/-- Why a text holds no settings. -/
inductive SettingsProblem where
  | unreadable
  | unknownKey (name : String)
  | repeatedKey (name : String)
  | wrongValue (name : String)
deriving DecidableEq, Repr

def SettingsProblem.message : SettingsProblem → String
  | .unreadable => "the text is not a list of settings"
  | .unknownKey name => "unknown setting " ++ name
  | .repeatedKey name => "setting " ++ name ++ " is made twice"
  | .wrongValue name => "setting " ++ name ++ " has a value of another kind"

end ModelLinker
